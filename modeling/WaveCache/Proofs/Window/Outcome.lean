import Mathlib.Order.Bounds.Defs
import WaveCache.Proofs.Window.Bisection
import WaveCache.Proofs.Window.Run

/-!
# Outcomes tell the truth

The outcome of an insertion says which of four things happened.  `Truthful` says when each of them
is the outcome, and what the window holds then.  `truthful_of_stored` reads it off the right
outcomes of `Stored`.

`deliver_truthful` is the result: it holds of every packet that comes to a window after any calls,
and it does not matter whether the packet took the short way, or how its place was found.
-/

namespace WaveCache

namespace Window

/-- A packet of the window starts at a time. -/
def HasStart (w : Window) (t : Micros) : Prop :=
  ∃ q ∈ w.packets, q.start = t

/-- The time is the least start of the packets of the window. -/
def IsOldest (w : Window) (t : Micros) : Prop :=
  IsLeast {s | w.HasStart s} t

end Window

/-- The outcome of a packet of the window's channel fits the window `w` before it and the window `t`
after it. -/
structure InsertOutcome.Truthful (outcome : InsertOutcome) (w : Window) (p : Packet) (t : Window) :
    Prop where
  replaced_iff : outcome = .replaced ↔ w.HasStart p.start
  /-- The packet took the place of the one with the same start. -/
  replaced : outcome = .replaced →
    t.packets = w.packets.map fun q => if q.start = p.start then p else q
  inserted_iff : outcome = .inserted ↔ ¬ w.HasStart p.start ∧ ¬ w.isFull
  inserted : outcome = .inserted → t.packets.Perm (p :: w.packets)
  insertedEvicting_iff : (∃ evicted, outcome = .insertedEvicting evicted) ↔
    ¬ w.HasStart p.start ∧ w.isFull ∧ ∃ q ∈ w.packets, q.start < p.start
  /-- The oldest packet was given up. -/
  insertedEvicting : ∀ evicted, outcome = .insertedEvicting evicted →
    w.IsOldest evicted ∧ t.packets.Perm (p :: w.packets.filter (·.start ≠ evicted))
  tooOld_iff : (∃ oldest, outcome = .tooOld oldest) ↔
    ¬ w.HasStart p.start ∧ w.isFull ∧ ∀ q ∈ w.packets, p.start < q.start
  tooOld : ∀ oldest, outcome = .tooOld oldest → w.IsOldest oldest ∧ t = w

namespace Window

variable {w t : Window} {p : Packet} {outcome : InsertOutcome}

/-! ## What a window holds -/

theorem not_hasStart_of_split {older newer : List Packet} (hsplit : w.packets = older ++ newer)
    (holder : ∀ q ∈ older, q.start < p.start) (hnewer : ∀ q ∈ newer, p.start < q.start) :
    ¬ w.HasStart p.start := by
  rintro ⟨q, hq, hstart⟩
  rw [hsplit] at hq
  exact start_ne_of_between holder hnewer q hq hstart.symm

/-- The oldest packet is the first. -/
theorem isOldest_of_cons {oldest : Packet} {rest : List Packet} (ha : Ascending w.packets)
    (hcons : w.packets = oldest :: rest) : w.IsOldest oldest.start := by
  refine ⟨⟨oldest, by simp [hcons], rfl⟩, ?_⟩
  rintro t ⟨q, hq, rfl⟩
  rw [hcons] at ha hq
  rcases List.mem_cons.mp hq with rfl | hq
  · exact Int64.le_refl _
  · exact Int64.le_of_lt ((List.pairwise_cons.mp ha).1 q.start (List.mem_map_of_mem hq))

/-- Without its first packet a window holds those that start at another time than this one. -/
theorem filter_start_ne {oldest : Packet} {rest : List Packet} (ha : Ascending (oldest :: rest)) :
    ((oldest :: rest).filter fun q => q.start ≠ oldest.start) = rest := by
  rw [List.filter_cons_of_neg (by simp), List.filter_eq_self]
  intro q hq
  have hlt := (List.pairwise_cons.mp ha).1 q.start (List.mem_map_of_mem hq)
  simpa using (Int64.ne_of_lt hlt).symm

/-- In ascending order no two packets have the same start, so only one is exchanged. -/
theorem map_start_eq {older newer : List Packet} {q : Packet}
    (ha : Ascending (older ++ q :: newer)) (hstart : q.start = p.start) :
    ((older ++ q :: newer).map fun r => if r.start = p.start then p else r) =
      older ++ p :: newer := by
  have hnodup := ha.nodup
  rw [List.map_append, List.map_cons, List.nodup_middle, ← List.map_append, List.nodup_cons,
    hstart] at hnodup
  have hkeep : ∀ rs ⊆ older ++ newer,
      (rs.map fun r => if r.start = p.start then p else r) = rs := by
    intro rs hrs
    refine (List.map_congr_left fun r hr => if_neg fun heq => ?_).trans (List.map_id rs)
    exact hnodup.1 (List.mem_map.mpr ⟨r, hrs hr, heq⟩)
  rw [List.map_append, List.map_cons, hkeep older (by simp), hkeep newer (by simp), if_pos hstart]

/-! ## Outcomes -/

theorem isFull_iff (hle : w.size ≤ w.capacity) : w.isFull = true ↔ w.capacity ≤ w.size := by
  rw [isFull, decide_eq_true_eq]
  omega

/-- Each of the right outcomes excludes what the other three need. -/
theorem truthful_of_stored (ha : Ascending w.packets) (hle : w.size ≤ w.capacity)
    (hpos : 0 < w.capacity) (h : Stored w p (outcome, t)) : outcome.Truthful w p t := by
  cases h with
  | @replaced older newer q hsplit hstart =>
    have hknown : w.HasStart p.start := ⟨q, by simp [hsplit], hstart⟩
    have hmap := map_start_eq (hsplit ▸ ha) hstart
    rw [← hsplit] at hmap
    exact {
      replaced_iff := by simp [hknown]
      replaced := fun _ => hmap.symm
      inserted_iff := by simp [hknown]
      inserted := nofun
      insertedEvicting_iff := by simp [hknown]
      insertedEvicting := nofun
      tooOld_iff := by simp [hknown]
      tooOld := nofun }
  | @inserted older newer hsplit holder hnewer hroom =>
    have hunknown := not_hasStart_of_split hsplit holder hnewer
    have hnotFull : ¬ w.isFull = true := by
      rw [isFull_iff hle]
      omega
    exact {
      replaced_iff := by simp [hunknown]
      replaced := nofun
      inserted_iff := by simp [hunknown, hnotFull]
      inserted := fun _ => hsplit ▸ List.perm_middle
      insertedEvicting_iff := by simp [hnotFull]
      insertedEvicting := nofun
      tooOld_iff := by simp [hnotFull]
      tooOld := nofun }
  | @evicting older newer oldest hsplit holder hnewer hfull =>
    have hunknown := not_hasStart_of_split hsplit holder hnewer
    have hisFull := (isFull_iff hle).mpr hfull
    have habove : ∃ q ∈ w.packets, q.start < p.start :=
      ⟨oldest, by simp [hsplit], holder oldest List.mem_cons_self⟩
    have hnotBelow : ¬ ∀ q ∈ w.packets, p.start < q.start := by
      intro hbelow
      obtain ⟨q, hq, hlt⟩ := habove
      exact Int64.lt_asymm hlt (hbelow q hq)
    have hcons := ha
    rw [hsplit, List.cons_append] at hcons
    have hrest := filter_start_ne hcons
    rw [← List.cons_append, ← hsplit] at hrest
    exact {
      replaced_iff := by simp [hunknown]
      replaced := nofun
      inserted_iff := by simp [hisFull]
      inserted := nofun
      insertedEvicting_iff := ⟨fun _ => ⟨hunknown, hisFull, habove⟩, fun _ => ⟨_, rfl⟩⟩
      insertedEvicting := by
        rintro _ ⟨⟩
        refine ⟨isOldest_of_cons ha hsplit, ?_⟩
        rw [hrest]
        exact List.perm_middle
      tooOld_iff := ⟨nofun, fun h => absurd h.2.2 hnotBelow⟩
      tooOld := nofun }
  | tooOld hnewer hfull =>
    have hunknown : ¬ w.HasStart p.start :=
      not_hasStart_of_split (List.nil_append _).symm nofun hnewer
    have hisFull := (isFull_iff hle).mpr hfull
    have hnotAbove : ¬ ∃ q ∈ w.packets, q.start < p.start := by
      rintro ⟨q, hq, hlt⟩
      exact Int64.lt_asymm hlt (hnewer q hq)
    exact {
      replaced_iff := by simp [hunknown]
      replaced := nofun
      inserted_iff := by simp [hisFull]
      inserted := nofun
      insertedEvicting_iff := ⟨nofun, fun h => absurd h.2.2 hnotAbove⟩
      insertedEvicting := nofun
      tooOld_iff := ⟨fun _ => ⟨hunknown, hisFull, hnewer⟩, fun _ => ⟨_, rfl⟩⟩
      tooOld := by
        rintro _ ⟨⟩
        refine ⟨?_, rfl⟩
        -- a full window has a first packet
        cases hpackets : w.packets with
        | nil =>
          rw [size, hpackets, List.length_nil] at hfull
          omega
        | cons oldest rest =>
          rw [earliest?, hpackets]
          exact isOldest_of_cons ha hpackets }

/-! ## The short way -/

/-- The short way is open only to packets that are put there by `place` as well. -/
theorem place_of_append? (ha : Ascending w.packets) (h : w.append? p = some t) :
    w.place p = (.inserted, t) := by
  rw [append?, Option.ite_none_right_eq_some, Bool.and_eq_true_iff, decide_eq_true_eq] at h
  obtain ⟨⟨hlatest, hroom⟩, ht⟩ := h
  have hall : ∀ q ∈ w.packets, decide (q.start < p.start) = true := fun q hq =>
    decide_eq_true (lt_of_latest?_all ha hlatest hq)
  have hbefore : w.before p.start = w.packets := List.takeWhile_eq_self_iff.mpr hall
  have hnone : w.notBefore p.start = [] := List.dropWhile_eq_nil_iff.mpr hall
  rw [place, hbefore, hnone, if_neg (by simp), if_pos hroom, Option.some.inj ht]

theorem store_eq_place (ha : Ascending w.packets) (p : Packet) : w.store p = w.place p := by
  rw [store]
  cases h : w.append? p with
  | none => rfl
  | some t => exact (place_of_append? ha h).symm

/-- A packet that comes to a window after any calls is refused if it is of another channel, and then
nothing changes.  Else the outcome fits what happened, and it is the outcome and the content to
which the search for a place leads, whether or not the short way was open.  The packets are in
ascending order in any case, and no more than there is room for. -/
theorem deliver_truthful (channel : ChannelKey) (capacity : Nat) (calls : List WindowCall)
    (p : Packet) :
    let w := (empty channel capacity).after calls
    let result := (w.deliver p).1
    let t := (w.deliver p).2
    (p.channel ≠ channel → result = .error (.channelMismatch channel p.channel) ∧ t = w) ∧
    (p.channel = channel → ∃ outcome, result = .ok outcome ∧ outcome.Truthful w p t ∧
      w.place p = (outcome, t) ∧ w.placeAt p = (outcome, t) ∧
      ∀ t', w.append? p = some t' → outcome = .inserted ∧ t = t') ∧
    t.channel = channel ∧ t.capacity = max capacity 1 ∧
    Ascending t.packets ∧ t.size ≤ max capacity 1 := by
  intro w result t
  have h : w.Ordered channel capacity := (Ordered.empty channel capacity).after calls
  have hnext : t.Ordered channel capacity := h.deliver p
  have hsize := hnext.size_le
  rw [hnext.capacity_eq] at hsize
  refine ⟨?_, ?_, hnext.channel_eq, hnext.capacity_eq, hnext.ascending, hsize⟩
  · intro hne
    rw [← h.channel_eq] at hne ⊢
    have hrefused := deliver_of_channel_ne hne
    exact ⟨congrArg Prod.fst hrefused, congrArg Prod.snd hrefused⟩
  · intro heq
    rw [← h.channel_eq] at heq
    have hstored := deliver_of_channel_eq heq
    have hresult : result = .ok (w.store p).1 := congrArg Prod.fst hstored
    have ht : t = (w.store p).2 := congrArg Prod.snd hstored
    have hpos : 0 < w.capacity := by
      rw [h.capacity_eq]
      omega
    rw [hresult, ht]
    refine ⟨_, rfl, truthful_of_stored h.ascending h.size_le hpos (stored_store h.ascending p),
      (store_eq_place h.ascending p).symm, ?_, fun t' hshort => ?_⟩
    · rw [placeAt_eq_place h.ascending, store_eq_place h.ascending]
    · rw [store_eq_place h.ascending, place_of_append? h.ascending hshort]
      exact ⟨rfl, rfl⟩

/-- Between two packets of a full window, and before both of them. -/
example :
    let key : ChannelKey := ⟨"IU", "ANMO", "BHZ", "00"⟩
    let pulse (start : Micros) : Packet := .pulse key start ⟨0⟩ rfl
    let w := (empty key 2).after [.insert (pulse 1), .insert (pulse 5)]
    (w.deliver (pulse 3)).1 = .ok (.insertedEvicting 1) ∧
      (w.deliver (pulse 3)).2.packets = [pulse 3, pulse 5] ∧
      (w.deliver (pulse 0)).1 = .ok (.tooOld 1) := by
  decide +kernel

end Window

end WaveCache
