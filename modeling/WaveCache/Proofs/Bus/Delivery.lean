import WaveCache.Proofs.Bus.Run

/-!
# What subscriptions receive

A subscription is given frames that were published after it was made, each at most once and in the
order of publication.  Of those that it asks for it misses the ones that were overtaken: while it
had not read them yet, as many frames were published behind them as the bus retains.

`Served` says this of a subscription and a run.  `Served.keep` is the step for calls that do not
concern the subscription, `Served.receive` the step for one that lets it receive, and
`History.concat` puts them together.  `Drained` is what a closed bus comes to for a subscription
that has received everything.  `run_delivers` says what subscriptions have been given and what they
will be given.
-/

namespace WaveCache.Bus

/-- At some time during the calls a subscription had not read a position yet, and as many frames as
are retained had been published behind it. -/
def Overtaken (capacity : Nat) (calls : List BusCall) (id position : Nat) : Prop :=
  ∃ front, front <+: calls ∧ ∃ s, (after capacity front).subscription? id = some s ∧
    s.read ≤ position ∧
    (empty capacity).retention ≤ (stream (events capacity front)).length - (position + 1)

/-- What a subscription has been given in the course of calls.  It was made when `since` frames had
been published, and the frames that it was given are those at the positions. -/
structure Served (capacity : Nat) (calls : List BusCall) (id : Nat) (s : Subscription) (since : Nat)
    (positions : List Nat) : Prop where
  /-- It was made with this filter. -/
  subscribed : ∃ front back, events capacity calls =
    front ++ ⟨.subscribe s.filter, .subscribed id⟩ :: back ∧ since = (stream front).length
  since_le : since ≤ s.read
  /-- The frames came in the order of publication, each at most once. -/
  ascending : positions.Pairwise (· < ·)
  /-- They came unchanged. -/
  returned_eq : (returned id (events capacity calls)).map some =
    positions.map fun p => (stream (events capacity calls))[p]?
  accepts : ∀ frame ∈ returned id (events capacity calls), s.filter.accepts frame = true
  bounds : ∀ p ∈ positions, since ≤ p ∧ p < s.read
  /-- Of the frames that it has read past and that it asks for, it was not given those that were
  overtaken, and no others. -/
  missed : ∀ p frame, since ≤ p → p < s.read → (stream (events capacity calls))[p]? = some frame →
    s.filter.accepts frame = true → (p ∉ positions ↔ Overtaken capacity calls id p)

/-- What the events of a run say about the bus. -/
structure History (capacity : Nat) (calls : List BusCall) : Prop where
  carries : (after capacity calls).Carries (stream (events capacity calls))
  retention_eq : (after capacity calls).retention = (empty capacity).retention
  isOpen_eq : (after capacity calls).isOpen = decide (.close ∉ calls)
  subscribers_add : (after capacity calls).subscribers +
    (events capacity calls).countP BusEvent.isUnsubscribe =
      (events capacity calls).countP BusEvent.isSubscribe
  returned_eq_nil : ∀ id, (after capacity calls).subscriptions.length ≤ id →
    returned id (events capacity calls) = []
  served : ∀ id s, (after capacity calls).subscription? id = some s →
    ∃ since positions, Served capacity calls id s since positions

/-! ## Overtaken positions -/

section

variable {capacity : Nat} {calls : List BusCall} {call : BusCall} {id position : Nat}

/-- A position that has been read is not overtaken any more. -/
theorem overtaken_concat_iff {s : Subscription}
    (hs : (after capacity (calls ++ [call])).subscription? id = some s)
    (hread : position < s.read) :
    Overtaken capacity (calls ++ [call]) id position ↔ Overtaken capacity calls id position := by
  constructor
  · rintro ⟨front, hfront, t, ht, hle, hlater⟩
    rcases List.prefix_concat_iff.mp hfront with rfl | hfront
    · rw [hs] at ht
      cases ht
      omega
    · exact ⟨front, hfront, t, ht, hle, hlater⟩
  · rintro ⟨front, hfront, hs⟩
    exact ⟨front, hfront.trans (List.prefix_append calls [call]), hs⟩

/-- A frame that is retained was not overtaken. -/
theorem not_overtaken
    (hretained : (stream (events capacity calls)).length ≤ position + (empty capacity).retention) :
    ¬ Overtaken capacity calls id position := by
  rintro ⟨front, hfront, _, _, _, hlater⟩
  have hle := length_stream_le_of_prefix capacity hfront
  have hpos := (empty capacity).retention_pos
  omega

end

namespace Served

variable {capacity : Nat} {calls : List BusCall} {call : BusCall} {id since : Nat}
  {s : Subscription} {positions : List Nat}

/-- A call that gives the subscription nothing and leaves it as it is. -/
theorem keep (h : Served capacity calls id s since positions) (hhistory : History capacity calls)
    (hs : (after capacity calls).subscription? id = some s)
    (hs' : (after capacity (calls ++ [call])).subscription? id = some s)
    (hreturned : (BusEvent.mk call ((after capacity calls).perform call).1).returned? id = none) :
    Served capacity (calls ++ [call]) id s since positions := by
  have hread := hhistory.carries.read_le id s hs
  have hget {p : Nat} (hp : p < s.read) : (stream (events capacity (calls ++ [call])))[p]? =
      (stream (events capacity calls))[p]? := by
    rw [events_concat, stream_concat, List.getElem?_append_left (by omega)]
  have hnothing : returned id (events capacity (calls ++ [call])) =
      returned id (events capacity calls) := by
    rw [events_concat, returned_concat, hreturned, Option.toList_none, List.append_nil]
  obtain ⟨front, back, hsplit, hsince⟩ := h.subscribed
  exact {
    subscribed := by
      rw [events_concat, hsplit, List.append_assoc, List.cons_append]
      exact ⟨front, _, rfl, hsince⟩
    since_le := h.since_le
    ascending := h.ascending
    returned_eq := by
      rw [hnothing, h.returned_eq]
      exact List.map_congr_left fun p hp => (hget (h.bounds p hp).2).symm
    accepts := by
      rw [hnothing]
      exact h.accepts
    bounds := h.bounds
    missed := by
      intro p frame hsince hp hframe haccepts
      rw [hget hp] at hframe
      rw [h.missed p frame hsince hp hframe haccepts, overtaken_concat_iff hs' hp] }

/-- Receiving, which gives the subscription the next frame that is retained and asked for. -/
theorem receive (h : Served capacity calls id s since positions) (hhistory : History capacity calls)
    (hs : (after capacity calls).subscription? id = some s) (waits : Bool) :
    ∃ positions, Served capacity (calls ++ [.receive waits id]) id
      ((after capacity calls).receive s).2 since positions := by
  have hread := hhistory.carries.read_le id s hs
  obtain ⟨call, hcall⟩ : ∃ call, call = BusCall.receive waits id := ⟨_, rfl⟩
  have hperform : (after capacity calls).perform call =
      (.ofReception waits ((after capacity calls).receive s).1,
        { after capacity calls with
          subscriptions := (after capacity calls).subscriptions.set id
            (some ((after capacity calls).receive s).2) }) := by
    rcases (after capacity calls).perform_receive_cases waits id with ⟨hnone, _⟩ | ⟨t, ht, hperform⟩
    · exact nomatch hnone.symm.trans hs
    · cases hs.symm.trans ht
      exact hcall ▸ hperform
  rw [← hcall]
  have hs' : (after capacity (calls ++ [call])).subscription? id =
      some ((after capacity calls).receive s).2 := by
    rw [after_concat, hperform, subscription?_set _ (Places.lt_length hs), if_pos rfl]
  have hstream : stream (events capacity (calls ++ [call])) = stream (events capacity calls) := by
    rw [events_concat, stream_concat, hcall]
    exact List.append_nil _
  have hreturned : returned id (events capacity (calls ++ [call])) =
      returned id (events capacity calls) ++
        ((after capacity calls).receive s).1.toOption.join.toList := by
    rw [events_concat, returned_concat, hperform, hcall, returned?_ofReception]
  obtain ⟨front, back, hsplit, hsince⟩ := h.subscribed
  have hsubscribed : ∃ front back, events capacity (calls ++ [call]) =
      front ++ ⟨.subscribe s.filter, .subscribed id⟩ :: back ∧ since = (stream front).length := by
    rw [events_concat, hsplit, List.append_assoc, List.cons_append]
    exact ⟨front, _, rfl, hsince⟩
  -- what was read before stays as it was
  have hbefore {p : Nat} {frame : Frame} (hsince : since ≤ p) (hp : p < s.read)
      (hframe : (stream (events capacity calls))[p]? = some frame)
      (haccepts : s.filter.accepts frame = true)
      (hle : s.read ≤ ((after capacity calls).receive s).2.read) :
      p ∉ positions ↔ Overtaken capacity (calls ++ [call]) id p := by
    rw [h.missed p frame hsince hp hframe haccepts, overtaken_concat_iff hs' (by omega)]
  have hovertaken {p : Nat} (hp : s.read ≤ p)
      (hlater : p + (after capacity calls).retention < (stream (events capacity calls)).length) :
      Overtaken capacity (calls ++ [call]) id p := by
    rw [hhistory.retention_eq] at hlater
    exact ⟨calls, List.prefix_append calls [call], s, hs, hp, by omega⟩
  cases hhistory.carries.reception hread with
  | frame position frame hle hframe haccepts hretained hmissed _ hreceive =>
    rw [hreceive] at hs' hreturned hbefore ⊢
    have hnew : returned id (events capacity (calls ++ [call])) =
        returned id (events capacity calls) ++ [frame] := hreturned
    refine ⟨positions ++ [position], hsubscribed, ?_, ?_, ?_, ?_, ?_, ?_⟩
    · show since ≤ position + 1
      have hsince := h.since_le
      omega
    · refine List.pairwise_append.mpr ⟨h.ascending, List.pairwise_singleton _ _, ?_⟩
      intro p hp q hq
      have hlt := (h.bounds p hp).2
      rw [List.mem_singleton.mp hq]
      omega
    · rw [hnew, hstream, List.map_append, List.map_append, h.returned_eq, List.map_singleton,
        List.map_singleton, hframe]
    · rw [hnew]
      intro g hg
      rcases List.mem_append.mp hg with hg | hg
      · exact h.accepts g hg
      · rw [List.mem_singleton.mp hg]
        exact haccepts
    · intro p hp
      show since ≤ p ∧ p < position + 1
      rcases List.mem_append.mp hp with hp | hp
      · have hbounds := h.bounds p hp
        omega
      · have hsince := h.since_le
        rw [List.mem_singleton.mp hp]
        omega
    · intro p g hsince hp hg hasked
      rw [hstream] at hg
      rw [List.mem_append, List.mem_singleton, not_or]
      -- the position was read before, it is passed over now, or it is that of the frame
      rcases Nat.lt_or_ge p s.read with hlt | hge
      · rw [hbefore hsince hlt hg hasked (by show _ ≤ position + 1; omega)]
        exact and_iff_left (by omega)
      · have hold : p ∉ positions := fun hmem => by
          have hlt := (h.bounds p hmem).2
          omega
        rcases Nat.lt_or_ge p position with hlt | hge'
        · exact iff_of_true ⟨hold, by omega⟩ (hovertaken hge (hmissed p g hge hlt hg hasked))
        · have hp : p < position + 1 := hp
          have heq : p = position := by omega
          refine iff_of_false (fun hnot => hnot.2 heq) ?_
          refine not_overtaken ?_
          rw [hstream, heq, ← hhistory.retention_eq]
          exact hretained
  | nothing hmissed _ hreceive =>
    have hnew : returned id (events capacity (calls ++ [call])) =
        returned id (events capacity calls) := by
      rw [hreturned, hreceive]
      cases (after capacity calls).isOpen <;> exact List.append_nil _
    rw [hreceive] at hs' hbefore ⊢
    refine ⟨positions, hsubscribed, h.since_le.trans hread, h.ascending, ?_, ?_, ?_, ?_⟩
    · rw [hnew, hstream]
      exact h.returned_eq
    · rw [hnew]
      exact h.accepts
    · intro p hp
      exact ⟨(h.bounds p hp).1, Nat.lt_of_lt_of_le (h.bounds p hp).2 hread⟩
    · intro p g hsince hp hg hasked
      rw [hstream] at hg
      rcases Nat.lt_or_ge p s.read with hlt | hge
      · exact hbefore hsince hlt hg hasked hread
      · refine iff_of_true (fun hmem => ?_) (hovertaken hge (hmissed p g hge hp hg hasked))
        have hlt := (h.bounds p hmem).2
        omega

/-- A new subscription. -/
theorem subscribe (filter : TopicFilter) (hhistory : History capacity calls)
    (hopen : (after capacity calls).isOpen = true) :
    ∃ since, Served capacity (calls ++ [.subscribe filter])
      (after capacity calls).subscriptions.length ⟨filter, (after capacity calls).published⟩
      since [] := by
  have hperform : ((after capacity calls).perform (.subscribe filter)).1 =
      .subscribed (after capacity calls).subscriptions.length := by
    rw [perform, if_pos hopen]
    rfl
  have hnothing : returned (after capacity calls).subscriptions.length
      (events capacity (calls ++ [.subscribe filter])) = [] := by
    rw [events_concat, returned_concat, hhistory.returned_eq_nil _ (Nat.le_refl _)]
    rfl
  have hpublished := hhistory.carries.published_eq
  exact ⟨_, {
    subscribed := ⟨events capacity calls, [], by rw [events_concat, hperform], rfl⟩
    since_le := Nat.le_of_eq hpublished.symm
    ascending := .nil
    returned_eq := by
      rw [hnothing]
      rfl
    accepts := by
      rw [hnothing]
      exact fun _ h => absurd h List.not_mem_nil
    bounds := fun _ h => absurd h List.not_mem_nil
    missed := by
      intro p _ hsince hp
      exact absurd hp (by rw [hpublished]; exact Nat.not_lt.mpr hsince) }⟩

end Served

/-! ## The step and the run -/

/-- Where a live subscription comes from: it received, it is new, or it stays as it was. -/
theorem subscription?_perform_cases {b : Bus} {call : BusCall} {id : Nat} {t : Subscription}
    (ht : (b.perform call).2.subscription? id = some t) :
    (∃ waits s, call = .receive waits id ∧ b.subscription? id = some s ∧ t = (b.receive s).2) ∨
    (∃ filter, call = .subscribe filter ∧ b.isOpen = true ∧ id = b.subscriptions.length ∧
      t = ⟨filter, b.published⟩) ∨
    ((∀ waits, call ≠ .receive waits id) ∧ b.subscription? id = some t) := by
  cases call with
  | subscribe filter =>
    rw [perform] at ht
    split at ht
    · rename_i hopen
      have ht : (b.subscribe filter).2.subscription? id = some t := ht
      rw [subscription?_subscribe] at ht
      split_ifs at ht with hid
      · exact .inr (.inl ⟨filter, rfl, hopen, hid, (Option.some.inj ht).symm⟩)
      · exact .inr (.inr ⟨by simp, ht⟩)
    · exact .inr (.inr ⟨by simp, ht⟩)
  | publish frame =>
    refine .inr (.inr ⟨by simp, ?_⟩)
    rw [perform] at ht
    split at ht
    · exact ht
    · exact ht
  | receive waits reader =>
    rcases b.perform_receive_cases waits reader with ⟨hs, hperform⟩ | ⟨s, hs, hperform⟩
    · rw [hperform] at ht
      refine .inr (.inr ⟨?_, ht⟩)
      rintro _ ⟨⟩
      cases hs.symm.trans ht
    · rw [hperform, subscription?_set _ (Places.lt_length hs)] at ht
      split_ifs at ht with hreader
      · subst hreader
        exact .inl ⟨waits, s, rfl, hs, (Option.some.inj ht).symm⟩
      · refine .inr (.inr ⟨?_, ht⟩)
        rintro _ ⟨⟩
        exact hreader rfl
  | unsubscribe reader =>
    refine .inr (.inr ⟨by simp, ?_⟩)
    rw [perform, subscription?_unsubscribe] at ht
    split_ifs at ht
    exact ht
  | close => exact .inr (.inr ⟨by simp, ht⟩)

/-- What a call does to the number of live subscriptions, to the places and to the bus being open.
-/
theorem perform_counts (b : Bus) (call : BusCall) :
    (b.perform call).2.subscribers +
        (if (BusEvent.mk call (b.perform call).1).isUnsubscribe then 1 else 0) =
      b.subscribers + (if (BusEvent.mk call (b.perform call).1).isSubscribe then 1 else 0) ∧
    b.subscriptions.length ≤ (b.perform call).2.subscriptions.length ∧
    (b.perform call).2.isOpen = (b.isOpen && decide (call ≠ .close)) := by
  cases call with
  | subscribe filter =>
    rw [perform]
    split
    · refine ⟨?_, ?_, (Bool.and_true _).symm⟩
      · show (b.subscriptions ++ [some _]).countP Option.isSome = _
        rw [List.countP_append]
        rfl
      · show _ ≤ (b.subscriptions ++ [some _]).length
        rw [List.length_append]
        exact Nat.le_add_right _ _
    · exact ⟨rfl, Nat.le_refl _, (Bool.and_true _).symm⟩
  | publish frame =>
    rw [perform]
    split
    · exact ⟨rfl, Nat.le_refl _, (Bool.and_true _).symm⟩
    · exact ⟨rfl, Nat.le_refl _, (Bool.and_true _).symm⟩
  | receive waits reader =>
    rcases b.perform_receive_cases waits reader with ⟨_, hperform⟩ | ⟨s, hs, hperform⟩
    · rw [hperform]
      exact ⟨rfl, Nat.le_refl _, (Bool.and_true _).symm⟩
    · rw [hperform, isSubscribe_ofReception]
      refine ⟨?_, Nat.le_of_eq (List.length_set ..).symm, (Bool.and_true _).symm⟩
      exact Nat.add_right_cancel
        (Places.countP_set Option.isSome hs (some (b.receive s).2))
  | unsubscribe reader =>
    rw [perform, unsubscribe]
    cases hs : b.subscription? reader with
    | none => exact ⟨rfl, Nat.le_refl _, (Bool.and_true _).symm⟩
    | some s =>
      refine ⟨?_, Nat.le_of_eq (List.length_set ..).symm, (Bool.and_true _).symm⟩
      exact Places.countP_set Option.isSome hs none
  | close => exact ⟨rfl, Nat.le_refl _, (Bool.and_false _).symm⟩

theorem History.concat {capacity : Nat} {calls : List BusCall} (h : History capacity calls)
    (call : BusCall) : History capacity (calls ++ [call]) := by
  have hcarries := h.carries.perform call
  obtain ⟨hcount, hlength, hopen⟩ := (after capacity calls).perform_counts call
  refine ⟨?_, ?_, ?_, ?_, fun id hid => ?_, fun id t ht => ?_⟩
  · rw [after_concat, events_concat, stream_concat]
    exact hcarries.1
  · rw [after_concat, hcarries.2, h.retention_eq]
  · rw [after_concat, hopen, h.isOpen_eq]
    simp [not_or, eq_comm]
  · rw [after_concat, events_concat, List.countP_append, List.countP_append, List.countP_singleton,
      List.countP_singleton]
    have hbefore := h.subscribers_add
    omega
  · rw [after_concat] at hid
    have hid := hlength.trans hid
    have hnone : (after capacity calls).subscription? id = none := by
      rw [subscription?, List.getElem?_eq_none hid]
      rfl
    rw [events_concat, returned_concat, h.returned_eq_nil id hid, returned?_perform_of_none hnone]
    rfl
  · rw [after_concat] at ht
    rcases subscription?_perform_cases ht with
      ⟨waits, s, rfl, hs, rfl⟩ | ⟨filter, rfl, hopen, rfl, rfl⟩ | ⟨hother, hs⟩
    · obtain ⟨since, positions, hserved⟩ := h.served id s hs
      exact ⟨since, hserved.receive h hs waits⟩
    · obtain ⟨since, hserved⟩ := Served.subscribe filter h hopen
      exact ⟨since, [], hserved⟩
    · obtain ⟨since, positions, hserved⟩ := h.served id t hs
      refine ⟨since, positions, hserved.keep h hs ?_ (returned?_eq_none hother _)⟩
      rw [after_concat]
      exact ht

theorem history (capacity : Nat) (calls : List BusCall) : History capacity calls := by
  induction calls using List.reverseRecOn with
  | nil => exact ⟨.empty capacity, rfl, rfl, rfl, fun _ _ => rfl, fun id s hs => by
      simp [after, run, empty, subscription?] at hs⟩
  | append_singleton calls call ih => exact ih.concat call

/-! ## What comes next -/

section

variable {b : Bus} {frames : List Frame} {id : Nat} {s : Subscription}

/-- A subscription receives what it has been waiting for longest.  If that is nothing, it depends on
the bus being open whether there is anything to wait for. -/
theorem Carries.perform_receive (h : b.Carries frames) (hs : b.subscription? id = some s)
    (waits : Bool) :
    (∃ t, (b.perform (.receive waits id)).2.subscription? id = some t ∧ t.filter = s.filter ∧
      awaited b.retention frames t = (awaited b.retention frames s).tail) ∧
    (b.perform (.receive waits id)).1 = .ofReception waits
      (match awaited b.retention frames s with
      | frame :: _ => .ok (some frame)
      | [] => if b.isOpen then .ok none else .error .closed) := by
  rcases b.perform_receive_cases waits id with ⟨hnone, _⟩ | ⟨t, ht, hperform⟩
  · exact nomatch hnone.symm.trans hs
  · cases hs.symm.trans ht
    rw [hperform, subscription?_set _ (Places.lt_length hs), if_pos rfl]
    cases h.reception (h.read_le id s hs) with
    | frame position frame _ _ _ _ _ hawaited hreceive =>
      rw [hreceive, hawaited]
      exact ⟨⟨_, rfl, rfl, rfl⟩, rfl⟩
    | nothing _ hawaited hreceive =>
      rw [hreceive, hawaited]
      refine ⟨⟨_, rfl, rfl, ?_⟩, rfl⟩
      rw [awaited, List.drop_eq_nil_of_le (Nat.le_max_left ..)]
      rfl

/-- A closed bus and a live subscription that has received everything. -/
structure Drained (b : Bus) (frames : List Frame) (id : Nat) : Prop where
  carries : b.Carries frames
  closed : b.isOpen = false
  live : ∃ s, b.subscription? id = some s ∧ awaited b.retention frames s = []

theorem Drained.perform (h : Drained b frames id) {call : BusCall} (hend : call ≠ .unsubscribe id) :
    Drained (b.perform call).2 frames id := by
  obtain ⟨s, hs, hawaited⟩ := h.live
  have hcarries := h.carries.perform call
  have hnone : (BusEvent.mk call (b.perform call).1).published? = none := by
    cases call with
    | publish frame => simp [BusEvent.published?, Bus.perform, h.closed]
    | subscribe | receive | unsubscribe | close => rfl
  rw [hnone, Option.toList_none, List.append_nil] at hcarries
  refine ⟨hcarries.1, by rw [(b.perform_counts call).2.2, h.closed]; rfl, ?_⟩
  rw [hcarries.2]
  by_cases hreader : ∃ waits, call = .receive waits id
  · obtain ⟨waits, rfl⟩ := hreader
    obtain ⟨t, ht, _, htail⟩ := (h.carries.perform_receive hs waits).1
    exact ⟨t, ht, by rw [htail, hawaited]; rfl⟩
  · exact ⟨s, subscription?_perform hs (fun waits heq => hreader ⟨waits, heq⟩) hend, hawaited⟩

theorem Drained.run (h : Drained b frames id) {calls : List BusCall}
    (hend : .unsubscribe id ∉ calls) : Drained (b.run calls).2 frames id := by
  induction calls generalizing b with
  | nil => exact h
  | cons call calls ih =>
    rw [List.mem_cons, not_or] at hend
    exact ih (h.perform (Ne.symm hend.1)) hend.2

/-- The place of a subscription that is over stays empty, and it is given nothing. -/
theorem returned_run_of_none (hlt : id < b.subscriptions.length) (hnone : b.subscription? id = none)
    (calls : List BusCall) : returned id (b.run calls).1 = [] := by
  induction calls generalizing b with
  | nil => rfl
  | cons call calls ih =>
    have hnone' : (b.perform call).2.subscription? id = none := by
      cases ht : (b.perform call).2.subscription? id with
      | none => rfl
      | some t =>
        rcases subscription?_perform_cases ht with
          ⟨_, _, _, hs, _⟩ | ⟨_, _, _, hid, _⟩ | ⟨_, hs⟩
        · exact nomatch hnone.symm.trans hs
        · exact absurd hid (Nat.ne_of_lt hlt)
        · exact nomatch hnone.symm.trans hs
    rw [run_cons, returned, List.filterMap_cons_none (returned?_perform_of_none hnone call)]
    exact ih (hlt.trans_le (b.perform_counts call).2.1) hnone'

end

/-- What subscriptions have been given and what they will be given, after any calls of a new bus. -/
theorem run_delivers (capacity : Nat) (calls : List BusCall) :
    let b := after capacity calls
    let frames := stream (events capacity calls)
    b.retention = (max capacity 1).nextPowerOfTwo ∧
    (.close ∉ calls → ∀ frame, ∃ reached, (b.perform (.publish frame)).1 = .reached reached ∧
      reached + (events capacity calls).countP BusEvent.isUnsubscribe =
        (events capacity calls).countP BusEvent.isSubscribe) ∧
    (∀ id s, b.subscription? id = some s →
      (∃ since positions, Served capacity calls id s since positions) ∧
      (∀ call, (∀ waits, call ≠ .receive waits id) → call ≠ .unsubscribe id →
        (b.perform call).2.subscription? id = some s) ∧
      (∀ frame, awaited b.retention (frames ++ [frame]) s =
        (frames.drop (max s.read (frames.length + 1 - b.retention))).filter s.filter.accepts ++
          [frame].filter s.filter.accepts) ∧
      (∀ waits,
        (∃ t, (b.perform (.receive waits id)).2.subscription? id = some t ∧ t.filter = s.filter ∧
          awaited b.retention frames t = (awaited b.retention frames s).tail) ∧
        (b.perform (.receive waits id)).1 = .ofReception waits
          (match awaited b.retention frames s with
          | frame :: _ => .ok (some frame)
          | [] => if .close ∈ calls then .error .closed else .ok none)) ∧
      (.close ∈ calls → awaited b.retention frames s = [] → ∀ more, .unsubscribe id ∉ more →
        ∀ waits, ((after capacity (calls ++ more)).perform (.receive waits id)).1 =
          .ofReception waits (.error .closed))) ∧
    ∀ id, id < b.subscriptions.length → b.subscription? id = none → ∀ more,
      returned id (events capacity (calls ++ more)) = returned id (events capacity calls) := by
  intro b frames
  have h := history capacity calls
  refine ⟨h.retention_eq, fun hclose frame => ?_, fun id s hs =>
    ⟨h.served id s hs, ?_, fun frame => awaited_concat (h.carries.read_le id s hs)
      b.retention_pos frame, ?_, ?_⟩,
    fun id hlt hnone more => ?_⟩
  · have hopen : b.isOpen = true := h.isOpen_eq.trans (decide_eq_true hclose)
    exact ⟨b.subscribers, by rw [perform, if_pos hopen]; rfl, h.subscribers_add⟩
  · exact fun call hreader hend => subscription?_perform hs hreader hend
  · intro waits
    have hreceive := h.carries.perform_receive hs waits
    have hnothing : (if b.isOpen then .ok none else .error .closed) =
        if .close ∈ calls then Except.error SubscriptionError.closed
        else .ok (none : Option Frame) := by
      rw [h.isOpen_eq]
      simp only [decide_eq_true_eq, ite_not]
    rw [hnothing] at hreceive
    exact hreceive
  · intro hclose hawaited more hend waits
    have hdrained : Drained b frames id :=
      ⟨h.carries, h.isOpen_eq.trans (decide_eq_false (not_not_intro hclose)), s, hs, hawaited⟩
    have hdrained := hdrained.run hend
    obtain ⟨t, ht, hnothing⟩ := hdrained.live
    rw [after_append, (hdrained.carries.perform_receive ht waits).2, hnothing, hdrained.closed]
    rfl
  · rw [events_append, returned, List.filterMap_append]
    show _ ++ returned id _ = _
    rw [returned_run_of_none hlt hnone more, List.append_nil]
    rfl

end WaveCache.Bus
