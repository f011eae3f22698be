import WaveCache.Proofs.Window.Insertion

/-!
# The content of a window

A window holds the newest of all packets that were ever delivered to it.  `Retains.store` is the
step: one more delivery keeps the four facts of `Retains`, whichever way the packet is taken in.  A
start that was given up or refused never comes back, since the window is full of greater starts from
then on; that is what the fact `Retains.missing` carries.  `Window.retains_insertAll` is the run.
-/

namespace WaveCache

variable {capacity : Nat} {ps older newer : List Packet} {p q : Packet}

/-! ## A packet between others -/

theorem Ascending.between (h : Ascending (older ++ newer)) (holder : ∀ r ∈ older, r.start < p.start)
    (hnewer : ∀ r ∈ newer, p.start < r.start) : Ascending (older ++ p :: newer) := by
  unfold Ascending at h ⊢
  rw [List.map_append, List.pairwise_append] at h
  rw [List.map_append, List.map_cons, List.pairwise_append, List.pairwise_cons]
  refine ⟨h.1, ⟨?_, h.2.1⟩, ?_⟩
  · intro t ht
    obtain ⟨r, hr, rfl⟩ := List.mem_map.mp ht
    exact hnewer r hr
  · intro s hs t ht
    rcases List.mem_cons.mp ht with rfl | ht
    · obtain ⟨r, hr, rfl⟩ := List.mem_map.mp hs
      exact holder r hr
    · exact h.2.2 s hs t ht

/-- A delivery is the last with its start, and all others stay what they were. -/
theorem lastAt?_between (hlast : ∀ r ∈ older ++ newer, lastAt? ps r.start = some r)
    (hne : ∀ r ∈ older ++ newer, p.start ≠ r.start) :
    ∀ r ∈ older ++ p :: newer, lastAt? (ps ++ [p]) r.start = some r := by
  intro r hr
  rcases List.mem_cons.mp (List.perm_middle.mem_iff.mp hr) with rfl | hr
  · exact lastAt?_append_self ps r
  · rw [lastAt?_append_of_ne (hne r hr)]
    exact hlast r hr

theorem start_ne_of_between (holder : ∀ r ∈ older, r.start < p.start)
    (hnewer : ∀ r ∈ newer, p.start < r.start) : ∀ r ∈ older ++ newer, p.start ≠ r.start := by
  intro r hr heq
  rcases List.mem_append.mp hr with hr | hr
  · exact Int64.lt_irrefl (heq ▸ holder r hr)
  · exact Int64.lt_irrefl (heq ▸ hnewer r hr)

/-! ## One delivery -/

namespace Retains

/-- A packet that takes the place of another. -/
theorem replace (h : Retains capacity ps (older ++ q :: newer)) (hstart : q.start = p.start) :
    Retains capacity (ps ++ [p]) (older ++ p :: newer) := by
  have hmap : (older ++ q :: newer).map (·.start) = (older ++ p :: newer).map (·.start) := by
    simp [hstart]
  have hne : ∀ r ∈ older ++ newer, p.start ≠ r.start := by
    have hnodup := h.ascending.nodup
    rw [List.map_append, List.map_cons, List.nodup_middle, ← List.map_append] at hnodup
    intro r hr heq
    exact (List.nodup_cons.mp hnodup).1 (List.mem_map.mpr ⟨r, hr, by rw [hstart, heq]⟩)
  have hkept : p.start ∈ (older ++ p :: newer).map (·.start) := by simp
  refine ⟨?_, ?_, ?_, ?_⟩
  · unfold Ascending
    rw [← hmap]
    exact h.ascending
  · simpa using h.length_le
  · refine lastAt?_between (fun r hr => h.last r ?_) hne
    exact List.perm_middle.mem_iff.mpr (List.mem_cons_of_mem _ hr)
  · intro r hr
    rcases List.mem_append.mp hr with hr | hr
    · have hmissing := h.missing r hr
      rw [hmap] at hmissing
      simpa using hmissing
    · rw [List.mem_singleton.mp hr]
      exact Or.inl hkept

/-- A packet that is added where there is room for it. -/
theorem insert (h : Retains capacity ps (older ++ newer)) (holder : ∀ r ∈ older, r.start < p.start)
    (hnewer : ∀ r ∈ newer, p.start < r.start) (hroom : (older ++ newer).length < capacity) :
    Retains capacity (ps ++ [p]) (older ++ p :: newer) := by
  refine ⟨h.ascending.between holder hnewer, ?_,
    lastAt?_between h.last (start_ne_of_between holder hnewer), ?_⟩
  · rw [List.perm_middle.length_eq]
    exact hroom
  · intro r hr
    left
    rcases List.mem_append.mp hr with hr | hr
    · rcases h.missing r hr with hkept | ⟨hfull, _⟩
      · simp only [List.map_append, List.map_cons, List.mem_append, List.mem_cons] at hkept ⊢
        tauto
      · omega
    · rw [List.mem_singleton.mp hr]
      simp

/-- A packet for which the oldest is given up.  What was missing stays below all that is kept. -/
theorem evict {oldest : Packet} (h : Retains capacity ps (oldest :: older ++ newer))
    (holder : ∀ r ∈ oldest :: older, r.start < p.start)
    (hnewer : ∀ r ∈ newer, p.start < r.start)
    (hfull : capacity ≤ (oldest :: older ++ newer).length) :
    Retains capacity (ps ++ [p]) (older ++ p :: newer) := by
  have hcons : Ascending (oldest :: (older ++ newer)) := h.ascending
  obtain ⟨holdest, hrest⟩ := List.pairwise_cons.mp hcons
  have holder' : ∀ r ∈ older, r.start < p.start := fun r hr =>
    holder r (List.mem_cons_of_mem _ hr)
  have hlen : (older ++ p :: newer).length = capacity := by
    have hle := h.length_le
    simp only [List.length_append, List.length_cons] at hle hfull ⊢
    omega
  have hbelow : ∀ t ∈ (older ++ p :: newer).map (·.start), oldest.start < t := by
    intro t ht
    simp only [List.map_append, List.map_cons, List.mem_append, List.mem_cons] at ht
    rcases ht with ht | rfl | ht
    · exact holdest t (by simp [ht])
    · exact holder oldest List.mem_cons_self
    · exact holdest t (by simp [ht])
  refine ⟨Ascending.between hrest holder' hnewer, le_of_eq hlen, ?_, ?_⟩
  · refine lastAt?_between (fun r hr => h.last r ?_) (start_ne_of_between holder' hnewer)
    exact List.mem_cons_of_mem _ hr
  · intro r hr
    rcases List.mem_append.mp hr with hr | hr
    · rcases h.missing r hr with hkept | ⟨_, hmissing⟩
      · rw [List.cons_append, List.map_cons, List.mem_cons] at hkept
        rcases hkept with heq | hkept
        · rw [heq]
          exact Or.inr ⟨hlen, hbelow⟩
        · left
          simp only [List.map_append, List.map_cons, List.mem_append, List.mem_cons] at hkept ⊢
          tauto
      · -- a start that was missing before is below the one given up now
        refine Or.inr ⟨hlen, fun t ht => ?_⟩
        exact Int64.lt_trans (hmissing oldest.start (by simp)) (hbelow t ht)
    · rw [List.mem_singleton.mp hr]
      simp

/-- A packet that is older than everything in a full window. -/
theorem refuse {kept : List Packet} (h : Retains capacity ps kept)
    (hnewer : ∀ r ∈ kept, p.start < r.start) (hfull : capacity ≤ kept.length) :
    Retains capacity (ps ++ [p]) kept := by
  refine ⟨h.ascending, h.length_le, ?_, ?_⟩
  · intro r hr
    rw [lastAt?_append_of_ne fun heq => Int64.lt_irrefl (heq ▸ hnewer r hr)]
    exact h.last r hr
  · intro r hr
    rcases List.mem_append.mp hr with hr | hr
    · exact h.missing r hr
    · rw [List.mem_singleton.mp hr]
      refine Or.inr ⟨Nat.le_antisymm h.length_le hfull, fun t ht => ?_⟩
      obtain ⟨q, hq, rfl⟩ := List.mem_map.mp ht
      exact hnewer q hq

/-- One more delivery to a window keeps the newest. -/
theorem store {w : Window} (h : Retains w.capacity ps w.packets) (p : Packet) :
    Retains w.capacity (ps ++ [p]) (w.store p).2.packets := by
  have hstored := Window.stored_store h.ascending p
  generalize w.store p = r at hstored
  cases hstored with
  | replaced hsplit hstart =>
    rw [hsplit] at h
    exact h.replace hstart
  | inserted hsplit holder hnewer hroom =>
    rw [hsplit] at h
    exact h.insert holder hnewer (by rw [← hsplit]; exact hroom)
  | evicting hsplit holder hnewer hfull =>
    rw [hsplit] at h
    exact h.evict holder hnewer (by rw [← hsplit]; exact hfull)
  | tooOld hnewer hfull => exact h.refuse hnewer hfull

end Retains

/-! ## All deliveries -/

namespace Window

/-- Takes in packets one after another, as long as none is of another channel. -/
def insertAll (w : Window) : List Packet → Except WindowError Window
  | [] => .ok w
  | p :: ps =>
    match w.insert p with
    | .ok (_, w) => w.insertAll ps
    | .error error => .error error

theorem retains_insertAll {w : Window} {earlier : List Packet} (ps : List Packet)
    (h : Retains w.capacity earlier w.packets) (hchannel : ∀ p ∈ ps, p.channel = w.channel) :
    ∃ kept, w.insertAll ps = .ok { w with packets := kept } ∧
      Retains w.capacity (earlier ++ ps) kept := by
  induction ps generalizing w earlier with
  | nil =>
    rw [List.append_nil]
    exact ⟨w.packets, rfl, h⟩
  | cons p ps ih =>
    have hp := hchannel p List.mem_cons_self
    have hrest : ∀ q ∈ ps, q.channel = (w.store p).2.channel := by
      intro q hq
      rw [store_channel]
      exact hchannel q (List.mem_cons_of_mem p hq)
    have hstep : Retains (w.store p).2.capacity (earlier ++ [p]) (w.store p).2.packets := by
      rw [store_capacity]
      exact h.store p
    obtain ⟨kept, hrun, hkept⟩ := ih hstep hrest
    rw [store_capacity, List.append_assoc, List.singleton_append] at hkept
    refine ⟨kept, ?_, hkept⟩
    rw [insertAll, insert, if_pos hp]
    show (w.store p).2.insertAll ps = _
    rw [hrun, store_channel, store_capacity]

/-- A new window to which packets of its channel are delivered takes in all of them and holds the
newest: in ascending order, one packet for each of the greatest distinct starts, as many as there is
room for.  If packets with the same start are the same, neither the order of the deliveries matters
nor how often one is repeated. -/
theorem insertAll_empty (channel : ChannelKey) (capacity : Nat) (ps : List Packet)
    (hchannel : ∀ p ∈ ps, p.channel = channel) :
    (empty channel capacity).insertAll ps =
        .ok ⟨channel, max capacity 1, newest (max capacity 1) ps⟩ ∧
      Ascending (newest (max capacity 1) ps) ∧
      (newest (max capacity 1) ps).length = min (max capacity 1) (starts ps).length ∧
      ((∀ p ∈ ps, ∀ q ∈ ps, p.start = q.start → p = q) →
        ∀ qs, (∀ p, p ∈ qs ↔ p ∈ ps) →
          (empty channel capacity).insertAll qs = (empty channel capacity).insertAll ps) := by
  have hrun : ∀ qs : List Packet, (∀ p ∈ qs, p.channel = channel) →
      (empty channel capacity).insertAll qs =
        .ok ⟨channel, max capacity 1, newest (max capacity 1) qs⟩ := by
    intro qs hqs
    have hempty : Retains (max capacity 1) [] (empty channel capacity).packets := Retains.nil _
    obtain ⟨kept, hkept, hretains⟩ :=
      retains_insertAll (w := empty channel capacity) qs hempty hqs
    obtain rfl : kept = newest (max capacity 1) qs := hretains.eq_newest
    exact hkept
  refine ⟨hrun ps hchannel, ascending_newest _ ps, length_newest _ ps, ?_⟩
  intro huniq qs hmem
  rw [hrun ps hchannel, hrun qs fun p hp => hchannel p ((hmem p).mp hp),
    newest_congr (max capacity 1) hmem huniq]

/-- A late packet meets a full window of one. -/
theorem insertAll_empty_late :
    (∀ p ∈ [Packet.pulse default 3 ⟨0⟩ rfl, .pulse default 1 ⟨0⟩ rfl], p.channel = default) ∧
      (empty default 0).insertAll [.pulse default 3 ⟨0⟩ rfl, .pulse default 1 ⟨0⟩ rfl] =
        .ok ⟨default, 1, [.pulse default 3 ⟨0⟩ rfl]⟩ ∧
      newest 1 [.pulse default 3 ⟨0⟩ rfl, .pulse default 1 ⟨0⟩ rfl] =
        [.pulse default 3 ⟨0⟩ rfl] := by
  have hchannel : ∀ p ∈ [Packet.pulse default 3 ⟨0⟩ rfl, .pulse default 1 ⟨0⟩ rfl],
      p.channel = default := by
    simp [Packet.pulse]
  have hrun : (empty default 0).insertAll [.pulse default 3 ⟨0⟩ rfl, .pulse default 1 ⟨0⟩ rfl] =
      .ok ⟨default, 1, [.pulse default 3 ⟨0⟩ rfl]⟩ := rfl
  have hnewest := (insertAll_empty default 0 _ hchannel).1
  rw [hrun] at hnewest
  injection hnewest with hwindow
  injection hwindow with _ _ hpackets
  exact ⟨hchannel, hrun, hpackets.symm⟩

end Window

end WaveCache
