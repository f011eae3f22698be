import Mathlib.Data.List.TakeWhile
import WaveCache.Proofs.Window.Newest

/-!
# What an insertion does to a window

`Stored w p r` says that `r` is a right outcome of taking the packet `p` into the window `w`, with
the place of `p` given by what starts before it and what starts after it.  `stored_store` is the
only fact about `Window.store` that later proofs need: on a window in ascending order, the short way
for packets in order and the search for a place both lead to a right outcome.
-/

namespace WaveCache.Window

variable {w : Window} {p : Packet} {t : Micros}

/-! ## The two sides of a time -/

theorem before_append_notBefore (w : Window) (t : Micros) :
    w.before t ++ w.notBefore t = w.packets :=
  List.takeWhile_append_dropWhile

theorem lt_of_mem_before {q : Packet} (h : q ∈ w.before t) : q.start < t := by
  simpa using List.mem_takeWhile_imp h

/-- In ascending order nothing that follows a packet starts before it, so the first packet that does
not start before a time decides for all behind it. -/
theorem le_of_mem_notBefore (ha : Ascending w.packets) {q : Packet} (h : q ∈ w.notBefore t) :
    t ≤ q.start := by
  have hsuffix : Ascending (w.notBefore t) :=
    ha.sublist ((List.dropWhile_sublist _).map _)
  cases hn : w.notBefore t with
  | nil =>
    rw [hn] at h
    cases h
  | cons r rest =>
    have hr : t ≤ r.start := by
      have hhead := List.head?_dropWhile_not (fun q : Packet => decide (q.start < t)) w.packets
      rw [show w.packets.dropWhile _ = w.notBefore t from rfl, hn] at hhead
      simpa using hhead
    rw [hn] at h hsuffix
    rcases List.mem_cons.mp h with rfl | hq
    · exact hr
    · have hlt : r.start < q.start :=
        (List.pairwise_cons.mp hsuffix).1 _ (List.mem_map.mpr ⟨q, hq, rfl⟩)
      exact Int64.le_trans hr (Int64.le_of_lt hlt)

/-- In ascending order the newest packet decides whether all packets start before a time. -/
theorem lt_of_latest?_all (ha : Ascending w.packets) (h : w.latest?.all (· < t)) {q : Packet}
    (hq : q ∈ w.packets) : q.start < t := by
  rcases List.eq_nil_or_concat' w.packets with hnil | ⟨front, newest, hconcat⟩
  · rw [hnil] at hq
    cases hq
  · rw [latest?, hconcat] at h
    rw [hconcat] at ha hq
    have hnewest : newest.start < t := by simpa using h
    rcases List.mem_append.mp hq with hfront | hlast
    · rw [Ascending, List.map_append, List.pairwise_append] at ha
      have hlt := ha.2.2 q.start (List.mem_map.mpr ⟨q, hfront, rfl⟩) newest.start (by simp)
      exact Int64.lt_trans hlt hnewest
    · rw [List.mem_singleton.mp hlast]
      exact hnewest

/-! ## Outcomes -/

/-- The right outcomes of taking a packet into a window. -/
inductive Stored (w : Window) (p : Packet) : InsertOutcome × Window → Prop where
  | replaced {older newer : List Packet} {q : Packet}
      (hsplit : w.packets = older ++ q :: newer) (hstart : q.start = p.start) :
      Stored w p (.replaced, { w with packets := older ++ p :: newer })
  | inserted {older newer : List Packet}
      (hsplit : w.packets = older ++ newer) (holder : ∀ q ∈ older, q.start < p.start)
      (hnewer : ∀ q ∈ newer, p.start < q.start) (hroom : w.size < w.capacity) :
      Stored w p (.inserted, { w with packets := older ++ p :: newer })
  | evicting {older newer : List Packet} {oldest : Packet}
      (hsplit : w.packets = oldest :: older ++ newer)
      (holder : ∀ q ∈ oldest :: older, q.start < p.start)
      (hnewer : ∀ q ∈ newer, p.start < q.start) (hfull : w.capacity ≤ w.size) :
      Stored w p (.insertedEvicting oldest.start, { w with packets := older ++ p :: newer })
  | tooOld (hnewer : ∀ q ∈ w.packets, p.start < q.start) (hfull : w.capacity ≤ w.size) :
      Stored w p (.tooOld (w.earliest?.getD p.start), w)

theorem stored_place (ha : Ascending w.packets) (p : Packet) : Stored w p (w.place p) := by
  have hsplit := before_append_notBefore w p.start
  have holder : ∀ q ∈ w.before p.start, q.start < p.start := fun q => lt_of_mem_before
  rw [place]
  by_cases heq : (w.notBefore p.start).head?.any (·.start = p.start) = true
  · rw [if_pos heq]
    cases hn : w.notBefore p.start with
    | nil => simp [hn] at heq
    | cons q newer =>
      rw [hn] at hsplit heq
      exact .replaced hsplit.symm (by simpa using heq)
  · -- the first packet not before the start is after it, and so are all others
    have hnewer : ∀ q ∈ w.notBefore p.start, p.start < q.start := by
      cases hn : w.notBefore p.start with
      | nil => simp
      | cons r newer =>
        rw [hn] at heq hsplit
        have hr : p.start < r.start := by
          have hle : p.start ≤ r.start := le_of_mem_notBefore ha (by simp [hn])
          exact Int64.lt_of_le_of_ne hle fun h => heq (by simp [h])
        have hrest : Ascending (r :: newer) :=
          ha.sublist ((hsplit ▸ List.sublist_append_right _ _).map _)
        intro q hq
        rcases List.mem_cons.mp hq with rfl | hq
        · exact hr
        · exact Int64.lt_trans hr
            ((List.pairwise_cons.mp hrest).1 _ (List.mem_map.mpr ⟨q, hq, rfl⟩))
    rw [if_neg heq]
    by_cases hroom : w.size < w.capacity
    · rw [if_pos hroom]
      exact .inserted hsplit.symm holder hnewer hroom
    · rw [if_neg hroom]
      have hfull : w.capacity ≤ w.size := Nat.le_of_not_lt hroom
      cases hb : w.before p.start with
      | nil =>
        rw [hb, List.nil_append] at hsplit
        exact .tooOld (hsplit ▸ hnewer) hfull
      | cons oldest older =>
        rw [hb] at hsplit holder
        exact .evicting hsplit.symm holder hnewer hfull

/-- Taking a packet into a window in ascending order has a right outcome. -/
theorem stored_store (ha : Ascending w.packets) (p : Packet) : Stored w p (w.store p) := by
  rw [store, append?]
  by_cases h : (w.latest?.all (· < p.start) && decide (w.size < w.capacity)) = true
  · rw [if_pos h]
    obtain ⟨hlatest, hroom⟩ := Bool.and_eq_true_iff.mp h
    exact .inserted (List.append_nil _).symm (fun q hq => lt_of_latest?_all ha hlatest hq)
      (by simp) (of_decide_eq_true hroom)
  · rw [if_neg h]
    exact stored_place ha p

@[simp] theorem store_channel (w : Window) (p : Packet) : (w.store p).2.channel = w.channel := by
  unfold store append? place
  grind

@[simp] theorem store_capacity (w : Window) (p : Packet) :
    (w.store p).2.capacity = w.capacity := by
  unfold store append? place
  grind

/-- The first packet of a window always finds room. -/
theorem store_empty (channel : ChannelKey) (capacity : Nat) (p : Packet) :
    (empty channel capacity).store p = (.inserted, ⟨channel, max capacity 1, [p]⟩) := by
  have hroom : (empty channel capacity).size < (empty channel capacity).capacity := by
    show 0 < max capacity 1
    omega
  have hnone : (empty channel capacity).latest? = none := rfl
  rw [store, append?, hnone, if_pos (by simp [hroom])]
  rfl

end WaveCache.Window
