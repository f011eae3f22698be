import WaveCache.Proofs.Window.Insertion

/-!
# Finding a place by halving

`place` and `query` go through the packets of a window one by one until they have found a place.
The place can be found by halving as well: `bisect` gives the number of packets that satisfy a
condition, as long as these are the ones in front.

`placeAt` is insertion at a position that was found so, and `queryUpTo` a query of the packets up to
such a position.  On a window in ascending order they do what `place` and `query` do, which
`placeAt_eq_place` and `queryUpTo_eq_query` say.
-/

namespace WaveCache

variable {ps front back : List Packet} {p : Packet} {holds : Packet → Bool}

/-! ## Halving -/

/-- The first position from `low` on, and before `high`, whose packet does not satisfy a condition,
found by halving. -/
def bisect (holds : Packet → Bool) (ps : List Packet) (low high : Nat) : Nat :=
  if low < high then
    let middle := low + (high - low) / 2
    if ps[middle]?.any holds then bisect holds ps (middle + 1) high
    else bisect holds ps low middle
  else low
termination_by high - low

/-- A packet satisfies the condition if it is one of those in front. -/
theorem any_getElem?_append (hfront : ∀ q ∈ front, holds q = true)
    (hback : ∀ q ∈ back, holds q = false) (i : Nat) :
    (front ++ back)[i]?.any holds = decide (i < front.length) := by
  by_cases hi : i < front.length
  · rw [List.getElem?_append_left hi, List.getElem?_eq_getElem hi]
    simpa [hi] using hfront _ (List.getElem_mem hi)
  · rw [List.getElem?_append_right (by omega)]
    cases hq : back[i - front.length]? with
    | none => simp [hi]
    | some q => simpa [hi] using hback q (List.mem_of_getElem? hq)

/-- The number of packets in front is between the two ends at every step. -/
theorem bisect_append (hfront : ∀ q ∈ front, holds q = true)
    (hback : ∀ q ∈ back, holds q = false) {low high : Nat} (hlow : low ≤ front.length)
    (hhigh : front.length ≤ high) : bisect holds (front ++ back) low high = front.length := by
  fun_induction bisect holds (front ++ back) low high with
  | case1 low high hlt middle hmiddle ih =>
    rw [any_getElem?_append hfront hback, decide_eq_true_eq] at hmiddle
    exact ih (by omega) hhigh
  | case2 low high hlt middle hmiddle ih =>
    rw [any_getElem?_append hfront hback, decide_eq_true_eq] at hmiddle
    exact ih hlow (by omega)
  | case3 low high hge => omega

/-- If a packet satisfies the condition whenever a later one does, none that is left when the
packets in front are dropped satisfies it. -/
theorem eq_false_of_mem_dropWhile (ha : Ascending ps)
    (hearlier : ∀ p q : Packet, p.start < q.start → holds q = true → holds p = true) :
    ∀ q ∈ ps.dropWhile holds, holds q = false := by
  induction ps with
  | nil => simp
  | cons p ps ih =>
    obtain ⟨hlater, hrest⟩ := List.pairwise_cons.mp ha
    by_cases hp : holds p = true
    · rw [List.dropWhile_cons_of_pos hp]
      exact ih hrest
    · rw [List.dropWhile_cons_of_neg hp]
      intro q hq
      apply Bool.eq_false_of_not_eq_true
      intro hholds
      rcases List.mem_cons.mp hq with rfl | hq
      · exact hp hholds
      · exact hp (hearlier p q (hlater q.start (List.mem_map_of_mem hq)) hholds)

theorem bisect_eq_length_takeWhile (ha : Ascending ps)
    (hearlier : ∀ p q : Packet, p.start < q.start → holds q = true → holds p = true) :
    bisect holds ps 0 ps.length = (ps.takeWhile holds).length := by
  have hsplit := List.takeWhile_append_dropWhile (p := holds) (l := ps)
  have hfront : ∀ q ∈ ps.takeWhile holds, holds q = true := fun q => List.mem_takeWhile_imp
  have hle := (List.takeWhile_sublist holds (l := ps)).length_le
  have hbisect := bisect_append hfront (eq_false_of_mem_dropWhile ha hearlier)
    (Nat.zero_le _) hle
  rw [hsplit] at hbisect
  exact hbisect

/-- What is put at the position behind some elements stands between these and the others. -/
theorem insertIdx_length_append {α : Type} (front back : List α) (a : α) :
    (front ++ back).insertIdx front.length a = front ++ a :: back := by
  induction front with
  | nil => rfl
  | cons b front ih =>
    rw [List.cons_append, List.length_cons, List.insertIdx_succ_cons, ih, List.cons_append]

namespace Window

variable {w : Window}

/-! ## Insertion -/

/-- The number of packets that start before a time, found by halving. -/
def position (w : Window) (t : Micros) : Nat :=
  bisect (fun q => q.start < t) w.packets 0 w.packets.length

/-- As `place`, with a position.  Once the oldest packet is gone, the position is one less. -/
def placeAt (w : Window) (p : Packet) : InsertOutcome × Window :=
  let i := w.position p.start
  if w.packets[i]?.any (·.start = p.start) then
    (.replaced, { w with packets := w.packets.set i p })
  else if w.size < w.capacity then
    (.inserted, { w with packets := w.packets.insertIdx i p })
  else if i = 0 then (.tooOld (w.earliest?.getD p.start), w)
  else
    (.insertedEvicting (w.earliest?.getD p.start),
      { w with packets := w.packets.tail.insertIdx (i - 1) p })

theorem position_eq (ha : Ascending w.packets) (t : Micros) :
    w.position t = (w.before t).length := by
  refine bisect_eq_length_takeWhile ha ?_
  intro p q hlt hq
  rw [decide_eq_true_eq] at hq ⊢
  exact Int64.lt_trans hlt hq

/-- On a window in ascending order the two ways to find a place lead to the same one. -/
theorem placeAt_eq_place (ha : Ascending w.packets) (p : Packet) : w.placeAt p = w.place p := by
  have hsplit := w.before_append_notBefore p.start
  unfold placeAt place
  simp only [position_eq ha]
  generalize w.before p.start = older at hsplit ⊢
  generalize w.notBefore p.start = newer at hsplit ⊢
  have hhead : w.packets[older.length]? = newer.head? := by
    rw [← hsplit, List.getElem?_append_right (Nat.le_refl _), Nat.sub_self, List.head?_eq_getElem?]
  rw [hhead]
  split_ifs with hknown hroom hnil
  · cases newer with
    | nil => simp at hknown
    | cons q newer =>
      rw [← hsplit, List.set_append_right _ _ (Nat.le_refl _), Nat.sub_self, List.set_cons_zero,
        List.tail_cons]
  · rw [← hsplit, insertIdx_length_append]
  · rw [List.length_eq_zero_iff.mp hnil]
  · cases older with
    | nil => simp at hnil
    | cons oldest older =>
      rw [earliest?, ← hsplit, List.cons_append, List.tail_cons, List.length_cons,
        Nat.add_sub_cancel, insertIdx_length_append]
      rfl

/-! ## Queries -/

/-- As `query`, with the number of packets that do not start too late. -/
def queryUpTo (w : Window) (t₀ t₁ : Micros) : List Packet :=
  if t₁ < t₀ then []
  else
    let i := bisect (fun p => p.start ≤ t₁) w.packets 0 w.packets.length
    (w.packets.take i).filter fun p => t₀ ≤ p.finish

/-- On a window in ascending order the first packet that starts too late can be found by halving. -/
theorem queryUpTo_eq_query (ha : Ascending w.packets) (t₀ t₁ : Micros) :
    w.queryUpTo t₀ t₁ = w.query t₀ t₁ := by
  have hcount : bisect (fun p => p.start ≤ t₁) w.packets 0 w.packets.length =
      (w.packets.takeWhile fun p => p.start ≤ t₁).length := by
    refine bisect_eq_length_takeWhile ha ?_
    intro p q hlt hq
    rw [decide_eq_true_eq] at hq ⊢
    exact Int64.le_of_lt (Int64.lt_of_lt_of_le hlt hq)
  have htake := List.prefix_iff_eq_take.mp (w.packets.takeWhile_prefix fun p => p.start ≤ t₁)
  unfold queryUpTo query
  simp only [hcount, ← htake]

end Window

end WaveCache
