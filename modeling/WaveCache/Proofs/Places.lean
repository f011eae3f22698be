import Mathlib.Data.List.Basic

/-!
# Places

Subscriptions, calls and requests are known by their places in a list.  The place of one that is
over is empty, and no place is used again, so the list only grows.  What is in a place is
`(l[i]?).join`.
-/

namespace WaveCache.Places

variable {α : Type} {l : List (Option α)} {i : Nat} {a : α}

theorem join_eq_some : (l[i]?).join = some a ↔ l[i]? = some (some a) := by
  cases l[i]? with
  | none => simp
  | some found => cases found <;> simp

theorem lt_length (h : (l[i]?).join = some a) : i < l.length :=
  (List.getElem?_eq_some_iff.mp (join_eq_some.mp h)).1

theorem join_of_length_le (h : l.length ≤ i) : (l[i]?).join = none := by
  rw [List.getElem?_eq_none h]
  rfl

/-- One place is written, the others are not. -/
theorem join_set (hlt : i < l.length) (found : Option α) (j : Nat) :
    ((l.set i found)[j]?).join = if j = i then found else (l[j]?).join := by
  by_cases hj : j = i
  · subst hj
    rw [if_pos rfl, List.getElem?_set_self hlt]
    rfl
  · rw [if_neg hj, List.getElem?_set_ne (Ne.symm hj)]

theorem set_self (h : (l[i]?).join = some a) : l.set i (some a) = l := by
  obtain ⟨hlt, hget⟩ := List.getElem?_eq_some_iff.mp (join_eq_some.mp h)
  rw [← hget, List.set_getElem_self]

/-- To change what is in a place is to write it, if there is something. -/
theorem modify_eq_set (h : (l[i]?).join = some a) (f : α → α) :
    l.modify i (Option.map f) = l.set i (some (f a)) := by
  rw [List.modify_eq_set_getElem?, join_eq_some.mp h]
  rfl

theorem modify_of_none (h : (l[i]?).join = none) (f : α → α) : l.modify i (Option.map f) = l := by
  rw [List.modify_eq_set_getElem?]
  cases hget : l[i]? with
  | none => rfl
  | some found =>
    cases found with
    | none =>
      obtain ⟨hlt, hget⟩ := List.getElem?_eq_some_iff.mp hget
      show l.set i none = l
      rw [← hget, List.set_getElem_self]
    | some a =>
      rw [hget] at h
      cases h

/-- A new place is behind all others. -/
theorem join_concat (l : List (Option α)) (found : Option α) (j : Nat) :
    ((l ++ [found])[j]?).join = if j = l.length then found else (l[j]?).join := by
  by_cases hj : j = l.length
  · rw [if_pos hj, hj, List.getElem?_concat_length]
    rfl
  · rw [if_neg hj]
    rcases Nat.lt_or_gt_of_ne hj with hlt | hgt
    · rw [List.getElem?_append_left hlt]
    · rw [join_of_length_le (Nat.le_of_lt hgt), join_of_length_le]
      rw [List.length_append, List.length_singleton]
      exact hgt

theorem set_concat (l : List (Option α)) (found found' : Option α) :
    (l ++ [found]).set l.length found' = l ++ [found'] := by
  rw [List.set_append_right _ _ (Nat.le_refl _), Nat.sub_self]
  rfl

theorem modify_concat (l : List (Option α)) (a : α) (f : α → α) :
    (l ++ [some a]).modify l.length (Option.map f) = l ++ [some (f a)] := by
  rw [modify_eq_set ((join_concat l (some a) l.length).trans (if_pos rfl)), set_concat]

/-- A place that is written changes a count by what was in it and by what is in it now. -/
theorem countP_set (p : Option α → Bool) (h : (l[i]?).join = some a) (found : Option α) :
    (l.set i found).countP p + (if p (some a) then 1 else 0) =
      l.countP p + if p found then 1 else 0 := by
  obtain ⟨hlt, hget⟩ := List.getElem?_eq_some_iff.mp (join_eq_some.mp h)
  rw [List.countP_set hlt, hget]
  split
  · rename_i hp
    have hpos : 0 < l.countP p := List.countP_pos_iff.mpr ⟨some a, hget ▸ List.getElem_mem hlt, hp⟩
    omega
  · omega

end WaveCache.Places
