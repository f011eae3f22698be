/-!
# Splitting text at a separator

`split` cuts a text at every separator and `join` puts the pieces together again.  A text has one
piece more than it has separators (`length_split`), and no piece holds one (`not_mem_of_mem_split`).
`join_split` says that nothing is lost, and `split_join` that the pieces come back as long as none
of them holds the separator.
-/

namespace WaveCache.Text

/-- The pieces between the separators, in order.  There is always at least one, perhaps empty. -/
def split (separator : Char) : List Char → List (List Char)
  | [] => [[]]
  | c :: cs =>
    if c = separator then [] :: split separator cs
    else match split separator cs with
      | piece :: pieces => (c :: piece) :: pieces
      | [] => [[c]]

/-- The pieces with one separator between each two. -/
def join (separator : Char) : List (List Char) → List Char
  | [] => []
  | [piece] => piece
  | piece :: pieces => piece ++ separator :: join separator pieces

/-! ## Facts -/

theorem split_ne_nil (separator : Char) (cs : List Char) : split separator cs ≠ [] := by
  cases cs with
  | nil => simp [split]
  | cons c cs =>
    rw [split]
    split
    case isTrue => simp
    case isFalse => split <;> simp

theorem join_split (separator : Char) (cs : List Char) :
    join separator (split separator cs) = cs := by
  induction cs with
  | nil => rfl
  | cons c cs ih =>
    rw [split]
    cases h : split separator cs with
    | nil => exact absurd h (split_ne_nil separator cs)
    | cons piece pieces =>
      rw [h] at ih
      by_cases hc : c = separator
      · subst hc
        simp [join, ih]
      · cases pieces <;> simp_all [join]

theorem split_of_ne {separator c : Char} (hc : c ≠ separator) {cs piece : List Char}
    {pieces : List (List Char)} (h : split separator cs = piece :: pieces) :
    split separator (c :: cs) = (c :: piece) :: pieces := by
  rw [split, if_neg hc, h]

theorem length_split (separator : Char) (cs : List Char) :
    (split separator cs).length = cs.count separator + 1 := by
  induction cs with
  | nil => rfl
  | cons c cs ih =>
    by_cases hc : c = separator
    · rw [split, if_pos hc, hc, List.count_cons_self, List.length_cons, ih]
    · obtain ⟨piece, pieces, h⟩ := List.exists_cons_of_ne_nil (split_ne_nil separator cs)
      rw [h] at ih
      rw [split_of_ne hc h, List.count_cons_of_ne hc]
      exact ih

theorem not_mem_of_mem_split {separator : Char} {cs piece : List Char}
    (h : piece ∈ split separator cs) : separator ∉ piece := by
  induction cs generalizing piece with
  | nil =>
    rw [split, List.mem_singleton] at h
    simp [h]
  | cons c cs ih =>
    by_cases hc : c = separator
    · rw [split, if_pos hc] at h
      rcases List.mem_cons.mp h with rfl | hrest
      · exact List.not_mem_nil
      · exact ih hrest
    · obtain ⟨first, pieces, hsplit⟩ := List.exists_cons_of_ne_nil (split_ne_nil separator cs)
      rw [hsplit] at ih
      rw [split_of_ne hc hsplit] at h
      rcases List.mem_cons.mp h with rfl | hrest
      · -- the character that goes in front of the first piece is not a separator
        intro hmem
        rcases List.mem_cons.mp hmem with heq | hmem
        · exact hc heq.symm
        · exact ih List.mem_cons_self hmem
      · exact ih (List.mem_cons_of_mem first hrest)

theorem split_of_not_mem {separator : Char} {cs : List Char} (h : separator ∉ cs) :
    split separator cs = [cs] := by
  induction cs with
  | nil => rfl
  | cons c cs ih =>
    have hc : c ≠ separator := fun hc => h (hc ▸ List.mem_cons_self)
    rw [split, if_neg hc, ih (fun hcs => h (List.mem_cons_of_mem c hcs))]

theorem split_append {separator : Char} {piece : List Char} (h : separator ∉ piece)
    (cs : List Char) :
    split separator (piece ++ separator :: cs) = piece :: split separator cs := by
  induction piece with
  | nil => simp [split]
  | cons c piece ih =>
    have hc : c ≠ separator := fun hc => h (hc ▸ List.mem_cons_self)
    rw [List.cons_append, split, if_neg hc, ih (fun hp => h (List.mem_cons_of_mem c hp))]

theorem split_join {separator : Char} {pieces : List (List Char)} (hne : pieces ≠ [])
    (h : ∀ piece ∈ pieces, separator ∉ piece) :
    split separator (join separator pieces) = pieces := by
  induction pieces with
  | nil => exact absurd rfl hne
  | cons piece pieces ih =>
    have hp := h piece List.mem_cons_self
    cases pieces with
    | nil => exact split_of_not_mem hp
    | cons next pieces =>
      rw [join, split_append hp, ih (by simp) fun q hq => h q (List.mem_cons_of_mem piece hq)]
      simp

end WaveCache.Text
