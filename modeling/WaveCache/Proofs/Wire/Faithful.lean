import Mathlib.Algebra.Order.BigOperators.Group.List
import Mathlib.Algebra.Order.Group.Nat
import WaveCache.Proofs.Wire.Binary
import WaveCache.Proofs.Wire.Checked
import WaveCache.Wire.Choice
import WaveCache.Wire.Record

/-!
# Forms that read back what they wrote

A form is `Faithful` if it knows how many bytes it writes and reads a value back from them, whatever
stands behind.  The forms of numbers and texts are, and each way of making a form from others keeps
it.  A length in front of a text or a list has to fit eight bytes, which it does as soon as the size
of the whole value does: an element takes a byte at least, so there are no more elements than bytes.
-/

namespace WaveCache.Wire

/-- A form that reads back from bytes what it wrote. -/
structure Form.Faithful {α : Type} (form : Form α) : Prop where
  length_toBinary : ∀ a, (form.toBinary a).length = form.size a
  size_pos : ∀ a, 0 < form.size a
  ofBinary_append : ∀ a, form.size a < 2 ^ 64 → ∀ rest,
    form.ofBinary (form.toBinary a ++ rest) = .ok (a, rest)

/-- The same for the fields of a record, of which there may be none. -/
structure Fields.Faithful {α : Type} (fields : Fields α) : Prop where
  length_toBinary : ∀ a, (fields.toBinary a).length = fields.size a
  ofBinary_append : ∀ a, fields.size a < 2 ^ 64 → ∀ rest,
    fields.ofBinary (fields.toBinary a ++ rest) = .ok (a, rest)

/-- The same for the variants of a choice, by their numbers. -/
structure Variants.Faithful {α : Type} (variants : Variants α) : Prop where
  length_toBinary : ∀ a, (variants.toBinary a).length = variants.size a
  tag_lt : ∀ a, variants.tag a < variants.names.length
  ofBinary_append : ∀ a, variants.size a < 2 ^ 64 → ∀ rest,
    variants.ofBinary (variants.tag a) (variants.toBinary a ++ rest) = some (.ok (a, rest))

/-! ## Numbers and texts -/

namespace Form

theorem faithful_natural (name : String) : (natural name).Faithful where
  length_toBinary n := Binary.length_bytesOfNat 8 n.toNat
  size_pos _ := Nat.succ_pos 7
  ofBinary_append n _ rest := by
    simp only [natural, Binary.readNat_word]
    show Except.ok (UInt64.ofNat n.toNat, rest) = .ok (n, rest)
    rw [UInt64.ofNat_toNat]

theorem faithful_time : time.Faithful where
  length_toBinary t := Binary.length_bytesOfNat 8 t.toUInt64.toNat
  size_pos _ := Nat.succ_pos 7
  ofBinary_append t _ rest := by
    simp only [time, Binary.readNat_word]
    show Except.ok ((UInt64.ofNat t.toUInt64.toNat).toInt64, rest) = .ok (t, rest)
    rw [UInt64.ofNat_toNat, Int64.toInt64_toUInt64]

/-- All 64 bits come back, those of a zero with a sign or of a NaN as well. -/
theorem faithful_double : double.Faithful where
  length_toBinary x := Binary.length_bytesOfNat 8 x.bits.toNat
  size_pos _ := Nat.succ_pos 7
  ofBinary_append x _ rest := by
    simp only [double, Binary.readNat_word]
    show Except.ok (⟨UInt64.ofNat x.bits.toNat⟩, rest) = .ok (x, rest)
    rw [UInt64.ofNat_toNat]

theorem faithful_text : text.Faithful where
  length_toBinary s := Binary.length_bytesOfText s
  size_pos s := by
    show 0 < 8 + s.utf8ByteSize
    omega
  ofBinary_append s hsize rest := by
    have hbound : s.utf8ByteSize < 2 ^ 64 := by
      have hle : 8 + s.utf8ByteSize < 2 ^ 64 := hsize
      omega
    exact Binary.readText_append hbound rest

/-! ## Lists -/

theorem size_list {α : Type} (form : Form α) (as : List α) :
    (list form).size as = 8 + (as.map form.size).sum := by
  have hfold : ∀ n, as.foldl (fun n a => n + form.size a) n = n + (as.map form.size).sum := by
    induction as with
    | nil => simp
    | cons a as ih =>
      intro n
      rw [List.foldl_cons, ih, List.map_cons, List.sum_cons, Nat.add_assoc]
  exact hfold 8

namespace Faithful

variable {α β : Type} {form : Form α}

theorem list (h : form.Faithful) : (list form).Faithful where
  length_toBinary as := by
    show (Binary.bytesOfNat 8 as.length ++ as.flatMap form.toBinary).length = _
    rw [List.length_append, Binary.length_bytesOfNat, List.length_flatMap, size_list,
      List.map_congr_left fun a _ => h.length_toBinary a]
  size_pos as := by
    rw [size_list]
    omega
  ofBinary_append as hsize rest := by
    rw [size_list] at hsize
    -- each element takes a byte at least, so their number fits where their size does
    have hlength : as.length < 256 ^ 8 := by
      have hpos : ∀ n ∈ as.map form.size, 1 ≤ n := by
        intro n hn
        obtain ⟨a, _, rfl⟩ := List.mem_map.mp hn
        exact h.size_pos a
      have hle := List.length_le_sum_of_one_le (as.map form.size) hpos
      rw [List.length_map] at hle
      omega
    have helement : ∀ a ∈ as, ∀ rest, form.ofBinary (form.toBinary a ++ rest) = .ok (a, rest) := by
      intro a ha rest
      have hle := List.le_sum_of_mem (List.mem_map_of_mem (f := form.size) ha)
      exact h.ofBinary_append a (by omega) rest
    have hread := Binary.readNat_append hlength (as.flatMap form.toBinary ++ rest)
    rw [← List.append_assoc] at hread
    simp only [Form.list, hread]
    exact Binary.readMany_append helement [] rest

/-! ## Other types -/

theorem via {form : Form β} (h : form.Faithful) {unwrap : α → β} {wrap : β → α}
    (hwrap : ∀ a, wrap (unwrap a) = a) : (form.via unwrap wrap).Faithful where
  length_toBinary a := h.length_toBinary (unwrap a)
  size_pos a := h.size_pos (unwrap a)
  ofBinary_append a hsize rest := by
    simp only [Form.via, h.ofBinary_append (unwrap a) hsize rest]
    show Except.ok (wrap (unwrap a), rest) = .ok (a, rest)
    rw [hwrap]

theorem checked {written form : Form β} (h : form.Faithful) (hwritten : written.WriteAlike form)
    {unwrap : α → β} {wrap : β → Except PacketError α} (hwrap : ∀ a, wrap (unwrap a) = .ok a) :
    (written.checked form unwrap wrap).Faithful where
  length_toBinary a := by
    show (written.toBinary (unwrap a)).length = written.size (unwrap a)
    rw [hwritten.toBinary_eq, hwritten.size_eq]
    exact h.length_toBinary (unwrap a)
  size_pos a := by
    show 0 < written.size (unwrap a)
    rw [hwritten.size_eq]
    exact h.size_pos (unwrap a)
  ofBinary_append a hsize rest := by
    have hbound : written.size (unwrap a) < 2 ^ 64 := hsize
    rw [hwritten.size_eq] at hbound
    show (written.checked form unwrap wrap).ofBinary (written.toBinary (unwrap a) ++ rest) = _
    rw [hwritten.toBinary_eq]
    exact ofBinary_checked_eq_ok_iff.mpr
      ⟨unwrap a, h.ofBinary_append (unwrap a) hbound rest, hwrap a⟩

end Faithful

end Form

/-! ## Records -/

namespace Fields.Faithful

variable {α β : Type} {name : String} {form : Form α} {rest : Fields β}

theorem nil : Fields.nil.Faithful where
  length_toBinary _ := rfl
  ofBinary_append _ _ _ := rfl

theorem field (h : form.Faithful) (hrest : rest.Faithful) :
    (Fields.field name form rest).Faithful where
  length_toBinary := by
    rintro ⟨a, b⟩
    show (form.toBinary a ++ rest.toBinary b).length = form.size a + rest.size b
    rw [List.length_append, h.length_toBinary, hrest.length_toBinary]
  ofBinary_append := by
    rintro ⟨a, b⟩ hsize bs
    have hbound : form.size a + rest.size b < 2 ^ 64 := hsize
    have hfirst := h.ofBinary_append a (by omega) (rest.toBinary b ++ bs)
    have hothers := hrest.ofBinary_append b (by omega) bs
    rw [← List.append_assoc] at hfirst
    rw [Fields.toBinary, Fields.ofBinary, hfirst]
    simp only [bind, Except.bind, hothers]
    rfl

end Fields.Faithful

theorem Form.Faithful.record {α β : Type} {name field : String} {form : Form α} {rest : Fields β}
    (h : form.Faithful) (hrest : rest.Faithful) :
    (Form.record name (.field field form rest)).Faithful where
  length_toBinary := (Fields.Faithful.field h hrest).length_toBinary
  size_pos := by
    rintro ⟨a, b⟩
    have hpos := h.size_pos a
    show 0 < form.size a + rest.size b
    omega
  ofBinary_append := (Fields.Faithful.field h hrest).ofBinary_append

/-! ## Choices -/

namespace Variants.Faithful

variable {α β : Type} {name : String} {form : Form α} {rest : Variants β}

theorem nil : Variants.nil.Faithful where
  length_toBinary a := nomatch a
  tag_lt a := nomatch a
  ofBinary_append a := nomatch a

theorem bare (hrest : rest.Faithful) : (Variants.bare name rest).Faithful where
  length_toBinary := by
    rintro (⟨⟩ | b)
    · rfl
    · exact hrest.length_toBinary b
  tag_lt := by
    rintro (⟨⟩ | b)
    · exact Nat.succ_pos _
    · exact Nat.succ_lt_succ (hrest.tag_lt b)
  ofBinary_append := by
    rintro (⟨⟩ | b) hsize bs
    · rfl
    · rw [tag, toBinary, ofBinary, hrest.ofBinary_append b hsize bs]
      rfl

theorem data (h : form.Faithful) (hrest : rest.Faithful) :
    (Variants.data name form rest).Faithful where
  length_toBinary := by
    rintro (a | b)
    · exact h.length_toBinary a
    · exact hrest.length_toBinary b
  tag_lt := by
    rintro (a | b)
    · exact Nat.succ_pos _
    · exact Nat.succ_lt_succ (hrest.tag_lt b)
  ofBinary_append := by
    rintro (a | b) hsize bs
    · rw [tag, toBinary, ofBinary, h.ofBinary_append a hsize bs]
      rfl
    · rw [tag, toBinary, ofBinary, hrest.ofBinary_append b hsize bs]
      rfl

end Variants.Faithful

theorem Form.Faithful.choice {α : Type} {variants : Variants α} (h : variants.Faithful)
    (hnames : variants.names.length ≤ 256 ^ 4) : (Form.choice variants).Faithful where
  length_toBinary a := by
    show (Binary.bytesOfNat 4 (variants.tag a) ++ variants.toBinary a).length = _
    rw [List.length_append, Binary.length_bytesOfNat, h.length_toBinary]
    rfl
  size_pos a := by
    show 0 < 4 + variants.size a
    omega
  ofBinary_append a hsize rest := by
    have hbound : 4 + variants.size a < 2 ^ 64 := hsize
    have htag := Binary.readNat_append (Nat.lt_of_lt_of_le (h.tag_lt a) hnames)
      (variants.toBinary a ++ rest)
    have hdata := h.ofBinary_append a (by omega) rest
    rw [← List.append_assoc] at htag
    simp only [Form.choice, htag, bind, Except.bind, hdata]

end WaveCache.Wire
