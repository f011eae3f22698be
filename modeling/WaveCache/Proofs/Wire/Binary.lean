import Mathlib.Algebra.Ring.Nat
import WaveCache.Wire.Binary

/-!
# Reading back values in bytes

What `bytesOfNat` and `bytesOfText` write is read back by `readNat` and `readText`, whatever stands
behind it, as long as the number fits the width and the length of the text fits eight bytes.

The lemmas `..._eq_ok` go the other way: a reader that succeeds has found in front of the rest
exactly what the writer makes of its answer.
-/

namespace WaveCache.Wire

/-- Of two steps in a row that succeed, the first has succeeded and the second goes on from there.
-/
theorem exists_ok_of_bind_eq_ok {ε α β : Type} {x : Except ε α} {f : α → Except ε β} {b : β}
    (h : x >>= f = .ok b) : ∃ a, x = .ok a ∧ f a = .ok b := by
  cases x with
  | error e => cases h
  | ok a => exact ⟨a, rfl, h⟩

/-- A step whose answer is changed afterwards has succeeded if the whole has. -/
theorem exists_ok_of_map_eq_ok {ε α β : Type} {x : Except ε α} {f : α → β} {b : β}
    (h : x.map f = .ok b) : ∃ a, x = .ok a ∧ f a = b := by
  cases x with
  | error e => cases h
  | ok a => exact ⟨a, rfl, Except.ok.inj h⟩

namespace Binary

variable {width n : Nat}

/-! ## Numbers -/

@[simp] theorem length_bytesOfNat (width n : Nat) : (bytesOfNat width n).length = width := by
  induction width generalizing n with
  | zero => rfl
  | succ width ih => rw [bytesOfNat, List.length_cons, ih]

theorem natOfBytes_bytesOfNat (h : n < 256 ^ width) : natOfBytes (bytesOfNat width n) = n := by
  induction width generalizing n with
  | zero =>
    rw [Nat.pow_zero] at h
    rw [bytesOfNat, natOfBytes]
    omega
  | succ width ih =>
    have hrest : n / 256 < 256 ^ width := by
      rw [Nat.pow_succ] at h
      exact Nat.div_lt_of_lt_mul (by omega)
    have hlow : (UInt8.ofNat n).toNat = n % 256 := UInt8.toNat_ofNat'
    rw [bytesOfNat, natOfBytes, ih hrest, hlow]
    omega

theorem takeBytes_append (front rest : List UInt8) :
    takeBytes front.length (front ++ rest) = some (front, rest) := by
  induction front with
  | nil => rfl
  | cons b front ih =>
    rw [List.length_cons, List.cons_append, takeBytes, ih]
    rfl

theorem readNat_append (h : n < 256 ^ width) (rest : List UInt8) :
    readNat width (bytesOfNat width n ++ rest) = .ok (n, rest) := by
  have htake := takeBytes_append (bytesOfNat width n) rest
  rw [length_bytesOfNat] at htake
  rw [readNat, htake]
  show Except.ok (natOfBytes (bytesOfNat width n), rest) = .ok (n, rest)
  rw [natOfBytes_bytesOfNat h]

theorem readNat_word (n : UInt64) (rest : List UInt8) :
    readNat 8 (bytesOfNat 8 n.toNat ++ rest) = .ok (n.toNat, rest) :=
  readNat_append n.toNat_lt rest

/-- Bytes are the only ones of their number that stand for what they stand for. -/
theorem bytesOfNat_natOfBytes (bs : List UInt8) : bytesOfNat bs.length (natOfBytes bs) = bs := by
  induction bs with
  | nil => rfl
  | cons b bs ih =>
    have hlow : UInt8.ofNat (b.toNat + 256 * natOfBytes bs) = b := by
      apply UInt8.toNat_inj.mp
      have hb := b.toNat_lt
      rw [UInt8.toNat_ofNat']
      omega
    have hrest : (b.toNat + 256 * natOfBytes bs) / 256 = natOfBytes bs := by
      have hb := b.toNat_lt
      omega
    rw [List.length_cons, natOfBytes, bytesOfNat, hlow, hrest, ih]

theorem natOfBytes_lt (bs : List UInt8) : natOfBytes bs < 256 ^ bs.length := by
  induction bs with
  | nil => exact Nat.one_pos
  | cons b bs ih =>
    have hb := b.toNat_lt
    rw [natOfBytes, List.length_cons, Nat.pow_succ]
    omega

theorem takeBytes_eq_some {bs front rest : List UInt8}
    (h : takeBytes width bs = some (front, rest)) : front.length = width ∧ bs = front ++ rest := by
  induction width generalizing bs front with
  | zero =>
    cases h
    exact ⟨rfl, rfl⟩
  | succ width ih =>
    cases bs with
    | nil => cases h
    | cons b bs =>
      obtain ⟨⟨front', rest'⟩, htake, heq⟩ := Option.map_eq_some_iff.mp h
      cases heq
      obtain ⟨hlength, rfl⟩ := ih htake
      exact ⟨congrArg Nat.succ hlength, rfl⟩

theorem readNat_eq_ok {bs rest : List UInt8} (h : readNat width bs = .ok (n, rest)) :
    n < 256 ^ width ∧ bs = bytesOfNat width n ++ rest := by
  rw [readNat] at h
  split at h
  · rename_i front rest' htake
    cases h
    obtain ⟨rfl, rfl⟩ := takeBytes_eq_some htake
    exact ⟨natOfBytes_lt front, by rw [bytesOfNat_natOfBytes]⟩
  · cases h

/-! ## Texts -/

@[simp] theorem length_bytesOf (s : String) : (Text.bytesOf s).length = s.utf8ByteSize := by
  rw [Text.bytesOf, Array.length_toList]
  rfl

@[simp] theorem length_bytesOfText (s : String) : (bytesOfText s).length = 8 + s.utf8ByteSize := by
  rw [bytesOfText, List.length_append, length_bytesOfNat, length_bytesOf]

/-- A text whose length has been read. -/
theorem readText_of_readNat {length : Nat} {bs bs' : List UInt8}
    (h : readNat 8 bs = .ok (length, bs')) :
    readText bs =
      if bs'.length < length then .error .textTooLong
      else
        match Text.ofBytes? (bs'.take length) with
        | some s => .ok (s, bs'.drop length)
        | none => .error (.notUtf8 (Text.Utf8.fault (bs'.take length))) := by
  rw [readText, h]
  rfl

theorem readText_append {s : String} (h : s.utf8ByteSize < 2 ^ 64) (rest : List UInt8) :
    readText (bytesOfText s ++ rest) = .ok (s, rest) := by
  have hread : readNat 8 (bytesOfText s ++ rest) =
      .ok ((Text.bytesOf s).length, Text.bytesOf s ++ rest) := by
    rw [bytesOfText, List.append_assoc]
    exact readNat_append (by rw [length_bytesOf]; exact h) _
  have hlength : ¬ (Text.bytesOf s ++ rest).length < (Text.bytesOf s).length := by
    rw [List.length_append]
    omega
  rw [readText_of_readNat hread, if_neg hlength, List.take_left, List.drop_left,
    Text.ofBytes?_bytesOf]

theorem readText_eq_ok {bs rest : List UInt8} {s : String} (h : readText bs = .ok (s, rest)) :
    bs = bytesOfText s ++ rest := by
  obtain ⟨⟨length, bs'⟩, hlength, _⟩ := exists_ok_of_bind_eq_ok h
  rw [readText_of_readNat hlength] at h
  by_cases hshort : bs'.length < length
  · rw [if_pos hshort] at h
    cases h
  · rw [if_neg hshort] at h
    cases htext : Text.ofBytes? (bs'.take length) with
    | none =>
      rw [htext] at h
      cases h
    | some s' =>
      rw [htext] at h
      cases h
      -- the length in front is the length of the text that was read
      have htake := Text.bytesOf_of_ofBytes? htext
      have hsize : (Text.bytesOf s).length = length := by
        rw [htake, List.length_take]
        omega
      rw [(readNat_eq_ok hlength).2, bytesOfText, hsize, htake, List.append_assoc,
        List.take_append_drop]

/-! ## Many values -/

section

variable {α : Type} {write : α → List UInt8}
  {read : List UInt8 → Except BinaryFault (α × List UInt8)}

/-- Values that are each read back are read back one after another. -/
theorem readMany_append {as : List α}
    (hread : ∀ a ∈ as, ∀ rest, read (write a ++ rest) = .ok (a, rest))
    (reversed : List α) (rest : List UInt8) :
    readMany read as.length reversed (as.flatMap write ++ rest) =
      .ok (reversed.reverse ++ as, rest) := by
  induction as generalizing reversed with
  | nil => rw [List.append_nil]; rfl
  | cons a as ih =>
    have ha := hread a List.mem_cons_self (as.flatMap write ++ rest)
    have has := ih (fun b hb => hread b (List.mem_cons_of_mem a hb)) (a :: reversed)
    rw [List.length_cons, List.flatMap_cons, List.append_assoc, readMany, ha]
    show readMany read as.length (a :: reversed) (as.flatMap write ++ rest) = _
    rw [has, List.reverse_cons, List.append_assoc, List.singleton_append]

/-- Values that are each what was written are so one after another. -/
theorem readMany_eq_ok (hread : ∀ {bs a rest}, read bs = .ok (a, rest) → bs = write a ++ rest)
    {count : Nat} {reversed as : List α} {bs rest : List UInt8}
    (h : readMany read count reversed bs = .ok (as, rest)) :
    ∃ more, as = reversed.reverse ++ more ∧ more.length = count ∧
      bs = more.flatMap write ++ rest := by
  induction count generalizing reversed bs with
  | zero =>
    cases h
    exact ⟨[], (List.append_nil _).symm, rfl, rfl⟩
  | succ count ih =>
    rw [readMany] at h
    cases hfirst : read bs with
    | error fault =>
      rw [hfirst] at h
      cases h
    | ok found =>
      obtain ⟨a, bs'⟩ := found
      rw [hfirst] at h
      obtain ⟨more, rfl, rfl, rfl⟩ := ih h
      refine ⟨a :: more, by simp, rfl, ?_⟩
      rw [hread hfirst, List.flatMap_cons, List.append_assoc]

end

end Binary

end WaveCache.Wire
