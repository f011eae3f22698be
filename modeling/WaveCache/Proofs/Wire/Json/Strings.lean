import Mathlib.Algebra.Order.Ring.Nat
import WaveCache.Wire.Json.Lexis

/-!
# Reading back strings in JSON

An escaped byte is read back in one step, be it by its letter or by its code.  So a text is read
back from the string that was made of it, whatever stands behind the closing quote.
-/

namespace WaveCache.Wire.Json

open WaveCache.Text

/-! ## Escapes -/

/-- The four digits that a control character is escaped with. -/
def controlDigits (code : Nat) : List UInt8 :=
  [digit 0, digit 0, digit (code / 16),
    if code % 16 < 10 then digit (code % 16) else UInt8.ofNat (0x57 + code % 16)]

theorem readHex_controlDigits {code : Nat} (h : code < 0x20) (rest : List UInt8) :
    readHex (controlDigits code ++ rest) = .ok (code, rest) := by
  have hhigh : ∀ n < 10, hexValue? (digit n) = some n := by decide
  have hlow : ∀ n < 16,
      hexValue? (if n < 10 then digit n else UInt8.ofNat (0x57 + n)) = some n := by
    decide
  have hsum : ((0 * 16 + 0) * 16 + code / 16) * 16 + code % 16 = code := by omega
  simp only [controlDigits, List.cons_append, List.nil_append, readHex, hhigh 0 (by decide),
    hhigh (code / 16) (by omega), hlow (code % 16) (by omega), hsum]

/-- A control character is its own encoding. -/
theorem utf8EncodeChar_control :
    ∀ code < 0x20, String.utf8EncodeChar (Char.ofNat code) = [UInt8.ofNat code] := by
  decide

theorem readEscape_controlDigits {b : UInt8} (hb : b < 0x20) (rest : List UInt8) :
    readEscape (0x75 :: (controlDigits b.toNat ++ rest)) = .ok ([b], rest) := by
  have hlt : b.toNat < 0x20 := UInt8.lt_iff_toNat_lt.mp hb
  -- the code is no surrogate, so one escape is all there is
  have hcode : readCodePoint (controlDigits b.toNat ++ rest) = .ok (b.toNat, rest) := by
    rw [readCodePoint, readHex_controlDigits hlt]
    show (if 0xDC00 ≤ b.toNat ∧ b.toNat ≤ 0xDFFF then _ else _) = _
    rw [if_neg (by omega), if_pos (by omega)]
    rfl
  have hletter : unescape? 0x75 = none := by decide
  rw [readEscape, hletter]
  simp only [if_true, hcode, Except.map, utf8EncodeChar_control _ hlt, UInt8.ofNat_toNat]

/-! ## Strings -/

section

variable (steps : Nat) (reversed rest : List UInt8)

theorem readBytes_letter {letter b : UInt8} (h : unescape? letter = some b) :
    readBytes (steps + 1) reversed (backslash :: letter :: rest) =
      readBytes steps (b :: reversed) rest := by
  have hquote : backslash ≠ quote := by decide
  rw [readBytes, if_neg hquote, if_pos rfl, readEscape, h]
  rfl

/-- One step reads back one byte. -/
theorem readBytes_escapeByte (b : UInt8) :
    readBytes (steps + 1) reversed (escapeByte b ++ rest) =
      readBytes steps (b :: reversed) rest := by
  rw [escapeByte]
  split
  case isTrue h =>
    apply readBytes_letter
    rw [Bool.or_eq_true, decide_eq_true_eq, decide_eq_true_eq] at h
    rcases h with rfl | rfl <;> decide
  case isFalse hplain =>
    split_ifs with hback htab hline hform hreturn hcontrol
    · exact readBytes_letter _ _ _ (hback ▸ by decide)
    · exact readBytes_letter _ _ _ (htab ▸ by decide)
    · exact readBytes_letter _ _ _ (hline ▸ by decide)
    · exact readBytes_letter _ _ _ (hform ▸ by decide)
    · exact readBytes_letter _ _ _ (hreturn ▸ by decide)
    · have hescape : bytesOf "\\u00" ++ [digit (b.toNat / 16), if b.toNat % 16 < 10 then
          digit (b.toNat % 16) else UInt8.ofNat (0x57 + b.toNat % 16)] ++ rest =
          backslash :: 0x75 :: (controlDigits b.toNat ++ rest) := by
        rw [show bytesOf "\\u00" = [backslash, 0x75, digit 0, digit 0] by decide]
        rfl
      have hquote : backslash ≠ quote := by decide
      rw [hescape, readBytes, if_neg hquote, if_pos rfl, readEscape_controlDigits hcontrol]
      rfl
    · simp only [Bool.or_eq_true, decide_eq_true_eq, not_or] at hplain
      rw [List.singleton_append, readBytes, if_neg hplain.1, if_neg hplain.2, if_neg hcontrol]

end

theorem escapeByte_ne_nil (b : UInt8) : escapeByte b ≠ [] := by
  rw [escapeByte]
  split_ifs <;> simp

theorem length_le_length_flatMap_escapeByte (raw : List UInt8) :
    raw.length ≤ (raw.flatMap escapeByte).length := by
  induction raw with
  | nil => exact Nat.le_refl _
  | cons b raw ih =>
    have hpos := List.length_pos_iff.mpr (escapeByte_ne_nil b)
    rw [List.flatMap_cons, List.length_append, List.length_cons]
    omega

theorem readBytes_append {raw : List UInt8} {steps : Nat} (h : raw.length < steps)
    (reversed rest : List UInt8) :
    readBytes steps reversed (raw.flatMap escapeByte ++ quote :: rest) =
      .ok (reversed.reverse ++ raw, rest) := by
  induction raw generalizing steps reversed with
  | nil =>
    obtain ⟨steps, rfl⟩ := Nat.exists_eq_succ_of_ne_zero (Nat.ne_of_gt h)
    rw [List.append_nil]
    rfl
  | cons b raw ih =>
    rw [List.length_cons] at h
    obtain ⟨steps, rfl⟩ := Nat.exists_eq_succ_of_ne_zero (show steps ≠ 0 by omega)
    rw [List.flatMap_cons, List.append_assoc, readBytes_escapeByte, ih (by omega),
      List.reverse_cons, List.append_assoc, List.singleton_append]

/-- A text is read back behind the opening quote. -/
theorem readString_append (s : String) (rest : List UInt8) :
    readString ((bytesOf s).flatMap escapeByte ++ quote :: rest) = .ok (s, rest) := by
  have hsteps : (bytesOf s).length < ((bytesOf s).flatMap escapeByte ++ quote :: rest).length := by
    have hle := length_le_length_flatMap_escapeByte (bytesOf s)
    rw [List.length_append, List.length_cons]
    omega
  rw [readString, readBytes_append hsteps]
  simp only [bind, Except.bind, List.reverse_nil, List.nil_append, ofBytes?_bytesOf]
  rfl

/-- A control character is escaped by its code, or by its letter if it has one. -/
example : readString (bytesOf "\\u001f\\n" ++ [quote]) = .ok ("\x1F\n", []) := by
  decide +kernel

theorem writeString_append (s : String) (rest : List UInt8) :
    writeString s ++ rest = quote :: ((bytesOf s).flatMap escapeByte ++ quote :: rest) := by
  rw [writeString, List.cons_append, List.cons_append, List.append_assoc, List.singleton_append]

end WaveCache.Wire.Json
