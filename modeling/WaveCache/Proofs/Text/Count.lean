import Mathlib.Data.List.DropRight
import WaveCache.Node.Config

/-!
# Numbers in variables

Which texts `readCount` reads, said without it.  `IsCount` relates a text to the number that it
stands for: ASCII digits, perhaps with a plus sign in front, between any blanks.  A text is read as
a number below `2 ^ 64` exactly if it stands for it (`readCount_eq_some_iff`).

`readCount` looks at the bytes of a trimmed text.  So there are facts here on what `trim` leaves of
a text, and on texts whose bytes are their characters.
-/

namespace WaveCache

namespace Text

variable {s : String} {c : Char} {cs : List Char}

/-! ## Blanks around a text -/

theorem toList_trim (s : String) :
    (trim s).toList = (s.toList.dropWhile isBlank).rdropWhile isBlank :=
  String.toList_ofList

/-- What is taken off a text are blanks. -/
theorem exists_toList_eq_trim (s : String) :
    ∃ before after, (∀ c ∈ before, isBlank c = true) ∧ (∀ c ∈ after, isBlank c = true) ∧
      s.toList = before ++ (trim s).toList ++ after := by
  refine ⟨s.toList.takeWhile isBlank, (s.toList.dropWhile isBlank).rtakeWhile isBlank,
    fun c hc => List.mem_takeWhile_imp hc, fun c hc => List.mem_rtakeWhile_imp hc, ?_⟩
  rw [toList_trim, List.append_assoc, List.rdropWhile_append_rtakeWhile,
    List.takeWhile_append_dropWhile]

/-- Nothing is taken off but the blanks at the ends. -/
theorem toList_trim_of_eq {before body after : List Char} (hs : s.toList = before ++ body ++ after)
    (hbefore : ∀ c ∈ before, isBlank c = true) (hafter : ∀ c ∈ after, isBlank c = true)
    (hbody : ∀ c ∈ body, isBlank c = false) (hne : body ≠ []) : (trim s).toList = body := by
  have hfront : s.toList.dropWhile isBlank = body ++ after := by
    rw [hs, List.append_assoc, List.dropWhile_append_of_pos hbefore]
    obtain ⟨c, cs, rfl⟩ := List.exists_cons_of_ne_nil hne
    exact List.dropWhile_cons_of_neg (Bool.eq_false_iff.mp (hbody c List.mem_cons_self))
  have hback : ∀ c ∈ after.reverse, isBlank c = true :=
    fun c hc => hafter c (List.mem_reverse.mp hc)
  rw [toList_trim, hfront, List.rdropWhile, List.reverse_append, List.dropWhile_append_of_pos hback]
  exact List.rdropWhile_eq_self_iff.mpr fun hl =>
    Bool.eq_false_iff.mp (hbody _ (List.getLast_mem hl))

/-! ## Bytes of ASCII characters -/

/-- The byte of an ASCII character. -/
def asciiByte (c : Char) : UInt8 :=
  UInt8.ofNat c.toNat

theorem toNat_asciiByte (h : c.toNat < 0x80) : (asciiByte c).toNat = c.toNat := by
  rw [asciiByte, UInt8.toNat_ofNat']
  omega

theorem bytesOf_eq_flatMap (s : String) : bytesOf s = s.toList.flatMap String.utf8EncodeChar := by
  have hbytes : s.toByteArray = s.toList.utf8Encode := by
    rw [← String.toByteArray_ofList, String.ofList_toList]
  show s.toByteArray.data.toList = _
  rw [hbytes]
  simp [List.utf8Encode]

theorem utf8EncodeChar_of_lt (h : c.toNat < 0x80) : String.utf8EncodeChar c = [asciiByte c] :=
  if_pos (Nat.le_of_lt_succ h)

/-- The first byte of any other character is no ASCII character. -/
theorem exists_mem_utf8EncodeChar (h : 0x80 ≤ c.toNat) :
    ∃ b ∈ String.utf8EncodeChar c, 0x80 ≤ b.toNat := by
  have hge : 128 ≤ c.val.toNat := h
  rw [String.utf8EncodeChar]
  rw [if_neg (by omega)]
  split_ifs
  all_goals
    refine ⟨_, List.mem_cons_self, ?_⟩
    rw [UInt8.toNat_ofNat']
    omega

theorem bytesOf_of_ascii (h : ∀ c ∈ s.toList, c.toNat < 0x80) :
    bytesOf s = s.toList.map asciiByte := by
  rw [bytesOf_eq_flatMap, List.map_eq_flatMap]
  exact List.flatMap_congr fun c hc => utf8EncodeChar_of_lt (h c hc)

theorem ascii_of_bytesOf (h : ∀ b ∈ bytesOf s, b.toNat < 0x80) :
    ∀ c ∈ s.toList, c.toNat < 0x80 := by
  intro c hc
  by_contra hge
  obtain ⟨b, hb, hlarge⟩ := exists_mem_utf8EncodeChar (Nat.le_of_not_lt hge)
  rw [bytesOf_eq_flatMap] at h
  have hsmall := h b (List.mem_flatMap.mpr ⟨c, hc, hb⟩)
  omega

/-! ## Digits -/

theorem isDigit_iff_toNat {b : UInt8} : isDigit b = true ↔ 0x30 ≤ b.toNat ∧ b.toNat ≤ 0x39 := by
  simp only [isDigit, Bool.and_eq_true, decide_eq_true_eq, UInt8.le_iff_toNat_le]
  rfl

theorem char_isDigit_iff_toNat : c.isDigit = true ↔ 0x30 ≤ c.toNat ∧ c.toNat ≤ 0x39 := by
  simp only [Char.isDigit, Bool.and_eq_true, decide_eq_true_eq, ge_iff_le, UInt32.le_iff_toNat_le]
  rfl

theorem isDigit_asciiByte (h : c.toNat < 0x80) : isDigit (asciiByte c) = c.isDigit := by
  rw [Bool.eq_iff_iff, isDigit_iff_toNat, char_isDigit_iff_toNat, toNat_asciiByte h]

theorem isBlank_of_isDigit (h : c.isDigit = true) : isBlank c = false := by
  obtain ⟨hlow, hhigh⟩ := char_isDigit_iff_toNat.mp h
  simp [isBlank, inRanges, blankRanges]
  omega

theorem digitsValue_map_asciiByte (h : ∀ c ∈ cs, c.toNat < 0x80) :
    digitsValue (cs.map asciiByte) = Nat.ofDigitChars 10 cs 0 := by
  rw [digitsValue, List.foldl_map, Nat.ofDigitChars]
  refine List.foldl_ext _ _ _ fun n c hc => ?_
  rw [digitValue, toNat_asciiByte (h c hc)]
  rfl

end Text

/-! ## Numbers -/

open Text

/-- Digits and the number that they stand for, perhaps with a plus sign in front. -/
inductive IsNumeral : List Char → Nat → Prop where
  | intro {sign digits : List Char} (hsign : sign = [] ∨ sign = ['+']) (hne : digits ≠ [])
      (hdigits : ∀ c ∈ digits, c.isDigit = true) :
      IsNumeral (sign ++ digits) (Nat.ofDigitChars 10 digits 0)

/-- A text that stands for a number, perhaps with blanks around. -/
inductive IsCount (text : String) (n : Nat) : Prop where
  | intro {before body after : List Char} (hnumeral : IsNumeral body n)
      (hbefore : ∀ c ∈ before, isBlank c = true) (hafter : ∀ c ∈ after, isBlank c = true)
      (htext : text.toList = before ++ body ++ after)

namespace IsNumeral

variable {cs : List Char} {n : Nat}

theorem ne_nil (h : IsNumeral cs n) : cs ≠ [] := by
  cases h with
  | intro hsign hne hdigits => exact List.append_ne_nil_of_right_ne_nil _ hne

theorem eq_plus_or_isDigit (h : IsNumeral cs n) : ∀ c ∈ cs, c = '+' ∨ c.isDigit = true := by
  cases h with
  | intro hsign hne hdigits =>
    intro c hc
    rcases List.mem_append.mp hc with hc | hc
    · rcases hsign with rfl | rfl
      · cases hc
      · exact .inl (List.mem_singleton.mp hc)
    · exact .inr (hdigits c hc)

theorem ascii (h : IsNumeral cs n) : ∀ c ∈ cs, c.toNat < 0x80 := by
  intro c hc
  rcases h.eq_plus_or_isDigit c hc with rfl | hdigit
  · decide
  · have hrange := char_isDigit_iff_toNat.mp hdigit
    omega

theorem isBlank_eq_false (h : IsNumeral cs n) : ∀ c ∈ cs, isBlank c = false := by
  intro c hc
  rcases h.eq_plus_or_isDigit c hc with rfl | hdigit
  · decide
  · exact isBlank_of_isDigit hdigit

end IsNumeral

/-- It is enough to look at the trimmed text. -/
theorem isCount_iff {text : String} {n : Nat} :
    IsCount text n ↔ IsNumeral (trim text).toList n := by
  constructor
  · rintro ⟨hnumeral, hbefore, hafter, htext⟩
    rwa [toList_trim_of_eq htext hbefore hafter hnumeral.isBlank_eq_false hnumeral.ne_nil]
  · intro h
    obtain ⟨before, after, hbefore, hafter, htext⟩ := exists_toList_eq_trim text
    exact .intro h hbefore hafter htext

theorem map_asciiByte_eq_plus_iff {sign : List Char} (h : ∀ c ∈ sign, c.toNat < 0x80) :
    (sign.map asciiByte = [] ∨ sign.map asciiByte = [0x2B]) ↔ sign = [] ∨ sign = ['+'] := by
  have hplus : ∀ c ∈ sign, (asciiByte c = 0x2B ↔ c = '+') := by
    intro c hc
    rw [← UInt8.toNat_inj, toNat_asciiByte (h c hc), ← Char.toNat_inj]
    rfl
  match sign with
  | [] => simp
  | [c] => simpa using hplus c List.mem_cons_self
  | c :: c' :: cs => simp

/-- The same for the bytes of a text. -/
theorem isNumeral_toList_iff {s : String} {n : Nat} : IsNumeral s.toList n ↔
    ∃ sign digits, (sign = [] ∨ sign = [0x2B]) ∧ digits ≠ [] ∧
      (∀ b ∈ digits, isDigit b = true) ∧ bytesOf s = sign ++ digits ∧ digitsValue digits = n := by
  constructor
  · intro h
    have hascii := h.ascii
    have hbytes := bytesOf_of_ascii hascii
    generalize s.toList = cs at h hascii hbytes
    cases h with
    | @intro sign digits hsign hne hdigits =>
      obtain ⟨hsignAscii, hdigitsAscii⟩ := List.forall_mem_append.mp hascii
      refine ⟨sign.map asciiByte, digits.map asciiByte,
        (map_asciiByte_eq_plus_iff hsignAscii).mpr hsign, mt List.map_eq_nil_iff.mp hne, ?_, ?_,
        digitsValue_map_asciiByte hdigitsAscii⟩
      · intro b hb
        obtain ⟨c, hc, rfl⟩ := List.mem_map.mp hb
        rw [isDigit_asciiByte (hdigitsAscii c hc)]
        exact hdigits c hc
      · rw [hbytes, List.map_append]
  · rintro ⟨signBytes, digitBytes, hsign, hne, hdigits, hbytes, rfl⟩
    have hascii : ∀ c ∈ s.toList, c.toNat < 0x80 := by
      refine ascii_of_bytesOf fun b hb => ?_
      rw [hbytes] at hb
      rcases List.mem_append.mp hb with hb | hb
      · rcases hsign with rfl | rfl
        · cases hb
        · rw [List.mem_singleton.mp hb]
          decide
      · have hdigit := isDigit_iff_toNat.mp (hdigits b hb)
        omega
    rw [bytesOf_of_ascii hascii] at hbytes
    obtain ⟨sign, digits, hcs, rfl, rfl⟩ := List.map_eq_append_iff.mp hbytes
    rw [hcs] at hascii ⊢
    obtain ⟨hsignAscii, hdigitsAscii⟩ := List.forall_mem_append.mp hascii
    rw [digitsValue_map_asciiByte hdigitsAscii]
    refine .intro ((map_asciiByte_eq_plus_iff hsignAscii).mp hsign)
      (mt List.map_eq_nil_iff.mpr hne) ?_
    intro c hc
    rw [← isDigit_asciiByte (hdigitsAscii c hc)]
    exact hdigits _ (List.mem_map_of_mem hc)

/-! ## What is read -/

variable {text : String} {n : UInt64}

/-- Bytes of digits, perhaps behind that of a plus sign, are read as a number if it is not too
great. -/
theorem readCount_of_bytesOf {sign digits : List UInt8} (hsign : sign = [] ∨ sign = [0x2B])
    (hne : digits ≠ []) (hdigits : ∀ b ∈ digits, isDigit b = true)
    (hbytes : bytesOf (trim text) = sign ++ digits) :
    readCount text =
      if digitsValue digits < UInt64.size then some (.ofNat (digitsValue digits)) else none := by
  have hhead : (if (sign ++ digits).head? = some 0x2B then (sign ++ digits).tail
      else sign ++ digits) = digits := by
    rcases hsign with rfl | rfl
    · obtain ⟨b, bs, rfl⟩ := List.exists_cons_of_ne_nil hne
      refine if_neg fun hplus => ?_
      have hdigit := hdigits b List.mem_cons_self
      rw [Option.some.inj hplus] at hdigit
      cases hdigit
    · rfl
  have hall : digits.all isDigit = true := List.all_eq_true.mpr hdigits
  simp only [readCount, hbytes, hhead, hall, ne_eq, hne, not_false_eq_true, true_and]

/-- What is read as a number are digits, perhaps behind a plus sign. -/
theorem bytesOf_of_readCount (h : readCount text = some n) :
    ∃ sign digits, (sign = [] ∨ sign = [0x2B]) ∧ digits ≠ [] ∧
      (∀ b ∈ digits, isDigit b = true) ∧ bytesOf (trim text) = sign ++ digits := by
  simp only [readCount] at h
  by_cases hplus : (bytesOf (trim text)).head? = some 0x2B
  · obtain ⟨rest, hrest⟩ := List.head?_eq_some_iff.mp hplus
    simp only [hrest, List.head?_cons, if_true, List.tail_cons] at h
    split_ifs at h with hdigits
    exact ⟨[0x2B], rest, .inr rfl, hdigits.1, List.all_eq_true.mp hdigits.2.1, hrest⟩
  · rw [if_neg hplus] at h
    split_ifs at h with hdigits
    exact ⟨[], _, .inl rfl, hdigits.1, List.all_eq_true.mp hdigits.2.1, rfl⟩

/-- A text is read as the number that it stands for, if that is below `2 ^ 64`. -/
theorem readCount_eq_some_iff : readCount text = some n ↔ IsCount text n.toNat := by
  rw [isCount_iff, isNumeral_toList_iff]
  constructor
  · intro h
    obtain ⟨sign, digits, hsign, hne, hdigits, hbytes⟩ := bytesOf_of_readCount h
    rw [readCount_of_bytesOf hsign hne hdigits hbytes] at h
    split_ifs at h with hsize
    refine ⟨sign, digits, hsign, hne, hdigits, hbytes, ?_⟩
    rw [← Option.some.inj h, UInt64.toNat_ofNat_of_lt' hsize]
  · rintro ⟨sign, digits, hsign, hne, hdigits, hbytes, hvalue⟩
    rw [readCount_of_bytesOf hsign hne hdigits hbytes, hvalue, if_pos n.toNat_lt,
      UInt64.ofNat_toNat]

end WaveCache
