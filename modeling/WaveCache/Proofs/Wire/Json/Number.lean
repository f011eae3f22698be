import WaveCache.Proofs.Binary64.Decimal
import WaveCache.Proofs.Text.Digits
import WaveCache.Wire.Json.Lexis

/-!
# Reading back numbers in JSON

A `Numeral` has the parts that a number may be written with.  `readNumber_append` says that the
reader finds them again, whatever `Follows` the number in a message.  A whole number and a finite
double are both written as a numeral that stands for them (`Numeral.ofDigits`, `exists_numeral`).
-/

namespace WaveCache.Wire.Json

open WaveCache.Text WaveCache.Binary64

variable {ds rest : List UInt8}

/-- Behind a value there is nothing, or a comma, or the end of what the value stands in. -/
def Follows (rest : List UInt8) : Prop :=
  ∀ b ∈ rest.head?, b = comma ∨ b = closeList ∨ b = closeObject

namespace Follows

theorem nil : Follows [] :=
  fun _ h => nomatch h

theorem cons {b : UInt8} (hb : b = comma ∨ b = closeList ∨ b = closeObject)
    (rest : List UInt8) : Follows (b :: rest) := by
  rintro _ ⟨⟩
  exact hb

/-- None of the bytes that may follow is part of a number. -/
theorem not_number (h : Follows rest) :
    startsWithDigit rest = false ∧ ∀ b ∈ rest.head?, b ≠ point ∧ b ≠ 0x65 ∧ b ≠ 0x45 := by
  cases rest with
  | nil => exact ⟨rfl, fun _ h => nomatch h⟩
  | cons b rest =>
    have hb := h b rfl
    rw [startsWithDigit, List.head?_cons, Option.any_some]
    refine ⟨?_, fun b' h' => ?_⟩
    · rcases hb with rfl | rfl | rfl <;> decide
    · cases h'
      rcases hb with rfl | rfl | rfl <;> decide

end Follows

/-! ## Digits -/

/-- Digits, of which there is one at least. -/
structure Digits (ds : List UInt8) : Prop where
  ne_nil : ds ≠ []
  isDigit_of_mem : ∀ b ∈ ds, isDigit b = true

theorem digits_digits (n : Nat) : Digits (digits n) where
  ne_nil := digits_ne_nil n
  isDigit_of_mem _ := isDigit_of_mem_digits

theorem Digits.append_zeros (h : Digits ds) (k : Nat) :
    Digits (ds ++ List.replicate k (digit 0)) where
  ne_nil := List.append_ne_nil_of_left_ne_nil h.ne_nil _
  isDigit_of_mem b hb := by
    rcases List.mem_append.mp hb with hb | hb
    · exact h.isDigit_of_mem b hb
    · rw [List.eq_of_mem_replicate hb]
      exact isDigit_digit 0

theorem Digits.zeros_append (h : Digits ds) (k : Nat) :
    Digits (List.replicate k (digit 0) ++ ds) where
  ne_nil := List.append_ne_nil_of_right_ne_nil _ h.ne_nil
  isDigit_of_mem b hb := by
    rcases List.mem_append.mp hb with hb | hb
    · rw [List.eq_of_mem_replicate hb]
      exact isDigit_digit 0
    · exact h.isDigit_of_mem b hb

theorem Digits.startsWithDigit_append (h : Digits ds) (rest : List UInt8) :
    startsWithDigit (ds ++ rest) = true := by
  obtain ⟨b, ds, rfl⟩ := List.exists_cons_of_ne_nil h.ne_nil
  exact h.isDigit_of_mem b List.mem_cons_self

theorem Digits.head?_append_ne_minus (h : Digits ds) (rest : List UInt8) :
    (ds ++ rest).head? ≠ some minus := by
  obtain ⟨b, ds, rfl⟩ := List.exists_cons_of_ne_nil h.ne_nil
  have hb := h.isDigit_of_mem b List.mem_cons_self
  rintro ⟨⟩
  exact absurd hb (by decide)

theorem Digits.take (h : Digits ds) {i : Nat} (hi : 0 < i) : Digits (ds.take i) where
  ne_nil heq := by
    rcases List.take_eq_nil_iff.mp heq with rfl | hnil
    · omega
    · exact h.ne_nil hnil
  isDigit_of_mem b hb := h.isDigit_of_mem b (List.mem_of_mem_take hb)

theorem Digits.drop (h : Digits ds) {i : Nat} (hi : i < ds.length) : Digits (ds.drop i) where
  ne_nil heq := by
    have hle := List.drop_eq_nil_iff.mp heq
    omega
  isDigit_of_mem b hb := h.isDigit_of_mem b (List.mem_of_mem_drop hb)

/-- The digits in front are taken up to what is no digit. -/
theorem Digits.takeDigits_append (h : Digits ds) (hrest : startsWithDigit rest = false) :
    takeDigits (ds ++ rest) = (ds, rest) := by
  rw [takeDigits, List.takeWhile_append_of_pos h.isDigit_of_mem,
    List.dropWhile_append_of_pos h.isDigit_of_mem]
  cases rest with
  | nil => rw [List.takeWhile_nil, List.dropWhile_nil, List.append_nil]
  | cons b rest =>
    have hb : isDigit b = false := hrest
    rw [List.takeWhile_cons_of_neg (by rw [hb]; decide),
      List.dropWhile_cons_of_neg (by rw [hb]; decide), List.append_nil]

/-! ## Numerals -/

/-- The parts of a number as it is written. -/
structure Numeral where
  negative : Bool
  /-- The digits before the point.  A zero stands alone. -/
  whole : List UInt8
  /-- The digits after the point, if there is one. -/
  fraction : Option (List UInt8)
  /-- The power of ten, if there is one. -/
  power : Option Int
  digits_whole : Digits whole
  whole_of_zero : whole.head? = some (digit 0) → whole = [digit 0]
  digits_fraction : ∀ ds ∈ fraction, Digits ds

namespace Numeral

/-- The fraction with its point. -/
def fractionBytes : Option (List UInt8) → List UInt8
  | none => []
  | some ds => point :: ds

/-- The power of ten with its sign. -/
def powerBytes : Option Int → List UInt8
  | none => []
  | some power => bytesOf (if power < 0 then "e-" else "e+") ++ digits power.natAbs

/-- A numeral as it is written. -/
def bytes (n : Numeral) : List UInt8 :=
  signBytes n.negative ++ (n.whole ++ (fractionBytes n.fraction ++ powerBytes n.power))

theorem bytes_of_no_power {n : Numeral} (h : n.power = none) :
    n.bytes = signBytes n.negative ++ (n.whole ++ fractionBytes n.fraction) := by
  rw [bytes, h, powerBytes, List.append_nil]

/-- The number that a numeral stands for. -/
def number (n : Numeral) : Except Fault Number :=
  match n.fraction, n.power with
  | none, none => integer n.negative (digitsValue n.whole)
  | _, _ =>
    finite (.ofDecimal n.negative
      (countedDecimal n.whole (n.fraction.getD []) (n.power.getD 0)))

end Numeral

theorem readInteger_append (h : Digits ds) (hzero : ds.head? = some (digit 0) → ds = [digit 0])
    (hrest : startsWithDigit rest = false) : readInteger (ds ++ rest) = .ok (ds, rest) := by
  have htake := h.takeDigits_append hrest
  obtain ⟨b, ds, rfl⟩ := List.exists_cons_of_ne_nil h.ne_nil
  rw [List.cons_append] at htake ⊢
  rw [readInteger]
  by_cases hb : b = digit 0
  · obtain ⟨rfl⟩ : ds = [] := by
      rw [hb] at hzero
      exact (List.cons.inj (hzero rfl)).2
    rw [if_pos hb, List.nil_append, hrest]
    rfl
  · rw [if_neg hb, if_pos (h.isDigit_of_mem b List.mem_cons_self), htake]

theorem readExponent_append (power : Option Int) (hrest : Follows rest) :
    readExponent (Numeral.powerBytes power ++ rest) = .ok (power, rest) := by
  obtain ⟨hdigit, hhead⟩ := hrest.not_number
  cases power with
  | none =>
    rw [Numeral.powerBytes, List.nil_append]
    cases rest with
    | nil => rfl
    | cons b rest =>
      obtain ⟨_, hlower, hupper⟩ := hhead b rfl
      simp [readExponent, hlower, hupper]
  | some power =>
    have hds := digits_digits power.natAbs
    rw [Numeral.powerBytes, List.append_assoc]
    by_cases hpower : power < 0
    · have hvalue : -(power.natAbs : Int) = power := by omega
      have hbytes : bytesOf "e-" = [0x65, minus] := by decide
      generalize power.natAbs = n at hds hvalue ⊢
      simp [hpower, hbytes, readExponent, hds.startsWithDigit_append, hds.takeDigits_append hdigit,
        digitsValue_digits, hvalue]
    · have hvalue : (power.natAbs : Int) = power := by omega
      have hbytes : bytesOf "e+" = [0x65, 0x2B] := by decide
      have hplus : (0x2B : UInt8) ≠ minus := by decide
      generalize power.natAbs = n at hds hvalue ⊢
      simp [hpower, hbytes, hplus, readExponent, hds.startsWithDigit_append,
        hds.takeDigits_append hdigit, digitsValue_digits, hvalue]

/-- A power of ten begins neither with a digit nor with a point. -/
theorem not_digit_power (power : Option Int) (hrest : Follows rest) :
    startsWithDigit (Numeral.powerBytes power ++ rest) = false ∧
      ∀ b ∈ (Numeral.powerBytes power ++ rest).head?, b ≠ point := by
  cases power with
  | none => exact ⟨hrest.not_number.1, fun b hb => (hrest.not_number.2 b hb).1⟩
  | some power =>
    have hsign : ∃ sign, bytesOf (if power < 0 then "e-" else "e+") = [0x65, sign] := by
      split
      · exact ⟨minus, by decide⟩
      · exact ⟨0x2B, by decide⟩
    obtain ⟨sign, hsign⟩ := hsign
    rw [Numeral.powerBytes, hsign]
    refine ⟨rfl, ?_⟩
    rintro _ ⟨⟩
    decide

theorem readFraction_append {fraction : Option (List UInt8)} (h : ∀ ds ∈ fraction, Digits ds)
    (hdigit : startsWithDigit rest = false) (hpoint : ∀ b ∈ rest.head?, b ≠ point) :
    readFraction (Numeral.fractionBytes fraction ++ rest) = .ok (fraction, rest) := by
  cases fraction with
  | none =>
    rw [Numeral.fractionBytes, List.nil_append]
    cases rest with
    | nil => rfl
    | cons b rest => rw [readFraction, if_neg (hpoint b rfl)]
  | some ds =>
    have hds := h ds rfl
    rw [Numeral.fractionBytes, List.cons_append, readFraction, if_pos rfl,
      if_pos (hds.startsWithDigit_append rest), hds.takeDigits_append hdigit]
    rfl

/-- The reader finds the parts of a numeral. -/
theorem readNumber_append (n : Numeral) (hrest : Follows rest) :
    readNumber (n.bytes ++ rest) = n.number.map (·, rest) := by
  obtain ⟨hdigit, hpoint⟩ := not_digit_power n.power hrest
  have hfraction := readFraction_append n.digits_fraction hdigit hpoint
  have hnext : startsWithDigit
      (Numeral.fractionBytes n.fraction ++ (Numeral.powerBytes n.power ++ rest)) = false := by
    cases n.fraction with
    | none => exact hdigit
    | some ds => rfl
  have hinteger := readInteger_append n.digits_whole n.whole_of_zero hnext
  have hexponent := readExponent_append n.power hrest
  have hminus := n.digits_whole.head?_append_ne_minus
    (Numeral.fractionBytes n.fraction ++ (Numeral.powerBytes n.power ++ rest))
  simp only [Numeral.bytes, List.append_assoc]
  cases hnegative : n.negative with
  | false =>
    rw [show signBytes false = [] from rfl, List.nil_append]
    simp only [readNumber, hminus, decide_false, if_false, hinteger, bind, Except.bind, hfraction,
      hexponent, Numeral.number, hnegative]
    cases n.fraction <;> cases n.power <;> rfl
  | true =>
    rw [show signBytes true = [minus] from by decide]
    simp only [readNumber, List.singleton_append, List.head?_cons, List.tail_cons, decide_true,
      if_true, hinteger, bind, Except.bind, hfraction, hexponent, Numeral.number, hnegative]
    cases n.fraction <;> cases n.power <;> rfl

/-! ## Whole numbers -/

namespace Numeral

/-- A whole number with its sign. -/
def ofDigits (negative : Bool) (size : Nat) : Numeral where
  negative := negative
  whole := digits size
  fraction := none
  power := none
  digits_whole := digits_digits size
  whole_of_zero h := by
    by_cases hzero : size = 0
    · rw [hzero, digits_zero]
    · exact absurd h (head?_digits hzero)
  digits_fraction _ h := nomatch h

theorem bytes_ofDigits (negative : Bool) (size : Nat) :
    (ofDigits negative size).bytes = signBytes negative ++ digits size := by
  show signBytes negative ++ (digits size ++ ([] ++ [])) = _
  rw [List.append_nil, List.append_nil]

theorem number_ofDigits (negative : Bool) (size : Nat) :
    (ofDigits negative size).number = integer negative size := by
  show integer negative (digitsValue (digits size)) = _
  rw [digitsValue_digits]

end Numeral

/-! ## Doubles -/

/-- A numeral of few digits that is written with a point or with a power of ten and is read as the
decimal number `d` is. -/
structure Numeral.Renders (n : Numeral) (negative : Bool) (d : Decimal) : Prop where
  negative_eq : n.negative = negative
  isReal : n.fraction.isSome ∨ n.power.isSome
  length_le : n.whole.length + (n.fraction.getD []).length ≤ countedDigits
  magnitude_eq : magnitudeOfDecimal (decimalOf n.whole (n.fraction.getD []) (n.power.getD 0)) =
    magnitudeOfDecimal d

section

variable {d : Decimal} (negative : Bool)

/-- Zeros behind the digits up to the point, and one more behind it. -/
theorem exists_renders_whole (hexponent : 0 ≤ d.exponent) (hzero : d.digits = 0 → d.exponent = 0)
    (hlength : (digits d.digits).length + d.exponent < 100) :
    ∃ n : Numeral, n.Renders negative d ∧
      n.bytes = signBytes negative ++ (positional d ++ bytesOf ".0") := by
  obtain ⟨c, e⟩ := d
  obtain ⟨k, rfl⟩ : ∃ k : Nat, e = k := ⟨_, (Int.toNat_of_nonneg hexponent).symm⟩
  simp only at hzero hlength
  refine ⟨{
    negative, power := none
    whole := digits c ++ List.replicate k (digit 0)
    fraction := some (digits 0)
    digits_whole := (digits_digits c).append_zeros k
    whole_of_zero := ?_
    digits_fraction := by rintro _ ⟨⟩; exact digits_digits 0 }, ⟨rfl, .inl rfl, ?_, ?_⟩, ?_⟩
  · intro hhead
    have hc : c = 0 := not_not.mp fun hc => head?_digits_append hc _ hhead
    have hk : k = 0 := by
      have := hzero hc
      omega
    rw [hc, hk, digits_zero]
    rfl
  · simp only [List.length_append, List.length_replicate, Option.getD_some, digits_zero,
      List.length_singleton, countedDigits]
    omega
  · show magnitudeOfDecimal (decimalOf (digits c ++ List.replicate k (digit 0)) (digits 0) 0) = _
    have hvalue : digitsValue (digits c ++ List.replicate k (digit 0) ++ [digit 0]) =
        c * 10 ^ (k + 1) := by
      rw [List.append_assoc, ← List.replicate_succ', digitsValue_append_zeros, digitsValue_digits]
    have hexp : (0 : Int) - 1 + (k + 1 : Nat) = k := by omega
    rw [decimalOf, digits_zero, hvalue, List.length_singleton, magnitudeOfDecimal_mul_pow,
      Nat.cast_one, hexp]
  · have hpoint : bytesOf ".0" = point :: digits 0 := by
      rw [digits_zero]
      decide
    have htoNat : (k : Int).toNat = k := Int.toNat_natCast k
    rw [Numeral.bytes_of_no_power rfl]
    simp only [positional, if_pos hexponent, hpoint, htoNat, Numeral.fractionBytes]

/-- A point between two digits. -/
theorem exists_renders_inner (hexponent : d.exponent < 0) (hne : d.digits ≠ 0)
    (hplaces : (-d.exponent).toNat < (digits d.digits).length)
    (hlength : (digits d.digits).length < 100) :
    ∃ n : Numeral, n.Renders negative d ∧ n.bytes = signBytes negative ++ positional d := by
  obtain ⟨c, e⟩ := d
  obtain ⟨k, rfl⟩ : ∃ k : Nat, e = -k := ⟨(-e).toNat, by simp only at hexponent; omega⟩
  simp only [neg_neg, Int.toNat_natCast] at hplaces hlength hne hexponent
  obtain ⟨i, hi⟩ : ∃ i, i = (digits c).length - k := ⟨_, rfl⟩
  have hds := digits_digits c
  refine ⟨{
    negative, power := none
    whole := (digits c).take i
    fraction := some ((digits c).drop i)
    digits_whole := hds.take (by omega)
    whole_of_zero := ?_
    digits_fraction := by rintro _ ⟨⟩; exact hds.drop (by omega) }, ⟨rfl, .inl rfl, ?_, ?_⟩, ?_⟩
  · intro hhead
    rw [List.head?_take, if_neg (by omega)] at hhead
    exact absurd hhead (head?_digits hne)
  · simp only [List.length_take, List.length_drop, Option.getD_some, countedDigits]
    omega
  · show magnitudeOfDecimal (decimalOf ((digits c).take i) ((digits c).drop i) 0) = _
    have hexp : (0 : Int) - ((digits c).length - i : Nat) = -k := by omega
    rw [decimalOf, List.take_append_drop, digitsValue_digits, List.length_drop, hexp]
  · have hpoint : bytesOf "." = [point] := by decide
    have hnat : (-(-(k : Int))).toNat = k := by omega
    rw [Numeral.bytes_of_no_power rfl]
    simp only [positional, hnat, if_neg (Int.not_le.mpr hexponent), if_pos hplaces, hpoint, ← hi,
      Numeral.fractionBytes, List.append_assoc, List.singleton_append]

/-- A zero, the point, and zeros before the digits. -/
theorem exists_renders_small (hexponent : d.exponent < 0)
    (hplaces : (digits d.digits).length ≤ (-d.exponent).toNat) (hlength : -d.exponent < 100) :
    ∃ n : Numeral, n.Renders negative d ∧ n.bytes = signBytes negative ++ positional d := by
  obtain ⟨c, e⟩ := d
  obtain ⟨k, rfl⟩ : ∃ k : Nat, e = -k := ⟨(-e).toNat, by simp only at hexponent; omega⟩
  simp only [neg_neg, Int.toNat_natCast] at hplaces hlength hexponent
  obtain ⟨i, hi⟩ : ∃ i, i = k - (digits c).length := ⟨_, rfl⟩
  refine ⟨{
    negative, power := none
    whole := digits 0
    fraction := some (List.replicate i (digit 0) ++ digits c)
    digits_whole := digits_digits 0
    whole_of_zero := fun _ => digits_zero
    digits_fraction := by rintro _ ⟨⟩; exact (digits_digits c).zeros_append i },
    ⟨rfl, .inl rfl, ?_, ?_⟩, ?_⟩
  · simp only [List.length_append, List.length_replicate, Option.getD_some, digits_zero,
      List.length_singleton, countedDigits]
    omega
  · show magnitudeOfDecimal (decimalOf (digits 0) (List.replicate i (digit 0) ++ digits c) 0) = _
    have hvalue : digitsValue ([digit 0] ++ (List.replicate i (digit 0) ++ digits c)) = c := by
      rw [← List.append_assoc, List.singleton_append, ← List.replicate_succ,
        digitsValue_zeros_append, digitsValue_digits]
    have hexp : (0 : Int) - (i + (digits c).length : Nat) = -k := by omega
    rw [decimalOf, digits_zero, hvalue, List.length_append, List.length_replicate, hexp]
  · have hpoint : bytesOf "0." = digits 0 ++ [point] := by
      rw [digits_zero]
      decide
    have hnat : (-(-(k : Int))).toNat = k := by omega
    rw [Numeral.bytes_of_no_power rfl]
    simp only [positional, hnat, if_neg (Int.not_le.mpr hexponent), if_neg (Nat.not_lt.mpr hplaces),
      hpoint, ← hi, Numeral.fractionBytes, List.append_assoc, List.cons_append,
      List.nil_append]

/-- One digit before the point, and a power of ten. -/
theorem exists_renders_scientific (hlength : (digits d.digits).length < 100) :
    ∃ n : Numeral, n.Renders negative d ∧ n.bytes = signBytes negative ++ scientific d := by
  obtain ⟨c, e⟩ := d
  simp only at hlength
  have hds := digits_digits c
  have hpos : 0 < (digits c).length := List.length_pos_iff.mpr hds.ne_nil
  have hone : ((digits c).take 1).length = 1 := by
    rw [List.length_take]
    omega
  obtain ⟨fraction, hfraction⟩ : ∃ fraction, fraction =
      if (digits c).length = 1 then none else some ((digits c).drop 1) := ⟨_, rfl⟩
  have hdrop : fraction.getD [] = (digits c).drop 1 := by
    rw [hfraction]
    split
    case isTrue h => rw [Option.getD_none, eq_comm, List.drop_eq_nil_iff, h]
    case isFalse h => rfl
  refine ⟨{
    negative, fraction
    whole := (digits c).take 1
    power := some (e + ((digits c).length - 1 : Nat))
    digits_whole := hds.take (by decide)
    whole_of_zero := ?_
    digits_fraction := ?_ }, ⟨rfl, .inr rfl, ?_, ?_⟩, ?_⟩
  · obtain ⟨b, bs, heq⟩ := List.exists_cons_of_ne_nil hds.ne_nil
    rw [heq]
    rintro ⟨⟩
    rfl
  · rw [hfraction]
    split
    case isTrue h => exact fun _ h => nomatch h
    case isFalse h =>
      rintro _ ⟨⟩
      exact hds.drop (by omega)
  · simp only [hone, hdrop, List.length_drop, countedDigits]
    omega
  · show magnitudeOfDecimal (decimalOf ((digits c).take 1) (fraction.getD [])
      (e + ((digits c).length - 1 : Nat))) = _
    have hexp : e + ((digits c).length - 1 : Nat) - ((digits c).length - 1 : Nat) = e := by omega
    rw [hdrop, decimalOf, List.take_append_drop, digitsValue_digits, List.length_drop, hexp]
  · have hpoint : bytesOf "." = [point] := by decide
    simp only [Numeral.bytes, scientific, Numeral.powerBytes, hpoint, hfraction, List.append_assoc]
    split <;> rfl

/-- A numeral that renders the digits of a double stands for the double. -/
theorem Numeral.Renders.number_eq {n : Numeral} {x : Binary64} (hx : x.isFinite = true)
    (h : n.Renders x.isNegative d) (hd : ofDecimal x.isNegative d = x) :
    n.number = .ok (.real x) := by
  have hreal : n.number = finite (.ofDecimal n.negative
      (countedDecimal n.whole (n.fraction.getD []) (n.power.getD 0))) := by
    rw [Numeral.number]
    split
    case h_1 hfraction hpower =>
      have := h.isReal
      simp [hfraction, hpower] at this
    case h_2 => rfl
  rw [hreal, countedDecimal_of_short h.length_le, ofDecimal, h.magnitude_eq, h.negative_eq,
    ← ofDecimal, hd, finite, if_pos hx]

end

/-- A finite double is written as a numeral that stands for it. -/
theorem exists_numeral {x : Binary64} (hx : x.isFinite = true) :
    ∃ n : Numeral, x.numeral = n.bytes ∧ n.number = .ok (.real x) := by
  have hfinite : x.magnitude < infinity := of_decide_eq_true hx
  obtain ⟨hmagnitude, hdigits⟩ := shortest_spec .toEven hfinite
  have hdouble := ofDecimal_shortest .toEven hx
  generalize hd : shortest .toEven x.magnitude = d at hmagnitude hdigits hdouble
  have hlength : (digits d.digits).length ≤ 18 :=
    length_digits_le (by decide) (Nat.lt_of_le_of_lt hdigits (by decide))
  have hzero : d.digits = 0 → d.exponent = 0 := by
    intro hzero
    have hm : x.magnitude = 0 := by rw [← hmagnitude, magnitudeOfDecimal, if_pos hzero]
    rw [← hd, hm]
    rfl
  suffices h : ∃ n : Numeral, n.Renders x.isNegative d ∧ n.bytes = x.numeral by
    obtain ⟨n, hrenders, hbytes⟩ := h
    exact ⟨n, hbytes.symm, hrenders.number_eq hx hdouble⟩
  simp only [numeral, hd]
  split
  case isTrue hpower =>
    by_cases hexponent : 0 ≤ d.exponent
    · rw [if_pos hexponent]
      exact exists_renders_whole _ hexponent hzero (by omega)
    · rw [if_neg hexponent, List.append_nil]
      have hneg := Int.not_le.mp hexponent
      by_cases hplaces : (-d.exponent).toNat < (digits d.digits).length
      · exact exists_renders_inner _ hneg (fun h => by have := hzero h; omega) hplaces (by omega)
      · exact exists_renders_small _ hneg (Nat.le_of_not_lt hplaces) (by omega)
  case isFalse hpower => exact exists_renders_scientific _ (by omega)

end WaveCache.Wire.Json
