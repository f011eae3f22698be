/-!
# Decimal digits

Numbers as runs of ASCII digits, most significant first.  `digits` writes a number without leading
zeros and `digitsValue` reads any run of digits.  `digitsValue_digits` says that reading undoes
writing; `isDigit_of_mem_digits` and `digits_ne_nil` say that what is written is a run of digits and
is not empty.
-/

namespace WaveCache.Text

/-- The bytes of `0` to `9`. -/
def isDigit (b : UInt8) : Bool :=
  0x30 ≤ b && b ≤ 0x39

/-- The byte of a single digit. -/
def digit (n : Nat) : UInt8 :=
  UInt8.ofNat (0x30 + n % 10)

/-- The value that a digit's byte stands for. -/
def digitValue (b : UInt8) : Nat :=
  b.toNat - 0x30

/-- The decimal digits of a number, without leading zeros; `0` has the one digit `0`. -/
def digits (n : Nat) : List UInt8 :=
  if n < 10 then [digit n] else digits (n / 10) ++ [digit n]

/-- The number that a run of digits stands for. -/
def digitsValue (bs : List UInt8) : Nat :=
  bs.foldl (fun n b => 10 * n + digitValue b) 0

/-- ASCII bytes as text. -/
def ofAscii (bs : List UInt8) : String :=
  String.ofList (bs.map fun b => Char.ofNat b.toNat)

/-! ## Facts -/

theorem digitValue_digit (n : Nat) : digitValue (digit n) = n % 10 := by
  simp only [digitValue, digit, UInt8.toNat_ofNat']
  omega

theorem isDigit_digit (n : Nat) : isDigit (digit n) = true := by
  simp only [isDigit, digit, Bool.and_eq_true, decide_eq_true_eq, UInt8.le_iff_toNat_le,
    UInt8.toNat_ofNat']
  constructor <;> simp <;> omega

theorem digitsValue_append (bs : List UInt8) (b : UInt8) :
    digitsValue (bs ++ [b]) = 10 * digitsValue bs + digitValue b := by
  simp [digitsValue]

theorem digitsValue_digits (n : Nat) : digitsValue (digits n) = n := by
  fun_induction digits n with
  | case1 n h => simp [digitsValue, digitValue_digit]; omega
  | case2 n h ih => rw [digitsValue_append, ih, digitValue_digit]; omega

theorem isDigit_of_mem_digits {n : Nat} {b : UInt8} (h : b ∈ digits n) : isDigit b = true := by
  fun_induction digits n with
  | case1 n _ =>
    rw [List.mem_singleton] at h
    exact h ▸ isDigit_digit n
  | case2 n _ ih =>
    rcases List.mem_append.1 h with h | h
    · exact ih h
    · rw [List.mem_singleton] at h
      exact h ▸ isDigit_digit n

theorem digits_ne_nil (n : Nat) : digits n ≠ [] := by
  rw [digits]; split <;> simp

end WaveCache.Text
