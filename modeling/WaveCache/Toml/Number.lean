import WaveCache.Binary64.Decimal

/-!
# Numbers in TOML

Whole numbers, in four bases, and numbers with a fraction or an exponent.  A single underscore may
stand between two digits.  Whole numbers are signed ones of 64 bits, and all others are doubles.  A
number that is too great for its kind is refused, but a double that is too small is minus infinity.
-/

namespace WaveCache.Toml

/-! ## Digits -/

/-- The value of a digit in a base of at most 16. -/
def digit? (base : Nat) (c : Char) : Option Nat :=
  let value? :=
    if '0' ≤ c ∧ c ≤ '9' then some (c.toNat - '0'.toNat)
    else if 'a' ≤ c ∧ c ≤ 'f' then some (c.toNat - 'a'.toNat + 10)
    else if 'A' ≤ c ∧ c ≤ 'F' then some (c.toNat - 'A'.toNat + 10)
    else none
  value?.filter (· < base)

/-- The value of a run of digits. -/
def digitsValue (base : Nat) (ds : List Nat) : Nat :=
  ds.foldl (fun n d => base * n + d) 0

/-- Reads the digits behind a digit.  A single underscore may stand before each of them. -/
def readMoreDigits (base : Nat) : List Char → Option (List Nat × List Char)
  | [] => some ([], [])
  | '_' :: c :: cs => do
    let d ← digit? base c
    let (ds, rest) ← readMoreDigits base cs
    return (d :: ds, rest)
  | c :: cs =>
    match digit? base c with
    | some d => (readMoreDigits base cs).map fun (ds, rest) => (d :: ds, rest)
    | none => if c = '_' then none else some ([], c :: cs)

/-- Reads one digit or more. -/
def readDigits (base : Nat) : List Char → Option (List Nat × List Char)
  | [] => none
  | c :: cs => do
    let d ← digit? base c
    let (ds, rest) ← readMoreDigits base cs
    return (d :: ds, rest)

/-- Reads the digits of a whole number in base ten.  A zero stands alone. -/
def readWhole : List Char → Option (List Nat × List Char)
  | '0' :: cs => some ([0], cs)
  | cs => readDigits 10 cs

/-- Reads a sign, which may be missing, and says whether it is a minus. -/
def readSign : List Char → Bool × List Char
  | '+' :: cs => (false, cs)
  | '-' :: cs => (true, cs)
  | cs => (false, cs)

/-- A whole number with its sign. -/
def signed (negative : Bool) (n : Nat) : Int :=
  if negative then -n else n

/-! ## Whole numbers -/

/-- A number, if it is a signed one of 64 bits. -/
def within? (n : Int) : Option Int :=
  if -0x8000000000000000 ≤ n ∧ n ≤ 0x7FFFFFFFFFFFFFFF then some n else none

/-- Reads a whole number.  A number in another base than ten has no sign. -/
def readInteger : List Char → Option (Int × List Char)
  | '0' :: 'x' :: cs => inBase 16 cs
  | '0' :: 'o' :: cs => inBase 8 cs
  | '0' :: 'b' :: cs => inBase 2 cs
  | cs => do
    let (negative, cs) := readSign cs
    let (ds, rest) ← readWhole cs
    return (← within? (signed negative (digitsValue 10 ds)), rest)
where
  inBase (base : Nat) (cs : List Char) : Option (Int × List Char) := do
    let (ds, rest) ← readDigits base cs
    return (← within? (digitsValue base ds), rest)

/-! ## Doubles -/

/-- Reads the digits of a fraction behind its point; none if there is no point. -/
def readFraction : List Char → Option (List Nat × List Char)
  | '.' :: cs => readDigits 10 cs
  | cs => some ([], cs)

/-- Reads a power of ten behind its letter; none if there is no letter. -/
def readExponent (cs : List Char) : Option (Option Int × List Char) :=
  match cs with
  | 'e' :: cs | 'E' :: cs => do
    let (negative, cs) := readSign cs
    let (ds, rest) ← readDigits 10 cs
    return (some (signed negative (digitsValue 10 ds)), rest)
  | cs => some (none, cs)

/-- Reads a number with a fraction, an exponent or both. -/
def readDecimal (negative : Bool) (cs : List Char) : Option (Binary64 × List Char) := do
  let (whole, cs) ← readWhole cs
  let (fraction, cs) ← readFraction cs
  let (exponent?, rest) ← readExponent cs
  let x : Binary64 := .ofDecimal negative
    ⟨digitsValue 10 (whole ++ fraction), exponent?.getD 0 - fraction.length⟩
  if fraction.isEmpty && exponent?.isNone || !x.isFinite && !negative then none
  else some (x, rest)

/-- Reads a double, which may be infinite or a NaN if it is called so. -/
def readReal (cs : List Char) : Option (Binary64 × List Char) :=
  match readSign cs with
  | (negative, 'i' :: 'n' :: 'f' :: rest) => some (.ofMagnitude negative Binary64.infinity, rest)
  | (negative, 'n' :: 'a' :: 'n' :: rest) => some (.ofMagnitude negative Binary64.quietNaN, rest)
  | (negative, cs) => readDecimal negative cs

end WaveCache.Toml
