/-!
# Doubles

A double is its 64 bits: a sign, eleven bits of exponent and 52 bits of fraction.  Two doubles are
equal here when their bits are, so `-0.0` differs from `0.0` and a NaN equals itself.

Every finite magnitude is a whole number of the smallest one, `2 ^ -1074`.  `units` is that number,
and all arithmetic on doubles is done on it exactly.
-/

namespace WaveCache

/-- A double, as its bits. -/
structure Binary64 where
  /-- Sign, exponent and fraction, from the top bit down. -/
  bits : UInt64
deriving DecidableEq, Inhabited

namespace Binary64

/-- The number of units in `1.0`. -/
def unit : Nat := Nat.pow 2 1074

/-- The weight of the sign bit: `2 ^ 63`. -/
def signBit : Nat := 0x8000000000000000

/-- The number of doubles with the same sign and exponent: `2 ^ 52`. -/
def fractions : Nat := 0x10000000000000

/-- The bits below the sign. -/
def magnitude (x : Binary64) : Nat :=
  x.bits.toNat % signBit

/-- Whether the sign bit is set. -/
def isNegative (x : Binary64) : Bool :=
  signBit ≤ x.bits.toNat

/-- The magnitude of both infinities; every greater one belongs to a NaN. -/
def infinity : Nat := 0x7FF0000000000000

/-- The magnitude of a NaN whose fraction begins with the only bit that is set in it. -/
def quietNaN : Nat := 0x7FF8000000000000

/-- Whether the double is a number, and not an infinity or a NaN. -/
def isFinite (x : Binary64) : Bool :=
  x.magnitude < infinity

/-- Whether the double is no number at all. -/
def isNaN (x : Binary64) : Bool :=
  infinity < x.magnitude

/-- The double with a given sign and magnitude. -/
def ofMagnitude (negative : Bool) (magnitude : Nat) : Binary64 :=
  ⟨UInt64.ofNat ((if negative then signBit else 0) + magnitude % signBit)⟩

/-- The units in a finite magnitude.  The least exponent has no hidden bit. -/
def unitsOf (magnitude : Nat) : Nat :=
  if magnitude < fractions then magnitude
  else (fractions + magnitude % fractions) * Nat.pow 2 (magnitude / fractions - 1)

/-- The units in a finite double, its sign left out. -/
def units (x : Binary64) : Nat :=
  unitsOf x.magnitude

/-- A finite number above zero. -/
def isPositive (x : Binary64) : Bool :=
  x.isFinite && !x.isNegative && 0 < x.magnitude

end Binary64

end WaveCache
