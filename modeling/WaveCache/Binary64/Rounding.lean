import WaveCache.Binary64.Basic

/-!
# Rounding to doubles

`ofRatio` gives the double nearest to an exact quotient of natural numbers; of two that are equally
near it takes the one with the even fraction, and past the largest finite double it gives infinity.
The other operations here (`ofNat`, `mul`, `div`, `roundHalfUp`) are that one rounding applied to an
exact result.
-/

namespace WaveCache.Binary64

/-- The natural number nearest to `n / d`, the even one of two that are equally near. -/
def divNearestEven (n d : Nat) : Nat :=
  let q := n / d
  let r := n % d
  if 2 * r < d ∨ 2 * r = d ∧ q % 2 = 0 then q else q + 1

/-- The magnitude nearest to `n / d` units.  The quotient is cut to 53 bits by the power of two that
its length asks for, and that power becomes the exponent.  A quotient that rounds up to `2 ^ 53` is
carried into the exponent by the addition. -/
def nearestMagnitude (n d : Nat) : Nat :=
  let cut := (n / d).log2 - 52
  cut * fractions + divNearestEven n (d * Nat.pow 2 cut)

/-- The double nearest to `n / d` units, with the given sign. -/
def ofRatio (negative : Bool) (n d : Nat) : Binary64 :=
  ofMagnitude negative (min (nearestMagnitude n d) infinity)

/-- The double nearest to a natural number. -/
def ofNat (n : Nat) : Binary64 :=
  ofRatio false (n * unit) 1

/-- The double nearest to an integer. -/
def ofInt (i : Int) : Binary64 :=
  ofRatio (i < 0) (i.natAbs * unit) 1

/-- The quotient of two finite doubles, the divisor not zero. -/
def div (x y : Binary64) : Binary64 :=
  ofRatio (x.isNegative != y.isNegative) (x.units * unit) y.units

/-- The product of two finite doubles. -/
def mul (x y : Binary64) : Binary64 :=
  ofRatio (x.isNegative != y.isNegative) (x.units * y.units) unit

/-- The natural number nearest to a finite magnitude, a half going up. -/
def roundHalfUp (x : Binary64) : Nat :=
  (2 * x.units + unit) / (2 * unit)

end WaveCache.Binary64
