import WaveCache.Binary64.Rounding
import WaveCache.Text.Digits

/-!
# Doubles and decimal numbers

`ofDecimal` reads a decimal number as the nearest double.  `shortest` goes the other way: it gives
the fewest digits that are read as the same double, and of several such numbers the nearest.  If two
are equally near, a `Tie` says which one is meant.  Both are exact, on whole numbers of any length.
-/

namespace WaveCache

/-- The number `digits * 10 ^ exponent`. -/
structure Decimal where
  digits : Nat
  exponent : Int
deriving DecidableEq

namespace Decimal

/-- The same number with no zero at the end of its digits. -/
def stripZeros (d : Decimal) : Decimal :=
  if h : d.digits ≠ 0 ∧ d.digits % 10 = 0 then
    stripZeros ⟨d.digits / 10, d.exponent + 1⟩
  else d
termination_by d.digits
decreasing_by have := h.1; omega

end Decimal

namespace Binary64

/-- The magnitude nearest to a decimal number.  Numbers of `10 ^ 400` or more are past every finite
double, and numbers below `10 ^ -400` are nearest to zero. -/
def magnitudeOfDecimal (d : Decimal) : Nat :=
  if d.digits = 0 then 0
  else if 400 < d.exponent then infinity
  else if d.exponent < -(401 + d.digits.log2 : Int) then 0
  else min infinity <|
    if 0 ≤ d.exponent then nearestMagnitude (d.digits * Nat.pow 10 d.exponent.toNat * unit) 1
    else nearestMagnitude (d.digits * unit) (Nat.pow 10 (-d.exponent).toNat)

/-- The double nearest to a decimal number with a sign. -/
def ofDecimal (negative : Bool) (d : Decimal) : Binary64 :=
  ofMagnitude negative (magnitudeOfDecimal d)

/-- The factor that turns units into a decimal number: `2 ^ -1074 = fiveUnit * 10 ^ -1074`. -/
def fiveUnit : Nat := Nat.pow 5 1074

/-- A finite magnitude as a decimal number, exactly. -/
def exactDecimal (magnitude : Nat) : Decimal :=
  ⟨unitsOf magnitude * fiveUnit, -1074⟩

/-- How many digits a number above zero has.  Its length in bits leaves two possibilities as long as
it is below `10 ^ 2000`, one bit being worth 0.30103 of a digit. -/
def decimalLength (n : Nat) : Nat :=
  let estimate := n.log2 * 30102 / 100000 + 1
  if n < Nat.pow 10 estimate then estimate else estimate + 1

/-- Which of two numbers is taken if both are equally near. -/
inductive Tie where
  /-- The greater one. -/
  | up
  /-- The one that ends in an even digit. -/
  | toEven
deriving DecidableEq

/-- Whether a tie is won by the smaller number, which has these digits. -/
def Tie.isDown (tie : Tie) (digits : Nat) : Bool :=
  tie = .toEven && digits % 2 = 0

/-- The two decimal numbers of `places` digits on either side of `d`, the nearer one first. -/
def neighbours (tie : Tie) (d : Decimal) (places : Nat) : List Decimal :=
  let dropped := decimalLength d.digits - places
  let grid := Nat.pow 10 dropped
  let below : Decimal := ⟨d.digits / grid, d.exponent + dropped⟩
  let above : Decimal := ⟨d.digits / grid + 1, d.exponent + dropped⟩
  let twice := 2 * (d.digits % grid)
  if twice < grid || twice = grid && tie.isDown below.digits then [below, above]
  else [above, below]

/-- The fewest digits that are read as this magnitude.  Seventeen always suffice; the exact number
stands behind them. -/
def shortest (tie : Tie) (magnitude : Nat) : Decimal :=
  if magnitude = 0 then ⟨0, 0⟩
  else
    let exact := exactDecimal magnitude
    let readsBack (d : Decimal) : Bool := magnitudeOfDecimal d = magnitude
    let found := (List.range 17).findSome? fun n => (neighbours tie exact (n + 1)).find? readsBack
    (found.getD exact).stripZeros

end Binary64

end WaveCache
