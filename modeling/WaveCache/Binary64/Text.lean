import WaveCache.Binary64.Decimal
import WaveCache.Text.Utf8

/-!
# Doubles as text

Two ways of writing a double, both with the fewest digits that read back.

* `plain` is for messages: always positional, with no fraction where there is none, and with names
  for infinity and NaN.  Ties go up.
* `numeral` is for documents: positional while the first digit stands between the fifth place after
  the point and the sixteenth before it, with a fraction in every case, and with a power of ten
  otherwise.  Ties go to the even digit.
-/

namespace WaveCache.Binary64

open WaveCache.Text

/-- A minus sign where one is due. -/
def signBytes (negative : Bool) : List UInt8 :=
  if negative then bytesOf "-" else []

/-- Decimal digits with a point in their place.  The point and what follows it are left out if
nothing follows. -/
def positional (d : Decimal) : List UInt8 :=
  let ds := digits d.digits
  let places := (-d.exponent).toNat
  if 0 ≤ d.exponent then ds ++ List.replicate d.exponent.toNat (digit 0)
  else if places < ds.length then
    ds.take (ds.length - places) ++ bytesOf "." ++ ds.drop (ds.length - places)
  else bytesOf "0." ++ List.replicate (places - ds.length) (digit 0) ++ ds

/-- One digit, a point with the other digits if there are any, and the power of ten with its sign.
-/
def scientific (d : Decimal) : List UInt8 :=
  let ds := digits d.digits
  let power := d.exponent + (ds.length - 1 : Nat)
  ds.take 1 ++ (if ds.length = 1 then [] else bytesOf "." ++ ds.drop 1) ++
    bytesOf (if power < 0 then "e-" else "e+") ++ digits power.natAbs

/-- A double in a message: `0`, `100`, `-0.5`, `NaN`, `inf`. -/
def plain (x : Binary64) : String :=
  if x.isNaN then "NaN"
  else ofAscii (signBytes x.isNegative) ++
    if x.isFinite then ofAscii (positional (shortest .up x.magnitude)) else "inf"

/-- A finite double in a document: `0.0`, `100.0`, `1e-6`, `1.5e+16`. -/
def numeral (x : Binary64) : List UInt8 :=
  let d := shortest .toEven x.magnitude
  let power := d.exponent + ((digits d.digits).length - 1 : Nat)
  signBytes x.isNegative ++
    if -5 ≤ power ∧ power < 16 then
      positional d ++ if 0 ≤ d.exponent then bytesOf ".0" else []
    else scientific d

end WaveCache.Binary64
