import WaveCache.Binary64.Rounding

/-!
# Time

Points in time are whole microseconds, as signed 64-bit numbers.  Seconds are doubles.  A time that
does not fit is cut to the nearest one that does.  `durationText` is how a message names a stretch
of time that was given in milliseconds.

The two conversions are `seconds_to_micros` (`ofSeconds`) and `micros_to_seconds` (`toSeconds`).
-/

namespace WaveCache

/-- A point in time, in microseconds. -/
abbrev Micros := Int64

namespace Micros

/-- The least and the greatest point in time. -/
def least : Int := -0x8000000000000000

@[inherit_doc least]
def greatest : Int := 0x7FFFFFFFFFFFFFFF

/-- The point in time nearest to a whole number of microseconds. -/
def clamp (i : Int) : Micros :=
  Int64.ofInt (max least (min greatest i))

/-- `1000000.0`, the microseconds in a second. -/
def perSecond : Binary64 :=
  .ofNat 1000000

/-- Seconds as microseconds, rounded to the nearest and away from zero at a half.  A NaN is time
zero. -/
def ofSeconds (seconds : Binary64) : Micros :=
  if seconds.isNaN then 0
  else
    let product := seconds.mul perSecond
    let size : Int :=
      if seconds.isFinite && product.isFinite then product.roundHalfUp else greatest + 1
    clamp (if seconds.isNegative then -size else size)

/-- Microseconds as seconds. -/
def toSeconds (t : Micros) : Binary64 :=
  (Binary64.ofInt t.toInt).div perSecond

end Micros

/-- Milliseconds in a message: `20ms`, `1.5s`, `61s`.  No time at all is `0ns`. -/
def durationText (milliseconds : Nat) : String :=
  if milliseconds = 0 then "0ns"
  else if milliseconds < 1000 then toString milliseconds ++ "ms"
  else
    let places := (toString (1000 + milliseconds % 1000)).toList.drop 1
    let fraction := (places.reverse.dropWhile (· = '0')).reverse
    toString (milliseconds / 1000) ++
      (if fraction.isEmpty then "" else "." ++ String.ofList fraction) ++ "s"

end WaveCache
