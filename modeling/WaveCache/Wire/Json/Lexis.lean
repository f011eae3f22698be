import WaveCache.Wire.Json.Fault

/-!
# The words of JSON

Words, numbers and strings in JSON texts, and the blanks between them.  Everything is read from
bytes: a string is only looked at as UTF-8 when its closing quote is reached.

Strings are written with `writeString` and read with `readString`.  Of the bytes of a text only
ASCII is ever escaped, so the writer can go byte by byte.

This is how `serde_json` reads and writes them.
-/

namespace WaveCache.Wire.Json

open WaveCache.Text

/-- The bytes that may stand between words. -/
def isSpace (b : UInt8) : Bool :=
  b = 0x20 || b = 0x0A || b = 0x09 || b = 0x0D

/-- Goes on to the next byte that is no blank. -/
def skipSpace (bs : List UInt8) : List UInt8 :=
  bs.dropWhile isSpace

/-- The bytes of the signs that have a meaning of their own. -/
def quote : UInt8 := 0x22

@[inherit_doc quote]
def backslash : UInt8 := 0x5C

@[inherit_doc quote]
def comma : UInt8 := 0x2C

@[inherit_doc quote]
def colon : UInt8 := 0x3A

@[inherit_doc quote]
def minus : UInt8 := 0x2D

@[inherit_doc quote]
def point : UInt8 := 0x2E

@[inherit_doc quote]
def openList : UInt8 := 0x5B

@[inherit_doc quote]
def closeList : UInt8 := 0x5D

@[inherit_doc quote]
def openObject : UInt8 := 0x7B

@[inherit_doc quote]
def closeObject : UInt8 := 0x7D

/-! ## Words -/

/-- Reads the letters that are due in a word. -/
def readWord : (due : List UInt8) → List UInt8 → Except Fault (List UInt8)
  | [], bs => .ok bs
  | _ :: _, [] => .error .endInValue
  | w :: due, b :: bs => if b = w then readWord due bs else .error .expectedWord

/-- What a word stands for that begins with the given letter; nothing if no word does. -/
def readWordFrom (b : UInt8) (bs : List UInt8) : Option (Except Fault (Found × List UInt8)) :=
  if b = 0x6E then some ((readWord (bytesOf "ull") bs).map (Found.null, ·))
  else if b = 0x74 then some ((readWord (bytesOf "rue") bs).map (Found.boolean true, ·))
  else if b = 0x66 then some ((readWord (bytesOf "alse") bs).map (Found.boolean false, ·))
  else none

/-! ## Numbers -/

/-- A number in a text.  Whole numbers that fit 64 bits are kept apart from all others. -/
inductive Number where
  /-- A whole number of 0 to `2 ^ 64 - 1`. -/
  | natural (n : Nat)
  /-- The opposite of a whole number of 1 to `2 ^ 63`. -/
  | negative (n : Nat)
  | real (x : Binary64)
deriving DecidableEq

/-- How a fault names a number. -/
def Number.found : Number → Found
  | natural n => .integer n
  | negative n => .integer (-n)
  | real x => .real x

/-- The double that is nearest to a number. -/
def Number.toBinary64 : Number → Binary64
  | natural n => .ofNat n
  | negative n => .ofInt (-n)
  | real x => x

/-- The digits in front. -/
def takeDigits (bs : List UInt8) : List UInt8 × List UInt8 :=
  (bs.takeWhile isDigit, bs.dropWhile isDigit)

/-- Whether a digit stands in front. -/
def startsWithDigit (bs : List UInt8) : Bool :=
  bs.head?.any isDigit

/-- The fault of a number that lacks a digit here. -/
def missingDigit (bs : List UInt8) : Fault :=
  if bs.isEmpty then .endInValue else .invalidNumber

/-- Reads the digits before the point.  A zero stands alone. -/
def readInteger (bs : List UInt8) : Except Fault (List UInt8 × List UInt8) :=
  match bs with
  | [] => .error .endInValue
  | b :: rest =>
    if b = digit 0 then
      if startsWithDigit rest then .error .invalidNumber else .ok ([b], rest)
    else if isDigit b then .ok (takeDigits bs)
    else .error .invalidNumber

/-- Reads the point and the digits after it, if there is a point. -/
def readFraction (bs : List UInt8) : Except Fault (Option (List UInt8) × List UInt8) :=
  match bs with
  | [] => .ok (none, [])
  | b :: rest =>
    if b = point then
      if startsWithDigit rest then .ok ((takeDigits rest).map some id)
      else .error (missingDigit rest)
    else .ok (none, bs)

/-- Reads the power of ten, if there is one. -/
def readExponent (bs : List UInt8) : Except Fault (Option Int × List UInt8) :=
  match bs with
  | [] => .ok (none, [])
  | b :: rest =>
    if b = 0x65 || b = 0x45 then
      let negative := rest.head? = some minus
      let rest := if negative || rest.head? = some 0x2B then rest.tail else rest
      if startsWithDigit rest then
        let (ds, rest) := takeDigits rest
        let size : Int := digitsValue ds
        .ok (some (if negative then -size else size), rest)
      else .error (missingDigit rest)
    else .ok (none, bs)

/-- A double, if it is finite. -/
def finite (x : Binary64) : Except Fault Number :=
  if x.isFinite then .ok (.real x) else .error .numberOutOfRange

/-- A number without point and power. -/
def integer (negative : Bool) (n : Nat) : Except Fault Number :=
  if negative then
    if 0 < n ∧ n ≤ 0x8000000000000000 then .ok (.negative n) else finite (.ofDecimal true ⟨n, 0⟩)
  else if n < UInt64.size then .ok (.natural n)
  else finite (.ofDecimal false ⟨n, 0⟩)

/-- The number with the given digits before and after the point, times `10 ^ exponent`. -/
def decimalOf (whole places : List UInt8) (exponent : Int) : Decimal :=
  ⟨digitsValue (whole ++ places), exponent - places.length⟩

/-- How many digits of a number are looked at. -/
def countedDigits : Nat := 768

/-- The number with the given digits as it is read.  If there are too many digits, those behind the
ones that count are taken for a single 1.  Zeros in front are no digits here, nor are zeros at the
end of the places; zeros at the end of a whole number are.  A number halfway between two doubles has
fewer digits, so the 1 tells on which side of it the number lies. -/
def countedDecimal (whole places : List UInt8) (exponent : Int) : Decimal :=
  if whole.length + places.length ≤ countedDigits then decimalOf whole places exponent
  else
    let isZero (b : UInt8) : Bool := b = digit 0
    let places := (places.reverse.dropWhile isZero).reverse
    let ds := (whole ++ places).dropWhile isZero
    let kept := if ds.length ≤ countedDigits then ds else ds.take countedDigits ++ [digit 1]
    ⟨digitsValue kept, exponent - places.length + ds.length - kept.length⟩

/-- A number with few digits is read as it is. -/
theorem countedDecimal_of_short {whole places : List UInt8} {exponent : Int}
    (h : whole.length + places.length ≤ countedDigits) :
    countedDecimal whole places exponent = decimalOf whole places exponent :=
  if_pos h

/-- Reads a number. -/
def readNumber (bs : List UInt8) : Except Fault (Number × List UInt8) := do
  let negative := bs.head? = some minus
  let (whole, bs) ← readInteger (if negative then bs.tail else bs)
  let (fraction, bs) ← readFraction bs
  let (exponent, bs) ← readExponent bs
  let number ←
    match fraction, exponent with
    | none, none => integer negative (digitsValue whole)
    | _, _ =>
      finite (.ofDecimal negative (countedDecimal whole (fraction.getD []) (exponent.getD 0)))
  return (number, bs)

/-! ## Strings -/

/-- The value of a hexadecimal digit, in either case. -/
def hexValue? (b : UInt8) : Option Nat :=
  if isDigit b then some (digitValue b)
  else if 0x61 ≤ b && b ≤ 0x66 then some (b.toNat - 0x57)
  else if 0x41 ≤ b && b ≤ 0x46 then some (b.toNat - 0x37)
  else none

/-- Reads four hexadecimal digits. -/
def readHex : List UInt8 → Except Fault (Nat × List UInt8)
  | a :: b :: c :: d :: rest =>
    match hexValue? a, hexValue? b, hexValue? c, hexValue? d with
    | some a, some b, some c, some d => .ok (((a * 16 + b) * 16 + c) * 16 + d, rest)
    | _, _, _, _ => .error .invalidEscape
  | _ => .error .endInString

/-- Reads the second of two surrogates, with the backslash and the `u` before it. -/
def readLowSurrogate : List UInt8 → Except Fault (Nat × List UInt8)
  | [] => .error .endInString
  | b :: bs =>
    if b = backslash then
      match bs with
      | [] => .error .endInString
      | b :: bs => if b = 0x75 then readHex bs else .error .unfinishedSurrogates
    else .error .unfinishedSurrogates

/-- Reads the code point of an escape with hexadecimal digits, which may take two escapes. -/
def readCodePoint (bs : List UInt8) : Except Fault (Nat × List UInt8) := do
  let (high, bs) ← readHex bs
  if 0xDC00 ≤ high ∧ high ≤ 0xDFFF then throw .loneSurrogate
  else if high < 0xD800 ∨ 0xDBFF < high then return (high, bs)
  else
    let (low, bs) ← readLowSurrogate bs
    if 0xDC00 ≤ low ∧ low ≤ 0xDFFF then
      return ((high - 0xD800) * 0x400 + (low - 0xDC00) + 0x10000, bs)
    else throw .loneSurrogate

/-- The byte that a letter after a backslash stands for. -/
def unescape? (b : UInt8) : Option UInt8 :=
  if b = quote || b = backslash || b = 0x2F then some b
  else if b = 0x62 then some 0x08
  else if b = 0x66 then some 0x0C
  else if b = 0x6E then some 0x0A
  else if b = 0x72 then some 0x0D
  else if b = 0x74 then some 0x09
  else none

/-- Reads what stands behind a backslash. -/
def readEscape : List UInt8 → Except Fault (List UInt8 × List UInt8)
  | [] => .error .endInString
  | b :: bs =>
    match unescape? b with
    | some e => .ok ([e], bs)
    | none =>
      if b = 0x75 then
        (readCodePoint bs).map fun (code, bs) => (String.utf8EncodeChar (Char.ofNat code), bs)
      else .error .invalidEscape

/-- Reads the bytes of a string up to its closing quote.  Every step takes a byte, so as many steps
as there are bytes are enough.  The bytes read so far stand in reverse order. -/
def readBytes : (steps : Nat) → (reversed : List UInt8) → List UInt8 →
    Except Fault (List UInt8 × List UInt8)
  | 0, _, _ => .error .endInString
  | _ + 1, _, [] => .error .endInString
  | steps + 1, reversed, b :: bs =>
    if b = quote then .ok (reversed.reverse, bs)
    else if b = backslash then
      match readEscape bs with
      | .ok (escaped, bs) => readBytes steps (escaped.reverse ++ reversed) bs
      | .error fault => .error fault
    else if b < 0x20 then .error .controlCharacter
    else readBytes steps (b :: reversed) bs

/-- Reads a string whose opening quote has been read. -/
def readString (bs : List UInt8) : Except Fault (String × List UInt8) := do
  let (raw, rest) ← readBytes bs.length [] bs
  match ofBytes? raw with
  | some s => return (s, rest)
  | none => throw .invalidCodePoint

/-- A byte as it is written in a string. -/
def escapeByte (b : UInt8) : List UInt8 :=
  if b = quote || b = backslash then [backslash, b]
  else if b = 0x08 then [backslash, 0x62]
  else if b = 0x09 then [backslash, 0x74]
  else if b = 0x0A then [backslash, 0x6E]
  else if b = 0x0C then [backslash, 0x66]
  else if b = 0x0D then [backslash, 0x72]
  else if b < 0x20 then
    let low := b.toNat % 16
    bytesOf "\\u00" ++
      [digit (b.toNat / 16), if low < 10 then digit low else UInt8.ofNat (0x57 + low)]
  else [b]

/-- A text as a string, with its quotes. -/
def writeString (s : String) : List UInt8 :=
  quote :: (bytesOf s).flatMap escapeByte ++ [quote]

end WaveCache.Wire.Json
