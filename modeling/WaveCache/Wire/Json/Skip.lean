import WaveCache.Wire.Json.Lexis

/-!
# Skipping JSON values

The value of a field that nobody asked for is skipped.  It has to be well formed, but it may nest to
any depth, its numbers may be of any size and its strings need not be text.  The lists and objects
that are open are kept on a stack, innermost first.

This is `ignore_value` of `serde_json`.
-/

namespace WaveCache.Wire.Json

open WaveCache.Text

/-- A list or an object that has been opened and not closed. -/
inductive Enclosure where
  | list
  | object
deriving DecidableEq

/-- The byte that closes an enclosure. -/
def Enclosure.closing : Enclosure → UInt8
  | list => closeList
  | object => closeObject

/-- The fault of a text that ends inside an enclosure. -/
def Enclosure.atEnd : Enclosure → Fault
  | list => .endInList
  | object => .endInObject

/-- The fault of something else than a comma after an element. -/
def Enclosure.noComma : Enclosure → Fault
  | list => .expectedListCommaOrEnd
  | object => .expectedObjectCommaOrEnd

/-- Skips the digits that have to stand here. -/
def skipDigits (bs : List UInt8) : Except Fault (List UInt8) :=
  if startsWithDigit bs then .ok (takeDigits bs).2 else .error .invalidNumber

/-- Skips a number, its sign left out. -/
def skipNumber (bs : List UInt8) : Except Fault (List UInt8) := do
  let bs ←
    if bs.head? = some (digit 0) then
      if startsWithDigit bs.tail then throw .invalidNumber else pure bs.tail
    else skipDigits bs
  let bs ← if bs.head? = some point then skipDigits bs.tail else pure bs
  if bs.head?.any fun b => b = 0x65 || b = 0x45 then
    let bs := bs.tail
    skipDigits (if bs.head?.any fun b => b = minus || b = 0x2B then bs.tail else bs)
  else return bs

/-- Skips what stands behind a backslash. -/
def skipEscape : List UInt8 → Except Fault (List UInt8)
  | [] => .error .endInString
  | b :: bs =>
    if (unescape? b).isSome then .ok bs
    else if b = 0x75 then (readHex bs).map (·.2)
    else .error .invalidEscape

/-- Skips a string up to its closing quote, in as many steps as there are bytes. -/
def skipString : (steps : Nat) → List UInt8 → Except Fault (List UInt8)
  | 0, _ => .error .endInString
  | _ + 1, [] => .error .endInString
  | steps + 1, b :: bs =>
    if b = quote then .ok bs
    else if b = backslash then
      match skipEscape bs with
      | .ok bs => skipString steps bs
      | .error fault => .error fault
    else if b < 0x20 then .error .controlCharacter
    else skipString steps bs

/-- Skips the colon between a key and its value. -/
def skipColon (bs : List UInt8) : Except Fault (List UInt8) :=
  match skipSpace bs with
  | [] => .error .endInObject
  | b :: bs => if b = colon then .ok bs else .error .expectedColon

/-- Skips a key and its colon. -/
def skipKey (bs : List UInt8) : Except Fault (List UInt8) :=
  match skipSpace bs with
  | [] => .error .endInObject
  | b :: bs =>
    if b = quote then (skipString bs.length bs).bind skipColon else .error .keyMustBeString

/-- Skips a word, a number or a string, whose first byte is `b`. -/
def skipScalar (b : UInt8) (bs : List UInt8) : Except Fault (List UInt8) :=
  match readWordFrom b bs with
  | some read => read.map (·.2)
  | none =>
    if b = minus then skipNumber bs
    else if isDigit b then skipNumber (b :: bs)
    else if b = quote then skipString bs.length bs
    else .error .expectedValue

mutual

/-- Skips a value and whatever is open around it.  Every step takes a byte at least. -/
def skipValue : (steps : Nat) → List Enclosure → List UInt8 → Except Fault (List UInt8)
  | 0, _, _ => .error .endInValue
  | steps + 1, stack, bs =>
    match skipSpace bs with
    | [] => .error .endInValue
    | b :: bs =>
      if b = openList then skipElements steps .list stack false bs
      else if b = openObject then skipElements steps .object stack false bs
      else
        match skipScalar b bs, stack with
        | .error fault, _ => .error fault
        | .ok bs, [] => .ok bs
        | .ok bs, inner :: stack => skipElements steps inner stack true bs

/-- Skips the elements of the innermost enclosure.  A comma is due if an element stands before. -/
def skipElements : (steps : Nat) → Enclosure → List Enclosure → (comma : Bool) → List UInt8 →
    Except Fault (List UInt8)
  | 0, inner, _, _, _ => .error inner.atEnd
  | steps + 1, inner, stack, commaDue, bs =>
    match skipSpace bs with
    | [] => .error inner.atEnd
    | b :: rest =>
      if commaDue && b = comma then skipElement steps inner stack rest
      else if b = inner.closing then
        match stack with
        | [] => .ok rest
        | outer :: stack => skipElements steps outer stack true rest
      else if commaDue then .error inner.noComma
      else skipElement steps inner stack (b :: rest)

/-- Skips an element of the innermost enclosure, with its key, and what comes after it. -/
def skipElement : (steps : Nat) → Enclosure → List Enclosure → List UInt8 →
    Except Fault (List UInt8)
  | 0, inner, _, _ => .error inner.atEnd
  | steps + 1, .list, stack, bs => skipValue steps (.list :: stack) bs
  | steps + 1, .object, stack, bs =>
    match skipKey bs with
    | .ok bs => skipValue steps (.object :: stack) bs
    | .error fault => .error fault

end

/-- Skips one value. -/
def skip (bs : List UInt8) : Except Fault (List UInt8) :=
  skipValue (4 * bs.length + 4) [] bs

end WaveCache.Wire.Json
