import WaveCache.Wire.Binary
import WaveCache.Wire.Json.Skip

/-!
# Forms

A `Form` is a way of writing the values of one type, in bytes and as JSON text, and of reading them
back.  This module has the forms of numbers, truth values, texts and lists, and two ways of making a
form for another type: `via`, for a type that has the same values, and `checked`, for packets, whose
fields have to be looked at and are not read in the form in which they are written.

A `Form` is what the derived `Serialize` and `Deserialize` of a type do with `bincode` and
`serde_json`.
-/

namespace WaveCache.Wire

/-- How the values of one type are written and read.  A reader takes a value off the front and hands
back what is behind it. -/
structure Form (α : Type) where
  /-- The number of bytes that a value takes. -/
  size : α → Nat
  toBinary : α → List UInt8
  ofBinary : List UInt8 → Except BinaryFault (α × List UInt8)
  toJson : α → List UInt8
  ofJson : List UInt8 → Except Json.Fault (α × List UInt8)

namespace Json

open WaveCache.Text

/-- The fault of a value of the wrong kind, which begins with the byte `b`. -/
def wrongType (expected : String) (b : UInt8) (bs : List UInt8) : Fault :=
  match readWordFrom b bs with
  | some (.ok (found, _)) => .invalidType found expected
  | some (.error fault) => fault
  | none =>
    if b = minus || isDigit b then
      match readNumber (b :: bs) with
      | .ok (number, _) => .invalidType number.found expected
      | .error fault => fault
    else if b = quote then
      match readString bs with
      | .ok (s, _) => .invalidType (.string s) expected
      | .error fault => fault
    else if b = openList then .invalidType .sequence expected
    else if b = openObject then .invalidType .map expected
    else .expectedValue

/-- Reads a value that has to be a number. -/
def readNumberOf {α : Type} (expected : String) (convert : Number → Except Fault α)
    (bs : List UInt8) : Except Fault (α × List UInt8) :=
  match skipSpace bs with
  | [] => .error .endInValue
  | b :: bs =>
    if b = minus || isDigit b then do
      let (number, bs) ← readNumber (b :: bs)
      return (← convert number, bs)
    else .error (wrongType expected b bs)

/-- A number as a 64-bit number without sign. -/
def asUInt64 (expected : String) : Number → Except Fault UInt64
  | .natural n => .ok (UInt64.ofNat n)
  | .negative n => .error (.invalidValue (.integer (-n)) expected)
  | .real x => .error (.invalidType (.real x) expected)

/-- A number as a 64-bit number with a sign. -/
def asInt64 (expected : String) : Number → Except Fault Int64
  | .natural n =>
    if n < 0x8000000000000000 then .ok (Int64.ofInt n)
    else .error (.invalidValue (.integer n) expected)
  | .negative n => .ok (Int64.ofInt (-n))
  | .real x => .error (.invalidType (.real x) expected)

/-- Reads a value that has to be a text. -/
def readText (bs : List UInt8) : Except Fault (String × List UInt8) :=
  match skipSpace bs with
  | [] => .error .endInValue
  | b :: bs => if b = quote then readString bs else .error (wrongType "a string" b bs)

/-- Reads a value that has to be a truth value. -/
def readBool (bs : List UInt8) : Except Fault (Bool × List UInt8) :=
  match skipSpace bs with
  | [] => .error .endInValue
  | b :: bs =>
    match readWordFrom b bs with
    | some (.ok (.boolean value, bs)) => .ok (value, bs)
    | _ => .error (wrongType "a boolean" b bs)

/-- Goes to the next element of a list: what is before it, or nothing if the list is at its end,
whose bracket is left standing. -/
def nextElement (first : Bool) (bs : List UInt8) : Except Fault (Option (List UInt8)) :=
  match skipSpace bs with
  | [] => .error .endInList
  | b :: bs =>
    if b = closeList then .ok none
    else if first then .ok (some (b :: bs))
    else if b = comma then
      match skipSpace bs with
      | [] => .error .endInValue
      | b :: bs => if b = closeList then .error .trailingComma else .ok (some (b :: bs))
    else .error .expectedListCommaOrEnd

/-- Reads the end of a list. -/
def endList (bs : List UInt8) : Except Fault (List UInt8) :=
  match skipSpace bs with
  | [] => .error .endInList
  | b :: bs =>
    if b = closeList then .ok bs
    else if b = comma && (skipSpace bs).head? = some closeList then .error .trailingComma
    else .error .trailingCharacters

/-- Reads the elements of a list and its end, in as many steps as there are bytes.  The elements
read so far stand in reverse order. -/
def readElements {α : Type} (read : List UInt8 → Except Fault (α × List UInt8)) :
    (steps : Nat) → (reversed : List α) → (first : Bool) → List UInt8 →
      Except Fault (List α × List UInt8)
  | 0, _, _, _ => .error .endInList
  | steps + 1, reversed, first, bs =>
    match nextElement first bs with
    | .error fault => .error fault
    | .ok none => (endList bs).map (reversed.reverse, ·)
    | .ok (some bs) =>
      match read bs with
      | .error fault => .error fault
      | .ok (a, bs) => readElements read steps (a :: reversed) false bs

/-- Reads a list. -/
def readList {α : Type} (read : List UInt8 → Except Fault (α × List UInt8)) (bs : List UInt8) :
    Except Fault (List α × List UInt8) :=
  match skipSpace bs with
  | [] => .error .endInValue
  | b :: bs =>
    if b = openList then readElements read (bs.length + 1) [] true bs
    else .error (wrongType "a sequence" b bs)

/-- Puts commas between written values. -/
def separated (values : List (List UInt8)) : List UInt8 :=
  [comma].intercalate values

end Json

namespace Form

open WaveCache.Text

/-- A 64-bit number without sign, by the name that faults have for it. -/
def natural (name : String) : Form UInt64 where
  size _ := 8
  toBinary n := Binary.bytesOfNat 8 n.toNat
  ofBinary bs := do
    let (n, bs) ← Binary.readNat 8 bs
    return (UInt64.ofNat n, bs)
  toJson n := digits n.toNat
  ofJson := Json.readNumberOf name (Json.asUInt64 name)

/-- An identifier or a counter. -/
def word : Form UInt64 := natural "u64"

/-- A number of things. -/
def count : Form UInt64 := natural "usize"

/-- A point in time. -/
def time : Form Micros where
  size _ := 8
  toBinary t := Binary.bytesOfNat 8 t.toUInt64.toNat
  ofBinary bs := do
    let (n, bs) ← Binary.readNat 8 bs
    return ((UInt64.ofNat n).toInt64, bs)
  toJson t := Binary64.signBytes (t.toInt < 0) ++ digits t.toInt.natAbs
  ofJson := Json.readNumberOf "i64" (Json.asInt64 "i64")

/-- A double. -/
def double : Form Binary64 where
  size _ := 8
  toBinary x := Binary.bytesOfNat 8 x.bits.toNat
  ofBinary bs := do
    let (n, bs) ← Binary.readNat 8 bs
    return (⟨UInt64.ofNat n⟩, bs)
  toJson := Binary64.numeral
  ofJson := Json.readNumberOf "f64" fun number => .ok number.toBinary64

/-- A truth value. -/
def bool : Form Bool where
  size _ := 1
  toBinary b := [if b then 1 else 0]
  ofBinary := Binary.readBool
  toJson b := bytesOf (if b then "true" else "false")
  ofJson := Json.readBool

/-- A text. -/
def text : Form String where
  size s := 8 + s.utf8ByteSize
  toBinary := Binary.bytesOfText
  ofBinary := Binary.readText
  toJson := Json.writeString
  ofJson := Json.readText

/-- A list of values of one form. -/
def list {α : Type} (form : Form α) : Form (List α) where
  size as := as.foldl (fun n a => n + form.size a) 8
  toBinary as := Binary.bytesOfNat 8 as.length ++ as.flatMap form.toBinary
  ofBinary bs := do
    let (count, bs) ← Binary.readNat 8 bs
    Binary.readMany form.ofBinary count [] bs
  toJson as := Json.openList :: Json.separated (as.map form.toJson) ++ [Json.closeList]
  ofJson := Json.readList form.ofJson

/-- The form of another type with the same values. -/
def via {α β : Type} (form : Form β) (unwrap : α → β) (wrap : β → α) : Form α where
  size a := form.size (unwrap a)
  toBinary a := form.toBinary (unwrap a)
  ofBinary bs := (form.ofBinary bs).map fun (b, bs) => (wrap b, bs)
  toJson a := form.toJson (unwrap a)
  ofJson bs := (form.ofJson bs).map fun (b, bs) => (wrap b, bs)

/-- The form of a type whose values are written in one form, and made from what is read in another,
which may fail. -/
def checked {α β γ : Type} (written : Form β) (form : Form γ) (unwrap : α → β)
    (wrap : γ → Except PacketError α) : Form α where
  size a := written.size (unwrap a)
  toBinary a := written.toBinary (unwrap a)
  ofBinary bs := do
    let (b, bs) ← form.ofBinary bs
    return (← (wrap b).mapError .badPacket, bs)
  toJson a := written.toJson (unwrap a)
  ofJson bs := do
    let (b, bs) ← form.ofJson bs
    return (← (wrap b).mapError .badPacket, bs)

end Form

end WaveCache.Wire
