import WaveCache.Packet
import WaveCache.Text.Utf8

/-!
# Values in bytes

The parts from which every binary message is made: numbers of a fixed width with the least byte
first, and texts with their length in front.  A reader takes what it needs from the front of the
bytes and hands back the rest.

This is `bincode` with fixed-width integers.
-/

namespace WaveCache.Wire

/-- Why bytes are no message, or a message has no bytes. -/
inductive BinaryFault where
  /-- The bytes end inside a number. -/
  | unexpectedEnd
  /-- A text is said to be longer than all that is left. -/
  | textTooLong
  /-- A text is not UTF-8. -/
  | notUtf8 (fault : Text.Utf8.Fault)
  /-- A truth value is neither 0 nor 1. -/
  | badBool (found : UInt8)
  /-- There is no variant with this number. -/
  | badVariant (found count : Nat)
  /-- Bytes are left over. -/
  | trailingBytes
  /-- The message would have too many bytes. -/
  | tooLarge
  /-- The fields of a packet make no packet. -/
  | badPacket (error : PacketError)
deriving DecidableEq

/-- The text of a fault. -/
def BinaryFault.message : BinaryFault → String
  | unexpectedEnd => "io error: unexpected end of file"
  | textTooLong => "io error: "
  | notUtf8 fault => "string is not valid utf8: " ++ fault.message
  | badBool found =>
    "invalid u8 while decoding bool, expected 0 or 1, found " ++ toString found.toNat
  | badVariant found count =>
    "invalid value: integer `" ++ toString found ++ "`, expected variant index 0 <= i < " ++
      toString count
  | trailingBytes => "Slice had bytes remaining after deserialization"
  | tooLarge => "the size limit has been reached"
  | badPacket error => error.message

namespace Binary

/-- The low bytes of a number, the least first. -/
def bytesOfNat : (width : Nat) → Nat → List UInt8
  | 0, _ => []
  | width + 1, n => UInt8.ofNat n :: bytesOfNat width (n / 256)

/-- The number that bytes stand for, the least first. -/
def natOfBytes : List UInt8 → Nat
  | [] => 0
  | b :: bs => b.toNat + 256 * natOfBytes bs

/-- Takes so many bytes off the front. -/
def takeBytes : (width : Nat) → List UInt8 → Option (List UInt8 × List UInt8)
  | 0, bs => some ([], bs)
  | _ + 1, [] => none
  | width + 1, b :: bs => (takeBytes width bs).map fun (front, rest) => (b :: front, rest)

/-- Reads a number of a fixed width. -/
def readNat (width : Nat) (bs : List UInt8) : Except BinaryFault (Nat × List UInt8) :=
  match takeBytes width bs with
  | some (front, rest) => .ok (natOfBytes front, rest)
  | none => .error .unexpectedEnd

/-- The bytes of a text with their number in front. -/
def bytesOfText (s : String) : List UInt8 :=
  let bs := Text.bytesOf s
  bytesOfNat 8 bs.length ++ bs

/-- Reads a text. -/
def readText (bs : List UInt8) : Except BinaryFault (String × List UInt8) := do
  let (length, bs) ← readNat 8 bs
  if bs.length < length then throw .textTooLong
  match Text.ofBytes? (bs.take length) with
  | some s => return (s, bs.drop length)
  | none => throw (.notUtf8 (Text.Utf8.fault (bs.take length)))

/-- Reads a truth value. -/
def readBool (bs : List UInt8) : Except BinaryFault (Bool × List UInt8) := do
  let (n, bs) ← readNat 1 bs
  if n = 0 then return (false, bs)
  else if n = 1 then return (true, bs)
  else throw (.badBool (UInt8.ofNat n))

/-- Reads so many values, one after another.  The values read so far stand in reverse order. -/
def readMany {α : Type} (read : List UInt8 → Except BinaryFault (α × List UInt8)) :
    (count : Nat) → (reversed : List α) → List UInt8 → Except BinaryFault (List α × List UInt8)
  | 0, reversed, bs => .ok (reversed.reverse, bs)
  | count + 1, reversed, bs =>
    match read bs with
    | .error fault => .error fault
    | .ok (a, bs) => readMany read count (a :: reversed) bs

end Binary

end WaveCache.Wire
