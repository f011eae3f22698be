import WaveCache.Text.Unprintable
import WaveCache.Wire.Form

/-!
# Encodings

A message is sent in bytes, behind a header of two bytes with the version of the protocol, or as
JSON text without a header.  `Form.encode` and `Form.decode` go from messages to sent bytes and
back; a decoder accepts nothing behind the message.

The functions on forms are those of `WireMessage`: `encodeBinary` and `decodeBinary` are `to_binary`
and `from_binary`, `encodeText` and `decodeText` are `to_text` and `from_text`.  The bound on the
size holds for the encoder only, as `bincode` does not look at its limit when it reads from bytes
that are all there.
-/

namespace WaveCache

/-- The two ways of sending a message. -/
inductive Encoding where
  | binary
  | text
deriving DecidableEq, Inhabited

/-- Why a message cannot be sent, or is none. -/
inductive CodecError where
  | emptyMessage
  /-- The bytes end inside the header. -/
  | truncated
  | unsupportedVersion (found : Nat)
  | binary (fault : Wire.BinaryFault)
  | text (fault : Wire.Json.Fault)
  /-- There is no encoding of this name. -/
  | unknownEncoding (name : String)
deriving DecidableEq

/-- The version of the protocol. -/
def protocolVersion : Nat := 1

namespace CodecError

/-- The text of an error. -/
def message : CodecError → String
  | emptyMessage => "Empty message"
  | truncated => "Message truncated before protocol header"
  | unsupportedVersion found =>
    "Unsupported protocol version " ++ toString found ++ " (expected " ++
      toString protocolVersion ++ ")"
  | binary fault => "Binary codec error: " ++ fault.message
  | text fault => "Text codec error: " ++ fault.message
  | unknownEncoding name => "Text codec error: unknown encoding " ++ Text.quoted name

end CodecError

namespace Encoding

/-- The name of an encoding. -/
def name : Encoding → String
  | binary => "binary"
  | text => "text"

/-- The encoding of a given name, in any case of ASCII letters. -/
def ofName (name : String) : Except CodecError Encoding :=
  let lower := String.ofList (name.toList.map Char.toLower)
  if lower = "binary" ∨ lower = "bin" then .ok binary
  else if lower = "text" ∨ lower = "json" then .ok text
  else .error (.unknownEncoding lower)

end Encoding

namespace Wire.Form

/-- The greatest number of bytes behind a header: 64 MiB. -/
def maxBytes : Nat := 64 * 1024 * 1024

/-- A message behind a header. -/
def encodeBinary {α : Type} (form : Form α) (a : α) : Except CodecError (List UInt8) :=
  if maxBytes < form.size a then .error (.binary .tooLarge)
  else .ok (Binary.bytesOfNat 2 protocolVersion ++ form.toBinary a)

/-- Reads a message behind a header. -/
def decodeBinary {α : Type} (form : Form α) : List UInt8 → Except CodecError α
  | [] => .error .emptyMessage
  | [_] => .error .truncated
  | low :: high :: body =>
    let version := Binary.natOfBytes [low, high]
    if version ≠ protocolVersion then .error (.unsupportedVersion version)
    else
      match form.ofBinary body with
      | .error fault => .error (.binary fault)
      | .ok (a, []) => .ok a
      | .ok (_, _ :: _) => .error (.binary .trailingBytes)

/-- A message as JSON text. -/
def encodeText {α : Type} (form : Form α) (a : α) : List UInt8 :=
  form.toJson a

/-- Reads a message as JSON text.  Blanks around it are ignored. -/
def decodeText {α : Type} (form : Form α) (bs : List UInt8) : Except CodecError α :=
  if bs.isEmpty then .error .emptyMessage
  else
    match form.ofJson bs with
    | .error fault => .error (.text fault)
    | .ok (a, rest) =>
      if (Json.skipSpace rest).isEmpty then .ok a else .error (.text .trailingCharacters)

/-- A message in a given encoding. -/
def encode {α : Type} (form : Form α) (a : α) : Encoding → Except CodecError (List UInt8)
  | .binary => form.encodeBinary a
  | .text => .ok (form.encodeText a)

/-- Reads a message in a given encoding. -/
def decode {α : Type} (form : Form α) : Encoding → List UInt8 → Except CodecError α
  | .binary, bs => form.decodeBinary bs
  | .text, bs => form.decodeText bs

end Wire.Form

end WaveCache
