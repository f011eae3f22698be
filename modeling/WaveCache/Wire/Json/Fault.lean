import WaveCache.Packet
import WaveCache.Text.Unprintable
import WaveCache.Text.Utf8

/-!
# Faults of JSON messages

Why a JSON text is no message.  Some faults are of the text itself; others say what stands in the
text (`Found`) where something else was expected.

The messages are those of `serde_json` up to the place of the fault: the line and the column that it
names at the end are left out.
-/

namespace WaveCache.Wire.Json

/-- What stands in a text. -/
inductive Found where
  | null
  | boolean (b : Bool)
  | integer (i : Int)
  | real (x : Binary64)
  | string (s : String)
  | sequence
  | map
  /-- The name of a variant, with no data. -/
  | unitVariant
deriving DecidableEq

/-- How a message names what stands in a text. -/
def Found.describe : Found → String
  | null => "null"
  | boolean b => "boolean `" ++ (if b then "true" else "false") ++ "`"
  | integer i => "integer `" ++ toString i ++ "`"
  | real x => "floating point `" ++ Text.ofAscii x.numeral ++ "`"
  | string s => "string " ++ Text.quoted s
  | sequence => "sequence"
  | map => "map"
  | unitVariant => "unit variant"

/-- Why a JSON text is no message. -/
inductive Fault where
  | endInList
  | endInObject
  | endInString
  | endInValue
  | expectedColon
  | expectedListCommaOrEnd
  | expectedObjectCommaOrEnd
  /-- A word that begins like `null`, `true` or `false` goes on differently. -/
  | expectedWord
  | expectedValue
  | invalidEscape
  | invalidNumber
  | numberOutOfRange
  /-- A text is not UTF-8. -/
  | invalidCodePoint
  | controlCharacter
  | keyMustBeString
  | loneSurrogate
  | unfinishedSurrogates
  | trailingComma
  | trailingCharacters
  /-- A value of the wrong kind. -/
  | invalidType (found : Found) (expected : String)
  /-- A value of the right kind that is not allowed. -/
  | invalidValue (found : Found) (expected : String)
  /-- A record with too few elements. -/
  | invalidLength (found : Nat) (expected : String)
  | unknownVariant (name : String) (known : List String)
  | missingField (name : String)
  | duplicateField (name : String)
  /-- The fields of a packet make no packet. -/
  | badPacket (error : PacketError)
deriving DecidableEq

/-- A name between back quotes. -/
def backQuoted (name : String) : String :=
  "`" ++ name ++ "`"

/-- The text of a fault. -/
def Fault.message : Fault → String
  | endInList => "EOF while parsing a list"
  | endInObject => "EOF while parsing an object"
  | endInString => "EOF while parsing a string"
  | endInValue => "EOF while parsing a value"
  | expectedColon => "expected `:`"
  | expectedListCommaOrEnd => "expected `,` or `]`"
  | expectedObjectCommaOrEnd => "expected `,` or `\x7d`"
  | expectedWord => "expected ident"
  | expectedValue => "expected value"
  | invalidEscape => "invalid escape"
  | invalidNumber => "invalid number"
  | numberOutOfRange => "number out of range"
  | invalidCodePoint => "invalid unicode code point"
  | controlCharacter => "control character (\\u0000-\\u001F) found while parsing a string"
  | keyMustBeString => "key must be a string"
  | loneSurrogate => "lone leading surrogate in hex escape"
  | unfinishedSurrogates => "unexpected end of hex escape"
  | trailingComma => "trailing comma"
  | trailingCharacters => "trailing characters"
  | invalidType found expected =>
    "invalid type: " ++ found.describe ++ ", expected " ++ expected
  | invalidValue found expected =>
    "invalid value: " ++ found.describe ++ ", expected " ++ expected
  | invalidLength found expected =>
    "invalid length " ++ toString found ++ ", expected " ++ expected
  | unknownVariant name known =>
    "unknown variant " ++ backQuoted name ++ ", expected " ++
      match known with
      | [a, b] => backQuoted a ++ " or " ++ backQuoted b
      | known => "one of " ++ ", ".intercalate (known.map backQuoted)
  | missingField name => "missing field " ++ backQuoted name
  | duplicateField name => "duplicate field " ++ backQuoted name
  | badPacket error => error.message

end WaveCache.Wire.Json
