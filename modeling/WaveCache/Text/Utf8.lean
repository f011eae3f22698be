/-!
# Text as bytes

`bytesOf` gives the UTF-8 bytes of a text and `ofBytes?` the text of given bytes, if they are UTF-8;
`ofBytes?_bytesOf` and `bytesOf_of_ofBytes?` say that the two undo each other.  For bytes that are
not UTF-8, `Utf8.fault` says where they go wrong.
-/

namespace WaveCache.Text

/-- The UTF-8 bytes of a text. -/
def bytesOf (s : String) : List UInt8 :=
  s.toUTF8.data.toList

/-- The text that the bytes encode. -/
def ofBytes? (bs : List UInt8) : Option String :=
  String.fromUTF8? bs.toByteArray

/-- Where bytes stop being UTF-8. -/
structure Utf8.Fault where
  /-- The number of bytes in front that are UTF-8. -/
  index : Nat
  /-- How many bytes from there on cannot begin a character; nothing if more bytes might make one of
  them. -/
  length : Option Nat
deriving DecidableEq

namespace Utf8

/-- The text of a fault. -/
def Fault.message (f : Fault) : String :=
  match f.length with
  | some length =>
    "invalid utf-8 sequence of " ++ toString length ++ " bytes from index " ++ toString f.index
  | none => "incomplete utf-8 byte sequence from index " ++ toString f.index

/-- How many bytes follow a leading byte, and the range of the first of them.  The narrower ranges
leave out surrogates, code points that are too great, and longer forms than necessary. -/
def continuation (b : UInt8) : Option (Nat × UInt8 × UInt8) :=
  if b < 0x80 then some (0, 0, 0)
  else if b < 0xC2 then none
  else if b < 0xE0 then some (1, 0x80, 0xBF)
  else if b = 0xE0 then some (2, 0xA0, 0xBF)
  else if b = 0xED then some (2, 0x80, 0x9F)
  else if b < 0xF0 then some (2, 0x80, 0xBF)
  else if b = 0xF0 then some (3, 0x90, 0xBF)
  else if b < 0xF4 then some (3, 0x80, 0xBF)
  else if b = 0xF4 then some (3, 0x80, 0x8F)
  else none

/-- What the search for a fault is in the middle of. -/
structure Progress where
  /-- The number of bytes before the character that is being read. -/
  index : Nat
  /-- The number of its bytes that have been read. -/
  seen : Nat
  /-- The number of its bytes that are still due. -/
  due : Nat
  /-- The range of the next of them. -/
  low : UInt8
  high : UInt8

/-- Searches for the first fault, one byte after another. -/
def Progress.search (p : Progress) : List UInt8 → Fault
  | [] => ⟨p.index, none⟩
  | b :: bs =>
    if p.due = 0 then
      match continuation b with
      | none => ⟨p.index, some 1⟩
      | some (0, _, _) => search ⟨p.index + 1, 0, 0, 0, 0⟩ bs
      | some (due, low, high) => search ⟨p.index, 1, due, low, high⟩ bs
    else if p.low ≤ b && b ≤ p.high then
      if p.due = 1 then search ⟨p.index + p.seen + 1, 0, 0, 0, 0⟩ bs
      else search ⟨p.index, p.seen + 1, p.due - 1, 0x80, 0xBF⟩ bs
    else ⟨p.index, some p.seen⟩

/-- Where bytes stop being UTF-8.  The answer means something only if they do. -/
def fault (bs : List UInt8) : Fault :=
  Progress.search ⟨0, 0, 0, 0, 0⟩ bs

end Utf8

/-! ## Facts -/

theorem ofBytes?_bytesOf (s : String) : ofBytes? (bytesOf s) = some s := by
  have h : (bytesOf s).toByteArray = s.toByteArray := by
    apply ByteArray.ext
    simp [bytesOf, String.toUTF8]
  rw [ofBytes?, h, String.fromUTF8?, dif_pos s.isValidUTF8]
  rfl

theorem bytesOf_of_ofBytes? {bs : List UInt8} {s : String} (h : ofBytes? bs = some s) :
    bytesOf s = bs := by
  rw [ofBytes?, String.fromUTF8?] at h
  split at h
  case isTrue hv =>
    cases h
    simp [bytesOf, String.toUTF8, String.fromUTF8]
  case isFalse => cases h

end WaveCache.Text
