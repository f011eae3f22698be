import WaveCache.Channel.Key
import WaveCache.Text.Unprintable

/-!
# Rules for channel keys

A rule set bounds the length of each of the four codes and says whether the location may be empty.
Whatever the rules, no code may hold a point, white space or a control character.  `fault?` gives
the first thing that is wrong with a key, taking the codes in order, and `parse` reads a dotted name
that the rules accept.

`ChannelRules` models `ChannelKeyRules`: `check` is its `validate`, `codeFault?` is `check_code` and
`isConsistent` is `is_consistent`.  `parse` is `parse_with_rules` of `ChannelKey`.
-/

namespace WaveCache

/-- The greatest lengths, in characters, of the four codes. -/
structure ChannelRules where
  maxNetwork : UInt64
  maxStation : UInt64
  maxChannel : UInt64
  maxLocation : UInt64
  /-- Whether a channel may go without a location. -/
  emptyLocation : Bool
deriving DecidableEq

/-- Why a channel name is refused. -/
inductive ChannelError where
  /-- A code is missing. -/
  | empty (part : ChannelPart)
  /-- A code has more characters than it may. -/
  | tooLong (part : ChannelPart) (length max : Nat)
  /-- A code holds a character that no code may hold. -/
  | illegalCharacter (part : ChannelPart) (found : Char)
  /-- A dotted name does not have four parts. -/
  | malformedName (name : String)
deriving DecidableEq

namespace ChannelError

/-- The text of an error. -/
def message : ChannelError → String
  | empty part => part.name ++ " code is empty"
  | tooLong part length max =>
    part.name ++ " code exceeds " ++ toString max ++ " characters: " ++ toString length
  | illegalCharacter part found =>
    part.name ++ " code contains illegal character " ++ Text.quotedChar found
  | malformedName name =>
    "Malformed channel name " ++ Text.quoted name ++ " (expected NET.STA.CHA.LOC)"

end ChannelError

namespace ChannelRules

/-- The rules that hold where none are given. -/
def standard : ChannelRules where
  maxNetwork := 8
  maxStation := 16
  maxChannel := 8
  maxLocation := 8
  emptyLocation := false

/-- The greatest length of a code. -/
def limit (rules : ChannelRules) : ChannelPart → Nat
  | .network => rules.maxNetwork.toNat
  | .station => rules.maxStation.toNat
  | .channel => rules.maxChannel.toNat
  | .location => rules.maxLocation.toNat

/-- Whether a code may be empty.  Only the location ever may. -/
def mayBeEmpty (rules : ChannelRules) : ChannelPart → Bool
  | .location => rules.emptyLocation
  | _ => false

/-- The characters that no code may hold. -/
def isIllegal (c : Char) : Bool :=
  c = ChannelKey.separator || Text.isBlank c || Text.isControl c

/-- What is wrong with one code.  A code that may be empty and is empty is not looked at further. -/
def codeFault? (rules : ChannelRules) (part : ChannelPart) (code : List Char) :
    Option ChannelError :=
  if code = [] then
    if rules.mayBeEmpty part then none else some (.empty part)
  else if rules.limit part < code.length then
    some (.tooLong part code.length (rules.limit part))
  else (code.find? isIllegal).map (.illegalCharacter part)

/-- The first thing that is wrong with a key. -/
def fault? (rules : ChannelRules) (key : ChannelKey) : Option ChannelError :=
  ChannelPart.all.findSome? fun part => rules.codeFault? part (key.code part).toList

/-- The key itself, if the rules accept it. -/
def check (rules : ChannelRules) (key : ChannelKey) : Except ChannelError ChannelKey :=
  match rules.fault? key with
  | some fault => .error fault
  | none => .ok key

/-- The key with a given dotted name, if the rules accept it. -/
def parse (rules : ChannelRules) (name : String) : Except ChannelError ChannelKey :=
  match ChannelKey.ofDotted? name with
  | some key => rules.check key
  | none => .error (.malformedName name)

/-- Whether the limits leave room for any key at all. -/
def isConsistent (rules : ChannelRules) : Bool :=
  0 < rules.maxNetwork && 0 < rules.maxStation && 0 < rules.maxChannel &&
    (0 < rules.maxLocation || rules.emptyLocation)

end ChannelRules

end WaveCache
