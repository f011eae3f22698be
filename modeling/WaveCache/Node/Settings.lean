import WaveCache.Config
import WaveCache.Toml.Document
import WaveCache.Wire.Encoding

/-!
# Settings of a node

A settings file is a TOML document with the sections `cache`, `bus`, `security` and `service`.
Every section may be left out and so may every key in it, but a section or a key with another name
is an error.  A section may also be a list of all its values in order.

`Settings.read` gives what a file says and nothing else: a value that is not in the file has no
place in the result.

`Settings` models `ConfigFile` with its four sections.
-/

namespace WaveCache

/-! ## Values of settings -/

namespace Toml.Value

/-- A number of things. -/
def size? : Value → Option UInt64
  | integer n => if 0 ≤ n then some (UInt64.ofNat n.toNat) else none
  | _ => none

/-- Yes or no. -/
def boolean? : Value → Option Bool
  | boolean b => some b
  | _ => none

/-- A text. -/
def string? : Value → Option String
  | string s => some s
  | _ => none

/-- A list of texts. -/
def strings? : Value → Option (List String)
  | list items => items.mapM string?
  | _ => none

/-- The items of a list, if it is one. -/
def items? : Value → Option (List Value)
  | list items => some items
  | tables items => some (items.map (table .header))
  | _ => none

/-- The entries of a table, if it is one. -/
def entries? : Value → Option Entries
  | table _ entries => some entries
  | _ => none

/-- Whether there is nothing in a list or a table. -/
def isBare : Value → Bool
  | list items => items.isEmpty
  | table _ entries => entries.isEmpty
  | _ => false

/-- A name.  A table with nothing under its only key is as good as the key. -/
def name? : Value → Option String
  | string s => some s
  | table _ [(key, value)] => if value.isBare then some key else none
  | _ => none

/-- One of several things with names. -/
def oneOf? {α : Type} (choices : List (String × α)) (value : Value) : Option α :=
  value.name?.bind fun name => choices.lookup name

/-- The fields of a section that holds no others.  If it is a list, the fields have to be there in
order, unless `mayLack` says that the last ones may be missing. -/
def fields? (names : List String) (mayLack : Bool) (value : Value) : Option Entries :=
  match value.entries?, value.items? with
  | some entries, _ => if entries.all (names.contains ·.1) then some entries else none
  | none, some items =>
    if mayLack || names.length ≤ items.length then some (names.zip items) else none
  | none, none => none

end Toml.Value

/-- Reads a field, if it is there. -/
def Toml.Entries.optional {α : Type} (entries : Toml.Entries) (key : String)
    (read : Toml.Value → Option α) : Option (Option α) :=
  match entries.lookup key with
  | none => some none
  | some value => (read value).map some

/-! ## Sections -/

/-- What a file says. -/
structure Settings where
  maxPackets : Option UInt64
  maxChannels : Option UInt64
  tooOld : Option TooOldPolicy
  emptyLocation : Option Bool
  maxNetwork : Option UInt64
  maxStation : Option UInt64
  maxChannel : Option UInt64
  maxLocation : Option UInt64
  busCapacity : Option UInt64
  queueDepth : Option UInt64
  /-- In milliseconds. -/
  timeout : Option UInt64
  allow : List String
  deny : List String
  encoding : Option Encoding

namespace Settings

/-- The names of the sections. -/
def sections : List String := ["cache", "bus", "security", "service"]

/-- The names in the section `cache`, in order. -/
def cacheKeys : List String :=
  ["max_packets_per_channel", "max_channels", "too_old_policy", "allow_empty_location",
    "max_network_len", "max_station_len", "max_channel_len", "max_location_len"]

/-- The names in the section `bus`, in order. -/
def busKeys : List String := ["channel_capacity", "request_queue_depth", "request_timeout_ms"]

/-- The names in the section `security`, in order. -/
def securityKeys : List String := ["allow", "deny"]

/-- The names in the section `service`. -/
def serviceKeys : List String := ["encoding"]

/-- What can be done with packets that are too old. -/
def policies : List (String × TooOldPolicy) := [("drop", .drop), ("reject", .reject)]

/-- The encodings. -/
def encodings : List (String × Encoding) := [("binary", .binary), ("text", .text)]

/-- The fields of a section, none if it is left out. -/
def section? (document : Toml.Entries) (name : String) (keys : List String) (mayLack : Bool) :
    Option Toml.Entries :=
  match document.lookup name with
  | none => some []
  | some value => value.fields? keys mayLack

/-- What a document says. -/
def ofDocument (document : Toml.Entries) : Option Settings := do
  guard (document.all (sections.contains ·.1))
  let cache ← section? document "cache" cacheKeys false
  let bus ← section? document "bus" busKeys false
  let security ← section? document "security" securityKeys true
  let service ← section? document "service" serviceKeys false
  return {
    maxPackets := ← cache.optional "max_packets_per_channel" (·.size?)
    maxChannels := ← cache.optional "max_channels" (·.size?)
    tooOld := ← cache.optional "too_old_policy" (·.oneOf? policies)
    emptyLocation := ← cache.optional "allow_empty_location" (·.boolean?)
    maxNetwork := ← cache.optional "max_network_len" (·.size?)
    maxStation := ← cache.optional "max_station_len" (·.size?)
    maxChannel := ← cache.optional "max_channel_len" (·.size?)
    maxLocation := ← cache.optional "max_location_len" (·.size?)
    busCapacity := ← bus.optional "channel_capacity" (·.size?)
    queueDepth := ← bus.optional "request_queue_depth" (·.size?)
    timeout := ← bus.optional "request_timeout_ms" (·.size?)
    allow := (← security.optional "allow" (·.strings?)).getD []
    deny := (← security.optional "deny" (·.strings?)).getD []
    encoding := ← service.optional "encoding" (·.oneOf? encodings) }

/-- What a file says, if it is a settings file. -/
def read (text : String) : Option Settings :=
  (Toml.read text).bind ofDocument

end Settings

end WaveCache
