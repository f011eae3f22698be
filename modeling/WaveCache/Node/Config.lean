import WaveCache.Message.Request
import WaveCache.Node.Settings
import WaveCache.Telemetry

/-!
# Configuration of a node

The configuration of a node comes in layers: standard values, over them what a settings file says,
and over that two environment variables.  It is checked after the file and again after the
variables, so a variable cannot mend a file that is wrong by itself.

`NodeConfig` has the parts of `NodeConfig`, `BusConfig` and `SecurityConfig`.  `check` is
`validate`, `parse` is `parse`, `override` is `apply_overrides`, `readCount` is `parse_count`, and
`ofEnvironment` is `from_env` with the file system as an argument.  `malformed` does not say what is
wrong with the file and where.
-/

namespace WaveCache

/-- Why there is no configuration. -/
inductive NodeConfigError where
  /-- The settings file cannot be read. -/
  | unreadable (path reason : String)
  /-- The settings file is no settings file. -/
  | malformed
  /-- A variable is no number. -/
  | badVariable (name value : String)
  /-- Peers are both let in and shut out by name. -/
  | conflictingPeers
  | cache (error : ConfigError)
deriving DecidableEq

namespace NodeConfigError

/-- The text of an error. -/
def message : NodeConfigError → String
  | unreadable path reason => "Failed to read " ++ path ++ ": " ++ reason
  | malformed => "Failed to parse config"
  | badVariable name value => "Invalid value for " ++ name ++ ": " ++ Text.quoted value
  | conflictingPeers => "Security section lists both allowed and denied peers"
  | cache error => error.message

end NodeConfigError

/-- The number that a text stands for: decimal digits of a value below `2 ^ 64`, perhaps with a plus
sign in front and with blanks around. -/
def readCount (text : String) : Option UInt64 :=
  let bs := Text.bytesOf (Text.trim text)
  let digits := if bs.head? = some 0x2B then bs.tail else bs
  if digits ≠ [] ∧ digits.all Text.isDigit ∧ Text.digitsValue digits < UInt64.size then
    some (UInt64.ofNat (Text.digitsValue digits))
  else none

/-- The bounds of a node's bus and of its queue of requests. -/
structure BusConfig where
  capacity : UInt64
  /-- The greatest number of requests in the queue. -/
  depth : UInt64
  /-- How long a client waits for a reply, in milliseconds. -/
  timeout : UInt64
deriving DecidableEq

/-- The bounds where none are given. -/
def BusConfig.standard : BusConfig where
  capacity := 1000
  depth := 256
  timeout := 5000

/-- The configuration of a node. -/
structure NodeConfig where
  cache : CacheConfig
  bus : BusConfig
  /-- The peers that are let in, all if there are none. -/
  allow : List String
  /-- The peers that are shut out. -/
  deny : List String
  /-- The encoding that the node's clients use. -/
  encoding : Encoding
deriving DecidableEq

namespace NodeConfig

/-- The configuration where nothing is said. -/
def standard : NodeConfig where
  cache := .standard
  bus := .standard
  allow := []
  deny := []
  encoding := .binary

/-- The rule for who may ask. -/
def authorizer (config : NodeConfig) : Authorizer :=
  if config.allow ≠ [] then .only (config.allow.map Peer.mk)
  else if config.deny ≠ [] then .allBut (config.deny.map Peer.mk)
  else .everyone

/-- The first thing that is wrong with a configuration. -/
def fault? (config : NodeConfig) : Option NodeConfigError :=
  match config.cache.fault? with
  | some fault => some (.cache fault)
  | none => if config.allow ≠ [] ∧ config.deny ≠ [] then some .conflictingPeers else none

/-- The configuration itself, if nothing is wrong with it. -/
def check (config : NodeConfig) : Except NodeConfigError NodeConfig :=
  match config.fault? with
  | some fault => .error fault
  | none => .ok config

/-! ## The file -/

/-- The standard values with what a file says over them. -/
def layer (settings : Settings) : NodeConfig where
  cache := {
    maxPackets := settings.maxPackets.getD standard.cache.maxPackets
    maxChannels := settings.maxChannels.getD standard.cache.maxChannels
    rules := {
      maxNetwork := settings.maxNetwork.getD standard.cache.rules.maxNetwork
      maxStation := settings.maxStation.getD standard.cache.rules.maxStation
      maxChannel := settings.maxChannel.getD standard.cache.rules.maxChannel
      maxLocation := settings.maxLocation.getD standard.cache.rules.maxLocation
      emptyLocation := settings.emptyLocation.getD standard.cache.rules.emptyLocation }
    tooOld := settings.tooOld.getD standard.cache.tooOld }
  bus := {
    capacity := settings.busCapacity.getD standard.bus.capacity
    depth := settings.queueDepth.getD standard.bus.depth
    timeout := settings.timeout.getD standard.bus.timeout }
  allow := settings.allow
  deny := settings.deny
  encoding := settings.encoding.getD standard.encoding

/-- The configuration that settings ask for. -/
def ofSettings (settings : Settings) : Except NodeConfigError NodeConfig :=
  (layer settings).check

/-- The configuration that a file asks for. -/
def parse (text : String) : Except NodeConfigError NodeConfig :=
  match Settings.read text with
  | some settings => ofSettings settings
  | none => .error .malformed

/-! ## The environment -/

/-- The variable over `max_channels`. -/
def channelsVariable : String := "UMPS_MAX_CHANNELS"

/-- The variable over `max_packets_per_channel`. -/
def packetsVariable : String := "UMPS_MAX_PACKETS"

/-- The variable with the path of the settings file. -/
def pathVariable : String := "UMPS_CACHE_CONFIG"

/-- The number in a variable, or another if the variable is not set. -/
def variableOr (environment : Environment) (name : String) (standard : UInt64) :
    Except NodeConfigError UInt64 :=
  match environment name with
  | none => .ok standard
  | some value =>
    match readCount value with
    | some count => .ok count
    | none => .error (.badVariable name value)

/-- The configuration with what the variables say over it. -/
def override (config : NodeConfig) (environment : Environment) :
    Except NodeConfigError NodeConfig := do
  let maxChannels ← variableOr environment channelsVariable config.cache.maxChannels
  let maxPackets ← variableOr environment packetsVariable config.cache.maxPackets
  check { config with cache := { config.cache with maxChannels, maxPackets } }

/-- The configuration that the environment asks for.  `read` gives the text of the file at a path,
or says why there is none. -/
def ofEnvironment (environment : Environment) (read : String → Except String String) :
    Except NodeConfigError NodeConfig := do
  let config ←
    match environment pathVariable with
    | none => pure standard
    | some path =>
      match read path with
      | .ok text => parse text
      | .error reason => throw (.unreadable path reason)
  config.override environment

end NodeConfig

end WaveCache
