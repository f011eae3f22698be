import WaveCache.Channel.Rules

/-!
# Cache configuration

The bounds of a cache, the rules for its channels and what it answers to a packet that comes too
late.  `CacheConfig.fault?` says what is wrong with a configuration, the packet bound being looked
at before the channel bound and both before the rules.

`check` is the `validate` of `CacheConfig`, which its builder calls as well.
-/

namespace WaveCache

/-- What a cache answers to a packet that is too old to be taken in. -/
inductive TooOldPolicy where
  /-- It reports that the packet was dropped. -/
  | drop
  /-- It reports an error. -/
  | reject
deriving DecidableEq

/-- Why a configuration is refused. -/
inductive ConfigError where
  | zeroPacketCapacity
  | zeroChannelCapacity
  /-- No channel could ever satisfy the rules. -/
  | invalidRules
deriving DecidableEq

/-- The text of an error. -/
def ConfigError.message : ConfigError → String
  | zeroPacketCapacity => "max_packets_per_channel must be at least 1"
  | zeroChannelCapacity => "max_channels must be at least 1"
  | invalidRules => "Invalid channel rules: code length limits must be positive"

/-- The configuration of a cache. -/
structure CacheConfig where
  maxPackets : UInt64
  maxChannels : UInt64
  rules : ChannelRules
  tooOld : TooOldPolicy
deriving DecidableEq

namespace CacheConfig

/-- The configuration where nothing is said. -/
def standard : CacheConfig where
  maxPackets := 300
  maxChannels := 10000
  rules := .standard
  tooOld := .drop

/-- The first thing that is wrong with a configuration. -/
def fault? (config : CacheConfig) : Option ConfigError :=
  if config.maxPackets = 0 then some .zeroPacketCapacity
  else if config.maxChannels = 0 then some .zeroChannelCapacity
  else if !config.rules.isConsistent then some .invalidRules
  else none

/-- The configuration itself, if nothing is wrong with it. -/
def check (config : CacheConfig) : Except ConfigError CacheConfig :=
  match config.fault? with
  | some fault => .error fault
  | none => .ok config

end CacheConfig

end WaveCache
