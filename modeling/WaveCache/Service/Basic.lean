import WaveCache.ChannelStore
import WaveCache.Config
import WaveCache.Metrics
import WaveCache.Wire.Encoding

/-!
# Services

A service is a channel store with a configuration, a phase and counters.  It takes in packets and
answers requests only while it runs, and it forgets all packets when it stops.  This module has its
start and its stop.

`Service` models `PacketCacheService`, and its errors are those of `CacheError` that a call can end
with.  `create` is `new`, with counters for `Metrics` and without for `NoOpMetrics`, and `advance`
is `transition`.  Of the calls of `PacketCacheApi`, `start`, `stop` and `stats` are here.
-/

namespace WaveCache

/-- Why a service does not do what it is called for. -/
inductive CacheError where
  | notRunning (phase : Phase)
  | invalidChannel (error : ChannelError)
  /-- A packet is older than the full window of its channel. -/
  | packetTooOld (channel : ChannelKey) (start oldest : Micros)
  | codec (error : CodecError)
  | invalidTransition (source target : Phase)
  | config (error : ConfigError)
  /-- A window cannot be opened.  This is no refusal: the call does not return. -/
  | overflow
deriving DecidableEq

namespace CacheError

/-- The text of an error. -/
def message : CacheError → String
  | notRunning phase => "Service is not running (state: " ++ phase.name ++ ")"
  | invalidChannel error => "Invalid channel: " ++ error.message
  | packetTooOld channel start oldest =>
    "Packet for " ++ channel.dotted ++ " at " ++ toString start.toInt ++
      " predates retained window starting at " ++ toString oldest.toInt
  | codec error => "Codec error: " ++ error.message
  | invalidTransition source target =>
    "Invalid state transition: " ++ source.name ++ " -> " ++ target.name
  | config error => "Configuration error: " ++ error.message
  | overflow => "capacity overflow"

end CacheError

/-- A cache that can be started and stopped. -/
structure Service where
  config : CacheConfig
  store : ChannelStore
  phase : Phase
  /-- The counters, if anyone wants them. -/
  metrics : Option Metrics

/-- A service at a glance. -/
structure ServiceStats where
  phase : Phase
  channels : Nat
  totalPackets : Nat
  maxChannels : Nat
  maxPackets : Nat
deriving DecidableEq

namespace Service

/-- A stopped service without channels. -/
def create (config : CacheConfig) (counting : Bool) : Except CacheError Service :=
  match config.fault? with
  | some fault => .error (.config fault)
  | none =>
    .ok {
      config
      store := .empty config.maxChannels.toNat config.maxPackets.toNat
      phase := .stopped
      metrics := if counting then some .zero else none }

/-- Changes the counters, if there are any. -/
def count (s : Service) (change : Metrics → Metrics) : Service :=
  { s with metrics := s.metrics.map change }

/-- What there is to say about a service. -/
def stats (s : Service) : ServiceStats where
  phase := s.phase
  channels := s.store.size
  totalPackets := s.store.totalPackets
  maxChannels := s.store.maxChannels
  maxPackets := s.store.maxPackets

/-- Goes from one phase to another, if the service is in the first and the second may follow. -/
def advance (s : Service) (source target : Phase) : Except CacheError Unit × Service :=
  if s.phase = source ∧ source.mayBecome target then (.ok (), { s with phase := target })
  else (.error (.invalidTransition s.phase target), s)

/-- Starts a stopped service. -/
def start (s : Service) : Except CacheError Unit × Service :=
  match s.advance .stopped .starting with
  | (.ok (), s) => s.advance .starting .running
  | (.error error, s) => (.error error, s)

/-- Stops a running service, which forgets all its channels. -/
def stop (s : Service) : Except CacheError Unit × Service :=
  match s.advance .running .stopping with
  | (.ok (), s) => { s with store := s.store.clear }.advance .stopping .stopped
  | (.error error, s) => (.error error, s)

end Service

end WaveCache
