import WaveCache.Channel.Key
import WaveCache.Time

/-!
# Requests

What a peer may ask a cache for: the packets of a channel named by its key or by its dotted name,
several of these at once, or the list of channels.  Each request has an identifier of the peer's
choice, which the response repeats.

Who may ask is said by an `Authorizer`.  A peer is known by its name, and names are compared
exactly.

The requests are `SensorRequest`, `DataRequest`, `BulkDataRequest` (`BulkRequest`),
`ChannelListRequest` (`ListRequest`) and `CacheRequest` (`Request`).  `Peer` models `PeerIdentity`,
and an `Authorizer` is one of `AllowAll`, `AllowList` and `DenyList`.
-/

namespace WaveCache

/-! ## Peers -/

/-- The name by which a peer is known. -/
structure Peer where
  name : String
deriving DecidableEq, Inhabited

/-- A rule for who may ask. -/
inductive Authorizer where
  /-- Everyone may. -/
  | everyone
  /-- The listed peers may, and no others. -/
  | only (peers : List Peer)
  /-- Everyone may but the listed peers. -/
  | allBut (peers : List Peer)

/-- Whether a peer may ask. -/
def Authorizer.admits : Authorizer → Peer → Bool
  | everyone, _ => true
  | only peers, peer => peers.contains peer
  | allBut peers, peer => !peers.contains peer

/-! ## What they ask for -/

/-- Asks for the packets of a channel in a stretch of time. -/
structure SensorRequest where
  identifier : UInt64
  channel : ChannelKey
  start : Micros
  finish : Micros
deriving DecidableEq

/-- Whether the stretch of time has a microsecond in it. -/
def SensorRequest.hasValidRange (r : SensorRequest) : Bool :=
  r.start ≤ r.finish

/-- Asks for the packets of a channel that is given by its dotted name. -/
structure DataRequest where
  identifier : UInt64
  name : String
  start : Micros
  finish : Micros
deriving DecidableEq

/-- Asks for the packets of several channels. -/
structure BulkRequest where
  identifier : UInt64
  requests : List SensorRequest
deriving DecidableEq

/-- Asks for the live channels. -/
structure ListRequest where
  identifier : UInt64
deriving DecidableEq

/-- Any request. -/
inductive Request where
  | sensor (request : SensorRequest)
  | data (request : DataRequest)
  | bulk (request : BulkRequest)
  | channelList (request : ListRequest)
deriving DecidableEq

namespace Request

/-- The identifier of a request. -/
def identifier : Request → UInt64
  | sensor r => r.identifier
  | data r => r.identifier
  | bulk r => r.identifier
  | channelList r => r.identifier

/-- What kind of request it is. -/
def kind : Request → String
  | sensor _ => "sensor"
  | data _ => "data"
  | bulk _ => "bulk"
  | channelList _ => "channel_list"

end Request

end WaveCache
