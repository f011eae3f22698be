import WaveCache.Service.Basic
import WaveCache.Wire.Messages

/-!
# Taking in packets

A running service takes in packets whose channel satisfies its rules.  The channel is looked at
before the store is, so a refused packet changes nothing there.  A packet that is too old touches
its channel all the same; whether that is an error is up to the configuration.  If the store does
not return, neither does the service, and nothing is counted.

This is `ingest` and `ingest_bytes` of `PacketCacheService`; `accept` is its `store`.
-/

namespace WaveCache

/-- What became of a packet. -/
inductive IngestOutcome where
  | stored
  | replaced
  /-- It was stored, and the packet with the given start was given up for it. -/
  | storedEvicting (evicted : Micros)
  | droppedTooOld
deriving DecidableEq

/-- What became of a packet and of the channels. -/
structure IngestReport where
  outcome : IngestOutcome
  /-- The channel that was given up for the packet. -/
  evictedChannel : Option ChannelKey
deriving DecidableEq

namespace Service

/-- Counts what became of a packet and of the channels. -/
def countAdded (s : Service) (added : AddReport) : Service :=
  let s := if added.created then s.count Metrics.channelCreated else s
  let s := if added.evicted.isSome then s.count Metrics.channelEvicted else s
  match added.insert with
  | .inserted => s.count (·.packetStored false)
  | .replaced => s.count Metrics.packetReplaced
  | .insertedEvicting _ => s.count (·.packetStored true)
  | .tooOld _ => s.count Metrics.packetTooOld

/-- What is answered for a packet that the store has looked at. -/
def report (s : Service) (p : Packet) (added : AddReport) : Except CacheError IngestReport :=
  match added.insert with
  | .inserted => .ok ⟨.stored, added.evicted⟩
  | .replaced => .ok ⟨.replaced, added.evicted⟩
  | .insertedEvicting evicted => .ok ⟨.storedEvicting evicted, added.evicted⟩
  | .tooOld oldest =>
    match s.config.tooOld with
    | .drop => .ok ⟨.droppedTooOld, added.evicted⟩
    | .reject => .error (.packetTooOld p.channel p.start oldest)

/-- Takes in a packet whatever the phase. -/
def accept (s : Service) (p : Packet) : Except CacheError IngestReport × Service :=
  match s.config.rules.fault? p.channel with
  | some fault => (.error (.invalidChannel fault), s.count Metrics.packetRejected)
  | none =>
    match s.store.add p with
    | (some added, store) => (s.report p added, { s with store }.countAdded added)
    | (none, store) => (.error .overflow, { s with store })

/-- Takes in a packet. -/
def ingest (s : Service) (p : Packet) : Except CacheError IngestReport × Service :=
  if s.phase = .running then s.accept p else (.error (.notRunning s.phase), s)

/-- Takes in a packet in a given encoding.  Bytes that are no packet count as a refused one. -/
def ingestBytes (s : Service) (encoding : Encoding) (bs : List UInt8) :
    Except CacheError IngestReport × Service :=
  if s.phase = .running then
    match Wire.Form.packet.decode encoding bs with
    | .ok p => s.ingest p
    | .error error => (.error (.codec error), s.count Metrics.packetRejected)
  else (.error (.notRunning s.phase), s)

end Service

end WaveCache
