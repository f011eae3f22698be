import WaveCache.Config
import WaveCache.Message.Request
import WaveCache.Metrics
import WaveCache.Wire.Choice
import WaveCache.Wire.Encoding
import WaveCache.Wire.Record

/-!
# The forms of messages

How each kind of message is written: the names of its fields or variants and the forms of their
values, in order.

A packet is written as a `DataPacket` and read as `PacketFields`, so its fields are listed twice.
-/

namespace WaveCache.Wire.Form

/-! ## Channels and packets -/

/-- A channel key.  No rules are applied to it. -/
def channelKey : Form ChannelKey :=
  (record "ChannelKey"
    (.field "network" text <| .field "station" text <| .field "channel" text <|
      .field "location_code" text .nil)).via
    (fun k => (k.network, k.station, k.channel, k.location, ()))
    (fun (network, station, channel, location, _) => ⟨network, station, channel, location⟩)

/-- The fields of a packet that are written.  Its end is none of them. -/
def dataPacket : Form (ChannelKey × Micros × Binary64 × List Binary64 × Unit) :=
  record "DataPacket"
    (.field "channel" channelKey <| .field "start_time" time <|
      .field "sampling_rate" double <| .field "samples" (list double) .nil)

/-- The fields of a packet as they are read, which need not make one. -/
def packetFields : Form (ChannelKey × Micros × Binary64 × List Binary64 × Unit) :=
  record "PacketFields"
    (.field "channel" channelKey <| .field "start_time" time <|
      .field "sampling_rate" double <| .field "samples" (list double) .nil)

/-- A packet.  Its end is not written but follows from the rest, which has to make a packet. -/
def packet : Form Packet :=
  dataPacket.checked packetFields (fun p => (p.channel, p.start, p.rate, p.samples, ()))
    (fun (channel, start, rate, samples, _) => Packet.make channel start rate samples)

/-! ## Requests -/

/-- A request for the packets of a channel. -/
def sensorRequest : Form SensorRequest :=
  (record "SensorRequest"
    (.field "identifier" word <| .field "channel" channelKey <| .field "start_time" time <|
      .field "end_time" time .nil)).via
    (fun r => (r.identifier, r.channel, r.start, r.finish, ()))
    (fun (identifier, channel, start, finish, _) => ⟨identifier, channel, start, finish⟩)

/-- A request for the packets of a channel given by name. -/
def dataRequest : Form DataRequest :=
  (record "DataRequest"
    (.field "identifier" word <| .field "name" text <| .field "start_time" time <|
      .field "end_time" time .nil)).via
    (fun r => (r.identifier, r.name, r.start, r.finish, ()))
    (fun (identifier, name, start, finish, _) => ⟨identifier, name, start, finish⟩)

/-- A request for the packets of several channels. -/
def bulkRequest : Form BulkRequest :=
  (record "BulkDataRequest"
    (.field "identifier" word <| .field "requests" (list sensorRequest) .nil)).via
    (fun r => (r.identifier, r.requests, ()))
    (fun (identifier, requests, _) => ⟨identifier, requests⟩)

/-- A request for the live channels. -/
def listRequest : Form ListRequest :=
  (record "ChannelListRequest" (.field "identifier" word .nil)).via
    (fun r => (r.identifier, ()))
    (fun (identifier, _) => ⟨identifier⟩)

/-- Any request. -/
def request : Form Request :=
  (choice
    (.data "Sensor" sensorRequest <| .data "Data" dataRequest <| .data "Bulk" bulkRequest <|
      .data "ChannelList" listRequest .nil)).via
    (fun
      | .sensor r => .inl r
      | .data r => .inr (.inl r)
      | .bulk r => .inr (.inr (.inl r))
      | .channelList r => .inr (.inr (.inr (.inl r))))
    (fun
      | .inl r => .sensor r
      | .inr (.inl r) => .data r
      | .inr (.inr (.inl r)) => .bulk r
      | .inr (.inr (.inr (.inl r))) => .channelList r)

/-! ## Responses -/

/-- A return code. -/
def returnCode : Form ReturnCode :=
  (choice
    (.bare "Success" <| .bare "UnknownChannel" <| .bare "InvalidRange" <|
      .bare "InvalidMessage" <| .bare "NotRunning" <| .bare "Unauthorized" <|
      .bare "InternalError" .nil)).via
    (fun
      | .success => .inl ()
      | .unknownChannel => .inr (.inl ())
      | .invalidRange => .inr (.inr (.inl ()))
      | .invalidMessage => .inr (.inr (.inr (.inl ())))
      | .notRunning => .inr (.inr (.inr (.inr (.inl ()))))
      | .unauthorized => .inr (.inr (.inr (.inr (.inr (.inl ())))))
      | .internalError => .inr (.inr (.inr (.inr (.inr (.inr (.inl ())))))))
    (fun
      | .inl _ => .success
      | .inr (.inl _) => .unknownChannel
      | .inr (.inr (.inl _)) => .invalidRange
      | .inr (.inr (.inr (.inl _))) => .invalidMessage
      | .inr (.inr (.inr (.inr (.inl _)))) => .notRunning
      | .inr (.inr (.inr (.inr (.inr (.inl _))))) => .unauthorized
      | .inr (.inr (.inr (.inr (.inr (.inr (.inl _)))))) => .internalError)

/-- The packets of a channel. -/
def sensorResponse : Form SensorResponse :=
  (record "SensorResponse"
    (.field "identifier" word <| .field "channel" channelKey <|
      .field "packets" (list packet) <| .field "return_code" returnCode .nil)).via
    (fun r => (r.identifier, r.channel, r.packets, r.code, ()))
    (fun (identifier, channel, packets, code, _) => ⟨identifier, channel, packets, code⟩)

/-- The packets of a channel given by name. -/
def dataResponse : Form DataResponse :=
  (record "DataResponse"
    (.field "identifier" word <| .field "name" text <| .field "packets" (list packet) <|
      .field "return_code" returnCode .nil)).via
    (fun r => (r.identifier, r.name, r.packets, r.code, ()))
    (fun (identifier, name, packets, code, _) => ⟨identifier, name, packets, code⟩)

/-- The packets of several channels. -/
def bulkResponse : Form BulkResponse :=
  (record "BulkDataResponse"
    (.field "identifier" word <| .field "responses" (list sensorResponse) <|
      .field "return_code" returnCode .nil)).via
    (fun r => (r.identifier, r.responses, r.code, ()))
    (fun (identifier, responses, code, _) => ⟨identifier, responses, code⟩)

/-- The live channels. -/
def listResponse : Form ListResponse :=
  (record "ChannelListResponse"
    (.field "identifier" word <| .field "channels" (list channelKey) <|
      .field "return_code" returnCode .nil)).via
    (fun r => (r.identifier, r.channels, r.code, ()))
    (fun (identifier, channels, code, _) => ⟨identifier, channels, code⟩)

/-- A failure. -/
def failureResponse : Form FailureResponse :=
  (record "FailureResponse"
    (.field "identifier" word <| .field "return_code" returnCode <|
      .field "details" text .nil)).via
    (fun r => (r.identifier, r.code, r.details, ()))
    (fun (identifier, code, details, _) => ⟨identifier, code, details⟩)

/-- Any response. -/
def response : Form Response :=
  (choice
    (.data "Sensor" sensorResponse <| .data "Data" dataResponse <| .data "Bulk" bulkResponse <|
      .data "ChannelList" listResponse <| .data "Failure" failureResponse .nil)).via
    (fun
      | .sensor r => .inl r
      | .data r => .inr (.inl r)
      | .bulk r => .inr (.inr (.inl r))
      | .channelList r => .inr (.inr (.inr (.inl r)))
      | .failure r => .inr (.inr (.inr (.inr (.inl r)))))
    (fun
      | .inl r => .sensor r
      | .inr (.inl r) => .data r
      | .inr (.inr (.inl r)) => .bulk r
      | .inr (.inr (.inr (.inl r))) => .channelList r
      | .inr (.inr (.inr (.inr (.inl r)))) => .failure r)

/-! ## Configuration and state -/

/-- Rules for channel keys. -/
def channelRules : Form ChannelRules :=
  (record "ChannelKeyRules"
    (.field "max_network_len" count <| .field "max_station_len" count <|
      .field "max_channel_len" count <| .field "max_location_len" count <|
      .field "allow_empty_location" bool .nil)).via
    (fun r => (r.maxNetwork, r.maxStation, r.maxChannel, r.maxLocation, r.emptyLocation, ()))
    (fun (network, station, channel, location, emptyLocation, _) =>
      ⟨network, station, channel, location, emptyLocation⟩)

/-- What is answered to packets that are too old. -/
def tooOldPolicy : Form TooOldPolicy :=
  (choice (.bare "drop" <| .bare "reject" .nil)).via
    (fun
      | .drop => .inl ()
      | .reject => .inr (.inl ()))
    (fun
      | .inl _ => .drop
      | .inr (.inl _) => .reject)

/-- The configuration of a cache. -/
def cacheConfig : Form CacheConfig :=
  (record "CacheConfig"
    (.field "max_packets_per_channel" count <| .field "max_channels" count <|
      .field "channel_rules" channelRules <| .field "too_old_policy" tooOldPolicy .nil)).via
    (fun c => (c.maxPackets, c.maxChannels, c.rules, c.tooOld, ()))
    (fun (maxPackets, maxChannels, rules, tooOld, _) => ⟨maxPackets, maxChannels, rules, tooOld⟩)

/-- A phase of a service. -/
def phase : Form Phase :=
  (choice
    (.bare "Stopped" <| .bare "Starting" <| .bare "Running" <| .bare "Stopping" .nil)).via
    (fun
      | .stopped => .inl ()
      | .starting => .inr (.inl ())
      | .running => .inr (.inr (.inl ()))
      | .stopping => .inr (.inr (.inr (.inl ()))))
    (fun
      | .inl _ => .stopped
      | .inr (.inl _) => .starting
      | .inr (.inr (.inl _)) => .running
      | .inr (.inr (.inr (.inl _))) => .stopping)

/-- An encoding. -/
def encoding : Form Encoding :=
  (choice (.bare "binary" <| .bare "text" .nil)).via
    (fun
      | .binary => .inl ()
      | .text => .inr (.inl ()))
    (fun
      | .inl _ => .binary
      | .inr (.inl _) => .text)

/-- A peer. -/
def peer : Form Peer :=
  text.via Peer.name Peer.mk

end WaveCache.Wire.Form
