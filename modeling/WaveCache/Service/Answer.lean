import WaveCache.Service.Basic
import WaveCache.Wire.Messages

/-!
# Answering requests

A running service looks for the packets that a request asks for.  A stretch of time that ends before
it starts and a name that is none are found out before the store is asked.  `handleMessage` answers
requests in bytes: whatever the bytes are, there is a response, and a response that is too large to
be sent is replaced by a failure.

This is `handle_request`, `handle_message` and `refuse` of `PacketCacheService`, with its `lookup`,
`serve_sensor`, `serve_data`, `serve_bulk` and `encode_response`.  `handle` is the `handle` of
`PacketCacheHandler`.  No clock is modelled, so a query takes no time.
-/

namespace WaveCache.Service

/-- Looks for the packets of a channel and counts the query.  How long it took is not known here. -/
def lookup (s : Service) (key : ChannelKey) (t₀ t₁ : Micros) :
    (List Packet × ReturnCode) × Service :=
  let (found, store) := s.store.query key t₀ t₁
  let packets := found.getD []
  let code := if found.isSome then .success else .unknownChannel
  ((packets, code), { s with store }.count (·.query 0 found.isSome packets.length))

/-- Answers a request for the packets of a channel. -/
def answerSensor (s : Service) (r : SensorRequest) : SensorResponse × Service :=
  if r.finish < r.start then (⟨r.identifier, r.channel, [], .invalidRange⟩, s)
  else
    let ((packets, code), s) := s.lookup r.channel r.start r.finish
    (⟨r.identifier, r.channel, packets, code⟩, s)

/-- Answers a request for the packets of a channel given by name.  The codes in the name need not
satisfy any rules. -/
def answerData (s : Service) (r : DataRequest) : DataResponse × Service :=
  if r.finish < r.start then (⟨r.identifier, r.name, [], .invalidRange⟩, s)
  else
    match ChannelKey.ofDotted? r.name with
    | none => (⟨r.identifier, r.name, [], .invalidMessage⟩, s)
    | some key =>
      let ((packets, code), s) := s.lookup key r.start r.finish
      (⟨r.identifier, r.name, packets, code⟩, s)

/-- Answers requests for the packets of channels, one after another. -/
def answerAll (s : Service) : List SensorRequest → List SensorResponse × Service
  | [] => ([], s)
  | r :: rs =>
    let (response, s) := s.answerSensor r
    let (responses, s) := answerAll s rs
    (response :: responses, s)

/-- Answers a request while the service runs. -/
def answer (s : Service) : Request → Response × Service
  | .sensor r =>
    let (response, s) := s.answerSensor r
    (.sensor response, s)
  | .data r =>
    let (response, s) := s.answerData r
    (.data response, s)
  | .bulk r =>
    let (responses, s) := s.answerAll r.requests
    (.bulk ⟨r.identifier, responses, .success⟩, s)
  | .channelList r => (.channelList ⟨r.identifier, s.store.channels, .success⟩, s)

/-- Answers a request and counts it if it failed. -/
def handleRequest (s : Service) (r : Request) : Response × Service :=
  let (response, s) :=
    if s.phase = .running then s.answer r
    else (.failure ⟨r.identifier, .notRunning, "service is " ++ s.phase.name⟩, s)
  (response, s.count (·.requestFailed response.code))

/-! ## Requests in bytes -/

/-- A response in a given encoding, or else a failure that says why it could not be sent. -/
def encodeResponse (s : Service) (response : Response) (encoding : Encoding) :
    List UInt8 × Service :=
  match Wire.Form.response.encode response encoding with
  | .ok bs => (bs, s)
  | .error error =>
    let failure : Response := .failure ⟨response.identifier, .internalError, error.message⟩
    ((Wire.Form.response.encode failure encoding).toOption.getD [],
      s.count (·.requestFailed .internalError))

/-- Answers a request in a given encoding, in the same encoding.  If the bytes are no request,
nothing is known of its identifier, and the failure has the identifier 0. -/
def handleMessage (s : Service) (encoding : Encoding) (bs : List UInt8) : List UInt8 × Service :=
  match Wire.Form.request.decode encoding bs with
  | .ok r =>
    let (response, s) := s.handleRequest r
    s.encodeResponse response encoding
  | .error error =>
    (s.count (·.requestFailed .invalidMessage)).encodeResponse
      (.failure ⟨0, .invalidMessage, error.message⟩) encoding

/-- Answers a request with a failure, without looking for anything. -/
def refuse (s : Service) (identifier : UInt64) (code : ReturnCode) (reason : String)
    (encoding : Encoding) : List UInt8 × Service :=
  (s.count (·.requestFailed code)).encodeResponse (.failure ⟨identifier, code, reason⟩) encoding

/-! ## Requests of peers -/

/-- The identifier of a request in bytes, and 0 if there is no request in them. -/
def identifierOf (encoding : Encoding) (bs : List UInt8) : UInt64 :=
  match Wire.Form.request.decode encoding bs with
  | .ok r => r.identifier
  | .error _ => 0

/-- Answers a request of a peer, in bytes, in the encoding of the request. -/
def handle (s : Service) (authorizer : Authorizer) (peer : Peer) (encoding : Encoding)
    (bs : List UInt8) : List UInt8 × Service :=
  if authorizer.admits peer then s.handleMessage encoding bs
  else s.refuse (identifierOf encoding bs) .unauthorized "peer is not authorized" encoding

end WaveCache.Service
