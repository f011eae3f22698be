import WaveCache.Node.Basic

/-!
# Clients of a node

A client publishes packets on the bus of a node and sends requests through its exchange, all in the
encoding of the node.  It waits for a reply until its time is over.  While it waits the loops of the
node work, and when they have nothing left to do the clock goes on to the client's deadline.

These are the calls of `CacheClient`: `publish`, `request` and `requestBytes` (`request_raw`).
-/

namespace WaveCache

/-- Why a client has no answer. -/
inductive ClientError where
  | exchange (error : ExchangeError)
  | codec (error : CodecError)
deriving DecidableEq

namespace ClientError

/-- The text of an error. -/
def message : ClientError → String
  | exchange error => error.message
  | codec error => error.message

end ClientError

namespace Node

/-- Publishes a frame and says how many subscriptions there are.  The loops do not work yet. -/
def publishFrame (n : Node) (frame : Frame) : Nat × Node :=
  let (reached, bus) := n.bus.publish frame
  (reached, { n with bus })

/-- Publishes a packet. -/
def publish (n : Node) (p : Packet) : Except ClientError (Nat × Node) :=
  match Wire.Form.packet.encode p n.config.encoding with
  | .ok payload => .ok (n.publishFrame (.ofPacket n.config.encoding payload))
  | .error error => .error (.codec error)

/-- Publishes packets, one right after another. -/
def publishAll (n : Node) : List Packet → Except ClientError (List Nat × Node)
  | [] => .ok ([], n)
  | p :: ps => do
    let (reached, n) ← n.publish p
    let (more, n) ← publishAll n ps
    return (reached :: more, n)

/-- Lets the loops work and then waits for the end of a call. -/
def await (n : Node) (id : Nat) : Except ExchangeError (List UInt8) × Node :=
  let n := n.work
  match n.exchange.call? id with
  | none => (.error .noReply, n)
  | some call =>
    let (result, exchange) := n.exchange.await id call
    (result, { n with exchange }.work)

/-- Sends a request in bytes and waits for the reply. -/
def requestBytes (n : Node) (peer : Peer) (payload : List UInt8) :
    Except ExchangeError (List UInt8) × Node :=
  match n.exchange.call ⟨peer, n.config.encoding, payload⟩ n.config.bus.timeout.toNat with
  | none => (.error .closed, n)
  | some (_, some result, exchange) => (result, { n with exchange }.work)
  | some (id, none, exchange) => { n with exchange }.await id

/-- Sends a request and waits for the response. -/
def request (n : Node) (peer : Peer) (r : Request) : Except ClientError Response × Node :=
  match Wire.Form.request.encode r n.config.encoding with
  | .error error => (.error (.codec error), n)
  | .ok payload =>
    let (reply, n) := n.requestBytes peer payload
    match reply with
    | .error error => (.error (.exchange error), n)
    | .ok bs => ((Wire.Form.response.decode n.config.encoding bs).mapError .codec, n)

end Node

end WaveCache
