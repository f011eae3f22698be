import WaveCache.Bus
import WaveCache.Exchange
import WaveCache.Node.Config
import WaveCache.Service.Answer
import WaveCache.Service.Ingest

/-!
# Nodes

A node is a service with a bus, from which it takes in packets, and an exchange, through which it
answers requests.  Two loops do this work.  They begin when the node is started and end when it is
shut down, and since a node has only one endpoint to answer from, it can be started only once.

`work` is what the loops do until there is nothing left to do.  A node that was shut down before it
was started tells its loops to end as soon as they begin.

`Node` models `CacheNode`, with `create` for its `new`; `listen` and `answer` are `run_ingest_loop`
and `run_reply_loop`.  A loop is taken to go on after every packet and every request.  So
`NodeError` has no `Task`: where the call for a packet does not return, the loop of a `CacheNode`
ends with it, and what such a node does from then on is not said here.  Nor is it said what becomes
of the loops when the node itself is dropped.
-/

namespace WaveCache

/-- Why a node does not start or stop. -/
inductive NodeError where
  | cache (error : CacheError)
  | alreadyStarted
deriving DecidableEq

namespace NodeError

/-- The text of an error. -/
def message : NodeError → String
  | cache error => error.message
  | alreadyStarted => "Node already started"

end NodeError

/-- A service that listens on a bus and answers through an exchange. -/
structure Node where
  config : NodeConfig
  service : Service
  bus : Bus
  exchange : Exchange
  /-- Whether the endpoint has been given to the loops. -/
  started : Bool
  /-- The subscription of the loops, as long as they run. -/
  listening : Option Nat
  /-- Whether the loops are told to end. -/
  stopping : Bool

namespace Node

/-- A node that has not been started. -/
def create (config : NodeConfig) : Except CacheError Node := do
  return {
    config
    service := ← Service.create config.cache true
    bus := .empty config.bus.capacity.toNat
    exchange := .empty config.bus.depth.toNat
    started := false
    listening := none
    stopping := false }

/-! ## The loops -/

/-- Takes in the packets of the frames that come over the bus, as many as there are steps.  A frame
that carries none is passed over. -/
def listen (subscription : Nat) : (steps : Nat) → Node → Node
  | 0, n => n
  | steps + 1, n =>
    match n.bus.poll subscription with
    | some (.ok (some frame), bus) =>
      let (_, service) := n.service.ingestBytes frame.encoding frame.payload
      listen subscription steps { n with service, bus }
    | some (_, bus) => { n with bus }
    | none => n

/-- Answers the requests in the queue, as many as there are steps. -/
def answer : (steps : Nat) → Node → Node
  | 0, n => n
  | steps + 1, n =>
    match n.exchange.next with
    | some (.request id inquiry, exchange) =>
      let (reply, service) :=
        n.service.handle n.config.authorizer inquiry.peer inquiry.encoding inquiry.payload
      let exchange := ((exchange.respond id reply).map (·.2)).getD exchange
      answer steps { n with service, exchange }
    | _ => n

/-- Ends the loops: nothing is taken in any more and there is no endpoint. -/
def endLoops (n : Node) (subscription : Nat) : Node :=
  { n with
    bus := n.bus.unsubscribe subscription
    exchange := n.exchange.dropEndpoint
    listening := none }

/-- What the loops do until there is nothing left to do. -/
def work (n : Node) : Node :=
  match n.listening with
  | none => n
  | some subscription =>
    if n.stopping then n.endLoops subscription
    else (n.listen subscription (n.bus.kept.length + 1)).answer n.exchange.queue.length

/-! ## Start and stop -/

/-- Starts the service and the loops.  If the service does not start, the endpoint is put back. -/
def start (n : Node) : Except NodeError Unit × Node :=
  if n.started then (.error .alreadyStarted, n)
  else
    let n := { n with started := true }
    match n.service.start with
    | (.error error, service) => (.error (.cache error), { n with service, started := false })
    | (.ok (), service) =>
      let (subscription, bus) := n.bus.subscribe ⟨[Frame.packetTopic]⟩
      (.ok (), { n with service, bus, listening := some subscription }.work)

/-- Ends the loops and stops the service if it runs. -/
def shutdown (n : Node) : Except NodeError Unit × Node :=
  let n := { n with stopping := true }.work
  if n.service.phase = .running then
    match n.service.stop with
    | (.error error, service) => (.error (.cache error), { n with service })
    | (.ok (), service) => (.ok (), { n with service })
  else (.ok (), n)

end Node

end WaveCache
