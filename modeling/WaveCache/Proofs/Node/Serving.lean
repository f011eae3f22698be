import WaveCache.Proofs.Node.Run

/-!
# A started node serves

Before its start a node is `Resting`: nothing is taken in, and clients wait in vain.  A start makes
it `Serving`: whenever the loops have nothing left to do they have read all frames and answered all
requests.  What a call does to a node that serves is said by `work_publishFrames` for frames and by
`requestBytes_eq` for requests, and both kinds of nodes stay what they are until the start or the
shutdown (`Resting.perform`, `Serving.perform`).  `start_serves` puts this together.

A shutdown before the start is another matter: `start_after_shutdown` is a node that says that it
was started and does not serve.
-/

namespace WaveCache.Node

/-- A node that has not been started.  Its calls are over, but their requests may be in the
queue. -/
structure Resting (n : Node) : Prop where
  started_eq : n.started = false
  stopping_eq : n.stopping = false
  listening_eq : n.listening = none
  carries : ∃ frames, n.bus.Carries frames
  idle : n.exchange.Idle

/-- A node whose loops run and have nothing left to do. -/
structure Serving (n : Node) : Prop where
  started_eq : n.started = true
  stopping_eq : n.stopping = false
  listens : ∃ subscription frames, n.listening = some subscription ∧ n.bus.Carries frames ∧
    n.bus.subscription? subscription = some ⟨⟨[Frame.packetTopic]⟩, frames.length⟩
  idle : n.exchange.Idle
  queue_eq : n.exchange.queue = []

/-! ## Work -/

namespace Serving

variable {n : Node}

/-- The loops have nothing to take in, and they answer what is in the queue. -/
theorem work_with (h : Serving n) (service : Service) (exchange : Exchange) :
    work { n with service, exchange } =
      answer exchange.queue.length { n with service, exchange } := by
  obtain ⟨subscription, frames, hlistening, hcarries, hs⟩ := h.listens
  have hlisten : listen subscription (n.bus.kept.length + 1) { n with service, exchange } =
      { n with service, exchange } :=
    listen_self (n := { n with service, exchange }) hcarries hs
  rw [work_eq (n := { n with service, exchange }) hlistening h.stopping_eq, hlisten]

/-- A node goes on to serve with another service or another exchange that is idle. -/
theorem with_idle (h : Serving n) (service : Service) {exchange : Exchange} (hidle : exchange.Idle)
    (hqueue : exchange.queue = []) : Serving { n with service, exchange } :=
  ⟨h.started_eq, h.stopping_eq, h.listens, hidle, hqueue⟩

theorem work_service (h : Serving n) (service : Service) :
    work { n with service } = { n with service } := by
  rw [h.work_with service n.exchange, h.queue_eq]
  rfl

/-- What was published is taken in, as far as it is retained and carries packets. -/
theorem work_publishFrames (h : Serving n) (frames : List Frame) :
    ∃ bus, (n.publishFrames frames).2.work = { n with
        service := taken ((frames.drop (frames.length - n.bus.retention)).filter
          (TopicFilter.accepts ⟨[Frame.packetTopic]⟩)) n.service
        bus } ∧ Serving (n.publishFrames frames).2.work := by
  obtain ⟨subscription, before, hlistening, hcarries, hs⟩ := h.listens
  obtain ⟨bus, hpublish, hretention, hsubscriptions, hbus⟩ := n.publishFrames_eq frames
  have hcarries := hbus before hcarries
  have hs : bus.subscription? subscription = some ⟨⟨[Frame.packetTopic]⟩, before.length⟩ := by
    rw [Bus.subscription?, hsubscriptions]
    exact hs
  have hlisten := listen_eq (n := { n with bus }) frames hcarries hs
  have hwork : (n.publishFrames frames).2.work =
      listen subscription (bus.kept.length + 1) { n with bus } := by
    rw [hpublish, work_eq (n := { n with bus }) hlistening h.stopping_eq]
    show answer n.exchange.queue.length _ = _
    rw [h.queue_eq]
    rfl
  rw [hwork, hlisten]
  refine ⟨_, by rw [← hretention], h.started_eq, h.stopping_eq, ?_, h.idle, h.queue_eq⟩
  have hlt := Places.lt_length hs
  exact ⟨subscription, before ++ frames, hlistening, hcarries.set hlt (Nat.le_refl _),
    (bus.subscription?_set hlt _ subscription).trans (if_pos rfl)⟩

end Serving

/-! ## Requests to a node that serves -/

namespace Serving

variable {n : Node}

/-- The loops answer the request of a call that is alone. -/
theorem work_alone (h : Serving n) {c : Call} (hstage : c.stage = .sent) :
    work { n with exchange := { n.exchange with
      calls := n.exchange.calls ++ [some c]
      queue := [(n.exchange.calls.length, c.inquiry)] } } = { n with
        service := (handled n.config.authorizer n.service c.inquiry).2
        exchange := { n.exchange with
          calls := n.exchange.calls ++
            [some { c with stage := .replied (handled n.config.authorizer n.service c.inquiry).1 }]
          queue := []
          taken := n.exchange.taken ++ [none] } } := by
  obtain ⟨x, hx⟩ : ∃ x, x = { n.exchange with
      calls := n.exchange.calls ++ [some c]
      queue := [(n.exchange.calls.length, c.inquiry)] } := ⟨_, rfl⟩
  have hline : ∀ c, some c ∈ x.calls → c.stage ≠ .waiting := by
    intro c' hc'
    rw [hx] at hc'
    rcases List.mem_append.mp hc' with hc' | hc'
    · exact nomatch h.idle.ended _ hc'
    · rw [Option.some.inj (List.mem_singleton.mp hc'), hstage]
      exact nofun
  have hendpoint : x.endpoint ≠ .gone := by
    rw [hx]
    exact fun hgone => nomatch h.idle.accepting.symm.trans hgone
  have hqueue : x.queue = [(n.exchange.calls.length, c.inquiry)] := by rw [hx]
  rw [← hx, h.work_with n.service x, hqueue, List.length_singleton,
    answer_cons (n := { n with exchange := x }) 0 hendpoint hqueue hline, answer, hx,
    Exchange.advanceCall, Places.modify_concat]

/-- A client gets the reply of the service, unless its time is over before it begins.  The service
handles the request in any case. -/
theorem requestBytes_eq (h : Serving n) (peer : Peer) (bs : List UInt8) :
    let handled := handled n.config.authorizer n.service ⟨peer, n.config.encoding, bs⟩
    let timeout := n.config.bus.timeout.toNat
    ∃ exchange, exchange.Idle ∧ exchange.queue = [] ∧ n.requestBytes peer bs =
      (if min (n.exchange.now + timeout) Exchange.lastDeadline ≤ n.exchange.now then
          .error (.timeout timeout)
        else .ok handled.1,
        { n with service := handled.2, exchange }) := by
  intro handled timeout
  obtain ⟨queue, stage, _, hqueue, hcall⟩ :=
    h.idle.call_eq ⟨peer, n.config.encoding, bs⟩ timeout
  obtain ⟨rfl, rfl⟩ := hqueue h.queue_eq
  by_cases hover : min (n.exchange.now + timeout) Exchange.lastDeadline ≤ n.exchange.now
  · -- the call gives up at once, but its request is in the queue and is answered in vain
    rw [if_pos hover] at hcall ⊢
    obtain ⟨x, hx⟩ : ∃ x, x = { n.exchange with
        calls := n.exchange.calls ++ [none]
        queue := [(n.exchange.calls.length, ⟨peer, n.config.encoding, bs⟩)] } := ⟨_, rfl⟩
    have hidle : x.Idle := by
      rw [hx]
      exact ⟨h.idle.accepting, h.idle.mayCall, h.idle.depth_pos, h.idle.ended_concat⟩
    have hrequest : n.requestBytes peer bs =
        (.error (.timeout timeout), work { n with exchange := x }) := by
      rw [requestBytes, hcall, hx]
      rfl
    obtain ⟨taken, hanswer⟩ := answer_idle (n := { n with exchange := x }) hidle
    refine ⟨{ x with queue := [], taken },
      ⟨hidle.accepting, hidle.mayCall, hidle.depth_pos, hidle.ended⟩, rfl, ?_⟩
    rw [hrequest, h.work_with n.service x, hanswer, hx]
    rfl
  · rw [if_neg hover] at hcall ⊢
    obtain ⟨c, hc⟩ : ∃ c : Call, c = ⟨⟨peer, n.config.encoding, bs⟩,
      min (n.exchange.now + timeout) Exchange.lastDeadline, timeout, .sent⟩ := ⟨_, rfl⟩
    have hrequest : n.requestBytes peer bs = await { n with exchange := { n.exchange with
        calls := n.exchange.calls ++ [some c]
        queue := [(n.exchange.calls.length, c.inquiry)] } } n.exchange.calls.length := by
      rw [requestBytes, hcall, hc]
      rfl
    have hreply : Node.handled n.config.authorizer n.service c.inquiry = handled := by rw [hc]
    have hwork := h.work_alone (c := c) (by rw [hc])
    rw [hreply] at hwork
    have hreplied : Exchange.call? { n.exchange with
        calls := n.exchange.calls ++ [some { c with stage := .replied handled.1 }]
        queue := []
        taken := n.exchange.taken ++ [none] } n.exchange.calls.length =
          some { c with stage := .replied handled.1 } :=
      (Places.join_concat ..).trans (if_pos rfl)
    refine ⟨{ n.exchange with
        calls := n.exchange.calls ++ [none]
        queue := []
        taken := n.exchange.taken ++ [none] },
      ⟨h.idle.accepting, h.idle.mayCall, h.idle.depth_pos, h.idle.ended_concat⟩, rfl, ?_⟩
    rw [hrequest, await, hwork]
    simp only [hreplied, h.idle.await_replied (c := { c with stage := .replied handled.1 }) rfl]
    rw [h.work_with handled.2]
    rfl

end Serving

/-! ## Before the start -/

namespace Resting

variable {n : Node}

theorem create {config : NodeConfig} (h : create config = .ok n) :
    n.config = config ∧ Resting n := by
  unfold Node.create at h
  cases hservice : Service.create config.cache true with
  | error error =>
    rw [hservice] at h
    cases h
  | ok service =>
    rw [hservice] at h
    cases h
    exact ⟨rfl, rfl, rfl, rfl, ⟨[], .empty _⟩, .empty _⟩

theorem work_eq_self (h : Resting n) (service : Service) (bus : Bus) (exchange : Exchange) :
    work { n with service, bus, exchange } = { n with service, bus, exchange } := by
  rw [work, h.listening_eq]

/-- Nobody replies to a request before the start. -/
theorem requestBytes_eq (h : Resting n) (peer : Peer) (bs : List UInt8) :
    ∃ exchange, exchange.Idle ∧ n.requestBytes peer bs =
      (.error (.timeout n.config.bus.timeout.toNat), { n with exchange }) := by
  obtain ⟨timeout, htimeout⟩ : ∃ timeout, timeout = n.config.bus.timeout.toNat := ⟨_, rfl⟩
  obtain ⟨queue, stage, hstage, _, hcall⟩ := h.idle.call_eq ⟨peer, n.config.encoding, bs⟩ timeout
  rw [← htimeout]
  have hidle (now : Nat) : Exchange.Idle { n.exchange with
      now, calls := n.exchange.calls ++ [none], queue } :=
    ⟨h.idle.accepting, h.idle.mayCall, h.idle.depth_pos, h.idle.ended_concat⟩
  by_cases hover : min (n.exchange.now + timeout) Exchange.lastDeadline ≤ n.exchange.now
  · rw [if_pos hover] at hcall
    refine ⟨_, hidle n.exchange.now, ?_⟩
    rw [requestBytes, ← htimeout, hcall]
    exact congrArg (Prod.mk _) (h.work_eq_self n.service n.bus _)
  · -- nobody takes the request out of the queue, so the clock goes on to the deadline
    rw [if_neg hover] at hcall
    obtain ⟨c, hc⟩ : ∃ c : Call, c = ⟨⟨peer, n.config.encoding, bs⟩,
      min (n.exchange.now + timeout) Exchange.lastDeadline, timeout, stage⟩ := ⟨_, rfl⟩
    obtain ⟨x, hx⟩ : ∃ x, x = { n.exchange with
      calls := n.exchange.calls ++ [some c], queue } := ⟨_, rfl⟩
    have hcall? : x.call? n.exchange.calls.length = some c := by
      rw [hx]
      exact (Places.join_concat ..).trans (if_pos rfl)
    have hawait : x.await n.exchange.calls.length c = (.error (.timeout c.timeout),
        { n.exchange with
          now := max n.exchange.now c.deadline
          calls := n.exchange.calls ++ [none]
          queue }) := by
      rw [hx]
      exact h.idle.await_pending (by rw [hc]; exact hstage) (by rw [hc]; exact hover)
    refine ⟨_, hidle (max n.exchange.now c.deadline), ?_⟩
    have hrequest : n.requestBytes peer bs =
        await { n with exchange := x } n.exchange.calls.length := by
      rw [requestBytes, ← htimeout, hcall, hx, hc]
      rfl
    rw [hrequest, await, h.work_eq_self n.service n.bus x]
    simp only [hcall?, hawait]
    rw [h.work_eq_self n.service n.bus, hc]

/-- A node starts if its service does, and it serves then. -/
theorem start_eq (h : Resting n) :
    if n.service.phase = .stopped then ∃ m, n.perform .start = (.moved (.ok ()), m) ∧ Serving m ∧
      m.service.phase = .running
    else n.perform .start =
      (.moved (.error (.cache (.invalidTransition n.service.phase .starting))), n) := by
  rw [perform, n.start_eq, h.started_eq, if_neg Bool.false_ne_true]
  by_cases hphase : n.service.phase = .stopped
  · rw [if_pos hphase, if_pos hphase]
    obtain ⟨m, hm⟩ : ∃ m : Node, m = { n with
      service := { n.service with phase := .running }
      bus := (n.bus.subscribe ⟨[Frame.packetTopic]⟩).2
      started := true
      listening := some n.bus.subscriptions.length } := ⟨_, rfl⟩
    obtain ⟨frames, hcarries⟩ := h.carries
    have hcarries : m.bus.Carries frames := by
      rw [hm]
      exact hcarries.subscribe _
    have hs : m.bus.subscription? n.bus.subscriptions.length =
        some ⟨⟨[Frame.packetTopic]⟩, frames.length⟩ := by
      rw [hm]
      show (n.bus.subscribe _).2.subscription? _ = _
      rw [Bus.subscription?_subscribe, if_pos rfl, ← hcarries.published_eq, hm]
      rfl
    have hidle : m.exchange.Idle := by
      rw [hm]
      exact h.idle
    -- requests that came before the start are still in the queue, but nobody waits for them
    obtain ⟨taken, hanswer⟩ := answer_idle hidle
    have hwork : m.work = m.answer m.exchange.queue.length := by
      rw [work_eq (by rw [hm]) (by rw [hm]; exact h.stopping_eq), listen_self hcarries hs]
    refine ⟨m.work, congrArg (fun m : Node => (NodeReply.moved (.ok ()), m.work)) hm.symm, ?_, ?_⟩
    · rw [hwork, hanswer]
      refine ⟨by rw [hm], by rw [hm]; exact h.stopping_eq, ⟨_, frames, by rw [hm], hcarries, hs⟩,
        ⟨hidle.accepting, hidle.mayCall, hidle.depth_pos, hidle.ended⟩, rfl⟩
    · rw [hwork, hanswer]
      exact (phase_answered _ _ _).trans (by rw [hm])
  · rw [if_neg hphase, if_neg hphase]

end Resting

/-! ## The step and the run -/

namespace Serving

variable {n : Node}

theorem requestBytes (h : Serving n) (peer : Peer) (bs : List UInt8) :
    Serving (n.requestBytes peer bs).2 ∧
      (n.requestBytes peer bs).2.service.phase = n.service.phase := by
  obtain ⟨exchange, hidle, hqueue, heq⟩ := h.requestBytes_eq peer bs
  rw [heq]
  exact ⟨h.with_idle _ hidle hqueue, phase_handled _ _ _⟩

theorem publishFrames (h : Serving n) (frames : List Frame) :
    Serving (n.publishFrames frames).2.work ∧
      (n.publishFrames frames).2.work.service.phase = n.service.phase := by
  obtain ⟨bus, heq, hserving⟩ := h.work_publishFrames frames
  refine ⟨hserving, ?_⟩
  rw [heq]
  exact phase_taken _ _

/-- A node that serves goes on to do so, and only its service's own calls change the phase. -/
theorem perform (h : Serving n) {call : NodeCall} (hshutdown : call ≠ .shutdown) :
    Serving (n.perform call).2 ∧
      ((∀ c, call ≠ .service c) → (n.perform call).2.service.phase = n.service.phase) := by
  by_cases hstart : call = .start
  · rw [hstart, start_of_started h.started_eq]
    exact ⟨h, fun _ => rfl⟩
  · rcases n.perform_cases hstart hshutdown with
      heq | ⟨frames, heq⟩ | ⟨peer, bs, heq⟩ | ⟨c, hcall, heq⟩
    · rw [heq]
      exact ⟨h, fun _ => rfl⟩
    · rw [heq]
      exact (h.publishFrames frames).imp_right fun hphase _ => hphase
    · rw [heq]
      exact (h.requestBytes peer bs).imp_right fun hphase _ => hphase
    · refine ⟨?_, fun hother => absurd hcall (hother c)⟩
      rw [heq, h.work_service]
      exact h.with_idle _ h.idle h.queue_eq

theorem run (h : Serving n) {calls : List NodeCall} (hshutdown : .shutdown ∉ calls) :
    Serving (n.run calls).2 ∧
      ((∀ c, .service c ∉ calls) → (n.run calls).2.service.phase = n.service.phase) := by
  induction calls generalizing n with
  | nil => exact ⟨h, fun _ => rfl⟩
  | cons call calls ih =>
    rw [List.mem_cons, not_or] at hshutdown
    obtain ⟨hserving, hphase⟩ := h.perform (Ne.symm hshutdown.1)
    obtain ⟨hserving', hphase'⟩ := ih hserving hshutdown.2
    refine ⟨hserving', fun hcalls => ?_⟩
    exact (hphase' fun c hc => hcalls c (.tail _ hc)).trans
      (hphase fun c hc => hcalls c (hc ▸ .head _))

end Serving

namespace Resting

variable {n : Node}

theorem publishFrames (h : Resting n) (frames : List Frame) :
    Resting (n.publishFrames frames).2.work := by
  obtain ⟨bus, hpublish, _, _, hbus⟩ := n.publishFrames_eq frames
  obtain ⟨before, hcarries⟩ := h.carries
  rw [hpublish, h.work_eq_self n.service bus n.exchange]
  exact ⟨h.started_eq, h.stopping_eq, h.listening_eq, ⟨_, hbus before hcarries⟩, h.idle⟩

theorem requestBytes (h : Resting n) (peer : Peer) (bs : List UInt8) :
    Resting (n.requestBytes peer bs).2 := by
  obtain ⟨exchange, hidle, heq⟩ := h.requestBytes_eq peer bs
  rw [heq]
  exact ⟨h.started_eq, h.stopping_eq, h.listening_eq, h.carries, hidle⟩

/-- A node rests until it is started. -/
theorem perform (h : Resting n) {call : NodeCall} (hshutdown : call ≠ .shutdown) :
    Resting (n.perform call).2 ∨ Serving (n.perform call).2 := by
  by_cases hcall : call = .start
  · rw [hcall]
    have hstart := h.start_eq
    split at hstart
    · obtain ⟨m, hperform, hserving, _⟩ := hstart
      rw [hperform]
      exact .inr hserving
    · rw [hstart]
      exact .inl h
  · left
    rcases n.perform_cases hcall hshutdown with
      heq | ⟨frames, heq⟩ | ⟨peer, bs, heq⟩ | ⟨c, _, heq⟩
    · rw [heq]
      exact h
    · rw [heq]
      exact h.publishFrames frames
    · rw [heq]
      exact h.requestBytes peer bs
    · rw [heq, h.work_eq_self _ n.bus n.exchange]
      exact ⟨h.started_eq, h.stopping_eq, h.listening_eq, h.carries, h.idle⟩

theorem run (h : Resting n) {calls : List NodeCall} (hshutdown : .shutdown ∉ calls) :
    Resting (n.run calls).2 ∨ Serving (n.run calls).2 := by
  induction calls generalizing n with
  | nil => exact .inl h
  | cons call calls ih =>
    rw [List.mem_cons, not_or] at hshutdown
    rcases h.perform (Ne.symm hshutdown.1) with hresting | hserving
    · exact ih hresting hshutdown.2
    · exact .inr (hserving.run hshutdown.2).1

end Resting

end WaveCache.Node
