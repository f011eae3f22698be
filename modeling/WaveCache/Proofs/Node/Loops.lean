import WaveCache.Node.Client
import WaveCache.Proofs.Bus.Run
import WaveCache.Proofs.Exchange.Idle
import WaveCache.Proofs.Service.Restart

/-!
# The loops of a node

The loops are two.  One takes in the frames that come over the bus, one after another until nothing
comes: `listen_of_carries` goes through them, and `listen_eq` says which they are.  The other
answers the requests in the queue: `answer_cons` is one answer, and `answer_idle` says what becomes
of requests whose calls are over.
-/

namespace WaveCache.Node

/-! ## Frames -/

/-- Publishes frames, one right after another.  The loops do not work yet. -/
def publishFrames (n : Node) : List Frame → List Nat × Node
  | [] => ([], n)
  | frame :: frames =>
    let (reached, n) := n.publishFrame frame
    let (more, n) := n.publishFrames frames
    (reached :: more, n)

/-- The bus after frames were published on it. -/
theorem publishFrames_eq (n : Node) (frames : List Frame) :
    ∃ bus, (n.publishFrames frames).2 = { n with bus } ∧ bus.retention = n.bus.retention ∧
      bus.subscriptions = n.bus.subscriptions ∧
      ∀ before, n.bus.Carries before → bus.Carries (before ++ frames) := by
  induction frames generalizing n with
  | nil => exact ⟨n.bus, rfl, rfl, rfl, fun before h => by rw [List.append_nil]; exact h⟩
  | cons frame frames ih =>
    obtain ⟨bus, heq, hretention, hsubscriptions, hcarries⟩ := ih (n.publishFrame frame).2
    refine ⟨bus, heq, hretention, hsubscriptions, fun before h => ?_⟩
    have hall := hcarries _ (h.publish frame)
    rw [List.append_assoc] at hall
    exact hall

/-- What a service takes in from the loops. -/
def taken (frames : List Frame) (s : Service) : Service :=
  frames.foldl (fun s frame => (s.ingestBytes frame.encoding frame.payload).2) s

/-- By induction on the steps, the loops take in all that the subscription awaits. -/
theorem listen_of_carries {n : Node} {id steps : Nat} {s : Subscription} {frames : List Frame}
    (hcarries : n.bus.Carries frames) (hs : n.bus.subscription? id = some s)
    (hsteps : (Bus.awaited n.bus.retention frames s).length < steps) :
    n.listen id steps = { n with
      service := taken (Bus.awaited n.bus.retention frames s) n.service
      bus := { n.bus with subscriptions :=
        n.bus.subscriptions.set id (some { s with read := frames.length }) } } := by
  induction steps generalizing n s with
  | zero => omega
  | succ steps ih =>
    rw [listen]
    rcases hcarries.poll_cases hs with ⟨frame, t, hpoll, hfilter, hread, hawaited⟩ |
        ⟨hpoll, hawaited⟩
    · rw [hawaited, List.length_cons] at hsteps
      have hlt := Places.lt_length hs
      have hrest := ih (n := { n with
          service := (n.service.ingestBytes frame.encoding frame.payload).2
          bus := { n.bus with subscriptions := n.bus.subscriptions.set id (some t) } })
        (hcarries.set hlt hread) ((n.bus.subscription?_set hlt _ id).trans (if_pos rfl))
        (Nat.lt_of_succ_lt_succ hsteps)
      rw [hpoll, hawaited]
      simp only [hrest, List.set_set, hfilter]
      rfl
    · rw [hpoll, hawaited]
      by_cases hopen : n.bus.isOpen = true
      · rw [if_pos hopen]
        rfl
      · rw [if_neg hopen]
        rfl

/-- The loops take in the frames that were published since they listened last, as far as they are
retained. -/
theorem listen_eq {n : Node} {subscription : Nat} {filter : TopicFilter} {frames : List Frame}
    (later : List Frame)
    (hcarries : n.bus.Carries (frames ++ later))
    (hs : n.bus.subscription? subscription = some ⟨filter, frames.length⟩) :
    n.listen subscription (n.bus.kept.length + 1) = { n with
      service := taken
        ((later.drop (later.length - n.bus.retention)).filter filter.accepts) n.service
      bus := { n.bus with subscriptions :=
        n.bus.subscriptions.set subscription (some ⟨filter, (frames ++ later).length⟩) } } := by
  rw [listen_of_carries hcarries hs (Nat.lt_succ_of_le (hcarries.length_awaited_le _)),
    Bus.awaited_append]

theorem phase_taken (frames : List Frame) (s : Service) : (taken frames s).phase = s.phase := by
  induction frames generalizing s with
  | nil => rfl
  | cons frame frames ih =>
    exact (ih _).trans (s.perform_phase (.ingestBytes frame.encoding frame.payload)).2

theorem work_eq {n : Node} {subscription : Nat} (hlistening : n.listening = some subscription)
    (hstopping : n.stopping = false) :
    n.work = (n.listen subscription (n.bus.kept.length + 1)).answer n.exchange.queue.length := by
  simp only [work, hlistening, hstopping, Bool.false_eq_true, if_false]

/-- There is nothing to take in if all frames have been. -/
theorem listen_self {n : Node} {subscription : Nat} {filter : TopicFilter} {frames : List Frame}
    (hcarries : n.bus.Carries frames)
    (hs : n.bus.subscription? subscription = some ⟨filter, frames.length⟩) :
    n.listen subscription (n.bus.kept.length + 1) = n := by
  rw [listen_eq [] (by rw [List.append_nil]; exact hcarries) hs, List.append_nil,
    Places.set_self hs, List.drop_nil]
  rfl

/-! ## Requests -/

/-- What a service does with a request that was sent to it. -/
def handled (authorizer : Authorizer) (s : Service) (inquiry : Inquiry) : List UInt8 × Service :=
  s.handle authorizer inquiry.peer inquiry.encoding inquiry.payload

/-- A service that has handled requests one after another. -/
def answered (authorizer : Authorizer) (queue : List (Nat × Inquiry)) (s : Service) : Service :=
  queue.foldl (fun s entry => (handled authorizer s entry.2).2) s

/-- Handling a request does not change the phase. -/
theorem phase_handled (authorizer : Authorizer) (s : Service) (inquiry : Inquiry) :
    (handled authorizer s inquiry).2.phase = s.phase := by
  rw [handled, Service.handle]
  split
  · exact (s.perform_phase (.message inquiry.encoding inquiry.payload)).2
  · exact (s.perform_phase (.refuse _ .unauthorized "peer is not authorized" inquiry.encoding)).2

theorem phase_answered (authorizer : Authorizer) (queue : List (Nat × Inquiry)) (s : Service) :
    (answered authorizer queue s).phase = s.phase := by
  induction queue generalizing s with
  | nil => rfl
  | cons entry queue ih => exact (ih _).trans (phase_handled authorizer s entry.2)

/-- The loops answer the first request in the queue. -/
theorem answer_cons {n : Node} {id : Nat} {inquiry : Inquiry} {queue : List (Nat × Inquiry)}
    (steps : Nat) (hendpoint : n.exchange.endpoint ≠ .gone)
    (hqueue : n.exchange.queue = (id, inquiry) :: queue)
    (hline : ∀ c, some c ∈ n.exchange.calls → c.stage ≠ .waiting) :
    n.answer (steps + 1) = answer steps { n with
      service := (handled n.config.authorizer n.service inquiry).2
      exchange := Exchange.advanceCall
        { n.exchange with queue, taken := n.exchange.taken ++ [none] } id
        (.replied (handled n.config.authorizer n.service inquiry).1) } := by
  rw [answer, Exchange.next_eq hendpoint hqueue hline]
  simp only [Exchange.respond_last]
  rfl

/-- Requests whose calls are over are answered in vain. -/
theorem answer_idle {n : Node} (h : n.exchange.Idle) :
    ∃ taken, n.answer n.exchange.queue.length = { n with
      service := answered n.config.authorizer n.exchange.queue n.service
      exchange := { n.exchange with queue := [], taken } } := by
  obtain ⟨queue, hqueue⟩ : ∃ queue, queue = n.exchange.queue := ⟨_, rfl⟩
  rw [← hqueue]
  induction queue generalizing n with
  | nil =>
    have hexchange : { n.exchange with queue := [] } = n.exchange := by rw [hqueue]
    exact ⟨n.exchange.taken, by rw [hexchange]; rfl⟩
  | cons entry queue ih =>
    have hline : ∀ c, some c ∈ n.exchange.calls → c.stage ≠ .waiting :=
      fun c hc => nomatch h.ended _ hc
    have hendpoint : n.exchange.endpoint ≠ .gone := by
      rw [h.accepting]
      exact nofun
    obtain ⟨taken, hanswer⟩ := ih (n := { n with
      service := (handled n.config.authorizer n.service entry.2).2
      exchange := { n.exchange with queue, taken := n.exchange.taken ++ [none] } })
      ⟨h.accepting, h.mayCall, h.depth_pos, h.ended⟩ rfl
    refine ⟨taken, ?_⟩
    rw [List.length_cons, answer_cons queue.length hendpoint hqueue.symm hline,
      Exchange.advanceCall, Places.modify_of_none (h.call?_eq_none entry.1), hanswer]
    rfl

/-! ## What the loops leave as it is -/

section

variable (n : Node)

theorem listen_keeps (subscription steps : Nat) :
    (n.listen subscription steps).config = n.config ∧
      (n.listen subscription steps).started = n.started := by
  induction steps generalizing n with
  | zero => exact ⟨rfl, rfl⟩
  | succ steps ih =>
    rw [listen]
    split
    · exact ih _
    · exact ⟨rfl, rfl⟩
    · exact ⟨rfl, rfl⟩

theorem answer_keeps (steps : Nat) :
    (n.answer steps).config = n.config ∧ (n.answer steps).started = n.started := by
  induction steps generalizing n with
  | zero => exact ⟨rfl, rfl⟩
  | succ steps ih =>
    rw [answer]
    split
    · exact ih _
    · exact ⟨rfl, rfl⟩

theorem work_keeps : n.work.config = n.config ∧ n.work.started = n.started := by
  rw [work]
  split
  · exact ⟨rfl, rfl⟩
  · next subscription _ =>
    split
    · exact ⟨rfl, rfl⟩
    · have hlisten := n.listen_keeps subscription (n.bus.kept.length + 1)
      have hanswer := answer_keeps (n.listen subscription (n.bus.kept.length + 1))
        n.exchange.queue.length
      exact ⟨hanswer.1.trans hlisten.1, hanswer.2.trans hlisten.2⟩

theorem requestBytes_keeps (peer : Peer) (bs : List UInt8) :
    (n.requestBytes peer bs).2.config = n.config ∧
      (n.requestBytes peer bs).2.started = n.started := by
  rw [requestBytes]
  split
  · exact ⟨rfl, rfl⟩
  · exact work_keeps _
  · rename_i id exchange _
    have hwork := work_keeps { n with exchange }
    rw [await]
    split
    · exact hwork
    · exact ⟨(work_keeps _).1.trans hwork.1, (work_keeps _).2.trans hwork.2⟩

end

end WaveCache.Node
