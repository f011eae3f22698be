import WaveCache.Proofs.Exchange.Moments
import WaveCache.Proofs.Places

/-!
# Steps of an exchange

`Performs` lists what a call of an exchange can come to, and `Step` what can happen at once, with
the moment that it makes.  A call is a sequence of steps, and its moments are those of the steps
(`perform_steps`): what starts a call also polls it, polling may bring its request into the queue
and end it, and where a place in the queue becomes free the line settles.

What a step does to the calls that are not over is said twice.  `Step.change` tells where a call and
its stage come from, and `Step.call?_eq_none` which calls are over.
-/

namespace WaveCache.Exchange

/-- How a call can end. -/
inductive Ends (x : Exchange) (c : Call) : Except ExchangeError (List UInt8) → Prop where
  | reply {reply : List UInt8} (hstage : c.stage = .replied reply) : Ends x c (.ok reply)
  | noReply (hstage : c.stage = .abandoned) : Ends x c (.error .noReply)
  | closed (hstage : c.stage = .waiting ∨ c.stage = .granted)
    (hendpoint : x.endpoint ≠ .accepting) : Ends x c (.error .closed)
  | timeout (hdeadline : c.deadline ≤ x.now) : Ends x c (.error (.timeout c.timeout))

/-- What happens at once, and the moment that it makes. -/
inductive Step (x : Exchange) : Option Moment → Exchange → Prop where
  | issue (inquiry : Inquiry) (timeout : Nat) :
    Step x (some (.issued x.calls.length inquiry timeout)) (x.enter inquiry timeout)
  | send {id : Nat} {c : Call} (hcall : x.call? id = some c) (hstage : c.stage = .granted)
      (hendpoint : x.endpoint = .accepting) :
    Step x (some (.entered id c.inquiry))
      { x.advanceCall id .sent with queue := x.queue ++ [(id, c.inquiry)] }
  | finish {id : Nat} {c : Call} {result : Except ExchangeError (List UInt8)}
      (hcall : x.call? id = some c) (hends : x.Ends c result) :
    Step x (some (.ended id result)) { x with calls := x.calls.set id none }
  | cancel {id : Nat} {c : Call} (hcall : x.call? id = some c) :
    Step x (some (.cancelled id)) { x with calls := x.calls.set id none }
  | settle : Step x none x.settle
  | endCalls : Step x none x.endCalls
  | wait (milliseconds : Nat) : Step x (some (.waited milliseconds)) (x.wait milliseconds)
  | take {id : Nat} {inquiry : Inquiry} {queue : List (Nat × Inquiry)}
      (hendpoint : x.endpoint ≠ .gone) (hqueue : x.queue = (id, inquiry) :: queue) :
    Step x (some (.handed x.taken.length inquiry)) { x with queue, taken := x.taken ++ [some id] }
  | answer {request id : Nat} (reply : List UInt8) (htaken : (x.taken[request]?).join = some id) :
    Step x (some (.answered request reply
        (if (x.call? id).isSome then .ok () else .error .closed)))
      ({ x with taken := x.taken.set request none }.advanceCall id (.replied reply))
  | drop {request id : Nat} (htaken : (x.taken[request]?).join = some id) :
    Step x (some (.dropped request))
      ({ x with taken := x.taken.set request none }.advanceCall id .abandoned)
  | close (hendpoint : x.endpoint ≠ .gone) :
    Step x (some .closed) { x with endpoint := .draining }
  | leave (hendpoint : x.endpoint ≠ .gone) : Step x (some .left) x.dropEndpoint

/-- Steps one after another, and their moments. -/
inductive Steps : Exchange → List Moment → Exchange → Prop where
  | nil (x : Exchange) : Steps x [] x
  | cons {x y z : Exchange} {m : Option Moment} {later : List Moment} (hstep : Step x m y)
      (hlater : Steps y later z) : Steps x (m.toList ++ later) z

theorem Step.steps {x y : Exchange} {m : Option Moment} (h : Step x m y) : Steps x m.toList y := by
  have hsteps := Steps.cons h (.nil y)
  rw [List.append_nil] at hsteps
  exact hsteps

theorem Steps.append {x y z : Exchange} {front back : List Moment} (h : Steps x front y)
    (hback : Steps y back z) : Steps x (front ++ back) z := by
  induction h with
  | nil => exact hback
  | cons hstep _ ih =>
    rw [List.append_assoc]
    exact .cons hstep (ih hback)

/-! ## Places of calls -/

section

variable (x : Exchange) (id other : Nat)

@[simp] theorem call?_advanceCall (stage : Stage) : (x.advanceCall id stage).call? other =
    if other = id then (x.call? other).map fun c => { c with stage } else x.call? other := by
  rw [advanceCall, call?, List.getElem?_modify]
  by_cases h : other = id
  · subst h
    rw [if_pos rfl, call?]
    cases x.calls[other]? <;> simp
  · rw [if_neg h, call?]
    cases x.calls[other]? <;> simp [Ne.symm h]

theorem call?_set {x : Exchange} {id : Nat} (hlt : id < x.calls.length) (found : Option Call)
    (other : Nat) : { x with calls := x.calls.set id found }.call? other =
      if other = id then found else x.call? other :=
  Places.join_set hlt found other

theorem call?_enter (inquiry : Inquiry) (timeout : Nat) : (x.enter inquiry timeout).call? other =
    if other = x.calls.length then some {
      inquiry
      deadline := min (x.now + timeout) lastDeadline
      timeout
      stage := if 0 < x.free then .granted else .waiting }
    else x.call? other :=
  Places.join_concat ..

end

/-- Giving places away takes calls from the line and leaves all others as they are. -/
theorem grant_getElem? (places : Nat) (calls : List (Option Call)) (id : Nat) :
    (grant places calls)[id]? = calls[id]? ∨
    ∃ c, calls[id]? = some (some c) ∧ c.stage = .waiting ∧
      (grant places calls)[id]? = some (some { c with stage := .granted }) := by
  fun_induction grant places calls generalizing id with
  | case1 calls => exact .inl rfl
  | case2 => exact .inl rfl
  | case3 places calls ih =>
    cases id with
    | zero => exact .inl rfl
    | succ id => exact ih id
  | case4 places c calls hwaiting ih =>
    cases id with
    | zero => exact .inr ⟨c, rfl, hwaiting, rfl⟩
    | succ id => exact ih id
  | case5 places c calls hwaiting ih =>
    cases id with
    | zero => exact .inl rfl
    | succ id => exact ih id

theorem call?_settle_cases (x : Exchange) (id : Nat) : x.settle.call? id = x.call? id ∨
    ∃ c, x.call? id = some c ∧ c.stage = .waiting ∧
      x.settle.call? id = some { c with stage := .granted } := by
  rw [settle]
  split
  · rw [call?, call?]
    rcases grant_getElem? x.free x.calls id with h | ⟨c, hc, hwaiting, h⟩
    · exact .inl (congrArg Option.join h)
    · exact .inr ⟨c, congrArg Option.join hc, hwaiting, congrArg Option.join h⟩
  · exact .inl rfl

/-- A dropped endpoint abandons the calls whose requests are in the queue. -/
theorem call?_foldl_abandon (queue : List (Nat × Inquiry)) (x : Exchange) (id : Nat) :
    (queue.foldl (fun x entry => x.advanceCall entry.1 .abandoned) x).call? id =
      if id ∈ queue.map Prod.fst then (x.call? id).map fun c => { c with stage := .abandoned }
      else x.call? id := by
  induction queue generalizing x with
  | nil => rfl
  | cons entry queue ih =>
    rw [List.foldl_cons, ih, call?_advanceCall]
    by_cases hid : id = entry.1 <;> by_cases hqueue : id ∈ queue.map Prod.fst <;>
      cases x.call? id <;> simp_all

/-! ## What a call can come to -/

/-- What a call of the exchange comes to. -/
inductive Performs (x : Exchange) : ExchangeCall → ExchangeReply → Exchange → Prop where
  /-- What was called is not there, and nothing happens. -/
  | gone {call : ExchangeCall} (hwait : ∀ milliseconds, call ≠ .wait milliseconds) :
    Performs x call .gone x
  | call {inquiry : Inquiry} {timeout id : Nat} {outcome : Outcome} {y : Exchange}
      (hcall : x.call inquiry timeout = some (id, outcome, y)) :
    Performs x (.call inquiry timeout) (.polled id outcome) y
  | poll {id : Nat} {outcome : Outcome} {y : Exchange} (hpoll : x.poll id = some (outcome, y)) :
    Performs x (.poll id) (.polled id outcome) y
  | cancel {id : Nat} {c : Call} (hcall : x.call? id = some c) :
    Performs x (.cancel id) .done (x.dropCall id)
  | endCalls : Performs x .endCalls .done x.endCalls
  | wait (milliseconds : Nat) : Performs x (.wait milliseconds) .done (x.wait milliseconds)
  | hand {id : Nat} {inquiry : Inquiry} {queue : List (Nat × Inquiry)}
      (hendpoint : x.endpoint ≠ .gone) (hqueue : x.queue = (id, inquiry) :: queue) :
    Performs x .next (.arrived (.request x.taken.length inquiry))
      { x with queue, taken := x.taken ++ [some id] }.settle
  | idle (hendpoint : x.endpoint ≠ .gone) (hqueue : x.queue = []) :
    Performs x .next (.arrived (if x.isExhausted then .closed else .pending)) x
  | answer {request id : Nat} (reply : List UInt8) (htaken : (x.taken[request]?).join = some id) :
    Performs x (.respond request reply)
      (.responded (if (x.call? id).isSome then .ok () else .error .closed))
      ({ x with taken := x.taken.set request none }.advanceCall id (.replied reply))
  | drop {request id : Nat} (htaken : (x.taken[request]?).join = some id) :
    Performs x (.dropRequest request) .done
      ({ x with taken := x.taken.set request none }.advanceCall id .abandoned)
  | close (hendpoint : x.endpoint ≠ .gone) :
    Performs x .close .done { x with endpoint := .draining }
  | leave (hendpoint : x.endpoint ≠ .gone) : Performs x .dropEndpoint .done x.dropEndpoint

theorem perform_cases (x : Exchange) (call : ExchangeCall) :
    x.Performs call (x.perform call).1 (x.perform call).2 := by
  cases call with
  | call inquiry timeout =>
    rw [perform]
    cases hcall : x.call inquiry timeout with
    | none => exact .gone (by simp)
    | some result => exact .call hcall
  | poll id =>
    rw [perform]
    cases hpoll : x.poll id with
    | none => exact .gone (by simp)
    | some result => exact .poll hpoll
  | cancel id =>
    rw [perform, cancel]
    cases hcall : x.call? id with
    | none => exact .gone (by simp)
    | some c => exact .cancel hcall
  | endCalls => exact .endCalls
  | wait milliseconds => exact .wait milliseconds
  | next =>
    rw [perform, next]
    by_cases hendpoint : x.endpoint = .gone
    · rw [if_pos hendpoint]
      exact .gone (by simp)
    · rw [if_neg hendpoint]
      cases hqueue : x.queue with
      | nil => exact .idle hendpoint hqueue
      | cons entry queue => exact .hand hendpoint hqueue
  | respond request reply =>
    rw [perform, respond, finish]
    cases htaken : (x.taken[request]?).join with
    | none => exact .gone (by simp)
    | some id => exact .answer reply htaken
  | dropRequest request =>
    rw [perform, dropRequest, finish]
    cases htaken : (x.taken[request]?).join with
    | none => exact .gone (by simp)
    | some id => exact .drop htaken
  | close =>
    rw [perform, close]
    by_cases hendpoint : x.endpoint = .gone
    · rw [if_pos hendpoint]
      exact .gone (by simp)
    · rw [if_neg hendpoint]
      exact .close hendpoint
  | dropEndpoint =>
    rw [perform]
    by_cases hendpoint : x.endpoint = .gone
    · rw [if_pos hendpoint]
      exact .gone (by simp)
    · rw [if_neg hendpoint]
      exact .leave hendpoint

/-! ## Calls are steps -/

theorem ends_of_expiry {x : Exchange} {c : Call} {result : Except ExchangeError (List UInt8)}
    (h : x.expiry c = some result) : x.Ends c result := by
  rw [expiry] at h
  split at h
  · rename_i hdeadline
    cases h
    exact .timeout hdeadline
  · cases h

/-- Taking a call further may bring its request into the queue. -/
theorem progress_steps {x : Exchange} {id : Nat} {c : Call} (hcall : x.call? id = some c) :
    ∃ added, Steps x (added.map fun entry => Moment.entered entry.1 entry.2) (x.progress id c).2 ∧
      (x.progress id c).2.queue = x.queue ++ added ∧
      ∃ c', (x.progress id c).2.call? id = some c' ∧
        ∀ result, (x.progress id c).1 = some result → (x.progress id c).2.Ends c' result := by
  have hstay (outcome : Outcome) (hprogress : x.progress id c = (outcome, x))
      (hends : ∀ result, outcome = some result → x.Ends c result) :
      ∃ added, Steps x (added.map fun entry => Moment.entered entry.1 entry.2)
          (x.progress id c).2 ∧
        (x.progress id c).2.queue = x.queue ++ added ∧
        ∃ c', (x.progress id c).2.call? id = some c' ∧
          ∀ result, (x.progress id c).1 = some result → (x.progress id c).2.Ends c' result := by
    rw [hprogress]
    exact ⟨[], .nil x, (List.append_nil _).symm, c, hcall, hends⟩
  cases hstage : c.stage with
  | replied reply =>
    refine hstay (some (.ok reply)) (by rw [progress, hstage]) fun result h => ?_
    cases h
    exact .reply hstage
  | abandoned =>
    refine hstay (some (.error .noReply)) (by rw [progress, hstage]) fun result h => ?_
    cases h
    exact .noReply hstage
  | sent =>
    exact hstay _ (by rw [progress, hstage]) fun result => ends_of_expiry
  | waiting =>
    by_cases hendpoint : x.endpoint = .accepting
    · exact hstay _ (by rw [progress, hstage]; exact if_pos hendpoint) fun result => ends_of_expiry
    · refine hstay _ (by rw [progress, hstage]; exact if_neg hendpoint) fun result h => ?_
      cases h
      exact .closed (.inl hstage) hendpoint
  | granted =>
    by_cases hendpoint : x.endpoint = .accepting
    · have hprogress : x.progress id c = (x.expiry c,
          { x.advanceCall id .sent with queue := x.queue ++ [(id, c.inquiry)] }) := by
        rw [progress, hstage]
        exact if_pos hendpoint
      rw [hprogress]
      refine ⟨[(id, c.inquiry)], (Step.send hcall hstage hendpoint).steps, rfl,
        { c with stage := .sent }, ?_, fun result h => ?_⟩
      · show (x.advanceCall id .sent).call? id = _
        rw [call?_advanceCall, if_pos rfl, hcall]
        rfl
      · have hends : x.expiry { c with stage := .sent } = some result := h
        cases ends_of_expiry hends with
        | timeout hdeadline => exact .timeout hdeadline
        | reply hstage | noReply hstage => cases hstage
        | closed hstage => rcases hstage with hstage | hstage <;> cases hstage
    · refine hstay _ (by rw [progress, hstage]; exact if_neg hendpoint) fun result h => ?_
      cases h
      exact .closed (.inr hstage) hendpoint

theorem settle_queue (x : Exchange) : x.settle.queue = x.queue := by
  rw [settle]
  split <;> rfl

/-- Polling a call takes it further and may end it. -/
theorem poll_steps {x y : Exchange} {id : Nat} {outcome : Outcome}
    (hpoll : x.poll id = some (outcome, y)) :
    ∃ added, y.queue = x.queue ++ added ∧
      Steps x (added.map (fun entry => Moment.entered entry.1 entry.2) ++ ending id outcome) y := by
  rw [poll] at hpoll
  obtain ⟨c, hcall, hpoll⟩ := Option.map_eq_some_iff.mp hpoll
  obtain ⟨added, hsteps, hqueue, c', hcall', hends⟩ := progress_steps hcall
  refine ⟨added, ?_⟩
  rcases hprogress : x.progress id c with ⟨_ | result, z⟩ <;>
    rw [hprogress] at hpoll hsteps hqueue hcall' hends <;> cases hpoll
  · rw [ending, Option.map_none, Option.toList_none, List.append_nil]
    exact ⟨hqueue, hsteps⟩
  · have hfinish := (Step.finish hcall' (hends result rfl)).steps
    exact ⟨(settle_queue _).trans hqueue, hsteps.append (hfinish.append Step.settle.steps)⟩

/-- A call that starts is the last one, and polled at once. -/
theorem poll_of_call_eq_some {x y : Exchange} {inquiry : Inquiry} {timeout id : Nat}
    {outcome : Outcome} (hcall : x.call inquiry timeout = some (id, outcome, y)) :
    x.calls.length = id ∧ (x.enter inquiry timeout).poll id = some (outcome, y) := by
  rw [call] at hcall
  split at hcall
  · obtain ⟨_, hpoll, heq⟩ := Option.map_eq_some_iff.mp hcall
    cases heq
    exact ⟨rfl, hpoll⟩
  · cases hcall

/-- A call of the exchange is a sequence of steps. -/
theorem perform_steps (x : Exchange) (call : ExchangeCall) :
    Steps x (x.moments call) (x.perform call).2 := by
  have hperforms := x.perform_cases call
  rw [moments]
  generalize (x.perform call).1 = reply, (x.perform call).2 = y at hperforms
  cases hperforms with
  | gone hwait =>
    cases call with
    | wait milliseconds => exact absurd rfl (hwait milliseconds)
    | _ => exact .nil x
  | @call inquiry timeout id outcome y hcall =>
    obtain ⟨rfl, hpoll⟩ := poll_of_call_eq_some hcall
    obtain ⟨added, hqueue, hsteps⟩ := poll_steps hpoll
    have hqueue : y.queue = x.queue ++ added := hqueue
    rw [hqueue, List.drop_left]
    exact (Step.issue inquiry timeout).steps.append hsteps
  | poll hpoll =>
    obtain ⟨added, hqueue, hsteps⟩ := poll_steps hpoll
    rw [hqueue, List.drop_left]
    exact hsteps
  | cancel hcall => exact (Step.cancel hcall).steps.append Step.settle.steps
  | endCalls => exact Step.endCalls.steps
  | wait milliseconds => exact (Step.wait milliseconds).steps
  | hand hendpoint hqueue => exact (Step.take hendpoint hqueue).steps.append Step.settle.steps
  | idle hendpoint hqueue => cases x.isExhausted <;> exact .nil x
  | answer reply htaken => exact (Step.answer reply htaken).steps
  | drop htaken => exact (Step.drop htaken).steps
  | close hendpoint => exact (Step.close hendpoint).steps
  | leave hendpoint => exact (Step.leave hendpoint).steps

/-- A run is a sequence of steps. -/
theorem run_steps (x : Exchange) (calls : List ExchangeCall) :
    Steps x (x.run calls).1 (x.run calls).2 := by
  induction calls generalizing x with
  | nil => exact .nil x
  | cons call calls ih => exact (x.perform_steps call).append (ih _)

/-! ## What a step does to calls -/

/-- What a step with a moment does to the place of one call. -/
inductive Change (x : Exchange) (m : Option Moment) (id : Nat) :
    Option Call → Option Call → Prop where
  | kept (c? : Option Call) (hissued : m.bind Moment.issued? ≠ some id)
      (hover : m.bind Moment.over? ≠ some id)
      (hentered : ∀ inquiry, m ≠ some (.entered id inquiry)) :
    Change x m id c? c?
  | issued {inquiry : Inquiry} {timeout : Nat} {stage : Stage}
      (hm : m = some (.issued id inquiry timeout)) (hid : id = x.calls.length)
      (hstage : stage = .waiting ∨ stage = .granted) :
    Change x m id none (some ⟨inquiry, min (x.now + timeout) lastDeadline, timeout, stage⟩)
  | ended (c : Call) (hm : m.bind Moment.over? = some id) : Change x m id (some c) none
  | granted {c : Call} (hm : m = none) (hstage : c.stage = .waiting) :
    Change x m id (some c) (some { c with stage := .granted })
  | sent {c : Call} (hm : m = some (.entered id c.inquiry)) :
    Change x m id (some c) (some { c with stage := .sent })
  | replied {c : Call} {request : Nat} {reply : List UInt8}
      (hm : m = some (.answered request reply (.ok ())))
      (htaken : (x.taken[request]?).join = some id) :
    Change x m id (some c) (some { c with stage := .replied reply })
  | dropped {c : Call} {request : Nat} (hm : m = some (.dropped request))
      (htaken : (x.taken[request]?).join = some id) :
    Change x m id (some c) (some { c with stage := .abandoned })
  | lost {c : Call} (hm : m = some .left) (hqueue : id ∈ x.queue.map Prod.fst) :
    Change x m id (some c) (some { c with stage := .abandoned })

namespace Change

variable {x : Exchange} {m : Option Moment} {sender : Nat}

/-- A call ends, and the others stay as they are. -/
theorem of_set {c : Call} (hcall : x.call? sender = some c)
    (hover : m.bind Moment.over? = some sender) (hissued : m.bind Moment.issued? = none)
    (hentered : m.bind Moment.entry? = none) (id : Nat) :
    Change x m id (x.call? id)
      (Exchange.call? { x with calls := x.calls.set sender none } id) := by
  rw [call?_set (Places.lt_length hcall)]
  split
  · rename_i hid
    rw [hid, hcall]
    exact .ended c hover
  · rename_i hid
    refine .kept _ (by rw [hissued]; exact nofun) ?_ fun inquiry hm => ?_
    · rw [hover]
      exact fun h => hid (Option.some.inj h).symm
    · rw [hm] at hentered
      cases hentered

/-- A request is settled, which concerns its call if that is not over. -/
theorem of_settled {stage : Stage} {request : Nat} (hm : m.bind Moment.settled? = some request)
    (hsender : ∀ c, x.call? sender = some c →
      Change x m sender (some c) (some { c with stage })) (id : Nat) :
    Change x m id (x.call? id) ((x.advanceCall sender stage).call? id) := by
  have hkept (id : Nat) (c? : Option Call) : Change x m id c? c? := by
    rcases m with _ | _ | _ | _ | _ | _ | _ | _ | _ | _ | _ <;> cases hm <;>
      exact .kept _ nofun nofun nofun
  rw [call?_advanceCall]
  by_cases hid : id = sender
  · rw [if_pos hid, hid]
    cases hcall : x.call? sender with
    | none => exact hkept sender none
    | some c => exact hsender c hcall
  · rw [if_neg hid]
    exact hkept id _

end Change

theorem Step.change {x y : Exchange} {m : Option Moment} (h : Step x m y) (id : Nat) :
    Change x m id (x.call? id) (y.call? id) := by
  cases h with
  | issue inquiry timeout =>
    rw [call?_enter]
    by_cases hid : id = x.calls.length
    · rw [if_pos hid, hid, call?, Places.join_of_length_le (Nat.le_refl _)]
      refine .issued rfl rfl ?_
      split
      · exact .inr rfl
      · exact .inl rfl
    · rw [if_neg hid]
      exact .kept _ (fun h => hid (Option.some.inj h).symm) nofun nofun
  | @send sender c hcall hstage hendpoint =>
    show Change x _ id _ ((x.advanceCall sender .sent).call? id)
    rw [call?_advanceCall]
    by_cases hid : id = sender
    · rw [if_pos hid, hid, hcall]
      exact .sent rfl
    · rw [if_neg hid]
      refine .kept _ nofun nofun fun inquiry h => ?_
      cases h
      exact hid rfl
  | finish hcall hends => exact .of_set hcall rfl rfl rfl id
  | cancel hcall => exact .of_set hcall rfl rfl rfl id
  | settle =>
    rcases x.call?_settle_cases id with h | ⟨c, hc, hwaiting, h⟩
    · rw [h]
      exact .kept _ nofun nofun nofun
    · rw [h, hc]
      exact .granted rfl hwaiting
  | endCalls => exact .kept _ nofun nofun nofun
  | wait milliseconds => exact .kept _ nofun nofun nofun
  | take hendpoint hqueue => exact .kept _ nofun nofun nofun
  | @answer request sender reply htaken =>
    refine .of_settled rfl (fun c hcall => .replied ?_ htaken) id
    rw [hcall]
    rfl
  | drop htaken => exact .of_settled rfl (fun c _ => .dropped rfl htaken) id
  | close hendpoint => exact .kept _ nofun nofun nofun
  | leave hendpoint =>
    show Change x _ id _
      ((x.queue.foldl (fun x entry => x.advanceCall entry.1 .abandoned) x).call? id)
    rw [call?_foldl_abandon]
    split
    · rename_i hid
      cases x.call? id with
      | none => exact .kept _ nofun nofun nofun
      | some c => exact .lost rfl hid
    · exact .kept _ nofun nofun nofun

/-- Calls start and end only in the moments that say so. -/
theorem Step.call?_eq_none {x y : Exchange} {m : Option Moment} (h : Step x m y) (id : Nat) :
    y.call? id = none ↔
      (x.call? id = none ∧ m.bind Moment.issued? ≠ some id) ∨ m.bind Moment.over? = some id := by
  have hchange := h.change id
  generalize x.call? id = c?, y.call? id = c?' at hchange
  cases hchange with
  | kept _ hissued hover hentered => simp [hissued, hover]
  | issued hm => simp [hm, Moment.issued?, Moment.over?]
  | ended _ hm => simp [hm]
  | granted hm => simp [hm]
  | sent hm => simp [hm, Moment.over?]
  | replied hm => simp [hm, Moment.over?]
  | dropped hm => simp [hm, Moment.over?]
  | lost hm => simp [hm, Moment.over?]

end WaveCache.Exchange
