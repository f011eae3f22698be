import WaveCache.Proofs.Exchange.Step

/-!
# An exchange with one call

An exchange is idle if its endpoint takes requests and all its calls are over.  A call of an idle
exchange is alone: there is nobody in line, and it ends or gets its place at once.  `Idle.call_eq`
says what comes of it, `next_eq` and `respond_last` what comes of answering the first request in the
queue, and `await_replied` and `await_pending` how a call ends that is alone.
-/

namespace WaveCache.Exchange

/-! ## Nobody in line -/

theorem grant_eq_self {calls : List (Option Call)} (h : ∀ c, some c ∈ calls → c.stage ≠ .waiting)
    (places : Nat) : grant places calls = calls := by
  fun_induction grant places calls with
  | case1 calls => rfl
  | case2 => rfl
  | case3 places calls ih =>
    rw [ih fun c hc => h c (.tail _ hc)]
  | case4 places c calls hwaiting ih => exact absurd hwaiting (h c (.head _))
  | case5 places c calls hwaiting ih =>
    rw [ih fun c hc => h c (.tail _ hc)]

theorem settle_eq_self {x : Exchange} (h : ∀ c, some c ∈ x.calls → c.stage ≠ .waiting) :
    x.settle = x := by
  rw [settle, grant_eq_self h, ite_self]

/-- An exchange whose calls are over and whose endpoint takes requests. -/
structure Idle (x : Exchange) : Prop where
  accepting : x.endpoint = .accepting
  mayCall : x.mayCall = true
  depth_pos : 0 < x.depth
  ended : ∀ call ∈ x.calls, call = none

namespace Idle

variable {x : Exchange}

theorem empty (depth : Nat) : (Exchange.empty depth).Idle :=
  ⟨rfl, rfl, Nat.lt_of_lt_of_le Nat.zero_lt_one (Nat.le_max_right depth 1), fun _ h => nomatch h⟩

theorem granted_eq (h : x.Idle) : x.granted = 0 := by
  refine List.countP_eq_zero.mpr fun call hcall => ?_
  rw [h.ended call hcall]
  exact Bool.false_ne_true

theorem call?_eq_none (h : x.Idle) (id : Nat) : x.call? id = none := by
  rw [call?]
  cases hget : x.calls[id]? with
  | none => rfl
  | some call =>
    rw [h.ended call (List.mem_of_getElem? hget)]
    rfl

/-- A place behind the others is written. -/
theorem ended_concat (h : x.Idle) : ∀ call ∈ x.calls ++ [none], call = none := by
  intro call hcall
  rcases List.mem_append.mp hcall with hcall | hcall
  · exact h.ended call hcall
  · exact List.mem_singleton.mp hcall

/-- The end of the only call leaves the exchange idle, and nobody waits for its place. -/
theorem dropCall_eq (h : x.Idle) (c : Call) (now : Nat) (queue : List (Nat × Inquiry))
    (taken : List (Option Nat)) :
    Exchange.dropCall { x with now, calls := x.calls ++ [some c], queue, taken } x.calls.length =
      { x with now, calls := x.calls ++ [none], queue, taken } := by
  rw [dropCall, Places.set_concat]
  exact settle_eq_self fun c hc => nomatch h.ended_concat _ hc

/-- Polling the only call for the first time. -/
theorem poll_enter (h : x.Idle) {inquiry : Inquiry} {timeout deadline : Nat} {outcome : Outcome}
    {queue : List (Nat × Inquiry)} {stage : Stage}
    (hdeadline : deadline = min (x.now + timeout) lastDeadline)
    (hprogress : (x.enter inquiry timeout).progress x.calls.length
        ⟨inquiry, deadline, timeout, if 0 < x.free then .granted else .waiting⟩ =
      (outcome, { x with calls := x.calls ++ [some ⟨inquiry, deadline, timeout, stage⟩], queue })) :
    x.call inquiry timeout = some (x.calls.length, outcome, { x with
      calls := x.calls ++
        [if outcome.isSome then none else some ⟨inquiry, deadline, timeout, stage⟩]
      queue }) := by
  have hpoll : (x.enter inquiry timeout).poll x.calls.length = some (outcome, { x with
      calls := x.calls ++
        [if outcome.isSome then none else some ⟨inquiry, deadline, timeout, stage⟩]
      queue }) := by
    rw [poll, call?_enter, if_pos rfl, Option.map_some, ← hdeadline, hprogress]
    cases outcome with
    | none => rfl
    | some result =>
      exact congrArg (fun y => some (some result, y)) (h.dropCall_eq _ x.now queue x.taken)
  rw [call, if_pos h.mayCall, hpoll]
  rfl

/-- What comes of a call.  Its request comes into the queue unless that is full, and the call goes
on unless its time is over at once. -/
theorem call_eq (h : x.Idle) (inquiry : Inquiry) (timeout : Nat) :
    let deadline := min (x.now + timeout) lastDeadline
    let outcome : Outcome := if deadline ≤ x.now then some (.error (.timeout timeout)) else none
    ∃ queue stage, (stage = .sent ∨ stage = .waiting) ∧
      (x.queue = [] → queue = [(x.calls.length, inquiry)] ∧ stage = .sent) ∧
      x.call inquiry timeout = some (x.calls.length, outcome, { x with
        calls := x.calls ++
          [if outcome.isSome then none else some ⟨inquiry, deadline, timeout, stage⟩]
        queue }) := by
  intro deadline outcome
  have hfree : x.free = x.depth - x.queue.length := by rw [free, h.granted_eq, Nat.add_zero]
  by_cases hfull : x.queue.length < x.depth
  · refine ⟨x.queue ++ [(x.calls.length, inquiry)], .sent, .inl rfl, fun hqueue => ?_,
      h.poll_enter rfl ?_⟩
    · rw [hqueue]
      exact ⟨rfl, rfl⟩
    · rw [if_pos (by omega)]
      refine (if_pos h.accepting).trans (congrArg (Prod.mk outcome) ?_)
      rw [advanceCall, enter, if_pos (by omega), Places.modify_concat]
  · refine ⟨x.queue, .waiting, .inr rfl, fun hqueue => ?_, h.poll_enter rfl ?_⟩
    · rw [hqueue] at hfull
      exact absurd h.depth_pos hfull
    · rw [if_neg (by omega)]
      refine (if_pos h.accepting).trans (congrArg (Prod.mk outcome) ?_)
      rw [enter, if_neg (by omega)]

variable {c : Call} {queue : List (Nat × Inquiry)} {taken : List (Option Nat)}

/-- A call that has its reply ends with it. -/
theorem await_replied (h : x.Idle) {reply : List UInt8} (hstage : c.stage = .replied reply) :
    Exchange.await { x with calls := x.calls ++ [some c], queue, taken } x.calls.length c =
      (.ok reply, { x with calls := x.calls ++ [none], queue, taken }) := by
  have hprogress (y : Exchange) : y.progress x.calls.length c = (some (.ok reply), y) := by
    rw [progress, hstage]
  rw [await, hprogress]
  exact congrArg (Prod.mk _) (h.dropCall_eq c x.now queue taken)

/-- A call to which nobody replies ends when its time is over. -/
theorem await_pending (h : x.Idle) (hstage : c.stage = .sent ∨ c.stage = .waiting)
    (hdeadline : ¬ c.deadline ≤ x.now) :
    Exchange.await { x with calls := x.calls ++ [some c], queue, taken } x.calls.length c =
      (.error (.timeout c.timeout),
        { x with now := max x.now c.deadline, calls := x.calls ++ [none], queue, taken }) := by
  have hprogress : Exchange.progress { x with calls := x.calls ++ [some c], queue, taken }
      x.calls.length c = (none, { x with calls := x.calls ++ [some c], queue, taken }) := by
    have hexpiry : Exchange.expiry { x with calls := x.calls ++ [some c], queue, taken } c = none :=
      if_neg hdeadline
    rw [progress]
    rcases hstage with hstage | hstage
    · rw [hstage, hexpiry]
    · rw [hstage]
      refine (if_pos h.accepting).trans ?_
      rw [hexpiry]
  rw [await, hprogress]
  exact congrArg (Prod.mk _) (h.dropCall_eq c (max x.now c.deadline) queue taken)

end Idle

/-! ## One answer -/

section

variable {x : Exchange} {id : Nat} {inquiry : Inquiry} {queue : List (Nat × Inquiry)}

theorem next_eq (hendpoint : x.endpoint ≠ .gone) (hqueue : x.queue = (id, inquiry) :: queue)
    (hline : ∀ c, some c ∈ x.calls → c.stage ≠ .waiting) :
    x.next = some (.request x.taken.length inquiry,
      { x with queue, taken := x.taken ++ [some id] }) := by
  rw [next, if_neg hendpoint, hqueue]
  exact congrArg (fun y => some (Arrival.request x.taken.length inquiry, y)) (settle_eq_self hline)

/-- What comes of replying to the request that was taken out last. -/
theorem respond_last (reply : List UInt8) :
    (({ x with queue, taken := x.taken ++ [some id] } : Exchange).respond x.taken.length reply).map
      (·.2) = some (Exchange.advanceCall { x with queue, taken := x.taken ++ [none] } id
        (.replied reply)) := by
  have htaken : ((x.taken ++ [some id])[x.taken.length]?).join = some id :=
    (Places.join_concat x.taken (some id) x.taken.length).trans (if_pos rfl)
  rw [respond, finish, htaken, Option.map_some, Option.map_some, Places.set_concat]

end

end WaveCache.Exchange
