import Mathlib.Algebra.Ring.Nat
import WaveCache.Exchange

/-!
# What happens at an exchange

`ExchangeCall` and `ExchangeReply` are the calls of an exchange, of its callers and of its endpoint,
and what comes back from them.  `Exchange.perform` makes a call.

What a call brings about is written down as `Moment`s, one after another: a request comes into the
queue, it is handed out, it is answered, a call ends.  `Exchange.history` lists the moments of all
calls.  Who entered the queue, which requests were settled and which calls are over can be read off
the history.
-/

namespace WaveCache

/-- A call of an exchange. -/
inductive ExchangeCall where
  /-- Starts a call and polls it once. -/
  | call (inquiry : Inquiry) (timeout : Nat)
  | poll (id : Nat)
  | cancel (id : Nat)
  | endCalls
  | wait (milliseconds : Nat)
  | next
  | respond (request : Nat) (reply : List UInt8)
  | dropRequest (request : Nat)
  | close
  | dropEndpoint
deriving DecidableEq

/-- What comes back from a call. -/
inductive ExchangeReply where
  /-- What the call with this number has come to. -/
  | polled (id : Nat) (outcome : Exchange.Outcome)
  | arrived (arrival : Exchange.Arrival)
  | responded (result : Except ExchangeError Unit)
  | done
  /-- What was called is not there any more. -/
  | gone

/-- Something that happens. -/
inductive Moment where
  /-- A call starts. -/
  | issued (id : Nat) (inquiry : Inquiry) (timeout : Nat)
  /-- The request of a call comes into the queue. -/
  | entered (id : Nat) (inquiry : Inquiry)
  | ended (id : Nat) (result : Except ExchangeError (List UInt8))
  | cancelled (id : Nat)
  | waited (milliseconds : Nat)
  /-- A request is taken out of the queue. -/
  | handed (request : Nat) (inquiry : Inquiry)
  | answered (request : Nat) (reply : List UInt8) (result : Except ExchangeError Unit)
  | dropped (request : Nat)
  | closed
  /-- The endpoint goes away. -/
  | left

namespace Moment

/-- What comes into the queue, and its call. -/
def entry? : Moment → Option (Nat × Inquiry)
  | entered id inquiry => some (id, inquiry)
  | _ => none

/-- What is taken out of the queue, and the number under which it can be replied to. -/
def handout? : Moment → Option (Nat × Inquiry)
  | handed request inquiry => some (request, inquiry)
  | _ => none

/-- The request that is answered or dropped. -/
def settled? : Moment → Option Nat
  | answered request _ _ => some request
  | dropped request => some request
  | _ => none

/-- The call that starts. -/
def issued? : Moment → Option Nat
  | issued id _ _ => some id
  | _ => none

/-- The call that is over. -/
def over? : Moment → Option Nat
  | ended id _ => some id
  | cancelled id => some id
  | _ => none

/-- The call that is given up. -/
def givenUp? : Moment → Option Nat
  | ended id (.error (.timeout _)) => some id
  | cancelled id => some id
  | _ => none

/-- The time that goes by. -/
def elapsed : Moment → Nat
  | waited milliseconds => milliseconds
  | _ => 0

end Moment

namespace Exchange

/-! ## The past -/

/-- The requests that came into the queue, with their calls. -/
def entries (past : List Moment) : List (Nat × Inquiry) :=
  past.filterMap Moment.entry?

/-- The requests that were taken out of the queue, with their numbers. -/
def handouts (past : List Moment) : List (Nat × Inquiry) :=
  past.filterMap Moment.handout?

/-- The calls that were started. -/
def issues (past : List Moment) : List Nat :=
  past.filterMap Moment.issued?

/-- The time in milliseconds. -/
def clock (past : List Moment) : Nat :=
  (past.map Moment.elapsed).sum

/-- Whether a request was answered or dropped. -/
def Settled (past : List Moment) (request : Nat) : Prop :=
  request ∈ past.filterMap Moment.settled?

/-- Whether a call is over. -/
def Over (past : List Moment) (id : Nat) : Prop :=
  id ∈ past.filterMap Moment.over?

/-- Whether a call was given up, because its time was over or because it was cancelled. -/
def GivenUp (past : List Moment) (id : Nat) : Prop :=
  id ∈ past.filterMap Moment.givenUp?

/-- Whether a request was in the queue when the endpoint went away. -/
def Lost (past : List Moment) (request : Nat) : Prop :=
  .left ∈ past ∧ (handouts past).length ≤ request

/-- What has become of a request that is over, as the stage in which its call is then. -/
def Fate (past : List Moment) (request : Nat) : Stage → Prop
  | .replied reply => .answered request reply (.ok ()) ∈ past
  | .abandoned => .dropped request ∈ past ∨ Lost past request
  | .waiting | .granted | .sent => False

/-- The calls that were started before another and have neither ended nor come into the queue. -/
def ahead (past : List Moment) (id : Nat) : List Nat :=
  (issues past).filter fun other =>
    other < id ∧ other ∉ past.filterMap Moment.over? ∧ other ∉ (entries past).map Prod.fst

section

variable (past : List Moment) (m : Option Moment)

theorem filterMap_append_toList {α : Type} (f : Moment → Option α) :
    (past ++ m.toList).filterMap f = past.filterMap f ++ (m.bind f).toList := by
  rw [List.filterMap_append]
  cases m with
  | none => rfl
  | some m => cases h : f m <;> simp [h]

@[simp] theorem entries_append :
    entries (past ++ m.toList) = entries past ++ (m.bind Moment.entry?).toList :=
  filterMap_append_toList ..

theorem entries_append_of_none {past : List Moment} {m : Option Moment}
    (h : m.bind Moment.entry? = none) : entries (past ++ m.toList) = entries past := by
  rw [entries_append, h]
  exact List.append_nil _

@[simp] theorem handouts_append :
    handouts (past ++ m.toList) = handouts past ++ (m.bind Moment.handout?).toList :=
  filterMap_append_toList ..

theorem handouts_append_of_none {past : List Moment} {m : Option Moment}
    (h : m.bind Moment.handout? = none) : handouts (past ++ m.toList) = handouts past := by
  rw [handouts_append, h]
  exact List.append_nil _

@[simp] theorem issues_append :
    issues (past ++ m.toList) = issues past ++ (m.bind Moment.issued?).toList :=
  filterMap_append_toList ..

@[simp] theorem clock_append :
    clock (past ++ m.toList) = clock past + (m.map Moment.elapsed).getD 0 := by
  rw [clock, List.map_append, List.sum_append]
  cases m <;> rfl

@[simp] theorem settled_append {request : Nat} : Settled (past ++ m.toList) request ↔
    Settled past request ∨ m.bind Moment.settled? = some request := by
  rw [Settled, filterMap_append_toList, List.mem_append, Option.mem_toList]
  rfl

@[simp] theorem over_append {id : Nat} :
    Over (past ++ m.toList) id ↔ Over past id ∨ m.bind Moment.over? = some id := by
  rw [Over, filterMap_append_toList, List.mem_append, Option.mem_toList]
  rfl

@[simp] theorem givenUp_append {id : Nat} :
    GivenUp (past ++ m.toList) id ↔ GivenUp past id ∨ m.bind Moment.givenUp? = some id := by
  rw [GivenUp, filterMap_append_toList, List.mem_append, Option.mem_toList]
  rfl

end

/-- A call that was given up is over. -/
theorem GivenUp.over {past : List Moment} {id : Nat} (h : GivenUp past id) : Over past id := by
  obtain ⟨m, hm, hid⟩ := List.mem_filterMap.mp h
  refine List.mem_filterMap.mpr ⟨m, hm, ?_⟩
  rcases m with _ | _ | ⟨_, ⟨⟨⟩⟩ | _⟩ | _ | _ | _ | _ | _ | _ | _ <;> cases hid <;> rfl

/-- A request that is over was settled or lost. -/
theorem Fate.settled_or_lost {past : List Moment} {request : Nat} {stage : Stage}
    (h : Fate past request stage) : Settled past request ∨ Lost past request := by
  cases stage with
  | replied reply => exact .inl (List.mem_filterMap.mpr ⟨_, h, rfl⟩)
  | abandoned => exact h.imp_left fun hdropped => List.mem_filterMap.mpr ⟨_, hdropped, rfl⟩
  | waiting | granted | sent => exact h.elim

/-- A request is over from before, or it is over with this moment. -/
theorem Fate.append_cases {past : List Moment} {m : Option Moment} {request : Nat} {stage : Stage}
    (h : Fate (past ++ m.toList) request stage) : Fate past request stage ∨
      (∃ reply, m = some (.answered request reply (.ok ())) ∧ stage = .replied reply) ∨
      m = some (.dropped request) ∧ stage = .abandoned ∨
      m = some .left ∧ stage = .abandoned ∧ (handouts past).length ≤ request := by
  have hnew {m' : Moment} (hm : m' ∈ past ++ m.toList) : m' ∈ past ∨ m = some m' :=
    (List.mem_append.mp hm).imp_right Option.mem_toList.mp
  cases stage with
  | replied reply => exact (hnew h).imp_right fun hm => .inl ⟨reply, hm, rfl⟩
  | abandoned =>
    rcases h with hdropped | ⟨hleft, hle⟩
    · exact (hnew hdropped).imp .inl fun hm => .inr (.inl ⟨hm, rfl⟩)
    · rw [handouts_append, List.length_append] at hle
      have hle : (handouts past).length ≤ request := by omega
      exact (hnew hleft).imp (fun hleft => .inr ⟨hleft, hle⟩) fun hm => .inr (.inr ⟨hm, rfl, hle⟩)
  | waiting | granted | sent => exact h.elim

/-! ## Calls -/

/-- Makes a call. -/
def perform (x : Exchange) (call : ExchangeCall) : ExchangeReply × Exchange :=
  match call with
  | .call inquiry timeout =>
    match x.call inquiry timeout with
    | some (id, outcome, x) => (.polled id outcome, x)
    | none => (.gone, x)
  | .poll id =>
    match x.poll id with
    | some (outcome, x) => (.polled id outcome, x)
    | none => (.gone, x)
  | .cancel id => (if (x.call? id).isSome then .done else .gone, x.cancel id)
  | .endCalls => (.done, x.endCalls)
  | .wait milliseconds => (.done, x.wait milliseconds)
  | .next =>
    match x.next with
    | some (arrival, x) => (.arrived arrival, x)
    | none => (.gone, x)
  | .respond request reply =>
    match x.respond request reply with
    | some (result, x) => (.responded result, x)
    | none => (.gone, x)
  | .dropRequest request =>
    (if (x.taken[request]?).join.isSome then .done else .gone, x.dropRequest request)
  | .close =>
    match x.close with
    | some x => (.done, x)
    | none => (.gone, x)
  | .dropEndpoint => if x.endpoint = .gone then (.gone, x) else (.done, x.dropEndpoint)

/-- The moment in which a call that was polled ends. -/
def ending (id : Nat) (outcome : Outcome) : List Moment :=
  (outcome.map (.ended id)).toList

/-- What a call brings about that got a reply and put requests into the queue. -/
def momentsOf (call : ExchangeCall) (reply : ExchangeReply) (added : List (Nat × Inquiry)) :
    List Moment :=
  let entered := added.map fun entry => Moment.entered entry.1 entry.2
  match call, reply with
  | .call inquiry timeout, .polled id outcome =>
    .issued id inquiry timeout :: (entered ++ ending id outcome)
  | .poll _, .polled id outcome => entered ++ ending id outcome
  | .cancel id, .done => [.cancelled id]
  | .wait milliseconds, _ => [.waited milliseconds]
  | .next, .arrived (.request request inquiry) => [.handed request inquiry]
  | .respond request reply, .responded result => [.answered request reply result]
  | .dropRequest request, .done => [.dropped request]
  | .close, .done => [.closed]
  | .dropEndpoint, .done => [.left]
  | _, _ => []

/-- What a call brings about.  What it puts into the queue is what is behind the requests that were
there before. -/
def moments (x : Exchange) (call : ExchangeCall) : List Moment :=
  momentsOf call (x.perform call).1 ((x.perform call).2.queue.drop x.queue.length)

/-- Makes calls one after another. -/
def run (x : Exchange) : List ExchangeCall → List Moment × Exchange
  | [] => ([], x)
  | call :: calls =>
    let (later, y) := (x.perform call).2.run calls
    (x.moments call ++ later, y)

/-- What calls of a new exchange bring about. -/
def history (depth : Nat) (calls : List ExchangeCall) : List Moment :=
  ((empty depth).run calls).1

/-- The exchange after calls of a new one. -/
def after (depth : Nat) (calls : List ExchangeCall) : Exchange :=
  ((empty depth).run calls).2

end Exchange

end WaveCache
