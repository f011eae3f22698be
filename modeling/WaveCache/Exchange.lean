import WaveCache.Message.Request
import WaveCache.Time
import WaveCache.Wire.Encoding

/-!
# Exchange of requests and replies

Callers put requests into a queue of bounded depth, and an endpoint takes them out and replies to
each of them once.  A call goes through stages.  It waits in line for a place in the queue, first
come first served; it is given a place; it uses the place when it is polled next, and its request is
in the queue; and then it waits for the reply.  A call that ends in between gives up its place in
the line or the place that it was given, but a request that is in the queue stays there.

Places are never counted up and down: `free` says how many are left from the queue and the stages.
`settle` hands out the places that have become free.

`Exchange` models the two ends that `reply_channel` makes.  `call` and `poll` are `request` of
`Requestor`, step by step, and `cancel` drops the call; `next`, `close` and `dropEndpoint` are
`next`, `close` and the drop of `ReplyEndpoint`; `respond` and `dropRequest` are `respond` and the
drop of `PendingRequest`.  `ExchangeError` is `BusError`.  `empty` is `reply_channel` for the depths
for which it returns: a depth beyond what a semaphore can count is a panic there and is not looked
at here.  Time is a number of milliseconds that `wait` moves on.
-/

namespace WaveCache

/-- A request in bytes, and who sent it. -/
structure Inquiry where
  peer : Peer
  encoding : Encoding
  payload : List UInt8
deriving DecidableEq

/-- Why a call has no reply, or why a reply has no call. -/
inductive ExchangeError where
  /-- The other side is gone. -/
  | closed
  /-- The reply did not come within so many milliseconds. -/
  | timeout (milliseconds : Nat)
  /-- The request was given up unanswered. -/
  | noReply
deriving DecidableEq

namespace ExchangeError

/-- The text of an error. -/
def message : ExchangeError → String
  | closed => "Reply endpoint closed"
  | timeout milliseconds => "Request timed out after " ++ durationText milliseconds
  | noReply => "Request dropped without a reply"

end ExchangeError

/-- How far a call is. -/
inductive Stage where
  /-- It waits for a place in the queue. -/
  | waiting
  /-- It has a place and has not used it yet. -/
  | granted
  /-- Its request is in the queue or has been taken out. -/
  | sent
  /-- There is a reply. -/
  | replied (reply : List UInt8)
  /-- There will be no reply. -/
  | abandoned
deriving DecidableEq

/-- A call that is not over. -/
structure Call where
  inquiry : Inquiry
  /-- The time in milliseconds at which the call gives up. -/
  deadline : Nat
  /-- The time in milliseconds that it allows. -/
  timeout : Nat
  stage : Stage
deriving DecidableEq

/-- What the endpoint does with requests. -/
inductive Endpoint where
  /-- It takes them. -/
  | accepting
  /-- It takes those that are in the queue and refuses others. -/
  | draining
  /-- It is gone. -/
  | gone
deriving DecidableEq

/-- Calls, the queue and the requests that were taken out of it.  Calls and requests taken out are
known by their places in the lists, and the place of one that is over is empty. -/
structure Exchange where
  /-- The greatest number of requests in the queue. -/
  depth : Nat
  /-- The clock, in milliseconds. -/
  now : Nat
  calls : List (Option Call)
  /-- The requests in the queue with their calls, in order. -/
  queue : List (Nat × Inquiry)
  /-- The calls of the requests that were taken out. -/
  taken : List (Option Nat)
  endpoint : Endpoint
  /-- Whether there may be more calls. -/
  mayCall : Bool

namespace Exchange

/-- An exchange without calls.  The queue has one place at least. -/
def empty (depth : Nat) : Exchange :=
  ⟨max depth 1, 0, [], [], [], .accepting, true⟩

/-- A call that is not over. -/
def call? (x : Exchange) (id : Nat) : Option Call :=
  (x.calls[id]?).join

/-- The number of calls that hold a place without using it. -/
def granted (x : Exchange) : Nat :=
  x.calls.countP fun call => call.any (·.stage = .granted)

/-- The number of places that nobody holds. -/
def free (x : Exchange) : Nat :=
  x.depth - (x.queue.length + x.granted)

/-- Gives places to the first calls in line. -/
def grant : Nat → List (Option Call) → List (Option Call)
  | 0, calls => calls
  | _, [] => []
  | places + 1, none :: calls => none :: grant (places + 1) calls
  | places + 1, some call :: calls =>
    if call.stage = .waiting then some { call with stage := .granted } :: grant places calls
    else some call :: grant (places + 1) calls

/-- Gives the free places to the first calls in line, as long as requests are taken. -/
def settle (x : Exchange) : Exchange :=
  if x.endpoint = .accepting then { x with calls := grant x.free x.calls } else x

/-- Moves a call to another stage, if it is not over. -/
def advanceCall (x : Exchange) (id : Nat) (stage : Stage) : Exchange :=
  { x with calls := x.calls.modify id fun call => call.map fun c => { c with stage } }

/-- Ends a call, whose place goes to the first in line. -/
def dropCall (x : Exchange) (id : Nat) : Exchange :=
  { x with calls := x.calls.set id none }.settle

/-! ## The calling side -/

/-- What a call has come to, nothing if it goes on. -/
abbrev Outcome := Option (Except ExchangeError (List UInt8))

/-- The deadline of a call, looked at when the exchange has nothing to say. -/
def expiry (x : Exchange) (call : Call) : Outcome :=
  if call.deadline ≤ x.now then some (.error (.timeout call.timeout)) else none

/-- Takes a call as far as it goes now. -/
def progress (x : Exchange) (id : Nat) (call : Call) : Outcome × Exchange :=
  match call.stage with
  | .replied reply => (some (.ok reply), x)
  | .abandoned => (some (.error .noReply), x)
  | .sent => (x.expiry call, x)
  | .waiting =>
    if x.endpoint = .accepting then (x.expiry call, x) else (some (.error .closed), x)
  | .granted =>
    if x.endpoint = .accepting then
      (x.expiry call, { x.advanceCall id .sent with queue := x.queue ++ [(id, call.inquiry)] })
    else (some (.error .closed), x)

/-- Polls a call that is not over, which may end it. -/
def poll (x : Exchange) (id : Nat) : Option (Outcome × Exchange) :=
  (x.call? id).map fun call =>
    match x.progress id call with
    | (none, x) => (none, x)
    | (some result, x) => (some result, x.dropCall id)

/-- The last time in milliseconds at which a call can give up.  The clock may go past it. -/
def lastDeadline : Nat := 0xFFFFFFFFFFFFFFFD

/-- Adds a call, without polling it. -/
def enter (x : Exchange) (inquiry : Inquiry) (timeout : Nat) : Exchange :=
  { x with calls := x.calls ++ [some {
    inquiry
    deadline := min (x.now + timeout) lastDeadline
    timeout
    stage := if 0 < x.free then .granted else .waiting }] }

/-- Starts a call and polls it once, if there may be more calls. -/
def call (x : Exchange) (inquiry : Inquiry) (timeout : Nat) : Option (Nat × Outcome × Exchange) :=
  if x.mayCall then
    ((x.enter inquiry timeout).poll x.calls.length).map fun (outcome, x') =>
      (x.calls.length, outcome, x')
  else none

/-- Waits for the end of a call when nothing else is going on.  If it goes on, the clock goes on to
its deadline. -/
def await (x : Exchange) (id : Nat) (call : Call) :
    Except ExchangeError (List UInt8) × Exchange :=
  match x.progress id call with
  | (some result, x) => (result, x.dropCall id)
  | (none, x) =>
    (.error (.timeout call.timeout), { x with now := max x.now call.deadline }.dropCall id)

/-- Ends a call.  One that is over stays so. -/
def cancel (x : Exchange) (id : Nat) : Exchange :=
  if (x.call? id).isSome then x.dropCall id else x

/-- Lets no more calls start. -/
def endCalls (x : Exchange) : Exchange :=
  { x with mayCall := false }

/-- Lets time go by. -/
def wait (x : Exchange) (milliseconds : Nat) : Exchange :=
  { x with now := x.now + milliseconds }

/-! ## The replying side -/

/-- What the endpoint finds in the queue. -/
inductive Arrival where
  /-- A request, and the number under which it can be replied to. -/
  | request (id : Nat) (inquiry : Inquiry)
  /-- Nothing yet. -/
  | pending
  /-- Nothing, and nothing will come. -/
  | closed
deriving DecidableEq

/-- Whether nothing will come into an empty queue. -/
def isExhausted (x : Exchange) : Bool :=
  x.endpoint = .draining && x.granted = 0 || !x.mayCall && x.calls.all (·.isNone)

/-- Takes the next request out of the queue. -/
def next (x : Exchange) : Option (Arrival × Exchange) :=
  if x.endpoint = .gone then none
  else
    match x.queue with
    | (id, inquiry) :: queue =>
      some (.request x.taken.length inquiry,
        { x with queue, taken := x.taken ++ [some id] }.settle)
    | [] => some (if x.isExhausted then .closed else .pending, x)

/-- Answers a request that was taken out, or drops it.  It is over then, and nothing comes of doing
so again. -/
def finish (x : Exchange) (request : Nat) (stage : Stage) :
    Option (Except ExchangeError Unit × Exchange) :=
  (x.taken[request]?).join.map fun id =>
    (if (x.call? id).isSome then .ok () else .error .closed,
      { x with taken := x.taken.set request none }.advanceCall id stage)

/-- Replies to a request.  It is an error if its call is over. -/
def respond (x : Exchange) (request : Nat) (reply : List UInt8) :
    Option (Except ExchangeError Unit × Exchange) :=
  x.finish request (.replied reply)

/-- Drops a request without a reply.  One that is over stays so. -/
def dropRequest (x : Exchange) (request : Nat) : Exchange :=
  ((x.finish request .abandoned).map (·.2)).getD x

/-- Refuses further requests. -/
def close (x : Exchange) : Option Exchange :=
  if x.endpoint = .gone then none else some { x with endpoint := .draining }

/-- Takes the endpoint away and drops what is in the queue. -/
def dropEndpoint (x : Exchange) : Exchange :=
  { x.queue.foldl (fun x entry => x.advanceCall entry.1 .abandoned) x with
    queue := []
    endpoint := .gone }

end Exchange

end WaveCache
