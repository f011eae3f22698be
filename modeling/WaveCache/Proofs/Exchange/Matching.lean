import Mathlib.Data.List.Infix
import WaveCache.Proofs.Exchange.Line

/-!
# Requests and replies match

`Lawful` says of a moment what must have happened before it: a call ends with a reply only if the
endpoint gave this reply to the request of this call, requests are handed out in the order in which
they came into the queue, and so on.  `Prompt` says what must happen when a call is polled: it ends
with the reply that its request got, and as soon as there is a place for it its request comes into
the queue.  Every moment of every run is lawful, and every call that is not over is prompt
(`run_lawful`).
-/

namespace WaveCache.Exchange

/-- What must have happened before a moment. -/
def Lawful (depth : Nat) (past : List Moment) : Moment → Prop
  | .issued id _ _ => id ∉ issues past
  | .entered id inquiry =>
    (∃ timeout, .issued id inquiry timeout ∈ past) ∧ ¬ Over past id ∧
      id ∉ (entries past).map Prod.fst ∧ .closed ∉ past ∧ .left ∉ past ∧
      (entries past).length < (handouts past).length + max depth 1
  | .ended id (.ok reply) =>
    id ∈ issues past ∧ ¬ Over past id ∧ ∃ request,
      ((entries past)[request]?).map Prod.fst = some id ∧ .answered request reply (.ok ()) ∈ past
  | .ended id (.error .closed) =>
    id ∈ issues past ∧ ¬ Over past id ∧ id ∉ (entries past).map Prod.fst ∧
      (.closed ∈ past ∨ .left ∈ past)
  | .ended id (.error .noReply) =>
    id ∈ issues past ∧ ¬ Over past id ∧ ∃ request,
      ((entries past)[request]?).map Prod.fst = some id ∧
        (.dropped request ∈ past ∨ Lost past request)
  | .ended id (.error (.timeout milliseconds)) =>
    id ∈ issues past ∧ ¬ Over past id ∧ ∃ front inquiry back,
      past = front ++ .issued id inquiry milliseconds :: back ∧
        min (clock front + milliseconds) lastDeadline ≤ clock past
  | .cancelled id => id ∈ issues past ∧ ¬ Over past id
  | .waited _ => True
  | .handed request inquiry =>
    request = (handouts past).length ∧ (∃ id, (entries past)[request]? = some (id, inquiry)) ∧
      .left ∉ past
  | .answered request _ result =>
    request < (handouts past).length ∧ ¬ Settled past request ∧ ∃ id,
      ((entries past)[request]?).map Prod.fst = some id ∧
        (result = .ok () ∧ ¬ GivenUp past id ∨ result = .error .closed ∧ GivenUp past id)
  | .dropped request => request < (handouts past).length ∧ ¬ Settled past request
  | .closed => .left ∉ past
  | .left => .left ∉ past

/-- What must happen when a call is polled that is not over. -/
structure Prompt (depth : Nat) (x : Exchange) (past : List Moment) (id : Nat) : Prop where
  /-- A call whose request is over ends, with the reply to it or without one. -/
  replied : ∀ request reply, ((entries past)[request]?).map Prod.fst = some id →
    .answered request reply (.ok ()) ∈ past →
      (x.perform (.poll id)).1 = .polled id (some (.ok reply))
  unanswered : ∀ request, ((entries past)[request]?).map Prod.fst = some id →
    .dropped request ∈ past ∨ Lost past request →
      (x.perform (.poll id)).1 = .polled id (some (.error .noReply))
  /-- So does a call whose request is refused. -/
  refused : id ∉ (entries past).map Prod.fst → .closed ∈ past ∨ .left ∈ past →
    (x.perform (.poll id)).1 = .polled id (some (.error .closed))
  /-- A request comes into the queue if those in it and the calls in line before it leave a place,
  and only then. -/
  enters : id ∉ (entries past).map Prod.fst → .closed ∉ past → .left ∉ past →
    ((∃ inquiry, .entered id inquiry ∈ x.moments (.poll id)) ↔
      (entries past).length + (ahead past id).length < (handouts past).length + max depth 1)

/-! ## Polling a call -/

theorem progress_queue (x : Exchange) (id : Nat) (c : Call) : (x.progress id c).2.queue =
    x.queue ++ if c.stage = .granted ∧ x.endpoint = .accepting then [(id, c.inquiry)] else [] := by
  rw [progress]
  cases hstage : c.stage <;> by_cases hendpoint : x.endpoint = .accepting <;> simp [hendpoint]

/-- The request of a call comes into the queue when the call is polled and has a place. -/
theorem entered_mem_moments_iff {x : Exchange} {id : Nat} {c : Call}
    (hcall : x.call? id = some c) : (∃ inquiry, .entered id inquiry ∈ x.moments (.poll id)) ↔
      c.stage = .granted ∧ x.endpoint = .accepting := by
  obtain ⟨outcome, y, hpoll, hqueue⟩ : ∃ outcome y, x.poll id = some (outcome, y) ∧
      y.queue = (x.progress id c).2.queue := by
    rw [poll, hcall]
    rcases hprogress : x.progress id c with ⟨_ | result, y⟩
    · exact ⟨none, y, by simp [hprogress], rfl⟩
    · exact ⟨some result, y.dropCall id, by simp [hprogress], settle_queue _⟩
  have hperform : x.perform (.poll id) = (.polled id outcome, y) := by simp only [perform, hpoll]
  rw [moments, hperform, hqueue, progress_queue, List.drop_left, momentsOf]
  by_cases hplace : c.stage = .granted ∧ x.endpoint = .accepting
  · rw [if_pos hplace]
    exact iff_of_true ⟨c.inquiry, .head _⟩ hplace
  · rw [if_neg hplace]
    refine iff_of_false ?_ hplace
    rintro ⟨inquiry, hentered⟩
    cases outcome <;> simp [ending] at hentered

/-- What goes on has time left. -/
theorem lt_of_progress {x : Exchange} (id : Nat) {c : Call} (h : (x.progress id c).1 = none) :
    x.now < c.deadline := by
  have hexpiry : x.expiry c = none := by
    rw [progress] at h
    split at h
    · cases h
    · cases h
    · exact h
    · split at h
      · exact h
      · cases h
    · split at h
      · exact h
      · cases h
  rw [expiry] at hexpiry
  split at hexpiry
  · cases hexpiry
  · exact Nat.lt_of_not_le ‹_›

namespace Inv

variable {depth : Nat} {x y : Exchange} {past : List Moment}

/-- The reply to a request finds its call unless the call was given up. -/
theorem answerable (h : Inv depth x past) {request id : Nat}
    (htaken : (x.taken[request]?).join = some id) :
    (x.call? id).isSome = true ↔ ¬ GivenUp past id := by
  obtain ⟨hlt, hrequest, hunsettled⟩ := (h.taken_iff request id).mp htaken
  obtain ⟨entry, hentry, rfl⟩ := Option.map_eq_some_iff.mp hrequest
  rw [Option.isSome_iff_ne_none, ne_eq, h.call_iff, not_or]
  constructor
  · exact fun hlive hgivenUp => hlive.2 hgivenUp.over
  · refine fun hgivenUp => ⟨Nat.not_le.mpr ?_, fun hover => ?_⟩
    · exact h.entries_lt entry (List.mem_of_getElem? hentry)
    · rcases h.orphan request entry hentry hover with hgivenUp' | hsettled | hlost
      · exact hgivenUp hgivenUp'
      · exact hunsettled hsettled
      · exact absurd hlost.2 (Nat.not_le.mpr hlt)

theorem lawful_ended (h : Inv depth x past) {id : Nat} {c : Call}
    {result : Except ExchangeError (List UInt8)} (hcall : x.call? id = some c)
    (hends : x.Ends c result) : Lawful depth past (.ended id result) := by
  have hstage := (h.live id c hcall).stage
  obtain ⟨hissued, hover⟩ := h.issued_of_call? hcall
  cases hends with
  | reply hreplied =>
    rw [hreplied] at hstage
    exact ⟨hissued, hover, hstage⟩
  | noReply habandoned =>
    rw [habandoned] at hstage
    exact ⟨hissued, hover, hstage⟩
  | closed hwaiting hendpoint =>
    refine ⟨hissued, hover, ?_, ?_⟩
    · rcases hwaiting with hwaiting | hwaiting
      · rw [hwaiting] at hstage
        exact hstage
      · rw [hwaiting] at hstage
        exact hstage
    · rw [ne_eq, h.accepting_iff, not_and_or, not_not, not_not] at hendpoint
      exact hendpoint
  | timeout hdeadline =>
    obtain ⟨front, back, hpast, heq⟩ := (h.live id c hcall).issued
    rw [heq, h.now_eq] at hdeadline
    exact ⟨hissued, hover, front, c.inquiry, back, hpast, hdeadline⟩

theorem lawful (h : Inv depth x past) {m : Moment} (hstep : Step x (some m) y) :
    Lawful depth past m := by
  cases hstep with
  | issue inquiry timeout =>
    show x.calls.length ∉ issues past
    rw [h.issues_eq, List.mem_range]
    exact Nat.lt_irrefl _
  | @send id c hcall hstage hendpoint =>
    obtain ⟨hclosed, hleft⟩ := h.accepting_iff.mp hendpoint
    obtain ⟨front, back, hpast, _⟩ := (h.live id c hcall).issued
    have hfresh := (h.live id c hcall).stage
    rw [hstage] at hfresh
    have hgranted := granted_advanceCall hcall .sent nofun
    have hroom := h.room
    have hqueue := congrArg List.length h.queue_eq
    rw [hendpoint, if_neg nofun, List.length_drop] at hqueue
    rw [if_pos hstage] at hgranted
    rw [h.depth_eq] at hroom
    refine ⟨⟨c.timeout, ?_⟩, (h.issued_of_call? hcall).2, hfresh, hclosed, hleft, by omega⟩
    rw [hpast]
    exact List.mem_append_right _ (.head _)
  | finish hcall hends => exact h.lawful_ended hcall hends
  | cancel hcall => exact h.issued_of_call? hcall
  | wait => trivial
  | @take id inquiry queue hendpoint hqueue =>
    obtain ⟨hentry, _, hleft⟩ := h.entry_of_queue hqueue
    rw [h.taken_length]
    exact ⟨rfl, ⟨id, hentry⟩, hleft⟩
  | @answer request id reply htaken =>
    obtain ⟨hlt, hrequest, hunsettled⟩ := (h.taken_iff request id).mp htaken
    refine ⟨hlt, hunsettled, id, hrequest, ?_⟩
    by_cases hgivenUp : GivenUp past id
    · exact .inr ⟨if_neg ((h.answerable htaken).not_left.mpr hgivenUp), hgivenUp⟩
    · exact .inl ⟨if_pos ((h.answerable htaken).mpr hgivenUp), hgivenUp⟩
  | @drop request id htaken =>
    obtain ⟨hlt, _, hunsettled⟩ := (h.taken_iff request id).mp htaken
    exact ⟨hlt, hunsettled⟩
  | close hendpoint => exact fun hleft => hendpoint (h.gone_iff.mpr hleft)
  | leave hendpoint => exact fun hleft => hendpoint (h.gone_iff.mpr hleft)

/-- What happens from an exchange on is lawful, moment by moment. -/
theorem lawful_steps {later : List Moment} (h : Inv depth x past) (hsteps : Steps x later y)
    (front : List Moment) (m : Moment) (hm : front ++ [m] <+: later) :
    Lawful depth (past ++ front) m := by
  induction hsteps generalizing past front with
  | nil x => exact absurd (List.prefix_nil.mp hm) (by simp)
  | @cons x z y first later hstep hlater ih =>
    cases first with
    | none =>
      -- the line settles or no more calls may start, of which the past says nothing
      have hinv := h.step hstep
      rw [Option.toList_none, List.append_nil] at hinv
      exact ih hinv front hm
    | some first =>
      cases front with
      | nil =>
        obtain ⟨rfl, _⟩ := List.cons_prefix_cons.mp hm
        rw [List.append_nil]
        exact h.lawful hstep
      | cons m' front =>
        obtain ⟨rfl, hlater⟩ := List.cons_prefix_cons.mp hm
        have hlawful := ih (h.step hstep) front hlater
        rw [List.append_assoc] at hlawful
        exact hlawful

/-- The next request is handed out, as long as there is an endpoint. -/
theorem perform_next (h : Inv depth x past) (hleft : .left ∉ past) :
    (x.perform .next).1 = .arrived (match (entries past)[(handouts past).length]? with
      | some (_, inquiry) => .request (handouts past).length inquiry
      | none => if x.isExhausted then .closed else .pending) := by
  have hendpoint : ¬ x.endpoint = .gone := fun hgone => hleft (h.gone_iff.mp hgone)
  have hqueue := h.queue_eq
  rw [if_neg hendpoint] at hqueue
  rw [← List.head?_drop, ← hqueue]
  cases hx : x.queue with
  | nil => simp [perform, next, hendpoint, hx]
  | cons entry queue =>
    obtain ⟨id, inquiry⟩ := entry
    simp [perform, next, hendpoint, hx, h.taken_length]

/-- A call goes on only as long as its time is not over. -/
theorem perform_poll (h : Inv depth x past) {id : Nat}
    (hpending : (x.perform (.poll id)).1 = .polled id none) :
    ∃ front inquiry timeout back, past = front ++ .issued id inquiry timeout :: back ∧
      clock past < min (clock front + timeout) lastDeadline := by
  cases hcall : x.call? id with
  | none => simp [perform, poll, hcall] at hpending
  | some c =>
    obtain ⟨front, back, hpast, hdeadline⟩ := (h.live id c hcall).issued
    refine ⟨front, c.inquiry, c.timeout, back, hpast, ?_⟩
    rw [← hdeadline, ← h.now_eq]
    refine lt_of_progress id ?_
    rcases hprogress : x.progress id c with ⟨_ | result, y⟩
    · rfl
    · simp [perform, poll, hcall, hprogress] at hpending

theorem prompt (h : Inv depth x past) (hlined : x.endpoint = .accepting → x.Lined) {id : Nat}
    (hissued : id ∈ issues past) (hover : ¬ Over past id) : Prompt depth x past id := by
  obtain ⟨c, hcall⟩ := h.exists_call? hissued hover
  constructor
  · intro request reply hrequest hanswered
    have hstage := h.fate request id c (.replied reply) hrequest hanswered hcall
    simp [perform, poll, hcall, progress, hstage]
  · intro request hrequest hdropped
    have hstage := h.fate request id c .abandoned hrequest hdropped hcall
    simp [perform, poll, hcall, progress, hstage]
  · intro hentered hclosed
    have hendpoint : ¬ x.endpoint = .accepting := fun hendpoint =>
      have hopen := h.accepting_iff.mp hendpoint
      hclosed.elim hopen.1 hopen.2
    rcases (h.stage_iff hcall).mpr hentered with hstage | hstage
    · simp [perform, poll, hcall, progress, hstage, hendpoint]
    · simp [perform, poll, hcall, progress, hstage, hendpoint]
  · intro hentered hclosed hleft
    have hendpoint := h.accepting_iff.mpr ⟨hclosed, hleft⟩
    have hqueue := congrArg List.length h.queue_eq
    rw [hendpoint, if_neg (by simp), List.length_drop] at hqueue
    have hle := h.handouts_le
    rw [entered_mem_moments_iff hcall, and_iff_left hendpoint,
      h.granted_iff (hlined hendpoint) hcall ((h.stage_iff hcall).mpr hentered), h.depth_eq]
    omega

end Inv

/-- Whatever is called, every moment is lawful, no more requests are in the queue than it has
places, and they are those that came in and have not been taken out.  The endpoint finds the first
of them, and a call that goes on has time left.  A call that is polled ends if its request is over
or refused, and comes into the queue if there is a place for it. -/
theorem run_lawful (depth : Nat) (calls : List ExchangeCall) :
    let x := after depth calls
    let past := history depth calls
    (∀ front m, front ++ [m] <+: past → Lawful depth front m) ∧
    x.queue.length ≤ max depth 1 ∧
    (x.endpoint ≠ .gone → x.queue = (entries past).drop (handouts past).length) ∧
    (.left ∉ past → (x.perform .next).1 =
      .arrived (match (entries past)[(handouts past).length]? with
        | some (_, inquiry) => .request (handouts past).length inquiry
        | none => if x.isExhausted then .closed else .pending)) ∧
    (∀ id, (x.perform (.poll id)).1 = .polled id none →
      ∃ front inquiry timeout back, past = front ++ .issued id inquiry timeout :: back ∧
        clock past < min (clock front + timeout) lastDeadline) ∧
    ∀ id ∈ issues past, ¬ Over past id → Prompt depth x past id := by
  intro x past
  have h : Inv depth x past := inv depth calls
  have hroom := h.room
  rw [h.depth_eq] at hroom
  refine ⟨fun front m hm => ?_, by omega, fun hendpoint => ?_, h.perform_next,
    fun id => h.perform_poll, fun id => h.prompt (lined depth calls)⟩
  · have hlawful := (Inv.empty depth).lawful_steps (run_steps _ calls) front m hm
    rw [List.nil_append] at hlawful
    exact hlawful
  · exact h.queue_eq.trans (if_neg hendpoint)

/-- Two callers and a queue with one place.  When the first request has been taken out and answered,
its call ends with the reply, and the second request comes into the queue. -/
theorem run_lawful_replied :
    let first : Inquiry := ⟨⟨"picker-01"⟩, .binary, [1]⟩
    let second : Inquiry := ⟨⟨"picker-02"⟩, .text, [2]⟩
    let calls : List ExchangeCall := [.call first 5, .call second 5, .next, .respond 0 [7]]
    let x := after 1 calls
    history 1 calls = [.issued 0 first 5, .entered 0 first, .issued 1 second 5, .handed 0 first,
        .answered 0 [7] (.ok ())] ∧
      (x.perform (.poll 0)).1 = .polled 0 (some (.ok [7])) ∧
      ∃ inquiry, .entered 1 inquiry ∈ x.moments (.poll 1) := by
  intro first second calls x
  have hpast : history 1 calls = [.issued 0 first 5, .entered 0 first, .issued 1 second 5,
      .handed 0 first, .answered 0 [7] (.ok ())] := rfl
  have hprompt : ∀ id ∈ issues (history 1 calls), ¬ Over (history 1 calls) id →
      Prompt 1 x (history 1 calls) id := (run_lawful 1 calls).2.2.2.2.2
  rw [hpast] at hprompt
  have hfirst := hprompt 0 (by simp [issues, Moment.issued?]) (by simp [Over, Moment.over?])
  have hsecond := hprompt 1 (by simp [issues, Moment.issued?]) (by simp [Over, Moment.over?])
  have hreply := hfirst.replied 0 [7] rfl (by simp)
  have hentered : 1 ∉ (entries [.issued 0 first 5, .entered 0 first, .issued 1 second 5,
      .handed 0 first, .answered 0 [7] (.ok ())]).map Prod.fst := by
    simp [entries, Moment.entry?]
  exact ⟨hpast, hreply, (hsecond.enters hentered (by simp) (by simp)).mpr (by decide)⟩

end WaveCache.Exchange
