import Mathlib.Data.List.Nodup
import WaveCache.Proofs.Exchange.Step

/-!
# What an exchange remembers

`Inv` relates an exchange to its past.  The queue is what came into it less what was taken out; a
request that was taken out is unsettled as long as its place is not empty; a call is over or not,
and how far it is tells what happened to its request.

The preservation lemmas come one for each field, and `Inv.steps` is the run.
-/

namespace WaveCache.Exchange

/-! ## Places in the queue -/

/-- Whether a call holds a place in the queue without using it. -/
abbrev isGranted (call : Option Call) : Bool :=
  call.any (·.stage = .granted)

theorem countP_grant_le (places : Nat) (calls : List (Option Call)) :
    (grant places calls).countP isGranted ≤ calls.countP isGranted + places := by
  fun_induction grant places calls with
  | case1 calls => exact Nat.le_refl _
  | case2 => exact Nat.zero_le _
  | case3 places calls ih => simpa [List.countP_cons] using ih
  | case4 places c calls hwaiting ih =>
    simp only [List.countP_cons]
    simp [hwaiting]
    omega
  | case5 places c calls hwaiting ih =>
    simp only [List.countP_cons]
    omega

theorem length_grant (places : Nat) (calls : List (Option Call)) :
    (grant places calls).length = calls.length := by
  fun_induction grant places calls with
  | case1 calls => rfl
  | case2 => rfl
  | case3 places calls ih | case4 places c calls hwaiting ih | case5 places c calls hwaiting ih =>
    exact congrArg Nat.succ ih

/-- Settling gives away no more places than are free. -/
theorem settle_eq (x : Exchange) : ∃ calls, x.settle = { x with calls } ∧
    calls.length = x.calls.length ∧ calls.countP isGranted ≤ x.granted + x.free := by
  rw [settle]
  split
  · exact ⟨_, rfl, length_grant x.free x.calls, countP_grant_le x.free x.calls⟩
  · exact ⟨x.calls, rfl, rfl, Nat.le_add_right _ _⟩

/-- A call that moves to another stage gives up the place that it held. -/
theorem granted_advanceCall {x : Exchange} {id : Nat} {c : Call} (hcall : x.call? id = some c)
    (stage : Stage) (hstage : stage ≠ .granted) :
    (x.advanceCall id stage).granted + (if c.stage = .granted then 1 else 0) = x.granted := by
  have hcount := Places.countP_set isGranted hcall (some { c with stage })
  rw [← Places.modify_eq_set hcall fun c => { c with stage }] at hcount
  simp only [isGranted, Option.any_some, hstage, decide_false, Bool.false_eq_true, if_false,
    decide_eq_true_eq, Nat.add_zero] at hcount
  exact hcount

theorem granted_advanceCall_le (x : Exchange) (id : Nat) (stage : Stage)
    (hstage : stage ≠ .granted) :
    (x.advanceCall id stage).granted ≤ x.granted := by
  cases hcall : x.call? id with
  | none => exact Nat.le_of_eq (by rw [advanceCall, Places.modify_of_none hcall])
  | some c =>
    have hcount := granted_advanceCall hcall stage hstage
    omega

/-- A call that is over holds no place. -/
theorem granted_set_le {x : Exchange} {id : Nat} {c : Call} (hcall : x.call? id = some c) :
    granted { x with calls := x.calls.set id none } ≤ x.granted := by
  have hcount := Places.countP_set isGranted hcall none
  simp only [Option.any_none, Bool.false_eq_true, if_false, Nat.add_zero] at hcount
  exact Nat.le.intro hcount

/-- Dropping what is in the queue concerns the calls only. -/
theorem foldl_abandon (queue : List (Nat × Inquiry)) (x : Exchange) :
    ∃ calls, queue.foldl (fun x entry => x.advanceCall entry.1 .abandoned) x = { x with calls } ∧
      calls.length = x.calls.length ∧ calls.countP isGranted ≤ x.granted := by
  induction queue generalizing x with
  | nil => exact ⟨x.calls, rfl, rfl, Nat.le_refl _⟩
  | cons entry queue ih =>
    obtain ⟨calls, hfold, hlength, hgranted⟩ := ih (x.advanceCall entry.1 .abandoned)
    exact ⟨calls, hfold, hlength.trans (List.length_modify ..),
      Nat.le_trans hgranted (granted_advanceCall_le x entry.1 .abandoned nofun)⟩

/-- What a dropped endpoint does to the calls whose requests were in the queue. -/
theorem dropEndpoint_eq (x : Exchange) : ∃ calls,
    x.dropEndpoint = { x with calls, queue := [], endpoint := .gone } ∧
    calls.length = x.calls.length ∧ calls.countP isGranted ≤ x.granted := by
  obtain ⟨calls, hfold, hlength, hgranted⟩ := foldl_abandon x.queue x
  exact ⟨calls, by rw [dropEndpoint, hfold], hlength, hgranted⟩

section

variable (x : Exchange)

@[simp] theorem settle_depth : x.settle.depth = x.depth := by rw [settle]; split <;> rfl
@[simp] theorem settle_now : x.settle.now = x.now := by rw [settle]; split <;> rfl
@[simp] theorem settle_taken : x.settle.taken = x.taken := by rw [settle]; split <;> rfl
@[simp] theorem settle_endpoint : x.settle.endpoint = x.endpoint := by rw [settle]; split <;> rfl
attribute [simp] settle_queue

@[simp] theorem length_calls_settle : x.settle.calls.length = x.calls.length := by
  obtain ⟨calls, h, hlength, _⟩ := x.settle_eq
  rw [h, hlength]

@[simp] theorem dropEndpoint_depth : x.dropEndpoint.depth = x.depth := by
  obtain ⟨calls, h, _⟩ := x.dropEndpoint_eq
  rw [h]

@[simp] theorem dropEndpoint_now : x.dropEndpoint.now = x.now := by
  obtain ⟨calls, h, _⟩ := x.dropEndpoint_eq
  rw [h]

@[simp] theorem dropEndpoint_taken : x.dropEndpoint.taken = x.taken := by
  obtain ⟨calls, h, _⟩ := x.dropEndpoint_eq
  rw [h]

@[simp] theorem length_calls_dropEndpoint : x.dropEndpoint.calls.length = x.calls.length := by
  obtain ⟨calls, h, hlength, _⟩ := x.dropEndpoint_eq
  rw [h, hlength]

end

/-- A call whose request is settled is in the stage to which it was moved. -/
theorem settled_stage {x : Exchange} {taken : List (Option Nat)} {sender id : Nat} {stage : Stage}
    {c : Call} (hid : sender = id)
    (hcall : ({ x with taken }.advanceCall sender stage).call? id = some c) : c.stage = stage := by
  rw [call?_advanceCall, if_pos hid.symm] at hcall
  obtain ⟨c, _, rfl⟩ := Option.map_eq_some_iff.mp hcall
  rfl

/-! ## The invariant -/

/-- What is known of a call that is not over. -/
structure Live (past : List Moment) (id : Nat) (c : Call) : Prop where
  issued : ∃ front back, past = front ++ .issued id c.inquiry c.timeout :: back ∧
    c.deadline = min (clock front + c.timeout) lastDeadline
  /-- As long as it waits for a place or has not used it, its request did not enter the queue.
  There is a reply if its request was answered, and there will be none if it was dropped or lost. -/
  stage :
    match c.stage with
    | .waiting | .granted => id ∉ (entries past).map Prod.fst
    | .sent => id ∈ (entries past).map Prod.fst
    | .replied reply => ∃ request, ((entries past)[request]?).map Prod.fst = some id ∧
        .answered request reply (.ok ()) ∈ past
    | .abandoned => ∃ request, ((entries past)[request]?).map Prod.fst = some id ∧
        (.dropped request ∈ past ∨ Lost past request)

theorem Live.issued_append {past : List Moment} {id : Nat} {c : Call} (h : Live past id c)
    (later : List Moment) : ∃ front back,
      past ++ later = front ++ .issued id c.inquiry c.timeout :: back ∧
      c.deadline = min (clock front + c.timeout) lastDeadline := by
  obtain ⟨front, back, hpast, hdeadline⟩ := h.issued
  exact ⟨front, back ++ later, by rw [hpast, List.append_assoc, List.cons_append], hdeadline⟩

/-- An exchange with this past. -/
structure Inv (depth : Nat) (x : Exchange) (past : List Moment) : Prop where
  depth_eq : x.depth = max depth 1
  room : x.queue.length + x.granted ≤ x.depth
  now_eq : x.now = clock past
  issues_eq : issues past = List.range x.calls.length
  accepting_iff : x.endpoint = .accepting ↔ .closed ∉ past ∧ .left ∉ past
  gone_iff : x.endpoint = .gone ↔ .left ∈ past
  queue_eq : x.queue =
    if x.endpoint = .gone then [] else (entries past).drop (handouts past).length
  taken_length : x.taken.length = (handouts past).length
  handouts_le : (handouts past).length ≤ (entries past).length
  settled_lt : ∀ request, Settled past request → request < (handouts past).length
  taken_iff : ∀ request id, (x.taken[request]?).join = some id ↔
    request < (handouts past).length ∧ ((entries past)[request]?).map Prod.fst = some id ∧
      ¬ Settled past request
  over_lt : ∀ id, Over past id → id < x.calls.length
  call_iff : ∀ id, x.call? id = none ↔ x.calls.length ≤ id ∨ Over past id
  entries_lt : ∀ entry ∈ entries past, entry.1 < x.calls.length
  entries_nodup : ((entries past).map Prod.fst).Nodup
  live : ∀ id c, x.call? id = some c → Live past id c
  fate : ∀ request id c stage, ((entries past)[request]?).map Prod.fst = some id →
    Fate past request stage → x.call? id = some c → c.stage = stage
  /-- A call whose request is in the queue or with the endpoint is over only if it was given up. -/
  orphan : ∀ request entry, (entries past)[request]? = some entry → Over past entry.1 →
    GivenUp past entry.1 ∨ Settled past request ∨ Lost past request

/-- What a step puts into the queue, which is the request of a call with a place. -/
theorem Step.entries_cases {x y : Exchange} {m : Option Moment} (hstep : Step x m y)
    (past : List Moment) : entries (past ++ m.toList) = entries past ∨
    ∃ id c, m = some (.entered id c.inquiry) ∧ x.call? id = some c ∧ c.stage = .granted ∧
      entries (past ++ m.toList) = entries past ++ [(id, c.inquiry)] := by
  rw [entries_append]
  cases hstep with
  | @send id c hcall hstage hendpoint => exact .inr ⟨id, c, rfl, hcall, hstage, rfl⟩
  | _ => exact .inl (List.append_nil _)

/-- There are no fewer places after a step. -/
theorem Step.length_calls_le {x y : Exchange} {m : Option Moment} (hstep : Step x m y) :
    x.calls.length ≤ y.calls.length := by
  cases hstep with
  | endCalls | wait => exact Nat.le_refl _
  | _ => simp [enter, advanceCall]

namespace Inv

variable {depth : Nat} {x y : Exchange} {past : List Moment} {m : Option Moment}

/-! ## Preservation, one field at a time -/

theorem preserve_depth_eq (h : Inv depth x past) (hstep : Step x m y) : y.depth = max depth 1 := by
  rw [← h.depth_eq]
  cases hstep <;> simp [enter, advanceCall, endCalls, wait]

theorem preserve_room (h : Inv depth x past) (hstep : Step x m y) :
    y.queue.length + y.granted ≤ y.depth := by
  have hroom := h.room
  cases hstep with
  | issue inquiry timeout =>
    show x.queue.length + (x.calls ++ [some _]).countP isGranted ≤ x.depth
    rw [List.countP_append]
    have hgranted : x.calls.countP isGranted = x.granted := rfl
    by_cases hplace : 0 < x.free
    · rw [free] at hplace
      have hone := List.countP_le_length (p := isGranted) (l := [some ⟨inquiry,
        min (x.now + timeout) lastDeadline, timeout, if 0 < x.free then .granted else .waiting⟩])
      rw [List.length_singleton] at hone
      omega
    · rw [if_neg hplace]
      exact hroom
  | send hcall hstage hendpoint =>
    have hgranted := granted_advanceCall hcall .sent nofun
    rw [if_pos hstage] at hgranted
    show (x.queue ++ [_]).length + (x.advanceCall _ .sent).granted ≤ x.depth
    rw [List.length_append, List.length_singleton]
    omega
  | finish hcall hends => exact Nat.le_trans (Nat.add_le_add_left (granted_set_le hcall) _) hroom
  | cancel hcall => exact Nat.le_trans (Nat.add_le_add_left (granted_set_le hcall) _) hroom
  | settle =>
    obtain ⟨calls, hsettle, _, hgranted⟩ := x.settle_eq
    rw [hsettle]
    show x.queue.length + calls.countP isGranted ≤ x.depth
    rw [free] at hgranted
    omega
  | take hendpoint hqueue =>
    rw [hqueue, List.length_cons] at hroom
    exact Nat.le_trans (Nat.add_le_add_right (Nat.le_succ _) _) hroom
  | @answer request id reply htaken =>
    have hgranted := granted_advanceCall_le { x with taken := x.taken.set request none } id
      (.replied reply) nofun
    exact Nat.le_trans (Nat.add_le_add_left hgranted _) hroom
  | @drop request id htaken =>
    have hgranted := granted_advanceCall_le { x with taken := x.taken.set request none } id
      .abandoned nofun
    exact Nat.le_trans (Nat.add_le_add_left hgranted _) hroom
  | leave hendpoint =>
    obtain ⟨calls, hleave, _, hgranted⟩ := x.dropEndpoint_eq
    rw [hleave]
    show 0 + calls.countP isGranted ≤ x.depth
    omega
  | endCalls | wait | close => exact hroom

theorem preserve_now_eq (h : Inv depth x past) (hstep : Step x m y) :
    y.now = clock (past ++ m.toList) := by
  rw [clock_append, ← h.now_eq]
  cases hstep <;> simp [enter, advanceCall, endCalls, wait, Moment.elapsed]

theorem preserve_issues_eq (h : Inv depth x past) (hstep : Step x m y) :
    issues (past ++ m.toList) = List.range y.calls.length := by
  rw [issues_append, h.issues_eq]
  cases hstep <;>
    simp [enter, advanceCall, endCalls, wait, Moment.issued?, List.range_succ]

theorem preserve_accepting_iff (h : Inv depth x past) (hstep : Step x m y) :
    y.endpoint = .accepting ↔ .closed ∉ past ++ m.toList ∧ .left ∉ past ++ m.toList := by
  have haccepting := h.accepting_iff
  cases hstep <;> simp [enter, advanceCall, endCalls, wait, dropEndpoint, haccepting]

theorem preserve_gone_iff (h : Inv depth x past) (hstep : Step x m y) :
    y.endpoint = .gone ↔ .left ∈ past ++ m.toList := by
  have hgone := h.gone_iff
  cases hstep with
  | close hendpoint => simpa [hgone] using hendpoint
  | _ => simp [enter, advanceCall, endCalls, wait, dropEndpoint, hgone]

/-- The first in the queue is what came into it next after those that were taken out. -/
theorem entry_of_queue (h : Inv depth x past) {entry : Nat × Inquiry} {queue : List (Nat × Inquiry)}
    (hqueue : x.queue = entry :: queue) :
    (entries past)[(handouts past).length]? = some entry ∧
      queue = (entries past).drop ((handouts past).length + 1) ∧ .left ∉ past := by
  have heq := h.queue_eq
  rw [hqueue] at heq
  split at heq
  · cases heq
  · rename_i hendpoint
    rw [h.gone_iff] at hendpoint
    have hdrop : (entries past).drop (handouts past).length = entry :: queue := heq.symm
    refine ⟨?_, ?_, hendpoint⟩
    · rw [← List.head?_drop, hdrop]
      rfl
    · rw [← List.drop_drop, hdrop]
      rfl

theorem preserve_queue_eq (h : Inv depth x past) (hstep : Step x m y) :
    y.queue = if y.endpoint = .gone then []
      else (entries (past ++ m.toList)).drop (handouts (past ++ m.toList)).length := by
  have hqueue := h.queue_eq
  rw [entries_append, handouts_append]
  cases hstep with
  | send hcall hstage hendpoint =>
    rw [hendpoint, if_neg nofun] at hqueue
    show x.queue ++ [_] = if x.endpoint = .gone then [] else
      (entries past ++ [_]).drop (handouts past ++ []).length
    rw [hendpoint, if_neg nofun, List.append_nil, List.drop_append_of_le_length h.handouts_le,
      hqueue]
  | take hendpoint hqueue =>
    obtain ⟨_, hrest, _⟩ := h.entry_of_queue hqueue
    show _ = if x.endpoint = .gone then [] else
      (entries past ++ []).drop (handouts past ++ [_]).length
    rw [if_neg hendpoint, List.append_nil, List.length_append, List.length_singleton, hrest]
  | close hendpoint =>
    rw [if_neg hendpoint] at hqueue
    simpa [Moment.entry?, Moment.handout?] using hqueue
  | leave hendpoint => simp [dropEndpoint]
  | _ =>
    simpa [enter, advanceCall, endCalls, wait, Moment.entry?, Moment.handout?] using hqueue

theorem preserve_taken_length (h : Inv depth x past) (hstep : Step x m y) :
    y.taken.length = (handouts (past ++ m.toList)).length := by
  rw [handouts_append, List.length_append, ← h.taken_length]
  cases hstep <;> simp [enter, advanceCall, endCalls, wait, Moment.handout?]

theorem preserve_handouts_le (h : Inv depth x past) (hstep : Step x m y) :
    (handouts (past ++ m.toList)).length ≤ (entries (past ++ m.toList)).length := by
  have hle := h.handouts_le
  rw [entries_append, handouts_append, List.length_append, List.length_append]
  cases hstep with
  | take hendpoint hqueue =>
    have hlt := (List.getElem?_eq_some_iff.mp (h.entry_of_queue hqueue).1).1
    simpa [Moment.entry?, Moment.handout?] using Nat.succ_le_of_lt hlt
  | _ => simp [Moment.entry?, Moment.handout?]; omega

theorem preserve_settled_lt (h : Inv depth x past) (hstep : Step x m y) (request : Nat)
    (hsettled : Settled (past ++ m.toList) request) :
    request < (handouts (past ++ m.toList)).length := by
  rw [handouts_append, List.length_append]
  rcases settled_append past m |>.mp hsettled with hsettled | hm
  · exact Nat.lt_add_right _ (h.settled_lt request hsettled)
  · refine Nat.lt_add_right _ ?_
    rw [← h.taken_length]
    cases hstep with
    | answer reply htaken | drop htaken =>
      cases hm
      exact Places.lt_length htaken
    | _ => cases hm

/-- What entered the queue keeps its number. -/
theorem getElem?_entries_append {request : Nat} (hlt : request < (entries past).length) :
    (entries (past ++ m.toList))[request]? = (entries past)[request]? := by
  rw [entries_append, List.getElem?_append_left hlt]

theorem preserve_taken_iff (h : Inv depth x past) (hstep : Step x m y) (request id : Nat) :
    (y.taken[request]?).join = some id ↔ request < (handouts (past ++ m.toList)).length ∧
      ((entries (past ++ m.toList))[request]?).map Prod.fst = some id ∧
      ¬ Settled (past ++ m.toList) request := by
  have htaken := h.taken_iff request id
  have hle := h.handouts_le
  rw [settled_append, handouts_append]
  cases hstep with
  | @take sender inquiry queue hendpoint hqueue =>
    obtain ⟨hentry, _, _⟩ := h.entry_of_queue hqueue
    show ((x.taken ++ [some sender])[request]?).join = some id ↔
      request < (handouts past ++ [_]).length ∧
        ((entries (past ++ [_]))[request]?).map Prod.fst = some id ∧ _
    have hentries : entries (past ++ [Moment.handed x.taken.length inquiry]) = entries past :=
      (entries_append past (some _)).trans (List.append_nil _)
    rw [Places.join_concat, hentries, List.length_append, List.length_singleton, h.taken_length]
    by_cases hrequest : request = (handouts past).length
    · -- the request taken out now is not settled, since only such are that were taken out before
      subst hrequest
      have hunsettled : ¬ Settled past (handouts past).length := fun hsettled =>
        Nat.lt_irrefl _ (h.settled_lt _ hsettled)
      simp [hentry, hunsettled, Moment.settled?]
    · rw [if_neg hrequest, htaken]
      simp only [Option.bind_some, Moment.settled?, reduceCtorEq, or_false]
      exact and_congr_left fun _ => by omega
  | @send sender c hcall hstage hendpoint =>
    show (x.taken[request]?).join = some id ↔ _
    rw [htaken]
    simp only [Option.bind_some, Moment.settled?, Moment.handout?, reduceCtorEq, or_false,
      Option.toList_none, List.append_nil]
    refine and_congr_right fun hlt => ?_
    rw [getElem?_entries_append (by omega)]
  | @answer settled sender reply htaken' | @drop settled sender htaken' =>
    show ((x.taken.set settled none)[request]?).join = some id ↔ _
    rw [Places.join_set (Places.lt_length htaken')]
    simp only [entries_append, Option.bind_some, Moment.settled?, Moment.entry?, Moment.handout?,
      Option.toList_none, List.append_nil]
    by_cases hrequest : request = settled
    · simp [hrequest]
    · simp [hrequest, Ne.symm hrequest, htaken]
  | _ =>
    rw [entries_append]
    simpa [enter, endCalls, wait, Moment.settled?, Moment.entry?, Moment.handout?] using htaken

theorem preserve_over_lt (h : Inv depth x past) (hstep : Step x m y) (id : Nat)
    (hover : Over (past ++ m.toList) id) : id < y.calls.length := by
  rcases (over_append past m).mp hover with hover | hm
  · exact Nat.lt_of_lt_of_le (h.over_lt id hover) hstep.length_calls_le
  · cases hstep with
    | finish hcall hends | cancel hcall =>
      cases hm
      simpa using Places.lt_length hcall
    | _ => cases hm

theorem preserve_call_iff (h : Inv depth x past) (hstep : Step x m y) (id : Nat) :
    y.call? id = none ↔ y.calls.length ≤ id ∨ Over (past ++ m.toList) id := by
  rw [hstep.call?_eq_none, h.call_iff, over_append]
  cases hstep with
  | issue inquiry timeout =>
    have hlt := h.over_lt id
    simp only [enter, List.length_append, List.length_singleton, Option.bind_some, Moment.issued?,
      Moment.over?, ne_eq, Option.some.injEq, reduceCtorEq, or_false]
    by_cases hover : Over past id
    · have hlt := hlt hover
      simp only [hover, or_true, true_and, iff_true]
      omega
    · simp only [hover, or_false]
      omega
  | _ => simp [advanceCall, endCalls, wait, Moment.issued?, or_assoc]

theorem preserve_entries_lt (h : Inv depth x past) (hstep : Step x m y) (entry : Nat × Inquiry)
    (hentry : entry ∈ entries (past ++ m.toList)) : entry.1 < y.calls.length := by
  refine Nat.lt_of_lt_of_le ?_ hstep.length_calls_le
  rcases hstep.entries_cases past with heq | ⟨id, c, _, hcall, _, heq⟩
  · exact h.entries_lt entry (heq ▸ hentry)
  · rcases List.mem_append.mp (heq ▸ hentry) with hentry | hentry
    · exact h.entries_lt entry hentry
    · rw [List.mem_singleton.mp hentry]
      exact Places.lt_length hcall

theorem preserve_entries_nodup (h : Inv depth x past) (hstep : Step x m y) :
    ((entries (past ++ m.toList)).map Prod.fst).Nodup := by
  rcases hstep.entries_cases past with heq | ⟨id, c, _, hcall, hstage, heq⟩
  · rw [heq]
    exact h.entries_nodup
  · have hfresh := (h.live id c hcall).stage
    rw [hstage] at hfresh
    rw [heq, List.map_append, List.map_singleton, List.nodup_append]
    refine ⟨h.entries_nodup, List.nodup_singleton _, fun a ha b hb hab => ?_⟩
    rw [hab, List.mem_singleton.mp hb] at ha
    exact hfresh ha

theorem preserve_lost (h : Inv depth x past) (hstep : Step x m y) {request : Nat}
    (hlost : Lost past request) : Lost (past ++ m.toList) request := by
  refine ⟨List.mem_append_left _ hlost.1, ?_⟩
  rw [handouts_append]
  cases hstep with
  | take hendpoint hqueue => exact absurd hlost.1 (h.entry_of_queue hqueue).2.2
  | _ => simpa [Moment.handout?] using hlost.2

/-- A request in the queue has a number that has not been handed out. -/
theorem queued (h : Inv depth x past) {entry : Nat × Inquiry} (hentry : entry ∈ x.queue) :
    ∃ request, (handouts past).length ≤ request ∧ (entries past)[request]? = some entry := by
  rw [h.queue_eq] at hentry
  split at hentry
  · cases hentry
  · obtain ⟨i, hi⟩ := List.mem_iff_getElem?.mp hentry
    rw [List.getElem?_drop] at hi
    exact ⟨_, Nat.le_add_right _ _, hi⟩

/-- A call that stays as it is. -/
theorem live_append (h : Inv depth x past) (hstep : Step x m y) {id : Nat} {c : Call}
    (hlive : Live past id c) (hentered : ∀ inquiry, m ≠ some (.entered id inquiry)) :
    Live (past ++ m.toList) id c := by
  have hentry {request : Nat} (hrequest : ((entries past)[request]?).map Prod.fst = some id) :
      ((entries (past ++ m.toList))[request]?).map Prod.fst = some id := by
    obtain ⟨entry, hget, _⟩ := Option.map_eq_some_iff.mp hrequest
    rw [getElem?_entries_append (List.getElem?_eq_some_iff.mp hget).1]
    exact hrequest
  have hfresh (hnew : id ∉ (entries past).map Prod.fst) :
      id ∉ (entries (past ++ m.toList)).map Prod.fst := by
    rcases hstep.entries_cases past with heq | ⟨sender, _, hm, _, _, heq⟩
    · rw [heq]
      exact hnew
    · rw [heq, List.map_append, List.mem_append, not_or]
      refine ⟨hnew, fun hmem => ?_⟩
      rw [List.mem_singleton.mp hmem] at hentered
      exact hentered _ hm
  refine ⟨hlive.issued_append m.toList, ?_⟩
  have hstage := hlive.stage
  cases hc : c.stage with
  | waiting | granted =>
    rw [hc] at hstage
    exact hfresh hstage
  | sent =>
    rw [hc] at hstage
    show id ∈ _
    rw [entries_append, List.map_append]
    exact List.mem_append_left _ hstage
  | replied reply =>
    rw [hc] at hstage
    obtain ⟨request, hrequest, hanswered⟩ := hstage
    exact ⟨request, hentry hrequest, List.mem_append_left _ hanswered⟩
  | abandoned =>
    rw [hc] at hstage
    obtain ⟨request, hrequest, hdropped⟩ := hstage
    exact ⟨request, hentry hrequest,
      hdropped.imp (List.mem_append_left _) (h.preserve_lost hstep)⟩

theorem preserve_live (h : Inv depth x past) (hstep : Step x m y) (id : Nat) (c : Call)
    (hcall : y.call? id = some c) : Live (past ++ m.toList) id c := by
  have hchange := hstep.change id
  have hlive := h.live id
  rw [hcall] at hchange
  generalize x.call? id = before, hafter : some c = after at hchange hlive
  cases hchange with
  | kept _ hissued hover hentered => exact h.live_append hstep (hlive c hafter.symm) hentered
  | @issued inquiry timeout stage hm hid hstage =>
    cases hafter
    have hfresh : id ∉ (entries (past ++ m.toList)).map Prod.fst := by
      rw [entries_append_of_none (by rw [hm]; rfl)]
      intro hmem
      obtain ⟨entry, hentry, hid'⟩ := List.mem_map.mp hmem
      have hlt := h.entries_lt entry hentry
      omega
    refine ⟨⟨past, [], by rw [hm]; rfl, by rw [h.now_eq]⟩, ?_⟩
    rcases hstage with rfl | rfl
    · exact hfresh
    · exact hfresh
  | ended c' hm => cases hafter
  | @granted c' hm hwaiting =>
    cases hafter
    have hstage := (hlive c' rfl).stage
    rw [hwaiting] at hstage
    refine ⟨(hlive c' rfl).issued_append _, ?_⟩
    rw [entries_append_of_none (by rw [hm]; rfl)]
    exact hstage
  | @sent c' hm =>
    cases hafter
    refine ⟨(hlive c' rfl).issued_append _, ?_⟩
    show id ∈ _
    rw [hm, entries_append, List.map_append]
    exact List.mem_append_right _ (.head _)
  | @replied c' request reply hm htaken =>
    cases hafter
    refine ⟨(hlive c' rfl).issued_append _, request, ?_, ?_⟩
    · rw [entries_append_of_none (by rw [hm]; rfl)]
      exact ((h.taken_iff request id).mp htaken).2.1
    · rw [hm]
      exact List.mem_append_right _ (.head _)
  | @dropped c' request hm htaken =>
    cases hafter
    refine ⟨(hlive c' rfl).issued_append _, request, ?_, .inl ?_⟩
    · rw [entries_append_of_none (by rw [hm]; rfl)]
      exact ((h.taken_iff request id).mp htaken).2.1
    · rw [hm]
      exact List.mem_append_right _ (.head _)
  | @lost c' hm hqueue =>
    -- what is in the queue has not been handed out, so it is lost with the endpoint
    cases hafter
    obtain ⟨entry, hentry, hid⟩ := List.mem_map.mp hqueue
    obtain ⟨request, hle, hrequest⟩ := h.queued hentry
    refine ⟨(hlive c' rfl).issued_append _, request, ?_, .inr ⟨?_, ?_⟩⟩
    · rw [entries_append_of_none (by rw [hm]; rfl), hrequest]
      exact congrArg some hid
    · rw [hm]
      exact List.mem_append_right _ (.head _)
    · rw [handouts_append_of_none (by rw [hm]; rfl)]
      exact hle

/-- A call has one request. -/
theorem request_unique (h : Inv depth x past) {request other id : Nat}
    (hrequest : ((entries past)[request]?).map Prod.fst = some id)
    (hother : ((entries past)[other]?).map Prod.fst = some id) : other = request := by
  rw [← List.getElem?_map] at hrequest hother
  obtain ⟨hlt, hget⟩ := List.getElem?_eq_some_iff.mp hother
  exact (List.getElem?_inj hlt h.entries_nodup).mp (hother.trans hrequest.symm)

/-- A request that is over came into the queue before. -/
theorem request_of_fate (h : Inv depth x past) (hstep : Step x m y) {request id : Nat}
    {stage : Stage} (hfate : Fate past request stage)
    (hrequest : ((entries (past ++ m.toList))[request]?).map Prod.fst = some id) :
    ((entries past)[request]?).map Prod.fst = some id := by
  rcases hstep.entries_cases past with heq | ⟨_, _, hm, _⟩
  · rwa [heq] at hrequest
  · rcases hfate.settled_or_lost with hsettled | hlost
    · have hlt := Nat.lt_of_lt_of_le (h.settled_lt request hsettled) h.handouts_le
      rwa [getElem?_entries_append hlt] at hrequest
    · cases hstep with
      | send hcall hstage hendpoint => exact absurd hlost.1 (h.accepting_iff.mp hendpoint).2
      | _ => cases hm

/-- A request that is over is not with the endpoint. -/
theorem not_taken_of_fate (h : Inv depth x past) {request other id : Nat} {stage : Stage}
    (hfate : Fate past request stage)
    (hrequest : ((entries past)[request]?).map Prod.fst = some id) :
    (x.taken[other]?).join ≠ some id := by
  intro htaken
  obtain ⟨hlt, hother, hunsettled⟩ := (h.taken_iff other id).mp htaken
  cases h.request_unique hrequest hother
  rcases hfate.settled_or_lost with hsettled | hlost
  · exact hunsettled hsettled
  · exact Nat.not_le.mpr hlt hlost.2

/-- Nor is it in the queue. -/
theorem not_queued_of_fate (h : Inv depth x past) {request id : Nat} {stage : Stage}
    (hfate : Fate past request stage)
    (hrequest : ((entries past)[request]?).map Prod.fst = some id) :
    id ∉ x.queue.map Prod.fst := by
  intro hqueue
  obtain ⟨entry, hentry, rfl⟩ := List.mem_map.mp hqueue
  obtain ⟨other, hle, hother⟩ := h.queued hentry
  cases h.request_unique hrequest (by rw [hother]; rfl)
  rcases hfate.settled_or_lost with hsettled | hlost
  · exact Nat.not_le.mpr (h.settled_lt _ hsettled) hle
  · have heq := h.queue_eq
    rw [if_pos (h.gone_iff.mpr hlost.1)] at heq
    rw [heq] at hentry
    cases hentry

/-- The call of a request that is with the endpoint. -/
theorem sender_eq (h : Inv depth x past) {request sender id : Nat}
    (htaken : (x.taken[request]?).join = some sender)
    (hrequest : ((entries past)[request]?).map Prod.fst = some id) : sender = id :=
  Option.some.inj (((h.taken_iff request sender).mp htaken).2.1.symm.trans hrequest)

theorem preserve_fate (h : Inv depth x past) (hstep : Step x m y) (request id : Nat) (c : Call)
    (stage : Stage) (hrequest : ((entries (past ++ m.toList))[request]?).map Prod.fst = some id)
    (hfate : Fate (past ++ m.toList) request stage) (hcall : y.call? id = some c) :
    c.stage = stage := by
  rcases hfate.append_cases with hfate | ⟨reply, hm, rfl⟩ | ⟨hm, rfl⟩ | ⟨hm, rfl, hle⟩
  · -- the request was over before, so nothing but the end of its call concerns it any more
    have hrequest := h.request_of_fate hstep hfate hrequest
    have hbefore := fun c => h.fate request id c stage hrequest hfate
    have hchange := hstep.change id
    rw [hcall] at hchange
    generalize hbefore' : x.call? id = before, hafter : some c = after at hchange
    cases hchange with
    | kept => exact hbefore c (hbefore'.trans hafter.symm)
    | issued hm hid =>
      obtain ⟨entry, hentry, hid'⟩ := Option.map_eq_some_iff.mp hrequest
      have hlt := h.entries_lt entry (List.mem_of_getElem? hentry)
      omega
    | ended => cases hafter
    | granted hm hwaiting =>
      rw [hbefore _ hbefore'] at hwaiting
      subst hwaiting
      exact hfate.elim
    | sent hm =>
      cases hstep with
      | send hcall' hstage hendpoint =>
        obtain ⟨rfl, _⟩ := Moment.entered.inj (Option.some.inj hm)
        rw [hbefore _ hcall'] at hstage
        subst hstage
        exact hfate.elim
      | _ => cases hm
    | replied hm htaken | dropped hm htaken =>
      exact absurd htaken (h.not_taken_of_fate hfate hrequest)
    | lost hm hqueue => exact absurd hqueue (h.not_queued_of_fate hfate hrequest)
  · rw [entries_append_of_none (by rw [hm]; rfl)] at hrequest
    cases hstep with
    | @answer settled sender reply' htaken =>
      obtain ⟨rfl, rfl, _⟩ := Moment.answered.inj (Option.some.inj hm)
      exact settled_stage (h.sender_eq htaken hrequest) hcall
    | _ => cases hm
  · rw [entries_append_of_none (by rw [hm]; rfl)] at hrequest
    cases hstep with
    | @drop settled sender htaken =>
      cases hm
      exact settled_stage (h.sender_eq htaken hrequest) hcall
    | _ => cases hm
  · rw [entries_append_of_none (by rw [hm]; rfl)] at hrequest
    cases hstep with
    | leave hendpoint =>
      have hqueue : id ∈ x.queue.map Prod.fst := by
        rw [h.queue_eq, if_neg hendpoint, List.map_drop]
        rw [← List.getElem?_map] at hrequest
        refine List.mem_of_getElem? (i := request - (handouts past).length) ?_
        rw [List.getElem?_drop, Nat.add_sub_cancel' hle]
        exact hrequest
      have habandoned := call?_foldl_abandon x.queue x id
      rw [if_pos hqueue] at habandoned
      obtain ⟨c, _, rfl⟩ := Option.map_eq_some_iff.mp (habandoned.symm.trans hcall)
      rfl
    | _ => cases hm

/-- A call whose request entered the queue ends when its request is settled or lost, or it is given
up. -/
theorem settled_of_ends (h : Inv depth x past) {request id : Nat} {c : Call}
    {result : Except ExchangeError (List UInt8)} (hcall : x.call? id = some c)
    (hends : x.Ends c result) (hrequest : ((entries past)[request]?).map Prod.fst = some id) :
    (∃ milliseconds, result = .error (.timeout milliseconds)) ∨ Settled past request ∨
      Lost past request := by
  have hstage := (h.live id c hcall).stage
  cases hends with
  | @reply reply hreplied =>
    rw [hreplied] at hstage
    obtain ⟨other, hother, hanswered⟩ := hstage
    cases h.request_unique hrequest hother
    exact .inr (.inl (List.mem_filterMap.mpr ⟨_, hanswered, rfl⟩))
  | noReply habandoned =>
    rw [habandoned] at hstage
    obtain ⟨other, hother, hdropped⟩ := hstage
    cases h.request_unique hrequest hother
    exact .inr (hdropped.imp (fun h => List.mem_filterMap.mpr ⟨_, h, rfl⟩) fun h => h)
  | closed hwaiting hendpoint =>
    obtain ⟨entry, hentry, hid⟩ := Option.map_eq_some_iff.mp hrequest
    have hmem : id ∈ (entries past).map Prod.fst :=
      List.mem_map.mpr ⟨entry, List.mem_of_getElem? hentry, hid⟩
    rcases hwaiting with hwaiting | hwaiting
    · rw [hwaiting] at hstage
      exact absurd hmem hstage
    · rw [hwaiting] at hstage
      exact absurd hmem hstage
  | timeout hdeadline => exact .inl ⟨_, rfl⟩

theorem preserve_orphan (h : Inv depth x past) (hstep : Step x m y) (request : Nat)
    (entry : Nat × Inquiry) (hentry : (entries (past ++ m.toList))[request]? = some entry)
    (hover : Over (past ++ m.toList) entry.1) :
    GivenUp (past ++ m.toList) entry.1 ∨ Settled (past ++ m.toList) request ∨
      Lost (past ++ m.toList) request := by
  rw [givenUp_append, settled_append]
  have hkeep (hentry : (entries past)[request]? = some entry) (hover : Over past entry.1) :
      (GivenUp past entry.1 ∨ m.bind Moment.givenUp? = some entry.1) ∨
        (Settled past request ∨ m.bind Moment.settled? = some request) ∨
        Lost (past ++ m.toList) request :=
    (h.orphan request entry hentry hover).imp .inl
      fun hend => hend.imp .inl (h.preserve_lost hstep)
  rcases hstep.entries_cases past with heq | ⟨id, c, hm, hcall, _, heq⟩
  · rw [heq] at hentry
    rcases (over_append past m).mp hover with hover | hm
    · exact hkeep hentry hover
    · cases hstep with
      | @finish id c result hcall hends =>
        cases hm
        have hrequest : ((entries past)[request]?).map Prod.fst = some entry.1 := by
          rw [hentry]
          rfl
        rcases h.settled_of_ends hcall hends hrequest with ⟨_, rfl⟩ | hsettled | hlost
        · exact .inl (.inr rfl)
        · exact .inr (.inl (.inl hsettled))
        · exact .inr (.inr (h.preserve_lost (.finish hcall hends) hlost))
      | cancel hcall =>
        cases hm
        exact .inl (.inr rfl)
      | _ => cases hm
  · -- only the request that enters now is new, and its call is not over
    have hover : Over past entry.1 := by
      rcases (over_append past m).mp hover with hover | hover
      · exact hover
      · rw [hm] at hover
        cases hover
    rw [heq] at hentry
    rcases Nat.lt_or_ge request (entries past).length with hlt | hge
    · rw [List.getElem?_append_left hlt] at hentry
      exact hkeep hentry hover
    · have hentry := List.mem_of_getElem? (List.getElem?_append_right hge ▸ hentry)
      rw [List.mem_singleton.mp hentry] at hover
      have hnone := (h.call_iff id).mpr (.inr hover)
      exact nomatch hcall.symm.trans hnone

/-! ## The step and the run -/

theorem step (h : Inv depth x past) (hstep : Step x m y) : Inv depth y (past ++ m.toList) where
  depth_eq := h.preserve_depth_eq hstep
  room := h.preserve_room hstep
  now_eq := h.preserve_now_eq hstep
  issues_eq := h.preserve_issues_eq hstep
  accepting_iff := h.preserve_accepting_iff hstep
  gone_iff := h.preserve_gone_iff hstep
  queue_eq := h.preserve_queue_eq hstep
  taken_length := h.preserve_taken_length hstep
  handouts_le := h.preserve_handouts_le hstep
  settled_lt := h.preserve_settled_lt hstep
  taken_iff := h.preserve_taken_iff hstep
  over_lt := h.preserve_over_lt hstep
  call_iff := h.preserve_call_iff hstep
  entries_lt := h.preserve_entries_lt hstep
  entries_nodup := h.preserve_entries_nodup hstep
  live := h.preserve_live hstep
  fate := h.preserve_fate hstep
  orphan := h.preserve_orphan hstep

theorem empty (depth : Nat) : Inv depth (.empty depth) [] where
  depth_eq := rfl
  room := Nat.zero_le _
  now_eq := rfl
  issues_eq := rfl
  accepting_iff := by simp [Exchange.empty]
  gone_iff := by simp [Exchange.empty]
  queue_eq := rfl
  taken_length := rfl
  handouts_le := Nat.le_refl _
  settled_lt := fun _ h => nomatch h
  taken_iff := by simp [Exchange.empty, handouts]
  over_lt := fun _ h => nomatch h
  call_iff := by simp [Exchange.empty, call?]
  entries_lt := fun _ h => nomatch h
  entries_nodup := List.nodup_nil
  live := by simp [Exchange.empty, call?]
  fate := by simp [Exchange.empty, call?]
  orphan := fun _ _ h => nomatch h

theorem steps {later : List Moment} (h : Inv depth x past) (hsteps : Steps x later y) :
    Inv depth y (past ++ later) := by
  induction hsteps generalizing past with
  | nil x =>
    rw [List.append_nil]
    exact h
  | cons hstep _ ih =>
    rw [← List.append_assoc]
    exact ih (h.step hstep)

/-- A call that the exchange knows was started and is not over. -/
theorem issued_of_call? (h : Inv depth x past) {id : Nat} {c : Call} (hcall : x.call? id = some c) :
    id ∈ issues past ∧ ¬ Over past id := by
  refine ⟨?_, fun hover => ?_⟩
  · rw [h.issues_eq, List.mem_range]
    exact Places.lt_length hcall
  · exact nomatch hcall.symm.trans ((h.call_iff id).mpr (.inr hover))

theorem exists_call? (h : Inv depth x past) {id : Nat} (hissued : id ∈ issues past)
    (hover : ¬ Over past id) : ∃ c, x.call? id = some c := by
  rw [h.issues_eq, List.mem_range] at hissued
  exact Option.ne_none_iff_exists'.mp
    (mt (h.call_iff id).mp (not_or.mpr ⟨Nat.not_le.mpr hissued, hover⟩))

end Inv

theorem inv (depth : Nat) (calls : List ExchangeCall) :
    Inv depth (after depth calls) (history depth calls) :=
  (Inv.empty depth).steps (run_steps _ calls)

end WaveCache.Exchange
