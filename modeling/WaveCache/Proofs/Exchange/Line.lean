import Mathlib.Data.List.Perm.Subperm
import WaveCache.Proofs.Exchange.Invariant

/-!
# The line for the queue

Nobody is passed over.  As long as requests are taken, a call waits for a place only if none is
left, and the calls that have one were started before it (`Lined`).  So whether a call has a place
can be seen from the past: it has one exactly if the requests in the queue and the calls before it
in line leave one (`Inv.granted_iff`).

Settling the line gives places to the first calls in it.  It makes an exchange `Lined` if the calls
are `Ordered`, which they stay when calls end and places become free.
-/

namespace WaveCache.Exchange

variable {x y : Exchange} {id other : Nat} {c d : Call}

/-- A call that has a place was started before every call that waits for one. -/
def Ordered (x : Exchange) : Prop :=
  ∀ ⦃id other c d⦄, x.call? id = some c → c.stage = .waiting → x.call? other = some d →
    d.stage = .granted → other < id

/-- An exchange in which no call waits without need. -/
structure Lined (x : Exchange) : Prop where
  ordered : x.Ordered
  /-- While a call waits, all places are held. -/
  full : ∀ id c, x.call? id = some c → c.stage = .waiting → x.depth ≤ x.queue.length + x.granted

/-- Calls only leave the line. -/
theorem Ordered.mono (h : x.Ordered) (hfrom : ∀ id c, y.call? id = some c →
    c.stage = .waiting ∨ c.stage = .granted → x.call? id = some c) : y.Ordered :=
  fun id other c d hcall hwaiting hother hgranted =>
    h (hfrom id c hcall (.inl hwaiting)) hwaiting (hfrom other d hother (.inr hgranted)) hgranted

/-! ## Settling the line -/

/-- If a call is left waiting, all places were given away, and none of them to calls behind it. -/
theorem grant_waiting {places : Nat} {calls : List (Option Call)}
    (hcall : (grant places calls)[id]? = some (some c)) (hwaiting : c.stage = .waiting) :
    (grant places calls).countP isGranted = calls.countP isGranted + places ∧
      (grant places calls).drop (id + 1) = calls.drop (id + 1) := by
  fun_induction grant places calls generalizing id with
  | case1 calls => exact ⟨rfl, rfl⟩
  | case2 => cases hcall
  | case3 places calls ih =>
    cases id with
    | zero => cases hcall
    | succ id =>
      obtain ⟨hcount, hdrop⟩ := ih hcall
      exact ⟨by simpa [List.countP_cons] using hcount, hdrop⟩
  | case4 places c' calls hwaiting' ih =>
    cases id with
    | zero =>
      cases hcall
      cases hwaiting
    | succ id =>
      obtain ⟨hcount, hdrop⟩ := ih hcall
      refine ⟨?_, hdrop⟩
      simp only [List.countP_cons]
      simp [hwaiting']
      omega
  | case5 places c' calls hwaiting' ih =>
    cases id with
    | zero =>
      cases hcall
      exact absurd hwaiting hwaiting'
    | succ id =>
      obtain ⟨hcount, hdrop⟩ := ih hcall
      refine ⟨?_, hdrop⟩
      simp only [List.countP_cons]
      omega

theorem Ordered.settle (h : x.Ordered) : x.settle.Ordered := by
  intro id other c d hcall hwaiting hother hgranted
  by_cases hendpoint : x.endpoint = .accepting
  · rw [Exchange.settle, if_pos hendpoint] at hcall hother
    have hget := Places.join_eq_some.mp hcall
    obtain ⟨_, hdrop⟩ := grant_waiting hget hwaiting
    have hbefore : x.call? id = some c := by
      rcases grant_getElem? x.free x.calls id with heq | ⟨c', _, _, heq⟩
      · exact Places.join_eq_some.mpr (heq ▸ hget)
      · -- this call was given a place, so it does not wait
        cases hget.symm.trans heq
        cases hwaiting
    rcases Nat.lt_trichotomy other id with hlt | rfl | hgt
    · exact hlt
    · cases hcall.symm.trans hother
      rw [hwaiting] at hgranted
      cases hgranted
    · have hsame : (grant x.free x.calls)[other]? = x.calls[other]? := by
        have heq := congrArg (·[other - (id + 1)]?) hdrop
        simp only [List.getElem?_drop, Nat.add_sub_cancel' hgt] at heq
        exact heq
      exact h hbefore hwaiting ((congrArg Option.join hsame).symm.trans hother) hgranted
  · rw [Exchange.settle, if_neg hendpoint] at hcall hother
    exact h hcall hwaiting hother hgranted

/-- Settling the line leaves nobody waiting without need. -/
theorem Ordered.lined_settle (h : x.Ordered) (hendpoint : x.endpoint = .accepting) :
    x.settle.Lined := by
  refine ⟨h.settle, fun id c hcall hwaiting => ?_⟩
  rw [Exchange.settle, if_pos hendpoint] at hcall ⊢
  obtain ⟨hcount, _⟩ := grant_waiting (Places.join_eq_some.mp hcall) hwaiting
  show x.depth ≤ x.queue.length + (grant x.free x.calls).countP isGranted
  rw [hcount, free]
  show x.depth ≤ x.queue.length + (x.granted + _)
  omega

/-! ## Calls in line -/

/-- A call that moves on leaves the line. -/
theorem call?_of_advanceCall {stage : Stage} (hwaiting : stage ≠ .waiting)
    (hgranted : stage ≠ .granted) (id : Nat) (c : Call)
    (hcall : (x.advanceCall other stage).call? id = some c)
    (hline : c.stage = .waiting ∨ c.stage = .granted) : x.call? id = some c := by
  rw [call?_advanceCall] at hcall
  split at hcall
  · obtain ⟨_, _, rfl⟩ := Option.map_eq_some_iff.mp hcall
    exact (hline.elim hwaiting hgranted).elim
  · exact hcall

/-- So does one that ends. -/
theorem call?_of_set (id : Nat) (c : Call)
    (hcall : call? { x with calls := x.calls.set other none } id = some c) :
    x.call? id = some c := by
  rcases Nat.lt_or_ge other x.calls.length with hlt | hge
  · rw [call?_set hlt] at hcall
    split at hcall
    · cases hcall
    · exact hcall
  · rw [List.set_eq_of_length_le hge] at hcall
    exact hcall

theorem granted_le_enter (x : Exchange) (inquiry : Inquiry) (timeout : Nat) :
    x.granted ≤ (x.enter inquiry timeout).granted := by
  rw [enter, granted, granted, List.countP_append]
  exact Nat.le_add_right _ _

/-! ## Nobody is passed over -/

namespace Lined

theorem empty (depth : Nat) : (Exchange.empty depth).Lined := by
  constructor <;> simp [Ordered, Exchange.empty, call?]

/-- A new call gets a place only if one is left, and then nobody waits. -/
theorem enter (h : x.Lined) (inquiry : Inquiry) (timeout : Nat) :
    (x.enter inquiry timeout).Lined := by
  have hle := x.granted_le_enter inquiry timeout
  constructor
  · intro id other c d hcall hwaiting hother hgranted
    rw [call?_enter] at hcall hother
    by_cases hid : id = x.calls.length <;> by_cases hnew : other = x.calls.length
    · rw [if_pos hid] at hcall
      rw [if_pos hnew] at hother
      cases hcall.symm.trans hother
      rw [hwaiting] at hgranted
      cases hgranted
    · rw [if_neg hnew] at hother
      rw [hid]
      exact Places.lt_length hother
    · rw [if_neg hid] at hcall
      rw [if_pos hnew] at hother
      have hfull := h.full id c hcall hwaiting
      have hfree : ¬ 0 < x.free := by
        rw [free]
        omega
      cases hother
      rw [if_neg hfree] at hgranted
      cases hgranted
    · rw [if_neg hid] at hcall
      rw [if_neg hnew] at hother
      exact h.ordered hcall hwaiting hother hgranted
  · intro id c hcall hwaiting
    refine Nat.le_trans ?_ (Nat.add_le_add_left hle x.queue.length)
    rw [call?_enter] at hcall
    split at hcall
    · cases hcall
      have hfree : ¬ 0 < x.free := fun hfree => by
        rw [if_pos hfree] at hwaiting
        cases hwaiting
      rw [free] at hfree
      show x.depth ≤ _
      omega
    · exact h.full id c hcall hwaiting

/-- A place that was held is used. -/
theorem send (h : x.Lined) (hcall : x.call? id = some c) (hstage : c.stage = .granted) :
    Lined { x.advanceCall id .sent with queue := x.queue ++ [(id, c.inquiry)] } := by
  have hfrom : ∀ other d, (x.advanceCall id .sent).call? other = some d →
      d.stage = .waiting ∨ d.stage = .granted → x.call? other = some d :=
    call?_of_advanceCall nofun nofun
  refine ⟨h.ordered.mono hfrom, fun other d hother hwaiting => ?_⟩
  have hfull := h.full other d (hfrom other d hother (.inl hwaiting)) hwaiting
  have hgranted := granted_advanceCall hcall .sent nofun
  rw [if_pos hstage] at hgranted
  show x.depth ≤ (x.queue ++ [_]).length + (x.advanceCall id .sent).granted
  rw [List.length_append, List.length_singleton]
  omega

/-- A call that holds no place moves on. -/
theorem advanceCall (h : x.Lined) (hplace : ∀ c, x.call? id = some c → c.stage ≠ .granted)
    {stage : Stage} (hwaiting : stage ≠ .waiting) (hgranted : stage ≠ .granted) :
    (x.advanceCall id stage).Lined := by
  have hfrom : ∀ other d, (x.advanceCall id stage).call? other = some d →
      d.stage = .waiting ∨ d.stage = .granted → x.call? other = some d :=
    call?_of_advanceCall hwaiting hgranted
  refine ⟨h.ordered.mono hfrom, fun other d hother hwaiting => ?_⟩
  have hsame : (x.advanceCall id stage).granted = x.granted := by
    cases hcall : x.call? id with
    | none => rw [Exchange.advanceCall, Places.modify_of_none hcall]
    | some c =>
      have hcount := granted_advanceCall hcall stage hgranted
      rwa [if_neg (hplace c hcall)] at hcount
  rw [hsame]
  exact h.full other d (hfrom other d hother (.inl hwaiting)) hwaiting

end Lined

/-- The place of a call that ends goes to the first in line. -/
theorem Ordered.lined_dropCall (h : x.Ordered) (hendpoint : x.endpoint = .accepting) (id : Nat) :
    (x.dropCall id).Lined :=
  (h.mono fun other c hcall _ => call?_of_set other c hcall).lined_settle hendpoint

namespace Lined

theorem poll {outcome : Outcome} (h : x.Lined) (hendpoint : x.endpoint = .accepting)
    (hpoll : x.poll id = some (outcome, y)) : y.Lined := by
  rw [Exchange.poll] at hpoll
  obtain ⟨c, hcall, hpoll⟩ := Option.map_eq_some_iff.mp hpoll
  have hprogress : (x.progress id c).2.Lined ∧ (x.progress id c).2.endpoint = .accepting := by
    rw [progress]
    cases hstage : c.stage with
    | granted =>
      simp only [if_pos hendpoint]
      exact ⟨h.send hcall hstage, hendpoint⟩
    | waiting =>
      simp only [if_pos hendpoint]
      exact ⟨h, hendpoint⟩
    | sent | replied | abandoned => exact ⟨h, hendpoint⟩
  rcases houtcome : x.progress id c with ⟨_ | result, z⟩ <;>
    rw [houtcome] at hpoll hprogress <;> cases hpoll
  · exact hprogress.1
  · exact hprogress.1.ordered.lined_dropCall hprogress.2 id

end Lined

/-- An exchange that takes requests did so before. -/
theorem Steps.accepting {later : List Moment} (hsteps : Steps x later y)
    (hendpoint : y.endpoint = .accepting) : x.endpoint = .accepting := by
  induction hsteps with
  | nil => exact hendpoint
  | cons hstep _ ih =>
    have hendpoint := ih hendpoint
    cases hstep with
    | close hgone => cases hendpoint
    | leave hgone => cases hendpoint
    | settle => rwa [settle_endpoint] at hendpoint
    | _ => exact hendpoint

namespace Inv

variable {depth : Nat} {past : List Moment}

/-- A call is in line as long as its request has not come into the queue. -/
theorem stage_iff (h : Inv depth x past) (hcall : x.call? id = some c) :
    c.stage = .waiting ∨ c.stage = .granted ↔ id ∉ (entries past).map Prod.fst := by
  have hstage := (h.live id c hcall).stage
  have hmem {request : Nat} (hrequest : ((entries past)[request]?).map Prod.fst = some id) :
      id ∈ (entries past).map Prod.fst := by
    rw [← List.getElem?_map] at hrequest
    exact List.mem_of_getElem? hrequest
  cases hc : c.stage with
  | waiting | granted =>
    rw [hc] at hstage
    exact iff_of_true (by simp) hstage
  | sent =>
    rw [hc] at hstage
    exact iff_of_false (by simp) (not_not_intro hstage)
  | replied | abandoned =>
    rw [hc] at hstage
    obtain ⟨request, hrequest, _⟩ := hstage
    exact iff_of_false (by simp) (not_not_intro (hmem hrequest))

/-- The call of a request that was taken out holds no place. -/
theorem not_granted_of_taken (h : Inv depth x past) {request : Nat}
    (htaken : (x.taken[request]?).join = some id) (c : Call) (hcall : x.call? id = some c) :
    c.stage ≠ .granted := by
  intro hgranted
  obtain ⟨_, hrequest, _⟩ := (h.taken_iff request id).mp htaken
  rw [← List.getElem?_map] at hrequest
  exact (h.stage_iff hcall).mp (.inr hgranted) (List.mem_of_getElem? hrequest)

/-- A request is settled, which leaves the line as it is. -/
theorem lined_settled (h : Inv depth x past) (hlined : x.Lined) {request : Nat}
    (htaken : (x.taken[request]?).join = some id) {stage : Stage} (hwaiting : stage ≠ .waiting)
    (hgranted : stage ≠ .granted) :
    Lined ({ x with taken := x.taken.set request none }.advanceCall id stage) :=
  have hlined : Lined { x with taken := x.taken.set request none } :=
    ⟨hlined.ordered, hlined.full⟩
  hlined.advanceCall (h.not_granted_of_taken htaken) hwaiting hgranted

theorem lined_perform (h : Inv depth x past) (hlined : x.Lined) (call : ExchangeCall)
    (hafter : (x.perform call).2.endpoint = .accepting) : (x.perform call).2.Lined := by
  have hendpoint := (x.perform_steps call).accepting hafter
  have hperforms := x.perform_cases call
  generalize (x.perform call).1 = reply, (x.perform call).2 = y at hperforms hafter
  cases hperforms with
  | gone | idle => exact hlined
  | @call inquiry timeout id outcome y hcall =>
    obtain ⟨rfl, hpoll⟩ := poll_of_call_eq_some hcall
    exact (hlined.enter inquiry timeout).poll hendpoint hpoll
  | poll hpoll => exact hlined.poll hendpoint hpoll
  | @cancel id c hcall => exact hlined.ordered.lined_dropCall hendpoint id
  | endCalls => exact ⟨hlined.ordered, hlined.full⟩
  | wait milliseconds => exact ⟨hlined.ordered, hlined.full⟩
  | @hand id inquiry queue _ hqueue =>
    have hordered : Ordered { x with queue, taken := x.taken ++ [some id] } := hlined.ordered
    exact hordered.lined_settle hendpoint
  | answer reply htaken => exact h.lined_settled hlined htaken (by simp) (by simp)
  | drop htaken => exact h.lined_settled hlined htaken (by simp) (by simp)
  | close => cases hafter
  | leave => cases hafter

theorem lined_run (h : Inv depth x past) (hlined : x.endpoint = .accepting → x.Lined)
    (calls : List ExchangeCall) (hafter : (x.run calls).2.endpoint = .accepting) :
    (x.run calls).2.Lined := by
  induction calls generalizing x past with
  | nil => exact hlined hafter
  | cons call calls ih =>
    refine ih (h.steps (x.perform_steps call)) (fun hendpoint => ?_) hafter
    exact h.lined_perform (hlined ((x.perform_steps call).accepting hendpoint)) call hendpoint

end Inv

theorem lined (depth : Nat) (calls : List ExchangeCall)
    (hendpoint : (after depth calls).endpoint = .accepting) : (after depth calls).Lined :=
  (Inv.empty depth).lined_run (fun _ => .empty depth) calls hendpoint

/-! ## Places and the past -/

/-- The calls that hold a place. -/
def holders (x : Exchange) : List Nat :=
  (List.range x.calls.length).filter fun id => isGranted (x.call? id)

theorem mem_holders_iff :
    id ∈ x.holders ↔ ∃ c, x.call? id = some c ∧ c.stage = .granted := by
  rw [holders, List.mem_filter, List.mem_range, isGranted, Option.any_eq_true]
  simp only [decide_eq_true_eq]
  exact and_iff_right_of_imp fun ⟨_, hcall, _⟩ => Places.lt_length hcall

theorem nodup_holders (x : Exchange) : x.holders.Nodup :=
  List.nodup_range.filter _

theorem length_holders (x : Exchange) : x.holders.length = x.granted := by
  have hcalls : x.calls = (List.range x.calls.length).map x.call? := by
    refine List.ext_getElem (by simp) fun id hlt _ => ?_
    simp [call?, hlt]
  rw [granted, hcalls, List.countP_map, List.countP_eq_length_filter]
  rfl

namespace Inv

variable {depth : Nat} {past : List Moment}

theorem mem_ahead_iff (h : Inv depth x past) : other ∈ ahead past id ↔
    other < id ∧ ∃ d, x.call? other = some d ∧ (d.stage = .waiting ∨ d.stage = .granted) := by
  rw [ahead, List.mem_filter, decide_eq_true_eq]
  constructor
  · rintro ⟨hissued, hid, hover, hentered⟩
    obtain ⟨d, hcall⟩ := h.exists_call? hissued hover
    exact ⟨hid, d, hcall, (h.stage_iff hcall).mpr hentered⟩
  · rintro ⟨hid, d, hcall, hstage⟩
    obtain ⟨hissued, hover⟩ := h.issued_of_call? hcall
    exact ⟨hissued, hid, hover, (h.stage_iff hcall).mp hstage⟩

/-- Whether a call in line has a place can be seen from the past. -/
theorem granted_iff (h : Inv depth x past) (hlined : x.Lined) (hcall : x.call? id = some c)
    (hline : c.stage = .waiting ∨ c.stage = .granted) :
    c.stage = .granted ↔ x.queue.length + (ahead past id).length < x.depth := by
  have hroom := h.room
  rw [← x.length_holders] at hroom
  have hnodup : (ahead past id).Nodup := by
    rw [ahead, h.issues_eq]
    exact List.nodup_range.filter _
  rcases hline with hwaiting | hgranted
  · -- all places are held, and by calls that are ahead
    have hsub : x.holders ⊆ ahead past id := fun other hother => by
      obtain ⟨d, hd, hgranted⟩ := mem_holders_iff.mp hother
      exact h.mem_ahead_iff.mpr
        ⟨hlined.ordered hcall hwaiting hd hgranted, d, hd, .inr hgranted⟩
    have hle := (List.subperm_of_subset x.nodup_holders hsub).length_le
    have hfull := hlined.full id c hcall hwaiting
    rw [← x.length_holders] at hfull
    refine iff_of_false (by simp [hwaiting]) ?_
    omega
  · -- the calls that are ahead hold places, and so does this one
    have hsub : id :: ahead past id ⊆ x.holders := by
      refine List.cons_subset.mpr ⟨mem_holders_iff.mpr ⟨c, hcall, hgranted⟩, fun other hother => ?_⟩
      obtain ⟨hlt, d, hd, hwaiting | hgranted'⟩ := h.mem_ahead_iff.mp hother
      · exact absurd (hlined.ordered hd hwaiting hcall hgranted) (Nat.lt_asymm hlt)
      · exact mem_holders_iff.mpr ⟨d, hd, hgranted'⟩
    have hfresh : id ∉ ahead past id := fun hmem => Nat.lt_irrefl id (h.mem_ahead_iff.mp hmem).1
    have hle := (List.subperm_of_subset (List.nodup_cons.mpr ⟨hfresh, hnodup⟩) hsub).length_le
    rw [List.length_cons] at hle
    refine iff_of_true hgranted ?_
    omega

end Inv

end WaveCache.Exchange
