import Mathlib.Data.List.Infix
import WaveCache.Proofs.Bus.Stream

/-!
# Runs of a bus

`BusCall` and `BusReply` are the calls of a bus and of its subscriptions and what comes back from
them.  `Bus.run` makes calls one after another and writes down the events.  Once a bus is closed,
nobody can subscribe to it or publish on it any more.

The events tell which frames were published (`stream`) and which of them a subscription was given
(`returned`).  `Carries.perform` says that a bus goes on to carry the frames that were published.
-/

namespace WaveCache

/-- A call of a bus or of one of its subscriptions. -/
inductive BusCall where
  | subscribe (filter : TopicFilter)
  | publish (frame : Frame)
  /-- Waits for a frame, as far as that goes now, or takes one only if there is one. -/
  | receive (waits : Bool) (id : Nat)
  | unsubscribe (id : Nat)
  | close
deriving DecidableEq

/-- What comes back from a call. -/
inductive BusReply where
  | subscribed (id : Nat)
  | reached (subscriptions : Nat)
  /-- Nothing as long as the wait goes on, and no frame if there will be none. -/
  | waited (result : Option (Option Frame))
  | tried (result : Except SubscriptionError (Option Frame))
  | done
  /-- What was called is not there any more. -/
  | gone

/-- A call that was made, and its reply. -/
structure BusEvent where
  call : BusCall
  reply : BusReply

/-- What is received.  A wait ends with a frame, or with none once the bus is closed. -/
def BusReply.ofReception : Bool → Except SubscriptionError (Option Frame) → BusReply
  | true, .ok (some frame) => .waited (some (some frame))
  | true, .ok none => .waited none
  | true, .error .closed => .waited (some none)
  | false, result => .tried result

namespace BusEvent

/-- The frame that was published. -/
def published? (e : BusEvent) : Option Frame :=
  match e.call, e.reply with
  | .publish frame, .reached _ => some frame
  | _, _ => none

/-- The frame that a subscription was given. -/
def returned? (id : Nat) (e : BusEvent) : Option Frame :=
  match e.call, e.reply with
  | .receive _ reader, .waited (some (some frame)) => if reader = id then some frame else none
  | .receive _ reader, .tried (.ok (some frame)) => if reader = id then some frame else none
  | _, _ => none

/-- Whether a subscription was made. -/
def isSubscribe (e : BusEvent) : Bool :=
  e.reply matches .subscribed _

/-- Whether a subscription ended. -/
def isUnsubscribe (e : BusEvent) : Bool :=
  match e.call, e.reply with
  | .unsubscribe _, .done => true
  | _, _ => false

end BusEvent

namespace Bus

/-- The frames that were published, in order. -/
def stream (events : List BusEvent) : List Frame :=
  events.filterMap BusEvent.published?

/-- The frames that a subscription was given, in order. -/
def returned (id : Nat) (events : List BusEvent) : List Frame :=
  events.filterMap fun e => e.returned? id

/-- Makes a call. -/
def perform (b : Bus) (call : BusCall) : BusReply × Bus :=
  match call with
  | .subscribe filter =>
    if b.isOpen then
      let (id, b) := b.subscribe filter
      (.subscribed id, b)
    else (.gone, b)
  | .publish frame =>
    if b.isOpen then
      let (reached, b) := b.publish frame
      (.reached reached, b)
    else (.gone, b)
  | .receive waits id =>
    match b.poll id with
    | some (result, b) => (.ofReception waits result, b)
    | none => (.gone, b)
  | .unsubscribe id => (if (b.subscription? id).isSome then .done else .gone, b.unsubscribe id)
  | .close => (.done, b.close)

/-- Makes calls one after another. -/
def run (b : Bus) : List BusCall → List BusEvent × Bus
  | [] => ([], b)
  | call :: calls =>
    let (reply, b) := b.perform call
    let (events, b) := b.run calls
    (⟨call, reply⟩ :: events, b)

theorem run_cons (b : Bus) (call : BusCall) (calls : List BusCall) :
    b.run (call :: calls) =
      (⟨call, (b.perform call).1⟩ :: ((b.perform call).2.run calls).1,
        ((b.perform call).2.run calls).2) :=
  rfl

theorem run_append (b : Bus) (calls more : List BusCall) :
    b.run (calls ++ more) =
      ((b.run calls).1 ++ ((b.run calls).2.run more).1, ((b.run calls).2.run more).2) := by
  induction calls generalizing b with
  | nil => rfl
  | cons first calls ih =>
    rw [List.cons_append, run_cons, ih, run_cons]
    rfl

/-- The bus after calls of a new one. -/
def after (capacity : Nat) (calls : List BusCall) : Bus :=
  ((empty capacity).run calls).2

/-- The events of calls of a new bus. -/
def events (capacity : Nat) (calls : List BusCall) : List BusEvent :=
  ((empty capacity).run calls).1

theorem after_append (capacity : Nat) (calls more : List BusCall) :
    after capacity (calls ++ more) = ((after capacity calls).run more).2 := by
  rw [after, run_append]
  rfl

theorem events_append (capacity : Nat) (calls more : List BusCall) :
    events capacity (calls ++ more) =
      events capacity calls ++ ((after capacity calls).run more).1 := by
  rw [events, run_append]
  rfl

theorem after_concat (capacity : Nat) (calls : List BusCall) (call : BusCall) :
    after capacity (calls ++ [call]) = ((after capacity calls).perform call).2 :=
  after_append capacity calls [call]

theorem events_concat (capacity : Nat) (calls : List BusCall) (call : BusCall) :
    events capacity (calls ++ [call]) =
      events capacity calls ++ [⟨call, ((after capacity calls).perform call).1⟩] :=
  events_append capacity calls [call]

theorem stream_concat (events : List BusEvent) (e : BusEvent) :
    stream (events ++ [e]) = stream events ++ e.published?.toList := by
  rw [stream, List.filterMap_append]
  cases h : e.published? <;> simp [stream, h]

theorem returned_concat (id : Nat) (events : List BusEvent) (e : BusEvent) :
    returned id (events ++ [e]) = returned id events ++ (e.returned? id).toList := by
  rw [returned, List.filterMap_append]
  cases h : e.returned? id <;> simp [returned, h]

/-- Frames are only published behind those that were. -/
theorem length_stream_le_of_prefix {front calls : List BusCall} (capacity : Nat)
    (h : front <+: calls) :
    (stream (events capacity front)).length ≤ (stream (events capacity calls)).length := by
  induction calls using List.reverseRecOn with
  | nil => rw [List.prefix_nil.mp h]
  | append_singleton calls call ih =>
    rcases List.prefix_concat_iff.mp h with rfl | hfront
    · exact Nat.le_refl _
    · rw [events_concat, stream_concat, List.length_append]
      exact (ih hfront).trans (Nat.le_add_right _ _)

/-! ## One call -/

/-- Receiving changes what a live subscription has read, and nothing else. -/
theorem perform_receive_cases (b : Bus) (waits : Bool) (id : Nat) :
    (b.subscription? id = none ∧ b.perform (.receive waits id) = (.gone, b)) ∨
    ∃ s, b.subscription? id = some s ∧
      b.perform (.receive waits id) = (.ofReception waits (b.receive s).1,
        { b with subscriptions := b.subscriptions.set id (some (b.receive s).2) }) := by
  cases hs : b.subscription? id with
  | none =>
    have hpoll : b.poll id = none := by
      rw [poll, hs]
      rfl
    exact .inl ⟨rfl, by simp only [perform, hpoll]⟩
  | some s =>
    have hpoll : b.poll id = some ((b.receive s).1,
        { b with subscriptions := b.subscriptions.set id (some (b.receive s).2) }) := by
      rw [poll, hs]
      rfl
    exact .inr ⟨s, rfl, by simp only [perform, hpoll]⟩

/-- A subscription is given the frame that it receives. -/
theorem returned?_ofReception (waits : Bool) (id : Nat)
    (result : Except SubscriptionError (Option Frame)) :
    (BusEvent.mk (.receive waits id) (.ofReception waits result)).returned? id =
      result.toOption.join := by
  rcases result with ⟨⟨⟩⟩ | _ | frame <;> cases waits <;> simp [BusEvent.returned?,
    BusReply.ofReception, Except.toOption]

theorem isSubscribe_ofReception (call : BusCall) (waits : Bool)
    (result : Except SubscriptionError (Option Frame)) :
    (BusEvent.mk call (.ofReception waits result)).isSubscribe = false := by
  rcases result with ⟨⟨⟩⟩ | _ | frame <;> cases waits <;> rfl

/-- A call that does not let a subscription receive gives it nothing. -/
theorem returned?_eq_none {call : BusCall} {id : Nat} (hother : ∀ waits, call ≠ .receive waits id)
    (reply : BusReply) : (BusEvent.mk call reply).returned? id = none := by
  cases call with
  | receive waits reader =>
    have hne : reader ≠ id := fun heq => hother waits (by rw [heq])
    cases reply with
    | waited result => rcases result with _ | _ | frame <;> simp [BusEvent.returned?, hne]
    | tried result => rcases result with _ | _ | frame <;> simp [BusEvent.returned?, hne]
    | subscribed | reached | done | gone => rfl
  | subscribe | publish | unsubscribe | close => rfl

/-- What is not live is given nothing. -/
theorem returned?_perform_of_none {b : Bus} {id : Nat} (hs : b.subscription? id = none)
    (call : BusCall) : (BusEvent.mk call (b.perform call).1).returned? id = none := by
  by_cases hcall : ∃ waits, call = .receive waits id
  · obtain ⟨waits, rfl⟩ := hcall
    rcases b.perform_receive_cases waits id with ⟨_, hperform⟩ | ⟨s, hlive, _⟩
    · rw [hperform]
      rfl
    · exact nomatch hs.symm.trans hlive
  · exact returned?_eq_none (fun waits heq => hcall ⟨waits, heq⟩) _

/-- Ending a subscription empties its place and no other. -/
theorem subscription?_unsubscribe (b : Bus) (id other : Nat) :
    (b.unsubscribe id).subscription? other =
      if other = id then none else b.subscription? other := by
  rw [unsubscribe]
  cases hs : b.subscription? id with
  | none =>
    by_cases hother : other = id
    · rw [if_pos hother, hother]
      exact hs
    · rw [if_neg hother]
  | some s => exact Places.join_set (Places.lt_length hs) none other

theorem subscription?_subscribe (b : Bus) (filter : TopicFilter) (other : Nat) :
    (b.subscribe filter).2.subscription? other =
      if other = b.subscriptions.length then some ⟨filter, b.published⟩
      else b.subscription? other :=
  Places.join_concat b.subscriptions (some ⟨filter, b.published⟩) other

/-- What a call does to a subscription that it neither lets receive nor ends. -/
theorem subscription?_perform {b : Bus} {call : BusCall} {id : Nat} {s : Subscription}
    (hs : b.subscription? id = some s) (hreader : ∀ waits, call ≠ .receive waits id)
    (hend : call ≠ .unsubscribe id) : (b.perform call).2.subscription? id = some s := by
  cases call with
  | subscribe filter =>
    rw [perform]
    split
    · rw [← hs]
      show (b.subscribe filter).2.subscription? id = b.subscription? id
      rw [subscription?_subscribe, if_neg (Nat.ne_of_lt (Places.lt_length hs))]
    · exact hs
  | publish frame =>
    rw [perform]
    split
    · exact hs
    · exact hs
  | receive waits reader =>
    have hne : id ≠ reader := fun heq => hreader waits (by rw [heq])
    rcases b.perform_receive_cases waits reader with ⟨_, hperform⟩ | ⟨t, hlive, hperform⟩
    · rw [hperform]
      exact hs
    · rw [hperform, subscription?_set _ (Places.lt_length hlive), if_neg hne]
      exact hs
  | unsubscribe reader =>
    have hne : id ≠ reader := fun heq => hend (by rw [heq])
    rw [perform, subscription?_unsubscribe, if_neg hne]
    exact hs
  | close => exact hs

namespace Carries

variable {b : Bus} {frames : List Frame}

theorem subscribe (h : b.Carries frames) (filter : TopicFilter) :
    (b.subscribe filter).2.Carries frames := by
  refine ⟨h.published_eq, h.kept_eq, fun other t ht => ?_⟩
  rw [subscription?_subscribe] at ht
  split_ifs at ht with hother
  · cases ht
    exact Nat.le_of_eq h.published_eq
  · exact h.read_le other t ht

theorem publish (h : b.Carries frames) (frame : Frame) :
    (b.publish frame).2.Carries (frames ++ [frame]) := by
  refine ⟨?_, ?_, fun other t ht => ?_⟩
  · show b.published + 1 = (frames ++ [frame]).length
    rw [h.published_eq, List.length_append, List.length_singleton]
  · show (b.kept ++ [frame]).drop (b.kept.length + 1 - b.retention) =
      (frames ++ [frame]).drop ((frames ++ [frame]).length - b.retention)
    rw [h.kept_eq, ← List.drop_append_of_le_length (Nat.sub_le _ _), List.drop_drop,
      List.length_drop, List.length_append, List.length_singleton]
    congr 1
    omega
  · have hle := h.read_le other t ht
    rw [List.length_append]
    omega

/-- A bus goes on to carry what was published on it. -/
theorem perform (h : b.Carries frames) (call : BusCall) :
    (b.perform call).2.Carries
        (frames ++ (BusEvent.mk call (b.perform call).1).published?.toList) ∧
      (b.perform call).2.retention = b.retention := by
  have hnone {reply : BusReply} (hcall : ∀ frame, call ≠ .publish frame) :
      frames ++ (BusEvent.mk call reply).published?.toList = frames := by
    cases call with
    | publish frame => exact absurd rfl (hcall frame)
    | subscribe | receive | unsubscribe | close => exact List.append_nil frames
  cases call with
  | subscribe filter =>
    rw [hnone fun _ => nofun, Bus.perform]
    split
    · exact ⟨h.subscribe filter, rfl⟩
    · exact ⟨h, rfl⟩
  | publish frame =>
    rw [Bus.perform]
    split
    · exact ⟨h.publish frame, rfl⟩
    · have hgone : frames ++ (BusEvent.mk (.publish frame) .gone).published?.toList = frames :=
        List.append_nil frames
      rw [hgone]
      exact ⟨h, rfl⟩
  | receive waits reader =>
    rw [hnone fun _ => nofun]
    rcases b.perform_receive_cases waits reader with ⟨_, hperform⟩ | ⟨s, hs, hperform⟩
    · rw [hperform]
      exact ⟨h, rfl⟩
    · rw [hperform]
      refine ⟨h.set (Places.lt_length hs) ?_, rfl⟩
      cases h.reception (h.read_le reader s hs) with
      | frame position frame _ hframe _ _ _ _ hreceive =>
        rw [hreceive]
        exact (List.getElem?_eq_some_iff.mp hframe).1
      | nothing _ _ hreceive => rw [hreceive]
  | unsubscribe reader =>
    obtain ⟨hpublished, hkept, hretention⟩ : (b.unsubscribe reader).published = b.published ∧
        (b.unsubscribe reader).kept = b.kept ∧ (b.unsubscribe reader).retention = b.retention := by
      rw [unsubscribe]
      split
      · exact ⟨rfl, rfl, rfl⟩
      · exact ⟨rfl, rfl, rfl⟩
    rw [hnone fun _ => nofun, Bus.perform]
    refine ⟨⟨hpublished.trans h.published_eq, ?_, fun other t ht => ?_⟩, hretention⟩
    · show (b.unsubscribe reader).kept = _
      rw [hkept, hretention]
      exact h.kept_eq
    · rw [subscription?_unsubscribe] at ht
      split_ifs at ht with hother
      exact h.read_le other t ht
  | close =>
    rw [hnone fun _ => nofun]
    exact ⟨⟨h.published_eq, h.kept_eq, h.read_le⟩, rfl⟩

end Carries

end Bus

end WaveCache
