import Mathlib.Data.List.DropRight
import WaveCache.Proofs.Service.Invariant
import WaveCache.Proofs.Window.Content
import WaveCache.Proofs.Window.Query

/-!
# What a service remembers

The answers of a service follow from the events that it saw.  `delivered key past` lists the packets
of a channel that came as far as the store since the channel was last given up, and a running
service answers a query with the newest of them.

`Holds` says what there is of one channel, and `Remembers` that the store holds this of every
channel.  `Remembers.perform` is the step, with three kinds of events: those that leave the windows
alone, a stop, and a packet that the store looks at.  `Remembers.run` is the run.  The step needs a
sound service, in which a packet that does not get a window leaves the others alone.
-/

namespace WaveCache

/-! ## Events of a channel -/

/-- The packet that a call brings. -/
def ServiceCall.packet? : ServiceCall → Option Packet
  | .ingest p => some p
  | .ingestBytes encoding bs => (Wire.Form.packet.decode encoding bs).toOption
  | _ => none

namespace ServiceEvent

/-- Whether the store looked at the packet, which was taken in or else too old. -/
def isDelivered (e : ServiceEvent) : Bool :=
  match e.reply with
  | .ingested (.ok _) => true
  | .ingested (.error (.packetTooOld _ _ _)) => true
  | _ => false

/-- The packet of a channel that was delivered. -/
def delivery? (e : ServiceEvent) (key : ChannelKey) : Option Packet :=
  if e.isDelivered then e.call.packet?.filter fun p => p.channel = key else none

/-- Whether a channel is given up, because the service stops or because a report says so. -/
def forgets (e : ServiceEvent) (key : ChannelKey) : Bool :=
  match e.reply with
  | .done (.ok _) => (e.call matches .stop)
  | .ingested (.ok report) => report.evictedChannel = some key
  | _ => false

/-- Whether an event is of no concern to any channel. -/
def Quiet (e : ServiceEvent) : Prop :=
  ∀ key, e.forgets key = false ∧ e.delivery? key = none

/-- A report names the channel that was given up, and so does an error, since there is none then. -/
theorem forgets_report (s : Service) {c : ChannelStore} {p : Packet} {added : AddReport}
    (hadd : (c.add p).1 = some added) (call : ServiceCall) (key : ChannelKey) :
    (ServiceEvent.mk call (.ingested (s.report p added))).forgets key =
      decide (added.evicted = some key) := by
  unfold Service.report
  cases hinsert : added.insert with
  | inserted | replaced | insertedEvicting => rfl
  | tooOld oldest =>
    rw [ChannelStore.evicted_eq_none_of_tooOld hadd hinsert]
    cases s.config.tooOld <;> rfl

theorem delivery?_report (s : Service) (added : AddReport) {p : Packet} {call : ServiceCall}
    (hcall : call.packet? = some p) (key : ChannelKey) :
    (ServiceEvent.mk call (.ingested (s.report p added))).delivery? key =
      if p.channel = key then some p else none := by
  have hdelivered : (ServiceEvent.mk call (.ingested (s.report p added))).isDelivered = true := by
    unfold Service.report
    cases added.insert with
    | inserted | replaced | insertedEvicting => rfl
    | tooOld oldest => cases s.config.tooOld <;> rfl
  rw [delivery?, if_pos hdelivered, hcall, Option.filter_some]
  simp only [decide_eq_true_eq]

end ServiceEvent

/-- The packets of a channel that were delivered after it was last given up. -/
def delivered (key : ChannelKey) (past : List ServiceEvent) : List Packet :=
  (past.rtakeWhile fun e => !e.forgets key).filterMap fun e => e.delivery? key

section

variable {key : ChannelKey} {past : List ServiceEvent} {e : ServiceEvent}

theorem delivered_of_forgets (h : e.forgets key = true) : delivered key (past ++ [e]) = [] := by
  rw [delivered, List.rtakeWhile_concat_neg _ _ _ (by simp [h]), List.filterMap_nil]

theorem delivered_of_not_forgets (h : e.forgets key = false) :
    delivered key (past ++ [e]) = delivered key past ++ (e.delivery? key).toList := by
  rw [delivered, List.rtakeWhile_concat_pos _ _ _ (by simp [h]), List.filterMap_append, delivered]
  rfl

theorem delivered_of_quiet (h : e.Quiet) : delivered key (past ++ [e]) = delivered key past := by
  rw [delivered_of_not_forgets (h key).1, (h key).2, Option.toList_none, List.append_nil]

end

/-! ## Memory -/

/-- What there is of a channel after deliveries: no window without any, else one with the newest. -/
inductive Holds (capacity : Nat) (ps : List Packet) : Option Window → Prop where
  | nothing (hnone : ps = []) : Holds capacity ps none
  | window {w : Window} (hsome : ps ≠ []) (hcapacity : w.capacity = capacity)
      (hretains : Retains capacity ps w.packets) : Holds capacity ps (some w)

/-- One more delivery, to the window that is there or to a new one. -/
theorem Holds.store {capacity : Nat} {ps : List Packet} {found : Option Window}
    (h : Holds capacity ps found) (hpos : 0 < capacity) (p : Packet) :
    Holds capacity (ps ++ [p]) (some ((found.getD (.empty p.channel capacity)).store p).2) := by
  cases h with
  | nothing hnone =>
    subst hnone
    have hmax : (Window.empty p.channel capacity).capacity = capacity := Nat.max_eq_left hpos
    have hempty : Retains (Window.empty p.channel capacity).capacity [] [] := Retains.nil _
    have hstored := hempty.store p
    rw [hmax] at hstored
    exact .window (by simp) ((Window.store_capacity _ p).trans hmax) hstored
  | @window w _ hcapacity hretains =>
    subst hcapacity
    exact .window (by simp) (Window.store_capacity w p) (hretains.store p)

/-- The store holds of each channel what was delivered. -/
structure Remembers (capacity : Nat) (past : List ServiceEvent) (c : ChannelStore) : Prop where
  maxPackets : c.maxPackets = capacity
  pos : 0 < capacity
  holds : ∀ k, Holds capacity (delivered k past) (c.window? k)

namespace Remembers

variable {capacity : Nat} {past : List ServiceEvent} {c d : ChannelStore} {e : ServiceEvent}
  {config : CacheConfig}

theorem empty (config : CacheConfig) (h : config.fault? = none) :
    Remembers config.maxPackets.toNat []
      (.empty config.maxChannels.toNat config.maxPackets.toNat) := by
  have hpos := (CacheConfig.pos_of_fault?_eq_none h).2
  exact ⟨Nat.max_eq_left hpos, hpos, fun _ => .nothing rfl⟩

/-- Nothing happens. -/
theorem quiet (h : Remembers capacity past c) (he : e.Quiet)
    (hpackets : d.maxPackets = c.maxPackets) (hwindow : ∀ k, d.window? k = c.window? k) :
    Remembers capacity (past ++ [e]) d := by
  refine ⟨hpackets.trans h.maxPackets, h.pos, fun k => ?_⟩
  rw [delivered_of_quiet he, hwindow]
  exact h.holds k

/-- All channels are given up. -/
theorem clear (h : Remembers capacity past c) (he : ∀ k, e.forgets k = true) :
    Remembers capacity (past ++ [e]) c.clear :=
  ⟨h.maxPackets, h.pos, fun k => .nothing (delivered_of_forgets (he k))⟩

/-- A packet is delivered, and perhaps another channel is given up for it. -/
theorem add (h : Remembers capacity past c) {p : Packet} {added : AddReport}
    (hadd : (c.add p).1 = some added)
    (hforgets : ∀ k, e.forgets k = decide (added.evicted = some k))
    (hdelivery : ∀ k, e.delivery? k = if p.channel = k then some p else none) :
    Remembers capacity (past ++ [e]) (c.add p).2 := by
  refine ⟨(c.maxPackets_add p).trans h.maxPackets, h.pos, fun k => ?_⟩
  rw [ChannelStore.window?_add hadd]
  by_cases hk : k = p.channel
  · subst hk
    -- the channel of a packet is never the one that is given up for it
    have hkept : e.forgets p.channel = false := by
      rw [hforgets]
      simpa using ChannelStore.evicted_ne_channel hadd
    rw [if_pos rfl, delivered_of_not_forgets hkept, hdelivery, if_pos rfl, h.maxPackets]
    exact (h.holds p.channel).store h.pos p
  · rw [if_neg hk]
    by_cases hevicted : added.evicted = some k
    · rw [if_pos hevicted, delivered_of_forgets (by rw [hforgets]; simpa using hevicted)]
      exact .nothing rfl
    · rw [if_neg hevicted, delivered_of_not_forgets (by rw [hforgets]; simpa using hevicted),
        hdelivery, if_neg (Ne.symm hk), Option.toList_none, List.append_nil]
      exact h.holds k

/-! ## Calls -/

/-- A new service has nothing to remember. -/
theorem create {config : CacheConfig} {counting : Bool} {s : Service}
    (h : Service.create config counting = .ok s) :
    Remembers config.maxPackets.toNat [] s.store := by
  obtain ⟨hfault, rfl⟩ := Service.create_eq_ok h
  exact empty config hfault

/-- A packet comes to a running service, in whatever form. -/
theorem accept {s : Service} (h : Remembers capacity past s.store) (hsound : Sound config s)
    {p : Packet} {call : ServiceCall} (hcall : call.packet? = some p) :
    Remembers capacity (past ++ [⟨call, .ingested (s.accept p).1⟩]) (s.accept p).2.store := by
  rcases s.accept_cases p with ⟨fault, _, haccept⟩ | ⟨_, added, hadd, haccept⟩ | ⟨_, hadd, haccept⟩
  · rw [haccept]
    exact h.quiet (fun _ => ⟨rfl, rfl⟩) rfl fun _ => rfl
  · obtain ⟨metrics, hcount⟩ := { s with store := (s.store.add p).2 }.countAdded_eq added
    rw [haccept, hcount]
    exact h.add hadd (ServiceEvent.forgets_report s hadd call)
      (ServiceEvent.delivery?_report s added hcall)
  · rw [haccept, hsound.add_eq_self hadd]
    exact h.quiet (fun _ => ⟨rfl, rfl⟩) rfl fun _ => rfl

theorem ingest {s : Service} (h : Remembers capacity past s.store) (hsound : Sound config s)
    {p : Packet} {call : ServiceCall} (hcall : call.packet? = some p) :
    Remembers capacity (past ++ [⟨call, .ingested (s.ingest p).1⟩]) (s.ingest p).2.store := by
  unfold Service.ingest
  by_cases hphase : s.phase = .running
  · rw [if_pos hphase]
    exact h.accept hsound hcall
  · rw [if_neg hphase]
    exact h.quiet (fun _ => ⟨rfl, rfl⟩) rfl fun _ => rfl

/-- One call. -/
theorem perform {s : Service} (h : Remembers capacity past s.store) (hsound : Sound config s)
    (call : ServiceCall) :
    Remembers capacity (past ++ [⟨call, (s.perform call).1⟩]) (s.perform call).2.store := by
  have hqueried : ∀ {reply : ServiceReply} {t : Service}, ServiceEvent.Quiet ⟨call, reply⟩ →
      Queried s t → Remembers capacity (past ++ [⟨call, reply⟩]) t.store :=
    fun hquiet ht => h.quiet hquiet ht.agree.maxPackets ht.agree.window?
  cases call with
  | start =>
    rw [s.perform_start]
    by_cases hphase : s.phase = .stopped
    · rw [if_pos hphase]
      exact h.quiet (fun _ => ⟨rfl, rfl⟩) rfl fun _ => rfl
    · rw [if_neg hphase]
      exact h.quiet (fun _ => ⟨rfl, rfl⟩) rfl fun _ => rfl
  | stop =>
    rw [s.perform_stop]
    by_cases hphase : s.phase = .running
    · rw [if_pos hphase]
      exact h.clear fun _ => rfl
    · rw [if_neg hphase]
      exact h.quiet (fun _ => ⟨rfl, rfl⟩) rfl fun _ => rfl
  | ingest p => exact h.ingest hsound rfl
  | ingestBytes encoding bs =>
    rw [Service.perform, Service.ingestBytes]
    by_cases hphase : s.phase = .running
    · rw [if_pos hphase]
      cases hdecode : Wire.Form.packet.decode encoding bs with
      | ok p =>
        refine h.ingest hsound ?_
        rw [ServiceCall.packet?, hdecode]
        rfl
      | error error => exact h.quiet (fun _ => ⟨rfl, rfl⟩) rfl fun _ => rfl
    · rw [if_neg hphase]
      exact h.quiet (fun _ => ⟨rfl, rfl⟩) rfl fun _ => rfl
  | request r => exact hqueried (fun _ => ⟨rfl, rfl⟩) (.handleRequest s r)
  | message encoding bs => exact hqueried (fun _ => ⟨rfl, rfl⟩) (.handleMessage s encoding bs)
  | refuse identifier code reason encoding =>
    exact hqueried (fun _ => ⟨rfl, rfl⟩) (.refuse s identifier code reason encoding)
  | stats => exact hqueried (fun _ => ⟨rfl, rfl⟩) .refl

/-- All calls, one after another. -/
theorem run {s : Service} (h : Remembers capacity past s.store) (hsound : Sound config s)
    (calls : List ServiceCall) :
    Remembers capacity (past ++ (s.run calls).1) (s.run calls).2.store := by
  induction calls generalizing s past with
  | nil =>
    show Remembers capacity (past ++ []) s.store
    rw [List.append_nil]
    exact h
  | cons call calls ih =>
    have hrest := ih (h.perform hsound call) (hsound.perform call)
    rw [List.append_assoc] at hrest
    exact hrest

end Remembers

/-! ## Answers -/

namespace Service

/-- A running service answers from the window of the channel. -/
theorem handleRequest_sensor {s : Service} (hrunning : s.phase = .running) {r : SensorRequest}
    (hrange : r.start ≤ r.finish) :
    (s.handleRequest (.sensor r)).1 = .sensor (
      match s.store.window? r.channel with
      | none => ⟨r.identifier, r.channel, [], .unknownChannel⟩
      | some w => ⟨r.identifier, r.channel, w.query r.start r.finish, .success⟩) := by
  have hfound : (s.store.query r.channel r.start r.finish).1 =
      (s.store.window? r.channel).map fun w => w.query r.start r.finish :=
    s.store.visit_fst r.channel _
  have hanswer : (s.answerSensor r).1 =
      ⟨r.identifier, r.channel, (s.store.query r.channel r.start r.finish).1.getD [],
        if (s.store.query r.channel r.start r.finish).1.isSome then .success
        else .unknownChannel⟩ := by
    rw [answerSensor, if_neg (Int64.not_lt.mpr hrange)]
    rfl
  rw [handleRequest, if_pos hrunning]
  show Response.sensor (s.answerSensor r).1 = _
  rw [hanswer, hfound]
  cases s.store.window? r.channel <;> rfl

/-- After any calls, a running service answers a query from the packets that were delivered since
the channel was last given up.  Without any, the channel is unknown; else the answer has, in
ascending order, those of the newest that overlap the stretch of time. -/
theorem handleRequest_sensor_run {config : CacheConfig} {counting : Bool} {s : Service}
    (hcreate : create config counting = .ok s) (calls : List ServiceCall)
    (hrunning : (s.run calls).2.phase = .running) (r : SensorRequest)
    (hrange : r.start ≤ r.finish) :
    let ps := delivered r.channel (s.run calls).1
    let kept := newest config.maxPackets.toNat ps
    let found := kept.filter fun p => p.overlaps r.start r.finish
    ((s.run calls).2.handleRequest (.sensor r)).1 = .sensor (
        if ps = [] then ⟨r.identifier, r.channel, [], .unknownChannel⟩
        else ⟨r.identifier, r.channel, found, .success⟩) ∧
      Ascending found ∧ kept.length = min config.maxPackets.toNat (starts ps).length := by
  intro ps kept found
  refine ⟨?_, ?_, length_newest _ ps⟩
  · have hremembers := (Remembers.create hcreate).run (.create hcreate) calls
    rw [List.nil_append] at hremembers
    rw [handleRequest_sensor hrunning hrange]
    have hholds : Holds config.maxPackets.toNat ps ((s.run calls).2.store.window? r.channel) :=
      hremembers.holds r.channel
    generalize (s.run calls).2.store.window? r.channel = content at hholds ⊢
    cases hholds with
    | nothing hnone => rw [if_pos hnone]
    | @window w hsome _ hretains =>
      have hquery : w.query r.start r.finish = found := by
        rw [Window.query_eq_filter hretains.ascending hrange, hretains.eq_newest]
      rw [if_neg hsome, ← hquery]
  · exact (ascending_newest config.maxPackets.toNat ps).sublist (List.filter_sublist.map _)

/-- A second channel takes the only place, and the first comes back with a late packet. -/
theorem handleRequest_sensor_run_evicted :
    let key (station : String) : ChannelKey := ⟨"IU", station, "BHZ", "00"⟩
    let pulse (station : String) (start : Micros) : Packet := .pulse (key station) start ⟨0⟩ rfl
    let config : CacheConfig := { CacheConfig.standard with maxPackets := 1, maxChannels := 1 }
    let s : Service := ⟨config, .empty 1 1, .stopped, none⟩
    let calls : List ServiceCall :=
      [.start, .ingest (pulse "ANMO" 5), .ingest (pulse "COLA" 4), .ingest (pulse "ANMO" 3),
        .ingest (pulse "ANMO" 1)]
    let r : SensorRequest := ⟨7, key "ANMO", 0, 9⟩
    create config false = .ok s ∧ (s.run calls).2.phase = .running ∧ r.start ≤ r.finish ∧
      delivered r.channel (s.run calls).1 = [pulse "ANMO" 3, pulse "ANMO" 1] ∧
      ((s.run calls).2.handleRequest (.sensor r)).1 =
        .sensor ⟨7, key "ANMO", [pulse "ANMO" 3], .success⟩ ∧
      (newest 1 [pulse "ANMO" 3, pulse "ANMO" 1]).filter (fun p => p.overlaps 0 9) =
        [pulse "ANMO" 3] := by
  intro key pulse config s calls r
  have hcreate : create config false = .ok s := rfl
  have hrunning : (s.run calls).2.phase = .running := by decide +kernel
  have hrange : r.start ≤ r.finish := by decide
  have hdelivered : delivered r.channel (s.run calls).1 = [pulse "ANMO" 3, pulse "ANMO" 1] := by
    decide +kernel
  have hanswer : ((s.run calls).2.handleRequest (.sensor r)).1 =
      .sensor ⟨7, key "ANMO", [pulse "ANMO" 3], .success⟩ := by
    decide +kernel
  refine ⟨hcreate, hrunning, hrange, hdelivered, hanswer, ?_⟩
  obtain ⟨hnewest, _, _⟩ := handleRequest_sensor_run hcreate calls hrunning r hrange
  rw [hanswer, hdelivered, if_neg (List.cons_ne_nil _ _)] at hnewest
  exact (congrArg SensorResponse.packets (Response.sensor.inj hnewest)).symm

end Service

end WaveCache
