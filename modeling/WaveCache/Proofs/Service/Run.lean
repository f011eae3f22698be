import WaveCache.Proofs.ChannelStore.Windows
import WaveCache.Service.Answer
import WaveCache.Service.Ingest

/-!
# Runs of a service

`ServiceCall` and `ServiceReply` are the calls of a service and what comes back from them, and an
event is a call with its reply.  `Service.run` makes calls one after another and writes down the
events.

Most calls do nothing to a service but query it and count.  `Queried` says so, and its lemmas named
after the operations say of which of them it holds.  Queries change no window: `Agree` says that two
services have the same configuration, phase and windows.
-/

namespace WaveCache

/-- A configuration that is accepted leaves room for a channel and for a packet. -/
theorem CacheConfig.pos_of_fault?_eq_none {config : CacheConfig} (h : config.fault? = none) :
    0 < config.maxChannels.toNat ∧ 0 < config.maxPackets.toNat := by
  rw [fault?] at h
  split_ifs at h with hpackets hchannels
  rw [← UInt64.toNat_inj] at hpackets hchannels
  exact ⟨Nat.pos_of_ne_zero hchannels, Nat.pos_of_ne_zero hpackets⟩

/-- A call of a service. -/
inductive ServiceCall where
  | start
  | stop
  | ingest (p : Packet)
  | ingestBytes (encoding : Encoding) (bs : List UInt8)
  | request (r : Request)
  | message (encoding : Encoding) (bs : List UInt8)
  | refuse (identifier : UInt64) (code : ReturnCode) (reason : String) (encoding : Encoding)
  | stats

/-- What comes back from a call. -/
inductive ServiceReply where
  | done (result : Except CacheError Unit)
  | ingested (result : Except CacheError IngestReport)
  | answered (response : Response)
  | bytes (bs : List UInt8)
  | stats (stats : ServiceStats)

/-- A call that was made, and its reply. -/
structure ServiceEvent where
  call : ServiceCall
  reply : ServiceReply

/-- The counters after the store has looked at a packet. -/
def Metrics.added (m : Metrics) (added : AddReport) : Metrics :=
  { m with
    packetsIngested := m.packetsIngested + (if added.insert = .inserted then 1 else 0) +
      if added.insert.evicts then 1 else 0
    packetsReplaced := m.packetsReplaced + if added.insert = .replaced then 1 else 0
    packetsEvicted := m.packetsEvicted + if added.insert.evicts then 1 else 0
    packetsTooOld := m.packetsTooOld + if added.insert.isStored then 0 else 1
    channelsCreated := m.channelsCreated + if added.created then 1 else 0
    channelsEvicted := m.channelsEvicted + if added.evicted.isSome then 1 else 0 }

namespace Service

/-- Makes a call. -/
def perform (s : Service) : ServiceCall → ServiceReply × Service
  | .start =>
    let (result, s) := s.start
    (.done result, s)
  | .stop =>
    let (result, s) := s.stop
    (.done result, s)
  | .ingest p =>
    let (result, s) := s.ingest p
    (.ingested result, s)
  | .ingestBytes encoding bs =>
    let (result, s) := s.ingestBytes encoding bs
    (.ingested result, s)
  | .request r =>
    let (response, s) := s.handleRequest r
    (.answered response, s)
  | .message encoding bs =>
    let (reply, s) := s.handleMessage encoding bs
    (.bytes reply, s)
  | .refuse identifier code reason encoding =>
    let (reply, s) := s.refuse identifier code reason encoding
    (.bytes reply, s)
  | .stats => (.stats s.stats, s)

/-- Makes calls one after another. -/
def run (s : Service) : List ServiceCall → List ServiceEvent × Service
  | [] => ([], s)
  | call :: calls =>
    let (reply, s) := s.perform call
    let (events, s) := s.run calls
    (⟨call, reply⟩ :: events, s)

/-! ## Creating, starting and stopping -/

theorem create_eq_ok {config : CacheConfig} {counting : Bool} {s : Service}
    (h : create config counting = .ok s) :
    config.fault? = none ∧ s = {
      config
      store := .empty config.maxChannels.toNat config.maxPackets.toNat
      phase := .stopped
      metrics := if counting then some .zero else none } := by
  rw [create] at h
  cases hfault : config.fault? with
  | some fault =>
    rw [hfault] at h
    cases h
  | none =>
    rw [hfault] at h
    exact ⟨rfl, (Except.ok.inj h).symm⟩

theorem advance_of_ne {s : Service} {source : Phase} (h : s.phase ≠ source) (target : Phase) :
    s.advance source target = (.error (.invalidTransition s.phase target), s) := by
  rw [advance, if_neg fun hphase => h hphase.1]

theorem start_eq (s : Service) :
    s.start = if s.phase = .stopped then (.ok (), { s with phase := .running })
      else (.error (.invalidTransition s.phase .starting), s) := by
  unfold start
  by_cases hphase : s.phase = .stopped
  · rw [if_pos hphase, advance, if_pos ⟨hphase, rfl⟩]
    rfl
  · rw [if_neg hphase, advance_of_ne hphase]

theorem stop_eq (s : Service) :
    s.stop = if s.phase = .running then
        (.ok (), { s with phase := .stopped, store := s.store.clear })
      else (.error (.invalidTransition s.phase .stopping), s) := by
  unfold stop
  by_cases hphase : s.phase = .running
  · rw [if_pos hphase, advance, if_pos ⟨hphase, rfl⟩]
    rfl
  · rw [if_neg hphase, advance_of_ne hphase]

theorem perform_start (s : Service) : s.perform .start =
    if s.phase = .stopped then (.done (.ok ()), { s with phase := .running })
    else (.done (.error (.invalidTransition s.phase .starting)), s) := by
  rw [perform, start_eq]
  by_cases hphase : s.phase = .stopped
  · rw [if_pos hphase, if_pos hphase]
  · rw [if_neg hphase, if_neg hphase]

theorem perform_stop (s : Service) : s.perform .stop =
    if s.phase = .running then
      (.done (.ok ()), { s with phase := .stopped, store := s.store.clear })
    else (.done (.error (.invalidTransition s.phase .stopping)), s) := by
  rw [perform, stop_eq]
  by_cases hphase : s.phase = .running
  · rw [if_pos hphase, if_pos hphase]
  · rw [if_neg hphase, if_neg hphase]

/-- A start that fails changes nothing, since only its first step can fail. -/
theorem start_of_error {s : Service} {error : CacheError} (h : s.start.1 = .error error) :
    s.start.2 = s := by
  rw [start_eq] at h ⊢
  split at h
  · cases h
  · next hphase => rw [if_neg hphase]

theorem stop_of_error {s : Service} {error : CacheError} (h : s.stop.1 = .error error) :
    s.stop.2 = s := by
  rw [stop_eq] at h ⊢
  split at h
  · cases h
  · next hphase => rw [if_neg hphase]

/-! ## Packets -/

/-- A packet is refused for its channel, or the store looks at it, or the call does not return. -/
theorem accept_cases (s : Service) (p : Packet) :
    (∃ fault, s.config.rules.fault? p.channel = some fault ∧
      s.accept p = (.error (.invalidChannel fault), s.count Metrics.packetRejected)) ∨
    (s.config.rules.fault? p.channel = none ∧ ∃ added, (s.store.add p).1 = some added ∧
      s.accept p = (s.report p added, { s with store := (s.store.add p).2 }.countAdded added)) ∨
    (s.config.rules.fault? p.channel = none ∧ (s.store.add p).1 = none ∧
      s.accept p = (.error .overflow, { s with store := (s.store.add p).2 })) := by
  unfold accept
  cases hfault : s.config.rules.fault? p.channel with
  | some fault => exact .inl ⟨fault, rfl, rfl⟩
  | none =>
    right
    obtain ⟨report, store⟩ := s.store.add p
    cases report with
    | some added => exact .inl ⟨rfl, added, rfl, rfl⟩
    | none => exact .inr ⟨rfl, rfl, rfl⟩

/-- What is answered for a packet that the store looks at. -/
theorem accept_fst {s : Service} {p : Packet} (hfault : s.config.rules.fault? p.channel = none) :
    (s.accept p).1 = match (s.store.add p).1 with
      | some added => s.report p added
      | none => .error .overflow := by
  rw [accept, hfault]
  obtain ⟨added, store⟩ := s.store.add p
  cases added <;> rfl

/-- A running service counts the code of its answer. -/
theorem handleRequest_of_running {s : Service} (hrunning : s.phase = .running) (r : Request) :
    s.handleRequest r =
      ((s.answer r).1, (s.answer r).2.count (·.requestFailed (s.answer r).1.code)) := by
  rw [handleRequest, if_pos hrunning]

/-! ## Counting -/

/-- Nothing happens if there are no counters, or if they stay as they are. -/
theorem count_eq_self (s : Service) {change : Metrics → Metrics} (h : ∀ m, change m = m) :
    s.count change = s := by
  obtain ⟨config, store, phase, metrics⟩ := s
  cases metrics with
  | none => rfl
  | some m => rw [count, Option.map_some, h]

/-- Counting what became of a packet changes each counter once at most. -/
theorem countAdded_eq_count (s : Service) (added : AddReport) :
    s.countAdded added = s.count (·.added added) := by
  obtain ⟨insert, created, evicted⟩ := added
  obtain ⟨config, store, phase, metrics⟩ := s
  unfold countAdded count Metrics.added
  cases metrics with
  | none => cases created <;> cases evicted <;> cases insert <;> rfl
  | some m =>
    cases created <;> cases evicted <;> cases insert <;>
      simp [Metrics.channelCreated, Metrics.channelEvicted, Metrics.packetStored,
        Metrics.packetReplaced, Metrics.packetTooOld, InsertOutcome.isStored, InsertOutcome.evicts]

/-- What became of a packet changes the counters and nothing else. -/
theorem countAdded_eq (s : Service) (added : AddReport) :
    ∃ metrics, s.countAdded added = { s with metrics } :=
  ⟨_, s.countAdded_eq_count added⟩

end Service

/-! ## Queries -/

/-- A service after queries and counting. -/
inductive Queried (s : Service) : Service → Prop where
  | refl : Queried s s
  | count {t : Service} (h : Queried s t) (change : Metrics → Metrics) : Queried s (t.count change)
  | query {t : Service} (h : Queried s t) (key : ChannelKey) (t₀ t₁ : Micros) :
      Queried s { t with store := (t.store.query key t₀ t₁).2 }

namespace Queried

variable {s t u : Service}

theorem trans (h : Queried s t) (h' : Queried t u) : Queried s u := by
  induction h' with
  | refl => exact h
  | count _ change ih => exact ih.count change
  | query _ key t₀ t₁ ih => exact ih.query key t₀ t₁

theorem lookup (s : Service) (key : ChannelKey) (t₀ t₁ : Micros) :
    Queried s (s.lookup key t₀ t₁).2 :=
  (refl.query key t₀ t₁).count _

theorem answerSensor (s : Service) (r : SensorRequest) : Queried s (s.answerSensor r).2 := by
  rw [Service.answerSensor]
  split
  · exact refl
  · exact lookup s _ _ _

theorem answerData (s : Service) (r : DataRequest) : Queried s (s.answerData r).2 := by
  rw [Service.answerData]
  split
  · exact refl
  · split
    · exact refl
    · exact lookup s _ _ _

theorem answerAll (s : Service) (rs : List SensorRequest) : Queried s (s.answerAll rs).2 := by
  induction rs generalizing s with
  | nil => exact refl
  | cons r rs ih => exact (answerSensor s r).trans (ih _)

theorem answer (s : Service) (r : Request) : Queried s (s.answer r).2 := by
  cases r with
  | sensor r => exact answerSensor s r
  | data r => exact answerData s r
  | bulk r => exact answerAll s r.requests
  | channelList r => exact refl

theorem handleRequest (s : Service) (r : Request) : Queried s (s.handleRequest r).2 := by
  unfold Service.handleRequest
  by_cases hphase : s.phase = .running
  · rw [if_pos hphase]
    exact (answer s r).count _
  · rw [if_neg hphase]
    exact refl.count _

theorem encodeResponse (s : Service) (response : Response) (encoding : Encoding) :
    Queried s (s.encodeResponse response encoding).2 := by
  rw [Service.encodeResponse]
  split
  · exact refl
  · exact refl.count _

theorem handleMessage (s : Service) (encoding : Encoding) (bs : List UInt8) :
    Queried s (s.handleMessage encoding bs).2 := by
  rw [Service.handleMessage]
  split
  · exact (handleRequest s _).trans (encodeResponse _ _ encoding)
  · exact (refl.count _).trans (encodeResponse _ _ encoding)

theorem refuse (s : Service) (identifier : UInt64) (code : ReturnCode) (reason : String)
    (encoding : Encoding) : Queried s (s.refuse identifier code reason encoding).2 :=
  (refl.count _).trans (encodeResponse _ _ encoding)

end Queried

/-! ## Services that hold the same -/

/-- Two services with the same configuration, phase and windows. -/
structure Agree (s t : Service) : Prop where
  config : t.config = s.config
  phase : t.phase = s.phase
  maxPackets : t.store.maxPackets = s.store.maxPackets
  window? : ∀ k, t.store.window? k = s.store.window? k

/-- Queries change no window. -/
theorem Queried.agree {s t : Service} (h : Queried s t) : Agree s t := by
  induction h with
  | refl => exact ⟨rfl, rfl, rfl, fun _ => rfl⟩
  | count _ change ih => exact ⟨ih.config, ih.phase, ih.maxPackets, ih.window?⟩
  | @query t _ key t₀ t₁ ih =>
    refine ⟨ih.config, ih.phase, ?_, fun k => ?_⟩
    · exact (t.store.maxPackets_visit key _).trans ih.maxPackets
    · exact (t.store.window?_visit key k _).trans (ih.window? k)

end WaveCache
