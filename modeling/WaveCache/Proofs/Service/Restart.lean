import WaveCache.Proofs.Service.Invariant
import WaveCache.Proofs.Service.StoreCalls

/-!
# A service that was stopped is as good as new

A stopped service has no channels, but its clock is where the last touch left it, and its counters
are where they were.  Neither shows in what it replies.  `Twins` are two services with the same
configuration, the same phase and alike stores: they reply alike to every call, and stay twins.

A request is answered from the windows and the list of channels alone, which is why the lemmas about
answers ask for these only.  A packet needs more, since the channel that is given up for it depends
on the order of recency.
-/

namespace WaveCache

namespace Service

variable {s t : Service}

/-! ## Answers from the same windows -/

theorem lookup_congr (hwindow : ∀ key, s.store.window? key = t.store.window? key)
    (key : ChannelKey) (t₀ t₁ : Micros) : (s.lookup key t₀ t₁).1 = (t.lookup key t₀ t₁).1 := by
  have hfound : (s.store.query key t₀ t₁).1 = (t.store.query key t₀ t₁).1 := by
    unfold ChannelStore.query
    rw [ChannelStore.visit_fst, ChannelStore.visit_fst, hwindow]
  unfold lookup
  simp only [hfound]

theorem answerSensor_congr (hwindow : ∀ key, s.store.window? key = t.store.window? key)
    (r : SensorRequest) : (s.answerSensor r).1 = (t.answerSensor r).1 := by
  have hlookup := lookup_congr hwindow r.channel r.start r.finish
  unfold answerSensor
  split
  · rfl
  · simp only [hlookup]

theorem answerData_congr (hwindow : ∀ key, s.store.window? key = t.store.window? key)
    (r : DataRequest) : (s.answerData r).1 = (t.answerData r).1 := by
  unfold answerData
  split
  · rfl
  · cases ChannelKey.ofDotted? r.name with
    | none => rfl
    | some key =>
      have hlookup := lookup_congr hwindow key r.start r.finish
      simp only [hlookup]

/-- The first answers change no window, so that the others find the same windows as well. -/
theorem answerAll_congr (hwindow : ∀ key, s.store.window? key = t.store.window? key)
    (rs : List SensorRequest) : (s.answerAll rs).1 = (t.answerAll rs).1 := by
  induction rs generalizing s t with
  | nil => rfl
  | cons r rs ih =>
    have hnext : ∀ key, (s.answerSensor r).2.store.window? key =
        (t.answerSensor r).2.store.window? key := by
      intro key
      rw [(Queried.answerSensor s r).agree.window?, (Queried.answerSensor t r).agree.window?,
        hwindow]
    exact congrArg₂ List.cons (answerSensor_congr hwindow r) (ih hnext)

theorem answer_congr (hwindow : ∀ key, s.store.window? key = t.store.window? key)
    (hchannels : s.store.channels = t.store.channels) (r : Request) :
    (s.answer r).1 = (t.answer r).1 := by
  cases r with
  | sensor r => exact congrArg Response.sensor (answerSensor_congr hwindow r)
  | data r => exact congrArg Response.data (answerData_congr hwindow r)
  | bulk r =>
    exact congrArg (fun responses => Response.bulk ⟨r.identifier, responses, .success⟩)
      (answerAll_congr hwindow r.requests)
  | channelList r =>
    exact congrArg (fun channels => Response.channelList ⟨r.identifier, channels, .success⟩)
      hchannels

theorem handleRequest_congr (hphase : s.phase = t.phase)
    (hwindow : ∀ key, s.store.window? key = t.store.window? key)
    (hchannels : s.store.channels = t.store.channels) (r : Request) :
    (s.handleRequest r).1 = (t.handleRequest r).1 := by
  unfold handleRequest
  by_cases hrunning : s.phase = .running
  · rw [if_pos hrunning, if_pos (hphase ▸ hrunning)]
    exact answer_congr hwindow hchannels r
  · rw [if_neg hrunning, if_neg (hphase ▸ hrunning), hphase]

theorem encodeResponse_congr (s t : Service) (response : Response) (encoding : Encoding) :
    (s.encodeResponse response encoding).1 = (t.encodeResponse response encoding).1 := by
  unfold encodeResponse
  split
  · rfl
  · rfl

/-! ## Phases -/

/-- A call leaves the configuration as it is, and only a start or a stop changes the phase. -/
theorem perform_phase (s : Service) (call : ServiceCall) :
    (s.perform call).2.config = s.config ∧ (s.perform call).2.phase =
      match call with
      | .start => if s.phase = .stopped then .running else s.phase
      | .stop => if s.phase = .running then .stopped else s.phase
      | _ => s.phase := by
  have hqueried : ∀ {u : Service}, Queried s u → u.config = s.config ∧ u.phase = s.phase :=
    fun h => ⟨h.agree.config, h.agree.phase⟩
  have hingest : ∀ p, (s.ingest p).2.config = s.config ∧ (s.ingest p).2.phase = s.phase := by
    intro p
    obtain ⟨metrics, heq⟩ := s.exists_ingest_eq p
    rw [heq]
    exact ⟨rfl, rfl⟩
  cases call with
  | start =>
    rw [s.perform_start]
    split
    · exact ⟨rfl, rfl⟩
    · exact ⟨rfl, rfl⟩
  | stop =>
    rw [s.perform_stop]
    split
    · exact ⟨rfl, rfl⟩
    · exact ⟨rfl, rfl⟩
  | ingest p => exact hingest p
  | ingestBytes encoding bs =>
    rw [perform, ingestBytes]
    by_cases hphase : s.phase = .running
    · rw [if_pos hphase]
      cases Wire.Form.packet.decode encoding bs with
      | ok p => exact hingest p
      | error error => exact ⟨rfl, rfl⟩
    · rw [if_neg hphase]
      exact ⟨rfl, rfl⟩
  | request r => exact hqueried (.handleRequest s r)
  | message encoding bs => exact hqueried (.handleMessage s encoding bs)
  | refuse identifier code reason encoding =>
    exact hqueried (.refuse s identifier code reason encoding)
  | stats => exact ⟨rfl, rfl⟩

end Service

/-! ## Twins -/

/-- Two services that cannot be told apart by calls. -/
structure Twins (s t : Service) : Prop where
  config : s.config = t.config
  phase : s.phase = t.phase
  alike : s.store.Alike t.store

namespace Twins

variable {s t : Service}

theorem storeCalls_eq (h : Twins s t) (call : ServiceCall) :
    s.storeCalls call = t.storeCalls call := by
  unfold Service.storeCalls Service.ingestCalls Service.requestCalls
  rw [h.config, h.phase]

theorem ingest_eq (h : Twins s t) {p : Packet} (hsteady : s.store.Steady (s.ingestCalls p)) :
    (s.ingest p).1 = (t.ingest p).1 := by
  unfold Service.ingest
  rw [← h.phase]
  by_cases hphase : s.phase = .running
  · rw [if_pos hphase, if_pos hphase]
    cases hfault : s.config.rules.fault? p.channel with
    | some fault => rw [Service.accept, Service.accept, ← h.config, hfault]
    | none =>
      rw [Service.ingestCalls, if_pos ⟨hphase, hfault⟩] at hsteady
      have hadded : (s.store.add p).1 = (t.store.add p).1 :=
        StoreAnswer.added.inj (h.alike.perform (.add p) hsteady.1).1
      rw [Service.accept_fst hfault, Service.accept_fst (h.config ▸ hfault), hadded]
      unfold Service.report
      rw [h.config]
  · rw [if_neg hphase, if_neg hphase]

/-- Twins reply alike, whatever the call. -/
theorem reply_eq (h : Twins s t) {call : ServiceCall}
    (hsteady : s.store.Steady (s.storeCalls call)) :
    (s.perform call).1 = (t.perform call).1 := by
  have hrequest := Service.handleRequest_congr h.phase h.alike.window?_eq h.alike.channels_eq
  cases call with
  | start =>
    rw [s.perform_start, t.perform_start, h.phase]
    split
    · rfl
    · rfl
  | stop =>
    rw [s.perform_stop, t.perform_stop, h.phase]
    split
    · rfl
    · rfl
  | ingest p => exact congrArg ServiceReply.ingested (h.ingest_eq hsteady)
  | ingestBytes encoding bs =>
    rw [Service.storeCalls] at hsteady
    rw [Service.perform, Service.perform, Service.ingestBytes, Service.ingestBytes, ← h.phase]
    by_cases hphase : s.phase = .running
    · rw [if_pos hphase, if_pos hphase]
      cases hdecode : Wire.Form.packet.decode encoding bs with
      | ok p =>
        rw [hdecode] at hsteady
        exact congrArg ServiceReply.ingested (h.ingest_eq hsteady)
      | error error => rfl
    · rw [if_neg hphase, if_neg hphase]
  | request r => exact congrArg ServiceReply.answered (hrequest r)
  | message encoding bs =>
    rw [Service.perform, Service.perform, Service.handleMessage, Service.handleMessage]
    cases Wire.Form.request.decode encoding bs with
    | ok r =>
      show ServiceReply.bytes
          ((s.handleRequest r).2.encodeResponse (s.handleRequest r).1 encoding).1 =
        .bytes ((t.handleRequest r).2.encodeResponse (t.handleRequest r).1 encoding).1
      rw [hrequest r]
      exact congrArg ServiceReply.bytes (Service.encodeResponse_congr _ _ _ encoding)
    | error error => exact congrArg ServiceReply.bytes (Service.encodeResponse_congr _ _ _ encoding)
  | refuse identifier code reason encoding =>
    exact congrArg ServiceReply.bytes (Service.encodeResponse_congr _ _ _ encoding)
  | stats =>
    refine congrArg ServiceReply.stats ?_
    unfold Service.stats
    rw [h.phase, h.alike.size_eq, h.alike.totalPackets_eq, h.alike.maxChannels_eq,
      h.alike.maxPackets_eq]

/-- Twins stay twins. -/
theorem perform (h : Twins s t) {call : ServiceCall}
    (hsteady : s.store.Steady (s.storeCalls call)) :
    Twins (s.perform call).2 (t.perform call).2 := by
  obtain ⟨hconfig, hphase⟩ := s.perform_phase call
  obtain ⟨hconfig', hphase'⟩ := t.perform_phase call
  refine ⟨?_, ?_, ?_⟩
  · rw [hconfig, hconfig', h.config]
  · rw [hphase, hphase', h.phase]
  · rw [s.store_perform, t.store_perform, ← h.storeCalls_eq]
    exact h.alike.after hsteady

/-- By induction on the calls, the replies are the same, and the services are twins in the end. -/
theorem run (h : Twins s t) {calls : List ServiceCall} (hsteady : s.Steady calls) :
    (s.run calls).1 = (t.run calls).1 ∧ Twins (s.run calls).2 (t.run calls).2 := by
  induction calls generalizing s t with
  | nil => exact ⟨rfl, h⟩
  | cons call calls ih =>
    obtain ⟨hevents, htwins⟩ := ih (h.perform hsteady.1) hsteady.2
    refine ⟨?_, htwins⟩
    rw [Service.run_cons, Service.run_cons, h.reply_eq hsteady.1, hevents]

/-- A service that was stopped after any calls, and a new one. -/
theorem of_stopped {config : CacheConfig} {counting counting' : Bool}
    (hs : Service.create config counting = .ok s) (ht : Service.create config counting' = .ok t)
    {calls : List ServiceCall} (hstopped : (s.run calls).2.phase = .stopped) :
    Twins (s.run calls).2 t := by
  have hsound : Sound config (s.run calls).2 := (Sound.create hs).run calls
  have hsound' : Sound config t := .create ht
  obtain ⟨_, rfl⟩ := Service.create_eq_ok ht
  refine ⟨hsound.config_eq, hstopped, .of_slots_eq_nil (hsound.slots_eq_nil hstopped) rfl ?_ ?_ ?_⟩
  · exact hsound'.maxChannels_eq.trans hsound.maxChannels_eq.symm
  · exact hsound'.maxPackets_eq.trans hsound.maxPackets_eq.symm
  · exact UInt64.zero_le

end Twins

/-! ## Restarts -/

namespace Service

/-- After calls that leave a service stopped, further calls have the replies that they would have
from a new service of the same configuration, whether or not either counts.  In the end the two hold
the same channels, windows and order of recency, in the same phase.  The clock must not start over
meanwhile. -/
theorem run_stopped {config : CacheConfig} {counting counting' : Bool} {s t : Service}
    (hs : create config counting = .ok s) (ht : create config counting' = .ok t)
    (history calls : List ServiceCall) (hstopped : (s.run history).2.phase = .stopped)
    (hsteady : s.Steady (history ++ calls)) :
    let restarted := (s.run history).2.run calls
    let fresh := t.run calls
    restarted.1 = fresh.1 ∧ restarted.2.config = fresh.2.config ∧
      restarted.2.phase = fresh.2.phase ∧
      restarted.2.store.channels = fresh.2.store.channels ∧
      (∀ key, restarted.2.store.window? key = fresh.2.store.window? key) ∧
      restarted.2.store.recency = fresh.2.store.recency := by
  intro restarted fresh
  obtain ⟨hevents, htwins⟩ := (Twins.of_stopped hs ht hstopped).run (steady_append.mp hsteady).2
  exact ⟨hevents, htwins.config, htwins.phase, htwins.alike.channels_eq, htwins.alike.window?_eq,
    htwins.alike.recency_eq⟩

/-- Stopped with two channels and a clock that went on, after which a query saves the older of two
new channels. -/
theorem run_stopped_evicting :
    let key (station : String) : ChannelKey := ⟨"IU", station, "BHZ", "00"⟩
    let pulse (station : String) (start : Micros) : Packet := .pulse (key station) start ⟨0⟩ rfl
    let look (station : String) : ServiceCall := .request (.sensor ⟨7, key station, 0, 9⟩)
    let config : CacheConfig := { CacheConfig.standard with maxPackets := 2, maxChannels := 2 }
    let s : Service := ⟨config, .empty 2 2, .stopped, some .zero⟩
    let t : Service := ⟨config, .empty 2 2, .stopped, none⟩
    let history : List ServiceCall :=
      [.start, .ingest (pulse "ANMO" 5), .ingest (pulse "COLA" 4), look "ANMO", .stop]
    let calls : List ServiceCall :=
      [.start, .ingest (pulse "MAJO" 1), .ingest (pulse "ANMO" 2), look "MAJO",
        .ingest (pulse "COLA" 3), .stats]
    create config true = .ok s ∧ create config false = .ok t ∧
      (s.run history).2.phase = .stopped ∧ s.Steady (history ++ calls) ∧
      (s.run history).2.store.clock = 5 ∧
      ((s.run history).2.run calls).1 = (t.run calls).1 ∧
      ((s.run history).2.run calls).2.store.recency = [key "COLA", key "MAJO"] := by
  intro key pulse look config s t history calls
  have hs : create config true = .ok s := rfl
  have ht : create config false = .ok t := rfl
  have hstopped : (s.run history).2.phase = .stopped := by decide +kernel
  have hsteady : s.Steady (history ++ calls) := by decide +kernel
  have hfresh : (t.run calls).2.store.recency = [key "COLA", key "MAJO"] := by decide +kernel
  obtain ⟨hevents, _, _, _, _, hrecency⟩ := run_stopped hs ht history calls hstopped hsteady
  exact ⟨hs, ht, hstopped, hsteady, by decide +kernel, hevents, hrecency.trans hfresh⟩

end Service

end WaveCache
