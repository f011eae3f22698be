import WaveCache.Proofs.ChannelStore.Alike
import WaveCache.Proofs.Service.Run

/-!
# What a service asks of its store

A call of a service makes calls of its store, and which ones depends on the configuration, the phase
and the call alone, not on what is in the store.  `Service.storeCalls` lists them, and
`store_perform` says that nothing else happens to the store.

So the clock of a store can be spoken of call by call: a run of a service is `Steady` if none of its
store calls makes the clock start over.
-/

namespace WaveCache

/-! ## Store calls -/

/-- The query that a request makes, if there is a microsecond in its stretch of time. -/
def SensorRequest.storeCalls (r : SensorRequest) : List StoreCall :=
  if r.finish < r.start then [] else [.query r.channel r.start r.finish]

/-- As for a key, if the name is one. -/
def DataRequest.storeCalls (r : DataRequest) : List StoreCall :=
  if r.finish < r.start then []
  else
    match ChannelKey.ofDotted? r.name with
    | none => []
    | some key => [.query key r.start r.finish]

/-- The store calls that a running service makes for a request. -/
def Request.storeCalls : Request → List StoreCall
  | .sensor r => r.storeCalls
  | .data r => r.storeCalls
  | .bulk r => r.requests.flatMap SensorRequest.storeCalls
  | .channelList _ => [.channels]

namespace Service

/-- A packet gets to the store of a running service if its channel satisfies the rules. -/
def ingestCalls (s : Service) (p : Packet) : List StoreCall :=
  if s.phase = .running ∧ s.config.rules.fault? p.channel = none then [.add p] else []

/-- The store calls for a request. -/
def requestCalls (s : Service) (r : Request) : List StoreCall :=
  if s.phase = .running then r.storeCalls else []

/-- The store calls that a call makes. -/
def storeCalls (s : Service) : ServiceCall → List StoreCall
  | .start => []
  | .stop => if s.phase = .running then [.clear] else []
  | .ingest p => s.ingestCalls p
  | .ingestBytes encoding bs =>
    match Wire.Form.packet.decode encoding bs with
    | .ok p => s.ingestCalls p
    | .error _ => []
  | .request r => s.requestCalls r
  | .message encoding bs =>
    match Wire.Form.request.decode encoding bs with
    | .ok r => s.requestCalls r
    | .error _ => []
  | .refuse _ _ _ _ => []
  | .stats => [.size, .totalPackets]

/-- The clock of the store does not start over during the calls. -/
def Steady (s : Service) : List ServiceCall → Prop
  | [] => True
  | call :: calls => s.store.Steady (s.storeCalls call) ∧ (s.perform call).2.Steady calls

instance decidableSteady : (s : Service) → (calls : List ServiceCall) → Decidable (s.Steady calls)
  | _, [] => inferInstanceAs (Decidable True)
  | s, call :: calls =>
    have := decidableSteady (s.perform call).2 calls
    inferInstanceAs (Decidable (_ ∧ _))

/-! ## Requests -/

theorem store_answerSensor (s : Service) (r : SensorRequest) :
    (s.answerSensor r).2.store = s.store.after r.storeCalls := by
  unfold answerSensor SensorRequest.storeCalls
  split
  · rfl
  · rfl

theorem store_answerData (s : Service) (r : DataRequest) :
    (s.answerData r).2.store = s.store.after r.storeCalls := by
  unfold answerData DataRequest.storeCalls
  split
  · rfl
  · cases ChannelKey.ofDotted? r.name with
    | none => rfl
    | some key => rfl

theorem store_answerAll (s : Service) (rs : List SensorRequest) :
    (s.answerAll rs).2.store = s.store.after (rs.flatMap SensorRequest.storeCalls) := by
  induction rs generalizing s with
  | nil => rfl
  | cons r rs ih =>
    rw [List.flatMap_cons, ChannelStore.after_append, ← store_answerSensor]
    exact ih (s.answerSensor r).2

theorem store_answer (s : Service) (r : Request) :
    (s.answer r).2.store = s.store.after r.storeCalls := by
  cases r with
  | sensor r => exact s.store_answerSensor r
  | data r => exact s.store_answerData r
  | bulk r => exact s.store_answerAll r.requests
  | channelList r => rfl

theorem store_handleRequest (s : Service) (r : Request) :
    (s.handleRequest r).2.store = s.store.after (s.requestCalls r) := by
  unfold handleRequest requestCalls
  by_cases hphase : s.phase = .running
  · rw [if_pos hphase, if_pos hphase]
    exact s.store_answer r
  · rw [if_neg hphase, if_neg hphase]
    rfl

@[simp] theorem store_encodeResponse (s : Service) (response : Response) (encoding : Encoding) :
    (s.encodeResponse response encoding).2.store = s.store := by
  unfold encodeResponse
  split
  · rfl
  · rfl

/-! ## Packets -/

/-- A packet changes the counters besides the store, and nothing else. -/
theorem exists_ingest_eq (s : Service) (p : Packet) :
    ∃ metrics, (s.ingest p).2 = { s with store := s.store.after (s.ingestCalls p), metrics } := by
  unfold ingest ingestCalls
  by_cases hphase : s.phase = .running
  · rw [if_pos hphase]
    rcases s.accept_cases p with ⟨fault, hfault, haccept⟩ | ⟨hfault, added, _, haccept⟩ |
        ⟨hfault, _, haccept⟩
    · rw [haccept, hfault, if_neg (by simp)]
      exact ⟨_, rfl⟩
    · rw [haccept, hfault, if_pos ⟨hphase, rfl⟩]
      exact { s with store := (s.store.add p).2 }.countAdded_eq added
    · rw [haccept, hfault, if_pos ⟨hphase, rfl⟩]
      exact ⟨_, rfl⟩
  · rw [if_neg hphase, if_neg fun h => hphase h.1]
    exact ⟨_, rfl⟩

theorem store_ingest (s : Service) (p : Packet) :
    (s.ingest p).2.store = s.store.after (s.ingestCalls p) := by
  obtain ⟨metrics, heq⟩ := s.exists_ingest_eq p
  rw [heq]

theorem store_ingestBytes (s : Service) (encoding : Encoding) (bs : List UInt8) :
    (s.ingestBytes encoding bs).2.store =
      s.store.after (s.storeCalls (.ingestBytes encoding bs)) := by
  rw [ingestBytes, storeCalls]
  cases Wire.Form.packet.decode encoding bs with
  | error error =>
    split
    · rfl
    · rfl
  | ok p =>
    have hingest := s.store_ingest p
    by_cases hphase : s.phase = .running
    · rw [if_pos hphase]
      exact hingest
    · rw [ingest, if_neg hphase] at hingest
      rw [if_neg hphase]
      exact hingest

/-! ## Runs -/

/-- A call does to the store what its store calls do. -/
theorem store_perform (s : Service) (call : ServiceCall) :
    (s.perform call).2.store = s.store.after (s.storeCalls call) := by
  cases call with
  | start =>
    rw [s.perform_start]
    split
    · rfl
    · rfl
  | stop =>
    rw [s.perform_stop, storeCalls]
    split
    · rfl
    · rfl
  | ingest p => exact s.store_ingest p
  | ingestBytes encoding bs => exact s.store_ingestBytes encoding bs
  | request r => exact s.store_handleRequest r
  | message encoding bs =>
    rw [perform, handleMessage, storeCalls]
    cases Wire.Form.request.decode encoding bs with
    | error error => exact store_encodeResponse _ _ _
    | ok r => exact (store_encodeResponse _ _ _).trans (s.store_handleRequest r)
  | refuse identifier code reason encoding => exact store_encodeResponse _ _ _
  | stats => rfl

theorem run_cons (s : Service) (call : ServiceCall) (calls : List ServiceCall) :
    s.run (call :: calls) =
      (⟨call, (s.perform call).1⟩ :: ((s.perform call).2.run calls).1,
        ((s.perform call).2.run calls).2) :=
  rfl

theorem steady_append {s : Service} {front back : List ServiceCall} :
    s.Steady (front ++ back) ↔ s.Steady front ∧ (s.run front).2.Steady back := by
  induction front generalizing s with
  | nil => simp [Steady, run]
  | cons call front ih =>
    rw [List.cons_append, Steady, Steady, ih, and_assoc]
    rfl

/-- A new service has the store of any other new service. -/
theorem alike_create {config : CacheConfig} {counting : Bool} {s : Service}
    (h : create config counting = .ok s) : s.store.Alike s.store := by
  obtain ⟨_, rfl⟩ := create_eq_ok h
  exact .of_slots_eq_nil rfl rfl rfl rfl (UInt64.le_refl _)

end Service

/-- A store stays one that mirrors a recency list. -/
theorem ChannelStore.Alike.run {s : Service} (h : s.store.Alike s.store)
    {calls : List ServiceCall} (hsteady : s.Steady calls) :
    (s.run calls).2.store.Alike (s.run calls).2.store := by
  induction calls generalizing s with
  | nil => exact h
  | cons call calls ih =>
    have hnext : (s.perform call).2.store.Alike (s.perform call).2.store := by
      rw [s.store_perform call]
      exact h.after hsteady.1
    exact ih hnext hsteady.2

end WaveCache
