import WaveCache.Proofs.Service.Restart

/-!
# Bulk requests

A bulk request is answered as its parts are when they are sent one by one.  Looking into a window
changes none, so that each part has the answer that it would have had before all others
(`answerAll_fst`), and the store goes the same way from one part to the next.

What is left are the counters.  A part that fails counts as a failure when it is sent by itself and
not when it is in a bulk request.  Counting failures and counting queries do not get in each other's
way, so the two services differ by the failures of the parts and nothing else (`run_parts`).
-/

namespace WaveCache

/-! ## Counters -/

namespace Metrics

/-- The counters of failures, that of all failures first. -/
def failures (m : Metrics) : List UInt64 :=
  [m.requestsFailed, m.invalidRange, m.invalidMessage, m.notRunning, m.unauthorized,
    m.internalError]

/-- All counters but those of failures, which are set to zero. -/
def withoutFailures (m : Metrics) : Metrics :=
  { m with
    requestsFailed := 0
    invalidRange := 0
    invalidMessage := 0
    notRunning := 0
    unauthorized := 0
    internalError := 0 }

/-- Counts each of the responses that failed. -/
def partsFailed (m : Metrics) (responses : List SensorResponse) : Metrics :=
  responses.foldl (fun m response => m.requestFailed response.code) m

@[simp] theorem withoutFailures_requestFailed (m : Metrics) (code : ReturnCode) :
    (m.requestFailed code).withoutFailures = m.withoutFailures := by
  cases code <;> rfl

/-- It makes no difference whether the counters are changed before a query or after it. -/
def PassesQuery (change : Metrics → Metrics) : Prop :=
  ∀ m nanos known packets,
    (change m).query nanos known packets = change (m.query nanos known packets)

theorem passesQuery_requestFailed (code : ReturnCode) : PassesQuery (·.requestFailed code) := by
  intro m nanos known packets
  cases code <;> rfl

@[simp] theorem withoutFailures_partsFailed (m : Metrics) (responses : List SensorResponse) :
    (m.partsFailed responses).withoutFailures = m.withoutFailures := by
  induction responses generalizing m with
  | nil => rfl
  | cons response responses ih => exact (ih _).trans (m.withoutFailures_requestFailed response.code)

end Metrics

namespace Service

variable {s : Service}

/-! ## Answers -/

/-- The answer to each part is the one that it has from the service before all parts. -/
theorem answerAll_fst (s : Service) (rs : List SensorRequest) :
    (s.answerAll rs).1 = rs.map fun r => (s.answerSensor r).1 := by
  induction rs with
  | nil => rfl
  | cons r rs ih =>
    have hrest : ((s.answerSensor r).2.answerAll rs).1 = (s.answerAll rs).1 :=
      answerAll_congr (Queried.answerSensor s r).agree.window? rs
    rw [List.map_cons, ← ih, ← hrest]
    rfl

theorem handleRequest_sensor_eq (hrunning : s.phase = .running) (r : SensorRequest) :
    s.handleRequest (.sensor r) = (.sensor (s.answerSensor r).1,
      (s.answerSensor r).2.count (·.requestFailed (s.answerSensor r).1.code)) :=
  handleRequest_of_running hrunning (.sensor r)

/-- A bulk request as such never fails. -/
theorem handleRequest_bulk_eq (hrunning : s.phase = .running) (r : BulkRequest) :
    s.handleRequest (.bulk r) = (.bulk ⟨r.identifier, (s.answerAll r.requests).1, .success⟩,
      (s.answerAll r.requests).2) := by
  rw [handleRequest_of_running hrunning]
  exact Prod.ext rfl (count_eq_self _ fun _ => rfl)

/-! ## Counting -/

theorem count_count (s : Service) (f g : Metrics → Metrics) :
    (s.count f).count g = s.count fun m => g (f m) := by
  unfold count
  rw [Option.map_map]
  rfl

section

variable {change : Metrics → Metrics}

/-- What was counted before a query does not show in its answer. -/
theorem lookup_count (h : Metrics.PassesQuery change) (s : Service) (key : ChannelKey)
    (t₀ t₁ : Micros) : (s.count change).lookup key t₀ t₁ =
      ((s.lookup key t₀ t₁).1, (s.lookup key t₀ t₁).2.count change) := by
  have hmetrics : ∀ known packets, (s.metrics.map change).map (·.query 0 known packets) =
      (s.metrics.map (·.query 0 known packets)).map change := by
    intro known packets
    rw [Option.map_map, Option.map_map]
    congr 1
    funext m
    exact h m 0 known packets
  exact Prod.ext rfl (congrArg
    (fun metrics => { s with store := (s.store.query key t₀ t₁).2, metrics }) (hmetrics _ _))

theorem answerSensor_count (h : Metrics.PassesQuery change) (s : Service) (r : SensorRequest) :
    (s.count change).answerSensor r =
      ((s.answerSensor r).1, (s.answerSensor r).2.count change) := by
  unfold answerSensor
  split
  · rfl
  · rw [lookup_count h]

theorem answerAll_cons (s : Service) (r : SensorRequest) (rs : List SensorRequest) :
    s.answerAll (r :: rs) =
      ((s.answerSensor r).1 :: ((s.answerSensor r).2.answerAll rs).1,
        ((s.answerSensor r).2.answerAll rs).2) :=
  rfl

theorem answerAll_count (h : Metrics.PassesQuery change) (s : Service) (rs : List SensorRequest) :
    (s.count change).answerAll rs = ((s.answerAll rs).1, (s.answerAll rs).2.count change) := by
  induction rs generalizing s with
  | nil => rfl
  | cons r rs ih => rw [answerAll_cons, answerAll_cons, answerSensor_count h, ih]

end

/-- The queries of the parts are no failures. -/
theorem failures_answerAll (s : Service) (rs : List SensorRequest) :
    (s.answerAll rs).2.metrics.map Metrics.failures = s.metrics.map Metrics.failures := by
  induction rs generalizing s with
  | nil => rfl
  | cons r rs ih =>
    rw [answerAll_cons, ih]
    unfold answerSensor
    split
    · rfl
    · show (s.metrics.map _).map Metrics.failures = _
      rw [Option.map_map]
      rfl

/-- One by one, the parts have the same answers and leave the same service, but for the failures
that were counted. -/
theorem run_parts (hrunning : s.phase = .running) (rs : List SensorRequest) :
    (s.run (rs.map fun r => .request (.sensor r))).1.map ServiceEvent.reply =
        (s.answerAll rs).1.map (fun response => .answered (.sensor response)) ∧
      (s.run (rs.map fun r => .request (.sensor r))).2 =
        (s.answerAll rs).2.count (·.partsFailed (s.answerAll rs).1) := by
  induction rs generalizing s with
  | nil => exact ⟨rfl, (s.count_eq_self fun _ => rfl).symm⟩
  | cons r rs ih =>
    have hphase : (s.handleRequest (.sensor r)).2.phase = .running :=
      (Queried.handleRequest s (.sensor r)).agree.phase.trans hrunning
    obtain ⟨hreplies, hservice⟩ := ih hphase
    have hfirst := handleRequest_sensor_eq hrunning r
    -- the failure of the first part is counted before the other parts here, and after them in the
    -- sum
    have hrest := answerAll_count (Metrics.passesQuery_requestFailed (s.answerSensor r).1.code)
      (s.answerSensor r).2 rs
    rw [List.map_cons, run_cons, answerAll_cons]
    show ServiceReply.answered (s.handleRequest (.sensor r)).1 ::
        ((s.handleRequest (.sensor r)).2.run _).1.map ServiceEvent.reply = _ ∧
      ((s.handleRequest (.sensor r)).2.run _).2 = _
    rw [hreplies, hservice, hfirst, hrest, count_count]
    exact ⟨rfl, rfl⟩

/-- A running service answers a bulk request with as many responses as there are parts, each being
the answer that the part has by itself, be it sent before all others or in its turn.  The parts
leave the same store when they are sent one by one, and the same counters but for failures, of which
a bulk request counts none.  A part has its response wherever it stands, so that other parts in
another order have the same responses in that order. -/
theorem handleRequest_bulk (hrunning : s.phase = .running) (r : BulkRequest) :
    let bulk := s.handleRequest (.bulk r)
    let oneByOne := s.run (r.requests.map fun q => .request (.sensor q))
    ∃ responses : List SensorResponse,
      bulk.1 = .bulk ⟨r.identifier, responses, .success⟩ ∧
      responses.length = r.requests.length ∧
      r.requests.map (fun q => (s.handleRequest (.sensor q)).1) = responses.map .sensor ∧
      oneByOne.1.map ServiceEvent.reply =
        responses.map (fun response => .answered (.sensor response)) ∧
      bulk.2.store = oneByOne.2.store ∧ bulk.2.config = oneByOne.2.config ∧
      bulk.2.phase = oneByOne.2.phase ∧
      bulk.2.metrics.map Metrics.withoutFailures =
        oneByOne.2.metrics.map Metrics.withoutFailures ∧
      bulk.2.metrics.map Metrics.failures = s.metrics.map Metrics.failures ∧
      ∀ parts, parts.Perm r.requests → ∃ responses',
        (s.handleRequest (.bulk ⟨r.identifier, parts⟩)).1 =
          .bulk ⟨r.identifier, responses', .success⟩ ∧
        responses'.Perm responses ∧
        ∀ i j : Nat, parts[i]? = r.requests[j]? → responses'[i]? = responses[j]? := by
  intro bulk oneByOne
  have hbulk : bulk = _ := handleRequest_bulk_eq hrunning r
  obtain ⟨hreplies, hservice⟩ := run_parts hrunning r.requests
  have hone : oneByOne.2 = _ := hservice
  refine ⟨(s.answerAll r.requests).1, by rw [hbulk], ?_, ?_, hreplies, by rw [hbulk, hone]; rfl,
    by rw [hbulk, hone]; rfl, by rw [hbulk, hone]; rfl, ?_, ?_, ?_⟩
  · rw [answerAll_fst, List.length_map]
  · rw [answerAll_fst, List.map_map]
    refine List.map_congr_left fun q _ => ?_
    rw [handleRequest_sensor_eq hrunning]
    rfl
  · rw [hbulk, hone]
    show _ = ((s.answerAll r.requests).2.metrics.map _).map Metrics.withoutFailures
    rw [Option.map_map]
    congr 1
    funext m
    exact (m.withoutFailures_partsFailed _).symm
  · rw [hbulk]
    exact s.failures_answerAll r.requests
  · intro parts hperm
    refine ⟨(s.answerAll parts).1, by rw [handleRequest_bulk_eq hrunning], ?_, ?_⟩
    · rw [answerAll_fst, answerAll_fst]
      exact hperm.map _
    · intro i j hij
      rw [answerAll_fst, answerAll_fst, List.getElem?_map, List.getElem?_map, hij]

/-- Parts for a live channel, for one that is not, for no time at all and for a time without
packets.  The channel that would have gone next is the most recent then. -/
theorem handleRequest_bulk_mixed :
    let key (station : String) : ChannelKey := ⟨"IU", station, "BHZ", "00"⟩
    let pulse (station : String) (start : Micros) : Packet := .pulse (key station) start ⟨0⟩ rfl
    let look (station : String) (start finish : Micros) : SensorRequest :=
      ⟨7, key station, start, finish⟩
    let new : Service := ⟨.standard, .empty 2 2, .stopped, some .zero⟩
    let s := (new.run [.start, .ingest (pulse "ANMO" 5), .ingest (pulse "COLA" 4)]).2
    let r : BulkRequest :=
      ⟨9, [look "ANMO" 0 9, look "MAJO" 0 9, look "COLA" 9 0, look "ANMO" 6 9]⟩
    s.phase = .running ∧
      (s.handleRequest (.bulk r)).1 = .bulk ⟨9, [⟨7, key "ANMO", [pulse "ANMO" 5], .success⟩,
        ⟨7, key "MAJO", [], .unknownChannel⟩, ⟨7, key "COLA", [], .invalidRange⟩,
        ⟨7, key "ANMO", [], .success⟩], .success⟩ ∧
      s.store.recency = [key "COLA", key "ANMO"] ∧
      (s.run (r.requests.map fun q => .request (.sensor q))).2.store.recency =
        [key "ANMO", key "COLA"] ∧
      (s.handleRequest (.bulk r)).2.metrics.map Metrics.failures = some [0, 0, 0, 0, 0, 0] ∧
      (s.run (r.requests.map fun q => .request (.sensor q))).2.metrics.map Metrics.failures =
        some [1, 1, 0, 0, 0, 0] := by
  intro key pulse look new s r
  have hrunning : s.phase = .running := by decide +kernel
  have hrecency : (s.handleRequest (.bulk r)).2.store.recency = [key "ANMO", key "COLA"] := by
    decide +kernel
  have hfailures : s.metrics.map Metrics.failures = some [0, 0, 0, 0, 0, 0] := by decide +kernel
  obtain ⟨_, -, -, -, -, hstore, -, -, -, hnone, -⟩ := handleRequest_bulk hrunning r
  have hsame := congrArg ChannelStore.recency hstore
  exact ⟨hrunning, by decide +kernel, by decide +kernel, hsame.symm.trans hrecency,
    hnone.trans hfailures, by decide +kernel⟩

end Service

end WaveCache
