import WaveCache.Proofs.Service.Balance
import WaveCache.Proofs.Service.Invariant
import WaveCache.Proofs.Service.Unchanged

/-!
# Counters tell what happened

A service that counts from its first call on has counters that agree with the ledger of all calls so
far.  `Service.entry` is what one call posts to the ledger, and `Service.ledger` is the sum over a
run.

`Balances.perform` is the step, put together from the lemmas of `Balanced`, and `Balances.run` the
run.
-/

namespace WaveCache

/-! ## What calls post -/

/-- One if there is a microsecond in the stretch of time, and else none. -/
def SensorRequest.queryCount (r : SensorRequest) : Nat :=
  if r.start ≤ r.finish then 1 else 0

/-- As for a key, if the name is one. -/
def DataRequest.queryCount (r : DataRequest) : Nat :=
  if r.start ≤ r.finish ∧ (ChannelKey.ofDotted? r.name).isSome then 1 else 0

/-- The number of queries in a request. -/
def Request.queryCount : Request → Nat
  | .sensor r => r.queryCount
  | .data r => r.queryCount
  | .bulk r => (r.requests.map SensorRequest.queryCount).sum
  | .channelList _ => 0

/-- The code and the packets of a response. -/
def SensorResponse.part (r : SensorResponse) : ReturnCode × List Packet :=
  (r.code, r.packets)

/-- The codes and the packets of the parts of a response. -/
def Response.parts : Response → List (ReturnCode × List Packet)
  | .sensor r => [r.part]
  | .data r => [(r.code, r.packets)]
  | .bulk r => r.responses.map SensorResponse.part
  | .channelList _ => []
  | .failure _ => []

/-- Whether a call is answered in bytes. -/
def ServiceCall.isMessage : ServiceCall → Bool
  | .message _ _ | .refuse _ _ _ _ => true
  | _ => false

namespace Service

/-- What a packet posts, or bytes that are no packet, if there was this reply.  If the call did not
return, that is nothing. -/
def packetEntry (s : Service) (reply : ServiceReply) : Ledger :=
  if s.phase = .running ∧ reply.returns then { offered := 1, lost := s.store.held reply.evicted? }
  else {}

/-- What a call posts that is not answered in bytes. -/
def entry (s : Service) (call : ServiceCall) : Ledger :=
  match call with
  | .stop =>
    if s.phase = .running then { discarded := s.store.size, lost := s.store.totalPackets } else {}
  | .ingest _ | .ingestBytes _ _ => s.packetEntry (s.perform call).1
  | .request r =>
    let response := (s.handleRequest r).1
    { Ledger.answered (if s.phase = .running then r.queryCount else 0) response.parts with
      failed := if response.code.isFailure then 1 else 0 }
  | _ => {}

/-- What calls post one after another. -/
def ledger (s : Service) : List ServiceCall → Ledger
  | [] => {}
  | call :: calls => s.entry call + (s.perform call).2.ledger calls

/-- A service counts, and its counters agree with a ledger. -/
def Balances (s : Service) (l : Ledger) : Prop :=
  ∃ m, s.metrics = some m ∧ Balanced m s.store l

namespace Balances

variable {config : CacheConfig} {s : Service} {l : Ledger}

theorem create (h : Service.create config true = .ok s) : s.Balances {} := by
  obtain ⟨_, rfl⟩ := create_eq_ok h
  exact ⟨.zero, rfl, .zero rfl⟩

/-- Counting something that agrees with a greater ledger. -/
theorem count {l' : Ledger} {change : Metrics → Metrics} (h : s.Balances l)
    (hchange : ∀ m, Balanced m s.store l → Balanced (change m) s.store l') :
    (s.count change).Balances l' := by
  obtain ⟨m, hm, hbalanced⟩ := h
  exact ⟨change m, congrArg (Option.map change) hm, hchange m hbalanced⟩

/-! ## Requests -/

theorem lookup (h : s.Balances l) (hsound : Sound config s) (key : ChannelKey) (t₀ t₁ : Micros) :
    (s.lookup key t₀ t₁).2.Balances
      (l + .answered 1 [(s.lookup key t₀ t₁).1.swap]) := by
  obtain ⟨m, hm, hbalanced⟩ := h
  exact ⟨_, congrArg (Option.map _) hm, hbalanced.query hsound.tidy key t₀ t₁⟩

theorem answerSensor (h : s.Balances l) (hsound : Sound config s) (r : SensorRequest) :
    (s.answerSensor r).2.Balances (l + .answered r.queryCount [(s.answerSensor r).1.part]) := by
  unfold Service.answerSensor SensorRequest.queryCount
  by_cases hrange : r.finish < r.start
  · rw [if_pos hrange, if_neg (Int64.not_le.mpr hrange)]
    exact h
  · rw [if_neg hrange, if_pos (Int64.not_lt.mp hrange)]
    exact h.lookup hsound r.channel r.start r.finish

theorem answerData (h : s.Balances l) (hsound : Sound config s) (r : DataRequest) :
    (s.answerData r).2.Balances
      (l + .answered r.queryCount [((s.answerData r).1.code, (s.answerData r).1.packets)]) := by
  unfold Service.answerData DataRequest.queryCount
  by_cases hrange : r.finish < r.start
  · rw [if_pos hrange, if_neg fun hquery => Int64.not_le.mpr hrange hquery.1]
    exact h
  · rw [if_neg hrange]
    cases ChannelKey.ofDotted? r.name with
    | none =>
      rw [if_neg (by simp)]
      exact h
    | some key =>
      rw [if_pos ⟨Int64.not_lt.mp hrange, rfl⟩]
      exact h.lookup hsound key r.start r.finish

/-- The parts of a bulk request post one after another. -/
theorem answerAll (h : s.Balances l) (hsound : Sound config s) (rs : List SensorRequest) :
    (s.answerAll rs).2.Balances (l + .answered (rs.map SensorRequest.queryCount).sum
      ((s.answerAll rs).1.map SensorResponse.part)) := by
  induction rs generalizing s l with
  | nil => exact h
  | cons r rs ih =>
    have hrest := ih (h.answerSensor hsound r) (hsound.queried (.answerSensor s r))
    rw [Ledger.add_assoc, ← Ledger.answered_cons] at hrest
    exact hrest

theorem answer (h : s.Balances l) (hsound : Sound config s) (r : Request) :
    (s.answer r).2.Balances (l + .answered r.queryCount (s.answer r).1.parts) := by
  cases r with
  | sensor r => exact h.answerSensor hsound r
  | data r => exact h.answerData hsound r
  | bulk r => exact h.answerAll hsound r.requests
  | channelList r => exact h

theorem handleRequest (h : s.Balances l) (hsound : Sound config s) (r : Request) :
    (s.handleRequest r).2.Balances (l + s.entry (.request r)) := by
  rw [entry, Service.handleRequest]
  by_cases hphase : s.phase = .running
  · rw [if_pos hphase, if_pos hphase]
    exact (h.answer hsound r).count fun _ hbalanced => hbalanced.requestFailed _
  · rw [if_neg hphase, if_neg hphase]
    exact h.count fun _ hbalanced => hbalanced.requestFailed _

/-! ## Packets -/

/-- A packet is rejected for its channel, or the store looks at it, or the call does not return. -/
theorem ingest (h : s.Balances l) (hsound : Sound config s) (p : Packet) :
    (s.ingest p).2.Balances (l + s.packetEntry (.ingested (s.ingest p).1)) := by
  unfold Service.ingest packetEntry
  by_cases hphase : s.phase = .running
  · rw [if_pos hphase]
    rcases s.accept_cases p with ⟨fault, _, haccept⟩ | ⟨_, added, hadd, haccept⟩ |
        ⟨_, hadd, haccept⟩
    · rw [haccept, if_pos ⟨hphase, rfl⟩]
      exact h.count fun _ hbalanced => hbalanced.packetRejected
    · obtain ⟨m, hm, hbalanced⟩ := h
      have hadded := hbalanced.add hsound.tidy hadd
      rw [haccept, if_pos ⟨hphase, s.returns_report p added⟩, s.evicted?_report hadd,
        countAdded_eq_count]
      exact ⟨_, congrArg (Option.map _) hm, hadded⟩
    · rw [haccept, if_neg (by simp [ServiceReply.returns]), hsound.add_eq_self hadd]
      exact h
  · rw [if_neg hphase, if_neg fun hrunning => hphase hrunning.1]
    exact h

theorem ingestBytes (h : s.Balances l) (hsound : Sound config s) (encoding : Encoding)
    (bs : List UInt8) :
    (s.ingestBytes encoding bs).2.Balances
      (l + s.packetEntry (.ingested (s.ingestBytes encoding bs).1)) := by
  have hingest := h.ingest hsound
  unfold Service.ingestBytes
  by_cases hphase : s.phase = .running
  · rw [if_pos hphase]
    cases Wire.Form.packet.decode encoding bs with
    | ok p => exact hingest p
    | error error =>
      rw [packetEntry, if_pos ⟨hphase, rfl⟩]
      exact h.count fun _ hbalanced => hbalanced.packetRejected
  · rw [if_neg hphase, packetEntry, if_neg fun hrunning => hphase hrunning.1]
    exact h

/-! ## Calls -/

/-- One call. -/
theorem perform (h : s.Balances l) (hsound : Sound config s) {call : ServiceCall}
    (hcall : call.isMessage = false) : (s.perform call).2.Balances (l + s.entry call) := by
  cases call with
  | start =>
    rw [s.perform_start]
    split
    · exact h
    · exact h
  | stop =>
    rw [s.perform_stop, entry]
    by_cases hphase : s.phase = .running
    · rw [if_pos hphase, if_pos hphase]
      obtain ⟨m, hm, hbalanced⟩ := h
      exact ⟨m, hm, hbalanced.clear⟩
    · rw [if_neg hphase, if_neg hphase]
      exact h
  | ingest p => exact h.ingest hsound p
  | ingestBytes encoding bs => exact h.ingestBytes hsound encoding bs
  | request r => exact h.handleRequest hsound r
  | message | refuse => cases hcall
  | stats => exact h

/-- All calls, one after another. -/
theorem run (h : s.Balances l) (hsound : Sound config s) {calls : List ServiceCall}
    (hcalls : ∀ call ∈ calls, call.isMessage = false) :
    (s.run calls).2.Balances (l + s.ledger calls) := by
  induction calls generalizing s l with
  | nil => exact h
  | cons call calls ih =>
    obtain ⟨hcall, hrest⟩ := List.forall_mem_cons.mp hcalls
    rw [ledger, ← Ledger.add_assoc]
    exact ih (h.perform hsound hcall) (hsound.perform call) hrest

end Balances

/-! ## Runs -/

end Service

end WaveCache
