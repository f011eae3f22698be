import WaveCache.Proofs.ChannelStore.Tidy
import WaveCache.Proofs.Service.History
import WaveCache.Proofs.Service.StoreCalls

/-!
# What calls leave as it was

A packet that a call brings is either refused, and then the store is as it was, or the store looks
at it, and then the reply is what `Service.report` makes of it, or else the call does not return:
`Service.perform_packet` says so.  Of the packets that the store looks at, one that is too old
touches its channel and does nothing else, and one for which another channel is given up is kept,
since it opens a window.  A call of a sound service that does not return changes nothing.

A request changes no window.  If its response says that no window was looked into
(`Response.isMiss`), the store is as it was.
-/

namespace WaveCache

/-! ## Windows and stores -/

/-- A packet that is too old leaves its window as it was. -/
theorem Window.store_of_tooOld {w : Window} {p : Packet} {oldest : Micros}
    (h : (w.store p).1 = .tooOld oldest) : (w.store p).2 = w := by
  unfold store append? place at h ⊢
  grind

namespace ChannelStore

variable {c : ChannelStore} {key k : ChannelKey} {w : Window} {p : Packet}

theorem window?_touch_self (hw : c.window? key = some w) :
    (c.touch key w).window? k = c.window? k := by
  have hlive : (c.slot? key).isSome := by
    rw [← Option.isSome_map (f := Slot.window)]
    exact Option.isSome_of_eq_some hw
  rw [window?_touch hlive]
  split
  · next hk => rw [hk, hw]
  · rfl

/-- The stamp of a channel that was just touched is the clock. -/
theorem touched_touch (hw : c.window? key = some w) :
    ((c.touch key w).slot? key).map Slot.touched = some (c.touch key w).clock := by
  obtain ⟨s, hs, -⟩ := Option.map_eq_some_iff.mp ((window?_touch_self hw).trans hw)
  obtain ⟨t, -, ht⟩ := List.mem_map.mp (List.mem_of_find?_eq_some hs)
  have hchannel := channel_of_slot? hs
  rw [hs, Option.map_some]
  split at ht
  · rw [← ht]
    rfl
  · next hne =>
    rw [ht] at hne
    exact absurd hchannel hne

theorem channels_touch (c : ChannelStore) (key : ChannelKey) (w : Window) :
    (c.touch key w).channels = c.channels := by
  unfold channels
  rw [map_channel_touch]

section

variable {added : AddReport}

/-- A packet that is too old touches its channel, whose window is as it was. -/
theorem add_of_tooOld {oldest : Micros} (hadd : (c.add p).1 = some added)
    (h : added.insert = .tooOld oldest) :
    ∃ w, c.window? p.channel = some w ∧ (c.add p).2 = c.touch p.channel w := by
  rcases of_add_eq_some hadd with ⟨s, hs, rfl, hstore⟩ | ⟨_, _, rfl, _⟩
  · refine ⟨s.window, window?_of_slot?_eq_some hs, ?_⟩
    rw [hstore, Window.store_of_tooOld h]
  · rw [Window.store_empty] at h
    cases h

/-- A channel is given up only for a packet that opens a window, and the packet is in it. -/
theorem add_of_evicted (hadd : (c.add p).1 = some added) (h : added.evicted = some key) :
    added.insert = .inserted ∧ (c.window? key).isSome ∧ c.window? p.channel = none ∧
      (c.add p).2.window? key = none ∧
      ∃ w, (c.add p).2.window? p.channel = some w ∧ w.packets = [p] := by
  have hne : key ≠ p.channel := by
    rintro rfl
    exact evicted_ne_channel hadd h
  have hgone := window?_add hadd key
  have hkept := window?_add hadd p.channel
  rw [if_neg hne, if_pos h] at hgone
  rw [if_pos rfl] at hkept
  rcases of_add_eq_some hadd with ⟨s, _, rfl, _⟩ | ⟨hs, _, rfl, _⟩
  · cases h
  · have hnone := window?_of_slot?_eq_none hs
    rw [hnone, Option.getD_none, Window.store_empty] at hkept
    refine ⟨?_, window?_isSome_of_makeRoom h, hnone, hgone, _, hkept, rfl⟩
    rw [Window.store_empty]

end

/-- A touch makes its channel the most recent and leaves the others in order. -/
theorem Alike.recency_touch (h : Alike c c) (hw : c.window? key = some w)
    (hclock : c.clock < c.clock + 1) :
    (c.touch key w).recency = key :: c.recency.filter (· ≠ key) := by
  obtain ⟨⟨l, arranged, _, hmirrors, _⟩, _⟩ := h
  obtain ⟨s, hs, rfl⟩ := Option.map_eq_some_iff.mp hw
  obtain ⟨_, htouched⟩ := hmirrors.touch hs hclock s.window
  rw [htouched.recency_eq, hmirrors.recency_eq, RecencyList.keys, RecencyList.keys,
    RecencyList.toFront, List.map_cons, List.filter_map]
  rfl

end ChannelStore

/-! ## Replies to packets -/

namespace ServiceReply

/-- Whether a packet was refused before the store looked at it. -/
def isRefusal : ServiceReply → Bool
  | .ingested (.error (.notRunning _)) => true
  | .ingested (.error (.invalidChannel _)) => true
  | .ingested (.error (.codec _)) => true
  | _ => false

/-- Whether a packet was too old to be taken in, be that an error or not. -/
def isTooOld : ServiceReply → Bool
  | .ingested (.error (.packetTooOld _ _ _)) => true
  | .ingested (.ok ⟨.droppedTooOld, _⟩) => true
  | _ => false

/-- The channel that a report names as given up. -/
def evicted? : ServiceReply → Option ChannelKey
  | .ingested (.ok report) => report.evictedChannel
  | _ => none

/-- Whether the call returned. -/
def returns : ServiceReply → Bool
  | .ingested (.error .overflow) => false
  | _ => true

/-- A packet that was refused was not found too old, and nothing was given up for it. -/
theorem of_isRefusal {reply : ServiceReply} (h : reply.isRefusal = true) :
    reply.isTooOld = false ∧ reply.evicted? = none ∧ reply.returns = true := by
  unfold isRefusal at h
  split at h
  · exact ⟨rfl, rfl, rfl⟩
  · exact ⟨rfl, rfl, rfl⟩
  · exact ⟨rfl, rfl, rfl⟩
  · cases h

end ServiceReply

namespace Service

variable {s : Service} {call : ServiceCall} {p : Packet}

theorem isRefusal_report (s : Service) (p : Packet) (added : AddReport) :
    (ServiceReply.ingested (s.report p added)).isRefusal = false := by
  unfold report
  cases added.insert with
  | inserted | replaced | insertedEvicting => rfl
  | tooOld oldest => cases s.config.tooOld <;> rfl

theorem exists_tooOld_of_report {added : AddReport}
    (h : (ServiceReply.ingested (s.report p added)).isTooOld = true) :
    ∃ oldest, added.insert = .tooOld oldest := by
  unfold report at h
  cases hinsert : added.insert with
  | inserted | replaced | insertedEvicting =>
    rw [hinsert] at h
    cases h
  | tooOld oldest => exact ⟨oldest, rfl⟩

theorem returns_report (s : Service) (p : Packet) (added : AddReport) :
    (ServiceReply.ingested (s.report p added)).returns = true := by
  unfold report
  cases added.insert with
  | inserted | replaced | insertedEvicting => rfl
  | tooOld oldest => cases s.config.tooOld <;> rfl

/-- The report names the channel that was given up, and an error has none to name. -/
theorem evicted?_report (s : Service) {c : ChannelStore} {p : Packet} {added : AddReport}
    (hadd : (c.add p).1 = some added) :
    (ServiceReply.ingested (s.report p added)).evicted? = added.evicted := by
  unfold report
  cases hinsert : added.insert with
  | inserted | replaced | insertedEvicting => rfl
  | tooOld oldest =>
    rw [ChannelStore.evicted_eq_none_of_tooOld hadd hinsert]
    cases s.config.tooOld <;> rfl

/-- A packet is refused and the store is as it was, or the store looks at it, or the call does not
return. -/
inductive PacketCase (s : Service) (p : Packet) (reply : ServiceReply) (t : Service) : Prop where
  | refused (hreply : reply.isRefusal = true) (hstore : t.store = s.store)
  | added {added : AddReport} (hadd : (s.store.add p).1 = some added)
      (hreply : reply = .ingested (s.report p added)) (hstore : t.store = (s.store.add p).2)
  | overflow (hadd : (s.store.add p).1 = none) (hreply : reply = .ingested (.error .overflow))
      (hservice : t = { s with store := (s.store.add p).2 })

theorem ingest_cases (s : Service) (p : Packet) :
    PacketCase s p (.ingested (s.ingest p).1) (s.ingest p).2 := by
  unfold ingest
  by_cases hphase : s.phase = .running
  · rw [if_pos hphase]
    rcases s.accept_cases p with ⟨fault, _, haccept⟩ | ⟨_, added, hadd, haccept⟩ |
        ⟨_, hadd, haccept⟩
    · rw [haccept]
      exact .refused rfl rfl
    · obtain ⟨metrics, hcount⟩ := { s with store := (s.store.add p).2 }.countAdded_eq added
      rw [haccept, hcount]
      exact .added hadd rfl rfl
    · rw [haccept]
      exact .overflow hadd rfl rfl
  · rw [if_neg hphase]
    exact .refused rfl rfl

/-- The same of a packet in whatever form. -/
theorem perform_packet (s : Service) (hcall : call.packet? = some p) :
    PacketCase s p (s.perform call).1 (s.perform call).2 := by
  cases call with
  | ingest q =>
    obtain rfl : q = p := Option.some.inj hcall
    exact s.ingest_cases q
  | ingestBytes encoding bs =>
    have hdecode : Wire.Form.packet.decode encoding bs = .ok p := by
      cases hdecode : Wire.Form.packet.decode encoding bs with
      | ok q =>
        rw [ServiceCall.packet?, hdecode] at hcall
        exact congrArg Except.ok (Option.some.inj hcall)
      | error error =>
        rw [ServiceCall.packet?, hdecode] at hcall
        cases hcall
    rw [perform, ingestBytes, hdecode]
    by_cases hphase : s.phase = .running
    · rw [if_pos hphase]
      exact s.ingest_cases p
    · rw [if_neg hphase]
      exact .refused rfl rfl
  | start | stop | request | message | refuse | stats => cases hcall

/-- Without a packet nothing is too old or given up for it, and the call returns. -/
theorem perform_no_packet (s : Service) (hcall : call.packet? = none) :
    (s.perform call).1.isTooOld = false ∧ (s.perform call).1.evicted? = none ∧
      (s.perform call).1.returns = true ∧
      ((s.perform call).1.isRefusal = true → (s.perform call).2.store = s.store) := by
  cases call with
  | ingest q => cases hcall
  | ingestBytes encoding bs =>
    cases hdecode : Wire.Form.packet.decode encoding bs with
    | ok q =>
      rw [ServiceCall.packet?, hdecode] at hcall
      cases hcall
    | error error =>
      rw [perform, ingestBytes, hdecode]
      by_cases hphase : s.phase = .running
      · rw [if_pos hphase]
        exact ⟨rfl, rfl, rfl, fun _ => rfl⟩
      · rw [if_neg hphase]
        exact ⟨rfl, rfl, rfl, fun _ => rfl⟩
  | start =>
    rw [s.perform_start]
    split
    · exact ⟨rfl, rfl, rfl, fun _ => rfl⟩
    · exact ⟨rfl, rfl, rfl, fun _ => rfl⟩
  | stop =>
    rw [s.perform_stop]
    split
    · exact ⟨rfl, rfl, rfl, fun h => absurd h Bool.false_ne_true⟩
    · exact ⟨rfl, rfl, rfl, fun _ => rfl⟩
  | request | message | refuse => exact ⟨rfl, rfl, rfl, fun h => absurd h Bool.false_ne_true⟩
  | stats => exact ⟨rfl, rfl, rfl, fun _ => rfl⟩

end Service

/-! ## Responses that looked into no window -/

/-- Whether a code says that there was no window to look into. -/
def ReturnCode.isMiss : ReturnCode → Bool
  | .unknownChannel | .invalidRange | .invalidMessage | .notRunning => true
  | .success | .unauthorized | .internalError => false

/-- Whether a response was given without a look into any window. -/
def Response.isMiss : Response → Bool
  | .sensor r => r.code.isMiss
  | .data r => r.code.isMiss
  | .bulk r => r.responses.all fun response => response.code.isMiss
  | .channelList _ => true
  | .failure r => r.code.isMiss

namespace Service

theorem store_lookup_of_isMiss {s : Service} {key : ChannelKey} {t₀ t₁ : Micros}
    (h : (s.lookup key t₀ t₁).1.2.isMiss = true) : (s.lookup key t₀ t₁).2.store = s.store := by
  unfold lookup ChannelStore.query ChannelStore.visit at h ⊢
  cases hs : s.store.slot? key with
  | none => rfl
  | some slot =>
    rw [hs] at h
    cases h

theorem store_answerSensor_of_isMiss {s : Service} {r : SensorRequest}
    (h : (s.answerSensor r).1.code.isMiss = true) : (s.answerSensor r).2.store = s.store := by
  unfold answerSensor at h ⊢
  split at h
  · next hrange => rw [if_pos hrange]
  · next hrange =>
    rw [if_neg hrange]
    exact store_lookup_of_isMiss h

theorem store_answerData_of_isMiss {s : Service} {r : DataRequest}
    (h : (s.answerData r).1.code.isMiss = true) : (s.answerData r).2.store = s.store := by
  unfold answerData at h ⊢
  split at h
  · next hrange => rw [if_pos hrange]
  · next hrange =>
    rw [if_neg hrange]
    cases hkey : ChannelKey.ofDotted? r.name with
    | none => rfl
    | some key =>
      rw [hkey] at h
      exact store_lookup_of_isMiss h

theorem store_answerAll_of_isMiss {s : Service} {rs : List SensorRequest}
    (h : ((s.answerAll rs).1.all fun response => response.code.isMiss) = true) :
    (s.answerAll rs).2.store = s.store := by
  induction rs generalizing s with
  | nil => rfl
  | cons r rs ih =>
    obtain ⟨hfirst, hrest⟩ := Bool.and_eq_true_iff.mp h
    exact (ih hrest).trans (store_answerSensor_of_isMiss hfirst)

theorem store_handleRequest_of_isMiss {s : Service} {r : Request}
    (h : (s.handleRequest r).1.isMiss = true) : (s.handleRequest r).2.store = s.store := by
  unfold handleRequest at h ⊢
  by_cases hphase : s.phase = .running
  · rw [if_pos hphase] at h ⊢
    cases r with
    | sensor r => exact store_answerSensor_of_isMiss h
    | data r => exact store_answerData_of_isMiss h
    | bulk r => exact store_answerAll_of_isMiss h
    | channelList r => rfl
  · rw [if_neg hphase]
    rfl

/-! ## Calls -/

theorem store_of_isRefusal {s : Service} {call : ServiceCall}
    (h : (s.perform call).1.isRefusal = true) : (s.perform call).2.store = s.store := by
  cases hpacket : call.packet? with
  | none => exact (s.perform_no_packet hpacket).2.2.2 h
  | some p =>
    cases s.perform_packet hpacket with
    | refused _ hstore => exact hstore
    | added _ hreply _ =>
      rw [hreply, isRefusal_report] at h
      cases h
    | overflow _ hreply _ =>
      rw [hreply] at h
      cases h

/-- A packet that is too old touches its channel, and nothing else happens to the store. -/
theorem perform_of_isTooOld {s : Service} {call : ServiceCall}
    (h : (s.perform call).1.isTooOld = true) :
    (s.perform call).1.evicted? = none ∧ ∃ p w, call.packet? = some p ∧
      s.store.window? p.channel = some w ∧
      (s.perform call).2.store = s.store.touch p.channel w := by
  cases hpacket : call.packet? with
  | none =>
    rw [(s.perform_no_packet hpacket).1] at h
    cases h
  | some p =>
    cases s.perform_packet hpacket with
    | refused hrefused _ =>
      rw [(ServiceReply.of_isRefusal hrefused).1] at h
      cases h
    | added hadd hreply hstore =>
      rw [hreply] at h
      obtain ⟨oldest, htooOld⟩ := exists_tooOld_of_report h
      obtain ⟨w, hw, htouch⟩ := ChannelStore.add_of_tooOld hadd htooOld
      refine ⟨?_, p, w, rfl, hw, hstore.trans htouch⟩
      rw [hreply, evicted?_report s hadd, ChannelStore.evicted_eq_none_of_tooOld hadd htooOld]
    | overflow _ hreply _ =>
      rw [hreply] at h
      cases h

/-- A channel is given up only for a packet that is stored. -/
theorem perform_of_evicted? {s : Service} {call : ServiceCall} {key : ChannelKey}
    (h : (s.perform call).1.evicted? = some key) :
    (s.perform call).1 = .ingested (.ok ⟨.stored, some key⟩) ∧ ∃ p w, call.packet? = some p ∧
      (s.store.window? key).isSome ∧ (s.perform call).2.store.window? key = none ∧
      s.store.window? p.channel = none ∧
      (s.perform call).2.store.window? p.channel = some w ∧ w.packets = [p] := by
  cases hpacket : call.packet? with
  | none =>
    rw [(s.perform_no_packet hpacket).2.1] at h
    cases h
  | some p =>
    cases s.perform_packet hpacket with
    | refused hrefused _ =>
      rw [(ServiceReply.of_isRefusal hrefused).2.1] at h
      cases h
    | added hadd hreply hstore =>
      rw [hreply, evicted?_report s hadd] at h
      obtain ⟨hinserted, hlive, hnew, hgone, w, hw, hpackets⟩ :=
        ChannelStore.add_of_evicted hadd h
      rw [hstore]
      refine ⟨?_, p, w, rfl, hlive, hgone, hnew, hw, hpackets⟩
      rw [hreply, report, hinserted, h]
    | overflow _ hreply _ =>
      rw [hreply] at h
      cases h

/-- A call that does not return leaves a sound service as it was. -/
theorem perform_of_not_returns {config : CacheConfig} {s : Service} (hsound : Sound config s)
    {call : ServiceCall} (h : (s.perform call).1.returns = false) : (s.perform call).2 = s := by
  cases hpacket : call.packet? with
  | none =>
    rw [(s.perform_no_packet hpacket).2.2.1] at h
    cases h
  | some p =>
    cases s.perform_packet hpacket with
    | refused hrefused _ =>
      rw [(ServiceReply.of_isRefusal hrefused).2.2] at h
      cases h
    | added _ hreply _ =>
      rw [hreply, returns_report] at h
      cases h
    | overflow hadd _ hservice => exact hservice.trans (hsound.add_eq_self hadd)

/-- A packet changes no window but that of its channel and that of the channel given up for it. -/
theorem window?_perform_packet {config : CacheConfig} {s : Service} (hsound : Sound config s)
    {call : ServiceCall} {p : Packet} (hpacket : call.packet? = some p) {key : ChannelKey}
    (hkey : key ≠ p.channel) (hevicted : (s.perform call).1.evicted? ≠ some key) :
    (s.perform call).2.store.window? key = s.store.window? key := by
  cases s.perform_packet hpacket with
  | refused _ hstore => rw [hstore]
  | added hadd hreply hstore =>
    rw [hreply, evicted?_report s hadd] at hevicted
    rw [hstore, ChannelStore.window?_add hadd, if_neg hkey, if_neg hevicted]
  | overflow hadd _ hservice => rw [hservice, hsound.add_eq_self hadd]

theorem channels_of_queried {s t : Service} (h : Queried s t) :
    t.store.channels = s.store.channels := by
  induction h with
  | refl => rfl
  | count _ change ih => exact ih
  | @query t _ key t₀ t₁ ih =>
    rw [← ih]
    exact congrArg ChannelKey.sort (t.store.map_channel_visit key _)

/-- What calls leave as it was, after any others.  A packet that is refused leaves the store alone.
One that is too old touches its channel, which makes it the one touched last and so the most recent
until the clock starts over; no channel comes or goes and no window changes.  A channel is given up
only for a packet that is stored, and no window changes but those of these two.  A request changes
no window, and one that looks into none leaves the store alone.  A start or a stop that fails leaves
everything alone. -/
theorem perform_leaves {config : CacheConfig} {counting : Bool} {s₀ : Service}
    (hcreate : create config counting = .ok s₀) (calls : List ServiceCall) (call : ServiceCall) :
    let s := (s₀.run calls).2
    let reply := (s.perform call).1
    let t := (s.perform call).2
    (reply.isRefusal = true → t.store = s.store) ∧
    (reply.isTooOld = true → ∃ p w, call.packet? = some p ∧ s.store.window? p.channel = some w ∧
      t.store = s.store.touch p.channel w ∧ reply.evicted? = none ∧
      t.store.channels = s.store.channels ∧ (∀ key, t.store.window? key = s.store.window? key) ∧
      (t.store.slot? p.channel).map Slot.touched = some t.store.clock ∧
      (s₀.Steady (calls ++ [call]) →
        t.store.recency = p.channel :: s.store.recency.filter (· ≠ p.channel))) ∧
    (∀ key, reply.evicted? = some key → reply = .ingested (.ok ⟨.stored, some key⟩) ∧
      ∃ p w, call.packet? = some p ∧ (s.store.window? key).isSome ∧ t.store.window? key = none ∧
        s.store.window? p.channel = none ∧ t.store.window? p.channel = some w ∧
        w.packets = [p]) ∧
    (∀ p, call.packet? = some p → ∀ key ≠ p.channel, reply.evicted? ≠ some key →
      t.store.window? key = s.store.window? key) ∧
    (∀ r, call = .request r →
      t.store.channels = s.store.channels ∧ (∀ key, t.store.window? key = s.store.window? key) ∧
      ∀ response, reply = .answered response → response.isMiss = true → t.store = s.store) ∧
    (call = .start ∨ call = .stop → ∀ error, reply = .done (.error error) → t = s) := by
  intro s reply t
  have hsound : Sound config s := (Sound.create hcreate).run calls
  refine ⟨store_of_isRefusal, ?_, fun key => perform_of_evicted?,
    fun p hpacket key => window?_perform_packet hsound hpacket, ?_, ?_⟩
  · intro htooOld
    obtain ⟨hevicted, p, w, hpacket, hw, htouch⟩ := perform_of_isTooOld htooOld
    refine ⟨p, w, hpacket, hw, htouch, hevicted, ?_, fun key => ?_, ?_, fun hsteady => ?_⟩
    · exact (congrArg ChannelStore.channels htouch).trans (s.store.channels_touch p.channel w)
    · exact (congrArg (ChannelStore.window? · key) htouch).trans
        (ChannelStore.window?_touch_self hw)
    · show (t.store.slot? p.channel).map Slot.touched = some t.store.clock
      rw [htouch]
      exact ChannelStore.touched_touch hw
    · obtain ⟨hpast, hlast, _⟩ := steady_append.mp hsteady
      have hclock := hlast.clock_le
      rw [← s.store_perform call, htouch] at hclock
      show t.store.recency = _
      rw [htouch]
      exact ((alike_create hcreate).run hpast).recency_touch hw (lt_add_one_of_le hclock)
  · rintro r rfl
    have hqueried : Queried s t := .handleRequest s r
    refine ⟨channels_of_queried hqueried, hqueried.agree.window?, ?_⟩
    rintro response hresponse hmiss
    obtain rfl : (s.handleRequest r).1 = response := ServiceReply.answered.inj hresponse
    exact store_handleRequest_of_isMiss hmiss
  · rintro (rfl | rfl) error herror
    · exact start_of_error (ServiceReply.done.inj herror)
    · exact stop_of_error (ServiceReply.done.inj herror)

/-- A late packet of the channel that would go next, which then goes last. -/
theorem perform_leaves_late :
    let key (station : String) : ChannelKey := ⟨"IU", station, "BHZ", "00"⟩
    let pulse (station : String) (start : Micros) : Packet := .pulse (key station) start ⟨0⟩ rfl
    let config : CacheConfig := { CacheConfig.standard with maxPackets := 1, maxChannels := 2 }
    let s₀ : Service := ⟨config, .empty 2 1, .stopped, none⟩
    let calls : List ServiceCall :=
      [.start, .ingest (pulse "ANMO" 5), .ingest (pulse "COLA" 4)]
    let call : ServiceCall := .ingest (pulse "ANMO" 3)
    let s := (s₀.run calls).2
    let t := (s.perform call).2
    create config false = .ok s₀ ∧ s₀.Steady (calls ++ [call]) ∧
      (s.perform call).1.isTooOld = true ∧ t.store.channels = s.store.channels ∧
      s.store.recency = [key "COLA", key "ANMO"] ∧
      t.store.recency = [key "ANMO", key "COLA"] := by
  intro key pulse config s₀ calls call s t
  have hcreate : create config false = .ok s₀ := rfl
  have hsteady : s₀.Steady (calls ++ [call]) := by decide +kernel
  have htooOld : (s.perform call).1.isTooOld = true := by decide +kernel
  have hbefore : s.store.recency = [key "COLA", key "ANMO"] := by decide +kernel
  obtain ⟨_, hlate, _⟩ := perform_leaves hcreate calls call
  obtain ⟨p, w, hpacket, _, _, _, hchannels, _, _, hrecency⟩ := hlate htooOld
  obtain rfl : pulse "ANMO" 3 = p := Option.some.inj hpacket
  refine ⟨hcreate, hsteady, htooOld, hchannels, hbefore, (hrecency hsteady).trans ?_⟩
  rw [hbefore]
  rfl

end Service

end WaveCache
