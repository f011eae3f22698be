import WaveCache.Proofs.Channel.Grammar
import WaveCache.Proofs.Service.Invariant
import WaveCache.Proofs.Service.Restart
import WaveCache.Proofs.Service.Unchanged

/-!
# What can be stored

Rules are consistent if each code may have a character or be missing.  That is so exactly if some
key follows them (`isConsistent_iff_exists_accepts`), and then the key with the shortest codes does,
which has one letter for every code that must be there.

For services this means two things.  One that was created can always store something if it can open
windows at all: whatever is in a window, a packet that starts as late as any of them goes in
(`Sound.ingest_latest`).  And one with rules that no key follows, however it came about, stores
nothing: every packet is refused before the store looks at it, which is `perform_of_refusing` for
one call and `run_of_refusing` for a run.

Validation only asks that windows have room for a packet.  It accepts capacities for which no window
can be opened, and a service with such a capacity stores nothing either (`Sound.ingest_overflow`).
-/

namespace WaveCache

/-! ## Consistent rules -/

namespace ChannelRules

variable {rules : ChannelRules} {key : ChannelKey}

/-- The same is asked of each code, but for whether it may be missing. -/
theorem accepts_iff_forall_part :
    rules.Accepts key ↔ ∀ part, (key.code part = "" → rules.mayBeEmpty part = true) ∧
      (key.code part).length ≤ rules.limit part ∧ ∀ c ∈ (key.code part).toList, Legal c := by
  rw [← fault?_eq_none_iff, fault?_eq_none_iff_forall_part]
  simp only [codeFault?_eq_none_iff, mayBeEmpty_eq_true_iff]

theorem isConsistent_iff_forall_part :
    rules.isConsistent = true ↔
      ∀ part, 0 < rules.limit part ∨ rules.mayBeEmpty part = true := by
  simp only [isConsistent, Bool.and_eq_true, Bool.or_eq_true, decide_eq_true_eq,
    UInt64.lt_iff_toNat_lt, UInt64.toNat_zero]
  constructor
  · rintro ⟨⟨⟨hnetwork, hstation⟩, hchannel⟩, hlocation⟩ part
    cases part with
    | network => exact .inl hnetwork
    | station => exact .inl hstation
    | channel => exact .inl hchannel
    | location => exact hlocation
  · intro h
    have hfilled : ∀ part, rules.mayBeEmpty part = false → 0 < rules.limit part := by
      intro part hpart
      exact (h part).resolve_right (ne_true_of_eq_false hpart)
    exact ⟨⟨⟨hfilled .network rfl, hfilled .station rfl⟩, hfilled .channel rfl⟩, h .location⟩

/-- A code that is as short as it may be. -/
def shortestCode (rules : ChannelRules) (part : ChannelPart) : String :=
  if rules.mayBeEmpty part then "" else "A"

/-- A key whose codes are as short as they may be. -/
def shortestKey (rules : ChannelRules) : ChannelKey where
  network := rules.shortestCode .network
  station := rules.shortestCode .station
  channel := rules.shortestCode .channel
  location := rules.shortestCode .location

theorem code_shortestKey (rules : ChannelRules) (part : ChannelPart) :
    rules.shortestKey.code part = rules.shortestCode part := by
  cases part <;> rfl

/-- Rules that leave room for a key accept the shortest one. -/
theorem accepts_shortestKey (h : rules.isConsistent = true) : rules.Accepts rules.shortestKey := by
  rw [accepts_iff_forall_part]
  intro part
  rw [code_shortestKey, shortestCode]
  cases hpart : rules.mayBeEmpty part with
  | true => exact ⟨fun _ => rfl, Nat.zero_le _, by simp⟩
  | false =>
    have hroom : 0 < rules.limit part :=
      (isConsistent_iff_forall_part.mp h part).resolve_right (ne_true_of_eq_false hpart)
    refine ⟨fun hempty => absurd hempty (by decide), hroom, fun c hc => ?_⟩
    obtain rfl : c = 'A' := List.mem_singleton.mp hc
    exact isIllegal_eq_false_iff.mp (by decide)

/-- A code of an accepted key has a character, or else it may be missing. -/
theorem Accepts.isConsistent (h : rules.Accepts key) : rules.isConsistent = true := by
  rw [isConsistent_iff_forall_part]
  intro part
  obtain ⟨hmissing, hlength, _⟩ := accepts_iff_forall_part.mp h part
  by_cases hempty : key.code part = ""
  · exact .inr (hmissing hempty)
  · have hpos : 0 < (key.code part).length :=
      Nat.pos_of_ne_zero fun hzero => hempty (String.length_eq_zero_iff.mp hzero)
    exact .inl (Nat.lt_of_lt_of_le hpos hlength)

theorem isConsistent_iff_exists_accepts :
    rules.isConsistent = true ↔ ∃ key, rules.Accepts key :=
  ⟨fun h => ⟨_, accepts_shortestKey h⟩, fun ⟨_, h⟩ => h.isConsistent⟩

end ChannelRules

namespace CacheConfig

variable {config : CacheConfig}

theorem isConsistent_of_fault?_eq_none (h : config.fault? = none) :
    config.rules.isConsistent = true := by
  rw [fault?] at h
  split_ifs at h with hpackets hchannels hrules
  simpa using hrules

/-- The rules are blamed if the two bounds are all right and no key follows the rules. -/
theorem check_eq_invalidRules_iff : config.check = .error .invalidRules ↔
    config.maxPackets ≠ 0 ∧ config.maxChannels ≠ 0 ∧ ¬ ∃ key, config.rules.Accepts key := by
  rw [← ChannelRules.isConsistent_iff_exists_accepts, check, fault?]
  by_cases hpackets : config.maxPackets = 0
  · simp [hpackets]
  · by_cases hchannels : config.maxChannels = 0
    · simp [hpackets, hchannels]
    · cases config.rules.isConsistent <;> simp [hpackets, hchannels]

end CacheConfig

/-! ## Late packets -/

/-- A packet that starts as late as any other goes into a window, even if that is full. -/
theorem Window.Orderly.mem_store {w : Window} (h : w.Orderly) {p : Packet}
    (hlatest : ∀ q ∈ w.packets, q.start ≤ p.start) :
    (w.store p).1.isStored = true ∧ p ∈ (w.store p).2.packets := by
  have hstored := stored_store h.ascending p
  generalize w.store p = result at hstored
  cases hstored with
  | replaced | inserted | evicting => exact ⟨rfl, by simp⟩
  | tooOld hnewer hfull =>
    obtain ⟨q, hq⟩ := List.exists_mem_of_ne_nil _ h.packets_ne_nil
    exact absurd (hlatest q hq) (Int64.not_le.mpr (hnewer q hq))

/-- It does so in a store, whether its channel is live or a window can be opened for it. -/
theorem ChannelStore.Tidy.mem_add {c : ChannelStore} {condition : ChannelKey → Prop}
    (h : Tidy c condition) (hroom : Window.isReservable c.maxPackets = true) {p : Packet}
    (hlatest : ∀ w, c.window? p.channel = some w → ∀ q ∈ w.packets, q.start ≤ p.start) :
    ∃ added w, (c.add p).1 = some added ∧ added.insert.isStored = true ∧
      (c.add p).2.window? p.channel = some w ∧ p ∈ w.packets := by
  cases hs : c.slot? p.channel with
  | some s =>
    have hadd := add_of_slot?_eq_some hs
    have hw := window?_of_slot?_eq_some hs
    have hkept := window?_add (congrArg Prod.fst hadd) p.channel
    obtain ⟨hstored, hmem⟩ := (h.of_window? hw).2.2.2.mem_store (hlatest s.window hw)
    rw [if_pos rfl, hw, Option.getD_some] at hkept
    exact ⟨_, _, congrArg Prod.fst hadd, hstored, hkept, hmem⟩
  | none =>
    have hadd := add_of_slot?_eq_none hs hroom
    have hkept := window?_add (congrArg Prod.fst hadd) p.channel
    rw [if_pos rfl, window?_of_slot?_eq_none hs, Option.getD_none] at hkept
    rw [Window.store_empty] at hadd hkept
    exact ⟨_, _, congrArg Prod.fst hadd, rfl, hkept, List.mem_singleton_self p⟩

namespace Service

variable {s : Service} {p : Packet}

/-- A packet that is stored is reported as such. -/
theorem exists_report_of_isStored {added : AddReport} (h : added.insert.isStored = true) :
    ∃ report, s.report p added = .ok report ∧ report.outcome ≠ .droppedTooOld := by
  unfold report
  cases hinsert : added.insert with
  | inserted | replaced | insertedEvicting => exact ⟨_, rfl, by simp⟩
  | tooOld oldest =>
    rw [hinsert] at h
    cases h

end Service

namespace Sound

variable {config : CacheConfig} {s : Service} {p : Packet}

theorem fault?_eq_none (h : Sound config s) (haccepts : config.rules.Accepts p.channel) :
    s.config.rules.fault? p.channel = none := by
  rw [h.config_eq]
  exact ChannelRules.fault?_eq_none_iff.mpr haccepts

/-- A running service stores a packet that starts as late as any of its channel, if the rules accept
the channel and windows can be opened. -/
theorem ingest_latest (h : Sound config s)
    (hroom : Window.isReservable config.maxPackets.toNat = true)
    (hrunning : s.phase = .running) (haccepts : config.rules.Accepts p.channel)
    (hlatest : ∀ w, s.store.window? p.channel = some w → ∀ q ∈ w.packets, q.start ≤ p.start) :
    ∃ report w, (s.ingest p).1 = .ok report ∧ report.outcome ≠ .droppedTooOld ∧
      (s.ingest p).2.store.window? p.channel = some w ∧ p ∈ w.packets := by
  have hfault := h.fault?_eq_none haccepts
  rw [← h.maxPackets_eq] at hroom
  obtain ⟨added, w, hadd, hstored, hw, hmem⟩ := h.tidy.mem_add hroom hlatest
  obtain ⟨report, hreport, houtcome⟩ := Service.exists_report_of_isStored (s := s) (p := p) hstored
  refine ⟨report, w, ?_, houtcome, ?_, hmem⟩
  · rw [Service.ingest, if_pos hrunning, Service.accept_fst hfault, hadd]
    exact hreport
  · rw [s.store_ingest, Service.ingestCalls, if_pos ⟨hrunning, hfault⟩]
    exact hw

/-- Where no window can be opened there is none. -/
theorem window?_eq_none (h : Sound config s)
    (hroom : Window.isReservable config.maxPackets.toNat = false) (key : ChannelKey) :
    s.store.window? key = none := by
  rw [← h.maxPackets_eq] at hroom
  rw [ChannelStore.window?, ChannelStore.slot?, h.tidy.slots_eq_nil hroom]
  rfl

/-- So no call returns that brings a packet whose channel the rules accept, and nothing changes. -/
theorem ingest_overflow (h : Sound config s)
    (hroom : Window.isReservable config.maxPackets.toNat = false)
    (hrunning : s.phase = .running) (haccepts : config.rules.Accepts p.channel) :
    s.ingest p = (.error .overflow, s) := by
  have hslot : s.store.slot? p.channel = none :=
    Option.map_eq_none_iff.mp (h.window?_eq_none hroom p.channel)
  rw [← h.maxPackets_eq] at hroom
  have hadd : (s.store.add p).1 = none :=
    congrArg Prod.fst (ChannelStore.add_of_not_isReservable hslot hroom)
  rw [Service.ingest, if_pos hrunning]
  rcases s.accept_cases p with ⟨fault, hfault, _⟩ | ⟨_, added, hadded, _⟩ | ⟨_, _, haccept⟩
  · rw [h.fault?_eq_none haccepts] at hfault
    cases hfault
  · rw [hadd] at hadded
    cases hadded
  · rw [haccept, h.add_eq_self hadd]

/-- Nor does a call that does return take in its packet. -/
theorem ingest_ne_ok (h : Sound config s)
    (hroom : Window.isReservable config.maxPackets.toNat = false) (p : Packet)
    (report : IngestReport) : (s.ingest p).1 ≠ .ok report := by
  intro hreport
  have hingest := s.ingest_cases p
  rw [hreport] at hingest
  cases hingest with
  | refused hrefusal => cases hrefusal
  | added hadd =>
    rcases ChannelStore.of_add_eq_some hadd with ⟨slot, hslot, _⟩ | ⟨_, hreservable, _⟩
    · have hw := ChannelStore.window?_of_slot?_eq_some hslot
      rw [h.window?_eq_none hroom] at hw
      cases hw
    · rw [h.maxPackets_eq, hroom] at hreservable
      cases hreservable
  | overflow _ hreply => cases hreply

end Sound

/-! ## Services that refuse every packet -/

/-- The report on a packet that was not refused. -/
def ServiceReply.report? : ServiceReply → Option IngestReport
  | .ingested (.ok report) => some report
  | _ => none

namespace Service

variable {s : Service}

/-- No key follows the rules. -/
def Refusing (s : Service) : Prop :=
  ∀ key, ¬ s.config.rules.Accepts key

theorem ingest_of_refusing (h : s.Refusing) (p : Packet) :
    (∃ error, (s.ingest p).1 = .error error) ∧ (s.ingest p).2.store = s.store := by
  have hfault : s.config.rules.fault? p.channel ≠ none :=
    mt ChannelRules.fault?_eq_none_iff.mp (h p.channel)
  constructor
  · rw [ingest]
    by_cases hrunning : s.phase = .running
    · obtain ⟨fault, hfault⟩ := Option.ne_none_iff_exists'.mp hfault
      rw [if_pos hrunning, accept, hfault]
      exact ⟨_, rfl⟩
    · rw [if_neg hrunning]
      exact ⟨_, rfl⟩
  · rw [s.store_ingest, ingestCalls, if_neg fun hrunning => hfault hrunning.2]
    rfl

/-- A call takes in no packet, and adds or changes no window. -/
theorem perform_of_refusing (h : s.Refusing) (call : ServiceCall) :
    (s.perform call).1.report? = none ∧
      ∀ key w, (s.perform call).2.store.window? key = some w → s.store.window? key = some w := by
  have hqueried : ∀ {t : Service}, Queried s t →
      ∀ key w, t.store.window? key = some w → s.store.window? key = some w :=
    fun ht key w hw => (ht.agree.window? key).symm.trans hw
  have hingest : ∀ p, (ServiceReply.ingested (s.ingest p).1).report? = none ∧
      ∀ key w, (s.ingest p).2.store.window? key = some w → s.store.window? key = some w := by
    intro p
    obtain ⟨⟨error, herror⟩, hstore⟩ := ingest_of_refusing h p
    rw [herror, hstore]
    exact ⟨rfl, fun key w hw => hw⟩
  cases call with
  | start =>
    rw [s.perform_start]
    split
    · exact ⟨rfl, fun key w hw => hw⟩
    · exact ⟨rfl, fun key w hw => hw⟩
  | stop =>
    rw [s.perform_stop]
    split
    · refine ⟨rfl, fun key w hw => ?_⟩
      cases hw
    · exact ⟨rfl, fun key w hw => hw⟩
  | ingest p => exact hingest p
  | ingestBytes encoding bs =>
    rw [perform, ingestBytes]
    by_cases hrunning : s.phase = .running
    · rw [if_pos hrunning]
      cases Wire.Form.packet.decode encoding bs with
      | ok p => exact hingest p
      | error error => exact ⟨rfl, fun key w hw => hw⟩
    · rw [if_neg hrunning]
      exact ⟨rfl, fun key w hw => hw⟩
  | request r => exact ⟨rfl, hqueried (.handleRequest s r)⟩
  | message encoding bs => exact ⟨rfl, hqueried (.handleMessage s encoding bs)⟩
  | refuse identifier code reason encoding =>
    exact ⟨rfl, hqueried (.refuse s identifier code reason encoding)⟩
  | stats => exact ⟨rfl, fun key w hw => hw⟩

/-- By induction on the calls, no packet is ever taken in. -/
theorem run_of_refusing (h : s.Refusing) (calls : List ServiceCall) :
    (∀ e ∈ (s.run calls).1, e.reply.report? = none) ∧
      ∀ key w, (s.run calls).2.store.window? key = some w → s.store.window? key = some w := by
  induction calls generalizing s with
  | nil => exact ⟨fun e he => absurd he List.not_mem_nil, fun key w hw => hw⟩
  | cons call calls ih =>
    obtain ⟨hreply, hwindows⟩ := perform_of_refusing h call
    have hrefusing : (s.perform call).2.Refusing := by
      rw [Refusing, (s.perform_phase call).1]
      exact h
    obtain ⟨hreplies, hrest⟩ := ih hrefusing
    rw [run_cons]
    refine ⟨fun e he => ?_, fun key w hw => hwindows key w (hrest key w hw)⟩
    rcases List.mem_cons.mp he with rfl | he
    · exact hreply
    · exact hreplies e he

/-! ## Validation -/

/-- Validation refuses the rules that no key follows, and no others.  A service that was created can
store a packet, whatever calls it has had, as soon as it is started or if it is running already, if
a window of its capacity can be opened.  If not, it has no windows, no call returns that brings a
packet whose channel the rules accept, and no packet is ever taken in.  And a service whose rules
are refused, whatever else there is to it, takes in no packet in any calls, so that nothing is
stored in it afterwards that was not stored before. -/
theorem validation_exact (rules : ChannelRules) (config : CacheConfig) :
    (rules.isConsistent = true ↔ ∃ key, rules.check key = .ok key) ∧
    (config.check = .error .invalidRules ↔
      config.maxPackets ≠ 0 ∧ config.maxChannels ≠ 0 ∧
        ¬ ∃ key, config.rules.check key = .ok key) ∧
    (∀ counting s, create config counting = .ok s → ∀ calls,
      let t := ((s.run calls).2.perform .start).2
      if Window.isReservable config.maxPackets.toNat then
        ∃ p report w, (t.ingest p).1 = .ok report ∧ report.outcome ≠ .droppedTooOld ∧
          (t.ingest p).2.store.window? p.channel = some w ∧ p ∈ w.packets
      else
        (∀ key, t.store.window? key = none) ∧
          (∀ p, config.rules.check p.channel = .ok p.channel →
            t.ingest p = (.error .overflow, t)) ∧
          ∀ p report, (t.ingest p).1 ≠ .ok report) ∧
    (config.check = .error .invalidRules → ∀ s : Service, s.config = config → ∀ calls,
      (∀ e ∈ (s.run calls).1, e.reply.report? = none) ∧
      ∀ key w, (s.run calls).2.store.window? key = some w → s.store.window? key = some w) := by
  have hcheck : ∀ rules : ChannelRules,
      (∃ key, rules.check key = .ok key) ↔ ∃ key, rules.Accepts key := by
    intro rules
    simp only [ChannelRules.check_eq_ok_iff, true_and]
  refine ⟨?_, ?_, fun counting s hcreate calls => ?_, ?_⟩
  · rw [hcheck]
    exact ChannelRules.isConsistent_iff_exists_accepts
  · rw [hcheck]
    exact CacheConfig.check_eq_invalidRules_iff
  · intro t
    have hconsistent := CacheConfig.isConsistent_of_fault?_eq_none (create_eq_ok hcreate).1
    have hbefore : Sound config (s.run calls).2 := (Sound.create hcreate).run calls
    have hsound : Sound config t := hbefore.perform .start
    have hrunning : t.phase = .running := by
      rw [((s.run calls).2.perform_phase .start).2]
      rcases hbefore.phase with hstopped | hrunning
      · exact if_pos hstopped
      · rw [hrunning]
        rfl
    cases hroom : Window.isReservable config.maxPackets.toNat with
    | true =>
      rw [if_pos rfl]
      -- no packet starts later than the last point in time
      let p : Packet := .pulse config.rules.shortestKey Int64.maxValue ⟨0⟩ rfl
      obtain ⟨report, w, hstored⟩ := hsound.ingest_latest hroom hrunning (p := p)
        (ChannelRules.accepts_shortestKey hconsistent) fun _ _ q _ => q.start.le_maxValue
      exact ⟨p, report, w, hstored⟩
    | false =>
      rw [if_neg Bool.false_ne_true]
      refine ⟨hsound.window?_eq_none hroom, fun p haccepted => ?_, hsound.ingest_ne_ok hroom⟩
      exact hsound.ingest_overflow hroom hrunning (ChannelRules.check_eq_ok_iff.mp haccepted).2
  · rintro hrefused s rfl calls
    exact run_of_refusing (not_exists.mp (CacheConfig.check_eq_invalidRules_iff.mp hrefused).2.2)
      calls

/-- Rules with no room for a location can be met as long as it may be missing.  The window is full
when the last packet comes.  Where the location may not be missing, the same packet is not taken
in. -/
theorem validation_exact_location :
    let key : ChannelKey := ⟨"A", "A", "A", ""⟩
    let rules : ChannelRules := ⟨1, 1, 1, 0, true⟩
    let config : CacheConfig := ⟨1, 1, rules, .drop⟩
    let refused : CacheConfig := ⟨1, 1, { rules with emptyLocation := false }, .drop⟩
    let s : Service := ⟨config, .empty 1 1, .stopped, none⟩
    let calls : List ServiceCall := [.start, .ingest (.pulse key 5 ⟨0⟩ rfl)]
    let t := ((s.run calls).2.perform .start).2
    rules.isConsistent = true ∧ create config false = .ok s ∧
      (t.store.window? key).map Window.size = some 1 ∧
      (∃ p report, (t.ingest p).1 = .ok report ∧ report.outcome ≠ .droppedTooOld) ∧
      refused.check = .error .invalidRules ∧ (∀ k, refused.rules.check k ≠ .ok k) ∧
      ({ s with config := refused }.run calls).2.store.window? key = none := by
  intro key rules config refused s calls t
  obtain ⟨hrules, _, hcreated, _⟩ := validation_exact rules config
  obtain ⟨_, hrefusing, _, hnever⟩ := validation_exact rules refused
  have hcreate : create config false = .ok s := rfl
  have hrefused : refused.check = .error .invalidRules := rfl
  have hroom : Window.isReservable config.maxPackets.toNat = true := by decide
  have hstorable := hcreated false s hcreate calls
  rw [if_pos hroom] at hstorable
  obtain ⟨p, report, _, hreport, houtcome, _⟩ := hstorable
  obtain ⟨_, hwindows⟩ := hnever hrefused { s with config := refused } rfl calls
  refine ⟨hrules.mpr ⟨key, by decide⟩, hcreate, by decide +kernel,
    ⟨p, report, hreport, houtcome⟩, hrefused,
    not_exists.mp (hrefusing.mp hrefused).2.2, ?_⟩
  refine Option.eq_none_iff_forall_ne_some.mpr fun w hw => ?_
  cases hwindows key w hw

/-- The greatest capacity is accepted, but the call with the first packet does not return, and no
packet is ever taken in. -/
theorem create_overflow :
    let config : CacheConfig := { CacheConfig.standard with maxPackets := 0xFFFFFFFFFFFFFFFF }
    let p : Packet := .pulse ⟨"UU", "FORK", "HHZ", "01"⟩ 5 ⟨0⟩ rfl
    config.check = .ok config ∧ ∃ s, create config false = .ok s ∧
      ((s.perform .start).2.ingest p).1 = .error .overflow ∧
      ∀ calls q report, ((s.run calls).2.ingest q).1 ≠ .ok report := by
  intro config p
  have hroom : Window.isReservable config.maxPackets.toNat = false := by decide
  refine ⟨rfl, _, rfl, by decide +kernel, fun calls q report => ?_⟩
  exact ((Sound.create rfl).run calls).ingest_ne_ok hroom q report

end Service

end WaveCache
