import WaveCache.Proofs.Channel.Name
import WaveCache.Proofs.Service.History
import WaveCache.Proofs.Service.Invariant
import WaveCache.Proofs.Service.StoreCalls

/-!
# Asking by name

The packets of a channel can be asked for by its key or by its dotted name.  `Service.Reaches` says
that a name does what a key does: the packets and the code are the same, and so is the service
afterwards.  A name with three points reaches the key of its four pieces, whether or not there can
be such a channel (`reaches_of_ofDotted?`), and any other name is refused
(`handleRequest_data_refused`).

Live channels satisfy the rules, so that no code of theirs holds a point.  That is why each of them
is reached by its dotted name, and by no other name (`reaches_iff_of_mem_channels`).
-/

namespace WaveCache

namespace ChannelStore

/-- A query leaves all but one slot as they are, their stamps included. -/
theorem slot?_visit_of_ne {α : Type} (c : ChannelStore) {key k : ChannelKey} (hk : k ≠ key)
    (look : Window → α) : (c.visit key look).2.slot? k = c.slot? k := by
  rw [visit]
  cases c.slot? key with
  | none => rfl
  | some s =>
    show (c.touch key s.window).slot? k = c.slot? k
    rw [slot?_touch]
    cases ht : c.slot? k with
    | none => rfl
    | some t =>
      have hchannel := channel_of_slot? ht
      simp [hchannel, hk]

end ChannelStore

namespace Service

variable {config : CacheConfig} {s : Service} {name : String} {key : ChannelKey}

/-- To ask by a name is to ask by a key: whatever the stretch of time, the packets are the same,
with the same code, and so is the service afterwards. -/
def Reaches (s : Service) (name : String) (key : ChannelKey) : Prop :=
  ∀ identifier t₀ t₁, ∃ packets code t,
    s.handleRequest (.data ⟨identifier, name, t₀, t₁⟩) =
      (.data ⟨identifier, name, packets, code⟩, t) ∧
    s.handleRequest (.sensor ⟨identifier, key, t₀, t₁⟩) =
      (.sensor ⟨identifier, key, packets, code⟩, t)

/-! ## Names that lead to a key -/

theorem answerData_of_ofDotted? (s : Service) (hkey : ChannelKey.ofDotted? name = some key)
    (identifier : UInt64) (t₀ t₁ : Micros) :
    ∃ packets code t,
      s.answerData ⟨identifier, name, t₀, t₁⟩ = (⟨identifier, name, packets, code⟩, t) ∧
      s.answerSensor ⟨identifier, key, t₀, t₁⟩ = (⟨identifier, key, packets, code⟩, t) := by
  unfold answerData answerSensor
  by_cases hrange : t₁ < t₀
  · exact ⟨[], .invalidRange, s, if_pos hrange, if_pos hrange⟩
  · simp only [if_neg hrange, hkey]
    exact ⟨_, _, _, rfl, rfl⟩

/-- Both ways look for the same key, and what is counted depends on the code alone. -/
theorem reaches_of_ofDotted? (hrunning : s.phase = .running)
    (hkey : ChannelKey.ofDotted? name = some key) : s.Reaches name key := by
  intro identifier t₀ t₁
  obtain ⟨packets, code, t, hdata, hsensor⟩ := s.answerData_of_ofDotted? hkey identifier t₀ t₁
  refine ⟨packets, code, t.count (·.requestFailed code), ?_, ?_⟩
  · rw [handleRequest_of_running hrunning, answer, hdata]
    rfl
  · rw [handleRequest_of_running hrunning, answer, hsensor]
    rfl

/-! ## Other names -/

/-- A name without three points is refused, and the store is not asked. -/
theorem handleRequest_data_refused (hrunning : s.phase = .running) {r : DataRequest}
    (hcount : r.name.toList.count ChannelKey.separator ≠ 3) :
    (s.handleRequest (.data r)).1 = .data ⟨r.identifier, r.name, [],
        if r.finish < r.start then .invalidRange else .invalidMessage⟩ ∧
      (s.handleRequest (.data r)).2.store = s.store := by
  have hnone : ChannelKey.ofDotted? r.name = none := ChannelKey.ofDotted?_eq_none_iff.mpr hcount
  constructor
  · rw [handleRequest_of_running hrunning]
    show Response.data (s.answerData r).1 = _
    unfold answerData
    rw [hnone]
    split
    · rfl
    · rfl
  · have hcalls : r.storeCalls = [] := by
      rw [DataRequest.storeCalls, hnone]
      exact ite_self []
    rw [store_handleRequest, requestCalls, if_pos hrunning]
    show s.store.after r.storeCalls = s.store
    rw [hcalls]
    rfl

/-! ## Packets and touches -/

/-- The packets in an answer are those of the channel, which is live then. -/
theorem channel_of_mem_packets (h : Sound config s) (hrunning : s.phase = .running)
    {r : SensorRequest} {response : SensorResponse}
    (hanswer : (s.handleRequest (.sensor r)).1 = .sensor response) {p : Packet}
    (hp : p ∈ response.packets) : p.channel = r.channel ∧ r.channel ∈ s.store.channels := by
  by_cases hrange : r.start ≤ r.finish
  · rw [handleRequest_sensor hrunning hrange] at hanswer
    cases hw : s.store.window? r.channel with
    | none =>
      rw [hw] at hanswer
      cases hanswer
      cases hp
    | some w =>
      rw [hw] at hanswer
      cases hanswer
      obtain ⟨-, hchannel, -, horderly⟩ := h.tidy.of_window? hw
      have hmem : p ∈ w.query r.start r.finish := hp
      rw [Window.query_eq_filter horderly.ascending hrange] at hmem
      refine ⟨(horderly.channel_eq p (List.mem_of_mem_filter hmem)).trans hchannel, ?_⟩
      rw [ChannelStore.mem_channels_iff, hw]
      rfl
  · have hnone : (s.handleRequest (.sensor r)).1 =
        .sensor ⟨r.identifier, r.channel, [], .invalidRange⟩ := by
      rw [handleRequest_of_running hrunning, answer, answerSensor, if_pos (Int64.not_le.mp hrange)]
    rw [hnone] at hanswer
    cases hanswer
    cases hp

/-- A request by name is answered with packets of a live channel that has this name. -/
theorem handleRequest_data_packets (h : Sound config s) (hrunning : s.phase = .running)
    (r : DataRequest) : ∃ packets code,
      (s.handleRequest (.data r)).1 = .data ⟨r.identifier, r.name, packets, code⟩ ∧
      ∀ p ∈ packets, p.channel ∈ s.store.channels ∧ p.channel.dotted = r.name := by
  cases hkey : ChannelKey.ofDotted? r.name with
  | none =>
    have hrefused := handleRequest_data_refused hrunning (ChannelKey.ofDotted?_eq_none_iff.mp hkey)
    exact ⟨[], _, hrefused.1, fun p hp => nomatch hp⟩
  | some key =>
    obtain ⟨packets, code, t, hdata, hsensor⟩ :=
      reaches_of_ofDotted? hrunning hkey r.identifier r.start r.finish
    refine ⟨packets, code, congrArg Prod.fst hdata, fun p hp => ?_⟩
    obtain ⟨hchannel, hlive⟩ :=
      channel_of_mem_packets h hrunning (congrArg Prod.fst hsensor) hp
    rw [hchannel]
    exact ⟨hlive, ChannelKey.dotted_of_ofDotted? hkey⟩

/-- A request by name touches no channel that has another name. -/
theorem slot?_handleRequest_data (hrunning : s.phase = .running) {r : DataRequest} {k : ChannelKey}
    (hk : k.dotted ≠ r.name) : (s.handleRequest (.data r)).2.store.slot? k = s.store.slot? k := by
  rw [store_handleRequest, requestCalls, if_pos hrunning]
  show (s.store.after r.storeCalls).slot? k = s.store.slot? k
  unfold DataRequest.storeCalls
  split
  · rfl
  · split
    case h_1 => rfl
    case h_2 key hkey =>
      have hne : k ≠ key := by
        rintro rfl
        exact hk (ChannelKey.dotted_of_ofDotted? hkey)
      exact s.store.slot?_visit_of_ne hne fun w => w.query r.start r.finish

/-! ## Live channels -/

theorem plain_of_mem_channels (h : Sound config s) (hlive : key ∈ s.store.channels) :
    key.Plain := by
  obtain ⟨w, hw⟩ := Option.isSome_iff_exists.mp (ChannelStore.mem_channels_iff.mp hlive)
  exact ChannelRules.plain_of_fault?_eq_none (h.tidy.of_window? hw).1

/-- Whatever name reaches a live channel, the answer is what is in its window. -/
theorem Reaches.answer_eq (hreaches : s.Reaches name key) (hrunning : s.phase = .running)
    {w : Window} (hw : s.store.window? key = some w) (identifier : UInt64) {t₀ t₁ : Micros}
    (hrange : t₀ ≤ t₁) :
    (s.handleRequest (.data ⟨identifier, name, t₀, t₁⟩)).1 =
      .data ⟨identifier, name, w.query t₀ t₁, .success⟩ := by
  obtain ⟨packets, code, t, hdata, hsensor⟩ := hreaches identifier t₀ t₁
  have hanswer := handleRequest_sensor hrunning (r := ⟨identifier, key, t₀, t₁⟩) hrange
  rw [hsensor, hw] at hanswer
  cases hanswer
  rw [hdata]

/-- A live channel is reached by its dotted name and by no other name. -/
theorem reaches_iff_of_mem_channels (h : Sound config s) (hrunning : s.phase = .running)
    (hlive : key ∈ s.store.channels) : s.Reaches name key ↔ name = key.dotted := by
  constructor
  · intro hreaches
    obtain ⟨w, hw⟩ := Option.isSome_iff_exists.mp (ChannelStore.mem_channels_iff.mp hlive)
    obtain ⟨-, hchannel, -, horderly⟩ := h.tidy.of_window? hw
    obtain ⟨p, hp⟩ := List.exists_mem_of_ne_nil _ horderly.packets_ne_nil
    -- if all time is asked for, the answer has a packet, which tells the channel
    have hall : Int64.minValue ≤ Int64.maxValue := Int64.minValue_le _
    have hfound : p ∈ w.query Int64.minValue Int64.maxValue := by
      rw [Window.query_eq_filter horderly.ascending hall, List.mem_filter, Packet.overlaps]
      simp [hp, Int64.le_maxValue, Int64.minValue_le]
    obtain ⟨packets, code, hanswer, hpackets⟩ :=
      handleRequest_data_packets h hrunning ⟨0, name, Int64.minValue, Int64.maxValue⟩
    rw [hreaches.answer_eq hrunning hw 0 hall] at hanswer
    cases hanswer
    have hname : p.channel.dotted = name := (hpackets p hfound).2
    rw [← hname, horderly.channel_eq p hp, hchannel]
  · rintro rfl
    exact reaches_of_ofDotted? hrunning
      (ChannelKey.ofDotted?_dotted (plain_of_mem_channels h hlive))

/-- After any calls, a running service does the same for a channel asked for by name and by key.
Each key without a point in its codes is reached by its dotted name.  A name with three points
reaches the key of its four pieces, and any other name is refused without the store being asked.
Each channel that is listed has an answer by its dotted name, which is the name of no other, and is
reached by no other name.  All in all, a request by name has an answer with packets of live channels
of this name only, and touches no channel of another name. -/
theorem handleRequest_data_run {counting : Bool} {new : Service}
    (hcreate : create config counting = .ok new) (calls : List ServiceCall)
    (hrunning : (new.run calls).2.phase = .running) :
    let s := (new.run calls).2
    (∀ key : ChannelKey, key.Plain → s.Reaches key.dotted key) ∧
    (∀ name : String, name.toList.count ChannelKey.separator = 3 → ∃ key : ChannelKey,
      key.codes = (Text.split ChannelKey.separator name.toList).map String.ofList ∧
      key.dotted = name ∧ key.Plain ∧ s.Reaches name key) ∧
    (∀ r : DataRequest, r.name.toList.count ChannelKey.separator ≠ 3 →
      (s.handleRequest (.data r)).1 = .data ⟨r.identifier, r.name, [],
        if r.finish < r.start then .invalidRange else .invalidMessage⟩ ∧
      (s.handleRequest (.data r)).2.store = s.store) ∧
    (∀ identifier, ∃ keys,
      (s.handleRequest (.channelList ⟨identifier⟩)).1 = .channelList ⟨identifier, keys, .success⟩ ∧
      ∀ key ∈ keys, (∀ name, s.Reaches name key ↔ name = key.dotted) ∧
        (∀ other ∈ keys, other.dotted = key.dotted → other = key) ∧
        ∃ w, s.store.window? key = some w ∧ ∀ identifier t₀ t₁, t₀ ≤ t₁ →
          (s.handleRequest (.data ⟨identifier, key.dotted, t₀, t₁⟩)).1 =
            .data ⟨identifier, key.dotted, w.query t₀ t₁, .success⟩) ∧
    ∀ r : DataRequest, ∃ packets code,
      (s.handleRequest (.data r)).1 = .data ⟨r.identifier, r.name, packets, code⟩ ∧
      (∀ p ∈ packets, p.channel ∈ s.store.channels ∧ p.channel.dotted = r.name) ∧
      ∀ key : ChannelKey, key.dotted ≠ r.name →
        (s.handleRequest (.data r)).2.store.slot? key = s.store.slot? key := by
  intro s
  have h : Sound config s := (Sound.create hcreate).run calls
  refine ⟨?_, ?_, fun r => handleRequest_data_refused hrunning, ?_, ?_⟩
  · intro key hplain
    exact reaches_of_ofDotted? hrunning (ChannelKey.ofDotted?_dotted hplain)
  · intro name hcount
    obtain ⟨key, hkey⟩ := Option.isSome_iff_exists.mp (ChannelKey.isSome_ofDotted?_iff.mpr hcount)
    obtain ⟨hname, hplain⟩ := ChannelKey.ofDotted?_eq_some_iff.mp hkey
    exact ⟨key, ChannelKey.codes_of_ofDotted? hkey, hname, hplain,
      reaches_of_ofDotted? hrunning hkey⟩
  · intro identifier
    refine ⟨s.store.channels, ?_, fun key hlive => ?_⟩
    · rw [handleRequest_of_running hrunning]
      rfl
    · have hreaches : ∀ name, s.Reaches name key ↔ name = key.dotted :=
        fun name => reaches_iff_of_mem_channels h hrunning hlive
      have hunique : ∀ other ∈ s.store.channels, other.dotted = key.dotted → other = key := by
        intro other hother
        exact (plain_of_mem_channels h hother).eq_of_dotted_eq (plain_of_mem_channels h hlive)
      obtain ⟨w, hw⟩ := Option.isSome_iff_exists.mp (ChannelStore.mem_channels_iff.mp hlive)
      exact ⟨hreaches, hunique, w, hw, fun identifier t₀ t₁ hrange =>
        ((hreaches key.dotted).mpr rfl).answer_eq hrunning hw identifier hrange⟩
  · intro r
    obtain ⟨packets, code, hdata, hpackets⟩ := handleRequest_data_packets h hrunning r
    exact ⟨packets, code, hdata, hpackets, fun key => slot?_handleRequest_data hrunning⟩

/-- A live channel, a name with a piece that the rules do not allow, and a name with two points. -/
theorem handleRequest_data_run_mixed :
    let key : ChannelKey := ⟨"IU", "ANMO", "BHZ", "00"⟩
    let pulse : Packet := .pulse key 5 ⟨0⟩ rfl
    let new : Service := ⟨.standard, .empty 10000 300, .stopped, some .zero⟩
    let calls : List ServiceCall := [.start, .ingest pulse]
    let s := (new.run calls).2
    create .standard true = .ok new ∧ s.phase = .running ∧
      (∀ name, s.Reaches name key ↔ name = "IU.ANMO.BHZ.00") ∧
      (s.handleRequest (.data ⟨7, "IU.ANMO.BHZ.00", 0, 9⟩)).1 =
        .data ⟨7, "IU.ANMO.BHZ.00", [pulse], .success⟩ ∧
      CacheConfig.standard.rules.fault? ⟨"IU", "", "BHZ", "00"⟩ = some (.empty .station) ∧
      s.Reaches "IU..BHZ.00" ⟨"IU", "", "BHZ", "00"⟩ ∧
      (s.handleRequest (.data ⟨7, "IU..BHZ.00", 0, 9⟩)).1 =
        .data ⟨7, "IU..BHZ.00", [], .unknownChannel⟩ ∧
      (s.handleRequest (.data ⟨7, "IU.ANMO.BHZ", 0, 9⟩)).1 =
        .data ⟨7, "IU.ANMO.BHZ", [], .invalidMessage⟩ := by
  intro key pulse new calls s
  have hcreate : create .standard true = .ok new := rfl
  have hrunning : s.phase = .running := by decide +kernel
  obtain ⟨hplain, -, hrefused, hlisted, -⟩ := handleRequest_data_run hcreate calls hrunning
  obtain ⟨keys, hkeys, hreached⟩ := hlisted 7
  have hlive : key ∈ keys := by
    have hlist : (s.handleRequest (.channelList ⟨7⟩)).1 = .channelList ⟨7, [key], .success⟩ := by
      decide +kernel
    have heq : keys = [key] :=
      congrArg ListResponse.channels (Response.channelList.inj (hkeys.symm.trans hlist))
    rw [heq]
    exact List.mem_singleton_self key
  have hname : key.dotted = "IU.ANMO.BHZ.00" := by decide +kernel
  have hreaches : s.Reaches "IU..BHZ.00" ⟨"IU", "", "BHZ", "00"⟩ :=
    hplain ⟨"IU", "", "BHZ", "00"⟩ (by decide)
  have hshort := (hrefused ⟨7, "IU.ANMO.BHZ", 0, 9⟩ (by decide)).1
  exact ⟨hcreate, hrunning, hname ▸ (hreached key hlive).1, by decide +kernel, by decide +kernel,
    hreaches, by decide +kernel, hshort⟩

end Service

end WaveCache
