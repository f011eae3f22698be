import WaveCache.Proofs.ChannelStore.Tidy
import WaveCache.Proofs.Service.Run

/-!
# What always holds of a service

A service that was created and then called, in whatever way, is `Sound`: between two calls it is
stopped or running, there is nothing in its store while it is stopped, and its store is tidy with
every channel satisfying the rules.  Requests may name any channel, but only packets make one live,
and these are looked at first.

`Sound.perform` is the step and `Sound.run` the run.
-/

namespace WaveCache

/-- What always holds of a service with this configuration. -/
structure Sound (config : CacheConfig) (s : Service) : Prop where
  config_eq : s.config = config
  maxChannels_eq : s.store.maxChannels = config.maxChannels.toNat
  maxPackets_eq : s.store.maxPackets = config.maxPackets.toNat
  maxChannels_pos : 0 < config.maxChannels.toNat
  maxPackets_pos : 0 < config.maxPackets.toNat
  phase : s.phase = .stopped ∨ s.phase = .running
  slots_eq_nil : s.phase = .stopped → s.store.slots = []
  tidy : s.store.Tidy fun key => config.rules.fault? key = none

namespace Sound

variable {config : CacheConfig} {s t : Service}

theorem create {counting : Bool} (h : Service.create config counting = .ok s) :
    Sound config s := by
  obtain ⟨hfault, rfl⟩ := Service.create_eq_ok h
  obtain ⟨hchannels, hpackets⟩ := CacheConfig.pos_of_fault?_eq_none hfault
  exact {
    config_eq := rfl
    maxChannels_eq := Nat.max_eq_left hchannels
    maxPackets_eq := Nat.max_eq_left hpackets
    maxChannels_pos := hchannels
    maxPackets_pos := hpackets
    phase := .inl rfl
    slots_eq_nil := fun _ => rfl
    tidy := .empty _ _ }

/-! ## Steps -/

/-- Queries touch channels, which leaves a store as tidy as it was. -/
theorem queried (h : Sound config s) (ht : Queried s t) : Sound config t := by
  induction ht with
  | refl => exact h
  | count _ change ih => exact { ih with }
  | @query t _ key t₀ t₁ ih =>
    exact { ih with
      maxChannels_eq := (t.store.maxChannels_visit key _).trans ih.maxChannels_eq
      maxPackets_eq := (t.store.maxPackets_visit key _).trans ih.maxPackets_eq
      slots_eq_nil := fun hphase => by
        have hnil := congrArg (List.map Slot.channel) (ih.slots_eq_nil hphase)
        rw [← t.store.map_channel_visit key fun w => w.query t₀ t₁] at hnil
        exact List.map_eq_nil_iff.mp hnil
      tidy := ih.tidy.visit key _ }

/-- A packet of a channel that satisfies the rules comes to the store. -/
theorem accept (h : Sound config s) (hphase : s.phase = .running) (p : Packet) :
    Sound config (s.accept p).2 := by
  have hadd (hfault : s.config.rules.fault? p.channel = none) :
      Sound config { s with store := (s.store.add p).2 } := by
    rw [h.config_eq] at hfault
    exact { h with
      maxChannels_eq := (s.store.maxChannels_add p).trans h.maxChannels_eq
      maxPackets_eq := (s.store.maxPackets_add p).trans h.maxPackets_eq
      slots_eq_nil := fun hstopped => nomatch hphase.symm.trans hstopped
      tidy := h.tidy.add (h.maxChannels_eq ▸ h.maxChannels_pos)
        (h.maxPackets_eq ▸ h.maxPackets_pos) hfault }
  rcases s.accept_cases p with ⟨fault, _, haccept⟩ | ⟨hfault, added, _, haccept⟩ |
      ⟨hfault, _, haccept⟩
  · rw [haccept]
    exact { h with }
  · obtain ⟨metrics, hcount⟩ := { s with store := (s.store.add p).2 }.countAdded_eq added
    rw [haccept, hcount]
    exact { hadd hfault with }
  · rw [haccept]
    exact hadd hfault

/-- If no window can be opened for a packet, nothing is changed on the way. -/
theorem add_eq_self (h : Sound config s) {p : Packet} (hadd : (s.store.add p).1 = none) :
    { s with store := (s.store.add p).2 } = s := by
  rw [h.tidy.add_eq_self hadd]

theorem ingest (h : Sound config s) (p : Packet) : Sound config (s.ingest p).2 := by
  unfold Service.ingest
  by_cases hphase : s.phase = .running
  · rw [if_pos hphase]
    exact h.accept hphase p
  · rw [if_neg hphase]
    exact h

theorem ingestBytes (h : Sound config s) (encoding : Encoding) (bs : List UInt8) :
    Sound config (s.ingestBytes encoding bs).2 := by
  unfold Service.ingestBytes
  by_cases hphase : s.phase = .running
  · rw [if_pos hphase]
    cases Wire.Form.packet.decode encoding bs with
    | ok p => exact h.ingest p
    | error error => exact { h with }
  · rw [if_neg hphase]
    exact h

/-- One call. -/
theorem perform (h : Sound config s) (call : ServiceCall) : Sound config (s.perform call).2 := by
  cases call with
  | start =>
    rw [s.perform_start]
    by_cases hphase : s.phase = .stopped
    · rw [if_pos hphase]
      exact { h with phase := .inr rfl, slots_eq_nil := fun hstopped => nomatch hstopped }
    · rw [if_neg hphase]
      exact h
  | stop =>
    rw [s.perform_stop]
    by_cases hphase : s.phase = .running
    · rw [if_pos hphase]
      exact { h with phase := .inl rfl, slots_eq_nil := fun _ => rfl, tidy := h.tidy.clear }
    · rw [if_neg hphase]
      exact h
  | ingest p => exact h.ingest p
  | ingestBytes encoding bs => exact h.ingestBytes encoding bs
  | request r => exact h.queried (.handleRequest s r)
  | message encoding bs => exact h.queried (.handleMessage s encoding bs)
  | refuse identifier code reason encoding =>
    exact h.queried (.refuse s identifier code reason encoding)
  | stats => exact h

/-- All calls, one after another. -/
theorem run (h : Sound config s) (calls : List ServiceCall) : Sound config (s.run calls).2 := by
  induction calls generalizing s with
  | nil => exact h
  | cons call calls ih => exact ih (h.perform call)

end Sound

/-! ## Runs -/

namespace Service

/-- After any calls a service is stopped or running, and empty if it is stopped.  The live channels
are listed once each, no more of them than there may be.  Each satisfies the rules, and its window
is its own, is not empty, has no more packets than it may, and has them in ascending order and from
this channel alone.  The numbers that are reported are those of the live channels and of the packets
in their windows. -/
theorem run_sound {config : CacheConfig} {counting : Bool} {s : Service}
    (hcreate : create config counting = .ok s) (calls : List ServiceCall) :
    let t := (s.run calls).2
    (t.phase = .stopped ∨ t.phase = .running) ∧
    (t.phase = .stopped → t.store.slots = []) ∧
    t.store.channels.Nodup ∧
    t.store.channels.length ≤ config.maxChannels.toNat ∧
    (∀ key, key ∈ t.store.channels ↔ (t.store.window? key).isSome) ∧
    (∀ key w, t.store.window? key = some w →
      config.rules.fault? key = none ∧
      w.channel = key ∧ (∀ p ∈ w.packets, p.channel = key) ∧
      1 ≤ w.size ∧ w.size ≤ config.maxPackets.toNat ∧ Ascending w.packets) ∧
    t.stats.channels = t.store.channels.length ∧
    t.stats.totalPackets =
      (t.store.channels.map fun key => ((t.store.window? key).map Window.size).getD 0).sum := by
  intro t
  have h : Sound config t := (Sound.create hcreate).run calls
  refine ⟨h.phase, h.slots_eq_nil, ?_, ?_, fun key => ChannelStore.mem_channels_iff, ?_, ?_, ?_⟩
  · exact t.store.channels_perm.nodup_iff.mpr h.tidy.nodup_channels
  · rw [t.store.length_channels, ← h.maxChannels_eq]
    exact h.tidy.size_le
  · intro key w hw
    obtain ⟨hrules, hchannel, hcapacity, horderly⟩ := h.tidy.of_window? hw
    refine ⟨hrules, hchannel, ?_, List.length_pos_iff.mpr horderly.packets_ne_nil, ?_,
      horderly.ascending⟩
    · intro p hp
      rw [horderly.channel_eq p hp, hchannel]
    · rw [← h.maxPackets_eq, ← hcapacity]
      exact horderly.size_le
  · exact t.store.length_channels.symm
  · exact h.tidy.totalPackets_eq

/-- A second channel takes the only place, a packet is refused by the rules, and another is too late
for a full window. -/
theorem run_sound_full :
    let key (station : String) : ChannelKey := ⟨"IU", station, "BHZ", "00"⟩
    let pulse (station : String) (start : Micros) : Packet := .pulse (key station) start ⟨0⟩ rfl
    let config : CacheConfig := { CacheConfig.standard with maxPackets := 2, maxChannels := 1 }
    let s : Service := ⟨config, .empty 1 2, .stopped, none⟩
    let calls : List ServiceCall :=
      [.start, .ingest (pulse "ANMO" 5), .ingest (pulse "COLA" 4), .ingest (pulse "" 6),
        .ingest (pulse "COLA" 3), .ingest (pulse "COLA" 1)]
    let t := (s.run calls).2
    create config false = .ok s ∧ t.store.channels = [key "COLA"] ∧
      (t.store.window? (key "COLA")).map Window.packets = some [pulse "COLA" 3, pulse "COLA" 4] ∧
      config.rules.fault? (key "COLA") = none ∧ t.stats.channels = 1 ∧
      t.stats.totalPackets = 2 := by
  intro key pulse config s calls t
  have hcreate : create config false = .ok s := rfl
  have hchannels : t.store.channels = [key "COLA"] := by decide +kernel
  have hpackets : (t.store.window? (key "COLA")).map Window.packets =
      some [pulse "COLA" 3, pulse "COLA" 4] := by
    decide +kernel
  obtain ⟨_, _, _, _, _, hwindows, hcount, htotal⟩ := run_sound hcreate calls
  obtain ⟨w, hw, hlist⟩ := Option.map_eq_some_iff.mp hpackets
  refine ⟨hcreate, hchannels, hpackets, (hwindows _ w hw).1, ?_, ?_⟩
  · rw [hcount]
    exact congrArg List.length hchannels
  · have hsize : w.size = 2 := congrArg List.length hlist
    rw [htotal]
    show (t.store.channels.map fun k => ((t.store.window? k).map Window.size).getD 0).sum = 2
    rw [hchannels, List.map_singleton, hw, Option.map_some, hsize]
    rfl

end Service

end WaveCache
