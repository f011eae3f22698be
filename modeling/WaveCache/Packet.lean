import WaveCache.Binary64.Text
import WaveCache.Channel.Key
import WaveCache.Time

/-!
# Packets

A packet is a run of evenly spaced samples of one channel.  Its end is not given but follows from
the start, the sampling rate and the number of samples.  `Packet.make` is the only way to a packet,
so every packet has a sample, a positive rate, finite samples and an end that is a point in time.

`Packet` models `DataPacket`, and `make` is its `new`.
-/

namespace WaveCache

/-- Why samples make no packet. -/
inductive PacketError where
  | noSamples
  /-- The sampling rate is not a finite number above zero. -/
  | invalidRate (rate : Binary64)
  /-- The first sample that is infinite or a NaN. -/
  | nonFiniteSample (index : Nat)
  /-- The last sample would be later than the last point in time. -/
  | timeOverflow
deriving DecidableEq

namespace PacketError

/-- The text of an error. -/
def message : PacketError → String
  | noSamples => "Packet has no samples"
  | invalidRate rate => "Sampling rate must be finite and positive: " ++ rate.plain
  | nonFiniteSample index => "Sample " ++ toString index ++ " is not finite"
  | timeOverflow => "Packet end time overflows the timestamp range"

end PacketError

/-- The microseconds from the first of `count` samples to the last, rounded to the nearest.  There
is no such number if a quotient or product on the way is past the greatest double. -/
def span? (rate : Binary64) (count : Nat) : Option Nat :=
  let seconds := (Binary64.ofNat (count - 1)).div rate
  let micros := seconds.mul Micros.perSecond
  if seconds.isFinite && micros.isFinite then some micros.roundHalfUp else none

/-- The end of a packet, if it is a point in time and less than `2 ^ 63` microseconds away. -/
def Packet.finish? (start : Micros) (rate : Binary64) (count : Nat) : Option Micros :=
  (span? rate count).bind fun span =>
    if span ≤ Micros.greatest ∧ start.toInt + span ≤ Micros.greatest then
      some (Int64.ofInt (start.toInt + span))
    else none

/-- Evenly spaced samples of one channel. -/
structure Packet where
  channel : ChannelKey
  /-- The time of the first sample. -/
  start : Micros
  /-- The time of the last sample. -/
  finish : Micros
  /-- The number of samples in a second. -/
  rate : Binary64
  samples : List Binary64
  samples_ne_nil : samples ≠ []
  isPositive_rate : rate.isPositive = true
  isFinite_sample : ∀ s ∈ samples, s.isFinite = true
  finish?_eq : Packet.finish? start rate samples.length = some finish
deriving DecidableEq

namespace Packet

theorem toInt_finish {start : Micros} {span : Nat} (h : start.toInt + span ≤ Micros.greatest) :
    (Int64.ofInt (start.toInt + span)).toInt = start.toInt + span := by
  have hg : Micros.greatest = 0x7FFFFFFFFFFFFFFF := rfl
  have hlow := Int64.le_toInt start
  exact Int64.toInt_ofInt_of_le (by omega) (by omega)

theorem finish?_eq_some {start finish : Micros} {rate : Binary64} {count : Nat}
    (h : finish? start rate count = some finish) :
    span? rate count = some (finish.toInt - start.toInt).toNat ∧ start.toInt ≤ finish.toInt := by
  simp only [finish?, Option.bind_eq_some_iff, Option.ite_none_right_eq_some,
    Option.some.injEq] at h
  obtain ⟨span, hs, hb, hf⟩ := h
  have := toInt_finish hb.2
  rw [hf] at this
  rw [hs, this]
  exact ⟨congrArg some (by omega), by omega⟩

/-- A packet of the given samples.  The samples must be there, then the rate has to be good, then
each sample, and last the end of the packet. -/
def make (channel : ChannelKey) (start : Micros) (rate : Binary64) (samples : List Binary64) :
    Except PacketError Packet :=
  if hn : samples = [] then .error .noSamples
  else if hr : rate.isPositive = true then
    match hs : samples.findIdx? (!·.isFinite) with
    | some index => .error (.nonFiniteSample index)
    | none =>
      if hf : (finish? start rate samples.length).isSome then
        .ok {
          channel, start, rate, samples
          finish := (finish? start rate samples.length).get hf
          samples_ne_nil := hn
          isPositive_rate := hr
          isFinite_sample := by simpa using hs
          finish?_eq := (Option.some_get hf).symm }
      else .error .timeOverflow
  else .error (.invalidRate rate)

/-- The end of a packet follows from the rest. -/
theorem eq_of_parts {p q : Packet} (hc : p.channel = q.channel) (ht : p.start = q.start)
    (hr : p.rate = q.rate) (hs : p.samples = q.samples) : p = q := by
  have hf : p.finish = q.finish := by
    have hp := p.finish?_eq
    rw [ht, hr, hs, q.finish?_eq] at hp
    exact (Option.some.inj hp).symm
  cases p
  cases q
  simp only at hc ht hr hs hf
  subst hc ht hr hs hf
  rfl

/-- The parts of a packet make that packet. -/
theorem make_parts (p : Packet) : make p.channel p.start p.rate p.samples = .ok p := by
  have hfinish : (finish? p.start p.rate p.samples.length).isSome := by
    rw [p.finish?_eq]
    rfl
  rw [make, dif_neg p.samples_ne_nil, dif_pos p.isPositive_rate]
  split
  case h_1 index hs =>
    have hall : p.samples.findIdx? (!·.isFinite) = none := by
      simpa [List.findIdx?_eq_none_iff] using p.isFinite_sample
    rw [hall] at hs
    cases hs
  case h_2 =>
    rw [dif_pos hfinish]
    exact congrArg Except.ok (eq_of_parts rfl rfl rfl rfl)

/-- A packet has the parts of which it was made. -/
theorem parts_of_make {channel : ChannelKey} {start : Micros} {rate : Binary64}
    {samples : List Binary64} {p : Packet} (h : make channel start rate samples = .ok p) :
    p.channel = channel ∧ p.start = start ∧ p.rate = rate ∧ p.samples = samples := by
  unfold make at h
  split at h
  · cases h
  · split at h
    · split at h
      · cases h
      · split at h
        · cases h
          exact ⟨rfl, rfl, rfl, rfl⟩
        · cases h
    · cases h

/-- Whether a packet and a closed stretch of time have a microsecond in common. -/
def overlaps (p : Packet) (t₀ t₁ : Micros) : Bool :=
  p.start ≤ t₁ && t₀ ≤ p.finish

/-! ## Pulses -/

theorem span?_one : span? ⟨0x3FF0000000000000⟩ 1 = some 0 := by
  decide +kernel

theorem finish?_one (start : Micros) : finish? start ⟨0x3FF0000000000000⟩ 1 = some start := by
  have hlt := Int64.toInt_lt start
  have hgreatest : start.toInt + (0 : Nat) ≤ Micros.greatest := by
    simp only [Micros.greatest]
    omega
  rw [finish?, span?_one, Option.bind_some, if_pos ⟨by decide, hgreatest⟩]
  simp

/-- A packet of one sample at one sample in a second, which ends when it starts. -/
def pulse (channel : ChannelKey) (start : Micros) (sample : Binary64)
    (hsample : sample.isFinite = true) : Packet where
  channel := channel
  start := start
  finish := start
  rate := ⟨0x3FF0000000000000⟩
  samples := [sample]
  samples_ne_nil := by simp
  isPositive_rate := by decide
  isFinite_sample := by simpa using hsample
  finish?_eq := finish?_one start

end Packet

end WaveCache
