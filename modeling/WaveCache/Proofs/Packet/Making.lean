import WaveCache.Packet
import WaveCache.Proofs.Binary64.Sign

/-!
# What makes a packet

`Packet.Sound` says what may be relied on in a packet, and `Packet.Refused` what is wrong with parts
that make none: the first of four checks that they fail.  Neither mentions `Packet.make` or the
arithmetic of ends in it.  `Packet.sound` holds of every packet, and `make_eq_ok_iff` and
`make_eq_error_iff` say of all parts what `make` does with them.
-/

namespace WaveCache

/-! ## Spans -/

namespace Packet

variable {start finish : Micros} {rate : Binary64}

/-- The microseconds from the first of `count` samples to the last, before they are rounded. -/
def elapsed (rate : Binary64) (count : Nat) : Binary64 :=
  ((Binary64.ofNat (count - 1)).div rate).mul Micros.perSecond

/-- The microseconds from the first of `count` samples to the last, if `elapsed` is finite. -/
def span (rate : Binary64) (count : Nat) : Nat :=
  (elapsed rate count).roundHalfUp

/-- Nothing is lost when a span is rounded without its sign. -/
theorem isNegative_elapsed (hrate : rate.isNegative = false) (count : Nat) :
    (elapsed rate count).isNegative = false := by
  rw [elapsed, Binary64.isNegative_mul, Binary64.isNegative_div, Binary64.isNegative_ofNat, hrate,
    Micros.perSecond, Binary64.isNegative_ofNat]
  rfl

/-- An infinity of seconds is an infinity of microseconds, so only these have to be looked at. -/
theorem span?_eq (hrate : rate.isNegative = false) (count : Nat) :
    span? rate count =
      if (elapsed rate count).isFinite then some (span rate count) else none := by
  cases hseconds : ((Binary64.ofNat (count - 1)).div rate).isFinite with
  | true =>
    simp only [span?, hseconds, Bool.true_and]
    rfl
  | false =>
    have hinfinite : (Binary64.ofNat (count - 1)).div rate =
        Binary64.ofMagnitude false Binary64.infinity := by
      rw [Binary64.div, Binary64.isNegative_ofNat, hrate] at hseconds ⊢
      exact Binary64.ofRatio_of_not_isFinite hseconds
    have hmicros : (elapsed rate count).isFinite = false := by
      rw [elapsed, hinfinite]
      decide +kernel
    simp only [span?, hseconds, Bool.false_and, Bool.false_eq_true, if_false, hmicros]

/-- A single sample takes no time. -/
theorem elapsed_one (rate : Binary64) :
    (elapsed rate 1).isFinite = true ∧ span rate 1 = 0 := by
  have hcount : (Binary64.ofNat (1 - 1)).units = 0 := by
    rw [Binary64.ofNat, Nat.sub_self, Nat.zero_mul, Binary64.units_ofRatio_zero]
  have hquotient : ((Binary64.ofNat (1 - 1)).div rate).units = 0 := by
    rw [Binary64.div, hcount, Nat.zero_mul, Binary64.units_ofRatio_zero]
  obtain ⟨negative, hzero⟩ : ∃ negative,
      elapsed rate 1 = Binary64.ofRatio negative 0 Binary64.unit := by
    rw [elapsed, Binary64.mul, hquotient, Nat.zero_mul]
    exact ⟨_, rfl⟩
  constructor
  · rw [hzero, Binary64.isFinite, Binary64.magnitude_ofRatio, Binary64.nearestMagnitude_zero]
    rfl
  · rw [span, hzero, Binary64.roundHalfUp, Binary64.units_ofRatio_zero]
    decide +kernel

/-! ## Ends -/

/-- The last of `count` samples is `2 ^ 63` microseconds or more after the first, or later than the
last point in time. -/
def Endless (start : Micros) (rate : Binary64) (count : Nat) : Prop :=
  (elapsed rate count).isFinite = false ∨ 0x8000000000000000 ≤ span rate count ∨
    Micros.greatest < start.toInt + span rate count

theorem finish?_eq_none_iff (hrate : rate.isNegative = false) (count : Nat) :
    finish? start rate count = none ↔ Endless start rate count := by
  rw [finish?, span?_eq hrate, Endless]
  generalize span rate count = n
  cases (elapsed rate count).isFinite with
  | false => simp
  | true =>
    rw [if_pos rfl, Option.bind_some, Micros.greatest, ite_eq_right_iff]
    simp only [reduceCtorEq, imp_false, false_or]
    omega

theorem toInt_finish_eq (hrate : rate.isNegative = false) {count : Nat}
    (h : finish? start rate count = some finish) :
    finish.toInt = start.toInt + span rate count := by
  obtain ⟨hspan, hle⟩ := finish?_eq_some h
  rw [span?_eq hrate, Option.ite_none_right_eq_some, Option.some.injEq] at hspan
  rw [hspan.2]
  omega

/-! ## Sound packets -/

theorem start_le_finish (p : Packet) : p.start ≤ p.finish :=
  Int64.le_iff_toInt_le.mpr (finish?_eq_some p.finish?_eq).2

/-- What may be relied on in a packet. -/
structure Sound (p : Packet) : Prop where
  samples_ne_nil : p.samples ≠ []
  isFinite_rate : p.rate.isFinite = true
  isNegative_rate : p.rate.isNegative = false
  units_rate_pos : 0 < p.rate.units
  isFinite_sample : ∀ s ∈ p.samples, s.isFinite = true
  isFinite_elapsed : (elapsed p.rate p.samples.length).isFinite = true
  isNegative_elapsed : (elapsed p.rate p.samples.length).isNegative = false
  /-- The sum is one of integers, so it does not wrap around. -/
  toInt_finish : p.finish.toInt = p.start.toInt + span p.rate p.samples.length
  start_le_finish : p.start ≤ p.finish

theorem sound (p : Packet) : p.Sound := by
  obtain ⟨hfinite, hsign, hunits⟩ := (Binary64.isPositive_iff p.rate).mp p.isPositive_rate
  have hend : ¬ Endless p.start p.rate p.samples.length := by
    rw [← finish?_eq_none_iff hsign, p.finish?_eq]
    exact Option.some_ne_none p.finish
  exact {
    samples_ne_nil := p.samples_ne_nil
    isFinite_rate := hfinite
    isNegative_rate := hsign
    units_rate_pos := hunits
    isFinite_sample := p.isFinite_sample
    isFinite_elapsed := Bool.of_not_eq_false fun h => hend (.inl h)
    isNegative_elapsed := Packet.isNegative_elapsed hsign p.samples.length
    toInt_finish := toInt_finish_eq hsign p.finish?_eq
    start_le_finish := p.start_le_finish }

/-! ## Refused parts -/

/-- What is wrong with parts that make no packet.  The constructors stand in the order of the
checks, and each asks that the checks before its own are passed. -/
inductive Refused (start : Micros) (rate : Binary64) (samples : List Binary64) :
    PacketError → Prop
  | noSamples (hsamples : samples = []) : Refused start rate samples .noSamples
  | invalidRate (hsamples : samples ≠ []) (hrate : rate.isPositive = false) :
    Refused start rate samples (.invalidRate rate)
  | nonFiniteSample (hrate : rate.isPositive = true) (index : Nat) (hindex : index < samples.length)
    (hfirst : ∀ i (hi : i < index), samples[i].isFinite = true)
    (hbad : samples[index].isFinite = false) :
    Refused start rate samples (.nonFiniteSample index)
  | timeOverflow (hsamples : samples ≠ []) (hrate : rate.isPositive = true)
    (hfinite : ∀ s ∈ samples, s.isFinite = true) (hend : Endless start rate samples.length) :
    Refused start rate samples .timeOverflow

variable {channel : ChannelKey} {samples : List Binary64} {error : PacketError} {p : Packet}

theorem make_eq_error_of_refused (h : Refused start rate samples error) :
    make channel start rate samples = .error error := by
  cases h with
  | noSamples hsamples => rw [make, dif_pos hsamples]
  | invalidRate hsamples hrate =>
    rw [make, dif_neg hsamples, dif_neg (ne_true_of_eq_false hrate)]
  | nonFiniteSample hrate index hindex hfirst hbad =>
    have hsamples : samples ≠ [] := List.ne_nil_of_length_pos (Nat.zero_lt_of_lt hindex)
    have hfound : samples.findIdx? (!·.isFinite) = some index :=
      List.findIdx?_eq_some_iff_getElem.mpr ⟨hindex, by simpa using hbad, by simpa using hfirst⟩
    rw [make, dif_neg hsamples, dif_pos hrate]
    -- the match keeps the equation that it found, so it cannot be rewritten with `hfound`
    split
    case h_1 index' hs =>
      rw [hfound] at hs
      cases hs
      rfl
    case h_2 hs =>
      rw [hfound] at hs
      cases hs
  | timeOverflow hsamples hrate hfinite hend =>
    have hfound : samples.findIdx? (!·.isFinite) = none := by
      simpa [List.findIdx?_eq_none_iff] using hfinite
    have hfinish : finish? start rate samples.length = none :=
      (finish?_eq_none_iff ((Binary64.isPositive_iff rate).mp hrate).2.1 _).mpr hend
    rw [make, dif_neg hsamples, dif_pos hrate]
    split
    case h_1 index hs =>
      rw [hfound] at hs
      cases hs
    case h_2 =>
      rw [dif_neg (Option.not_isSome_iff_eq_none.mpr hfinish)]

theorem refused_of_make_eq_error (h : make channel start rate samples = .error error) :
    Refused start rate samples error := by
  unfold make at h
  split at h
  case isTrue hnil =>
    cases h
    exact .noSamples hnil
  case isFalse hsamples =>
    split at h
    case isTrue hrate =>
      split at h
      case h_1 index hindex =>
        cases h
        obtain ⟨hlt, hbad, hfirst⟩ := List.findIdx?_eq_some_iff_getElem.mp hindex
        exact .nonFiniteSample hrate index hlt (by simpa using hfirst) (by simpa using hbad)
      case h_2 hnone =>
        split at h
        case isTrue => cases h
        case isFalse hfinish =>
          cases h
          have hsign := ((Binary64.isPositive_iff rate).mp hrate).2.1
          have hend : Endless start rate samples.length :=
            (finish?_eq_none_iff hsign _).mp (Option.not_isSome_iff_eq_none.mp hfinish)
          exact .timeOverflow hsamples hrate (by simpa using hnone) hend
    case isFalse hrate =>
      cases h
      exact .invalidRate hsamples (Bool.of_not_eq_true hrate)

theorem make_eq_error_iff :
    make channel start rate samples = .error error ↔ Refused start rate samples error :=
  ⟨refused_of_make_eq_error, make_eq_error_of_refused⟩

/-- Three samples, one in a second, the first of them ten microseconds before the end of time. -/
example : make ⟨"UU", "FORK", "HHZ", "01"⟩ (Int64.maxValue - 10) ⟨0x3FF0000000000000⟩
    [⟨0⟩, ⟨0⟩, ⟨0⟩] = .error .timeOverflow :=
  make_eq_error_iff.mpr <|
    .timeOverflow (by decide) (by decide) (by decide) (.inr (.inr (by decide +kernel)))

theorem make_eq_ok_iff : make channel start rate samples = .ok p ↔
    p.channel = channel ∧ p.start = start ∧ p.rate = rate ∧ p.samples = samples := by
  constructor
  · exact parts_of_make
  · rintro ⟨rfl, rfl, rfl, rfl⟩
    exact make_parts p

end Packet

end WaveCache
