import WaveCache.Binary64.Decimal
import WaveCache.Proofs.Binary64.Rounding

/-!
# Doubles come back from their digits

`magnitudeOfDecimal` is one rounding of the exact number: the bounds on its exponent only save work
(`magnitudeOfDecimal_eq`), and decimals of the same value are read alike.

Seventeen digits always suffice.  The number of seventeen digits that is nearest to a magnitude is
off by less than one part in `2 ^ 54`, since `10 ^ 16` is more than `2 ^ 53`, and is read as that
magnitude.  So `shortest` finds what it looks for, and what it finds reads back.
-/

namespace WaveCache.Binary64

variable {m n : Nat}

/-! ## Reading a decimal -/

theorem fiveUnit_mul_unit : fiveUnit * unit = 10 ^ 1074 := by
  decide +kernel

theorem unit_pos : 0 < unit := by
  decide +kernel

theorem fiveUnit_pos : 0 < fiveUnit := by
  decide +kernel

/-- A quotient past every finite double is rounded to infinity or beyond. -/
theorem infinity_le_nearestMagnitude {d l : Nat} (hd : 0 < d) (hl : 2099 ≤ l)
    (h : 2 ^ l * d ≤ n) : infinity ≤ nearestMagnitude n d := by
  have hdiv : 2 ^ l ≤ n / d := (Nat.le_div_iff_mul_le hd).mpr h
  have hlog : l ≤ (n / d).log2 := by
    have hne : n / d ≠ 0 := Nat.ne_of_gt (Nat.lt_of_lt_of_le (Nat.two_pow_pos l) hdiv)
    exact (Nat.le_log2 hne).mpr hdiv
  have hmul : 2047 * fractions ≤ ((n / d).log2 - 52) * fractions :=
    Nat.mul_le_mul_right fractions (by omega)
  have hinfinity : infinity = 2047 * fractions := by decide
  rw [nearestMagnitude_of_cut rfl, hinfinity]
  omega

theorem ten_pow_pos (i : Nat) : 0 < 10 ^ i :=
  Nat.pow_pos (by decide)

/-- A decimal whose exponent is too large for any double. -/
theorem infinity_le_of_large {c j k : Nat} (hc : c ≠ 0) (h : 400 + k < j) :
    infinity ≤ nearestMagnitude (c * 10 ^ j * unit) (10 ^ k) := by
  apply infinity_le_nearestMagnitude (ten_pow_pos k) (Nat.le_refl 2099)
  obtain ⟨l, i, hl, rfl⟩ : ∃ l i, l = 401 ∧ j = l + i + k := ⟨401, j - 401 - k, rfl, by omega⟩
  have hbound : 2 ^ 2099 ≤ 10 ^ l * unit := by
    rw [hl]
    decide +kernel
  calc 2 ^ 2099 * 10 ^ k ≤ 10 ^ l * unit * 10 ^ k := Nat.mul_le_mul_right _ hbound
    _ ≤ c * 10 ^ i * (10 ^ l * unit * 10 ^ k) :=
      Nat.le_mul_of_pos_left _ (Nat.mul_pos (Nat.pos_of_ne_zero hc) (ten_pow_pos i))
    _ = c * 10 ^ (l + i + k) * unit := by rw [Nat.pow_add, Nat.pow_add]; ring

/-- A decimal whose exponent is so small that its digits are lost. -/
theorem nearestMagnitude_of_small {c j k : Nat} (h : j + 401 + c.log2 < k) :
    nearestMagnitude (c * 10 ^ j * unit) (10 ^ k) = 0 := by
  apply nearestMagnitude_of_lt_half
  obtain ⟨l, i, hl, rfl⟩ : ∃ l i, l = 402 ∧ k = l + c.log2 + i + j :=
    ⟨402, k - j - c.log2 - 402, rfl, by omega⟩
  have hbound : 2 * unit * 2 < 10 ^ l := by
    rw [hl]
    decide +kernel
  have hlog : c < 2 ^ (c.log2 + 1) := Nat.lt_log2_self
  have hpow : 2 ^ c.log2 ≤ 10 ^ c.log2 := Nat.pow_le_pow_left (by decide) _
  calc 2 * (c * 10 ^ j * unit) = c * (2 * unit * 10 ^ j) := by ring
    _ ≤ 2 ^ (c.log2 + 1) * (2 * unit * 10 ^ j) := Nat.mul_le_mul_right _ (Nat.le_of_lt hlog)
    _ = 2 * unit * 2 * (2 ^ c.log2 * 10 ^ j) := by ring
    _ < 10 ^ l * (2 ^ c.log2 * 10 ^ j) :=
      Nat.mul_lt_mul_of_pos_right hbound (Nat.mul_pos (Nat.two_pow_pos _) (ten_pow_pos j))
    _ ≤ 10 ^ l * (10 ^ c.log2 * 10 ^ j) := Nat.mul_le_mul_left _ (Nat.mul_le_mul_right _ hpow)
    _ ≤ 10 ^ l * (10 ^ c.log2 * 10 ^ j) * 10 ^ i := Nat.le_mul_of_pos_right _ (ten_pow_pos i)
    _ = 10 ^ (l + c.log2 + i + j) := by rw [Nat.pow_add, Nat.pow_add, Nat.pow_add]; ring

/-- A decimal is read as the magnitude nearest to its exact value. -/
theorem magnitudeOfDecimal_eq (c j k : Nat) :
    magnitudeOfDecimal ⟨c, (j : Int) - k⟩ =
      min infinity (nearestMagnitude (c * 10 ^ j * unit) (10 ^ k)) := by
  simp only [magnitudeOfDecimal]
  by_cases hc : c = 0
  · have hpos := ten_pow_pos k
    rw [if_pos hc, hc, Nat.zero_mul, Nat.zero_mul, nearestMagnitude_of_lt_half (by omega),
      Nat.min_zero]
  rw [if_neg hc]
  by_cases hlarge : 400 < (j : Int) - k
  · rw [if_pos hlarge, Nat.min_eq_left (infinity_le_of_large hc (by omega))]
  rw [if_neg hlarge]
  by_cases hsmall : (j : Int) - k < -(401 + c.log2 : Int)
  · rw [if_pos hsmall, nearestMagnitude_of_small (by omega), Nat.min_zero]
  rw [if_neg hsmall]
  by_cases hwhole : 0 ≤ (j : Int) - k
  · rw [if_pos hwhole]
    obtain ⟨i, rfl⟩ : ∃ i, j = i + k := ⟨j - k, by omega⟩
    have hexponent : (((i + k : Nat) : Int) - k).toNat = i := by omega
    rw [hexponent, Nat.pow_add]
    have hscale := nearestMagnitude_mul_right (c * 10 ^ i * unit) 1 (ten_pow_pos k)
    rw [Nat.one_mul, show c * 10 ^ i * unit * 10 ^ k = c * (10 ^ i * 10 ^ k) * unit by ring]
      at hscale
    rw [hscale]
    rfl
  · rw [if_neg hwhole]
    obtain ⟨i, rfl⟩ : ∃ i, k = i + j := ⟨k - j, by omega⟩
    have hexponent : (-((j : Int) - (i + j : Nat))).toNat = i := by omega
    rw [hexponent, Nat.pow_add]
    have hscale := nearestMagnitude_mul_right (c * unit) (10 ^ i) (ten_pow_pos j)
    rw [Nat.mul_right_comm] at hscale
    rw [hscale]
    rfl

/-- Zeros at the end of the digits may be moved to the exponent. -/
theorem magnitudeOfDecimal_mul_pow (c i : Nat) (e : Int) :
    magnitudeOfDecimal ⟨c * 10 ^ i, e⟩ = magnitudeOfDecimal ⟨c, e + i⟩ := by
  have he : e = (e.toNat : Int) - (-e).toNat := by omega
  have hei : e + i = ((i + e.toNat : Nat) : Int) - (-e).toNat := by omega
  rw [hei, he, magnitudeOfDecimal_eq, ← he, magnitudeOfDecimal_eq, Nat.pow_add, Nat.mul_assoc c]

theorem magnitudeOfDecimal_stripZeros (d : Decimal) :
    magnitudeOfDecimal d.stripZeros = magnitudeOfDecimal d := by
  fun_induction Decimal.stripZeros d with
  | case1 d h ih =>
    have hdigits : d.digits = d.digits / 10 * 10 ^ 1 := by omega
    rw [ih, ← Nat.cast_one, ← magnitudeOfDecimal_mul_pow, ← hdigits]
  | case2 d h => rfl

theorem digits_stripZeros_le (d : Decimal) : d.stripZeros.digits ≤ d.digits := by
  fun_induction Decimal.stripZeros d with
  | case1 d h ih =>
    have hle : d.digits / 10 ≤ d.digits := Nat.div_le_self _ _
    exact Nat.le_trans ih hle
  | case2 d h => exact Nat.le_refl _

/-! ## The number of digits -/

/-- A power of `a` is at most a power of `b` if the exponents are in a ratio that is small enough.
-/
theorem pow_le_pow_of_ratio {a b p q k l : Nat} (ha : 0 < a) (hq : q ≠ 0) (hratio : a ^ p ≤ b ^ q)
    (hexponent : k * q ≤ l * p) : a ^ k ≤ b ^ l := by
  apply (Nat.pow_le_pow_iff_left hq).mp
  calc (a ^ k) ^ q = a ^ (k * q) := (Nat.pow_mul ..).symm
    _ ≤ a ^ (l * p) := Nat.pow_le_pow_right ha hexponent
    _ = (a ^ p) ^ l := by rw [Nat.mul_comm, Nat.pow_mul]
    _ ≤ (b ^ q) ^ l := Nat.pow_le_pow_left hratio l
    _ = (b ^ l) ^ q := by rw [← Nat.pow_mul, ← Nat.pow_mul, Nat.mul_comm]

/-- A bit is worth a little more than 0.30102 of a digit and less than 0.30103, which leaves two
lengths to choose from as long as there are not too many bits. -/
theorem decimalLength_bounds (hpos : n ≠ 0) (hlog : n.log2 < 60000) :
    10 ^ (decimalLength n - 1) ≤ n ∧ n < 10 ^ decimalLength n := by
  have hmore : 10 ^ 30102 ≤ 2 ^ 100000 := by decide +kernel
  have hless : 2 ^ 100000 ≤ 10 ^ 30103 := by decide +kernel
  have hself : 2 ^ n.log2 ≤ n := Nat.log2_self_le hpos
  have hlt : n < 2 ^ (n.log2 + 1) := Nat.lt_log2_self
  have hlow : 10 ^ (n.log2 * 30102 / 100000) ≤ 2 ^ n.log2 :=
    pow_le_pow_of_ratio (by decide) (by decide) hmore (by omega)
  have hhigh : 2 ^ (n.log2 + 1) ≤ 10 ^ (n.log2 * 30102 / 100000 + 2) :=
    pow_le_pow_of_ratio (by decide) (by decide) hless (by omega)
  simp only [decimalLength, Nat.pow_eq]
  by_cases hestimate : n < 10 ^ (n.log2 * 30102 / 100000 + 1)
  · rw [if_pos hestimate]
    exact ⟨Nat.le_trans hlow hself, hestimate⟩
  · rw [if_neg hestimate]
    exact ⟨Nat.le_of_not_lt hestimate, Nat.lt_of_lt_of_le hlt hhigh⟩

/-! ## Numbers of a given length -/

/-- The first of the two numbers of a given length is at most half a step away. -/
theorem neighbours_eq_cons (tie : Tie) {d : Decimal} {places dropped : Nat}
    (hdropped : decimalLength d.digits - places = dropped) :
    ∃ c rest, neighbours tie d places = ⟨c, d.exponent + dropped⟩ :: rest ∧
      2 * d.digits ≤ 2 * (c * 10 ^ dropped) + 10 ^ dropped ∧
      2 * (c * 10 ^ dropped) ≤ 2 * d.digits + 10 ^ dropped := by
  have hgrid := ten_pow_pos dropped
  have hdiv := Nat.div_add_mod d.digits (10 ^ dropped)
  have hmod := Nat.mod_lt d.digits hgrid
  rw [Nat.mul_comm] at hdiv
  simp only [neighbours, Nat.pow_eq, hdropped]
  split
  case isTrue hnearer =>
    have hle : 2 * (d.digits % 10 ^ dropped) ≤ 10 ^ dropped := by
      simp only [Bool.or_eq_true, Bool.and_eq_true, decide_eq_true_eq] at hnearer
      rcases hnearer with hlt | ⟨heq, _⟩
      · exact Nat.le_of_lt hlt
      · exact Nat.le_of_eq heq
    exact ⟨_, _, rfl, by omega, by omega⟩
  case isFalse hnearer =>
    have hge : 10 ^ dropped ≤ 2 * (d.digits % 10 ^ dropped) := by
      simp only [Bool.or_eq_true, decide_eq_true_eq, not_or, Nat.not_lt] at hnearer
      exact hnearer.1
    have habove : (d.digits / 10 ^ dropped + 1) * 10 ^ dropped =
        d.digits / 10 ^ dropped * 10 ^ dropped + 10 ^ dropped := Nat.succ_mul _ _
    exact ⟨_, _, rfl, by omega, by omega⟩

/-- A number of a given length has no more digits, or is the least with one more. -/
theorem digits_le_of_mem_neighbours {tie : Tie} {d b : Decimal} {places : Nat}
    (hlength : d.digits < 10 ^ decimalLength d.digits) (h : b ∈ neighbours tie d places) :
    b.digits ≤ 10 ^ places := by
  have hbelow : d.digits / 10 ^ (decimalLength d.digits - places) < 10 ^ places := by
    rw [Nat.div_lt_iff_lt_mul (ten_pow_pos _), ← Nat.pow_add]
    exact Nat.lt_of_lt_of_le hlength (Nat.pow_le_pow_right (by decide) (by omega))
  simp only [neighbours, Nat.pow_eq] at h
  split at h <;>
  · simp only [List.mem_cons, List.not_mem_nil, or_false] at h
    rcases h with rfl | rfl <;> simp only <;> omega

/-! ## The fewest digits -/

/-- A finite magnitude has few enough units for its digits to be counted. -/
theorem exactDecimal_digits (hfinite : m < infinity) (hpos : m ≠ 0) :
    (exactDecimal m).digits ≠ 0 ∧ (exactDecimal m).digits.log2 < 60000 := by
  obtain ⟨k, s, hm, hunits, hs, hnormal⟩ := exists_significand m
  have hfractions : 0 < fractions := by decide
  have hne : unitsOf m ≠ 0 := by
    have hspos : s ≠ 0 := by
      rintro rfl
      rcases hnormal with rfl | hnormal <;> omega
    rw [hunits]
    exact Nat.mul_ne_zero hspos (Nat.ne_of_gt (Nat.two_pow_pos k))
  -- the exponents stay variables, so that no power is computed on the way
  obtain ⟨e, l, he, hl⟩ : ∃ e l, e = 2048 ∧ l = 60000 := ⟨_, _, rfl, rfl⟩
  have hk : k ≤ e := by
    by_contra hlarge
    have hmul : 2048 * fractions ≤ k * fractions := Nat.mul_le_mul_right _ (by omega)
    have hinfinity : infinity < 2048 * fractions := by decide
    omega
  have hdigits : (exactDecimal m).digits = unitsOf m * fiveUnit := rfl
  have hne' : unitsOf m * fiveUnit ≠ 0 := Nat.mul_ne_zero hne (Nat.ne_of_gt fiveUnit_pos)
  refine ⟨hdigits ▸ hne', ?_⟩
  rw [hdigits, ← hl, Nat.log2_lt hne', hunits]
  have hbound : 2 * fractions * 2 ^ e * fiveUnit < 2 ^ l := by
    rw [he, hl]
    decide +kernel
  refine Nat.lt_of_le_of_lt (Nat.mul_le_mul_right _ ?_) hbound
  exact Nat.mul_le_mul (Nat.le_of_lt hs) (Nat.pow_le_pow_right (by decide) hk)

/-- Seventeen digits are read back. -/
theorem magnitudeOfDecimal_seventeen (tie : Tie) (hfinite : m < infinity) (hpos : m ≠ 0) :
    ∃ d rest, neighbours tie (exactDecimal m) 17 = d :: rest ∧ magnitudeOfDecimal d = m := by
  obtain ⟨hne, hlog⟩ := exactDecimal_digits hfinite hpos
  obtain ⟨hlow, _⟩ := decimalLength_bounds hne hlog
  obtain ⟨dropped, hdropped⟩ : ∃ i, decimalLength (exactDecimal m).digits - 17 = i := ⟨_, rfl⟩
  obtain ⟨c, rest, heq, hup, hdown⟩ := neighbours_eq_cons tie hdropped
  refine ⟨_, rest, heq, ?_⟩
  have hexponent : (exactDecimal m).exponent + dropped = (dropped : Int) - (1074 : Nat) := by
    show (-1074 : Int) + dropped = _
    omega
  have hclose : Close (c * 10 ^ dropped) fiveUnit (unitsOf m) := by
    show (2 ^ 54 - 1) * (exactDecimal m).digits < _ ∧ _ < (2 ^ 54 + 1) * (exactDecimal m).digits
    rcases Nat.eq_zero_or_pos dropped with rfl | hpositive
    · rw [Nat.pow_zero] at hup hdown ⊢
      exact ⟨by omega, by omega⟩
    · have hgrid : 10 ^ 16 * 10 ^ dropped ≤ (exactDecimal m).digits := by
        rw [← Nat.pow_add, show 16 + dropped = decimalLength (exactDecimal m).digits - 1 by omega]
        exact hlow
      have hgridpos := ten_pow_pos dropped
      exact ⟨by omega, by omega⟩
  rw [hexponent, magnitudeOfDecimal_eq, ← fiveUnit_mul_unit,
    nearestMagnitude_mul_right _ _ unit_pos, nearestMagnitude_of_close hclose]
  exact Nat.min_eq_right (Nat.le_of_lt hfinite)

/-- The digits that are found are read as the magnitude they were made from, and there are at most
seventeen of them. -/
theorem shortest_spec (tie : Tie) (hfinite : m < infinity) :
    magnitudeOfDecimal (shortest tie m) = m ∧ (shortest tie m).digits ≤ 10 ^ 17 := by
  by_cases hpos : m = 0
  · rw [hpos, show shortest tie 0 = ⟨0, 0⟩ from rfl]
    exact ⟨rfl, by decide⟩
  obtain ⟨d, rest, heq, hseventeen⟩ := magnitudeOfDecimal_seventeen tie hfinite hpos
  obtain ⟨hne, hlog⟩ := exactDecimal_digits hfinite hpos
  simp only [shortest, if_neg hpos]
  generalize hfound : List.findSome? _ (List.range 17) = found
  cases found with
  | none =>
    -- this cannot be, since the last place is good
    rw [List.findSome?_eq_none_iff] at hfound
    have hnone := hfound 16 (by decide)
    simp [heq, hseventeen] at hnone
  | some d =>
    obtain ⟨n, hn, hfind⟩ := List.exists_of_findSome?_eq_some hfound
    have hread : magnitudeOfDecimal d = m := by simpa using List.find?_some hfind
    have hdigits := digits_le_of_mem_neighbours (decimalLength_bounds hne hlog).2
      (List.mem_of_find?_eq_some hfind)
    rw [Option.getD_some, magnitudeOfDecimal_stripZeros]
    refine ⟨hread, Nat.le_trans (digits_stripZeros_le d) (Nat.le_trans hdigits ?_)⟩
    exact Nat.pow_le_pow_right (by decide) (by rw [List.mem_range] at hn; omega)

/-! ## Doubles -/

/-- The sign and the magnitude make up the double. -/
theorem ofMagnitude_magnitude (x : Binary64) : ofMagnitude x.isNegative x.magnitude = x := by
  have hlt := x.bits.toNat_lt
  have hhalf : signBit = 0x8000000000000000 := rfl
  have hsum : (if x.isNegative then signBit else 0) + x.magnitude % signBit = x.bits.toNat := by
    rw [magnitude, Nat.mod_mod]
    cases hsign : x.isNegative with
    | false =>
      have hbelow : ¬ signBit ≤ x.bits.toNat := of_decide_eq_false hsign
      rw [hhalf] at hbelow
      simp only [Bool.false_eq_true, if_false, hhalf]
      omega
    | true =>
      have habove : signBit ≤ x.bits.toNat := of_decide_eq_true hsign
      rw [hhalf] at habove
      simp only [if_true, hhalf]
      omega
  rw [ofMagnitude, hsum, UInt64.ofNat_toNat]

/-- A finite double is read back from its digits, its sign included. -/
theorem ofDecimal_shortest (tie : Tie) {x : Binary64} (hx : x.isFinite = true) :
    ofDecimal x.isNegative (shortest tie x.magnitude) = x := by
  have hfinite : x.magnitude < infinity := of_decide_eq_true hx
  rw [ofDecimal, (shortest_spec tie hfinite).1, ofMagnitude_magnitude]

/-- One digit is enough for the double just below zero. -/
example : shortest .toEven 1 = ⟨5, -324⟩ ∧ ofDecimal true ⟨5, -324⟩ = ⟨0x8000000000000001⟩ := by
  decide +kernel

end WaveCache.Binary64
