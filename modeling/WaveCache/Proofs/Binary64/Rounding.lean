import Mathlib.Algebra.Order.Ring.Nat
import Mathlib.Tactic.Ring
import WaveCache.Binary64.Rounding

/-!
# Quotients that are rounded to a given magnitude

`nearestMagnitude n d` depends on the quotient of `n` and `d` alone, and a quotient that differs
from the units of a magnitude by less than one part in `2 ^ 54` is rounded to that magnitude: such a
difference is less than half the way to the next magnitude on either side, even just below a power
of two, where the next one is only half as far away.
-/

namespace WaveCache.Binary64

variable {n d q m k : Nat}

/-! ## Rounding to a natural number -/

theorem divNearestEven_mul_right (n d : Nat) {c : Nat} (hc : 0 < c) :
    divNearestEven (n * c) (d * c) = divNearestEven n d := by
  have hdiv : n * c / (d * c) = n / d := Nat.mul_div_mul_right n d hc
  have hmod : n * c % (d * c) = n % d * c := Nat.mul_mod_mul_right c n d
  have hlt : 2 * (n % d * c) < d * c ↔ 2 * (n % d) < d := by
    rw [← Nat.mul_assoc]
    exact Nat.mul_lt_mul_right hc
  have heq : 2 * (n % d * c) = d * c ↔ 2 * (n % d) = d := by
    rw [← Nat.mul_assoc]
    exact Nat.mul_left_inj (Nat.ne_of_gt hc)
  simp only [divNearestEven, hdiv, hmod, hlt, heq]

/-- A quotient less than a half away from a natural number is rounded to it. -/
theorem divNearestEven_of_lt (hlow : 2 * (q * d) < 2 * n + d) (hhigh : 2 * n < 2 * (q * d) + d) :
    divNearestEven n d = q := by
  have hd : 0 < d := by omega
  have hn := Nat.div_add_mod n d
  have hmod := Nat.mod_lt n hd
  rw [Nat.mul_comm] at hn
  simp only [divNearestEven]
  by_cases hup : n / d = q
  · rw [hup] at hn ⊢
    rw [if_pos (.inl (by omega))]
  · -- the quotient is cut to the number before
    have hq : n / d + 1 = q := by
      have hle : n / d ≤ q := by
        apply Nat.le_of_lt_succ
        apply (Nat.div_lt_iff_lt_mul hd).mpr
        rw [Nat.succ_mul]
        omega
      have hge : q ≤ n / d + 1 := by
        apply Nat.le_of_lt_succ
        apply Nat.lt_of_mul_lt_mul_right (a := d)
        rw [Nat.succ_mul, Nat.succ_mul]
        omega
      omega
    have hmul : q * d = n / d * d + d := by rw [← hq, Nat.succ_mul]
    rw [if_neg (by omega), hq]

/-! ## Rounding to a magnitude -/

theorem nearestMagnitude_mul_right (n d : Nat) {c : Nat} (hc : 0 < c) :
    nearestMagnitude (n * c) (d * c) = nearestMagnitude n d := by
  have hdiv : n * c / (d * c) = n / d := Nat.mul_div_mul_right n d hc
  simp only [nearestMagnitude, hdiv]
  rw [Nat.mul_right_comm, divNearestEven_mul_right _ _ hc]

theorem nearestMagnitude_of_cut (hcut : (n / d).log2 - 52 = k) :
    nearestMagnitude n d = k * fractions + divNearestEven n (d * 2 ^ k) := by
  simp only [nearestMagnitude, hcut]
  rfl

/-- A quotient of at most 53 binary digits is not cut, and a longer one is cut to 53. -/
theorem log2_sub_eq (hlow : k = 0 ∨ 2 ^ (k + 52) ≤ q) (hhigh : q < 2 ^ (k + 53)) :
    q.log2 - 52 = k := by
  by_cases hq : q = 0
  · subst hq
    have hpow := Nat.two_pow_pos (k + 52)
    have hlog : Nat.log2 0 = 0 := by decide
    omega
  · have hlt : q.log2 < k + 53 := (Nat.log2_lt hq).mpr hhigh
    rcases hlow with rfl | hlow
    · omega
    · have hge := (Nat.le_log2 hq).mpr hlow
      omega

/-- A quotient below a half is rounded to zero. -/
theorem nearestMagnitude_of_lt_half (h : 2 * n < d) : nearestMagnitude n d = 0 := by
  have hdiv : n / d = 0 := Nat.div_eq_of_lt (by omega)
  have hcut : (n / d).log2 - 52 = 0 := log2_sub_eq (.inl rfl) (by omega)
  rw [nearestMagnitude_of_cut hcut, Nat.pow_zero, Nat.mul_one, Nat.zero_mul, Nat.zero_add]
  exact divNearestEven_of_lt (by omega) (by omega)

/-- The digits of a magnitude in base 2, at most 53 of them, and the power of two behind them, which
is there only if all 53 digits are. -/
theorem exists_significand (m : Nat) : ∃ k s, m = k * fractions + s ∧ unitsOf m = s * 2 ^ k ∧
    s < 2 * fractions ∧ (k = 0 ∨ fractions ≤ s) := by
  have hpos : 0 < fractions := by decide
  by_cases hm : m < fractions
  · exact ⟨0, m, by omega, by rw [unitsOf, if_pos hm, Nat.pow_zero, Nat.mul_one], by omega,
      .inl rfl⟩
  · have hdiv := Nat.div_add_mod m fractions
    have hmod := Nat.mod_lt m hpos
    have hone : 1 ≤ m / fractions := (Nat.one_le_div_iff hpos).mpr (Nat.le_of_not_lt hm)
    refine ⟨m / fractions - 1, fractions + m % fractions, ?_, ?_, by omega, .inr (by omega)⟩
    · rw [Nat.sub_mul, Nat.one_mul, Nat.mul_comm]
      have hle : fractions ≤ fractions * (m / fractions) := Nat.le_mul_of_pos_right _ hone
      omega
    · rw [unitsOf, if_neg hm]
      rfl

/-- A quotient less than half a step below a power of two is rounded to it.  The step is that of the
magnitudes below. -/
theorem nearestMagnitude_of_lt_pow {j e : Nat} (he : e = d * 2 ^ j)
    (hlow : (2 ^ 54 - 1) * e < 2 * n) (hhigh : n < 2 ^ 53 * e) :
    nearestMagnitude n d = (j + 2) * fractions := by
  have hd : 0 < d := by
    rcases Nat.eq_zero_or_pos d with rfl | hd
    · rw [he] at hhigh
      omega
    · exact hd
  have hdiv (i : Nat) : 2 ^ (j + i) * d = 2 ^ i * e := by
    rw [he]
    ring
  have hcut : (n / d).log2 - 52 = j := by
    refine log2_sub_eq (.inr ((Nat.le_div_iff_mul_le hd).mpr ?_))
      ((Nat.div_lt_iff_lt_mul hd).mpr ?_)
    · have hpow := hdiv 52
      omega
    · rw [hdiv 53]
      exact hhigh
  have hround : divNearestEven n (d * 2 ^ j) = 2 ^ 53 := by
    rw [← he]
    exact divNearestEven_of_lt (by omega) (by omega)
  have hfractions : fractions = 2 ^ 52 := rfl
  rw [nearestMagnitude_of_cut hcut, hround, hfractions]
  omega

/-- The quotient of `n` and `d` differs from `u` by less than one part in `2 ^ 54`. -/
def Close (n d u : Nat) : Prop :=
  (2 ^ 54 - 1) * (u * d) < 2 ^ 54 * n ∧ 2 ^ 54 * n < (2 ^ 54 + 1) * (u * d)

/-- A quotient close to the units of a magnitude is rounded to this magnitude. -/
theorem nearestMagnitude_of_close (h : Close n d (unitsOf m)) : nearestMagnitude n d = m := by
  obtain ⟨k, s, hm, hunits, hs, hnormal⟩ := exists_significand m
  obtain ⟨hlow, hhigh⟩ := h
  have hfractions : fractions = 2 ^ 52 := rfl
  -- all that follows compares multiples of `e`, the step between magnitudes here
  obtain ⟨e, he⟩ : ∃ e, e = d * 2 ^ k := ⟨_, rfl⟩
  have hproduct : unitsOf m * d = s * e := by
    rw [hunits, he]
    ring
  rw [hproduct] at hlow hhigh
  have hd : 0 < d := by
    rcases Nat.eq_zero_or_pos d with rfl | hd
    · rw [he] at hhigh
      omega
    · exact hd
  have hpow (i : Nat) : 2 ^ (k + i) * d = 2 ^ i * e := by
    rw [he]
    ring
  have hupper : s * e ≤ (2 ^ 53 - 1) * e := Nat.mul_le_mul_right e (by omega)
  have hdiv : n / d < 2 ^ (k + 53) := by
    apply (Nat.div_lt_iff_lt_mul hd).mpr
    rw [hpow 53]
    omega
  by_cases hcut : k = 0 ∨ 2 ^ (k + 52) ≤ n / d
  · rw [nearestMagnitude_of_cut (log2_sub_eq hcut hdiv), ← he, hm]
    congr 1
    exact divNearestEven_of_lt (by omega) (by omega)
  · -- otherwise the quotient lies just below the power of two that is meant
    obtain ⟨hk, hbelow⟩ := not_or.mp hcut
    have hlt : n < 2 ^ 52 * e := by
      rw [← hpow 52]
      exact (Nat.div_lt_iff_lt_mul hd).mp (Nat.lt_of_not_le hbelow)
    have hsignificand : s = 2 ^ 52 := by
      have hs' : fractions ≤ s := hnormal.resolve_left hk
      by_contra hne
      have hmore : (2 ^ 52 + 1) * e ≤ s * e := Nat.mul_le_mul_right e (by omega)
      omega
    subst hsignificand
    obtain ⟨j, rfl⟩ : ∃ j, k = j + 1 := Nat.exists_eq_succ_of_ne_zero hk
    obtain ⟨e', he'⟩ : ∃ e', e' = d * 2 ^ j := ⟨_, rfl⟩
    have htwice : e = 2 * e' := by
      rw [he, he', Nat.pow_succ]
      ring
    rw [nearestMagnitude_of_lt_pow he' (by omega) (by omega), hm, hfractions]
    omega

end WaveCache.Binary64
