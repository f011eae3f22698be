import WaveCache.Binary64.Rounding

/-!
# Signs, infinities and zeros of rounded quotients

A rounded quotient keeps the sign that it was given, so products and quotients of doubles have the
sign that the signs of the operands ask for.  It is an infinity if it is no number, and zero if the
exact quotient is.
-/

namespace WaveCache.Binary64

variable {negative : Bool} {m n d : Nat}

/-! ## Sign and magnitude -/

theorem toNat_bits_ofMagnitude (negative : Bool) (m : Nat) :
    (ofMagnitude negative m).bits.toNat = (if negative then signBit else 0) + m % signBit := by
  have hhalf : signBit = 0x8000000000000000 := rfl
  have hlt : m % signBit < signBit := Nat.mod_lt _ (by decide)
  refine UInt64.toNat_ofNat_of_lt' ?_
  rw [hhalf] at hlt ⊢
  show _ < 2 ^ 64
  split <;> omega

theorem isNegative_ofMagnitude (negative : Bool) (m : Nat) :
    (ofMagnitude negative m).isNegative = negative := by
  have hlt : m % signBit < signBit := Nat.mod_lt _ (by decide)
  rw [isNegative, toNat_bits_ofMagnitude]
  cases negative with
  | false =>
    rw [if_neg Bool.false_ne_true]
    exact decide_eq_false (by omega)
  | true =>
    rw [if_pos rfl]
    exact decide_eq_true (by omega)

theorem magnitude_ofMagnitude (negative : Bool) (h : m < signBit) :
    (ofMagnitude negative m).magnitude = m := by
  rw [magnitude, toNat_bits_ofMagnitude]
  cases negative with
  | false => rw [if_neg Bool.false_ne_true, Nat.zero_add, Nat.mod_mod, Nat.mod_eq_of_lt h]
  | true => rw [if_pos rfl, Nat.add_mod_left, Nat.mod_mod, Nat.mod_eq_of_lt h]

theorem unitsOf_pos_iff : 0 < unitsOf m ↔ 0 < m := by
  rw [unitsOf]
  split
  case isTrue => exact Iff.rfl
  case isFalse hm =>
    have hfractions : 0 < fractions := by decide
    exact iff_of_true (Nat.mul_pos (Nat.add_pos_left hfractions _) (Nat.two_pow_pos _)) (by omega)

/-- A double is positive if it is a number, without a sign and not zero. -/
theorem isPositive_iff (x : Binary64) :
    x.isPositive = true ↔ x.isFinite = true ∧ x.isNegative = false ∧ 0 < x.units := by
  rw [isPositive, Bool.and_eq_true, Bool.and_eq_true, Bool.not_eq_true', decide_eq_true_eq,
    and_assoc, units, unitsOf_pos_iff]

/-! ## Rounded quotients -/

theorem isNegative_ofRatio (negative : Bool) (n d : Nat) :
    (ofRatio negative n d).isNegative = negative :=
  isNegative_ofMagnitude _ _

theorem isNegative_ofNat (n : Nat) : (ofNat n).isNegative = false :=
  isNegative_ofRatio false (n * unit) 1

theorem isNegative_div (x y : Binary64) :
    (x.div y).isNegative = (x.isNegative != y.isNegative) :=
  isNegative_ofRatio _ _ _

theorem isNegative_mul (x y : Binary64) :
    (x.mul y).isNegative = (x.isNegative != y.isNegative) :=
  isNegative_ofRatio _ _ _

theorem magnitude_ofRatio (negative : Bool) (n d : Nat) :
    (ofRatio negative n d).magnitude = min (nearestMagnitude n d) infinity := by
  have hle : min (nearestMagnitude n d) infinity ≤ infinity := Nat.min_le_right _ _
  exact magnitude_ofMagnitude negative (Nat.lt_of_le_of_lt hle (by decide))

/-- A rounded quotient is no NaN. -/
theorem ofRatio_of_not_isFinite (h : (ofRatio negative n d).isFinite = false) :
    ofRatio negative n d = ofMagnitude negative infinity := by
  have hinfinity : infinity ≤ (ofRatio negative n d).magnitude :=
    Nat.not_lt.mp (of_decide_eq_false h)
  rw [magnitude_ofRatio] at hinfinity
  rw [ofRatio, Nat.le_antisymm (Nat.min_le_right _ _) hinfinity]

theorem nearestMagnitude_zero (d : Nat) : nearestMagnitude 0 d = 0 := by
  have hlog : Nat.log2 0 = 0 := by decide
  simp only [nearestMagnitude, divNearestEven, Nat.zero_div, Nat.zero_mod, hlog, Nat.zero_sub,
    Nat.zero_mul, Nat.mul_zero, Nat.zero_add, and_true]
  rw [if_pos ((Nat.eq_zero_or_pos _).symm.imp_right Eq.symm)]

theorem units_ofRatio_zero (negative : Bool) (d : Nat) : (ofRatio negative 0 d).units = 0 := by
  rw [units, magnitude_ofRatio, nearestMagnitude_zero]
  rfl

end WaveCache.Binary64
