import Mathlib.Algebra.Order.Ring.Nat
import Mathlib.Data.List.Induction
import Mathlib.Tactic.Ring
import WaveCache.Text.Digits

/-!
# Runs of digits

What a run of digits stands for if it is cut in two, or has zeros in front or behind.  The digits of
a number other than zero do not begin with a zero, and there are no more of them than the powers of
ten above the number allow.
-/

namespace WaveCache.Text

variable {n k : Nat}

/-! ## Values -/

theorem digitsValue_append_run (as bs : List UInt8) :
    digitsValue (as ++ bs) = digitsValue as * 10 ^ bs.length + digitsValue bs := by
  induction bs using List.reverseRecOn with
  | nil => simp [digitsValue]
  | append_singleton bs b ih =>
    rw [← List.append_assoc, digitsValue_append, digitsValue_append, ih, List.length_append,
      List.length_singleton, Nat.pow_succ]
    ring

theorem digitsValue_zeros (k : Nat) : digitsValue (List.replicate k (digit 0)) = 0 := by
  induction k with
  | zero => rfl
  | succ k ih =>
    rw [List.replicate_succ', digitsValue_append, ih, digitValue_digit]

/-- Zeros in front change nothing. -/
theorem digitsValue_zeros_append (k : Nat) (bs : List UInt8) :
    digitsValue (List.replicate k (digit 0) ++ bs) = digitsValue bs := by
  rw [digitsValue_append_run, digitsValue_zeros, Nat.zero_mul, Nat.zero_add]

/-- Zeros behind multiply by powers of ten. -/
theorem digitsValue_append_zeros (bs : List UInt8) (k : Nat) :
    digitsValue (bs ++ List.replicate k (digit 0)) = digitsValue bs * 10 ^ k := by
  rw [digitsValue_append_run, digitsValue_zeros, List.length_replicate, Nat.add_zero]

/-! ## The digits of a number -/

theorem digits_zero : digits 0 = [digit 0] := by
  rw [digits, if_pos (by decide)]

theorem head?_digits (hn : n ≠ 0) : (digits n).head? ≠ some (digit 0) := by
  fun_induction digits n with
  | case1 n h =>
    intro heq
    have hvalue := congrArg digitValue (Option.some.inj heq)
    rw [digitValue_digit, digitValue_digit] at hvalue
    omega
  | case2 n h ih =>
    obtain ⟨b, bs, heq⟩ := List.exists_cons_of_ne_nil (digits_ne_nil (n / 10))
    rw [heq] at ih ⊢
    exact ih (by omega)

theorem head?_digits_append (hn : n ≠ 0) (bs : List UInt8) :
    (digits n ++ bs).head? ≠ some (digit 0) := by
  have hhead := head?_digits hn
  obtain ⟨b, ds, heq⟩ := List.exists_cons_of_ne_nil (digits_ne_nil n)
  rw [heq] at hhead ⊢
  exact hhead

theorem length_digits_le (hk : 0 < k) (h : n < 10 ^ k) : (digits n).length ≤ k := by
  induction k generalizing n with
  | zero => omega
  | succ k ih =>
    rw [digits]
    by_cases hn : n < 10
    · rw [if_pos hn]
      exact hk
    · have hpow : 10 ^ (k + 1) = 10 ^ k * 10 := Nat.pow_succ ..
      have hk' : 0 < k := by
        rcases Nat.eq_zero_or_pos k with rfl | hk'
        · omega
        · exact hk'
      have hlength := ih hk' (show n / 10 < 10 ^ k by omega)
      rw [if_neg hn, List.length_append, List.length_singleton]
      omega

end WaveCache.Text
