import Mathlib.Data.List.Sort
import Mathlib.Data.String.Basic
import WaveCache.Channel.Key

/-!
# The order of channel keys

Keys are compared code by code, so their order is the lexical order of their codes.  It is total,
and a sorted list of keys is determined by its keys: `sort_eq_of_perm` says that the order in which
the keys are handed to `sort` leaves no trace.
-/

namespace WaveCache.ChannelKey

theorem eq_of_codes_eq {a b : ChannelKey} (h : a.codes = b.codes) : a = b := by
  cases a
  cases b
  simpa [codes] using h

protected theorem le_trans {a b c : ChannelKey} (hab : a ≤ b) (hbc : b ≤ c) : a ≤ c :=
  List.le_trans hab hbc

protected theorem le_total (a b : ChannelKey) : a ≤ b ∨ b ≤ a :=
  List.le_total a.codes b.codes

protected theorem le_antisymm {a b : ChannelKey} (hab : a ≤ b) (hba : b ≤ a) : a = b :=
  eq_of_codes_eq (List.le_antisymm hab hba)

theorem pairwise_sort (keys : List ChannelKey) : (sort keys).Pairwise (· ≤ ·) := by
  have h := @List.pairwise_mergeSort _ (fun a b : ChannelKey => decide (a ≤ b))
    (fun _ _ _ hab hbc => by
      simp only [decide_eq_true_eq] at hab hbc ⊢
      exact ChannelKey.le_trans hab hbc)
    (fun a b => by simpa using ChannelKey.le_total a b)
    keys
  exact h.imp fun hab => by simpa using hab

protected theorem lt_of_le_of_ne {a b : ChannelKey} (hab : a ≤ b) (hne : a ≠ b) : a < b := by
  by_contra hlt
  exact hne (ChannelKey.le_antisymm hab (List.not_lt.mp hlt))

theorem sort_perm (keys : List ChannelKey) : (sort keys).Perm keys :=
  List.mergeSort_perm keys _

/-- Keys that differ are in strictly ascending order. -/
theorem pairwise_lt_sort {keys : List ChannelKey} (h : keys.Nodup) :
    (sort keys).Pairwise (· < ·) := by
  have hnodup : (sort keys).Pairwise (· ≠ ·) := (sort_perm keys).nodup_iff.mpr h
  exact (pairwise_sort keys).imp₂ (fun _ _ => ChannelKey.lt_of_le_of_ne) hnodup

theorem sort_eq_of_perm {as bs : List ChannelKey} (h : as.Perm bs) : sort as = sort bs :=
  List.Perm.eq_of_pairwise (fun _ _ _ _ => ChannelKey.le_antisymm) (pairwise_sort as)
    (pairwise_sort bs) ((sort_perm as).trans (h.trans (sort_perm bs).symm))

end WaveCache.ChannelKey
