import Mathlib.Data.List.Dedup
import Mathlib.Data.List.Sort
import WaveCache.Window

/-!
# The newest packets of a sequence

What a window ought to hold after a sequence of deliveries, said of the sequence alone.  `starts`
lists the distinct starts of a sequence, `lastAt?` is the last packet with a given start, and
`newest capacity` takes the greatest starts, at most `capacity` of them, each with its last packet.

`Retains` says the same thing by four facts that one delivery after another can keep.
`Retains.eq_newest` is the link: a list with the four facts is `newest`.
-/

namespace WaveCache

instance : Std.Irrefl (α := Micros) (· < ·) :=
  ⟨fun _ => Int64.lt_irrefl⟩

instance : Std.Antisymm (α := Micros) (· < ·) :=
  ⟨fun _ _ hlt hgt => absurd hgt (Int64.lt_asymm hlt)⟩

/-- Each packet starts before the next. -/
def Ascending (ps : List Packet) : Prop :=
  (ps.map (·.start)).Pairwise (· < ·)

/-- The distinct starts of packets, in ascending order. -/
def starts (ps : List Packet) : List Micros :=
  (ps.map (·.start)).dedup.mergeSort fun s t => s ≤ t

/-- The last of the packets with a given start. -/
def lastAt? (ps : List Packet) (t : Micros) : Option Packet :=
  (ps.filter fun p => p.start = t).getLast?

/-- The last packets of the greatest starts, at most `capacity` of them, in ascending order. -/
def newest (capacity : Nat) (ps : List Packet) : List Packet :=
  ((starts ps).drop ((starts ps).length - capacity)).filterMap (lastAt? ps)

/-! ## Starts -/

theorem mem_starts {ps : List Packet} {t : Micros} : t ∈ starts ps ↔ ∃ p ∈ ps, p.start = t := by
  simp [starts]

/-- The list of starts is strictly ascending, since it is sorted and names each start once. -/
theorem pairwise_starts (ps : List Packet) : (starts ps).Pairwise (· < ·) := by
  have hsorted : (starts ps).Pairwise (· ≤ ·) := by
    have h := @List.pairwise_mergeSort _ (fun s t : Micros => decide (s ≤ t))
      (fun _ _ _ hst htu => by
        simp only [decide_eq_true_eq] at hst htu ⊢
        exact Int64.le_trans hst htu)
      (fun s t => by simpa using Int64.le_total s t)
      (ps.map (·.start)).dedup
    exact h.imp fun hst => by simpa using hst
  have hnodup : (starts ps).Nodup :=
    (List.mergeSort_perm _ _).nodup_iff.mpr (List.nodup_dedup _)
  exact (hsorted.and hnodup).imp fun ⟨hle, hne⟩ => Int64.lt_of_le_of_ne hle hne

/-! ## The last packet with a start -/

theorem lastAt?_eq_some {ps : List Packet} {t : Micros} {p : Packet} (h : lastAt? ps t = some p) :
    p ∈ ps ∧ p.start = t := by
  have hmem := List.mem_of_getLast? h
  simpa using hmem

theorem lastAt?_isSome {ps : List Packet} {p : Packet} (h : p ∈ ps) :
    (lastAt? ps p.start).isSome := by
  rw [lastAt?, Option.isSome_iff_ne_none, ne_eq, List.getLast?_eq_none_iff]
  exact List.ne_nil_of_mem (List.mem_filter.mpr ⟨h, by simp⟩)

/-- A delivery is the last with its start. -/
theorem lastAt?_append_self (ps : List Packet) (p : Packet) :
    lastAt? (ps ++ [p]) p.start = some p := by
  simp [lastAt?, List.filter_append]

/-- A delivery says nothing about other starts. -/
theorem lastAt?_append_of_ne {ps : List Packet} {p : Packet} {t : Micros} (h : p.start ≠ t) :
    lastAt? (ps ++ [p]) t = lastAt? ps t := by
  simp [lastAt?, List.filter_append, h]

/-! ## The newest packets -/

/-- The starts of the newest packets are the greatest starts. -/
theorem map_start_newest (capacity : Nat) (ps : List Packet) :
    (newest capacity ps).map (·.start) = (starts ps).drop ((starts ps).length - capacity) := by
  have hlast : ∀ t ∈ (starts ps).drop ((starts ps).length - capacity),
      (lastAt? ps t).map (·.start) = some t := by
    intro t ht
    obtain ⟨p, hp, rfl⟩ := mem_starts.mp (List.mem_of_mem_drop ht)
    obtain ⟨q, hq⟩ := Option.isSome_iff_exists.mp (lastAt?_isSome hp)
    rw [hq, Option.map_some, (lastAt?_eq_some hq).2]
  rw [newest, List.map_filterMap, List.filterMap_congr hlast, List.filterMap_some]

theorem ascending_newest (capacity : Nat) (ps : List Packet) : Ascending (newest capacity ps) := by
  unfold Ascending
  rw [map_start_newest]
  exact (pairwise_starts ps).sublist (List.drop_sublist _ _)

theorem length_newest (capacity : Nat) (ps : List Packet) :
    (newest capacity ps).length = min capacity (starts ps).length := by
  rw [← List.length_map (·.start), map_start_newest, List.length_drop]
  omega

/-- If packets with the same start are the same, the newest depend on which packets there are and on
nothing else. -/
theorem newest_congr (capacity : Nat) {ps qs : List Packet} (hmem : ∀ p, p ∈ qs ↔ p ∈ ps)
    (huniq : ∀ p ∈ ps, ∀ q ∈ ps, p.start = q.start → p = q) :
    newest capacity qs = newest capacity ps := by
  have hstarts : starts qs = starts ps := by
    refine (pairwise_starts qs).eq_of_mem_iff (pairwise_starts ps) fun t => ?_
    simp [mem_starts, hmem]
  have hlast : lastAt? qs = lastAt? ps := by
    funext t
    cases hq : lastAt? qs t with
    | none =>
      cases hp : lastAt? ps t with
      | none => rfl
      | some p =>
        obtain ⟨hpm, rfl⟩ := lastAt?_eq_some hp
        have hsome := lastAt?_isSome ((hmem p).mpr hpm)
        rw [hq] at hsome
        cases hsome
    | some q =>
      obtain ⟨hqm, rfl⟩ := lastAt?_eq_some hq
      obtain ⟨p, hp⟩ := Option.isSome_iff_exists.mp (lastAt?_isSome ((hmem q).mp hqm))
      obtain ⟨hpm, hps⟩ := lastAt?_eq_some hp
      rw [hp, huniq q ((hmem q).mp hqm) p hpm hps.symm]
  rw [newest, newest, hstarts, hlast]

/-! ## Retention -/

/-- The four facts that make a list the newest of a sequence.  The last of them says that a start is
missing only if there is no room for it beside greater ones. -/
structure Retains (capacity : Nat) (ps kept : List Packet) : Prop where
  ascending : Ascending kept
  length_le : kept.length ≤ capacity
  last : ∀ p ∈ kept, lastAt? ps p.start = some p
  missing : ∀ p ∈ ps, p.start ∈ kept.map (·.start) ∨
    kept.length = capacity ∧ ∀ t ∈ kept.map (·.start), p.start < t

namespace Retains

variable {capacity : Nat} {ps kept : List Packet}

theorem nil (capacity : Nat) : Retains capacity [] [] where
  ascending := List.Pairwise.nil
  length_le := Nat.zero_le capacity
  last := by simp
  missing := by simp

/-- Packets in ascending order are the newest of themselves. -/
theorem self (ha : Ascending ps) (hle : ps.length ≤ capacity) : Retains capacity ps ps where
  ascending := ha
  length_le := hle
  last p hp := by
    obtain ⟨q, hq⟩ := Option.isSome_iff_exists.mp (lastAt?_isSome hp)
    obtain ⟨hmem, hstart⟩ := lastAt?_eq_some hq
    have hnodup : (ps.map (·.start)).Nodup := ha.imp fun hlt => Int64.ne_of_lt hlt
    rw [hq, List.inj_on_of_nodup_map hnodup hmem hp hstart]
  missing p hp := .inl (List.mem_map_of_mem hp)

/-- The starts of the sequence are the missing ones, then the kept ones. -/
theorem starts_eq (h : Retains capacity ps kept) :
    starts ps = (starts ps).filter (· ∉ kept.map (·.start)) ++ kept.map (·.start) := by
  refine List.Pairwise.eq_of_mem_iff (pairwise_starts ps) ?_ ?_
  · rw [List.pairwise_append]
    refine ⟨(pairwise_starts ps).filter _, h.ascending, ?_⟩
    intro s hs t ht
    simp only [List.mem_filter, mem_starts, decide_eq_true_eq] at hs
    obtain ⟨⟨p, hp, rfl⟩, hmissing⟩ := hs
    rcases h.missing p hp with hkept | ⟨_, hbelow⟩
    · exact absurd hkept hmissing
    · exact hbelow t ht
  · intro t
    have hkept : t ∈ kept.map (·.start) → t ∈ starts ps := by
      intro ht
      obtain ⟨q, hq, rfl⟩ := List.mem_map.mp ht
      exact mem_starts.mpr ⟨q, (lastAt?_eq_some (h.last q hq)).1, rfl⟩
    simp only [List.mem_append, List.mem_filter, decide_eq_true_eq]
    tauto

/-- The kept starts are the greatest, as many as there is room for. -/
theorem map_start_eq (h : Retains capacity ps kept) :
    kept.map (·.start) = (starts ps).drop ((starts ps).length - capacity) := by
  have heq := h.starts_eq
  have hle := h.length_le
  have hlen := congrArg List.length heq
  rw [List.length_append, List.length_map] at hlen
  by_cases hnil : (starts ps).filter (· ∉ kept.map (·.start)) = []
  · rw [hnil, List.nil_append] at heq
    rw [hnil, List.length_nil] at hlen
    rw [show (starts ps).length - capacity = 0 by omega, List.drop_zero]
    exact heq.symm
  · -- something is missing, so there was no room for it
    obtain ⟨t, ht⟩ := List.exists_mem_of_ne_nil _ hnil
    simp only [List.mem_filter, mem_starts, decide_eq_true_eq] at ht
    obtain ⟨⟨p, hp, rfl⟩, hmissing⟩ := ht
    have hfull : kept.length = capacity := by
      rcases h.missing p hp with hkept | ⟨hfull, _⟩
      · exact absurd hkept hmissing
      · exact hfull
    rw [show (starts ps).length - capacity
      = ((starts ps).filter (· ∉ kept.map (·.start))).length by omega]
    conv_rhs => rw [heq]
    rw [List.drop_left']
    rw [← heq]

theorem eq_newest (h : Retains capacity ps kept) : kept = newest capacity ps := by
  rw [newest, ← h.map_start_eq, List.filterMap_map]
  have hlast : ∀ p ∈ kept, (lastAt? ps ∘ (·.start)) p = some p := h.last
  rw [List.filterMap_congr hlast]
  simp

end Retains

end WaveCache
