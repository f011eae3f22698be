import WaveCache.Proofs.Packet.Making
import WaveCache.Proofs.Window.Bisection
import WaveCache.Proofs.Window.Run

/-!
# Queries of a window

A query stops at the first packet that starts too late.  Since the packets of a window are in
ascending order, it misses nothing: `query_eq_filter` says that it finds all packets that overlap
the stretch of time, in their order.  `query_finds` says so of windows after any calls, and that to
overlap is to have a microsecond in common.
-/

namespace WaveCache

/-! ## Common time -/

namespace Packet

/-- A packet has a microsecond in common with the closed stretch from `t₀` to `t₁`. -/
def Meets (p : Packet) (t₀ t₁ : Micros) : Prop :=
  ∃ t, p.start ≤ t ∧ t ≤ p.finish ∧ t₀ ≤ t ∧ t ≤ t₁

/-- The later of the two starts is in common, if anything is. -/
theorem meets_iff (p : Packet) (t₀ t₁ : Micros) :
    p.Meets t₀ t₁ ↔ t₀ ≤ t₁ ∧ p.overlaps t₀ t₁ = true := by
  rw [overlaps, Bool.and_eq_true_iff, decide_eq_true_eq, decide_eq_true_eq]
  constructor
  · rintro ⟨t, hstart, hfinish, hfrom, hto⟩
    exact ⟨Int64.le_trans hfrom hto, Int64.le_trans hstart hto, Int64.le_trans hfrom hfinish⟩
  · rintro ⟨hrange, hstart, hfinish⟩
    rcases Int64.le_total p.start t₀ with hle | hle
    · exact ⟨t₀, hle, hfinish, Int64.le_refl _, hrange⟩
    · exact ⟨p.start, Int64.le_refl _, p.start_le_finish, hle, hstart⟩

end Packet

/-! ## Queries -/

/-- In ascending order, the packets up to a time are those in front. -/
theorem takeWhile_start_le {ps : List Packet} (ha : Ascending ps) (t : Micros) :
    (ps.takeWhile fun p => p.start ≤ t) = ps.filter fun p => p.start ≤ t := by
  induction ps with
  | nil => rfl
  | cons p ps ih =>
    obtain ⟨hlater, hrest⟩ := List.pairwise_cons.mp ha
    by_cases hp : p.start ≤ t
    · rw [List.takeWhile_cons_of_pos (by simpa using hp),
        List.filter_cons_of_pos (by simpa using hp), ih hrest]
    · have hnone : ∀ q ∈ ps, ¬ q.start ≤ t := by
        intro q hq hle
        exact hp (Int64.le_of_lt (Int64.lt_of_lt_of_le
          (hlater q.start (List.mem_map.mpr ⟨q, hq, rfl⟩)) hle))
      rw [List.takeWhile_cons_of_neg (by simpa using hp),
        List.filter_cons_of_neg (by simpa using hp), eq_comm, List.filter_eq_nil_iff]
      intro q hq
      simpa using hnone q hq

theorem Window.query_eq_filter {w : Window} (ha : Ascending w.packets) {t₀ t₁ : Micros}
    (h : t₀ ≤ t₁) : w.query t₀ t₁ = w.packets.filter fun p => p.overlaps t₀ t₁ := by
  rw [query, if_neg (Int64.not_lt.mpr h), takeWhile_start_le ha, List.filter_filter]
  refine List.filter_congr fun p _ => ?_
  rw [Packet.overlaps, Bool.and_comm]

namespace Window

/-- No packet starts after the last point in time. -/
theorem since_eq_query (w : Window) (t₀ : Micros) : w.since t₀ = w.query t₀ Int64.maxValue := by
  have hall : (w.packets.takeWhile fun p => p.start ≤ Int64.maxValue) = w.packets :=
    List.takeWhile_eq_self_iff.mpr fun p _ => decide_eq_true (Int64.le_maxValue p.start)
  rw [since, query, if_neg (Int64.not_lt.mpr (Int64.le_maxValue t₀)), hall]

/-- After any calls, a query finds the packets of a window that overlap the stretch of time, in
ascending order, if the stretch has a microsecond in it.  These are the packets that have one in
common with it.  The packets since a time are those that a query up to the last point in time finds.
It does not matter whether the first packet that starts too late is found one by one or by halving.
-/
theorem query_finds (channel : ChannelKey) (capacity : Nat) (calls : List WindowCall)
    (t₀ t₁ : Micros) :
    let w := (empty channel capacity).after calls
    Ascending w.packets ∧
    w.query t₀ t₁ = w.packets.filter (fun p => t₀ ≤ t₁ && p.overlaps t₀ t₁) ∧
    (∀ p, p ∈ w.query t₀ t₁ ↔ p ∈ w.packets ∧ p.Meets t₀ t₁) ∧
    w.since t₀ = w.query t₀ Int64.maxValue ∧
    w.queryUpTo t₀ t₁ = w.query t₀ t₁ := by
  intro w
  have ha : Ascending w.packets := ((Ordered.empty channel capacity).after calls).ascending
  have hfilter : w.query t₀ t₁ = w.packets.filter fun p => t₀ ≤ t₁ && p.overlaps t₀ t₁ := by
    by_cases hrange : t₀ ≤ t₁
    · simp only [query_eq_filter ha hrange, hrange, decide_true, Bool.true_and]
    · rw [query, if_pos (Int64.not_le.mp hrange)]
      simp [hrange]
  refine ⟨ha, hfilter, fun p => ?_, w.since_eq_query t₀, queryUpTo_eq_query ha t₀ t₁⟩
  rw [hfilter, List.mem_filter, p.meets_iff, Bool.and_eq_true_iff, decide_eq_true_eq]

end Window

end WaveCache
