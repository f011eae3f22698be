import WaveCache.Proofs.ChannelStore.Mirror

/-!
# A channel store is a recency list

From the outside a store cannot be told from a recency list until its clock starts over.  A call
moves the clock by two at most, so this takes half of `2 ^ 64` calls at least.
-/

namespace WaveCache.ChannelStore

variable {c : ChannelStore}

/-! ## Calls before the clock starts over -/

theorem clock_visit {α : Type} (c : ChannelStore) (key : ChannelKey) (look : Window → α) :
    (c.visit key look).2.clock = c.clock ∨ (c.visit key look).2.clock = c.clock + 1 := by
  rw [visit]
  cases c.slot? key with
  | none => exact .inl rfl
  | some s => exact .inr rfl

theorem clock_add (c : ChannelStore) (p : Packet) :
    (c.add p).2.clock = c.clock ∨ (c.add p).2.clock = c.clock + 1 ∨
      (c.add p).2.clock = c.clock + 1 + 1 := by
  rcases c.add_cases p with ⟨s, _, hadd⟩ | ⟨_, _, hadd⟩ | ⟨_, _, hadd⟩
  · rw [hadd]
    exact .inr (.inl rfl)
  · rw [hadd, ← c.clock_opened p.channel]
    exact .inr (.inr rfl)
  · rw [hadd]
    exact .inl c.clock_makeRoom

theorem clock_perform (c : ChannelStore) (call : StoreCall) :
    (c.perform call).2.clock = c.clock ∨ (c.perform call).2.clock = c.clock + 1 ∨
      (c.perform call).2.clock = c.clock + 1 + 1 := by
  have hvisit {α : Type} (key : ChannelKey) (look : Window → α) :
      (c.visit key look).2.clock = c.clock ∨ (c.visit key look).2.clock = c.clock + 1 ∨
        (c.visit key look).2.clock = c.clock + 1 + 1 := by
    rcases c.clock_visit key look with h | h
    · exact .inl h
    · exact .inr (.inl h)
  cases call with
  | add p => exact c.clock_add p
  | query key t₀ t₁ => exact hvisit key fun w => w.query t₀ t₁
  | packets key t₀ t₁ => exact hvisit key fun w => w.query t₀ t₁
  | packetsSince key t₀ => exact hvisit key fun w => w.since t₀
  | contains | earliest | size | totalPackets | channels | clear => exact .inl rfl

theorem steady_of_length {calls : List StoreCall}
    (h : c.clock.toNat + 2 * calls.length < 2 ^ 64) : c.Steady calls := by
  induction calls generalizing c with
  | nil => trivial
  | cons call calls ih =>
    rw [List.length_cons] at h
    have hone : (1 : UInt64).toNat = 1 := rfl
    have hmoved : c.clock.toNat ≤ (c.perform call).2.clock.toNat ∧
        (c.perform call).2.clock.toNat ≤ c.clock.toNat + 2 := by
      rcases c.clock_perform call with hclock | hclock | hclock <;>
        simp only [hclock, UInt64.toNat_add, hone] <;> omega
    refine ⟨UInt64.le_iff_toNat_le.mpr hmoved.1, ih ?_⟩
    omega

/-! ## Answers -/

/-- A store answers calls as a recency list does. -/
theorem answers_eq_recencyList (maxChannels maxPackets : Nat) (calls : List StoreCall)
    (hsteady : (empty maxChannels maxPackets).Steady calls) :
    (empty maxChannels maxPackets).answers calls =
      (RecencyList.empty maxChannels maxPackets).answers calls :=
  (Mirrors.empty maxChannels maxPackets).answers hsteady

/-- A query that finds nothing keeps the first of two channels all the same, so that the second one
goes.  The packet of the first is still there to be found then. -/
theorem answers_eq_recencyList_touched :
    let key (station : String) : ChannelKey := { (default : ChannelKey) with station }
    let pulse (station : String) : Packet := .pulse (key station) 1 ⟨0⟩ rfl
    let calls : List StoreCall :=
      [.add (pulse "A"), .add (pulse "B"), .query (key "A") 9 5, .add (pulse "C"),
        .contains (key "B"), .query (key "A") 0 1, .totalPackets]
    (empty 2 0).Steady calls ∧
      (empty 2 0).answers calls =
        [.added (some ⟨.inserted, true, none⟩), .added (some ⟨.inserted, true, none⟩),
          .found (some []), .added (some ⟨.inserted, true, some (key "B")⟩), .live false,
          .found (some [pulse "A"]), .number 2] := by
  intro key pulse calls
  have hsteady : (empty 2 0).Steady calls := steady_of_length (by decide)
  refine ⟨hsteady, ?_⟩
  rw [answers_eq_recencyList 2 0 calls hsteady]
  decide +kernel

end WaveCache.ChannelStore
