import WaveCache.Proofs.ChannelStore.Mirror

/-!
# Stores that cannot be told apart

`ChannelStore.recency` lists the live channels by their stamps, the one that would be given up last
in front.  In a store that mirrors a recency list it is the list of keys.

`Alike` relates two stores that mirror the same recency list, whatever their stamps and clocks are.
Such stores answer all calls alike, and they stay alike: `Alike.perform` is the step and
`Alike.after` the run.  It is enough that the clock of the one that is ahead does not start over,
since both clocks move by the same ticks.
-/

namespace WaveCache

/-! ## The order of slots -/

/-- A slot is not given up before another. -/
def Slot.Fresher (s t : Slot) : Prop :=
  ¬ s.staler t = true

instance : DecidableRel Slot.Fresher :=
  fun s t => inferInstanceAs (Decidable (¬ s.staler t = true))

theorem Slot.fresher_iff {s t : Slot} : s.Fresher t ↔
    t.touched < s.touched ∨ t.touched = s.touched ∧ t.opened ≤ s.opened := by
  simp only [Fresher, staler, Bool.or_eq_true, Bool.and_eq_true, decide_eq_true_eq,
    UInt64.lt_iff_toNat_lt, UInt64.le_iff_toNat_le, ← UInt64.toNat_inj]
  omega

instance : Std.Total Slot.Fresher where
  total s t := by
    simp only [Slot.fresher_iff, UInt64.lt_iff_toNat_lt, UInt64.le_iff_toNat_le,
      ← UInt64.toNat_inj]
    omega

instance : IsTrans Slot Slot.Fresher where
  trans s t u hst htu := by
    simp only [Slot.fresher_iff, UInt64.lt_iff_toNat_lt, UInt64.le_iff_toNat_le,
      ← UInt64.toNat_inj] at hst htu ⊢
    omega

namespace ChannelStore

variable {c d : ChannelStore}

/-! ## Calls one after another -/

/-- The store after calls made one after another. -/
def after (c : ChannelStore) : List StoreCall → ChannelStore
  | [] => c
  | call :: calls => (c.perform call).2.after calls

theorem after_append (c : ChannelStore) (front back : List StoreCall) :
    c.after (front ++ back) = (c.after front).after back := by
  induction front generalizing c with
  | nil => rfl
  | cons call front ih => exact ih (c.perform call).2

theorem steady_append {front back : List StoreCall} :
    c.Steady (front ++ back) ↔ c.Steady front ∧ (c.after front).Steady back := by
  induction front generalizing c with
  | nil => simp [Steady, after]
  | cons call front ih =>
    rw [List.cons_append, Steady, Steady, ih, and_assoc]
    rfl

theorem Steady.clock_le {calls : List StoreCall} (h : c.Steady calls) :
    c.clock ≤ (c.after calls).clock := by
  induction calls generalizing c with
  | nil => exact UInt64.le_refl _
  | cons call calls ih => exact UInt64.le_trans h.1 (ih h.2)

/-- Whether the clock starts over can be found out by making the calls. -/
instance decidableSteady :
    (c : ChannelStore) → (calls : List StoreCall) → Decidable (c.Steady calls)
  | _, [] => inferInstanceAs (Decidable True)
  | c, call :: calls =>
    have := decidableSteady (c.perform call).2 calls
    inferInstanceAs (Decidable (_ ∧ _))

/-! ## Recency -/

/-- The live channels, those that would be given up last in front. -/
def recency (c : ChannelStore) : List ChannelKey :=
  (c.slots.insertionSort Slot.Fresher).map Slot.channel

end ChannelStore

/-! ## Ticks -/

/-- How far a call moves the clock of a store that mirrors the list. -/
def RecencyList.ticks (l : RecencyList) : StoreCall → UInt64
  | .add p =>
    if (l.window? p.channel).isSome then 1
    else if Window.isReservable l.maxPackets then 2 else 0
  | .query key _ _ | .packets key _ _ | .packetsSince key _ =>
    if (l.window? key).isSome then 1 else 0
  | _ => 0

/-- A call moves the clock by two at most. -/
theorem RecencyList.ticks_cases (l : RecencyList) (call : StoreCall) :
    l.ticks call = 0 ∨ l.ticks call = 1 ∨ l.ticks call = 2 := by
  unfold ticks
  grind

namespace Mirrors

variable {c : ChannelStore} {l : RecencyList} {arranged : List Slot}

/-- No two channels were touched at the same time. -/
theorem nodup_touched (h : Mirrors c l arranged) : (c.slots.map Slot.touched).Nodup := by
  rw [← (h.perm.map Slot.touched).nodup_iff]
  exact List.pairwise_map.mpr (h.descending.imp fun hlt => (UInt64.ne_of_lt hlt).symm)

/-- The stamps of an arrangement descend, and so they are the order of recency. -/
theorem recency_eq (h : Mirrors c l arranged) : c.recency = l.keys := by
  have hdescending : arranged.Pairwise Slot.Fresher :=
    h.descending.imp fun hlt => Slot.fresher_iff.mpr (.inl hlt)
  have hperm : (c.slots.insertionSort Slot.Fresher).Perm arranged :=
    (List.perm_insertionSort _ _).trans h.perm.symm
  rw [h.keys_eq, ChannelStore.recency]
  congr 1
  refine List.Perm.eq_of_pairwise ?_ (List.pairwise_insertionSort _ _) hdescending hperm
  intro s t hs ht hst hts
  have hmem : s ∈ c.slots := (List.perm_insertionSort _ _).mem_iff.mp hs
  refine List.inj_on_of_nodup_map h.nodup_touched hmem (h.perm.mem_iff.mp ht) ?_
  rw [Slot.fresher_iff] at hst hts
  simp only [UInt64.lt_iff_toNat_lt, ← UInt64.toNat_inj] at hst hts ⊢
  omega

theorem clock_visit {α : Type} (h : Mirrors c l arranged) (key : ChannelKey) (look : Window → α) :
    (c.visit key look).2.clock = c.clock + if (l.window? key).isSome then 1 else 0 := by
  rw [h.window?_eq, Option.isSome_map, ChannelStore.visit]
  cases c.slot? key with
  | none => exact (UInt64.add_zero _).symm
  | some s => rfl

theorem clock_perform (h : Mirrors c l arranged) (call : StoreCall) :
    (c.perform call).2.clock = c.clock + l.ticks call := by
  cases call with
  | add p =>
    rw [RecencyList.ticks, h.window?_eq, h.maxPackets, Option.isSome_map]
    show (c.add p).2.clock = _
    rcases c.add_cases p with ⟨s, hs, hadd⟩ | ⟨hs, hroom, hadd⟩ | ⟨hs, hroom, hadd⟩
    · rw [hadd, hs]
      rfl
    · rw [hadd, hs, hroom]
      show (c.opened p.channel).clock + 1 = c.clock + 2
      rw [c.clock_opened, UInt64.add_assoc]
      rfl
    · rw [hadd, hs, hroom, c.clock_makeRoom]
      exact (UInt64.add_zero _).symm
  | query key t₀ t₁ => exact h.clock_visit key fun w => w.query t₀ t₁
  | packets key t₀ t₁ => exact h.clock_visit key fun w => w.query t₀ t₁
  | packetsSince key t₀ => exact h.clock_visit key fun w => w.since t₀
  | contains | earliest | size | totalPackets | channels | clear => exact (UInt64.add_zero _).symm

end Mirrors

/-! ## Alike stores -/

/-- Two stores that mirror the same recency list, the clock of the first not behind that of the
second. -/
structure ChannelStore.Alike (c d : ChannelStore) : Prop where
  mirrors : ∃ l arranged arranged', Mirrors c l arranged ∧ Mirrors d l arranged'
  clock_le : d.clock ≤ c.clock

namespace ChannelStore.Alike

variable {c d : ChannelStore}

/-- Two stores without channels are alike. -/
theorem of_slots_eq_nil (hc : c.slots = []) (hd : d.slots = [])
    (hchannels : d.maxChannels = c.maxChannels) (hpackets : d.maxPackets = c.maxPackets)
    (hclock : d.clock ≤ c.clock) : Alike c d := by
  have hmirrors : ∀ e : ChannelStore, e.slots = [] →
      Mirrors e ⟨e.maxChannels, e.maxPackets, []⟩ [] := by
    intro e he
    exact {
      maxChannels := rfl
      maxPackets := rfl
      entries := rfl
      perm := by rw [he]
      nodup := List.nodup_nil
      descending := List.Pairwise.nil
      touched_le := by simp }
  refine ⟨⟨_, [], [], hmirrors c hc, ?_⟩, hclock⟩
  rw [← hchannels, ← hpackets]
  exact hmirrors d hd

theorem maxChannels_eq (h : Alike c d) : c.maxChannels = d.maxChannels := by
  obtain ⟨_, _, _, hc, hd⟩ := h.mirrors
  exact hc.maxChannels.symm.trans hd.maxChannels

theorem maxPackets_eq (h : Alike c d) : c.maxPackets = d.maxPackets := by
  obtain ⟨_, _, _, hc, hd⟩ := h.mirrors
  exact hc.maxPackets.symm.trans hd.maxPackets

theorem window?_eq (h : Alike c d) (key : ChannelKey) : c.window? key = d.window? key := by
  obtain ⟨_, _, _, hc, hd⟩ := h.mirrors
  exact (hc.window?_eq key).symm.trans (hd.window?_eq key)

theorem size_eq (h : Alike c d) : c.size = d.size := by
  obtain ⟨_, _, _, hc, hd⟩ := h.mirrors
  exact hc.length_eq.symm.trans hd.length_eq

theorem totalPackets_eq (h : Alike c d) : c.totalPackets = d.totalPackets := by
  obtain ⟨_, _, _, hc, hd⟩ := h.mirrors
  exact hc.totalPackets_eq.trans hd.totalPackets_eq.symm

theorem channels_eq (h : Alike c d) : c.channels = d.channels := by
  obtain ⟨_, _, _, hc, hd⟩ := h.mirrors
  exact hc.channels_eq.trans hd.channels_eq.symm

theorem recency_eq (h : Alike c d) : c.recency = d.recency := by
  obtain ⟨_, _, _, hc, hd⟩ := h.mirrors
  exact hc.recency_eq.trans hd.recency_eq.symm

/-- Both clocks move by the same ticks, so the clock behind does not start over before the other. -/
theorem clock_le_perform (h : Alike c d) (call : StoreCall)
    (hclock : c.clock ≤ (c.perform call).2.clock) :
    d.clock ≤ (d.perform call).2.clock ∧
      (d.perform call).2.clock ≤ (c.perform call).2.clock := by
  obtain ⟨⟨l, _, _, hc, hd⟩, hle⟩ := h
  have hone : (1 : UInt64).toNat = 1 := rfl
  have htwo : (2 : UInt64).toNat = 2 := rfl
  have hbound := c.clock.toNat_lt
  rw [hc.clock_perform] at hclock ⊢
  rw [hd.clock_perform]
  rcases l.ticks_cases call with hticks | hticks | hticks <;>
    simp only [hticks, UInt64.le_iff_toNat_le, UInt64.toNat_add, UInt64.toNat_zero, hone,
      htwo] at hclock hle ⊢ <;> omega

/-- Every call is answered alike, and keeps the two alike. -/
theorem perform (h : Alike c d) (call : StoreCall) (hclock : c.clock ≤ (c.perform call).2.clock) :
    (c.perform call).1 = (d.perform call).1 ∧
      Alike (c.perform call).2 (d.perform call).2 := by
  have hclocks := h.clock_le_perform call hclock
  obtain ⟨⟨l, _, _, hc, hd⟩, _⟩ := h
  obtain ⟨hanswer, _, hc'⟩ := hc.perform call hclock
  obtain ⟨hanswer', _, hd'⟩ := hd.perform call hclocks.1
  exact ⟨hanswer.trans hanswer'.symm, ⟨_, _, _, hc', hd'⟩, hclocks.2⟩

/-- By induction on the calls, the two stay alike. -/
theorem after (h : Alike c d) {calls : List StoreCall} (hsteady : c.Steady calls) :
    Alike (c.after calls) (d.after calls) := by
  induction calls generalizing c d with
  | nil => exact h
  | cons call calls ih => exact ih (h.perform call hsteady.1).2 hsteady.2

end ChannelStore.Alike

end WaveCache
