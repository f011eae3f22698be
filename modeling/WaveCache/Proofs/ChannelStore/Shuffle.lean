import WaveCache.Proofs.ChannelStore.Alike
import WaveCache.Proofs.ChannelStore.Refinement
import WaveCache.Proofs.ChannelStore.Tidy

/-!
# The order of the slots leaves no trace

A store has its slots in a list, but their order is nobody's business: a `ShuffledRun` puts them in
any order before each call.  That the answers are the same nevertheless rests on the stamps.  A slot
that is touched gets a stamp that no other slot has, so there is never more than one slot to give
up, and by `stalest?_perm` it is found in whatever order the slots are looked at.  The other
operations that look at all slots sort the channels or add up numbers.

`Stamped` says how the two stamps of a slot and the clock lie to each other.  That the stamps of the
slots differ comes from the recency list that a store mirrors.
-/

namespace WaveCache.ChannelStore

variable {b c d : ChannelStore} {key : ChannelKey} {slots ss ts : List Slot}

/-- The store with its slots in another order. -/
def arrange (c : ChannelStore) (slots : List Slot) : ChannelStore :=
  { c with slots }

/-- A store may give these answers to these calls, and be the other store after them, if its slots
may be put in another order before each call. -/
inductive ShuffledRun :
    ChannelStore → List StoreCall → List StoreAnswer → ChannelStore → Prop where
  | nil (c : ChannelStore) : ShuffledRun c [] [] c
  | cons {c d : ChannelStore} {call : StoreCall} {calls : List StoreCall}
      {answers : List StoreAnswer} (slots : List Slot) (hperm : slots.Perm c.slots)
      (hrest : ShuffledRun ((c.arrange slots).perform call).2 calls answers d) :
      ShuffledRun c (call :: calls) (((c.arrange slots).perform call).1 :: answers) d

/-- The order may stay as it is. -/
theorem shuffledRun_self (c : ChannelStore) (calls : List StoreCall) :
    ShuffledRun c calls (c.answers calls) (c.after calls) := by
  induction calls generalizing c with
  | nil => exact .nil c
  | cons call calls ih => exact .cons c.slots (.refl _) (ih (c.perform call).2)

/-! ## Stamps -/

/-- Each channel was touched when its window was opened or after that, and not after now. -/
structure Stamped (c : ChannelStore) : Prop where
  opened_le : ∀ s ∈ c.slots, s.opened ≤ s.touched
  touched_le : ∀ s ∈ c.slots, s.touched ≤ c.clock

namespace Stamped

theorem empty (maxChannels maxPackets : Nat) : Stamped (.empty maxChannels maxPackets) where
  opened_le _ h := nomatch h
  touched_le _ h := nomatch h

theorem arrange (h : Stamped c) (hperm : slots.Perm c.slots) : Stamped (c.arrange slots) where
  opened_le s hs := h.opened_le s (hperm.mem_iff.mp hs)
  touched_le s hs := h.touched_le s (hperm.mem_iff.mp hs)

theorem clear (_ : Stamped c) : Stamped c.clear where
  opened_le _ h := nomatch h
  touched_le _ h := nomatch h

/-- A touch is later than all stamps. -/
theorem touch (h : Stamped c) (hclock : c.clock ≤ c.clock + 1) (key : ChannelKey) (w : Window) :
    Stamped (c.touch key w) := by
  constructor
  · intro s hs
    obtain ⟨t, ht, rfl⟩ := List.mem_map.mp hs
    have hopened := h.opened_le t ht
    by_cases hkey : t.channel = key
    · rw [if_pos hkey]
      exact UInt64.le_trans hopened (UInt64.le_trans (h.touched_le t ht) hclock)
    · rw [if_neg hkey]
      exact hopened
  · intro s hs
    obtain ⟨t, ht, rfl⟩ := List.mem_map.mp hs
    by_cases hkey : t.channel = key
    · rw [if_pos hkey]
      exact UInt64.le_refl _
    · rw [if_neg hkey]
      exact UInt64.le_trans (h.touched_le t ht) hclock

/-- A slot may be given up. -/
theorem makeRoom (h : Stamped c) : Stamped c.makeRoom.2 where
  opened_le s hs := h.opened_le s (c.slots_makeRoom_sublist.subset hs)
  touched_le s hs := by
    rw [c.clock_makeRoom]
    exact h.touched_le s (c.slots_makeRoom_sublist.subset hs)

/-- A new slot is touched when its window is opened. -/
theorem addWindow (h : Stamped c) (hclock : c.clock ≤ c.clock + 1) (w : Window) :
    Stamped (c.addWindow w) := by
  constructor
  · intro s hs
    rcases List.mem_append.mp hs with hold | hnew
    · exact h.opened_le s hold
    · rw [List.mem_singleton.mp hnew]
      exact UInt64.le_refl _
  · intro s hs
    rcases List.mem_append.mp hs with hold | hnew
    · exact UInt64.le_trans (h.touched_le s hold) hclock
    · rw [List.mem_singleton.mp hnew]
      exact UInt64.le_refl _

theorem visit {α : Type} (h : Stamped c) (look : Window → α)
    (hclock : c.clock ≤ (c.visit key look).2.clock) : Stamped (c.visit key look).2 := by
  unfold ChannelStore.visit at hclock ⊢
  cases hs : c.slot? key with
  | none => exact h
  | some s =>
    rw [hs] at hclock
    exact h.touch hclock key s.window

theorem add (h : Stamped c) (p : Packet) (hclock : c.clock ≤ (c.add p).2.clock) :
    Stamped (c.add p).2 := by
  rcases c.add_cases p with ⟨s, _, hadd⟩ | ⟨_, _, hadd⟩ | ⟨_, _, hadd⟩
  · rw [hadd] at hclock ⊢
    exact h.touch hclock p.channel _
  · rw [hadd] at hclock ⊢
    have htime := c.clock_opened p.channel
    obtain ⟨hfirst, hsecond⟩ : c.clock < c.clock + 1 ∧ c.clock + 1 < c.clock + 1 + 1 := by
      refine lt_add_one_of_le_add_two ?_
      rw [← htime]
      exact hclock
    have hopened : Stamped (c.opened p.channel) := by
      refine h.makeRoom.addWindow ?_ _
      rw [c.clock_makeRoom]
      exact UInt64.le_of_lt hfirst
    refine hopened.touch ?_ p.channel _
    rw [htime]
    exact UInt64.le_of_lt hsecond
  · rw [hadd]
    exact h.makeRoom

/-- One call, as long as the clock does not start over. -/
theorem perform (h : Stamped c) (call : StoreCall) (hclock : c.clock ≤ (c.perform call).2.clock) :
    Stamped (c.perform call).2 := by
  cases call with
  | add p => exact h.add p hclock
  | query key t₀ t₁ => exact h.visit (fun w => w.query t₀ t₁) hclock
  | packets key t₀ t₁ => exact h.visit (fun w => w.query t₀ t₁) hclock
  | packetsSince key t₀ => exact h.visit (fun w => w.since t₀) hclock
  | clear => exact h.clear
  | contains | earliest | size | totalPackets | channels => exact h

end Stamped

/-! ## What looks at all slots -/

/-- If no two stamps are the same, there is one slot to give up, however one looks for it. -/
theorem stalest?_perm (hdistinct : (ss.map Slot.touched).Nodup) (hperm : ss.Perm ts) :
    stalest? ss = stalest? ts := by
  cases hs : stalest? ss with
  | none =>
    rw [stalest?_eq_none.mp hs] at hperm
    exact (stalest?_eq_none.mpr hperm.symm.eq_nil).symm
  | some s =>
    obtain ⟨hmem, hleast⟩ := stalest?_eq_some hs
    cases ht : stalest? ts with
    | none =>
      rw [stalest?_eq_none.mp ht] at hperm
      rw [hperm.eq_nil] at hmem
      cases hmem
    | some t =>
      obtain ⟨hmem', hleast'⟩ := stalest?_eq_some ht
      rw [← hperm.mem_iff] at hmem'
      have htouched : s.touched = t.touched :=
        UInt64.le_antisymm (hleast t hmem') (hleast' s (hperm.mem_iff.mp hmem))
      rw [List.inj_on_of_nodup_map hdistinct hmem hmem' htouched]

theorem evict_fst (c : ChannelStore) : c.evict.1 = (stalest? c.slots).map Slot.channel := by
  rw [evict]
  cases stalest? c.slots <;> rfl

theorem channels_arrange (hperm : ss.Perm ts) : (c.arrange ss).channels = (c.arrange ts).channels :=
  ChannelKey.sort_eq_of_perm (hperm.map Slot.channel)

theorem totalPackets_arrange (hperm : ss.Perm ts) :
    (c.arrange ss).totalPackets = (c.arrange ts).totalPackets := by
  rw [totalPackets_eq_sum, totalPackets_eq_sum]
  exact (hperm.map fun s => s.window.size).sum_eq

/-- The channels are those that are found. -/
theorem mem_channels_iff_contains : key ∈ c.channels ↔ c.contains key = true := by
  rw [mem_channels_iff, window?, Option.isSome_map, contains]

/-! ## Runs -/

/-- A store is still like another when its slots are put in another order. -/
theorem Alike.arrange (h : Alike b c) (hperm : slots.Perm c.slots) : Alike b (c.arrange slots) := by
  obtain ⟨⟨l, arranged, arranged', hb, hc⟩, hle⟩ := h
  exact ⟨⟨l, arranged, arranged', hb, { hc with perm := hc.perm.trans hperm.symm }⟩, hle⟩

/-- By induction on the calls, a store whose slots are shuffled answers like one whose slots are
not, and stays like it. -/
theorem ShuffledRun.answers_eq {calls : List StoreCall} {answers : List StoreAnswer}
    (hrun : ShuffledRun c calls answers d) (halike : Alike b c) (hstamped : Stamped c)
    (hsteady : b.Steady calls) :
    answers = b.answers calls ∧ Alike (b.after calls) d ∧ Stamped d := by
  induction hrun generalizing b with
  | nil c => exact ⟨rfl, halike, hstamped⟩
  | @cons c d call calls answers slots hperm _ ih =>
    obtain ⟨hclock, hsteady⟩ := hsteady
    have hshuffled := halike.arrange hperm
    obtain ⟨hanswer, hnext⟩ := hshuffled.perform call hclock
    have hstamped' : Stamped ((c.arrange slots).perform call).2 :=
      (hstamped.arrange hperm).perform call (hshuffled.clock_le_perform call hclock).1
    obtain ⟨hanswers, hafter⟩ := ih hnext hstamped' hsteady
    refine ⟨?_, hafter⟩
    rw [ChannelStore.answers, hanswer, hanswers]

/-- The order in which the slots of a store are enumerated cannot be observed before the clock
starts over.  If they are put in any order before each call, the answers are just the same as if
they were not.  After the calls no two channels were touched at the same time, and none before its
window was opened or later than the clock says.  So whatever the order is then, the same channel is
given up next, the live channels are listed once each in ascending order, and as many packets are
counted. -/
theorem shuffledRun_immaterial (maxChannels maxPackets : Nat) {calls : List StoreCall}
    (hsteady : (empty maxChannels maxPackets).Steady calls) :
    (∀ answers, (∃ d, ShuffledRun (empty maxChannels maxPackets) calls answers d) ↔
      answers = (empty maxChannels maxPackets).answers calls) ∧
    ∀ answers d, ShuffledRun (empty maxChannels maxPackets) calls answers d →
      (d.slots.map Slot.touched).Nodup ∧
      (∀ s ∈ d.slots, s.opened ≤ s.touched ∧ s.touched ≤ d.clock) ∧
      d.channels.Pairwise (· < ·) ∧
      (∀ key, key ∈ d.channels ↔ d.contains key = true) ∧
      ∀ ss ts : List Slot, ss.Perm d.slots → ts.Perm d.slots →
        stalest? ss = stalest? ts ∧
        (d.arrange ss).evict.1 = (d.arrange ts).evict.1 ∧
        (d.arrange ss).channels = (d.arrange ts).channels ∧
        (d.arrange ss).totalPackets = (d.arrange ts).totalPackets := by
  have hempty : Alike (empty maxChannels maxPackets) (empty maxChannels maxPackets) :=
    .of_slots_eq_nil rfl rfl rfl rfl (UInt64.le_refl _)
  have hstamped := Stamped.empty maxChannels maxPackets
  constructor
  · intro answers
    constructor
    · rintro ⟨d, hrun⟩
      exact (hrun.answers_eq hempty hstamped hsteady).1
    · rintro rfl
      exact ⟨_, shuffledRun_self _ calls⟩
  · intro answers d hrun
    obtain ⟨_, halike, hstamped⟩ := hrun.answers_eq hempty hstamped hsteady
    obtain ⟨_, _, _, _, hmirrors⟩ := halike.mirrors
    have hdistinct := hmirrors.nodup_touched
    have hchannels : (d.slots.map Slot.channel).Nodup :=
      (hmirrors.perm.map Slot.channel).nodup_iff.mp hmirrors.nodup
    refine ⟨hdistinct, fun s hs => ⟨hstamped.opened_le s hs, hstamped.touched_le s hs⟩,
      ChannelKey.pairwise_lt_sort hchannels, fun key => mem_channels_iff_contains, ?_⟩
    intro ss ts hss hts
    have hperm : ss.Perm ts := hss.trans hts.symm
    have hstalest : stalest? ss = stalest? ts :=
      stalest?_perm ((hss.map Slot.touched).nodup_iff.mpr hdistinct) hperm
    refine ⟨hstalest, ?_, channels_arrange hperm, totalPackets_arrange hperm⟩
    rw [evict_fst, evict_fst]
    exact congrArg (Option.map Slot.channel) hstalest

/-- The slots are turned round before each call, and in the end they are the other way round.  The
query keeps the first channel all the same, and that one is the next to go. -/
theorem shuffledRun_immaterial_reversed :
    let key (station : String) : ChannelKey := { (default : ChannelKey) with station }
    let packet (station : String) : Packet := .pulse (key station) 1 ⟨0⟩ rfl
    let calls : List StoreCall := [.add (packet "A"), .add (packet "B"), .query (key "A") 1 2,
      .add (packet "C"), .channels]
    (empty 2 1).Steady calls ∧
      ((empty 2 1).after calls).slots.map Slot.channel = [key "A", key "C"] ∧
      ∃ answers d, ShuffledRun (empty 2 1) calls answers d ∧
        d.slots.map Slot.channel = [key "C", key "A"] ∧ d.evict.1 = some (key "A") ∧
        answers = (empty 2 1).answers calls ∧
        (d.arrange d.slots.reverse).evict.1 = some (key "A") := by
  intro key packet calls
  have hsteady : (empty 2 1).Steady calls := steady_of_length (by decide)
  obtain ⟨answers, d, hrun, hslots, hevict⟩ : ∃ answers d,
      ShuffledRun (empty 2 1) calls answers d ∧
      d.slots.map Slot.channel = [key "C", key "A"] ∧ d.evict.1 = some (key "A") := by
    have hrun : ShuffledRun (empty 2 1) calls _ _ :=
      .cons _ (List.reverse_perm _) <| .cons _ (List.reverse_perm _) <|
        .cons _ (List.reverse_perm _) <| .cons _ (List.reverse_perm _) <|
        .cons _ (List.reverse_perm _) <| .nil _
    exact ⟨_, _, hrun, by decide, by decide⟩
  obtain ⟨hanswers, hstores⟩ := shuffledRun_immaterial 2 1 hsteady
  obtain ⟨_, _, _, _, hsame⟩ := hstores answers d hrun
  refine ⟨hsteady, by decide, answers, d, hrun, hslots, hevict, (hanswers _).mp ⟨d, hrun⟩, ?_⟩
  exact (hsame _ _ (List.reverse_perm _) (List.Perm.refl _)).2.1.trans hevict

end WaveCache.ChannelStore
