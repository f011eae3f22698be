import Mathlib.Algebra.Order.BigOperators.Group.List
import WaveCache.Proofs.Channel.Order
import WaveCache.Proofs.ChannelStore.Recency
import WaveCache.Proofs.ChannelStore.Windows

/-!
# A channel store mirrors a recency list

A store keeps its slots in any order and finds the channel to give up by the stamps.  `Mirrors` ties
it to a recency list: some arrangement of the slots has strictly descending stamps, and it shows the
entries of the list.  Each operation keeps this as long as the clock does not start over, so a store
and a list that begin empty give the same answers to all calls.

`Mirrors.touch`, `Mirrors.evict`, `Mirrors.clear` and `Mirrors.addWindow` are the ways in which
slots change.  `Mirrors.perform` is the step and `Mirrors.answers` the run.
-/

namespace WaveCache

/-- The entry that a slot shows. -/
def Slot.entry (s : Slot) : ChannelKey × Window :=
  (s.channel, s.window)

/-- The slots of the store, arranged as given, show the recency list. -/
structure Mirrors (c : ChannelStore) (l : RecencyList) (arranged : List Slot) : Prop where
  maxChannels : l.maxChannels = c.maxChannels
  maxPackets : l.maxPackets = c.maxPackets
  entries : l.entries = arranged.map Slot.entry
  perm : arranged.Perm c.slots
  nodup : (arranged.map Slot.channel).Nodup
  descending : arranged.Pairwise fun s t => t.touched < s.touched
  touched_le : ∀ s ∈ arranged, s.touched ≤ c.clock

/-! ## The clock -/

theorem lt_add_one_of_le {n : UInt64} (h : n ≤ n + 1) : n < n + 1 := by
  rw [UInt64.le_iff_toNat_le, UInt64.toNat_add] at h
  rw [UInt64.lt_iff_toNat_lt, UInt64.toNat_add]
  have hone : (1 : UInt64).toNat = 1 := rfl
  have hlt := n.toNat_lt
  omega

/-- Two steps that do not lead back have not led back in between. -/
theorem lt_add_one_of_le_add_two {n : UInt64} (h : n ≤ n + 1 + 1) :
    n < n + 1 ∧ n + 1 < n + 1 + 1 := by
  simp only [UInt64.le_iff_toNat_le, UInt64.lt_iff_toNat_lt, UInt64.toNat_add] at h ⊢
  have hone : (1 : UInt64).toNat = 1 := rfl
  have hlt := n.toNat_lt
  omega

/-! ## Finding a slot -/

/-- Where keys are distinct, the order of a list does not matter for what a search by key finds. -/
theorem find?_channel_perm {ss ts : List Slot} (h : ss.Perm ts) (hn : (ss.map Slot.channel).Nodup)
    (key : ChannelKey) :
    (ss.find? fun s => s.channel = key) = ts.find? fun s => s.channel = key := by
  induction h with
  | nil => rfl
  | cons s _ ih =>
    rw [List.find?_cons, List.find?_cons, ih (List.nodup_cons.mp hn).2]
  | swap s t us =>
    have hne : t.channel ≠ s.channel := fun heq =>
      (List.nodup_cons.mp hn).1 (by simp [heq])
    rw [List.find?_cons, List.find?_cons, List.find?_cons, List.find?_cons]
    by_cases hs : s.channel = key
    · have ht : t.channel ≠ key := fun ht => hne (ht.trans hs.symm)
      simp [hs, ht]
    · simp [hs]
  | trans hst _ ih₁ ih₂ =>
    rw [ih₁ hn, ih₂ ((hst.map Slot.channel).nodup_iff.mp hn)]

/-! ## Changing one slot -/

section

variable {front back : List Slot} {s : Slot}

/-- Where keys are distinct, no other slot has the key of a given one. -/
theorem channel_ne_of_nodup (hn : ((front ++ s :: back).map Slot.channel).Nodup) :
    ∀ t ∈ front ++ back, t.channel ≠ s.channel := by
  rw [List.map_append, List.map_cons, List.nodup_middle, ← List.map_append] at hn
  intro t ht heq
  exact (List.nodup_cons.mp hn).1 (List.mem_map.mpr ⟨t, ht, heq⟩)

theorem filter_channel_ne (hne : ∀ t ∈ front ++ back, t.channel ≠ s.channel) :
    ((front ++ s :: back).filter fun t => t.channel ≠ s.channel) = front ++ back := by
  rw [List.filter_append, List.filter_cons_of_neg (by simp), ← List.filter_append]
  exact List.filter_eq_self.mpr fun t ht => by simpa using hne t ht

theorem map_channel_eq (hne : ∀ t ∈ front ++ back, t.channel ≠ s.channel) (f : Slot → Slot) :
    ((front ++ s :: back).map fun t => if t.channel = s.channel then f t else t) =
      front ++ f s :: back := by
  have hid : ∀ ts ⊆ front ++ back,
      (ts.map fun t => if t.channel = s.channel then f t else t) = ts := by
    intro ts hts
    refine (List.map_congr_left fun t ht => ?_).trans (List.map_id ts)
    exact if_neg (hne t (hts ht))
  rw [List.map_append, List.map_cons, hid front (by simp), hid back (by simp), if_pos rfl]

end

/-! ## Recency lists -/

/-- A channel that was just put in front is only given another window. -/
theorem RecencyList.toFront_push {l : RecencyList} {key : ChannelKey} (hkey : key ∉ l.keys)
    (v w : Window) : (l.push key v).toFront key w = l.push key w := by
  have hfilter : (l.entries.filter fun entry => entry.1 ≠ key) = l.entries := by
    refine List.filter_eq_self.mpr fun entry hentry => ?_
    have hne : entry.1 ≠ key := fun heq => hkey (List.mem_map.mpr ⟨entry, hentry, heq⟩)
    simpa using hne
  rw [push, push, toFront, List.filter_cons_of_neg (by simp), hfilter]

@[simp] theorem RecencyList.maxPackets_makeRoom (l : RecencyList) :
    l.makeRoom.2.maxPackets = l.maxPackets := by
  rw [makeRoom]
  split <;> rfl

/-- A new channel has a window if there can be one. -/
theorem RecencyList.add_of_isReservable {l : RecencyList} {p : Packet}
    (hwindow : l.window? p.channel = none) (hroom : Window.isReservable l.maxPackets = true) :
    l.add p = (some ⟨((Window.empty p.channel l.maxPackets).store p).1, true, l.makeRoom.1⟩,
      l.makeRoom.2.push p.channel ((Window.empty p.channel l.maxPackets).store p).2) := by
  rw [add, hwindow]
  simp only [Window.open?, maxPackets_makeRoom, if_pos hroom]

theorem RecencyList.add_of_not_isReservable {l : RecencyList} {p : Packet}
    (hwindow : l.window? p.channel = none) (hroom : Window.isReservable l.maxPackets = false) :
    l.add p = (none, l.makeRoom.2) := by
  rw [add, hwindow]
  simp only [Window.open?, maxPackets_makeRoom, hroom, Bool.false_eq_true, if_false]

namespace Mirrors

variable {c : ChannelStore} {l : RecencyList} {arranged : List Slot} {key : ChannelKey}

theorem empty (maxChannels maxPackets : Nat) :
    Mirrors (.empty maxChannels maxPackets) (.empty maxChannels maxPackets) [] where
  maxChannels := rfl
  maxPackets := rfl
  entries := rfl
  perm := List.Perm.refl _
  nodup := List.nodup_nil
  descending := List.Pairwise.nil
  touched_le := by simp

theorem slot?_eq (h : Mirrors c l arranged) (key : ChannelKey) :
    c.slot? key = arranged.find? fun s => s.channel = key :=
  (find?_channel_perm h.perm h.nodup key).symm

theorem window?_eq (h : Mirrors c l arranged) (key : ChannelKey) :
    l.window? key = (c.slot? key).map (·.window) := by
  rw [h.slot?_eq, RecencyList.window?, h.entries, List.find?_map, Option.map_map]
  rfl

theorem keys_eq (h : Mirrors c l arranged) : l.keys = arranged.map Slot.channel := by
  rw [RecencyList.keys, h.entries, List.map_map]
  rfl

theorem length_eq (h : Mirrors c l arranged) : l.entries.length = c.size := by
  rw [h.entries, List.length_map, h.perm.length_eq, ChannelStore.size]

theorem channels_eq (h : Mirrors c l arranged) : c.channels = ChannelKey.sort l.keys := by
  rw [h.keys_eq]
  exact ChannelKey.sort_eq_of_perm (h.perm.map Slot.channel).symm

theorem totalPackets_eq (h : Mirrors c l arranged) :
    c.totalPackets = (l.entries.map (·.2.size)).sum := by
  rw [c.totalPackets_eq_sum, h.entries, List.map_map,
    ← (h.perm.map fun s => s.window.size).sum_eq]
  rfl

/-! ## Changes -/

/-- A touch.  The slot goes to the front, since its new stamp is above all others. -/
theorem touch (h : Mirrors c l arranged) {s : Slot} (hs : c.slot? key = some s)
    (hclock : c.clock < c.clock + 1) (w : Window) :
    ∃ arranged', Mirrors (c.touch key w) (l.toFront key w) arranged' := by
  obtain rfl := ChannelStore.channel_of_slot? hs
  rw [h.slot?_eq] at hs
  obtain ⟨front, back, rfl⟩ := List.append_of_mem (List.mem_of_find?_eq_some hs)
  have hne := channel_ne_of_nodup h.nodup
  have hrest : (front ++ back).Sublist (front ++ s :: back) := by simp
  refine ⟨{ s with window := w, touched := c.clock + 1 } :: (front ++ back),
    h.maxChannels, h.maxPackets, ?_, ?_, ?_, ?_, ?_⟩
  · rw [RecencyList.toFront, h.entries, List.filter_map, List.map_cons, ← filter_channel_ne hne]
    rfl
  · have hperm := h.perm.map fun t =>
      if t.channel = s.channel then { t with window := w, touched := c.clock + 1 } else t
    rw [map_channel_eq hne] at hperm
    exact List.perm_middle.symm.trans hperm
  · have hnodup := h.nodup
    rw [List.map_append, List.map_cons, List.nodup_middle, ← List.map_append] at hnodup
    exact hnodup
  · rw [List.pairwise_cons]
    refine ⟨fun t ht => ?_, h.descending.sublist hrest⟩
    exact UInt64.lt_of_le_of_lt (h.touched_le t (hrest.subset ht)) hclock
  · intro t ht
    rcases List.mem_cons.mp ht with rfl | ht
    · exact UInt64.le_refl _
    · exact UInt64.le_trans (h.touched_le t (hrest.subset ht)) (UInt64.le_of_lt hclock)

/-- The slot that is given up is the one at the back, since its stamp is the least. -/
theorem evict (h : Mirrors c l arranged) :
    c.evict.1 = l.keys.getLast? ∧
      Mirrors c.evict.2 { l with entries := l.entries.dropLast } arranged.dropLast := by
  rw [h.keys_eq, ChannelStore.evict]
  cases hstalest : ChannelStore.stalest? c.slots with
  | none =>
    have hnil : arranged = [] := by
      rw [← List.perm_nil, ← ChannelStore.stalest?_eq_none.mp hstalest]
      exact h.perm
    subst hnil
    exact ⟨rfl, { h with entries := by rw [h.entries]; rfl }⟩
  | some s =>
    obtain ⟨hs, hleast⟩ := ChannelStore.stalest?_eq_some hstalest
    rw [← h.perm.mem_iff] at hs
    rcases List.eq_nil_or_concat' arranged with rfl | ⟨front, back, rfl⟩
    · cases hs
    -- the stamps descend, so only the last slot has the least one
    have hback : s = back := by
      have hle := hleast back (h.perm.mem_iff.mp (by simp))
      rcases List.mem_append.mp hs with hfront | hlast
      · have hlt := (List.pairwise_append.mp h.descending).2.2 s hfront back (by simp)
        exact absurd hle (UInt64.not_le.mpr hlt)
      · exact List.mem_singleton.mp hlast
    subst hback
    have hne : ∀ t ∈ front ++ [], t.channel ≠ s.channel := channel_ne_of_nodup h.nodup
    have hfilter := filter_channel_ne hne
    rw [List.append_nil] at hfilter
    have hfront : front.Sublist (front ++ [s]) := List.sublist_append_left _ _
    refine ⟨by simp, ?_⟩
    rw [List.dropLast_concat]
    refine ⟨h.maxChannels, h.maxPackets, ?_, ?_, h.nodup.sublist (hfront.map _),
      h.descending.sublist hfront, fun t ht => h.touched_le t (hfront.subset ht)⟩
    · show l.entries.dropLast = _
      rw [h.entries, List.map_append, List.map_cons, List.map_nil, List.dropLast_concat]
    · have hperm := h.perm.filter fun t => t.channel ≠ s.channel
      rw [hfilter] at hperm
      exact hperm

theorem clear (h : Mirrors c l arranged) : Mirrors c.clear { l with entries := [] } [] where
  maxChannels := h.maxChannels
  maxPackets := h.maxPackets
  entries := rfl
  perm := List.Perm.refl _
  nodup := List.nodup_nil
  descending := List.Pairwise.nil
  touched_le := by simp

/-- A new slot, whose stamp is above all others. -/
theorem addWindow (h : Mirrors c l arranged) {w : Window} (hkey : c.slot? w.channel = none)
    (hclock : c.clock < c.clock + 1) :
    Mirrors (c.addWindow w) (l.push w.channel w)
      (⟨w.channel, w, c.clock + 1, c.clock + 1⟩ :: arranged) := by
  rw [h.slot?_eq] at hkey
  refine ⟨h.maxChannels, h.maxPackets, ?_, ?_, ?_, ?_, ?_⟩
  · rw [RecencyList.push, h.entries]
    rfl
  · exact (h.perm.cons _).trans (List.perm_append_singleton _ _).symm
  · rw [List.map_cons, List.nodup_cons]
    refine ⟨fun hmem => ?_, h.nodup⟩
    obtain ⟨t, ht, heq⟩ := List.mem_map.mp hmem
    exact (List.find?_eq_none.mp hkey t ht) (by simpa using heq)
  · rw [List.pairwise_cons]
    exact ⟨fun t ht => UInt64.lt_of_le_of_lt (h.touched_le t ht) hclock, h.descending⟩
  · intro t ht
    rcases List.mem_cons.mp ht with rfl | ht
    · exact UInt64.le_refl _
    · exact UInt64.le_trans (h.touched_le t ht) (UInt64.le_of_lt hclock)

/-- Room for another channel. -/
theorem makeRoom (h : Mirrors c l arranged) :
    c.makeRoom.1 = l.makeRoom.1 ∧
      ∃ arranged', Mirrors c.makeRoom.2 l.makeRoom.2 arranged' ∧ arranged'.Sublist arranged := by
  have hfull_iff : l.maxChannels ≤ l.entries.length ↔ c.maxChannels ≤ c.size := by
    rw [h.maxChannels, h.length_eq]
  rw [ChannelStore.makeRoom, RecencyList.makeRoom]
  by_cases hfull : c.maxChannels ≤ c.size
  · rw [if_pos hfull, if_pos (hfull_iff.mpr hfull)]
    exact ⟨h.evict.1, _, h.evict.2, List.dropLast_sublist arranged⟩
  · rw [if_neg hfull, if_neg fun hl => hfull (hfull_iff.mp hl)]
    exact ⟨rfl, arranged, h, List.Sublist.refl _⟩

/-- A new channel, which is found right after. -/
theorem opened (h : Mirrors c l arranged) (hkey : c.slot? key = none)
    (hclock : c.clock < c.clock + 1) :
    ∃ arranged', Mirrors (c.opened key) (l.makeRoom.2.push key (.empty key c.maxPackets))
      arranged' := by
  obtain ⟨_, arranged', hroom, hsub⟩ := h.makeRoom
  have hkey' : c.makeRoom.2.slot? key = none := by
    rw [h.slot?_eq, List.find?_eq_none] at hkey
    rw [hroom.slot?_eq, List.find?_eq_none]
    exact fun s hs => hkey s (hsub.subset hs)
  exact ⟨_, hroom.addWindow (w := .empty key c.maxPackets) hkey'
    (by rw [c.clock_makeRoom]; exact hclock)⟩

/-! ## Calls -/

theorem visit {α : Type} (h : Mirrors c l arranged) (look : Window → α)
    (hclock : c.clock ≤ (c.visit key look).2.clock) :
    (c.visit key look).1 = (l.visit key look).1 ∧
      ∃ arranged', Mirrors (c.visit key look).2 (l.visit key look).2 arranged' := by
  rw [RecencyList.visit, h.window?_eq]
  unfold ChannelStore.visit at hclock ⊢
  cases hs : c.slot? key with
  | none => exact ⟨rfl, arranged, h⟩
  | some s =>
    rw [hs] at hclock
    exact ⟨rfl, h.touch hs (lt_add_one_of_le hclock) s.window⟩

theorem add (h : Mirrors c l arranged) (p : Packet) (hclock : c.clock ≤ (c.add p).2.clock) :
    (c.add p).1 = (l.add p).1 ∧ ∃ arranged', Mirrors (c.add p).2 (l.add p).2 arranged' := by
  rcases c.add_cases p with ⟨s, hs, hadd⟩ | ⟨hs, hroom, hadd⟩ | ⟨hs, hroom, hadd⟩
  · rw [RecencyList.add, h.window?_eq, hs]
    rw [hadd] at hclock ⊢
    exact ⟨rfl, h.touch hs (lt_add_one_of_le hclock) _⟩
  · rw [RecencyList.add_of_isReservable (by rw [h.window?_eq, hs]; rfl)
      (by rw [h.maxPackets]; exact hroom)]
    rw [hadd] at hclock ⊢
    have htime := c.clock_opened p.channel
    -- the clock moves twice, once to open the window and once to touch it
    obtain ⟨hfirst, hsecond⟩ : c.clock < c.clock + 1 ∧ c.clock + 1 < c.clock + 1 + 1 := by
      refine lt_add_one_of_le_add_two ?_
      rw [← htime]
      exact hclock
    obtain ⟨arranged', hopened⟩ := h.opened hs hfirst
    obtain ⟨s, hslot⟩ := Option.isSome_iff_exists.mp (c.slot?_opened_self p.channel)
    -- the channel is new to the list, so that the touch only replaces its window
    have hnew : p.channel ∉ l.makeRoom.2.keys := by
      have hnodup := hopened.nodup
      rw [← hopened.keys_eq] at hnodup
      exact (List.nodup_cons.mp hnodup).1
    obtain ⟨arranged'', htouch⟩ := hopened.touch hslot (by rw [htime]; exact hsecond)
      ((Window.empty p.channel c.maxPackets).store p).2
    rw [RecencyList.toFront_push hnew] at htouch
    rw [h.makeRoom.1, h.maxPackets]
    exact ⟨rfl, arranged'', htouch⟩
  · rw [RecencyList.add_of_not_isReservable (by rw [h.window?_eq, hs]; rfl)
      (by rw [h.maxPackets]; exact hroom), hadd]
    obtain ⟨_, arranged', hmirrors, _⟩ := h.makeRoom
    exact ⟨rfl, arranged', hmirrors⟩

/-- Every call is answered alike, and keeps the two alike. -/
theorem perform (h : Mirrors c l arranged) (call : StoreCall)
    (hclock : c.clock ≤ (c.perform call).2.clock) :
    (c.perform call).1 = (l.perform call).1 ∧
      ∃ arranged', Mirrors (c.perform call).2 (l.perform call).2 arranged' := by
  cases call with
  | add p =>
    obtain ⟨hreport, hnext⟩ := h.add p hclock
    exact ⟨congrArg StoreAnswer.added hreport, hnext⟩
  | query key t₀ t₁ =>
    obtain ⟨hfound, hnext⟩ := h.visit (fun w => w.query t₀ t₁) hclock
    exact ⟨congrArg StoreAnswer.found hfound, hnext⟩
  | packets key t₀ t₁ =>
    obtain ⟨hfound, hnext⟩ := h.visit (fun w => w.query t₀ t₁) hclock
    refine ⟨?_, hnext⟩
    exact congrArg (fun found : Option (List Packet) => StoreAnswer.packets (found.getD [])) hfound
  | packetsSince key t₀ =>
    obtain ⟨hfound, hnext⟩ := h.visit (fun w => w.since t₀) hclock
    refine ⟨?_, hnext⟩
    exact congrArg (fun found : Option (List Packet) => StoreAnswer.packets (found.getD [])) hfound
  | contains key =>
    refine ⟨?_, arranged, h⟩
    show StoreAnswer.live (c.slot? key).isSome = .live (l.window? key).isSome
    rw [h.window?_eq, Option.isSome_map]
  | earliest key =>
    refine ⟨?_, arranged, h⟩
    show StoreAnswer.time ((c.slot? key).bind fun s => s.window.earliest?) =
      .time ((l.window? key).bind Window.earliest?)
    rw [h.window?_eq, Option.bind_map]
    rfl
  | size => exact ⟨congrArg StoreAnswer.number h.length_eq.symm, arranged, h⟩
  | totalPackets => exact ⟨congrArg StoreAnswer.number h.totalPackets_eq, arranged, h⟩
  | channels => exact ⟨congrArg StoreAnswer.keys h.channels_eq, arranged, h⟩
  | clear => exact ⟨rfl, [], h.clear⟩

/-- By induction on the calls, all of them are answered alike. -/
theorem answers (h : Mirrors c l arranged) {calls : List StoreCall} (hsteady : c.Steady calls) :
    c.answers calls = l.answers calls := by
  induction calls generalizing c l arranged with
  | nil => rfl
  | cons call calls ih =>
    obtain ⟨hclock, hsteady⟩ := hsteady
    obtain ⟨hanswer, _, hnext⟩ := h.perform call hclock
    rw [ChannelStore.answers, RecencyList.answers, hanswer, ih hnext hsteady]

end Mirrors

end WaveCache
