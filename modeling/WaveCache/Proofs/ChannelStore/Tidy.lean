import Mathlib.Algebra.Order.BigOperators.Group.List
import WaveCache.Proofs.Channel.Order
import WaveCache.Proofs.ChannelStore.Windows
import WaveCache.Proofs.Window.Content

/-!
# What always holds of a channel store

A window is `Orderly` if it has a packet, no more packets than it has room for, and all of them of
its own channel and in ascending order.  A store is `Tidy` if there are no more channels than there
may be, each once, and if each has an orderly window.  A channel may have to satisfy some condition
besides, which the store itself does not look at: it holds of all channels if it holds of the
channels of all packets that are taken in.

A window that is opened is empty at first, so `addWindow` alone does not keep a store tidy.  `add`
does, since the packet for which it was opened goes in at once.  In a tidy store a packet only ever
gets to a window of its own channel (`Tidy.insert_of_slot?`, `Window.insert_empty`), and the first
packet for which no window can be opened finds a store without channels, which it leaves as it is
(`Tidy.add_eq_self`).
-/

namespace WaveCache

/-! ## Windows -/

/-- What always holds of a window that took in a packet of its channel. -/
structure Window.Orderly (w : Window) : Prop where
  packets_ne_nil : w.packets ≠ []
  size_le : w.size ≤ w.capacity
  ascending : Ascending w.packets
  channel_eq : ∀ p ∈ w.packets, p.channel = w.channel

theorem Window.Orderly.store {w : Window} (h : w.Orderly) {p : Packet}
    (hp : p.channel = w.channel) : (w.store p).2.Orderly := by
  have hretains := (Retains.self h.ascending h.size_le).store p
  have hpos : 0 < w.capacity :=
    Nat.lt_of_lt_of_le (List.length_pos_iff.mpr h.packets_ne_nil) h.size_le
  refine ⟨?_, ?_, hretains.ascending, ?_⟩
  · intro hnil
    -- the packet itself would be missing, though there is room for it
    rcases hretains.missing p (by simp) with hkept | ⟨hfull, _⟩
    · rw [hnil] at hkept
      cases hkept
    · rw [hnil, List.length_nil] at hfull
      omega
  · rw [store_capacity]
    exact hretains.length_le
  · intro q hq
    have hmem := (lastAt?_eq_some (hretains.last q hq)).1
    rw [store_channel]
    rcases List.mem_append.mp hmem with hmem | hmem
    · exact h.channel_eq q hmem
    · rw [List.mem_singleton.mp hmem, hp]

/-- The first packet of a window. -/
theorem Window.orderly_store_empty (capacity : Nat) (p : Packet) :
    ((empty p.channel capacity).store p).2.Orderly := by
  rw [store_empty]
  refine ⟨List.cons_ne_nil _ _, ?_, List.pairwise_singleton _ _, ?_⟩
  · show 1 ≤ max capacity 1
    omega
  · intro q hq
    rw [List.mem_singleton.mp hq]

/-- The first packet is of the channel of the window that was opened for it. -/
theorem Window.insert_empty (capacity : Nat) (p : Packet) :
    (empty p.channel capacity).insert p = .ok ((empty p.channel capacity).store p) :=
  if_pos rfl

/-! ## Stores -/

/-- What always holds of the slot of a channel. -/
structure Slot.Tidy (s : Slot) (maxPackets : Nat) : Prop where
  channel_eq : s.window.channel = s.channel
  capacity_eq : s.window.capacity = maxPackets
  reservable : Window.isReservable maxPackets = true
  orderly : s.window.Orderly

namespace ChannelStore

/-- What always holds of a store, if the channel of each packet satisfies the condition. -/
structure Tidy (c : ChannelStore) (condition : ChannelKey → Prop) : Prop where
  size_le : c.size ≤ c.maxChannels
  nodup_channels : (c.slots.map Slot.channel).Nodup
  condition_of_mem : ∀ s ∈ c.slots, condition s.channel
  tidy_of_mem : ∀ s ∈ c.slots, s.Tidy c.maxPackets

variable {c : ChannelStore} {condition : ChannelKey → Prop} {key : ChannelKey} {w : Window}

/-! ## Room for a channel -/

theorem slots_makeRoom_sublist (c : ChannelStore) : c.makeRoom.2.slots.Sublist c.slots := by
  rw [makeRoom, evict]
  split
  · split
    · exact List.filter_sublist
    · exact List.Sublist.refl _
  · exact List.Sublist.refl _

/-- There is room for another channel then. -/
theorem size_makeRoom_lt (hpos : 0 < c.maxChannels) (hle : c.size ≤ c.maxChannels) :
    c.makeRoom.2.size < c.maxChannels := by
  rw [makeRoom]
  by_cases hfull : c.maxChannels ≤ c.size
  · rw [if_pos hfull, evict]
    cases hstalest : stalest? c.slots with
    | none =>
      have hnil : c.size = 0 := congrArg List.length (stalest?_eq_none.mp hstalest)
      omega
    | some s =>
      have hlt : (c.slots.filter fun t => t.channel ≠ s.channel).length < c.slots.length :=
        List.length_filter_lt_length_iff_exists.mpr ⟨s, (stalest?_eq_some hstalest).1, by simp⟩
      exact Nat.lt_of_lt_of_le hlt hle
  · rw [if_neg hfull]
    exact Nat.lt_of_not_le hfull

theorem map_channel_opened (c : ChannelStore) (key : ChannelKey) :
    (c.opened key).slots.map Slot.channel = c.makeRoom.2.slots.map Slot.channel ++ [key] :=
  List.map_append

/-- There are no more channels than there may be, the new one included. -/
theorem size_opened_le (hpos : 0 < c.maxChannels) (hle : c.size ≤ c.maxChannels) :
    (c.opened key).size ≤ c.maxChannels := by
  have hlength := congrArg List.length (c.map_channel_opened key)
  rw [List.length_append, List.length_map, List.length_map, List.length_singleton] at hlength
  have hroom := size_makeRoom_lt hpos hle
  rw [size] at hroom ⊢
  omega

/-- A channel that is not live is new among the channels. -/
theorem nodup_channels_opened (hnodup : (c.slots.map Slot.channel).Nodup)
    (hkey : c.slot? key = none) : ((c.opened key).slots.map Slot.channel).Nodup := by
  have hsublist := c.slots_makeRoom_sublist
  have hnew : key ∉ c.makeRoom.2.slots.map Slot.channel := by
    intro hmem
    obtain ⟨s, hs, heq⟩ := List.mem_map.mp hmem
    have hnone := List.find?_eq_none.mp hkey s (hsublist.subset hs)
    simp [heq] at hnone
  rw [map_channel_opened, List.nodup_append_comm]
  exact List.nodup_cons.mpr ⟨hnew, (hsublist.map _).nodup hnodup⟩

/-- The slots then are old ones and one for the new channel. -/
theorem mem_slots_opened {s : Slot} (h : s ∈ (c.opened key).slots) :
    s ∈ c.slots ∨ s.channel = key := by
  rcases List.mem_append.mp h with h | h
  · exact .inl (c.slots_makeRoom_sublist.subset h)
  · rw [List.mem_singleton.mp h]
    exact .inr rfl

/-! ## Touches -/

theorem map_channel_touch (c : ChannelStore) (key : ChannelKey) (w : Window) :
    (c.touch key w).slots.map Slot.channel = c.slots.map Slot.channel := by
  rw [touch, List.map_map]
  apply List.map_congr_left
  intro s _
  by_cases hs : s.channel = key <;> simp [hs]

theorem map_channel_visit {α : Type} (c : ChannelStore) (key : ChannelKey) (look : Window → α) :
    (c.visit key look).2.slots.map Slot.channel = c.slots.map Slot.channel := by
  rw [visit]
  cases c.slot? key with
  | none => rfl
  | some s => exact c.map_channel_touch key s.window

/-- A slot after a touch is one from before, or has the new window. -/
theorem mem_slots_touch {s : Slot} (h : s ∈ (c.touch key w).slots) :
    (s ∈ c.slots ∧ s.channel ≠ key) ∨ (s.channel = key ∧ s.window = w) := by
  obtain ⟨t, ht, rfl⟩ := List.mem_map.mp h
  by_cases hkey : t.channel = key
  · simp [hkey]
  · simp [hkey, ht]

/-! ## Operations -/

namespace Tidy

theorem empty (maxChannels maxPackets : Nat) : Tidy (.empty maxChannels maxPackets) condition where
  size_le := Nat.zero_le _
  nodup_channels := List.nodup_nil
  condition_of_mem _ h := nomatch h
  tidy_of_mem _ h := nomatch h

theorem clear (_ : Tidy c condition) : Tidy c.clear condition where
  size_le := Nat.zero_le _
  nodup_channels := List.nodup_nil
  condition_of_mem _ h := nomatch h
  tidy_of_mem _ h := nomatch h

/-- A touch keeps a store tidy if the new window is what the slot needs.  The slots of other
channels have to be tidy already; that of this channel need not be. -/
theorem touch (hsize : c.size ≤ c.maxChannels) (hnodup : (c.slots.map Slot.channel).Nodup)
    (hcondition : ∀ s ∈ c.slots, condition s.channel)
    (htidy : ∀ s ∈ c.slots, s.channel ≠ key → s.Tidy c.maxPackets)
    (hchannel : w.channel = key) (hcapacity : w.capacity = c.maxPackets)
    (hroom : Window.isReservable c.maxPackets = true) (hw : w.Orderly) :
    Tidy (c.touch key w) condition where
  size_le := by
    have hlength := congrArg List.length (c.map_channel_touch key w)
    rw [List.length_map, List.length_map] at hlength
    exact Nat.le_trans (Nat.le_of_eq hlength) hsize
  nodup_channels := by
    rw [map_channel_touch]
    exact hnodup
  condition_of_mem s hs := by
    have hmem : s.channel ∈ c.slots.map Slot.channel := by
      rw [← c.map_channel_touch key w]
      exact List.mem_map_of_mem hs
    obtain ⟨t, ht, heq⟩ := List.mem_map.mp hmem
    rw [← heq]
    exact hcondition t ht
  tidy_of_mem s hs := by
    rcases mem_slots_touch hs with ⟨hmem, hne⟩ | ⟨hkey, hwindow⟩
    · exact htidy s hmem hne
    · exact ⟨by rw [hwindow, hkey, hchannel], by rw [hwindow]; exact hcapacity, hroom,
        hwindow ▸ hw⟩

theorem slot? (h : Tidy c condition) {s : Slot} (hs : c.slot? key = some s) :
    s.channel = key ∧ s.Tidy c.maxPackets :=
  ⟨channel_of_slot? hs, h.tidy_of_mem s (List.mem_of_find?_eq_some hs)⟩

theorem visit {α : Type} (h : Tidy c condition) (key : ChannelKey) (look : Window → α) :
    Tidy (c.visit key look).2 condition := by
  rw [ChannelStore.visit]
  cases hs : c.slot? key with
  | none => exact h
  | some s =>
    obtain ⟨hkey, htidy⟩ := h.slot? hs
    exact .touch h.size_le h.nodup_channels h.condition_of_mem (fun t ht _ => h.tidy_of_mem t ht)
      (htidy.channel_eq.trans hkey) htidy.capacity_eq htidy.reservable htidy.orderly

/-- A packet is always of the channel of the window that was found for it. -/
theorem insert_of_slot? (h : Tidy c condition) {p : Packet} {s : Slot}
    (hs : c.slot? p.channel = some s) : s.window.insert p = .ok (s.window.store p) := by
  obtain ⟨hkey, htidy⟩ := h.slot? hs
  rw [Window.insert, if_pos (htidy.channel_eq.trans hkey).symm]

/-- Where no window can be opened there are no channels. -/
theorem slots_eq_nil (h : Tidy c condition) (hroom : Window.isReservable c.maxPackets = false) :
    c.slots = [] := by
  refine List.eq_nil_iff_forall_not_mem.mpr fun s hs => ?_
  have hreservable := (h.tidy_of_mem s hs).reservable
  rw [hroom] at hreservable
  cases hreservable

/-- If no window can be opened for a packet, the store was without channels and stays so. -/
theorem add_eq_self (h : Tidy c condition) {p : Packet} (hadd : (c.add p).1 = none) :
    (c.add p).2 = c := by
  obtain ⟨_, hroom, hstore⟩ := of_add_eq_none hadd
  rw [hstore, makeRoom_of_slots_eq_nil (h.slots_eq_nil hroom)]

theorem add (h : Tidy c condition) (hpos : 0 < c.maxChannels) (hpackets : 0 < c.maxPackets)
    {p : Packet} (hp : condition p.channel) : Tidy (c.add p).2 condition := by
  rcases c.add_cases p with ⟨s, hs, hadd⟩ | ⟨hs, hroom, hadd⟩ | ⟨_, _, hadd⟩
  · obtain ⟨hkey, htidy⟩ := h.slot? hs
    have hchannel := htidy.channel_eq.trans hkey
    rw [hadd]
    refine .touch h.size_le h.nodup_channels h.condition_of_mem (fun t ht _ => h.tidy_of_mem t ht)
      ?_ ?_ htidy.reservable (htidy.orderly.store hchannel.symm)
    · rw [Window.store_channel, hchannel]
    · rw [Window.store_capacity, htidy.capacity_eq]
  · rw [hadd]
    refine .touch ?_ (nodup_channels_opened h.nodup_channels hs) ?_ ?_ ?_ ?_ ?_
      (Window.orderly_store_empty c.maxPackets p)
    · rw [maxChannels_opened]
      exact size_opened_le hpos h.size_le
    · intro t ht
      rcases mem_slots_opened ht with ht | heq
      · exact h.condition_of_mem t ht
      · rw [heq]
        exact hp
    · intro t ht hne
      rw [maxPackets_opened]
      exact h.tidy_of_mem t ((mem_slots_opened ht).resolve_right hne)
    · exact Window.store_channel _ p
    · rw [Window.store_capacity, maxPackets_opened]
      exact Nat.max_eq_left hpackets
    · rw [maxPackets_opened]
      exact hroom
  · rw [h.add_eq_self (congrArg Prod.fst hadd)]
    exact h

end Tidy

/-! ## The view -/

theorem channels_perm (c : ChannelStore) : c.channels.Perm (c.slots.map Slot.channel) :=
  ChannelKey.sort_perm _

/-- The live channels are those that have a window. -/
theorem mem_channels_iff : key ∈ c.channels ↔ (c.window? key).isSome := by
  rw [c.channels_perm.mem_iff, List.mem_map, window?, Option.isSome_map, ChannelStore.slot?,
    List.find?_isSome]
  simp

theorem length_channels (c : ChannelStore) : c.channels.length = c.size := by
  rw [c.channels_perm.length_eq, List.length_map, size]

namespace Tidy

theorem window?_of_mem (h : Tidy c condition) {s : Slot} (hs : s ∈ c.slots) :
    c.window? s.channel = some s.window := by
  have hsome : (c.slot? s.channel).isSome := List.find?_isSome.mpr ⟨s, hs, by simp⟩
  obtain ⟨t, ht⟩ := Option.isSome_iff_exists.mp hsome
  have hmem := List.mem_of_find?_eq_some ht
  obtain rfl := List.inj_on_of_nodup_map h.nodup_channels hmem hs (h.slot? ht).1
  rw [window?, ht, Option.map_some]

/-- What always holds of the window of a live channel. -/
theorem of_window? (h : Tidy c condition) (hw : c.window? key = some w) :
    condition key ∧ w.channel = key ∧ w.capacity = c.maxPackets ∧ w.Orderly := by
  obtain ⟨s, hs, rfl⟩ := Option.map_eq_some_iff.mp hw
  obtain ⟨hkey, htidy⟩ := h.slot? hs
  subst hkey
  exact ⟨h.condition_of_mem s (List.mem_of_find?_eq_some hs), htidy.channel_eq, htidy.capacity_eq,
    htidy.orderly⟩

/-- The packets in all windows are those in the windows of the live channels. -/
theorem totalPackets_eq (h : Tidy c condition) : c.totalPackets =
    (c.channels.map fun k => ((c.window? k).map Window.size).getD 0).sum := by
  rw [c.totalPackets_eq_sum, (c.channels_perm.map _).sum_eq, List.map_map]
  congr 1
  apply List.map_congr_left
  intro s hs
  rw [Function.comp_apply, h.window?_of_mem hs]
  rfl

end Tidy

end ChannelStore

end WaveCache
