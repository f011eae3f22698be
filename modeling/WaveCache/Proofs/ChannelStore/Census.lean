import WaveCache.Proofs.ChannelStore.Mirror
import WaveCache.Proofs.ChannelStore.Tidy

/-!
# How many channels and packets there are

What a packet does to the number of live channels and to the number of packets in their windows.
Both numbers can fall, since a channel may be given up and its packets go with it, so the lemmas
here are equations with what is lost on the left and what is gained on the right.

A slot is looked at in its place: the slots are those in front of it, the slot itself and those
behind it, as in `filter_channel_ne` and `map_channel_eq`.
-/

namespace WaveCache

/-- A packet that is inserted is one more.  If it takes the place of another, or the oldest is given
up for it, or it is too old, there are as many packets as before. -/
theorem Window.size_store {w : Window} (ha : Ascending w.packets) (p : Packet) :
    (w.store p).2.size = w.size + if (w.store p).1 = .inserted then 1 else 0 := by
  have hstored := stored_store ha p
  generalize w.store p = result at hstored
  unfold size
  cases hstored with
  | replaced hsplit hstart => simp [hsplit]
  | inserted hsplit holder hnewer hroom =>
    simp [hsplit]
    omega
  | evicting hsplit holder hnewer hfull =>
    simp [hsplit]
    omega
  | tooOld hnewer hfull => simp

namespace ChannelStore

variable {c : ChannelStore} {condition : ChannelKey → Prop} {front back : List Slot} {s : Slot}

/-- The number of packets that a channel has, none if there is no channel or it is not live. -/
def held (c : ChannelStore) (key : Option ChannelKey) : Nat :=
  ((key.bind c.window?).map Window.size).getD 0

/-! ## Changes of the slots -/

theorem totalPackets_of_split (hslots : c.slots = front ++ s :: back) :
    c.totalPackets =
      ((front ++ back).map fun t => t.window.size).sum + s.window.size := by
  rw [totalPackets_eq_sum, hslots, (List.perm_middle.map _).sum_eq, List.map_cons, List.sum_cons]
  omega

/-- A touch exchanges the packets of one window for those of another. -/
theorem totalPackets_touch (hslots : c.slots = front ++ s :: back)
    (hnodup : (c.slots.map Slot.channel).Nodup) (w : Window) :
    (c.touch s.channel w).totalPackets + s.window.size = c.totalPackets + w.size := by
  rw [hslots] at hnodup
  have htouched : (c.touch s.channel w).slots =
      front ++ { s with window := w, touched := c.clock + 1 } :: back := by
    rw [touch, hslots]
    exact map_channel_eq (channel_ne_of_nodup hnodup) _
  rw [totalPackets_of_split hslots, totalPackets_of_split htouched, Nat.add_right_comm]

theorem size_touch (c : ChannelStore) (key : ChannelKey) (w : Window) :
    (c.touch key w).size = c.size :=
  List.length_map _

@[simp] theorem size_visit {α : Type} (c : ChannelStore) (key : ChannelKey) (look : Window → α) :
    (c.visit key look).2.size = c.size := by
  rw [visit]
  cases c.slot? key with
  | none => rfl
  | some s => exact c.size_touch key s.window

/-- A query exchanges the packets of a window for themselves. -/
theorem Tidy.totalPackets_visit {α : Type} (h : Tidy c condition) (key : ChannelKey)
    (look : Window → α) : (c.visit key look).2.totalPackets = c.totalPackets := by
  rw [ChannelStore.visit]
  cases hs : c.slot? key with
  | none => rfl
  | some s =>
    obtain ⟨front, back, hslots⟩ := List.append_of_mem (List.mem_of_find?_eq_some hs)
    have htouch := totalPackets_touch hslots h.nodup_channels s.window
    rw [channel_of_slot? hs] at htouch
    exact Nat.add_right_cancel htouch

/-- If a channel is given up, its packets are lost. -/
theorem Tidy.evict (h : Tidy c condition) :
    c.evict.2.size + (if c.evict.1.isSome then 1 else 0) = c.size ∧
      c.evict.2.totalPackets + c.held c.evict.1 = c.totalPackets := by
  rw [ChannelStore.evict]
  cases hstalest : stalest? c.slots with
  | none => exact ⟨rfl, rfl⟩
  | some s =>
    have hmem := (stalest?_eq_some hstalest).1
    have hwindow := h.window?_of_mem hmem
    obtain ⟨front, back, hslots⟩ := List.append_of_mem hmem
    have hnodup := h.nodup_channels
    rw [hslots] at hnodup
    have hrest : (c.slots.filter fun t => t.channel ≠ s.channel) = front ++ back := by
      rw [hslots]
      exact filter_channel_ne (channel_ne_of_nodup hnodup)
    refine ⟨?_, ?_⟩
    · show (c.slots.filter fun t => t.channel ≠ s.channel).length + 1 = c.slots.length
      rw [hrest, hslots, List.perm_middle.length_eq, List.length_cons]
    · have hheld : c.held (some s.channel) = s.window.size := by
        rw [held, Option.bind_some, hwindow, Option.map_some, Option.getD_some]
      show totalPackets { c with slots := c.slots.filter fun t => t.channel ≠ s.channel } +
        c.held (some s.channel) = c.totalPackets
      rw [hheld, totalPackets_of_split hslots, hrest, totalPackets_eq_sum]

theorem Tidy.makeRoom (h : Tidy c condition) :
    c.makeRoom.2.size + (if c.makeRoom.1.isSome then 1 else 0) = c.size ∧
      c.makeRoom.2.totalPackets + c.held c.makeRoom.1 = c.totalPackets := by
  rw [ChannelStore.makeRoom]
  split
  · exact h.evict
  · exact ⟨rfl, rfl⟩

/-- A window that is opened is empty. -/
theorem totalPackets_opened (c : ChannelStore) (key : ChannelKey) :
    (c.opened key).totalPackets = c.makeRoom.2.totalPackets := by
  rw [totalPackets_eq_sum, totalPackets_eq_sum, opened, addWindow, List.map_append, List.sum_append]
  rfl

theorem size_opened (c : ChannelStore) (key : ChannelKey) :
    (c.opened key).size = c.makeRoom.2.size + 1 :=
  List.length_append

/-! ## Packets -/

namespace Tidy

variable {p : Packet} {report : AddReport}

/-- The channel of a packet may be new, and another may be given up for it. -/
theorem size_add (h : Tidy c condition) (hadd : (c.add p).1 = some report) :
    (c.add p).2.size + (if report.evicted.isSome then 1 else 0) =
      c.size + if report.created then 1 else 0 := by
  rcases of_add_eq_some hadd with ⟨s, hs, rfl, hstore⟩ | ⟨hs, _, rfl, hstore⟩
  · rw [hstore, size_touch]
    rfl
  · have hroom := h.makeRoom.1
    rw [hstore, size_touch, size_opened]
    show c.makeRoom.2.size + 1 + (if c.makeRoom.1.isSome then 1 else 0) = c.size + 1
    omega

/-- A packet that is inserted is one more, and those of a channel that is given up are lost. -/
theorem totalPackets_add (h : Tidy c condition) (hadd : (c.add p).1 = some report) :
    (c.add p).2.totalPackets + c.held report.evicted =
      c.totalPackets + if report.insert = .inserted then 1 else 0 := by
  rcases of_add_eq_some hadd with ⟨s, hs, rfl, hafter⟩ | ⟨hs, _, rfl, hafter⟩
  · have hmem := List.mem_of_find?_eq_some hs
    obtain ⟨front, back, hslots⟩ := List.append_of_mem hmem
    have htouch := totalPackets_touch hslots h.nodup_channels (s.window.store p).2
    have hstore := Window.size_store (h.tidy_of_mem s hmem).orderly.ascending p
    rw [channel_of_slot? hs] at htouch
    rw [hafter]
    show (c.touch p.channel (s.window.store p).2).totalPackets + 0 =
      c.totalPackets + if (s.window.store p).1 = .inserted then 1 else 0
    omega
  · -- the new window is the last slot, and the packet is all that is in it
    have hslots : (c.opened p.channel).slots = c.makeRoom.2.slots ++
        ⟨p.channel, .empty p.channel c.maxPackets, c.makeRoom.2.clock + 1,
          c.makeRoom.2.clock + 1⟩ :: [] :=
      rfl
    have htouch := totalPackets_touch hslots (nodup_channels_opened h.nodup_channels hs)
      ((Window.empty p.channel c.maxPackets).store p).2
    have hopened := c.totalPackets_opened p.channel
    have hroom := h.makeRoom.2
    rw [hafter]
    rw [Window.store_empty] at htouch ⊢
    change ((c.opened p.channel).touch p.channel _).totalPackets + 0 =
      (c.opened p.channel).totalPackets + 1 at htouch
    show ((c.opened p.channel).touch p.channel _).totalPackets + c.held c.makeRoom.1 =
      c.totalPackets + 1
    omega

end Tidy

end ChannelStore

end WaveCache
