import Mathlib.Algebra.Ring.Nat
import WaveCache.ChannelStore
import WaveCache.Proofs.Window.Insertion

/-!
# The windows of a channel store

Seen from outside, a store is a window for each live channel.  `window?` is that view, and the
lemmas here say what each operation does to it: `window?_add` for packets, `window?_visit` for
queries.  A window goes only if its channel is the one that `add` reports as given up.
-/

namespace WaveCache

/-! ## The slot to give up -/

theorem Slot.touched_le_of_staler {s t : Slot} (h : s.staler t = true) : s.touched ≤ t.touched := by
  simp only [Slot.staler, Bool.or_eq_true, Bool.and_eq_true, decide_eq_true_eq] at h
  rcases h with hlt | ⟨heq, _⟩
  · exact UInt64.le_of_lt hlt
  · rw [heq]
    exact UInt64.le_refl _

theorem Slot.touched_le_of_not_staler {s t : Slot} (h : ¬ s.staler t = true) :
    t.touched ≤ s.touched := by
  simp only [Slot.staler, Bool.or_eq_true, decide_eq_true_eq, not_or] at h
  exact UInt64.not_lt.mp h.1

namespace ChannelStore

theorem stalest?_eq_none {ss : List Slot} : stalest? ss = none ↔ ss = [] := by
  cases ss with
  | nil => simp [stalest?]
  | cons s rest =>
    rw [stalest?]
    cases stalest? rest with
    | none => simp
    | some t => by_cases h : t.staler s <;> simp [h]

/-- No slot has a lesser stamp than the one that is given up. -/
theorem stalest?_eq_some {ss : List Slot} {s : Slot} (h : stalest? ss = some s) :
    s ∈ ss ∧ ∀ t ∈ ss, s.touched ≤ t.touched := by
  induction ss generalizing s with
  | nil => cases h
  | cons first rest ih =>
    rw [stalest?] at h
    cases hrest : stalest? rest with
    | none =>
      rw [hrest] at h
      obtain rfl := Option.some.inj h
      rw [stalest?_eq_none.mp hrest]
      simp
    | some t =>
      obtain ⟨ht, hleast⟩ := ih hrest
      rw [hrest] at h
      by_cases hstaler : t.staler first = true
      · obtain rfl : t = s := by simpa [hstaler] using h
        refine ⟨List.mem_cons_of_mem _ ht, ?_⟩
        intro u hu
        rcases List.mem_cons.mp hu with rfl | hu
        · exact Slot.touched_le_of_staler hstaler
        · exact hleast u hu
      · obtain rfl : first = s := by simpa [hstaler] using h
        refine ⟨List.mem_cons_self, ?_⟩
        intro u hu
        rcases List.mem_cons.mp hu with rfl | hu
        · exact UInt64.le_refl _
        · exact UInt64.le_trans (Slot.touched_le_of_not_staler hstaler) (hleast u hu)

/-! ## The view -/

variable {c : ChannelStore} {key k : ChannelKey} {w : Window}

/-- The window of a channel. -/
def window? (c : ChannelStore) (key : ChannelKey) : Option Window :=
  (c.slot? key).map (·.window)

theorem channel_of_slot? {s : Slot} (hs : c.slot? key = some s) : s.channel = key := by
  simpa using List.find?_some hs

theorem window?_of_slot?_eq_some {s : Slot} (hs : c.slot? key = some s) :
    c.window? key = some s.window := by
  rw [window?, hs, Option.map_some]

theorem window?_of_slot?_eq_none (hs : c.slot? key = none) : c.window? key = none := by
  rw [window?, hs, Option.map_none]

/-- The packets in all windows, as a sum. -/
theorem totalPackets_eq_sum (c : ChannelStore) :
    c.totalPackets = (c.slots.map fun s => s.window.size).sum := by
  rw [totalPackets, List.sum_eq_foldr, List.foldr_map]

/-! ## What operations keep -/

/-- Slots may go when room is made, and nothing else changes. -/
theorem makeRoom_eq (c : ChannelStore) :
    c.makeRoom.2 = { c with slots := c.makeRoom.2.slots } := by
  rw [makeRoom, evict]
  split
  · split <;> rfl
  · rfl

@[simp] theorem maxPackets_makeRoom (c : ChannelStore) :
    c.makeRoom.2.maxPackets = c.maxPackets := by
  rw [makeRoom_eq]

@[simp] theorem maxChannels_makeRoom (c : ChannelStore) :
    c.makeRoom.2.maxChannels = c.maxChannels := by
  rw [makeRoom_eq]

@[simp] theorem clock_makeRoom (c : ChannelStore) : c.makeRoom.2.clock = c.clock := by
  rw [makeRoom_eq]

theorem makeRoom_of_slots_eq_nil (hs : c.slots = []) : c.makeRoom.2 = c := by
  rw [makeRoom, evict, hs]
  split <;> rfl

@[simp] theorem maxPackets_visit {α : Type} (c : ChannelStore) (key : ChannelKey)
    (look : Window → α) : (c.visit key look).2.maxPackets = c.maxPackets := by
  rw [visit]
  cases c.slot? key <;> rfl

@[simp] theorem maxChannels_visit {α : Type} (c : ChannelStore) (key : ChannelKey)
    (look : Window → α) : (c.visit key look).2.maxChannels = c.maxChannels := by
  rw [visit]
  cases c.slot? key <;> rfl

/-! ## The ways to take in a packet -/

/-- The store in which a window was opened for a channel that was not live. -/
def opened (c : ChannelStore) (key : ChannelKey) : ChannelStore :=
  c.makeRoom.2.addWindow (.empty key c.maxPackets)

@[simp] theorem maxPackets_opened (c : ChannelStore) (key : ChannelKey) :
    (c.opened key).maxPackets = c.maxPackets :=
  maxPackets_makeRoom c

@[simp] theorem maxChannels_opened (c : ChannelStore) (key : ChannelKey) :
    (c.opened key).maxChannels = c.maxChannels :=
  maxChannels_makeRoom c

@[simp] theorem clock_opened (c : ChannelStore) (key : ChannelKey) :
    (c.opened key).clock = c.clock + 1 := by
  show c.makeRoom.2.clock + 1 = c.clock + 1
  rw [clock_makeRoom]

section

variable {p : Packet} {report : AddReport}

theorem add_of_slot?_eq_some {s : Slot} (hs : c.slot? p.channel = some s) :
    c.add p = (some ⟨(s.window.store p).1, false, none⟩,
      c.touch p.channel (s.window.store p).2) := by
  rw [add, hs]

theorem add_of_slot?_eq_none (hs : c.slot? p.channel = none)
    (hroom : Window.isReservable c.maxPackets = true) :
    c.add p = (some ⟨((Window.empty p.channel c.maxPackets).store p).1, true, c.makeRoom.1⟩,
      (c.opened p.channel).touch p.channel
        ((Window.empty p.channel c.maxPackets).store p).2) := by
  rw [add, hs]
  simp only [Window.open?, maxPackets_makeRoom, if_pos hroom]
  rfl

theorem add_of_not_isReservable (hs : c.slot? p.channel = none)
    (hroom : Window.isReservable c.maxPackets = false) : c.add p = (none, c.makeRoom.2) := by
  rw [add, hs]
  simp only [Window.open?, maxPackets_makeRoom, hroom, Bool.false_eq_true, if_false]

/-- A packet goes into the window of its channel, or else into a new one, or else there can be no
window for it. -/
theorem add_cases (c : ChannelStore) (p : Packet) :
    (∃ s, c.slot? p.channel = some s ∧
      c.add p = (some ⟨(s.window.store p).1, false, none⟩,
        c.touch p.channel (s.window.store p).2)) ∨
    (c.slot? p.channel = none ∧ Window.isReservable c.maxPackets = true ∧
      c.add p = (some ⟨((Window.empty p.channel c.maxPackets).store p).1, true, c.makeRoom.1⟩,
        (c.opened p.channel).touch p.channel
          ((Window.empty p.channel c.maxPackets).store p).2)) ∨
    (c.slot? p.channel = none ∧ Window.isReservable c.maxPackets = false ∧
      c.add p = (none, c.makeRoom.2)) := by
  cases hs : c.slot? p.channel with
  | some s => exact .inl ⟨s, rfl, add_of_slot?_eq_some hs⟩
  | none =>
    right
    cases hroom : Window.isReservable c.maxPackets with
    | true => exact .inl ⟨rfl, rfl, add_of_slot?_eq_none hs hroom⟩
    | false => exact .inr ⟨rfl, rfl, add_of_not_isReservable hs hroom⟩

/-- Only where a window cannot be opened is there no report. -/
theorem of_add_eq_none (h : (c.add p).1 = none) : c.slot? p.channel = none ∧
    Window.isReservable c.maxPackets = false ∧ (c.add p).2 = c.makeRoom.2 := by
  rcases c.add_cases p with ⟨s, _, hadd⟩ | ⟨_, _, hadd⟩ | ⟨hs, hroom, hadd⟩
  · rw [hadd] at h
    cases h
  · rw [hadd] at h
    cases h
  · exact ⟨hs, hroom, congrArg Prod.snd hadd⟩

/-- A report is on a window that was there or on a new one. -/
theorem of_add_eq_some (h : (c.add p).1 = some report) :
    (∃ s, c.slot? p.channel = some s ∧ report = ⟨(s.window.store p).1, false, none⟩ ∧
      (c.add p).2 = c.touch p.channel (s.window.store p).2) ∨
    (c.slot? p.channel = none ∧ Window.isReservable c.maxPackets = true ∧
      report = ⟨((Window.empty p.channel c.maxPackets).store p).1, true, c.makeRoom.1⟩ ∧
      (c.add p).2 = (c.opened p.channel).touch p.channel
        ((Window.empty p.channel c.maxPackets).store p).2) := by
  rcases c.add_cases p with ⟨s, hs, hadd⟩ | ⟨hs, hroom, hadd⟩ | ⟨_, _, hadd⟩
  · rw [hadd] at h ⊢
    exact .inl ⟨s, hs, (Option.some.inj h).symm, rfl⟩
  · rw [hadd] at h ⊢
    exact .inr ⟨hs, hroom, (Option.some.inj h).symm, rfl⟩
  · rw [hadd] at h
    cases h

@[simp] theorem maxPackets_add (c : ChannelStore) (p : Packet) :
    (c.add p).2.maxPackets = c.maxPackets := by
  rcases c.add_cases p with ⟨s, _, hadd⟩ | ⟨_, _, hadd⟩ | ⟨_, _, hadd⟩
  · rw [hadd]
    rfl
  · rw [hadd]
    exact c.maxPackets_opened p.channel
  · rw [hadd, maxPackets_makeRoom]

@[simp] theorem maxChannels_add (c : ChannelStore) (p : Packet) :
    (c.add p).2.maxChannels = c.maxChannels := by
  rcases c.add_cases p with ⟨s, _, hadd⟩ | ⟨_, _, hadd⟩ | ⟨_, _, hadd⟩
  · rw [hadd]
    rfl
  · rw [hadd]
    exact c.maxChannels_opened p.channel
  · rw [hadd, maxChannels_makeRoom]

end

/-! ## Changes of the slots -/

/-- A touch finds the same slots as before, the touched one with its new window. -/
theorem slot?_touch (c : ChannelStore) (key k : ChannelKey) (w : Window) :
    (c.touch key w).slot? k = (c.slot? k).map fun s =>
      if s.channel = key then { s with window := w, touched := c.clock + 1 } else s := by
  rw [slot?, touch, List.find?_map]
  congr 2
  funext s
  by_cases hs : s.channel = key <;> simp [hs]

theorem window?_touch (hkey : (c.slot? key).isSome) :
    (c.touch key w).window? k = if k = key then some w else c.window? k := by
  rw [window?, slot?_touch, Option.map_map]
  by_cases hk : k = key
  · subst hk
    obtain ⟨s, hs⟩ := Option.isSome_iff_exists.mp hkey
    have hchannel := channel_of_slot? hs
    simp [hs, hchannel]
  · rw [if_neg hk, window?]
    cases hs : c.slot? k with
    | none => rfl
    | some s =>
      have hchannel := channel_of_slot? hs
      simp [hchannel, hk]

theorem window?_evict (c : ChannelStore) (k : ChannelKey) :
    c.evict.2.window? k = if c.evict.1 = some k then none else c.window? k := by
  rw [evict]
  cases stalest? c.slots with
  | none => simp
  | some s =>
    simp only [window?, slot?, List.find?_filter, Option.some.injEq]
    by_cases hs : s.channel = k
    · rw [if_pos hs, Option.map_eq_none_iff, List.find?_eq_none]
      intro t _
      simp [hs]
    · rw [if_neg hs]
      congr 2
      funext t
      by_cases ht : t.channel = k
      · simp [ht, Ne.symm hs]
      · simp [ht]

theorem window?_makeRoom (c : ChannelStore) (k : ChannelKey) :
    c.makeRoom.2.window? k = if c.makeRoom.1 = some k then none else c.window? k := by
  rw [makeRoom]
  split
  · exact window?_evict c k
  · simp

/-- A channel that is given up was live. -/
theorem window?_isSome_of_makeRoom (h : c.makeRoom.1 = some k) : (c.window? k).isSome := by
  rw [makeRoom] at h
  split at h
  · rw [evict] at h
    cases hstalest : stalest? c.slots with
    | none =>
      rw [hstalest] at h
      cases h
    | some s =>
      rw [hstalest] at h
      obtain rfl : s.channel = k := Option.some.inj h
      rw [window?, Option.isSome_map, slot?, List.find?_isSome]
      exact ⟨s, (stalest?_eq_some hstalest).1, by simp⟩
  · cases h

theorem slot?_addWindow_self (c : ChannelStore) (w : Window) :
    ((c.addWindow w).slot? w.channel).isSome := by
  simp [slot?, addWindow]

theorem slot?_opened_self (c : ChannelStore) (key : ChannelKey) :
    ((c.opened key).slot? key).isSome :=
  slot?_addWindow_self c.makeRoom.2 (.empty key c.maxPackets)

theorem window?_addWindow (hkey : k ≠ w.channel) : (c.addWindow w).window? k = c.window? k := by
  simp [window?, slot?, addWindow, Ne.symm hkey]

/-! ## Operations -/

section

variable {p : Packet} {report : AddReport}

/-- A packet changes the window of its channel, which it opens if there is none.  The channel that
is reported as given up loses its window, and all other channels keep theirs. -/
theorem window?_add (h : (c.add p).1 = some report) (k : ChannelKey) :
    (c.add p).2.window? k =
      if k = p.channel then
        some (((c.window? k).getD (.empty k c.maxPackets)).store p).2
      else if report.evicted = some k then none
      else c.window? k := by
  rcases of_add_eq_some h with ⟨s, hs, rfl, hadd⟩ | ⟨hs, _, rfl, hadd⟩
  · rw [hadd, window?_touch (by rw [hs]; rfl)]
    by_cases hk : k = p.channel
    · subst hk
      rw [if_pos rfl, if_pos rfl, window?, hs]
      rfl
    · simp [hk]
  · rw [hadd, window?_touch (slot?_opened_self c p.channel)]
    by_cases hk : k = p.channel
    · subst hk
      rw [if_pos rfl, if_pos rfl, window?, hs]
      rfl
    · rw [if_neg hk, if_neg hk, opened, window?_addWindow hk, window?_makeRoom]

/-- The channel of a packet is not given up for it. -/
theorem evicted_ne_channel (h : (c.add p).1 = some report) : report.evicted ≠ some p.channel := by
  rcases of_add_eq_some h with ⟨s, hs, rfl, _⟩ | ⟨hs, _, rfl, _⟩
  · simp
  · intro hevicted
    have hlive := window?_isSome_of_makeRoom hevicted
    rw [window?, hs] at hlive
    cases hlive

/-- A packet that is too old belongs to a live channel, so that no channel was given up for it. -/
theorem evicted_eq_none_of_tooOld {oldest : Micros} (h : (c.add p).1 = some report)
    (htooOld : report.insert = .tooOld oldest) : report.evicted = none := by
  rcases of_add_eq_some h with ⟨s, _, rfl, _⟩ | ⟨_, _, rfl, _⟩
  · rfl
  · rw [Window.store_empty] at htooOld
    cases htooOld

end

theorem visit_fst {α : Type} (c : ChannelStore) (key : ChannelKey) (look : Window → α) :
    (c.visit key look).1 = (c.window? key).map look := by
  rw [visit, window?]
  cases c.slot? key <;> rfl

/-- A query changes no window. -/
@[simp] theorem window?_visit {α : Type} (c : ChannelStore) (key k : ChannelKey)
    (look : Window → α) : (c.visit key look).2.window? k = c.window? k := by
  rw [visit]
  cases hs : c.slot? key with
  | none => rfl
  | some s =>
    show (c.touch key s.window).window? k = c.window? k
    rw [window?_touch (by rw [hs]; rfl)]
    by_cases hk : k = key
    · rw [if_pos hk, hk, window?, hs]
      rfl
    · rw [if_neg hk]

end ChannelStore

end WaveCache
