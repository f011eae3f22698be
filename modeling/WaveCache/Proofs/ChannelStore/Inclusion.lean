import WaveCache.Proofs.ChannelStore.Alike
import WaveCache.Proofs.ChannelStore.Refinement

/-!
# More room keeps more channels

Two stores get the same calls, and one of them has room for more channels.  They do not stay in
step: a query may find a channel in the roomier store, and touch it there, which the other one has
given up.  But what the smaller store has is always among what the roomier one has, and in the same
order of recency.

A call changes the keys of a recency list by its bound and the keys alone (`keysAfter`), so this is
shown for lists of keys.  The order by itself is not enough to go on with: the roomier list might
have to push out a key that the other one keeps.  `Fits` says in addition that a list with free
places has lost nothing yet, so that a key is only pushed out of the roomier list when one goes from
the other as well.
-/

namespace WaveCache

namespace RecencyList

/-! ## Calls and keys -/

/-- Moves a key to the front. -/
def moveToFront (key : ChannelKey) (keys : List ChannelKey) : List ChannelKey :=
  key :: keys.filter (· ≠ key)

/-- Takes off the key at the back if there is no room for another. -/
def giveWay (bound : Nat) (keys : List ChannelKey) : List ChannelKey :=
  if bound ≤ keys.length then keys.dropLast else keys

/-- The keys after a query. -/
def keysAfterVisit (key : ChannelKey) (keys : List ChannelKey) : List ChannelKey :=
  if key ∈ keys then moveToFront key keys else keys

/-- The keys after a packet. -/
def keysAfterAdd (bound : Nat) (key : ChannelKey) (keys : List ChannelKey) : List ChannelKey :=
  if key ∈ keys then moveToFront key keys else key :: giveWay bound keys

/-- The keys after a call. -/
def keysAfter (bound : Nat) (keys : List ChannelKey) : StoreCall → List ChannelKey
  | .add p => keysAfterAdd bound p.channel keys
  | .query key _ _ | .packets key _ _ | .packetsSince key _ => keysAfterVisit key keys
  | .clear => []
  | .contains _ | .earliest _ | .size | .totalPackets | .channels => keys

variable (l : RecencyList)

theorem window?_isSome_iff (key : ChannelKey) : (l.window? key).isSome ↔ key ∈ l.keys := by
  simp [window?, keys]

theorem keys_toFront (key : ChannelKey) (w : Window) :
    (l.toFront key w).keys = moveToFront key l.keys := by
  show key :: ((l.entries.filter fun entry => entry.1 ≠ key).map (·.1)) = _
  rw [moveToFront, keys, List.filter_map]
  rfl

theorem keys_makeRoom : l.makeRoom.2.keys = giveWay l.maxChannels l.keys := by
  have hlength : l.keys.length = l.entries.length := List.length_map _
  rw [makeRoom, giveWay, hlength]
  split
  · exact List.map_dropLast
  · rfl

theorem keys_visit {α : Type} (key : ChannelKey) (look : Window → α) :
    (l.visit key look).2.keys = keysAfterVisit key l.keys := by
  have hlive := l.window?_isSome_iff key
  rw [visit, keysAfterVisit]
  cases hwindow : l.window? key with
  | some w =>
    rw [if_pos (hlive.mp (by rw [hwindow]; rfl))]
    exact l.keys_toFront key w
  | none => rw [if_neg fun hkey => by simpa [hwindow] using hlive.mpr hkey]

theorem keys_perform (hroom : Window.isReservable l.maxPackets = true) (call : StoreCall) :
    (l.perform call).2.keys = keysAfter l.maxChannels l.keys call := by
  cases call with
  | add p =>
    show (l.add p).2.keys = _
    have hlive := l.window?_isSome_iff p.channel
    rw [keysAfter, keysAfterAdd]
    cases hwindow : l.window? p.channel with
    | some w =>
      rw [add, hwindow, if_pos (hlive.mp (by rw [hwindow]; rfl))]
      exact l.keys_toFront p.channel _
    | none =>
      rw [add_of_isReservable hwindow hroom,
        if_neg fun hkey => by simpa [hwindow] using hlive.mpr hkey, ← keys_makeRoom]
      rfl
  | query key t₀ t₁ => exact l.keys_visit key fun w => w.query t₀ t₁
  | packets key t₀ t₁ => exact l.keys_visit key fun w => w.query t₀ t₁
  | packetsSince key t₀ => exact l.keys_visit key fun w => w.since t₀
  | contains | earliest | size | totalPackets | channels | clear => rfl

/-- A call leaves both bounds as they are. -/
theorem bounds_perform (call : StoreCall) : (l.perform call).2.maxChannels = l.maxChannels ∧
    (l.perform call).2.maxPackets = l.maxPackets := by
  have hvisit {α : Type} (key : ChannelKey) (look : Window → α) :
      (l.visit key look).2.maxChannels = l.maxChannels ∧
        (l.visit key look).2.maxPackets = l.maxPackets := by
    rw [visit]
    cases l.window? key <;> exact ⟨rfl, rfl⟩
  cases call with
  | add p =>
    have hmakeRoom : l.makeRoom.2.maxChannels = l.maxChannels := by
      rw [makeRoom]
      split <;> rfl
    show (l.add p).2.maxChannels = l.maxChannels ∧ (l.add p).2.maxPackets = l.maxPackets
    cases hwindow : l.window? p.channel with
    | some w =>
      rw [add, hwindow]
      exact ⟨rfl, rfl⟩
    | none =>
      cases hroom : Window.isReservable l.maxPackets with
      | true =>
        rw [add_of_isReservable hwindow hroom]
        exact ⟨hmakeRoom, l.maxPackets_makeRoom⟩
      | false =>
        rw [add_of_not_isReservable hwindow hroom]
        exact ⟨hmakeRoom, l.maxPackets_makeRoom⟩
  | query key t₀ t₁ => exact hvisit key fun w => w.query t₀ t₁
  | packets key t₀ t₁ => exact hvisit key fun w => w.query t₀ t₁
  | packetsSince key t₀ => exact hvisit key fun w => w.since t₀
  | contains | earliest | size | totalPackets | channels | clear => exact ⟨rfl, rfl⟩

/-! ## Moves -/

variable {key : ChannelKey} {keys : List ChannelKey}

theorem moveToFront_perm (hnodup : keys.Nodup) (hkey : key ∈ keys) :
    (moveToFront key keys).Perm keys := by
  have hfilter : keys.filter (· ≠ key) = keys.erase key := by
    rw [hnodup.erase_eq_filter]
    exact List.filter_congr fun k _ => decide_not
  rw [moveToFront, hfilter]
  exact (List.perm_cons_erase hkey).symm

theorem giveWay_sublist (bound : Nat) (keys : List ChannelKey) :
    (giveWay bound keys).Sublist keys := by
  rw [giveWay]
  split
  · exact List.dropLast_sublist keys
  · exact List.Sublist.refl keys

/-- Where one key gives way to another, the list stays full. -/
theorem le_length_push {bound : Nat} (hfull : bound ≤ keys.length) :
    bound ≤ (key :: giveWay bound keys).length := by
  rw [giveWay, if_pos hfull, List.length_cons, List.length_dropLast]
  omega

/-! ## Keys under two bounds -/

/-- The keys are among the others, in the same order, and none is missing while places are free. -/
structure Fits (bound : Nat) (keys others : List ChannelKey) : Prop where
  sublist : keys.Sublist others
  nodup : others.Nodup
  full_or_eq : bound ≤ keys.length ∨ keys = others

namespace Fits

variable {bound bound' : Nat} {others : List ChannelKey}

/-- A key that both lists have. -/
theorem moveToFront (h : Fits bound keys others) (hkey : key ∈ keys) :
    Fits bound (moveToFront key keys) (RecencyList.moveToFront key others) where
  sublist := (h.sublist.filter _).cons_cons key
  nodup := (moveToFront_perm h.nodup (h.sublist.subset hkey)).nodup_iff.mpr h.nodup
  full_or_eq := by
    rcases h.full_or_eq with hfull | rfl
    · left
      rwa [(moveToFront_perm (h.nodup.sublist h.sublist) hkey).length_eq]
    · exact .inr rfl

/-- A key that only the longer list has can be taken out of it. -/
theorem sublist_filter (h : Fits bound keys others) (hkey : key ∉ keys) :
    keys.Sublist (others.filter (· ≠ key)) := by
  have hself : keys.filter (· ≠ key) = keys := by
    refine List.filter_eq_self.mpr fun k hk => ?_
    have hne : k ≠ key := fun heq => hkey (heq ▸ hk)
    simpa using hne
  rw [← hself]
  exact h.sublist.filter _

/-- A list that lacks a key of the other one is full. -/
theorem full (h : Fits bound keys others) (hkey : key ∉ keys) (hother : key ∈ others) :
    bound ≤ keys.length := by
  rcases h.full_or_eq with hfull | rfl
  · exact hfull
  · exact absurd hother hkey

theorem keysAfterVisit (h : Fits bound keys others) (key : ChannelKey) :
    Fits bound (keysAfterVisit key keys) (RecencyList.keysAfterVisit key others) := by
  unfold RecencyList.keysAfterVisit
  by_cases hkey : key ∈ keys
  · rw [if_pos hkey, if_pos (h.sublist.subset hkey)]
    exact h.moveToFront hkey
  rw [if_neg hkey]
  by_cases hother : key ∈ others
  · rw [if_pos hother]
    exact {
      sublist := (h.sublist_filter hkey).cons key
      nodup := (moveToFront_perm h.nodup hother).nodup_iff.mpr h.nodup
      full_or_eq := .inl (h.full hkey hother) }
  · rw [if_neg hother]
    exact h

/-- A key that neither list has. -/
theorem push (h : Fits bound keys others) (hle : bound ≤ bound') (hother : key ∉ others) :
    Fits bound (key :: giveWay bound keys) (key :: giveWay bound' others) where
  sublist := by
    refine List.Sublist.cons_cons key ?_
    rcases h.full_or_eq with hfull | rfl
    · rw [giveWay, if_pos hfull, giveWay]
      split
      · -- both are full, and the key at the back of the longer one is no longer in the other
        have htail := h.sublist.reverse.tail
        rw [List.tail_reverse, List.tail_reverse] at htail
        exact List.reverse_sublist.mp htail
      · exact (List.dropLast_sublist keys).trans h.sublist
    · unfold giveWay
      split_ifs with hfull hfull'
      · exact List.Sublist.refl _
      · exact List.dropLast_sublist keys
      · omega
      · exact List.Sublist.refl _
  nodup := by
    have hsub := giveWay_sublist bound' others
    exact List.nodup_cons.mpr ⟨fun hmem => hother (hsub.subset hmem), h.nodup.sublist hsub⟩
  full_or_eq := by
    by_cases hfull : bound ≤ keys.length
    · exact .inl (le_length_push hfull)
    · right
      obtain rfl := h.full_or_eq.resolve_left hfull
      have hfull' : ¬ bound' ≤ keys.length := by omega
      rw [giveWay, giveWay, if_neg hfull, if_neg hfull']

/-- A key that only the longer list has moves to its front, and is put in front of the other. -/
theorem push_moveToFront (h : Fits bound keys others) (hkey : key ∉ keys) (hother : key ∈ others) :
    Fits bound (key :: giveWay bound keys) (RecencyList.moveToFront key others) where
  sublist := ((giveWay_sublist bound keys).trans (h.sublist_filter hkey)).cons_cons key
  nodup := (moveToFront_perm h.nodup hother).nodup_iff.mpr h.nodup
  full_or_eq := .inl (le_length_push (h.full hkey hother))

theorem keysAfterAdd (h : Fits bound keys others) (hle : bound ≤ bound') (key : ChannelKey) :
    Fits bound (keysAfterAdd bound key keys) (RecencyList.keysAfterAdd bound' key others) := by
  unfold RecencyList.keysAfterAdd
  by_cases hkey : key ∈ keys
  · rw [if_pos hkey, if_pos (h.sublist.subset hkey)]
    exact h.moveToFront hkey
  rw [if_neg hkey]
  by_cases hother : key ∈ others
  · rw [if_pos hother]
    exact h.push_moveToFront hkey hother
  · rw [if_neg hother]
    exact h.push hle hother

/-- A call leaves the keys among the others. -/
theorem keysAfter (h : Fits bound keys others) (hle : bound ≤ bound') (call : StoreCall) :
    Fits bound (keysAfter bound keys call) (RecencyList.keysAfter bound' others call) := by
  cases call with
  | add p => exact h.keysAfterAdd hle p.channel
  | query key _ _ | packets key _ _ | packetsSince key _ => exact h.keysAfterVisit key
  | clear => exact ⟨List.Sublist.refl _, List.nodup_nil, .inr rfl⟩
  | contains | earliest | size | totalPackets | channels => exact h

end Fits

end RecencyList

/-! ## Stores -/

theorem Mirrors.contains_iff {c : ChannelStore} {l : RecencyList} {arranged : List Slot}
    (h : Mirrors c l arranged) (key : ChannelKey) : c.contains key = true ↔ key ∈ l.keys := by
  rw [← l.window?_isSome_iff, h.window?_eq, Option.isSome_map]
  rfl

namespace ChannelStore

/-- What the first store has, the second one has as well, and it has room for as many channels. -/
structure Covered (c d : ChannelStore) : Prop where
  reservable : Window.isReservable c.maxPackets = true
  maxPackets_eq : d.maxPackets = c.maxPackets
  maxChannels_le : c.maxChannels ≤ d.maxChannels
  mirrors : ∃ l arranged l' arranged', Mirrors c l arranged ∧ Mirrors d l' arranged' ∧
    RecencyList.Fits l.maxChannels l.keys l'.keys

namespace Covered

variable {c d : ChannelStore}

theorem empty {maxChannels maxChannels' maxPackets : Nat} (hle : maxChannels ≤ maxChannels')
    (hroom : Window.isReservable (empty maxChannels maxPackets).maxPackets = true) :
    Covered (.empty maxChannels maxPackets) (.empty maxChannels' maxPackets) where
  reservable := hroom
  maxPackets_eq := rfl
  maxChannels_le := by
    show max maxChannels 1 ≤ max maxChannels' 1
    omega
  mirrors := ⟨_, _, _, _, .empty _ _, .empty _ _, List.Sublist.refl _, List.nodup_nil, .inr rfl⟩

theorem recency_sublist (h : Covered c d) : c.recency.Sublist d.recency := by
  obtain ⟨l, _, l', _, hc, hd, hfits⟩ := h.mirrors
  rw [hc.recency_eq, hd.recency_eq]
  exact hfits.sublist

theorem contains (h : Covered c d) {key : ChannelKey} (hkey : c.contains key = true) :
    d.contains key = true := by
  obtain ⟨l, _, l', _, hc, hd, hfits⟩ := h.mirrors
  rw [hc.contains_iff] at hkey
  rw [hd.contains_iff]
  exact hfits.sublist.subset hkey

/-- A call to both. -/
theorem perform (h : Covered c d) (call : StoreCall)
    (hclock : c.clock ≤ (c.perform call).2.clock) (hclock' : d.clock ≤ (d.perform call).2.clock) :
    Covered (c.perform call).2 (d.perform call).2 := by
  obtain ⟨l, _, l', _, hc, hd, hfits⟩ := h.mirrors
  obtain ⟨_, _, hc'⟩ := hc.perform call hclock
  obtain ⟨_, _, hd'⟩ := hd.perform call hclock'
  obtain ⟨hchannels, hpackets⟩ := l.bounds_perform call
  obtain ⟨hchannels', hpackets'⟩ := l'.bounds_perform call
  have hroom : Window.isReservable l.maxPackets = true := by
    rw [hc.maxPackets]
    exact h.reservable
  have hroom' : Window.isReservable l'.maxPackets = true := by
    rw [hd.maxPackets, h.maxPackets_eq]
    exact h.reservable
  have hle := h.maxChannels_le
  rw [← hc.maxChannels, ← hd.maxChannels] at hle
  refine ⟨?_, ?_, ?_, _, _, _, _, hc', hd', ?_⟩
  · rwa [← hc'.maxPackets, hpackets]
  · rw [← hc'.maxPackets, ← hd'.maxPackets, hpackets, hpackets', hc.maxPackets, hd.maxPackets]
    exact h.maxPackets_eq
  · rwa [← hc'.maxChannels, ← hd'.maxChannels, hchannels, hchannels']
  · rw [hchannels, l.keys_perform hroom, l'.keys_perform hroom']
    exact hfits.keysAfter hle call

/-- By induction on the calls, the second store covers the first one all along. -/
theorem after (h : Covered c d) {calls : List StoreCall} (hsteady : c.Steady calls)
    (hsteady' : d.Steady calls) : Covered (c.after calls) (d.after calls) := by
  induction calls generalizing c d with
  | nil => exact h
  | cons call calls ih => exact ih (h.perform call hsteady.1 hsteady'.1) hsteady.2 hsteady'.2

end Covered

/-! ## Where no window can be opened -/

/-- No call changes a store that has no channels and cannot open windows. -/
theorem perform_of_not_isReservable {c : ChannelStore}
    (hroom : Window.isReservable c.maxPackets = false) (hs : c.slots = []) (call : StoreCall) :
    (c.perform call).2 = c := by
  have hnone (key : ChannelKey) : c.slot? key = none := by rw [slot?, hs, List.find?_nil]
  have hvisit {α : Type} (key : ChannelKey) (look : Window → α) : (c.visit key look).2 = c := by
    rw [visit, hnone]
  cases call with
  | add p =>
    show (c.add p).2 = c
    rw [add_of_not_isReservable (hnone p.channel) hroom, makeRoom_of_slots_eq_nil hs]
  | query key t₀ t₁ => exact hvisit key fun w => w.query t₀ t₁
  | packets key t₀ t₁ => exact hvisit key fun w => w.query t₀ t₁
  | packetsSince key t₀ => exact hvisit key fun w => w.since t₀
  | contains | earliest | size | totalPackets | channels => rfl
  | clear =>
    show { c with slots := [] } = c
    rw [← hs]

theorem after_of_not_isReservable {c : ChannelStore}
    (hroom : Window.isReservable c.maxPackets = false) (hs : c.slots = [])
    (calls : List StoreCall) : c.after calls = c := by
  induction calls with
  | nil => rfl
  | cons call calls ih => rw [after, perform_of_not_isReservable hroom hs, ih]

/-- If two stores get the same calls and the second may have more channels, then after each of the
calls every channel that is live in the first is live in the second.  The order of recency is the
same for the channels that both have. -/
theorem live_of_more_room {maxChannels maxChannels' : Nat} (hle : maxChannels ≤ maxChannels')
    (maxPackets : Nat) {calls : List StoreCall}
    (hsteady : (empty maxChannels maxPackets).Steady calls)
    (hsteady' : (empty maxChannels' maxPackets).Steady calls) :
    ∀ front, front <+: calls →
      let small := (empty maxChannels maxPackets).after front
      let large := (empty maxChannels' maxPackets).after front
      (∀ key, small.contains key = true → large.contains key = true) ∧
        small.recency.Sublist large.recency := by
  rintro front ⟨back, rfl⟩ small large
  cases hroom : Window.isReservable (empty maxChannels maxPackets).maxPackets with
  | true =>
    have hcovered : Covered small large :=
      (Covered.empty hle hroom).after (steady_append.mp hsteady).1 (steady_append.mp hsteady').1
    exact ⟨fun _ hkey => hcovered.contains hkey, hcovered.recency_sublist⟩
  | false =>
    have hsmall : small = empty maxChannels maxPackets := after_of_not_isReservable hroom rfl front
    have hcontains (key : ChannelKey) : small.contains key = false := by
      rw [hsmall]
      rfl
    have hrecency : small.recency = [] := by
      rw [hsmall]
      simp [recency, empty]
    refine ⟨fun key hkey => ?_, ?_⟩
    · rw [hcontains] at hkey
      cases hkey
    · rw [hrecency]
      exact List.nil_sublist _

/-- The query finds the first channel only where there is room for three, and so the two stores give
up different channels for the last packet. -/
theorem live_of_more_room_parted :
    let key (station : String) : ChannelKey := { (default : ChannelKey) with station }
    let packet (station : String) : Packet := .pulse (key station) 1 ⟨0⟩ rfl
    let calls : List StoreCall := [.add (packet "A"), .add (packet "B"), .add (packet "C"),
      .query (key "A") 1 2, .add (packet "D")]
    let small := (empty 2 1).after calls
    let large := (empty 3 1).after calls
    (empty 2 1).Steady calls ∧ (empty 3 1).Steady calls ∧
      small.recency = [key "D", key "C"] ∧ large.recency = [key "D", key "A", key "C"] ∧
      large.contains (key "C") = true := by
  intro key packet calls small large
  have hsteady : (empty 2 1).Steady calls := steady_of_length (by decide)
  have hsteady' : (empty 3 1).Steady calls := steady_of_length (by decide)
  have hlive := live_of_more_room (by decide : 2 ≤ 3) 1 hsteady hsteady' calls List.prefix_rfl
  exact ⟨hsteady, hsteady', by decide, by decide, hlive.1 (key "C") (by decide)⟩

end ChannelStore

end WaveCache
