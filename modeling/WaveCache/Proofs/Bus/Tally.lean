import Mathlib.Data.List.Count
import Mathlib.Data.List.Nodup
import WaveCache.Proofs.Bus.Run

/-!
# Counts of subscriptions

A bus counts its live subscriptions under their topics joined with commas.  `live` reads off the
events which subscriptions were made and not ended, each with the filter it was made with.  `Tracks`
relates the counts to them, and every call keeps it (`Tracks.perform`): under each key stands the
number of live subscriptions whose filter has this key (`count_eq`).

Two filters may have one key, and then their subscriptions are counted together.  Filters that are
`Separable` are told apart by their keys (`eq_of_key_eq`).  `subscriptionsFor_eq_live` says when the
count for a filter is the number of live subscriptions with just this filter, and
`subscriptionsFor_collision` is a filter for which a subscription with another one is counted.
-/

namespace WaveCache

/-! ## Counts under a key -/

namespace Tally

variable {tally : Tally}

theorem count_cons (k : String) (n : Nat) (rest : Tally) (key : String) :
    count ((k, n) :: rest) key = if k = key then n else count rest key := by
  rw [count, List.lookup_cons]
  by_cases hk : k = key
  · rw [if_pos hk, beq_iff_eq.mpr hk.symm]
    rfl
  · rw [if_neg hk, beq_eq_false_iff_ne.mpr (Ne.symm hk)]
    rfl

theorem count_of_not_mem {key : String} (h : key ∉ tally.map Prod.fst) : tally.count key = 0 := by
  induction tally with
  | nil => rfl
  | cons entry rest ih =>
    obtain ⟨k, n⟩ := entry
    rw [List.map_cons, List.mem_cons, not_or] at h
    rw [count_cons, if_neg (Ne.symm h.1), ih h.2]

theorem count_increment (tally : Tally) (key other : String) :
    (tally.increment key).count other = tally.count other + if other = key then 1 else 0 := by
  induction tally with
  | nil =>
    rw [increment, count_cons]
    by_cases hother : other = key
    · rw [if_pos hother.symm, if_pos hother]
      rfl
    · rw [if_neg (Ne.symm hother), if_neg hother]
      rfl
  | cons entry rest ih =>
    obtain ⟨k, n⟩ := entry
    rw [increment, count_cons]
    by_cases hk : k = key
    · subst hk
      rw [if_pos rfl, count_cons]
      by_cases hother : k = other
      · rw [if_pos hother, if_pos hother, if_pos hother.symm]
      · rw [if_neg hother, if_neg hother, if_neg (Ne.symm hother), Nat.add_zero]
    · rw [if_neg hk, count_cons, ih]
      by_cases hother : k = other
      · rw [if_pos hother, if_pos hother, if_neg (hother ▸ hk), Nat.add_zero]
      · rw [if_neg hother, if_neg hother]

theorem mem_keys_increment {key other : String} :
    other ∈ (tally.increment key).map Prod.fst ↔ other = key ∨ other ∈ tally.map Prod.fst := by
  induction tally with
  | nil => simp [increment]
  | cons entry rest ih =>
    obtain ⟨k, n⟩ := entry
    rw [increment]
    split
    · rename_i hk
      subst hk
      simp
    · simp only [List.map_cons, List.mem_cons, ih]
      exact or_left_comm

theorem nodup_keys_increment (h : (tally.map Prod.fst).Nodup) (key : String) :
    ((tally.increment key).map Prod.fst).Nodup := by
  induction tally with
  | nil => simp [increment]
  | cons entry rest ih =>
    obtain ⟨k, n⟩ := entry
    rw [List.map_cons, List.nodup_cons] at h
    rw [increment]
    split
    · rw [List.map_cons, List.nodup_cons]
      exact h
    · rename_i hk
      rw [List.map_cons, List.nodup_cons, mem_keys_increment, not_or]
      exact ⟨⟨hk, h.1⟩, ih h.2⟩

theorem keys_decrement_sublist (tally : Tally) (key : String) :
    ((tally.decrement key).map Prod.fst).Sublist (tally.map Prod.fst) := by
  induction tally with
  | nil => exact List.Sublist.refl []
  | cons entry rest ih =>
    obtain ⟨k, n⟩ := entry
    rw [decrement]
    split
    · split
      · exact List.sublist_cons_self k (rest.map Prod.fst)
      · exact List.Sublist.refl _
    · exact ih.cons_cons k

theorem count_decrement (h : (tally.map Prod.fst).Nodup) (key other : String) :
    (tally.decrement key).count other = tally.count other - if other = key then 1 else 0 := by
  induction tally with
  | nil => exact (Nat.zero_sub _).symm
  | cons entry rest ih =>
    obtain ⟨k, n⟩ := entry
    rw [List.map_cons, List.nodup_cons] at h
    rw [decrement, count_cons]
    by_cases hk : k = key
    · subst hk
      rw [if_pos rfl]
      by_cases hother : k = other
      · subst hother
        rw [if_pos rfl, if_pos rfl]
        split
        · -- the last one takes the key with it, which stands nowhere else
          rw [count_of_not_mem h.1]
          omega
        · rw [count_cons, if_pos rfl]
      · rw [if_neg hother, if_neg (Ne.symm hother), Nat.sub_zero]
        split
        · rfl
        · rw [count_cons, if_neg hother]
    · rw [if_neg hk, count_cons, ih h.2]
      by_cases hother : k = other
      · rw [if_pos hother, if_pos hother, if_neg (hother ▸ hk), Nat.sub_zero]
      · rw [if_neg hother, if_neg hother]

end Tally

/-! ## Live subscriptions -/

namespace BusEvent

/-- The subscription that was made, and its filter. -/
def made? (e : BusEvent) : Option (Nat × TopicFilter) :=
  match e.call, e.reply with
  | .subscribe filter, .subscribed id => some (id, filter)
  | _, _ => none

/-- The subscription that was ended. -/
def ended? (e : BusEvent) : Option Nat :=
  match e.call, e.reply with
  | .unsubscribe id, .done => some id
  | _, _ => none

end BusEvent

namespace Bus

/-- The subscriptions that were made and not ended, each with the filter it was made with. -/
def live (events : List BusEvent) : List (Nat × TopicFilter) :=
  (events.filterMap BusEvent.made?).filter fun m => m.1 ∉ events.filterMap BusEvent.ended?

section

variable {events : List BusEvent} {e : BusEvent} {id : Nat} {filter : TopicFilter}

theorem live_concat_of_none (hmade : e.made? = none) (hended : e.ended? = none) :
    live (events ++ [e]) = live events := by
  simp [live, List.filterMap_append, hmade, hended]

theorem live_concat_of_made (hmade : e.made? = some (id, filter)) (hended : e.ended? = none)
    (hid : id ∉ events.filterMap BusEvent.ended?) :
    live (events ++ [e]) = live events ++ [(id, filter)] := by
  rw [live, live, List.filterMap_append, List.filterMap_append,
    List.filterMap_cons_some hmade, List.filterMap_cons_none hended, List.filterMap_nil,
    List.filterMap_nil, List.append_nil, List.filter_append,
    List.filter_cons_of_pos (by simpa using hid), List.filter_nil]

theorem live_concat_of_ended (hmade : e.made? = none) (hended : e.ended? = some id) :
    live (events ++ [e]) = (live events).filter fun m => m.1 ≠ id := by
  rw [live, live, List.filterMap_append, List.filterMap_append,
    List.filterMap_cons_none hmade, List.filterMap_cons_some hended, List.filterMap_nil,
    List.filterMap_nil, List.append_nil, List.filter_filter]
  refine List.filter_congr fun m _ => ?_
  simp [and_comm]

end

/-- A bus keeps count of the subscriptions that its events have left live. -/
structure Tracks (b : Bus) (events : List BusEvent) : Prop where
  ended_lt : ∀ id ∈ events.filterMap BusEvent.ended?, id < b.subscriptions.length
  nodup_live : (live events).Nodup
  mem_live_iff : ∀ id filter,
    (id, filter) ∈ live events ↔ (b.subscription? id).map Subscription.filter = some filter
  nodup_keys : (b.tally.map Prod.fst).Nodup
  count_eq : ∀ key, b.tally.count key = (live events).countP fun m => m.2.key = key

/-- A subscription keeps its filter. -/
theorem filter_receive (b : Bus) (s : Subscription) : (b.receive s).2.filter = s.filter := by
  rw [receive]
  split <;> rfl

namespace Tracks

variable {b b' : Bus} {events : List BusEvent} {e : BusEvent}

theorem empty (capacity : Nat) : Tracks (Bus.empty capacity) [] where
  ended_lt _ hid := nomatch hid
  nodup_live := List.nodup_nil
  mem_live_iff id filter := by
    show (id, filter) ∈ [] ↔ none = some filter
    simp
  nodup_keys := List.nodup_nil
  count_eq _ := rfl

/-- An event that neither makes nor ends a subscription. -/
theorem keep (h : Tracks b events) (hmade : e.made? = none) (hended : e.ended? = none)
    (htally : b'.tally = b.tally) (hlength : b'.subscriptions.length = b.subscriptions.length)
    (hfilter : ∀ id, (b'.subscription? id).map Subscription.filter =
      (b.subscription? id).map Subscription.filter) : Tracks b' (events ++ [e]) where
  ended_lt id hid := by
    rw [List.filterMap_append, List.filterMap_cons_none hended, List.filterMap_nil,
      List.append_nil] at hid
    rw [hlength]
    exact h.ended_lt id hid
  nodup_live := by
    rw [live_concat_of_none hmade hended]
    exact h.nodup_live
  mem_live_iff id filter := by
    rw [live_concat_of_none hmade hended, hfilter]
    exact h.mem_live_iff id filter
  nodup_keys := by
    rw [htally]
    exact h.nodup_keys
  count_eq key := by
    rw [live_concat_of_none hmade hended, htally]
    exact h.count_eq key

theorem subscribe (h : Tracks b events) (filter : TopicFilter) :
    Tracks (b.subscribe filter).2
      (events ++ [⟨.subscribe filter, .subscribed b.subscriptions.length⟩]) := by
  have hlive : live (events ++ [⟨.subscribe filter, .subscribed b.subscriptions.length⟩]) =
      live events ++ [(b.subscriptions.length, filter)] :=
    live_concat_of_made rfl rfl fun hid => Nat.lt_irrefl _ (h.ended_lt _ hid)
  have hnew : ∀ other, (b.subscriptions.length, other) ∉ live events := by
    intro other hmem
    have hnone : b.subscription? b.subscriptions.length = none :=
      Places.join_of_length_le (Nat.le_refl _)
    rw [h.mem_live_iff, hnone] at hmem
    cases hmem
  have hlength : (b.subscribe filter).2.subscriptions.length = b.subscriptions.length + 1 := by
    simp [Bus.subscribe]
  exact {
    ended_lt := fun id hid => by
      rw [List.filterMap_append, List.filterMap_cons_none rfl, List.filterMap_nil,
        List.append_nil] at hid
      rw [hlength]
      exact Nat.lt_succ_of_lt (h.ended_lt id hid)
    nodup_live := by
      rw [hlive, ← List.concat_eq_append]
      exact h.nodup_live.concat (hnew filter)
    mem_live_iff := fun id other => by
      rw [hlive, List.mem_append, List.mem_singleton, subscription?_subscribe, h.mem_live_iff]
      by_cases hid : id = b.subscriptions.length
      · subst hid
        rw [← h.mem_live_iff, if_pos rfl]
        simp [hnew other, eq_comm]
      · rw [if_neg hid]
        simp [hid]
    nodup_keys := Tally.nodup_keys_increment h.nodup_keys filter.key
    count_eq := fun key => by
      rw [hlive, List.countP_append, ← h.count_eq]
      show (b.tally.increment filter.key).count key = _
      rw [Tally.count_increment]
      simp [List.countP_singleton, eq_comm] }

theorem unsubscribe (h : Tracks b events) {id : Nat} {s : Subscription}
    (hs : b.subscription? id = some s) :
    Tracks (b.unsubscribe id) (events ++ [⟨.unsubscribe id, .done⟩]) := by
  have hlive : live (events ++ [⟨.unsubscribe id, .done⟩]) =
      (live events).filter fun m => m.1 ≠ id :=
    live_concat_of_ended rfl rfl
  have hmem : (id, s.filter) ∈ live events := by
    rw [h.mem_live_iff, hs]
    rfl
  -- no other filter belongs to this subscription, so that only one entry is left out
  have herase : ((live events).filter fun m => m.1 ≠ id) = (live events).erase (id, s.filter) := by
    rw [h.nodup_live.erase_eq_filter]
    refine List.filter_congr fun m hm => ?_
    obtain ⟨other, filter⟩ := m
    have hother := (h.mem_live_iff other filter).mp hm
    by_cases heq : other = id
    · subst heq
      rw [hs] at hother
      cases hother
      simp
    · simp [heq]
  have hend : b.unsubscribe id = { b with
      subscriptions := b.subscriptions.set id none
      tally := b.tally.decrement s.filter.key } := by
    rw [Bus.unsubscribe, hs]
  exact {
    ended_lt := fun other hother => by
      have hlength : (b.unsubscribe id).subscriptions.length = b.subscriptions.length := by
        rw [hend]
        exact List.length_set
      rw [List.filterMap_append, List.mem_append] at hother
      rw [hlength]
      rcases hother with hother | hother
      · exact h.ended_lt other hother
      · cases List.mem_singleton.mp hother
        exact Places.lt_length hs
    nodup_live := by
      rw [hlive]
      exact h.nodup_live.filter _
    mem_live_iff := fun other filter => by
      rw [hlive, List.mem_filter, h.mem_live_iff, subscription?_unsubscribe]
      by_cases hother : other = id
      · simp [hother]
      · simp [hother]
    nodup_keys := by
      rw [hend]
      exact h.nodup_keys.sublist (Tally.keys_decrement_sublist b.tally s.filter.key)
    count_eq := fun key => by
      rw [hlive, herase, List.countP_erase, ← h.count_eq, hend]
      show (b.tally.decrement s.filter.key).count key = _
      rw [Tally.count_decrement h.nodup_keys]
      simp [hmem, eq_comm] }

/-- Every call keeps the counts. -/
theorem perform (h : Tracks b events) (call : BusCall) :
    Tracks (b.perform call).2 (events ++ [⟨call, (b.perform call).1⟩]) := by
  cases call with
  | subscribe filter =>
    rw [Bus.perform]
    split
    · exact h.subscribe filter
    · exact h.keep rfl rfl rfl rfl fun _ => rfl
  | publish frame =>
    rw [Bus.perform]
    split
    · exact h.keep rfl rfl rfl rfl fun _ => rfl
    · exact h.keep rfl rfl rfl rfl fun _ => rfl
  | receive waits reader =>
    rcases b.perform_receive_cases waits reader with ⟨_, hperform⟩ | ⟨s, hs, hperform⟩
    · rw [hperform]
      exact h.keep rfl rfl rfl rfl fun _ => rfl
    · rw [hperform]
      refine h.keep rfl rfl rfl List.length_set fun id => ?_
      rw [subscription?_set _ (Places.lt_length hs)]
      split
      · rename_i hid
        rw [hid, hs]
        exact congrArg some (filter_receive b s)
      · rfl
  | unsubscribe id =>
    rw [Bus.perform]
    cases hs : b.subscription? id with
    | none =>
      have hend : b.unsubscribe id = b := by
        rw [Bus.unsubscribe, hs]
      rw [hend]
      exact h.keep rfl rfl rfl rfl fun _ => rfl
    | some s => exact h.unsubscribe hs
  | close => exact h.keep rfl rfl rfl rfl fun _ => rfl

end Tracks

/-- The counts of a bus after any calls. -/
theorem tracks (capacity : Nat) (calls : List BusCall) :
    Tracks (after capacity calls) (events capacity calls) := by
  induction calls using List.reverseRecOn with
  | nil => exact .empty capacity
  | append_singleton calls call ih =>
    rw [after_concat, events_concat]
    exact ih.perform call

end Bus

/-! ## Filters and their keys -/

namespace TopicFilter

/-- No topic holds a comma, and the filter is not for the one topic without a name, which has the
key of the filter for all topics. -/
def Separable (filter : TopicFilter) : Prop :=
  (∀ topic ∈ filter.topics, ',' ∉ topic.toList) ∧ filter.topics ≠ [""]

instance (filter : TopicFilter) : Decidable filter.Separable :=
  inferInstanceAs (Decidable (_ ∧ _))

variable {filter other : TopicFilter}

theorem toList_key (filter : TopicFilter) :
    filter.key.toList = [','].intercalate (filter.topics.map String.toList) :=
  String.toList_intercalate

/-- The topics of a filter that asks for some are the pieces of its key. -/
theorem splitOn_key (h : ∀ topic ∈ filter.topics, ',' ∉ topic.toList) (hne : filter.topics ≠ []) :
    filter.key.toList.splitOn ',' = filter.topics.map String.toList := by
  rw [toList_key]
  refine List.splitOn_intercalate ',' (fun piece hpiece => ?_) (by simpa using hne)
  obtain ⟨topic, htopic, rfl⟩ := List.mem_map.mp hpiece
  exact h topic htopic

/-- The pieces of an empty key are the name of the topic without one. -/
theorem Separable.key_ne_empty (h : filter.Separable) (hne : filter.topics ≠ []) :
    filter.key ≠ "" := by
  intro hkey
  have hpieces := splitOn_key h.1 hne
  rw [hkey] at hpieces
  have htopics : [""].map String.toList = filter.topics.map String.toList := hpieces
  exact h.2 ((List.map_injective_iff.mpr fun _ _ => String.toList_inj.mp) htopics).symm

/-- Separable filters are told apart by their keys. -/
theorem Separable.eq_of_key_eq (h : filter.Separable) (h' : other.Separable)
    (hkey : filter.key = other.key) : filter = other := by
  obtain ⟨topics⟩ := filter
  obtain ⟨others⟩ := other
  have hall : TopicFilter.key ⟨[]⟩ = "" := rfl
  by_cases htopics : topics = []
  · by_cases hothers : others = []
    · rw [htopics, hothers]
    · rw [htopics, hall] at hkey
      exact absurd hkey.symm (h'.key_ne_empty hothers)
  · by_cases hothers : others = []
    · rw [hothers, hall] at hkey
      exact absurd hkey (h.key_ne_empty htopics)
    · have hpieces : topics.map String.toList = others.map String.toList := by
        rw [← splitOn_key h.1 htopics, ← splitOn_key h'.1 hothers, hkey]
      rw [(List.map_injective_iff.mpr fun _ _ => String.toList_inj.mp) hpieces]

end TopicFilter

namespace Bus

/-- The count for a filter, after any calls of a new bus.  It is the number of live subscriptions
whose filter has the same key.  It is the number of those made with just this filter as long as
there is no live one with another filter of this key, so in particular as long as all filters are
separable. -/
theorem subscriptionsFor_eq_live (capacity : Nat) (calls : List BusCall) (filter : TopicFilter) :
    let b := after capacity calls
    let subscriptions := live (events capacity calls)
    b.subscriptionsFor filter = subscriptions.countP (fun m => m.2.key = filter.key) ∧
    (b.subscriptionsFor filter = subscriptions.countP (fun m => m.2 = filter) ↔
      ∀ m ∈ subscriptions, m.2.key = filter.key → m.2 = filter) ∧
    (filter.Separable → (∀ m ∈ subscriptions, m.2.Separable) →
      b.subscriptionsFor filter = subscriptions.countP fun m => m.2 = filter) := by
  intro b subscriptions
  have hcount : b.subscriptionsFor filter =
      subscriptions.countP (fun m => m.2.key = filter.key) :=
    (tracks capacity calls).count_eq filter.key
  have hsame : (∀ m ∈ subscriptions, m.2.key = filter.key → m.2 = filter) →
      b.subscriptionsFor filter = subscriptions.countP fun m => m.2 = filter := by
    intro hall
    rw [hcount]
    refine List.countP_congr fun m hm => ?_
    simp only [decide_eq_true_eq]
    exact ⟨hall m hm, fun heq => heq ▸ rfl⟩
  refine ⟨hcount, ⟨fun heq m hm hkey => ?_, hsame⟩, fun hfilter hlive => ?_⟩
  · -- those with the filter are among those with its key, and there are no fewer of them
    have hsub : (subscriptions.filter fun m => m.2 = filter).Sublist
        (subscriptions.filter fun m => m.2.key = filter.key) := by
      refine List.monotone_filter_right subscriptions fun m hm => ?_
      simp only [decide_eq_true_eq] at hm ⊢
      rw [hm]
    have hboth := hsub.eq_of_length (by
      rw [← List.countP_eq_length_filter, ← List.countP_eq_length_filter, ← heq, hcount])
    have hmem : m ∈ subscriptions.filter fun m => m.2 = filter := by
      rw [hboth]
      exact List.mem_filter.mpr ⟨hm, decide_eq_true hkey⟩
    exact of_decide_eq_true (List.mem_filter.mp hmem).2
  · exact hsame fun m hm => (hlive m hm).eq_of_key_eq hfilter

/-- Two subscriptions for the same topic, of which one is ended, and one for two topics. -/
theorem subscriptionsFor_eq_live_ended :
    let calls : List BusCall :=
      [.subscribe ⟨["a"]⟩, .subscribe ⟨["a"]⟩, .subscribe ⟨["a", "b"]⟩, .unsubscribe 0]
    TopicFilter.Separable ⟨["a"]⟩ ∧ (∀ m ∈ live (events 4 calls), m.2.Separable) ∧
      (after 4 calls).subscriptionsFor ⟨["a"]⟩ = 1 := by
  intro calls
  have hfilter : TopicFilter.Separable ⟨["a"]⟩ := by decide
  have hlive : ∀ m ∈ live (events 4 calls), m.2.Separable := by decide
  refine ⟨hfilter, hlive, ?_⟩
  rw [(subscriptionsFor_eq_live 4 calls ⟨["a"]⟩).2.2 hfilter hlive]
  decide

/-- A subscription for two topics is counted for the one topic whose name is the two with a comma,
and a subscription for the topic without a name for all topics. -/
theorem subscriptionsFor_collision :
    (after 1000 [.subscribe ⟨["a", "b"]⟩]).subscriptionsFor ⟨["a,b"]⟩ = 1 ∧
      (live (events 1000 [.subscribe ⟨["a", "b"]⟩])).countP (fun m => m.2 = ⟨["a,b"]⟩) = 0 ∧
      (after 1000 [.subscribe ⟨[""]⟩]).subscriptionsFor ⟨[]⟩ = 1 ∧
      (live (events 1000 [.subscribe ⟨[""]⟩])).countP (fun m => m.2 = ⟨[]⟩) = 0 := by
  decide

end Bus

end WaveCache
