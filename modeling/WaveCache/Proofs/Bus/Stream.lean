import Mathlib.Data.List.TakeWhile
import WaveCache.Bus
import WaveCache.Proofs.Places

/-!
# The stream of a bus

The frames that were ever published on a bus are a list, and a place in that list is a position.  A
bus `Carries` the list if it keeps the latest of its frames, as many as its retention, and if no
subscription has read beyond its end.

What a subscription has yet to receive is then said by the list: the frames that it asks for, from
the position that it has read up to or from the oldest frame that is kept (`awaited`).  `Reception`
says what receiving does in terms of positions: it goes on to the next frame that is kept and asked
for, and where there is none to the end.  So whoever receives until nothing comes gets what was
awaited (`Carries.poll_cases`).
-/

namespace WaveCache.Bus

theorem retention_pos (b : Bus) : 0 < b.retention :=
  Nat.pos_of_isPowerOfTwo (Nat.isPowerOfTwo_nextPowerOfTwo _)

/-- The place of one subscription is written, those of the others are not. -/
theorem subscription?_set (b : Bus) {id : Nat} (hlt : id < b.subscriptions.length)
    (found : Option Subscription) (other : Nat) :
    { b with subscriptions := b.subscriptions.set id found }.subscription? other =
      if other = id then found else b.subscription? other :=
  Places.join_set hlt found other

/-! ## Frames that are kept -/

/-- A bus on which these frames were published, in this order. -/
structure Carries (b : Bus) (frames : List Frame) : Prop where
  published_eq : b.published = frames.length
  kept_eq : b.kept = frames.drop (frames.length - b.retention)
  read_le : ∀ id s, b.subscription? id = some s → s.read ≤ frames.length

/-- What a subscription has yet to receive: of the frames that it has not read, the latest, as many
as are retained, and of these the ones that it asks for. -/
def awaited (retention : Nat) (frames : List Frame) (s : Subscription) : List Frame :=
  (frames.drop (max s.read (frames.length - retention))).filter s.filter.accepts

/-- Publishing adds a frame to what is awaited and takes nothing away from it but the frame that is
not retained any more. -/
theorem awaited_concat {retention : Nat} {frames : List Frame} {s : Subscription}
    (hread : s.read ≤ frames.length) (hpos : 0 < retention) (frame : Frame) :
    awaited retention (frames ++ [frame]) s =
      (frames.drop (max s.read (frames.length + 1 - retention))).filter s.filter.accepts ++
        [frame].filter s.filter.accepts := by
  rw [awaited, List.length_append, List.length_singleton,
    List.drop_append_of_le_length (by omega), List.filter_append]

/-- What a subscription has yet to receive that had read everything when some frames were published.
-/
theorem awaited_append (retention : Nat) (frames later : List Frame) (filter : TopicFilter) :
    awaited retention (frames ++ later) ⟨filter, frames.length⟩ =
      (later.drop (later.length - retention)).filter filter.accepts := by
  have hstart : max frames.length ((frames ++ later).length - retention) =
      frames.length + (later.length - retention) := by
    rw [List.length_append]
    omega
  rw [awaited, hstart, List.drop_length_add_append]

/-- Of the frames from where a subscription has read up to a position, those that it asks for are
not retained any more: as many frames came behind them as the bus retains. -/
def Missed (retention : Nat) (frames : List Frame) (s : Subscription) (position : Nat) : Prop :=
  ∀ p frame, s.read ≤ p → p < position → frames[p]? = some frame → s.filter.accepts frame = true →
    p + retention < frames.length

/-- What comes of receiving.  A subscription goes on behind the next frame that is retained and that
it asks for, or to the end. -/
inductive Reception (b : Bus) (frames : List Frame) (s : Subscription) : Prop where
  | frame (position : Nat) (frame : Frame) (hread : s.read ≤ position)
      (hframe : frames[position]? = some frame) (haccepts : s.filter.accepts frame = true)
      (hretained : frames.length ≤ position + b.retention)
      (hmissed : Missed b.retention frames s position)
      (hawaited : awaited b.retention frames s =
        frame :: awaited b.retention frames { s with read := position + 1 })
      (hreceive : b.receive s = (.ok (some frame), { s with read := position + 1 }))
  | nothing (hmissed : Missed b.retention frames s frames.length)
      (hawaited : awaited b.retention frames s = [])
      (hreceive : b.receive s =
        (if b.isOpen then .ok none else .error .closed, { s with read := frames.length }))

/-- The first frame that is asked for, if there is one. -/
theorem dropWhile_cases (asked : Frame → Bool) (l : List Frame) :
    (∃ front frame rest, l = front ++ frame :: rest ∧ (∀ g ∈ front, asked g = false) ∧
      asked frame = true ∧ l.dropWhile (fun g => !asked g) = frame :: rest) ∨
    ((∀ g ∈ l, asked g = false) ∧ l.dropWhile (fun g => !asked g) = []) := by
  induction l with
  | nil => exact .inr ⟨by simp, rfl⟩
  | cons f l ih =>
    by_cases hf : asked f = true
    · exact .inl ⟨[], f, l, rfl, by simp, hf, by simp [hf]⟩
    · rw [Bool.not_eq_true] at hf
      have hskip : (f :: l).dropWhile (fun g => !asked g) = l.dropWhile fun g => !asked g := by
        simp [hf]
      rw [hskip]
      rcases ih with ⟨front, frame, rest, rfl, hfront, hframe, hdrop⟩ | ⟨hnone, hdrop⟩
      · refine .inl ⟨f :: front, frame, rest, rfl, ?_, hframe, hdrop⟩
        exact List.forall_mem_cons.mpr ⟨hf, hfront⟩
      · exact .inr ⟨List.forall_mem_cons.mpr ⟨hf, hnone⟩, hdrop⟩

/-- A frame that is not among the first ones from a position on is in front of them or not retained.
-/
theorem missed_of_forall {retention position : Nat} {frames front rest : List Frame}
    {s : Subscription}
    (hsplit : frames.drop (max s.read (frames.length - retention)) = front ++ rest)
    (hfront : ∀ g ∈ front, s.filter.accepts g = false)
    (hposition : position = max s.read (frames.length - retention) + front.length) :
    Missed retention frames s position := by
  intro p frame hp hlt hframe haccepts
  by_contra hretained
  have hmem : frame ∈ front := by
    have hi : (front ++ rest)[p - max s.read (frames.length - retention)]? = some frame := by
      rw [← hsplit, List.getElem?_drop, ← hframe]
      congr 1
      omega
    rw [List.getElem?_append_left (by omega)] at hi
    exact List.mem_of_getElem? hi
  exact Bool.false_ne_true ((hfront frame hmem).symm.trans haccepts)

namespace Carries

variable {b : Bus} {frames : List Frame} {id : Nat} {s : Subscription}

theorem empty (capacity : Nat) : (Bus.empty capacity).Carries [] :=
  ⟨rfl, (List.drop_nil).symm, fun _ _ h => by simp [Bus.empty, subscription?] at h⟩

theorem unread_eq (h : b.Carries frames) (s : Subscription) :
    b.unread s = frames.drop (max s.read (frames.length - b.retention)) := by
  have hlength : b.published - b.kept.length = frames.length - b.retention := by
    rw [h.published_eq, h.kept_eq, List.length_drop]
    omega
  rw [unread, hlength, h.kept_eq, List.drop_drop]
  congr 1
  omega

theorem reception (h : b.Carries frames) (hread : s.read ≤ frames.length) :
    b.Reception frames s := by
  have hunread := h.unread_eq s
  rcases dropWhile_cases s.filter.accepts (b.unread s) with
    ⟨front, frame, rest, hsplit, hfront, hframe, hdrop⟩ | ⟨hnone, hdrop⟩
  · -- what is passed over says where in the stream the frame stands
    obtain ⟨start, hstart⟩ : ∃ start, start = max s.read (frames.length - b.retention) := ⟨_, rfl⟩
    rw [hunread, ← hstart] at hsplit
    have hlength := congrArg List.length hsplit
    rw [List.length_drop, List.length_append, List.length_cons] at hlength
    have hposition : frames[start + front.length]? = some frame := by
      rw [← List.getElem?_drop, hsplit, List.getElem?_append_right (Nat.le_refl _), Nat.sub_self]
      rfl
    have hend : b.published - rest.length = start + front.length + 1 := by
      rw [h.published_eq]
      omega
    have hrest : frames.drop (start + front.length + 1) = rest := by
      rw [Nat.add_assoc, ← List.drop_drop, hsplit, ← List.drop_drop, List.drop_left]
      rfl
    refine .frame (start + front.length) frame (by omega) hposition hframe (by omega)
      (missed_of_forall (hstart ▸ hsplit) hfront (by rw [hstart])) ?_ ?_
    · have hnext : max (start + front.length + 1) (frames.length - b.retention) =
          start + front.length + 1 := by
        omega
      rw [awaited, awaited, ← hstart, hsplit, hnext, hrest, List.filter_append,
        List.filter_cons_of_pos hframe,
        List.filter_eq_nil_iff.mpr fun g hg => by simp [hfront g hg]]
      rfl
    · rw [receive, hdrop]
      simp only [hend]
  · rw [hunread] at hnone
    refine .nothing (missed_of_forall (List.append_nil _).symm hnone ?_)
      (List.filter_eq_nil_iff.mpr fun g hg => by simp [hnone g hg]) ?_
    · rw [List.length_drop]
      omega
    · rw [receive, hdrop, h.published_eq]

/-- A subscription that has read no further than to the end may stand in any place. -/
theorem set (h : b.Carries frames) (hlt : id < b.subscriptions.length)
    (hread : s.read ≤ frames.length) :
    Carries { b with subscriptions := b.subscriptions.set id (some s) } frames := by
  refine ⟨h.published_eq, h.kept_eq, fun other t ht => ?_⟩
  rw [subscription?_set b hlt] at ht
  split_ifs at ht with hother
  · cases ht
    exact hread
  · exact h.read_le other t ht

/-- No more is awaited than is kept. -/
theorem length_awaited_le (h : b.Carries frames) (s : Subscription) :
    (awaited b.retention frames s).length ≤ b.kept.length := by
  rw [awaited, ← h.unread_eq]
  refine Nat.le_trans (List.length_filter_le _ _) ?_
  rw [unread, List.length_drop]
  omega

/-- A live subscription receives the first frame that it awaits, and awaits the others then.  If it
awaits none, nothing comes. -/
theorem poll_cases (h : b.Carries frames) (hs : b.subscription? id = some s) :
    (∃ frame t, b.poll id = some (.ok (some frame),
        { b with subscriptions := b.subscriptions.set id (some t) }) ∧
      t.filter = s.filter ∧ t.read ≤ frames.length ∧
      awaited b.retention frames s = frame :: awaited b.retention frames t) ∨
    (b.poll id = some (if b.isOpen then .ok none else .error .closed, { b with
        subscriptions := b.subscriptions.set id (some { s with read := frames.length }) }) ∧
      awaited b.retention frames s = []) := by
  have hpoll : b.poll id = some ((b.receive s).1,
      { b with subscriptions := b.subscriptions.set id (some (b.receive s).2) }) := by
    rw [poll, hs]
    rfl
  cases h.reception (h.read_le id s hs) with
  | frame position frame _ hframe _ _ _ hawaited hreceive =>
    rw [hreceive] at hpoll
    exact .inl ⟨frame, _, hpoll, rfl, (List.getElem?_eq_some_iff.mp hframe).1, hawaited⟩
  | nothing _ hawaited hreceive =>
    rw [hreceive] at hpoll
    exact .inr ⟨hpoll, hawaited⟩

end Carries

end WaveCache.Bus
