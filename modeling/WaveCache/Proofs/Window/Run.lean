import WaveCache.Proofs.Window.Content

/-!
# Runs of a window

Packets are inserted into a window and the window is cleared, in any order.  A window that began
empty is `Ordered` after that: its packets are in ascending order, and there are no more of them
than there is room for.  `Ordered.perform` is the step and `Ordered.after` the run.
-/

namespace WaveCache

/-- A call that changes a window. -/
inductive WindowCall where
  | insert (p : Packet)
  | clear

namespace Window

/-- Takes in a packet.  One of another channel leaves the window as it was. -/
def deliver (w : Window) (p : Packet) : Except WindowError InsertOutcome × Window :=
  match w.insert p with
  | .ok (outcome, w') => (.ok outcome, w')
  | .error error => (.error error, w)

/-- Makes a call. -/
def perform (w : Window) : WindowCall → Window
  | .insert p => (w.deliver p).2
  | .clear => w.clear

/-- The window after calls made one after another. -/
def after (w : Window) : List WindowCall → Window
  | [] => w
  | call :: calls => (w.perform call).after calls

theorem deliver_of_channel_eq {w : Window} {p : Packet} (h : p.channel = w.channel) :
    w.deliver p = (.ok (w.store p).1, (w.store p).2) := by
  rw [deliver, insert, if_pos h]

theorem deliver_of_channel_ne {w : Window} {p : Packet} (h : p.channel ≠ w.channel) :
    w.deliver p = (.error (.channelMismatch w.channel p.channel), w) := by
  rw [deliver, insert, if_neg h]

/-- What always holds of a window that was made for this channel, with this capacity. -/
structure Ordered (w : Window) (channel : ChannelKey) (capacity : Nat) : Prop where
  channel_eq : w.channel = channel
  capacity_eq : w.capacity = max capacity 1
  ascending : Ascending w.packets
  size_le : w.size ≤ w.capacity

namespace Ordered

variable {w : Window} {channel : ChannelKey} {capacity : Nat}

theorem empty (channel : ChannelKey) (capacity : Nat) :
    (Window.empty channel capacity).Ordered channel capacity where
  channel_eq := rfl
  capacity_eq := rfl
  ascending := List.Pairwise.nil
  size_le := Nat.zero_le _

theorem clear (h : w.Ordered channel capacity) : w.clear.Ordered channel capacity :=
  { h with ascending := List.Pairwise.nil, size_le := Nat.zero_le _ }

/-- The packets are the newest of themselves, and one more delivery keeps the newest. -/
theorem store (h : w.Ordered channel capacity) (p : Packet) :
    (w.store p).2.Ordered channel capacity := by
  have hretains := (Retains.self h.ascending h.size_le).store p
  refine ⟨?_, ?_, hretains.ascending, ?_⟩
  · rw [store_channel, h.channel_eq]
  · rw [store_capacity, h.capacity_eq]
  · rw [store_capacity]
    exact hretains.length_le

theorem deliver (h : w.Ordered channel capacity) (p : Packet) :
    (w.deliver p).2.Ordered channel capacity := by
  by_cases hp : p.channel = w.channel
  · rw [deliver_of_channel_eq hp]
    exact h.store p
  · rw [deliver_of_channel_ne hp]
    exact h

/-- One call. -/
theorem perform (h : w.Ordered channel capacity) (call : WindowCall) :
    (w.perform call).Ordered channel capacity := by
  cases call with
  | insert p => exact h.deliver p
  | clear => exact h.clear

/-- All calls, one after another. -/
theorem after (h : w.Ordered channel capacity) (calls : List WindowCall) :
    (w.after calls).Ordered channel capacity := by
  induction calls generalizing w with
  | nil => exact h
  | cons call calls ih => exact ih (h.perform call)

end Ordered

end Window

end WaveCache
