import WaveCache.Packet

/-!
# Windows

A window holds the newest packets of one channel, in ascending order of their starts and at most
`capacity` of them.  No two packets of a window start at the same time: a later delivery with the
same start takes the place of the earlier one.  A packet that is older than everything in a full
window is not taken in.

`place` finds the position of a packet by its start.  `append?` is the short way for packets that
arrive in order, and `store` takes it whenever it is open.

Room for all packets of a window is reserved when it is opened, and `open?` fails where so much room
cannot be addressed.  Memory itself is taken to be without end.

`Window` models `CircularBuffer`, and `InsertOutcome` and `WindowError` are its `InsertOutcome` and
`BufferError`.  `open?` is `new`, `insert` is `insert` (with `append?` for its fast path), `query`
is `query` and `since` is `packets_since`.
-/

namespace WaveCache

/-- What became of a packet. -/
inductive InsertOutcome where
  /-- It was added. -/
  | inserted
  /-- It took the place of a packet with the same start. -/
  | replaced
  /-- It was added, and the oldest packet, which started at the given time, was given up for it. -/
  | insertedEvicting (evicted : Micros)
  /-- It was not taken in, being older than the oldest packet of a full window. -/
  | tooOld (oldest : Micros)
deriving DecidableEq

namespace InsertOutcome

/-- Whether the packet is in the window now. -/
def isStored : InsertOutcome → Bool
  | tooOld _ => false
  | _ => true

/-- Whether a packet was given up. -/
def evicts : InsertOutcome → Bool
  | insertedEvicting _ => true
  | _ => false

end InsertOutcome

/-- Why a window does not look at a packet. -/
inductive WindowError where
  | channelMismatch (expected found : ChannelKey)
deriving DecidableEq

/-- The text of an error. -/
def WindowError.message : WindowError → String
  | channelMismatch expected found =>
    "Packet for " ++ found.dotted ++ " routed to buffer for " ++ expected.dotted

/-- The number of bytes of a packet in a window.  A start, an end and a rate are a word each, and a
text or a list of samples is three, wherever its content may be. -/
def Packet.footprint : Nat :=
  8 * (3 * 1 + 5 * 3)

/-- The newest packets of one channel. -/
structure Window where
  channel : ChannelKey
  /-- The greatest number of packets. -/
  capacity : Nat
  /-- The packets in ascending order of their starts. -/
  packets : List Packet

namespace Window

/-- A window without packets.  It has room for one packet at least. -/
def empty (channel : ChannelKey) (capacity : Nat) : Window :=
  ⟨channel, max capacity 1, []⟩

/-- The greatest number of bytes that can be reserved at once. -/
def addressable : Nat := 0x7FFFFFFFFFFFFFFF

/-- Whether room for so many packets can be reserved. -/
def isReservable (capacity : Nat) : Bool :=
  max capacity 1 * Packet.footprint ≤ addressable

/-- Opens a window without packets.  If its room cannot be reserved, the call does not return. -/
def open? (channel : ChannelKey) (capacity : Nat) : Option Window :=
  if isReservable capacity then some (.empty channel capacity) else none

/-- The number of packets. -/
def size (w : Window) : Nat :=
  w.packets.length

/-- Whether another packet would be one too many. -/
def isFull (w : Window) : Bool :=
  w.size = w.capacity

/-- The start of the oldest packet. -/
def earliest? (w : Window) : Option Micros :=
  w.packets.head?.map (·.start)

/-- The start of the newest packet. -/
def latest? (w : Window) : Option Micros :=
  w.packets.getLast?.map (·.start)

/-- The window without its packets. -/
def clear (w : Window) : Window :=
  { w with packets := [] }

/-! ## Insertion -/

/-- The packets that start before a time. -/
def before (w : Window) (t : Micros) : List Packet :=
  w.packets.takeWhile fun q => q.start < t

/-- The packets that start at a time or after it. -/
def notBefore (w : Window) (t : Micros) : List Packet :=
  w.packets.dropWhile fun q => q.start < t

/-- The window with a packet that starts after all others, if there is room for it. -/
def append? (w : Window) (p : Packet) : Option Window :=
  if (w.latest?.all (· < p.start)) && w.size < w.capacity then
    some { w with packets := w.packets ++ [p] }
  else none

/-- Puts a packet where its start belongs.  A packet with the same start is replaced; else, if the
window is full, the oldest packet makes room, and if that would be the new packet itself, nothing
changes. -/
def place (w : Window) (p : Packet) : InsertOutcome × Window :=
  let older := w.before p.start
  let newer := w.notBefore p.start
  if newer.head?.any (·.start = p.start) then
    (.replaced, { w with packets := older ++ p :: newer.tail })
  else if w.size < w.capacity then
    (.inserted, { w with packets := older ++ p :: newer })
  else
    match older with
    | [] => (.tooOld (w.earliest?.getD p.start), w)
    | oldest :: older =>
      (.insertedEvicting oldest.start, { w with packets := older ++ p :: newer })

/-- Takes in a packet of the window's channel. -/
def store (w : Window) (p : Packet) : InsertOutcome × Window :=
  match w.append? p with
  | some w' => (.inserted, w')
  | none => w.place p

/-- Takes in a packet, which has to be of the window's channel. -/
def insert (w : Window) (p : Packet) : Except WindowError (InsertOutcome × Window) :=
  if p.channel = w.channel then .ok (w.store p)
  else .error (.channelMismatch w.channel p.channel)

/-! ## Queries -/

/-- The packets that have a microsecond in common with the closed stretch from `t₀` to `t₁`.
Packets after the first that starts too late are not looked at. -/
def query (w : Window) (t₀ t₁ : Micros) : List Packet :=
  if t₁ < t₀ then []
  else (w.packets.takeWhile fun p => p.start ≤ t₁).filter fun p => t₀ ≤ p.finish

/-- The packets that end at a time or after it. -/
def since (w : Window) (t₀ : Micros) : List Packet :=
  w.packets.filter fun p => t₀ ≤ p.finish

end Window

end WaveCache
