import WaveCache.Wire.Encoding

/-!
# Frame bus

A bus carries frames, which are packets or other messages in bytes, from publishers to
subscriptions.  A subscription sees the frames that are published after it was made and whose topic
it asks for, in order and each at most once.  The bus keeps only the latest frames: as many as its
capacity, rounded up to a power of two.  A subscription that falls behind goes on with the oldest
frame that is kept.

The bus counts its published frames, so a position in the stream of all frames is a number, and a
subscription remembers the position up to which it has read.  `unread` says which frames that
leaves.

`Bus` models `InMemoryFrameBus`, and `Frame`, `Subscription` and `TopicFilter` (`FrameFilter`) are
what goes over it.  `receive` is `try_recv`, and `recv` as far as it does not wait; `unsubscribe` is
the drop of a subscription and `close` that of the bus.  The identifiers of frames, which only show
in logs, are left out.  `empty` is `with_capacity` for the capacities for which it returns: more
room than can be reserved is a panic there and is not looked at here.
-/

namespace WaveCache

/-- A message in bytes and its topic. -/
structure Frame where
  topic : String
  encoding : Encoding
  payload : List UInt8
deriving DecidableEq

namespace Frame

/-- The topic of frames that carry packets. -/
def packetTopic : String := "broadcast.data_packets"

/-- A frame that carries a packet. -/
def ofPacket (encoding : Encoding) (payload : List UInt8) : Frame :=
  ⟨packetTopic, encoding, payload⟩

end Frame

/-- The topics that a subscription asks for.  To ask for none is to ask for all. -/
structure TopicFilter where
  topics : List String
deriving DecidableEq

namespace TopicFilter

/-- Whether a frame is asked for. -/
def accepts (filter : TopicFilter) (frame : Frame) : Bool :=
  filter.topics.isEmpty || filter.topics.contains frame.topic

/-- The topics with a comma between each two, under which subscriptions are counted. -/
def key (filter : TopicFilter) : String :=
  String.intercalate "," filter.topics

end TopicFilter

/-- Why there is nothing to wait for. -/
inductive SubscriptionError where
  | closed
deriving DecidableEq

/-- The text of an error. -/
def SubscriptionError.message : SubscriptionError → String
  | closed => "Frame bus closed"

/-- A reader of the frames on a bus. -/
structure Subscription where
  filter : TopicFilter
  /-- The number of published frames that it need not look at any more. -/
  read : Nat
deriving DecidableEq

/-! ## Counts by key -/

/-- How many subscriptions there are under each key.  Keys without any are left out. -/
abbrev Tally := List (String × Nat)

namespace Tally

/-- The number under a key. -/
def count (tally : Tally) (key : String) : Nat :=
  (tally.lookup key).getD 0

/-- One more under a key. -/
def increment (key : String) : Tally → Tally
  | [] => [(key, 1)]
  | (k, n) :: rest => if k = key then (k, n + 1) :: rest else (k, n) :: increment key rest

/-- One less under a key. -/
def decrement (key : String) : Tally → Tally
  | [] => []
  | (k, n) :: rest =>
    if k = key then (if n ≤ 1 then rest else (k, n - 1) :: rest)
    else (k, n) :: decrement key rest

end Tally

/-! ## The bus -/

/-- A bus with its subscriptions.  A subscription is known by its place in the list, and that place
is empty once it is over. -/
structure Bus where
  capacity : Nat
  /-- The latest frames, the oldest first. -/
  kept : List Frame
  /-- The number of frames ever published. -/
  published : Nat
  subscriptions : List (Option Subscription)
  tally : Tally
  /-- Whether frames may still be published. -/
  isOpen : Bool

namespace Bus

/-- The capacity where none is given. -/
def standardCapacity : Nat := 1000

/-- A bus without frames.  Its capacity is at least one. -/
def empty (capacity : Nat) : Bus :=
  ⟨max capacity 1, [], 0, [], [], true⟩

/-- The number of frames that are kept. -/
def retention (b : Bus) : Nat :=
  b.capacity.nextPowerOfTwo

/-- The number of live subscriptions. -/
def subscribers (b : Bus) : Nat :=
  b.subscriptions.countP Option.isSome

/-- The number of live subscriptions that are counted with a filter. -/
def subscriptionsFor (b : Bus) (filter : TopicFilter) : Nat :=
  b.tally.count filter.key

/-- A live subscription. -/
def subscription? (b : Bus) (id : Nat) : Option Subscription :=
  (b.subscriptions[id]?).join

/-- Makes a subscription for the frames to come. -/
def subscribe (b : Bus) (filter : TopicFilter) : Nat × Bus :=
  (b.subscriptions.length, { b with
    subscriptions := b.subscriptions ++ [some ⟨filter, b.published⟩]
    tally := b.tally.increment filter.key })

/-- Publishes a frame and says how many subscriptions there are. -/
def publish (b : Bus) (frame : Frame) : Nat × Bus :=
  (b.subscribers, { b with
    kept := (b.kept ++ [frame]).drop (b.kept.length + 1 - b.retention)
    published := b.published + 1 })

/-- Lets no more frames in. -/
def close (b : Bus) : Bus :=
  { b with isOpen := false }

/-- The frames that are kept and that a subscription has not read, whether it asks for them or
not. -/
def unread (b : Bus) (s : Subscription) : List Frame :=
  b.kept.drop (s.read - (b.published - b.kept.length))

/-- The next frame for a subscription, nothing if it has to wait for one. -/
def receive (b : Bus) (s : Subscription) : Except SubscriptionError (Option Frame) × Subscription :=
  match (b.unread s).dropWhile fun frame => !s.filter.accepts frame with
  | frame :: rest => (.ok (some frame), { s with read := b.published - rest.length })
  | [] => (if b.isOpen then .ok none else .error .closed, { s with read := b.published })

/-- Lets a live subscription receive. -/
def poll (b : Bus) (id : Nat) : Option (Except SubscriptionError (Option Frame) × Bus) :=
  (b.subscription? id).map fun s =>
    let (received, s) := b.receive s
    (received, { b with subscriptions := b.subscriptions.set id (some s) })

/-- Ends a subscription.  One that is over stays so. -/
def unsubscribe (b : Bus) (id : Nat) : Bus :=
  match b.subscription? id with
  | some s =>
    { b with
      subscriptions := b.subscriptions.set id none
      tally := b.tally.decrement s.filter.key }
  | none => b

end Bus

end WaveCache
