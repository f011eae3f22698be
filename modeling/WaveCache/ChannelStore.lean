import WaveCache.Window

/-!
# Channel stores

A channel store holds the windows of a bounded number of channels.  A packet of a channel that has
no window yet opens one, and if there are as many channels as there may be, the channel that was
touched longest ago is given up for it.  Packets taken in touch their channel, and so do queries
that find their channel, whatever they find in it.

The store keeps a clock that moves with every touch and stamps each channel with the time of its
last touch and the time at which its window was opened.

`ChannelStore` models `CappedCollection`, and a `Slot` is a `ChannelSlot`.  `add` is `add_packet`;
`makeRoom`, `evict` and `addWindow` are the parts of `get_or_create`; `visit` is `with_buffer`;
`query`, `packets` and `packetsSince` are `query`, `get_packets` and `get_packets_since`.  Calls are
made one after another here.  So there are no locks, and no slot that is retired between being found
and being locked.  Every window only gets packets of its own channel, so `store` is called and not
`insert`: the two agree in every store that is reached (`Tidy.insert_of_slot?`).
-/

namespace WaveCache

/-- The window of a live channel and its stamps. -/
structure Slot where
  channel : ChannelKey
  window : Window
  /-- The clock at the last touch. -/
  touched : UInt64
  /-- The clock when the window was opened. -/
  opened : UInt64

/-- Whether a slot goes before another when one has to be given up. -/
def Slot.staler (s t : Slot) : Bool :=
  s.touched < t.touched || s.touched = t.touched && s.opened < t.opened

/-- The windows of the live channels. -/
structure ChannelStore where
  /-- The greatest number of channels. -/
  maxChannels : Nat
  /-- The capacity of each window. -/
  maxPackets : Nat
  slots : List Slot
  /-- The number of touches and openings, which starts over at zero after 64 bits. -/
  clock : UInt64

/-- What became of a packet and of the channels. -/
structure AddReport where
  insert : InsertOutcome
  /-- Whether the packet opened a window. -/
  created : Bool
  /-- The channel that was given up for it. -/
  evicted : Option ChannelKey
deriving DecidableEq

namespace ChannelStore

/-- A store without channels.  It has room for one channel and one packet at least. -/
def empty (maxChannels maxPackets : Nat) : ChannelStore :=
  ⟨max maxChannels 1, max maxPackets 1, [], 0⟩

/-- The number of live channels. -/
def size (c : ChannelStore) : Nat :=
  c.slots.length

/-- The slot of a channel. -/
def slot? (c : ChannelStore) (key : ChannelKey) : Option Slot :=
  c.slots.find? fun s => s.channel = key

/-- Whether a channel is live. -/
def contains (c : ChannelStore) (key : ChannelKey) : Bool :=
  (c.slot? key).isSome

/-- The live channels in ascending order. -/
def channels (c : ChannelStore) : List ChannelKey :=
  ChannelKey.sort (c.slots.map Slot.channel)

/-- The number of packets in all windows. -/
def totalPackets (c : ChannelStore) : Nat :=
  c.slots.foldr (fun s n => s.window.size + n) 0

/-- The start of the oldest packet of a channel.  Asking does not touch the channel. -/
def earliest? (c : ChannelStore) (key : ChannelKey) : Option Micros :=
  (c.slot? key).bind fun s => s.window.earliest?

/-- The store without its channels. -/
def clear (c : ChannelStore) : ChannelStore :=
  { c with slots := [] }

/-! ## Changing one channel -/

/-- Replaces the window of a live channel and touches it. -/
def touch (c : ChannelStore) (key : ChannelKey) (window : Window) : ChannelStore :=
  { c with
    clock := c.clock + 1
    slots := c.slots.map fun s =>
      if s.channel = key then { s with window, touched := c.clock + 1 } else s }

/-- The slot that comes before all others when one has to be given up. -/
def stalest? : List Slot → Option Slot
  | [] => none
  | s :: rest =>
    match stalest? rest with
    | some t => if t.staler s then some t else some s
    | none => some s

/-- Gives up the channel that was touched longest ago. -/
def evict (c : ChannelStore) : Option ChannelKey × ChannelStore :=
  match stalest? c.slots with
  | some s => (some s.channel, { c with slots := c.slots.filter fun t => t.channel ≠ s.channel })
  | none => (none, c)

/-- Gives up a channel if there is no room for another. -/
def makeRoom (c : ChannelStore) : Option ChannelKey × ChannelStore :=
  if c.maxChannels ≤ c.size then c.evict else (none, c)

/-- Makes the channel of a window live. -/
def addWindow (c : ChannelStore) (window : Window) : ChannelStore :=
  let now := c.clock + 1
  { c with clock := now, slots := c.slots ++ [⟨window.channel, window, now, now⟩] }

/-- Takes in a packet.  If it needs a window that cannot be opened, the call does not return and
there is no report, but a channel may have been given up for it by then. -/
def add (c : ChannelStore) (p : Packet) : Option AddReport × ChannelStore :=
  match c.slot? p.channel with
  | some s =>
    let (outcome, window) := s.window.store p
    (some ⟨outcome, false, none⟩, c.touch p.channel window)
  | none =>
    let (evicted, c) := c.makeRoom
    match Window.open? p.channel c.maxPackets with
    | some window =>
      let (outcome, stored) := window.store p
      (some ⟨outcome, true, evicted⟩, (c.addWindow window).touch p.channel stored)
    | none => (none, c)

/-! ## Queries -/

/-- Looks into the window of a live channel, which touches it. -/
def visit {α : Type} (c : ChannelStore) (key : ChannelKey) (look : Window → α) :
    Option α × ChannelStore :=
  match c.slot? key with
  | some s => (some (look s.window), c.touch key s.window)
  | none => (none, c)

/-- The packets of a channel that have a microsecond in common with a stretch of time; nothing if
the channel is not live. -/
def query (c : ChannelStore) (key : ChannelKey) (t₀ t₁ : Micros) :
    Option (List Packet) × ChannelStore :=
  c.visit key fun w => w.query t₀ t₁

/-- As `query`, with no packets for a channel that is not live. -/
def packets (c : ChannelStore) (key : ChannelKey) (t₀ t₁ : Micros) : List Packet × ChannelStore :=
  let (found, c) := c.query key t₀ t₁
  (found.getD [], c)

/-- The packets of a channel that end at a time or after it. -/
def packetsSince (c : ChannelStore) (key : ChannelKey) (t₀ : Micros) :
    List Packet × ChannelStore :=
  let (found, c) := c.visit key fun w => w.since t₀
  (found.getD [], c)

end ChannelStore

end WaveCache
