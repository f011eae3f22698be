import Mathlib.Algebra.Ring.Nat
import WaveCache.ChannelStore

/-!
# Channels by recency

A `RecencyList` is what a channel store is meant to be: a list of channels with their windows, the
one that was touched last in front.  A touch moves a channel to the front, and a new channel that
finds no room pushes out the one at the back.  There are no stamps and no clock in it.

`StoreCall` and `StoreAnswer` are the calls of a store and what it answers.  A store and a recency
list both `perform` calls; `answers` runs a list of them.
-/

namespace WaveCache

/-- A call of a channel store. -/
inductive StoreCall where
  | add (p : Packet)
  | query (key : ChannelKey) (t₀ t₁ : Micros)
  | packets (key : ChannelKey) (t₀ t₁ : Micros)
  | packetsSince (key : ChannelKey) (t₀ : Micros)
  | contains (key : ChannelKey)
  | earliest (key : ChannelKey)
  | size
  | totalPackets
  | channels
  | clear

/-- What is answered to a call. -/
inductive StoreAnswer where
  /-- There is no report if the call does not return. -/
  | added (report : Option AddReport)
  | found (packets : Option (List Packet))
  | packets (packets : List Packet)
  | live (known : Bool)
  | time (start : Option Micros)
  | number (n : Nat)
  | keys (keys : List ChannelKey)
  | cleared
deriving DecidableEq

/-! ## Stores -/

namespace ChannelStore

/-- Answers a call. -/
def perform (c : ChannelStore) : StoreCall → StoreAnswer × ChannelStore
  | .add p =>
    let (report, c) := c.add p
    (.added report, c)
  | .query key t₀ t₁ =>
    let (found, c) := c.query key t₀ t₁
    (.found found, c)
  | .packets key t₀ t₁ =>
    let (packets, c) := c.packets key t₀ t₁
    (.packets packets, c)
  | .packetsSince key t₀ =>
    let (packets, c) := c.packetsSince key t₀
    (.packets packets, c)
  | .contains key => (.live (c.contains key), c)
  | .earliest key => (.time (c.earliest? key), c)
  | .size => (.number c.size, c)
  | .totalPackets => (.number c.totalPackets, c)
  | .channels => (.keys c.channels, c)
  | .clear => (.cleared, c.clear)

/-- The answers to calls made one after another. -/
def answers (c : ChannelStore) : List StoreCall → List StoreAnswer
  | [] => []
  | call :: calls => (c.perform call).1 :: (c.perform call).2.answers calls

/-- The clock never goes back during the calls, that is, it does not start over. -/
def Steady (c : ChannelStore) : List StoreCall → Prop
  | [] => True
  | call :: calls => c.clock ≤ (c.perform call).2.clock ∧ (c.perform call).2.Steady calls

end ChannelStore

/-! ## Recency lists -/

/-- Channels with their windows, the most recently touched first. -/
structure RecencyList where
  /-- The greatest number of channels. -/
  maxChannels : Nat
  /-- The capacity of each window. -/
  maxPackets : Nat
  entries : List (ChannelKey × Window)

namespace RecencyList

/-- No channels.  There is room for one channel and one packet at least. -/
def empty (maxChannels maxPackets : Nat) : RecencyList :=
  ⟨max maxChannels 1, max maxPackets 1, []⟩

/-- The channels, the most recently touched first. -/
def keys (l : RecencyList) : List ChannelKey :=
  l.entries.map (·.1)

/-- The window of a channel. -/
def window? (l : RecencyList) (key : ChannelKey) : Option Window :=
  (l.entries.find? fun entry => entry.1 = key).map (·.2)

/-- Moves a channel to the front, with a given window. -/
def toFront (l : RecencyList) (key : ChannelKey) (window : Window) : RecencyList :=
  { l with entries := (key, window) :: l.entries.filter fun entry => entry.1 ≠ key }

/-- Puts a new channel in front, with a given window. -/
def push (l : RecencyList) (key : ChannelKey) (window : Window) : RecencyList :=
  { l with entries := (key, window) :: l.entries }

/-- Pushes out the channel at the back if there is no room for another. -/
def makeRoom (l : RecencyList) : Option ChannelKey × RecencyList :=
  if l.maxChannels ≤ l.entries.length then
    (l.keys.getLast?, { l with entries := l.entries.dropLast })
  else (none, l)

/-- Takes in a packet.  If its channel is new, there has to be a window for it. -/
def add (l : RecencyList) (p : Packet) : Option AddReport × RecencyList :=
  match l.window? p.channel with
  | some w => (some ⟨(w.store p).1, false, none⟩, l.toFront p.channel (w.store p).2)
  | none =>
    let (evicted, l) := l.makeRoom
    match Window.open? p.channel l.maxPackets with
    | some w => (some ⟨(w.store p).1, true, evicted⟩, l.push p.channel (w.store p).2)
    | none => (none, l)

/-- Looks into the window of a channel, which moves it to the front. -/
def visit {α : Type} (l : RecencyList) (key : ChannelKey) (look : Window → α) :
    Option α × RecencyList :=
  match l.window? key with
  | some w => (some (look w), l.toFront key w)
  | none => (none, l)

/-- Answers a call. -/
def perform (l : RecencyList) : StoreCall → StoreAnswer × RecencyList
  | .add p =>
    let (report, l) := l.add p
    (.added report, l)
  | .query key t₀ t₁ =>
    let (found, l) := l.visit key fun w => w.query t₀ t₁
    (.found found, l)
  | .packets key t₀ t₁ =>
    let (found, l) := l.visit key fun w => w.query t₀ t₁
    (.packets (found.getD []), l)
  | .packetsSince key t₀ =>
    let (found, l) := l.visit key fun w => w.since t₀
    (.packets (found.getD []), l)
  | .contains key => (.live (l.window? key).isSome, l)
  | .earliest key => (.time ((l.window? key).bind Window.earliest?), l)
  | .size => (.number l.entries.length, l)
  | .totalPackets => (.number (l.entries.map (·.2.size)).sum, l)
  | .channels => (.keys (ChannelKey.sort l.keys), l)
  | .clear => (.cleared, { l with entries := [] })

/-- The answers to calls made one after another. -/
def answers (l : RecencyList) : List StoreCall → List StoreAnswer
  | [] => []
  | call :: calls => (l.perform call).1 :: (l.perform call).2.answers calls

end RecencyList

end WaveCache
