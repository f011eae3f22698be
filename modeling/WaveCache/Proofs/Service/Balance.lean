import WaveCache.Proofs.ChannelStore.Census
import WaveCache.Proofs.Service.Run

/-!
# The books of a service

A `Ledger` says in plain numbers what calls did, as seen from outside: from the calls, the replies
and the content of the store.  `Balanced` relates it to the counters and to the store.  A counter
has 64 bits and starts over after the greatest number, and so the relations are equations between
numbers of 64 bits.

There is one lemma for each way in which the counters or the store change: a packet is rejected or
added, a channel is queried, a request fails, the store is cleared.  Each posts to the ledger what
was done.
-/

namespace WaveCache

/-- What calls did, in plain numbers. -/
@[ext] structure Ledger where
  /-- The packets that a service was called with while it ran, whether or not they could be read. -/
  offered : Nat := 0
  /-- The live channels that were discarded when a service stopped. -/
  discarded : Nat := 0
  /-- The packets of channels at the time at which these were given up or discarded. -/
  lost : Nat := 0
  /-- The queries in requests. -/
  queries : Nat := 0
  /-- The parts of responses whose channel was not live. -/
  unknown : Nat := 0
  /-- The packets in responses. -/
  returned : Nat := 0
  /-- The responses that are failures. -/
  failed : Nat := 0
deriving DecidableEq

namespace Ledger

instance : Add Ledger where
  add k l := {
    offered := k.offered + l.offered
    discarded := k.discarded + l.discarded
    lost := k.lost + l.lost
    queries := k.queries + l.queries
    unknown := k.unknown + l.unknown
    returned := k.returned + l.returned
    failed := k.failed + l.failed }

theorem add_assoc (j k l : Ledger) : j + k + l = j + (k + l) := by
  apply Ledger.ext <;> exact Nat.add_assoc _ _ _

theorem zero_add (l : Ledger) : {} + l = l := by
  apply Ledger.ext <;> exact Nat.zero_add _

/-- The queries of a request and the codes and packets of the parts of its response. -/
def answered (queries : Nat) (parts : List (ReturnCode × List Packet)) : Ledger where
  queries := queries
  unknown := parts.countP fun part => part.1 = .unknownChannel
  returned := (parts.map fun part => part.2.length).sum

theorem answered_cons (n queries : Nat) (part : ReturnCode × List Packet)
    (parts : List (ReturnCode × List Packet)) :
    answered (n + queries) (part :: parts) = answered n [part] + answered queries parts := by
  apply Ledger.ext
  case queries => rfl
  case unknown =>
    let isUnknown (part : ReturnCode × List Packet) : Bool := part.1 = .unknownChannel
    show ([part] ++ parts).countP isUnknown = [part].countP isUnknown + parts.countP isUnknown
    exact List.countP_append
  case returned =>
    show ([part.2.length] ++ _).sum = [part.2.length].sum + _
    exact List.sum_append
  all_goals rfl

end Ledger

/-- The counters agree with a ledger and with what is in the store. -/
structure Balanced (m : Metrics) (c : ChannelStore) (l : Ledger) : Prop where
  /-- A packet was inserted, or took the place of another, or was too old, or was rejected. -/
  offered : m.packetsIngested + m.packetsReplaced + m.packetsTooOld + m.packetsRejected =
    .ofNat l.offered
  /-- A channel that was created was given up, or is live, or was discarded. -/
  channels : m.channelsCreated = m.channelsEvicted + .ofNat c.size + .ofNat l.discarded
  /-- A packet that was inserted was given up, or is in a window, or went with its channel. -/
  packets : m.packetsIngested = m.packetsEvicted + .ofNat c.totalPackets + .ofNat l.lost
  queries : m.queriesServed = .ofNat l.queries
  unknown : m.queriesUnknownChannel = .ofNat l.unknown
  returned : m.packetsReturned = .ofNat l.returned
  failed : m.requestsFailed = .ofNat l.failed
  /-- A failure was counted with its code. -/
  codes : m.requestsFailed =
    m.invalidRange + m.invalidMessage + m.notRunning + m.unauthorized + m.internalError

/-! ## Packets -/

namespace Balanced

variable {m : Metrics} {c : ChannelStore} {l : Ledger} {condition : ChannelKey → Prop}

theorem zero (hslots : c.slots = []) : Balanced .zero c {} := by
  have hsize : c.size = 0 := congrArg List.length hslots
  have htotal : c.totalPackets = 0 := by rw [c.totalPackets_eq_sum, hslots]; rfl
  constructor
  case channels => rw [hsize]; rfl
  case packets => rw [htotal]; rfl
  all_goals rfl

/-- A packet that is refused, or bytes that are no packet. -/
theorem packetRejected (h : Balanced m c l) :
    Balanced m.packetRejected c (l + { offered := 1 }) :=
  { h with
    offered := by
      show _ + (m.packetsRejected + 1) = UInt64.ofNat (l.offered + 1)
      rw [UInt64.ofNat_add, ← h.offered, ← UInt64.add_assoc]
      rfl }

/-- A packet that the store looks at. -/
theorem add (h : Balanced m c l) (htidy : c.Tidy condition) {p : Packet} {added : AddReport}
    (hadd : (c.add p).1 = some added) :
    Balanced (m.added added) (c.add p).2
      (l + { offered := 1, lost := c.held added.evicted }) := by
  have hsize := congrArg UInt64.ofNat (htidy.size_add hadd)
  have htotal := congrArg UInt64.ofNat (htidy.totalPackets_add hadd)
  have hoffered := h.offered
  have hchannels := h.channels
  have hpackets := h.packets
  rw [UInt64.ofNat_add, UInt64.ofNat_add, apply_ite UInt64.ofNat, apply_ite UInt64.ofNat] at hsize
  rw [UInt64.ofNat_add, UInt64.ofNat_add, apply_ite UInt64.ofNat] at htotal
  refine { h with offered := ?_, channels := ?_, packets := ?_ }
  · -- whatever became of the packet, one counter says so
    have hone : (if added.insert = .inserted then 1 else 0) +
        (if added.insert.evicts then 1 else 0) + (if added.insert = .replaced then 1 else 0) +
        (if added.insert.isStored then 0 else 1) = (1 : UInt64) := by
      cases added.insert <;> rfl
    show _ = UInt64.ofNat (l.offered + 1)
    rw [UInt64.ofNat_add]
    unfold Metrics.added
    grind
  · -- a channel that is created is live, and one that is given up no longer is
    show _ = _ + _ + UInt64.ofNat (l.discarded + 0)
    unfold Metrics.added
    grind
  · -- a packet for which another is given up adds nothing to those in windows
    show _ = _ + _ + UInt64.ofNat (l.lost + c.held added.evicted)
    rw [UInt64.ofNat_add]
    unfold Metrics.added
    grind

/-- A query, whose packets are returned if the channel is live. -/
theorem query (h : Balanced m c l) (htidy : c.Tidy condition) (key : ChannelKey) (t₀ t₁ : Micros) :
    let found := (c.query key t₀ t₁).1
    let code := if found.isSome then ReturnCode.success else .unknownChannel
    Balanced (m.query 0 found.isSome (found.getD []).length) (c.query key t₀ t₁).2
      (l + .answered 1 [(code, found.getD [])]) := by
  intro found code
  have hunknown : (Ledger.answered 1 [(code, found.getD [])]).unknown =
      if found.isSome then 0 else 1 := by
    simp only [code]
    cases found.isSome <;> rfl
  refine { h with channels := ?_, packets := ?_, queries := ?_, unknown := ?_, returned := ?_ }
  · show _ = _ + UInt64.ofNat (c.visit key _).2.size + _
    rw [ChannelStore.size_visit]
    exact h.channels
  · show _ = _ + UInt64.ofNat (c.visit key _).2.totalPackets + _
    rw [htidy.totalPackets_visit]
    exact h.packets
  · show m.queriesServed + 1 = UInt64.ofNat (l.queries + 1)
    rw [UInt64.ofNat_add, ← h.queries]
    rfl
  · show m.queriesUnknownChannel + _ = UInt64.ofNat (l.unknown + _)
    rw [UInt64.ofNat_add, ← h.unknown, hunknown, apply_ite UInt64.ofNat]
    rfl
  · show m.packetsReturned + _ = UInt64.ofNat (l.returned + _)
    rw [UInt64.ofNat_add, ← h.returned]
    rfl

/-! ## Requests and stops -/

/-- A response with this code. -/
theorem requestFailed (h : Balanced m c l) (code : ReturnCode) :
    Balanced (m.requestFailed code) c (l + { failed := if code.isFailure then 1 else 0 }) := by
  have hfailed : m.requestsFailed + 1 = .ofNat (l.failed + 1) := by
    rw [UInt64.ofNat_add, ← h.failed]
    rfl
  have hcodes := h.codes
  cases code with
  | success | unknownChannel => exact h
  | invalidRange | invalidMessage | notRunning | unauthorized | internalError =>
    refine { h with failed := hfailed, codes := ?_ }
    simp only [Metrics.requestFailed]
    grind

/-- A stop, which discards all channels with their packets. -/
theorem clear (h : Balanced m c l) :
    Balanced m c.clear (l + { discarded := c.size, lost := c.totalPackets }) := by
  have hchannels := h.channels
  have hpackets := h.packets
  refine { h with channels := ?_, packets := ?_ }
  · show m.channelsCreated = m.channelsEvicted + 0 + UInt64.ofNat (l.discarded + c.size)
    rw [UInt64.ofNat_add]
    grind
  · show m.packetsIngested = m.packetsEvicted + 0 + UInt64.ofNat (l.lost + c.totalPackets)
    rw [UInt64.ofNat_add]
    grind

end Balanced

end WaveCache
