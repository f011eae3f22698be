import WaveCache.Message.Response

/-!
# Phases and metrics

How far a service is in its life, and counters of what it has done.  `Phase.mayBecome` lists the
steps between the phases.  Each counter holds 64 bits and starts over at zero after the greatest
number.

`Phase` models `ServiceState`, with `mayBecome` for `can_transition_to`.  `Metrics` models `Metrics`
and the snapshots of it, with one function for each `record_` method.
-/

namespace WaveCache

/-- How far a service is in its life. -/
inductive Phase where
  | stopped
  | starting
  | running
  | stopping
deriving DecidableEq, Inhabited

namespace Phase

/-- The name of a phase. -/
def name : Phase → String
  | stopped => "Stopped"
  | starting => "Starting"
  | running => "Running"
  | stopping => "Stopping"

/-- Whether one phase may follow another at once.  A start may fail and lead back. -/
def mayBecome : Phase → Phase → Bool
  | stopped, starting => true
  | starting, running => true
  | starting, stopped => true
  | running, stopping => true
  | stopping, stopped => true
  | _, _ => false

end Phase

/-- The counters of a cache. -/
structure Metrics where
  packetsIngested : UInt64 := 0
  packetsReplaced : UInt64 := 0
  packetsEvicted : UInt64 := 0
  packetsTooOld : UInt64 := 0
  packetsRejected : UInt64 := 0
  channelsCreated : UInt64 := 0
  channelsEvicted : UInt64 := 0
  queriesServed : UInt64 := 0
  queriesUnknownChannel : UInt64 := 0
  packetsReturned : UInt64 := 0
  requestsFailed : UInt64 := 0
  invalidRange : UInt64 := 0
  invalidMessage : UInt64 := 0
  notRunning : UInt64 := 0
  unauthorized : UInt64 := 0
  internalError : UInt64 := 0
  /-- The time spent in queries. -/
  queryNanos : UInt64 := 0
deriving DecidableEq

namespace Metrics

/-- All counters at zero. -/
def zero : Metrics := {}

/-- A packet was added, and perhaps another was given up for it. -/
def packetStored (m : Metrics) (evicting : Bool) : Metrics :=
  { m with
    packetsIngested := m.packetsIngested + 1
    packetsEvicted := m.packetsEvicted + if evicting then 1 else 0 }

/-- A packet took the place of another. -/
def packetReplaced (m : Metrics) : Metrics :=
  { m with packetsReplaced := m.packetsReplaced + 1 }

/-- A packet was too old to be taken in. -/
def packetTooOld (m : Metrics) : Metrics :=
  { m with packetsTooOld := m.packetsTooOld + 1 }

/-- A packet was refused. -/
def packetRejected (m : Metrics) : Metrics :=
  { m with packetsRejected := m.packetsRejected + 1 }

/-- A channel got a window. -/
def channelCreated (m : Metrics) : Metrics :=
  { m with channelsCreated := m.channelsCreated + 1 }

/-- A channel was given up. -/
def channelEvicted (m : Metrics) : Metrics :=
  { m with channelsEvicted := m.channelsEvicted + 1 }

/-- A query was served in the given time and found so many packets. -/
def query (m : Metrics) (nanos : Nat) (known : Bool) (packets : Nat) : Metrics :=
  { m with
    queriesServed := m.queriesServed + 1
    queryNanos := m.queryNanos + UInt64.ofNat nanos
    packetsReturned := m.packetsReturned + UInt64.ofNat packets
    queriesUnknownChannel := m.queriesUnknownChannel + if known then 0 else 1 }

/-- A request was answered with a code.  Only failures count. -/
def requestFailed (m : Metrics) (code : ReturnCode) : Metrics :=
  let failed := { m with requestsFailed := m.requestsFailed + 1 }
  match code with
  | .success => m
  | .unknownChannel => m
  | .invalidRange => { failed with invalidRange := m.invalidRange + 1 }
  | .invalidMessage => { failed with invalidMessage := m.invalidMessage + 1 }
  | .notRunning => { failed with notRunning := m.notRunning + 1 }
  | .unauthorized => { failed with unauthorized := m.unauthorized + 1 }
  | .internalError => { failed with internalError := m.internalError + 1 }

/-- The mean time of a query, cut to whole nanoseconds. -/
def averageQueryNanos (m : Metrics) : UInt64 :=
  if m.queriesServed = 0 then 0 else m.queryNanos / m.queriesServed

end Metrics

end WaveCache
