import RoutePreference.Harness.Checked

/-!
# Checking traffic

* `TrafficCheck.observe`: watches a flow until everything was sent and nothing more arrives, or
  until time is up;
* `TrafficCheck.run`: starts a flow, watches it, stops it, and takes any loss for a failure.

A flow that was started is stopped in every case.
-/

namespace RoutePreference

/-- The outcome of a traffic check without loss. -/
structure TrafficResult where
  flow : String
  counters : FlowCounters
  loss : Binary32
deriving DecidableEq, Inhabited

/-- How a flow is watched. -/
structure Watch where
  /-- The milliseconds between two reads of the counters. -/
  interval : Nat
  /-- The milliseconds after which to stop watching. -/
  duration : Nat
  /-- After how many reads without change the flow counts as complete. -/
  stablePolls : Nat
deriving DecidableEq, Inhabited

namespace TrafficCheck

variable {σ : Type}

/-- The most reads of the counters.  With a positive interval between them this many always reach
the deadline; without one there is no such number, and some large one is taken. -/
def readBudget (w : Watch) : Nat :=
  if w.interval = 0 then w.duration + 65536 else w.duration / w.interval + 2

/-- How many reads in a row have now shown the same count of received packets, beyond the
first. -/
def stableAfter (last : Option Nat) (stable rx : Nat) : Nat :=
  if last = some rx then stable + 1 else 0

/-- Watches the flow from a given point on: the count received last and for how many reads it has
been the same. -/
def observeFrom (w : Watch) (flow : String) (packetCount deadline : Nat) (last : Option Nat)
    (stable : Nat) : Nat → Checked σ Unit
  | 0 => return ()
  | reads + 1 => do
    let now ← Checked.now
    if deadline ≤ now then return ()
    else
      Checked.sleep (Nat.min w.interval (deadline - now))
      let c : FlowCounters ← Checked.call (.trafficControl flow) (.counters flow)
      let stable := stableAfter last stable c.rx
      if packetCount ≤ c.tx ∧ w.stablePolls ≤ stable then return ()
      else observeFrom w flow packetCount deadline (some c.rx) stable reads

/-- Watches the flow until it has settled or time is up. -/
def observe (w : Watch) (flow : String) (packetCount : Nat) : Checked σ Unit := do
  let start ← Checked.now
  observeFrom w flow packetCount (start + w.duration) none 0 (readBudget w)

/-- The final word on a flow that was stopped: something was sent, and all of it arrived. -/
def conclude (flow : String) : Checked σ TrafficResult := do
  let counters : FlowCounters ← Checked.call (.trafficControl flow) (.counters flow)
  if counters.tx = 0 then throw (.noTrafficTransmitted flow)
  else
    let loss : Binary32 ← Checked.call (.trafficControl flow) (.loss flow)
    if loss.isPositive then throw (.trafficLoss flow loss counters)
    else return { flow, counters, loss }

/-- Starts the flow, watches it and stops it.  A failure of the watch counts before that of the
stop. -/
def run (w : Watch) (spec : FlowSpec) : Checked σ TrafficResult := do
  let _ ← Checked.call (.trafficControl spec.name) (.startFlow spec)
  let observed ← Checked.attempt (observe w spec.name spec.packetCount)
  let stopped ← Checked.attempt (Checked.call (.trafficControl spec.name) (.stopFlow spec.name))
  Checked.ofExcept observed
  let _ ← Checked.ofExcept stopped
  conclude spec.name

end TrafficCheck

end RoutePreference
