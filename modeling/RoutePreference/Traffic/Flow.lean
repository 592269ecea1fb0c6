import RoutePreference.Net.AddrRange
import RoutePreference.Text.Binary32

/-!
# Traffic flows

* `FlowSpec`: which packets a flow sends, and who should receive them;
* `FlowCounters`: how many packets were sent and received;
* `FlowCounters.lost`, `FlowCounters.lossPercent?`: what went missing.
-/

namespace RoutePreference

/-- A flow of packets from one interface of the test equipment to others. -/
structure FlowSpec where
  name : String
  /-- The interface that sends the packets. -/
  source : String
  /-- The interfaces that should receive them. -/
  receivers : List String
  /-- The destination addresses, taken in turn. -/
  range : AddrRange
  packetCount : Nat
  /-- Packets per second. -/
  rate : Nat
deriving DecidableEq, Inhabited

/-- The packets counted so far. -/
structure FlowCounters where
  tx : Nat
  rx : Nat
deriving DecidableEq, Inhabited

namespace FlowCounters

/-- Nothing counted yet. -/
def zero : FlowCounters := ⟨0, 0⟩

/-- The packets sent and not received. -/
def lost (c : FlowCounters) : Nat := c.tx - c.rx

/-- The percentage of packets lost, each step rounded to single precision; undefined when nothing
was sent. -/
def lossPercent? (c : FlowCounters) : Option Binary32 :=
  if c.tx = 0 then none
  else some (((Binary32.ofNat c.lost).mul (Binary32.ofNat 100)).div (Binary32.ofNat c.tx))

/-- The percentage of packets lost, zero when nothing was sent. -/
def lossPercent (c : FlowCounters) : Binary32 := c.lossPercent?.getD Binary32.zero

end FlowCounters

end RoutePreference
