import RoutePreference.Aft.Session
import RoutePreference.Device.Refusal
import RoutePreference.Device.Rib
import RoutePreference.Traffic.Flow

/-!
# The state of the testbed

* `Instance`: a network instance with its configured routes and its routing table;
* `AftTables`: the entries programmed in one network instance;
* `OwedReply`: results that are withheld until the forwarding table is programmed;
* `Endpoint`, `Flow`, `Generator`: the test equipment;
* `Device`: all of it, with `Device.start` and the changes that several requests share.

The device wakes up its forwarding-plane programming through a queue of tokens, counted by
`Device.tokens`: whatever makes a choice of routes necessary puts one there.
-/

namespace RoutePreference

/-- A network instance. -/
structure Instance where
  type : InstanceType
  /-- The configured routes, by destination. -/
  statics : Table Network StaticRoute := ∅
  rib : Rib := {}
deriving DecidableEq, Inhabited

/-- The entries programmed in a network instance. -/
structure AftTables where
  nextHops : Table Nat NextHop := ∅
  groups : Table Nat NextHopGroup := ∅
  ipv4 : Table Network Ipv4Entry := ∅
deriving DecidableEq, Inhabited

/-- A forwarding entry that an operation waits for. -/
structure Target where
  inst : String
  dest : Network
deriving DecidableEq, Inhabited

/-- An operation's result as the routing table saw it, and what forwarding has to show for it. -/
structure Provisional where
  result : OperationResult
  target : Option Target
deriving DecidableEq, Inhabited

/-- Results that a request still waits for. -/
structure OwedReply where
  client : Nat
  /-- The request that waits. -/
  ticket : Nat
  results : List Provisional
deriving DecidableEq, Inhabited

/-- An interface of the test equipment. -/
structure Endpoint where
  port : String
  addr : Network
  gateway : Addr
deriving DecidableEq, Inhabited

/-- A flow and what it has sent. -/
structure Flow where
  spec : FlowSpec
  counters : FlowCounters
  /-- The number of the transmission that is under way, if any. -/
  transmission : Option Nat
deriving DecidableEq, Inhabited

/-- The test equipment. -/
structure Generator where
  /-- Whether it answers address resolution, without which nothing can be sent. -/
  protocolsRunning : Bool := false
  endpoints : Table String Endpoint := ∅
  flows : Table String Flow := ∅
  /-- How many transmissions were started so far. -/
  started : Nat := 0
deriving DecidableEq, Inhabited

/-- The device under test and the test equipment. -/
structure Device where
  settings : Settings
  interfaces : Interfaces := ∅
  instances : Table String Instance := ∅
  /-- The number of the session opened last. -/
  lastClient : Nat := 0
  /-- The open sessions, by number. -/
  sessions : Table Nat SessionParams := ∅
  /-- The programmed entries, by network instance. -/
  aft : Table String AftTables := ∅
  owed : List OwedReply := []
  generator : Generator := {}
  /-- The tokens that call for processing. -/
  tokens : Nat := 0
deriving DecidableEq, Inhabited

namespace Device

/-- A testbed without any configuration. -/
def start (settings : Settings) : Device := { settings }

/-- The entries programmed in a network instance. -/
def aftOf (d : Device) (inst : String) : AftTables := (d.aft.get? inst).getD {}

/-- The network instance that forwards the traffic of the links, with its name. -/
def defaultInstance? (d : Device) : Option (String × Instance) :=
  d.instances.entries.find? fun e => e.2.type = .default

/-- Changes the routing table of a network instance, if there is one, and puts a token into the
queue when the change asks for it. -/
def changeRib (d : Device) (inst : String) (f : Rib → Rib × Bool) : Device :=
  match d.instances.get? inst with
  | none => d
  | some i =>
    let (rib, wake) := f i.rib
    { d with
      instances := d.instances.insert inst { i with rib }
      tokens := if wake then d.tokens + 1 else d.tokens }

/-- Makes the choice of routes anew wherever it waits, with the interfaces as they are now. -/
def settleRoutes (d : Device) : Device :=
  { d with
    instances := d.instances.mapValues fun _ i =>
      { i with rib := i.rib.settle d.settings.preference d.interfaces } }

end Device

end RoutePreference
