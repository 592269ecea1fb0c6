import RoutePreference.Aft.Session
import RoutePreference.Harness.Convergence
import RoutePreference.Harness.TrafficCheck
import RoutePreference.Protocol
import RoutePreference.Topology.Config
import RoutePreference.Traffic.Flow

/-!
# Scenarios

* `Scenario`: what a verification run sets up, programs and expects, with `Scenario.standard`;
* `SessionSettings`, `TrafficSettings`: its parts.

Spans of time are in milliseconds unless the name says otherwise.
-/

namespace RoutePreference

/-- How the routing-control session is run. -/
structure SessionSettings where
  persistence : Bool
  /-- Whether operations have to show in the forwarding table. -/
  fibAck : Bool
  electionId : ElectionId
  flushOnTeardown : Bool
  /-- How long to wait for the results of an operation. -/
  ackTimeout : Nat
deriving DecidableEq

/-- A persistent session without forwarding acknowledgments. -/
def SessionSettings.standard : SessionSettings where
  persistence := true
  fibAck := false
  electionId := { high := 0, low := 10 }
  flushOnTeardown := true
  ackTimeout := 5000

/-- The parameters to open the session with. -/
def SessionSettings.params (s : SessionSettings) : SessionParams where
  persistence := s.persistence
  ackMode := if s.fibAck then .ribAndFib else .rib
  electionId := s.electionId

/-- The traffic that has to get through. -/
structure TrafficSettings where
  flowName : String
  source : String
  receiver : String
  range : AddrRange
  packetCount : Nat
  rate : Nat
  /-- How long to watch the flow, in seconds. -/
  durationSecs : Nat
  pollInterval : Nat
  /-- After how many polls without change the flow counts as complete. -/
  stablePolls : Nat
deriving DecidableEq

/-- A flow over the addresses of the standard destination. -/
def TrafficSettings.standard : TrafficSettings where
  flowName := "Flow"
  source := "atePort1"
  receiver := "atePort2"
  range := { min := .ofOctets 203 0 113 0, max := .ofOctets 203 0 113 254, count := 250 }
  packetCount := 2500
  rate := 1000
  durationSecs := 15
  pollInterval := 500
  stablePolls := 3

/-- How the flow is watched. -/
def TrafficSettings.watch (t : TrafficSettings) : Watch where
  interval := t.pollInterval
  duration := t.durationSecs * 1000
  stablePolls := t.stablePolls

/-- The flow that is sent. -/
def TrafficSettings.flow (t : TrafficSettings) : FlowSpec where
  name := t.flowName
  source := t.source
  receivers := [t.receiver]
  range := t.range
  packetCount := t.packetCount
  rate := t.rate

/-- What a run sets up, programs through both channels, and expects. -/
structure Scenario where
  inst : String
  instanceType : InstanceType
  instanceDescription : Option String
  /-- The links to set up; the first one sends the traffic. -/
  links : List Link
  /-- The destination that both channels have a route for. -/
  dest : Network
  /-- The protocol instance that holds the configured route. -/
  staticProtocol : String
  staticNextHop : Addr
  staticKey : String
  staticDescription : Option String
  nextHopIndex : Nat
  groupId : Nat
  gribiNextHop : Addr
  entryTag : Option String
  /-- The channel that forwarding should follow. -/
  expectedOrigin : Protocol
  session : SessionSettings
  convergence : Convergence
  traffic : TrafficSettings
  /-- Whether interfaces have to be enabled explicitly. -/
  enableInterfaces : Bool
deriving DecidableEq

/-- Both channels have a route for one destination, through different links, and the configured
one is expected to win. -/
def Scenario.standard : Scenario where
  inst := defaultInstanceName
  instanceType := .default
  instanceDescription := some "Network instance for route preference checks"
  links := [1, 2, 3].map Link.numbered
  dest := { addr := .ofOctets 203 0 113 0, len := 24 }
  staticProtocol := "static-1"
  staticNextHop := .ofOctets 192 0 2 6
  staticKey := "nhg1"
  staticDescription := some "Static route added by gNMI-OC"
  nextHopIndex := 1
  groupId := 42
  gribiNextHop := .ofOctets 192 0 2 10
  entryTag := none
  expectedOrigin := .static
  session := .standard
  convergence := .standard
  traffic := .standard
  enableInterfaces := false

namespace Scenario

/-- The configured route. -/
def staticRoute (s : Scenario) : StaticRoute :=
  .single s.inst s.staticProtocol s.dest s.staticKey s.staticNextHop s.staticDescription

/-- The next-hop of the programmed route. -/
def nextHop (s : Scenario) : NextHop :=
  { index := s.nextHopIndex, address := s.gribiNextHop, inst := s.inst }

/-- The group of the programmed route, with the next-hop as its only member. -/
def group (s : Scenario) : NextHopGroup :=
  { id := s.groupId, members := Table.insert ∅ s.nextHopIndex 1, inst := s.inst }

/-- The programmed route. -/
def ipv4Entry (s : Scenario) : Ipv4Entry :=
  { dest := s.dest, group := s.groupId, inst := s.inst, groupInst := none, tag := s.entryTag }

/-- The network instance to create. -/
def instanceConfig (s : Scenario) : InstanceConfig :=
  { name := s.inst, type := s.instanceType, description := s.instanceDescription }

/-- The interface of the device at a link. -/
def dutInterface (s : Scenario) (link : Link) : DutInterface :=
  { attrs := link.dut, enabled := if s.enableInterfaces then some true else none }

/-- The interface of the test equipment at a link; its gateway is the device. -/
def ateInterface (link : Link) : AteInterface := { attrs := link.ate, gateway := link.dut.ipv4 }

end Scenario

end RoutePreference
