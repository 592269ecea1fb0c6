import RoutePreference.Protocol
import RoutePreference.Topology.Config

/-!
# Settings and interfaces of the device

* `Settings`: the ports of the testbed, the administrative distances of the two channels, the
  time that programming the forwarding table takes, and the tick of the traffic generator;
* `Channel`: the two channels that install routes, `Settings.preference`: the better one first;
* `Interfaces`: the addresses of the device by port, `Interfaces.connected?`: the port through
  which an address is reached directly.
-/

namespace RoutePreference

/-- The fixed parameters of a testbed. -/
structure Settings where
  /-- The ports that links can be plugged into. -/
  ports : List String
  /-- The administrative distance of configured routes. -/
  staticDistance : Nat
  /-- The administrative distance of programmed routes. -/
  gribiDistance : Nat
  /-- The milliseconds between a routing change and its effect on forwarding. -/
  programmingDelay : Nat
  /-- The milliseconds between two transmissions of a flow. -/
  tick : Nat
deriving DecidableEq

/-- Four ports, configured routes preferred, fifty milliseconds to program the forwarding table. -/
def Settings.standard : Settings where
  ports := ["port1", "port2", "port3", "port4"]
  staticDistance := 1
  gribiDistance := 5
  programmingDelay := 50
  tick := 10

instance : Inhabited Settings := ⟨Settings.standard⟩

/-- The channels whose routes compete for a destination. -/
inductive Channel where
  | static
  | gribi
deriving DecidableEq, Inhabited

/-- The channel as telemetry reports it. -/
def Channel.protocol : Channel → Protocol
  | static => .static
  | gribi => .gribi

/-- The administrative distance of a channel. -/
def Settings.distance (s : Settings) : Channel → Nat
  | .static => s.staticDistance
  | .gribi => s.gribiDistance

/-- The channels by increasing distance, configured routes first among equals. -/
def Settings.preference (s : Settings) : List Channel :=
  if s.staticDistance ≤ s.gribiDistance then [.static, .gribi] else [.gribi, .static]

/-! ### Interfaces -/

/-- The address and administrative state of the device at a port. -/
structure Interface where
  addr : Network
  enabled : Bool
deriving DecidableEq, Inhabited

/-- The configured interfaces, by port. -/
abbrev Interfaces := Table String Interface

/-- The interface that a configuration describes; it is enabled unless told otherwise. -/
def DutInterface.interface (cfg : DutInterface) : Interface :=
  { addr := cfg.attrs.cidr, enabled := cfg.enabled.getD true }

/-- Whether packets for the address leave through the interface directly: the interface is
enabled, its network holds the address, and the address is not its own. -/
def Interface.reaches (i : Interface) (a : Addr) : Bool :=
  i.enabled && i.addr.contains a && i.addr.addr ≠ a

/-- The first port, in order, whose interface reaches the address directly. -/
def Interfaces.connected? (ifs : Interfaces) (a : Addr) : Option String :=
  (ifs.entries.find? fun e => e.2.reaches a).map (·.1)

end RoutePreference
