import RoutePreference.Net.Network
import RoutePreference.Table

/-!
# Topology and device configuration

* `PortAttrs`: the addressing of one end of a link, with `PortAttrs.cidr`;
* `DutInterface`, `AteInterface`: interfaces of the device and of the test equipment;
* `InstanceType`, `InstanceConfig`: network instances;
* `StaticRoute`: a configured route, with `StaticRoute.single`;
* `Link`: both ends of a link, with `Link.numbered`.
-/

namespace RoutePreference

/-- The addressing of one end of a link. -/
structure PortAttrs where
  /-- The testbed port that the link is plugged into. -/
  port : String
  name : String
  desc : String
  ipv4 : Addr
  /-- The length of the link's network; one above 32 stands for the address alone. -/
  length : Nat
deriving DecidableEq, Inhabited

/-- The interface address with the length of its network. -/
def PortAttrs.cidr (a : PortAttrs) : Network := Network.ofInterface a.ipv4 a.length

/-- An interface of the device under test. -/
structure DutInterface where
  attrs : PortAttrs
  /-- The administrative state, where it is set explicitly. -/
  enabled : Option Bool
deriving DecidableEq, Inhabited

/-- An interface of the test equipment. -/
structure AteInterface where
  attrs : PortAttrs
  /-- The address that its packets are handed to. -/
  gateway : Addr
deriving DecidableEq, Inhabited

/-- The kinds of network instances. -/
inductive InstanceType where
  /-- The one that forwards the traffic of the links. -/
  | default
  | l3vrf
deriving DecidableEq, Inhabited

/-- The name of a kind of network instance. -/
def InstanceType.text : InstanceType → String
  | default => "DEFAULT_INSTANCE"
  | l3vrf => "L3VRF"

/-- A network instance to be configured. -/
structure InstanceConfig where
  name : String
  type : InstanceType
  description : Option String
deriving DecidableEq, Inhabited

/-- A configured route. -/
structure StaticRoute where
  inst : String
  /-- The protocol instance that holds the route. -/
  protocolName : String
  dest : Network
  /-- The addresses of the next-hops, by their keys. -/
  nextHops : Table String Addr
  description : Option String
deriving DecidableEq, Inhabited

/-- A route with one next-hop. -/
def StaticRoute.single (inst protocolName : String) (dest : Network) (key : String) (hop : Addr)
    (description : Option String) : StaticRoute :=
  { inst, protocolName, dest, nextHops := Table.insert ∅ key hop, description }

/-! ### Links -/

/-- A link between the device and the test equipment. -/
structure Link where
  dut : PortAttrs
  ate : PortAttrs
deriving DecidableEq, Inhabited

/-- One end of the `n`-th link of a chain, at the given host number. -/
def Link.numberedEnd (n : Nat) (role : String) (host : Nat) : PortAttrs :=
  { port := "port" ++ toString n
    name := role ++ "Port" ++ toString n
    desc := role ++ "Port" ++ toString n
    ipv4 := Addr.ofOctets 192 0 2 (4 * (n - 1) + host)
    length := 30 }

/-- The `n`-th link of a chain of networks of four addresses from `192.0.2.0` on; the device has
the first host address of each. -/
def Link.numbered (n : Nat) : Link :=
  { dut := numberedEnd n "dut" 1, ate := numberedEnd n "ate" 2 }

/-- The name of the default network instance. -/
def defaultInstanceName : String := "DEFAULT"

end RoutePreference
