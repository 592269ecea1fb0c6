import RoutePreference.Net.Network

/-!
# Telemetry paths

* `StatePath`: the leaves of device state that can be read;
* `StatePath.inst`: the network instance that a leaf belongs to;
* `StatePath.text`: the path in words, keys in brackets.

Paths are ordered by kind of leaf, then by their keys from first to last.
-/

namespace RoutePreference

/-- A leaf of the device's state. -/
inductive StatePath where
  /-- The type of a network instance. -/
  | instanceType (inst : String)
  /-- The destination of a configured route, under the named protocol instance. -/
  | staticRoute (inst protocolName : String) (dest : Network)
  /-- The destination of a forwarding entry. -/
  | aftPrefix (inst : String) (dest : Network)
  /-- The channel that a forwarding entry comes from. -/
  | aftOrigin (inst : String) (dest : Network)
deriving DecidableEq, Inhabited, Ord

namespace StatePath

/-- The network instance that the leaf belongs to. -/
def inst : StatePath → String
  | instanceType i => i
  | staticRoute i _ _ => i
  | aftPrefix i _ => i
  | aftOrigin i _ => i

/-- The part of the path below the network instance. -/
def tail : StatePath → String
  | instanceType _ => "/state/type"
  | staticRoute _ name dest =>
    "/protocols/protocol[identifier=STATIC][name=" ++ name ++ "]/static-routes/static[prefix="
      ++ dest.text ++ "]/state/prefix"
  | aftPrefix _ dest => "/afts/ipv4-unicast/ipv4-entry[prefix=" ++ dest.text ++ "]/state/prefix"
  | aftOrigin _ dest =>
    "/afts/ipv4-unicast/ipv4-entry[prefix=" ++ dest.text ++ "]/state/origin-protocol"

/-- The whole path. -/
def text (p : StatePath) : String :=
  "/network-instances/network-instance[name=" ++ p.inst ++ "]" ++ p.tail

end StatePath

end RoutePreference
