import RoutePreference.Net.Network
import RoutePreference.Table

/-!
# Forwarding entries

* `NextHop`, `NextHopGroup`, `Ipv4Entry`: the entries that a routing-control session programs;
  an IPv4 entry resolves through a group, and a group through its member next-hops;
* `AftEntry`: one of the three, with its network instance, kind, key and text;
* `Operation`, `Status`, `Failure`, `OperationResult`: what is asked for, and what came of it.
-/

namespace RoutePreference

/-- A neighbour that packets can be sent to. -/
structure NextHop where
  index : Nat
  address : Addr
  /-- The network instance that holds the entry. -/
  inst : String
deriving DecidableEq, Inhabited

/-- A weighted choice between next-hops. -/
structure NextHopGroup where
  id : Nat
  /-- The relative weight of each member, by next-hop index. -/
  members : Table Nat Nat
  /-- The network instance that holds the entry. -/
  inst : String
deriving DecidableEq, Inhabited

/-- A destination network and the group that packets for it are sent through. -/
structure Ipv4Entry where
  dest : Network
  /-- The identifier of the group. -/
  group : Nat
  /-- The network instance that holds the entry. -/
  inst : String
  /-- The network instance that holds the group, if it is another one. -/
  groupInst : Option String
  tag : Option String
deriving DecidableEq, Inhabited

/-- The network instance that the entry's group is looked up in. -/
def Ipv4Entry.groupHome (e : Ipv4Entry) : String := e.groupInst.getD e.inst

/-- An entry of any kind. -/
inductive AftEntry where
  | nextHop (entry : NextHop)
  | nextHopGroup (entry : NextHopGroup)
  | ipv4 (entry : Ipv4Entry)
deriving DecidableEq, Inhabited

namespace AftEntry

/-- The network instance that holds the entry. -/
def inst : AftEntry → String
  | nextHop e => e.inst
  | nextHopGroup e => e.inst
  | ipv4 e => e.inst

/-- A short name of the entry's kind. -/
def kind : AftEntry → String
  | nextHop _ => "next-hop"
  | nextHopGroup _ => "next-hop-group"
  | ipv4 _ => "ipv4-entry"

/-- What tells the entry from others of its kind in the same network instance. -/
def key : AftEntry → String
  | nextHop e => toString e.index
  | nextHopGroup e => toString e.id
  | ipv4 e => e.dest.text

/-- The kind, the key in brackets, and the network instance. -/
def text (e : AftEntry) : String := e.kind ++ "[" ++ e.key ++ "]@" ++ e.inst

end AftEntry

/-! ### Operations and their results -/

/-- What to do with an entry. -/
inductive Verb where
  | add
  | replace
  | delete
deriving DecidableEq, Inhabited

/-- A numbered request to change one entry. -/
structure Operation where
  id : Nat
  verb : Verb
  entry : AftEntry
deriving DecidableEq, Inhabited

/-- Why an operation was refused. -/
inductive Failure where
  /-- Another session holds the highest election identifier. -/
  | notPrimary
  /-- There is no such network instance. -/
  | unknownInstance
  /-- A next-hop or group that the entry refers to isn't programmed. -/
  | missingReference
  /-- Another entry still refers to the entry. -/
  | inUse
  /-- The entry is malformed or isn't there. -/
  | invalidEntry
deriving DecidableEq, Inhabited

/-- The reason in words. -/
def Failure.text : Failure → String
  | notPrimary => "not primary"
  | unknownInstance => "unknown network instance"
  | missingReference => "referenced entry not programmed"
  | inUse => "entry still referenced"
  | invalidEntry => "invalid entry"

/-- How far an operation got. -/
inductive Status where
  /-- The entry was accepted into the routing table. -/
  | ribProgrammed
  /-- The entry is used for forwarding. -/
  | fibProgrammed
  | failed (reason : Failure)
deriving DecidableEq, Inhabited

/-- The status in words. -/
def Status.text : Status → String
  | ribProgrammed => "RIB_PROGRAMMED"
  | fibProgrammed => "FIB_PROGRAMMED"
  | failed reason => "FAILED (" ++ reason.text ++ ")"

/-- The status of the operation with the given number. -/
structure OperationResult where
  id : Nat
  status : Status
deriving DecidableEq, Inhabited

end RoutePreference
