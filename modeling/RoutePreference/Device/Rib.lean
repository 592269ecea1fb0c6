import RoutePreference.Device.Forwarding

/-!
# The routing table of a network instance

* `Route`, `Candidates`: the routes that the channels hold for one destination;
* `Rib`: the candidates of every destination, the forwarding table made from them, and the
  destinations that wait for a new choice;
* `Rib.install`, `Rib.withdraw`, `Rib.requeueAll`: changes, each with whether it calls for
  processing;
* `Rib.settle`: makes the choice anew for the waiting destinations.

A withdrawn route stays, marked, until its destination is processed.  The chosen route is the
first one, in order of preference, that has a next-hop reached through an enabled interface.
-/

namespace RoutePreference

/-- A route that one channel holds for a destination. -/
structure Route where
  tag : Option String
  /-- The group that the next-hops come from, for a programmed route. -/
  group : Option Nat
  /-- The relative weight of each next-hop address. -/
  hops : Table Addr Nat
  /-- Whether the route is the one used for forwarding. -/
  active : Bool := false
  /-- Whether the route was withdrawn since its destination was last processed. -/
  removed : Bool := false
deriving DecidableEq, Inhabited

/-- Whether two routes send packets the same way under the same names. -/
def Route.agrees (r s : Route) : Bool := r.tag = s.tag && r.group = s.group && r.hops = s.hops

/-- The next-hops that are reached through some interface, with their ports. -/
def Route.resolve (ifs : Interfaces) (r : Route) : List Hop :=
  r.hops.entries.filterMap fun e =>
    (ifs.connected? e.1).map fun port => { addr := e.1, port, weight := e.2 }

/-! ### Candidates -/

/-- The routes of both channels for one destination. -/
structure Candidates where
  static : Option Route := none
  gribi : Option Route := none
deriving DecidableEq, Inhabited

namespace Candidates

/-- The route of a channel. -/
def get (n : Candidates) : Channel → Option Route
  | .static => n.static
  | .gribi => n.gribi

/-- Replaces the route of a channel. -/
def set (n : Candidates) (c : Channel) (r : Option Route) : Candidates :=
  match c with
  | .static => { n with static := r }
  | .gribi => { n with gribi := r }

/-- Changes both routes, where they are present. -/
def mapRoutes (n : Candidates) (f : Channel → Route → Route) : Candidates :=
  { static := n.static.map (f .static), gribi := n.gribi.map (f .gribi) }

/-- Forgets the withdrawn routes. -/
def dropRemoved (n : Candidates) : Candidates :=
  { static := n.static.filter (!·.removed), gribi := n.gribi.filter (!·.removed) }

/-- Whether no channel holds a route. -/
def isEmpty (n : Candidates) : Bool := n.static.isNone && n.gribi.isNone

/-- What forwarding becomes if the channel is chosen: nothing unless it holds a route with a
reachable next-hop. -/
def entryOf (ifs : Interfaces) (n : Candidates) (c : Channel) : Option FibEntry :=
  (n.get c).bind fun r =>
    match r.resolve ifs with
    | [] => none
    | hops => some { channel := c, group := r.group, hops }

/-- The forwarding entry of the first channel, in order of preference, that yields one. -/
def choose (order : List Channel) (ifs : Interfaces) (n : Candidates) : Option FibEntry :=
  order.findSome? (n.entryOf ifs)

@[simp] theorem get_set_self (n : Candidates) (c : Channel) (r : Option Route) :
    (n.set c r).get c = r := by cases c <;> rfl

theorem get_set_of_ne (n : Candidates) {c d : Channel} (h : c ≠ d) (r : Option Route) :
    (n.set c r).get d = n.get d := by
  cases c <;> cases d <;> first | rfl | exact absurd rfl h

@[simp] theorem get_mapRoutes (n : Candidates) (f : Channel → Route → Route) (c : Channel) :
    (n.mapRoutes f).get c = (n.get c).map (f c) := by cases c <;> rfl

@[simp] theorem get_dropRemoved (n : Candidates) (c : Channel) :
    n.dropRemoved.get c = (n.get c).filter (!·.removed) := by cases c <;> rfl

end Candidates

/-! ### The table -/

/-- The routes of a network instance and the forwarding table made from them. -/
structure Rib where
  routes : Table Network Candidates := ∅
  fib : Table Network FibEntry := ∅
  /-- The destinations whose choice has to be made anew. -/
  queue : Keys Network := ∅
deriving DecidableEq, Inhabited

namespace Rib

/-- The candidates for a destination. -/
def candidates (rib : Rib) (dest : Network) : Candidates := (rib.routes.get? dest).getD {}

/-- The route of a channel for a destination. -/
def route? (rib : Rib) (dest : Network) (c : Channel) : Option Route :=
  (rib.candidates dest).get c

/-- Puts a route in place and queues its destination. -/
def store (rib : Rib) (dest : Network) (c : Channel) (r : Route) : Rib :=
  { rib with
    routes := rib.routes.insert dest ((rib.candidates dest).set c (some r))
    queue := rib.queue.add dest }

/-- Installs a route.  A route that agrees with the one in place changes nothing; otherwise the
new one takes its place, is no longer withdrawn, and stays active if it was. -/
def install (rib : Rib) (dest : Network) (c : Channel) (new : Route) : Rib × Bool :=
  match rib.route? dest c with
  | none => (rib.store dest c new, true)
  | some old =>
    if !old.removed && old.agrees new then (rib, false)
    else (rib.store dest c { new with active := old.active, removed := false }, true)

/-- Marks a route as withdrawn, if there is one. -/
def withdraw (rib : Rib) (dest : Network) (c : Channel) : Rib × Bool :=
  match rib.route? dest c with
  | none => (rib, false)
  | some old => (rib.store dest c { old with removed := true }, true)

/-- Queues every destination. -/
def requeueAll (rib : Rib) : Rib := { rib with queue := rib.queue.addAll rib.routes.keys }

/-- Makes the choice for one destination: withdrawn routes go, the first usable one is used for
forwarding, and a destination without routes is forgotten. -/
def process (order : List Channel) (ifs : Interfaces) (rib : Rib) (dest : Network) : Rib :=
  match rib.routes.get? dest with
  | none => { rib with fib := rib.fib.erase dest }
  | some node =>
    let node := node.dropRemoved
    let best := node.choose order ifs
    let node := node.mapRoutes fun c r => { r with active := best.map (·.channel) = some c }
    { rib with
      routes := if node.isEmpty then rib.routes.erase dest else rib.routes.insert dest node
      fib :=
        match best with
        | some entry => rib.fib.insert dest entry
        | none => rib.fib.erase dest }

/-- Makes the choice for every waiting destination. -/
def settle (order : List Channel) (ifs : Interfaces) (rib : Rib) : Rib :=
  { rib.queue.keys.foldl (process order ifs) rib with queue := ∅ }

/-- The forwarding entry for an address. -/
def lookup? (rib : Rib) (a : Addr) : Option FibEntry :=
  (longestMatch? a rib.fib.entries).map (·.2)

end Rib

end RoutePreference
