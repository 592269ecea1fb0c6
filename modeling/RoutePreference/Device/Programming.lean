import RoutePreference.Device.State

/-!
# Routing-control sessions

* `Device.primary?`: the session that may program entries, the one with the highest election
  identifier and among equals the one opened first;
* `Device.entryRoute?`: the route that an IPv4 entry stands for;
* `Device.apply`: one operation, with the forwarding entry that it should lead to;
* `Device.submit`: a list of operations, each on the outcome of those before it;
* `Device.flush`, `Device.close`: removing entries in bulk;
* `Device.payOwed`: the withheld results, once the forwarding table is programmed.

An entry may be added only if all that it refers to is there.  A next-hop or group that changes
takes along the routes of every IPv4 entry that resolves through it.  A failed operation leaves
the device as it is.
-/

namespace RoutePreference

namespace Device

/-! ### Election -/

/-- Whether the first session is preferred over the second: a higher identifier wins. -/
def outranks (a b : SessionParams) : Bool := compare a.electionId b.electionId = .gt

/-- The preferred one of the listed sessions, the first one among equals. -/
def preferred? : List (Nat × SessionParams) → Option (Nat × SessionParams)
  | [] => none
  | e :: rest =>
    match preferred? rest with
    | some m => if outranks m.2 e.2 then some m else some e
    | none => some e

/-- The session that may program entries. -/
def primary? (d : Device) : Option Nat := (preferred? d.sessions.entries).map (·.1)

/-- Whether the session may program entries. -/
def isPrimary (d : Device) (client : Nat) : Bool := d.primary? = some client

/-- Opens a session under a new number. -/
def openSession (d : Device) (params : SessionParams) : Device × Nat :=
  let client := d.lastClient + 1
  ({ d with lastClient := client, sessions := d.sessions.insert client params }, client)

/-! ### References between entries -/

/-- Replaces the entries programmed in a network instance. -/
def setAft (d : Device) (inst : String) (t : AftTables) : Device :=
  { d with aft := d.aft.insert inst t }

/-- Every programmed IPv4 entry, in whatever network instance. -/
def ipv4Entries (d : Device) : List Ipv4Entry := d.aft.values.flatMap (·.ipv4.values)

/-- The IPv4 entries that resolve through a group. -/
def usersOf (d : Device) (home : String) (group : Nat) : List Ipv4Entry :=
  d.ipv4Entries.filter fun e => e.group = group && e.groupHome = home

/-- Adds the weight of a member to that of its address. -/
def addWeight (hops : Table Addr Nat) (a : Addr) (weight : Nat) : Table Addr Nat :=
  hops.insert a ((hops.get? a).getD 0 + weight)

/-- The addresses of the members with their weights, those of equal addresses added up; nothing
if some member isn't programmed. -/
def memberHops? (nextHops : Table Nat NextHop) (members : List (Nat × Nat)) :
    Option (Table Addr Nat) :=
  members.foldlM (fun hops m => (nextHops.get? m.1).map fun h => addWeight hops h.address m.2) ∅

/-- The route that an IPv4 entry stands for, if its group and all members are programmed. -/
def entryRoute? (d : Device) (e : Ipv4Entry) : Option Route :=
  let t := d.aftOf e.groupHome
  (t.groups.get? e.group).bind fun g =>
    (memberHops? t.nextHops g.members.entries).map fun hops =>
      { tag := e.tag, group := some g.id, hops }

/-- Installs the current route of an IPv4 entry, if it has one. -/
def reroute (d : Device) (e : Ipv4Entry) : Device :=
  match d.entryRoute? e with
  | some route => d.changeRib e.inst fun rib => rib.install e.dest .gribi route
  | none => d

/-- Installs the current routes of the entries that resolve through one of the groups. -/
def refresh (d : Device) (home : String) (groups : List Nat) : Device :=
  (groups.flatMap (d.usersOf home)).foldl reroute d

/-! ### Operations -/

/-- Adds or replaces a next-hop. -/
def addNextHop (d : Device) (h : NextHop) : Except Failure Device :=
  if !h.address.isUsable then .error .invalidEntry
  else
    let t := d.aftOf h.inst
    let d := d.setAft h.inst { t with nextHops := t.nextHops.insert h.index h }
    match t.nextHops.get? h.index with
    | some old =>
      if old = h then .ok d
      else
        let groups := t.groups.values.filter fun g => g.members.contains h.index
        .ok (d.refresh h.inst (groups.map (·.id)))
    | none => .ok d

/-- Adds or replaces a group. -/
def addGroup (d : Device) (g : NextHopGroup) : Except Failure Device :=
  let t := d.aftOf g.inst
  if g.members.isEmpty then .error .invalidEntry
  else if g.members.keys.any fun index => !t.nextHops.contains index then
    .error .missingReference
  else
    let d := d.setAft g.inst { t with groups := t.groups.insert g.id g }
    match t.groups.get? g.id with
    | some old => if old = g then .ok d else .ok (d.refresh g.inst [g.id])
    | none => .ok d

/-- Adds or replaces an IPv4 entry. -/
def addIpv4 (d : Device) (e : Ipv4Entry) : Except Failure Device :=
  if !e.dest.isMasked then .error .invalidEntry
  else if !d.instances.contains e.groupHome then .error .unknownInstance
  else
    match d.entryRoute? e with
    | none => .error .missingReference
    | some route =>
      let t := d.aftOf e.inst
      let d := d.setAft e.inst { t with ipv4 := t.ipv4.insert e.dest e }
      .ok (d.changeRib e.inst fun rib => rib.install e.dest .gribi route)

/-- Deletes a next-hop that no group of its network instance has as a member. -/
def deleteNextHop (d : Device) (h : NextHop) : Except Failure Device :=
  let t := d.aftOf h.inst
  if !t.nextHops.contains h.index then .error .invalidEntry
  else if t.groups.values.any fun g => g.members.contains h.index then .error .inUse
  else .ok (d.setAft h.inst { t with nextHops := t.nextHops.erase h.index })

/-- Deletes a group that no IPv4 entry resolves through. -/
def deleteGroup (d : Device) (g : NextHopGroup) : Except Failure Device :=
  let t := d.aftOf g.inst
  if !(d.usersOf g.inst g.id).isEmpty then .error .inUse
  else if !t.groups.contains g.id then .error .invalidEntry
  else .ok (d.setAft g.inst { t with groups := t.groups.erase g.id })

/-- Deletes an IPv4 entry. -/
def deleteIpv4 (d : Device) (e : Ipv4Entry) : Except Failure Device :=
  let t := d.aftOf e.inst
  if !t.ipv4.contains e.dest then .error .invalidEntry
  else
    let d := d.setAft e.inst { t with ipv4 := t.ipv4.erase e.dest }
    .ok (d.changeRib e.inst fun rib => rib.withdraw e.dest .gribi)

/-- What a successful operation on the entry leads to in the forwarding table. -/
def target? : Verb → AftEntry → Option Target
  | .delete, _ => none
  | _, .ipv4 e => some { inst := e.inst, dest := e.dest }
  | _, _ => none

/-- Carries out an operation on an entry of an existing network instance. -/
def apply (d : Device) (op : Operation) : Except Failure Device :=
  if !d.instances.contains op.entry.inst then .error .unknownInstance
  else
    match op.verb, op.entry with
    | .delete, .nextHop h => d.deleteNextHop h
    | .delete, .nextHopGroup g => d.deleteGroup g
    | .delete, .ipv4 e => d.deleteIpv4 e
    | _, .nextHop h => d.addNextHop h
    | _, .nextHopGroup g => d.addGroup g
    | _, .ipv4 e => d.addIpv4 e

/-! ### Requests of a session -/

/-- Carries out one operation of a session. -/
def perform (primary : Bool) (d : Device) (op : Operation) : Device × Provisional :=
  match if primary then d.apply op else .error .notPrimary with
  | .ok d =>
    (d, { result := { id := op.id, status := .ribProgrammed }, target := target? op.verb op.entry })
  | .error reason => (d, { result := { id := op.id, status := .failed reason }, target := none })

/-- Carries out the operations one after the other. -/
def performAll (primary : Bool) (d : Device) : List Operation → Device × List Provisional
  | [] => (d, [])
  | op :: ops =>
    let (d, r) := perform primary d op
    let (d, rs) := performAll primary d ops
    (d, r :: rs)

/-- Carries out the operations of a session.  The results are returned at once, or withheld for
the given ticket until the forwarding table is programmed. -/
def submit (d : Device) (ticket client : Nat) (ops : List Operation) :
    Device × Option (Except Refusal (List OperationResult)) :=
  match d.sessions.get? client with
  | none => (d, some (.error (.unknownSession client)))
  | some params =>
    let (d, results) := performAll (d.isPrimary client) d ops
    match params.ackMode with
    | .rib => (d, some (.ok (results.map (·.result))))
    | .ribAndFib =>
      ({ d with owed := d.owed ++ [{ client, ticket, results }], tokens := d.tokens + 1 }, none)

/-- Removes every entry programmed in a network instance and withdraws their routes. -/
def flushInstance (d : Device) (inst : String) : Device :=
  match d.aft.get? inst with
  | none => d
  | some t =>
    t.ipv4.keys.foldl (fun d dest => d.changeRib inst fun rib => rib.withdraw dest .gribi)
      { d with aft := d.aft.erase inst }

/-- Removes the entries of a network instance on behalf of the primary session. -/
def flush (d : Device) (client : Nat) (inst : String) : Except Refusal Device :=
  if !d.sessions.contains client then .error (.unknownSession client)
  else if !d.isPrimary client then .error (.sessionRefused client .notPrimary)
  else if !d.instances.contains inst then .error (.unknownInstance inst)
  else .ok (d.flushInstance inst)

/-- Closes a session.  If it was the primary one and not persistent, all entries go with it. -/
def close (d : Device) (client : Nat) : Except Refusal Device :=
  match d.sessions.get? client with
  | none => .error (.unknownSession client)
  | some params =>
    let d' := { d with sessions := d.sessions.erase client }
    if d.isPrimary client && !params.persistence then .ok (d'.aft.keys.foldl flushInstance d')
    else .ok d'

/-! ### Withheld results -/

/-- Whether forwarding shows what an operation should lead to. -/
def isForwarding (d : Device) : Option Target → Bool
  | none => true
  | some t =>
    match (d.instances.get? t.inst).bind fun i => i.rib.route? t.dest .gribi with
    | some route => route.active
    | none => false

/-- The result of an operation after the forwarding table was programmed. -/
def settleResult (d : Device) (p : Provisional) : OperationResult :=
  if p.result.status = .ribProgrammed && d.isForwarding p.target then
    { p.result with status := .fibProgrammed }
  else p.result

/-- The withheld results, each with the ticket of the request that waits. -/
def payOwed (d : Device) : Device × List (Nat × List OperationResult) :=
  ({ d with owed := [] }, d.owed.map fun o => (o.ticket, o.results.map d.settleResult))

end Device

end RoutePreference
