import RoutePreference.Device.State

/-!
# Forwarding and generating traffic

* `Device.forward?`: the interface of the test equipment at which a packet arrives;
* `Device.startFlow`, `Device.stopFlow`, `Device.counters`: controlling a flow;
* `Device.batch`, `Device.transmit`: what a flow sends at each tick.
-/

namespace RoutePreference

namespace Generator

/-- The first interface, by name, that answers for the address at the port. -/
def neighbour? (g : Generator) (port : String) (a : Addr) : Option String :=
  if g.protocolsRunning then
    (g.endpoints.entries.find? fun e => e.2.port = port && e.2.addr.addr = a).map (·.1)
  else none

end Generator

namespace Device

/-- The port and the neighbour that the device hands a packet to: directly, if an interface
reaches the destination, else by the forwarding table of the default network instance. -/
def route? (d : Device) (dst : Addr) : Option (String × Addr) :=
  match d.interfaces.connected? dst with
  | some port => some (port, dst)
  | none =>
    d.defaultInstance?.bind fun e =>
      (e.2.rib.lookup? dst).bind fun entry =>
        (entry.select? dst).map fun hop => (hop.port, hop.addr)

/-- Whether packets of the named interface get into the device: its gateway has to be the
address of the enabled interface at its port. -/
def admits (d : Device) (source : String) : Bool :=
  match d.generator.endpoints.get? source with
  | none => false
  | some e =>
    d.generator.protocolsRunning &&
      match d.interfaces.get? e.port with
      | none => false
      | some ingress => ingress.enabled && ingress.addr.addr = e.gateway

/-- The interface of the test equipment at which a packet arrives, if it does. -/
def forward? (d : Device) (source : String) (dst : Addr) : Option String :=
  if d.admits source then
    (d.route? dst).bind fun (port, hop) => d.generator.neighbour? port hop
  else none

/-! ### Flows -/

/-- Replaces a flow under its name. -/
def setFlow (d : Device) (f : Flow) : Device :=
  { d with generator := { d.generator with flows := d.generator.flows.insert f.spec.name f } }

/-- Starts a flow with its counters at zero. -/
def startFlow (d : Device) (spec : FlowSpec) : Except Refusal Device :=
  match (spec.source :: spec.receivers).find? fun n => !d.generator.endpoints.contains n with
  | some missing => .error (.unknownInterface missing)
  | none =>
    if ((d.generator.flows.get? spec.name).bind (·.transmission)).isSome then
      .error (.flowAlreadyRunning spec.name)
    else
      let n := d.generator.started
      let d := { d with generator := { d.generator with started := n + 1 } }
      .ok (d.setFlow { spec, counters := .zero, transmission := some n })

/-- Stops a flow; its counters stay. -/
def stopFlow (d : Device) (name : String) : Except Refusal Device :=
  match d.generator.flows.get? name with
  | none => .error (.unknownFlow name)
  | some f => .ok (d.setFlow { f with transmission := none })

/-- What a flow has sent and what arrived. -/
def counters (d : Device) (name : String) : Except Refusal FlowCounters :=
  match d.generator.flows.get? name with
  | none => .error (.unknownFlow name)
  | some f => .ok f.counters

/-- How many packets a flow sends at a tick: its rate, at least one, at most what is left. -/
def batch (d : Device) (f : Flow) : Nat :=
  Nat.min (Nat.max (f.spec.rate * d.settings.tick / 1000) 1)
    (f.spec.packetCount - f.counters.tx)

/-- Whether the packet with the given number arrives where it should. -/
def delivers (d : Device) (spec : FlowSpec) (seq : Nat) : Bool :=
  match (spec.range.nth? seq).bind (d.forward? spec.source) with
  | some egress => egress ∈ spec.receivers
  | none => false

/-- A flow after one tick; with its last packet the transmission ends. -/
def advance (d : Device) (f : Flow) : Flow :=
  let n := d.batch f
  let arrived := (List.range n).countP fun i => d.delivers f.spec (f.counters.tx + i)
  let counters := { tx := f.counters.tx + n, rx := f.counters.rx + arrived }
  { f with
    counters
    transmission := if f.spec.packetCount ≤ counters.tx then none else f.transmission }

/-- Sends the next packets of the named flow, if it is running. -/
def transmit (d : Device) (name : String) : Device :=
  match d.generator.flows.get? name with
  | none => d
  | some f => if f.transmission.isSome then d.setFlow (d.advance f) else d

end Device

end RoutePreference
