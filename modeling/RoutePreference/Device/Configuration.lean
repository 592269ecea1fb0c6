import RoutePreference.Device.State

/-!
# Configuring the device

* `Device.configureDut`, `Device.configureAte`: interfaces at the ports of the testbed;
* `Device.replaceInstance`, `Device.deleteInstance`: network instances, of which at most one is
  the default one;
* `Device.replaceStatic`, `Device.deleteStatic`: configured routes.

A refused request leaves the device as it is.
-/

namespace RoutePreference

/-- The route that a configured one stands for: each distinct address weighs one. -/
def StaticRoute.route (cfg : StaticRoute) : Route :=
  { tag := none
    group := none
    hops := Table.ofList (cfg.nextHops.values.map fun a => (a, 1)) }

namespace Device

/-- Configures an interface of the device.  A change of address or state can change which
next-hops are reached, so every destination is queued, with one token per network instance. -/
def configureDut (d : Device) (cfg : DutInterface) : Except Refusal Device :=
  let port := cfg.attrs.port
  if port ∉ d.settings.ports then .error (.unknownPort port)
  else
    let d' := { d with interfaces := d.interfaces.insert port cfg.interface }
    if d.interfaces.get? port = some cfg.interface then .ok d'
    else .ok { d' with
      instances := d.instances.mapValues fun _ i => { i with rib := i.rib.requeueAll }
      tokens := d.tokens + d.instances.entries.length }

/-- Configures an interface of the test equipment. -/
def configureAte (d : Device) (cfg : AteInterface) : Except Refusal Device :=
  let port := cfg.attrs.port
  if port ∉ d.settings.ports then .error (.unknownPort port)
  else
    let endpoint := { port, addr := cfg.attrs.cidr, gateway := cfg.gateway }
    .ok { d with generator :=
      { d.generator with
        endpoints := d.generator.endpoints.insert cfg.attrs.name endpoint } }

/-- Starts or stops the protocols of the test equipment. -/
def setProtocols (d : Device) (running : Bool) : Device :=
  { d with generator := { d.generator with protocolsRunning := running } }

/-! ### Network instances -/

/-- Whether a network instance other than the named one is the default one. -/
def otherDefault? (d : Device) (name : String) : Option String :=
  match d.defaultInstance? with
  | some (other, _) => if other = name then none else some other
  | none => none

/-- Creates a network instance or changes its type; its routes stay. -/
def replaceInstance (d : Device) (cfg : InstanceConfig) : Except Refusal Device :=
  match if cfg.type = .default then d.otherDefault? cfg.name else none with
  | some other => .error (.defaultInstanceExists other)
  | none =>
    let i := match d.instances.get? cfg.name with
      | some i => { i with type := cfg.type }
      | none => { type := cfg.type }
    .ok { d with instances := d.instances.insert cfg.name i }

/-- Deletes a network instance with everything in it. -/
def deleteInstance (d : Device) (name : String) : Except Refusal Device :=
  if d.instances.contains name then
    .ok { d with instances := d.instances.erase name, aft := d.aft.erase name }
  else .error (.unknownInstance name)

/-! ### Configured routes -/

/-- Configures a route, its host bits cleared.  Configuring the same route again changes
nothing. -/
def replaceStatic (d : Device) (cfg : StaticRoute) : Except Refusal Device :=
  match d.instances.get? cfg.inst with
  | none => .error (.unknownInstance cfg.inst)
  | some i =>
    let cfg := { cfg with dest := cfg.dest.masked }
    if i.statics.get? cfg.dest = some cfg then .ok d
    else
      let i := { i with statics := i.statics.insert cfg.dest cfg }
      let d := { d with instances := d.instances.insert cfg.inst i }
      .ok (d.changeRib cfg.inst fun rib => rib.install cfg.dest .static cfg.route)

/-- Removes a configured route, if there is one for the destination. -/
def deleteStatic (d : Device) (inst : String) (dest : Network) : Except Refusal Device :=
  match d.instances.get? inst with
  | none => .error (.unknownInstance inst)
  | some i =>
    let dest := dest.masked
    if i.statics.contains dest then
      let i := { i with statics := i.statics.erase dest }
      let d := { d with instances := d.instances.insert inst i }
      .ok (d.changeRib inst fun rib => rib.withdraw dest .static)
    else .ok d

end Device

end RoutePreference
