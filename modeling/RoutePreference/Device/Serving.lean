import RoutePreference.Device.Configuration
import RoutePreference.Device.Generation
import RoutePreference.Device.Programming
import RoutePreference.Telemetry.Path

/-!
# Serving requests

* `Device.read?`: the value of a leaf of the state;
* `Request`, `Answer`: what can be asked of the testbed, and what it says;
* `Device.serve`: one request;
* `Device.process`: the work that tokens call for: routes are chosen anew, then the withheld
  results are sent.
-/

namespace RoutePreference

namespace Device

/-- The value of a leaf, if it is there.  Host bits of the destination don't matter; a configured
route shows only under its own protocol instance. -/
def read? (d : Device) (path : StatePath) : Option String :=
  (d.instances.get? path.inst).bind fun i =>
    match path with
    | .instanceType _ => some i.type.text
    | .staticRoute _ name dest =>
      (i.statics.get? dest.masked).bind fun r =>
        if r.protocolName = name then some dest.masked.text else none
    | .aftPrefix _ dest => (i.rib.fib.get? dest.masked).map fun _ => dest.masked.text
    | .aftOrigin _ dest => (i.rib.fib.get? dest.masked).map fun e => e.channel.protocol.text

end Device

/-- A request to the testbed. -/
inductive Request where
  | configureDut (cfg : DutInterface)
  | configureAte (cfg : AteInterface)
  | setProtocols (running : Bool)
  | replaceInstance (cfg : InstanceConfig)
  | deleteInstance (name : String)
  | replaceStatic (cfg : StaticRoute)
  | deleteStatic (inst : String) (dest : Network)
  | openSession (params : SessionParams)
  | modify (client : Nat) (ops : List Operation)
  | flush (client : Nat) (inst : String)
  | close (client : Nat)
  | read (path : StatePath)
  | startFlow (spec : FlowSpec)
  | stopFlow (name : String)
  | counters (name : String)
  /-- The next transmission of a flow is due. -/
  | tick (name : String)
deriving DecidableEq, Inhabited

/-- What the testbed says to a request. -/
inductive Answer where
  | done (r : Except Refusal Unit)
  | session (client : Nat)
  | results (r : Except Refusal (List OperationResult))
  | leaf (value : Option String)
  | counters (r : Except Refusal FlowCounters)

namespace Device

/-- The device after a change, or as it was after a refused one, and the word of it. -/
def settled (d : Device) : Except Refusal Device → Device × Option Answer
  | .ok d' => (d', some (.done (.ok ())))
  | .error e => (d, some (.done (.error e)))

/-- Serves a request.  A tick is answered by nobody, and so is, for now, a list of operations
whose results are withheld. -/
def serve (d : Device) (ticket : Nat) : Request → Device × Option Answer
  | .configureDut cfg => d.settled (d.configureDut cfg)
  | .configureAte cfg => d.settled (d.configureAte cfg)
  | .setProtocols running => d.settled (.ok (d.setProtocols running))
  | .replaceInstance cfg => d.settled (d.replaceInstance cfg)
  | .deleteInstance name => d.settled (d.deleteInstance name)
  | .replaceStatic cfg => d.settled (d.replaceStatic cfg)
  | .deleteStatic inst dest => d.settled (d.deleteStatic inst dest)
  | .openSession params =>
    let (d, client) := d.openSession params
    (d, some (.session client))
  | .modify client ops =>
    let (d, r) := d.submit ticket client ops
    (d, r.map .results)
  | .flush client inst => d.settled (d.flush client inst)
  | .close client => d.settled (d.close client)
  | .read path => (d, some (.leaf (d.read? path)))
  | .startFlow spec => d.settled (d.startFlow spec)
  | .stopFlow name => d.settled (d.stopFlow name)
  | .counters name => (d, some (.counters (d.counters name)))
  | .tick name => (d.transmit name, none)

/-- Does the work that tokens call for, and uses up all of them. -/
def process (d : Device) : Device × List (Nat × Answer) :=
  let d := { d.settleRoutes with tokens := 0 }
  let (d, paid) := d.payOwed
  (d, paid.map fun (ticket, results) => (ticket, .results (.ok results)))

end Device

end RoutePreference
