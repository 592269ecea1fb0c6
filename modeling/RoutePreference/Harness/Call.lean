import RoutePreference.Aft.Session
import RoutePreference.Harness.CallError
import RoutePreference.Telemetry.Path
import RoutePreference.Topology.Config
import RoutePreference.Traffic.Flow

/-!
# Calls to the testbed

* `Call`: what a verification asks of the topology, the device, its routing-control sessions, its
  telemetry and the traffic generator;
* `Call.Value`: what a successful call returns, `Call.Reply`: that or an error;
* `Call.name`: the name of a call.
-/

namespace RoutePreference

/-- A call to one of the collaborators of a verification. -/
inductive Call where
  | configureDut (cfg : DutInterface)
  | configureAte (cfg : AteInterface)
  | startProtocols
  | stopProtocols
  | replaceInstance (cfg : InstanceConfig)
  | deleteInstance (name : String)
  | replaceStatic (cfg : StaticRoute)
  | deleteStatic (inst : String) (dest : Network)
  | openSession (params : SessionParams)
  | modify (session : Nat) (ops : List Operation)
  | flush (session : Nat) (inst : String)
  | close (session : Nat)
  | read (path : StatePath)
  | startFlow (spec : FlowSpec)
  | stopFlow (flow : String)
  | counters (flow : String)
  | loss (flow : String)
deriving DecidableEq, Inhabited

namespace Call

/-- What a successful call returns; an opened session is returned by its number. -/
def Value : Call → Type
  | openSession _ => Nat
  | modify _ _ => List OperationResult
  | read _ => Option String
  | counters _ => FlowCounters
  | loss _ => Binary32
  | _ => Unit

/-- What a call returns. -/
abbrev Reply (c : Call) : Type := Except CallError c.Value

/-- The name of the call. -/
def name : Call → String
  | configureDut _ => "dut_interface"
  | configureAte _ => "ate_interface"
  | startProtocols => "start_protocols"
  | stopProtocols => "stop_protocols"
  | replaceInstance _ => "replace_instance"
  | deleteInstance _ => "delete_instance"
  | replaceStatic _ => "replace_static"
  | deleteStatic _ _ => "delete_static"
  | openSession _ => "open"
  | modify _ _ => "modify"
  | flush _ _ => "flush"
  | close _ => "close"
  | read _ => "get"
  | startFlow _ => "start_flow"
  | stopFlow _ => "stop_flow"
  | counters _ => "counters"
  | loss _ => "loss"

end Call

end RoutePreference
