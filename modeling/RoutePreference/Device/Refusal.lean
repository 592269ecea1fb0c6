import RoutePreference.Aft.Entry
import RoutePreference.Harness.CallError

/-!
# Refused requests

* `Refusal`: why the device or the test equipment refuses a request;
* `Refusal.text`: the refusal in words;
* `Refusal.callError`: what the caller is told.
-/

namespace RoutePreference

/-- Why a request is refused. -/
inductive Refusal where
  | unknownPort (port : String)
  | unknownInterface (name : String)
  | unknownInstance (name : String)
  /-- Another network instance is the default one already. -/
  | defaultInstanceExists (name : String)
  | unknownFlow (name : String)
  | flowAlreadyRunning (name : String)
  | unknownSession (client : Nat)
  | sessionRefused (client : Nat) (reason : Failure)
deriving DecidableEq, Inhabited

namespace Refusal

/-- The refusal in words. -/
def text : Refusal → String
  | unknownPort _ => "unknown testbed port"
  | unknownInterface _ => "unknown ATE interface"
  | unknownInstance _ => "unknown network instance"
  | defaultInstanceExists _ => "default network instance already exists"
  | unknownFlow _ => "unknown traffic flow"
  | flowAlreadyRunning _ => "traffic flow already running"
  | unknownSession _ => "unknown gRIBI session"
  | sessionRefused _ _ => "gRIBI request rejected"

/-- What the caller is told. -/
def callError : Refusal → CallError
  | unknownPort port => .unknownPort port
  | unknownInterface name => .unknownInterface name
  | unknownInstance name => .unknownInstance name
  | defaultInstanceExists name =>
    .rejected ("default network instance " ++ name ++ " already exists")
  | unknownFlow name => .unknownFlow name
  | flowAlreadyRunning name => .flowAlreadyRunning name
  | unknownSession _ => .sessionClosed
  | sessionRefused _ reason => .rejected reason.text

end Refusal

end RoutePreference
