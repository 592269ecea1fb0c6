/-!
# Errors of calls to the testbed

* `CallError`: why a request to the device or the test equipment failed;
* `CallError.text`: the error in words.
-/

namespace RoutePreference

/-- Why a call failed. -/
inductive CallError where
  | unknownInstance (name : String)
  | unknownPort (port : String)
  | unknownInterface (name : String)
  | unknownFlow (name : String)
  | flowAlreadyRunning (name : String)
  | sessionClosed
  | rejected (reason : String)
  | unavailable
deriving DecidableEq, Inhabited

/-- The error in words. -/
def CallError.text : CallError → String
  | unknownInstance name => "network instance " ++ name ++ " not found"
  | unknownPort port => "port " ++ port ++ " not found"
  | unknownInterface name => "interface " ++ name ++ " not found"
  | unknownFlow name => "flow " ++ name ++ " not found"
  | flowAlreadyRunning name => "flow " ++ name ++ " is already running"
  | sessionClosed => "session is closed"
  | rejected reason => "request rejected: " ++ reason
  | unavailable => "device unavailable"

end RoutePreference
