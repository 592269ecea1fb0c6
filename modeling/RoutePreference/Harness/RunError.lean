import RoutePreference.Aft.Entry
import RoutePreference.Harness.CallError
import RoutePreference.Text.Elapsed
import RoutePreference.Text.Quoted
import RoutePreference.Traffic.Flow

/-!
# Failures of a verification run

* `RunError`: what can go wrong, with `RunError.text`, `RunError.source?` and `RunError.message`;
* `ErrorKind`: the category of a failure, `RunError.kind`;
* `LogEntry`, `RunError.logEntry`: the failure as it is logged.
-/

namespace RoutePreference

/-- The category of a failure. -/
inductive ErrorKind where
  | setup
  | programming
  | convergence
  | traffic
  | teardown
  | interrupted
deriving DecidableEq, Inhabited

namespace ErrorKind

/-- The category in lower case, as reports carry it. -/
def label : ErrorKind → String
  | setup => "setup"
  | programming => "programming"
  | convergence => "convergence"
  | traffic => "traffic"
  | teardown => "teardown"
  | interrupted => "interrupted"

/-- The category as a word that starts a line. -/
def title : ErrorKind → String
  | setup => "Setup"
  | programming => "Programming"
  | convergence => "Convergence"
  | traffic => "Traffic"
  | teardown => "Teardown"
  | interrupted => "Interrupted"

end ErrorKind

/-- What went wrong in a run. -/
inductive RunError where
  | provisioning (step : String) (error : CallError)
  | sessionOpen (error : CallError)
  | staticRoute (dest : Network) (error : CallError)
  | programmingRequest (entry : String) (error : CallError)
  | programmingFailed (entry : String) (reason : Failure)
  /-- No results came within so many milliseconds. -/
  | programmingTimeout (entry : String) (timeout : Nat)
  | notInstalledInFib (entry : String) (status : Status)
  | unacknowledgedReference (entry reference : String)
  | missingResult (entry : String)
  /-- A leaf did not take the expected value within so many milliseconds. -/
  | convergenceTimeout (path expected : String) (observed : Option String) (timeout : Nat)
  | telemetryRead (path : String) (error : CallError)
  | trafficLoss (flow : String) (loss : Binary32) (counters : FlowCounters)
  | noTrafficTransmitted (flow : String)
  | trafficControl (flow : String) (error : CallError)
  | teardown (step : String) (error : CallError)
  | interrupted
deriving DecidableEq, Inhabited

namespace RunError

/-- The category of the failure. -/
def kind : RunError → ErrorKind
  | provisioning .. | sessionOpen .. => .setup
  | staticRoute .. | programmingRequest .. | programmingFailed .. | programmingTimeout ..
  | notInstalledInFib .. | unacknowledgedReference .. | missingResult .. => .programming
  | convergenceTimeout .. | telemetryRead .. => .convergence
  | trafficLoss .. | noTrafficTransmitted .. | trafficControl .. => .traffic
  | teardown .. => .teardown
  | interrupted => .interrupted

/-- What stands for a leaf that isn't there. -/
def absent : String := "<absent>"

/-- The failure in words, without its cause. -/
def text : RunError → String
  | provisioning step _ => "failed to provision " ++ step
  | sessionOpen _ => "failed to open routing-control session"
  | staticRoute dest _ => "failed to install static route " ++ dest.text
  | programmingRequest entry _ => "failed to submit " ++ entry
  | programmingFailed entry reason => "device rejected " ++ entry ++ ": " ++ reason.text
  | programmingTimeout entry timeout =>
    entry ++ " not acknowledged within " ++ Elapsed.text timeout
  | notInstalledInFib entry status =>
    entry ++ " not installed in forwarding table (status " ++ status.text ++ ")"
  | unacknowledgedReference entry reference =>
    entry ++ " references unacknowledged " ++ reference
  | missingResult entry => "no programming result received for " ++ entry
  | convergenceTimeout path expected observed timeout =>
    path ++ " didn't converge within " ++ Elapsed.text timeout ++ ": expected " ++ expected
      ++ ", observed " ++ observed.getD absent
  | telemetryRead path _ => "failed to read " ++ path
  | trafficLoss flow loss counters =>
    "flow " ++ flow ++ " lost " ++ loss.text ++ "% of packets (tx " ++ toString counters.tx
      ++ " rx " ++ toString counters.rx ++ ")"
  | noTrafficTransmitted flow => "flow " ++ flow ++ " didn't transmit any packet"
  | trafficControl flow _ => "failed to control flow " ++ flow
  | teardown step _ => "teardown step failed: " ++ step
  | interrupted => "verification run interrupted"

/-- The error of the call that caused the failure, if one did. -/
def source? : RunError → Option CallError
  | provisioning _ e => some e
  | sessionOpen e => some e
  | staticRoute _ e => some e
  | programmingRequest _ e => some e
  | telemetryRead _ e => some e
  | trafficControl _ e => some e
  | teardown _ e => some e
  | _ => none

/-- The failure in words, its cause in parentheses. -/
def message (e : RunError) : String :=
  match e.source? with
  | some cause => e.text ++ " (" ++ cause.text ++ ")"
  | none => e.text

end RunError

/-! ### Logging -/

/-- How grave a log entry is. -/
inductive Severity where
  | error
  | warning
deriving DecidableEq, Inhabited

/-- The name of a severity in the log. -/
def Severity.text : Severity → String
  | error => "ERROR"
  | warning => "WARN"

/-- An entry of the log. -/
structure LogEntry where
  severity : Severity
  message : String
  fields : List (String × String)
deriving DecidableEq, Inhabited

namespace RunError

/-- What is logged beside the message. -/
def logFields : RunError → List (String × String)
  | provisioning step e => [("step", step), ("error", e.text)]
  | sessionOpen e => [("error", e.text)]
  | staticRoute dest e => [("prefix", dest.text), ("error", e.text)]
  | programmingRequest entry e => [("entry", entry), ("error", e.text)]
  | programmingFailed entry reason => [("entry", entry), ("reason", reason.text)]
  | programmingTimeout entry timeout => [("entry", entry), ("timeout", Elapsed.text timeout)]
  | notInstalledInFib entry status => [("entry", entry), ("status", status.text)]
  | unacknowledgedReference entry reference => [("entry", entry), ("reference", reference)]
  | missingResult entry => [("entry", entry)]
  | convergenceTimeout path expected observed timeout =>
    [("path", path), ("expected", expected), ("observed", Quoted.optional observed),
      ("timeout", Elapsed.text timeout)]
  | telemetryRead path e => [("path", path), ("error", e.text)]
  | trafficLoss flow loss counters =>
    [("flow", flow), ("loss_pct", loss.text), ("tx", toString counters.tx),
      ("rx", toString counters.rx)]
  | noTrafficTransmitted flow => [("flow", flow)]
  | trafficControl flow e => [("flow", flow), ("error", e.text)]
  | teardown step e => [("step", step), ("error", e.text)]
  | interrupted => []

/-- Failures of the teardown and interruptions are warnings, all others errors. -/
def severity : RunError → Severity
  | teardown .. | interrupted => .warning
  | _ => .error

/-- The failure as it is logged. -/
def logEntry (e : RunError) : LogEntry :=
  { severity := e.severity, message := e.text, fields := e.logFields }

end RunError

end RoutePreference
