import RoutePreference.Data.Value
import RoutePreference.Harness.RunError
import RoutePreference.Text.Timestamp

/-!
# Reports of runs

* `RunState`: how far a run got; the states follow each other in this order;
* `Observation`: a value that the run has seen;
* `RunReport`: the outcome of a run, with `RunReport.passed`, `RunReport.text` and
  `RunReport.toValue`.
-/

namespace RoutePreference

/-- How far a run got. -/
inductive RunState where
  | unconfigured
  | provisioned
  | staticInstalled
  | staticVerified
  | dynamicInstalled
  | dynamicVerified
  | trafficValidated
  | tornDown
deriving DecidableEq, Inhabited, Ord

/-- The name of a state. -/
def RunState.text : RunState → String
  | unconfigured => "unconfigured"
  | provisioned => "provisioned"
  | staticInstalled => "static-installed"
  | staticVerified => "static-verified"
  | dynamicInstalled => "dynamic-installed"
  | dynamicVerified => "dynamic-verified"
  | trafficValidated => "traffic-validated"
  | tornDown => "torn-down"

/-- A value seen in the course of a run. -/
structure Observation where
  /-- The state that the run was about to reach. -/
  step : RunState
  subject : String
  value : Option String
deriving DecidableEq, Inhabited

/-- Why a run failed. -/
structure RunFailure where
  kind : ErrorKind
  message : String
deriving DecidableEq, Inhabited

/-- A failure as reports carry it. -/
def RunError.failure (e : RunError) : RunFailure := { kind := e.kind, message := e.message }

/-- The outcome of a run. -/
structure RunReport where
  run : Nat
  started : Timestamp
  finished : Timestamp
  /-- The last state before the teardown. -/
  reached : RunState
  finalState : RunState
  failure : Option RunFailure
  teardownErrors : List String
  observations : List Observation
deriving DecidableEq, Inhabited

namespace RunReport

/-- A run passes unless it fails; errors of the teardown don't count. -/
def passed (r : RunReport) : Bool := r.failure.isNone

/-- The report of a run at so much later a time. -/
def after (r : RunReport) (start : Timestamp) : RunReport :=
  { r with
    started := ⟨start.micros + r.started.micros⟩
    finished := ⟨start.micros + r.finished.micros⟩ }

/-- The line of an observation. -/
def observationLine (o : Observation) : String :=
  "  [" ++ o.step.text ++ "] " ++ o.subject ++ " = " ++ o.value.getD RunError.absent ++ "\n"

/-- The report in lines of text. -/
def text (r : RunReport) : String :=
  "run " ++ toString r.run ++ ": " ++ (if r.passed then "PASSED" else "FAILED") ++ " (reached "
    ++ r.reached.text ++ ", " ++ toString (r.finished.millisSince r.started) ++ " ms)\n"
    ++ String.join (r.observations.map observationLine)
    ++ (match r.failure with
      | some f => "  " ++ f.kind.title ++ " failure: " ++ f.message ++ "\n"
      | none => "")
    ++ (if r.teardownErrors.isEmpty then ""
      else "  teardown errors: " ++ String.intercalate "; " r.teardownErrors ++ "\n")

/-- An observation as data. -/
def observationValue (o : Observation) : Value :=
  .table [("step", .string o.step.text), ("subject", .string o.subject),
    ("value", .ofOption (o.value.map .string))]

/-- The report as data. -/
def toValue (r : RunReport) : Value :=
  .table [
    ("run", .nat r.run),
    ("started", .string r.started.text),
    ("finished", .string r.finished.text),
    ("reached", .string r.reached.text),
    ("final_state", .string r.finalState.text),
    ("failure", .ofOption (r.failure.map fun f =>
      .table [("kind", .string f.kind.label), ("message", .string f.message)])),
    ("teardown_errors", .list (r.teardownErrors.map .string)),
    ("observations", .list (r.observations.map observationValue))]

end RunReport

end RoutePreference
