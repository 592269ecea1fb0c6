import RoutePreference.Bench.Clock
import RoutePreference.Cli.Arguments
import RoutePreference.Config.Load
import RoutePreference.Harness.Run

/-!
# The program

* `Plan`: what the program is going to do, and `Plan.of`: how that follows from its arguments and
  its configuration file;
* `Verification`: runs of a scenario, one after the other on one testbed.
-/

namespace RoutePreference.Cli

/-! ### Texts -/

/-- The name and the version of the program. -/
def versionText : String := "Route preference verification harness 0.1.0\n"

/-- How the program is called. -/
def usageText : String := "USAGE:\n    fibcheck [FLAGS] [OPTIONS]\n"

/-- All that can be asked of the program. -/
def helpText : String :=
  versionText ++ "\n" ++ usageText ++ "\n" ++ String.intercalate "\n" [
    "FLAGS:",
    "    -h, --help       Prints help information",
    "        --json       Print run reports in JSON format.",
    "    -V, --version    Prints version information",
    "",
    "OPTIONS:",
    "    -c, --config <file>    Specify an alternative configuration file.",
    "    -n, --runs <count>     Number of consecutive runs (defaults to 1).",
    ""]

/-- A usage error with a reminder. -/
def usageErrorText (e : UsageError) : String :=
  e.text ++ "\n\n" ++ usageText ++ "\nFor more information try --help\n"

/-! ### Plans -/

/-- What the program is going to do. -/
inductive Plan where
  /-- To print a text and end. -/
  | print (text : String)
  /-- To complain and end. -/
  | refuse (complaint : String)
  /-- To verify a scenario so many times. -/
  | verify (config : Config) (runs : Nat) (json : Bool)

/-- How many runs are asked for, at least one. -/
def runCount? : Option String → Option Nat
  | none => some 1
  | some s => (Number.unsignedBelow? 0x100000000 s.toList).filter (0 < ·)

/-- The plan for a verification.  The configuration is read before the number of runs. -/
def planVerification (read : String → Except ReadError String) (path runs : Option String)
    (json : Bool) : Plan :=
  match Config.load read path with
  | .error e => .refuse (e.text ++ "\n")
  | .ok config =>
    match runCount? runs with
    | none => .refuse "invalid run count\n"
    | some n => .verify config n json

/-- The plan for the given arguments. -/
def Plan.of (read : String → Except ReadError String) (arguments : List String) : Plan :=
  match Arguments.parse arguments with
  | .error e => .refuse (usageErrorText e)
  | .ok .help => .print helpText
  | .ok .version => .print versionText
  | .ok (.verify path runs json) => planVerification read path runs json

/-! ### Runs -/

/-- Runs of a scenario on a testbed: how many were begun, and the testbed after them. -/
structure Verification where
  scenario : Scenario
  begun : Nat := 0
  bench : Bench

namespace Verification

/-- No run yet on a new testbed. -/
def start (config : Config) : Verification :=
  { scenario := config.scenario, bench := .start config.testbed }

/-- The next run.  There is no report of a run that never ends. -/
def next (v : Verification) : Option RunReport × Verification :=
  let (report, bench) :=
    Run.execute Bench.surroundings v.scenario (v.begun + 1) none v.bench
  (report, { v with begun := v.begun + 1, bench })

/-- The next runs. -/
def nextRuns : Nat → Verification → List RunReport
  | 0, _ => []
  | n + 1, v =>
    let (report, v) := v.next
    report.toList ++ nextRuns n v

end Verification

/-- A report as it is printed. -/
def reportText (json : Bool) (r : RunReport) : String :=
  if json then r.toValue.render ++ "\n" else r.text

/-- The status that the program ends with after these runs. -/
def statusOf (reports : List RunReport) : Nat := if reports.all (·.passed) then 0 else 1

end RoutePreference.Cli
