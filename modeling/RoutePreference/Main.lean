import RoutePreference.Cli.Program
import Std.Time.DateTime.Timestamp

/-!
# The command line

`main` reads the configuration file, carries out the runs, and prints their reports at the times
at which they are over.
-/

namespace RoutePreference.Cli

/-- The number of a system error, which may come with either sign. -/
def systemNumber (code : UInt32) : Nat := Nat.min code.toNat (0x100000000 - code.toNat)

/-- Why the system refused to read a file. -/
def readErrorOf : IO.Error → ReadError
  | .noFileOrDirectory .. | .noSuchThing .. => .notFound
  | .permissionDenied .. => .notPermitted
  | .inappropriateType _ code _ =>
    if systemNumber code = 21 then .isADirectory else .notADirectory
  | .invalidArgument _ code _ =>
    if systemNumber code = 36 then .nameTooLong else .badName
  | e => .other e.toString

/-- Reads a file of text. -/
def readText (path : String) : IO (Except ReadError String) := do
  try
    match String.fromUTF8? (← IO.FS.readBinFile path) with
    | some text => return .ok text
    | none => return .error .notText
  catch e =>
    return .error (readErrorOf e)

/-- The file that the arguments name, or the standard one. -/
def fileOf (arguments : List String) : String :=
  match Arguments.parse arguments with
  | .ok (.verify (some path) _ _) => path
  | _ => Config.standardPath

/-- Carries out the next runs, each of which ends at its time after the start. -/
def verify (json : Bool) (start : Timestamp) (passed : Bool) (v : Verification) :
    Nat → IO UInt32
  | 0 => return if passed then 0 else 1
  | runs + 1 => do
    let began := v.bench.clock
    let (report, v) := v.next
    IO.sleep (v.bench.clock - began).toUInt32
    match report with
    | none => return 1
    | some r =>
      (← IO.getStdout).putStr (reportText json (r.after start))
      verify json start (passed && r.passed) v runs

/-- The present moment. -/
def present : IO Timestamp := do
  let now ← Std.Time.Timestamp.now
  return ⟨now.toNanosecondsSinceUnixEpoch.toInt / 1000⟩

end RoutePreference.Cli

open RoutePreference.Cli in
/-- The program. -/
def main (arguments : List String) : IO UInt32 := do
  let file ← readText (fileOf arguments)
  match Plan.of (fun _ => file) arguments with
  | .print text =>
    (← IO.getStdout).putStr text
    return 0
  | .refuse complaint =>
    (← IO.getStderr).putStr complaint
    return 1
  | .verify config runs json => verify json (← present) true (.start config) runs
