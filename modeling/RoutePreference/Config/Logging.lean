import RoutePreference.Data.Codec

/-!
# The logging section of a configuration

* `Logging`: where log entries go and which of them, with `Logging.standard`;
* `LogFile`, `LogStream`: a log file and the error stream.
-/

namespace RoutePreference

/-- How log entries are written. -/
inductive LogStyle where
  | compact
  | full
  | json
  | pretty
deriving DecidableEq, Inhabited

/-- The name of a style in a configuration. -/
def LogStyle.label : LogStyle → String
  | compact => "compact"
  | full => "full"
  | json => "json"
  | pretty => "pretty"

/-- How often a new log file is begun. -/
inductive LogRotation where
  | never
  | hourly
  | daily
deriving DecidableEq, Inhabited

/-- The name of a rotation in a configuration. -/
def LogRotation.label : LogRotation → String
  | never => "never"
  | hourly => "hourly"
  | daily => "daily"

/-- A log file. -/
structure LogFile where
  dir : String
  name : String
  rotation : LogRotation
  style : LogStyle
  showSource : Bool
deriving DecidableEq, Inhabited

/-- A single file of data in the usual place. -/
def LogFile.standard : LogFile where
  dir := "/var/log/fibcheck"
  name := "runs.log"
  rotation := .never
  style := .json
  showSource := false

/-- What is logged to the error stream. -/
structure LogStream where
  enabled : Bool
  style : LogStyle
  colors : Bool
  showSource : Bool
deriving DecidableEq, Inhabited

/-- Short lines in colour. -/
def LogStream.standard : LogStream where
  enabled := true
  style := .compact
  colors := true
  showSource := false

/-- Where log entries go, and which of them. -/
structure Logging where
  /-- The directives that select log entries. -/
  filter : String
  journald : Bool
  file : Option LogFile
  stderr : LogStream
deriving DecidableEq, Inhabited

/-- Only the error stream. -/
def Logging.standard : Logging where
  filter := "fibcheck=info"
  journald := false
  file := none
  stderr := .standard

/-! ### Reading -/

instance : Decode LogStyle :=
  ⟨Decode.choice [.compact, .full, .json, .pretty] LogStyle.label⟩

instance : Decode LogRotation := ⟨Decode.choice [.never, .hourly, .daily] LogRotation.label⟩

instance : Decode LogFile where
  decode v := do
    let fs ← Fields.of? true ["dir", "name", "rotation", "style", "show_source"] v
    let standard := LogFile.standard
    return {
      dir := ← fs.defaulting "dir" standard.dir decode
      name := ← fs.defaulting "name" standard.name decode
      rotation := ← fs.defaulting "rotation" standard.rotation decode
      style := ← fs.defaulting "style" standard.style decode
      showSource := ← fs.defaulting "show_source" standard.showSource decode }

instance : Decode LogStream where
  decode v := do
    let fs ← Fields.of? true ["enabled", "style", "colors", "show_source"] v
    let standard := LogStream.standard
    return {
      enabled := ← fs.defaulting "enabled" standard.enabled decode
      style := ← fs.defaulting "style" standard.style decode
      colors := ← fs.defaulting "colors" standard.colors decode
      showSource := ← fs.defaulting "show_source" standard.showSource decode }

instance : Decode Logging where
  decode v := do
    let fs ← Fields.of? true ["filter", "journald", "file", "stderr"] v
    let standard := Logging.standard
    return {
      filter := ← fs.defaulting "filter" standard.filter decode
      journald := ← fs.defaulting "journald" standard.journald decode
      file := ← fs.defaulting "file" standard.file decode
      stderr := ← fs.defaulting "stderr" standard.stderr decode }

end RoutePreference
