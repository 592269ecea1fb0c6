import RoutePreference.Config.Logging
import RoutePreference.Config.Sections
import RoutePreference.Toml.Document

/-!
# Configurations

* `Config`: everything that a configuration file says, with `Config.standard`;
* `Config.parse`: reads the text of a file, `Config.load`: finds the file and reads it;
* `ReadError`, `ConfigError`: why that fails.
-/

namespace RoutePreference

/-- The configuration of the program. -/
structure Config where
  logging : Logging
  testbed : Settings
  scenario : Scenario
deriving DecidableEq

/-- The standard scenario on the standard testbed. -/
def Config.standard : Config where
  logging := .standard
  testbed := .standard
  scenario := .standard

instance : Decode Config where
  decode v := do
    let fs ← Fields.of? true ["logging", "testbed", "scenario"] v
    return {
      logging := ← fs.defaulting "logging" .standard decode
      testbed := ← fs.defaulting "testbed" .standard decode
      scenario := ← fs.defaulting "scenario" .standard decode }

/-! ### Errors -/

/-- Why a file can't be read. -/
inductive ReadError where
  | notFound
  | notPermitted
  | notADirectory
  | isADirectory
  | nameTooLong
  | badName
  | notText
  /-- Any other reason, in words. -/
  | other (reason : String)
deriving DecidableEq, Inhabited

/-- The reason in words. -/
def ReadError.text : ReadError → String
  | notFound => "No such file or directory (os error 2)"
  | notPermitted => "Permission denied (os error 13)"
  | notADirectory => "Not a directory (os error 20)"
  | isADirectory => "Is a directory (os error 21)"
  | nameTooLong => "File name too long (os error 36)"
  | badName => "file name contained an unexpected NUL byte"
  | notText => "stream did not contain valid UTF-8"
  | other reason => reason

/-- Why there is no configuration. -/
inductive ConfigError where
  | unreadable (path : String) (reason : ReadError)
  | malformed (path : String)
deriving DecidableEq, Inhabited

/-- The error in words. -/
def ConfigError.text : ConfigError → String
  | unreadable path reason => "failed to read configuration file " ++ path ++ ": " ++ reason.text
  | malformed path => "failed to parse configuration file " ++ path ++ ": "

/-! ### Loading -/

namespace Config

/-- The file that is looked for unless another one is named. -/
def standardPath : String := "/etc/fibcheck.toml"

/-- Reads the text of a configuration file. -/
def parse (path text : String) : Except ConfigError Config :=
  match (Toml.parse? text).bind decode with
  | some config => .ok config
  | none => .error (.malformed path)

/-- The configuration that follows from an attempt to read its file.  Only the file that wasn't
named may be missing. -/
def ofFile (named : Bool) (path : String) : Except ReadError String → Except ConfigError Config
  | .ok text => parse path text
  | .error .notFound => if named then .error (.unreadable path .notFound) else .ok .standard
  | .error reason => .error (.unreadable path reason)

/-- Reads the configuration from the named file, or from the standard one. -/
def load (read : String → Except ReadError String) (path : Option String) :
    Except ConfigError Config :=
  let file := path.getD standardPath
  ofFile path.isSome file (read file)

end Config

end RoutePreference
