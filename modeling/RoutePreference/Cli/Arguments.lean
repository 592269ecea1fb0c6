/-!
# Command-line arguments

* `Arguments`: what the arguments ask for;
* `UsageError`: what is wrong with them;
* `Arguments.parse`: reads them, up to a request for help or for the version.

An option is written with one hyphen and a letter or with two and a name.  Its value is the rest
of the argument, after an equals sign that the short form can do without, or the next argument,
unless that begins with a hyphen itself.  Flags of one letter may share a hyphen.  After two
hyphens alone nothing may follow.
-/

namespace RoutePreference.Cli

/-- The options that have a value. -/
inductive Setting where
  | config
  | runs
deriving DecidableEq, Inhabited

/-- What the arguments ask for. -/
inductive Command where
  | help
  | version
  /-- To verify the scenario of the configuration so many times. -/
  | verify (config runs : Option String) (json : Bool)
deriving DecidableEq, Inhabited

/-- What is wrong with arguments. -/
inductive UsageError where
  | unexpected (argument : String)
  | repeated (argument : String)
  | valueMissing (argument : String)
deriving DecidableEq, Inhabited

/-- The error in words. -/
def UsageError.text : UsageError → String
  | unexpected a =>
    "error: Found argument '" ++ a ++ "' which wasn't expected, or isn't valid in this context"
  | repeated a =>
    "error: The argument '" ++ a
      ++ "' was provided more than once, but cannot be used multiple times"
  | valueMissing a =>
    "error: The argument '" ++ a ++ "' requires a value but none was supplied"

namespace Setting

/-- The option as usage shows it. -/
def usage : Setting → String
  | config => "--config <file>"
  | runs => "--runs <count>"

/-- The option with a long name. -/
def named? : List Char → Option Setting
  | ['c', 'o', 'n', 'f', 'i', 'g'] => some config
  | ['r', 'u', 'n', 's'] => some runs
  | _ => none

/-- The option with a letter. -/
def lettered? : Char → Option Setting
  | 'c' => some config
  | 'n' => some runs
  | _ => none

end Setting

/-- The arguments read so far. -/
structure Arguments where
  /-- The options seen, with their values where they have come. -/
  options : List (Setting × Option String) := []
  json : Bool := false
  /-- The option whose value has to be next. -/
  waiting : Option Setting := none
deriving DecidableEq

namespace Arguments

/-- Whether an option was seen. -/
def has (a : Arguments) (o : Setting) : Bool := a.options.any (·.1 = o)

/-- The value of an option. -/
def value? (a : Arguments) (o : Setting) : Option String :=
  (a.options.find? fun e => e.1 = o).bind (·.2)

/-- Notes an option, with or without its value. -/
def addOption (a : Arguments) (o : Setting) (value : Option (List Char)) :
    Except UsageError Arguments :=
  if a.has o then .error (.repeated o.usage)
  else
    let text := value.map fun v => String.ofList (v.dropWhile (· = '='))
    .ok { a with
      options := a.options ++ [(o, text)]
      waiting := if value.isSome then none else some o }

/-- Notes the flag for data. -/
def addJson (a : Arguments) : Except UsageError Arguments :=
  if a.json then .error (.repeated "--json") else .ok { a with json := true, waiting := none }

/-- Gives the waiting option its value. -/
def addValue (a : Arguments) (o : Setting) (value : String) : Arguments :=
  { a with
    options := a.options.map fun e => if e.1 = o then (o, some value) else e
    waiting := none }

/-- Reads an argument with a long name. -/
def addLong (a : Arguments) (argument : List Char) : Except UsageError (Command ⊕ Arguments) :=
  let body := argument.dropWhile (· = '-')
  let name := body.takeWhile (· ≠ '=')
  let value := if name.length < body.length then some (body.drop (name.length + 1)) else none
  match Setting.named? name with
  | some o => Sum.inr <$> a.addOption o value
  | none =>
    if name = "json".toList then Sum.inr <$> a.addJson
    else if name = "help".toList then .ok (.inl .help)
    else if name = "version".toList then .ok (.inl .version)
    else .error (.unexpected ("--" ++ String.ofList name))

/-- Reads the letters of an argument. -/
def addShort (a : Arguments) : List Char → Except UsageError (Command ⊕ Arguments)
  | [] => .ok (.inr a)
  | c :: rest =>
    match Setting.lettered? c with
    | some o => Sum.inr <$> a.addOption o (if rest.isEmpty then none else some rest)
    | none =>
      if c = 'h' then .ok (.inl .help)
      else if c = 'V' then .ok (.inl .version)
      else .error (.unexpected ("-" ++ c.toString))

/-- What complete arguments ask for. -/
def finish (a : Arguments) : Except UsageError Command :=
  match a.options.find? (·.2.isNone) with
  | some (o, _) => .error (.valueMissing o.usage)
  | none => .ok (.verify (a.value? .config) (a.value? .runs) a.json)

/-- Reads arguments after those read so far. -/
def addAll (a : Arguments) : List String → Except UsageError Command
  | [] => a.finish
  | argument :: rest => do
    let next (r : Except UsageError (Command ⊕ Arguments)) : Except UsageError Command := do
      match ← r with
      | .inl command => return command
      | .inr a => a.addAll rest
    match argument.toList with
    | ['-', '-'] =>
      match rest with
      | [] => a.finish
      | extra :: _ => throw (.unexpected extra)
    | '-' :: '-' :: cs => next (a.addLong ('-' :: '-' :: cs))
    | '-' :: c :: cs => next (a.addShort (c :: cs))
    | _ =>
      match a.waiting with
      | some o => (a.addValue o argument).addAll rest
      | none => throw (.unexpected argument)

/-- Reads arguments. -/
def parse (arguments : List String) : Except UsageError Command := ({} : Arguments).addAll arguments

end Arguments

end RoutePreference.Cli
