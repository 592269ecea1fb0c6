/-!
# Data values

* `Value`: what a configuration file or a report consists of;
* `Value.field?`: a field of a table;
* `Value.render`: a value as indented JSON text.
-/

namespace RoutePreference

/-- A tree of data.  Numbers with a fraction and moments in time are kept as they are written. -/
inductive Value where
  | null
  | bool (b : Bool)
  | int (n : Int)
  | float (text : String)
  | string (s : String)
  | moment (text : String)
  | list (items : List Value)
  | table (fields : List (String × Value))
deriving Inhabited

namespace Value

/-- A natural number. -/
def nat (n : Nat) : Value := int n

/-- A text that may be missing. -/
def ofOption : Option Value → Value := fun v => v.getD null

/-- The value of a field. -/
def field? (fields : List (String × Value)) (name : String) : Option Value :=
  (fields.find? fun f => f.1 = name).map (·.2)

/-! ### JSON text -/

/-- The low four bits as a hexadecimal digit. -/
def hexDigit (n : Nat) : Char :=
  if n % 16 < 10 then Char.ofNat ('0'.toNat + n % 16) else Char.ofNat ('a'.toNat + n % 16 - 10)

/-- A character inside a JSON string. -/
def jsonChar (c : Char) : String :=
  if c = '"' then "\\\""
  else if c = '\\' then "\\\\"
  else if c = '\n' then "\\n"
  else if c = '\r' then "\\r"
  else if c = '\t' then "\\t"
  else if c = '\x08' then "\\b"
  else if c = '\x0c' then "\\f"
  else if c.toNat < 32 then
    "\\u00" ++ String.ofList [hexDigit (c.toNat / 16), hexDigit c.toNat]
  else c.toString

/-- A JSON string. -/
def jsonString (s : String) : String := "\"" ++ String.join (s.toList.map jsonChar) ++ "\""

/-- A new line at the given depth of indentation. -/
def newline (depth : Nat) : String := "\n" ++ String.ofList (List.replicate (2 * depth) ' ')

mutual

/-- The value as JSON text, nested values on lines of their own. -/
def renderAt (depth : Nat) : Value → String
  | null => "null"
  | bool b => if b then "true" else "false"
  | int n => toString n
  | float text => text
  | string s => jsonString s
  | moment text => jsonString text
  | list [] => "[]"
  | list (v :: vs) =>
    "[" ++ newline (depth + 1) ++ renderAt (depth + 1) v ++ renderItems (depth + 1) vs
      ++ newline depth ++ "]"
  | table [] => "\x7b\x7d"
  | table ((k, v) :: fs) =>
    "\x7b" ++ newline (depth + 1) ++ jsonString k ++ ": " ++ renderAt (depth + 1) v
      ++ renderFields (depth + 1) fs ++ newline depth ++ "\x7d"

/-- The further items of a list. -/
def renderItems (depth : Nat) : List Value → String
  | [] => ""
  | v :: vs => "," ++ newline depth ++ renderAt depth v ++ renderItems depth vs

/-- The further fields of a table. -/
def renderFields (depth : Nat) : List (String × Value) → String
  | [] => ""
  | (k, v) :: fs =>
    "," ++ newline depth ++ jsonString k ++ ": " ++ renderAt depth v ++ renderFields depth fs

end

/-- The value as JSON text. -/
def render (v : Value) : String := renderAt 0 v

end Value

end RoutePreference
