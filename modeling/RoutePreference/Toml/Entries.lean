import RoutePreference.Data.Value

/-!
# The tables of a document

* `Node`: what a key stands for, and who may still add to it;
* `Entries`: the entries of a table;
* `Entries.assign?`, `Entries.open?`, `Entries.append?`: the changes that the lines of a document
  make;
* `Entries.toValue`: the finished table.

A table may be written in several places, but only once in each way: under a header, by dotted
keys, or by the headers of tables inside it.  A list of tables grows by one with each of its
headers.  All other values are finished when they are written.
-/

namespace RoutePreference.Toml

/-- How a table came about. -/
inductive Source where
  /-- It has a header. -/
  | header
  /-- A table inside it has a header. -/
  | implied
  /-- A dotted key leads through it. -/
  | dotted
deriving DecidableEq

/-- What a key stands for. -/
inductive Node where
  /-- A finished value. -/
  | closed (v : Value)
  | table (source : Source) (entries : List (String × Node))
  /-- A list of tables with headers. -/
  | tables (items : List (List (String × Node)))

/-- The entries of a table. -/
abbrev Entries : Type := List (String × Node)

namespace Entries

/-- Changes what a key stands for. -/
def alter? (key : String) (change : Option Node → Option Node) : Entries → Option Entries
  | [] => (change none).map fun n => [(key, n)]
  | (k, n) :: rest =>
    if k = key then (change (some n)).map fun n => (k, n) :: rest
    else (alter? key change rest).map ((k, n) :: ·)

/-- Changes the table that a path leads to, and makes it if there is none.  A list of tables is
entered through its last one.  A dotted key doesn't enter a table that has a header. -/
def within? (dotted : Bool) (change : Source → Entries → Option Entries) (source : Source) :
    List String → Entries → Option Entries
  | [], es => change source es
  | key :: path, es =>
    es.alter? key fun
      | none =>
        let source := if dotted then .dotted else .implied
        (within? dotted change source path []).map (.table source)
      | some (.table source inner) =>
        if dotted && source = .header then none
        else (within? dotted change source path inner).map (.table source)
      | some (.tables items) =>
        match items.getLast? with
        | none => none
        | some last =>
          (within? dotted change .header path last).map fun es => .tables (items.dropLast ++ [es])
      | some (.closed _) => none

/-- Gives a key in the table of a section its value.  A path of keys makes tables of its own. -/
def assign? (home path : List String) (key : String) (v : Value) (es : Entries) :
    Option Entries :=
  let put (source : Source) (es : Entries) : Option Entries :=
    if path.isEmpty = (source = .dotted) then none
    else es.alter? key fun n => if n.isNone then some (.closed v) else none
  within? false (fun _ => within? true put .header path) .header home es

/-- Opens the table of a header. -/
def open? (path : List String) (key : String) (es : Entries) : Option Entries :=
  let change : Option Node → Option Node
    | none => some (.table .header [])
    | some (.table .implied inner) => some (.table .header inner)
    | _ => none
  within? false (fun _ => alter? key change) .header path es

/-- Adds a table to a list of tables. -/
def append? (path : List String) (key : String) (es : Entries) : Option Entries :=
  let change : Option Node → Option Node
    | none => some (.tables [[]])
    | some (.tables items) => some (.tables (items ++ [[]]))
    | _ => none
  within? false (fun _ => alter? key change) .header path es

end Entries

/-! ### Finished tables -/

mutual

/-- The value that a key stands for in the end. -/
def Node.toValue : Node → Value
  | .closed v => v
  | .table _ es => .table (fieldsOf es)
  | .tables items => .list (itemsOf items)

/-- The fields of a finished table. -/
def fieldsOf : List (String × Node) → List (String × Value)
  | [] => []
  | (k, n) :: rest => (k, n.toValue) :: fieldsOf rest

/-- The items of a finished list of tables. -/
def itemsOf : List (List (String × Node)) → List Value
  | [] => []
  | es :: rest => .table (fieldsOf es) :: itemsOf rest

end

/-- The finished table. -/
def Entries.toValue (es : Entries) : Value := .table (fieldsOf es)

end RoutePreference.Toml
