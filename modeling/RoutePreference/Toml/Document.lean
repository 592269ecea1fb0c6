import RoutePreference.Toml.Entries
import RoutePreference.Toml.Scalar

/-!
# Documents

* `Scan.keyPath`: keys with dots between them;
* `Scan.value`: values, lists of values and tables written on a line;
* `Line`: what a line of a document says, `Scan.line`;
* `Toml.parse?`: the table that a document describes.
-/

namespace RoutePreference.Toml

namespace Scan

/-! ### Keys -/

/-- A character of a key without quotation marks. -/
def isKeyChar (c : Char) : Bool := c.isAlphanum || c = '_' || c = '-'

/-- Reads one key. -/
def key : Scan String := do
  match ← quotedKey with
  | some s => return s
  | none =>
    let cs ← run isKeyChar
    if cs.isEmpty then fail else return String.ofList cs

/-- Reads the keys that follow a key, at most so many. -/
def moreKeys : Nat → Scan (List String)
  | 0 => return []
  | n + 1 => do
    blanks
    if ← accept ['.'] then
      blanks
      return (← key) :: (← moreKeys n)
    else return []

/-- Reads keys with dots between them: those that lead to a table, and the one in it. -/
def keyPath : Scan (List String × String) := do
  let first ← key
  let rest ← moreKeys (← get).length
  return ((first :: rest).dropLast, rest.getLast?.getD first)

/-! ### Values -/

mutual

/-- Reads a value, nested at most so deep. -/
def value : Nat → Scan Value
  | 0 => fail
  | depth + 1 => do
    match ← quotation with
    | some s => return .string s
    | none =>
      if ← accept ['['] then return .list (← items depth)
      else if ← accept ['\x7b'] then
        blanks
        if ← accept ['\x7d'] then return .table []
        else return (← fields depth []).toValue
      else scalar

/-- Reads on to the end of a list.  Its items may stand on lines of their own, and a comma may
follow the last one. -/
def items : Nat → Scan (List Value)
  | 0 => fail
  | depth + 1 => do
    gap (← get).length
    if ← accept [']'] then return []
    else
      let v ← value depth
      gap (← get).length
      if ← accept [','] then return v :: (← items depth)
      else
        expect [']']
        return [v]

/-- Reads on to the end of a table on one line. -/
def fields : Nat → Entries → Scan Entries
  | 0, _ => fail
  | depth + 1, es => do
    blanks
    let (path, k) ← keyPath
    blanks
    expect ['=']
    blanks
    let v ← value depth
    blanks
    match es.assign? [] path k v with
    | none => fail
    | some es =>
      if ← accept [','] then fields depth es
      else
        expect ['\x7d']
        return es

end

end Scan

/-! ### Lines -/

/-- What a line of a document says. -/
inductive Line where
  /-- Nothing. -/
  | blank
  /-- The lines that follow belong to this table. -/
  | header (path : List String) (key : String)
  /-- The lines that follow belong to a further table of a list. -/
  | item (path : List String) (key : String)
  | assignment (path : List String) (key : String) (v : Value)

namespace Scan

/-- Reads a key path between blanks. -/
def spacedPath : Scan (List String × String) := do
  blanks
  let path ← keyPath
  blanks
  return path

/-- Reads a line; values may go on over several of them. -/
def line : Scan Line := do
  blanks
  match ← peek? with
  | none | some '\n' | some '\r' | some '#' =>
    lineEnd
    return .blank
  | some _ =>
    if ← accept ['[', '['] then
      let (path, k) ← spacedPath
      expect [']', ']']
      lineEnd
      return .item path k
    else if ← accept ['['] then
      let (path, k) ← spacedPath
      expect [']']
      lineEnd
      return .header path k
    else
      let (path, k) ← spacedPath
      expect ['=']
      blanks
      let v ← value (← get).length
      lineEnd
      return .assignment path k v

end Scan

/-- A document read in part: the tables so far, and the table that the next lines belong to. -/
structure Draft where
  entries : Entries := []
  /-- The path of the open table. -/
  home : List String := []

namespace Draft

/-- The document with one more line. -/
def add? (d : Draft) : Line → Option Draft
  | .blank => some d
  | .header path key =>
    (d.entries.open? path key).map fun entries => { entries, home := path ++ [key] }
  | .item path key =>
    (d.entries.append? path key).map fun entries => { entries, home := path ++ [key] }
  | .assignment path key v =>
    (d.entries.assign? d.home path key v).map fun entries => { d with entries }

/-- Reads the rest of a document, with at most so many lines. -/
def addAll? (d : Draft) : Nat → List Char → Option Draft
  | 0, cs => if cs.isEmpty then some d else none
  | lines + 1, cs =>
    if cs.isEmpty then some d
    else (Scan.line cs).bind fun (l, cs) => (d.add? l).bind fun d => d.addAll? lines cs

end Draft

/-- The text without a byte order mark in front. -/
def unmarked : List Char → List Char
  | '\ufeff' :: cs => cs
  | cs => cs

/-- The table that a document describes. -/
def parse? (s : String) : Option Value :=
  let cs := unmarked s.toList
  (({} : Draft).addAll? cs.length cs).map fun d => d.entries.toValue

end RoutePreference.Toml
