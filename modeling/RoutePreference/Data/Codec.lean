import RoutePreference.Data.Value
import RoutePreference.Net.Network
import RoutePreference.Table

/-!
# Reading and writing data values

* `Encode`, `Decode`: values that are written as data, and read from it;
* `Fields`: the fields of a record that is being read, by name or by position;
* `Decode.name?`, `Decode.variant?`: named alternatives, alone or with contents.

A record is read from a table or from a list of its fields in order.  Numbers have to be whole and
within their bounds; nothing is converted.
-/

namespace RoutePreference

/-- Values that are written as data. -/
class Encode (α : Type) where
  encode : α → Value

/-- Values that are read from data. -/
class Decode (α : Type) where
  decode : Value → Option α

export Encode (encode)
export Decode (decode)

/-! ### Writing -/

instance : Encode Bool := ⟨.bool⟩
instance : Encode Nat := ⟨.nat⟩
instance : Encode String := ⟨.string⟩
instance : Encode Addr := ⟨fun a => .string a.text⟩
instance : Encode Network := ⟨fun p => .string p.text⟩
instance {α : Type} [Encode α] : Encode (Option α) := ⟨fun o => .ofOption (o.map encode)⟩
instance {α : Type} [Encode α] : Encode (List α) := ⟨fun l => .list (l.map encode)⟩
instance {α : Type} [Encode α] : Encode (Table String α) :=
  ⟨fun t => .table (t.entries.map fun e => (e.1, encode e.2))⟩
instance {α : Type} [Encode α] : Encode (Table Nat α) :=
  ⟨fun t => .table (t.entries.map fun e => (toString e.1, encode e.2))⟩

/-! ### Reading -/

namespace Decode

/-- A whole number below a bound. -/
def natBelow (bound : Nat) : Value → Option Nat
  | .int n => if 0 ≤ n ∧ n < bound then some n.toNat else none
  | _ => none

/-- A number of 8 bits. -/
def nat8 : Value → Option Nat := natBelow 0x100

/-- A number of 32 bits. -/
def nat32 : Value → Option Nat := natBelow 0x100000000

/-- A number of 64 bits. -/
def nat64 : Value → Option Nat := natBelow 0x10000000000000000

/-- A text. -/
def text? : Value → Option String
  | .string s => some s
  | _ => none

/-- A list. -/
def listOf {α : Type} (item : Value → Option α) : Value → Option (List α)
  | .list vs => vs.mapM item
  | _ => none

/-- Something that may be missing. -/
def optional {α : Type} (content : Value → Option α) : Value → Option (Option α)
  | .null => some none
  | v => (content v).map some

/-- The fields of a table, read one by one. -/
def tableOf {κ α : Type} (key : String → Option κ) (content : Value → Option α) :
    Value → Option (List (κ × α))
  | .table fs => fs.mapM fun f => (key f.1).bind fun k => (content f.2).map fun a => (k, a)
  | _ => none

/-- A number as the key of a field: in decimal, without leading zeros. -/
def numericKey? (s : String) : Option Nat :=
  match s.toList with
  | '0' :: _ :: _ => none
  | cs => (Number.decimal? cs).filter (· < 0x10000000000000000)

end Decode

instance : Decode Bool where
  decode
    | .bool b => some b
    | _ => none

instance : Decode String := ⟨Decode.text?⟩
instance : Decode Addr := ⟨fun v => (Decode.text? v).bind Addr.parse?⟩
instance : Decode Network := ⟨fun v => (Decode.text? v).bind Network.parse?⟩
instance {α : Type} [Decode α] : Decode (Option α) := ⟨Decode.optional decode⟩
instance {α : Type} [Decode α] : Decode (List α) := ⟨Decode.listOf decode⟩
instance {α : Type} [Decode α] : Decode (Table String α) :=
  ⟨fun v => (Decode.tableOf some decode v).map Table.ofList⟩

/-! ### Records -/

/-- The fields of a record: by name, or by position. -/
inductive Fields where
  | named (fields : List (String × Value))
  | listed (names : List String) (items : List Value)

namespace Fields

/-- The fields of a record with the given field names.  Fields of other names are refused if the
record is closed, and passed over if not. -/
def of? (closed : Bool) (names : List String) : Value → Option Fields
  | .table fs => if closed && fs.any (fun f => f.1 ∉ names) then none else some (.named fs)
  | .list vs => if names.length < vs.length then none else some (.listed names vs)
  | _ => none

/-- The value of a field. -/
def find? (fs : Fields) (name : String) : Option Value :=
  match fs with
  | named fields => Value.field? fields name
  | listed names items => ((names.zip items).find? fun f => f.1 = name).map (·.2)

/-- A field that has to be there. -/
def required {α : Type} (fs : Fields) (name : String) (content : Value → Option α) : Option α :=
  (fs.find? name).bind content

/-- A field that may be missing, if fields are named. -/
def optional {α : Type} (fs : Fields) (name : String) (content : Value → Option α) :
    Option (Option α) :=
  match fs.find? name, fs with
  | some v, _ => Decode.optional content v
  | none, named _ => some none
  | none, listed _ _ => none

/-- A field with a default value. -/
def defaulting {α : Type} (fs : Fields) (name : String) (fallback : α)
    (content : Value → Option α) : Option α :=
  match fs.find? name with
  | some v => content v
  | none => some fallback

end Fields

/-! ### Alternatives -/

namespace Decode

/-- An alternative without contents, by its name. -/
def name? : Value → Option String
  | .string s => some s
  | .table [(s, .null)] => some s
  | _ => none

/-- One of several named alternatives without contents. -/
def choice {α : Type} (options : List α) (label : α → String) (v : Value) : Option α :=
  (name? v).bind fun s => options.find? fun a => label a = s

/-- The name and the contents of an alternative. -/
def variant? : Value → Option (String × Value)
  | .table [(s, v)] => some (s, v)
  | _ => none

end Decode

/-- An alternative with contents. -/
def Value.variant (name : String) (contents : Value) : Value := .table [(name, contents)]

end RoutePreference
