import RoutePreference.Data.Value
import RoutePreference.Text.Number
import RoutePreference.Toml.Quotation

/-!
# Values without quotation marks

* `integer?`: whole numbers, in decimal or after `0x`, `0o` or `0b`;
* `isFloat`: numbers with a fraction or an exponent, infinities and what is no number;
* `isMoment`: dates, times, and both together, with or without an offset;
* `scalar?`: any of these, or a truth value.
-/

namespace RoutePreference.Toml

/-! ### Whole numbers -/

/-- Digits, with single underscores allowed between them. -/
def digits? (isDigit : Char → Bool) (cs : List Char) : Option (List Char) :=
  let groups := Number.pieces '_' cs
  if groups.all fun g => !g.isEmpty && g.all isDigit then some groups.flatten else none

/-- The digits without a sign in front of them, and whether it was a minus. -/
def unsigned : List Char → Bool × List Char
  | '-' :: cs => (true, cs)
  | '+' :: cs => (false, cs)
  | cs => (false, cs)

/-- Decimal digits without needless zeros in front. -/
def decimal? (cs : List Char) : Option (List Char) :=
  (digits? Char.isDigit cs).filter fun ds => ds.length ≤ 1 || ds.head? ≠ some '0'

/-- The value of digits in some base. -/
def inBase (base : Nat) (ds : List Char) : Nat :=
  ds.foldl (fun n c => base * n + (hexDigit? c).getD 0) 0

/-- Whether a character is a digit below the base. -/
def isDigitOf (base : Nat) (c : Char) : Bool := (hexDigit? c).any (· < base)

/-- The value of a numeral in some base. -/
def based? (base : Nat) (cs : List Char) : Option Int :=
  (digits? (isDigitOf base) cs).map fun ds => inBase base ds

/-- The value of a whole number. -/
def integer? : List Char → Option Int
  | '0' :: 'x' :: cs => based? 16 cs
  | '0' :: 'o' :: cs => based? 8 cs
  | '0' :: 'b' :: cs => based? 2 cs
  | cs =>
    let (negative, cs) := unsigned cs
    (decimal? cs).map fun ds => if negative then -(inBase 10 ds : Int) else inBase 10 ds

/-! ### Numbers with a fraction -/

/-- A number up to its exponent: digits, and perhaps a point and more digits. -/
def isMantissa (pointNeeded : Bool) (cs : List Char) : Bool :=
  match Number.pieces '.' cs with
  | [whole] => !pointNeeded && (decimal? whole).isSome
  | [whole, fraction] => (decimal? whole).isSome && (digits? Char.isDigit fraction).isSome
  | _ => false

/-- Whether the characters are a number with a fraction or an exponent. -/
def isFloat (cs : List Char) : Bool :=
  let cs := (unsigned cs).2
  if cs = "inf".toList || cs = "nan".toList then true
  else
    match Number.pieces 'e' (cs.map fun c => if c = 'E' then 'e' else c) with
    | [mantissa] => isMantissa true mantissa
    | [mantissa, exponent] =>
      isMantissa false mantissa && (digits? Char.isDigit (unsigned exponent).2).isSome
    | _ => false

/-! ### Dates and times -/

/-- A number of exactly so many digits, between two bounds. -/
def isField (width low high : Nat) (cs : List Char) : Bool :=
  cs.length = width && (Number.decimal? cs).any fun n => low ≤ n && n ≤ high

/-- How many days a month has. -/
def daysIn (year month : Nat) : Nat :=
  if month = 2 then if year % 4 = 0 && (year % 100 ≠ 0 || year % 400 = 0) then 29 else 28
  else if month ∈ [4, 6, 9, 11] then 30
  else 31

/-- Whether the characters are a date of the calendar. -/
def isDate (cs : List Char) : Bool :=
  match Number.pieces '-' cs with
  | [y, m, d] =>
    isField 4 0 9999 y && isField 2 1 12 m
      && isField 2 1 (daysIn ((Number.decimal? y).getD 0) ((Number.decimal? m).getD 0)) d
  | _ => false

/-- Whether the characters are a time of the day; a minute may have a leap second. -/
def isTime (cs : List Char) : Bool :=
  match Number.pieces ':' cs with
  | [h, m, s] =>
    let whole (s : List Char) := isField 2 0 23 h && isField 2 0 59 m && isField 2 0 60 s
    match Number.pieces '.' s with
    | [s] => whole s
    | [s, fraction] => whole s && (Number.decimal? fraction).isSome
    | _ => false
  | _ => false

/-- Whether the characters are hours and minutes. -/
def isOffset (cs : List Char) : Bool :=
  match Number.pieces ':' cs with
  | [h, m] => isField 2 0 23 h && isField 2 0 59 m
  | _ => false

/-- Whether the characters are a time with or without an offset from universal time. -/
def isZonedTime (cs : List Char) : Bool :=
  match cs.getLast? with
  | some 'Z' | some 'z' => isTime cs.dropLast
  | _ =>
    match Number.pieces '-' (cs.map fun c => if c = '+' then '-' else c) with
    | [time] => isTime time
    | [time, offset] => isTime time && isOffset offset
    | _ => false

/-- Whether the characters are a date, a time, or a date with a time. -/
def isMoment (cs : List Char) : Bool :=
  isTime cs || isDate cs
    || (isDate (cs.take 10) && (cs[10]?).any (· ∈ ['T', 't', ' ']) && isZonedTime (cs.drop 11))

/-! ### All kinds -/

/-- The value of a word. -/
def scalar? (cs : List Char) : Option Value :=
  if cs = "true".toList then some (.bool true)
  else if cs = "false".toList then some (.bool false)
  else
    match integer? cs with
    | some n => some (.int n)
    | none =>
      if isFloat cs then some (.float (String.ofList cs))
      else if isMoment cs then some (.moment (String.ofList cs))
      else none

/-- A character of such a word. -/
def isScalarChar (c : Char) : Bool := c.isAlphanum || c ∈ ['+', '-', '_', '.', ':']

namespace Scan

/-- Reads a value without quotation marks.  A date may be followed by a blank and a time. -/
def scalar : Scan Value := do
  let word ← run isScalarChar
  let cs ← get
  let more := (cs.drop 1).takeWhile isScalarChar
  if isDate word && cs.head? = some ' ' && isZonedTime more then
    set (cs.drop (more.length + 1))
    return .moment (String.ofList (word ++ ' ' :: more))
  else
    match scalar? word with
    | some v => return v
    | none => fail

end Scan

end RoutePreference.Toml
