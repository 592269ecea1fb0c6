/-!
# Decimal numerals

* `decimal?`: the value of a non-empty run of decimal digits;
* `unsigned?`: the same with an optional plus sign in front, as counts and lengths are written;
* `unsignedBelow?`: such a numeral whose value stays below a bound.

Leading zeros are allowed.  Only the ten ASCII digits count as digits.
-/

namespace RoutePreference

namespace Number

/-- The value of a decimal digit. -/
def digit? (c : Char) : Option Nat :=
  if '0' ≤ c ∧ c ≤ '9' then some (c.toNat - '0'.toNat) else none

/-- Continues a numeral whose digits so far have the value `n`. -/
def decimalFrom? (n : Nat) : List Char → Option Nat
  | [] => some n
  | c :: rest => (digit? c).bind fun d => decimalFrom? (10 * n + d) rest

/-- The value of a non-empty run of digits. -/
def decimal? : List Char → Option Nat
  | [] => none
  | cs => decimalFrom? 0 cs

/-- The value of a numeral with at most one plus sign in front. -/
def unsigned? : List Char → Option Nat
  | '+' :: rest => decimal? rest
  | cs => decimal? cs

/-- The value of an unsigned numeral, if it is below the bound. -/
def unsignedBelow? (bound : Nat) (cs : List Char) : Option Nat :=
  (unsigned? cs).filter (· < bound)

example : decimal? "007".toList = some 7 := by decide
example : decimal? "".toList = none := by decide
example : unsigned? "+24".toList = some 24 := by decide
example : unsigned? "+".toList = none := by decide
example : unsignedBelow? 256 "300".toList = none := by decide

/-! ### Pieces between separators -/

/-- Cuts a text at every occurrence of a character; there is always at least one piece. -/
def pieces (sep : Char) : List Char → List (List Char)
  | [] => [[]]
  | c :: rest =>
    if c = sep then [] :: pieces sep rest
    else
      match pieces sep rest with
      | [] => [[c]]
      | p :: ps => (c :: p) :: ps

end Number

end RoutePreference
