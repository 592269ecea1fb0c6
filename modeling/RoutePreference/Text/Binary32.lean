/-!
# Single-precision numbers

* `Binary32`: the single-precision binary format: the numbers `m * 2 ^ e` by their sign, mantissa
  and a biased exponent, the infinities, and what is not a number;
* `Binary32.isPositive`: whether a number is above zero;
* `Binary32.ofRatio`: the one nearest to a quotient, a tie going to the even mantissa;
* `Binary32.text`: the shortest decimal that reads back as the number, without an exponent;
* `Binary32.bits`: the bit pattern.

Every number that a percentage of packet counts can be is zero or normal and not negative, so the
arithmetic is that of such numbers; the exponent is biased by 200, so that it is never negative.
-/

namespace RoutePreference

/-- A number `mant * 2 ^ (bexp - 200)` with a sign; zero has mantissa zero, and a mantissa has 24
bits unless the exponent is the smallest one.  The largest exponent is that of the infinities,
which have the smallest mantissa, and of what is not a number. -/
structure Binary32 where
  mant : Nat
  bexp : Nat
  negative : Bool := false
deriving DecidableEq, Inhabited

namespace Binary32

/-- The exponent is counted from here. -/
def bias : Nat := 200

/-- The exponent of the infinities and of what is not a number. -/
def maxExp : Nat := bias + 105

/-- The mantissa of a power of two. -/
def unit : Nat := 0x800000

/-- Zero. -/
def zero : Binary32 := { mant := 0, bexp := 0 }

/-- Whether this is an infinity. -/
def isInfinite (x : Binary32) : Bool := x.bexp = maxExp ∧ x.mant = unit

/-- Whether this is not a number. -/
def isNaN (x : Binary32) : Bool := x.bexp = maxExp ∧ unit < x.mant

/-- Whether this is a number above zero. -/
def isPositive (x : Binary32) : Bool := !x.negative && x.mant ≠ 0 && !x.isNaN

/-- The number without its sign. -/
def abs (x : Binary32) : Binary32 := { x with negative := false }

/-! ### Rounding -/

/-- A quotient rounded to a whole number, a tie going to the even one. -/
def roundDiv (num den : Nat) : Nat :=
  let q := num / den
  let r := num % den
  if 2 * r < den then q
  else if den < 2 * r then q + 1
  else if q % 2 = 0 then q else q + 1

/-- The quotient `num / den` as a numerator and denominator after scaling by a power of two. -/
def scaled (num den : Nat) (bexp : Nat) : Nat × Nat :=
  if bexp ≤ bias then (num <<< (bias - bexp), den) else (num, den <<< (bexp - bias))

/-- The exponent at which the mantissa of a quotient has 24 bits before it is rounded. -/
def exponentOf (num den : Nat) : Nat :=
  let e := bias + Nat.log2 num - Nat.log2 den - 23
  let (n, d) := scaled num den e
  if n / d < unit then e - 1 else e

/-- The number nearest to a quotient. -/
def ofRatio (num den : Nat) : Binary32 :=
  if num = 0 ∨ den = 0 then zero
  else
    let e := exponentOf num den
    let (n, d) := scaled num den e
    let m := roundDiv n d
    if m = 2 * unit then { mant := unit, bexp := e + 1 } else { mant := m, bexp := e }

/-- The number nearest to a whole number. -/
def ofNat (n : Nat) : Binary32 := ofRatio n 1

/-- The number without its sign, as a numerator and a denominator. -/
def ratio (x : Binary32) : Nat × Nat :=
  if x.bexp ≤ bias then (x.mant, 1 <<< (bias - x.bexp)) else (x.mant <<< (x.bexp - bias), 1)

/-- The product, rounded. -/
def mul (x y : Binary32) : Binary32 :=
  ofRatio (x.ratio.1 * y.ratio.1) (x.ratio.2 * y.ratio.2)

/-- The quotient, rounded. -/
def div (x y : Binary32) : Binary32 :=
  ofRatio (x.ratio.1 * y.ratio.2) (x.ratio.2 * y.ratio.1)

/-- The bit pattern of the number. -/
def bits (x : Binary32) : Nat :=
  (if x.negative then 0x80000000 else 0) +
    if x.mant < unit then x.mant else (x.bexp + 150 - bias) * unit + (x.mant - unit)

/-! ### Shortest decimal -/

/-- How many zeros stand between the point and the first digit of a quotient below one. -/
def leadingZeros (den : Nat) : Nat → Nat → Nat
  | 0, _ => 0
  | fuel + 1, num => if den ≤ num * 10 then 0 else leadingZeros den fuel (num * 10) + 1

/-- The number of digits before the point; for a quotient below one, the number of zeros after
the point, counted negatively. -/
def magnitude (num den : Nat) : Int :=
  if den ≤ num then (toString (num / den)).length else -(leadingZeros den bias num : Int)

/-- A decimal `digits * 10 ^ exp`. -/
structure Decimal where
  digits : Nat
  exp : Int
deriving DecidableEq

/-- The number nearest to a decimal. -/
def ofDecimal (d : Decimal) : Binary32 :=
  match d.exp with
  | .ofNat k => ofRatio (d.digits * Nat.pow 10 k) 1
  | .negSucc k => ofRatio d.digits (Nat.pow 10 (k + 1))

/-- The two decimals of `n` digits around the number, the nearer one first, and the greater one
if they are equally near. -/
def neighbours (x : Binary32) (n : Nat) : List Decimal :=
  let (num, den) := x.ratio
  let exp := magnitude num den - n
  let (a, b) : Nat × Nat :=
    match exp with
    | .ofNat k => (num, den * Nat.pow 10 k)
    | .negSucc k => (num * Nat.pow 10 (k + 1), den)
  let q := a / b
  if 2 * (a % b) < b then [⟨q, exp⟩, ⟨q + 1, exp⟩] else [⟨q + 1, exp⟩, ⟨q, exp⟩]

/-- The decimal of fewest digits that reads back as the number without its sign, and the nearest
of those; nine digits always suffice. -/
def shortest (x : Binary32) : Decimal :=
  let candidates := (List.range 9).flatMap fun i => neighbours x (i + 1)
  (candidates.find? fun d => ofDecimal d = x.abs).getD ⟨0, 0⟩

/-- A decimal written without an exponent. -/
def Decimal.text (d : Decimal) : String :=
  match d.exp with
  | .ofNat k => toString (d.digits * Nat.pow 10 k)
  | .negSucc k =>
    let frac := toString (d.digits % Nat.pow 10 (k + 1))
    let padded := String.ofList (List.replicate (k + 1 - frac.length) '0') ++ frac
    let trimmed := (padded.toList.reverse.dropWhile (· = '0')).reverse
    let whole := toString (d.digits / Nat.pow 10 (k + 1))
    if trimmed.isEmpty then whole else whole ++ "." ++ String.ofList trimmed

/-- The number in decimal: the shortest text that reads back. -/
def text (x : Binary32) : String :=
  if x.isNaN then "NaN"
  else
    (if x.negative then "-" else "") ++
      if x.isInfinite then "inf" else if x.mant = 0 then "0" else x.shortest.text

example : (ofRatio 200 3).text = "66.666664" := by decide +kernel
example : (div (ofNat 100) (ofNat 2500)).text = "0.04" := by decide +kernel
example : (ofRatio 6383 128).text = "49.867188" := by decide +kernel
example : (ofNat 100).bits = 1120403456 := by decide +kernel

end Binary32

end RoutePreference
