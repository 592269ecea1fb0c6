/-!
# Moments in time

* `Timestamp`: a moment in microseconds since the beginning of 1970;
* `Timestamp.text`: the moment in UTC, as a date, a time and a `Z`, with as few groups of three
  decimals as it needs;
* `Timestamp.millisSince`: the whole milliseconds between two moments.
-/

namespace RoutePreference

/-- A moment in time. -/
structure Timestamp where
  /-- Microseconds since 1970-01-01T00:00:00Z. -/
  micros : Int
deriving DecidableEq, Inhabited

namespace Timestamp

/-- A calendar date. -/
structure Date where
  year : Int
  month : Nat
  day : Nat

/-- The date of a day counted from 1970-01-01.  Years are counted from March, so that the day
added in leap years comes last, and in cycles of four hundred years. -/
def dateOfDay (day : Int) : Date :=
  let z := day + 719468
  let era := Int.fdiv z 146097
  let doe := (z - era * 146097).toNat
  let yoe := (doe - doe / 1460 + doe / 36524 - doe / 146096) / 365
  let doy := doe - (365 * yoe + yoe / 4 - yoe / 100)
  let mp := (5 * doy + 2) / 153
  let month := if mp < 10 then mp + 3 else mp - 9
  { year := yoe + era * 400 + (if month ≤ 2 then 1 else 0)
    month
    day := doy - (153 * mp + 2) / 5 + 1 }

/-- A number with at least the given count of digits. -/
def padded (width n : Nat) : String :=
  let s := toString n
  String.ofList (List.replicate (width - s.length) '0') ++ s

/-- A year of four digits; a longer one has a sign. -/
def yearText (y : Int) : String :=
  if 0 ≤ y ∧ y ≤ 9999 then padded 4 y.toNat
  else if 0 ≤ y then "+" ++ padded 5 y.toNat
  else "-" ++ padded 4 (-y).toNat

/-- The part below a second: nothing, three or six decimals. -/
def fractionText (micros : Nat) : String :=
  if micros = 0 then ""
  else if micros % 1000 = 0 then "." ++ padded 3 (micros / 1000)
  else "." ++ padded 6 micros

/-- The moment in UTC. -/
def text (t : Timestamp) : String :=
  let seconds := Int.fdiv t.micros 1000000
  let micros := (Int.fmod t.micros 1000000).toNat
  let date := dateOfDay (Int.fdiv seconds 86400)
  let second := (Int.fmod seconds 86400).toNat
  yearText date.year ++ "-" ++ padded 2 date.month ++ "-" ++ padded 2 date.day ++ "T"
    ++ padded 2 (second / 3600) ++ ":" ++ padded 2 (second / 60 % 60) ++ ":"
    ++ padded 2 (second % 60) ++ fractionText micros ++ "Z"

/-- The milliseconds from the second moment to the first, cut off towards zero. -/
def millisSince (t u : Timestamp) : Int := Int.tdiv (t.micros - u.micros) 1000

/-- The moment so many milliseconds after the beginning of 1970. -/
def ofMillis (ms : Nat) : Timestamp := ⟨ms * 1000⟩

example : text ⟨1700000000001500⟩ = "2023-11-14T22:13:20.001500Z" := by decide +kernel
example : text ⟨951782400000000⟩ = "2000-02-29T00:00:00Z" := by decide +kernel

end Timestamp

end RoutePreference
