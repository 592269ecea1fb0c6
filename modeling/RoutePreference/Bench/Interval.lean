/-!
# Things done at intervals

* `Interval.nextDue`: when something is due again;
* `Interval`: something that is done over and over, takes a while each time, and ends after so
  many times;
* `Interval.ticks`: the times at which it is begun.

Something done late is not made up for: the next time is counted from there.
-/

namespace RoutePreference

/-- Something done over and over. -/
structure Interval where
  /-- The milliseconds from one time to the next. -/
  period : Nat
  /-- The milliseconds that it takes. -/
  busy : Nat
  /-- After how many times it ends; it is begun at least once. -/
  times : Nat
deriving DecidableEq, Inhabited

namespace Interval

/-- How late something may be done without delaying what comes after. -/
def tolerance : Nat := 5

/-- When something is due after it was due and done at the given times: a period later or, if it
was late, a period from now. -/
def nextDue (period due now : Nat) : Nat :=
  if due + tolerance < now then now + period else due + period

/-- The times from now on, before the end, with at most `n` of them. -/
def ticksFrom (i : Interval) (stop due ready count : Nat) : Nat → List Nat
  | 0 => []
  | n + 1 =>
    let now := Nat.max due ready
    if stop ≤ now then []
    else if i.times ≤ count + 1 then [now]
    else now :: ticksFrom i stop (nextDue i.period due now) (now + i.busy) (count + 1) n

/-- The times at which it is begun, from the beginning to some moment, which is not included.
Without a period it never is.  Each time is due later than the one before. -/
def ticks (i : Interval) (stop : Nat) : List Nat :=
  if i.period = 0 then [] else ticksFrom i stop 0 0 0 stop

example : ticks ⟨10, 25, 4⟩ 1000 = [0, 25, 50, 75] := by decide
example : ticks ⟨10, 0, 100⟩ 30 = [0, 10, 20] := by decide

end Interval

end RoutePreference
