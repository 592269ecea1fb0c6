import RoutePreference.Harness.Checked

/-!
# Waiting for the device to converge

* `Convergence`: how often and for how long a leaf is polled, with `Convergence.standard`;
* `Convergence.poll`: reads a leaf once and compares it with what is expected;
* `Convergence.await`: polls until the leaf has the expected value or time is up.

The last read is answered at or after the deadline, so that a value that comes late still counts.
-/

namespace RoutePreference

/-- How a leaf is polled. -/
structure Convergence where
  /-- The milliseconds after which to give up. -/
  timeout : Nat
  /-- The milliseconds between two polls. -/
  interval : Nat
deriving DecidableEq, Inhabited

/-- Half a second between two polls, for at most a minute. -/
def Convergence.standard : Convergence where
  timeout := 60000
  interval := 500

/-- What a read of a leaf showed. -/
structure Sighting where
  observed : Option String
  matched : Bool
deriving DecidableEq, Inhabited

namespace Convergence

variable {σ : Type}

/-- Compares what was read with what is expected; a missing leaf never matches. -/
def sighting (expected : String) (observed : Option String) : Sighting :=
  { observed, matched := observed = some expected }

/-- Reads the leaf once. -/
def poll (path : StatePath) (expected : String) : Checked σ Sighting :=
  sighting expected <$> Checked.call (.telemetryRead path.text) (.read path)

/-- The most reads that `await` makes.  With a positive interval between them this many always
reach the deadline; without one there is no such number, and some large one is taken. -/
def readBudget (c : Convergence) : Nat :=
  if c.interval = 0 then c.timeout + 65536 else c.timeout / c.interval + 2

/-- What is reported when time is up. -/
def timedOut (c : Convergence) (path : StatePath) (expected : String)
    (observed : Option String) : RunError :=
  .convergenceTimeout path.text expected observed c.timeout

/-- Polls until the value matches or the deadline has come.  The pause between two reads never
goes beyond the deadline. -/
def awaitUntil (c : Convergence) (path : StatePath) (expected : String) (deadline : Nat) :
    Nat → Checked σ Sighting
  | 0 => throw (c.timedOut path expected none)
  | reads + 1 => do
    let seen ← poll path expected
    if seen.matched then return seen
    else
      let now ← Checked.now
      if deadline ≤ now then throw (c.timedOut path expected seen.observed)
      else
        Checked.sleep (Nat.min c.interval (deadline - now))
        awaitUntil c path expected deadline reads

/-- Polls the leaf until it has the expected value, for as long as the timeout allows. -/
def await (c : Convergence) (path : StatePath) (expected : String) : Checked σ Sighting := do
  let start ← Checked.now
  c.awaitUntil path expected (start + c.timeout) c.readBudget

end Convergence

end RoutePreference
