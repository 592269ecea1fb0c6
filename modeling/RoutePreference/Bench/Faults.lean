import RoutePreference.Bench.Clock

/-!
# A testbed with faults

* `Fault`: what goes wrong with which calls;
* `FaultyBench`: a testbed whose calls are counted, recorded and disturbed by faults;
* `FaultyBench.answer`, `FaultyBench.surroundings`: calls to it.
-/

namespace RoutePreference

/-- What a fault does to a call after delaying it. -/
inductive Fault.Effect where
  /-- The call goes on to the testbed. -/
  | none
  /-- The call fails, without reaching the testbed. -/
  | fail (e : CallError)
  /-- The call never returns. -/
  | hang
deriving DecidableEq, Inhabited

/-- Something that goes wrong with calls of one name. -/
structure Fault where
  call : String
  /-- Which of these calls is disturbed; all of them, if it isn't said. -/
  nth : Option Nat
  /-- The milliseconds that pass first. -/
  delay : Nat
  effect : Fault.Effect
deriving DecidableEq, Inhabited

/-- A testbed behind faults. -/
structure FaultyBench where
  bench : Bench
  faults : List Fault := []
  /-- How many calls of each name were made. -/
  counts : Table String Nat := ∅
  /-- The calls and when they were made, the last one first. -/
  record : List (Nat × Call) := []

namespace FaultyBench

/-- Whether calls of a kind are recorded; those that only read are not. -/
def isRecorded : Call → Bool
  | .read _ | .counters _ => false
  | _ => true

/-- Counts and records a call, and tells the how many-eth of its name it is. -/
def note (c : Call) (b : FaultyBench) : Nat × FaultyBench :=
  let n := (b.counts.get? c.name).getD 0 + 1
  let record := if isRecorded c then (b.bench.clock, c) :: b.record else b.record
  (n, { b with counts := b.counts.insert c.name n, record })

/-- Whether a fault concerns the `n`-th call of a name. -/
def concerns (f : Fault) (name : String) (n : Nat) : Bool :=
  f.call = name && f.nth.all (· = n)

/-- Lets time pass, but not beyond the limit; tells whether the limit came first. -/
def delay (ms : Nat) (limit : Option Nat) (b : Bench) : Bool × Bench :=
  if limit.any (· < b.clock + ms) then (true, b.passUntil (limit.getD b.clock))
  else (false, b.passUntil (b.clock + ms))

/-- Waits for a reply that never comes. -/
def never (limit : Option Nat) (b : Bench) : Bench := b.passUntil (limit.getD b.clock)

/-- Makes a call that faults disturb, one after the other. -/
def disturbed (c : Call) (limit : Option Nat) : List Fault → Bench → Option c.Reply × Bench
  | [], b => b.answer c limit
  | f :: faults, b =>
    match delay f.delay limit b with
    | (true, b) => (none, b)
    | (false, b) =>
      match f.effect with
      | .none => disturbed c limit faults b
      | .fail e => (some (.error e), b)
      | .hang => (none, never limit b)

/-- What becomes of a session whose closing failed on the way: its owner lets go of it. -/
def afterwards (c : Call) (disturbing : List Fault) (b : Bench) : Bench :=
  match c with
  | .close session =>
    if disturbing.any (fun f => f.effect ≠ .none) then b.release session else b
  | _ => b

/-- Makes a call. -/
def answer (c : Call) (limit : Option Nat) (b : FaultyBench) : Option c.Reply × FaultyBench :=
  let (n, b) := note c b
  let disturbing := b.faults.filter fun f => concerns f c.name n
  let (r, bench) := disturbed c limit disturbing b.bench
  (r, { b with bench := afterwards c disturbing bench })

/-- The testbed with its faults as surroundings of a procedure. -/
def surroundings : Surroundings FaultyBench where
  now b := b.bench.clock
  passUntil moment b := { b with bench := b.bench.passUntil moment }
  answer := answer

/-- The calls so far, in order. -/
def calls (b : FaultyBench) : List (Nat × Call) := b.record.reverse

end FaultyBench

end RoutePreference
