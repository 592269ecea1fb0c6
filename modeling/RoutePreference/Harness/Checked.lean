import RoutePreference.Harness.Procedure
import RoutePreference.Harness.RunError

/-!
# Procedures that can fail

* `Checked σ α`: a procedure that ends with a value or a failure of the run;
* `Checked.call`: a call whose error becomes a failure;
* `Checked.attempt`: a procedure whose failure is looked at before going on.
-/

namespace RoutePreference

/-- A procedure that ends with a value or with a failure of the run. -/
abbrev Checked (σ α : Type) : Type := ExceptT RunError (Procedure σ) α

namespace Checked

variable {σ α : Type}

/-- Makes a call; its error is turned into a failure. -/
def call (asFailure : CallError → RunError) (c : Call) : Checked σ c.Value :=
  ExceptT.mk (Procedure.ask c fun r => .done (r.mapError asFailure))

/-- Carries a procedure out and returns its failure as a value. -/
def attempt (p : Checked σ α) : Checked σ (Except RunError α) := ExceptT.lift p.run

/-- Goes on with a value, or fails with a failure seen before. -/
def ofExcept (r : Except RunError α) : Checked σ α := ExceptT.mk (.done r)

/-- The time. -/
def now : Checked σ Nat := ExceptT.lift .now

/-- Waits for a number of milliseconds. -/
def sleep (ms : Nat) : Checked σ Unit := ExceptT.lift (.sleep ms)

/-- Notes what is held. -/
def hold (held : σ) : Checked σ Unit := ExceptT.lift (.hold held)

end Checked

end RoutePreference
