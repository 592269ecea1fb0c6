import RoutePreference.Harness.Call

/-!
# Procedures

* `Procedure σ α`: a course of calls, pauses and readings of the clock that ends with a value,
  as data: what follows a call is a function of its reply;
* `Surroundings S`: anything that can answer the calls, with a clock of its own;
* `Procedure.perform`: carries a procedure out, and cuts it short at a given time.

A procedure notes in `record` what it holds at the moment, so that this is known even when it is
cut short in the middle of a call.
-/

namespace RoutePreference

/-- A course of calls that ends with a value of type `α`, noting records of type `σ`. -/
inductive Procedure (σ α : Type) : Type where
  | done (a : α)
  /-- Notes what is held from here on. -/
  | record (held : σ) (next : Procedure σ α)
  /-- Reads the clock. -/
  | clock (next : Nat → Procedure σ α)
  /-- Waits for a number of milliseconds. -/
  | pause (ms : Nat) (next : Procedure σ α)
  /-- Makes a call and waits for the reply. -/
  | ask (c : Call) (next : c.Reply → Procedure σ α)
  /-- Makes a call and waits for the reply for at most a number of milliseconds. -/
  | askWithin (ms : Nat) (c : Call) (next : Option c.Reply → Procedure σ α)

namespace Procedure

variable {σ α β : Type}

/-- One procedure after the other. -/
def bind : Procedure σ α → (α → Procedure σ β) → Procedure σ β
  | done a, f => f a
  | record s next, f => record s (next.bind f)
  | clock next, f => clock fun t => (next t).bind f
  | pause ms next, f => pause ms (next.bind f)
  | ask c next, f => ask c fun r => (next r).bind f
  | askWithin ms c next, f => askWithin ms c fun r => (next r).bind f

instance : Monad (Procedure σ) where
  pure := done
  bind := bind

@[simp] theorem pure_bind (a : α) (f : α → Procedure σ β) : (done a).bind f = f a := rfl

theorem bind_done (p : Procedure σ α) : p.bind done = p := by
  induction p with
  | done => rfl
  | record s next ih => simp [bind, ih]
  | clock next ih => simp [bind, ih]
  | pause ms next ih => simp [bind, ih]
  | ask c next ih => simp [bind, ih]
  | askWithin ms c next ih => simp [bind, ih]

theorem bind_assoc {γ : Type} (p : Procedure σ α) (f : α → Procedure σ β)
    (g : β → Procedure σ γ) : (p.bind f).bind g = p.bind fun a => (f a).bind g := by
  induction p with
  | done => rfl
  | record s next ih => simp [bind, ih]
  | clock next ih => simp [bind, ih]
  | pause ms next ih => simp [bind, ih]
  | ask c next ih => simp [bind, ih]
  | askWithin ms c next ih => simp [bind, ih]

instance : LawfulMonad (Procedure σ) :=
  LawfulMonad.mk' _ bind_done (fun _ _ => rfl) bind_assoc

/-- Makes a call. -/
def call (c : Call) : Procedure σ c.Reply := ask c done

/-- Makes a call with a time limit. -/
def callWithin (ms : Nat) (c : Call) : Procedure σ (Option c.Reply) := askWithin ms c done

/-- The time. -/
def now : Procedure σ Nat := clock done

/-- Waits. -/
def sleep (ms : Nat) : Procedure σ Unit := pause ms (done ())

/-- Notes what is held. -/
def hold (held : σ) : Procedure σ Unit := record held (done ())

end Procedure

/-! ### Carrying a procedure out -/

/-- Something that answers calls, with a clock. -/
structure Surroundings (S : Type) where
  /-- The time, in milliseconds. -/
  now : S → Nat
  /-- Lets time pass up to the given moment. -/
  passUntil : Nat → S → S
  /-- Answers a call.  Without an answer before the limit the call is given up, at the limit;
  without an answer and a limit, it never returns. -/
  answer : (c : Call) → (limit : Option Nat) → S → Option c.Reply × S

namespace Procedure

variable {σ α S : Type}

/-- How a procedure ended: with its value, if it wasn't cut short, and with what it held last. -/
structure Outcome (σ α S : Type) where
  value : Option α
  held : σ
  after : S

/-- Whether a moment lies before another one, which need not come at all. -/
def isBefore (t : Nat) : Option Nat → Bool
  | none => true
  | some u => t < u

/-- Carries a procedure out.  At the moment `cut` it is cut short, whatever it is waiting for. -/
def perform (w : Surroundings S) (cut : Option Nat) (held : σ) :
    Procedure σ α → S → Outcome σ α S
  | done a, s => { value := some a, held, after := s }
  | record held' next, s => next.perform w cut held' s
  | clock next, s => (next (w.now s)).perform w cut held s
  | pause ms next, s =>
    let t := w.now s + ms
    if isBefore t cut then next.perform w cut held (w.passUntil t s)
    else { value := none, held, after := w.passUntil (cut.getD t) s }
  | ask c next, s =>
    match w.answer c cut s with
    | (some r, s) => (next r).perform w cut held s
    | (none, s) => { value := none, held, after := s }
  | askWithin ms c next, s =>
    let t := w.now s + ms
    if isBefore t cut then
      let (r, s) := w.answer c (some t) s
      (next r).perform w cut held s
    else
      match w.answer c cut s with
      | (some r, s) => (next (some r)).perform w cut held s
      | (none, s) => { value := none, held, after := s }

end Procedure

end RoutePreference
