import RoutePreference.Bench.Clock
import RoutePreference.Proofs.Harness.Triples

/-!
# What the clock keeps

* `Bench.Kept`: a property that everything keeps that a testbed does by itself: the time, its work,
  and the ticks of its transmissions;
* `Kept.settle`, `Kept.passUntil`: it lasts over one moment, and over any time;
* `Bench.KeptByCalls`: a property that what a caller does keeps as well: asking, filling the room
  that was promised, giving up, and picking up an answer;
* `KeptByCalls.answer`, `KeptByCalls.perform`: it lasts over every call, and over every procedure.
-/

namespace RoutePreference

namespace Bench

/-- A property that a testbed keeps by itself. -/
structure Kept (P : Bench → Prop) : Prop where
  clock : ∀ {b : Bench} (t : Nat), P b → P { b with clock := t }
  workOnce : ∀ {b : Bench}, P b → P b.workOnce
  sendTick : ∀ {b : Bench} {t : Transmission}, t ∈ b.transmissions → P b → P (b.sendTick t)

namespace Kept

variable {P : Bench → Prop} {b : Bench}

theorem work (h : Kept P) (n : Nat) (hb : P b) : P (b.work n) := by
  induction n generalizing b with
  | zero => exact hb
  | succ n ih =>
    unfold Bench.work
    split
    · exact ih (h.workOnce hb)
    · exact hb

theorem transmit (h : Kept P) (number n : Nat) (hb : P b) : P (Bench.transmit number n b) := by
  induction n generalizing b with
  | zero => exact hb
  | succ n ih =>
    unfold Bench.transmit
    split
    · exact hb
    · next t ht =>
      split
      · exact ih (h.sendTick (List.mem_of_find?_eq_some ht) hb)
      · exact hb

theorem transmitAll (h : Kept P) (hb : P b) : P b.transmitAll := by
  have hfold : ∀ (l : List Nat) {b : Bench}, P b →
      P (l.foldl (fun b n => Bench.transmit n burst b) b) := by
    intro l
    induction l with
    | nil => exact fun hb => hb
    | cons n l ih => exact fun hb => ih (h.transmit n burst hb)
  exact hfold _ hb

/-- **One moment** on the clock. -/
theorem settle (h : Kept P) (hb : P b) : P b.settle := by
  have hrounds : ∀ (n : Nat) {b : Bench}, P b → P (settleRounds n b) := by
    intro n
    induction n with
    | zero => exact fun hb => hb
    | succ n ih =>
      intro b hb
      unfold settleRounds
      split
      · exact hb
      · exact ih (h.work _ (h.transmitAll hb))
  exact hrounds _ hb

theorem passEvents (h : Kept P) (moment n : Nat) (hb : P b) : P (Bench.passEvents moment n b) := by
  induction n generalizing b with
  | zero => exact h.clock moment hb
  | succ n ih =>
    have hsettled := h.settle hb
    unfold Bench.passEvents
    dsimp only
    split
    · next t _ =>
      split
      · exact ih (h.clock t hsettled)
      · exact h.clock moment hsettled
    · exact h.clock moment hsettled

/-- **Time that passes.** -/
theorem passUntil (h : Kept P) (moment : Nat) (hb : P b) : P (b.passUntil moment) := by
  unfold Bench.passUntil
  split
  · exact hb
  · exact h.passEvents moment _ hb

end Kept

/-- A property that a testbed keeps by itself and when it is asked by a caller. -/
structure KeptByCalls (P : Bench → Prop) : Prop extends Kept P where
  noted : ∀ {b : Bench} (answers : List (Nat × Answer)) (tickets : Nat)
    (handles : Table Nat Handle), P b → P { b with answers, tickets, handles }
  ask : ∀ {b : Bench} (ticket : Nat) {r : Request}, (∀ flow, r ≠ .tick flow) → P b →
    P (b.send { origin := .caller ticket, request := r })
  fill : ∀ {b : Bench} (ticket : Nat), P b → P (b.fill (.caller ticket))
  abandon : ∀ {b : Bench} (ticket : Nat), P b → P (b.abandon ticket)

namespace KeptByCalls

variable {P : Bench → Prop} {b : Bench}

theorem awaitEvents (h : KeptByCalls P) (ticket : Nat) (limit : Option Nat) (n : Nat) (hb : P b) :
    P (Bench.awaitEvents ticket limit n b).2 := by
  induction n generalizing b with
  | zero => exact h.abandon ticket hb
  | succ n ih =>
    have hsettled := h.settle hb
    unfold Bench.awaitEvents
    dsimp only
    split
    · exact h.abandon ticket hb
    · split
      · exact ih (h.fill ticket hsettled)
      · split
        · exact h.noted _ _ _ hsettled
        · split
          · next t _ =>
            split
            · exact h.clock _ (h.abandon ticket hsettled)
            · exact ih (h.clock t hsettled)
          · exact h.clock _ (h.abandon ticket hsettled)

theorem exchange (h : KeptByCalls P) (limit : Option Nat) {r : Request}
    (hr : ∀ flow, r ≠ .tick flow) (hb : P b) : P (b.exchange limit r).2 := by
  unfold Bench.exchange
  split
  · exact h.awaitEvents _ _ _ (h.ask b.tickets hr (h.noted b.answers (b.tickets + 1) b.handles hb))
  · exact hb

theorem request {α : Type} (h : KeptByCalls P) (limit : Option Nat) {r : Request}
    (hr : ∀ flow, r ≠ .tick flow) (read : Answer → Except CallError α) (hb : P b) :
    P (b.request limit r read).2 := h.exchange limit hr hb

theorem markClosed (h : KeptByCalls P) (session : Nat) (hb : P b) : P (b.markClosed session) := by
  unfold Bench.markClosed
  split
  · exact h.noted b.answers b.tickets _ hb
  · exact hb

/-- **One call** to the testbed. -/
theorem answer (h : KeptByCalls P) (c : Call) (limit : Option Nat) (hb : P b) :
    P (b.answer c limit).2 := by
  cases c with
  | openSession params =>
    have hasked := h.request limit (r := .openSession params) (by simp) sessionOf hb
    dsimp only [Bench.answer]
    generalize b.request limit (.openSession params) sessionOf = o at hasked ⊢
    split
    · exact h.noted _ _ _ hasked
    · exact hasked
  | modify session ops =>
    dsimp only [Bench.answer]
    split
    · exact hb
    · exact h.request limit (by simp) _ hb
  | flush session inst =>
    dsimp only [Bench.answer]
    split
    · exact hb
    · exact h.request limit (by simp) _ hb
  | close session =>
    dsimp only [Bench.answer]
    split
    · exact hb
    · exact h.request limit (by simp) _ (h.markClosed session hb)
  | _ => exact h.request limit (by simp) _ hb

/-- **A procedure** that is carried out on the testbed. -/
theorem perform {σ α : Type} (h : KeptByCalls P) (cut : Option Nat) (p : Procedure σ α) (held : σ)
    (hb : P b) : P (p.perform surroundings cut held b).after :=
  Procedure.perform_keeps (I := P) (fun c limit _ hb => h.answer c limit hb)
    (fun t _ hb => h.passUntil t hb) p held hb

end KeptByCalls

end Bench

end RoutePreference
