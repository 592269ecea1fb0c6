import RoutePreference.Harness.Run
import RoutePreference.Proofs.Bench.Schedule

/-!
# A clock is one pace among others

* `Bench.Followed`: what was done on the clock is done at some paces as well, with the same result
  and the same testbed left;
* `Followed.bind`: one thing after the other;
* `answer_followed`, `passUntil_followed`: calls, and time that passes;
* `perform_followed`, `execute_followed`: procedures, and whole runs.
-/

namespace RoutePreference

namespace Bench

variable {b b' b'' : Bench}

/-- Whether paces begin at a time. -/
def StartsAt (time : Nat) (ps : List Pace) : Prop := (ps.headD { sent := false }).time = time

/-- Whether something paced comes to the same as what was done on the clock: at some paces it has
the same result and leaves the same testbed at the same time. -/
def Followed {β : Type} (b : Bench) (v : β) (b' : Bench) (f : Paced → β × Paced) : Prop :=
  b'.Ready ∧ ∃ ps, ∀ rest log, StartsAt b'.clock rest →
    StartsAt b.clock (ps ++ rest) ∧ ∃ log',
      f { testbed := b.testbed, paces := ps ++ rest, unheard := log } =
        (v, { testbed := b'.testbed, paces := rest, unheard := log' })

namespace Followed

variable {β γ : Type} {v : β} {w : γ} {f g : Paced → β × Paced}

theorem refl (h : b.Ready) (v : β) : Followed b v b fun s => (v, s) :=
  ⟨h, [], fun _ log hrest => ⟨hrest, log, rfl⟩⟩

/-- Only testbeds like that on the clock, at its time, count. -/
theorem congr (h : Followed b v b' g)
    (hfg : ∀ s : Paced, s.testbed = b.testbed → s.pace.time = b.clock → f s = g s) :
    Followed b v b' f := by
  obtain ⟨hready, ps, hps⟩ := h
  refine ⟨hready, ps, fun rest log hrest => ?_⟩
  obtain ⟨hstart, log', hg⟩ := hps rest log hrest
  have hsame := hfg { testbed := b.testbed, paces := ps ++ rest, unheard := log } rfl hstart
  exact ⟨hstart, log', hsame.trans hg⟩

/-- One thing after the other. -/
theorem bind {g : β → Paced → γ × Paced} (hf : Followed b v b' f)
    (hg : Followed b' w b'' (g v)) : Followed b w b'' fun s => g (f s).1 (f s).2 := by
  obtain ⟨-, ps, hps⟩ := hf
  obtain ⟨hready, ps', hps'⟩ := hg
  refine ⟨hready, ps ++ ps', fun rest log hrest => ?_⟩
  obtain ⟨hmid, -⟩ := hps' rest log hrest
  obtain ⟨hstart, log', hf⟩ := hps (ps' ++ rest) log hmid
  obtain ⟨-, log'', hg⟩ := hps' rest log' hrest
  rw [List.append_assoc]
  refine ⟨hstart, log'', ?_⟩
  dsimp only
  rw [hf]
  exact hg

/-- What happens to a testbed at no pace comes first. -/
theorem after (h : Followed b' v b'' f) (φ : Testbed → Testbed)
    (hφ : b'.testbed = φ b.testbed) (hclock : b'.clock = b.clock) :
    Followed b v b'' fun s => f { s with testbed := φ s.testbed } := by
  obtain ⟨hready, ps, hps⟩ := h
  refine ⟨hready, ps, fun rest log hrest => ?_⟩
  rw [hφ, hclock] at hps
  exact hps rest log hrest

end Followed

/-- An exchange on the clock is one at some pace. -/
theorem exchange_followed (limit : Option Nat) (r : Request) (h : b.Ready) :
    ∃ a, (b.exchange limit r).1 = a.map .ok ∧
      Followed b a (b.exchange limit r).2 fun s => s.exchange r := by
  obtain ⟨a, ms, ha, hready, hend⟩ := exchange_awaited limit r h
  generalize (b.exchange limit r).2 = b' at hready hend
  have htickets : (b.testbed.moves ms).tickets = b.tickets := Testbed.tickets_moves ..
  refine ⟨a, ha, hready, ?_⟩
  rcases hend with ⟨rfl, hafter⟩ | hawaited
  · refine ⟨[{ time := b.clock, before := ms, sent := false }], fun rest log _ => ⟨rfl, log, ?_⟩⟩
    rw [hafter]
    rfl
  · cases hawaited with
    | heard ms' answer after =>
      refine ⟨[{ time := b.clock, before := ms, during := ms' }], fun rest log _ =>
        ⟨rfl, log, ?_⟩⟩
      simp only [Paced.exchange, Paced.pace, List.cons_append, List.headD_cons, List.tail_cons,
        List.nil_append, if_true, htickets, answer, after]
    | givenUp ms' after =>
      refine ⟨[{ time := b.clock, before := ms, during := ms', heard := false }], fun rest log _ =>
        ⟨rfl, log ++ [r], ?_⟩⟩
      rw [after]
      rfl

theorem request_followed {α : Type} (limit : Option Nat) (r : Request)
    (read : Answer → Except CallError α) (h : b.Ready) :
    Followed b (b.request limit r read).1 (b.request limit r read).2 fun s => s.request r read := by
  obtain ⟨a, ha, hfollowed⟩ := exchange_followed limit r h
  have hread : (b.request limit r read).1 = a.map read := by
    show (b.exchange limit r).1.map _ = _
    rw [ha]
    cases a <;> rfl
  rw [hread]
  exact hfollowed.bind (g := fun a s => (a.map read, s)) (.refl hfollowed.1 _)

/-- Giving up on a session that is closed comes to the same with and without a clock. -/
theorem Followed.ifClosed {β : Type} {out : β × Bench} {f : Paced → β × Paced} (session : Nat)
    (x : β) (h : b.Ready) (hout : Followed b out.1 out.2 f) :
    Followed b (if b.isClosed session then (x, b) else out).1
      (if b.isClosed session then (x, b) else out).2
      fun s => if s.testbed.isClosed session then (x, s) else f s := by
  have hsame : ∀ s : Paced, s.testbed = b.testbed →
      s.testbed.isClosed session = b.isClosed session := by
    intro s hs
    rw [hs]
    rfl
  cases hc : b.isClosed session with
  | false => exact hout.congr fun s hs _ => by simp [hsame s hs, hc]
  | true => exact (Followed.refl h x).congr fun s hs _ => by simp [hsame s hs, hc]

theorem Ready.withHandles (h : b.Ready) (handles : Table Nat Handle) : { b with handles }.Ready :=
  ⟨h.up, h.ticks, h.fresh.answers, h.fresh.owed, h.fresh.queue⟩

theorem testbed_markClosed (b : Bench) (session : Nat) :
    (b.markClosed session).testbed = b.testbed.markClosed session := by
  have hhandles : b.testbed.handles = b.handles := rfl
  unfold markClosed Testbed.markClosed
  rw [hhandles]
  cases b.handles.get? session <;> rfl

theorem clock_markClosed (b : Bench) (session : Nat) : (b.markClosed session).clock = b.clock := by
  unfold markClosed
  cases b.handles.get? session <;> rfl

theorem Ready.markClosed (h : b.Ready) (session : Nat) : (b.markClosed session).Ready := by
  unfold Bench.markClosed
  split
  · exact h.withHandles _
  · exact h

/-- Notes a session that was opened. -/
def noteOpened (params : SessionParams) (reply : Option (Except CallError Nat)) (s : Paced) :
    Option (Except CallError Nat) × Paced :=
  match reply with
  | some (.ok client) => (reply, { s with testbed :=
      { s.testbed with handles := s.testbed.handles.insert client { params } } })
  | _ => (reply, s)

theorem answer_openSession (s : Paced) (params : SessionParams) :
    s.answer (.openSession params) = noteOpened params
      (s.request (.openSession params) sessionOf).1
      (s.request (.openSession params) sessionOf).2 := by
  unfold Paced.answer
  dsimp only
  generalize s.request (.openSession params) sessionOf = out
  obtain ⟨_ | _ | client, s'⟩ := out <;> rfl

/-- The session that was opened is noted with and without a clock. -/
theorem openSession_followed (limit : Option Nat) (params : SessionParams) (h : b.Ready) :
    Followed b (b.answer (.openSession params) limit).1 (b.answer (.openSession params) limit).2
      fun s => s.answer (.openSession params) := by
  have hreq := request_followed limit (.openSession params) sessionOf h
  unfold answer
  dsimp only
  generalize b.request limit (.openSession params) sessionOf = out at hreq ⊢
  obtain ⟨reply, b'⟩ := out
  have hready := hreq.1
  refine (hreq.bind (g := noteOpened params) ?_).congr fun s _ _ => answer_openSession s params
  rcases reply with _ | e | client
  · exact .refl hready _
  · exact .refl hready _
  · have hnoted := Followed.refl (hready.withHandles (b'.handles.insert client { params }))
      (some (.ok client) : Option (Except CallError Nat))
    exact hnoted.after (fun t => { t with handles := t.handles.insert client { params } }) rfl rfl

/-- **A call on the clock** is a call at some pace. -/
theorem answer_followed (c : Call) (limit : Option Nat) (h : b.Ready) :
    Followed b (b.answer c limit).1 (b.answer c limit).2 fun s => s.answer c := by
  cases c with
  | openSession params => exact openSession_followed limit params h
  | modify session ops => exact .ifClosed session _ h (request_followed limit _ _ h)
  | flush session inst => exact .ifClosed session _ h (request_followed limit _ _ h)
  | close session =>
    have hreq := request_followed limit (.close session) wordOf (h.markClosed session)
    refine .ifClosed session _ h ?_
    exact hreq.after (fun t => t.markClosed session) (testbed_markClosed b session)
      (clock_markClosed b session)
  | _ => exact request_followed limit _ _ h

theorem passUntil_followed (moment : Nat) (h : b.Ready) :
    Followed b () (b.passUntil moment) fun s => ((), s.pass) := by
  obtain ⟨hwaits, ms, hms⟩ := runs_passUntil moment (h.waits 0)
  have hfresh := h.fresh.moves ms
  rw [← hms] at hfresh
  refine ⟨hwaits.ready hfresh, [{ time := b.clock, before := ms }], fun rest log _ =>
    ⟨rfl, log, ?_⟩⟩
  rw [hms]
  rfl

/-! ### Runs -/

/-- What is decided by the time is decided in the same way. -/
theorem Followed.ifNow {β : Type} {x y : β × Bench} {f g : Paced → β × Paced} (c : Nat → Bool)
    (hf : c b.clock = true → Followed b x.1 x.2 f) (hg : c b.clock = false → Followed b y.1 y.2 g) :
    Followed b (if c b.clock then x else y).1 (if c b.clock then x else y).2
      fun s => if c s.pace.time then f s else g s := by
  cases hc : c b.clock with
  | false => exact (hg hc).congr fun s _ hs => by simp [hs, hc]
  | true => exact (hf hc).congr fun s _ hs => by simp [hs, hc]

section

variable {S σ α ρ : Type} {w : Surroundings S} {cut : Option Nat} {held : σ} {s : S}

/-- How a procedure ended, and what it left. -/
def endOf (o : Procedure.Outcome σ α S) : (Option α × σ) × S := ((o.value, o.held), o.after)

theorem outcome_of_endOf {o : Procedure.Outcome σ α S} {v : Option α}
    (h : endOf o = ((v, held), s)) :
    o = { value := v, held, after := s } := by
  obtain ⟨v', held', s'⟩ := o
  cases h
  rfl

/-- How a procedure goes on after a call, unless it was given up. -/
def goOn (w : Surroundings S) (cut : Option Nat) (held : σ) (next : ρ → Procedure σ α) :
    Option ρ → S → (Option α × σ) × S
  | some r, s => endOf ((next r).perform w cut held s)
  | none, s => ((none, held), s)

theorem endOf_pause (ms : Nat) (next : Procedure σ α) :
    endOf ((Procedure.pause ms next).perform w cut held s) =
      if Procedure.isBefore (w.now s + ms) cut then
        endOf (next.perform w cut held (w.passUntil (w.now s + ms) s))
      else ((none, held), w.passUntil (cut.getD (w.now s + ms)) s) := by
  rw [Procedure.perform]
  split <;> rfl

theorem endOf_ask (c : Call) (next : c.Reply → Procedure σ α) :
    endOf ((Procedure.ask c next).perform w cut held s) =
      goOn w cut held next (w.answer c cut s).1 (w.answer c cut s).2 := by
  unfold Procedure.perform
  generalize w.answer c cut s = out
  obtain ⟨_ | r, s'⟩ := out <;> rfl

theorem endOf_askWithin (ms : Nat) (c : Call) (next : Option c.Reply → Procedure σ α) :
    endOf ((Procedure.askWithin ms c next).perform w cut held s) =
      if Procedure.isBefore (w.now s + ms) cut then
        endOf ((next (w.answer c (some (w.now s + ms)) s).1).perform w cut held
          (w.answer c (some (w.now s + ms)) s).2)
      else goOn w cut held (fun r => next (some r)) (w.answer c cut s).1 (w.answer c cut s).2 := by
  rw [Procedure.perform]
  dsimp only
  split
  · rfl
  · generalize w.answer c cut s = out
    obtain ⟨_ | r, s'⟩ := out <;> rfl

end

section

variable {σ α ρ : Type}

/-- Whether a procedure on the clock is one at some pace, whenever it begins. -/
def IsFollowed (cut : Option Nat) (p : Procedure σ α) : Prop :=
  ∀ ⦃b : Bench⦄ (held : σ), b.Ready →
    Followed b (endOf (p.perform surroundings cut held b)).1
      (endOf (p.perform surroundings cut held b)).2
      fun s => endOf (p.perform Paced.surroundings cut held s)

theorem goOn_followed {cut : Option Nat} {next : ρ → Procedure σ α}
    (ih : ∀ r, IsFollowed cut (next r)) (held : σ) (r : Option ρ) (h : b.Ready) :
    Followed b (goOn surroundings cut held next r b).1 (goOn surroundings cut held next r b).2
      (goOn Paced.surroundings cut held next r) := by
  cases r with
  | none => exact .refl h _
  | some r => exact ih r held h

/-- **A procedure on the clock** is a procedure at some pace. -/
theorem perform_followed (cut : Option Nat) (p : Procedure σ α) : IsFollowed cut p := by
  induction p with
  | done a => exact fun b held h => .refl h _
  | record held' next ih => exact fun b _ h => ih held' h
  | clock next ih =>
    intro b held h
    refine (ih b.clock held h).congr fun s _ hs => ?_
    show endOf ((next s.pace.time).perform _ _ _ _) = _
    rw [hs]
  | pause ms next ih =>
    intro b held h
    have hpass := fun t => passUntil_followed t h
    rw [endOf_pause]
    refine Followed.congr (Followed.ifNow (fun t => Procedure.isBefore (t + ms) cut)
      (fun _ => (hpass _).bind (g := fun _ s => endOf (next.perform Paced.surroundings cut held s))
        (ih held (hpass _).1))
      (fun _ => (hpass _).bind (g := fun _ s => ((none, held), s)) (.refl (hpass _).1 _)))
      fun s _ _ => ?_
    exact endOf_pause ms next
  | ask c next ih =>
    intro b held h
    have hanswer := answer_followed c cut h
    rw [endOf_ask]
    refine Followed.congr (hanswer.bind (g := goOn Paced.surroundings cut held next)
      (goOn_followed ih held _ hanswer.1)) fun s _ _ => ?_
    exact endOf_ask c next
  | askWithin ms c next ih =>
    intro b held h
    have hanswer := fun limit => answer_followed c limit h
    rw [endOf_askWithin]
    refine Followed.congr (Followed.ifNow (fun t => Procedure.isBefore (t + ms) cut)
      (fun _ => (hanswer _).bind
        (g := fun r s => endOf ((next r).perform Paced.surroundings cut held s))
        (ih _ held (hanswer _).1))
      (fun _ => (hanswer _).bind (g := goOn Paced.surroundings cut held fun r => next (some r))
        (goOn_followed (fun r => ih (some r)) held _ (hanswer _).1)))
      fun s _ _ => ?_
    exact endOf_askWithin ms c next

end

end Bench

namespace Run

open Bench

variable {b : Bench} {sc : Scenario} {cut : Option Nat}

/-- The stages of a run and its teardown are followed, one after the other. -/
theorem stages_followed {piped : Procedure.Outcome Holdings (Except RunError Unit) Bench}
    {torn : Procedure.Outcome Unit (List RunError) Bench} (h : b.Ready)
    (hp : (pipeline sc).run.perform surroundings cut {} b = piped)
    (ht : (teardown sc piped.held).perform surroundings none () piped.after = torn) :
    torn.after.Ready ∧ ∃ ps, ∀ rest log, StartsAt torn.after.clock rest →
      StartsAt b.clock (ps ++ rest) ∧ ∃ mid log',
        (pipeline sc).run.perform Paced.surroundings cut {}
            { testbed := b.testbed, paces := ps ++ rest, unheard := log } =
          { value := piped.value, held := piped.held, after := mid } ∧
        (teardown sc piped.held).perform Paced.surroundings none () mid =
          { value := torn.value, held := torn.held,
            after := { testbed := torn.after.testbed, paces := rest, unheard := log' } } := by
  have hpiped := perform_followed cut (pipeline sc).run {} h
  rw [hp] at hpiped
  obtain ⟨hready, ps, hps⟩ := hpiped
  have hafter : piped.after.Ready := hready
  have htorn := perform_followed none (teardown sc piped.held) () hafter
  rw [ht] at htorn
  obtain ⟨hready', ps', hps'⟩ := htorn
  refine ⟨hready', ps ++ ps', fun rest log hrest => ?_⟩
  obtain ⟨hmid, -⟩ := hps' rest log hrest
  obtain ⟨hstart, log', hp'⟩ := hps (ps' ++ rest) log hmid
  obtain ⟨-, log'', ht'⟩ := hps' rest log' hrest
  rw [List.append_assoc]
  exact ⟨hstart, _, log'', outcome_of_endOf hp', outcome_of_endOf ht'⟩

/-- **A run on the clock** is a run at some pace. -/
theorem execute_followed (sc : Scenario) (run : Nat) (cut : Option Nat) (h : b.Ready) :
    Followed b (execute surroundings sc run cut b).1 (execute surroundings sc run cut b).2
      (execute Paced.surroundings sc run cut) := by
  unfold execute
  dsimp only
  generalize hp : (pipeline sc).run.perform surroundings cut {} b = piped
  by_cases hcut : (piped.value.isNone && cut.isNone) = true
  · have hpiped := perform_followed cut (pipeline sc).run {} h
    rw [hp] at hpiped
    obtain ⟨hready, ps, hps⟩ := hpiped
    rw [if_pos hcut]
    refine ⟨hready, ps, fun rest log hrest => ?_⟩
    obtain ⟨hstart, log', hp'⟩ := hps rest log hrest
    refine ⟨hstart, log', ?_⟩
    dsimp only at hp' ⊢
    rw [outcome_of_endOf hp', if_pos hcut]
    rfl
  · rw [if_neg hcut]
    generalize ht : (teardown sc piped.held).perform surroundings none () piped.after = torn
    obtain ⟨hready, ps, hps⟩ := stages_followed h hp ht
    obtain ⟨value, held, after⟩ := torn
    cases value with
    | none =>
      dsimp only
      refine ⟨hready, ps, fun rest log hrest => ?_⟩
      obtain ⟨hstart, mid, log', hp', ht'⟩ := hps rest log hrest
      refine ⟨hstart, log', ?_⟩
      dsimp only
      rw [hp', if_neg hcut, ht']
    | some errors =>
      dsimp only
      refine ⟨hready, ps, fun rest log hrest => ?_⟩
      obtain ⟨hstart, mid, log', hp', ht'⟩ := hps rest log hrest
      -- the report tells when the run has begun and ended
      have hnow : Paced.surroundings.now
          { testbed := b.testbed, paces := ps ++ rest, unheard := log } = b.clock := hstart
      have hlast : Paced.surroundings.now
          { testbed := after.testbed, paces := rest, unheard := log' } = after.clock := hrest
      refine ⟨hstart, log', ?_⟩
      dsimp only
      rw [hp', if_neg hcut, ht', hnow]
      dsimp only
      rw [hlast]
      rfl

end Run

end RoutePreference
