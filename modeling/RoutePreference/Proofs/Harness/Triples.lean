import RoutePreference.Harness.Run

/-!
# How procedures end

* `Procedure.perform_bind`: one procedure after the other;
* `Procedure.Ends`: what is true when a procedure has ended with a value, and what is true when it
  was cut short, with a rule for each step;
* `Checked.Ends`: the same for procedures that can fail, whose failures have a condition of their
  own;
* `Procedure.perform_keeps`: what every call and every pause keeps, a procedure keeps;
* `Procedure.CallsOnly`: a procedure that notes nothing and makes calls of some kind only keeps
  what these calls keep (`ends_of_callsOnly`).
-/

namespace RoutePreference

namespace Procedure

variable {σ α β S : Type} {w : Surroundings S} {cut : Option Nat}

/-- A procedure goes on where the one before it ended, unless that was cut short. -/
theorem perform_bind (p : Procedure σ α) (f : α → Procedure σ β) (held : σ) (s : S) :
    (p.bind f).perform w cut held s =
      match (p.perform w cut held s).value with
      | some a =>
        (f a).perform w cut (p.perform w cut held s).held (p.perform w cut held s).after
      | none =>
        { value := none
          held := (p.perform w cut held s).held
          after := (p.perform w cut held s).after } := by
  induction p generalizing held s with
  | done a => rfl
  | record held' next ih => exact ih held' s
  | clock next ih => exact ih (w.now s) held s
  | pause ms next ih =>
    simp only [bind, perform]
    split
    · exact ih held _
    · rfl
  | ask c next ih =>
    simp only [bind, perform]
    split
    · exact ih _ held _
    · rfl
  | askWithin ms c next ih =>
    simp only [bind, perform]
    split
    · exact ih _ held _
    · split
      · exact ih _ held _
      · rfl

/-- Whether an outcome satisfies the first condition, or the second one if it was cut short. -/
def Outcome.Meets (E : α → σ → S → Prop) (C : σ → S → Prop) (o : Outcome σ α S) : Prop :=
  match o.value with
  | some a => E a o.held o.after
  | none => C o.held o.after

/-- Whether the outcome of a procedure satisfies the first condition, or the second one if it is
cut short. -/
def Ends (w : Surroundings S) (cut : Option Nat) (E : α → σ → S → Prop) (C : σ → S → Prop)
    (held : σ) (p : Procedure σ α) (s : S) : Prop :=
  (p.perform w cut held s).Meets E C

namespace Ends

variable {E : α → σ → S → Prop} {C : σ → S → Prop} {held : σ} {s : S}

theorem mono {E' : α → σ → S → Prop} {C' : σ → S → Prop} {p : Procedure σ α}
    (h : Ends w cut E C held p s) (hE : ∀ a held s, E a held s → E' a held s)
    (hC : ∀ held s, C held s → C' held s) : Ends w cut E' C' held p s := by
  unfold Ends Outcome.Meets at h ⊢
  split at h
  · exact hE _ _ _ h
  · exact hC _ _ h

/-- The condition holds of the value that a procedure has ended with. -/
theorem of_value {p : Procedure σ α} (h : Ends w cut E C held p s) {a : α}
    (ha : (p.perform w cut held s).value = some a) :
    E a (p.perform w cut held s).held (p.perform w cut held s).after := by
  unfold Ends Outcome.Meets at h
  rw [ha] at h
  exact h

theorem done {a : α} (h : E a held s) : Ends w cut E C held (.done a) s := h

theorem bind {p : Procedure σ α} {f : α → Procedure σ β} {E : β → σ → S → Prop}
    (h : Ends w cut (fun a held s => Ends w cut E C held (f a) s) C held p s) :
    Ends w cut E C held (p.bind f) s := by
  unfold Ends at h ⊢
  rw [perform_bind]
  generalize p.perform w cut held s = o at h ⊢
  obtain ⟨value, held', s'⟩ := o
  cases value with
  | some a => exact h
  | none => exact h

theorem record {held' : σ} {next : Procedure σ α} (h : Ends w cut E C held' next s) :
    Ends w cut E C held (.record held' next) s := h

theorem clock {next : Nat → Procedure σ α} (h : Ends w cut E C held (next (w.now s)) s) :
    Ends w cut E C held (.clock next) s := h

theorem pause {ms : Nat} {next : Procedure σ α}
    (h : ∀ t, Ends w cut E C held next (w.passUntil t s)) (hC : ∀ t, C held (w.passUntil t s)) :
    Ends w cut E C held (.pause ms next) s := by
  unfold Ends
  rw [perform]
  split
  · exact h _
  · exact hC _

theorem ask {c : Call} {next : c.Reply → Procedure σ α}
    (h : ∀ r, (w.answer c cut s).1 = some r →
      Ends w cut E C held (next r) (w.answer c cut s).2)
    (hC : (w.answer c cut s).1 = none → C held (w.answer c cut s).2) :
    Ends w cut E C held (.ask c next) s := by
  unfold Ends
  rw [perform]
  generalize w.answer c cut s = o at h hC
  obtain ⟨r, s'⟩ := o
  cases r with
  | none => exact hC rfl
  | some r => exact h r rfl

theorem askWithin {ms : Nat} {c : Call} {next : Option c.Reply → Procedure σ α}
    (h : ∀ limit r, (w.answer c limit s).1 = r →
      Ends w cut E C held (next r) (w.answer c limit s).2)
    (hC : ∀ limit, (w.answer c limit s).1 = none → C held (w.answer c limit s).2) :
    Ends w cut E C held (.askWithin ms c next) s := by
  unfold Ends
  rw [perform]
  split
  · exact h _ _ rfl
  · have hask : Ends w cut E C held (.ask c fun r => next (some r)) s :=
      ask (fun r hr => h cut (some r) hr) (hC cut)
    unfold Ends at hask
    rwa [perform] at hask

end Ends

/-- What every call and every pause keeps is true after a procedure, however it ends. -/
theorem perform_keeps {I : S → Prop} (hanswer : ∀ c limit s, I s → I (w.answer c limit s).2)
    (hpass : ∀ t s, I s → I (w.passUntil t s)) (p : Procedure σ α) (held : σ) {s : S} (hs : I s) :
    I (p.perform w cut held s).after := by
  have hends : Ends w cut (fun _ _ s => I s) (fun _ s => I s) held p s := by
    induction p generalizing held s with
    | done a => exact .done hs
    | record held' next ih => exact .record (ih held' hs)
    | clock next ih => exact .clock (ih _ held hs)
    | pause ms next ih => exact .pause (fun t => ih held (hpass t s hs)) fun t => hpass t s hs
    | ask c next ih =>
      exact .ask (fun r _ => ih r held (hanswer c cut s hs)) fun _ => hanswer c cut s hs
    | askWithin ms c next ih =>
      exact .askWithin (fun limit r _ => ih r held (hanswer c limit s hs))
        fun limit _ => hanswer c limit s hs
  unfold Ends Outcome.Meets at hends
  split at hends
  · exact hends
  · exact hends

/-! ### Procedures that make calls of some kind only -/

/-- Whether a procedure notes nothing, makes only calls of which one thing is true, and ends with
a value of which another one is. -/
def CallsOnly (K : Call → Prop) (V : α → Prop) : Procedure σ α → Prop
  | .done a => V a
  | .record _ _ => False
  | .clock next => ∀ t, CallsOnly K V (next t)
  | .pause _ next => CallsOnly K V next
  | .ask c next => K c ∧ ∀ r, CallsOnly K V (next r)
  | .askWithin _ c next => K c ∧ ∀ r, CallsOnly K V (next r)

theorem CallsOnly.bind {K : Call → Prop} {V : α → Prop} {W : β → Prop} {p : Procedure σ α}
    {f : α → Procedure σ β} (hp : p.CallsOnly K V) (hf : ∀ a, V a → (f a).CallsOnly K W) :
    (p.bind f).CallsOnly K W := by
  induction p with
  | done a => exact hf a hp
  | record held next ih => exact hp.elim
  | clock next ih => exact fun t => ih t (hp t)
  | pause ms next ih => exact ih hp
  | ask c next ih => exact ⟨hp.1, fun r => ih r (hp.2 r)⟩
  | askWithin ms c next ih => exact ⟨hp.1, fun r => ih r (hp.2 r)⟩

/-- Such a procedure keeps what these calls and the time keep, however it ends. -/
theorem ends_of_callsOnly {K : Call → Prop} {V : α → Prop} {I : S → Prop}
    (hK : ∀ c limit s, K c → I s → I (w.answer c limit s).2)
    (hpass : ∀ t s, I s → I (w.passUntil t s)) {p : Procedure σ α} (hp : p.CallsOnly K V)
    {held : σ} {s : S} (hs : I s) :
    Ends w cut (fun a held' s => V a ∧ held' = held ∧ I s) (fun held' s => held' = held ∧ I s)
      held p s := by
  induction p generalizing s with
  | done a => exact ⟨hp, rfl, hs⟩
  | record held next ih => exact hp.elim
  | clock next ih => exact .clock (ih _ (hp _) hs)
  | pause ms next ih =>
    exact .pause (fun t => ih hp (hpass t s hs)) fun t => ⟨rfl, hpass t s hs⟩
  | ask c next ih =>
    have hc := hK c cut s hp.1 hs
    exact .ask (fun r _ => ih r (hp.2 r) hc) fun _ => ⟨rfl, hc⟩
  | askWithin ms c next ih =>
    exact .askWithin (fun limit r _ => ih r (hp.2 r) (hK c limit s hp.1 hs))
      fun limit _ => ⟨rfl, hK c limit s hp.1 hs⟩

end Procedure

/-! ### Procedures that can fail -/

namespace Checked

variable {σ α β S : Type} {w : Surroundings S} {cut : Option Nat}

theorem run_bind (p : Checked σ α) (f : α → Checked σ β) :
    (p >>= f).run = p.run.bind fun
      | .ok a => (f a).run
      | .error e => .done (.error e) := by
  show Procedure.bind _ _ = _
  congr 1
  funext r
  cases r <;> rfl

/-- Whether the end of a procedure satisfies the first condition if it has succeeded, the second
one if it has failed, and the third one if it was cut short. -/
def Ends (w : Surroundings S) (cut : Option Nat) (E : α → σ → S → Prop) (F C : σ → S → Prop)
    (held : σ) (p : Checked σ α) (s : S) : Prop :=
  Procedure.Ends w cut
    (fun r held s => match r with
      | .ok a => E a held s
      | .error _ => F held s) C held p.run s

namespace Ends

variable {E : α → σ → S → Prop} {F C : σ → S → Prop} {held : σ} {s : S}

theorem mono {E' : α → σ → S → Prop} {F' C' : σ → S → Prop} {p : Checked σ α}
    (h : Ends w cut E F C held p s) (hE : ∀ a held s, E a held s → E' a held s)
    (hF : ∀ held s, F held s → F' held s) (hC : ∀ held s, C held s → C' held s) :
    Ends w cut E' F' C' held p s := by
  refine Procedure.Ends.mono h (fun r held s hr => ?_) hC
  cases r with
  | ok a => exact hE a held s hr
  | error e => exact hF held s hr

theorem pure {a : α} (h : E a held s) : Ends w cut E F C held (Pure.pure a) s := h

theorem bind {p : Checked σ α} {f : α → Checked σ β} {E : β → σ → S → Prop}
    (h : Ends w cut (fun a held s => Ends w cut E F C held (f a) s) F C held p s) :
    Ends w cut E F C held (p >>= f) s := by
  unfold Ends
  rw [run_bind]
  refine Procedure.Ends.bind (Procedure.Ends.mono h (fun r held s hr => ?_) fun _ _ hc => hc)
  cases r with
  | ok a => exact hr
  | error e => exact hr

theorem call {asFailure : CallError → RunError} {c : Call} {E : c.Value → σ → S → Prop}
    (hE : ∀ v, (w.answer c cut s).1 = some (.ok v) → E v held (w.answer c cut s).2)
    (hF : ∀ e, (w.answer c cut s).1 = some (.error e) → F held (w.answer c cut s).2)
    (hC : (w.answer c cut s).1 = none → C held (w.answer c cut s).2) :
    Ends w cut E F C held (Checked.call asFailure c) s := by
  refine Procedure.Ends.ask (fun r hr => ?_) hC
  cases r with
  | ok v => exact hE v hr
  | error e => exact hF e hr

theorem hold {held' : σ} {E : Unit → σ → S → Prop} (h : E () held' s) :
    Ends w cut E F C held (Checked.hold held') s := Procedure.Ends.record h

theorem ofExcept {r : Except RunError α} (hE : ∀ a, r = .ok a → E a held s)
    (hF : ∀ e, r = .error e → F held s) : Ends w cut E F C held (Checked.ofExcept r) s := by
  cases r with
  | ok a => exact hE a rfl
  | error e => exact hF e rfl

/-- A procedure that is lifted ends well if it ends at all. -/
theorem lift {p : Procedure σ α} (h : Procedure.Ends w cut E C held p s) :
    Ends w cut E F C held (ExceptT.lift p) s := by
  exact Procedure.Ends.bind (f := fun a => .done (Except.ok a)) h

theorem throw {e : RunError} (h : F held s) :
    Ends w cut E F C held (MonadExcept.throw e) s := h

theorem now {E : Nat → σ → S → Prop} (h : E (w.now s) held s) :
    Ends w cut E F C held Checked.now s :=
  lift (Procedure.Ends.clock (Procedure.Ends.done h))

theorem sleep {ms : Nat} {E : Unit → σ → S → Prop} (h : ∀ t, E () held (w.passUntil t s))
    (hC : ∀ t, C held (w.passUntil t s)) : Ends w cut E F C held (Checked.sleep ms) s :=
  lift (Procedure.Ends.pause (fun t => Procedure.Ends.done (h t)) hC)

end Ends

/-- Whether a procedure notes nothing and makes only calls of which something is true. -/
def CallsOnly (K : Call → Prop) (p : Checked σ α) : Prop := p.run.CallsOnly K fun _ => True

namespace CallsOnly

variable {K : Call → Prop}

theorem pure (a : α) : CallsOnly K (Pure.pure a : Checked σ α) := trivial

theorem throw (e : RunError) : CallsOnly K (MonadExcept.throw e : Checked σ α) := trivial

theorem bind {p : Checked σ α} {f : α → Checked σ β} (hp : CallsOnly K p)
    (hf : ∀ a, CallsOnly K (f a)) : CallsOnly K (p >>= f) := by
  unfold CallsOnly
  rw [run_bind]
  refine Procedure.CallsOnly.bind hp fun r _ => ?_
  cases r with
  | ok a => exact hf a
  | error e => trivial

theorem call {asFailure : CallError → RunError} {c : Call} (hc : K c) :
    CallsOnly K (Checked.call asFailure c : Checked σ c.Value) := ⟨hc, fun _ => trivial⟩

theorem now : CallsOnly K (Checked.now : Checked σ Nat) := fun _ => trivial

theorem sleep (ms : Nat) : CallsOnly K (Checked.sleep ms : Checked σ Unit) := trivial

end CallsOnly

end Checked

end RoutePreference
