import RoutePreference.Proofs.Harness.Triples

/-!
# Timelines

* `Surroundings.Timely`: surroundings whose clock shows the time that passes, and that answer every
  call at some time;
* `Sample`, `TimedCall`: a reply with the times of the call and of the reply;
* `Surroundings.timed`, `Procedure.timeline`: the calls that a procedure makes, with their times;
* `perform_timed`: noting down the times changes nothing;
* `Checked.Gives`: how a procedure that can fail ends when nothing cuts it short, with a rule for
  each step;
* `Timely.call`, `Timely.sleep`: how a call and a pause end in timely surroundings;
* `Surroundings.answering`: timely surroundings with replies and delays fixed beforehand.
-/

namespace RoutePreference

/-- Surroundings whose clock shows the time that passes, and that answer every call at some
time. -/
structure Surroundings.Timely {S : Type} (w : Surroundings S) : Prop where
  passes : ∀ t s, w.now s ≤ t → w.now (w.passUntil t s) = t
  answers : ∀ c s, (w.answer c none s).1.isSome
  onwards : ∀ c s, w.now s ≤ w.now (w.answer c none s).2

/-- A reply to a call, and when the call was made and the reply came. -/
structure Sample (α : Type) where
  begun : Nat
  reply : Except CallError α
  ended : Nat

/-- A call, when it was made, the reply that was heard, if one was, and when. -/
structure TimedCall where
  begun : Nat
  call : Call
  reply : Option call.Reply
  ended : Nat

/-- A call with its reply. -/
def Sample.of (c : Call) (x : Sample c.Value) : TimedCall :=
  { begun := x.begun, call := c, reply := some x.reply, ended := x.ended }

theorem Sample.map_begun_of (c : Call) (l : List (Sample c.Value)) :
    (l.map (Sample.of c)).map TimedCall.begun = l.map Sample.begun := by
  rw [List.map_map]
  rfl

variable {S : Type} {w : Surroundings S}

/-- Surroundings that note down every call with its times. -/
def Surroundings.timed (w : Surroundings S) : Surroundings (List TimedCall × S) where
  now s := w.now s.2
  passUntil t s := (s.1, w.passUntil t s.2)
  answer c limit s :=
    let answered := w.answer c limit s.2
    (answered.1, s.1 ++ [⟨w.now s.2, c, answered.1, w.now answered.2⟩], answered.2)

namespace Procedure

variable {σ α : Type} {cut : Option Nat}

/-- The calls that a procedure makes, in order, with their times. -/
def timeline (w : Surroundings S) (cut : Option Nat) (held : σ) (p : Procedure σ α) (s : S) :
    List TimedCall :=
  (p.perform w.timed cut held ([], s)).after.1

/-- An outcome without what was noted down. -/
def Outcome.forget {L : Type} (o : Outcome σ α (L × S)) : Outcome σ α S :=
  { value := o.value, held := o.held, after := o.after.2 }

/-- **Noting down the times changes nothing.** -/
theorem perform_timed (p : Procedure σ α) (held : σ) (log : List TimedCall) (s : S) :
    (p.perform w.timed cut held (log, s)).forget = p.perform w cut held s := by
  induction p generalizing held log s with
  | done a => rfl
  | record held' next ih => exact ih held' log s
  | clock next ih => exact ih (w.now s) held log s
  | pause ms next ih =>
    have hnow : w.timed.now (log, s) = w.now s := rfl
    simp only [perform, hnow]
    split
    · exact ih held log _
    · rfl
  | ask c next ih =>
    simp only [perform, Surroundings.timed]
    generalize w.answer c cut s = o
    obtain ⟨_ | r, s'⟩ := o
    · rfl
    · exact ih r held _ s'
  | askWithin ms c next ih =>
    have hnow : w.timed.now (log, s) = w.now s := rfl
    simp only [perform, hnow]
    split
    · exact ih _ held _ _
    · simp only [Surroundings.timed]
      generalize w.answer c cut s = o
      obtain ⟨_ | r, s'⟩ := o
      · rfl
      · exact ih (some r) held _ s'

end Procedure

namespace Checked

variable {σ α β : Type}

/-- Whether a procedure that nothing cuts short ends with the given value or failure, noting
nothing. -/
def Gives (w : Surroundings S) (p : Checked σ α) (s : S) (r : Except RunError α) (s' : S) : Prop :=
  ∀ held, p.run.perform w none held s = { value := some r, held, after := s' }

namespace Gives

variable {s s' s'' : S}

theorem pure (a : α) (s : S) : Gives w (Pure.pure a : Checked σ α) s (.ok a) s := fun _ => rfl

theorem throw (e : RunError) (s : S) :
    Gives w (MonadExcept.throw e : Checked σ α) s (.error e) s := fun _ => rfl

theorem ofExcept (r : Except RunError α) (s : S) :
    Gives w (Checked.ofExcept r : Checked σ α) s r s := fun _ => rfl

theorem now (s : S) : Gives w (Checked.now : Checked σ Nat) s (.ok (w.now s)) s := fun _ => rfl

theorem sleep (ms : Nat) (s : S) :
    Gives w (Checked.sleep ms : Checked σ Unit) s (.ok ()) (w.passUntil (w.now s + ms) s) :=
  fun _ => rfl

theorem ite_pos {c : Prop} [Decidable c] {p q : Checked σ α} {r : Except RunError α} (hc : c)
    (hp : Gives w p s r s') : Gives w (if c then p else q) s r s' := by
  rwa [if_pos hc]

theorem ite_neg {c : Prop} [Decidable c] {p q : Checked σ α} {r : Except RunError α} (hc : ¬ c)
    (hq : Gives w q s r s') : Gives w (if c then p else q) s r s' := by
  rwa [if_neg hc]

theorem bind {p : Checked σ α} {f : α → Checked σ β} {a : α} {r : Except RunError β}
    (hp : Gives w p s (.ok a) s') (hf : Gives w (f a) s' r s'') : Gives w (p >>= f) s r s'' := by
  intro held
  rw [run_bind, Procedure.perform_bind, hp held]
  exact hf held

theorem bind_error {p : Checked σ α} {f : α → Checked σ β} {e : RunError}
    (hp : Gives w p s (.error e) s') : Gives w (p >>= f) s (.error e) s' := by
  intro held
  rw [run_bind, Procedure.perform_bind, hp held]
  rfl

theorem map {p : Checked σ α} {r : Except RunError α} (f : α → β) (hp : Gives w p s r s') :
    Gives w (f <$> p) s (r.map f) s' := by
  rw [map_eq_pure_bind]
  cases r with
  | ok a => exact hp.bind (pure (f a) s')
  | error e => exact hp.bind_error

theorem attempt {p : Checked σ α} {r : Except RunError α} (hp : Gives w p s r s') :
    Gives w (Checked.attempt p) s (.ok r) s' := by
  intro held
  show (p.run.bind fun r => .done (Except.ok r)).perform w none held s = _
  rw [Procedure.perform_bind, hp held]
  rfl

theorem call {c : Call} {asFailure : CallError → RunError} {r : c.Reply}
    (h : w.answer c none s = (some r, s')) :
    Gives w (Checked.call asFailure c : Checked σ c.Value) s (r.mapError asFailure) s' := by
  intro held
  show (Procedure.ask c _).perform w none held s = _
  rw [Procedure.perform, h]
  rfl

/-- What a procedure ends with, and what it has noted down. -/
theorem performed {p : Checked σ α} {r : Except RunError α} {log : List TimedCall}
    (h : Gives w.timed p ([], s) r (log, s')) (held : σ) :
    (p.run.perform w none held s).value = some r ∧ p.run.timeline w none held s = log := by
  constructor
  · rw [← Procedure.perform_timed _ held [] s, h held]
    rfl
  · rw [Procedure.timeline, h held]

/-- The state that a procedure leaves. -/
theorem after {p : Checked σ α} {r : Except RunError α} {log : List TimedCall}
    (h : Gives w.timed p ([], s) r (log, s')) (held : σ) :
    (p.run.perform w none held s).after = s' := by
  rw [← Procedure.perform_timed _ held [] s, h held]
  rfl

end Gives

end Checked

namespace Surroundings.Timely

variable {σ : Type} (hw : w.Timely)

include hw

/-- A call is answered at some time, and noted down. -/
theorem call (asFailure : CallError → RunError) (c : Call) (log : List TimedCall) (s : S) :
    ∃ (x : Sample c.Value) (s' : S), x.begun = w.now s ∧ x.begun ≤ x.ended ∧ w.now s' = x.ended ∧
      Checked.Gives w.timed (Checked.call asFailure c : Checked σ c.Value) (log, s)
        (x.reply.mapError asFailure) (log ++ [x.of c], s') := by
  obtain ⟨r, hr⟩ := Option.isSome_iff_exists.1 (hw.answers c s)
  refine ⟨⟨w.now s, r, w.now (w.answer c none s).2⟩, (w.answer c none s).2, rfl, hw.onwards c s,
    rfl, Checked.Gives.call ?_⟩
  simp only [Surroundings.timed, hr, Sample.of]

/-- A pause takes as long as it should. -/
theorem sleep (ms : Nat) (log : List TimedCall) (s : S) :
    ∃ s' : S, w.now s' = w.now s + ms ∧
      Checked.Gives w.timed (Checked.sleep ms : Checked σ Unit) (log, s) (.ok ()) (log, s') :=
  ⟨w.passUntil (w.now s + ms) s, hw.passes _ s (Nat.le_add_right ..),
    Checked.Gives.sleep ms (log, s)⟩

end Surroundings.Timely

/-- The intervals that begin within some time last as long as that at least. -/
theorem le_intervals_mul {interval : Nat} (hpositive : 0 < interval) (time : Nat) :
    time ≤ (time + (interval - 1)) / interval * interval := by
  have hlt := Nat.lt_mul_div_succ (time + (interval - 1)) hpositive
  rw [Nat.mul_succ, Nat.mul_comm] at hlt
  omega

/-- Surroundings that answer each call as given, by its place in the order of all calls, and after
the time given. -/
def Surroundings.answering (replies : Nat → (c : Call) → c.Reply × Nat) :
    Surroundings (Nat × Nat) where
  now s := s.1
  passUntil t s := (max s.1 t, s.2)
  answer c _ s := (some (replies s.2 c).1, s.1 + (replies s.2 c).2, s.2 + 1)

theorem Surroundings.answering_timely (replies : Nat → (c : Call) → c.Reply × Nat) :
    (Surroundings.answering replies).Timely where
  passes _ _ h := Nat.max_eq_right h
  answers _ _ := rfl
  onwards _ _ := Nat.le_add_right ..

end RoutePreference
