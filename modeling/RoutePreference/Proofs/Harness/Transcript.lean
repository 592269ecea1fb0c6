import RoutePreference.Proofs.Harness.Triples

/-!
# Transcripts

* `CallRecord`: a call and the reply that was heard, if one was;
* `Surroundings.recorded`: surroundings that note down the calls and otherwise answer as before;
* `Procedure.transcript`: the calls that a procedure makes, in order;
* `perform_recorded`: recording adds the transcript, and changes nothing.
-/

namespace RoutePreference

/-- A call, and the reply that was heard, if one was. -/
structure CallRecord where
  call : Call
  reply : Option call.Reply

/-- Surroundings that note down every call. -/
def Surroundings.recorded {S : Type} (w : Surroundings S) : Surroundings (List CallRecord × S) where
  now s := w.now s.2
  passUntil t s := (s.1, w.passUntil t s.2)
  answer c limit s :=
    let answered := w.answer c limit s.2
    (answered.1, s.1 ++ [⟨c, answered.1⟩], answered.2)

/-- A call is noted down with its reply. -/
theorem Surroundings.recorded_answer {S : Type} {w : Surroundings S} {c : Call}
    {limit : Option Nat} {s : List CallRecord × S} {r : Option c.Reply}
    (h : (w.recorded.answer c limit s).1 = r) :
    (w.recorded.answer c limit s).2 = (s.1 ++ [⟨c, r⟩], (w.answer c limit s.2).2) := by
  subst h
  rfl

namespace Procedure

variable {σ α β S : Type} {w : Surroundings S} {cut : Option Nat}

/-- The calls that a procedure makes, in order. -/
def transcript (w : Surroundings S) (cut : Option Nat) (held : σ) (p : Procedure σ α) (s : S) :
    List CallRecord :=
  (p.perform w.recorded cut held ([], s)).after.1

/-- An outcome with what was noted down before it and in its course. -/
def Outcome.noting (o : Outcome σ α S) (log : List CallRecord) :
    Outcome σ α (List CallRecord × S) :=
  { value := o.value, held := o.held, after := (log, o.after) }

/-- How a procedure goes on after a call, unless it was cut short. -/
def resume {ρ : Type} (w : Surroundings S) (cut : Option Nat) (held : σ)
    (next : ρ → Procedure σ α) : Option ρ → S → Outcome σ α S
  | some r, s => (next r).perform w cut held s
  | none, s => { value := none, held, after := s }

theorem perform_ask (c : Call) (next : c.Reply → Procedure σ α) (held : σ) (s : S) :
    (ask c next).perform w cut held s =
      resume w cut held next (w.answer c cut s).1 (w.answer c cut s).2 := by
  rw [perform]
  generalize w.answer c cut s = o
  obtain ⟨_ | r, s'⟩ := o <;> rfl

theorem perform_askWithin (ms : Nat) (c : Call) (next : Option c.Reply → Procedure σ α) (held : σ)
    (s : S) :
    (askWithin ms c next).perform w cut held s =
      if isBefore (w.now s + ms) cut then
        (next (w.answer c (some (w.now s + ms)) s).1).perform w cut held
          (w.answer c (some (w.now s + ms)) s).2
      else
        resume w cut held (fun r => next (some r)) (w.answer c cut s).1 (w.answer c cut s).2 := by
  rw [perform]
  dsimp only
  split
  · rfl
  · generalize w.answer c cut s = o
    obtain ⟨_ | r, s'⟩ := o <;> rfl

/-- Whether a procedure notes down the same, whatever was noted down before. -/
def Records (w : Surroundings S) (cut : Option Nat) (held : σ) (p : Procedure σ α) (s : S) : Prop :=
  ∃ more, ∀ log : List CallRecord,
    p.perform w.recorded cut held (log, s) = (p.perform w cut held s).noting (log ++ more)

/-- After a call that was noted down, the rest notes down the same. -/
theorem resume_recorded {ρ : Type} {next : ρ → Procedure σ α} {held : σ}
    (h : ∀ r s, Records w cut held (next r) s) (x : CallRecord) (r : Option ρ) (s : S) :
    ∃ more, ∀ log : List CallRecord,
      resume w.recorded cut held next r (log ++ [x], s) =
        (resume w cut held next r s).noting (log ++ more) := by
  cases r with
  | none => exact ⟨[x], fun log => rfl⟩
  | some r =>
    obtain ⟨more, hmore⟩ := h r s
    refine ⟨x :: more, fun log => ?_⟩
    rw [List.append_cons log x more]
    exact hmore (log ++ [x])

theorem records (p : Procedure σ α) (held : σ) (s : S) : Records w cut held p s := by
  induction p generalizing held s with
  | done a => exact ⟨[], fun log => by rw [List.append_nil]; rfl⟩
  | record held' next ih => exact ih held' s
  | clock next ih => exact ih (w.now s) held s
  | pause ms next ih =>
    have hnow : ∀ log : List CallRecord, w.recorded.now (log, s) = w.now s := fun _ => rfl
    unfold Records
    simp only [perform, hnow]
    split
    · exact ih held (w.passUntil (w.now s + ms) s)
    · exact ⟨[], fun log => by rw [List.append_nil]; rfl⟩
  | ask c next ih =>
    unfold Records
    simp only [perform_ask]
    exact resume_recorded (fun r s => ih r held s) ⟨c, (w.answer c cut s).1⟩
      (w.answer c cut s).1 (w.answer c cut s).2
  | askWithin ms c next ih =>
    have hnow : ∀ log : List CallRecord, w.recorded.now (log, s) = w.now s := fun _ => rfl
    unfold Records
    simp only [perform_askWithin, hnow]
    split
    · generalize some (w.now s + ms) = limit
      exact resume_recorded (fun r s => ih r held s) ⟨c, (w.answer c limit s).1⟩
        (some (w.answer c limit s).1) (w.answer c limit s).2
    · exact resume_recorded (fun r s => ih (some r) held s) ⟨c, (w.answer c cut s).1⟩
        (w.answer c cut s).1 (w.answer c cut s).2

/-- **Recording changes nothing**, and adds to what was noted down before. -/
theorem perform_recorded (p : Procedure σ α) (held : σ) (log : List CallRecord) (s : S) :
    p.perform w.recorded cut held (log, s) =
      (p.perform w cut held s).noting (log ++ p.transcript w cut held s) := by
  obtain ⟨more, hmore⟩ : ∃ more, ∀ log : List CallRecord,
      p.perform w.recorded cut held (log, s) = (p.perform w cut held s).noting (log ++ more) :=
    p.records held s
  have htranscript : p.transcript w cut held s = more := by
    rw [transcript, hmore]
    exact List.nil_append more
  rw [htranscript, hmore]

end Procedure

end RoutePreference
