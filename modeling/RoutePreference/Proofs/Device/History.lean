import RoutePreference.Proofs.Device.Reachable

/-!
# Histories

* `Event`: a request that is served, or the work that tokens call for;
* `Device.step`, `Device.after`: the device after one event, and after a list of them;
* `Device.replies`, `Device.repliesIn`: what is sent during one event, and during a list of them;
* `reachable_iff`: the reachable devices are those with a history;
* `foldl_throughout_iff`, `throughout_iff`: a property that lasts until a step breaks it lasts
  throughout a run exactly if no such step occurs.
-/

namespace RoutePreference

/-- If exactly the breaking steps end a property of the states of a machine, it lasts throughout a
run exactly if none of them occurs. -/
theorem foldl_throughout_iff {S A : Type} {f : S → A → S} {I P : S → Prop} {Breaks : S → A → Prop}
    (hinv : ∀ {s}, I s → ∀ a, I (f s a))
    (hstep : ∀ {s}, I s → P s → ∀ a, P (f s a) ↔ ¬ Breaks s a) {s : S} (hs : I s) (h0 : P s)
    (l : List A) :
    (∀ l', l' <+: l → P (l'.foldl f s)) ↔
      ∀ l' a, l' ++ [a] <+: l → ¬ Breaks (l'.foldl f s) a := by
  induction l generalizing s with
  | nil =>
    refine ⟨fun _ l' a hpre => ?_, fun _ l' hpre => ?_⟩
    · simp at hpre
    · rw [List.prefix_nil.1 hpre]
      exact h0
  | cons a l ih =>
    by_cases hb : Breaks s a
    · refine ⟨fun hP => ?_, fun hno => ?_⟩
      · exact absurd hb ((hstep hs h0 a).1 (hP [a] (by simp)))
      · exact absurd hb (hno [] a (by simp))
    · have hih := ih (hinv hs a) ((hstep hs h0 a).2 hb)
      refine ⟨fun hP l' a' hpre => ?_, fun hno l' hpre => ?_⟩
      · obtain _ | ⟨b, l'⟩ := l'
        · obtain rfl : a' = a := by simpa using hpre
          exact hb
        · obtain ⟨rfl, hl⟩ := List.cons_prefix_cons.1 hpre
          exact hih.1 (fun l hl => hP (b :: l) (List.cons_prefix_cons.2 ⟨rfl, hl⟩)) l' a' hl
      · obtain _ | ⟨b, l'⟩ := l'
        · exact h0
        · obtain ⟨rfl, hl⟩ := List.cons_prefix_cons.1 hpre
          exact hih.2 (fun l a' hl => hno (b :: l) a' (List.cons_prefix_cons.2 ⟨rfl, hl⟩)) l' hl

/-- What happens at a testbed. -/
inductive Event where
  /-- The request with the ticket is served. -/
  | serve (ticket : Nat) (r : Request)
  /-- The work that tokens call for is done. -/
  | process
deriving DecidableEq

namespace Device

variable {settings : Settings} {d : Device}

/-- The device after an event. -/
def step (d : Device) : Event → Device
  | .serve ticket r => (d.serve ticket r).1
  | .process => d.process.1

/-- What the testbed says at an event, and to whom. -/
def replies (d : Device) : Event → List (Nat × Answer)
  | .serve ticket r => (d.serve ticket r).2.toList.map fun a => (ticket, a)
  | .process => d.process.2

/-- The device after one event after the other. -/
def after (d : Device) (h : List Event) : Device := h.foldl step d

/-- All that the testbed says in the course of a history. -/
def repliesIn (d : Device) : List Event → List (Nat × Answer)
  | [] => []
  | e :: h => d.replies e ++ (d.step e).repliesIn h

@[simp] theorem after_nil (d : Device) : d.after [] = d := rfl

@[simp] theorem after_cons (d : Device) (e : Event) (h : List Event) :
    d.after (e :: h) = (d.step e).after h := rfl

theorem after_append (d : Device) (h h' : List Event) :
    d.after (h ++ h') = (d.after h).after h' := List.foldl_append

@[simp] theorem after_concat (d : Device) (h : List Event) (e : Event) :
    d.after (h ++ [e]) = (d.after h).step e := after_append d h [e]

theorem repliesIn_append (d : Device) (h h' : List Event) :
    d.repliesIn (h ++ h') = d.repliesIn h ++ (d.after h).repliesIn h' := by
  induction h generalizing d with
  | nil => rfl
  | cons e h ih => rw [List.cons_append, repliesIn, ih, repliesIn, List.append_assoc, after_cons]

/-! ### Reachable devices -/

theorem Reachable.step (hd : Reachable settings d) (e : Event) : Reachable settings (d.step e) := by
  cases e with
  | serve ticket r => exact hd.serve ticket r
  | process => exact hd.process

theorem Reachable.after (hd : Reachable settings d) (h : List Event) :
    Reachable settings (d.after h) := by
  induction h generalizing d with
  | nil => exact hd
  | cons e h ih => exact ih (hd.step e)

/-- The reachable devices are those with a history. -/
theorem reachable_iff : Reachable settings d ↔ ∃ h, d = (Device.start settings).after h := by
  constructor
  · intro hd
    induction hd with
    | start => exact ⟨[], rfl⟩
    | serve ticket r _ ih =>
      obtain ⟨h, rfl⟩ := ih
      exact ⟨h ++ [.serve ticket r], by rw [after_concat, Device.step]⟩
    | process _ ih =>
      obtain ⟨h, rfl⟩ := ih
      exact ⟨h ++ [.process], by rw [after_concat, Device.step]⟩
  · rintro ⟨h, rfl⟩
    exact Reachable.start.after h

/-! ### Properties that last -/

/-- If exactly the breaking events end a property, it lasts throughout a history exactly if none
of them occurs. -/
theorem throughout_iff {P : Device → Prop} {Breaks : Device → Event → Prop}
    (hstep : ∀ {d}, Reachable settings d → P d → ∀ e, P (d.step e) ↔ ¬ Breaks d e)
    (hd : Reachable settings d) (h0 : P d) (h : List Event) :
    (∀ h', h' <+: h → P (d.after h')) ↔
      ∀ h' e, h' ++ [e] <+: h → ¬ Breaks (d.after h') e :=
  foldl_throughout_iff (fun hd e => hd.step e) hstep hd h0 h

end Device

end RoutePreference
