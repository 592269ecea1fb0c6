import RoutePreference.Proofs.Harness.Timeline

/-!
# Polling a leaf

* `Convergence.Verdict`: what the last read of a leaf leads to;
* `Convergence.Polling`: the reads of a leaf from some time on, one case for each way to go on;
* `gives_awaitUntil`: waiting for a leaf leads to such reads, and never runs out of them;
* `Polling.length_le`, `Polling.first`, `Polling.apart`, `Polling.pending`, `Polling.last`: how many
  reads there are, when they are made, and what they show;
* `Polling.prompt`: when they are made if every answer is immediate;
* `await_polls`: waiting for a leaf ends with what was read.
-/

namespace RoutePreference

namespace Convergence

variable {σ S : Type} {w : Surroundings S} {c : Convergence} {path : StatePath} {expected : String}
  {deadline b : Nat} {reads : List (Sample (Option String))} {result : Except RunError Sighting}

/-- What the last read of a leaf leads to: a failed one to a failure, a match to success even if it
comes late, and anything else to a failure that tells for how long which value was awaited, and what
was read when time was up. -/
def Verdict (c : Convergence) (path : StatePath) (expected : String) (deadline : Nat)
    (r : Sample (Option String)) (result : Except RunError Sighting) : Prop :=
  match r.reply with
  | .error e => result = .error (.telemetryRead path.text e)
  | .ok v =>
    if v = some expected then result = .ok { observed := v, matched := true }
    else deadline ≤ r.ended ∧
      result = .error (.convergenceTimeout path.text expected v c.timeout)

/-- Whether a read is one to go on after: it shows something else, and there is time left. -/
def Pending (expected : String) (deadline : Nat) (r : Sample (Option String)) : Prop :=
  (∃ v, r.reply = .ok v ∧ v ≠ some expected) ∧ r.ended < deadline

/-- The time of the read that follows a given one. -/
def next (c : Convergence) (deadline : Nat) (r : Sample (Option String)) : Nat :=
  r.ended + min c.interval (deadline - r.ended)

/-- With every read there is one interval less left. -/
theorem left_next {r : Sample (Option String)} {n : Nat} (honwards : r.begun ≤ r.ended)
    (hpending : Pending expected deadline r)
    (hleft : deadline - r.begun ≤ (n + 1) * c.interval) :
    deadline - c.next deadline r ≤ n * c.interval := by
  have hearly := hpending.2
  rw [Nat.succ_mul] at hleft
  unfold next
  omega

/-- The reads of a leaf from some time on, and what they lead to. -/
inductive Polling (c : Convergence) (path : StatePath) (expected : String) (deadline : Nat) :
    Nat → List (Sample (Option String)) → Except RunError Sighting → Prop where
  | last {r : Sample (Option String)} {result : Except RunError Sighting}
    (verdict : c.Verdict path expected deadline r result) :
    Polling c path expected deadline r.begun [r] result
  | again {r : Sample (Option String)} {reads : List (Sample (Option String))}
    {result : Except RunError Sighting} (onwards : r.begun ≤ r.ended)
    (pending : Pending expected deadline r)
    (rest : Polling c path expected deadline (c.next deadline r) reads result) :
    Polling c path expected deadline r.begun (r :: reads) result

/-! ### The loop -/

theorem gives_poll (hw : w.Timely) (path : StatePath) (expected : String) (log : List TimedCall)
    (s : S) :
    ∃ (r : Sample (Option String)) (s' : S), r.begun = w.now s ∧ r.begun ≤ r.ended ∧
      w.now s' = r.ended ∧
      Checked.Gives w.timed (poll path expected : Checked σ Sighting) (log, s)
        ((r.reply.mapError (.telemetryRead path.text)).map (sighting expected))
        (log ++ [r.of (.read path)], s') := by
  obtain ⟨r, s', hbegun, honwards, hended, hgives⟩ :=
    hw.call (σ := σ) (.telemetryRead path.text) (.read path) log s
  exact ⟨r, s', hbegun, honwards, hended, hgives.map _⟩

/-- One round: the read is the last one, or one to go on after. -/
theorem gives_round (hw : w.Timely) (c : Convergence) (path : StatePath) (expected : String)
    (deadline n : Nat) (log : List TimedCall) (s : S) :
    ∃ (r : Sample (Option String)) (s' : S), r.begun = w.now s ∧ r.begun ≤ r.ended ∧
      ((∃ result, c.Verdict path expected deadline r result ∧
          Checked.Gives w.timed (c.awaitUntil path expected deadline (n + 1) : Checked σ Sighting)
            (log, s) result (log ++ [r.of (.read path)], s')) ∨
        (Pending expected deadline r ∧ w.now s' = c.next deadline r ∧ ∀ result t,
          Checked.Gives w.timed (c.awaitUntil path expected deadline n : Checked σ Sighting)
            (log ++ [r.of (.read path)], s') result t →
          Checked.Gives w.timed (c.awaitUntil path expected deadline (n + 1) : Checked σ Sighting)
            (log, s) result t)) := by
  obtain ⟨r, s', hbegun, honwards, hended, hpoll⟩ :=
    gives_poll (σ := σ) hw path expected log s
  cases hreply : r.reply with
  | error e =>
    rw [hreply] at hpoll
    refine ⟨r, s', hbegun, honwards, .inl ⟨.error (.telemetryRead path.text e), ?_, ?_⟩⟩
    · simp only [Verdict, hreply]
    · exact hpoll.bind_error
  | ok v =>
    rw [hreply] at hpoll
    by_cases hv : v = some expected
    · refine ⟨r, s', hbegun, honwards, .inl ⟨.ok { observed := v, matched := true }, ?_, ?_⟩⟩
      · simp only [Verdict, hreply, if_pos hv]
      · refine hpoll.bind ?_
        have hmatched : sighting expected v = { observed := v, matched := true } := by
          simp [sighting, hv]
        rw [hmatched]
        exact .pure _ _
    · have hmatched : (sighting expected v).matched = false := by simp [sighting, hv]
      by_cases hlate : deadline ≤ r.ended
      · refine ⟨r, s', hbegun, honwards, .inl ⟨.error (c.timedOut path expected v), ?_, ?_⟩⟩
        · simp only [Verdict, hreply, if_neg hv]
          exact ⟨hlate, rfl⟩
        · refine hpoll.bind ?_
          rw [hmatched]
          refine Checked.Gives.bind (Checked.Gives.now _) ?_
          exact .ite_pos (hended ▸ hlate) (.throw _ _)
      · obtain ⟨s'', hpassed, hsleep⟩ := hw.sleep (σ := σ)
          (Nat.min c.interval (deadline - w.now s')) (log ++ [r.of (.read path)]) s'
        refine ⟨r, s'', hbegun, honwards, .inr ⟨⟨⟨v, hreply, hv⟩, by omega⟩, ?_, ?_⟩⟩
        · rw [hpassed, hended]
          rfl
        · intro result t hrest
          refine hpoll.bind ?_
          rw [hmatched]
          refine Checked.Gives.bind (Checked.Gives.now _) ?_
          exact .ite_neg (hended ▸ hlate) (hsleep.bind hrest)

/-- As many reads as there are intervals left, and one more, are enough. -/
theorem gives_awaitUntil (hw : w.Timely) (c : Convergence) (path : StatePath) (expected : String)
    (deadline n : Nat) {s : S}
    (henough : deadline - w.now s ≤ n * c.interval) (log : List TimedCall) :
    ∃ reads result s',
      Checked.Gives w.timed (c.awaitUntil path expected deadline (n + 1) : Checked σ Sighting)
        (log, s) result (log ++ reads.map (Sample.of (.read path)), s') ∧
      Polling c path expected deadline (w.now s) reads result := by
  induction n generalizing s log with
  | zero =>
    obtain ⟨r, s', hbegun, honwards, ⟨result, hverdict, hgives⟩ | ⟨hpending, -⟩⟩ :=
      gives_round (σ := σ) hw c path expected deadline 0 log s
    · exact ⟨[r], result, s', hgives, hbegun ▸ .last hverdict⟩
    -- No time is left, so that a read can't end before the deadline.
    · have hearly := hpending.2
      omega
  | succ n ih =>
    obtain ⟨r, s', hbegun, honwards, ⟨result, hverdict, hgives⟩ | ⟨hpending, hnext, hgives⟩⟩ :=
      gives_round (σ := σ) hw c path expected deadline (n + 1) log s
    · exact ⟨[r], result, s', hgives, hbegun ▸ .last hverdict⟩
    · have hleft : deadline - w.now s' ≤ n * c.interval := by
        rw [hnext]
        exact left_next honwards hpending (hbegun ▸ henough)
      obtain ⟨reads, result, s'', hrest, hpolling⟩ := ih hleft (log ++ [r.of (.read path)])
      refine ⟨r :: reads, result, s'', ?_, hbegun ▸ .again honwards hpending (hnext ▸ hpolling)⟩
      have hgives' := hgives result _ hrest
      rwa [List.append_assoc] at hgives'

/-! ### What the reads are -/

namespace Polling

theorem length_le (h : Polling c path expected deadline b reads result) {n : Nat}
    (hleft : deadline - b ≤ n * c.interval) : reads.length ≤ n + 1 := by
  induction h generalizing n with
  | last => simp
  | @again r reads result honwards hpending _ ih =>
    cases n with
    | zero =>
      have hearly := hpending.2
      omega
    | succ n => exact Nat.succ_le_succ (ih (left_next honwards hpending hleft))

theorem first (h : Polling c path expected deadline b reads result) :
    ∃ r rest, reads = r :: rest ∧ r.begun = b := by
  cases h with
  | last => exact ⟨_, [], rfl, rfl⟩
  | again => exact ⟨_, _, rfl, rfl⟩

theorem apart (h : Polling c path expected deadline b reads result) {k : Nat}
    {r r' : Sample (Option String)} (hr : reads[k]? = some r) (hr' : reads[k + 1]? = some r') :
    r'.begun = c.next deadline r := by
  induction h generalizing k with
  | last => cases hr'
  | again _ _ hrest ih =>
    cases k with
    | zero =>
      obtain ⟨r₁, rest, rfl, hbegun⟩ := hrest.first
      cases hr
      cases hr'
      exact hbegun
    | succ k => exact ih hr hr'

theorem pending (h : Polling c path expected deadline b reads result) :
    ∀ r ∈ reads.dropLast, Pending expected deadline r := by
  induction h with
  | last => simp
  | again _ hpending hrest ih =>
    obtain ⟨r₁, rest, rfl, -⟩ := hrest.first
    rw [List.dropLast_cons_cons]
    exact List.forall_mem_cons.2 ⟨hpending, ih⟩

theorem verdict (h : Polling c path expected deadline b reads result) :
    ∃ r, reads.getLast? = some r ∧ c.Verdict path expected deadline r result := by
  induction h with
  | last hverdict => exact ⟨_, rfl, hverdict⟩
  | again _ _ hrest ih =>
    obtain ⟨r, hlast, hverdict⟩ := ih
    refine ⟨r, ?_, hverdict⟩
    rw [List.getLast?_cons, hlast]
    rfl

/-- If every answer is immediate, the reads are made at regular intervals, and when time is up. -/
theorem prompt (h : Polling c path expected deadline b reads result) (hb : b ≤ deadline)
    (hprompt : ∀ r ∈ reads, r.ended = r.begun) {k : Nat} {r : Sample (Option String)}
    (hr : reads[k]? = some r) : r.begun = min (b + k * c.interval) deadline := by
  induction h generalizing k with
  | last =>
    cases k with
    | zero =>
      cases hr
      omega
    | succ k => cases hr
  | @again r₀ reads result _ hpending hrest ih =>
    have hended := hprompt r₀ (List.mem_cons_self ..)
    have hearly := hpending.2
    cases k with
    | zero =>
      cases hr
      omega
    | succ k =>
      have hnext := ih (by unfold next; omega)
        (fun r hr => hprompt r (List.mem_cons_of_mem _ hr)) hr
      rw [hnext, next, Nat.succ_mul]
      omega

end Polling

/-! ### Waiting for a leaf -/

/-- The reads that waiting for a leaf makes, and what it ends with. -/
structure Awaited (c : Convergence) (path : StatePath) (expected : String) (start : Nat)
    (reads : List (Sample (Option String))) (result : Except RunError Sighting) : Prop where
  /-- One read for each interval that has begun before the deadline, and one more. -/
  few : reads.length ≤ (c.timeout + (c.interval - 1)) / c.interval + 1
  first : ∃ r rest, reads = r :: rest ∧ r.begun = start
  apart : ∀ k r r', reads[k]? = some r → reads[k + 1]? = some r' →
    r'.begun = r.ended + min c.interval (start + c.timeout - r.ended)
  /-- The reads before the last one show something else, in time. -/
  pending : ∀ r ∈ reads.dropLast,
    (∃ v, r.reply = .ok v ∧ v ≠ some expected) ∧ r.ended < start + c.timeout
  verdict : ∃ r, reads.getLast? = some r ∧
    c.Verdict path expected (start + c.timeout) r result
  prompt : (∀ r ∈ reads, r.ended = r.begun) → ∀ k r, reads[k]? = some r →
    r.begun = start + min (k * c.interval) c.timeout

theorem Polling.awaited {start : Nat} (hpositive : 0 < c.interval)
    (h : Polling c path expected (start + c.timeout) start reads result) :
    Awaited c path expected start reads result where
  few := by
    have henough := le_intervals_mul hpositive c.timeout
    exact h.length_le (by omega)
  first := h.first
  apart _ _ _ hr hr' := h.apart hr hr'
  pending := h.pending
  verdict := h.verdict
  prompt hprompt k r hr := by
    have hbegun := h.prompt (Nat.le_add_right ..) hprompt hr
    omega

/-- The reads never run out. -/
theorem enough_reads (hpositive : 0 < c.interval) :
    ∃ n, c.readBudget = n + 1 ∧ c.timeout ≤ n * c.interval := by
  refine ⟨c.timeout / c.interval + 1, ?_, ?_⟩
  · exact if_neg (Nat.pos_iff_ne_zero.1 hpositive)
  · rw [Nat.mul_comm]
    exact Nat.le_of_lt (Nat.lt_mul_div_succ c.timeout hpositive)

/-- **Waiting for a leaf ends with what was read**: with the first read that shows the expected
value, even if it comes late, with the first one that fails, or with the first one that comes when
time is up.  The reads follow each other at the interval, and the last one that may be necessary is
made when time is up, so there are at most as many as intervals begin, and one more. -/
theorem await_polls (hw : w.Timely) (hpositive : 0 < c.interval) (path : StatePath)
    (expected : String) (held : σ) (s : S) :
    ∃ reads result,
      ((c.await path expected : Checked σ Sighting).run.perform w none held s).value =
        some result ∧
      (c.await path expected : Checked σ Sighting).run.timeline w none held s =
        reads.map (Sample.of (.read path)) ∧
      Awaited c path expected (w.now s) reads result := by
  obtain ⟨n, hbudget, henough⟩ := enough_reads hpositive
  obtain ⟨reads, result, s', hgives, hpolling⟩ :=
    gives_awaitUntil (σ := σ) hw c path expected (w.now s + c.timeout) n (s := s) (by omega) []
  have hawait : Checked.Gives w.timed (c.await path expected : Checked σ Sighting) ([], s) result
      (reads.map (Sample.of (.read path)), s') := by
    refine Checked.Gives.bind (Checked.Gives.now _) ?_
    rw [hbudget]
    exact hgives
  obtain ⟨hvalue, htimeline⟩ := hawait.performed held
  exact ⟨reads, result, hvalue, htimeline, hpolling.awaited hpositive⟩

/-- A leaf that is missing at first; each read takes ten milliseconds. -/
def appearing : Nat → (c : Call) → c.Reply × Nat
  | n, .read _ => (.ok (if n < 2 then none else some "L3VRF"), 10)
  | _, _ => (.error .unavailable, 0)

/-- A leaf that shows something else all the time. -/
def stuck : Nat → (c : Call) → c.Reply × Nat
  | _, .read _ => (.ok (some "DEFAULT_INSTANCE"), 10)
  | _, _ => (.error .unavailable, 0)

/-- A read every forty milliseconds, for seventy-five of them. -/
def impatient : Convergence := { timeout := 75, interval := 40 }

/-- The third read is made when time is up: one leaf shows the value by then, the other one
doesn't. -/
theorem await_polls_impatient :
    (∃ reads, Awaited impatient (.instanceType "VRF") "L3VRF" 0 reads
        (.ok { observed := some "L3VRF", matched := true }) ∧
      reads.map Sample.begun = [0, 50, 75]) ∧
    ∃ reads, Awaited impatient (.instanceType "VRF") "L3VRF" 0 reads
        (.error (.convergenceTimeout (StatePath.instanceType "VRF").text "L3VRF"
          (some "DEFAULT_INSTANCE") 75)) ∧
      reads.map Sample.begun = [0, 50, 75] := by
  have hruns : ∀ shows result,
      ((impatient.await (.instanceType "VRF") "L3VRF" : Checked Unit Sighting).run.perform
        (.answering shows) none () (0, 0)).value = some result →
      ((impatient.await (.instanceType "VRF") "L3VRF" : Checked Unit Sighting).run.timeline
        (.answering shows) none () (0, 0)).map TimedCall.begun = [0, 50, 75] →
      ∃ reads, Awaited impatient (.instanceType "VRF") "L3VRF" 0 reads result ∧
        reads.map Sample.begun = [0, 50, 75] := by
    intro shows result hresult hbegun
    obtain ⟨reads, result', hvalue, htimeline, hawaited⟩ := await_polls (c := impatient)
      (Surroundings.answering_timely shows) (by decide) (.instanceType "VRF") "L3VRF" () (0, 0)
    rw [htimeline, Sample.map_begun_of (.read _) reads] at hbegun
    exact ⟨reads, Option.some.inj (hvalue.symm.trans hresult) ▸ hawaited, hbegun⟩
  exact ⟨hruns appearing _ rfl rfl, hruns stuck _ rfl rfl⟩

end Convergence

end RoutePreference
