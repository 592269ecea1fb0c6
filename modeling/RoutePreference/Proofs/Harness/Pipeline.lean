import RoutePreference.Proofs.Harness.Stages

/-!
# What the stages of a run come to

* `Run.Sent`: the traffic was started in the course of some calls;
* `trafficCheck_goes`, `validateTraffic_goes`: the last stage;
* `Run.Completed`: what is known when all stages have ended well;
* `stages_cases`: wherever the stages of a run end, either all have ended well, or what is held and
  what was noted can be told from the calls so far;
* `execute_of_ended`, `calls_of_ended`: a whole run, its report and its calls, by its stages and
  its teardown.
-/

namespace RoutePreference

namespace Run

variable {S : Type} {sc : Scenario} {w : Surroundings S} {cut : Option Nat}
variable {l after : List Call} {h held : Holdings} {log : List CallRecord}
variable {s : List CallRecord × S} {session reads : Nat}

/-! ### Calls of a traffic check -/

/-- The calls so far, while some traffic is sent. -/
def soFar (sc : Scenario) (session reads : Nat) (after : List Call) : List Call :=
  untilDynamicVerified sc session ++ trafficCalls sc reads after

theorem soFar_concat (c : Call) :
    soFar sc session reads after ++ [c] = soFar sc session reads (after ++ [c]) := by
  simp [soFar, trafficCalls]

theorem soFar_counters :
    soFar sc session reads [.counters sc.traffic.flowName] = soFar sc session (reads + 1) [] := by
  simp [soFar, trafficCalls, List.replicate_succ']

theorem prefix_course (session reads : Nat) (hafter : after <+: concluding sc) :
    soFar sc session reads after <+: course sc session reads := by
  simpa [soFar, course, trafficCalls] using hafter

/-- No leaf is read while traffic is sent. -/
theorem pathsRead_course (sc : Scenario) (session reads : Nat) :
    pathsRead (course sc session reads) = (checks sc).map (·.2) := by
  have hnone : pathsRead (trafficCalls sc reads (concluding sc)) = [] :=
    List.filterMap_eq_nil_iff.2 (forall_mem_trafficCalls rfl rfl rfl rfl)
  rw [course, pathsRead_append, hnone, List.append_nil, pathsRead_untilDynamicVerified]

theorem OnCourse.pathsRead_prefix (h : OnCourse sc l) :
    pathsRead l <+: (checks sc).map (·.2) := by
  obtain ⟨session, reads, h⟩ := h
  rw [← pathsRead_course sc session reads]
  exact h.filterMap _

/-- Whether the traffic was started in the course of some calls. -/
structure Sent (sc : Scenario) (l : List Call) : Prop where
  onCourse : OnCourse sc l
  started : .startFlow sc.traffic.flow ∈ l
  passed : (pathsRead l).length = 5

theorem sent_soFar (session reads : Nat) (hafter : after <+: concluding sc) :
    Sent sc (soFar sc session reads after) where
  onCourse := ⟨session, reads, prefix_course session reads hafter⟩
  started := by simp [soFar, trafficCalls]
  passed := by
    refine Nat.le_antisymm ?_ ?_
    · have hon : OnCourse sc (soFar sc session reads after) :=
        ⟨session, reads, prefix_course session reads hafter⟩
      exact hon.pathsRead_prefix.length_le
    · rw [soFar, pathsRead_append, pathsRead_untilDynamicVerified, List.length_append]
      exact Nat.le_add_right _ _

/-- What a run holds when it has passed all checks. -/
structure Verified (sc : Scenario) (h : Holdings) : Prop where
  flow : h.flow = none
  observations : h.observations = expectedObservations sc
  reached : h.reached = .dynamicVerified

/-- What a run holds while it sends traffic. -/
def sending (sc : Scenario) (h : Holdings) : Holdings :=
  { h with flow := some sc.traffic.flowName }

theorem Sent.observations (hl : Sent sc l) :
    (expectedObservations sc).take (pathsRead l).length = expectedObservations sc := by
  rw [hl.passed]
  rfl

theorem Sent.reached (hl : Sent sc l) (hv : Verified sc h) :
    (h.reached, (pathsRead l).length) ∈ progress := by
  rw [hl.passed, hv.reached]
  simp [progress]

/-- When a check of the traffic has failed, there is no flow to stop. -/
theorem Sent.failed (hl : Sent sc l) (hv : Verified sc h) : Stands sc false l h where
  onCourse := hl.onCourse
  flow := by rw [hv.flow, if_neg (by simp)]
  observations := by rw [hl.observations, hv.observations]
  reached := hl.reached hv

/-- When a check of the traffic is cut short, there is. -/
theorem Sent.interrupted (hl : Sent sc l) (hv : Verified sc h) :
    Stands sc true l (sending sc h) where
  onCourse := hl.onCourse
  flow := by rw [if_pos ⟨rfl, hl.started⟩]; rfl
  observations := by rw [hl.observations, sending, hv.observations]
  reached := show (h.reached, _) ∈ progress from hl.reached hv

/-! ### Sending traffic -/

/-- What is known while a flow is watched. -/
def Watching (sc : Scenario) (session : Nat) (h held : Holdings) (log : List CallRecord) : Prop :=
  ∃ reads, Knows sc (soFar sc session reads []) h held log

/-- What is known after a check of the traffic that has failed. -/
def Failing (sc : Scenario) (h held : Holdings) (log : List CallRecord) : Prop :=
  ∃ l, Sent sc l ∧ Knows sc l h held log

/-- What is known after a check of the traffic that has succeeded. -/
structure Through (sc : Scenario) (session : Nat) (h : Holdings) (result : TrafficResult)
    (held : Holdings) (log : List CallRecord) : Prop where
  knows : ∃ reads, Knows sc (course sc session reads) h held log
  flow : result.flow = sc.traffic.flowName
  lossRead : ⟨.loss sc.traffic.flowName, some (.ok result.loss)⟩ ∈ log
  noLoss : result.loss.isPositive = false

/-- The next call of a check of the traffic. -/
theorem trafficCall_goes {asFailure : CallError → RunError} {c : Call}
    {F : Holdings → List CallRecord → Prop} (hv : Verified sc h)
    (hk : Knows sc (soFar sc session reads after) (sending sc h) held s.1)
    (hc : pathRead? c = none) (hplain : acquires c = false)
    (hafter : after ++ [c] <+: concluding sc)
    (hF : ∀ held log, Knows sc (soFar sc session reads (after ++ [c])) (sending sc h) held log →
      F held log) :
    Goes sc w cut (fun v held log =>
        Knows sc (soFar sc session reads (after ++ [c])) (sending sc h) held log ∧
          ⟨c, some (.ok v)⟩ ∈ log)
      F held (Checked.call asFailure c) s := by
  have hsent := sent_soFar session reads hafter
  rw [← soFar_concat] at hF hsent ⊢
  exact .call hk hc (hsent.interrupted hv) (fun log => hF _ log)
    fun _ => ⟨hk.keep hc (.inl hplain), by simp⟩

/-- A read of the counters while the flow is watched. -/
theorem countersCall_goes {asFailure : CallError → RunError} (hv : Verified sc h)
    (hw : Watching sc session (sending sc h) held s.1) :
    Goes sc w cut (fun _ => Watching sc session (sending sc h)) (Watching sc session (sending sc h))
      held (Checked.call asFailure (.counters sc.traffic.flowName)) s := by
  obtain ⟨reads, hk⟩ := hw
  have hsent : Sent sc (soFar sc session reads [] ++ [.counters sc.traffic.flowName]) := by
    rw [soFar_concat, List.nil_append, soFar_counters]
    exact sent_soFar _ _ List.nil_prefix
  have hnext : ∀ {held log}, Knows sc (soFar sc session reads [] ++ [.counters sc.traffic.flowName])
      (sending sc h) held log → Watching sc session (sending sc h) held log := by
    intro held log hk
    rw [soFar_concat, List.nil_append, soFar_counters] at hk
    exact ⟨reads + 1, hk⟩
  exact .call hk rfl (hsent.interrupted hv) (fun _ => hnext) fun _ => hnext (hk.keep rfl (.inl rfl))

theorem observeFrom_goes (hv : Verified sc h) (wa : Watch) (packetCount deadline : Nat)
    (last : Option Nat) (stable budget : Nat) (hw : Watching sc session (sending sc h) held s.1) :
    Goes sc w cut (fun _ => Watching sc session (sending sc h)) (Watching sc session (sending sc h))
      held
      (TrafficCheck.observeFrom wa sc.traffic.flowName packetCount deadline last stable budget)
      s := by
  induction budget generalizing last stable held s with
  | zero => exact .pure hw
  | succ budget ih =>
    obtain ⟨reads, hk⟩ := hw
    have hcut := (sent_soFar session reads List.nil_prefix).interrupted hv
    refine .bind (.now hk) fun now held s hk => ?_
    split
    · exact .pure ⟨reads, hk⟩
    · refine .bind (.sleep hk hcut) fun _ held s hk => ?_
      refine .bind (countersCall_goes hv ⟨reads, hk⟩) fun c held s hw => ?_
      dsimp only
      split
      · exact .pure hw
      · exact ih _ _ hw

/-- Watching a flow does nothing but read its counters. -/
theorem observe_goes (hv : Verified sc h) (wa : Watch) (packetCount : Nat)
    (hw : Watching sc session (sending sc h) held s.1) :
    Goes sc w cut (fun _ => Watching sc session (sending sc h)) (Watching sc session (sending sc h))
      held (TrafficCheck.observe wa sc.traffic.flowName packetCount) s := by
  obtain ⟨reads, hk⟩ := hw
  exact .bind (.now hk) fun start held s hk => observeFrom_goes hv wa _ _ _ _ _ ⟨reads, hk⟩

theorem conclude_goes (hv : Verified sc h)
    (hk : Knows sc (soFar sc session reads [.stopFlow sc.traffic.flowName]) (sending sc h) held
      s.1) :
    Goes sc w cut (Through sc session (sending sc h)) (Failing sc (sending sc h)) held
      (TrafficCheck.conclude sc.traffic.flowName) s := by
  have hfail : ∀ {after}, after <+: concluding sc → ∀ held log,
      Knows sc (soFar sc session reads after) (sending sc h) held log →
        Failing sc (sending sc h) held log :=
    fun hafter _ _ hk => ⟨_, sent_soFar _ _ hafter, hk⟩
  have hcounters : [.stopFlow sc.traffic.flowName] ++ [.counters sc.traffic.flowName] <+:
      concluding sc := by simp [concluding]
  have hloss : [.stopFlow sc.traffic.flowName] ++ [.counters sc.traffic.flowName] ++
      [.loss sc.traffic.flowName] <+: concluding sc := by simp [concluding]
  refine .bind (trafficCall_goes hv hk rfl rfl hcounters (hfail hcounters))
    fun counters held s hk => ?_
  obtain ⟨hk, -⟩ := hk
  split
  · exact .throw (hfail hcounters _ _ hk)
  · refine .bind (trafficCall_goes hv hk rfl rfl hloss (hfail hloss)) fun loss held s hk => ?_
    obtain ⟨hk, hread⟩ := hk
    split
    · exact .throw (hfail hloss _ _ hk)
    · next hnone => exact .pure ⟨⟨reads, hk⟩, rfl, hread, by simpa using hnone⟩

/-- A check of the traffic, from the call that starts it. -/
theorem trafficCheck_goes (hv : Verified sc h) (wa : Watch)
    (hk : Knows sc (untilDynamicVerified sc session) (sending sc h) held s.1) :
    Goes sc w cut (Through sc session (sending sc h)) (Failing sc (sending sc h)) held
      (TrafficCheck.run wa sc.traffic.flow) s := by
  have hstart : untilDynamicVerified sc session ++ [.startFlow sc.traffic.flow] =
      soFar sc session 0 [] := by simp [soFar, trafficCalls]
  have hsent : Sent sc (soFar sc session 0 []) := sent_soFar _ _ List.nil_prefix
  have hstop : [] ++ [.stopFlow sc.traffic.flowName] <+: concluding sc := by simp [concluding]
  refine .bind (.call (E := fun _ => Watching sc session (sending sc h)) hk rfl
    (hstart ▸ hsent.interrupted hv) (fun _ hk => ⟨_, hsent, hstart ▸ hk⟩)
    fun _ => ⟨0, hstart ▸ hk.keep rfl (.inl rfl)⟩) fun _ held s hw => ?_
  refine .bind (.attempt (observe_goes hv _ _ hw)) fun observed held s hobserved => ?_
  -- the flow is stopped and the check goes on to the end, whatever the watch came to
  have hw : Watching sc session (sending sc h) held s.1 := by
    cases observed <;> exact hobserved
  obtain ⟨reads, hk⟩ := hw
  refine .bind (.attempt (trafficCall_goes hv hk rfl rfl hstop fun _ _ hk => hk))
    fun stopped held s hstopped => ?_
  have hk : Knows sc (soFar sc session reads [.stopFlow sc.traffic.flowName]) (sending sc h) held
      s.1 := by
    cases stopped with
    | ok _ => exact hstopped.1
    | error _ => exact hstopped
  have hfailing : Failing sc (sending sc h) held s.1 := ⟨_, sent_soFar _ _ hstop, hk⟩
  refine .settle (fun _ _ => .settle (fun _ _ => ?_) fun _ _ => hfailing) fun _ _ => hfailing
  exact conclude_goes hv hk

/-- What is noted of the loss of the flow. -/
def lossObservation (sc : Scenario) (loss : Binary32) : Observation where
  step := .trafficValidated
  subject := "flow " ++ sc.traffic.flowName ++ " loss-pct"
  value := some loss.text

/-- What is known when all stages have ended well. -/
structure Completed (sc : Scenario) (held : Holdings) (log : List CallRecord) : Prop where
  said : ∃ session reads, said sc log = course sc session reads
  flow : held.flow = none
  assets : assetsHeld held = assetsOf sc log
  /-- No loss was read last. -/
  observations : ∃ loss : Binary32, loss.isPositive = false ∧
    ⟨.loss sc.traffic.flowName, some (.ok loss)⟩ ∈ log ∧
      held.observations = expectedObservations sc ++ [lossObservation sc loss]

theorem validateTraffic_goes (hv : Verified sc h)
    (hk : Knows sc (untilDynamicVerified sc session) h held s.1) :
    Goes sc w cut (fun h' held log => held = h' ∧ Completed sc h' log) (Halted sc false) held
      (validateTraffic sc h) s := by
  have hfree : { sending sc h with flow := none } = h := by
    have hflow := hv.flow
    unfold sending
    cases h
    cases hflow
    rfl
  refine .note (.bind (.attempt (trafficCheck_goes hv _ ⟨rfl, hk.said, hk.assets⟩)) ?_)
  intro result held s hresult
  -- nothing is held of the flow any more, whether the check has failed or not
  refine .note ?_
  show Goes sc w cut _ _ { sending sc h with flow := none } _ s
  rw [hfree]
  refine .settle (fun result hok => ?_) fun e herror => ?_
  · subst hok
    obtain ⟨⟨reads, hk⟩, hflow, hread, hloss⟩ := hresult
    refine .holding ⟨rfl, ⟨session, reads, hk.said⟩, rfl, hk.assets, result.loss, hloss, hread, ?_⟩
    rw [← hv.observations, lossObservation, ← hflow]
    rfl
  · subst herror
    obtain ⟨l, hsent, hk⟩ := hresult
    exact Knows.halted ⟨rfl, hk.said, hk.assets⟩ (hsent.failed hv)

/-! ### All stages -/

theorem underway_start (sc : Scenario) : Underway sc [] (untilProvisioned sc) {} {} [] where
  knows := ⟨rfl, rfl, rfl⟩
  stands _ := {
    onCourse := ⟨0, 0, List.nil_prefix⟩
    flow := by rw [if_neg (by simp)]
    observations := rfl
    reached := by simp [progress, pathsRead] }
  ahead := onCourse_untilProvisioned sc

/-- **The stages of a run**, in order: each begins where the course has come to. -/
theorem pipeline_goes (s : S) :
    Goes sc w cut (fun _ held log => held.reached = .trafficValidated ∧ Completed sc held log)
      (Halted sc false) {} (pipeline sc) ([], s) := by
  refine .bind (provision_goes (underway_start sc)) fun h held s hp => ?_
  refine .bind (reach_goes hp (onCourse_untilStaticInstalled sc)
    (by simp [progress, pathsRead_untilProvisioned])) fun h held s hu => ?_
  refine .bind (installStatic_goes hu.2) fun h held s hp => ?_
  refine .bind (reach_goes hp (onCourse_untilStaticVerified sc)
    (by simp [progress, pathsRead_untilStaticInstalled])) fun h held s hu => ?_
  refine .bind (verify_goes rfl (by rw [pathsRead_untilStaticInstalled]; rfl) hu.2)
    fun h held s hp => ?_
  change Passed sc (untilStaticVerified sc) _ h held s.1 at hp
  refine .bind (reach_goes hp (onCourse_untilDynamicInstalled sc 0).step.of_append
    (by simp [progress, pathsRead_untilStaticVerified])) fun h held s hu => ?_
  refine .bind (installDynamic_goes hu.2) fun h held s hp => ?_
  obtain ⟨session, hp⟩ := hp
  refine .bind (reach_goes hp (onCourse_untilDynamicVerified sc session)
    (by simp [progress, pathsRead_untilDynamicInstalled])) fun h held s hu => ?_
  refine .bind (verifyDynamic_goes hu.2 hu.1) fun h held s hp => ?_
  refine .bind (G := fun h' held log => Verified sc h' ∧
    Knows sc (untilDynamicVerified sc session) h' held log) (.holding ?_) fun h held s hv => ?_
  · refine ⟨⟨hp.seen.flow, ?_, rfl⟩, rfl, hp.knows.said, hp.knows.assets⟩
    exact hp.seen.observations.trans (by rw [pathsRead_untilDynamicVerified]; rfl)
  refine .bind (validateTraffic_goes hv.1 hv.2) fun h held s hc => ?_
  obtain ⟨-, ⟨hsaid, hflow, hassets, hobserved⟩⟩ := hc
  refine .bind (G := fun _ held log => held.reached = .trafficValidated ∧ Completed sc held log)
    (.holding ⟨rfl, hsaid, hflow, hassets, hobserved⟩) fun _ held s hc => .pure hc

/-! ### Whole runs -/

/-- How the stages of a run end. -/
def stages (w : Surroundings S) (sc : Scenario) (cut : Option Nat) (s : S) :
    Procedure.Outcome Holdings (Except RunError Unit) S :=
  (pipeline sc).run.perform w cut {} s

/-- The calls of the stages of a run. -/
def stageCalls (w : Surroundings S) (sc : Scenario) (cut : Option Nat) (s : S) :
    List CallRecord :=
  (pipeline sc).run.transcript w cut {} s

/-- All calls of a run. -/
def calls (w : Surroundings S) (sc : Scenario) (run : Nat) (cut : Option Nat) (s : S) :
    List CallRecord :=
  (execute w.recorded sc run cut ([], s)).2.1

/-- **What the stages of a run come to**, wherever they end. -/
theorem stages_cases (w : Surroundings S) (sc : Scenario) (cut : Option Nat) (s : S) :
    ((∃ u, (stages w sc cut s).value = some (.ok u)) ∧
        (stages w sc cut s).held.reached = .trafficValidated ∧
        Completed sc (stages w sc cut s).held (stageCalls w sc cut s)) ∨
      ((∀ u, (stages w sc cut s).value ≠ some (.ok u)) ∧
        Halted sc (stages w sc cut s).value.isNone (stages w sc cut s).held
          (stageCalls w sc cut s)) := by
  have hgoes := @pipeline_goes S sc w cut s
  unfold Goes Checked.Ends Procedure.Ends Procedure.Outcome.Meets at hgoes
  rw [Procedure.perform_recorded, List.nil_append] at hgoes
  unfold stages stageCalls
  generalize (pipeline sc).run.perform w cut {} s = piped at hgoes ⊢
  generalize (pipeline sc).run.transcript w cut {} s = log at hgoes ⊢
  obtain ⟨value, held, after⟩ := piped
  match value with
  | none => exact .inr ⟨by simp, hgoes⟩
  | some (.error e) => exact .inr ⟨by simp, hgoes⟩
  | some (.ok u) => exact .inl ⟨⟨u, rfl⟩, hgoes⟩

/-- Whether the stages of a run end: on their own, or because they are cut short. -/
def HasEnded (w : Surroundings S) (sc : Scenario) (cut : Option Nat) (s : S) : Prop :=
  (stages w sc cut s).value = none → cut ≠ none

/-- How the teardown of a run ends. -/
def torn (w : Surroundings S) (sc : Scenario) (cut : Option Nat) (s : S) :
    Procedure.Outcome Unit (List RunError) S :=
  (teardown sc (stages w sc cut s).held).perform w none () (stages w sc cut s).after

/-- The report of a run with these failures in its teardown. -/
def reportOf (w : Surroundings S) (sc : Scenario) (run : Nat) (cut : Option Nat) (s : S)
    (errors : List RunError) : RunReport where
  run
  started := .ofMillis (w.now s)
  finished := .ofMillis (w.now (torn w sc cut s).after)
  reached := (stages w sc cut s).held.reached
  finalState := .tornDown
  failure := (failureOf (stages w sc cut s).value).map (·.failure)
  teardownErrors := errors.map (·.message)
  observations := (stages w sc cut s).held.observations

/-- A run whose stages have ended is torn down; its report needs the end of that, too. -/
theorem execute_of_ended {run : Nat} {s : S} (hended : HasEnded w sc cut s) :
    execute w sc run cut s =
      ((torn w sc cut s).value.map (reportOf w sc run cut s), (torn w sc cut s).after) := by
  have hgo : ¬ ((stages w sc cut s).value.isNone && cut.isNone) = true := by
    simpa [HasEnded] using hended
  unfold execute
  dsimp only
  rw [show (pipeline sc).run.perform w cut {} s = stages w sc cut s from rfl, if_neg hgo]
  rw [show (teardown sc (stages w sc cut s).held).perform w none () (stages w sc cut s).after =
    torn w sc cut s from rfl]
  cases (torn w sc cut s).value <;> rfl

theorem execute_of_not_ended {run : Nat} {s : S} (hended : ¬ HasEnded w sc cut s) :
    execute w sc run cut s = (none, (stages w sc cut s).after) := by
  have hgo : ((stages w sc cut s).value.isNone && cut.isNone) = true := by
    simpa [HasEnded] using hended
  exact if_pos hgo

/-- What a report says of a run, its teardown apart. -/
theorem report_of_execute {run : Nat} {s : S} {report : RunReport}
    (h : (execute w sc run cut s).1 = some report) :
    report.failure = (failureOf (stages w sc cut s).value).map (·.failure) ∧
      report.reached = (stages w sc cut s).held.reached ∧
      report.observations = (stages w sc cut s).held.observations := by
  by_cases hended : HasEnded w sc cut s
  · rw [execute_of_ended hended] at h
    obtain ⟨errors, -, rfl⟩ := Option.map_eq_some_iff.1 h
    exact ⟨rfl, rfl, rfl⟩
  · rw [execute_of_not_ended hended] at h
    cases h

theorem stages_recorded (w : Surroundings S) (sc : Scenario) (cut : Option Nat) (s : S) :
    stages w.recorded sc cut ([], s) = (stages w sc cut s).noting (stageCalls w sc cut s) :=
  Procedure.perform_recorded (pipeline sc).run {} [] s

/-- The calls of the teardown of a run. -/
def teardownCalls (w : Surroundings S) (sc : Scenario) (cut : Option Nat) (s : S) :
    List CallRecord :=
  (teardown sc (stages w sc cut s).held).transcript w none () (stages w sc cut s).after

/-- The calls of a run are those of its stages and those of its teardown. -/
theorem calls_of_ended {run : Nat} {s : S} (hended : HasEnded w sc cut s) :
    calls w sc run cut s = stageCalls w sc cut s ++ teardownCalls w sc cut s := by
  have hrecorded : HasEnded w.recorded sc cut ([], s) := by
    unfold HasEnded
    rw [stages_recorded]
    exact hended
  rw [calls, execute_of_ended hrecorded, torn, stages_recorded]
  show ((teardown sc (stages w sc cut s).held).perform w.recorded none ()
    (stageCalls w sc cut s, (stages w sc cut s).after)).after.1 = _
  rw [Procedure.perform_recorded]
  rfl

end Run

end RoutePreference
