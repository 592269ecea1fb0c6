import RoutePreference.Bench.Faults
import RoutePreference.Proofs.Harness.Pipeline

/-!
# The order of the stages of a run, and what is reported of them

* `stageOf`: the stage that a call belongs to;
* `InOrder`: lists of calls each of which comes after the checks of the stages before its own, and
  before all others;
* `inOrder_course`: the course of a run is one;
* `stages_strictly_sequential`: so are the calls that a run makes, whatever they are answered, and
  its report tells what was checked.
-/

namespace RoutePreference

namespace Run

variable {sc : Scenario} {l l' : List Call} {passed : List StatePath} {c : Call}
variable {state : RunState}

/-! ### Calls and their stages -/

/-- The stage that a call of a run belongs to, by the state that the stage leads to, unless the
call is a read or one of the teardown. -/
def stageOf : Call → Option RunState
  | .configureDut _ | .configureAte _ | .startProtocols | .replaceInstance _ => some .provisioned
  | .replaceStatic _ => some .staticInstalled
  | .openSession _ | .modify _ _ => some .dynamicInstalled
  | .startFlow _ | .stopFlow _ | .counters _ | .loss _ => some .trafficValidated
  | _ => none

/-- The leaves that are checked before a stage. -/
def earlierChecks (sc : Scenario) (state : RunState) : List StatePath :=
  ((checks sc).filter fun c => (compare c.1 state).isLT).map (·.2)

/-- Whether each call is a read, or comes when the leaves that are checked before its stage were
read, and no others. -/
def InOrder (sc : Scenario) : List StatePath → List Call → Prop
  | _, [] => True
  | passed, c :: l =>
    ((pathRead? c).isSome ∨ ∃ state, stageOf c = some state ∧ passed = earlierChecks sc state) ∧
      InOrder sc (passed ++ (pathRead? c).toList) l

theorem pathRead?_of_stageOf (h : stageOf c = some state) : pathRead? c = none := by
  cases c <;> first | rfl | cases h

theorem inOrder_append : InOrder sc passed (l ++ l') ↔
    InOrder sc passed l ∧ InOrder sc (passed ++ pathsRead l) l' := by
  induction l generalizing passed with
  | nil => simp [InOrder, pathsRead]
  | cons c l ih =>
    have hcons : pathsRead (c :: l) = (pathRead? c).toList ++ pathsRead l :=
      pathsRead_append [c] l
    rw [List.cons_append, InOrder, InOrder, ih, hcons, List.append_assoc, and_assoc]

/-- The calls of one stage. -/
theorem inOrder_of_stage (h : ∀ c ∈ l, stageOf c = some state) :
    InOrder sc (earlierChecks sc state) l := by
  induction l with
  | nil => trivial
  | cons c l ih =>
    obtain ⟨hc, hl⟩ := List.forall_mem_cons.1 h
    refine ⟨.inr ⟨state, hc, rfl⟩, ?_⟩
    rw [pathRead?_of_stageOf hc, Option.toList_none, List.append_nil]
    exact ih hl

/-- A call comes after what its stage needs, wherever it comes. -/
theorem InOrder.call (h : InOrder sc [] (l ++ c :: l')) :
    (pathRead? c).isSome ∨ ∃ state, stageOf c = some state ∧ pathsRead l = earlierChecks sc state :=
  (inOrder_append.1 h).2.1

/-- **The course of a run is in order.** -/
theorem inOrder_course (sc : Scenario) (session reads : Nat) :
    InOrder sc [] (course sc session reads) := by
  have hlinks : ∀ c ∈ linkCalls sc sc.links, stageOf c = some .provisioned :=
    forall_mem_linkCalls (fun _ => rfl) fun _ => rfl
  have htraffic : ∀ c ∈ trafficCalls sc reads (concluding sc), stageOf c = some .trafficValidated :=
    forall_mem_trafficCalls rfl rfl rfl rfl
  unfold course
  rw [inOrder_append, List.nil_append, pathsRead_untilDynamicVerified]
  refine ⟨?_, inOrder_of_stage htraffic⟩
  unfold untilDynamicVerified untilDynamicInstalled untilStaticVerified untilStaticInstalled
    untilProvisioned
  simp only [List.append_assoc]
  rw [inOrder_append, pathsRead_linkCalls]
  refine ⟨inOrder_of_stage hlinks, ?_⟩
  exact ⟨.inr ⟨_, rfl, rfl⟩, .inr ⟨_, rfl, rfl⟩, .inl rfl, .inr ⟨_, rfl, rfl⟩, .inl rfl, .inl rfl,
    .inr ⟨_, rfl, rfl⟩, .inr ⟨_, rfl, rfl⟩, .inr ⟨_, rfl, rfl⟩, .inr ⟨_, rfl, rfl⟩, .inl rfl,
    .inl rfl, trivial⟩

/-! ### Installations -/

/-- Whether a call installs something that a teardown takes away again. -/
def isInstallation : Call → Bool
  | .startProtocols | .replaceInstance _ | .replaceStatic _ | .openSession _ | .modify _ _ => true
  | _ => false

/-- The installations of a run. -/
def installations (sc : Scenario) (session : Nat) : List Call :=
  [.startProtocols, .replaceInstance sc.instanceConfig, .replaceStatic sc.staticRoute,
    .openSession sc.session.params, programming session 1 (.nextHop sc.nextHop),
    programming session 2 (.nextHopGroup sc.group), programming session 3 (.ipv4 sc.ipv4Entry)]

theorem nodup_installations (sc : Scenario) (session : Nat) : (installations sc session).Nodup := by
  simp [installations, programming]

theorem filter_course (sc : Scenario) (session reads : Nat) :
    (course sc session reads).filter isInstallation = installations sc session := by
  have hlinks : ∀ c ∈ linkCalls sc sc.links, ¬ isInstallation c = true :=
    forall_mem_linkCalls (fun _ => nofun) fun _ => nofun
  have htraffic : ∀ c ∈ trafficCalls sc reads (concluding sc), ¬ isInstallation c = true :=
    forall_mem_trafficCalls nofun nofun nofun nofun
  unfold course untilDynamicVerified untilDynamicInstalled untilStaticVerified untilStaticInstalled
    untilProvisioned
  simp only [List.filter_append, List.filter_eq_nil_iff.2 hlinks, List.filter_eq_nil_iff.2 htraffic]
  rfl

/-- Reads aren't installations, whether they count or not. -/
theorem filter_said (sc : Scenario) (log : List CallRecord) :
    (said sc log).filter isInstallation = (log.map (·.call)).filter isInstallation := by
  have hone : ∀ r : CallRecord, (said? sc r).filter isInstallation =
      if isInstallation r.call then some r.call else none := by
    rintro ⟨c, reply⟩
    cases hc : pathRead? c with
    | none =>
      rw [said?_of_not_read hc]
      rfl
    | some path =>
      cases c <;> cases hc
      show ((shown? sc ⟨.read path, reply⟩).map Call.read).filter isInstallation = none
      cases shown? sc ⟨.read path, reply⟩ <;> rfl
  rw [said, List.filter_filterMap, List.filter_map, ← List.filterMap_eq_map, List.filterMap_filter]
  exact congrArg (fun f => log.filterMap f) (funext hone)

/-! ### Whole runs -/

variable {S : Type}

/-- The calls of the stages of a run, without the reads that are made again, are on its course. -/
theorem onCourse_stageCalls (w : Surroundings S) (sc : Scenario) (cut : Option Nat) (s : S) :
    OnCourse sc (said sc (stageCalls w sc cut s)) := by
  obtain ⟨-, -, hc⟩ | ⟨-, hh⟩ := stages_cases w sc cut s
  · obtain ⟨session, reads, hsaid⟩ := hc.said
    exact ⟨session, reads, hsaid ▸ List.prefix_rfl⟩
  · exact hh.stands.onCourse

/-- What a report has to tell of a run, by the calls of its stages. -/
structure Faithful (sc : Scenario) (log : List CallRecord) (report : RunReport) : Prop where
  /-- There is an observation for each check that was passed. -/
  checked : confirmed sc log = ((checks sc).map (·.2)).take report.observations.length
  /-- The observations are the expected ones, and the last one tells the loss that was read. -/
  observed : ∃ loss, report.observations <+: expectedObservations sc ++ [lossObservation sc loss] ∧
    (report.observations.length = 6 → ⟨.loss sc.traffic.flowName, some (.ok loss)⟩ ∈ log)
  /-- The state that was reached tells how many there are. -/
  reached : (report.reached, report.observations.length) ∈ progress ++ [(.trafficValidated, 6)]
  passed : report.passed ↔ report.reached = .trafficValidated
  /-- A run that has passed has made all calls of its course. -/
  complete : report.passed → ∃ session reads, said sc log = course sc session reads

theorem lt_of_progress {x : RunState × Nat} (h : x ∈ progress) :
    x.2 < 6 ∧ x.1 ≠ .trafficValidated := by
  revert x
  decide

/-- What is reported when all stages have ended well. -/
theorem faithful_of_completed {h : Holdings} {log : List CallRecord} {report : RunReport}
    (hc : Completed sc h log) (hreached : h.reached = .trafficValidated)
    (hobserved : report.observations = h.observations) (hsame : report.reached = h.reached)
    (hfailure : report.failure = none) : Faithful sc log report := by
  obtain ⟨loss, -, hread, hlist⟩ := hc.observations
  obtain ⟨session, reads, hsaid⟩ := hc.said
  rw [hlist] at hobserved
  rw [hreached] at hsame
  have hlength : report.observations.length = 6 := by
    rw [hobserved]
    rfl
  constructor
  · rw [← pathsRead_said, hsaid, pathsRead_course, hlength]
    rfl
  · exact ⟨loss, hobserved ▸ List.prefix_rfl, fun _ => hread⟩
  · rw [hlength, hsame]
    exact List.mem_append_right _ (.head _)
  · simp [RunReport.passed, hfailure, hsame]
  · exact fun _ => hc.said

/-- What is reported when the stages have ended before. -/
theorem faithful_of_halted {h : Holdings} {log : List CallRecord} {report : RunReport}
    {interrupted : Bool} (hh : Halted sc interrupted h log)
    (hobserved : report.observations = h.observations) (hsame : report.reached = h.reached)
    (hfailure : report.failure ≠ none) : Faithful sc log report := by
  obtain ⟨⟨hon, -, hlist, hprogress⟩, -⟩ := hh
  obtain ⟨hlt, hne⟩ := lt_of_progress hprogress
  rw [hlist] at hobserved
  have hpaths := hon.pathsRead_prefix
  have hlength : report.observations.length = (pathsRead (said sc log)).length := by
    rw [hobserved, List.length_take]
    exact Nat.min_eq_left hpaths.length_le
  rw [← hsame] at hprogress hne
  constructor
  · rw [← pathsRead_said, hlength]
    exact List.prefix_iff_eq_take.1 hpaths
  · refine ⟨default, ?_, fun h => ?_⟩
    · rw [hobserved]
      exact (List.take_prefix _ _).trans (List.prefix_append _ _)
    · rw [hlength] at h
      exact absurd h (Nat.ne_of_lt hlt)
  · rw [hlength]
    exact List.mem_append_left _ hprogress
  · simp [RunReport.passed, hfailure, hne]
  · simp [RunReport.passed, hfailure]

/-- **Runs are strictly sequential, and reports are faithful.**  Whatever the calls are answered and
wherever the stages end, each call of a stage comes after the checks of all stages before it, each
of which has shown exactly the expected value, and before all others; each installation is made
once at most, in one order.  A report carries the expected observation for each check that was
passed, in order, and one of the loss, if the traffic was validated; the state that was reached
tells how many there are, and whether the run has passed, which takes all calls of its course. -/
theorem sequential_and_faithful (w : Surroundings S) (sc : Scenario) (run : Nat)
    (cut : Option Nat) (s : S) :
    (∀ before r after, stageCalls w sc cut s = before ++ r :: after →
      (∃ path, r.call = .read path) ∨
        ∃ state, stageOf r.call = some state ∧ confirmed sc before = earlierChecks sc state) ∧
    (∃ session, (installations sc session).Nodup ∧
      ((stageCalls w sc cut s).map (·.call)).filter isInstallation <+: installations sc session) ∧
    ∀ report, (execute w sc run cut s).1 = some report →
      Faithful sc (stageCalls w sc cut s) report := by
  obtain ⟨session, reads, hcourse⟩ := onCourse_stageCalls w sc cut s
  refine ⟨fun before r after hsplit => ?_, ⟨session, nodup_installations sc session, ?_⟩,
    fun report hreport => ?_⟩
  · obtain ⟨c, reply⟩ := r
    cases hread : pathRead? c with
    | some path =>
      cases c <;> cases hread
      exact .inl ⟨path, rfl⟩
    | none =>
      -- the call counts, so that it stands in the course where it was made
      have hsaid : said sc (stageCalls w sc cut s) = said sc before ++ c :: said sc after := by
        rw [hsplit, said, List.filterMap_append,
          List.filterMap_cons_some (said?_of_not_read hread reply)]
        rfl
      obtain ⟨rest, hrest⟩ := hcourse
      rw [hsaid, List.append_assoc, List.cons_append] at hrest
      have horder := (hrest ▸ inOrder_course sc session reads).call
      rw [hread, pathsRead_said] at horder
      exact .inr (horder.resolve_left Bool.false_ne_true)
  · rw [← filter_said sc, ← filter_course sc session reads]
    exact hcourse.filter _
  · obtain ⟨hfailure, hreached, hobserved⟩ := report_of_execute hreport
    obtain ⟨⟨u, hvalue⟩, hall, hc⟩ | ⟨hvalue, hh⟩ := stages_cases w sc cut s
    · refine faithful_of_completed hc hall hobserved hreached ?_
      rw [hfailure, hvalue]
      rfl
    · refine faithful_of_halted hh hobserved hreached ?_
      rw [hfailure]
      generalize (stages w sc cut s).value = value at hvalue ⊢
      obtain _ | e | u := value
      · exact Option.some_ne_none _
      · exact Option.some_ne_none _
      · exact absurd rfl (hvalue u)

/-- A new testbed whose telemetry doesn't answer the fifth read. -/
def speechless : FaultyBench where
  bench := .start .standard
  faults := [{ call := "get", nth := some 5, delay := 0, effect := .hang }]

/-- A run on it that is interrupted between the two checks of one stage. -/
theorem sequential_and_faithful_interrupted :
    ∃ report, (execute FaultyBench.surroundings .standard 1 (some 120) speechless).1 = some report ∧
      report.reached = .dynamicInstalled ∧ report.passed = false ∧
      confirmed .standard (stageCalls FaultyBench.surroundings .standard (some 120) speechless) =
        ((checks .standard).map (·.2)).take 4 := by
  have hends : (execute FaultyBench.surroundings .standard 1 (some 120) speechless).1.map
      (fun r => (r.reached, r.observations.length)) = some (.dynamicInstalled, 4) := by
    decide +kernel
  obtain ⟨report, hreport, hends⟩ := Option.map_eq_some_iff.1 hends
  obtain ⟨hreached, hlength⟩ := Prod.mk.inj hends
  have hfaithful := (sequential_and_faithful FaultyBench.surroundings .standard 1 (some 120)
    speechless).2.2 report hreport
  refine ⟨report, hreport, hreached, ?_, ?_⟩
  · have hpassed := hfaithful.passed
    rw [hreached] at hpassed
    simpa using hpassed
  · rw [hfaithful.checked, hlength]

end Run

end RoutePreference
