import RoutePreference.Bench.Faults
import RoutePreference.Proofs.Harness.Pipeline

/-!
# What a teardown releases

* `Run.releaseAll`: makes some calls one after the other, and collects their failures;
* `teardown_eq`: the teardown is of that kind: it makes the calls that are due by what is held;
* `Run.InTurn`: calls that were made one after the other, each when the one before it was answered;
* `Run.due`: the calls that are due by what was acquired;
* `teardown_releases_acquisitions`: wherever the stages end, these are the calls of the teardown,
  and the report tells which of them failed.

No call of a teardown depends on the replies to those before it, so that a teardown is known by
the list of its calls.
-/

namespace RoutePreference

namespace Run

variable {S σ : Type} {sc : Scenario} {w : Surroundings S} {h : Holdings}

/-! ### Calls of a teardown -/

/-- The calls that release a flow and what else there is to give back, the last one first. -/
def releasing (sc : Scenario) (flow : Option String) (a : Assets) : List Call :=
  flow.toList.map .stopFlow ++
    a.session.toList.flatMap (fun session =>
      (if sc.session.flushOnTeardown then [.flush session sc.inst] else []) ++ [.close session]) ++
    (if a.route then [.deleteStatic sc.inst sc.dest] else []) ++
    (if a.inst then [.deleteInstance sc.inst] else []) ++
    (if a.protocols then [.stopProtocols] else [])

/-- The name of a step of a teardown. -/
def stepName : Call → String
  | .stopFlow _ => "stop traffic flow"
  | .flush _ _ => "flush gRIBI entries"
  | .close _ => "close gRIBI session"
  | .deleteStatic _ _ => "delete static route"
  | .deleteInstance _ => "delete network instance"
  | .stopProtocols => "stop ATE protocols"
  | c => c.name

/-- The failure of a step of a teardown; a flow that never started is none. -/
def releaseErrors : CallRecord → List RunError
  | ⟨.stopFlow _, some (.error (.unknownFlow _))⟩ => []
  | ⟨c, some (.error e)⟩ => [.teardown (stepName c) e]
  | _ => []

/-- Makes calls one after the other and returns what failed on the way. -/
def releaseAll : List Call → Procedure σ (List RunError)
  | [] => .done []
  | c :: rest => .ask c fun r =>
    (releaseAll rest).bind fun errors => .done (releaseErrors ⟨c, some r⟩ ++ errors)

theorem releaseAll_append (l l' : List Call) :
    (releaseAll (l ++ l') : Procedure σ _) =
      (releaseAll l).bind fun errors => (releaseAll l').bind fun errors' =>
        .done (errors ++ errors') := by
  induction l with
  | nil => exact (Procedure.bind_done _).symm
  | cons c l ih =>
    rw [List.cons_append, releaseAll, releaseAll, Procedure.bind]
    congr 1
    funext r
    simp only [ih, Procedure.bind_assoc, Procedure.pure_bind, List.append_assoc]

/-- A call of a teardown on its own. -/
theorem releaseAll_singleton (c : Call) :
    (releaseAll [c] : Procedure σ _) = .ask c fun r => .done (releaseErrors ⟨c, some r⟩) := by
  simp [releaseAll]

theorem releaseFlow_eq :
    (releaseFlow h : Procedure σ _) = releaseAll (h.flow.toList.map .stopFlow) := by
  unfold releaseFlow
  cases h.flow with
  | none => rfl
  | some flow =>
    rw [show (some flow).toList.map Call.stopFlow = [.stopFlow flow] from rfl,
      releaseAll_singleton]
    show Procedure.ask _ _ = _
    congr 1
    funext r
    rw [Procedure.pure_bind]
    cases r with
    | ok _ => rfl
    | error e => cases e <;> rfl

theorem flush_eq (i : Installer) (inst : String) :
    ((fun r => stepErrors "flush gRIBI entries" r.1) <$> i.flush inst : Procedure σ _) =
      releaseAll [.flush i.session inst] := by
  rw [releaseAll_singleton]
  show Procedure.ask _ _ = _
  congr 1
  funext r
  cases r <;> rfl

/-- A call whose failure is taken as that of a step. -/
theorem step_eq {c : Call} {f : c.Reply → List RunError}
    (hf : ∀ r, f r = releaseErrors ⟨c, some r⟩) :
    (f <$> Procedure.call c : Procedure σ _) = releaseAll [c] := by
  rw [releaseAll_singleton]
  show Procedure.ask c (fun r => .done (f r)) = _
  simp only [hf]

theorem close_eq (i : Installer) :
    (stepErrors "close gRIBI session" <$> i.close : Procedure σ _) =
      releaseAll [.close i.session] :=
  step_eq (c := .close i.session) fun r => by cases r <;> rfl

theorem releaseSession_eq :
    (releaseSession sc h : Procedure σ _) =
      releaseAll ((h.installer.map (·.session)).toList.flatMap fun session =>
        (if sc.session.flushOnTeardown then [.flush session sc.inst] else []) ++
          [.close session]) := by
  unfold releaseSession
  cases h.installer with
  | none => rfl
  | some i =>
    have hclose : ∀ flushed : List RunError, (i.close.bind fun closed =>
        .done (flushed ++ stepErrors "close gRIBI session" closed) : Procedure σ _) =
          (releaseAll [.close i.session]).bind fun closed => .done (flushed ++ closed) := by
      intro flushed
      rw [← close_eq]
      exact (Procedure.bind_assoc i.close (fun r => .done (stepErrors "close gRIBI session" r))
        fun closed => .done (flushed ++ closed)).symm
    simp only [Option.map_some, Option.toList_some, List.flatMap_singleton, releaseAll_append]
    split
    · rw [← flush_eq]
      exact congrArg _ (funext hclose)
    · exact hclose []

theorem release_eq (needed : Bool) {step : String} {c : Call}
    {p : Procedure σ (Except CallError Unit)}
    (hp : stepErrors step <$> p = releaseAll [c]) :
    (release needed step p) = releaseAll (if needed then [c] else []) := by
  unfold release
  cases needed with
  | true => exact hp
  | false => rfl

/-- **The teardown** makes the calls that are due by what is held, one after the other. -/
theorem teardown_eq (sc : Scenario) (h : Holdings) :
    (teardown sc h : Procedure σ _) = releaseAll (releasing sc h.flow (assetsHeld h)) := by
  have hroute := release_eq (σ := σ) h.staticInstalled
    (step_eq (c := .deleteStatic sc.inst sc.dest) (f := stepErrors "delete static route")
      fun r => by cases r <;> rfl)
  have hinst := release_eq (σ := σ) h.instanceCreated
    (step_eq (c := .deleteInstance sc.inst) (f := stepErrors "delete network instance")
      fun r => by cases r <;> rfl)
  have hprotocols := release_eq (σ := σ) h.protocolsStarted
    (step_eq (c := .stopProtocols) (f := stepErrors "stop ATE protocols")
      fun r => by cases r <;> rfl)
  unfold teardown releasing
  rw [releaseFlow_eq, releaseSession_eq, hroute, hinst, hprotocols]
  simp only [releaseAll_append, Procedure.bind_assoc, Procedure.pure_bind]
  rfl

/-! ### Calls one after the other -/

/-- Whether calls were made in the given order, each when the one before it was answered. -/
inductive InTurn : List Call → List CallRecord → Prop where
  | nil : InTurn [] []
  | answered {c : Call} {r : c.Reply} {rest : List Call} {made : List CallRecord}
      (h : InTurn rest made) : InTurn (c :: rest) (⟨c, some r⟩ :: made)
  | unanswered {c : Call} {rest : List Call} : InTurn (c :: rest) [⟨c, none⟩]

/-- If all calls that were made were answered, then all were made. -/
theorem InTurn.all_made {l : List Call} {made : List CallRecord} (h : InTurn l made)
    (hanswered : ∀ r ∈ made, r.reply.isSome) : made.map (·.call) = l := by
  induction h with
  | nil => rfl
  | answered h ih =>
    rw [List.map_cons, ih fun r hr => hanswered r (.tail _ hr)]
  | unanswered => exact absurd (hanswered _ (.head _)) (by simp)

theorem releaseAll_ends (l : List Call) (held : σ) (log : List CallRecord) (s : S) :
    Procedure.Ends w.recorded none
      (fun errors _ s' => ∃ made, s'.1 = log ++ made ∧ InTurn l made ∧
        (∀ r ∈ made, r.reply.isSome) ∧ errors = made.flatMap releaseErrors)
      (fun _ s' => ∃ made, s'.1 = log ++ made ∧ InTurn l made ∧ ¬ ∀ r ∈ made, r.reply.isSome)
      held (releaseAll l) (log, s) := by
  induction l generalizing log s with
  | nil => exact .done ⟨[], (List.append_nil log).symm, .nil, List.forall_mem_nil _, rfl⟩
  | cons c rest ih =>
    refine .ask (fun r hr => ?_) fun hnone => ?_
    · rw [w.recorded_answer hr]
      refine .bind ((ih (log ++ [⟨c, some r⟩]) _).mono ?_ ?_)
      · rintro errors held s' ⟨made, hlog, hturn, hanswered, rfl⟩
        refine .done ⟨⟨c, some r⟩ :: made, ?_, hturn.answered, ?_, rfl⟩
        · rw [hlog, List.append_assoc]
          rfl
        · exact List.forall_mem_cons.2 ⟨rfl, hanswered⟩
      · rintro held s' ⟨made, hlog, hturn, hunanswered⟩
        refine ⟨⟨c, some r⟩ :: made, ?_, hturn.answered, fun h => ?_⟩
        · rw [hlog, List.append_assoc]
          rfl
        · exact hunanswered fun x hx => h x (.tail _ hx)
    · rw [w.recorded_answer hnone]
      exact ⟨[⟨c, none⟩], rfl, .unanswered, by simp⟩

theorem InTurn.made_prefix {l : List Call} {made : List CallRecord} (h : InTurn l made) :
    made.map (·.call) <+: l := by
  induction h with
  | nil => exact List.nil_prefix
  | answered h ih => exact List.cons_prefix_cons.2 ⟨rfl, ih⟩
  | unanswered => exact ⟨_, rfl⟩

/-! ### What is due -/

/-- The calls that are due after the stages of a run, by their calls: whatever was acquired is
released, and the flow is stopped if the stages were cut short after it was started.  Nothing
follows a check of the traffic, so that they were cut short in its course then. -/
def due (sc : Scenario) (interrupted : Bool) (log : List CallRecord) : List Call :=
  releasing sc
    (if interrupted ∧ .startFlow sc.traffic.flow ∈ log.map (·.call) then some sc.traffic.flowName
      else none)
    (assetsOf sc log)

theorem nodup_releasing (sc : Scenario) (flow : Option String) (a : Assets) :
    (releasing sc flow a).Nodup := by
  obtain ⟨protocols, inst, route, session⟩ := a
  unfold releasing
  cases flow <;> cases session <;> cases route <;> cases inst <;> cases protocols <;>
    cases sc.session.flushOnTeardown <;> simp

/-- What is held when the stages end is what was acquired. -/
theorem releasing_held (w : Surroundings S) (sc : Scenario) (cut : Option Nat) (s : S) :
    releasing sc (stages w sc cut s).held.flow (assetsHeld (stages w sc cut s).held) =
      due sc (stages w sc cut s).value.isNone (stageCalls w sc cut s) := by
  unfold due
  obtain ⟨⟨u, hvalue⟩, -, hc⟩ | ⟨-, hh⟩ := stages_cases w sc cut s
  · rw [hvalue, hc.flow, hc.assets, if_neg (by simp)]
  · rw [hh.assets, hh.stands.flow]
    simp only [mem_said_iff (c := .startFlow sc.traffic.flow) sc rfl]

/-- How a teardown ends, by its calls. -/
theorem torn_cases (w : Surroundings S) (sc : Scenario) (cut : Option Nat) (s : S) :
    InTurn (due sc (stages w sc cut s).value.isNone (stageCalls w sc cut s))
        (teardownCalls w sc cut s) ∧
      (((∀ r ∈ teardownCalls w sc cut s, r.reply.isSome) ∧
          (torn w sc cut s).value = some ((teardownCalls w sc cut s).flatMap releaseErrors)) ∨
        ((¬ ∀ r ∈ teardownCalls w sc cut s, r.reply.isSome) ∧ (torn w sc cut s).value = none)) := by
  unfold torn teardownCalls
  rw [teardown_eq, releasing_held]
  generalize due sc _ _ = l
  generalize (stages w sc cut s).after = s'
  have hends := releaseAll_ends (w := w) l () [] s'
  unfold Procedure.Ends Procedure.Outcome.Meets at hends
  rw [Procedure.perform_recorded] at hends
  generalize (releaseAll l).transcript w none () s' = made at hends ⊢
  generalize (releaseAll l).perform w none () s' = o at hends ⊢
  obtain ⟨value, held, after⟩ := o
  cases value with
  | some errors =>
    obtain ⟨_, rfl, hturn, hanswered, herrors⟩ := hends
    exact ⟨hturn, .inl ⟨hanswered, congrArg some herrors⟩⟩
  | none =>
    obtain ⟨_, rfl, hturn, hunanswered⟩ := hends
    exact ⟨hturn, .inr ⟨hunanswered, rfl⟩⟩

/-- **A teardown releases what was acquired.**  Whatever the calls are answered and wherever the
stages end, the teardown makes the calls that are due, each once and when the one before it was
answered, well or not; so it comes to a report exactly if all that it makes are answered, and has
made all that are due then.  The report tells which of them failed, in order, and nothing of what
else it tells depends on them. -/
theorem teardown_releases_acquisitions (w : Surroundings S) (sc : Scenario) (run : Nat)
    (cut : Option Nat) (s : S) (hended : HasEnded w sc cut s) :
    ∃ made : List CallRecord, calls w sc run cut s = stageCalls w sc cut s ++ made ∧
      InTurn (due sc (stages w sc cut s).value.isNone (stageCalls w sc cut s)) made ∧
      (made.map (·.call)).Nodup ∧
      ((execute w sc run cut s).1.isSome ↔ ∀ r ∈ made, r.reply.isSome) ∧
      ∀ report, (execute w sc run cut s).1 = some report →
        made.map (·.call) = due sc (stages w sc cut s).value.isNone (stageCalls w sc cut s) ∧
        report.teardownErrors = (made.flatMap releaseErrors).map (·.message) ∧
        report.finalState = .tornDown ∧
        ∀ (S' : Type) (w' : Surroundings S') (run' : Nat) (cut' : Option Nat) (s' : S')
          (report' : RunReport), (stages w' sc cut' s').value = (stages w sc cut s).value →
          (stages w' sc cut' s').held = (stages w sc cut s).held →
          (execute w' sc run' cut' s').1 = some report' →
          report'.failure = report.failure ∧ report'.reached = report.reached ∧
            report'.passed = report.passed := by
  obtain ⟨hturn, hcases⟩ := torn_cases w sc cut s
  refine ⟨teardownCalls w sc cut s, calls_of_ended hended, hturn,
    (nodup_releasing ..).sublist hturn.made_prefix.sublist, ?_, fun report hreport => ?_⟩
  · rw [execute_of_ended hended, Option.isSome_map]
    obtain ⟨hanswered, hvalue⟩ | ⟨hunanswered, hvalue⟩ := hcases
    · simp only [hvalue, Option.isSome_some, true_iff]
      exact hanswered
    · simp only [hvalue, Option.isSome_none, Bool.false_eq_true, false_iff]
      exact hunanswered
  · have hfailure := report_of_execute hreport
    rw [execute_of_ended hended] at hreport
    obtain ⟨errors, hvalue, rfl⟩ := Option.map_eq_some_iff.1 hreport
    obtain ⟨hanswered, hvalue'⟩ | ⟨-, hnone⟩ := hcases
    · rw [hvalue, Option.some_inj] at hvalue'
      refine ⟨hturn.all_made hanswered, congrArg _ hvalue', rfl, ?_⟩
      intro S' w' run' cut' s' report' hsame hheld hreport'
      have hfailure' := report_of_execute hreport'
      rw [hsame, hheld] at hfailure'
      have hfailed := hfailure'.1.trans hfailure.1.symm
      exact ⟨hfailed, hfailure'.2.1, congrArg Option.isNone hfailed⟩
    · rw [hvalue] at hnone
      cases hnone

/-- A new testbed that neither flushes nor deletes network instances. -/
def obstructive : FaultyBench where
  bench := .start .standard
  faults := [
    { call := "flush", nth := none, delay := 0, effect := .fail .unavailable },
    { call := "delete_instance", nth := none, delay := 0, effect := .fail (.rejected "busy") }]

/-- How a run of the standard scenario on it ends that is interrupted while it sends traffic. -/
def afterObstruction : Option RunReport × FaultyBench :=
  execute FaultyBench.surroundings .standard 1 (some 120) obstructive

theorem teardown_releases_acquisitions_obstructed :
    HasEnded FaultyBench.surroundings .standard (some 120) obstructive ∧
      ∃ made report, calls FaultyBench.surroundings .standard 1 (some 120) obstructive =
          stageCalls FaultyBench.surroundings .standard (some 120) obstructive ++ made ∧
        afterObstruction.1 = some report ∧
        made.map (·.call) = [.stopFlow "Flow", .flush 1 "DEFAULT", .close 1,
          .deleteStatic "DEFAULT" Scenario.standard.dest, .deleteInstance "DEFAULT",
          .stopProtocols] ∧
        (made.flatMap releaseErrors).map (·.message) =
          ["teardown step failed: flush gRIBI entries (device unavailable)",
            "teardown step failed: delete network instance (request rejected: busy)"] := by
  have hended : HasEnded FaultyBench.surroundings .standard (some 120) obstructive :=
    fun _ => Option.some_ne_none 120
  have hdue : due .standard
      (stages FaultyBench.surroundings .standard (some 120) obstructive).value.isNone
      (stageCalls FaultyBench.surroundings .standard (some 120) obstructive) =
        [.stopFlow "Flow", .flush 1 "DEFAULT", .close 1,
          .deleteStatic "DEFAULT" Scenario.standard.dest, .deleteInstance "DEFAULT",
          .stopProtocols] := by decide +kernel
  have herrors : afterObstruction.1.map (·.teardownErrors) =
      some ["teardown step failed: flush gRIBI entries (device unavailable)",
        "teardown step failed: delete network instance (request rejected: busy)"] := by
    decide +kernel
  obtain ⟨report, hreport, hmessages⟩ := Option.map_eq_some_iff.1 herrors
  obtain ⟨made, hcalls, -, -, -, hmade⟩ := teardown_releases_acquisitions FaultyBench.surroundings
    .standard 1 (some 120) obstructive hended
  obtain ⟨hall, hfailed, -⟩ := hmade report hreport
  exact ⟨hended, made, report, hcalls, hreport, hall.trans hdue, hfailed.symm.trans hmessages⟩

end Run

end RoutePreference
