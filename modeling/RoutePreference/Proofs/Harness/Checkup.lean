import RoutePreference.Proofs.Harness.Watching

/-!
# Checking traffic

* `Checkup`: the calls of a traffic check with their replies, and `Checkup.fault?`, the first thing
  that is wrong with them;
* `TrafficCheck.Conclusion`, `TrafficCheck.Course`: what a traffic check does after the flow was
  stopped, and as a whole, one case for each way to end;
* `gives_conclude`, `gives_run`: a traffic check takes such a course;
* `Course.result_eq`, `Course.ok_iff`: it ends with the first fault, and succeeds if there is none;
* `traffic_check_reports_first_fault`: a flow that was started is stopped, and the first fault is
  reported.
-/

namespace RoutePreference

/-- The calls of a traffic check, with their replies. -/
structure Checkup where
  started : Sample Unit
  reads : List (Sample FlowCounters) := []
  stopped : Option (Sample Unit) := none
  final : Option (Sample FlowCounters) := none
  loss : Option (Sample Binary32) := none

/-- A read of the share of packets that a flow has lost. -/
def lossRead (flow : String) (x : Sample Binary32) : TimedCall := x.of (.loss flow)

/-- A request to stop a flow. -/
def flowStopped (flow : String) (x : Sample Unit) : TimedCall := x.of (.stopFlow flow)

/-- A request to start a flow. -/
def flowStarted (spec : FlowSpec) (x : Sample Unit) : TimedCall := x.of (.startFlow spec)

namespace Checkup

/-- The calls in their order: the start, the reads of the counters, the stop, one more read of the
counters, and a read of the loss. -/
def calls (k : Checkup) (spec : FlowSpec) : List TimedCall :=
  [flowStarted spec k.started] ++ k.reads.map (countersRead spec.name) ++
    k.stopped.toList.map (flowStopped spec.name) ++ k.final.toList.map (countersRead spec.name) ++
    k.loss.toList.map (lossRead spec.name)

/-- The failure if nothing was sent. -/
def idle? (flow : String) (x : Sample FlowCounters) : Option RunError :=
  match x.reply with
  | .ok c => if c.tx = 0 then some (.noTrafficTransmitted flow) else none
  | .error _ => none

/-- The failure if packets were lost. -/
def lossy? (flow : String) (x : Sample FlowCounters) (y : Sample Binary32) : Option RunError :=
  match x.reply, y.reply with
  | .ok c, .ok l => if l.isPositive then some (.trafficLoss flow l c) else none
  | _, _ => none

/-- **The first fault**: that of the start, of the last read while the flow was watched, of the
stop, of the read after it, that nothing was sent, that of the read of the loss, or the loss. -/
def fault? (k : Checkup) (flow : String) : Option RunError :=
  k.started.failure? flow <|> k.reads.getLast?.bind (Sample.failure? flow) <|>
    k.stopped.bind (Sample.failure? flow) <|> k.final.bind (Sample.failure? flow) <|>
    k.final.bind (idle? flow) <|> k.loss.bind (Sample.failure? flow) <|>
    k.final.bind fun x => k.loss.bind (lossy? flow x)

end Checkup

namespace TrafficCheck

variable {σ S : Type} {w : Surroundings S} {watch : Watch} {spec : FlowSpec} {flow : String}

/-- What follows after the flow was stopped. -/
inductive Conclusion (flow : String) :
    Sample FlowCounters → Option (Sample Binary32) → Except RunError TrafficResult → Prop where
  | failed {x : Sample FlowCounters} {e : CallError} (reply : x.reply = .error e) :
    Conclusion flow x none (.error (.trafficControl flow e))
  | idle {x : Sample FlowCounters} {c : FlowCounters} (reply : x.reply = .ok c) (sent : c.tx = 0) :
    Conclusion flow x none (.error (.noTrafficTransmitted flow))
  | unknown {x : Sample FlowCounters} {c : FlowCounters} {y : Sample Binary32} {e : CallError}
    (reply : x.reply = .ok c) (sent : c.tx ≠ 0) (loss : y.reply = .error e) :
    Conclusion flow x (some y) (.error (.trafficControl flow e))
  | lossy {x : Sample FlowCounters} {c : FlowCounters} {y : Sample Binary32} {l : Binary32}
    (reply : x.reply = .ok c) (sent : c.tx ≠ 0) (loss : y.reply = .ok l)
    (positive : l.isPositive = true) :
    Conclusion flow x (some y) (.error (.trafficLoss flow l c))
  | clean {x : Sample FlowCounters} {c : FlowCounters} {y : Sample Binary32} {l : Binary32}
    (reply : x.reply = .ok c) (sent : c.tx ≠ 0) (loss : y.reply = .ok l)
    (none : l.isPositive = false) :
    Conclusion flow x (some y) (.ok { flow, counters := c, loss := l })

/-- Whether a flow is watched as it should be from the reply to its start on. -/
def Watched (watch : Watch) (spec : FlowSpec) (k : Checkup) (seen : Except RunError Unit) : Prop :=
  Watching watch spec.name spec.packetCount (k.started.ended + watch.duration) k.started.ended
    none 0 k.reads seen

/-- The ways that a traffic check can take. -/
inductive Course (watch : Watch) (spec : FlowSpec) : Checkup → Except RunError TrafficResult → Prop
    where
  | refused {x : Sample Unit} {e : CallError} (reply : x.reply = .error e) :
    Course watch spec { started := x } (.error (.trafficControl spec.name e))
  | unseen {x y : Sample Unit} {reads : List (Sample FlowCounters)} {e : RunError}
    (reply : x.reply = .ok ()) (watched : Watched watch spec { started := x, reads } (.error e)) :
    Course watch spec { started := x, reads, stopped := some y } (.error e)
  | unstopped {x y : Sample Unit} {reads : List (Sample FlowCounters)} {e : CallError}
    (reply : x.reply = .ok ()) (watched : Watched watch spec { started := x, reads } (.ok ()))
    (stopped : y.reply = .error e) :
    Course watch spec { started := x, reads, stopped := some y }
      (.error (.trafficControl spec.name e))
  | concluded {x y : Sample Unit} {reads : List (Sample FlowCounters)} {final : Sample FlowCounters}
    {loss : Option (Sample Binary32)} {result : Except RunError TrafficResult}
    (reply : x.reply = .ok ()) (watched : Watched watch spec { started := x, reads } (.ok ()))
    (stopped : y.reply = .ok ()) (conclusion : Conclusion spec.name final loss result) :
    Course watch spec { started := x, reads, stopped := some y, final := some final, loss } result

/-! ### The course of a check -/

/-- The read of the loss, and what follows on it. -/
theorem gives_lossRead (hw : w.Timely) (flow : String) {x : Sample FlowCounters}
    {c : FlowCounters} (hx : x.reply = .ok c) (hsent : c.tx ≠ 0) (log : List TimedCall) (s : S) :
    ∃ loss result s',
      Checked.Gives w.timed (do
        let loss : Binary32 ← Checked.call (.trafficControl flow) (.loss flow)
        if loss.isPositive then throw (.trafficLoss flow loss c)
        else return { flow, counters := c, loss } : Checked σ TrafficResult) (log, s) result
        (log ++ [lossRead flow loss], s') ∧
      Conclusion flow x (some loss) result := by
  obtain ⟨y, s', -, -, -, hcall⟩ := hw.call (σ := σ) (.trafficControl flow) (.loss flow) log s
  cases hy : y.reply with
  | error e =>
    rw [hy] at hcall
    exact ⟨y, _, s', hcall.bind_error, .unknown hx hsent hy⟩
  | ok l =>
    rw [hy] at hcall
    cases hpositive : Binary32.isPositive l with
    | true =>
      refine ⟨y, _, s', hcall.bind ?_, .lossy hx hsent hy hpositive⟩
      exact .ite_pos hpositive (.throw _ _)
    | false =>
      refine ⟨y, _, s', hcall.bind ?_, .clean hx hsent hy hpositive⟩
      exact .ite_neg (ne_true_of_eq_false hpositive) (.pure _ _)

theorem gives_conclude (hw : w.Timely) (flow : String) (log : List TimedCall) (s : S) :
    ∃ final loss result s',
      Checked.Gives w.timed (conclude flow : Checked σ TrafficResult) (log, s) result
        (log ++ [countersRead flow final] ++ loss.toList.map (lossRead flow), s') ∧
      Conclusion flow final loss result := by
  obtain ⟨x, s₁, -, -, -, hfinal⟩ := hw.call (σ := σ) (.trafficControl flow) (.counters flow) log s
  cases hx : x.reply with
  | error e =>
    rw [hx] at hfinal
    refine ⟨x, none, .error (.trafficControl flow e), s₁, ?_, .failed hx⟩
    rw [Option.toList_none, List.map_nil, List.append_nil]
    exact hfinal.bind_error
  | ok c =>
    rw [hx] at hfinal
    by_cases hsent : FlowCounters.tx c = 0
    · refine ⟨x, none, .error (.noTrafficTransmitted flow), s₁, ?_, .idle hx hsent⟩
      rw [Option.toList_none, List.map_nil, List.append_nil]
      exact hfinal.bind (.ite_pos hsent (.throw _ _))
    · obtain ⟨y, result, s₂, hloss, hconclusion⟩ :=
        gives_lossRead (σ := σ) hw flow hx hsent (log ++ [countersRead flow x]) s₁
      exact ⟨x, some y, result, s₂, hfinal.bind (.ite_neg hsent hloss), hconclusion⟩

/-- What follows on a start that succeeds: the watch, the stop, and the rest. -/
theorem gives_started (hw : w.Timely) (hpositive : 0 < watch.interval) {x : Sample Unit}
    (hx : x.reply = .ok ()) (log : List TimedCall) {s : S} (hended : w.now s = x.ended) :
    ∃ reads stopped final loss result s',
      Checked.Gives w.timed (do
        let observed ← Checked.attempt (observe watch spec.name spec.packetCount)
        let stopped ← Checked.attempt
          (Checked.call (.trafficControl spec.name) (.stopFlow spec.name))
        Checked.ofExcept observed
        let _ ← Checked.ofExcept stopped
        conclude spec.name : Checked σ TrafficResult) (log, s) result
        (log ++ reads.map (countersRead spec.name) ++ [flowStopped spec.name stopped] ++
          final.toList.map (countersRead spec.name) ++ loss.toList.map (lossRead spec.name), s') ∧
      Course watch spec { started := x, reads, stopped := some stopped, final, loss } result := by
  obtain ⟨reads, seen, s₁, hobserve, -, hwatching⟩ :=
    gives_observe (σ := σ) hw hpositive spec.name spec.packetCount log s
  obtain ⟨y, s₂, -, -, -, hstop⟩ := hw.call (σ := σ) (.trafficControl spec.name)
    (.stopFlow spec.name) (log ++ reads.map (countersRead spec.name)) s₁
  rw [hended] at hwatching
  have hwatched : Watched watch spec { started := x, reads } seen := hwatching
  cases seen with
  | error e =>
    refine ⟨reads, y, none, none, .error e, s₂, ?_, .unseen hx hwatched⟩
    rw [Option.toList_none, List.map_nil, List.append_nil, Option.toList_none, List.map_nil,
      List.append_nil]
    exact hobserve.attempt.bind
      (hstop.attempt.bind (Checked.Gives.bind_error (.ofExcept (.error e) _)))
  | ok u =>
    cases hy : y.reply with
    | error e =>
      rw [hy] at hstop
      refine ⟨reads, y, none, none, .error (.trafficControl spec.name e), s₂, ?_,
        .unstopped hx hwatched hy⟩
      rw [Option.toList_none, List.map_nil, List.append_nil, Option.toList_none, List.map_nil,
        List.append_nil]
      exact hobserve.attempt.bind (hstop.attempt.bind
        (Checked.Gives.bind (.ofExcept (.ok ()) _) (Checked.Gives.bind_error (.ofExcept _ _))))
    | ok v =>
      rw [hy] at hstop
      obtain ⟨final, loss, result, s₃, hconclude, hconclusion⟩ := gives_conclude (σ := σ) hw
        spec.name (log ++ reads.map (countersRead spec.name) ++ [flowStopped spec.name y]) s₂
      refine ⟨reads, y, some final, loss, result, s₃, ?_,
        .concluded hx hwatched hy hconclusion⟩
      exact hobserve.attempt.bind (hstop.attempt.bind
        (Checked.Gives.bind (.ofExcept (.ok ()) _)
          (Checked.Gives.bind (.ofExcept (.ok v) _) hconclude)))

/-- **A traffic check** takes one of its courses. -/
theorem gives_run (hw : w.Timely) (hpositive : 0 < watch.interval) (spec : FlowSpec) (s : S) :
    ∃ k result s',
      Checked.Gives w.timed (run watch spec : Checked σ TrafficResult) ([], s) result
        (k.calls spec, s') ∧
      Course watch spec k result := by
  obtain ⟨x, s₁, -, -, hended, hstart⟩ :=
    hw.call (σ := σ) (.trafficControl spec.name) (.startFlow spec) [] s
  cases hx : x.reply with
  | error e =>
    rw [hx] at hstart
    exact ⟨{ started := x }, _, s₁, hstart.bind_error, .refused hx⟩
  | ok u =>
    rw [hx] at hstart
    obtain ⟨reads, stopped, final, loss, result, s₂, hrest, hcourse⟩ :=
      gives_started (σ := σ) hw hpositive hx [flowStarted spec x] hended
    exact ⟨_, result, s₂, hstart.bind hrest, hcourse⟩

/-! ### What a check reports -/

variable {k : Checkup} {result : Except RunError TrafficResult}

/-- The first fault of what follows after a flow was stopped is reported. -/
theorem Conclusion.fault_eq {x : Sample FlowCounters} {loss : Option (Sample Binary32)}
    (h : Conclusion flow x loss result) :
    (x.failure? flow <|> Checkup.idle? flow x <|> loss.bind (Sample.failure? flow) <|>
        loss.bind (Checkup.lossy? flow x)) = errorOf result := by
  cases h with
  | failed hx =>
    rw [Sample.failure?_error hx]
    rfl
  | idle hx hsent =>
    rw [Sample.failure?_ok hx]
    simp [Checkup.idle?, errorOf, hx, hsent]
  | unknown hx hsent hy =>
    rw [Sample.failure?_ok hx, Option.bind_some, Sample.failure?_error hy]
    simp [Checkup.idle?, errorOf, hx, hsent]
  | lossy hx hsent hy hpositive =>
    rw [Sample.failure?_ok hx, Option.bind_some, Sample.failure?_ok hy]
    simp [Checkup.idle?, Checkup.lossy?, errorOf, hx, hsent, hy, hpositive]
  | clean hx hsent hy hpositive =>
    rw [Sample.failure?_ok hx, Option.bind_some, Sample.failure?_ok hy]
    simp [Checkup.idle?, Checkup.lossy?, errorOf, hx, hsent, hy, hpositive]

/-- **The first fault is reported.** -/
theorem Course.fault_eq (h : Course watch spec k result) :
    k.fault? spec.name = errorOf result := by
  unfold Checkup.fault?
  cases h with
  | refused hx =>
    rw [Sample.failure?_error hx]
    rfl
  | unseen hx hwatched =>
    rw [Sample.failure?_ok hx, hwatched.failure_eq]
    rfl
  | unstopped hx hwatched hy =>
    rw [Sample.failure?_ok hx, hwatched.failure_eq, Option.bind_some, Sample.failure?_error hy]
    rfl
  | concluded hx hwatched hy hconclusion =>
    rw [Sample.failure?_ok hx, hwatched.failure_eq, Option.bind_some, Sample.failure?_ok hy]
    exact hconclusion.fault_eq

/-- What it takes for a check to succeed: every call does, something was sent, and nothing was
lost. -/
structure Clean (spec : FlowSpec) (k : Checkup) (v : TrafficResult) : Prop where
  flow : v.flow = spec.name
  started : k.started.reply = .ok ()
  reads : ∀ r ∈ k.reads, ∃ c, r.reply = .ok c
  stopped : ∃ x, k.stopped = some x ∧ x.reply = .ok ()
  final : ∃ x, k.final = some x ∧ x.reply = .ok v.counters
  sent : 0 < v.counters.tx
  loss : ∃ x, k.loss = some x ∧ x.reply = .ok v.loss ∧ v.loss.isPositive = false

/-- A check that succeeds is clean. -/
theorem Course.clean {v : TrafficResult} (h : Course watch spec k (.ok v)) : Clean spec k v := by
  cases h with
  | concluded hx hwatched hy hconclusion =>
    cases hconclusion with
    | clean hfinal hsent hloss hpositive =>
      exact {
        flow := rfl
        started := hx
        reads := hwatched.ok_iff.1 rfl
        stopped := ⟨_, rfl, hy⟩
        final := ⟨_, rfl, hfinal⟩
        sent := Nat.pos_of_ne_zero hsent
        loss := ⟨_, rfl, hloss, hpositive⟩ }

/-- A clean check succeeds. -/
theorem Course.of_clean {v : TrafficResult} (hcourse : Course watch spec k result)
    (h : Clean spec k v) : result = .ok v := by
  obtain ⟨hflow, hstarted, hreads, ⟨x, hstopped, hx⟩, ⟨y, hfinal, hy⟩, hsent, z, hloss, hz, hl⟩ := h
  cases hcourse with
  | refused hreply => rw [hstarted] at hreply; cases hreply
  | unseen _ hwatched => cases hwatched.ok_iff.2 hreads
  | unstopped _ _ hreply =>
    cases hstopped
    rw [hx] at hreply
    cases hreply
  | concluded _ _ _ hconclusion =>
    cases hfinal
    cases hconclusion with
    | failed hreply => rw [hy] at hreply; cases hreply
    | idle hreply hnone =>
      rw [hy] at hreply
      cases hreply
      omega
    | unknown _ _ hreply =>
      cases hloss
      rw [hz] at hreply
      cases hreply
    | lossy _ _ hreply hpositive =>
      cases hloss
      rw [hz] at hreply
      cases hreply
      rw [hl] at hpositive
      cases hpositive
    | clean hreply _ hreply' _ =>
      cases hloss
      rw [hy] at hreply
      rw [hz] at hreply'
      cases hreply
      cases hreply'
      obtain ⟨flow, counters, loss⟩ := v
      cases hflow
      rfl

/-- What a traffic check does and reports. -/
structure Reported (watch : Watch) (spec : FlowSpec) (k : Checkup)
    (result : Except RunError TrafficResult) : Prop where
  /-- Nothing follows on a start that fails. -/
  refused : ∀ e, k.started.reply = .error e →
    k.reads = [] ∧ k.stopped = none ∧ k.final = none ∧ k.loss = none
  /-- A flow that was started is watched, and stopped. -/
  watched : k.started.reply = .ok () → ∃ seen, Watched watch spec k seen
  stopped : k.started.reply = .ok () → k.stopped.isSome
  ordered : (k.final.isSome → k.stopped.isSome) ∧ (k.loss.isSome → k.final.isSome)
  fault : ∀ e, result = .error e ↔ k.fault? spec.name = some e
  ok : ∀ v, result = .ok v ↔ Clean spec k v

theorem Course.reported (h : Course watch spec k result) : Reported watch spec k result where
  refused e he := by
    cases h with
    | refused => exact ⟨rfl, rfl, rfl, rfl⟩
    | unseen hreply => rw [hreply] at he; cases he
    | unstopped hreply => rw [hreply] at he; cases he
    | concluded hreply => rw [hreply] at he; cases he
  watched hok := by
    cases h with
    | refused hreply => rw [hreply] at hok; cases hok
    | unseen _ hwatched => exact ⟨_, hwatched⟩
    | unstopped _ hwatched => exact ⟨_, hwatched⟩
    | concluded _ hwatched => exact ⟨_, hwatched⟩
  stopped hok := by
    cases h with
    | refused hreply => rw [hreply] at hok; cases hok
    | unseen => rfl
    | unstopped => rfl
    | concluded => rfl
  ordered := by cases h <;> simp
  fault e := by
    rw [h.fault_eq]
    cases result <;> simp [errorOf]
  ok v := ⟨fun hok => Course.clean (hok ▸ h), h.of_clean⟩

/-- **A traffic check stops the flow that it has started, and reports the first fault**: it starts
the flow, reads its counters for a while, stops it, and reads the counters and the loss once more at
most, in this order; it succeeds exactly if all calls do, packets were sent, and none was lost. -/
theorem traffic_check_reports_first_fault (hw : w.Timely) (hpositive : 0 < watch.interval)
    (spec : FlowSpec) (held : σ) (s : S) :
    ∃ k result,
      ((run watch spec : Checked σ TrafficResult).run.perform w none held s).value = some result ∧
      (run watch spec : Checked σ TrafficResult).run.timeline w none held s = k.calls spec ∧
      Reported watch spec k result := by
  obtain ⟨k, result, s', hgives, hcourse⟩ := gives_run (σ := σ) hw hpositive spec s
  obtain ⟨hvalue, htimeline⟩ := hgives.performed held
  exact ⟨k, result, hvalue, htimeline, hcourse.reported⟩

/-- The second read of the counters fails, and so does the stop. -/
def failing : Nat → (c : Call) → c.Reply × Nat
  | n, .counters _ => (if n < 2 then .ok { tx := 1, rx := 1 } else .error .unavailable, 5)
  | _, .stopFlow _ => (.error .sessionClosed, 5)
  | _, .startFlow _ => (.ok (), 5)
  | _, _ => (.error .unavailable, 5)

/-- All ten packets are sent at once, and some of them arrive. -/
def delivering (rx : Nat) : Nat → (c : Call) → c.Reply × Nat
  | _, .counters _ => (.ok { tx := 10, rx }, 5)
  | _, .loss _ => (.ok (.ofRatio (10 * (10 - rx)) 1), 5)
  | _, .stopFlow _ => (.ok (), 5)
  | _, .startFlow _ => (.ok (), 5)
  | _, _ => (.error .unavailable, 5)

/-- A flow of ten packets. -/
def probe : FlowSpec :=
  { name := "P", source := "A", receivers := ["B"], range := default, packetCount := 10, rate := 1 }

/-- A read every ten milliseconds, for a tenth of a second. -/
def brief : Watch := { interval := 10, duration := 100, stablePolls := 3 }

/-- The failure of a read is reported, after the flow was stopped; so is a loss, after the flow was
watched until nothing more arrived; without one the check succeeds. -/
theorem traffic_check_reports_first_fault_failing :
    (∃ k : Checkup, k.fault? "P" = some (.trafficControl "P" .unavailable) ∧
      (k.calls probe).map TimedCall.call =
        [.startFlow probe, .counters "P", .counters "P", .stopFlow "P"]) ∧
    (∃ k : Checkup, k.fault? "P" =
        some (.trafficLoss "P" (.ofRatio 20 1) { tx := 10, rx := 8 }) ∧
      (k.calls probe).map TimedCall.call =
        [.startFlow probe, .counters "P", .counters "P", .counters "P", .counters "P",
          .stopFlow "P", .counters "P", .loss "P"]) ∧
    ∃ k : Checkup, Clean probe k
      { flow := "P", counters := { tx := 10, rx := 10 }, loss := .zero } := by
  have hruns : ∀ replies result calls,
      ((run brief probe : Checked Unit TrafficResult).run.perform (.answering replies) none ()
        (0, 0)).value = some result →
      ((run brief probe : Checked Unit TrafficResult).run.timeline (.answering replies) none ()
        (0, 0)).map TimedCall.call = calls →
      ∃ k, Reported brief probe k result ∧ (k.calls probe).map TimedCall.call = calls := by
    intro replies result calls hresult hcalls
    have hpositive : 0 < brief.interval := by decide
    obtain ⟨k, result', hvalue, htimeline, hreported⟩ := traffic_check_reports_first_fault
      (Surroundings.answering_timely replies) hpositive probe () (0, 0)
    rw [htimeline] at hcalls
    exact ⟨k, Option.some.inj (hvalue.symm.trans hresult) ▸ hreported, hcalls⟩
  obtain ⟨failed, hfailed, hfailedCalls⟩ := hruns failing _ _ rfl rfl
  obtain ⟨lossy, hlossy, hlossyCalls⟩ := hruns (delivering 8) _ _ rfl rfl
  obtain ⟨clean, hclean, -⟩ := hruns (delivering 10) _ _ rfl rfl
  exact ⟨⟨failed, (hfailed.fault _).1 rfl, hfailedCalls⟩,
    ⟨lossy, (hlossy.fault _).1 rfl, hlossyCalls⟩, clean, (hclean.ok _).1 rfl⟩

end TrafficCheck

end RoutePreference
