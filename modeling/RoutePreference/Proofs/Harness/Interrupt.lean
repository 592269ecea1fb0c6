import RoutePreference.Bench.Faults
import RoutePreference.Proofs.Bench.Followed
import RoutePreference.Proofs.Harness.Release

/-!
# What an interrupted run leaves behind

* `Testbed.Unused`: a testbed that nobody uses, with ticks in its queue at most;
* `vacant_iff_no_stray`: a run leaves the testbed free exactly if no request that acquires
  something was given up, at any pace;
* `interrupted_opening_leaves_session`: a run on the clock for which that makes a difference.
-/

namespace RoutePreference

/-- A testbed that nobody uses, with ticks of flows that have stopped in its queue at most. -/
structure Testbed.Unused (t : Testbed) : Prop where
  vacant : t.device.Vacant
  fresh : t.Fresh
  ticks : ∀ p ∈ t.queue, p.IsTick

theorem Testbed.Unused.leaves {t : Testbed} (h : t.Unused) (paces : List Pace) :
    Paced.Leaves {} { testbed := t, paces } where
  tends := ⟨h.fresh, .of_ticks (Device.steady_left {}) h.ticks (Device.left_empty_iff.2 h.vacant)⟩
  noStray := rfl
  handle _ hc := nomatch hc

namespace Run

/-- **An interrupted run leaves nothing behind, unless a request that acquires something was given
up.**  Whatever the order in which the run, the testbed and the transmissions come by turns, and
wherever the run is cut short: when it has reported and the testbed has served every request, the
testbed is free exactly if every request to start the protocols, to create the network instance or
to open the session either wasn't sent or was waited for.  Runs on the clock are among these runs
by `execute_followed`. -/
theorem vacant_iff_no_stray (sc : Scenario) (run : Nat) (cut : Option Nat) {t : Testbed}
    (paces : List Pace) (ht : t.Unused) {report : RunReport} {s : Paced}
    (hrun : execute Paced.surroundings sc run cut { testbed := t, paces } = (some report, s))
    {ms : List Move} (hserved : (s.testbed.moves ms).queue = []) :
    (s.testbed.moves ms).device.Vacant ↔ ∀ r ∈ s.unheard, r.isNotedLate = false := by
  have hleft := (execute_leavesWith (ht.leaves paces) hrun).1.tends
  have hend := hleft.drained (Device.steady_leftWith _ _) hserved
  rw [Device.vacant_iff_of_leftWith hend, Paced.hasStray, List.any_eq_false]
  simp only [Bool.not_eq_true]

/-- The paces of a run of the standard scenario that is cut short when the request to open a
session is in the queue: each call before it and after it is served at once. -/
def openingGivenUp : List Pace :=
  List.replicate 10 { during := [.serve] } ++
    [{ before := [.program], during := [.serve] }, { during := [.serve] }, { heard := false },
      { during := [.serve, .serve] }, { during := [.serve] }, { during := [.serve] }]

/-- How that run ends. -/
def afterOpeningGivenUp : Option RunReport × Paced :=
  execute Paced.surroundings .standard 1 (some 60)
    { testbed := (Bench.start .standard).testbed, paces := openingGivenUp }

theorem unused_start (settings : Settings) : (Bench.start settings).testbed.Unused where
  vacant := ⟨rfl, fun _ => rfl, fun _ => rfl, fun _ _ h => nomatch h⟩
  fresh := ⟨fun _ h => (List.not_mem_nil h).elim, fun _ h => (List.not_mem_nil h).elim,
    fun _ h => (List.not_mem_nil h).elim⟩
  ticks _ h := (List.not_mem_nil h).elim

theorem vacant_iff_no_stray_opening :
    ∃ report, afterOpeningGivenUp.1 = some report ∧
      (afterOpeningGivenUp.2.testbed.moves []).queue = [] ∧
      ((afterOpeningGivenUp.2.testbed.moves []).device.Vacant ↔
        ∀ r ∈ afterOpeningGivenUp.2.unheard, r.isNotedLate = false) := by
  have hreport : afterOpeningGivenUp.1.isSome = true := by decide +kernel
  obtain ⟨report, hr⟩ := Option.isSome_iff_exists.1 hreport
  have hserved : (afterOpeningGivenUp.2.testbed.moves []).queue = [] := by decide +kernel
  exact ⟨report, hr, hserved, vacant_iff_no_stray .standard 1 (some 60) openingGivenUp
    (unused_start .standard) (Prod.ext hr rfl) hserved⟩

/-- A new testbed on which opening a session takes ten milliseconds. -/
def slowOpening : FaultyBench where
  bench := .start .standard
  faults := [{ call := "open", nth := none, delay := 10, effect := .none }]

/-- A run of the standard scenario on it that is interrupted after sixty milliseconds. -/
def interruptedOpening : Option RunReport × FaultyBench :=
  execute FaultyBench.surroundings .standard 1 (some 60) slowOpening

/-- The standard scenario, interrupted when the request to open the session has just been sent: it
leaves the session behind, although it has reported and every request is served. -/
theorem interrupted_opening_leaves_session :
    slowOpening.bench.device.Vacant ∧ interruptedOpening.1.isSome = true ∧
      interruptedOpening.2.bench.queue = [] ∧ ¬ interruptedOpening.2.bench.device.Vacant := by
  refine ⟨(unused_start .standard).vacant, by decide +kernel, by decide +kernel, fun hvacant => ?_⟩
  have hsession : interruptedOpening.2.bench.device.sessions.contains 1 = true := by
    decide +kernel
  rw [hvacant.sessions 1] at hsession
  cases hsession

end Run

end RoutePreference
