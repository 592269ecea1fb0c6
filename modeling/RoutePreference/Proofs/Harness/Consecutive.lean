import RoutePreference.Proofs.Device.Tokens
import RoutePreference.Proofs.Device.WellFormed
import RoutePreference.Proofs.Harness.Interrupt

/-!
# Consecutive runs

* `Device.Clean`: a testbed that nobody uses, without programmed entries and withheld results,
  `Reachable.clean`: what nobody uses is clean once pending updates are processed;
* `Testbed.Idle`, `Testbed.ComesClean`: a testbed with nothing to do, and one that will be clean
  when it has nothing to do;
* `Run.series`: one run after the other, none of which is interrupted;
* `Paced.Free`: what a run that isn't interrupted finds and leaves;
* `consecutive_runs_leave_nothing`: after any number of runs the testbed comes clean, at any pace
  and on the clock.
-/

namespace RoutePreference

variable {settings : Settings}

namespace Device

variable {d : Device}

/-- A testbed that nobody uses, and in which nothing was left behind. -/
structure Clean (d : Device) : Prop extends Vacant d where
  entries : d.aft = ∅
  replies : d.owed = []

/-- Without network instances there are no entries, and without tokens nobody waits for results. -/
theorem Reachable.clean (hd : Reachable settings d) (hv : d.Vacant) (ht : d.tokens = 0) :
    d.Clean where
  toVacant := hv
  entries := by
    refine Table.ext_get? fun n => ?_
    have hnone : d.aft.contains n = false := by
      rw [Bool.eq_false_iff]
      intro hn
      have hthere := hd.wellFormed.placed n hn
      rw [contains_configured, hv.instances n] at hthere
      cases hthere
    exact Table.contains_eq_false_iff.1 hnone
  replies := by
    have hidle : ¬ d.HasWork := fun hw => absurd ht (Nat.ne_of_gt (hd.awake hw))
    exact Decidable.byContradiction fun ho => hidle (.inr ho)

theorem steady_reachable (settings : Settings) : Steady (Reachable settings) :=
  ⟨fun flow h => h.serve 0 (.tick flow), fun h => h.process⟩

end Device

/-! ### A testbed with nothing to do -/

namespace Testbed

variable {t : Testbed}

/-- Whether every request is served and no token calls for processing. -/
structure Idle (t : Testbed) : Prop where
  queue : t.queue = []
  tokens : t.device.tokens = 0

/-- Whether the testbed is clean whenever it has nothing to do, which can come about. -/
structure ComesClean (t : Testbed) : Prop where
  clean : ∀ ms, (t.moves ms).Idle → (t.moves ms).device.Clean
  idles : ∃ ms, (t.moves ms).Idle

/-- Serving every request and processing leaves nothing to do. -/
theorem idle_moves (t : Testbed) :
    (t.moves (.replicate t.queue.length .serve ++ [.program])).Idle := by
  have hserved : ∀ (n : Nat) (t : Testbed), t.queue.length = n →
      (t.moves (.replicate n .serve)).queue = [] := by
    intro n
    induction n with
    | zero => exact fun t ht => List.length_eq_zero_iff.1 ht
    | succ n ih =>
      intro t ht
      rw [List.replicate_succ, moves_cons]
      refine ih _ ?_
      rw [queue_serve, List.length_tail, ht, Nat.add_sub_cancel]
  rw [moves_append]
  exact ⟨hserved _ t rfl, rfl⟩

end Testbed

/-! ### Runs at any pace -/

namespace Paced

variable {s s' : Paced}

/-- What every request keeps, every call keeps. -/
theorem tends_answer {P : Device → Prop} (hP : Device.Steady P)
    (hr : ∀ r d ticket, P d → P (d.serve ticket r).1) (h : s.testbed.Tends P) (c : Call) :
    (s.answer c).2.testbed.Tends P := by
  have hans := s.answered c
  generalize (s.answer c).2 = s' at hans
  cases hans with
  | refused => exact h
  | exchanged => exact exchange_keeps hP (hr _) h
  | noted _ before after =>
    exact (exchange_keeps hP (hr _) (s := s.withHandles before) (h.withHandles _)).withHandles _

/-- A testbed that will be free, and that was only ever used through requests. -/
structure Free (settings : Settings) (s : Paced) : Prop where
  leaves : s.Leaves {}
  reachable : s.testbed.Tends (Device.Reachable settings)

/-- **A run that isn't interrupted** frees what it has taken. -/
theorem Free.execute (h : s.Free settings) {sc : Scenario} {run : Nat} {report : RunReport}
    (hrun : Run.execute surroundings sc run none s = (some report, s')) : s'.Free settings where
  leaves := by
    obtain ⟨hleft, hstray⟩ := Run.execute_leavesWith h.leaves hrun
    have hnone := hstray rfl
    have htends := hleft.tends
    rw [hnone] at htends
    refine ⟨htends.mono fun d hd => ?_, hnone, hleft.handle⟩
    exact Device.left_empty_iff.2 ((Device.vacant_iff_of_leftWith hd).2 rfl)
  reachable := by
    have hsteady := Device.steady_reachable settings
    have hkept : (Run.execute surroundings sc run none s).2.testbed.Tends
        (Device.Reachable settings) :=
      Run.execute_keeps (I := fun s : Paced => s.testbed.Tends (Device.Reachable settings))
        (fun c _ _ hs => tends_answer hsteady (fun r _ ticket hd => hd.serve ticket r) hs c)
        (fun _ s hs => hs.moves hsteady s.pace.before) h.reachable
    rw [hrun] at hkept
    exact hkept

/-- What will be free comes clean. -/
theorem Free.comesClean (h : s.Free settings) : s.testbed.ComesClean where
  clean ms hidle := by
    have hleft := h.leaves.tends.drained (Device.steady_left {}) hidle.queue
    have hreached := h.reachable.drained (Device.steady_reachable settings) hidle.queue
    exact hreached.clean (Device.left_empty_iff.1 hleft) hidle.tokens
  idles := ⟨_, s.testbed.idle_moves⟩

end Paced

namespace Run

variable {S : Type}

/-- One run after the other, none of which is interrupted, and their reports.  There are none if
one of the runs never ends. -/
def series (w : Surroundings S) (run : Nat) : List Scenario → S → Option (List RunReport) × S
  | [], s => (some [], s)
  | sc :: scs, s =>
    let ran := execute w sc run none s
    match ran.1 with
    | none => (none, ran.2)
    | some report =>
      let rest := series w (run + 1) scs ran.2
      (rest.1.map (report :: ·), rest.2)

theorem series_free {scs : List Scenario} {run : Nat} {s s' : Paced} {reports : List RunReport}
    (h : s.Free settings) (hran : series Paced.surroundings run scs s = (some reports, s')) :
    s'.Free settings := by
  induction scs generalizing run s reports with
  | nil =>
    cases hran
    exact h
  | cons sc scs ih =>
    unfold series at hran
    generalize hrun : execute Paced.surroundings sc run none s = ran at hran
    obtain ⟨_ | report, s₁⟩ := ran
    · cases hran
    · dsimp only at hran
      generalize hrest : series Paced.surroundings (run + 1) scs s₁ = rest at hran
      obtain ⟨_ | reports', s₂⟩ := rest
      · cases hran
      · cases hran
        exact ih (h.execute hrun) hrest

/-- Runs on the clock are runs at some pace. -/
theorem series_followed (scs : List Scenario) (run : Nat) {b : Bench} (h : b.Ready) :
    Bench.Followed b (series Bench.surroundings run scs b).1 (series Bench.surroundings run scs b).2
      (series Paced.surroundings run scs) := by
  induction scs generalizing run b with
  | nil => exact .refl h _
  | cons sc scs ih =>
    have hrun := execute_followed sc run none h
    unfold series
    dsimp only
    generalize execute Bench.surroundings sc run none b = ran at hrun ⊢
    obtain ⟨_ | report, b₁⟩ := ran
    · exact hrun.bind (g := fun o s => match o with
        | none => (none, s)
        | some report =>
          let rest := series Paced.surroundings (run + 1) scs s
          (rest.1.map (report :: ·), rest.2)) (.refl hrun.1 _)
    · have hrest := ih (run + 1) hrun.1
      exact hrun.bind (g := fun o s => match o with
        | none => (none, s)
        | some report =>
          let rest := series Paced.surroundings (run + 1) scs s
          (rest.1.map (report :: ·), rest.2))
        (hrest.bind (g := fun reports s => (reports.map (report :: ·), s)) (.refl hrest.1 _))

theorem ready_start (settings : Settings) : (Bench.start settings).Ready where
  up := rfl
  ticks _ hp := (List.not_mem_nil hp).elim
  fresh := (unused_start settings).fresh

theorem free_start (settings : Settings) (paces : List Pace) :
    Paced.Free settings { testbed := (Bench.start settings).testbed, paces } where
  leaves := (unused_start settings).leaves paces
  reachable := ⟨(unused_start settings).fresh, .start⟩

/-- **Runs that aren't interrupted leave nothing behind.**  A testbed that was new, whatever its
settings, comes clean after any number of runs of any scenarios that have reported, at any pace: when
it has served every request, those that nobody waited for included, and has processed what is
pending, nobody uses it, no entries are programmed, and no results are withheld.  The same is true
of runs on the clock, however long one waits afterwards. -/
theorem consecutive_runs_leave_nothing (settings : Settings) (scs : List Scenario) (run : Nat) :
    (∀ (paces : List Pace) (reports : List RunReport) (s : Paced),
      series Paced.surroundings run scs { testbed := (Bench.start settings).testbed, paces } =
        (some reports, s) → s.testbed.ComesClean) ∧
    ∀ (reports : List RunReport) (b : Bench),
      series Bench.surroundings run scs (Bench.start settings) = (some reports, b) →
        b.testbed.ComesClean ∧
          ∀ moment, (b.passUntil moment).testbed.Idle → (b.passUntil moment).device.Clean := by
  refine ⟨fun paces reports s hran => (series_free (free_start settings paces) hran).comesClean,
    fun reports b hran => ?_⟩
  obtain ⟨hready, paces, hpaces⟩ := series_followed scs run (ready_start settings)
  rw [hran] at hready hpaces
  obtain ⟨-, unheard, hpaced⟩ := hpaces [{ time := b.clock }] [] rfl
  have hclean : b.testbed.ComesClean :=
    (series_free (free_start settings _) hpaced).comesClean
  refine ⟨hclean, fun moment hidle => ?_⟩
  obtain ⟨-, ms, hms⟩ := Bench.runs_passUntil moment (hready.waits 0)
  rw [hms] at hidle
  have hdevice : (b.passUntil moment).device = (b.testbed.moves ms).device :=
    congrArg Testbed.device hms
  rw [hdevice]
  exact hclean.clean ms hidle

/-- A scenario whose programming can't be acknowledged in time, and that doesn't flush. -/
def hurried : Scenario :=
  { Scenario.standard with session :=
    { SessionSettings.standard with fibAck := true, flushOnTeardown := false, ackTimeout := 5 } }

/-- The paces of a run of it that gives up on the next-hop while the request is in the queue. -/
def nextHopGivenUp : List Pace :=
  List.replicate 10 { during := [.serve] } ++
    [{ before := [.program], during := [.serve] }, { during := [.serve] }, { during := [.serve] },
      { heard := false }, { during := [.serve, .serve] }, { during := [.serve] },
      { during := [.serve] }, { during := [.serve] }]

/-- How that run ends. -/
def afterNextHopGivenUp : Option (List RunReport) × Paced :=
  series Paced.surroundings 1 [hurried]
    { testbed := (Bench.start .standard).testbed, paces := nextHopGivenUp }

/-- How two runs of it on the clock end. -/
def afterHurriedRuns : Option (List RunReport) × Bench :=
  series Bench.surroundings 1 [hurried, hurried] (.start .standard)

/-- How far runs got, and what they failed in. -/
def outcomesOf (reports : List RunReport) : List (RunState × Option ErrorKind) :=
  reports.map fun r => (r.reached, r.failure.map (·.kind))

theorem consecutive_runs_leave_nothing_hurried :
    (afterNextHopGivenUp.1.map outcomesOf = some [(.staticVerified, some .programming)] ∧
        (afterNextHopGivenUp.2.testbed.moves [.program]).device.Clean) ∧
      afterHurriedRuns.1.map outcomesOf =
          some [(.staticVerified, some .programming), (.staticVerified, some .programming)] ∧
        (afterHurriedRuns.2.passUntil 1000).device.Clean := by
  constructor
  · have hreported : afterNextHopGivenUp.1.map outcomesOf =
        some [(.staticVerified, some .programming)] := by decide +kernel
    have hidle : (afterNextHopGivenUp.2.testbed.moves [.program]).Idle :=
      ⟨by decide +kernel, by decide +kernel⟩
    generalize hran : afterNextHopGivenUp = ran at hreported hidle ⊢
    obtain ⟨_ | reports, s⟩ := ran
    · cases hreported
    · have hclean := (consecutive_runs_leave_nothing .standard [hurried] 1).1 _ reports s hran
      exact ⟨hreported, hclean.clean [.program] hidle⟩
  · have hreported : afterHurriedRuns.1.map outcomesOf =
        some [(.staticVerified, some .programming), (.staticVerified, some .programming)] := by
      decide +kernel
    have hidle : (afterHurriedRuns.2.passUntil 1000).testbed.Idle :=
      ⟨by decide +kernel, by decide +kernel⟩
    generalize hran : afterHurriedRuns = ran at hreported hidle ⊢
    obtain ⟨_ | reports, b⟩ := ran
    · cases hreported
    · have hclean := (consecutive_runs_leave_nothing .standard [hurried, hurried] 1).2 reports b hran
      exact ⟨hreported, hclean.2 1000 hidle⟩

end Run

end RoutePreference
