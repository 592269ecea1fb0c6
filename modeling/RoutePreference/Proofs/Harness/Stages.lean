import RoutePreference.Proofs.Harness.Course

/-!
# What the stages of a run do

* `Installer.Submits`: procedures that submit an entry with one call, or refuse it;
* `Run.Seen`, `Run.Stands`: what the holdings of a run say after some calls on its course;
* `Run.Knows`, `Run.Passed`, `Run.Underway`: what is known in the course of a stage: the holdings,
  the calls so far, and those that lie ahead;
* `Run.Halted`: what is known of a run whose stages have ended before the traffic was validated;
* `Run.Goes`: how a part of a run goes, with a rule for each kind of step: a call that acquires
  something, a call that doesn't, a check, a state that is reached;
* `provision_goes`, `installStatic_goes`, `installDynamic_goes`, `verifyDynamic_goes`: the stages
  before the traffic.
-/

namespace RoutePreference

/-! ### Installers -/

/-- Whether a procedure submits an entry under the next number of an installer, or refuses it. -/
inductive Installer.Submits {σ : Type} (i : Installer) (entry : AftEntry) :
    Procedure σ (Except RunError Status × Installer) → Prop where
  | refuses (e : RunError) : Submits i entry (.done (.error e, i))
  | submits {next : Option (Call.modify i.session _).Reply → _}
      (hnext : ∀ reply, ∃ result i', next reply = .done (result, i') ∧ i'.session = i.session ∧
        i'.nextId = i.nextId + 1) :
      Submits i entry (.askWithin i.ackTimeout (Run.programming i.session i.nextId entry) next)

namespace Installer.Submits

variable {σ : Type} (i : Installer)

theorem program (entry : AftEntry) {note : Installer → Installer}
    (hnote : ∀ j, (note j).session = j.session ∧ (note j).nextId = j.nextId) :
    i.Submits entry (i.program .add entry note : Procedure σ _) := by
  refine .submits fun reply => ?_
  rw [Procedure.pure_bind]
  split
  · next status _ => exact ⟨.ok status, note i.numbered, rfl, hnote i.numbered⟩
  · next e _ => exact ⟨.error e, i.numbered, rfl, rfl, rfl⟩

theorem installNextHop (n : NextHop) :
    i.Submits (.nextHop n) (i.installNextHop n : Procedure σ _) :=
  program i _ fun _ => ⟨rfl, rfl⟩

theorem installGroup (g : NextHopGroup) :
    i.Submits (.nextHopGroup g) (i.installGroup g : Procedure σ _) := by
  unfold Installer.installGroup
  split
  · exact .refuses _
  · exact program i _ fun _ => ⟨rfl, rfl⟩

theorem installIpv4 (e : Ipv4Entry) : i.Submits (.ipv4 e) (i.installIpv4 e : Procedure σ _) := by
  unfold Installer.installIpv4
  split
  · exact program i _ fun _ => ⟨rfl, rfl⟩
  · exact .refuses _

end Installer.Submits

namespace Run

variable {S α β : Type} {sc : Scenario} {w : Surroundings S} {cut : Option Nat}
variable {l rest : List Call} {h held : Holdings} {log : List CallRecord} {s : List CallRecord × S}
variable {c : Call} {interrupted : Bool}

/-! ### What a run knows of itself -/

/-- What the holdings of a run say after some calls before the traffic. -/
structure Seen (sc : Scenario) (l : List Call) (h : Holdings) : Prop where
  noTraffic : .startFlow sc.traffic.flow ∉ l
  flow : h.flow = none
  observations : h.observations = (expectedObservations sc).take (pathsRead l).length

/-- What the holdings of a run say after some calls on its course, when its stages have ended. -/
structure Stands (sc : Scenario) (interrupted : Bool) (l : List Call) (h : Holdings) : Prop where
  onCourse : OnCourse sc l
  flow : h.flow =
    if interrupted ∧ .startFlow sc.traffic.flow ∈ l then some sc.traffic.flowName else none
  observations : h.observations = (expectedObservations sc).take (pathsRead l).length
  reached : (h.reached, (pathsRead l).length) ∈ progress

theorem Seen.stands (hseen : Seen sc l h) (hon : OnCourse sc l)
    (hreached : (h.reached, (pathsRead l).length) ∈ progress) (i : Bool) : Stands sc i l h where
  onCourse := hon
  flow := by rw [hseen.flow, if_neg fun hi => hseen.noTraffic hi.2]
  observations := hseen.observations
  reached := hreached

/-- If the flow is held neither after a failure nor after an interrupt, none was started. -/
theorem seen_of_stands (hst : ∀ i, Stands sc i l h) : Seen sc l h where
  noTraffic hmem := by
    have hcut := (hst true).flow
    rw [(hst false).flow, if_neg (by simp), if_pos ⟨rfl, hmem⟩] at hcut
    cases hcut
  flow := by rw [(hst false).flow, if_neg (by simp)]
  observations := (hst false).observations

/-- The next check, and what is noted of it. -/
theorem Seen.observe {step : RunState} {path : StatePath} (hseen : Seen sc l h)
    (hcheck : (checks sc)[(pathsRead l).length]? = some (step, path)) :
    Seen sc (l ++ [.read path])
      (h.observe step path.text (some (expectedText sc path))) where
  noTraffic := by simpa using hseen.noTraffic
  flow := hseen.flow
  observations := by
    have hnext : (expectedObservations sc)[(pathsRead l).length]? =
        some { step, subject := path.text, value := some (expectedText sc path) } := by
      rw [expectedObservations, List.getElem?_map, hcheck]
      rfl
    have hlength : (pathsRead (l ++ [.read path])).length = (pathsRead l).length + 1 := by
      rw [pathsRead_append, List.length_append]
      rfl
    rw [hlength, List.take_add_one, hnext, ← hseen.observations]
    rfl

/-- What is known in the course of a stage: the holdings, and the calls so far. -/
structure Knows (sc : Scenario) (l : List Call) (h held : Holdings) (log : List CallRecord) :
    Prop where
  held_eq : held = h
  said : said sc log = l
  assets : assetsHeld h = assetsOf sc log

/-- What is known when the stages have ended before the traffic was validated. -/
structure Halted (sc : Scenario) (interrupted : Bool) (held : Holdings) (log : List CallRecord) :
    Prop where
  stands : Stands sc interrupted (said sc log) held
  assets : assetsHeld held = assetsOf sc log

namespace Knows

theorem halted (hk : Knows sc l h held log) (hst : Stands sc interrupted l h) :
    Halted sc interrupted held log := by
  obtain ⟨rfl, rfl, hassets⟩ := hk
  exact ⟨hst, hassets⟩

/-- A call that counts, with what it acquires. -/
theorem call (hk : Knows sc l h held log) (hc : pathRead? c = none) (reply : Option c.Reply)
    {h' : Holdings} (hassets : assetsHeld h' = (assetsHeld h).note sc ⟨c, reply⟩) :
    Knows sc (l ++ [c]) h' h' (log ++ [⟨c, reply⟩]) where
  held_eq := rfl
  said := by rw [said_concat, hk.said, said?_of_not_read hc]; rfl
  assets := by rw [assetsOf_concat, ← hk.assets, hassets]

/-- A call that counts and acquires nothing, because it isn't of that kind or fails. -/
theorem keep (hk : Knows sc l h held log) (hc : pathRead? c = none) {reply : Option c.Reply}
    (hkeep : acquires c = false ∨ CallRecord.isOk ⟨c, reply⟩ = false) :
    Knows sc (l ++ [c]) h held (log ++ [⟨c, reply⟩]) := by
  obtain ⟨rfl, hsaid, hassets⟩ := hk
  exact call ⟨rfl, hsaid, hassets⟩ hc reply (note_of_kept hkeep).symm

/-- A read that shows the expected value. -/
theorem hit {path : StatePath} (hk : Knows sc l h held log) :
    Knows sc (l ++ [.read path]) h held
      (log ++ [⟨.read path, some (.ok (some (expectedText sc path)))⟩]) where
  held_eq := hk.held_eq
  said := by
    have hshown : shown? sc ⟨.read path, some (.ok (some (expectedText sc path)))⟩ = some path :=
      if_pos rfl
    rw [said_concat, hk.said, said?, hshown]
    rfl
  assets := by rw [assetsOf_concat, note_of_kept (.inl rfl), hk.assets]

/-- A read that doesn't. -/
theorem miss {path : StatePath} (hk : Knows sc l h held log)
    {reply : Option (Call.read path).Reply} (hmiss : shown? sc ⟨.read path, reply⟩ = none) :
    Knows sc l h held (log ++ [⟨.read path, reply⟩]) where
  held_eq := hk.held_eq
  said := by
    rw [said_concat, hk.said, said?, hmiss]
    exact List.append_nil l
  assets := by rw [assetsOf_concat, note_of_kept (.inl rfl), hk.assets]

end Knows

/-- What is known when a check has been passed, in a state that was reached before. -/
structure Passed (sc : Scenario) (l : List Call) (reached : RunState) (h held : Holdings)
    (log : List CallRecord) : Prop where
  seen : Seen sc l h
  reached_eq : h.reached = reached
  knows : Knows sc l h held log

/-- What is known before some calls that lie ahead, whether the stages will fail or be cut short. -/
structure Underway (sc : Scenario) (l rest : List Call) (h held : Holdings)
    (log : List CallRecord) : Prop where
  knows : Knows sc l h held log
  stands : ∀ i, Stands sc i l h
  ahead : OnCourse sc (l ++ rest)

/-- A call that is neither a read nor the one that starts the traffic. -/
theorem Stands.step (hst : Stands sc interrupted l h) (hon : OnCourse sc (l ++ [c]))
    (hc : pathRead? c = none) (hflow : c ≠ .startFlow sc.traffic.flow) :
    Stands sc interrupted (l ++ [c]) h where
  onCourse := hon
  flow := by simpa [hflow.symm] using hst.flow
  observations := by simpa [pathsRead, hc] using hst.observations
  reached := by simpa [pathsRead, hc] using hst.reached

theorem Underway.step (hu : Underway sc l (c :: rest) h held log) (hc : pathRead? c = none)
    (hflow : c ≠ .startFlow sc.traffic.flow) (i : Bool) : Stands sc i (l ++ [c]) h :=
  (hu.stands i).step hu.ahead.step.of_append hc hflow

theorem Passed.underway {reached : RunState} (hp : Passed sc l reached h held log)
    (hon : OnCourse sc (l ++ rest)) (hreached : (reached, (pathsRead l).length) ∈ progress) :
    Underway sc l rest h held log :=
  ⟨hp.knows, hp.seen.stands hon.of_append (hp.reached_eq ▸ hreached), hon⟩

/-! ### How stages go -/

/-- How a part of a run goes: the first condition is for its end and the second one for a failure,
both about the holdings and the calls so far; a part that is cut short halts the run. -/
def Goes (sc : Scenario) (w : Surroundings S) (cut : Option Nat)
    (E : α → Holdings → List CallRecord → Prop) (F : Holdings → List CallRecord → Prop)
    (held : Holdings) (p : Stage α) (s : List CallRecord × S) : Prop :=
  Checked.Ends w.recorded cut (fun a held s => E a held s.1) (fun held s => F held s.1)
    (fun held s => Halted sc true held s.1) held p s

namespace Goes

variable {E : α → Holdings → List CallRecord → Prop} {F : Holdings → List CallRecord → Prop}

theorem bind {p : Stage α} {f : α → Stage β} {E : β → Holdings → List CallRecord → Prop}
    {G : α → Holdings → List CallRecord → Prop} (hp : Goes sc w cut G F held p s)
    (hf : ∀ a held (s : List CallRecord × S), G a held s.1 → Goes sc w cut E F held (f a) s) :
    Goes sc w cut E F held (p >>= f) s :=
  Checked.Ends.bind (Checked.Ends.mono hp hf (fun _ _ h => h) fun _ _ h => h)

theorem pure {a : α} (ha : E a held s.1) : Goes sc w cut E F held (Pure.pure a) s :=
  Checked.Ends.pure ha

theorem throw {e : RunError} (hF : F held s.1) :
    Goes sc w cut E F held (MonadExcept.throw e) s :=
  Checked.Ends.throw hF

theorem now (hk : Knows sc l h held s.1) :
    Goes sc w cut (fun _ held log => Knows sc l h held log) F held Checked.now s :=
  Checked.Ends.now hk

theorem sleep {ms : Nat} (hk : Knows sc l h held s.1) (hcut : Stands sc true l h) :
    Goes sc w cut (fun _ held log => Knows sc l h held log) F held (Checked.sleep ms) s :=
  Checked.Ends.sleep (fun _ => hk) fun _ => hk.halted hcut

theorem holding {E : Holdings → Holdings → List CallRecord → Prop} (h' : E h h s.1) :
    Goes sc w cut E F held (Run.holding h) s :=
  Checked.Ends.bind (Checked.Ends.hold (Checked.Ends.pure h'))

/-- What follows after something was noted. -/
theorem note {f : Holdings → Stage β} {E : β → Holdings → List CallRecord → Prop}
    (hf : Goes sc w cut E F h (f h) s) : Goes sc w cut E F held (Run.holding h >>= f) s :=
  Checked.Ends.bind (Checked.Ends.bind (Checked.Ends.hold (Checked.Ends.pure hf)))

/-- What follows unless there was a failure before. -/
theorem settle {r : Except RunError α} {f : α → Stage β} {E : β → Holdings → List CallRecord → Prop}
    (hf : ∀ a, r = .ok a → Goes sc w cut E F held (f a) s)
    (hF : ∀ e, r = .error e → F held s.1) :
    Goes sc w cut E F held (Checked.ofExcept r >>= f) s :=
  Checked.Ends.bind (Checked.Ends.ofExcept hf hF)

/-- A part of a run whose failure is looked at before going on. -/
theorem attempt {p : Stage α} {F' : Holdings → List CallRecord → Prop}
    (hp : Goes sc w cut E F held p s) :
    Goes sc w cut (fun r held log => match r with
      | .ok a => E a held log
      | .error _ => F held log) F' held (Checked.attempt p) s :=
  Checked.Ends.lift hp

/-- A call that counts. -/
theorem call {asFailure : CallError → RunError} {E : c.Value → Holdings → List CallRecord → Prop}
    (hk : Knows sc l h held s.1) (hc : pathRead? c = none) (hcut : Stands sc true (l ++ [c]) h)
    (hF : ∀ log, Knows sc (l ++ [c]) h held log → F held log)
    (hE : ∀ v, E v held (s.1 ++ [⟨c, some (.ok v)⟩])) :
    Goes sc w cut E F held (Checked.call asFailure c) s := by
  refine Checked.Ends.call (fun v hv => ?_) (fun e he => ?_) fun hnone => ?_
  · rw [w.recorded_answer hv]
    exact hE v
  · rw [w.recorded_answer he]
    exact hF _ (hk.keep hc (.inr rfl))
  · rw [w.recorded_answer hnone]
    exact (hk.keep hc (.inr rfl)).halted hcut

/-- The next call, if it acquires nothing. -/
theorem next {asFailure : CallError → RunError} (hu : Underway sc l (c :: rest) h held s.1)
    (hc : pathRead? c = none) (hflow : c ≠ .startFlow sc.traffic.flow)
    (hplain : acquires c = false) :
    Goes sc w cut (fun _ held log => Underway sc (l ++ [c]) rest h held log) (Halted sc false) held
      (Checked.call asFailure c) s := by
  have hst := hu.step hc hflow
  exact call hu.knows hc (hst true) (fun _ hk => hk.halted (hst false))
    fun v => ⟨hu.knows.keep hc (.inl hplain), hst, hu.ahead.step⟩

/-- The next call, if it acquires something that is noted at once. -/
theorem acquire {asFailure : CallError → RunError} {h' : c.Value → Holdings}
    {f : c.Value → Holdings → Stage β} {E : β → Holdings → List CallRecord → Prop}
    (hu : Underway sc l (c :: rest) h held s.1) (hc : pathRead? c = none)
    (hflow : c ≠ .startFlow sc.traffic.flow)
    (hassets : ∀ v, assetsHeld (h' v) = (assetsHeld h).note sc ⟨c, some (.ok v)⟩)
    (hsame : ∀ v, (h' v).flow = h.flow ∧ (h' v).observations = h.observations ∧
      (h' v).reached = h.reached)
    (hf : ∀ v held (s : List CallRecord × S), Underway sc (l ++ [c]) rest (h' v) held s.1 →
      Goes sc w cut E (Halted sc false) held (f v (h' v)) s) :
    Goes sc w cut E (Halted sc false) held
      (Checked.call asFailure c >>= fun v => Run.holding (h' v) >>= f v) s := by
  have hst := hu.step hc hflow
  refine .bind (.call hu.knows hc (hst true) (fun _ hk => hk.halted (hst false))
    (E := fun v _ log => Knows sc (l ++ [c]) (h' v) (h' v) log)
    fun v => hu.knows.call hc _ (hassets v)) fun v held s hk => ?_
  obtain ⟨hflow', hobserved, hreached⟩ := hsame v
  refine .note (hf v _ s ⟨⟨rfl, hk.said, hk.assets⟩, fun i => ⟨(hst i).onCourse, ?_, ?_, ?_⟩,
    hu.ahead.step⟩)
  · rw [hflow', (hst i).flow]
  · rw [hobserved, (hst i).observations]
  · rw [hreached]
    exact (hst i).reached

/-- A read, which counts if it shows the expected value. -/
theorem read {asFailure : CallError → RunError} {path : StatePath}
    (hk : Knows sc l h held s.1) (hst : ∀ i, Stands sc i l h) :
    Goes sc w cut (fun (v : Option String) held log =>
        (v = some (expectedText sc path) ∧ Knows sc (l ++ [.read path]) h held log) ∨
          (v ≠ some (expectedText sc path) ∧ Knows sc l h held log))
      (Halted sc false) held (Checked.call asFailure (.read path)) s := by
  refine Checked.Ends.call (c := .read path) (fun v hv => ?_) (fun e he => ?_) fun hnone => ?_
  · rw [w.recorded_answer hv]
    change Option String at v
    by_cases hexpected : v = some (expectedText sc path)
    · subst hexpected
      exact .inl ⟨rfl, hk.hit⟩
    · exact .inr ⟨hexpected, hk.miss (if_neg hexpected)⟩
  · rw [w.recorded_answer he]
    exact (hk.miss rfl).halted (hst false)
  · rw [w.recorded_answer hnone]
    exact (hk.miss rfl).halted (hst true)

end Goes

/-! ### Checks -/

variable {F : Holdings → List CallRecord → Prop}

/-- Polling ends with the expected value, or the run has failed. -/
theorem awaitUntil_goes {path : StatePath} (conv : Convergence) (deadline reads : Nat)
    (hst : ∀ i, Stands sc i l h) (hk : Knows sc l h held s.1) :
    Goes sc w cut (fun seen held log => seen.observed = some (expectedText sc path) ∧
        Knows sc (l ++ [.read path]) h held log) (Halted sc false) held
      (conv.awaitUntil path (expectedText sc path) deadline reads) s := by
  induction reads generalizing held s with
  | zero => exact .throw (hk.halted (hst false))
  | succ reads ih =>
    have hpoll : (Convergence.poll path (expectedText sc path) : Stage Sighting) =
        Checked.call (.telemetryRead path.text) (.read path) >>= fun v =>
          pure (Convergence.sighting (expectedText sc path) v) := map_eq_pure_bind _ _
    unfold Convergence.awaitUntil
    rw [hpoll, bind_assoc]
    refine .bind (.read hk hst) fun (v : Option String) held s hseen => ?_
    rw [pure_bind]
    obtain ⟨hv, hk⟩ | ⟨hv, hk⟩ := hseen
    · have hmatched : (Convergence.sighting (expectedText sc path) v).matched = true :=
        decide_eq_true hv
      rw [if_pos hmatched]
      exact .pure ⟨hv, hk⟩
    · have hmatched : ¬ (Convergence.sighting (expectedText sc path) v).matched = true :=
        fun h => hv (of_decide_eq_true h)
      rw [if_neg hmatched]
      refine .bind (.now hk) fun now held s hk => ?_
      split
      · exact .throw (hk.halted (hst false))
      · exact .bind (.sleep hk (hst true)) fun _ held s hk => ih hk

/-- A check notes the expected value, or the run has failed. -/
theorem verify_goes {step : RunState} {path : StatePath} {expected : String}
    (hexpected : expectedText sc path = expected)
    (hcheck : (checks sc)[(pathsRead l).length]? = some (step, path))
    (hu : Underway sc l (.read path :: rest) h held s.1) :
    Goes sc w cut (Passed sc (l ++ [.read path]) h.reached) (Halted sc false) held
      (verify sc h step path expected) s := by
  subst hexpected
  refine .bind (.bind (.now hu.knows) fun start held s hk => awaitUntil_goes _ _ _ hu.stands hk)
    fun seen held s hseen => ?_
  obtain ⟨hobserved, hk⟩ := hseen
  refine .holding ⟨?_, rfl, rfl, hk.said, hk.assets⟩
  rw [hobserved]
  exact (seen_of_stands hu.stands).observe hcheck

/-- A state is reached when its checks have been passed. -/
theorem reach_goes {state reached : RunState} (hp : Passed sc l reached h held s.1)
    (hon : OnCourse sc (l ++ rest)) (hreached : (state, (pathsRead l).length) ∈ progress) :
    Goes sc w cut (fun h' held log => h'.reached = state ∧ Underway sc l rest h' held log) F held
      (reach h state) s := by
  obtain ⟨⟨hno, hflow, hobserved⟩, -, ⟨-, hsaid, hassets⟩⟩ := hp
  exact .holding ⟨rfl,
    Passed.underway ⟨⟨hno, hflow, hobserved⟩, rfl, ⟨rfl, hsaid, hassets⟩⟩ hon hreached⟩

/-! ### Stages -/

theorem setUpLinks_goes (links : List Link)
    (hu : Underway sc l (linkCalls sc links ++ rest) h held s.1) :
    Goes sc w cut (fun _ held log => Underway sc (l ++ linkCalls sc links) rest h held log)
      (Halted sc false) held (setUpLinks sc links) s := by
  induction links generalizing l held s with
  | nil =>
    rw [show linkCalls sc [] = [] from rfl, List.append_nil]
    exact .pure hu
  | cons link links ih =>
    refine .bind (.next hu rfl (by simp) rfl) fun _ held s hu => ?_
    refine .bind (.next hu rfl (by simp) rfl) fun _ held s hu => ?_
    have hcons : l ++ linkCalls sc (link :: links) = l ++ [.configureDut (sc.dutInterface link)] ++
        [.configureAte (Scenario.ateInterface link)] ++ linkCalls sc links := by
      simp [linkCalls]
    rw [hcons]
    exact ih hu

theorem provision_goes (hu : Underway sc [] (untilProvisioned sc) {} held s.1) :
    Goes sc w cut (Passed sc (untilProvisioned sc) .unconfigured) (Halted sc false) held
      (provision sc {}) s := by
  refine .bind (setUpLinks_goes sc.links hu) fun _ held s hu => ?_
  refine .acquire hu rfl (by simp) (fun _ => rfl) (fun _ => ⟨rfl, rfl, rfl⟩) fun _ held s hu => ?_
  refine .acquire hu rfl (by simp) (fun _ => ?_) (fun _ => ⟨rfl, rfl, rfl⟩) fun _ held s hu => ?_
  · simp [assetsHeld, Assets.note, CallRecord.isOk, CallRecord.session?]
  · have hl : [] ++ linkCalls sc sc.links ++ [.startProtocols] ++
        [.replaceInstance sc.instanceConfig] ++ [.read (.instanceType sc.inst)] =
        untilProvisioned sc := by simp [untilProvisioned]
    rw [← hl]
    refine verify_goes rfl ?_ hu
    simp only [pathsRead_append, pathsRead_linkCalls]
    rfl

theorem installStatic_goes (hu : Underway sc (untilProvisioned sc) [.replaceStatic sc.staticRoute,
      .read (.staticRoute sc.inst sc.staticProtocol sc.dest)] h held s.1) :
    Goes sc w cut (Passed sc (untilStaticInstalled sc) h.reached) (Halted sc false) held
      (installStatic sc h) s := by
  refine .acquire hu rfl (by simp) (fun _ => ?_) (fun _ => ⟨rfl, rfl, rfl⟩) fun _ held s hu => ?_
  · simp [assetsHeld, Assets.note, CallRecord.isOk, CallRecord.session?]
  · have hl : untilProvisioned sc ++ [.replaceStatic sc.staticRoute] ++
        [.read (.staticRoute sc.inst sc.staticProtocol sc.dest)] = untilStaticInstalled sc := by
      simp [untilStaticInstalled]
    rw [← hl]
    refine verify_goes rfl ?_ hu
    rw [pathsRead_append, pathsRead_untilProvisioned]
    rfl

/-! ### Installing the programmed route -/

/-- What is known between two installations through a session, and what the next number is. -/
structure Submitting (sc : Scenario) (l rest : List Call) (reached : RunState)
    (session nextId : Nat) (x : Installer × Holdings) (held : Holdings) (log : List CallRecord) :
    Prop where
  underway : Underway sc l rest x.2 held log
  installer : x.2.installer = some x.1
  session_eq : x.1.session = session
  nextId_eq : x.1.nextId = nextId
  reached_eq : x.2.reached = reached

/-- An entry is submitted with one call on the course, or refused without a call. -/
theorem submits_goes {i : Installer} {entry : AftEntry}
    {p : Procedure Holdings (Except RunError Status × Installer)} (hp : i.Submits entry p)
    (hu : Underway sc l (programming i.session i.nextId entry :: rest) h held s.1) :
    Goes sc w cut (fun x held log => x.2.session = i.session ∧
        ((∃ e, x.1 = .error e) ∧ Knows sc l h held log ∨
          x.2.nextId = i.nextId + 1 ∧
            Knows sc (l ++ [programming i.session i.nextId entry]) h held log))
      F held (ExceptT.lift p) s := by
  refine Checked.Ends.lift ?_
  cases hp with
  | refuses e => exact .done ⟨rfl, .inl ⟨⟨e, rfl⟩, hu.knows⟩⟩
  | submits hnext =>
    have hcall : ∀ reply, Knows sc (l ++ [programming i.session i.nextId entry]) h held
        (s.1 ++ [⟨programming i.session i.nextId entry, reply⟩]) :=
      fun reply => hu.knows.keep rfl (.inl rfl)
    refine .askWithin (fun limit reply _ => ?_) fun limit _ => ?_
    · obtain ⟨result, i', heq, hsession, hid⟩ := hnext reply
      rw [heq]
      exact .done ⟨hsession, .inr ⟨hid, hcall _⟩⟩
    · exact (hcall _).halted (hu.step rfl (by simp [programming]) true)

/-- An installation that succeeds is one call on the course. -/
theorem installing_goes {i : Installer} {session nextId : Nat} {reached : RunState}
    {entry : AftEntry} {p : Procedure Holdings (Except RunError Status × Installer)}
    (hp : i.Submits entry p)
    (hs : Submitting sc l (programming session nextId entry :: rest) reached session nextId (i, h)
      held s.1) :
    Goes sc w cut (Submitting sc (l ++ [programming session nextId entry]) rest reached session
      (nextId + 1)) (Halted sc false) held (installing h p) s := by
  obtain ⟨hu, hinst, rfl, rfl, rfl⟩ := hs
  dsimp only at hu hinst ⊢
  refine .bind (submits_goes hp hu) fun x held s hx => ?_
  obtain ⟨result, i'⟩ := x
  obtain ⟨hsession, hx⟩ := hx
  dsimp only at hsession hx
  have hassets : assetsHeld { h with installer := some i' } = assetsHeld h := by
    simp [assetsHeld, hinst, hsession]
  -- the session is the same, so that nothing is acquired
  have hknows : ∀ {l'}, Knows sc l' h held s.1 →
      Knows sc l' { h with installer := some i' } { h with installer := some i' } s.1 :=
    fun hk => ⟨rfl, hk.said, hassets.trans hk.assets⟩
  have hstands : ∀ {j l'}, Stands sc j l' h → Stands sc j l' { h with installer := some i' } :=
    fun hst => ⟨hst.onCourse, hst.flow, hst.observations, hst.reached⟩
  refine .note ?_
  obtain ⟨⟨e, rfl⟩, hk⟩ | ⟨hid, hk⟩ := hx
  · exact .settle (fun _ h => nomatch h)
      fun _ _ => (hknows hk).halted (hstands (hu.stands false))
  · have hst : ∀ j, Stands sc j (l ++ [programming i.session i.nextId entry])
        { h with installer := some i' } := fun j => hstands (hu.step rfl (by simp [programming]) j)
    refine .settle (fun _ _ => ?_) fun _ _ => (hknows hk).halted (hst false)
    exact .pure ⟨⟨hknows hk, hst, hu.ahead.step⟩, rfl, hsession, hid, rfl⟩

theorem installDynamic_goes
    (hu : Underway sc (untilStaticVerified sc) [.openSession sc.session.params] h held s.1) :
    Goes sc w cut (fun h' held log => ∃ session,
        Passed sc (untilDynamicInstalled sc session) h.reached h' held log)
      (Halted sc false) held (installDynamic sc h) s := by
  -- no session was opened before, so that this one is the one to close
  have hnone : (assetsHeld h).session = none := by
    rw [hu.knows.assets]
    refine List.findSome?_eq_none_iff.2 fun r hr => ?_
    obtain ⟨c, reply⟩ := r
    cases c with
    | openSession params =>
      have hsaid : .openSession params ∈ said sc s.1 :=
        (mem_said_iff sc rfl).2 (List.mem_map_of_mem hr)
      rw [hu.knows.said] at hsaid
      simp [untilStaticVerified, untilStaticInstalled, untilProvisioned, linkCalls] at hsaid
    | _ => rfl
  refine .acquire (c := .openSession sc.session.params) hu rfl (by simp) (fun session => ?_)
    (fun _ => ⟨rfl, rfl, rfl⟩) fun session held s hu => ?_
  · simp [assetsHeld, Assets.note, CallRecord.isOk, CallRecord.session?] at hnone ⊢
    simp [hnone]
  change Nat at session
  have hl : untilStaticVerified sc ++ [.openSession sc.session.params] ++
      [programming session 1 (.nextHop sc.nextHop)] ++
      [programming session 2 (.nextHopGroup sc.group)] ++
      [programming session 3 (.ipv4 sc.ipv4Entry)] = untilDynamicInstalled sc session := by
    simp [untilDynamicInstalled]
  have hu : Underway sc (untilStaticVerified sc ++ [.openSession sc.session.params])
      [programming session 1 (.nextHop sc.nextHop), programming session 2 (.nextHopGroup sc.group),
        programming session 3 (.ipv4 sc.ipv4Entry)] _ held s.1 :=
    { hu with
      ahead := by simpa [untilDynamicInstalled] using onCourse_untilDynamicInstalled sc session }
  refine .bind (installing_goes (.installNextHop _ sc.nextHop) ⟨hu, rfl, rfl, rfl, rfl⟩)
    fun x held s hs => ?_
  refine .bind (installing_goes (.installGroup _ sc.group) hs) fun x held s hs => ?_
  refine .bind (installing_goes (.installIpv4 _ sc.ipv4Entry) hs) fun x held s hs => ?_
  exact .pure ⟨session, hl ▸ ⟨seen_of_stands hs.underway.stands, hs.reached_eq, hs.underway.knows⟩⟩

theorem verifyDynamic_goes {session : Nat} (hu : Underway sc (untilDynamicInstalled sc session)
      [.read (.aftPrefix sc.inst sc.dest), .read (.aftOrigin sc.inst sc.dest)] h held s.1)
    (hreached : h.reached = .dynamicInstalled) :
    Goes sc w cut (Passed sc (untilDynamicVerified sc session) .dynamicInstalled) (Halted sc false)
      held (verifyDynamic sc h) s := by
  have hl : untilDynamicInstalled sc session ++ [.read (.aftPrefix sc.inst sc.dest)] ++
      [.read (.aftOrigin sc.inst sc.dest)] = untilDynamicVerified sc session := by
    simp [untilDynamicVerified]
  have hread : pathsRead (untilDynamicInstalled sc session ++
      [.read (.aftPrefix sc.inst sc.dest)]) = [.instanceType sc.inst,
        .staticRoute sc.inst sc.staticProtocol sc.dest, .aftPrefix sc.inst sc.dest,
        .aftPrefix sc.inst sc.dest] := by
    rw [pathsRead_append, pathsRead_untilDynamicInstalled]
    rfl
  refine .bind (verify_goes rfl (by rw [pathsRead_untilDynamicInstalled]; rfl) hu)
    fun h held s hp => ?_
  rw [hreached] at hp
  -- the second check belongs to the same state
  have hu := hp.underway hu.ahead.step (by rw [hread]; simp [progress])
  rw [← hl, ← hp.reached_eq]
  exact verify_goes rfl (by rw [hread]; rfl) hu

end Run

end RoutePreference
