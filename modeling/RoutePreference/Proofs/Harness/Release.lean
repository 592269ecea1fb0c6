import RoutePreference.Proofs.Bench.Leaves
import RoutePreference.Proofs.Harness.Triples

/-!
# What a run releases

* `Holdings.residue`: what has to be released of what a run holds;
* `Run.Ends`: how a stage ends on a testbed at any pace: what is left is what is held, and a stray
  besides only if the stage was cut short;
* `pipeline_ends`, `teardown_frees`: the stages of a run and its teardown;
* `Run.AcquiresNothing`: procedures that leave no more strays, as the teardown;
* `execute_keeps`: what every call keeps, a whole run keeps;
* `execute_leavesWith`: what a whole run leaves: nothing that it knows of.
-/

namespace RoutePreference

/-- What a run has to release in the end. -/
def Holdings.residue (sc : Scenario) (h : Holdings) : Residue where
  protocols := h.protocolsStarted
  inst := if h.instanceCreated then some sc.inst else none
  session := h.installer.map (·.session)
  flow := h.flow

namespace Run

variable {sc : Scenario} {cut : Option Nat} {α β : Type} {h held : Holdings} {x : Residue}
variable {s : Paced}

/-- Whether a part of a stage neither acquires nor releases anything. -/
def IsPlain {σ : Type} (p : Checked σ α) : Prop :=
  Checked.CallsOnly (fun c => c.request.changesUse = false) p

/-- Such a part leaves what was left before, however it ends. -/
theorem ends_of_callsOnly {σ : Type} {V : α → Prop} {p : Procedure σ α}
    (hp : p.CallsOnly (fun c => c.request.changesUse = false) V) {held : σ} (hs : s.Leaves x) :
    p.Ends Paced.surroundings cut (fun a held' s => V a ∧ held' = held ∧ s.Leaves x)
      (fun held' s => held' = held ∧ s.Leaves x) held s := by
  exact Procedure.ends_of_callsOnly (I := Paced.Leaves x) (fun _ _ _ hc hs => hs.answer hc)
    (fun _ _ hs => hs.pass) hp hs

/-- How a stage ends: a failure leaves what is held, and being cut short a stray besides. -/
def Ends (sc : Scenario) (cut : Option Nat) (E : α → Holdings → Paced → Prop) (held : Holdings)
    (p : Stage α) (s : Paced) : Prop :=
  Checked.Ends Paced.surroundings cut E (fun held s => s.Leaves (held.residue sc))
    (fun held s => s.LeavesWith (held.residue sc)) held p s

/-- The end of a stage that returns what is held, of which the residue is known. -/
def At (sc : Scenario) (x : Residue) (h held : Holdings) (s : Paced) : Prop :=
  held = h ∧ h.residue sc = x ∧ s.Leaves x

namespace Ends

theorem mono {E E' : α → Holdings → Paced → Prop} {p : Stage α} (h : Ends sc cut E held p s)
    (hE : ∀ a held s, E a held s → E' a held s) : Ends sc cut E' held p s :=
  Checked.Ends.mono h hE (fun _ _ h => h) fun _ _ h => h

theorem bind {p : Stage α} {f : α → Stage β} {E : β → Holdings → Paced → Prop}
    (h : Ends sc cut (fun a held s => Ends sc cut E held (f a) s) held p s) :
    Ends sc cut E held (p >>= f) s :=
  Checked.Ends.bind h

/-- A stage after another one, with what that holds and leaves. -/
theorem andThen {p : Stage Holdings} {f : Holdings → Stage β} {E : β → Holdings → Paced → Prop}
    (hp : Ends sc cut (At sc x) held p s)
    (hf : ∀ h (s : Paced), h.residue sc = x → s.Leaves x → Ends sc cut E h (f h) s) :
    Ends sc cut E held (p >>= f) s := by
  refine .bind (hp.mono fun h held s hat => ?_)
  obtain ⟨rfl, hx, hs⟩ := hat
  exact hf held s hx hs

theorem holding {E : Holdings → Holdings → Paced → Prop} (h' : E h h s) :
    Ends sc cut E held (Run.holding h) s :=
  .bind (Checked.Ends.hold (Checked.Ends.pure h'))

/-- Calls that neither acquire nor release anything leave what was held. -/
theorem plain {p : Stage α} (hp : IsPlain p) (hs : s.Leaves (held.residue sc)) :
    Ends sc cut (fun _ held' s => held' = held ∧ s.Leaves (held.residue sc)) held p s := by
  unfold Ends Checked.Ends
  refine (ends_of_callsOnly hp hs).mono (fun r held' s hr => ?_) ?_
  · obtain ⟨-, rfl, hs⟩ := hr
    cases r with
    | ok a => exact ⟨rfl, hs⟩
    | error e => exact hs
  · rintro held' s ⟨rfl, hs⟩
    exact hs.leavesWith

/-- A call that acquires something. -/
theorem call {asFailure : CallError → RunError} {c : Call} {E : c.Value → Holdings → Paced → Prop}
    {G : c.Value → Paced → Prop}
    (hg : Paced.Granted (held.residue sc) G (s.answer c).1 (s.answer c).2)
    (hE : ∀ v s, G v s → E v held s) :
    Ends sc cut E held (Checked.call asFailure c) s := by
  refine Checked.Ends.call (fun v hv => ?_) (fun e he => ?_) fun hnone => ?_
  · change (s.answer c).1 = _ at hv
    show E v held (s.answer c).2
    rw [hv] at hg
    cases hg with
    | granted _ holds => exact hE v _ holds
  · change (s.answer c).1 = _ at he
    rw [he] at hg
    cases hg
  · change (s.answer c).1 = _ at hnone
    show (s.answer c).2.LeavesWith _
    rw [hnone] at hg
    cases hg with
    | givenUp leaves => exact leaves

end Ends

/-! ### Parts of stages that acquire nothing -/

theorem isPlain_await {σ : Type} (c : Convergence) (path : StatePath) (expected : String) :
    IsPlain (c.await path expected : Checked σ Sighting) := by
  have hpoll : IsPlain (Convergence.poll path expected : Checked σ Sighting) := by
    refine Procedure.CallsOnly.bind
      (Checked.CallsOnly.call (K := fun c => c.request.changesUse = false) rfl) fun r _ => ?_
    cases r <;> trivial
  have huntil : ∀ deadline reads,
      IsPlain (c.awaitUntil path expected deadline reads : Checked σ Sighting) := by
    intro deadline reads
    induction reads with
    | zero => exact .throw _
    | succ reads ih =>
      refine .bind hpoll fun seen => ?_
      split
      · exact .pure _
      · refine .bind .now fun now => ?_
        split
        · exact .throw _
        · exact .bind (.sleep _) fun _ => ih
  exact .bind .now fun start => huntil _ _

theorem isPlain_observe {σ : Type} (w : Watch) (flow : String) (packetCount : Nat) :
    IsPlain (TrafficCheck.observe w flow packetCount : Checked σ Unit) := by
  have hfrom : ∀ deadline last stable reads, IsPlain
      (TrafficCheck.observeFrom w flow packetCount deadline last stable reads :
        Checked σ Unit) := by
    intro deadline last stable reads
    induction reads generalizing last stable with
    | zero => exact .pure _
    | succ reads ih =>
      refine .bind .now fun now => ?_
      split
      · exact .pure _
      · refine .bind (.sleep _) fun _ => .bind (.call rfl) fun c => ?_
        dsimp only
        split
        · exact .pure _
        · exact ih _ _
  exact .bind .now fun start => hfrom _ _ _ _

theorem isPlain_conclude {σ : Type} (flow : String) :
    IsPlain (TrafficCheck.conclude flow : Checked σ TrafficResult) := by
  refine .bind (.call rfl) fun counters => ?_
  split
  · exact .throw _
  · refine .bind (.call rfl) fun loss => ?_
    split
    · exact .throw _
    · exact .pure _

theorem isPlain_setUpLinks (sc : Scenario) (links : List Link) : IsPlain (setUpLinks sc links) := by
  induction links with
  | nil => exact .pure _
  | cons link links ih => exact .bind (.call rfl) fun _ => .bind (.call rfl) fun _ => ih

/-! ### Stages -/

theorem verify_ends {step : RunState} {path : StatePath} {expected : String}
    (hx : h.residue sc = x) (hs : s.Leaves x) :
    Ends sc cut (At sc x) h (verify sc h step path expected) s := by
  refine .bind ((Ends.plain (isPlain_await ..) (hx ▸ hs)).mono fun seen held s hseen => ?_)
  obtain ⟨rfl, hs⟩ := hseen
  exact .holding ⟨rfl, hx, hx ▸ hs⟩

theorem reach_ends {state : RunState} (hx : h.residue sc = x) (hs : s.Leaves x) :
    Ends sc cut (At sc x) held (reach h state) s :=
  .holding ⟨rfl, hx, hs⟩

/-- The topology is set up from nothing. -/
theorem provision_ends (hs : s.Leaves {}) :
    Ends sc cut (At sc { protocols := true, inst := some sc.inst }) {} (provision sc {}) s := by
  have hnone : Holdings.residue sc {} = {} := rfl
  refine .bind ((Ends.plain (isPlain_setUpLinks ..) (hnone ▸ hs)).mono fun _ held s hlinks => ?_)
  obtain ⟨rfl, hs⟩ := hlinks
  refine .bind (.call (hs.startProtocols rfl) fun _ s hs => ?_)
  refine .bind (.holding (.bind ?_))
  have hprotocols : Holdings.residue sc { protocolsStarted := true } = { protocols := true } := rfl
  refine .call (hprotocols ▸ hs.replaceInstance rfl sc.instanceConfig) fun _ s hs => ?_
  refine .bind (.holding ?_)
  exact verify_ends rfl hs

theorem installStatic_ends (hx : h.residue sc = x) (hs : s.Leaves x) :
    Ends sc cut (At sc x) h (installStatic sc h) s := by
  have hplain : IsPlain (RoutePreference.installStatic sc.staticRoute : Stage Unit) := .call rfl
  refine .bind ((Ends.plain hplain (hx ▸ hs)).mono fun _ held s hroute => ?_)
  obtain ⟨rfl, hs⟩ := hroute
  refine .bind (.holding ?_)
  exact verify_ends hx (hx ▸ hs)

/-- An installation through an open session leaves the session as it is. -/
theorem installing_ends {session : Nat}
    {p : Procedure Holdings (Except RunError Status × Installer)}
    (hp : p.CallsOnly (fun c => c.request.changesUse = false) fun r => r.2.session = session)
    (hx : h.residue sc = x) (hsession : x.session = some session) (hs : s.Leaves x) :
    Ends sc cut (fun r held s => r.1.session = session ∧ At sc x r.2 held s) h
      (installing h p) s := by
  refine .bind (Checked.Ends.lift ((ends_of_callsOnly hp hs).mono (fun r held s hr => ?_) ?_))
  · obtain ⟨result, i⟩ := r
    obtain ⟨hi, rfl, hs⟩ := hr
    have hi' : Holdings.residue sc { held with installer := some i } = x := by
      rw [← hx] at hsession ⊢
      unfold Holdings.residue at hsession ⊢
      simp only at hi hsession ⊢
      rw [hsession, Option.map_some, hi]
    refine .bind (.holding (.bind (Checked.Ends.ofExcept (fun _ _ => ?_) fun _ _ => ?_)))
    · exact Checked.Ends.pure ⟨hi, rfl, hi', hs⟩
    · rw [hi']
      exact hs
  · rintro held s ⟨rfl, hs⟩
    rw [hx]
    exact hs.leavesWith

/-- Submitting an operation keeps the session. -/
theorem callsOnly_program {σ : Type} (i : Installer) (verb : Verb) (entry : AftEntry)
    {note : Installer → Installer} (hnote : ∀ j, (note j).session = j.session) :
    (i.program verb entry note : Procedure σ _).CallsOnly (fun c => c.request.changesUse = false)
      fun r => r.2.session = i.session := by
  refine ⟨rfl, fun reply => ?_⟩
  simp only [Procedure.pure_bind]
  split
  · exact hnote i.numbered
  · rfl

theorem callsOnly_refuse {σ : Type} (i : Installer) (entry : AftEntry) (reference : String) :
    (i.refuse entry reference : Procedure σ _).CallsOnly (fun c => c.request.changesUse = false)
      fun r => r.2.session = i.session := rfl

theorem callsOnly_installNextHop {σ : Type} (i : Installer) (n : NextHop) :
    (i.installNextHop n : Procedure σ _).CallsOnly (fun c => c.request.changesUse = false)
      fun r => r.2.session = i.session :=
  callsOnly_program _ _ _ fun _ => rfl

theorem callsOnly_installGroup {σ : Type} (i : Installer) (g : NextHopGroup) :
    (i.installGroup g : Procedure σ _).CallsOnly (fun c => c.request.changesUse = false)
      fun r => r.2.session = i.session := by
  unfold Installer.installGroup
  split
  · exact callsOnly_refuse ..
  · exact callsOnly_program _ _ _ fun _ => rfl

theorem callsOnly_installIpv4 {σ : Type} (i : Installer) (e : Ipv4Entry) :
    (i.installIpv4 e : Procedure σ _).CallsOnly (fun c => c.request.changesUse = false)
      fun r => r.2.session = i.session := by
  unfold Installer.installIpv4
  split
  · exact callsOnly_program _ _ _ fun _ => rfl
  · exact callsOnly_refuse ..

/-- The session is opened; whatever comes after leaves it open. -/
theorem installDynamic_ends (hx : h.residue sc = x) (hsession : x.session = none)
    (hs : s.Leaves x) :
    Ends sc cut (fun h' held s => ∃ c, At sc { x with session := some c } h' held s) h
      (installDynamic sc h) s := by
  subst hx
  have hopen := hs.openSession hsession sc.session.params
  refine .bind (.call (c := .openSession sc.session.params) hopen fun c s hs => ?_)
  refine .bind (.holding ?_)
  refine .bind (Ends.mono (installing_ends (callsOnly_installNextHop ..) rfl rfl hs)
    fun r held s hr => ?_)
  obtain ⟨i, h⟩ := r
  obtain ⟨hi, rfl, hres, hs⟩ := hr
  refine .bind (Ends.mono (installing_ends (callsOnly_installGroup i _) hres (congrArg some hi.symm)
    hs) fun r held s hr => ?_)
  obtain ⟨i', h⟩ := r
  obtain ⟨hi', rfl, hres, hs⟩ := hr
  refine .bind (Ends.mono (installing_ends (callsOnly_installIpv4 i' _) hres
    (congrArg some (hi'.trans hi).symm) hs) fun r held s hr => ?_)
  obtain ⟨i'', h⟩ := r
  obtain ⟨-, hat⟩ := hr
  exact Checked.Ends.pure ⟨c, hat⟩

theorem verifyDynamic_ends (hx : h.residue sc = x) (hs : s.Leaves x) :
    Ends sc cut (At sc x) h (verifyDynamic sc h) s :=
  .andThen (verify_ends hx hs) fun _ _ hx hs => verify_ends hx hs

/-- While a flow is under way it is held; when the check is over, it isn't running any more. -/
theorem trafficCheck_ends {w : Watch} {spec : FlowSpec} (hx : x.flow = none) (hs : s.Leaves x)
    (hheld : held.residue sc = { x with flow := some spec.name }) :
    Checked.Ends Paced.surroundings cut (fun _ held' s => held' = held ∧ s.Leaves x)
      (fun held' s => held' = held ∧ s.Leaves x) (fun held s => s.LeavesWith (held.residue sc))
      held (TrafficCheck.run w spec) s := by
  have hstart := hs.startFlow hx spec
  refine .bind (.call (fun v hv => ?_) (fun e he => ?_) fun hnone => ?_)
  · change (s.answer (.startFlow spec)).1 = _ at hv
    rw [hv] at hstart
    have hrun : (s.answer (.startFlow spec)).2.Leaves (held.residue sc) := by
      rw [hheld]
      cases hstart with
      | started leaves => exact leaves
    refine .bind (Checked.Ends.lift ((ends_of_callsOnly (isPlain_observe ..) hrun).mono ?_ ?_))
    · rintro observed held' s ⟨-, rfl, hs⟩
      -- the flow is stopped, whatever was observed
      obtain ⟨hcut, hstop⟩ := (hheld ▸ hs).stopFlow rfl
      refine .bind (Checked.Ends.lift (Procedure.Ends.ask (fun r hr => ?_) fun hnone => ?_))
      · have hfree : { x with flow := none } = x := by
          rw [← hx]
        have hs' : (Paced.answer (.stopFlow spec.name) s).2.Leaves x := hfree ▸ hstop r hr
        refine Procedure.Ends.done ?_
        refine Checked.Ends.bind (Checked.Ends.ofExcept (fun _ _ => ?_) fun _ _ => ⟨rfl, hs'⟩)
        refine Checked.Ends.bind (Checked.Ends.ofExcept (fun _ _ => ?_) fun _ _ => ⟨rfl, hs'⟩)
        refine Procedure.Ends.mono (ends_of_callsOnly (isPlain_conclude ..) hs') ?_ ?_
        · rintro r held s ⟨-, rfl, hleft⟩
          cases r <;> exact ⟨rfl, hleft⟩
        · rintro held s ⟨rfl, hleft⟩
          rw [hheld]
          exact (hleft.withFlow hx _).leavesWith
      · rw [hheld]
        exact hcut hnone
    · rintro held' s ⟨rfl, hs⟩
      exact hs.leavesWith
  · change (s.answer (.startFlow spec)).1 = _ at he
    rw [he] at hstart
    cases hstart with
    | refused e leaves => exact ⟨rfl, leaves⟩
  · change (s.answer (.startFlow spec)).1 = _ at hnone
    show (s.answer (.startFlow spec)).2.LeavesWith _
    rw [hnone] at hstart
    rw [hheld]
    cases hstart with
    | givenUp leaves => exact leaves

theorem validateTraffic_ends (hx : h.residue sc = x) (hflow : x.flow = none) (hs : s.Leaves x) :
    Ends sc cut (At sc x) h (validateTraffic sc h) s := by
  have hheld : Holdings.residue sc { h with flow := some sc.traffic.flowName } =
      { x with flow := some sc.traffic.flow.name } := by
    rw [← hx]
    rfl
  have hfree : Holdings.residue sc { h with flow := none } = x := by
    rw [← hx] at hflow ⊢
    unfold Holdings.residue at hflow ⊢
    simp only at hflow ⊢
    rw [hflow]
  refine .bind (.holding (.bind (Checked.Ends.lift ?_)))
  refine Procedure.Ends.mono (trafficCheck_ends hflow hs hheld) (fun r held s hr => ?_)
    fun _ _ h => h
  have hs : s.Leaves x := by
    cases r with
    | ok result => exact hr.2
    | error e => exact hr.2
  refine .bind (.holding (.bind (Checked.Ends.ofExcept (fun result _ => ?_) fun e _ => ?_)))
  · exact .holding ⟨rfl, hfree, hs⟩
  · rw [hfree]
    exact hs

/-- **The stages of a run**, cut short or not. -/
theorem pipeline_ends (hs : s.Leaves {}) :
    Ends sc cut (fun _ held s => s.Leaves (held.residue sc)) {} (pipeline sc) s := by
  refine .andThen (provision_ends hs) fun h s hx hs => ?_
  refine .andThen (reach_ends hx hs) fun h s hx hs => ?_
  refine .andThen (installStatic_ends hx hs) fun h s hx hs => ?_
  refine .andThen (reach_ends hx hs) fun h s hx hs => ?_
  refine .andThen (verify_ends hx hs) fun h s hx hs => ?_
  refine .andThen (reach_ends hx hs) fun h s hx hs => ?_
  refine .bind ((installDynamic_ends hx rfl hs).mono fun h held s hopen => ?_)
  obtain ⟨c, rfl, hx, hs⟩ := hopen
  refine .andThen (reach_ends hx hs) fun h s hx hs => ?_
  refine .andThen (verifyDynamic_ends hx hs) fun h s hx hs => ?_
  refine .andThen (reach_ends hx hs) fun h s hx hs => ?_
  refine .andThen (validateTraffic_ends hx rfl hs) fun h s hx hs => ?_
  refine .andThen (reach_ends hx hs) fun h s hx hs => ?_
  exact Checked.Ends.pure (hx.symm ▸ hs)

/-! ### Teardown -/

/-- How a part of the teardown ends on a testbed at any pace: with this and any stray left. -/
def Frees {σ : Type} (y : Residue) (held : σ) (p : Procedure σ α) (s : Paced) : Prop :=
  p.Ends Paced.surroundings none (fun _ _ s => s.LeavesWith y) (fun _ _ => True) held s

namespace Frees

variable {σ : Type} {y : Residue} {held : σ}

theorem done {a : α} (h : s.LeavesWith y) : Frees y held (.done a) s := h

theorem bind {p : Procedure σ α} {f : α → Procedure σ β} (hp : Frees x held p s)
    (hf : ∀ a held s, s.LeavesWith x → Frees y held (f a) s) : Frees y held (p.bind f) s :=
  Procedure.Ends.bind (hp.mono hf fun _ _ h => h)

theorem ask {c : Call} {next : c.Reply → Procedure σ α}
    (hc : ∀ r, (s.answer c).1 = some r → (s.answer c).2.LeavesWith x)
    (hf : ∀ r s, s.LeavesWith x → Frees y held (next r) s) : Frees y held (.ask c next) s :=
  Procedure.Ends.ask (fun r hr => hf r _ (hc r hr)) fun _ => trivial

end Frees

section

variable {σ : Type} {y : Residue} {t : σ}

theorem releaseFlow_frees (hs : s.LeavesWith x) (hx : x.flow = h.flow) :
    Frees { x with flow := none } t (releaseFlow h) s := by
  unfold releaseFlow
  split
  · next hflow =>
    have hfree : { x with flow := none } = x := by
      rw [← hflow, ← hx]
    rw [hfree]
    exact .done hs
  · next flow hflow =>
    refine .ask (fun r hr => hs.stopFlow (hx.trans hflow) hr) fun r s hs => ?_
    rw [Procedure.pure_bind]
    split
    · exact .done hs
    · exact .done hs

/-- Flushing leaves everything where it is. -/
theorem flush_frees {i : Installer} {inst : String} (hs : s.LeavesWith x) :
    Frees x t (i.flush inst : Procedure σ _) s := by
  refine .ask (c := .flush i.session inst) (fun r _ => hs.answer rfl) fun r s hs => ?_
  rw [Procedure.pure_bind]
  split
  · exact .done hs
  · exact .done hs

theorem releaseSession_frees (hs : s.LeavesWith x)
    (hx : x.session = h.installer.map (·.session)) :
    Frees { x with session := none } t (releaseSession sc h) s := by
  unfold releaseSession
  split
  · next hinst =>
    have hnone : x.session = none := by
      rw [hx, hinst]
      rfl
    have hfree : { x with session := none } = x := by
      rw [← hnone]
    rw [hfree]
    exact .done hs
  · next i hinst =>
    have hsession : x.session = some i.session := by
      rw [hx, hinst]
      rfl
    have hclose : ∀ (flushed : List RunError) (t : σ) (s : Paced), s.LeavesWith x →
        Frees { x with session := none } t (Procedure.bind i.close fun closed =>
          .done (flushed ++ stepErrors "close gRIBI session" closed)) s :=
      fun _ _ _ hs =>
        .ask (c := .close i.session) (fun r hr => hs.close hsession hr) fun _ _ hs => .done hs
    dsimp only
    split
    · exact Frees.bind (Frees.bind (flush_frees hs) fun _ _ _ hs => .done hs) hclose
    · exact hclose [] t s hs

/-- A call of the teardown is made if what it releases is held. -/
theorem release_frees {needed : Bool} {step : String} {p : Procedure σ (Except CallError Unit)}
    (hp : needed = true → Frees y t p s) (hno : needed = false → s.LeavesWith y) :
    Frees y t (release needed step p) s := by
  unfold release
  split
  · next hneeded => exact .bind (hp hneeded) fun _ _ _ hs => .done hs
  · next hneeded => exact .done (hno (by simpa using hneeded))

/-- **The teardown** releases all that is held. -/
theorem teardown_frees (hs : s.LeavesWith (h.residue sc)) :
    Frees {} t (teardown sc h : Procedure σ _) s := by
  refine Frees.bind (releaseFlow_frees hs rfl) fun flow t s hs => ?_
  have hsession := @releaseSession_frees sc h
  refine Frees.bind (hsession hs rfl) fun session t s hs => ?_
  refine Frees.bind (release_frees (y := { h.residue sc with flow := none, session := none })
    (fun _ => .ask (c := .deleteStatic sc.inst sc.dest)
      (fun r _ => hs.answer rfl) fun _ _ hs => .done hs) fun _ => hs)
    fun route t s hs => ?_
  have hinst : Frees { protocols := h.protocolsStarted } t (release h.instanceCreated
      "delete network instance" (.call (.deleteInstance sc.inst))) s := by
    refine release_frees (fun hyes => ?_) fun hno => ?_
    · have hheld : (h.residue sc).inst = some sc.inst := by simp [Holdings.residue, hyes]
      exact .ask (c := .deleteInstance sc.inst) (fun r hr => hs.deleteInstance hheld hr)
        fun _ _ hs => .done hs
    · have hfree : { h.residue sc with flow := none, session := none } =
          { protocols := h.protocolsStarted } := by simp [Holdings.residue, hno]
      exact hfree ▸ hs
  refine Frees.bind hinst fun inst t s hs => ?_
  have hprotocols : Frees {} t (release h.protocolsStarted "stop ATE protocols"
      (.call .stopProtocols)) s := by
    refine release_frees (fun hyes => ?_) fun hno => ?_
    · exact .ask (c := .stopProtocols) (fun r hr => hs.stopProtocols hyes hr) fun _ _ hs => .done hs
    · exact hno ▸ hs
  exact Frees.bind hprotocols fun _ _ _ hs => .done hs

end

/-- Whether a procedure notes nothing and makes no calls that can become strays. -/
def AcquiresNothing {σ : Type} (p : Procedure σ α) : Prop :=
  p.CallsOnly (fun c => c.request.isNotedLate = false) fun _ => True

namespace AcquiresNothing

variable {σ : Type}

theorem bind {p : Procedure σ α} {f : α → Procedure σ β} (hp : AcquiresNothing p)
    (hf : ∀ a, AcquiresNothing (f a)) : AcquiresNothing (p.bind f) :=
  Procedure.CallsOnly.bind hp fun a _ => hf a

theorem map {p : Procedure σ α} (f : α → β) (hp : AcquiresNothing p) :
    AcquiresNothing (p.bind fun a => .done (f a)) :=
  bind hp fun _ => trivial

theorem release {needed : Bool} {step : String} {p : Procedure σ (Except CallError Unit)}
    (hp : AcquiresNothing p) : AcquiresNothing (Run.release needed step p) := by
  unfold Run.release
  split
  · exact hp.map _
  · trivial

theorem releaseFlow (h : Holdings) : AcquiresNothing (Run.releaseFlow h : Procedure σ _) := by
  unfold Run.releaseFlow
  split
  · trivial
  · refine bind ⟨rfl, fun _ => trivial⟩ fun r => ?_
    split <;> trivial

theorem releaseSession (sc : Scenario) (h : Holdings) :
    AcquiresNothing (Run.releaseSession sc h : Procedure σ _) := by
  unfold Run.releaseSession
  split
  · trivial
  · next i _ =>
    have hflush : AcquiresNothing (i.flush sc.inst : Procedure σ _) := by
      refine ⟨rfl, fun r => ?_⟩
      simp only [Procedure.pure_bind]
      split <;> trivial
    have hclose : AcquiresNothing (i.close : Procedure σ _) := ⟨rfl, fun _ => trivial⟩
    dsimp only
    split
    · exact bind (hflush.map _) fun _ => hclose.map _
    · exact hclose.map _

/-- Such a procedure leaves no more strays than there were. -/
theorem ends {p : Procedure σ α} (hp : AcquiresNothing p) (held : σ) (hs : s.hasStray = false) :
    p.Ends Paced.surroundings none (fun _ _ s => s.hasStray = false)
      (fun _ s => s.hasStray = false) held s := by
  refine Procedure.Ends.mono (Procedure.ends_of_callsOnly (I := fun s : Paced => s.hasStray = false)
    (fun c _ s hc hs => ?_) (fun _ _ hs => hs) hp hs) (fun _ _ _ h => h.2.2) fun _ _ h => h.2
  exact (Paced.hasStray_answer s hc).trans hs

/-- The teardown acquires nothing. -/
theorem teardown (sc : Scenario) (h : Holdings) :
    AcquiresNothing (Run.teardown sc h : Procedure σ _) := by
  refine bind (releaseFlow h) fun flow => bind (releaseSession sc h) fun session => ?_
  refine bind (release ⟨rfl, fun _ => trivial⟩) fun route => ?_
  refine bind (release ⟨rfl, fun _ => trivial⟩) fun inst => ?_
  exact bind (release ⟨rfl, fun _ => trivial⟩) fun protocols => trivial

end AcquiresNothing

/-! ### Whole runs -/

/-- How a run comes to a report: its stages end, one way or another, and its teardown ends. -/
theorem ends_of_execute {S : Type} {w : Surroundings S} {run : Nat} {report : RunReport}
    {s s' : S} {piped : Procedure.Outcome Holdings (Except RunError Unit) S}
    (hpiped : (pipeline sc).run.perform w cut {} s = piped)
    (hrun : execute w sc run cut s = (some report, s')) :
    (cut = none → piped.value ≠ none) ∧
      ∃ errors, (teardown sc piped.held).perform w none () piped.after =
        { value := some errors, held := (), after := s' } := by
  unfold execute at hrun
  rw [hpiped] at hrun
  dsimp only at hrun
  generalize (teardown sc piped.held).perform w none () piped.after = torn at hrun
  split at hrun
  · cases hrun
  · next hcut =>
    refine ⟨fun hnone hvalue => hcut (by simp [hnone, hvalue]), ?_⟩
    obtain ⟨value, held, after⟩ := torn
    cases value with
    | none => cases hrun
    | some errors =>
      cases hrun
      exact ⟨errors, rfl⟩

/-- What every call and every pause keeps, a run keeps. -/
theorem execute_keeps {S : Type} {w : Surroundings S} {run : Nat} {s : S} {I : S → Prop}
    (hanswer : ∀ c limit s, I s → I (w.answer c limit s).2)
    (hpass : ∀ t s, I s → I (w.passUntil t s)) (hs : I s) : I (execute w sc run cut s).2 := by
  have hpiped : I ((pipeline sc).run.perform w cut {} s).after :=
    Procedure.perform_keeps hanswer hpass _ _ hs
  have htorn : ∀ h : Holdings, I ((teardown sc h).perform w none ()
      ((pipeline sc).run.perform w cut {} s).after).after :=
    fun h => Procedure.perform_keeps hanswer hpass _ _ hpiped
  unfold execute
  dsimp only
  split
  · exact hpiped
  · split
    · exact htorn _
    · exact htorn _

/-- What a run leaves once it has reported: nothing of what it knows of. -/
theorem execute_leavesWith {run : Nat} {report : RunReport} {s' : Paced} (hs : s.Leaves {})
    (hrun : execute Paced.surroundings sc run cut s = (some report, s')) :
    s'.LeavesWith {} ∧ (cut = none → s'.hasStray = false) := by
  have hpiped := @pipeline_ends sc cut s hs
  unfold Ends Checked.Ends Procedure.Ends at hpiped
  generalize hp : (pipeline sc).run.perform Paced.surroundings cut {} s = piped at hpiped
  obtain ⟨hcut, errors, ht⟩ := ends_of_execute hp hrun
  unfold Procedure.Outcome.Meets at hpiped
  have hheld : piped.after.LeavesWith (piped.held.residue sc) ∧
      (cut = none → piped.after.hasStray = false) := by
    split at hpiped
    · next r _ =>
      -- stages that weren't cut short leave no stray
      have hleaves : piped.after.Leaves (piped.held.residue sc) := by
        cases r with
        | ok _ => exact hpiped
        | error _ => exact hpiped
      exact ⟨hleaves.leavesWith, fun _ => hleaves.noStray⟩
    · next hnone => exact ⟨hpiped, fun h => absurd hnone (hcut h)⟩
  have htorn := teardown_frees (t := ()) hheld.1
  unfold Frees Procedure.Ends at htorn
  rw [ht] at htorn
  refine ⟨htorn, fun hnone => ?_⟩
  have hkept := (AcquiresNothing.teardown sc piped.held).ends () (hheld.2 hnone)
  unfold Procedure.Ends at hkept
  rw [ht] at hkept
  exact hkept

end Run

end RoutePreference
