import RoutePreference.Proofs.Bench.Followed
import RoutePreference.Proofs.Device.Statics
import RoutePreference.Proofs.Harness.Triples
import RoutePreference.Proofs.Net.Text

/-!
# Recognising a configured route

* `Surroundings.ReadsAs`: that a leaf reads as one value as long as a condition holds;
* `Convergence.await_ends`: what waiting for such a leaf leads to;
* `Scenario.staticLeaf`, `Scenario.StaticVerdict`: the leaf that a run waits for when it has
  configured its route, and what it makes of it;
* `Bench.installStatic_verdict`: that this is how the stage ends on the testbed that runs;
* `static_route_recognised_iff`: the route that was configured is the one that is waited for if and
  only if its destination has no host bits.

The device clears the host bits of a destination when a route is configured and again when it is
read; a run waits for the destination as the scenario has it.
-/

namespace RoutePreference

/-! ### Waiting for a leaf that doesn't change -/

/-- Whether a leaf reads as one value wherever a condition holds, and the condition outlasts reads
and the time. -/
structure Surroundings.ReadsAs {S : Type} (w : Surroundings S) (path : StatePath)
    (v : Option String) (I : S → Prop) : Prop where
  read : ∀ {limit s x}, I s → (w.answer (.read path) limit s).1 = some x →
    x = .ok v ∧ I (w.answer (.read path) limit s).2
  pass : ∀ {t s}, I s → I (w.passUntil t s)

namespace Convergence

variable {S σ : Type} {w : Surroundings S} {cut : Option Nat} {path : StatePath}
  {expected : String} {v : Option String} {I : S → Prop} {s : S}

/-- What waiting for a leaf leads to that has one value all the time. -/
def SteadyVerdict (c : Convergence) (path : StatePath) (expected : String) (v : Option String)
    (r : Except RunError Sighting) : Prop :=
  if v = some expected then r = .ok { observed := v, matched := true }
  else ∃ seen, r = .error (.convergenceTimeout path.text expected seen c.timeout)

/-- Reads of the leaf, up to a number of them.  One is enough for a leaf that matches; for one that
doesn't, it makes no difference whether time or the number runs out. -/
theorem awaitUntil_ends (h : w.ReadsAs path v I) (c : Convergence) (deadline : Nat) {n : Nat}
    (hn : v = some expected → 0 < n) (held : σ) (hs : I s) :
    Procedure.Ends w cut (fun r _ _ => c.SteadyVerdict path expected v r) (fun _ _ => True) held
      (c.awaitUntil path expected deadline n).run s := by
  induction n generalizing s with
  | zero =>
    have hno : v ≠ some expected := fun hv => absurd (hn hv) (Nat.lt_irrefl 0)
    refine Procedure.Ends.done ?_
    rw [SteadyVerdict, if_neg hno]
    exact ⟨none, rfl⟩
  | succ n ih =>
    refine Procedure.Ends.ask (fun x hx => ?_) fun _ => trivial
    obtain ⟨rfl, hread⟩ := h.read hs hx
    change Procedure.Ends w cut _ _ held
      (if (sighting expected v).matched then pure (sighting expected v) else _ :
        Checked σ Sighting).run _
    by_cases hv : v = some expected
    · have hmatched : sighting expected v = { observed := v, matched := true } := by
        simp [sighting, hv]
      rw [hmatched, if_pos rfl]
      refine Procedure.Ends.done ?_
      rw [SteadyVerdict, if_pos hv]
    · have hmatched : (sighting expected v).matched = false := by simp [sighting, hv]
      rw [hmatched, if_neg Bool.false_ne_true]
      refine Procedure.Ends.clock ?_
      change Procedure.Ends w cut _ _ held
        (if deadline ≤ w.now _ then throw _ else _ : Checked σ Sighting).run _
      split
      · refine Procedure.Ends.done ?_
        rw [SteadyVerdict, if_neg hv]
        exact ⟨_, rfl⟩
      · exact Procedure.Ends.pause (fun _ => ih (fun h => absurd h hv) (h.pass hread))
          fun _ => trivial

theorem readBudget_pos (c : Convergence) : 0 < c.readBudget := by
  unfold readBudget
  split <;> exact Nat.succ_pos _

/-- **Waiting for a leaf that doesn't change** ends at once if it has the expected value, and with
a failure if it has another one. -/
theorem await_ends (h : w.ReadsAs path v I) (c : Convergence) (expected : String) (held : σ)
    (hs : I s) :
    Procedure.Ends w cut (fun r _ _ => c.SteadyVerdict path expected v r) (fun _ _ => True) held
      (c.await path expected).run s :=
  Procedure.Ends.clock (awaitUntil_ends h c _ (fun _ => c.readBudget_pos) held hs)

end Convergence

/-! ### What a run makes of its configured route -/

namespace Scenario

/-- The leaf that a run waits for when it has configured its route. -/
def staticLeaf (sc : Scenario) : StatePath := .staticRoute sc.inst sc.staticProtocol sc.dest

/-- What the stage that configures the route ends with, if the device accepts the route: the run
goes on with what it has seen, or it has waited in vain for a text with host bits. -/
def StaticVerdict (sc : Scenario) (h : Holdings) (r : Except RunError Holdings) : Prop :=
  if sc.dest.isMasked = true then
    r = .ok ({ h with staticInstalled := true }.observe .staticInstalled sc.staticLeaf.text
      (some sc.dest.text))
  else ∃ seen, r = .error
    (.convergenceTimeout sc.staticLeaf.text sc.dest.text seen sc.convergence.timeout)

/-- The text without host bits is the one that is waited for only if there are none. -/
theorem masked_text_eq_iff (sc : Scenario) :
    some sc.dest.masked.text = some sc.dest.text ↔ sc.dest.isMasked = true := by
  rw [Option.some.injEq, Network.text_injective.eq_iff, Network.isMasked_iff]

end Scenario

namespace Device

theorem steady_of_configured {P : Device → Prop}
    (hP : ∀ {d d' : Device}, d'.configured = d.configured → P d → P d') : Steady P where
  tick {d} flow := hP (configured_of_instances (sameWork_transmit d flow).instances)
  process {d} := hP d.configured_process

theorem steady_contains (inst : String) :
    Steady fun d => d.instances.contains inst = true :=
  steady_of_configured fun hsame h => by rwa [← contains_configured, hsame, contains_configured]

theorem steady_holdsRoute (r : StaticRoute) : Steady (HoldsRoute r) :=
  steady_of_configured fun hsame h => (staticAt?_congr hsame _ _).trans h

end Device

namespace Paced

variable {P P' : Device → Prop} {r : Request} {x : Answer} {s : Paced}

/-- Whoever hears the answer to a request that is always answered alike, hears that, and what the
request leads to will be true. -/
theorem exchange_tells (hP : Device.Steady P) (hP' : Device.Steady P')
    (hr : ∀ d ticket, P d → (d.serve ticket r).2 = some x ∧ P' (d.serve ticket r).1)
    (h : s.testbed.Tends P) {a : Answer} (ha : (s.exchange r).1 = some a) :
    a = x ∧ (s.exchange r).2.testbed.Tends P' := by
  have hsteady : ∀ a : Option Answer, Device.Steady fun d => a = some x ∧ P' d := fun _ =>
    ⟨fun flow hd => ⟨hd.1, hP'.tick flow hd.2⟩, fun hd => ⟨hd.1, hP'.process hd.2⟩⟩
  have hspec := exchange_spec hP hsteady hr h
  generalize s.exchange r = o at hspec ha ⊢
  obtain ⟨y, s'⟩ := o
  cases hspec with
  | unsent log tends => cases ha
  | unheard log tends => cases ha
  | heard y log tends =>
    cases ha
    have hheard := tends.mono fun d hd => hd.resolve_left fun hno => nomatch hno.1
    obtain ⟨_, hy, -⟩ := hheard.drains.holds_somewhere
    exact ⟨Option.some.inj hy, hheard.mono fun _ hd => hd.2⟩

/-- A leaf that is settled by what will be true reads like that. -/
theorem readsAs {path : StatePath} {v : Option String} (hP : Device.Steady P)
    (hread : ∀ d, P d → d.read? path = v) :
    surroundings.ReadsAs path v fun s => s.testbed.Tends P where
  read {limit s y} hs hy := by
    obtain ⟨a, ha, rfl⟩ := Option.map_eq_some_iff.1 hy
    obtain ⟨rfl, htends⟩ := exchange_tells (r := .read path) (x := .leaf v) hP hP
      (fun d _ hd => ⟨congrArg (fun v => some (Answer.leaf v)) (hread d hd), hd⟩) hs ha
    exact ⟨rfl, htends⟩
  pass {t s} hs := hs.moves hP s.pace.before

section

variable {sc : Scenario} {cut : Option Nat}

/-- Once the route is in place, its leaf is read without host bits, and that decides. -/
theorem verify_ends (held h : Holdings)
    (hs : s.testbed.Tends (Device.HoldsRoute sc.staticRoute.masked)) :
    Procedure.Ends surroundings cut (fun r _ _ => sc.StaticVerdict h r) (fun _ _ => True) held
      (Run.verify sc { h with staticInstalled := true } .staticInstalled sc.staticLeaf
        sc.dest.text).run s := by
  have hreads : surroundings.ReadsAs sc.staticLeaf (some sc.dest.masked.text) _ :=
    readsAs (Device.steady_holdsRoute sc.staticRoute.masked) fun d hd =>
      hd.read? sc.dest rfl
  unfold Run.verify
  rw [Checked.run_bind]
  refine Procedure.Ends.bind ((Convergence.await_ends hreads sc.convergence sc.dest.text _ hs).mono
    (fun seen held s hseen => ?_) fun _ _ _ => trivial)
  unfold Convergence.SteadyVerdict at hseen
  by_cases hm : sc.dest.isMasked = true
  · rw [if_pos (sc.masked_text_eq_iff.2 hm), sc.masked_text_eq_iff.2 hm] at hseen
    subst hseen
    refine Procedure.Ends.record (Procedure.Ends.done ?_)
    rw [Scenario.StaticVerdict, if_pos hm]
  · rw [if_neg fun hsame => hm (sc.masked_text_eq_iff.1 hsame)] at hseen
    obtain ⟨observed, rfl⟩ := hseen
    refine Procedure.Ends.done ?_
    rw [Scenario.StaticVerdict, if_neg hm]
    exact ⟨observed, rfl⟩

/-- The stage that configures the route, at any pace. -/
theorem installStatic_ends (held h : Holdings)
    (hs : s.testbed.Tends fun d => d.instances.contains sc.inst = true) :
    Procedure.Ends surroundings cut (fun r _ _ => sc.StaticVerdict h r) (fun _ _ => True) held
      (Run.installStatic sc h).run s := by
  have hserve : ∀ (d : Device) ticket, d.instances.contains sc.inst = true →
      (d.serve ticket (.replaceStatic sc.staticRoute)).2 = some (.done (.ok ())) ∧
        (d.serve ticket (.replaceStatic sc.staticRoute)).1.HoldsRoute sc.staticRoute.masked := by
    intro d ticket hthere
    obtain ⟨d', hok⟩ := (d.replaceStatic_isOk_iff sc.staticRoute).2 hthere
    show (d.settled (d.replaceStatic sc.staticRoute)).2 = _ ∧
      (d.settled (d.replaceStatic sc.staticRoute)).1.HoldsRoute _
    rw [hok]
    exact ⟨rfl, Device.holdsRoute_replaceStatic hok⟩
  refine Procedure.Ends.ask (fun y hy => ?_) fun _ => trivial
  obtain ⟨a, ha, rfl⟩ := Option.map_eq_some_iff.1 hy
  obtain ⟨rfl, hroute⟩ := exchange_tells (Device.steady_contains sc.inst)
    (Device.steady_holdsRoute _) hserve hs ha
  exact Procedure.Ends.record (verify_ends _ h hroute)

end

end Paced

/-! ### On the testbed that runs -/

section

variable {sc : Scenario} {cut : Option Nat} {held h : Holdings} {r : Except RunError Holdings}

/-- **How the stage ends** that configures the route, when nothing but ticks is before it and the
network instance is there. -/
theorem Bench.installStatic_verdict {b : Bench} (hb : b.Ready) (hq : ∀ p ∈ b.queue, p.IsTick)
    (hthere : b.device.instances.contains sc.inst = true)
    (hvalue : ((Run.installStatic sc h).run.perform surroundings cut held b).value = some r) :
    sc.StaticVerdict h r := by
  obtain ⟨-, ps, hps⟩ := perform_followed cut (Run.installStatic sc h).run held hb
  obtain ⟨-, log, hpaced⟩ := hps [{ time := _ }] [] rfl
  have hsame := (congrArg (fun out => out.1.1) hpaced).trans hvalue
  have htends : b.testbed.Tends fun d => d.instances.contains sc.inst = true :=
    ⟨hb.fresh, .of_ticks (Device.steady_contains sc.inst) hq hthere⟩
  exact (Paced.installStatic_ends held h htends).of_value hsame

end

/-- **A run recognises the route that it has configured if and only if the destination has no host
bits.**  Whatever the device, if it accepts the route, the leaf that the run waits for reads as the
destination without host bits, for as long as no event changes the route; the text that is waited
for is the destination as the scenario has it.  So the stage goes on with what it has seen, or it
never ends but with a timeout. -/
theorem static_route_recognised_iff {d d' : Device} {sc : Scenario}
    (hok : d.replaceStatic sc.staticRoute = .ok d') :
    (∀ es : List Event, (∀ e ∈ es, e.KeepsRoute sc.staticRoute.masked) →
      (d'.after es).read? sc.staticLeaf = some sc.dest.masked.text ∧
      ((d'.after es).read? sc.staticLeaf = some sc.dest.text ↔ sc.dest.isMasked = true)) ∧
    ∀ (b : Bench) (cut : Option Nat) (held h : Holdings) (r : Except RunError Holdings),
      b.device = d → b.Ready → (∀ p ∈ b.queue, p.IsTick) →
      ((Run.installStatic sc h).run.perform Bench.surroundings cut held b).value = some r →
        (sc.dest.isMasked = true → r = .ok ({ h with staticInstalled := true }.observe
          .staticInstalled sc.staticLeaf.text (some sc.dest.text))) ∧
        (sc.dest.isMasked = false →
          ∃ seen, r = .error (.convergenceTimeout sc.staticLeaf.text sc.dest.text seen
            sc.convergence.timeout)) := by
  refine ⟨fun es hes => ?_, fun b cut held h r hb hready hq hvalue => ?_⟩
  · have hroute := (Device.holdsRoute_replaceStatic hok).after hes
    have hread : (d'.after es).read? sc.staticLeaf = some sc.dest.masked.text :=
      hroute.read? sc.dest rfl
    refine ⟨hread, ?_⟩
    rw [hread]
    exact sc.masked_text_eq_iff
  · have hthere := (d.replaceStatic_isOk_iff sc.staticRoute).1 ⟨d', hok⟩
    rw [← hb] at hthere
    have hverdict := Bench.installStatic_verdict hready hq hthere hvalue
    unfold Scenario.StaticVerdict at hverdict
    refine ⟨fun hm => ?_, fun hm => ?_⟩
    · rwa [if_pos hm] at hverdict
    · rwa [if_neg (Bool.eq_false_iff.1 hm)] at hverdict

/-- The standard scenario, with three reads of a leaf at most. -/
def Scenario.brisk : Scenario :=
  { Scenario.standard with convergence := { timeout := 1000, interval := 500 } }

/-- The same with host bits in its destination. -/
def Scenario.offset : Scenario :=
  { brisk with dest := .ofInterface (.ofOctets 203 0 113 7) 24 }

/-- A testbed on a clock, with the network instance of both. -/
def Bench.linked : Bench := { device := Device.linked }

theorem Bench.ready_linked : linked.Ready := ready_of_owed rfl ∅

/-- A route without host bits, also after it was configured once more with some, and the stage that
recognises it. -/
theorem static_route_recognised_brisk :
    ∃ d', Device.linked.replaceStatic Scenario.brisk.staticRoute = .ok d' ∧
      (d'.after [.process, .serve 1 (.replaceStatic Scenario.offset.staticRoute)]).read?
        Scenario.brisk.staticLeaf = some "203.0.113.0/24" ∧
      ∃ h, ((Run.installStatic .brisk {}).run.perform Bench.surroundings none {}
        Bench.linked).value = some (.ok h) ∧ h.staticInstalled = true := by
  obtain ⟨d', hok⟩ := (Device.linked.replaceStatic_isOk_iff Scenario.brisk.staticRoute).2
    (by decide +kernel)
  obtain ⟨hread, hrun⟩ := static_route_recognised_iff hok
  have hmasked : Scenario.brisk.dest.isMasked = true := by decide +kernel
  have htext : Scenario.brisk.dest.text = "203.0.113.0/24" := by decide +kernel
  have hsame : Scenario.offset.staticRoute.masked = Scenario.brisk.staticRoute.masked := by
    decide +kernel
  have hkeeps : ∀ e ∈ [Event.process, .serve 1 (.replaceStatic Scenario.offset.staticRoute)],
      e.KeepsRoute Scenario.brisk.staticRoute.masked := by
    simp [Event.KeepsRoute, hsame]
  have hends : ((Run.installStatic .brisk {}).run.perform Bench.surroundings none {}
      Bench.linked).value.isSome = true := by decide +kernel
  obtain ⟨r, hr⟩ := Option.isSome_iff_exists.1 hends
  have hverdict := (hrun Bench.linked none {} {} r rfl Bench.ready_linked
    (fun _ hp => (List.not_mem_nil hp).elim) hr).1 hmasked
  subst hverdict
  exact ⟨d', hok, ((hread _ hkeeps).2.2 hmasked).trans (congrArg some htext), _, hr, rfl⟩

/-- With host bits the route is accepted too, and it is read under its protocol instance; but the
run waits for another text, until time is up. -/
theorem static_route_with_host_bits_missed :
    ∃ d', Device.linked.replaceStatic Scenario.offset.staticRoute = .ok d' ∧
      d'.read? Scenario.offset.staticLeaf = some "203.0.113.0/24" ∧
      Scenario.offset.dest.text = "203.0.113.7/24" ∧
      Run.failureOf (((Run.installStatic .offset {}).run.perform Bench.surroundings none {}
          Bench.linked).value.map (·.map fun _ => ())) =
        some (.convergenceTimeout Scenario.offset.staticLeaf.text "203.0.113.7/24"
          (some "203.0.113.0/24") 1000) := by
  obtain ⟨d', hok⟩ := (Device.linked.replaceStatic_isOk_iff Scenario.offset.staticRoute).2
    (by decide +kernel)
  have hread := (Device.holdsRoute_replaceStatic hok).read? Scenario.offset.dest rfl
  have hmasked : Scenario.offset.dest.masked.text = "203.0.113.0/24" := by decide +kernel
  exact ⟨d', hok, hread.trans (congrArg some hmasked), by decide +kernel, by decide +kernel⟩

end RoutePreference
