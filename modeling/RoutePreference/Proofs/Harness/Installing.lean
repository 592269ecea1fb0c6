import RoutePreference.Harness.Installer
import RoutePreference.Proofs.Bench.Heard
import RoutePreference.Proofs.Harness.Triples

/-!
# Installing an entry and reading it back

* `Installer.Completed`: what has happened when an operation of an installer succeeds;
* `Paced.Installed`: that an origin reads as that of programmed entries, and goes on to;
* `Bench.install_then_read`: on the testbed that runs, an entry that was installed is read back;
* `Surroundings.Relays`: surroundings that pass on what a testbed says to operations;
* `acknowledgements_tell_the_truth`: what a session is told about its operations once forwarding is
  programmed, and what an installer that relies on it knows.

An installer that relies on acknowledgements by forwarding takes nothing else for success, and no
such acknowledgement is sent before the routes have been chosen.
-/

namespace RoutePreference

variable {S σ : Type} {w : Surroundings S} {cut : Option Nat} {held : σ} {s s' : S}

/-- In the second mode only an entry that is used for forwarding is complete. -/
theorem Status.eq_of_satisfies {s : Status} (h : s.satisfies .ribAndFib = true) :
    s = .fibProgrammed := by
  cases s with
  | fibProgrammed => rfl
  | _ => cases h

/-! ### Operations of an installer -/

namespace Installer

/-- Whether an operation was answered with a result that completes it in the mode of the session. -/
def Completed (w : Surroundings S) (s : S) (i : Installer) (verb : Verb) (entry : AftEntry)
    (s' : S) : Prop :=
  ∃ limit, ∃ results : List OperationResult, ∃ r ∈ results,
    r.status.satisfies i.params.ackMode = true ∧
      w.answer (.modify i.session [⟨i.nextId, verb, entry⟩]) limit s = (some (.ok results), s')

theorem judge_ok {i : Installer} {name : String} {id : Nat} {status : Status}
    {reply : Option (Except CallError (List OperationResult))}
    (h : i.judge name id reply = .ok status) :
    ∃ results, ∃ r ∈ results, r.status.satisfies i.params.ackMode = true ∧
      reply = some (.ok results) := by
  unfold judge at h
  split at h
  · cases h
  · cases h
  · next results =>
    split at h
    · cases h
    · next r hr =>
      refine ⟨results, r, List.mem_of_find?_eq_some hr, ?_, rfl⟩
      split at h
      · cases h
      · split at h
        · next hs => exact hs
        · cases h

/-- An operation succeeds only if it was completed. -/
theorem program_ends (i : Installer) (verb : Verb) (entry : AftEntry)
    (note : Installer → Installer) :
    Procedure.Ends w cut (fun out _ s' => ∀ status, out.1 = .ok status →
      Completed w s i verb entry s') (fun _ _ => True) held (i.program verb entry note) s := by
  refine Procedure.Ends.askWithin (fun limit reply hreply => ?_) fun _ _ => trivial
  rw [Procedure.pure_bind]
  cases hj : i.judge entry.text i.nextId reply with
  | error e => exact fun _ hok => nomatch hok
  | ok status =>
    obtain ⟨results, r, hr, hsat, rfl⟩ := judge_ok hj
    exact fun _ _ => ⟨limit, results, r, hr, hsat, Prod.ext hreply rfl⟩

theorem installIpv4_ends (i : Installer) (e : Ipv4Entry) :
    Procedure.Ends w cut (fun out _ s' => ∀ status, out.1 = .ok status →
      Completed w s i .add (.ipv4 e) s') (fun _ _ => True) held (i.installIpv4 e) s := by
  unfold installIpv4
  split
  · exact i.program_ends ..
  · exact fun _ hok => nomatch hok

end Installer

/-! ### On the testbed that runs -/

namespace Paced

variable {settings : Settings} {s s' : Paced}

theorem resultsOf_eq_ok {a : Answer} {results : List OperationResult}
    (h : Bench.resultsOf a = .ok results) : a = .results (.ok results) := by
  cases a with
  | results r =>
    cases r with
    | ok _ => exact congrArg (fun l => Answer.results (.ok l)) (Except.ok.inj h)
    | error _ => cases h
  | _ => cases h

/-- Whoever is told the results of operations has heard them from the testbed. -/
theorem modify_heard {client : Nat} {ops : List Operation} {results : List OperationResult}
    (hf : s.testbed.Fresh) (h : s.answer (.modify client ops) = (some (.ok results), s')) :
    Heard s (.modify client ops) (.results (.ok results)) s' := by
  unfold answer at h
  dsimp only at h
  split at h
  · cases h
  · unfold request at h
    obtain ⟨ha, rfl⟩ := Prod.ext_iff.1 h
    obtain ⟨a, hx, hread⟩ := Option.map_eq_some_iff.1 ha
    rw [← resultsOf_eq_ok hread]
    exact exchange_heard hf (Prod.ext hx rfl)

/-- Whether an origin reads as that of programmed entries for as long as no other request is
served, and only ticks wait to be. -/
structure Installed (e : Ipv4Entry) (s : Paced) : Prop where
  fresh : s.testbed.Fresh
  ticks : ∀ p ∈ s.testbed.queue, p.IsTick
  origin : ∀ h, (∀ e ∈ h, e.Idle) →
    (s.testbed.device.after h).read? (.aftOrigin e.inst e.dest) = some Protocol.gribi.text

theorem installed_of_completed {i : Installer} {e : Ipv4Entry}
    (hmode : i.params.ackMode = .ribAndFib)
    (hd : Device.Reachable settings s.testbed.device) (hf : s.testbed.Fresh)
    (h : i.Completed surroundings s .add (.ipv4 e) s') : Installed e s' := by
  obtain ⟨limit, results, r, hr, hsat, hanswer⟩ := h
  obtain ⟨ticket, h₀, h, -, hnew, hsaid, hidle, hdevice, hfresh, hticks⟩ := modify_heard hf hanswer
  rw [hmode] at hsat
  obtain ⟨h₁, h₂, rfl, horigin⟩ := Device.aftOrigin_of_acknowledged (hd.after h₀) hnew
    (fun e he => (hidle e he).not_isFor ticket) (by simp) hsaid hr (Status.eq_of_satisfies hsat)
  refine ⟨hfresh, hticks, fun h₃ hidle₃ => ?_⟩
  have hafter := horigin (h₂ ++ h₃) fun e he => (List.mem_append.1 he).elim
    (fun he => hidle e (List.mem_append_right _ (List.mem_cons_of_mem _ he))) (hidle₃ e)
  rw [hdevice, ← Device.after_append]
  simpa only [List.append_assoc, List.cons_append] using hafter

/-- The origin is what a caller that asks for it hears next. -/
theorem Installed.read {e : Ipv4Entry} (h : Installed e s) {limit : Option Nat}
    {x : Except CallError (Option String)}
    (hx : (surroundings.answer (.read (.aftOrigin e.inst e.dest)) limit s).1 = some x) :
    x = .ok (some Protocol.gribi.text) := by
  obtain ⟨a, ha, rfl⟩ := Option.map_eq_some_iff.1 hx
  obtain ⟨ticket, h₀, h', hbefore, hnew, hsaid, hidle, -, -, -⟩ :=
    exchange_heard h.fresh (Prod.ext ha rfl)
  have hother : ∀ e ∈ h', ¬ e.IsFor ticket := fun e he => (hidle e he).not_isFor ticket
  rw [Device.repliesTo_of_answered rfl hnew hother, List.mem_singleton] at hsaid
  rw [hsaid, h.origin h₀ (hbefore h.ticks)]
  rfl

end Paced

/-- Installs an entry, then asks what its forwarding comes from. -/
def Installer.installAndRead (i : Installer) (e : Ipv4Entry) :
    Procedure σ (Except RunError Status × Except CallError (Option String)) := do
  let (outcome, _) ← i.installIpv4 e
  let origin ← .call (.read (.aftOrigin e.inst e.dest))
  return (outcome, origin)

section

variable {settings : Settings} {i : Installer} {e : Ipv4Entry} {σ : Type} {cut : Option Nat}
  {held : σ} {status : Status} {origin : Except CallError (Option String)}

theorem Paced.installAndRead_ends (settings : Settings) {s : Paced}
    (hmode : i.params.ackMode = .ribAndFib)
    (hd : Device.Reachable settings s.testbed.device) (hf : s.testbed.Fresh) :
    Procedure.Ends surroundings cut (fun out _ _ => ∀ status, out.1 = .ok status →
      out.2 = .ok (some Protocol.gribi.text)) (fun _ _ => True) held (i.installAndRead e) s := by
  refine Procedure.Ends.bind ((i.installIpv4_ends e).mono (fun out held s' hout => ?_)
    fun _ _ _ => trivial)
  refine Procedure.Ends.ask (fun x hx status hstatus => ?_) fun _ => trivial
  exact (installed_of_completed hmode hd hf (hout status hstatus)).read hx

/-- **What was installed is read back.**  On the testbed that runs, for an installer that relies on
acknowledgements by forwarding. -/
theorem Bench.install_then_read {b : Bench} (hmode : i.params.ackMode = .ribAndFib)
    (hd : Device.Reachable settings b.device) (hb : b.Ready)
    (hvalue : ((i.installAndRead e).perform surroundings cut held b).value =
      some (.ok status, origin)) : origin = .ok (some Protocol.gribi.text) := by
  obtain ⟨-, ps, hps⟩ := perform_followed cut (i.installAndRead e) held hb
  obtain ⟨-, log, hpaced⟩ := hps [{ time := _ }] [] rfl
  have hsame := (congrArg (fun out => out.1.1) hpaced).trans hvalue
  refine Procedure.Ends.of_value (Paced.installAndRead_ends settings hmode ?_ ?_) hsame status rfl
  · exact hd
  · exact hb.fresh

end

/-! ### What acknowledgements are worth -/

/-- Whether the results that a call for operations brings were sent to the request with the ticket
in the course of a history that begins with its service. -/
def Surroundings.Relays (w : Surroundings S) (s : S) (d : Device) (ticket client : Nat)
    (ops : List Operation) (h : List Event) : Prop :=
  ∀ (limit : Option Nat) (results : List OperationResult),
    (w.answer (.modify client ops) limit s).1 = some (.ok results) →
      .results (.ok results) ∈ d.repliesTo ticket (.serve ticket (.modify client ops) :: h)

namespace Device

variable {settings : Settings} {d : Device} {ticket : Nat}

/-- **Acknowledgements tell the truth.**  A request for operations that is served for an open
session of the second mode is told nothing until the routes are chosen anew, whatever is served in
the meantime; then it is told the status of each operation, as the forwarding tables of that moment
have it; and it is told nothing more.

So when an installer that relies on such acknowledgements has installed an entry, among whatever
other requests, the routes have been chosen since, and the origin of the entry's forwarding reads as
that of programmed entries until another request is served.  On the testbed that runs, that is what
the installer hears if it asks next. -/
theorem acknowledgements_tell_the_truth (hd : Reachable settings d)
    (hnew : ∀ o ∈ d.owed, o.ticket ≠ ticket) :
    (∀ client params ops h, d.sessions.get? client = some params →
      params.ackMode = .ribAndFib → .process ∉ h → (∀ e ∈ h, ¬ e.IsFor ticket) →
        d.repliesTo ticket (.serve ticket (.modify client ops) :: h) = [] ∧
        (d.statuses client ops).length = ops.length ∧
        ∀ h', (∀ e ∈ h', ¬ e.IsFor ticket) →
          d.repliesTo ticket (.serve ticket (.modify client ops) :: h ++ .process :: h') =
            [.results (.ok (acknowledgement
              (d.after (.serve ticket (.modify client ops) :: h ++ [.process]))
              ops (d.statuses client ops)))]) ∧
    ∀ {σ : Type} (cut : Option Nat) (held : σ) (i : Installer) (e : Ipv4Entry) (status : Status),
      i.params.ackMode = .ribAndFib →
        (∀ {S : Type} (w : Surroundings S) (s : S) (i' : Installer) (h : List Event),
          (∀ e ∈ h, ¬ e.IsFor ticket) →
          w.Relays s d ticket i.session [⟨i.nextId, .add, .ipv4 e⟩] h →
          ((i.installIpv4 e).perform w cut held s).value = some (.ok status, i') →
            ∃ h₁ h₂, h = h₁ ++ .process :: h₂ ∧ ∀ h₃, (∀ e ∈ h₃, e.Idle) →
              read? (d.after (.serve ticket (.modify i.session [⟨i.nextId, .add, .ipv4 e⟩]) ::
                h₁ ++ .process :: h₃)) (.aftOrigin e.inst e.dest) = some "GRIBI") ∧
        ∀ (b : Bench) (origin : Except CallError (Option String)), b.device = d → b.Ready →
          ((i.installAndRead e).perform Bench.surroundings cut held b).value =
            some (.ok status, origin) → origin = .ok (some "GRIBI") := by
  have hnew' := owedTo_eq_nil_iff.2 hnew
  refine ⟨fun client params ops h hopen hmode hno hother => ?_,
    fun cut held i e status hmode => ⟨fun w s i' h hother hrelays hvalue => ?_,
      fun b origin hb hready hvalue => ?_⟩⟩
  · exact ⟨repliesTo_modify_waiting hopen hmode hnew' hno hother, d.length_statuses ..,
      fun h' => repliesTo_modify hd hopen hmode hnew' hno hother⟩
  · obtain ⟨limit, results, r, hr, hsat, hanswer⟩ :=
      (i.installIpv4_ends e).of_value hvalue status rfl
    have hsaid := hrelays limit results (congrArg Prod.fst hanswer)
    have hstatus : r.status = .fibProgrammed := by
      rw [hmode] at hsat
      exact Status.eq_of_satisfies hsat
    exact aftOrigin_of_acknowledged hd hnew' hother (by simp) hsaid hr hstatus
  · exact Bench.install_then_read hmode (hb.symm ▸ hd) hready hvalue

/-- The parameters of a session that waits for forwarding. -/
def waitingParams : SessionParams :=
  { persistence := true, ackMode := .ribAndFib, electionId := { high := 2, low := 0 } }

/-- The testbed of `crossed` with such a session, which is the primary one. -/
def awaiting : Device := crossed.serveAll [.openSession waitingParams]

theorem reachable_awaiting : Reachable .standard awaiting := reachable_crossed.serveAll _

/-- An installer that relies on the session. -/
def waitingInstaller : Installer :=
  { session := 2, params := waitingParams, ackTimeout := 1000, groups := .add ∅ ⟨homeName, 1⟩ }

/-- Another entry that resolves like that of `crossed`. -/
def secondEntry : Ipv4Entry :=
  { crossedEntry with dest := .ofInterface (.ofOctets 198 51 100 0) 24 }

/-- The operation of adding that entry. -/
def secondAdd : Operation := ⟨1, .add, .ipv4 secondEntry⟩

/-- The testbed on a clock, with the installer's end of the session. -/
def awaitingBench : Bench :=
  { device := awaiting, handles := .insert ∅ 2 { params := waitingParams } }

/-- A caller whose request is served and acknowledged at once. -/
def promptCaller : Paced :=
  { testbed := awaitingBench.testbed, paces := [{ during := [.serve, .program] }] }

theorem ready_awaitingBench : awaitingBench.Ready := Bench.ready_of_owed rfl _

theorem waitingParams_of_awaiting : awaiting.sessions.get? 2 = some waitingParams := by
  decide +kernel

theorem relays_promptCaller :
    Paced.surroundings.Relays promptCaller awaiting 0 2 [secondAdd] [.process] := by
  have hanswer : ((promptCaller.answer (.modify 2 [secondAdd])).1.bind Except.toOption :
      Option (List OperationResult)) = some [⟨1, .fibProgrammed⟩] := by
    decide +kernel
  have hreported : acknowledgement (awaiting.after (.serve 0 (.modify 2 [secondAdd]) :: [] ++
      [.process])) [secondAdd] (awaiting.statuses 2 [secondAdd]) = [⟨1, .fibProgrammed⟩] := by
    decide +kernel
  have hnew : awaiting.owedTo 0 = [] := by decide +kernel
  have hsaid : awaiting.repliesTo 0 (.serve 0 (.modify 2 [secondAdd]) :: [] ++ .process :: []) =
      [.results (.ok [⟨1, .fibProgrammed⟩])] := by
    rw [repliesTo_modify reachable_awaiting waitingParams_of_awaiting rfl hnew (by simp) (by simp)
      (by simp), hreported]
  intro limit results h
  change (promptCaller.answer (.modify 2 [secondAdd])).1 = some (.ok results) at h
  rw [h] at hanswer
  cases hanswer
  have hmem : .results (.ok [⟨1, .fibProgrammed⟩]) ∈
      awaiting.repliesTo 0 (.serve 0 (.modify 2 [secondAdd]) :: [] ++ .process :: []) := by
    rw [hsaid]
    exact List.mem_singleton.2 rfl
  exact hmem

/-- What a session is told that was closed in the meantime, what an installer may read, and what it
reads. -/
theorem acknowledgements_tell_the_truth_awaiting :
    awaiting.repliesTo 0 (.serve 0 (.modify 2 [secondAdd, ⟨2, .delete, .ipv4 secondEntry⟩,
        ⟨3, .delete, .ipv4 secondEntry⟩]) :: [.serve 1 (.close 2)] ++ [.process]) =
      [.results (.ok [⟨1, .ribProgrammed⟩, ⟨2, .fibProgrammed⟩, ⟨3, .failed .invalidEntry⟩])] ∧
    read? (awaiting.after [.serve 0 (.modify 2 [secondAdd]), .process])
      (.aftOrigin defaultInstanceName secondEntry.dest) = some "GRIBI" ∧
    ∃ origin, ((waitingInstaller.installAndRead secondEntry).perform Bench.surroundings none ()
      awaitingBench).value = some (.ok .fibProgrammed, origin) ∧ origin = .ok (some "GRIBI") := by
  have howed : ∀ o ∈ awaiting.owed, o.ticket ≠ 0 := by decide +kernel
  obtain ⟨hreply, hinstall⟩ := acknowledgements_tell_the_truth reachable_awaiting howed
  obtain ⟨hcalled, hran⟩ := hinstall none () waitingInstaller secondEntry .fibProgrammed rfl
  refine ⟨?_, ?_, ?_⟩
  · have hsaid := (hreply 2 waitingParams [secondAdd, ⟨2, .delete, .ipv4 secondEntry⟩,
      ⟨3, .delete, .ipv4 secondEntry⟩] [.serve 1 (.close 2)] waitingParams_of_awaiting rfl
      (by simp) (by simp [Event.IsFor])).2.2 [] (by simp)
    refine hsaid.trans (congrArg (fun l => [Answer.results (.ok l)]) ?_)
    decide +kernel
  · have hvalue : ((waitingInstaller.installIpv4 secondEntry).perform Paced.surroundings none ()
        promptCaller).value.bind (·.1.toOption) = some .fibProgrammed := by
      decide +kernel
    obtain ⟨⟨_ | status, i'⟩, hout, hok⟩ := Option.bind_eq_some_iff.1 hvalue <;> cases hok
    obtain ⟨_ | ⟨e, h₁⟩, h₂, hprocess, hread⟩ := hcalled Paced.surroundings promptCaller i'
      [.process] (by simp [Event.IsFor]) relays_promptCaller hout
    · exact hread [] (by simp)
    · simp at hprocess
  · have hvalue : ((waitingInstaller.installAndRead secondEntry).perform Bench.surroundings none ()
        awaitingBench).value.bind (·.1.toOption) = some .fibProgrammed := by
      decide +kernel
    obtain ⟨⟨_ | status, origin⟩, hout, hok⟩ := Option.bind_eq_some_iff.1 hvalue <;> cases hok
    exact ⟨origin, hout, hran awaitingBench origin rfl ready_awaitingBench hout⟩

end Device

end RoutePreference
