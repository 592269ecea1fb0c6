import RoutePreference.Proofs.Harness.Transcript

/-!
# The course of a run

* `Run.Assets`: what a run has to give back, as it thinks (`assetsHeld`) and by its calls
  (`assetsOf`);
* `Run.confirmed`: the leaves that were seen with their expected values;
* `Run.said`: the calls of a run without the reads that didn't show the expected value;
* `Run.checks`, `Run.progress`: the checks of a run, and how many are passed in each state;
* `Run.course`: all calls of a run that succeeds, in order, but for the number of its session and
  how often it reads the counters; `OnCourse`: some of the first ones of these.

Polling makes the same read over and over, so that the calls of a run can have any length; what
they say in the end is a part of one course of calls.
-/

namespace RoutePreference

namespace CallRecord

/-- Whether the call was answered, and not with an error. -/
def isOk : CallRecord → Bool
  | ⟨_, some (.ok _)⟩ => true
  | _ => false

/-- The number of the session, if the call has opened one. -/
def session? : CallRecord → Option Nat
  | ⟨.openSession _, some (.ok c)⟩ => some c
  | _ => none

/-- The leaf that was read and its value, if the call has read one. -/
def leaf? : CallRecord → Option (StatePath × Option String)
  | ⟨.read path, some (.ok v)⟩ => some (path, v)
  | _ => none

end CallRecord

namespace Run

/-! ### What was acquired -/

/-- What a run has to give back. -/
structure Assets where
  protocols : Bool
  inst : Bool
  route : Bool
  session : Option Nat
deriving DecidableEq

/-- What a run thinks that it has to give back, apart from a flow. -/
def assetsHeld (h : Holdings) : Assets where
  protocols := h.protocolsStarted
  inst := h.instanceCreated
  route := h.staticInstalled
  session := h.installer.map (·.session)

/-- Whether a call was made and answered well. -/
def succeeded (log : List CallRecord) (c : Call) : Bool := log.any fun r => r.call = c && r.isOk

/-- What was acquired in the course of some calls. -/
def assetsOf (sc : Scenario) (log : List CallRecord) : Assets where
  protocols := succeeded log .startProtocols
  inst := succeeded log (.replaceInstance sc.instanceConfig)
  route := succeeded log (.replaceStatic sc.staticRoute)
  session := log.findSome? CallRecord.session?

/-! ### What was checked -/

/-- The value that a run expects of a leaf. -/
def expectedText (sc : Scenario) : StatePath → String
  | .instanceType _ => sc.instanceType.text
  | .staticRoute .. | .aftPrefix .. => sc.dest.text
  | .aftOrigin .. => sc.expectedOrigin.text

/-- The leaf that a call has shown to have its expected value. -/
def shown? (sc : Scenario) (r : CallRecord) : Option StatePath :=
  r.leaf?.bind fun l => if l.2 = some (expectedText sc l.1) then some l.1 else none

/-- The leaves that were seen with their expected values, in order. -/
def confirmed (sc : Scenario) (log : List CallRecord) : List StatePath :=
  log.filterMap (shown? sc)

/-- What a call adds to the course of a run.  Reads that don't show the expected value are made
again, and don't count. -/
def said? (sc : Scenario) (r : CallRecord) : Option Call :=
  match r.call with
  | .read _ => (shown? sc r).map .read
  | c => some c

/-- The calls of a run, without the reads that didn't show the expected value. -/
def said (sc : Scenario) (log : List CallRecord) : List Call := log.filterMap (said? sc)

/-- A leaf that is read. -/
def pathRead? : Call → Option StatePath
  | .read path => some path
  | _ => none

/-- A check of a run: the state that it leads to, and the leaf that is read. -/
def checks (sc : Scenario) : List (RunState × StatePath) := [
  (.provisioned, .instanceType sc.inst),
  (.staticInstalled, .staticRoute sc.inst sc.staticProtocol sc.dest),
  (.staticVerified, .aftPrefix sc.inst sc.dest),
  (.dynamicVerified, .aftPrefix sc.inst sc.dest),
  (.dynamicVerified, .aftOrigin sc.inst sc.dest)]

/-- What a run notes of its checks. -/
def expectedObservations (sc : Scenario) : List Observation :=
  (checks sc).map fun c =>
    { step := c.1, subject := c.2.text, value := some (expectedText sc c.2) }

/-! ### The course -/

/-- How many checks are passed in each state, before the traffic is validated. -/
def progress : List (RunState × Nat) := [
  (.unconfigured, 0), (.provisioned, 1), (.staticInstalled, 2), (.staticVerified, 3),
  (.dynamicInstalled, 3), (.dynamicInstalled, 4), (.dynamicVerified, 5)]

/-- The calls that configure both ends of the links. -/
def linkCalls (sc : Scenario) (links : List Link) : List Call :=
  links.flatMap fun link =>
    [.configureDut (sc.dutInterface link), .configureAte (Scenario.ateInterface link)]

/-- The call that programs an entry. -/
def programming (session id : Nat) (entry : AftEntry) : Call :=
  .modify session [{ id, verb := .add, entry }]

/-- The calls up to the state in which the topology is set up. -/
def untilProvisioned (sc : Scenario) : List Call :=
  linkCalls sc sc.links ++ [.startProtocols, .replaceInstance sc.instanceConfig,
    .read (.instanceType sc.inst)]

/-- The calls up to the state in which the configured route is installed. -/
def untilStaticInstalled (sc : Scenario) : List Call :=
  untilProvisioned sc ++ [.replaceStatic sc.staticRoute,
    .read (.staticRoute sc.inst sc.staticProtocol sc.dest)]

/-- The calls up to the state in which it is verified. -/
def untilStaticVerified (sc : Scenario) : List Call :=
  untilStaticInstalled sc ++ [.read (.aftPrefix sc.inst sc.dest)]

/-- The calls up to the state in which the programmed route is installed. -/
def untilDynamicInstalled (sc : Scenario) (session : Nat) : List Call :=
  untilStaticVerified sc ++ [.openSession sc.session.params,
    programming session 1 (.nextHop sc.nextHop), programming session 2 (.nextHopGroup sc.group),
    programming session 3 (.ipv4 sc.ipv4Entry)]

/-- The calls up to the state in which it is verified. -/
def untilDynamicVerified (sc : Scenario) (session : Nat) : List Call :=
  untilDynamicInstalled sc session ++ [.read (.aftPrefix sc.inst sc.dest),
    .read (.aftOrigin sc.inst sc.dest)]

/-- The calls with which a traffic check ends. -/
def concluding (sc : Scenario) : List Call :=
  [.stopFlow sc.traffic.flowName, .counters sc.traffic.flowName, .loss sc.traffic.flowName]

/-- The calls of a traffic check that reads the counters so many times before those that follow. -/
def trafficCalls (sc : Scenario) (reads : Nat) (after : List Call) : List Call :=
  .startFlow sc.traffic.flow :: (List.replicate reads (.counters sc.traffic.flowName) ++ after)

/-- All calls of a run that succeeds, without the reads that are made again. -/
def course (sc : Scenario) (session reads : Nat) : List Call :=
  untilDynamicVerified sc session ++ trafficCalls sc reads (concluding sc)

/-- The leaves that are read in the course of some calls. -/
def pathsRead (l : List Call) : List StatePath := l.filterMap pathRead?

/-- Whether some calls are the first ones of the course of a run. -/
def OnCourse (sc : Scenario) (l : List Call) : Prop :=
  ∃ session reads, l <+: course sc session reads

/-! ### One more call -/

variable {sc : Scenario} {log : List CallRecord} {r : CallRecord} {c : Call}

theorem said_concat : said sc (log ++ [r]) = said sc log ++ (said? sc r).toList := by
  cases h : said? sc r <;> simp [said, h]

theorem said?_of_not_read (h : pathRead? c = none) (reply : Option c.Reply) :
    said? sc ⟨c, reply⟩ = some c := by
  cases c <;> first | rfl | cases h

/-- Calls that aren't reads count. -/
theorem mem_said_iff (sc : Scenario) (h : pathRead? c = none) :
    c ∈ said sc log ↔ c ∈ log.map (·.call) := by
  constructor
  · intro hc
    obtain ⟨⟨c', reply⟩, hr, hsaid⟩ := List.mem_filterMap.1 hc
    cases hread : pathRead? c' with
    | none =>
      rw [said?_of_not_read hread, Option.some_inj] at hsaid
      exact List.mem_map.2 ⟨_, hr, hsaid⟩
    | some path =>
      cases c' <;> cases hread
      obtain ⟨path, -, rfl⟩ := Option.map_eq_some_iff.1 hsaid
      cases h
  · intro hc
    obtain ⟨r, hr, rfl⟩ := List.mem_map.1 hc
    exact List.mem_filterMap.2 ⟨r, hr, said?_of_not_read h r.reply⟩

/-- The leaves that were seen are those of the reads that count. -/
theorem pathsRead_said (log : List CallRecord) : pathsRead (said sc log) = confirmed sc log := by
  have hone : ∀ r : CallRecord, (said? sc r).bind pathRead? = shown? sc r := by
    rintro ⟨c, reply⟩
    cases hc : pathRead? c with
    | none =>
      rw [said?_of_not_read hc, Option.bind_some, hc]
      cases c <;> first | rfl | cases hc
    | some path =>
      cases c <;> cases hc
      cases h : shown? sc ⟨.read path, reply⟩ with
      | none => simp [said?, h]
      | some path' => simp [said?, h, pathRead?]
  unfold pathsRead said confirmed
  rw [List.filterMap_filterMap]
  exact congrArg (fun f => log.filterMap f) (funext hone)

/-- Whether a call acquires something when it is answered well. -/
def acquires : Call → Bool
  | .startProtocols | .replaceInstance _ | .replaceStatic _ | .openSession _ => true
  | _ => false

/-- What there is to give back after another call. -/
def Assets.note (a : Assets) (sc : Scenario) (r : CallRecord) : Assets where
  protocols := a.protocols || (r.call = .startProtocols && r.isOk)
  inst := a.inst || (r.call = .replaceInstance sc.instanceConfig && r.isOk)
  route := a.route || (r.call = .replaceStatic sc.staticRoute && r.isOk)
  session := a.session.or r.session?

theorem assetsOf_concat (sc : Scenario) (log : List CallRecord) (r : CallRecord) :
    assetsOf sc (log ++ [r]) = (assetsOf sc log).note sc r := by
  have hsession : (log ++ [r]).findSome? CallRecord.session? =
      (log.findSome? CallRecord.session?).or r.session? := by
    rw [List.findSome?_append]
    cases h : r.session? <;> simp [h]
  unfold assetsOf Assets.note succeeded
  rw [hsession]
  simp

/-- A call acquires nothing if it isn't of that kind, or fails, or isn't answered. -/
theorem note_of_kept {a : Assets} (h : acquires r.call = false ∨ r.isOk = false) :
    a.note sc r = a := by
  obtain ⟨c, reply⟩ := r
  have hsession : CallRecord.session? ⟨c, reply⟩ = none := by
    obtain h | h := h
    · cases c <;> first | rfl | cases h
    · obtain _ | _ | v := reply
      · cases c <;> rfl
      · cases c <;> rfl
      · cases h
  rw [Assets.note, hsession]
  obtain h | h := h
  · cases c <;> first | (cases h; done) | simp
  · simp [h]

/-! ### Calls on the course -/

variable {l : List Call}

theorem OnCourse.of_append {l' : List Call} (h : OnCourse sc (l ++ l')) : OnCourse sc l := by
  obtain ⟨session, reads, h⟩ := h
  exact ⟨session, reads, (List.prefix_append l l').trans h⟩

/-- What lies ahead after the next call. -/
theorem OnCourse.step {rest : List Call} (h : OnCourse sc (l ++ c :: rest)) :
    OnCourse sc (l ++ [c] ++ rest) := by
  rwa [← List.append_cons]

@[simp] theorem pathsRead_append (l l' : List Call) :
    pathsRead (l ++ l') = pathsRead l ++ pathsRead l' := List.filterMap_append

/-- What is true of both calls that configure a link is true of all such calls. -/
theorem forall_mem_linkCalls {P : Call → Prop} {links : List Link}
    (hdut : ∀ link, P (.configureDut (sc.dutInterface link)))
    (hate : ∀ link, P (.configureAte (Scenario.ateInterface link))) :
    ∀ c ∈ linkCalls sc links, P c := by
  intro c hc
  obtain ⟨link, -, hc⟩ := List.mem_flatMap.1 hc
  obtain rfl | hc := List.mem_cons.1 hc
  · exact hdut link
  · rw [List.mem_singleton.1 hc]
    exact hate link

theorem forall_mem_trafficCalls {P : Call → Prop} {reads : Nat}
    (hstart : P (.startFlow sc.traffic.flow)) (hcounters : P (.counters sc.traffic.flowName))
    (hstop : P (.stopFlow sc.traffic.flowName)) (hloss : P (.loss sc.traffic.flowName)) :
    ∀ c ∈ trafficCalls sc reads (concluding sc), P c := by
  intro c hc
  simp only [trafficCalls, concluding, List.mem_cons, List.mem_append, List.mem_replicate,
    List.not_mem_nil, or_false] at hc
  obtain rfl | ⟨-, rfl⟩ | rfl | rfl | rfl := hc <;> assumption

@[simp] theorem pathsRead_linkCalls (sc : Scenario) (links : List Link) :
    pathsRead (linkCalls sc links) = [] :=
  List.filterMap_eq_nil_iff.2 (forall_mem_linkCalls (fun _ => rfl) fun _ => rfl)

theorem onCourse_untilDynamicVerified (sc : Scenario) (session : Nat) :
    OnCourse sc (untilDynamicVerified sc session) := ⟨session, 0, List.prefix_append _ _⟩

theorem onCourse_untilDynamicInstalled (sc : Scenario) (session : Nat) :
    OnCourse sc (untilDynamicInstalled sc session) :=
  (onCourse_untilDynamicVerified sc session).of_append

theorem onCourse_untilStaticVerified (sc : Scenario) : OnCourse sc (untilStaticVerified sc) :=
  (onCourse_untilDynamicInstalled sc 0).of_append

theorem onCourse_untilStaticInstalled (sc : Scenario) : OnCourse sc (untilStaticInstalled sc) :=
  (onCourse_untilStaticVerified sc).of_append

theorem onCourse_untilProvisioned (sc : Scenario) : OnCourse sc (untilProvisioned sc) :=
  (onCourse_untilStaticInstalled sc).of_append

theorem pathsRead_untilProvisioned (sc : Scenario) :
    pathsRead (untilProvisioned sc) = [.instanceType sc.inst] := by
  rw [untilProvisioned, pathsRead_append, pathsRead_linkCalls]
  rfl

theorem pathsRead_untilStaticInstalled (sc : Scenario) :
    pathsRead (untilStaticInstalled sc) =
      [.instanceType sc.inst, .staticRoute sc.inst sc.staticProtocol sc.dest] := by
  rw [untilStaticInstalled, pathsRead_append, pathsRead_untilProvisioned]
  rfl

theorem pathsRead_untilStaticVerified (sc : Scenario) :
    pathsRead (untilStaticVerified sc) =
      [.instanceType sc.inst, .staticRoute sc.inst sc.staticProtocol sc.dest,
        .aftPrefix sc.inst sc.dest] := by
  rw [untilStaticVerified, pathsRead_append, pathsRead_untilStaticInstalled]
  rfl

theorem pathsRead_untilDynamicInstalled (sc : Scenario) (session : Nat) :
    pathsRead (untilDynamicInstalled sc session) =
      [.instanceType sc.inst, .staticRoute sc.inst sc.staticProtocol sc.dest,
        .aftPrefix sc.inst sc.dest] := by
  rw [untilDynamicInstalled, pathsRead_append, pathsRead_untilStaticVerified]
  rfl

theorem pathsRead_untilDynamicVerified (sc : Scenario) (session : Nat) :
    pathsRead (untilDynamicVerified sc session) = (checks sc).map (·.2) := by
  rw [untilDynamicVerified, pathsRead_append, pathsRead_untilDynamicInstalled]
  rfl

end Run

end RoutePreference
