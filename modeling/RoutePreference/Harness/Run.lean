import RoutePreference.Harness.Convergence
import RoutePreference.Harness.Installer
import RoutePreference.Harness.Report
import RoutePreference.Harness.Scenario
import RoutePreference.Harness.TrafficCheck

/-!
# Verification runs

* `Holdings`: how far a run got, what it has seen, and what it has to release;
* `Run.pipeline`: the stages of a run, each of which begins only after the one before it ended
  well: set up the topology, install the configured route, check it, install the programmed route,
  check that too, and send traffic;
* `Run.teardown`: releases what is held, in the reverse order of acquisition, whatever fails on
  the way;
* `Run.execute`: a whole run, cut short or not, and its report.
-/

namespace RoutePreference

/-- How far a run got, what it has seen, and what it has to release. -/
structure Holdings where
  reached : RunState := .unconfigured
  protocolsStarted : Bool := false
  instanceCreated : Bool := false
  staticInstalled : Bool := false
  /-- The open session. -/
  installer : Option Installer := none
  /-- The flow that a traffic check has under way. -/
  flow : Option String := none
  observations : List Observation := []
deriving DecidableEq

namespace Holdings

/-- Adds what was seen on the way to a state. -/
def observe (h : Holdings) (step : RunState) (subject : String) (value : Option String) :
    Holdings :=
  { h with observations := h.observations ++ [{ step, subject, value }] }

end Holdings

namespace Run

/-- A stage of a run, or a part of one. -/
abbrev Stage (α : Type) : Type := Checked Holdings α

/-- Notes new holdings and goes on with them. -/
def holding (h : Holdings) : Stage Holdings := do
  Checked.hold h
  return h

/-! ### Stages -/

/-- Waits for a leaf to have its expected value and notes what was seen. -/
def verify (sc : Scenario) (h : Holdings) (step : RunState) (path : StatePath)
    (expected : String) : Stage Holdings := do
  let seen ← sc.convergence.await path expected
  holding (h.observe step path.text seen.observed)

/-- Waits for the forwarding table to show the destination. -/
def verifyDest (sc : Scenario) (h : Holdings) (step : RunState) : Stage Holdings :=
  verify sc h step (.aftPrefix sc.inst sc.dest) sc.dest.text

/-- Configures both ends of the links. -/
def setUpLinks (sc : Scenario) : List Link → Stage Unit
  | [] => return ()
  | link :: links => do
    let _ ← Checked.call (.provisioning ("DUT interface " ++ link.dut.name))
      (.configureDut (sc.dutInterface link))
    let _ ← Checked.call (.provisioning ("ATE interface " ++ link.ate.name))
      (.configureAte (Scenario.ateInterface link))
    setUpLinks sc links

/-- Sets up the topology and the network instance. -/
def provision (sc : Scenario) (h : Holdings) : Stage Holdings := do
  setUpLinks sc sc.links
  let _ ← Checked.call (.provisioning "ATE protocols") .startProtocols
  let h ← holding { h with protocolsStarted := true }
  let _ ← Checked.call (.provisioning ("network instance " ++ sc.inst))
    (.replaceInstance sc.instanceConfig)
  let h ← holding { h with instanceCreated := true }
  verify sc h .provisioned (.instanceType sc.inst) sc.instanceType.text

/-- Configures the route and checks that its protocol instance holds it. -/
def installStatic (sc : Scenario) (h : Holdings) : Stage Holdings := do
  RoutePreference.installStatic sc.staticRoute
  let h ← holding { h with staticInstalled := true }
  verify sc h .staticInstalled (.staticRoute sc.inst sc.staticProtocol sc.dest) sc.dest.text

/-- Carries out an installation and keeps the installer that it leaves. -/
def installing (h : Holdings) (p : Procedure Holdings (Except RunError Status × Installer)) :
    Stage (Installer × Holdings) := do
  let (result, i) ← ExceptT.lift p
  let h ← holding { h with installer := some i }
  let _ ← Checked.ofExcept result
  return (i, h)

/-- Opens a session and installs the programmed route, from the next-hop up. -/
def installDynamic (sc : Scenario) (h : Holdings) : Stage Holdings := do
  let params := sc.session.params
  let session : Nat ← Checked.call .sessionOpen (.openSession params)
  let i : Installer := { session, params, ackTimeout := sc.session.ackTimeout }
  let h ← holding { h with installer := some i }
  let (i, h) ← installing h (i.installNextHop sc.nextHop)
  let (i, h) ← installing h (i.installGroup sc.group)
  let (_, h) ← installing h (i.installIpv4 sc.ipv4Entry)
  return h

/-- Checks the destination again, and the channel that forwarding follows. -/
def verifyDynamic (sc : Scenario) (h : Holdings) : Stage Holdings := do
  let h ← verifyDest sc h .dynamicVerified
  verify sc h .dynamicVerified (.aftOrigin sc.inst sc.dest) sc.expectedOrigin.text

/-- Sends the traffic, of which nothing may be lost. -/
def validateTraffic (sc : Scenario) (h : Holdings) : Stage Holdings := do
  let h ← holding { h with flow := some sc.traffic.flowName }
  let result ← Checked.attempt (TrafficCheck.run sc.traffic.watch sc.traffic.flow)
  let h ← holding { h with flow := none }
  let result ← Checked.ofExcept result
  holding (h.observe .trafficValidated ("flow " ++ result.flow ++ " loss-pct")
    (some result.loss.text))

/-- Notes that a state is reached. -/
def reach (h : Holdings) (state : RunState) : Stage Holdings := holding { h with reached := state }

/-- The stages in order; the first failure ends the run. -/
def pipeline (sc : Scenario) : Stage Unit := do
  let h ← provision sc {}
  let h ← reach h .provisioned
  let h ← installStatic sc h
  let h ← reach h .staticInstalled
  let h ← verifyDest sc h .staticVerified
  let h ← reach h .staticVerified
  let h ← installDynamic sc h
  let h ← reach h .dynamicInstalled
  let h ← verifyDynamic sc h
  let h ← reach h .dynamicVerified
  let h ← validateTraffic sc h
  let _ ← reach h .trafficValidated
  return ()

/-! ### Teardown -/

variable {σ : Type}

/-- The failure of a teardown step, if it failed. -/
def stepErrors (step : String) : Except CallError Unit → List RunError
  | .ok _ => []
  | .error e => [.teardown step e]

/-- Stops the flow that was under way; one that never started is no matter. -/
def releaseFlow (h : Holdings) : Procedure σ (List RunError) :=
  match h.flow with
  | none => return []
  | some flow => do
    match ← .call (.stopFlow flow) with
    | .error (.unknownFlow _) => return []
    | r => return stepErrors "stop traffic flow" r

/-- Flushes, if that is asked for, and closes the session. -/
def releaseSession (sc : Scenario) (h : Holdings) : Procedure σ (List RunError) :=
  match h.installer with
  | none => return []
  | some i => do
    let flushed ←
      if sc.session.flushOnTeardown then
        (fun r => stepErrors "flush gRIBI entries" r.1) <$> i.flush sc.inst
      else pure []
    let closed ← i.close
    return flushed ++ stepErrors "close gRIBI session" closed

/-- Makes a call of the teardown, if it is needed. -/
def release (needed : Bool) (step : String) (p : Procedure σ (Except CallError Unit)) :
    Procedure σ (List RunError) :=
  if needed then stepErrors step <$> p else return []

/-- Releases what is held and returns what failed on the way. -/
def teardown (sc : Scenario) (h : Holdings) : Procedure σ (List RunError) := do
  let flow ← releaseFlow h
  let session ← releaseSession sc h
  let route ← release h.staticInstalled "delete static route"
    (.call (.deleteStatic sc.inst sc.dest))
  let inst ← release h.instanceCreated "delete network instance" (.call (.deleteInstance sc.inst))
  let protocols ← release h.protocolsStarted "stop ATE protocols" (.call .stopProtocols)
  return flow ++ session ++ route ++ inst ++ protocols

/-! ### Whole runs -/

variable {S : Type}

/-- The failure that a pipeline ended with; one that was cut short was interrupted. -/
def failureOf : Option (Except RunError Unit) → Option RunError
  | some (.ok _) => none
  | some (.error e) => some e
  | none => some .interrupted

/-- Carries out a run and its teardown; at the moment `cut` the pipeline is interrupted.  There is
no report if the run or its teardown waits for something that never comes. -/
def execute (w : Surroundings S) (sc : Scenario) (run : Nat) (cut : Option Nat) (s : S) :
    Option RunReport × S :=
  let started := w.now s
  let piped := (pipeline sc).run.perform w cut {} s
  if piped.value.isNone && cut.isNone then (none, piped.after)
  else
    let h := piped.held
    let torn := (teardown sc h).perform w none () piped.after
    match torn.value with
    | none => (none, torn.after)
    | some errors =>
      (some {
        run
        started := .ofMillis started
        finished := .ofMillis (w.now torn.after)
        reached := h.reached
        finalState := .tornDown
        failure := (failureOf piped.value).map (·.failure)
        teardownErrors := errors.map (·.message)
        observations := h.observations }, torn.after)

end Run

end RoutePreference
