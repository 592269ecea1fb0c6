import RoutePreference.Device.Serving

/-!
# Reachable devices

* `Device.Reachable`: the devices that requests and processing lead to, in any order, from a
  testbed without any configuration;
* `Device.linked`, `Device.crossed`: small ones, for examples;
* `Device.SameRouting`: two devices that differ in sessions, traffic, tokens and withheld results
  at most;
* `Device.Routine`: the properties that configuring interfaces, network instances and routes
  keeps, and with it every request that takes no programmed entry away and adds none;
* `Device.Kept`: the properties that every change of routing keeps, one field for each kind of
  change;
* `Reachable.of_kept`: such a property holds of every reachable device.

A request is a chain of such changes: a list of operations applies them one after the other, and
closing a session flushes one network instance after the other.
-/

namespace RoutePreference

namespace Device

/-- The devices that requests and processing lead to. -/
inductive Reachable (settings : Settings) : Device → Prop where
  | start : Reachable settings (start settings)
  | serve {d : Device} (ticket : Nat) (r : Request) :
      Reachable settings d → Reachable settings (d.serve ticket r).1
  | process {d : Device} : Reachable settings d → Reachable settings d.process.1

/-- The device after the listed requests, none of which withholds its answer. -/
def serveAll (d : Device) (rs : List Request) : Device := rs.foldl (fun d r => (d.serve 0 r).1) d

theorem Reachable.serveAll {settings : Settings} {d : Device} (h : Reachable settings d)
    (rs : List Request) : Reachable settings (d.serveAll rs) := by
  induction rs generalizing d with
  | nil => exact h
  | cons r rs ih => exact ih (h.serve 0 r)

/-- A testbed with its first link and a default network instance. -/
def linked : Device := (Device.start .standard).serveAll [
  .configureDut { attrs := (Link.numbered 1).dut, enabled := none },
  .configureAte { attrs := (Link.numbered 1).ate, gateway := (Link.numbered 1).dut.ipv4 },
  .setProtocols true,
  .replaceInstance { name := defaultInstanceName, type := .default, description := none }]

theorem reachable_linked : Reachable .standard linked := Reachable.start.serveAll _

/-- The network instance that holds the groups which entries of another one resolve through. -/
def homeName : String := "VRF"

/-- The destination of the programmed entry of `crossed`. -/
def crossedDest : Network := .ofInterface (.ofOctets 203 0 113 0) 24

/-- An entry of the default network instance whose group lives in the other one. -/
def crossedEntry : Ipv4Entry :=
  { dest := crossedDest, group := 1, inst := defaultInstanceName, groupInst := some homeName,
    tag := none }

/-- The testbed with a session that has programmed an entry across network instances. -/
def crossed : Device := linked.serveAll [
  .replaceInstance { name := homeName, type := .l3vrf, description := none },
  .openSession { persistence := false, ackMode := .rib, electionId := { high := 1, low := 0 } },
  .modify 1 [
    ⟨1, .add, .nextHop ⟨1, (Link.numbered 1).ate.ipv4, homeName⟩⟩,
    ⟨2, .add, .nextHopGroup ⟨1, .ofList [(1, 1)], homeName⟩⟩,
    ⟨3, .add, .ipv4 crossedEntry⟩]]

theorem reachable_crossed : Reachable .standard crossed := reachable_linked.serveAll _

theorem crossed_entry :
    (crossed.aftOf defaultInstanceName).ipv4.get? crossedDest = some crossedEntry := by
  decide +kernel

/-- Whether two devices agree in everything that routing depends on. -/
structure SameRouting (d d' : Device) : Prop where
  settings : d'.settings = d.settings
  interfaces : d'.interfaces = d.interfaces
  instances : d'.instances = d.instances
  aft : d'.aft = d.aft

/-- Whether two devices differ in sessions and traffic at most. -/
structure SameWork (d d' : Device) : Prop extends SameRouting d d' where
  tokens : d'.tokens = d.tokens
  owed : d'.owed = d.owed

/-- A tick changes the counters of a flow at most. -/
theorem sameWork_transmit (d : Device) (name : String) : d.SameWork (d.transmit name) := by
  rw [transmit]
  split
  · exact ⟨⟨rfl, rfl, rfl, rfl⟩, rfl, rfl⟩
  · split <;> exact ⟨⟨rfl, rfl, rfl, rfl⟩, rfl, rfl⟩

/-! ### Chains of changes -/

section Chains

variable {P : Device → Prop} {d : Device}

/-- What a successful operation keeps is kept by any operation: only those of the primary session
are carried out. -/
theorem perform_of_apply (h : ∀ {d d' op}, P d → d.apply op = .ok d' → P d') (primary : Bool)
    (op : Operation) (hd : P d) : P (d.perform primary op).1 := by
  unfold perform
  split
  · next d' hok =>
    cases primary with
    | true => exact h hd hok
    | false => cases hok
  · exact hd

theorem performAll_of_apply (h : ∀ {d d' op}, P d → d.apply op = .ok d' → P d') (primary : Bool)
    (ops : List Operation) (hd : P d) : P (d.performAll primary ops).1 := by
  induction ops generalizing d with
  | nil => exact hd
  | cons op ops ih => exact ih (perform_of_apply h primary op hd)

/-- Operations of a session that isn't the primary one change nothing. -/
theorem performAll_false (d : Device) (ops : List Operation) : (d.performAll false ops).1 = d := by
  induction ops generalizing d with
  | nil => rfl
  | cons op ops ih => exact ih d

/-- Operations of a session, as far as nothing depends on the withheld results. -/
theorem submit_cases (d : Device) (ticket client : Nat) (ops : List Operation) :
    (d.submit ticket client ops).1 = d ∨
      SameRouting (d.performAll (d.isPrimary client) ops).1 (d.submit ticket client ops).1 := by
  rw [submit]
  cases d.sessions.get? client with
  | none => exact .inl rfl
  | some params =>
    refine .inr ?_
    cases hm : params.ackMode <;> simp only [hm] <;> exact ⟨rfl, rfl, rfl, rfl⟩

theorem submit_of_apply (hsame : ∀ {d d'}, P d → SameRouting d d' → P d')
    (h : ∀ {d d' op}, P d → d.apply op = .ok d' → P d') (ticket client : Nat)
    (ops : List Operation) (hd : P d) : P (d.submit ticket client ops).1 := by
  obtain heq | hs := d.submit_cases ticket client ops
  · rw [heq]
    exact hd
  · exact hsame (performAll_of_apply h _ ops hd) hs

theorem foldl_flushInstance (h : ∀ {d inst}, P d → P (flushInstance d inst)) (names : List String)
    (hd : P d) : P (names.foldl flushInstance d) := by
  induction names generalizing d with
  | nil => exact hd
  | cons n names ih => exact ih (h hd)

/-- A change that may be refused keeps what its outcome keeps. -/
theorem settled_of_ok {r : Except Refusal Device} (hr : ∀ d', r = .ok d' → P d') (hd : P d) :
    P (d.settled r).1 := by
  cases r with
  | error e => exact hd
  | ok d' => exact hr d' rfl

end Chains

/-- A successful flush is that of an existing network instance for the primary session. -/
theorem flush_ok {d d' : Device} {client : Nat} {inst : String}
    (hok : d.flush client inst = .ok d') :
    d.isPrimary client = true ∧ d.instances.contains inst = true ∧ d' = d.flushInstance inst := by
  rw [flush] at hok
  split at hok
  · cases hok
  split at hok
  · cases hok
  split at hok
  · cases hok
  · next hprimary hinst =>
    cases hok
    exact ⟨by simpa using hprimary, by simpa using hinst, rfl⟩

/-- A session that is closed is forgotten; its entries stay, or everything is flushed. -/
theorem close_cases {d d' : Device} {client : Nat} (hok : d.close client = .ok d') :
    d' = { d with sessions := d.sessions.erase client } ∨
      d' = d.aft.keys.foldl flushInstance { d with sessions := d.sessions.erase client } := by
  rw [close] at hok
  split at hok
  · cases hok
  · dsimp only at hok
    split at hok <;> cases hok
    · exact .inr rfl
    · exact .inl rfl

/-! ### Requests that leave programmed entries alone -/

/-- What it takes for a property to be kept by configuring interfaces, network instances and
routes. -/
structure Routine (P : Device → Prop) : Prop where
  same : ∀ {d d' : Device}, P d → d.SameWork d' → P d'
  configureDut : ∀ {d d' : Device} {cfg : DutInterface}, P d → d.configureDut cfg = .ok d' → P d'
  replaceInstance : ∀ {d d' : Device} {cfg : InstanceConfig},
    P d → d.replaceInstance cfg = .ok d' → P d'
  replaceStatic : ∀ {d d' : Device} {cfg : StaticRoute}, P d → d.replaceStatic cfg = .ok d' → P d'
  deleteStatic : ∀ {d d' : Device} {inst : String} {dest : Network},
    P d → d.deleteStatic inst dest = .ok d' → P d'

end Device

/-- Whether a request can take programmed entries away or add some. -/
def Request.changesEntries : Request → Bool
  | .modify _ _ | .deleteInstance _ | .flush _ _ | .close _ => true
  | _ => false

namespace Device

/-- **One request** that leaves programmed entries alone. -/
theorem Routine.serve {P : Device → Prop} (h : Routine P) (ticket : Nat) {r : Request}
    (hr : r.changesEntries = false) {d : Device} (hd : P d) : P (d.serve ticket r).1 := by
  have hsame : ∀ {g : Generator}, P { d with generator := g } :=
    h.same hd ⟨⟨rfl, rfl, rfl, rfl⟩, rfl, rfl⟩
  cases r with
  | configureDut cfg => exact settled_of_ok (fun _ hok => h.configureDut hd hok) hd
  | configureAte cfg =>
    refine settled_of_ok (fun d' hok => ?_) hd
    rw [Device.configureAte] at hok
    split at hok <;> cases hok
    exact hsame
  | setProtocols running => exact hsame
  | replaceInstance cfg => exact settled_of_ok (fun _ hok => h.replaceInstance hd hok) hd
  | replaceStatic cfg => exact settled_of_ok (fun _ hok => h.replaceStatic hd hok) hd
  | deleteStatic inst dest => exact settled_of_ok (fun _ hok => h.deleteStatic hd hok) hd
  | openSession params => exact h.same hd ⟨⟨rfl, rfl, rfl, rfl⟩, rfl, rfl⟩
  | read path => exact hd
  | startFlow spec =>
    refine settled_of_ok (fun d' hok => ?_) hd
    rw [Device.startFlow] at hok
    split at hok
    · cases hok
    split at hok <;> cases hok
    exact hsame
  | stopFlow name =>
    refine settled_of_ok (fun d' hok => ?_) hd
    rw [Device.stopFlow] at hok
    split at hok <;> cases hok
    exact hsame
  | counters name => exact hd
  | tick name =>
    exact h.same hd (sameWork_transmit d name)
  | _ => cases hr

/-! ### Properties that every change keeps -/

/-- What it takes for a property to be kept by every change of routing. -/
structure Kept (P : Device → Prop) : Prop where
  same : ∀ {d d' : Device}, P d → d.SameRouting d' → P d'
  configureDut : ∀ {d d' : Device} {cfg : DutInterface}, P d → d.configureDut cfg = .ok d' → P d'
  replaceInstance : ∀ {d d' : Device} {cfg : InstanceConfig},
    P d → d.replaceInstance cfg = .ok d' → P d'
  deleteInstance : ∀ {d d' : Device} {name : String}, P d → d.deleteInstance name = .ok d' → P d'
  replaceStatic : ∀ {d d' : Device} {cfg : StaticRoute}, P d → d.replaceStatic cfg = .ok d' → P d'
  deleteStatic : ∀ {d d' : Device} {inst : String} {dest : Network},
    P d → d.deleteStatic inst dest = .ok d' → P d'
  apply : ∀ {d d' : Device} {op : Operation}, P d → d.apply op = .ok d' → P d'
  flushInstance : ∀ {d : Device} {inst : String}, P d → P (d.flushInstance inst)
  settleRoutes : ∀ {d : Device}, P d → P d.settleRoutes

namespace Kept

variable {P : Device → Prop}

theorem routine (h : Kept P) : Routine P where
  same hd hs := h.same hd hs.toSameRouting
  configureDut := h.configureDut
  replaceInstance := h.replaceInstance
  replaceStatic := h.replaceStatic
  deleteStatic := h.deleteStatic

theorem close (h : Kept P) {client : Nat} {d d' : Device} (hd : P d)
    (hok : d.close client = .ok d') : P d' := by
  have hc : P { d with sessions := d.sessions.erase client } := h.same hd ⟨rfl, rfl, rfl, rfl⟩
  obtain rfl | rfl := close_cases hok
  · exact hc
  · exact foldl_flushInstance h.flushInstance _ hc

/-- **One request.** -/
theorem serve (h : Kept P) (ticket : Nat) (r : Request) {d : Device} (hd : P d) :
    P (d.serve ticket r).1 := by
  cases r with
  | deleteInstance name => exact settled_of_ok (fun _ hok => h.deleteInstance hd hok) hd
  | modify client ops => exact submit_of_apply h.same h.apply ticket client ops hd
  | flush client inst =>
    refine settled_of_ok (fun d' hok => ?_) hd
    obtain ⟨-, -, rfl⟩ := flush_ok hok
    exact h.flushInstance hd
  | close client => exact settled_of_ok (fun _ hok => h.close hd hok) hd
  | _ => exact h.routine.serve ticket rfl hd

theorem process (h : Kept P) {d : Device} (hd : P d) : P d.process.1 :=
  h.same (h.settleRoutes hd) ⟨rfl, rfl, rfl, rfl⟩

end Kept

/-- A property of the testbed at the start that every change of routing keeps holds of every
reachable device. -/
theorem Reachable.of_kept {P : Device → Prop} {settings : Settings} {d : Device}
    (h : Reachable settings d) (hk : Kept P) (h0 : P (Device.start settings)) : P d := by
  induction h with
  | start => exact h0
  | serve ticket r _ ih => exact hk.serve ticket r ih
  | process _ ih => exact hk.process ih

end Device

end RoutePreference
