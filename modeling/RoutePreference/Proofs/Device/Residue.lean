import RoutePreference.Proofs.Device.Use

/-!
# What a run leaves behind

* `Residue`, `Device.Left`: what is left in the testbed, nothing more and nothing less, and what
  each acquisition and release makes of it;
* `Device.LeftWith`: the same when there may be a stray besides: something that was acquired and
  that the run doesn't know of;
* `vacant_iff_of_leftWith`: when everything known is released, the strays remain.
-/

namespace RoutePreference

/-- What a run leaves behind, a flow only as the one that may be running. -/
structure Residue where
  protocols : Bool := false
  inst : Option String := none
  session : Option Nat := none
  flow : Option String := none
deriving DecidableEq

namespace Device

variable {d d' : Device} {x : Residue}

/-- Whether exactly this is left in the testbed; of the flow it is not said that it is running. -/
structure Left (x : Residue) (d : Device) : Prop where
  protocols : d.generator.protocolsRunning = x.protocols
  instances : ∀ n, d.instances.contains n = true ↔ x.inst = some n
  sessions : ∀ c, d.sessions.contains c = true ↔ x.session = some c
  flows : ∀ n f, d.generator.flows.get? n = some f → f.transmission.isSome = true →
    x.flow = some n ∧ f.spec.name = n

/-- Nothing is left in a testbed that nobody uses. -/
theorem left_empty_iff : d.Left {} ↔ d.Vacant := by
  constructor
  · intro h
    refine ⟨h.protocols, fun n => ?_, fun c => ?_, fun n f hf => ?_⟩
    · simpa using h.instances n
    · simpa using h.sessions c
    · have hn := h.flows n f hf
      simpa using hn
  · intro h
    refine ⟨h.protocols, fun n => ?_, fun c => ?_, fun n f hf ht => ?_⟩
    · simp [h.instances n]
    · simp [h.sessions c]
    · rw [h.flows n f hf] at ht
      cases ht

namespace Left

theorem of_sameUse (h : d.Left x) (hd : SameUse d d') : d'.Left x where
  protocols := hd.protocols.trans h.protocols
  instances n := by rw [hd.instances, h.instances]
  sessions c := by rw [hd.sessions, h.sessions]
  flows n f hf := h.flows n f (by rw [← hd.flows, hf])

/-- Requests that keep the use leave behind what was there. -/
theorem serve (h : d.Left x) (ticket : Nat) {r : Request} (hr : r.changesUse = false) :
    (d.serve ticket r).1.Left x := by
  cases r with
  | modify client ops =>
    show (d.submit ticket client ops).1.Left x
    obtain ⟨d₁, hd₁, hs | ⟨o, -, -, hs⟩⟩ := submit_sameUse ticket d client ops
    · rw [hs]
      exact h.of_sameUse hd₁
    · have h₁ := h.of_sameUse hd₁
      rw [hs]
      exact ⟨h₁.protocols, h₁.instances, h₁.sessions, h₁.flows⟩
  | _ => exact h.of_sameUse (serve_sameUse ticket hr (fun _ _ h => nomatch h) d)

theorem process (h : d.Left x) : d.process.1.Left x where
  protocols := h.protocols
  instances n := by
    rw [← h.instances]
    exact Bool.eq_iff_iff.1 (Table.contains_mapValues d.instances _ n)
  sessions := h.sessions
  flows := h.flows

/-- Nothing more than before is said about the flow. -/
theorem withFlow (h : d.Left x) (hx : x.flow = none) (flow : Option String) :
    d.Left { x with flow } where
  protocols := h.protocols
  instances := h.instances
  sessions := h.sessions
  flows n f hf ht := by
    have hn := (h.flows n f hf ht).1
    rw [hx] at hn
    cases hn

/-- Replacing a flow by one that may be running. -/
theorem setFlow (h : d.Left x) {f : Flow}
    (hf : f.transmission.isSome = true → x.flow = some f.spec.name) : (d.setFlow f).Left x where
  protocols := h.protocols
  instances := h.instances
  sessions := h.sessions
  flows n g hn hg := by
    unfold Device.setFlow at hn
    rw [Table.get?_insert] at hn
    split at hn
    · next hname =>
      cases hn
      exact ⟨hname ▸ hf hg, hname⟩
    · exact h.flows n g hn hg

/-- A flow that sends may end, but none begins. -/
theorem tick (h : d.Left x) (flow : String) : (d.transmit flow).Left x := by
  unfold transmit
  split
  · exact h
  · next f hf =>
    split
    · next hrun =>
      obtain ⟨hx, hname⟩ := h.flows flow f hf hrun
      exact h.setFlow fun _ => hname ▸ hx
    · exact h

/-! #### Acquisitions and releases -/

theorem setProtocols (h : d.Left x) (running : Bool) :
    (d.setProtocols running).Left { x with protocols := running } where
  protocols := rfl
  instances := h.instances
  sessions := h.sessions
  flows := h.flows

/-- Without a network instance there is no other default one, so a new one is never refused. -/
theorem replaceInstance (h : d.Left x) (hx : x.inst = none) (cfg : InstanceConfig) :
    ∃ d', d.replaceInstance cfg = .ok d' ∧ d'.Left { x with inst := some cfg.name } := by
  have hnone : ∀ n, d.instances.get? n = none := by
    intro n
    rw [← Table.contains_eq_false_iff]
    simpa [hx] using h.instances n
  have hempty : d.instances = ∅ := Table.eq_empty_iff.2 hnone
  have hother : d.otherDefault? cfg.name = none := by
    unfold otherDefault? defaultInstance?
    rw [hempty]
    rfl
  refine ⟨d.setInstance cfg.name { type := cfg.type }, ?_, h.protocols, fun n => ?_, h.sessions,
    h.flows⟩
  · unfold Device.replaceInstance
    rw [hother, ite_self, hnone]
    rfl
  · rw [setInstance, hempty, Table.contains_insert]
    simp

theorem deleteInstance (h : d.Left x) {name : String} (hx : x.inst = some name) :
    ∃ d', d.deleteInstance name = .ok d' ∧ d'.Left { x with inst := none } := by
  have hname : d.instances.contains name = true := (h.instances name).2 hx
  refine ⟨(d.dropInstance name).forgetAft name, ?_, h.protocols, fun n => ?_, h.sessions, h.flows⟩
  · unfold Device.deleteInstance
    rw [if_pos hname]
    rfl
  rw [instances_forgetAft, dropInstance, Table.contains_erase]
  by_cases hn : name = n
  · simp [hn]
  · have hno : d.instances.contains n = false := by
      have := h.instances n
      simpa [hx, hn] using this
    simp [hno]

theorem openSession (h : d.Left x) (hx : x.session = none) (params : SessionParams) :
    (d.openSession params).1.Left { x with session := some (d.openSession params).2 } where
  protocols := h.protocols
  instances := h.instances
  sessions c := by
    have hc : d.sessions.contains c = false := by simpa [hx] using h.sessions c
    simp [Device.openSession, Table.contains_insert, hc]
  flows := h.flows

theorem close (h : d.Left x) {client : Nat} (hx : x.session = some client) :
    ∃ d', d.close client = .ok d' ∧ d'.Left { x with session := none } := by
  obtain ⟨params, hparams⟩ := Table.contains_iff.1 ((h.sessions client).2 hx)
  obtain ⟨d', hok⟩ : ∃ d', d.close client = .ok d' := by
    unfold Device.close
    simp only [hparams]
    split
    · exact ⟨_, rfl⟩
    · exact ⟨_, rfl⟩
  have herased : ({ d with sessions := d.sessions.erase client } : Device).Left
      { x with session := none } := by
    refine ⟨h.protocols, h.instances, fun c => ?_, h.flows⟩
    have hc := h.sessions c
    rw [hx] at hc
    rw [Table.contains_erase]
    by_cases hcc : client = c
    · simp [hcc]
    · simpa [hcc] using hc
  exact ⟨d', hok, herased.of_sameUse (close_ok hok)⟩

theorem startFlow (h : d.Left x) (hx : x.flow = none) {spec : FlowSpec}
    (hok : d.startFlow spec = .ok d') : d'.Left { x with flow := some spec.name } := by
  unfold Device.startFlow at hok
  split at hok
  · cases hok
  split at hok <;> cases hok
  have hd := h.withFlow hx (some spec.name)
  have hstarted : ({ d with generator :=
      { d.generator with started := d.generator.started + 1 } } : Device).Left
      { x with flow := some spec.name } := ⟨hd.protocols, hd.instances, hd.sessions, hd.flows⟩
  have hname : ∀ f : Flow, f.spec = spec → f.transmission.isSome = true →
      some spec.name = some f.spec.name := fun f hf _ => by rw [hf]
  exact hstarted.setFlow (hname _ rfl)

/-- After a request to stop it no flow is running, even if there was none to be stopped. -/
theorem stopFlow (h : d.Left x) {name : String} (hx : x.flow = some name) :
    (d.settled (d.stopFlow name)).1.Left { x with flow := none } := by
  -- only the named flow can be running
  have honly : ∀ n f, d.generator.flows.get? n = some f → n ≠ name → f.transmission = none := by
    intro n f hf hn
    rw [← Option.not_isSome_iff_eq_none]
    intro hrun
    have := (h.flows n f hf hrun).1
    rw [hx] at this
    exact hn (Option.some.inj this).symm
  unfold Device.stopFlow
  cases hf : d.generator.flows.get? name with
  | none =>
    refine ⟨h.protocols, h.instances, h.sessions, fun n g hg hrun => ?_⟩
    change d.generator.flows.get? n = some g at hg
    by_cases hn : n = name
    · rw [hn, hf] at hg
      cases hg
    · rw [honly n g hg hn] at hrun
      cases hrun
  | some f =>
    refine ⟨h.protocols, h.instances, h.sessions, fun n g hg hrun => ?_⟩
    change (d.generator.flows.insert f.spec.name { f with transmission := none }).get? n = some g
      at hg
    rw [Table.get?_insert] at hg
    split at hg
    · cases hg
      cases hrun
    · next hother =>
      by_cases hn : n = name
      · -- a running flow stands under its own name, so the stopped one has taken its place
        have hname := (h.flows n g hg hrun).2
        rw [hn, hf] at hg
        cases hg
        exact absurd hname hother
      · rw [honly n g hg hn] at hrun
        cases hrun

end Left

end Device

/-! ### Strays -/

namespace Residue

variable {x y : Residue}

/-- Two residues together. -/
def join (x y : Residue) : Residue where
  protocols := x.protocols || y.protocols
  inst := x.inst.or y.inst
  session := x.session.or y.session
  flow := x.flow.or y.flow

/-- Whether two residues have nothing of one kind in common, and no flow is left by the second. -/
structure Apart (x y : Residue) : Prop where
  protocols : x.protocols = true → y.protocols = false
  inst : x.inst ≠ none → y.inst = none
  session : x.session ≠ none → y.session = none
  flow : y.flow = none

@[simp] theorem join_empty (x : Residue) : x.join {} = x := by
  simp [join]

@[simp] theorem empty_join (y : Residue) : join {} y = y := by
  simp [join]

theorem apart_empty (x : Residue) : x.Apart {} := ⟨fun _ => rfl, fun _ => rfl, fun _ => rfl, rfl⟩

end Residue

namespace Device

variable {d d' : Device} {x : Residue} {stray : Bool}

/-- Whether this is left in the testbed and, if told so, something else besides. -/
def LeftWith (stray : Bool) (x : Residue) (d : Device) : Prop :=
  ∃ y, x.Apart y ∧ (y = {} ↔ stray = false) ∧ d.Left (x.join y)

theorem leftWith_false (h : d.Left x) : d.LeftWith false x :=
  ⟨{}, x.apart_empty, by simp, by rwa [Residue.join_empty]⟩

/-- A residue is determined by what is left, the flow apart. -/
theorem Left.residue_eq {y : Residue} (hx : d.Left x) (hy : d.Left y) (hf : x.flow = y.flow) :
    x = y := by
  have hp : x.protocols = y.protocols := hx.protocols.symm.trans hy.protocols
  have hi : x.inst = y.inst := Option.ext fun n => (hx.instances n).symm.trans (hy.instances n)
  have hs : x.session = y.session :=
    Option.ext fun c => (hx.sessions c).symm.trans (hy.sessions c)
  cases x
  cases y
  simp only at hp hi hs hf
  rw [hp, hi, hs, hf]

/-- Once all that a run knows of is released, the testbed is free unless there is a stray. -/
theorem vacant_iff_of_leftWith (h : d.LeftWith stray {}) : d.Vacant ↔ stray = false := by
  obtain ⟨y, ha, hy, hd⟩ := h
  rw [Residue.empty_join] at hd
  rw [← hy, ← left_empty_iff]
  constructor
  · intro hv
    exact hd.residue_eq hv ha.flow
  · rintro rfl
    exact hd

namespace LeftWith

/-- Something that the run doesn't know of is a stray. -/
theorem of_left_join {y : Residue} (h : d.Left (x.join y)) (ha : x.Apart y) (hy : y ≠ {}) :
    d.LeftWith true x := ⟨y, ha, by simp [hy], h⟩

theorem serve (h : d.LeftWith stray x) (ticket : Nat) {r : Request} (hr : r.changesUse = false) :
    (d.serve ticket r).1.LeftWith stray x := by
  obtain ⟨y, ha, hy, hd⟩ := h
  exact ⟨y, ha, hy, hd.serve ticket hr⟩

theorem process (h : d.LeftWith stray x) : d.process.1.LeftWith stray x := by
  obtain ⟨y, ha, hy, hd⟩ := h
  exact ⟨y, ha, hy, hd.process⟩

theorem tick (h : d.LeftWith stray x) (flow : String) : (d.transmit flow).LeftWith stray x := by
  obtain ⟨y, ha, hy, hd⟩ := h
  exact ⟨y, ha, hy, hd.tick flow⟩

/-! #### Strays that come up -/

theorem of_protocols (h : d.Left { x with protocols := true }) (hx : x.protocols = false) :
    d.LeftWith true x := by
  have hj : x.join { protocols := true } = { x with protocols := true } := by
    simp [Residue.join]
  refine of_left_join (y := { protocols := true }) (by rw [hj]; exact h) ?_ (by decide)
  exact ⟨fun hx' => absurd hx' (by simp [hx]), fun _ => rfl, fun _ => rfl, rfl⟩

theorem of_instance {name : String} (h : d.Left { x with inst := some name })
    (hx : x.inst = none) : d.LeftWith true x := by
  have hj : x.join { inst := some name } = { x with inst := some name } := by
    simp [Residue.join, hx]
  refine of_left_join (y := { inst := some name }) (by rw [hj]; exact h) ?_ (by simp)
  exact ⟨fun _ => rfl, fun hx' => absurd hx hx', fun _ => rfl, rfl⟩

theorem of_session {client : Nat} (h : d.Left { x with session := some client })
    (hx : x.session = none) : d.LeftWith true x := by
  have hj : x.join { session := some client } = { x with session := some client } := by
    simp [Residue.join, hx]
  refine of_left_join (y := { session := some client }) (by rw [hj]; exact h) ?_ (by simp)
  exact ⟨fun _ => rfl, fun _ => rfl, fun hx' => absurd hx hx', rfl⟩

/-! #### Releases beside a stray -/

theorem stopProtocols (h : d.LeftWith stray x) (hx : x.protocols = true) :
    (d.setProtocols false).LeftWith stray { x with protocols := false } := by
  obtain ⟨y, ha, hy, hd⟩ := h
  refine ⟨y, ⟨fun _ => ha.protocols hx, ha.inst, ha.session, ha.flow⟩, hy, ?_⟩
  have hj : Residue.join { x with protocols := false } y =
      { x.join y with protocols := false } := by
    simp [Residue.join, ha.protocols hx]
  rw [hj]
  exact hd.setProtocols false

theorem deleteInstance (h : d.LeftWith stray x) {name : String} (hx : x.inst = some name) :
    (d.settled (d.deleteInstance name)).1.LeftWith stray { x with inst := none } := by
  obtain ⟨y, ha, hy, hd⟩ := h
  have hy' : y.inst = none := ha.inst (by simp [hx])
  have hname : (x.join y).inst = some name := by simp [Residue.join, hx]
  obtain ⟨d', hok, hd'⟩ := hd.deleteInstance hname
  rw [hok]
  refine ⟨y, ⟨ha.protocols, fun _ => hy', ha.session, ha.flow⟩, hy, ?_⟩
  have hj : Residue.join { x with inst := none } y = { x.join y with inst := none } := by
    simp [Residue.join, hy']
  rw [hj]
  exact hd'

theorem close (h : d.LeftWith stray x) {client : Nat} (hx : x.session = some client) :
    (d.settled (d.close client)).1.LeftWith stray { x with session := none } := by
  obtain ⟨y, ha, hy, hd⟩ := h
  have hy' : y.session = none := ha.session (by simp [hx])
  have hclient : (x.join y).session = some client := by simp [Residue.join, hx]
  obtain ⟨d', hok, hd'⟩ := hd.close hclient
  rw [hok]
  refine ⟨y, ⟨ha.protocols, ha.inst, fun _ => hy', ha.flow⟩, hy, ?_⟩
  have hj : Residue.join { x with session := none } y = { x.join y with session := none } := by
    simp [Residue.join, hy']
  rw [hj]
  exact hd'

theorem stopFlow (h : d.LeftWith stray x) {name : String} (hx : x.flow = some name) :
    (d.settled (d.stopFlow name)).1.LeftWith stray { x with flow := none } := by
  obtain ⟨y, ha, hy, hd⟩ := h
  refine ⟨y, ⟨ha.protocols, ha.inst, ha.session, ha.flow⟩, hy, ?_⟩
  have hj : Residue.join { x with flow := none } y = { x.join y with flow := none } := by
    simp [Residue.join, ha.flow]
  rw [hj]
  exact hd.stopFlow (by simp [Residue.join, hx])

end LeftWith

end Device

end RoutePreference
