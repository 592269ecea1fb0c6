import RoutePreference.Proofs.Device.Sessions

/-!
# Flows in the course of a history

* `Device.flow?`, `Device.underWay?`: a flow, and the number of its transmission, if one is under
  way;
* `generator_serve`: five kinds of requests change the test equipment, and all others leave it as
  it is;
* `Device.Starts`: a flow is started at an event, which sets its counters to zero;
* `Packet`, `Device.packets`, `Device.sentIn`: what a flow sends at a tick, and in the course of a
  history, which its counters count (`counters_advance`);
* `Device.FlowStep`, `flow_step`: an event leaves a flow as it is, starts it, stops it, or lets it
  send its next packets;
* `Reachable.named`, `Reachable.number_lt`, `Reachable.number_inj`: in every reachable device, flows
  are found under their names, and transmissions have numbers of their own that were used up;
* `Reachable.forall_flow`, `Reachable.unfinished`: what is true of every flow, as that those under
  way have packets left.
-/

namespace RoutePreference

/-- A packet of a flow: its number, the address that it is sent to, if there is one, and the
interface of the test equipment at which it arrives, if it does. -/
structure Packet where
  seq : Nat
  dst : Option Addr
  arrival : Option String
deriving DecidableEq

namespace FlowSpec

/-- The packet of a flow with the given number, where packets are forwarded as given. -/
def packet (spec : FlowSpec) (forward : Addr → Option String) (seq : Nat) : Packet :=
  { seq, dst := spec.range.nth? seq, arrival := (spec.range.nth? seq).bind forward }

/-- Whether a packet arrives at one of the receivers. -/
def receives (spec : FlowSpec) (p : Packet) : Bool := p.arrival.any (· ∈ spec.receivers)

/-- Whether there is an address for a number, and packets are forwarded from it to one of the
receivers. -/
def Reaches (spec : FlowSpec) (forward : Addr → Option String) (seq : Nat) : Prop :=
  ∃ a n, spec.range.nth? seq = some a ∧ forward a = some n ∧ n ∈ spec.receivers

theorem receives_packet (spec : FlowSpec) (forward : Addr → Option String) (seq : Nat) :
    spec.receives (spec.packet forward seq) = true ↔ spec.Reaches forward seq := by
  unfold receives packet Reaches
  cases ha : spec.range.nth? seq with
  | none => simp
  | some a => cases hf : forward a <;> simp [hf]

instance (spec : FlowSpec) (forward : Addr → Option String) (seq : Nat) :
    Decidable (spec.Reaches forward seq) :=
  decidable_of_iff _ (spec.receives_packet forward seq)

/-- Only the way from its own address matters for a packet. -/
theorem packet_congr {spec : FlowSpec} {forward forward' : Addr → Option String} {seq : Nat}
    (h : ∀ a, spec.range.nth? seq = some a → forward a = forward' a) :
    spec.packet forward seq = spec.packet forward' seq := by
  unfold packet
  cases ha : spec.range.nth? seq with
  | none => rfl
  | some a => simp [h a ha]

end FlowSpec

namespace Device

variable {settings : Settings} {d d' : Device} {name : String} {spec : FlowSpec} {f : Flow}

/-- The flow of a name. -/
def flow? (d : Device) (name : String) : Option Flow := d.generator.flows.get? name

/-- The number of the transmission that a flow has under way. -/
def underWay? (d : Device) (name : String) : Option Nat := (d.flow? name).bind (·.transmission)

/-! ### What changes the test equipment -/

section Generator

variable {g : Generator}

theorem generator_changeRib (inst : String) (f : Rib → Rib × Bool) (h : d.generator = g) :
    (d.changeRib inst f).generator = g := by
  unfold changeRib
  split
  · exact h
  · exact h

theorem generator_performAll (primary : Bool) (ops : List Operation) (h : d.generator = g) :
    (d.performAll primary ops).1.generator = g :=
  performAll_edits (P := fun d => d.generator = g) (fun _ _ _ h => h)
    (fun _ inst f h => generator_changeRib inst f h) primary ops h

theorem generator_flushInstance (inst : String) (h : d.generator = g) :
    (d.flushInstance inst).generator = g :=
  flushInstance_edits (P := fun d => d.generator = g) (fun _ _ h => h)
    (fun _ inst f h => generator_changeRib inst f h) inst h

theorem generator_settled {r : Except Refusal Device} (hr : ∀ d', r = .ok d' → d'.generator = g)
    (h : d.generator = g) : (d.settled r).1.generator = g :=
  settled_of_ok (P := fun d => d.generator = g) hr h

end Generator

end Device

/-- Whether a request is one to the test equipment, that may change it. -/
def Request.changesGenerator : Request → Bool
  | .configureAte _ | .setProtocols _ | .startFlow _ | .stopFlow _ | .tick _ => true
  | _ => false

namespace Device

variable {settings : Settings} {d d' : Device} {name : String} {spec : FlowSpec} {f : Flow}

/-- All other requests leave the test equipment as it is. -/
theorem generator_serve (ticket : Nat) {r : Request} (h : r.changesGenerator = false)
    (d : Device) : (d.serve ticket r).1.generator = d.generator := by
  cases r with
  | configureDut cfg =>
    refine generator_settled (fun d' hok => ?_) rfl
    rcases configureDut_ok hok with rfl | rfl <;> rfl
  | replaceInstance cfg =>
    refine generator_settled (fun d' hok => ?_) rfl
    obtain ⟨-, i, rfl, -⟩ := replaceInstance_ok hok
    rfl
  | deleteInstance name =>
    refine generator_settled (fun d' hok => ?_) rfl
    obtain rfl := deleteInstance_ok hok
    rfl
  | replaceStatic cfg =>
    refine generator_settled (fun d' hok => ?_) rfl
    obtain ⟨i, -, ⟨-, rfl⟩ | rfl⟩ := replaceStatic_ok hok
    · rfl
    · exact generator_changeRib _ _ rfl
  | deleteStatic inst dest =>
    refine generator_settled (fun d' hok => ?_) rfl
    obtain ⟨i, -, ⟨-, rfl⟩ | rfl⟩ := deleteStatic_ok hok
    · rfl
    · exact generator_changeRib _ _ rfl
  | openSession params => rfl
  | modify client ops =>
    have hops := generator_performAll (d.isPrimary client) ops (Eq.refl d.generator)
    show (d.submit ticket client ops).1.generator = _
    unfold submit
    split
    · rfl
    · dsimp only
      split
      · exact hops
      · exact hops
  | flush client inst =>
    refine generator_settled (fun d' hok => ?_) rfl
    obtain ⟨-, -, rfl⟩ := flush_ok hok
    exact generator_flushInstance inst rfl
  | close client =>
    refine generator_settled (fun d' hok => ?_) rfl
    rcases close_cases hok with rfl | rfl
    · rfl
    · exact foldl_edits (P := fun d' => d'.generator = d.generator)
        (fun _ inst h => generator_flushInstance inst h) _ rfl
  | read path => rfl
  | counters name => rfl
  | _ => cases h

/-! ### Starting and stopping -/

/-- A flow whose transmission with the given number begins. -/
def begun (spec : FlowSpec) (number : Nat) : Flow :=
  { spec, counters := .zero, transmission := some number }

theorem startFlow_ok (h : d.startFlow spec = .ok d') :
    d.underWay? spec.name = none ∧
      d' = ({ d with generator := { d.generator with started := d.generator.started + 1 } }).setFlow
        (begun spec d.generator.started) := by
  unfold startFlow at h
  split at h
  · cases h
  · split at h
    · cases h
    · next hidle =>
      cases h
      exact ⟨by simpa [underWay?, flow?] using hidle, rfl⟩

theorem stopFlow_ok (h : d.stopFlow name = .ok d') :
    ∃ f, d.flow? name = some f ∧ d' = d.setFlow { f with transmission := none } := by
  unfold stopFlow at h
  split at h
  · cases h
  · next f hf =>
    cases h
    exact ⟨f, hf, rfl⟩

theorem flow?_setFlow (d : Device) (f : Flow) (name : String) :
    (d.setFlow f).flow? name = if f.spec.name = name then some f else d.flow? name :=
  Table.get?_insert ..

/-- Whether a flow of the name is started at an event. -/
def Starts (d : Device) (name : String) (e : Event) : Prop :=
  ∃ ticket spec d', e = .serve ticket (.startFlow spec) ∧ spec.name = name ∧
    d.startFlow spec = .ok d'

/-! ### What is sent -/

/-- The packets that a flow sends at a tick. -/
def packets (d : Device) (f : Flow) : List Packet :=
  (List.range' f.counters.tx (d.batch f)).map (f.spec.packet (d.forward? f.spec.source))

/-- What a flow of the name sends at an event. -/
def sentAt (d : Device) (name : String) : Event → List Packet
  | .serve _ (.tick flow) =>
    match d.flow? name with
    | some f => if flow = name ∧ f.transmission.isSome then d.packets f else []
    | none => []
  | _ => []

/-- What the flows of the name send in the course of a history. -/
def sentIn (d : Device) (name : String) : List Event → List Packet
  | [] => []
  | e :: h => d.sentAt name e ++ (d.step e).sentIn name h

@[simp] theorem length_packets (d : Device) (f : Flow) : (d.packets f).length = d.batch f := by
  rw [packets, List.length_map, List.length_range']

theorem delivers_eq (d : Device) (spec : FlowSpec) (seq : Nat) :
    d.delivers spec seq = spec.receives (spec.packet (d.forward? spec.source) seq) := by
  unfold delivers FlowSpec.receives FlowSpec.packet
  cases (spec.range.nth? seq).bind (d.forward? spec.source) <;> simp

/-- **The counters count the packets**: those that are sent, and those of them that are received. -/
theorem counters_advance (d : Device) (f : Flow) :
    (d.advance f).counters =
      { tx := f.counters.tx + (d.packets f).length
        rx := f.counters.rx + (d.packets f).countP f.spec.receives } := by
  have harrived : (d.packets f).countP f.spec.receives =
      (List.range (d.batch f)).countP fun i => d.delivers f.spec (f.counters.tx + i) := by
    rw [packets, List.range'_eq_map_range, List.map_map, List.countP_map]
    refine List.countP_congr fun i _ => ?_
    simp [delivers_eq]
  rw [length_packets, harrived]
  rfl

/-- A flow never sends more than is left of its packets. -/
theorem batch_le (d : Device) (f : Flow) : d.batch f ≤ f.spec.packetCount - f.counters.tx :=
  Nat.min_le_right _ _

/-- As long as packets are left, a flow sends some of them. -/
theorem batch_pos (d : Device) {f : Flow} (h : f.counters.tx < f.spec.packetCount) :
    0 < d.batch f :=
  Nat.lt_min.2 ⟨Nat.lt_of_lt_of_le Nat.one_pos (Nat.le_max_right _ 1), Nat.sub_pos_of_lt h⟩

/-- A tick does not begin a transmission. -/
theorem transmission_advance {k : Nat} (h : (d.advance f).transmission = some k) :
    f.transmission = some k := by
  unfold advance at h
  dsimp only at h
  split at h
  · cases h
  · exact h

/-! ### One event -/

/-- What an event makes of the flow of a name. -/
inductive FlowStep (d : Device) (name : String) (e : Event) : Option Flow → Prop where
  /-- It stays as it is, and sends nothing. -/
  | kept (starts : ¬ d.Starts name e) (sent : d.sentAt name e = []) :
    FlowStep d name e (d.flow? name)
  /-- It is started. -/
  | started {ticket : Nat} {spec : FlowSpec} (event : e = .serve ticket (.startFlow spec))
    (of_name : spec.name = name) (starts : d.Starts name e) (idle : d.underWay? name = none) :
    FlowStep d name e (some (begun spec d.generator.started))
  /-- It is stopped. -/
  | stopped {ticket : Nat} {f : Flow} (event : e = .serve ticket (.stopFlow name))
    (found : d.flow? name = some f) (sent : d.sentAt name e = []) :
    FlowStep d name e (some { f with transmission := none })
  /-- It sends its next packets. -/
  | sends {ticket : Nat} {f : Flow} (event : e = .serve ticket (.tick name))
    (found : d.flow? name = some f) (running : f.transmission.isSome = true)
    (sent : d.sentAt name e = d.packets f) : FlowStep d name e (some (d.advance f))

/-- Whether every flow has the name that it is found under. -/
def Named (d : Device) : Prop := ∀ name f, d.flow? name = some f → f.spec.name = name

/-- An event that leaves the flows alone. -/
theorem FlowStep.of_generator {e : Event} {d' : Device}
    (hflows : d'.generator.flows = d.generator.flows) (hstarts : ¬ d.Starts name e)
    (hsent : d.sentAt name e = []) : d.FlowStep name e (d'.flow? name) := by
  have hkept : d'.flow? name = d.flow? name := congrArg (·.get? name) hflows
  rw [hkept]
  exact .kept hstarts hsent

theorem flowStep_startFlow (ticket : Nat) (spec : FlowSpec) (name : String) :
    d.FlowStep name (.serve ticket (.startFlow spec))
      ((d.step (.serve ticket (.startFlow spec))).flow? name) := by
  show d.FlowStep name _ ((d.settled (d.startFlow spec)).1.flow? name)
  cases hok : d.startFlow spec with
  | error e =>
    refine .kept ?_ rfl
    rintro ⟨t, s, d', he, -, hs⟩
    cases he
    rw [hok] at hs
    cases hs
  | ok d' =>
    have hok' := hok
    obtain ⟨hidle, rfl⟩ := startFlow_ok hok'
    show d.FlowStep name _ ((setFlow _ _).flow? name)
    rw [flow?_setFlow]
    by_cases hname : (begun spec d.generator.started).spec.name = name
    · rw [if_pos hname]
      obtain rfl : spec.name = name := hname
      exact .started rfl rfl ⟨ticket, spec, _, rfl, rfl, hok⟩ hidle
    · rw [if_neg hname]
      refine .of_generator rfl ?_ rfl
      rintro ⟨t, s, d', he, hs, -⟩
      cases he
      exact hname hs

theorem flowStep_stopFlow (hn : d.Named) (ticket : Nat) (flow name : String) :
    d.FlowStep name (.serve ticket (.stopFlow flow))
      ((d.step (.serve ticket (.stopFlow flow))).flow? name) := by
  have hstarts : ¬ d.Starts name (.serve ticket (.stopFlow flow)) := by
    rintro ⟨t, s, d', he, -⟩
    cases he
  show d.FlowStep name _ ((d.settled (d.stopFlow flow)).1.flow? name)
  cases hok : d.stopFlow flow with
  | error e => exact .kept hstarts rfl
  | ok d' =>
    obtain ⟨f, hf, rfl⟩ := stopFlow_ok hok
    show d.FlowStep name _ ((setFlow _ _).flow? name)
    have hflow : f.spec.name = flow := hn flow f hf
    rw [flow?_setFlow]
    by_cases hname : f.spec.name = name
    · rw [if_pos hname]
      obtain rfl : flow = name := hflow.symm.trans hname
      exact .stopped rfl hf rfl
    · rw [if_neg hname]
      exact .kept hstarts rfl

theorem flowStep_tick (hn : d.Named) (ticket : Nat) (flow name : String) :
    d.FlowStep name (.serve ticket (.tick flow))
      ((d.step (.serve ticket (.tick flow))).flow? name) := by
  have hstarts : ¬ d.Starts name (.serve ticket (.tick flow)) := by
    rintro ⟨t, s, d', he, -⟩
    cases he
  have hother : flow ≠ name → d.sentAt name (.serve ticket (.tick flow)) = [] := by
    intro hne
    cases hf : d.flow? name with
    | none => simp [sentAt, hf]
    | some f => simp [sentAt, hf, hne]
  show d.FlowStep name _ ((d.transmit flow).flow? name)
  unfold transmit
  split
  · next hf =>
    refine .kept hstarts ?_
    by_cases hname : flow = name
    · have hnone : d.flow? name = none := hname ▸ hf
      simp only [sentAt, hnone]
    · exact hother hname
  · next f hf =>
    have hflow : f.spec.name = flow := hn flow f hf
    split
    · next hrun =>
      rw [flow?_setFlow]
      by_cases hname : flow = name
      · subst hname
        have hself : (d.advance f).spec.name = flow := hflow
        rw [if_pos hself]
        have hfound : d.flow? flow = some f := hf
        exact .sends rfl hf hrun (by simp [sentAt, hfound, hrun])
      · have hne : (d.advance f).spec.name ≠ name := fun h => hname (hflow.symm.trans h)
        rw [if_neg hne]
        exact .kept hstarts (hother hname)
    · next hrun =>
      refine .kept hstarts ?_
      by_cases hname : flow = name
      · have hfound : d.flow? name = some f := hname ▸ hf
        simp only [sentAt, hfound]
        rw [if_neg fun h => hrun h.2]
      · exact hother hname

/-- **One event**, and what it makes of the flow of a name. -/
theorem flow_step (hn : d.Named) (e : Event) (name : String) :
    d.FlowStep name e ((d.step e).flow? name) := by
  have hno : ∀ {e : Event}, (∀ ticket spec, e ≠ .serve ticket (.startFlow spec)) →
      ¬ d.Starts name e := by
    rintro e he ⟨t, s, d', rfl, -⟩
    exact he t s rfl
  cases e with
  | process => exact .of_generator rfl (hno (by simp)) rfl
  | serve ticket r =>
    cases r with
    | startFlow spec => exact flowStep_startFlow ticket spec name
    | stopFlow flow => exact flowStep_stopFlow hn ticket flow name
    | tick flow => exact flowStep_tick hn ticket flow name
    | setProtocols running => exact .of_generator rfl (hno (by simp)) rfl
    | configureAte cfg =>
      refine .of_generator ?_ (hno (by simp)) rfl
      refine settled_of_ok (P := fun d' => d'.generator.flows = d.generator.flows)
        (fun d' hok => ?_) rfl
      unfold configureAte at hok
      dsimp only at hok
      split at hok <;> cases hok
      rfl
    | _ => exact .of_generator (congrArg _ (generator_serve ticket rfl d)) (hno (by simp)) rfl

/-! ### Every reachable device -/

/-- What holds at the start and lasts over every event holds of every reachable device. -/
theorem Reachable.of_step {P : Device → Prop} (hstart : P (Device.start settings))
    (hstep : ∀ {d}, Reachable settings d → P d → ∀ e, P (d.step e)) (hd : Reachable settings d) :
    P d := by
  induction hd with
  | start => exact hstart
  | serve ticket r hd ih => exact hstep hd ih (.serve ticket r)
  | process hd ih => exact hstep hd ih .process

theorem Named.step (hn : d.Named) (e : Event) : (d.step e).Named := by
  intro name f hf
  have hstep := flow_step hn e name
  rw [hf] at hstep
  generalize hx : some f = x at hstep
  cases hstep with
  | kept => exact hn name f hx.symm
  | started _ hname =>
    cases hx
    exact hname
  | @stopped _ f' _ hfound =>
    cases hx
    exact hn name f' hfound
  | @sends _ f' _ hfound =>
    cases hx
    exact hn name f' hfound

theorem Reachable.named (hd : Reachable settings d) : d.Named := by
  refine hd.of_step ?_ fun _ hn e => hn.step e
  intro name f hf
  cases hf

/-- A tick lets a flow that is under way send its next packets. -/
theorem flow?_transmit (hn : d.Named) (hf : d.flow? name = some f)
    (hrun : f.transmission.isSome = true) : (d.transmit name).flow? name = some (d.advance f) := by
  have hfound : d.generator.flows.get? name = some f := hf
  have hself : (d.advance f).spec.name = name := hn name f hf
  simp only [transmit, hfound, hrun, if_true]
  rw [flow?_setFlow, if_pos hself]

/-! ### The numbers of transmissions -/

/-- A start uses up a number, and nothing else does. -/
theorem started_step (d : Device) (e : Event) :
    (d.step e).generator.started = d.generator.started ∨
      (d.step e).generator.started = d.generator.started + 1 := by
  have hsame : (d.step e).generator = d.generator →
      (d.step e).generator.started = d.generator.started := congrArg Generator.started
  cases e with
  | process => exact .inl rfl
  | serve ticket r =>
    cases r with
    | startFlow spec =>
      refine settled_of_ok (P := fun d' => d'.generator.started = d.generator.started ∨
        d'.generator.started = d.generator.started + 1) (fun d' hok => ?_) (.inl rfl)
      obtain ⟨-, rfl⟩ := startFlow_ok hok
      exact .inr rfl
    | stopFlow flow =>
      refine .inl (settled_of_ok (P := fun d' => d'.generator.started = d.generator.started)
        (fun d' hok => ?_) rfl)
      obtain ⟨f, -, rfl⟩ := stopFlow_ok hok
      rfl
    | tick flow =>
      left
      show (d.transmit flow).generator.started = _
      unfold transmit
      split
      · rfl
      · split <;> rfl
    | setProtocols running => exact .inl rfl
    | configureAte cfg =>
      refine .inl (settled_of_ok (P := fun d' => d'.generator.started = d.generator.started)
        (fun d' hok => ?_) rfl)
      unfold configureAte at hok
      dsimp only at hok
      split at hok <;> cases hok
      rfl
    | _ => exact .inl (hsame (generator_serve ticket rfl d))

theorem Starts.started {e : Event} (hs : d.Starts name e) :
    (d.step e).generator.started = d.generator.started + 1 := by
  obtain ⟨ticket, spec, d', rfl, -, hok⟩ := hs
  show (d.settled (d.startFlow spec)).1.generator.started = _
  rw [hok]
  obtain ⟨-, rfl⟩ := startFlow_ok hok
  rfl

theorem Starts.flow?_eq {ticket : Nat} {spec : FlowSpec}
    (hs : d.Starts spec.name (.serve ticket (.startFlow spec))) :
    (d.step (.serve ticket (.startFlow spec))).flow? spec.name =
      some (begun spec d.generator.started) := by
  obtain ⟨_, _, d', he, -, hok⟩ := hs
  cases he
  show (d.settled (d.startFlow spec)).1.flow? spec.name = _
  rw [hok]
  obtain ⟨-, rfl⟩ := startFlow_ok hok
  have hself : (begun spec d.generator.started).spec.name = spec.name := rfl
  show (setFlow _ _).flow? spec.name = _
  rw [flow?_setFlow, if_pos hself]

/-- A flow that is started gets the next number. -/
theorem Starts.underWay {e : Event} (hs : d.Starts name e) :
    (d.step e).underWay? name = some d.generator.started := by
  have hs' := hs
  obtain ⟨ticket, spec, d', rfl, rfl, -⟩ := hs'
  rw [underWay?, hs.flow?_eq]
  rfl

/-- A transmission that is under way was so before, or has begun with the next number. -/
theorem underWay_step (hn : d.Named) {e : Event} {k : Nat}
    (hk : (d.step e).underWay? name = some k) :
    d.underWay? name = some k ∨ (d.Starts name e ∧ k = d.generator.started) := by
  unfold underWay? at hk
  have hstep := flow_step hn e name
  generalize (d.step e).flow? name = x at hstep hk
  cases hstep with
  | kept => exact .inl hk
  | started _ _ hs =>
    cases hk
    exact .inr ⟨hs, rfl⟩
  | stopped => cases hk
  | @sends _ f _ hfound =>
    refine .inl ?_
    rw [underWay?, hfound]
    exact transmission_advance hk

/-- The numbers under way have been used up. -/
theorem Reachable.number_lt (hd : Reachable settings d) :
    ∀ name k, d.underWay? name = some k → k < d.generator.started := by
  refine hd.of_step (P := fun d => ∀ name k, d.underWay? name = some k → k < d.generator.started)
    (fun name k hk => by cases hk) fun {d} hd ih e name k hk => ?_
  rcases underWay_step hd.named hk with hk | ⟨hs, rfl⟩
  · have hlt := ih name k hk
    rcases started_step d e with he | he
    · omega
    · omega
  · rw [hs.started]
    exact Nat.lt_succ_self _

/-- No two flows have transmissions with the same number under way. -/
theorem Reachable.number_inj (hd : Reachable settings d) :
    ∀ name name' k, d.underWay? name = some k → d.underWay? name' = some k → name = name' := by
  refine hd.of_step (P := fun d => ∀ name name' k, d.underWay? name = some k →
    d.underWay? name' = some k → name = name') (fun name name' k hk => by cases hk)
    fun {d} hd ih e name name' k hk hk' => ?_
  rcases underWay_step hd.named hk with hold | ⟨hs, hnew⟩
  · rcases underWay_step hd.named hk' with hold' | ⟨-, hnew'⟩
    · exact ih name name' k hold hold'
    · have hlt := hd.number_lt name k hold
      omega
  · rcases underWay_step hd.named hk' with hold' | ⟨hs', -⟩
    · have hlt := hd.number_lt name' k hold'
      omega
    · obtain ⟨_, _, _, rfl, rfl, -⟩ := hs
      obtain ⟨_, _, _, he, rfl, -⟩ := hs'
      cases he
      rfl

/-- **What is true of every flow**: what a start establishes, and what stopping and sending keep. -/
theorem Reachable.forall_flow {Q : Flow → Prop} (hd : Reachable settings d)
    (hbegun : ∀ spec n, Q (begun spec n)) (hstopped : ∀ f, Q f → Q { f with transmission := none })
    (hadvance : ∀ (d : Device) f, Q f → f.transmission.isSome = true → Q (d.advance f)) :
    ∀ name f, d.flow? name = some f → Q f := by
  refine hd.of_step (P := fun d => ∀ name f, d.flow? name = some f → Q f)
    (fun name f hf => by cases hf) fun {d} hd ih e name f hf => ?_
  have hstep := flow_step hd.named e name
  rw [hf] at hstep
  generalize hx : some f = x at hstep
  cases hstep with
  | kept => exact ih name f hx.symm
  | started =>
    cases hx
    exact hbegun _ _
  | stopped _ hfound =>
    cases hx
    exact hstopped _ (ih name _ hfound)
  | sends _ hfound hrunning =>
    cases hx
    exact hadvance d _ (ih name _ hfound) hrunning

/-- A flow that is under way has packets left, unless it has none at all. -/
theorem Reachable.unfinished (hd : Reachable settings d) :
    ∀ name f, d.flow? name = some f → f.transmission.isSome = true →
      f.spec.packetCount = 0 ∨ f.counters.tx < f.spec.packetCount := by
  refine hd.forall_flow (fun spec n _ => Nat.eq_zero_or_pos _) (fun f _ h => nomatch h) ?_
  intro d f _ _ hrunning
  by_cases hdone : f.spec.packetCount ≤ (d.advance f).counters.tx
  · have hended : (d.advance f).transmission = none := if_pos hdone
    rw [hended] at hrunning
    cases hrunning
  · exact .inr (Nat.lt_of_not_le hdone)

end Device

end RoutePreference
