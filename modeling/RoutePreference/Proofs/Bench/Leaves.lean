import RoutePreference.Proofs.Bench.Paced
import RoutePreference.Proofs.Device.Residue

/-!
# What calls leave behind

* `Request.isNotedLate`: the requests that acquire something of which a run knows only by the
  answer;
* `Paced.Leaves`: what will be left in the testbed, as long as no such request was given up;
* `Paced.LeavesWith`: the same with a stray besides, if one was;
* `Paced.answered`: a call as an exchange of its request;
* `Leaves.answer`, `LeavesWith.answer`: calls that neither acquire nor release anything;
* `Leaves.acquires`, `releases` and the lemmas on flows: those that do.
-/

namespace RoutePreference

/-- Whether a request acquires something that is noted only when the answer is there. -/
def Request.isNotedLate : Request → Bool
  | .setProtocols running => running
  | .replaceInstance _ | .openSession _ => true
  | _ => false

theorem Request.isNotedLate_of_not_changesUse {r : Request} (h : r.changesUse = false) :
    r.isNotedLate = false := by
  cases r with
  | setProtocols running => cases h
  | replaceInstance cfg => cases h
  | openSession params => cases h
  | _ => rfl

/-- The request that a call sends. -/
def Call.request : Call → Request
  | .configureDut cfg => .configureDut cfg
  | .configureAte cfg => .configureAte cfg
  | .startProtocols => .setProtocols true
  | .stopProtocols => .setProtocols false
  | .replaceInstance cfg => .replaceInstance cfg
  | .deleteInstance name => .deleteInstance name
  | .replaceStatic cfg => .replaceStatic cfg
  | .deleteStatic inst dest => .deleteStatic inst dest
  | .openSession params => .openSession params
  | .modify session ops => .modify session ops
  | .flush session inst => .flush session inst
  | .close session => .close session
  | .read path => .read path
  | .startFlow spec => .startFlow spec
  | .stopFlow flow => .stopFlow flow
  | .counters flow => .counters flow
  | .loss flow => .counters flow

namespace Device

theorem steady_left (x : Residue) : Steady (Left x) :=
  ⟨fun flow h => h.tick flow, fun h => h.process⟩

theorem steady_leftWith (stray : Bool) (x : Residue) : Steady (LeftWith stray x) :=
  ⟨fun flow h => h.tick flow, fun h => h.process⟩

theorem Steady.and_const {P : Device → Prop} (hP : Steady P) (p : Prop) :
    Steady fun d => p ∧ P d :=
  ⟨fun flow h => ⟨h.1, hP.tick flow h.2⟩, fun h => ⟨h.1, hP.process h.2⟩⟩

end Device

namespace Paced

/-- Whether the answer to a request that acquires something was never heard. -/
def hasStray (s : Paced) : Bool := s.unheard.any Request.isNotedLate

/-- Exactly this will be left in the testbed, and an open session is open at both ends. -/
structure Leaves (x : Residue) (s : Paced) : Prop where
  tends : s.testbed.Tends (Device.Left x)
  noStray : s.hasStray = false
  handle : ∀ c, x.session = some c → s.testbed.isClosed c = false

/-- This will be left in the testbed, and something else besides if there is a stray. -/
structure LeavesWith (x : Residue) (s : Paced) : Prop where
  tends : s.testbed.Tends (Device.LeftWith s.hasStray x)
  handle : ∀ c, x.session = some c → s.testbed.isClosed c = false

variable {s : Paced} {x : Residue}

theorem Leaves.leavesWith (h : s.Leaves x) : s.LeavesWith x where
  tends := by
    rw [h.noStray]
    exact h.tends.mono fun _ => Device.leftWith_false
  handle := h.handle

/-- Nothing more than before is said about the flow. -/
theorem Leaves.withFlow (h : s.Leaves x) (hx : x.flow = none) (flow : Option String) :
    s.Leaves { x with flow } where
  tends := h.tends.mono fun _ hd => hd.withFlow hx flow
  noStray := h.noStray
  handle := h.handle

theorem isClosed_exchange (s : Paced) (r : Request) (c : Nat) :
    (s.exchange r).2.testbed.isClosed c = s.testbed.isClosed c := by
  unfold Testbed.isClosed
  rw [handles_exchange]

/-! ### Calls that keep the use -/

/-- What every request keeps, an exchange keeps, heard or not. -/
theorem exchange_keeps {P : Device → Prop} {r : Request} (hP : Device.Steady P)
    (hr : ∀ d ticket, P d → P (d.serve ticket r).1) (h : s.testbed.Tends P) :
    (s.exchange r).2.testbed.Tends P := by
  have hx := exchange_spec (Q := fun _ => P) hP (fun _ => hP) hr h
  generalize (s.exchange r).1 = o at hx
  cases hx with
  | unsent _ tends => exact tends
  | unheard _ tends => exact tends.mono fun _ ⟨_, hd⟩ => hd
  | heard x _ tends => exact tends.mono fun _ hd => or_self_iff.1 hd

theorem hasStray_exchange (s : Paced) {r : Request} (hr : r.isNotedLate = false) :
    (s.exchange r).2.hasStray = s.hasStray := by
  unfold exchange
  dsimp only
  split
  · split
    · rfl
    · simp [hasStray, hr]
  · rfl

theorem hasStray_congr {s' : Paced} (h : s'.unheard = s.unheard) : s'.hasStray = s.hasStray := by
  unfold hasStray
  rw [h]

/-- What the device tends to after a request that is noted in time is what will be left. -/
theorem Leaves.exchanged (h : s.Leaves x) {r : Request} (hr : r.isNotedLate = false) {y : Residue}
    (hy : y.session = x.session) (ht : (s.exchange r).2.testbed.Tends (Device.Left y)) :
    (s.exchange r).2.Leaves y where
  tends := ht
  noStray := (hasStray_exchange s hr).trans h.noStray
  handle c hc := by
    rw [isClosed_exchange]
    exact h.handle c (hy ▸ hc)

theorem Leaves.exchange (h : s.Leaves x) {r : Request} (hr : r.changesUse = false) :
    (s.exchange r).2.Leaves x :=
  h.exchanged (Request.isNotedLate_of_not_changesUse hr) rfl
    (exchange_keeps (Device.steady_left x) (fun _ ticket hd => hd.serve ticket hr) h.tends)

theorem LeavesWith.exchange (h : s.LeavesWith x) {r : Request} (hr : r.changesUse = false) :
    (s.exchange r).2.LeavesWith x where
  tends := by
    rw [hasStray_exchange s (Request.isNotedLate_of_not_changesUse hr)]
    exact exchange_keeps (Device.steady_leftWith _ x) (fun _ ticket hd => hd.serve ticket hr)
      h.tends
  handle c hc := by
    rw [isClosed_exchange]
    exact h.handle c hc

theorem Leaves.pass (h : s.Leaves x) : s.pass.Leaves x where
  tends := h.tends.moves (Device.steady_left x) _
  noStray := h.noStray
  handle c hc := (Testbed.isClosed_moves ..).trans (h.handle c hc)

/-! ### Calls as exchanges -/

/-- The same with other ends of sessions. -/
def withHandles (s : Paced) (handles : Table Nat Handle) : Paced :=
  { s with testbed := { s.testbed with handles } }

/-- What a call makes of a testbed: nothing if its session is closed; otherwise what its request
makes of it, with a session noted before or afterwards if one is closed or opened. -/
inductive Answered (s : Paced) (c : Call) : Paced → Prop where
  | refused : Answered s c s
  | exchanged : Answered s c (s.exchange c.request).2
  | noted (hc : c.request.changesUse = true) (before after : Table Nat Handle) :
      Answered s c (((s.withHandles before).exchange c.request).2.withHandles after)

theorem answered (s : Paced) (c : Call) : Answered s c (s.answer c).2 := by
  cases c with
  | openSession params =>
    have hout : (s.request (.openSession params) Bench.sessionOf).2 =
        (s.exchange (.openSession params)).2 := rfl
    unfold answer
    dsimp only
    generalize s.request (.openSession params) Bench.sessionOf = out at hout ⊢
    obtain ⟨reply, s'⟩ := out
    change s' = _ at hout
    subst hout
    rcases reply with _ | _ | client
    · exact .exchanged
    · exact .exchanged
    · exact .noted rfl s.testbed.handles _
  | modify session ops =>
    unfold answer
    dsimp only
    split
    · exact .refused
    · exact .exchanged
  | flush session inst =>
    unfold answer
    dsimp only
    split
    · exact .refused
    · exact .exchanged
  | close session =>
    unfold answer
    dsimp only
    split
    · exact .refused
    · obtain ⟨handles, hmark⟩ := s.testbed.markClosed_eq session
      rw [hmark]
      exact .noted rfl handles _
  | _ => exact .exchanged

/-- Only calls that acquire something can become strays. -/
theorem hasStray_answer (s : Paced) {c : Call} (hc : c.request.isNotedLate = false) :
    (s.answer c).2.hasStray = s.hasStray := by
  have hans := s.answered c
  generalize (s.answer c).2 = s' at hans
  cases hans with
  | refused => rfl
  | exchanged => exact hasStray_exchange s hc
  | noted _ before after => exact hasStray_exchange (s.withHandles before) hc

/-- A call that neither acquires nor releases anything leaves what was left before. -/
theorem Leaves.answer (h : s.Leaves x) {c : Call} (hc : c.request.changesUse = false) :
    (s.answer c).2.Leaves x := by
  have hans := s.answered c
  generalize (s.answer c).2 = s' at hans
  cases hans with
  | refused => exact h
  | exchanged => exact h.exchange hc
  | noted hc' => simp [hc] at hc'

theorem LeavesWith.answer (h : s.LeavesWith x) {c : Call} (hc : c.request.changesUse = false) :
    (s.answer c).2.LeavesWith x := by
  have hans := s.answered c
  generalize (s.answer c).2 = s' at hans
  cases hans with
  | refused => exact h
  | exchanged => exact h.exchange hc
  | noted hc' => simp [hc] at hc'

/-! ### Acquisitions -/

/-- What became of a call that acquires something: it was given up, or it was granted. -/
inductive Granted {α : Type} (x : Residue) (G : α → Paced → Prop) :
    Option (Except CallError α) → Paced → Prop where
  | givenUp {s : Paced} (leaves : s.LeavesWith x) : Granted x G none s
  | granted {s : Paced} (v : α) (holds : G v s) : Granted x G (some (.ok v)) s

theorem Granted.imp {α : Type} {G G' : α → Paced → Prop} {reply : Option (Except CallError α)}
    (h : Granted x G reply s) (hG : ∀ v s, G v s → G' v s) : Granted x G' reply s := by
  cases h with
  | givenUp leaves => exact .givenUp leaves
  | granted v holds => exact .granted v (hG v s holds)

/-- Whether the answer says what was acquired, and this will be left. -/
def Acquired {α : Type} (read : Answer → Except CallError α) (y : α → Residue)
    (a : Option Answer) (d : Device) : Prop :=
  ∃ a' v, a = some a' ∧ read a' = .ok v ∧ d.Left (y v)

section

variable {α : Type} {read : Answer → Except CallError α} {y : α → Residue}

theorem steady_acquired (a : Option Answer) : Device.Steady (Acquired read y a) where
  tick flow := fun ⟨a', v, ha, hv, hd⟩ => ⟨a', v, ha, hv, hd.tick flow⟩
  process := fun ⟨a', v, ha, hv, hd⟩ => ⟨a', v, ha, hv, hd.process⟩

theorem not_acquired_none (d : Device) : ¬ Acquired read y none d := by
  rintro ⟨a, v, ha, -, -⟩
  cases ha

theorem Acquired.left {d : Device} {a : Answer} {v : α} (h : Acquired read y (some a) d)
    (hv : read a = .ok v) : d.Left (y v) := by
  obtain ⟨b, w, hb, hw, hd⟩ := h
  cases hb
  rw [hv] at hw
  cases hw
  exact hd

/-- A request that is always granted: either its answer says what was acquired, or nobody has
heard the answer and it is a stray. -/
theorem Leaves.acquires (read : Answer → Except CallError α) (r : Request)
    (hr : ∀ (d : Device) ticket, d.Left x →
      Acquired read y (d.serve ticket r).2 (d.serve ticket r).1)
    (hlate : r.isNotedLate = true) (hstray : ∀ (d : Device) v, d.Left (y v) → d.LeftWith true x)
    (h : s.Leaves x) :
    Granted x (fun v s => s.testbed.Tends (Device.Left (y v)) ∧ s.hasStray = false ∧
      ∀ c, x.session = some c → s.testbed.isClosed c = false)
      (s.request r read).1 (s.request r read).2 := by
  have hx := exchange_spec (Device.steady_left x) steady_acquired hr h.tends
  have hhandle : ∀ c, x.session = some c → (s.exchange r).2.testbed.isClosed c = false := by
    intro c hc
    rw [isClosed_exchange]
    exact h.handle c hc
  unfold request
  dsimp only
  generalize s.exchange r = o at hx hhandle ⊢
  obtain ⟨a, s'⟩ := o
  cases hx with
  | unsent log tends =>
    have hno : s'.hasStray = false := (hasStray_congr log).trans h.noStray
    exact .givenUp (Leaves.leavesWith ⟨tends, hno, hhandle⟩)
  | unheard log tends =>
    have hyes : s'.hasStray = true := by
      unfold hasStray
      rw [log]
      simp [hlate]
    refine .givenUp ⟨?_, hhandle⟩
    rw [hyes]
    exact tends.mono fun d ⟨_, _, v, _, _, hd⟩ => hstray d v hd
  | heard a log tends =>
    have hno : s'.hasStray = false := (hasStray_congr log).trans h.noStray
    -- the answer tells what was acquired
    have hanswered := tends.mono fun d hd => hd.resolve_left (not_acquired_none d)
    obtain ⟨_, a', v, ha', hv, -⟩ := hanswered.drains.holds_somewhere
    cases ha'
    rw [Option.map_some, hv]
    exact .granted v ⟨hanswered.mono fun d hd => hd.left hv, hno, hhandle⟩

end

theorem Leaves.startProtocols (h : s.Leaves x) (hx : x.protocols = false) :
    Granted x (fun (_ : Unit) s => s.Leaves { x with protocols := true })
      (s.answer .startProtocols).1 (s.answer .startProtocols).2 := by
  have hg := h.acquires Bench.wordOf (.setProtocols true)
    (y := fun _ : Unit => { x with protocols := true })
    (fun _ _ hd => ⟨_, (), rfl, rfl, hd.setProtocols true⟩) rfl
    (fun _ _ hd => .of_protocols hd hx)
  exact hg.imp fun _ _ ⟨tends, noStray, handle⟩ => ⟨tends, noStray, handle⟩

theorem Leaves.replaceInstance (h : s.Leaves x) (hx : x.inst = none) (cfg : InstanceConfig) :
    Granted x (fun (_ : Unit) s => s.Leaves { x with inst := some cfg.name })
      (s.answer (.replaceInstance cfg)).1 (s.answer (.replaceInstance cfg)).2 := by
  have hserve : ∀ (d : Device) ticket, d.Left x →
      Acquired Bench.wordOf (fun _ : Unit => { x with inst := some cfg.name })
        (d.serve ticket (.replaceInstance cfg)).2 (d.serve ticket (.replaceInstance cfg)).1 := by
    intro d ticket hd
    obtain ⟨d', hok, hd'⟩ := hd.replaceInstance hx cfg
    refine ⟨.done (.ok ()), (), ?_, rfl, ?_⟩
    · show (d.settled (d.replaceInstance cfg)).2 = _
      rw [hok]
      rfl
    · show (d.settled (d.replaceInstance cfg)).1.Left _
      rw [hok]
      exact hd'
  have hg := h.acquires Bench.wordOf (.replaceInstance cfg)
    (y := fun _ : Unit => { x with inst := some cfg.name }) hserve rfl
    (fun _ _ hd => .of_instance hd hx)
  exact hg.imp fun _ _ ⟨tends, noStray, handle⟩ => ⟨tends, noStray, handle⟩

theorem Leaves.openSession (h : s.Leaves x) (hx : x.session = none) (params : SessionParams) :
    Granted x (fun (c : Nat) s => s.Leaves { x with session := some c })
      (s.answer (.openSession params)).1 (s.answer (.openSession params)).2 := by
  have hg := h.acquires Bench.sessionOf (.openSession params)
    (y := fun c : Nat => { x with session := some c })
    (fun _ _ hd => ⟨_, _, rfl, rfl, hd.openSession hx params⟩) rfl
    (fun _ _ hd => .of_session hd hx)
  unfold Paced.answer
  dsimp only
  generalize s.request (.openSession params) Bench.sessionOf = o at hg ⊢
  obtain ⟨reply, s'⟩ := o
  cases hg with
  | givenUp leaves => exact .givenUp leaves
  | granted c holds =>
    -- the caller's end is noted with the answer
    refine .granted c ⟨holds.1.withHandles _, holds.2.1, fun c' hc' => ?_⟩
    cases hc'
    unfold Testbed.isClosed
    simp only [Table.get?_insert_self]

/-! ### Flows -/

/-- What became of the start of a flow. -/
inductive Started (x : Residue) (flow : String) :
    Option (Except CallError Unit) → Paced → Prop where
  | givenUp {s : Paced} (leaves : s.LeavesWith { x with flow := some flow }) : Started x flow none s
  | started {s : Paced} (leaves : s.Leaves { x with flow := some flow }) :
      Started x flow (some (.ok ())) s
  | refused {s : Paced} (e : CallError) (leaves : s.Leaves x) :
      Started x flow (some (.error e)) s

/-- Whether the answer says if the flow was started, and what will be left agrees with that. -/
def FlowAnswered (x : Residue) (flow : String) (a : Option Answer) (d : Device) : Prop :=
  a = some (.done (.ok ())) ∧ d.Left { x with flow := some flow } ∨
    (∃ e, a = some (.done (.error e))) ∧ d.Left x

theorem steady_flowAnswered (flow : String) (a : Option Answer) :
    Device.Steady (FlowAnswered x flow a) :=
  ((Device.steady_left _).and_const _).or ((Device.steady_left x).and_const _)

theorem flowAnswered_serve {d : Device} (hd : d.Left x) (hx : x.flow = none) (ticket : Nat)
    (spec : FlowSpec) :
    FlowAnswered x spec.name (d.serve ticket (.startFlow spec)).2
      (d.serve ticket (.startFlow spec)).1 := by
  show FlowAnswered x spec.name (d.settled (d.startFlow spec)).2 (d.settled (d.startFlow spec)).1
  cases hok : d.startFlow spec with
  | error e => exact .inr ⟨⟨e, rfl⟩, hd⟩
  | ok d' => exact .inl ⟨rfl, hd.startFlow hx hok⟩

theorem not_flowAnswered_none (flow : String) (d : Device) : ¬ FlowAnswered x flow none d := by
  rintro (⟨ha, -⟩ | ⟨⟨e, ha⟩, -⟩)
  · cases ha
  · cases ha

/-- Started or not, no other flow will be left. -/
theorem FlowAnswered.left {flow : String} {a : Option Answer} {d : Device}
    (h : FlowAnswered x flow a d) (hx : x.flow = none) : d.Left { x with flow := some flow } := by
  rcases h with ⟨-, hd⟩ | ⟨-, hd⟩
  · exact hd
  · exact hd.withFlow hx _

theorem Leaves.startFlow (h : s.Leaves x) (hx : x.flow = none) (spec : FlowSpec) :
    Started x spec.name (s.answer (.startFlow spec)).1 (s.answer (.startFlow spec)).2 := by
  have hto : ∀ y : Residue, y.session = x.session →
      (s.exchange (.startFlow spec)).2.testbed.Tends (Device.Left y) →
      (s.exchange (.startFlow spec)).2.Leaves y := fun _ hy ht => h.exchanged rfl hy ht
  have hspec := exchange_spec (Device.steady_left x) (steady_flowAnswered spec.name)
    (fun _ ticket hd => flowAnswered_serve hd hx ticket spec) h.tends
  change Started x spec.name ((s.exchange (.startFlow spec)).1.map Bench.wordOf)
    (s.exchange (.startFlow spec)).2
  generalize s.exchange (.startFlow spec) = o at hspec hto ⊢
  obtain ⟨a, s'⟩ := o
  cases hspec with
  | unsent log tends =>
    have hleft := hto { x with flow := some spec.name } rfl
      (tends.mono fun d hd => hd.withFlow hx _)
    exact .givenUp hleft.leavesWith
  | unheard log tends =>
    have hleft := hto { x with flow := some spec.name } rfl (tends.mono fun d ⟨_, hd⟩ => hd.left hx)
    exact .givenUp hleft.leavesWith
  | heard a log tends =>
    have hanswered := tends.mono fun d hd => hd.resolve_left (not_flowAnswered_none spec.name d)
    obtain ⟨d, ⟨ha, -⟩ | ⟨⟨e, ha⟩, -⟩⟩ := hanswered.drains.holds_somewhere
    · cases ha
      exact .started (hto _ rfl (hanswered.mono fun d hd => hd.left hx))
    · cases ha
      refine .refused e.callError (hto x rfl (hanswered.mono fun d hd => ?_))
      rcases hd with ⟨he, -⟩ | ⟨-, hd⟩
      · cases he
      · exact hd

/-- A flow that was stopped doesn't run, whatever the answer says. -/
theorem Leaves.stopFlow (h : s.Leaves x) {flow : String} (hx : x.flow = some flow) :
    ((s.answer (.stopFlow flow)).1 = none → (s.answer (.stopFlow flow)).2.LeavesWith x) ∧
      ∀ r, (s.answer (.stopFlow flow)).1 = some r →
        (s.answer (.stopFlow flow)).2.Leaves { x with flow := none } := by
  have hx' := exchange_spec (r := .stopFlow flow) (Device.steady_left x)
    (fun _ : Option Answer => Device.steady_left { x with flow := none })
    (fun _ _ hd => hd.stopFlow hx) h.tends
  have hto : ∀ y : Residue, y.session = x.session →
      (s.exchange (.stopFlow flow)).2.testbed.Tends (Device.Left y) →
      (s.exchange (.stopFlow flow)).2.Leaves y := fun _ hy ht => h.exchanged rfl hy ht
  have hans : s.answer (.stopFlow flow) =
      ((s.exchange (.stopFlow flow)).1.map Bench.wordOf, (s.exchange (.stopFlow flow)).2) := rfl
  rw [hans]
  generalize s.exchange (.stopFlow flow) = o at hx' hto ⊢
  obtain ⟨a, s'⟩ := o
  cases hx' with
  | unsent log tends =>
    exact ⟨fun _ => (hto x rfl tends).leavesWith, fun r hr => (nomatch hr)⟩
  | unheard log tends =>
    refine ⟨fun _ => (hto x rfl (tends.mono fun d ⟨_, hd⟩ => ?_)).leavesWith,
      fun r hr => (nomatch hr)⟩
    have hd' := hd.withFlow rfl (some flow)
    rwa [← hx] at hd'
  | heard a log tends =>
    have hleft := tends.mono fun _ hd => or_self_iff.1 hd
    exact ⟨fun hr => (nomatch hr), fun _ _ => hto { x with flow := none } rfl hleft⟩

/-! ### Releases -/

/-- What a request releases is no longer left once its answer is heard; a stray stays. -/
theorem releases {r : Request} {y : Residue}
    (h : s.testbed.Tends (Device.LeftWith s.hasStray x))
    (hr : ∀ stray (d : Device) ticket, d.LeftWith stray x → (d.serve ticket r).1.LeftWith stray y)
    (hlate : r.isNotedLate = false) {a : Answer} (ha : (s.exchange r).1 = some a) :
    (s.exchange r).2.testbed.Tends (Device.LeftWith (s.exchange r).2.hasStray y) := by
  have hx := exchange_spec (r := r) (Device.steady_leftWith s.hasStray x)
    (fun _ : Option Answer => Device.steady_leftWith s.hasStray y)
    (fun d ticket hd => hr s.hasStray d ticket hd) h
  rw [hasStray_exchange s hlate]
  rw [ha] at hx
  cases hx with
  | heard a log tends => exact tends.mono fun _ hd => or_self_iff.1 hd

/-- The same of a call that releases something and leaves the sessions alone. -/
theorem LeavesWith.releases_of_request {α : Type} {read : Answer → Except CallError α}
    {r : Request} {y : Residue} (h : s.LeavesWith x) (hy : y.session = x.session)
    (hr : ∀ stray (d : Device) ticket, d.LeftWith stray x → (d.serve ticket r).1.LeftWith stray y)
    (hlate : r.isNotedLate = false) {reply : Except CallError α}
    (hreply : (s.request r read).1 = some reply) : (s.request r read).2.LeavesWith y := by
  obtain ⟨a, ha, -⟩ := Option.map_eq_some_iff.1 hreply
  refine ⟨releases h.tends hr hlate ha, fun c hc => ?_⟩
  show (s.exchange r).2.testbed.isClosed c = false
  rw [isClosed_exchange]
  exact h.handle c (hy ▸ hc)

theorem LeavesWith.stopProtocols (h : s.LeavesWith x) (hx : x.protocols = true)
    {reply : Call.stopProtocols.Reply} (hr : (s.answer .stopProtocols).1 = some reply) :
    (s.answer .stopProtocols).2.LeavesWith { x with protocols := false } :=
  h.releases_of_request (y := { x with protocols := false }) rfl
    (fun _ _ _ hd => hd.stopProtocols hx) rfl hr

theorem LeavesWith.deleteInstance (h : s.LeavesWith x) {name : String} (hx : x.inst = some name)
    {reply : (Call.deleteInstance name).Reply}
    (hr : (s.answer (.deleteInstance name)).1 = some reply) :
    (s.answer (.deleteInstance name)).2.LeavesWith { x with inst := none } :=
  h.releases_of_request (y := { x with inst := none }) rfl
    (fun _ _ _ hd => hd.deleteInstance hx) rfl hr

theorem LeavesWith.stopFlow (h : s.LeavesWith x) {flow : String} (hx : x.flow = some flow)
    {reply : (Call.stopFlow flow).Reply} (hr : (s.answer (.stopFlow flow)).1 = some reply) :
    (s.answer (.stopFlow flow)).2.LeavesWith { x with flow := none } :=
  h.releases_of_request (y := { x with flow := none }) rfl
    (fun _ _ _ hd => hd.stopFlow hx) rfl hr

/-- A session that is open at the caller's end is closed by a request. -/
theorem LeavesWith.close (h : s.LeavesWith x) {client : Nat} (hx : x.session = some client)
    {reply : (Call.close client).Reply} (hr : (s.answer (.close client)).1 = some reply) :
    (s.answer (.close client)).2.LeavesWith { x with session := none } := by
  have hopen := h.handle client hx
  have hmarked : (s.testbed.markClosed client).Tends (Device.LeftWith s.hasStray x) := by
    obtain ⟨handles, hmark⟩ := s.testbed.markClosed_eq client
    rw [hmark]
    exact h.tends.withHandles handles
  have hans : s.answer (.close client) =
      { s with testbed := s.testbed.markClosed client }.request (.close client) Bench.wordOf := by
    unfold Paced.answer
    simp only [hopen, Bool.false_eq_true, if_false]
  rw [hans] at hr ⊢
  obtain ⟨a, ha, -⟩ := Option.map_eq_some_iff.1 hr
  exact ⟨releases (y := { x with session := none }) hmarked (fun _ _ _ hd => hd.close hx) rfl ha,
    fun c hc => (nomatch hc)⟩

end Paced

end RoutePreference
