import RoutePreference.Proofs.Bench.Testbed
import RoutePreference.Proofs.Device.Flows

/-!
# Requests and ticks in one queue

* `Feed`: the device and the queue that clients and transmissions feed;
* `Feed.Act`, `Feed.acts`: a request arrives, a transmission that is under way sends a tick, the
  first request is served, or the forwarding table is programmed, in any order;
* `Feed.Reached`, `Feed.Inv`: what acts lead to, and what is true there of the numbers of the
  ticks in the queue;
* `Feed.OwnTicks`: every tick in the queue is one of the transmission that its flow has under way,
  if it has one;
* `Feed.Overtakes`: a flow is started while ticks are left in the queue;
* `own_ticks_iff`: the ticks stay their flows' own exactly if no start overtakes any;
* `Feed.CountsOwn`, `counts_own_iff`: counters change for the ticks of their own transmission only,
  unless a tick of a past one is served;
* `overtaken_miscounts`: a tick that was overtaken counts for the new transmission once it is
  served.
-/

namespace RoutePreference

/-- Whether a request is a tick. -/
def Request.isTick : Request → Bool
  | .tick _ => true
  | _ => false

/-- A tick of a flow, as the transmission with the given number sends it. -/
def Parcel.tick (number : Nat) (flow : String) : Parcel :=
  { origin := .transmission number, request := .tick flow }

/-- The event of serving a request. -/
def Parcel.served (p : Parcel) : Event := .serve (Bench.ticketOf p.origin) p.request

/-- The device and the requests that wait for it. -/
structure Feed where
  device : Device
  queue : List Parcel := []

namespace Feed

/-- A testbed without any configuration. -/
def start (settings : Settings) : Feed := { device := .start settings }

/-- What can happen. -/
inductive Act where
  /-- A request of a client arrives. -/
  | arrive (p : Parcel) (noTick : p.request.isTick = false)
  /-- The transmission of a flow sends a tick, if one is under way. -/
  | send (flow : String)
  /-- The first request is served. -/
  | serve
  /-- The forwarding table has been programmed. -/
  | program
deriving DecidableEq

/-- One act. -/
def act (t : Feed) : Act → Feed
  | .arrive p _ => { t with queue := t.queue ++ [p] }
  | .send flow =>
    match t.device.underWay? flow with
    | some k => { t with queue := t.queue ++ [.tick k flow] }
    | none => t
  | .serve =>
    match t.queue with
    | [] => t
    | p :: rest => { device := t.device.step p.served, queue := rest }
  | .program => { t with device := t.device.step .process }

/-- One act after the other. -/
def acts (t : Feed) (as : List Act) : Feed := as.foldl act t

variable {settings : Settings} {t : Feed} {k m : Nat} {flow : String}

theorem acts_append (t : Feed) (as as' : List Act) :
    t.acts (as ++ as') = (t.acts as).acts as' := List.foldl_append

/-- Whether acts lead to it from a testbed without any configuration. -/
def Reached (settings : Settings) (t : Feed) : Prop := ∃ as, (start settings).acts as = t

theorem Reached.act (h : Reached settings t) (a : Act) : Reached settings (t.act a) := by
  obtain ⟨as, rfl⟩ := h
  exact ⟨as ++ [a], acts_append _ as [a]⟩

theorem act_send (h : t.device.underWay? flow = some k) :
    t.act (.send flow) = { t with queue := t.queue ++ [.tick k flow] } := by
  simp only [act, h]

theorem act_send_none (h : t.device.underWay? flow = none) : t.act (.send flow) = t := by
  simp only [act, h]

theorem act_serve_nil (hq : t.queue = []) : t.act .serve = t := by
  simp only [act, hq]

theorem act_serve {p : Parcel} {rest : List Parcel} (hq : t.queue = p :: rest) :
    t.act .serve = { device := t.device.step p.served, queue := rest } := by
  simp only [act, hq]

/-! ### The numbers of the ticks -/

/-- What is true after any acts: the device is reachable, and the ticks in the queue have numbers
that were used up, none beyond that of the transmission that their flow has under way. -/
structure Inv (settings : Settings) (t : Feed) : Prop where
  reachable : Device.Reachable settings t.device
  used : ∀ k flow, .tick k flow ∈ t.queue → k < t.device.generator.started
  past : ∀ k flow m, .tick k flow ∈ t.queue → t.device.underWay? flow = some m → k ≤ m
  ticks : ∀ p ∈ t.queue, p.request.isTick = true → ∃ k flow, p = .tick k flow

theorem Inv.start : Inv settings (start settings) where
  reachable := .start
  used k flow hk := by cases hk
  past k flow m hk := by cases hk
  ticks p hp := by cases hp

/-- What an event of the device keeps. -/
theorem Inv.step (h : Inv settings t) (e : Event) {queue : List Parcel}
    (hsub : ∀ p ∈ queue, p ∈ t.queue) : Inv settings { device := t.device.step e, queue } where
  reachable := h.reachable.step e
  used k flow hk := by
    have hlt := h.used k flow (hsub _ hk)
    have hstarted := t.device.started_step e
    dsimp only
    omega
  past k flow m hk hm := by
    rcases Device.underWay_step h.reachable.named hm with hm | ⟨-, rfl⟩
    · exact h.past k flow m (hsub _ hk) hm
    -- A transmission that has just begun has a number that no tick in the queue can have.
    · exact Nat.le_of_lt (h.used k flow (hsub _ hk))
  ticks p hp := h.ticks p (hsub p hp)

theorem tick_mem_concat {q : List Parcel} {p : Parcel} (hp : p.request.isTick = false)
    (hk : Parcel.tick k flow ∈ q ++ [p]) : Parcel.tick k flow ∈ q := by
  rcases List.mem_append.1 hk with hk | hk
  · exact hk
  · rw [← List.mem_singleton.1 hk] at hp
    cases hp

theorem Inv.act (h : Inv settings t) (a : Act) : Inv settings (t.act a) := by
  cases a with
  | arrive p hp =>
    refine ⟨h.reachable, fun k flow hk => h.used k flow (tick_mem_concat hp hk),
      fun k flow m hk => h.past k flow m (tick_mem_concat hp hk), fun r hr htick => ?_⟩
    rcases List.mem_append.1 hr with hr | hr
    · exact h.ticks r hr htick
    · rw [List.mem_singleton.1 hr, hp] at htick
      cases htick
  | send flow =>
    cases hm : t.device.underWay? flow with
    | none =>
      rw [act_send_none hm]
      exact h
    | some n =>
      rw [act_send hm]
      refine ⟨h.reachable, fun k flow' hk => ?_, fun k flow' m hk hm' => ?_, fun r hr htick => ?_⟩
      · rcases List.mem_append.1 hk with hk | hk
        · exact h.used k flow' hk
        · cases List.mem_singleton.1 hk
          exact h.reachable.number_lt flow n hm
      · rcases List.mem_append.1 hk with hk | hk
        · exact h.past k flow' m hk hm'
        · cases List.mem_singleton.1 hk
          rw [hm] at hm'
          cases hm'
          exact Nat.le_refl n
      · rcases List.mem_append.1 hr with hr | hr
        · exact h.ticks r hr htick
        · exact ⟨n, flow, List.mem_singleton.1 hr⟩
  | serve =>
    cases hq : t.queue with
    | nil =>
      rw [act_serve_nil hq]
      exact h
    | cons p rest =>
      rw [act_serve hq]
      exact h.step p.served fun r hr => hq ▸ List.mem_cons_of_mem p hr
  | program => exact h.step .process fun p hp => hp

theorem Inv.acts (h : Inv settings t) (as : List Act) : Inv settings (t.acts as) := by
  induction as generalizing t with
  | nil => exact h
  | cons a as ih => exact ih (h.act a)

theorem Reached.inv (h : Reached settings t) : Inv settings t := by
  obtain ⟨as, rfl⟩ := h
  exact Inv.start.acts as

/-! ### Whose ticks are in the queue -/

/-- Whether every tick in the queue is one of the transmission that its flow has under way, if it
has one. -/
def OwnTicks (t : Feed) : Prop :=
  ∀ k flow m, .tick k flow ∈ t.queue → t.device.underWay? flow = some m → m = k

/-- Whether the request that is served next starts a flow of which ticks are left in the queue. -/
def Overtakes (t : Feed) : Prop :=
  ∃ p rest flow k, t.queue = p :: rest ∧ t.device.Starts flow p.served ∧ .tick k flow ∈ rest

/-- Whether the request that is served next is a tick of a past transmission, while another one of
the same flow is under way. -/
def Miscounts (t : Feed) (flow : String) : Prop :=
  ∃ k m rest, t.queue = .tick k flow :: rest ∧ t.device.underWay? flow = some m ∧ k < m

/-- Serving a request leaves the flows their own ticks, unless it overtakes some. -/
theorem OwnTicks.serve_iff (hown : t.OwnTicks) (h : Inv settings t) :
    (t.act .serve).OwnTicks ↔ ¬ t.Overtakes := by
  cases hq : t.queue with
  | nil =>
    rw [act_serve_nil hq]
    refine ⟨fun _ ⟨p, rest, _, _, hq', _⟩ => ?_, fun _ => hown⟩
    rw [hq] at hq'
    cases hq'
  | cons p rest =>
    have hmem : ∀ {r : Parcel}, r ∈ rest → r ∈ t.queue := fun hr =>
      hq ▸ List.mem_cons_of_mem p hr
    rw [act_serve hq]
    constructor
    -- A tick that is left behind has a smaller number than the transmission that begins.
    · rintro hown' ⟨p', rest', flow, k, hq', hstarts, hk⟩
      rw [hq] at hq'
      cases hq'
      have heq := hown' k flow _ hk hstarts.underWay
      have hlt := h.used k flow (hmem hk)
      omega
    · intro hno k flow m hk hm
      rcases Device.underWay_step h.reachable.named hm with hm | ⟨hstarts, -⟩
      · exact hown k flow m (hmem hk) hm
      · exact absurd ⟨p, rest, flow, k, hq, hstarts, hk⟩ hno

/-- **One act** leaves the flows their own ticks, unless it overtakes some. -/
theorem OwnTicks.act_iff (hown : t.OwnTicks) (h : Inv settings t) (a : Act) :
    (t.act a).OwnTicks ↔ ¬ (a = .serve ∧ t.Overtakes) := by
  cases a with
  | arrive p hp =>
    refine ⟨fun _ hno => (nomatch hno.1), fun _ k flow m hk hm => ?_⟩
    exact hown k flow m (tick_mem_concat hp hk) hm
  | send flow =>
    refine ⟨fun _ hno => (nomatch hno.1), fun _ => ?_⟩
    cases hn : t.device.underWay? flow with
    | none =>
      rw [act_send_none hn]
      exact hown
    | some n =>
      rw [act_send hn]
      intro k flow' m hk hm
      rcases List.mem_append.1 hk with hk | hk
      · exact hown k flow' m hk hm
      · cases List.mem_singleton.1 hk
        exact Option.some.inj (hm.symm.trans hn)
  | serve =>
    rw [hown.serve_iff h]
    simp
  | program =>
    refine ⟨fun _ hno => (nomatch hno.1), fun _ => hown⟩

theorem OwnTicks.start (settings : Settings) : (start settings).OwnTicks := by
  intro k flow m hk
  cases hk

/-- **The ticks stay their flows' own exactly if no start overtakes any.** -/
theorem own_ticks_iff (settings : Settings) (as : List Act) :
    (∀ as', as' <+: as → ((start settings).acts as').OwnTicks) ↔
      ∀ as', as' ++ [.serve] <+: as → ¬ ((start settings).acts as').Overtakes := by
  have hiff := foldl_throughout_iff (f := act) (I := Inv settings) (P := OwnTicks)
    (fun h a => h.act a) (fun h hown a => hown.act_iff h a) Inv.start (OwnTicks.start settings) as
  refine hiff.trans ⟨fun hno as' hpre hover => hno as' .serve hpre ⟨rfl, hover⟩, ?_⟩
  rintro hno as' a hpre ⟨rfl, hover⟩
  exact hno as' hpre hover

/-! ### What the counters count -/

/-- What changes the counters of a flow: a start, or a tick that is served while the flow has a
transmission under way. -/
theorem counters_act (h : Inv settings t) (a : Act) {f f' : Flow}
    (hf : t.device.flow? flow = some f) (hf' : (t.act a).device.flow? flow = some f')
    (hne : f'.counters ≠ f.counters) :
    a = .serve ∧ ∃ p rest, t.queue = p :: rest ∧
      (t.device.Starts flow p.served ∨
        ∃ k m, p = .tick k flow ∧ t.device.underWay? flow = some m ∧ f' = t.device.advance f) := by
  have hsame : t.device.flow? flow ≠ some f' := by
    intro heq
    rw [hf] at heq
    cases heq
    exact hne rfl
  cases a with
  | arrive p hp => exact absurd hf' hsame
  | send flow' =>
    cases hn : t.device.underWay? flow' with
    | none =>
      rw [act_send_none hn] at hf'
      exact absurd hf' hsame
    | some n =>
      rw [act_send hn] at hf'
      exact absurd hf' hsame
  | program => exact absurd hf' hsame
  | serve =>
    cases hq : t.queue with
    | nil =>
      rw [act_serve_nil hq] at hf'
      exact absurd hf' hsame
    | cons p rest =>
      refine ⟨rfl, p, rest, rfl, ?_⟩
      rw [act_serve hq] at hf'
      have hstep := t.device.flow_step h.reachable.named p.served flow
      rw [hf'] at hstep
      generalize hx : some f' = x at hstep
      cases hstep with
      | kept => exact absurd hx.symm hsame
      | started _ _ hstarts => exact .inl hstarts
      | stopped _ hfound =>
        cases hx
        cases Option.some.inj (hf.symm.trans hfound)
        exact absurd rfl hne
      | sends hevent hfound hrunning =>
        cases hx
        cases Option.some.inj (hf.symm.trans hfound)
        obtain ⟨m, hm⟩ := Option.isSome_iff_exists.1 hrunning
        have htick : p.request.isTick = true := by
          rw [show p.request = .tick flow from (Event.serve.inj hevent).2]
          rfl
        obtain ⟨k, flow', rfl⟩ := h.ticks p (by simp [hq]) htick
        cases (Event.serve.inj hevent).2
        exact .inr ⟨k, m, rfl, by rw [Device.underWay?, hf]; exact hm, rfl⟩

theorem OwnTicks.not_miscounts (hown : t.OwnTicks) (flow : String) : ¬ t.Miscounts flow := by
  rintro ⟨k, m, rest, hq, hm, hlt⟩
  have heq := hown k flow m (by simp [hq]) hm
  omega

/-- A tick of a past transmission lets the one that is under way send its next packets. -/
theorem Miscounts.counted (hmis : t.Miscounts flow) (h : Inv settings t) :
    ∃ f, t.device.flow? flow = some f ∧
      (t.act .serve).device.flow? flow = some (t.device.advance f) ∧
      (0 < f.spec.packetCount → f.counters.tx < (t.device.advance f).counters.tx) := by
  obtain ⟨k, m, rest, hq, hm, -⟩ := hmis
  rw [act_serve hq]
  unfold Device.underWay? at hm
  cases hf : t.device.flow? flow with
  | none =>
    rw [hf] at hm
    cases hm
  | some f =>
    rw [hf] at hm
    have hrunning : f.transmission.isSome = true := Option.isSome_iff_exists.2 ⟨m, hm⟩
    refine ⟨f, rfl, Device.flow?_transmit h.reachable.named hf hrunning, fun hpackets => ?_⟩
    have hleft := (h.reachable.unfinished flow f hf hrunning).resolve_left (by omega)
    exact Nat.lt_add_of_pos_right (t.device.batch_pos hleft)

/-- Whether what an act changes in the counters of a flow is due to a start, or to a tick of the
very transmission that the flow has under way. -/
def CountsOwn (t : Feed) (a : Act) : Prop :=
  ∀ flow f f', t.device.flow? flow = some f → (t.act a).device.flow? flow = some f' →
    f'.counters ≠ f.counters → ∃ p rest, a = .serve ∧ t.queue = p :: rest ∧
      (t.device.Starts flow p.served ∨ ∃ k, p = .tick k flow ∧ t.device.underWay? flow = some k)

theorem counters_advance_of_done (d : Device) {f : Flow} (h : f.spec.packetCount = 0) :
    (d.advance f).counters = f.counters := by
  have hbatch := Device.batch_le d f
  have hpackets : d.packets f = [] := by
    rw [← List.length_eq_zero_iff, Device.length_packets]
    omega
  rw [Device.counters_advance, hpackets]
  rfl

/-- **One act** changes the counters of a flow for its own ticks only, unless a tick of a past
transmission is served while the flow has packets left. -/
theorem counts_own_iff (h : Inv settings t) (a : Act) :
    t.CountsOwn a ↔ ¬ (a = .serve ∧ ∃ flow f, t.Miscounts flow ∧
      t.device.flow? flow = some f ∧ 0 < f.spec.packetCount) := by
  constructor
  · rintro hown ⟨rfl, flow, f, hmis, hf, hpackets⟩
    obtain ⟨f', hf', hserved, hsends⟩ := hmis.counted h
    cases Option.some.inj (hf.symm.trans hf')
    have hlt := hsends hpackets
    have hne : (t.device.advance f).counters ≠ f.counters := fun heq => by
      rw [heq] at hlt
      exact Nat.lt_irrefl _ hlt
    obtain ⟨k, m, rest, hq, hm, hkm⟩ := hmis
    obtain ⟨p, rest', -, hq', hcause⟩ := hown flow f _ hf hserved hne
    cases List.cons.inj (hq.symm.trans hq') |>.1
    rcases hcause with ⟨_, _, _, he, -⟩ | ⟨k', hp, hk'⟩
    · cases he
    · cases hp
      rw [hm] at hk'
      cases hk'
      exact Nat.lt_irrefl _ hkm
  · intro hno flow f f' hf hf' hne
    obtain ⟨rfl, p, rest, hq, hstarts | ⟨k, m, rfl, hm, rfl⟩⟩ := counters_act h a hf hf' hne
    · exact ⟨p, rest, rfl, hq, .inl hstarts⟩
    -- The tick is one of the transmission under way, or else of a past one; then there are no packets
    -- to send, and the tick only ends the transmission.
    · refine ⟨_, rest, rfl, hq, .inr ⟨k, rfl, ?_⟩⟩
      rcases Nat.lt_or_eq_of_le (h.past k flow m (by simp [hq]) hm) with hlt | rfl
      · have hpackets : 0 < f.spec.packetCount := Nat.pos_of_ne_zero fun hzero =>
          hne (counters_advance_of_done t.device hzero)
        exact absurd ⟨rfl, flow, f, ⟨k, m, rest, hq, hm, hlt⟩, hf, hpackets⟩ hno
      · exact hm

theorem OwnTicks.countsOwn (hown : t.OwnTicks) (h : Inv settings t) (a : Act) : t.CountsOwn a :=
  (counts_own_iff h a).2 fun ⟨_, flow, _, hmis, _⟩ => hown.not_miscounts flow hmis

/-! ### Ticks that were overtaken -/

/-- Whether a request neither stops a flow nor is one of its ticks. -/
def Spares (flow : String) (r : Request) : Prop := r ≠ .stopFlow flow ∧ r ≠ .tick flow

/-- Such requests leave a flow that is under way as it is. -/
theorem flow?_of_spares (h : Inv settings t) {p : Parcel} (hp : Spares flow p.request) {f : Flow}
    (hf : t.device.flow? flow = some f) (hrunning : f.transmission.isSome = true) :
    (t.device.step p.served).flow? flow = some f := by
  have hstep := t.device.flow_step h.reachable.named p.served flow
  generalize (t.device.step p.served).flow? flow = x at hstep ⊢
  cases hstep with
  | kept => exact hf
  | started _ _ _ hidle =>
    rw [Device.underWay?, hf] at hidle
    rw [show f.transmission = none from hidle] at hrunning
    cases hrunning
  | stopped hevent => exact absurd (Event.serve.inj hevent).2 hp.1
  | sends hevent => exact absurd (Event.serve.inj hevent).2 hp.2

theorem acts_of_spares (h : Inv settings t) {q q' : List Parcel} (hq : t.queue = q ++ q')
    (hspares : ∀ p ∈ q, Spares flow p.request) {f : Flow} (hf : t.device.flow? flow = some f)
    (hrunning : f.transmission.isSome = true) :
    (t.acts (.replicate q.length .serve)).queue = q' ∧
      (t.acts (.replicate q.length .serve)).device.flow? flow = some f := by
  induction q generalizing t with
  | nil => exact ⟨hq, hf⟩
  | cons p q ih =>
    have hserve := act_serve (t := t) hq
    have hinv := h.act .serve
    show ((t.act .serve).acts (.replicate q.length .serve)).queue = q' ∧
      ((t.act .serve).acts (.replicate q.length .serve)).device.flow? flow = some f
    refine ih hinv (by rw [hserve]; rfl) (fun r hr => hspares r (List.mem_cons_of_mem p hr)) ?_
    rw [hserve]
    exact flow?_of_spares h (hspares p List.mem_cons_self) hf hrunning

/-- **A tick that was overtaken counts for the new transmission** once it is served, unless the flow
is stopped before, or other ticks come first. -/
theorem overtaken_miscounts (h : Inv settings t) {spec : FlowSpec} {o : Origin}
    {q q' : List Parcel}
    (hq : t.queue = { origin := o, request := .startFlow spec } :: (q ++ .tick k spec.name :: q'))
    (hstarts : t.device.Starts spec.name (.serve (Bench.ticketOf o) (.startFlow spec)))
    (hspares : ∀ r ∈ q, Spares spec.name r.request) :
    (t.acts (.replicate (q.length + 1) .serve)).Miscounts spec.name ∧
      (t.acts (.replicate (q.length + 1) .serve)).device.flow? spec.name =
        some (Device.begun spec t.device.generator.started) := by
  have hserve := act_serve hq
  have hbegun : (t.act .serve).device.flow? spec.name =
      some (Device.begun spec t.device.generator.started) := by
    rw [hserve]
    exact hstarts.flow?_eq
  obtain ⟨hqueue, hf⟩ := acts_of_spares (h.act .serve) (by rw [hserve]) hspares hbegun rfl
  refine ⟨⟨k, _, q', hqueue, ?_, h.used k spec.name (by simp [hq])⟩, hf⟩
  exact congrArg (Option.bind · Flow.transmission) hf

end Feed

end RoutePreference
