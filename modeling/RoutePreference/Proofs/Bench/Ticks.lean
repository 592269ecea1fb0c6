import RoutePreference.Bench.Chain
import RoutePreference.Proofs.Bench.Feed
import RoutePreference.Proofs.Bench.Kept
import RoutePreference.Proofs.Bench.Schedule
import RoutePreference.Proofs.Device.Accounting

/-!
# Ticks on the testbed that runs

* `Bench.feed`: the device and the queue of a testbed on a clock;
* `Bench.MaySend`, `Bench.Fed`: what waits for room in the queue are requests of clients, and ticks
  of transmissions that are under way;
* `Fed.workOnce`, `Fed.sendTick`, `keptByCalls_fed`: whatever happens at a testbed on a clock are
  acts of a feed;
* `ticks_count_for_their_run`: when the ticks of a flow count for the run that has sent them;
* `restart_counts_past_ticks`: a flow that is started anew at a bad moment.
-/

namespace RoutePreference

/-- The device and the requests that wait for it. -/
def Testbed.feed (t : Testbed) : Feed := { device := t.device, queue := t.queue }

namespace Bench

variable {settings : Settings} {b b' : Bench}

/-- The device and the requests that wait for it. -/
def feed (b : Bench) : Feed := b.testbed.feed

/-- Whether a request may come into the queue: it is one of a client, or a tick of a transmission
that runs. -/
def MaySend (b : Bench) (p : Parcel) : Prop :=
  p.request.isTick = false ∨ ∃ t ∈ b.transmissions, p = .tick t.number t.flow

theorem MaySend.mono {p : Parcel} (hp : b.MaySend p)
    (hsub : ∀ t ∈ b.transmissions, t ∈ b'.transmissions) : b'.MaySend p :=
  hp.imp_right fun ⟨t, ht, hpt⟩ => ⟨t, hsub t ht, hpt⟩

/-- What is true of a testbed on a clock: device and queue have a history of acts, and nothing waits
for room that may not come into the queue. -/
structure Fed (settings : Settings) (b : Bench) : Prop where
  reached : b.feed.Reached settings
  current : ∀ t ∈ b.transmissions, b.device.underWay? t.flow = some t.number
  waiting : ∀ p ∈ b.line ++ b.promised, b.MaySend p

theorem fed_start (settings : Settings) : Fed settings (start settings) where
  reached := ⟨[], rfl⟩
  current t ht := by cases ht
  waiting p hp := by cases hp

/-- Only the device, the queue, the transmissions and the line count. -/
theorem Fed.congr (h : Fed settings b) (hfeed : b'.feed = b.feed)
    (htransmissions : b'.transmissions = b.transmissions)
    (hwaiting : ∀ p ∈ b'.line ++ b'.promised, p ∈ b.line ++ b.promised) : Fed settings b' where
  reached := hfeed ▸ h.reached
  current t ht := by
    rw [show b'.device = b.device from congrArg Feed.device hfeed]
    exact h.current t (htransmissions ▸ ht)
  waiting p hp := by
    rw [MaySend, htransmissions]
    exact h.waiting p (hwaiting p hp)

/-! ### What comes into the queue -/

/-- What may come into the queue comes there by an act. -/
theorem Fed.enqueue (h : Fed settings b) {p : Parcel} (hp : b.MaySend p) :
    Fed settings { b with queue := b.queue ++ [p] } := by
  refine ⟨?_, h.current, h.waiting⟩
  rcases hp with hp | ⟨t, ht, rfl⟩
  · exact h.reached.act (.arrive p hp)
  · have hsend := h.reached.act (.send t.flow)
    rwa [Feed.act_send (h.current t ht)] at hsend

theorem Fed.append (h : Fed settings b) {l : List Parcel} (hl : ∀ p ∈ l, b.MaySend p) :
    Fed settings { b with queue := b.queue ++ l } := by
  induction l generalizing b with
  | nil =>
    rw [List.append_nil]
    exact h
  | cons p l ih =>
    have hfirst := h.enqueue (hl p List.mem_cons_self)
    have hrest := ih hfirst fun q hq => hl q (List.mem_cons_of_mem p hq)
    rw [List.append_assoc] at hrest
    exact hrest

theorem Fed.send (h : Fed settings b) {p : Parcel} (hp : b.MaySend p) :
    Fed settings (b.send p) := by
  unfold Bench.send
  split
  · exact h.enqueue hp
  · refine ⟨h.reached, h.current, fun q hq => ?_⟩
    rcases List.mem_append.1 hq with hq | hq
    · rcases List.mem_append.1 hq with hq | hq
      · exact h.waiting q (List.mem_append_left _ hq)
      · exact List.mem_singleton.1 hq ▸ hp
    · exact h.waiting q (List.mem_append_right _ hq)

theorem Fed.fill (h : Fed settings b) (o : Origin) : Fed settings (b.fill o) := by
  have hpromised : ∀ p ∈ b.promised.filter (·.origin = o), b.MaySend p := fun p hp =>
    h.waiting p (List.mem_append_right _ (List.mem_filter.1 hp).1)
  have happend := h.append hpromised
  refine ⟨happend.reached, h.current, fun p hp => ?_⟩
  rcases List.mem_append.1 hp with hp | hp
  · exact h.waiting p (List.mem_append_left _ hp)
  · exact h.waiting p (List.mem_append_right _ (List.mem_filter.1 hp).1)

theorem transmissions_send (b : Bench) (p : Parcel) :
    (b.send p).transmissions = b.transmissions := by
  unfold Bench.send
  split <;> rfl

/-! ### What is taken out of the line -/

theorem mem_promise {p : Parcel} (hp : p ∈ b.promise.line ++ b.promise.promised) :
    p ∈ b.line ++ b.promised := by
  rcases List.mem_append.1 hp with hp | hp
  · exact List.mem_append_left _ (List.mem_of_mem_drop hp)
  · rcases List.mem_append.1 hp with hp | hp
    · exact List.mem_append_right _ hp
    · exact List.mem_append_left _ (List.mem_of_mem_take hp)

theorem mem_withdraw {p : Parcel} {o : Origin}
    (hp : p ∈ (b.withdraw o).line ++ (b.withdraw o).promised) :
    p ∈ b.line ++ b.promised ∧ p.origin ≠ o := by
  have hp' := mem_promise (b := { b with
    line := b.line.filter (·.origin ≠ o)
    promised := b.promised.filter (·.origin ≠ o) }) hp
  rw [← List.filter_append, List.mem_filter] at hp'
  exact ⟨hp'.1, by simpa using hp'.2⟩

theorem Fed.withdraw (h : Fed settings b) (o : Origin) : Fed settings (b.withdraw o) :=
  h.congr rfl rfl fun _ hp => (mem_withdraw hp).1

/-- Transmissions that have ended are taken out of the line. -/
theorem mem_endTransmissions {p : Parcel}
    (hp : p ∈ b.endTransmissions.line ++ b.endTransmissions.promised) :
    p ∈ b.line ++ b.promised ∧
      ∀ t ∈ b.transmissions, isCurrent b.device t = false → p.origin ≠ .transmission t.number := by
  have hfold : ∀ (ts : List Transmission) (b : Bench),
      p ∈ (ts.foldl (fun b t => b.withdraw (.transmission t.number)) b).line ++
        (ts.foldl (fun b t => b.withdraw (.transmission t.number)) b).promised →
      p ∈ b.line ++ b.promised ∧ ∀ t ∈ ts, p.origin ≠ .transmission t.number := by
    intro ts
    induction ts with
    | nil => exact fun b hp => ⟨hp, fun t ht => by cases ht⟩
    | cons t ts ih =>
      intro b hp
      obtain ⟨hmem, hrest⟩ := ih _ hp
      obtain ⟨hmem, ht⟩ := mem_withdraw hmem
      exact ⟨hmem, List.forall_mem_cons.2 ⟨ht, hrest⟩⟩
  rw [endTransmissions_eq] at hp
  obtain ⟨hmem, hended⟩ := hfold _ _ hp
  refine ⟨hmem, fun t ht hcurrent => hended t (List.mem_filter.2 ⟨ht, ?_⟩)⟩
  rw [hcurrent]
  rfl

theorem transmissions_endTransmissions (b : Bench) :
    b.endTransmissions.transmissions = b.transmissions.filter (isCurrent b.device) :=
  endTransmissions_keeps
    (P := fun b' => b'.transmissions = b.transmissions.filter (isCurrent b.device))
    (fun _ h => h) rfl

/-- When the transmissions have ended whose flows have stopped, those that are left are under way,
and what waits is due to clients or to them. -/
theorem fed_endTransmissions (hreached : b.feed.Reached settings)
    (hwaiting : ∀ p ∈ b.line ++ b.promised, b.MaySend p) : Fed settings b.endTransmissions := by
  have hfeed : b.endTransmissions.feed = b.feed :=
    congrArg Testbed.feed (testbed_endTransmissions b)
  have hdevice : b.endTransmissions.device = b.device := congrArg Feed.device hfeed
  refine ⟨hfeed ▸ hreached, fun t ht => ?_, fun p hp => ?_⟩
  · rw [transmissions_endTransmissions] at ht
    rw [hdevice]
    have hcurrent := (List.mem_filter.1 ht).2
    simpa [isCurrent, Device.underWay?, Device.flow?] using hcurrent
  -- What waited for a transmission that has ended was withdrawn with it.
  · obtain ⟨hmem, hended⟩ := mem_endTransmissions hp
    rcases hwaiting p hmem with hdemand | ⟨t, ht, rfl⟩
    · exact .inl hdemand
    · refine .inr ⟨t, ?_, rfl⟩
      rw [transmissions_endTransmissions]
      refine List.mem_filter.2 ⟨ht, ?_⟩
      cases hcurrent : isCurrent b.device t with
      | true => rfl
      | false => exact absurd rfl (hended t ht hcurrent)

/-! ### What the testbed does -/

theorem Fed.promise (h : Fed settings b) : Fed settings b.promise :=
  h.congr rfl rfl fun _ hp => mem_promise hp

theorem mem_of_waiting_eq {p : Parcel} (h : b'.waiting = b.waiting)
    (hp : p ∈ b'.line ++ b'.promised) : p ∈ b.line ++ b.promised := by
  obtain ⟨-, hline, hpromised⟩ : b'.up = b.up ∧ b'.line = b.line ∧ b'.promised = b.promised := by
    simpa [Bench.waiting] using h
  rwa [hline, hpromised] at hp

theorem mem_beginTransmission (before : Device) (r : Request) {t : Transmission}
    (ht : t ∈ b.transmissions) : t ∈ (beginTransmission before r b).transmissions := by
  unfold beginTransmission
  split
  · split
    · exact List.mem_append_left _ ht
    · exact ht
  · exact ht

@[simp] theorem transmissions_deliver (b : Bench) (o : Origin) (a : Option Answer) :
    (b.deliver o a).transmissions = b.transmissions := by
  cases o <;> cases a <;> rfl

theorem Fed.serve (h : Fed settings b) {p : Parcel} {rest : List Parcel}
    (hq : b.queue = p :: rest) : Fed settings (Bench.serve { b with queue := rest } p) := by
  have hserved := h.reached.act .serve
  rw [Feed.act_serve (show b.feed.queue = p :: rest from hq)] at hserved
  unfold Bench.serve
  refine (fed_endTransmissions ?_ fun r hr => ?_).promise
  · unfold feed
    rw [testbed_beginTransmission, testbed_deliver]
    exact hserved
  · have hr' := mem_of_waiting_eq ((waiting_beginTransmission _ _ _).trans
      (waiting_deliver _ _ _)) hr
    exact (h.waiting r hr').mono fun t ht =>
      mem_beginTransmission _ _ (by rwa [transmissions_deliver])

theorem Fed.program (h : Fed settings b) : Fed settings b.program :=
  ⟨h.reached.act .program, fun t ht => h.current t ht, h.waiting⟩

/-- **One piece of work** of the testbed. -/
theorem Fed.workOnce (h : Fed settings b) : Fed settings b.workOnce := by
  unfold Bench.workOnce
  split
  · exact h.program
  · split
    · exact h.congr rfl rfl fun _ hp => hp
    · split
      · exact h
      · next hq => exact h.serve hq

/-! ### What the transmissions do -/

/-- Changing a transmission that is under way leaves it its flow and its number. -/
theorem Fed.setTransmission (h : Fed settings b) {t t' : Transmission} (ht : t ∈ b.transmissions)
    (hnumber : t'.number = t.number) (hflow : t'.flow = t.flow) :
    Fed settings (b.setTransmission t') := by
  refine ⟨h.reached, fun r hr => ?_, fun p hp => ?_⟩
  · rcases List.mem_append.1 hr with hr | hr
    · exact h.current r (List.mem_filter.1 hr).1
    · rw [List.mem_singleton.1 hr, hnumber, hflow]
      exact h.current t ht
  · rcases h.waiting p hp with hp | ⟨r, hr, rfl⟩
    · exact .inl hp
    · by_cases heq : r.number = t'.number
      -- What waits with the same number is of the same flow, as no two of them share a number.
      · have hunder := h.current r hr
        rw [heq, hnumber] at hunder
        have hname := h.reached.inv.reachable.number_inj _ _ _ hunder (h.current t ht)
        refine .inr ⟨t', List.mem_append_right _ (List.mem_singleton_self t'), ?_⟩
        rw [heq, hflow, hname]
      · exact .inr ⟨r, List.mem_append_left _ (List.mem_filter.2 ⟨hr, by simpa using heq⟩), rfl⟩

/-- **One tick** of a transmission. -/
theorem Fed.sendTick (h : Fed settings b) {t : Transmission} (ht : t ∈ b.transmissions) :
    Fed settings (b.sendTick t) := by
  unfold Bench.sendTick
  dsimp only
  split
  · exact (h.fill _).setTransmission ht rfl rfl
  · have hsent := h.send (.inr ⟨t, ht, rfl⟩)
    exact hsent.setTransmission (t := t) ((transmissions_send b _).symm ▸ ht) rfl rfl

theorem isTick_eq_false {r : Request} (hr : ∀ flow, r ≠ .tick flow) : r.isTick = false := by
  cases r with
  | tick flow => exact absurd rfl (hr flow)
  | _ => rfl

/-- **Whatever happens** at a testbed on a clock are acts of a feed. -/
theorem keptByCalls_fed (settings : Settings) : KeptByCalls (Fed settings) where
  clock _ h := h.congr rfl rfl fun _ hp => hp
  workOnce h := h.workOnce
  sendTick ht h := h.sendTick ht
  noted _ _ _ h := h.congr rfl rfl fun _ hp => hp
  ask _ _ hr h := h.send (.inl (isTick_eq_false hr))
  fill _ h := h.fill _
  abandon _ h := h.withdraw _

end Bench

namespace Feed

/-! ### Whose ticks the counters count -/

/-- **When the ticks of a flow count for the run that has sent them**: as long as no start overtakes
ticks of its flow in the queue, counters change for the ticks of their own transmission only; a tick
that was overtaken counts for the new transmission, if nothing stops the flow before; and the queue
of a testbed on a clock is fed in this way, whatever procedure is carried out on it. -/
theorem ticks_count_for_their_run (settings : Settings) :
    (∀ as, (∀ as', as' ++ [.serve] <+: as → ¬ ((start settings).acts as').Overtakes) →
      ∀ as' a, as' ++ [a] <+: as → ((start settings).acts as').CountsOwn a) ∧
    (∀ t : Feed, t.Reached settings → ∀ o spec q k q', 0 < spec.packetCount →
      t.queue = { origin := o, request := .startFlow spec } :: (q ++ .tick k spec.name :: q') →
      t.device.Starts spec.name (.serve (Bench.ticketOf o) (.startFlow spec)) →
      (∀ p ∈ q, Spares spec.name p.request) →
      ¬ (t.acts (.replicate (q.length + 1) .serve)).CountsOwn .serve) ∧
    (∀ (σ α : Type) (p : Procedure σ α) cut held,
      (p.perform Bench.surroundings cut held (Bench.start settings)).after.feed.Reached
        settings) := by
  refine ⟨fun as hno as' a hpre => ?_, ?_, fun σ α p cut held => ?_⟩
  · have hown := (own_ticks_iff settings as).2 hno as' ((List.prefix_append as' [a]).trans hpre)
    exact hown.countsOwn (Inv.start.acts as') a
  · intro t ht o spec q k q' hpackets hq hstarts hspares hown
    obtain ⟨hmis, hf⟩ := overtaken_miscounts ht.inv hq hstarts hspares
    exact (counts_own_iff (ht.inv.acts _) .serve).1 hown ⟨rfl, spec.name, _, hmis, hf, hpackets⟩
  · exact ((Bench.keptByCalls_fed settings).perform cut p held (Bench.fed_start settings)).reached

/-- A client sends a request, and it is served. -/
def asked (r : Request) (noTick : r.isTick = false) : List Act :=
  [.arrive { origin := .nobody, request := r } noTick, .serve]

/-- A flow over the first two links. -/
def crossing (packets : Nat) : FlowSpec :=
  { name := "F", source := (Link.numbered 1).ate.name, receivers := [(Link.numbered 2).ate.name]
    range := { min := (Link.numbered 2).ate.ipv4, max := (Link.numbered 2).ate.ipv4, count := 1 }
    packetCount := packets, rate := 1000 }

/-- The two links are configured, and a flow of ten packets is started over them. -/
def crossed : List Act :=
  asked (.configureDut { attrs := (Link.numbered 1).dut, enabled := none }) rfl ++
  asked (.configureAte { attrs := (Link.numbered 1).ate, gateway := (Link.numbered 1).dut.ipv4 })
    rfl ++
  asked (.configureDut { attrs := (Link.numbered 2).dut, enabled := none }) rfl ++
  asked (.configureAte { attrs := (Link.numbered 2).ate, gateway := (Link.numbered 2).dut.ipv4 })
    rfl ++
  asked (.setProtocols true) rfl ++
  asked (.startFlow (crossing 10)) rfl

/-- Its transmission sends two ticks, and a client starts it anew before the second one.  The first
tick is served, which is the last of the flow. -/
def restarted : List Act :=
  crossed ++ [.send "F", .arrive { origin := .nobody, request := .startFlow (crossing 10) } rfl,
    .send "F", .serve]

theorem not_overtakes_of_length {t : Feed} (h : t.queue.length ≤ 1) : ¬ t.Overtakes := by
  rintro ⟨p, rest, flow, k, hq, -, hk⟩
  rw [hq, List.length_cons] at h
  rw [List.length_eq_zero_iff.1 (by omega : rest.length = 0)] at hk
  cases hk

/-- The first tick of a flow counts for it, and a tick that was overtaken counts for another run. -/
theorem ticks_count_for_their_run_crossing :
    ((start .standard).acts (crossed ++ [.send "F"])).CountsOwn .serve ∧
      ¬ ((start .standard).acts (restarted ++ [.serve])).CountsOwn .serve ∧
      (Bench.start .standard).feed.Reached .standard := by
  obtain ⟨hown, hovertaken, hfed⟩ := ticks_count_for_their_run .standard
  refine ⟨hown (crossed ++ [.send "F"] ++ [.serve]) (fun as' hpre => ?_) _ _ (List.prefix_refl _),
    ?_, hfed Unit Unit (.done ()) none ()⟩
  · have hshort : ∀ n < 15, ((start .standard).acts
        ((crossed ++ [Act.send "F"] ++ [Act.serve]).take n)).queue.length ≤ 1 := by decide +kernel
    have hlength := hpre.length_le
    rw [List.length_append, show (crossed ++ _ ++ _).length = 14 from rfl] at hlength
    rw [List.prefix_iff_eq_take.1 ((List.prefix_append as' [.serve]).trans hpre)]
    exact not_overtakes_of_length (hshort _ (by omega))
  · rw [acts_append]
    refine hovertaken _ ⟨restarted, rfl⟩ .nobody (crossing 10) [] 0 [] (by decide) ?_ ?_ (by simp)
    · decide +kernel
    · refine ⟨_, _, _, rfl, rfl, Device.startFlow_of_isOk ?_⟩
      decide +kernel

open Chain in
/-- A client lets a flow of thirty packets send for five milliseconds, then programs a route, which
takes fifty milliseconds.  The flow is started anew while that lasts, and the client reads its
counters a millisecond after it is told so. -/
def restarting : Calls Unit FlowCounters := do
  setUp 2 defaultInstanceName
  let _ ← call (.startFlow (crossing 30))
  ExceptT.lift (Procedure.sleep 5)
  let _ ← call (.replaceStatic (.single defaultInstanceName "static-1"
    (.ofInterface (.ofOctets 203 0 113 0) 24) "nh" (Link.numbered 2).ate.ipv4 none))
  ExceptT.lift (Procedure.sleep 20)
  let _ ← call (.startFlow (crossing 100))
  ExceptT.lift (Procedure.sleep 1)
  call (.counters "F")

/-- A tick of a past run is served while the next one is under way, and changes its counters.  On
the clock, three ticks are overtaken, and within a millisecond the flow has sent forty packets for
the one tick of its own. -/
theorem restart_counts_past_ticks :
    ((start .standard).acts (restarted ++ [.serve])).Miscounts "F" ∧
      ((((start .standard).acts (restarted ++ [.serve])).device.flow? "F").map Flow.counters) =
        some { tx := 0, rx := 0 } ∧
      ((((start .standard).acts (restarted ++ [.serve, .serve])).device.flow? "F").map
        Flow.counters) = some { tx := 10, rx := 10 } ∧
      ((restarting.run.perform Bench.surroundings none () (Bench.start .standard)).value.bind
        (·.toOption)) = some { tx := 40, rx := 40 } := by
  refine ⟨⟨0, 1, [], ?_, ?_, by decide⟩, ?_, ?_, ?_⟩ <;> decide +kernel

end Feed

end RoutePreference
