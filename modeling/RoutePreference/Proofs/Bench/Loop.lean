import RoutePreference.Proofs.Bench.Kept
import RoutePreference.Proofs.Bench.Testbed
import RoutePreference.Proofs.Device.Soundness
import RoutePreference.Proofs.Device.Tokens

/-!
# The loop of the testbed

* `Loop`: the device, the requests that have arrived, and whether the loop has taken a token and
  waits for the forwarding table to be programmed;
* `Loop.Step`: a request arrives or is served, a token is taken, or the work that it called for is
  done, in any order that the loop allows;
* `Loop.Leads`: any number of steps;
* `Leads.invariant`: what every step keeps;
* `no_lost_update`: at its choice, a loop with work has a token, and a loop without a token has
  converged;
* `Bench.loop`, `leads_workOnce`, `keptByCalls_leads`: all that a testbed on a clock does, whatever
  is asked of it, are steps of its loop.

The loop serves nothing while it waits, so no work is added between the token that is taken and the
work that is done; the tokens that are thrown away then have called for work that is done as well.
-/

namespace RoutePreference

/-- The testbed as a loop that chooses between requests and tokens. -/
structure Loop where
  device : Device
  /-- The requests that have arrived, with their tickets. -/
  queue : List (Nat × Request) := []
  /-- Whether a token was taken and its work isn't done yet. -/
  programming : Bool := false

namespace Loop

/-- A testbed at its first choice. -/
def start (settings : Settings) : Loop := { device := .start settings }

/-- What can happen next. -/
inductive Step : Loop → Loop → Prop where
  /-- A request arrives, whatever the loop is doing. -/
  | arrive (l : Loop) (ticket : Nat) (r : Request) :
    Step l { l with queue := l.queue ++ [(ticket, r)] }
  /-- The first request is chosen and served. -/
  | serve {l : Loop} {ticket : Nat} {r : Request} {rest : List (Nat × Request)} :
    l.programming = false → l.queue = (ticket, r) :: rest →
    Step l { l with device := (l.device.serve ticket r).1, queue := rest }
  /-- A token is chosen and taken. -/
  | take {l : Loop} : l.programming = false → 0 < l.device.tokens →
    Step l { l with
      device := { l.device with tokens := l.device.tokens - 1 }, programming := true }
  /-- The forwarding table has been programmed: the other tokens are thrown away, the routes are
  chosen anew and the withheld results are sent. -/
  | program {l : Loop} : l.programming = true →
    Step l { l with device := l.device.process.1, programming := false }

/-- Any number of steps. -/
inductive Leads (l : Loop) : Loop → Prop where
  | refl : Leads l l
  | tail {m n : Loop} : Leads l m → Step m n → Leads l n

variable {l m n : Loop} {settings : Settings}

theorem Leads.trans (h : Leads l m) (h' : Leads m n) : Leads l n := by
  induction h' with
  | refl => exact h
  | tail _ hs ih => exact ih.tail hs

theorem Step.leads (h : Step l m) : Leads l m := .tail .refl h

/-! ### What every step keeps -/

/-- The device is sound throughout; it has a token for its work whenever the loop chooses. -/
structure Invariant (l : Loop) : Prop where
  sound : l.device.Sound
  awake : l.programming = false → l.device.Awake

/-- **One step.** -/
theorem Invariant.step (h : l.Invariant) (hs : Step l m) : m.Invariant := by
  cases hs with
  | arrive ticket r => exact ⟨h.sound, h.awake⟩
  | serve hp hq => exact ⟨Device.kept_sound.serve _ _ h.sound, fun _ => (h.awake hp).serve _ _⟩
  | take hp ht => exact ⟨Device.kept_sound.same h.sound ⟨rfl, rfl, rfl, rfl⟩, fun hf => nomatch hf⟩
  | program hp =>
    exact ⟨Device.kept_sound.process h.sound,
      fun _ hw => absurd hw (Device.not_hasWork_process _)⟩

/-- **Any number of steps.** -/
theorem Leads.invariant (h : Leads (start settings) l) : l.Invariant := by
  induction h with
  | refl =>
    refine ⟨fun _ _ hi => (nomatch hi), fun _ hw => ?_⟩
    obtain ⟨n, i, hi, -⟩ | ho := hw
    · cases hi
    · exact absurd rfl ho
  | tail _ hs ih => exact ih.step hs

/-- A loop that chooses without a token has nothing left to do. -/
theorem Invariant.converged (h : l.Invariant) (hp : l.programming = false)
    (ht : l.device.tokens = 0) : l.device.Converged ∧ l.device.owed = [] := by
  have hidle : ¬ l.device.HasWork := by
    intro hw
    have hpos := h.awake hp hw
    omega
  exact ⟨h.sound.converged_of_idle hidle, Decidable.byContradiction fun ho => hidle (.inr ho)⟩

/-- **No update is lost.**  Wherever requests arrive between the steps of the loop: when it
chooses and a destination waits for a choice of routes, or a request for its results, there is a
token; when the work that a token called for is done, nothing waits and no token is left; and when
it chooses without a token, all forwarding tables have converged and no result is withheld. -/
theorem no_lost_update (h : Leads (start settings) l) :
    (l.programming = false → l.device.HasWork → 0 < l.device.tokens) ∧
    (∀ l', Step l l' → l.programming = true → l'.programming = false →
      ¬ l'.device.HasWork ∧ l'.device.tokens = 0) ∧
    (l.programming = false → l.device.tokens = 0 →
      l.device.Converged ∧ l.device.owed = []) := by
  have hinv := h.invariant
  refine ⟨hinv.awake, fun l' hs hp hp' => ?_, hinv.converged⟩
  cases hs with
  | program _ => exact ⟨Device.not_hasWork_process _, rfl⟩
  | arrive ticket r => exact absurd (hp.symm.trans hp') (by simp)
  | serve hf _ => exact absurd (hp.symm.trans hf) (by simp)
  | take hf _ => exact absurd (hp.symm.trans hf) (by simp)

/-- Requests that arrive and are served one after the other. -/
theorem leads_serveAll (d : Device) (rs : List Request) :
    Leads { device := d } { device := d.serveAll rs } := by
  induction rs generalizing d with
  | nil => exact .refl
  | cons r rs ih =>
    have harrive : Step { device := d } { device := d, queue := [(0, r)] } := .arrive _ 0 r
    have hserve : Step { device := d, queue := [(0, r)] } { device := (d.serve 0 r).1 } :=
      .serve rfl rfl
    exact (harrive.leads.tail hserve).trans (ih _)

/-- A loop at which a route was configured. -/
def configured : Loop := { device := Device.linked.serveAll [
  .replaceStatic (.single defaultInstanceName "static" Device.crossedDest "0"
    (Link.numbered 1).ate.ipv4 none)] }

/-- The loop with the route takes its token, and has converged when the work is done. -/
theorem no_lost_update_configured :
    configured.device.HasWork ∧ 0 < configured.device.tokens ∧
      configured.device.process.1.Converged ∧ configured.device.process.1.owed = [] := by
  have hleads : Leads (start .standard) configured :=
    (leads_serveAll (Device.start .standard) _).trans (leads_serveAll Device.linked _)
  have hwork : configured.device.HasWork := by
    have hq : (configured.device.instances.get? defaultInstanceName).map (·.rib.queue.keys) =
      some [Device.crossedDest] := by decide +kernel
    obtain ⟨i, hi, hqueue⟩ := Option.map_eq_some_iff.1 hq
    refine .inl ⟨_, i, hi, fun hempty => ?_⟩
    rw [hempty] at hqueue
    cases hqueue
  have htoken := (no_lost_update hleads).1 rfl hwork
  have hdone := (hleads.tail (.take rfl htoken)).tail (.program rfl)
  exact ⟨hwork, htoken, (no_lost_update hdone).2.2 rfl rfl⟩

end Loop

/-! ### The testbed on a clock -/

/-- A request with the ticket that its answer is sent under. -/
def Parcel.arrival (p : Parcel) : Nat × Request := (Bench.ticketOf p.origin, p.request)

namespace Bench

open Loop (Leads)

variable {b b' : Bench}

/-- The loop of a testbed on a clock.  There, the token that is being worked on is still
counted. -/
def loop (b : Bench) : Loop where
  device :=
    match b.busyUntil with
    | some _ => { b.device with tokens := b.device.tokens - 1 }
    | none => b.device
  queue := b.queue.map Parcel.arrival
  programming := b.busyUntil.isSome

/-- Requests that get into the queue. -/
theorem leads_arrivals (b : Bench) (l : List Parcel) :
    Leads b.loop { b.loop with queue := b.loop.queue ++ l.map Parcel.arrival } := by
  have hall : ∀ (l : List Parcel) (m : Loop),
      Leads m { m with queue := m.queue ++ l.map Parcel.arrival } := by
    intro l
    induction l with
    | nil =>
      intro m
      rw [List.map_nil, List.append_nil]
      exact .refl
    | cons p l ih =>
      intro m
      have hrest := ih { m with queue := m.queue ++ [p.arrival] }
      rw [List.append_assoc] at hrest
      exact (Loop.Step.arrive m _ _).leads.trans hrest
  exact hall l b.loop

@[simp] theorem busyUntil_endTransmissions (b : Bench) :
    b.endTransmissions.busyUntil = b.busyUntil :=
  endTransmissions_keeps (P := fun b' => b'.busyUntil = b.busyUntil) (fun _ h => h) rfl

@[simp] theorem busyUntil_beginTransmission (before : Device) (r : Request) (b : Bench) :
    (beginTransmission before r b).busyUntil = b.busyUntil := by
  unfold beginTransmission
  split
  · split <;> rfl
  · rfl

@[simp] theorem busyUntil_deliver (b : Bench) (o : Origin) (a : Option Answer) :
    (b.deliver o a).busyUntil = b.busyUntil := by
  cases o <;> cases a <;> rfl

theorem busyUntil_serve (b : Bench) (p : Parcel) : (b.serve p).busyUntil = b.busyUntil := by
  show (beginTransmission _ _ _).endTransmissions.busyUntil = _
  rw [busyUntil_endTransmissions, busyUntil_beginTransmission, busyUntil_deliver]

/-- The end of programming. -/
theorem leads_program {t : Nat} (hb : b.busyUntil = some t) : Leads b.loop b.program.loop := by
  have hstep : Loop.Step b.loop
      { b.loop with device := b.loop.device.process.1, programming := false } :=
    .program (by rw [loop, hb]; rfl)
  have hloop : b.program.loop =
      { b.loop with device := b.loop.device.process.1, programming := false } := by
    simp only [loop, hb]
    rfl
  exact hloop ▸ hstep.leads

/-- The beginning of programming, which takes a token. -/
theorem leads_take (hb : b.busyUntil = none) (ht : 0 < b.device.tokens) (t : Nat) :
    Leads b.loop ({ b with busyUntil := some t } : Bench).loop := by
  have hstep : Loop.Step b.loop { b.loop with
      device := { b.loop.device with tokens := b.loop.device.tokens - 1 }
      programming := true } :=
    .take (by rw [loop, hb]; rfl) (by simpa only [loop, hb] using ht)
  have hloop : ({ b with busyUntil := some t } : Bench).loop = { b.loop with
      device := { b.loop.device with tokens := b.loop.device.tokens - 1 }
      programming := true } := by
    simp only [loop, hb]
    rfl
  exact hloop ▸ hstep.leads

/-- The service of the first request. -/
theorem leads_serve {p : Parcel} {rest : List Parcel} (hb : b.busyUntil = none)
    (hq : b.queue = p :: rest) :
    Leads b.loop (({ b with queue := rest } : Bench).serve p).loop := by
  have hstep : Loop.Step b.loop { b.loop with
      device := (b.loop.device.serve p.arrival.1 p.arrival.2).1
      queue := rest.map Parcel.arrival } :=
    .serve (by rw [loop, hb]; rfl) (by rw [loop, hq]; rfl)
  have hloop : (({ b with queue := rest } : Bench).serve p).loop = { b.loop with
      device := (b.loop.device.serve p.arrival.1 p.arrival.2).1
      queue := rest.map Parcel.arrival } := by
    have hserve := testbed_serve { b with queue := rest } p
    have hdevice : (({ b with queue := rest } : Bench).serve p).device =
        (b.device.serve (ticketOf p.origin) p.request).1 := congrArg Testbed.device hserve
    have hqueue : (({ b with queue := rest } : Bench).serve p).queue = rest :=
      congrArg Testbed.queue hserve
    rw [loop, loop, busyUntil_serve, hdevice, hqueue]
    simp only [hb]
    rfl
  exact hloop ▸ hstep.leads

/-- **The next thing that the testbed does** is a step of the loop. -/
theorem leads_workOnce (b : Bench) : Leads b.loop b.workOnce.loop := by
  unfold workOnce
  split
  · next t hb => exact leads_program hb
  · next hb =>
    split
    · next ht => exact leads_take hb ht _
    · split
      · exact .refl
      · next p rest hq => exact leads_serve hb hq

/-! ### What gets into the queue -/

theorem leads_send (b : Bench) (p : Parcel) : Leads b.loop (b.send p).loop := by
  unfold send
  split
  · have harrive := leads_arrivals b [p]
    have hloop : ({ b with queue := b.queue ++ [p] } : Bench).loop =
        { b.loop with queue := b.loop.queue ++ [p].map Parcel.arrival } := by
      simp only [loop, List.map_append]
    exact hloop ▸ harrive
  · exact .refl

theorem leads_fill (b : Bench) (o : Origin) : Leads b.loop (b.fill o).loop := by
  have harrive := leads_arrivals b (b.promised.filter (·.origin = o))
  have hloop : (b.fill o).loop = { b.loop with
      queue := b.loop.queue ++ (b.promised.filter (·.origin = o)).map Parcel.arrival } := by
    simp only [loop, fill, List.map_append]
  exact hloop ▸ harrive

theorem leads_sendTick (b : Bench) (t : Transmission) : Leads b.loop (b.sendTick t).loop := by
  unfold sendTick
  dsimp only
  split
  · exact leads_fill b _
  · exact leads_send b _

/-- **All that happens on the clock**, by itself or because of a caller, are steps of the loop. -/
theorem keptByCalls_leads (l : Loop) : KeptByCalls fun b => Leads l b.loop where
  clock _ h := h
  workOnce h := h.trans (leads_workOnce _)
  sendTick _ h := h.trans (leads_sendTick _ _)
  noted _ _ _ h := h
  ask _ _ _ h := h.trans (leads_send _ _)
  fill _ h := h.trans (leads_fill _ _)
  abandon _ h := h

/-- **No update is lost on the testbed that runs.**  Whatever procedure has been carried out on it:
unless it is programming the forwarding table, it has a token for its work, and without a token
everything has converged. -/
theorem awake_after_procedure {σ α : Type} (settings : Settings) (cut : Option Nat)
    (p : Procedure σ α) (held : σ) {b : Bench}
    (hb : (p.perform surroundings cut held (start settings)).after = b)
    (hidle : b.busyUntil = none) :
    (b.device.HasWork → 0 < b.device.tokens) ∧
      (b.device.tokens = 0 → b.device.Converged ∧ b.device.owed = []) := by
  have hleads : Leads (Loop.start settings) b.loop :=
    hb ▸ (keptByCalls_leads (Loop.start settings)).perform cut p held .refl
  have hdevice : b.loop.device = b.device := by simp only [loop, hidle]
  have hselect : b.loop.programming = false := by simp only [loop, hidle, Option.isSome_none]
  have hinv := hleads.invariant
  rw [← hdevice]
  exact ⟨hinv.awake hselect, hinv.converged hselect⟩

end Bench

end RoutePreference
