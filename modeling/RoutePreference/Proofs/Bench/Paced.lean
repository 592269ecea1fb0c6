import RoutePreference.Proofs.Bench.Testbed

/-!
# Calls at any pace

* `Pace`: what happens around one call: before its request is in the queue, if it gets there, and
  after, and whether the answer is heard;
* `Paced`: a testbed with the paces of the calls to come, and the requests whose answers were not
  heard;
* `Paced.exchange`, `Paced.answer`, `Paced.surroundings`: calls in which the paces decide about
  everything that a clock decides otherwise;
* `Paced.exchange_spec`: what one exchange makes of what will be true.

The paces stand for every order in which the testbed, the transmissions and the caller can come
by turns, and for a caller that is cut short at any point between.
-/

namespace RoutePreference

/-- How a call goes. -/
structure Pace where
  /-- The time before the call. -/
  time : Nat := 0
  /-- What happens before the request is in the queue. -/
  before : List Move := []
  /-- Whether the request gets into the queue, or the caller gives up first. -/
  sent : Bool := true
  /-- What happens afterwards. -/
  during : List Move := []
  /-- Whether the caller waits for the answer, or gives up first. -/
  heard : Bool := true

/-- A testbed whose callers are paced. -/
structure Paced where
  testbed : Testbed
  /-- The paces of the calls to come; when they are used up, nothing is sent any more. -/
  paces : List Pace
  /-- The requests that were sent by a caller who gave up before the answer. -/
  unheard : List Request := []

namespace Testbed

/-- Gives out a ticket. -/
def giveTicket (t : Testbed) : Testbed := { t with tickets := t.tickets + 1 }

/-- Giving out a ticket doesn't change what happens by itself. -/
theorem moves_giveTicket (t : Testbed) (ms : List Move) :
    t.giveTicket.moves ms = (t.moves ms).giveTicket := by
  have hmove : ∀ (t : Testbed) (m : Move), t.giveTicket.move m = (t.move m).giveTicket := by
    intro t m
    cases m with
    | serve =>
      obtain ⟨device, queue, answers, tickets, handles⟩ := t
      cases queue with
      | nil => rfl
      | cons p rest => rfl
    | program => rfl
    | tick number flow => rfl
  induction ms generalizing t with
  | nil => rfl
  | cons m ms ih => rw [moves_cons, hmove, ih, ← moves_cons]

/-- Puts the request of a caller into the queue, under a new ticket. -/
def ask (t : Testbed) (r : Request) : Testbed :=
  t.giveTicket.send { origin := .caller t.tickets, request := r }

/-- The answer for a ticket. -/
def answerFor? (t : Testbed) (ticket : Nat) : Option Answer :=
  (t.answers.find? fun a => a.1 = ticket).map (·.2)

/-- The testbed after an answer was picked up. -/
def pickUp (t : Testbed) (ticket : Nat) : Testbed :=
  { t with answers := t.answers.filter (·.1 ≠ ticket) }

/-- Whether the caller's end of a session is closed. -/
def isClosed (t : Testbed) (session : Nat) : Bool :=
  match t.handles.get? session with
  | some h => h.closed
  | none => true

/-- No session is closed by itself at the caller's end. -/
theorem isClosed_moves (t : Testbed) (ms : List Move) (session : Nat) :
    (t.moves ms).isClosed session = t.isClosed session := by
  unfold isClosed
  rw [handles_moves]

/-- Closes the caller's end of a session. -/
def markClosed (t : Testbed) (session : Nat) : Testbed :=
  match t.handles.get? session with
  | some h => { t with handles := t.handles.insert session { h with closed := true } }
  | none => t

theorem markClosed_eq (t : Testbed) (session : Nat) :
    ∃ handles, t.markClosed session = { t with handles } := by
  unfold markClosed
  split
  · exact ⟨_, rfl⟩
  · exact ⟨t.handles, rfl⟩

end Testbed

namespace Paced

/-- The pace of the next call. -/
def pace (s : Paced) : Pace := s.paces.headD { sent := false }

/-- Sends a request and waits for the answer. -/
def exchange (s : Paced) (r : Request) : Option Answer × Paced :=
  let waiting := s.testbed.moves s.pace.before
  let s' := { s with paces := s.paces.tail }
  if s.pace.sent then
    let t := (waiting.ask r).moves s.pace.during
    match if s.pace.heard then t.answerFor? waiting.tickets else none with
    | some a => (some a, { s' with testbed := t.pickUp waiting.tickets })
    | none => (none, { s' with testbed := t, unheard := s.unheard ++ [r] })
  else (none, { s' with testbed := waiting.giveTicket })

/-- Sends a request and reads the answer. -/
def request {α : Type} (s : Paced) (r : Request) (read : Answer → Except CallError α) :
    Option (Except CallError α) × Paced :=
  let (a, s) := s.exchange r
  (a.map read, s)

/-- Makes a call to the testbed, as `Bench.answer` does. -/
def answer (c : Call) (s : Paced) : Option c.Reply × Paced :=
  match c with
  | .configureDut cfg => s.request (.configureDut cfg) Bench.wordOf
  | .configureAte cfg => s.request (.configureAte cfg) Bench.wordOf
  | .startProtocols => s.request (.setProtocols true) Bench.wordOf
  | .stopProtocols => s.request (.setProtocols false) Bench.wordOf
  | .replaceInstance cfg => s.request (.replaceInstance cfg) Bench.wordOf
  | .deleteInstance name => s.request (.deleteInstance name) Bench.wordOf
  | .replaceStatic cfg => s.request (.replaceStatic cfg) Bench.wordOf
  | .deleteStatic inst dest => s.request (.deleteStatic inst dest) Bench.wordOf
  | .openSession params =>
    match s.request (.openSession params) Bench.sessionOf with
    | (some (.ok client), s) =>
      (some (.ok client), { s with testbed :=
        { s.testbed with handles := s.testbed.handles.insert client { params } } })
    | (r, s) => (r, s)
  | .modify session ops =>
    if s.testbed.isClosed session then (some (.error .sessionClosed), s)
    else s.request (.modify session ops) Bench.resultsOf
  | .flush session inst =>
    if s.testbed.isClosed session then (some (.error .sessionClosed), s)
    else s.request (.flush session inst) Bench.wordOf
  | .close session =>
    if s.testbed.isClosed session then (some (.ok ()), s)
    else { s with testbed := s.testbed.markClosed session }.request (.close session) Bench.wordOf
  | .read path => s.request (.read path) Bench.leafOf
  | .startFlow spec => s.request (.startFlow spec) Bench.wordOf
  | .stopFlow flow => s.request (.stopFlow flow) Bench.wordOf
  | .counters flow => s.request (.counters flow) Bench.countersOf
  | .loss flow =>
    s.request (.counters flow) fun a => (Bench.countersOf a).map FlowCounters.lossPercent

/-- Lets time pass. -/
def pass (s : Paced) : Paced :=
  { s with testbed := s.testbed.moves s.pace.before, paces := s.paces.tail }

/-- The paced testbed as surroundings of a procedure. -/
def surroundings : Surroundings Paced where
  now s := s.pace.time
  passUntil _ s := s.pass
  answer c _ s := s.answer c

end Paced

/-! ### What an exchange makes of what will be true -/

namespace Testbed

theorem Fresh.giveTicket {t : Testbed} (h : t.Fresh) : t.giveTicket.Fresh where
  answers a ha := Nat.lt_succ_of_lt (h.answers a ha)
  owed o ho := Nat.lt_succ_of_lt (h.owed o ho)
  queue p hp := (h.queue p hp).mono (Nat.le_succ _)

theorem Fresh.ask {t : Testbed} (h : t.Fresh) (r : Request) : (t.ask r).Fresh where
  answers := h.giveTicket.answers
  owed := h.giveTicket.owed
  queue p hp := by
    rcases List.mem_append.1 hp with hp | hp
    · exact h.giveTicket.queue p hp
    · rw [List.mem_singleton.1 hp]
      exact .inr ⟨t.tickets, Nat.lt_succ_self _, rfl⟩

theorem Fresh.pickUp {t : Testbed} (h : t.Fresh) (ticket : Nat) : (t.pickUp ticket).Fresh where
  answers a ha := h.answers a (List.mem_filter.1 ha).1
  owed := h.owed
  queue := h.queue

/-- Where a request with the newest ticket is: in the queue, with what was there before it and
ticks behind it, or served, with ticks left in the queue at most. -/
inductive OnItsWay (ticket : Nat) (r : Request) (P : Device → Prop)
    (Q : Option Answer → Device → Prop) (t : Testbed) : Prop where
  | waiting (before ticks : List Parcel)
      (queue : t.queue = before ++ { origin := .caller ticket, request := r } :: ticks)
      (older : ∀ p ∈ before, p.IsBefore ticket) (ticks : ∀ p ∈ ticks, p.IsTick)
      (drains : Drains P before t.device) (answers : ∀ a ∈ t.answers, a.1 < ticket)
      (owed : ∀ o ∈ t.device.owed, o.ticket < ticket)
  | served (answer : Option Answer) (ticks : ∀ p ∈ t.queue, p.IsTick) (done : Q answer t.device)
      (answers : ∀ x, answer = some x → ∀ a ∈ t.answers, a.1 = ticket → a.2 = x)
      (owed : ∀ x, answer = some x → ∀ o ∈ t.device.owed, o.ticket ≠ ticket)

section

variable {ticket : Nat} {r : Request} {P : Device → Prop} {Q : Option Answer → Device → Prop}
variable {t : Testbed}

theorem OnItsWay.program (hP : Device.Steady P) (hQ : ∀ a, Device.Steady (Q a))
    (h : t.OnItsWay ticket r P Q) : t.program.OnItsWay ticket r P Q := by
  cases h with
  | waiting before ticks queue older hticks drains answers owed =>
    refine .waiting before ticks queue older hticks (drains.process hP) (fun a ha => ?_)
      fun o ho => (List.not_mem_nil ho).elim
    rcases List.mem_append.1 ha with ha | ha
    · exact answers a ha
    · obtain ⟨o, ho, hoa⟩ := mem_process ha
      have := owed o ho
      omega
  | served answer ticks done answers owed =>
    refine .served answer ticks ((hQ answer).process done) (fun x hx a ha hat => ?_)
      fun x hx o ho => (List.not_mem_nil ho).elim
    rcases List.mem_append.1 ha with ha | ha
    · exact answers x hx a ha hat
    · -- nothing was withheld for an answered request
      obtain ⟨o, ho, hoa⟩ := mem_process ha
      exact absurd (hoa.trans hat) (owed x hx o ho)

theorem OnItsWay.tick (h : t.OnItsWay ticket r P Q) (number : Nat) (flow : String) :
    (t.move (.tick number flow)).OnItsWay ticket r P Q := by
  have hticks : ∀ {l : List Parcel}, (∀ p ∈ l, p.IsTick) →
      ∀ p ∈ l ++ [{ origin := .transmission number, request := .tick flow }], p.IsTick := by
    intro l hl p hp
    rcases List.mem_append.1 hp with hp | hp
    · exact hl p hp
    · exact ⟨number, flow, List.mem_singleton.1 hp⟩
  cases h with
  | waiting before ticks queue older hl drains answers owed =>
    refine .waiting before (ticks ++ _) ?_ older (hticks hl) drains answers owed
    show t.queue ++ _ = _
    rw [queue, List.append_assoc, List.cons_append]
  | served answer hl done answers owed => exact .served answer (hticks hl) done answers owed

/-- The turn of the request itself. -/
theorem onItsWay_served (hr : ∀ d ticket, P d → Q (d.serve ticket r).2 (d.serve ticket r).1)
    (hticks : ∀ p ∈ t.queue, p.IsTick) (hd : P t.device) (answers : ∀ a ∈ t.answers, a.1 < ticket)
    (owed : ∀ o ∈ t.device.owed, o.ticket < ticket) :
    (t.serve { origin := .caller ticket, request := r }).OnItsWay ticket r P Q := by
  refine .served (t.device.serve ticket r).2 hticks (hr _ _ hd) (fun x hx a ha hat => ?_)
    fun x hx o ho => ?_
  · rcases List.mem_append.1 ha with ha | ha
    · have := answers a ha
      omega
    · have hax := (mem_noted_iff.1 ha).2
      change (t.device.serve ticket r).2 = some a.2 at hax
      rw [hx] at hax
      exact (Option.some.inj hax).symm
  · rcases Device.owed_serve ticket t.device r o ho with ho | ⟨-, hnone⟩
    · have := owed o ho
      omega
    · rw [hnone] at hx
      cases hx

/-- A tick behind the request is served. -/
theorem serve_tick (t : Testbed) (number : Nat) (flow : String) :
    t.serve { origin := .transmission number, request := .tick flow } =
      { t with device := t.device.transmit flow } := by
  unfold Testbed.serve
  simp only [noted, List.append_nil]
  rfl

theorem OnItsWay.serve (hQ : ∀ a, Device.Steady (Q a))
    (hr : ∀ d ticket, P d → Q (d.serve ticket r).2 (d.serve ticket r).1)
    (h : t.OnItsWay ticket r P Q) : (t.move .serve).OnItsWay ticket r P Q := by
  cases h with
  | waiting before ticks queue older hl drains answers owed =>
    cases before with
    | nil =>
      have hmove : t.move .serve =
          { t with queue := ticks }.serve { origin := .caller ticket, request := r } := by
        unfold Testbed.move
        simp only [queue, List.nil_append]
      rw [hmove]
      exact onItsWay_served hr hl drains answers owed
    | cons p before =>
      have hmove : t.move .serve = { t with queue := before ++
          ({ origin := .caller ticket, request := r } : Parcel) :: ticks }.serve p := by
        unfold Testbed.move
        simp only [queue, List.cons_append]
      have hp : p.IsBefore ticket := older p List.mem_cons_self
      rw [hmove]
      refine .waiting before ticks rfl (fun q hq => older q (List.mem_cons_of_mem _ hq)) hl
        (drains 0) (fun a ha => ?_) fun o ho => ?_
      · rcases List.mem_append.1 ha with ha | ha
        · exact answers a ha
        · exact hp.lt_of_origin (mem_noted_iff.1 ha).1
      · rcases owed_served hp o ho with ho | ho
        · exact owed o ho
        · exact hp.lt_of_origin ho
  | served answer hl done answers owed =>
    unfold Testbed.move
    cases hq : t.queue with
    | nil =>
      exact .served answer hl done answers owed
    | cons p rest =>
      obtain ⟨number, flow, rfl⟩ := hl p (by rw [hq]; exact List.mem_cons_self)
      simp only [serve_tick]
      refine .served answer (fun p hp => hl p ?_) ((hQ answer).tick flow done) answers ?_
      · rw [hq]
        exact List.mem_cons_of_mem _ hp
      · simpa only [Device.owed_transmit] using owed

/-- Wherever the request is, it stays on its way. -/
theorem OnItsWay.moves (hP : Device.Steady P) (hQ : ∀ a, Device.Steady (Q a))
    (hr : ∀ d ticket, P d → Q (d.serve ticket r).2 (d.serve ticket r).1)
    (h : t.OnItsWay ticket r P Q) (ms : List Move) : (t.moves ms).OnItsWay ticket r P Q := by
  induction ms generalizing t with
  | nil => exact h
  | cons m ms ih =>
    refine ih ?_
    cases m with
    | serve => exact h.serve hQ hr
    | program => exact h.program hP hQ
    | tick number flow => exact h.tick number flow

/-- A request that was sent will have been served. -/
theorem OnItsWay.drains (hP : Device.Steady P) (hQ : ∀ a, Device.Steady (Q a))
    (hr : ∀ d ticket, P d → Q (d.serve ticket r).2 (d.serve ticket r).1)
    (h : t.OnItsWay ticket r P Q) : Drains (fun d => ∃ a, Q a d) t.queue t.device := by
  have hex : Device.Steady fun d => ∃ a, Q a d :=
    ⟨fun flow ⟨a, ha⟩ => ⟨a, (hQ a).tick flow ha⟩, fun ⟨a, ha⟩ => ⟨a, (hQ a).process ha⟩⟩
  cases h with
  | waiting before ticks queue older hl drains answers owed =>
    rw [queue, List.append_cons]
    exact (drains.append hP fun d ticket hd => ⟨_, hr d ticket hd⟩).ticks hex hl
  | served answer hl done answers owed => exact .of_ticks hex hl ⟨answer, done⟩

/-- Whoever hears an answer knows that the request was served. -/
theorem OnItsWay.heard (h : t.OnItsWay ticket r P Q) {x : Answer}
    (hx : t.answerFor? ticket = some x) :
    (∀ p ∈ t.queue, p.IsTick) ∧ (Q none t.device ∨ Q (some x) t.device) := by
  unfold answerFor? at hx
  obtain ⟨e, he, rfl⟩ := Option.map_eq_some_iff.1 hx
  have hmem : e ∈ t.answers := List.mem_of_find?_eq_some he
  have het : e.1 = ticket := by simpa using List.find?_some he
  cases h with
  | waiting before ticks queue older hl drains answers owed =>
    have := answers e hmem
    omega
  | served answer hl done answers owed =>
    refine ⟨hl, ?_⟩
    cases answer with
    | none => exact .inl done
    | some y =>
      rw [answers y rfl e hmem het]
      exact .inr done

end

end Testbed

namespace Paced

/-- What became of an exchange: the request wasn't sent, or nobody has heard the answer, or it was
heard.  It is the answer that the request was served with, unless that was withheld at first. -/
inductive Exchanged (P : Device → Prop) (Q : Option Answer → Device → Prop) (s : Paced)
    (r : Request) : Option Answer → Paced → Prop where
  | unsent {s' : Paced} (log : s'.unheard = s.unheard) (tends : s'.testbed.Tends P) :
      Exchanged P Q s r none s'
  | unheard {s' : Paced} (log : s'.unheard = s.unheard ++ [r])
      (tends : s'.testbed.Tends fun d => ∃ a, Q a d) : Exchanged P Q s r none s'
  | heard {s' : Paced} (x : Answer) (log : s'.unheard = s.unheard)
      (tends : s'.testbed.Tends fun d => Q none d ∨ Q (some x) d) :
      Exchanged P Q s r (some x) s'

variable {P : Device → Prop} {Q : Option Answer → Device → Prop} {s : Paced} {r : Request}

/-- **One exchange**, at any pace. -/
theorem exchange_spec (hP : Device.Steady P) (hQ : ∀ a, Device.Steady (Q a))
    (hr : ∀ d ticket, P d → Q (d.serve ticket r).2 (d.serve ticket r).1)
    (h : s.testbed.Tends P) : Exchanged P Q s r (s.exchange r).1 (s.exchange r).2 := by
  have hbefore := h.moves hP s.pace.before
  have hfresh := hbefore.fresh
  unfold exchange
  dsimp only
  split
  · have hasked := (hfresh.ask r).moves s.pace.during
    have hway : ((s.testbed.moves s.pace.before).ask r).OnItsWay
        (s.testbed.moves s.pace.before).tickets r P Q :=
      .waiting (s.testbed.moves s.pace.before).queue [] rfl hfresh.queue
        (fun _ hp => (List.not_mem_nil hp).elim) hbefore.drains hfresh.answers hfresh.owed
    have hafter := hway.moves hP hQ hr s.pace.during
    split
    · next x hx =>
      split at hx
      · obtain ⟨hticks, hdone⟩ := hafter.heard hx
        exact .heard x rfl
          ⟨hasked.pickUp _, .of_ticks ((hQ none).or (hQ (some x))) hticks hdone⟩
      · cases hx
    · exact .unheard rfl ⟨hasked, hafter.drains hP hQ hr⟩
  · exact .unsent rfl ⟨hfresh.giveTicket, hbefore.drains⟩

@[simp] theorem handles_exchange (s : Paced) (r : Request) :
    (s.exchange r).2.testbed.handles = s.testbed.handles := by
  have hask : ∀ t : Testbed, (t.ask r).handles = t.handles := fun _ => rfl
  unfold exchange
  dsimp only
  split
  · split
    · exact ((Testbed.handles_moves ..).trans (hask _)).trans (Testbed.handles_moves ..)
    · exact ((Testbed.handles_moves ..).trans (hask _)).trans (Testbed.handles_moves ..)
  · exact Testbed.handles_moves ..

end Paced

end RoutePreference
