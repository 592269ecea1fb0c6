import RoutePreference.Bench.Clock
import RoutePreference.Proofs.Device.Use

/-!
# The testbed without a clock

* `Testbed`: a bench without time and without those who wait for room in the queue,
  `Bench.testbed`;
* `Testbed.serve`, `Testbed.program`: what the bench does at a request and when it has programmed
  the forwarding table (`testbed_serve`, `testbed_program`);
* `Move`, `Testbed.moves`: what the testbed and the transmissions do by themselves, in any order;
* `Testbed.Fresh`: no answer is under way to a ticket that wasn't given out;
* `Device.Steady`, `Drains`: what will be true of the device once the queue has been served,
  whatever happens in the meantime.
-/

namespace RoutePreference

/-- The testbed as a queue of requests: without time, and without those who wait for room. -/
structure Testbed where
  device : Device
  queue : List Parcel := []
  answers : List (Nat × Answer) := []
  tickets : Nat := 0
  handles : Table Nat Handle := ∅

/-- What the testbed does by itself, and what the transmissions send. -/
inductive Move where
  /-- The first request is served. -/
  | serve
  /-- The forwarding table has been programmed. -/
  | program
  /-- A transmission sends a tick. -/
  | tick (number : Nat) (flow : String)
deriving DecidableEq

namespace Parcel

/-- Whether the request is one of a transmission. -/
def IsTick (p : Parcel) : Prop :=
  ∃ number flow, p = { origin := .transmission number, request := .tick flow }

/-- Whether the request is a tick or has one of the first tickets. -/
def IsBefore (ticket : Nat) (p : Parcel) : Prop :=
  p.IsTick ∨ ∃ n < ticket, p.origin = .caller n

theorem IsBefore.mono {m n : Nat} {p : Parcel} (h : p.IsBefore m) (hmn : m ≤ n) :
    p.IsBefore n := by
  rcases h with h | ⟨k, hk, hp⟩
  · exact .inl h
  · exact .inr ⟨k, by omega, hp⟩

theorem IsBefore.lt_of_origin {m n : Nat} {p : Parcel} (h : p.IsBefore n)
    (hp : p.origin = .caller m) : m < n := by
  rcases h with ⟨number, flow, rfl⟩ | ⟨k, hk, hpk⟩
  · cases hp
  · rw [hp] at hpk
    cases hpk
    exact hk

end Parcel

namespace Testbed

/-- An answer as it is noted for the caller who waits for it. -/
def noted : Origin → Option Answer → List (Nat × Answer)
  | .caller ticket, some a => [(ticket, a)]
  | _, _ => []

/-- Serves a request that was taken from the queue. -/
def serve (t : Testbed) (p : Parcel) : Testbed :=
  let served := t.device.serve (Bench.ticketOf p.origin) p.request
  { t with device := served.1, answers := t.answers ++ noted p.origin served.2 }

/-- Makes the choice of routes anew and sends the withheld results. -/
def program (t : Testbed) : Testbed :=
  { t with device := t.device.process.1, answers := t.answers ++ t.device.process.2 }

/-- Puts a request into the queue. -/
def send (t : Testbed) (p : Parcel) : Testbed := { t with queue := t.queue ++ [p] }

/-- One move. -/
def move (t : Testbed) : Move → Testbed
  | .serve =>
    match t.queue with
    | [] => t
    | p :: rest => { t with queue := rest }.serve p
  | .program => t.program
  | .tick number flow => t.send { origin := .transmission number, request := .tick flow }

/-- One move after the other. -/
def moves (t : Testbed) (ms : List Move) : Testbed := ms.foldl move t

@[simp] theorem moves_nil (t : Testbed) : t.moves [] = t := rfl

theorem moves_cons (t : Testbed) (m : Move) (ms : List Move) :
    t.moves (m :: ms) = (t.move m).moves ms := rfl

theorem moves_append (t : Testbed) (ms ms' : List Move) :
    t.moves (ms ++ ms') = (t.moves ms).moves ms' := List.foldl_append

@[simp] theorem tickets_move (t : Testbed) (m : Move) : (t.move m).tickets = t.tickets := by
  unfold move
  split
  · split <;> rfl
  · rfl
  · rfl

@[simp] theorem handles_move (t : Testbed) (m : Move) : (t.move m).handles = t.handles := by
  unfold move
  split
  · split <;> rfl
  · rfl
  · rfl

@[simp] theorem tickets_moves (t : Testbed) (ms : List Move) :
    (t.moves ms).tickets = t.tickets := by
  induction ms generalizing t with
  | nil => rfl
  | cons m ms ih => rw [moves_cons, ih, tickets_move]

@[simp] theorem handles_moves (t : Testbed) (ms : List Move) :
    (t.moves ms).handles = t.handles := by
  induction ms generalizing t with
  | nil => rfl
  | cons m ms ih => rw [moves_cons, ih, handles_move]

theorem queue_serve (t : Testbed) : (t.move .serve).queue = t.queue.tail := by
  unfold Testbed.move
  cases hq : t.queue with
  | nil => exact hq
  | cons p rest => rfl

/-! ### A bench without its clock -/

end Testbed

/-- The bench without time and without those who wait for room. -/
def Bench.testbed (b : Bench) : Testbed where
  device := b.device
  queue := b.queue
  answers := b.answers
  tickets := b.tickets
  handles := b.handles

namespace Bench

@[simp] theorem testbed_promise (b : Bench) : b.promise.testbed = b.testbed := rfl

@[simp] theorem testbed_withdraw (b : Bench) (o : Origin) :
    (b.withdraw o).testbed = b.testbed := rfl

theorem endTransmissions_eq (b : Bench) :
    b.endTransmissions = (b.transmissions.filter fun t => !isCurrent b.device t).foldl
      (fun b t => b.withdraw (.transmission t.number))
      { b with transmissions := b.transmissions.filter (isCurrent b.device) } := by
  unfold endTransmissions
  rw [List.partition_eq_filter_filter]
  rfl

/-- What lasts while transmissions are taken out of the line lasts while those end whose flows have
stopped. -/
theorem endTransmissions_keeps {P : Bench → Prop} {b : Bench}
    (hwithdraw : ∀ {b : Bench} (number : Nat), P b → P (b.withdraw (.transmission number)))
    (h : P { b with transmissions := b.transmissions.filter (isCurrent b.device) }) :
    P b.endTransmissions := by
  have hfold : ∀ (ts : List Transmission) {b : Bench}, P b →
      P (ts.foldl (fun b t => b.withdraw (.transmission t.number)) b) := by
    intro ts
    induction ts with
    | nil => exact fun h => h
    | cons t ts ih => exact fun h => ih (hwithdraw t.number h)
  rw [endTransmissions_eq]
  exact hfold _ h

@[simp] theorem testbed_endTransmissions (b : Bench) :
    b.endTransmissions.testbed = b.testbed :=
  endTransmissions_keeps (P := fun b' => b'.testbed = b.testbed) (fun _ h => h) rfl

@[simp] theorem testbed_beginTransmission (before : Device) (r : Request) (b : Bench) :
    (beginTransmission before r b).testbed = b.testbed := by
  unfold beginTransmission
  split
  · split <;> rfl
  · rfl

theorem testbed_deliver (b : Bench) (o : Origin) (a : Option Answer) :
    (b.deliver o a).testbed =
      { b.testbed with answers := b.answers ++ Testbed.noted o a } := by
  cases o <;> cases a <;> simp [deliver, Testbed.noted, testbed]

/-- Serving a request is the same with and without a clock. -/
theorem testbed_serve (b : Bench) (p : Parcel) : (b.serve p).testbed = b.testbed.serve p := by
  unfold serve
  rw [testbed_promise, testbed_endTransmissions, testbed_beginTransmission, testbed_deliver]
  rfl

/-- So is the end of programming. -/
theorem testbed_program (b : Bench) : b.program.testbed = b.testbed.program := rfl

end Bench

/-! ### Tickets -/

namespace Testbed

/-- Whether everything under way has one of the tickets that were given out. -/
structure Fresh (t : Testbed) : Prop where
  answers : ∀ a ∈ t.answers, a.1 < t.tickets
  owed : ∀ o ∈ t.device.owed, o.ticket < t.tickets
  queue : ∀ p ∈ t.queue, p.IsBefore t.tickets

theorem mem_noted_iff {o : Origin} {a : Option Answer} {x : Nat × Answer} :
    x ∈ noted o a ↔ o = .caller x.1 ∧ a = some x.2 := by
  cases o <;> cases a <;> simp [noted, Prod.ext_iff, eq_comm]

/-- Serving withholds results for the ticket of a request that isn't answered. -/
theorem owed_served {d : Device} {p : Parcel} {n : Nat} (hp : p.IsBefore n) :
    ∀ o ∈ (d.serve (Bench.ticketOf p.origin) p.request).1.owed,
      o ∈ d.owed ∨ p.origin = .caller o.ticket := by
  intro o ho
  rcases hp with ⟨number, flow, rfl⟩ | ⟨k, -, hk⟩
  · change o ∈ (d.transmit flow).owed at ho
    rw [Device.owed_transmit] at ho
    exact .inl ho
  · rw [hk] at ho
    rcases Device.owed_serve k d p.request o ho with ho | ⟨ho, -⟩
    · exact .inl ho
    · exact .inr (by rw [hk, ho])

/-- The results that are sent after programming were withheld before. -/
theorem mem_process {d : Device} {x : Nat × Answer} (hx : x ∈ d.process.2) :
    ∃ o ∈ d.owed, o.ticket = x.1 := by
  change x ∈ (d.owed.map _).map _ at hx
  rw [List.map_map, List.mem_map] at hx
  obtain ⟨o, ho, rfl⟩ := hx
  exact ⟨o, ho, rfl⟩

theorem Fresh.move {t : Testbed} (h : t.Fresh) (m : Move) : (t.move m).Fresh := by
  cases m with
  | serve =>
    unfold Testbed.move
    cases hq : t.queue with
    | nil => exact h
    | cons p rest =>
      have hp : p.IsBefore t.tickets := h.queue p (by simp [hq])
      refine ⟨fun a ha => ?_, fun o ho => ?_, fun q hqr => ?_⟩
      · rcases List.mem_append.1 ha with ha | ha
        · exact h.answers a ha
        · exact hp.lt_of_origin (mem_noted_iff.1 ha).1
      · rcases owed_served hp o ho with ho | ho
        · exact h.owed o ho
        · exact hp.lt_of_origin ho
      · exact h.queue q (by rw [hq]; exact List.mem_cons_of_mem p hqr)
  | program =>
    refine ⟨fun a ha => ?_, fun o ho => (List.not_mem_nil ho).elim, h.queue⟩
    rcases List.mem_append.1 ha with ha | ha
    · exact h.answers a ha
    · obtain ⟨o, ho, hoa⟩ := mem_process ha
      have := h.owed o ho
      show a.1 < t.tickets
      omega
  | tick number flow =>
    refine ⟨h.answers, h.owed, fun p hp => ?_⟩
    rcases List.mem_append.1 hp with hp | hp
    · exact h.queue p hp
    · exact .inl ⟨number, flow, List.mem_singleton.1 hp⟩

theorem Fresh.moves {t : Testbed} (h : t.Fresh) (ms : List Move) : (t.moves ms).Fresh := by
  induction ms generalizing t with
  | nil => exact h
  | cons m ms ih => exact ih (h.move m)

end Testbed

/-! ### What will be true when the queue is empty -/

/-- A property that ticks and processing keep. -/
structure Device.Steady (P : Device → Prop) : Prop where
  tick : ∀ {d : Device} (flow : String), P d → P (d.transmit flow)
  process : ∀ {d : Device}, P d → P d.process.1

theorem Device.Steady.or {P Q : Device → Prop} (hP : Steady P) (hQ : Steady Q) :
    Steady fun d => P d ∨ Q d where
  tick flow h := h.imp (hP.tick flow) (hQ.tick flow)
  process h := h.imp hP.process hQ.process

/-- The device after so many rounds of processing. -/
def Device.processTimes : Nat → Device → Device
  | 0, d => d
  | n + 1, d => processTimes n d.process.1

/-- Whether a property will hold of the device once the queue has been served, with any processing
on the way. -/
def Drains (P : Device → Prop) : List Parcel → Device → Prop
  | [], d => P d
  | p :: rest, d => ∀ n,
    Drains P rest ((d.processTimes n).serve (Bench.ticketOf p.origin) p.request).1

namespace Drains

variable {P Q : Device → Prop} {q : List Parcel} {d : Device}

theorem mono (hPQ : ∀ d, P d → Q d) (h : Drains P q d) : Drains Q q d := by
  induction q generalizing d with
  | nil => exact hPQ d h
  | cons p q ih => exact fun n => ih (h n)

/-- What will be true can be true. -/
theorem holds_somewhere (h : Drains P q d) : ∃ d, P d := by
  induction q generalizing d with
  | nil => exact ⟨d, h⟩
  | cons p q ih => exact ih (h 0)

theorem process (hP : Device.Steady P) (h : Drains P q d) : Drains P q d.process.1 := by
  cases q with
  | nil => exact hP.process h
  | cons p q => exact fun n => h (n + 1)

theorem processTimes (hP : Device.Steady P) (h : P d) (n : Nat) : P (d.processTimes n) := by
  induction n generalizing d with
  | zero => exact h
  | succ n ih => exact ih (hP.process h)

/-- A request at the end of the queue is served after all others. -/
theorem append {o : Origin} {r : Request} (hP : Device.Steady P)
    (hr : ∀ d ticket, P d → Q (d.serve ticket r).1) (h : Drains P q d) :
    Drains Q (q ++ [{ origin := o, request := r }]) d := by
  induction q generalizing d with
  | nil => exact fun n => hr _ _ (processTimes hP h n)
  | cons p q ih => exact fun n => ih (h n)

theorem tick {number : Nat} {flow : String} (hP : Device.Steady P) (h : Drains P q d) :
    Drains P (q ++ [{ origin := .transmission number, request := .tick flow }]) d :=
  h.append hP fun _ _ hd => hP.tick flow hd

/-- Ticks at the end of the queue change nothing. -/
theorem ticks {l : List Parcel} (hP : Device.Steady P) (hl : ∀ p ∈ l, p.IsTick)
    (h : Drains P q d) : Drains P (q ++ l) d := by
  induction l generalizing q with
  | nil => rwa [List.append_nil]
  | cons p l ih =>
    obtain ⟨number, flow, rfl⟩ := hl p List.mem_cons_self
    have hl' : ∀ p ∈ l, p.IsTick := fun p hp => hl p (List.mem_cons_of_mem _ hp)
    rw [List.append_cons]
    exact ih hl' (h.tick hP)

/-- Ticks alone change nothing. -/
theorem of_ticks (hP : Device.Steady P) (hq : ∀ p ∈ q, p.IsTick) (h : P d) : Drains P q d :=
  ticks (q := []) hP hq h

end Drains

namespace Testbed

variable {P : Device → Prop} {t : Testbed}

theorem drains_move (hP : Device.Steady P) (h : Drains P t.queue t.device) (m : Move) :
    Drains P (t.move m).queue (t.move m).device := by
  cases m with
  | serve =>
    unfold Testbed.move
    cases hq : t.queue with
    | nil =>
      rw [hq] at h
      simpa only [hq] using h
    | cons p rest =>
      rw [hq] at h
      exact h 0
  | program => exact h.process hP
  | tick number flow => exact h.tick hP

theorem drains_moves (hP : Device.Steady P) (h : Drains P t.queue t.device) (ms : List Move) :
    Drains P (t.moves ms).queue (t.moves ms).device := by
  induction ms generalizing t with
  | nil => exact h
  | cons m ms ih => exact ih (drains_move hP h m)

/-- Whether a property will be true once the testbed has served every request. -/
structure Tends (P : Device → Prop) (t : Testbed) : Prop where
  fresh : t.Fresh
  drains : Drains P t.queue t.device

theorem Tends.mono {Q : Device → Prop} (hPQ : ∀ d, P d → Q d) (h : t.Tends P) : t.Tends Q :=
  ⟨h.fresh, h.drains.mono hPQ⟩

theorem Tends.moves (hP : Device.Steady P) (h : t.Tends P) (ms : List Move) :
    (t.moves ms).Tends P :=
  ⟨h.fresh.moves ms, drains_moves hP h.drains ms⟩

/-- The callers' ends of the sessions don't matter to the device. -/
theorem Tends.withHandles (h : t.Tends P) (handles : Table Nat Handle) :
    { t with handles }.Tends P :=
  ⟨⟨h.fresh.answers, h.fresh.owed, h.fresh.queue⟩, h.drains⟩

/-- Once the testbed has served every request, what was to become true is true. -/
theorem Tends.drained (hP : Device.Steady P) (h : t.Tends P) {ms : List Move}
    (hq : (t.moves ms).queue = []) : P (t.moves ms).device := by
  have hd := (h.moves hP ms).drains
  rwa [hq] at hd

end Testbed

end RoutePreference
