import RoutePreference.Proofs.Bench.Followed
import RoutePreference.Proofs.Device.Acknowledgement

/-!
# What a caller hears

* `Testbed.events`: what happens at the device in the course of moves;
* `device_moves`, `answers_moves`: moves change the device as these events do, and note no answer
  that isn't given in their course;
* `Testbed.Progress`: a request behind others waits, or is served with nothing but ticks behind it;
* `Paced.Heard`, `Paced.exchange_heard`: the answer that a caller hears is what the testbed says to
  the caller's request, at whatever pace.
-/

namespace RoutePreference

/-- A request from the queue, as what happens at the device. -/
def Parcel.event (p : Parcel) : Event := .serve (Bench.ticketOf p.origin) p.request

namespace Parcel

theorem IsTick.idle {p : Parcel} (h : p.IsTick) : p.event.Idle := by
  obtain ⟨number, flow, rfl⟩ := h
  exact ⟨flow, rfl⟩

theorem IsBefore.not_isFor {p : Parcel} {ticket : Nat} (h : p.IsBefore ticket) :
    ¬ p.event.IsFor ticket := by
  obtain h | ⟨n, hn, ho⟩ := h
  · exact h.idle.not_isFor ticket
  · rintro ⟨ht, -⟩
    rw [ho] at ht
    exact absurd ht (Nat.ne_of_lt hn)

end Parcel

namespace Testbed

/-- What happens at the device in one move. -/
def eventsOf (t : Testbed) : Move → List Event
  | .serve => t.queue.head?.toList.map Parcel.event
  | .program => [.process]
  | .tick _ _ => []

/-- What happens at the device in the course of moves. -/
def events (t : Testbed) : List Move → List Event
  | [] => []
  | m :: ms => t.eventsOf m ++ (t.move m).events ms

variable {t : Testbed} {ticket : Nat} {r : Request}

theorem device_move (t : Testbed) (m : Move) :
    (t.move m).device = t.device.after (t.eventsOf m) := by
  cases m with
  | serve =>
    unfold Testbed.move eventsOf
    cases t.queue <;> rfl
  | program => rfl
  | tick number flow => rfl

theorem device_moves (t : Testbed) (ms : List Move) :
    (t.moves ms).device = t.device.after (t.events ms) := by
  induction ms generalizing t with
  | nil => rfl
  | cons m ms ih => rw [moves_cons, ih, device_move, events, Device.after_append]

theorem answers_move {m : Move} {x : Nat × Answer} (hx : x ∈ (t.move m).answers) :
    x ∈ t.answers ∨ x ∈ t.device.repliesIn (t.eventsOf m) := by
  cases m with
  | serve =>
    unfold Testbed.move at hx
    unfold eventsOf
    cases hq : t.queue with
    | nil =>
      rw [hq] at hx
      exact .inl hx
    | cons p rest =>
      rw [hq] at hx
      refine (List.mem_append.1 hx).imp id fun hx => ?_
      obtain ⟨ho, ha⟩ := mem_noted_iff.1 hx
      show x ∈ (t.device.serve (Bench.ticketOf p.origin) p.request).2.toList.map _ ++ []
      rw [ho] at ha ⊢
      change (t.device.serve x.1 p.request).2 = some x.2 at ha
      simp [Bench.ticketOf, ha]
  | program =>
    refine (List.mem_append.1 hx).imp id fun hx => ?_
    exact List.mem_append_left _ hx
  | tick number flow => exact .inl hx

theorem answers_moves {ms : List Move} {x : Nat × Answer} (hx : x ∈ (t.moves ms).answers) :
    x ∈ t.answers ∨ x ∈ t.device.repliesIn (t.events ms) := by
  induction ms generalizing t with
  | nil => exact .inl hx
  | cons m ms ih =>
    rw [events, Device.repliesIn_append, List.mem_append, ← device_move]
    obtain hx | hx := ih hx
    · exact (answers_move hx).imp id .inl
    · exact .inr (.inr hx)

/-! ### Where a request is -/

theorem isTick_concat {l : List Parcel} (h : ∀ p ∈ l, p.IsTick) {number : Nat} {flow : String} :
    ∀ p ∈ l ++ [{ origin := .transmission number, request := .tick flow }], p.IsTick := by
  intro p hp
  obtain hp | hp := List.mem_append.1 hp
  · exact h p hp
  · exact ⟨number, flow, List.mem_singleton.1 hp⟩

/-- With nothing but ticks in the queue, nothing else is served. -/
theorem events_of_ticks (hq : ∀ p ∈ t.queue, p.IsTick) (ms : List Move) :
    (∀ e ∈ t.events ms, e.Idle) ∧ ∀ p ∈ (t.moves ms).queue, p.IsTick := by
  induction ms generalizing t with
  | nil => exact ⟨fun _ he => (List.not_mem_nil he).elim, hq⟩
  | cons m ms ih =>
    have hidle : ∀ e ∈ t.eventsOf m, e.Idle := by
      cases m with
      | serve =>
        intro e he
        obtain ⟨p, hp, rfl⟩ := List.mem_map.1 he
        exact (hq p (List.mem_of_head? (Option.mem_toList.1 hp))).idle
      | program => exact fun e he => List.mem_singleton.1 he ▸ trivial
      | tick number flow => exact fun _ he => (List.not_mem_nil he).elim
    have hticks : ∀ p ∈ (t.move m).queue, p.IsTick := by
      cases m with
      | serve =>
        rw [queue_serve]
        exact fun p hp => hq p (List.mem_of_mem_tail hp)
      | program => exact hq
      | tick number flow => exact isTick_concat hq
    obtain ⟨hrest, hend⟩ := ih hticks
    exact ⟨fun e he => (List.mem_append.1 he).elim (hidle e) (hrest e), hend⟩

/-- How far a request has got when the listed events have happened and some requests are left in
the queue: it waits still, and the events all have a property; or it was served after such events,
with nothing but ticks behind it. -/
inductive Progress (P : Event → Prop) (ticket : Nat) (r : Request) (left : List Parcel) :
    List Event → Prop where
  | waits {es : List Event} (all : ∀ e ∈ es, P e) : Progress P ticket r left es
  | served (h₀ h : List Event) (before : ∀ e ∈ h₀, P e) (idle : ∀ e ∈ h, e.Idle)
    (ticks : ∀ p ∈ left, p.IsTick) : Progress P ticket r left (h₀ ++ .serve ticket r :: h)

theorem Progress.append {P : Event → Prop} {left : List Parcel} {es es' : List Event}
    (h : Progress P ticket r left es') (hes : ∀ e ∈ es, P e) :
    Progress P ticket r left (es ++ es') := by
  cases h with
  | waits all => exact .waits fun e he => (List.mem_append.1 he).elim (hes e) (all e)
  | served h₀ h before idle ticks =>
    rw [← List.append_assoc]
    exact .served _ h (fun e he => (List.mem_append.1 he).elim (hes e) (before e)) idle ticks

/-- A request in the queue makes such progress when those before it have the property. -/
theorem progress_moves {P : Event → Prop} (hP : P .process) (before ticks : List Parcel)
    (hq : t.queue = before ++ { origin := .caller ticket, request := r } :: ticks)
    (hbefore : ∀ p ∈ before, P p.event) (hticks : ∀ p ∈ ticks, p.IsTick) (ms : List Move) :
    Progress P ticket r (t.moves ms).queue (t.events ms) := by
  induction ms generalizing t before ticks with
  | nil => exact .waits fun _ he => (List.not_mem_nil he).elim
  | cons m ms ih =>
    cases m with
    | program =>
      have hrest := ih before ticks (t := t.program) hq hbefore hticks
      exact hrest.append fun e he => List.mem_singleton.1 he ▸ hP
    | tick number flow =>
      have hrest := ih before (ticks ++ [{ origin := .transmission number, request := .tick flow }])
        (t := t.move (.tick number flow))
        (by rw [← List.cons_append, ← List.append_assoc, ← hq]; rfl) hbefore (isTick_concat hticks)
      exact hrest.append fun _ he => (List.not_mem_nil he).elim
    | serve =>
      cases before with
      | cons p before =>
        have hrest := ih before ticks (t := t.move .serve) (by rw [queue_serve, hq]; rfl)
          (fun p hp => hbefore p (List.mem_cons_of_mem _ hp)) hticks
        refine hrest.append fun e he => ?_
        rw [eventsOf, hq] at he
        rw [List.mem_singleton.1 he]
        exact hbefore p List.mem_cons_self
      | nil =>
        -- it is the turn of the request itself
        have hqueue : (t.move .serve).queue = ticks := by rw [queue_serve, hq]; rfl
        obtain ⟨hidle, hend⟩ := events_of_ticks (hqueue ▸ hticks) ms
        rw [events, eventsOf, hq]
        exact .served [] _ (fun _ he => (List.not_mem_nil he).elim) hidle hend

/-- Nothing is owed to a ticket that wasn't given out. -/
theorem Fresh.owedTo (h : t.Fresh) : t.device.owedTo t.tickets = [] :=
  Device.owedTo_eq_nil_iff.2 fun o ho => Nat.ne_of_lt (h.owed o ho)

/-- An answer to a new request is what was said to it once it was served, when nothing but ticks
was left to be served. -/
theorem heard {a : Answer} {ms : List Move} (hf : t.Fresh)
    (ha : ((t.ask r).moves ms).answerFor? t.tickets = some a) :
    ∃ h₀ h, (t.ask r).events ms = h₀ ++ .serve t.tickets r :: h ∧
      (∀ e ∈ h₀, ¬ e.IsFor t.tickets) ∧ ((∀ p ∈ t.queue, p.IsTick) → ∀ e ∈ h₀, e.Idle) ∧
      a ∈ (t.device.after h₀).repliesTo t.tickets (.serve t.tickets r :: h) ∧
      (∀ e ∈ h, e.Idle) ∧ ∀ p ∈ ((t.ask r).moves ms).queue, p.IsTick := by
  have hsaid : a ∈ t.device.repliesTo t.tickets ((t.ask r).events ms) := by
    unfold answerFor? at ha
    obtain ⟨x, hx, rfl⟩ := Option.map_eq_some_iff.1 ha
    have hxt : x.1 = t.tickets := by simpa using List.find?_some hx
    obtain hold | hnew := answers_moves (List.mem_of_find?_eq_some hx)
    · exact absurd hxt (Nat.ne_of_lt (hf.answers x hold))
    · rw [Device.mem_repliesTo_iff, ← hxt]
      exact hnew
  have hprogress := progress_moves (t := t.ask r)
    (P := fun e => ¬ e.IsFor t.tickets ∧ ((∀ p ∈ t.queue, p.IsTick) → e.Idle))
    ⟨id, fun _ => trivial⟩ t.queue [] rfl
    (fun p hp => ⟨(hf.queue p hp).not_isFor, fun hq => (hq p hp).idle⟩)
    (fun _ hp => (List.not_mem_nil hp).elim) ms
  generalize (t.ask r).events ms = es at hprogress hsaid
  cases hprogress with
  | waits all =>
    -- as long as the request waits, nothing is said to it
    rw [(Device.settled_replies (fun e he => (all e he).1) hf.owedTo).1] at hsaid
    cases hsaid
  | served h₀ h before idle ticks =>
    have hother : ∀ e ∈ h₀, ¬ e.IsFor t.tickets := fun e he => (before e he).1
    rw [Device.repliesTo_append, (Device.settled_replies hother hf.owedTo).1,
      List.nil_append] at hsaid
    exact ⟨h₀, h, rfl, hother, fun hq e he => (before e he).2 hq, hsaid, idle, ticks⟩

end Testbed

/-! ### One exchange -/

namespace Paced

variable {s s' : Paced} {r : Request} {a : Answer}

/-- What has happened when a caller has heard an answer: the request was served with a new ticket,
the answer is what was said to it, and nothing but ticks was served afterwards. -/
inductive Heard (s : Paced) (r : Request) (a : Answer) (s' : Paced) : Prop where
  | intro (ticket : Nat) (h₀ h : List Event)
    (before : (∀ p ∈ s.testbed.queue, p.IsTick) → ∀ e ∈ h₀, e.Idle)
    (new : (s.testbed.device.after h₀).owedTo ticket = [])
    (said : a ∈ (s.testbed.device.after h₀).repliesTo ticket (.serve ticket r :: h))
    (idle : ∀ e ∈ h, e.Idle)
    (device : s'.testbed.device = (s.testbed.device.after h₀).after (.serve ticket r :: h))
    (fresh : s'.testbed.Fresh) (ticks : ∀ p ∈ s'.testbed.queue, p.IsTick)

/-- **A caller hears what the testbed has said**, at any pace. -/
theorem exchange_heard (hf : s.testbed.Fresh) (hx : s.exchange r = (some a, s')) :
    Heard s r a s' := by
  unfold exchange at hx
  dsimp only at hx
  split at hx
  · split at hx
    · next x hanswer =>
      cases hx
      split at hanswer
      · have hwaiting := hf.moves s.pace.before
        obtain ⟨h₀, h, hevents, hother, hbefore, hsaid, hidle, hend⟩ :=
          Testbed.heard hwaiting hanswer
        have hdevice := Testbed.device_moves s.testbed s.pace.before
        refine .intro (s.testbed.moves s.pace.before).tickets
          (s.testbed.events s.pace.before ++ h₀) h (fun hq e he => ?_) ?_ ?_ hidle ?_
          ((((hwaiting.ask r).moves s.pace.during)).pickUp _) hend
        · obtain ⟨hpast, hticks⟩ := Testbed.events_of_ticks hq s.pace.before
          exact (List.mem_append.1 he).elim (hpast e) (hbefore hticks e)
        · rw [Device.after_append, ← hdevice]
          exact (Device.settled_replies hother hwaiting.owedTo).2
        · rw [Device.after_append, ← hdevice]
          exact hsaid
        · rw [Device.after_append, ← hdevice]
          show (((s.testbed.moves s.pace.before).ask r).moves s.pace.during).device = _
          rw [Testbed.device_moves, hevents, Device.after_append]
          rfl
      · cases hanswer
    · cases hx
  · cases hx

end Paced

end RoutePreference
