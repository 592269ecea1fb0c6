import RoutePreference.Proofs.Bench.Kept
import RoutePreference.Proofs.Bench.Paced

/-!
# What happens on a clock

* `Bench.Waits`: who waits for room in the queue: transmissions with their ticks, and one caller at
  most;
* `Bench.Runs`: one bench after another, by moves of the testbed and the transmissions alone;
* `kept_runs`, `runs_settle`, `runs_passUntil`: whatever happens on the clock is a list of moves;
* `Awaited`: what a caller who waits for an answer can make of a testbed;
* `exchange_awaited`: what became of an exchange on the clock.
-/

namespace RoutePreference

namespace Bench

variable {b b' b'' : Bench} {ticket : Nat} {w : List Parcel}

/-- Who is there, and who waits for room. -/
def waiting (b : Bench) : Bool × List Parcel × List Parcel := (b.up, b.line, b.promised)

/-- The testbed is there, and for room in its queue wait these requests of a caller, besides ticks
of transmissions. -/
structure Waits (ticket : Nat) (w : List Parcel) (b : Bench) : Prop where
  up : b.up = true
  ticks : ∀ p ∈ b.line ++ b.promised, p.origin ≠ .caller ticket → p.IsTick
  caller : ((b.line ++ b.promised).filter (·.origin = .caller ticket)).Perm w

theorem Waits.congr (h : b.Waits ticket w) (hb : b'.waiting = b.waiting) : b'.Waits ticket w := by
  obtain ⟨hup, hline, hpromised⟩ : b'.up = b.up ∧ b'.line = b.line ∧ b'.promised = b.promised := by
    simpa [waiting] using hb
  refine ⟨hup.trans h.up, ?_, ?_⟩
  · rw [hline, hpromised]
    exact h.ticks
  · rw [hline, hpromised]
    exact h.caller

/-- The order in which they wait doesn't matter. -/
theorem Waits.perm (h : b.Waits ticket w) (hup : b'.up = b.up)
    (hp : (b'.line ++ b'.promised).Perm (b.line ++ b.promised)) : b'.Waits ticket w where
  up := hup.trans h.up
  ticks p hm := h.ticks p (hp.mem_iff.1 hm)
  caller := (hp.filter _).trans h.caller

theorem Waits.promise (h : b.Waits ticket w) : b.promise.Waits ticket w := by
  refine @Waits.perm b b.promise ticket w h rfl ?_
  have hsplit : (b.line.take b.room ++ b.line.drop b.room) = b.line := List.take_append_drop ..
  show (b.line.drop b.room ++ (b.promised ++ b.line.take b.room)).Perm (b.line ++ b.promised)
  refine List.perm_append_comm.trans ?_
  rw [List.append_assoc, hsplit]
  exact List.perm_append_comm

/-- Someone else is taken out of the line. -/
theorem Waits.withdraw (h : b.Waits ticket w) {o : Origin} (ho : o ≠ .caller ticket) :
    (b.withdraw o).Waits ticket w := by
  refine Waits.promise (b := { b with
    line := b.line.filter (·.origin ≠ o)
    promised := b.promised.filter (·.origin ≠ o) }) ⟨h.up, fun p hp => ?_, ?_⟩
  · rw [← List.filter_append] at hp
    exact h.ticks p (List.mem_filter.1 hp).1
  · have hsame : ((b.line ++ b.promised).filter (·.origin ≠ o)).filter
          (·.origin = .caller ticket) =
        (b.line ++ b.promised).filter (·.origin = .caller ticket) := by
      rw [List.filter_filter]
      refine List.filter_congr fun p _ => ?_
      by_cases hp : p.origin = .caller ticket
      · simp [hp, Ne.symm ho]
      · simp [hp]
    show ((b.line.filter _ ++ b.promised.filter _).filter _).Perm w
    rw [← List.filter_append, hsame]
    exact h.caller

/-- The caller is taken out of the line. -/
theorem Waits.abandon (h : b.Waits ticket w) : (b.abandon ticket).Waits ticket [] := by
  refine Waits.promise (b := { b with
    line := b.line.filter (·.origin ≠ .caller ticket)
    promised := b.promised.filter (·.origin ≠ .caller ticket) }) ⟨h.up, fun p hp => ?_, ?_⟩
  · rw [← List.filter_append] at hp
    exact h.ticks p (List.mem_filter.1 hp).1
  · show ((b.line.filter _ ++ b.promised.filter _).filter _).Perm []
    rw [← List.filter_append, List.filter_filter, List.filter_eq_nil_iff.2]
    intro p _
    simp

/-! ### What happens by itself -/

/-- Whether one bench comes after another by moves of the testbed and the transmissions alone. -/
structure Runs (ticket : Nat) (w : List Parcel) (b b' : Bench) : Prop where
  waits : b'.Waits ticket w
  moves : ∃ ms, b'.testbed = b.testbed.moves ms

theorem Runs.refl (h : b.Waits ticket w) : Runs ticket w b b := ⟨h, [], rfl⟩

theorem Runs.trans (h : Runs ticket w b b') (h' : Runs ticket w b' b'') : Runs ticket w b b'' := by
  obtain ⟨ms, hms⟩ := h.moves
  obtain ⟨ms', hms'⟩ := h'.moves
  exact ⟨h'.waits, ms ++ ms', by rw [hms', hms, Testbed.moves_append]⟩

/-- What is neither in the queue nor waits for room doesn't count. -/
theorem Runs.of_eq (h : b.Waits ticket w) (hb : b'.waiting = b.waiting)
    (ht : b'.testbed = b.testbed) : Runs ticket w b b' := ⟨h.congr hb, [], ht⟩

theorem waits_endTransmissions (h : b.Waits ticket w) : b.endTransmissions.Waits ticket w :=
  endTransmissions_keeps (fun _ h => h.withdraw (by simp)) (h.congr rfl)

@[simp] theorem waiting_deliver (b : Bench) (o : Origin) (a : Option Answer) :
    (b.deliver o a).waiting = b.waiting := by
  cases o <;> cases a <;> rfl

@[simp] theorem waiting_beginTransmission (before : Device) (r : Request) (b : Bench) :
    (beginTransmission before r b).waiting = b.waiting := by
  unfold beginTransmission
  split
  · split <;> rfl
  · rfl

theorem waits_serve (h : b.Waits ticket w) (p : Parcel) : (b.serve p).Waits ticket w := by
  unfold serve
  refine (waits_endTransmissions (h.congr ?_)).promise
  rw [waiting_beginTransmission, waiting_deliver]
  rfl

theorem runs_workOnce (h : b.Waits ticket w) : Runs ticket w b b.workOnce := by
  unfold workOnce
  split
  · exact ⟨h.congr rfl, [.program], testbed_program b⟩
  · split
    · exact .of_eq h rfl rfl
    · split
      · exact .refl h
      · next p rest hq =>
        refine ⟨waits_serve (b := { b with queue := rest }) (h.congr rfl) p, [.serve], ?_⟩
        rw [testbed_serve, Testbed.moves_cons, Testbed.moves_nil, Testbed.move]
        have hq' : b.testbed.queue = p :: rest := hq
        simp only [hq']
        rfl

/-- Ticks that come into the queue one after the other. -/
theorem moves_ticks (t : Testbed) {l : List Parcel} (hl : ∀ p ∈ l, p.IsTick) :
    ∃ ms, { t with queue := t.queue ++ l } = t.moves ms := by
  induction l generalizing t with
  | nil => exact ⟨[], by rw [List.append_nil]; rfl⟩
  | cons p l ih =>
    obtain ⟨number, flow, rfl⟩ := hl p List.mem_cons_self
    obtain ⟨ms, hms⟩ := ih (t.move (.tick number flow)) fun p hp => hl p (List.mem_cons_of_mem _ hp)
    refine ⟨.tick number flow :: ms, ?_⟩
    rw [Testbed.moves_cons, ← hms]
    show ({ t with queue := _ } : Testbed) = { t with queue := _ }
    rw [List.append_cons]
    rfl

/-- A transmission sends a tick, or gets into the line with it. -/
theorem runs_send_tick (h : b.Waits ticket w) (number : Nat) (flow : String) :
    Runs ticket w b (b.send { origin := .transmission number, request := .tick flow }) := by
  unfold send
  split
  · exact ⟨h.congr rfl, [.tick number flow], rfl⟩
  · refine ⟨⟨h.up, fun p hp hne => ?_, ?_⟩, [], rfl⟩
    · rcases List.mem_append.1 hp with hp | hp
      · rcases List.mem_append.1 hp with hp | hp
        · exact h.ticks p (List.mem_append_left _ hp) hne
        · exact ⟨number, flow, List.mem_singleton.1 hp⟩
      · exact h.ticks p (List.mem_append_right _ hp) hne
    · show ((b.line ++ [_] ++ b.promised).filter _).Perm w
      rw [List.append_assoc, List.filter_append, List.singleton_append, List.filter_cons_of_neg,
        ← List.filter_append]
      · exact h.caller
      · simp

/-- Room that was promised to a transmission is filled with its ticks. -/
theorem runs_fill (h : b.Waits ticket w) (number : Nat) :
    Runs ticket w b (b.fill (.transmission number)) := by
  have hticks : ∀ p ∈ b.promised.filter (·.origin = .transmission number), p.IsTick := by
    intro p hp
    obtain ⟨hmem, ho⟩ := List.mem_filter.1 hp
    have ho' : p.origin = .transmission number := by simpa using ho
    exact h.ticks p (List.mem_append_right _ hmem) (by rw [ho']; simp)
  refine ⟨⟨h.up, fun p hp hne => ?_, ?_⟩, moves_ticks b.testbed hticks⟩
  · rcases List.mem_append.1 hp with hp | hp
    · exact h.ticks p (List.mem_append_left _ hp) hne
    · exact h.ticks p (List.mem_append_right _ (List.mem_filter.1 hp).1) hne
  · have hsame : (b.promised.filter (·.origin ≠ .transmission number)).filter
        (·.origin = .caller ticket) = b.promised.filter (·.origin = .caller ticket) := by
      rw [List.filter_filter]
      refine List.filter_congr fun p _ => ?_
      by_cases hp : p.origin = .caller ticket <;> simp [hp]
    show ((b.line ++ b.promised.filter _).filter _).Perm w
    rw [List.filter_append, hsame, ← List.filter_append]
    exact h.caller

theorem runs_sendTick (h : b.Waits ticket w) (t : Transmission) :
    Runs ticket w b (b.sendTick t) := by
  unfold sendTick
  dsimp only
  split
  · have hfill := runs_fill h t.number
    exact hfill.trans (.of_eq hfill.waits rfl rfl)
  · have hsend := runs_send_tick h t.number t.flow
    exact hsend.trans (.of_eq hsend.waits rfl rfl)

theorem runs_clock (h : b.Waits ticket w) (t : Nat) : Runs ticket w b { b with clock := t } :=
  .of_eq h rfl rfl

/-- **Whatever happens by itself** is a list of moves. -/
theorem kept_runs (ticket : Nat) (w : List Parcel) (b : Bench) : Kept (Runs ticket w b) where
  clock t h := h.trans (runs_clock h.waits t)
  workOnce h := h.trans (runs_workOnce h.waits)
  sendTick _ h := h.trans (runs_sendTick h.waits _)

theorem runs_settle (h : b.Waits ticket w) : Runs ticket w b b.settle :=
  (kept_runs ticket w b).settle (.refl h)

theorem runs_passUntil (moment : Nat) (h : b.Waits ticket w) :
    Runs ticket w b (b.passUntil moment) :=
  (kept_runs ticket w b).passUntil moment (.refl h)

/-! ### Waiting for an answer -/

/-- What a caller who waits for the answer under its ticket can make of a testbed: some moves later
the answer is picked up, or the caller gives up. -/
inductive Awaited (ticket : Nat) (t : Testbed) : Option Answer → Testbed → Prop where
  | heard (ms : List Move) {x : Answer} {t' : Testbed}
      (answer : (t.moves ms).answerFor? ticket = some x) (after : t' = (t.moves ms).pickUp ticket) :
      Awaited ticket t (some x) t'
  | givenUp (ms : List Move) {t' : Testbed} (after : t' = t.moves ms) : Awaited ticket t none t'

theorem Awaited.after {t t' : Testbed} {a : Option Answer} {ms : List Move}
    (h : Awaited ticket (t.moves ms) a t') : Awaited ticket t a t' := by
  cases h with
  | heard ms' answer after =>
    rw [← Testbed.moves_append] at answer after
    exact .heard _ answer after
  | givenUp ms' after =>
    rw [← Testbed.moves_append] at after
    exact .givenUp _ after

/-- A caller whose request is in the queue. -/
theorem awaited_queued (limit : Option Nat) (n : Nat) (h : b.Waits ticket []) :
    Awaited ticket b.testbed (awaitEvents ticket limit n b).1
        (awaitEvents ticket limit n b).2.testbed ∧
      (awaitEvents ticket limit n b).2.Waits ticket [] := by
  induction n generalizing b with
  | zero => exact ⟨.givenUp [] rfl, h.abandon⟩
  | succ n ih =>
    have hsettled := runs_settle h
    obtain ⟨ms, hms⟩ := hsettled.moves
    have hpromised : b.settle.isPromised (.caller ticket) = false := by
      have hnone := List.perm_nil.1 hsettled.waits.caller
      rw [List.filter_eq_nil_iff] at hnone
      rw [isPromised, List.any_eq_false]
      exact fun p hp => hnone p (List.mem_append_right _ hp)
    unfold awaitEvents
    dsimp only
    split
    · exact ⟨.givenUp [] rfl, h.abandon⟩
    · rw [hpromised]
      simp only [Bool.false_eq_true, if_false]
      split
      · next a ha =>
        have ha' : (b.testbed.moves ms).answerFor? ticket = some a := by
          rw [← hms]
          exact ha
        exact ⟨.heard ms ha' (by rw [← hms]; rfl), hsettled.waits.congr rfl⟩
      · split
        · next t _ =>
          split
          · exact ⟨.givenUp ms hms, hsettled.waits.abandon.congr rfl⟩
          · have hclock := hsettled.trans (runs_clock hsettled.waits t)
            obtain ⟨hawaited, hwaits⟩ := ih hclock.waits
            rw [show ({ b.settle with clock := t } : Bench).testbed = b.testbed.moves ms from hms]
              at hawaited
            exact ⟨hawaited.after, hwaits⟩
        · exact ⟨.givenUp ms hms, hsettled.waits.abandon.congr rfl⟩

/-- The only request of a caller who was promised room gets into the queue. -/
theorem filled_of_promised {p : Parcel} (h : b.Waits ticket [p])
    (hp : b.isPromised (.caller ticket) = true) :
    (b.fill (.caller ticket)).testbed = b.testbed.send p ∧
      (b.fill (.caller ticket)).Waits ticket [] := by
  have hone := h.caller.length_eq
  have hsome : b.promised.filter (·.origin = .caller ticket) ≠ [] := by
    obtain ⟨q, hq, hqo⟩ := List.any_eq_true.1 hp
    exact List.ne_nil_of_mem (List.mem_filter.2 ⟨hq, hqo⟩)
  have hcaller := h.caller
  rw [List.filter_append] at hone hcaller
  rw [List.length_append, List.length_singleton] at hone
  have hline : b.line.filter (·.origin = .caller ticket) = [] := by
    have := List.length_pos_iff.2 hsome
    exact List.eq_nil_of_length_eq_zero (by omega)
  rw [hline, List.nil_append] at hcaller
  have hqueue : b.promised.filter (·.origin = .caller ticket) = [p] :=
    List.perm_singleton.1 hcaller
  refine ⟨?_, h.up, fun q hq hne => ?_, ?_⟩
  · show ({ b.testbed with queue := b.queue ++ _ } : Testbed) = _
    rw [hqueue]
    rfl
  · rcases List.mem_append.1 hq with hq | hq
    · exact h.ticks q (List.mem_append_left _ hq) hne
    · exact h.ticks q (List.mem_append_right _ (List.mem_filter.1 hq).1) hne
  · show ((b.line ++ b.promised.filter (·.origin ≠ .caller ticket)).filter _).Perm []
    rw [List.filter_append, hline, List.nil_append, List.filter_filter, List.filter_eq_nil_iff.2]
    intro q _
    simp

/-- A caller who waits for room: its request gets into the queue some moves later, or the caller
gives up before. -/
theorem awaited_lined {r : Request} (limit : Option Nat) (n : Nat)
    (h : b.Waits ticket [{ origin := .caller ticket, request := r }])
    (hno : ∀ ms, (b.testbed.moves ms).answerFor? ticket = none) :
    (((awaitEvents ticket limit n b).1 = none ∧
        ∃ ms, (awaitEvents ticket limit n b).2.testbed = b.testbed.moves ms) ∨
      ∃ ms, Awaited ticket
        ((b.testbed.moves ms).send { origin := .caller ticket, request := r })
        (awaitEvents ticket limit n b).1 (awaitEvents ticket limit n b).2.testbed) ∧
      (awaitEvents ticket limit n b).2.Waits ticket [] := by
  induction n generalizing b with
  | zero => exact ⟨.inl ⟨rfl, [], rfl⟩, h.abandon⟩
  | succ n ih =>
    have hsettled := runs_settle h
    obtain ⟨ms, hms⟩ := hsettled.moves
    unfold awaitEvents
    dsimp only
    split
    · exact ⟨.inl ⟨rfl, [], rfl⟩, h.abandon⟩
    · split
      · next hpromised =>
        -- there is room now: the request gets into the queue and is awaited from there
        obtain ⟨hsent, hwaits⟩ := filled_of_promised hsettled.waits hpromised
        rw [hms] at hsent
        obtain ⟨hawaited, hwaits⟩ := awaited_queued limit n hwaits
        rw [hsent] at hawaited
        exact ⟨.inr ⟨ms, hawaited⟩, hwaits⟩
      · -- without room for the request there can't be an answer to it
        have hnone : b.settle.answerFor? ticket = none := by
          have := hno ms
          rw [← hms] at this
          exact this
        rw [hnone]
        dsimp only
        split
        · next t _ =>
          split
          · exact ⟨.inl ⟨rfl, ms, hms⟩, hsettled.waits.abandon.congr rfl⟩
          · have hclock := hsettled.trans (runs_clock hsettled.waits t)
            have ht : ({ b.settle with clock := t } : Bench).testbed = b.testbed.moves ms := hms
            obtain ⟨hend, hwaits⟩ := ih hclock.waits fun ms' => by
              rw [ht, ← Testbed.moves_append]
              exact hno _
            rw [ht] at hend
            refine ⟨hend.imp ?_ ?_, hwaits⟩
            · rintro ⟨ha, ms', hms'⟩
              exact ⟨ha, ms ++ ms', by rw [hms', Testbed.moves_append]⟩
            · rintro ⟨ms', hms'⟩
              exact ⟨ms ++ ms', by rw [Testbed.moves_append]; exact hms'⟩
        · exact ⟨.inl ⟨rfl, ms, hms⟩, hsettled.waits.abandon.congr rfl⟩

/-! ### Calls -/

/-- Whether calls can be made: the testbed is there, nobody but transmissions waits for room, and
no answer is under way to a ticket that wasn't given out. -/
structure Ready (b : Bench) : Prop where
  up : b.up = true
  ticks : ∀ p ∈ b.line ++ b.promised, p.IsTick
  fresh : b.testbed.Fresh

theorem Ready.waits (h : b.Ready) (ticket : Nat) : b.Waits ticket [] where
  up := h.up
  ticks p hp _ := h.ticks p hp
  caller := by
    rw [List.filter_eq_nil_iff.2]
    intro p hp
    obtain ⟨number, flow, rfl⟩ := h.ticks p hp
    simp

theorem Waits.ready (h : b.Waits ticket []) (hf : b.testbed.Fresh) : b.Ready where
  up := h.up
  ticks p hp := by
    have hnone := List.filter_eq_nil_iff.1 (List.perm_nil.1 h.caller) p hp
    exact h.ticks p hp (by simpa using hnone)
  fresh := hf

/-- A testbed of which nothing was asked yet is ready, if the device withholds no results. -/
theorem ready_of_owed {d : Device} (h : d.owed = []) (handles : Table Nat Handle) :
    { device := d, handles : Bench }.Ready where
  up := rfl
  ticks _ hp := (List.not_mem_nil hp).elim
  fresh := ⟨fun _ ha => (List.not_mem_nil ha).elim,
    fun o ho => (List.not_mem_nil (show o ∈ [] from h ▸ ho)).elim,
    fun _ hp => (List.not_mem_nil hp).elim⟩

theorem Awaited.fresh {t t' : Testbed} {a : Option Answer} (h : Awaited ticket t a t')
    (ht : t.Fresh) : t'.Fresh := by
  cases h with
  | heard ms answer after =>
    rw [after]
    exact (ht.moves ms).pickUp ticket
  | givenUp ms after =>
    rw [after]
    exact ht.moves ms

/-- A new request of a caller is put into the queue or gets into the line. -/
theorem sent_or_lined (h : b.Ready) (r : Request) {sent : Bench}
    (hsent : sent = { b with tickets := b.tickets + 1 }.send
      { origin := .caller b.tickets, request := r }) :
    (sent.testbed = b.testbed.ask r ∧ sent.Waits b.tickets []) ∨
      (sent.testbed = b.testbed.giveTicket ∧
        sent.Waits b.tickets [{ origin := .caller b.tickets, request := r }]) := by
  have hwaits := h.waits b.tickets
  unfold send at hsent
  split at hsent
  · subst hsent
    exact .inl ⟨rfl, hwaits.congr rfl⟩
  · subst hsent
    refine .inr ⟨rfl, h.up, fun p hp hne => ?_, ?_⟩
    · rcases List.mem_append.1 hp with hp | hp
      · rcases List.mem_append.1 hp with hp | hp
        · exact h.ticks p (List.mem_append_left _ hp)
        · exact absurd (congrArg Parcel.origin (List.mem_singleton.1 hp)) hne
      · exact h.ticks p (List.mem_append_right _ hp)
    · have hnone := List.perm_nil.1 hwaits.caller
      rw [List.filter_append] at hnone
      obtain ⟨hline, hpromised⟩ := List.append_eq_nil_iff.1 hnone
      show ((b.line ++ [_] ++ b.promised).filter _).Perm _
      rw [List.filter_append, List.filter_append, hline, hpromised]
      simp

/-- There is no answer for a ticket that wasn't given out. -/
theorem answerFor?_of_fresh {t : Testbed} (h : t.Fresh) : t.answerFor? t.tickets = none := by
  refine Option.map_eq_none_iff.2 (List.find?_eq_none.2 fun x hx => ?_)
  have hlt := h.answers x hx
  simp only [decide_eq_true_eq]
  omega

/-- What became of an exchange on the clock: some moves later the caller gives up, or the request
is in the queue and awaited from there. -/
theorem exchange_awaited (limit : Option Nat) (r : Request) (h : b.Ready) :
    ∃ a ms, (b.exchange limit r).1 = a.map .ok ∧ (b.exchange limit r).2.Ready ∧
      (a = none ∧ (b.exchange limit r).2.testbed = (b.testbed.moves ms).giveTicket ∨
        Awaited b.tickets ((b.testbed.moves ms).ask r) a (b.exchange limit r).2.testbed) := by
  have hsent := sent_or_lined h r rfl
  unfold exchange
  rw [if_pos h.up]
  dsimp only
  generalize ({ b with tickets := b.tickets + 1 } : Bench).send
    { origin := .caller b.tickets, request := r } = sent at hsent ⊢
  unfold await
  generalize sent.eventBudget limit = n
  rcases hsent with ⟨ht, hwaits⟩ | ⟨ht, hwaits⟩
  · -- the queue had room
    obtain ⟨hawaited, hafter⟩ := awaited_queued limit n hwaits
    rw [ht] at hawaited
    have hfresh := hawaited.fresh (h.fresh.ask r)
    exact ⟨_, [], rfl, hafter.ready hfresh, .inr hawaited⟩
  · have hno : ∀ ms, (sent.testbed.moves ms).answerFor? b.tickets = none := by
      intro ms
      rw [ht, Testbed.moves_giveTicket]
      have hnone := answerFor?_of_fresh (h.fresh.moves ms)
      rw [Testbed.tickets_moves] at hnone
      exact hnone
    obtain ⟨hend, hafter⟩ := awaited_lined limit n hwaits hno
    rw [ht] at hend
    rcases hend with ⟨hnone, ms, hms⟩ | ⟨ms, hawaited⟩
    · rw [Testbed.moves_giveTicket] at hms
      have hfresh := (h.fresh.moves ms).giveTicket
      rw [← hms] at hfresh
      exact ⟨none, ms, congrArg _ hnone, hafter.ready hfresh, .inl ⟨rfl, hms⟩⟩
    · have hask : (b.testbed.giveTicket.moves ms).send
          { origin := .caller b.tickets, request := r } = (b.testbed.moves ms).ask r := by
        have htickets : (b.testbed.moves ms).tickets = b.tickets := Testbed.tickets_moves ..
        rw [Testbed.moves_giveTicket, Testbed.ask, htickets]
      rw [hask] at hawaited
      have hfresh := hawaited.fresh ((h.fresh.moves ms).ask r)
      exact ⟨_, ms, rfl, hafter.ready hfresh, .inr hawaited⟩

end Bench

end RoutePreference
