import RoutePreference.Proofs.Bench.Heard
import RoutePreference.Proofs.Device.Writer
import RoutePreference.Proofs.Harness.Errands

/-!
# Errands that a device attends to

* `Device.Attends`: a device has answered the calls of an errand in time, while their session was
  the primary one and the only writer;
* `Installer.Attended`: it has done so for one errand after the other;
* `Bench.Serves`: a testbed whose queue holds no request but ticks, with such a session;
* `Serves.attends`, `attended_records`: such a testbed attends to whatever is answered in time.
-/

namespace RoutePreference

/-- What a device has come to when it has answered calls of the primary session in time: operations
or a flush, or no call at all. -/
inductive Device.Attends (client : Nat) (d : Device) : List CallRecord → Device → Prop where
  | silence (h : List Event) (others : d.Governs client h) : Attends client d [] (d.after h)
  | modify {ops : List Operation} {a : Answer} {d' : Device}
    (exchange : d.Exchange client (.modify client ops) a d') :
    Attends client d [⟨.modify client ops, some (Bench.resultsOf a)⟩] d'
  | flush {inst : String} {a : Answer} {d' : Device}
    (exchange : d.Exchange client (.flush client inst) a d') :
    Attends client d [⟨.flush client inst, some (Bench.wordOf a)⟩] d'

/-- What it has come to after one errand after the other. -/
inductive Installer.Attended {S : Type} (client : Nat) : Device → List (Record S) → Device → Prop
    where
  | nil (d : Device) : Attended client d [] d
  | cons {d d₁ d₂ : Device} {r : Record S} {rs : List (Record S)}
    (first : d.Attends client r.calls d₁) (rest : Attended client d₁ rs d₂) :
    Attended client d (r :: rs) d₂

/-! ### Calls on the clock -/

/-- A testbed that serves the primary session: no request but ticks is in the queue, and the
caller's end of the session is open. -/
structure Bench.Serves (client : Nat) (b : Bench) : Prop where
  ready : b.Ready
  ticks : ∀ p ∈ b.queue, p.IsTick
  opened : b.isClosed client = false
  primary : b.device.isPrimary client = true

/-- What a caller has heard was said in the course of an exchange. -/
theorem Paced.Heard.exchanged {s s' : Paced} {r : Request} {a : Answer} {client : Nat}
    (h : s.Heard r a s') (hticks : ∀ p ∈ s.testbed.queue, p.IsTick)
    (hprimary : s.testbed.device.isPrimary client = true)
    (hr : ∀ (d : Device) ticket, (d.step (.serve ticket r)).sessions = d.sessions) :
    s.testbed.device.Exchange client r a s'.testbed.device ∧
      (∀ p ∈ s'.testbed.queue, p.IsTick) ∧ s'.testbed.device.isPrimary client = true := by
  obtain ⟨ticket, h₀, h, hbefore, hnew, hsaid, hidle, hdevice, -, hend⟩ := h
  have hidle₀ := hbefore hticks
  have hsessions := (hr _ ticket).trans (Device.sessions_after_idle hidle₀ s.testbed.device)
  have hgoverns := Device.governs_of_idle hidle
    ((Device.isPrimary_congr hsessions client).trans hprimary)
  rw [hdevice]
  exact ⟨.intro ticket h₀ h (Device.governs_of_idle hidle₀ hprimary) hnew hsaid
    (fun e he => (hidle e he).not_isFor ticket) hgoverns, hend,
    hgoverns.primary h List.prefix_rfl⟩

namespace Bench

variable {b : Bench} {client : Nat}

/-- A call on the clock is a call of some caller that is paced. -/
theorem exists_paced (c : Call) (limit : Option Nat) (h : b.Ready) :
    ∃ s s' : Paced, s.testbed = b.testbed ∧ s'.testbed = (b.answer c limit).2.testbed ∧
      s.answer c = ((b.answer c limit).1, s') := by
  obtain ⟨-, ps, hps⟩ := answer_followed c limit h
  obtain ⟨-, log, hanswer⟩ := hps [{ time := (b.answer c limit).2.clock }] [] rfl
  exact ⟨_, _, rfl, rfl, hanswer⟩

/-- A request of the session that is answered in time was part of an exchange. -/
theorem Serves.exchanged (hb : b.Serves client) {c : Call} {r : Request}
    {f : Answer → Except CallError c.Value}
    (hc : ∀ s : Paced, s.testbed.isClosed client = false → s.answer c = s.request r f)
    (hr : ∀ (d : Device) ticket, (d.step (.serve ticket r)).sessions = d.sessions)
    {limit : Option Nat} {reply : c.Reply} (hreply : (b.answer c limit).1 = some reply) :
    (∃ a, reply = f a ∧ b.device.Exchange client r a (b.answer c limit).2.device) ∧
      (b.answer c limit).2.Serves client := by
  have hready := (answer_followed c limit hb.ready).1
  obtain ⟨s, s', hs, hs', hanswer⟩ := exists_paced c limit hb.ready
  rw [hc s (by rw [hs]; exact hb.opened), hreply] at hanswer
  generalize (b.answer c limit).2 = b' at *
  have hhandles : s'.testbed.handles = s.testbed.handles := by
    rw [← s.handles_exchange r]
    exact (congrArg (·.2.testbed.handles) hanswer).symm
  obtain ⟨a, ha, rfl⟩ := Option.map_eq_some_iff.1 (congrArg Prod.fst hanswer)
  have hafter : (s.exchange r).2 = s' := congrArg Prod.snd hanswer
  have hheard := Paced.exchange_heard (hs ▸ hb.ready.fresh) (Prod.ext ha hafter)
  have hprimary : s.testbed.device.isPrimary client = true := by rw [hs]; exact hb.primary
  obtain ⟨hexchange, hticks, hprimary⟩ := hheard.exchanged (hs ▸ hb.ticks) hprimary hr
  rw [hs, hs'] at hexchange
  rw [hs'] at hticks hprimary hhandles
  refine ⟨⟨a, rfl, hexchange⟩, hready, hticks, ?_, hprimary⟩
  have hsame : b'.handles = b.handles := hhandles.trans (congrArg Testbed.handles hs)
  rw [isClosed, hsame]
  exact hb.opened

/-- Operations and flushes of the session are attended to if they are answered in time. -/
theorem Serves.attends (hb : b.Serves client) {c : Call} {limit : Option Nat} {reply : c.Reply}
    (hc : (∃ ops, c = .modify client ops) ∨ ∃ inst, c = .flush client inst)
    (hreply : (b.answer c limit).1 = some reply) :
    b.device.Attends client [⟨c, some reply⟩] (b.answer c limit).2.device ∧
      (b.answer c limit).2.Serves client := by
  obtain ⟨ops, rfl⟩ | ⟨inst, rfl⟩ := hc
  · obtain ⟨⟨a, rfl, hexchange⟩, hserves⟩ := hb.exchanged (c := .modify client ops)
      (r := .modify client ops) (f := resultsOf) (fun s hs => by simp [Paced.answer, hs])
      (fun d ticket => d.sessions_step _) hreply
    exact ⟨.modify hexchange, hserves⟩
  · obtain ⟨⟨a, rfl, hexchange⟩, hserves⟩ := hb.exchanged (c := .flush client inst)
      (r := .flush client inst) (f := wordOf) (fun s hs => by simp [Paced.answer, hs])
      (fun d ticket => d.sessions_step _) hreply
    exact ⟨.flush hexchange, hserves⟩

/-! ### Errands on the clock -/

/-- Whether an errand other than closing the session was heard of in time, if anybody was asked. -/
def InTime (r : Installer.Record Bench) : Prop :=
  r.errand ≠ .close ∧ ∀ x ∈ r.calls, x.reply.isSome = true

/-- Such an errand was attended to. -/
theorem Serves.attends_record {i : Installer} {c : Errand} {cut : Option Nat}
    (hb : b.Serves i.session) (hheard : InTime (Installer.recordOf surroundings cut i b c)) :
    b.device.Attends i.session (Installer.recordOf surroundings cut i b c).calls
        (Installer.recordOf surroundings cut i b c).left.device ∧
      (Installer.recordOf surroundings cut i b c).left.Serves i.session := by
  obtain ⟨hclose, hreplies⟩ := hheard
  obtain ⟨entry, x, rfl, -, -, heq⟩ | ⟨-, heq⟩ :=
    Installer.recordOf_cases surroundings cut i b c <;> rw [heq] at hclose hreplies ⊢
  · exact ⟨.silence [] (Device.governs_of_idle (fun _ he => (List.not_mem_nil he).elim) hb.primary),
      hb⟩
  · obtain ⟨reply, hreply⟩ := Option.isSome_iff_exists.1 (hreplies _ List.mem_cons_self)
    dsimp only at hclose hreply ⊢
    rw [hreply]
    refine hb.attends ?_ hreply
    cases c with
    | install entry => exact .inl ⟨_, rfl⟩
    | delete entry => exact .inl ⟨_, rfl⟩
    | flush inst => exact .inr ⟨_, rfl⟩
    | close => exact absurd rfl hclose

/-- **A testbed attends to errands** up to the first one that isn't heard of in time. -/
theorem attended_records {i : Installer} {cut : Option Nat} {cs : List Errand}
    (hb : b.Serves i.session) {past later : List (Installer.Record Bench)}
    {r : Installer.Record Bench} (h : i.records surroundings cut b cs = past ++ r :: later)
    (hheard : ∀ q ∈ past ++ [r], InTime q) :
    Installer.Attended i.session b.device past r.state.device ∧
      r.state.device.Attends i.session r.calls r.left.device := by
  induction past generalizing i b cs with
  | nil =>
    obtain ⟨c, -, rfl, -⟩ := Installer.records_eq_cons h
    exact ⟨.nil _, (hb.attends_record (hheard _ List.mem_cons_self)).1⟩
  | cons q past ih =>
    obtain ⟨c, cs', rfl, hrest⟩ := Installer.records_eq_cons h
    obtain ⟨word, i', hout, hlater⟩ := hrest (by simp)
    obtain ⟨hfirst, hserves⟩ := hb.attends_record (hheard _ List.mem_cons_self)
    have hsame := (Installer.recordOf_after hout).1.session
    rw [← hsame] at hserves hfirst ⊢
    obtain ⟨hpast, hr⟩ := ih hserves hlater fun q' hq' => hheard q' (List.mem_cons_of_mem _ hq')
    exact ⟨.cons hfirst hpast, hr⟩

end Bench

end RoutePreference
