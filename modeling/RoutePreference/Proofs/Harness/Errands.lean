import RoutePreference.Harness.Installer
import RoutePreference.Proofs.Harness.Transcript
import RoutePreference.Proofs.Tables

/-!
# Errands of an installer

* `Referent`, `AftEntry.references`: what entries refer to;
* `Errand`: what an installer can be asked to do, `Installer.carryOut`: how it does it;
* `carryOut_cases`: an entry is refused because of something it refers to, or else one call is made;
* `Installer.records`: what has become of a list of errands, with all that was called;
* `recordOf_cases`, `recordOf_after`: what has become of one errand, and what the installer knows of
  afterwards.

Nothing is assumed of the session: its answers may be any, late or missing.
-/

namespace RoutePreference

/-! ### References -/

/-- Something that entries refer to. -/
inductive Referent where
  | nextHop (key : EntryKey)
  | group (key : EntryKey)
deriving DecidableEq, Inhabited

namespace Referent

/-- The network instance that holds it. -/
def inst : Referent → String
  | nextHop key => key.inst
  | group key => key.inst

/-- Its kind, with the number in brackets. -/
def text : Referent → String
  | nextHop key => "next-hop[" ++ toString key.number ++ "]"
  | group key => "next-hop-group[" ++ toString key.number ++ "]"

end Referent

namespace AftEntry

/-- What others may refer to once the entry is installed. -/
def referent? : AftEntry → Option Referent
  | nextHop h => some (.nextHop ⟨h.inst, h.index⟩)
  | nextHopGroup g => some (.group ⟨g.inst, g.id⟩)
  | ipv4 _ => none

/-- What the entry refers to: a group to its members, an IPv4 entry to its group. -/
def references : AftEntry → List Referent
  | nextHop _ => []
  | nextHopGroup g => g.members.keys.map fun index => .nextHop ⟨g.inst, index⟩
  | ipv4 e => [.group ⟨e.groupHome, e.group⟩]

end AftEntry

/-! ### Errands -/

/-- What an installer can be asked to do. -/
inductive Errand where
  | install (entry : AftEntry)
  | delete (entry : AftEntry)
  | flush (inst : String)
  | close
deriving DecidableEq, Inhabited

namespace Errand

/-- What has to be acknowledged beforehand. -/
def references : Errand → List Referent
  | install entry => entry.references
  | _ => []

/-- Whether success means that something can be referred to. -/
def Adds (x : Referent) : Errand → Prop
  | install entry => entry.referent? = some x
  | _ => False

/-- Whether success means that something can't be referred to any more. -/
def Removes (x : Referent) : Errand → Prop
  | delete entry => entry.referent? = some x
  | flush inst => x.inst = inst
  | _ => False

/-- The call that an errand amounts to, in a session and with the number of the next operation. -/
def call (session id : Nat) : Errand → Call
  | install entry => .modify session [⟨id, .add, entry⟩]
  | delete entry => .modify session [⟨id, .delete, entry⟩]
  | flush inst => .flush session inst
  | close => .close session

/-- The moment up to which the reply is waited for: operations have to be acknowledged in time. -/
def limit {S : Type} (w : Surroundings S) (cut : Option Nat) (s : S) (ackTimeout : Nat) :
    Errand → Option Nat
  | install _ | delete _ =>
    if Procedure.isBefore (w.now s + ackTimeout) cut then some (w.now s + ackTimeout) else cut
  | _ => cut

instance (x : Referent) (c : Errand) : Decidable (c.Adds x) := by
  unfold Adds
  split <;> infer_instance

instance (x : Referent) (c : Errand) : Decidable (c.Removes x) := by
  unfold Removes
  split <;> infer_instance

end Errand

/-- What an installer says to an errand. -/
inductive Word where
  | programmed (r : Except RunError Status)
  | done (r : Except CallError Unit)

/-- Whether an errand has succeeded. -/
def Word.isOk : Word → Bool
  | programmed r => r.isOk
  | done r => r.isOk

namespace Installer

variable {S : Type} {w : Surroundings S} {cut : Option Nat}

/-- Whether something is acknowledged. -/
def knows (i : Installer) : Referent → Bool
  | .nextHop key => i.nextHops.contains key
  | .group key => i.groups.contains key

/-- Programs an entry, for an errand. -/
def programming (p : Procedure Unit (Except RunError Status × Installer)) :
    Procedure Unit (Word × Installer) := do
  let (r, i) ← p
  return (.programmed r, i)

/-- Carries out an errand. -/
def carryOut (i : Installer) : Errand → Procedure Unit (Word × Installer)
  | .install (.nextHop h) => programming (i.installNextHop h)
  | .install (.nextHopGroup g) => programming (i.installGroup g)
  | .install (.ipv4 e) => programming (i.installIpv4 e)
  | .delete (.nextHop h) => programming (i.deleteNextHop h)
  | .delete (.nextHopGroup g) => programming (i.deleteGroup g)
  | .delete (.ipv4 e) => programming (i.deleteIpv4 e)
  | .flush inst => do
    let (r, i) ← i.flush inst
    return (.done r, i)
  | .close => do
    let r ← i.close
    return (.done r, i)

/-! ### One call for each errand -/

/-- The installer after something was acknowledged. -/
def learn (i : Installer) : Referent → Installer
  | .nextHop key => { i with nextHops := i.nextHops.add key }
  | .group key => { i with groups := i.groups.add key }

/-- The installer after something was deleted. -/
def forget (i : Installer) : Referent → Installer
  | .nextHop key => { i with nextHops := i.nextHops.erase key }
  | .group key => { i with groups := i.groups.erase key }

/-- The installer after an errand has succeeded, apart from the numbers of operations. -/
def noted (i : Installer) : Errand → Installer
  | .install entry => entry.referent?.elim i i.learn
  | .delete entry => entry.referent?.elim i i.forget
  | .flush inst => i.flushed inst
  | .close => i

/-- What is said after an operation on an entry was submitted, and the installer afterwards. -/
def concluded (i : Installer) (c : Errand) (entry : AftEntry)
    (reply : Option (Except CallError (List OperationResult))) : Word × Installer :=
  match i.judge entry.text i.nextId reply with
  | .ok status => (.programmed (.ok status), i.numbered.noted c)
  | .error e => (.programmed (.error e), i.numbered)

/-- What is said after any other request, and the installer afterwards. -/
def answered (i : Installer) (c : Errand) (reply : Except CallError Unit) : Word × Installer :=
  (.done reply, if reply.isOk then i.noted c else i)

/-- Submits what an errand amounts to. -/
def submit (i : Installer) : Errand → Procedure Unit (Word × Installer)
  | .install entry =>
    .askWithin i.ackTimeout (.modify i.session [⟨i.nextId, .add, entry⟩])
      fun reply => .done (i.concluded (.install entry) entry reply)
  | .delete entry =>
    .askWithin i.ackTimeout (.modify i.session [⟨i.nextId, .delete, entry⟩])
      fun reply => .done (i.concluded (.delete entry) entry reply)
  | .flush inst => .ask (.flush i.session inst) fun reply => .done (i.answered (.flush inst) reply)
  | .close => .ask (.close i.session) fun reply => .done (i.answered .close reply)

theorem programming_program (i : Installer) (c : Errand) (verb : Verb) (entry : AftEntry)
    (note : Installer → Installer) (hnote : i.numbered.noted c = note i.numbered) :
    programming (i.program verb entry note) =
      .askWithin i.ackTimeout (.modify i.session [⟨i.nextId, verb, entry⟩])
        fun reply => .done (i.concluded c entry reply) := by
  refine congrArg (Procedure.askWithin i.ackTimeout _)
    (funext fun reply : Option (Except CallError (List OperationResult)) => ?_)
  unfold concluded
  rw [hnote]
  show programming (match i.judge entry.text i.nextId reply with
    | .ok status => .done (.ok status, note i.numbered)
    | .error e => .done (.error e, i.numbered)) = _
  cases i.judge entry.text i.nextId reply <;> rfl

/-- An entry that is to be installed is refused because of the first reference that isn't
acknowledged, or else submitted. -/
theorem carryOut_install (i : Installer) (entry : AftEntry) :
    i.carryOut (.install entry) =
      match entry.references.find? fun x => !i.knows x with
      | some x => .done (.programmed (.error (.unacknowledgedReference entry.text x.text)), i)
      | none => i.submit (.install entry) := by
  cases entry with
  | nextHop h =>
    exact i.programming_program (.install (.nextHop h)) .add _
      (fun i => { i with nextHops := i.nextHops.add ⟨h.inst, h.index⟩ }) rfl
  | nextHopGroup g =>
    have hfind : (AftEntry.nextHopGroup g).references.find? (fun x => !i.knows x) =
        (g.members.keys.find? fun index => !i.nextHops.contains ⟨g.inst, index⟩).map
          fun index => .nextHop ⟨g.inst, index⟩ := List.find?_map ..
    show programming (i.installGroup g) = _
    rw [installGroup, hfind]
    cases g.members.keys.find? fun index => !i.nextHops.contains ⟨g.inst, index⟩ with
    | some index => rfl
    | none =>
      exact i.programming_program (.install (.nextHopGroup g)) .add _
        (fun i => { i with groups := i.groups.add ⟨g.inst, g.id⟩ }) rfl
  | ipv4 e =>
    show programming (i.installIpv4 e) = _
    rw [installIpv4, AftEntry.references, List.find?_singleton, knows]
    cases i.groups.contains ⟨e.groupHome, e.group⟩ with
    | true => exact i.programming_program (.install (.ipv4 e)) .add _ id rfl
    | false => rfl

/-- All other errands are submitted. -/
theorem carryOut_of_not_install (i : Installer) {c : Errand} (hc : ∀ entry, c ≠ .install entry) :
    i.carryOut c = i.submit c := by
  cases c with
  | install entry => exact absurd rfl (hc entry)
  | delete entry =>
    cases entry with
    | nextHop h =>
      exact i.programming_program (.delete (.nextHop h)) .delete _
        (fun i => { i with nextHops := i.nextHops.erase ⟨h.inst, h.index⟩ }) rfl
    | nextHopGroup g =>
      exact i.programming_program (.delete (.nextHopGroup g)) .delete _
        (fun i => { i with groups := i.groups.erase ⟨g.inst, g.id⟩ }) rfl
    | ipv4 e => exact i.programming_program (.delete (.ipv4 e)) .delete _ id rfl
  | flush inst =>
    refine congrArg (Procedure.ask _) (funext fun reply : Except CallError Unit => ?_)
    cases reply <;> rfl
  | close =>
    refine congrArg (Procedure.ask _) (funext fun reply : Except CallError Unit => ?_)
    cases reply <;> rfl

/-- **One call for each errand**, unless something is referred to that isn't acknowledged. -/
theorem carryOut_cases (i : Installer) (c : Errand) :
    (∃ entry x, c = .install entry ∧ x ∈ entry.references ∧ i.knows x = false ∧
      i.carryOut c =
        .done (.programmed (.error (.unacknowledgedReference entry.text x.text)), i)) ∨
    (∀ x ∈ c.references, i.knows x = true) ∧ i.carryOut c = i.submit c := by
  by_cases hc : ∃ entry, c = .install entry
  · obtain ⟨entry, rfl⟩ := hc
    have heq := i.carryOut_install entry
    cases hx : entry.references.find? fun x => !i.knows x with
    | some x =>
      rw [hx] at heq
      exact .inl ⟨entry, x, rfl, List.mem_of_find?_eq_some hx,
        by simpa using List.find?_some hx, heq⟩
    | none =>
      rw [hx] at heq
      exact .inr ⟨fun x hmem => by simpa using List.find?_eq_none.1 hx x hmem, heq⟩
  · refine .inr ⟨fun x hx => ?_, i.carryOut_of_not_install fun entry he => hc ⟨entry, he⟩⟩
    cases c with
    | install entry => exact absurd ⟨entry, rfl⟩ hc
    | _ => cases hx

/-! ### What has become of errands -/

/-- An errand that was carried out. -/
structure Record (S : Type) where
  errand : Errand
  /-- The installer and its surroundings beforehand. -/
  before : Installer
  state : S
  calls : List CallRecord
  /-- What was said, and the installer afterwards, unless the errand was cut short. -/
  outcome : Option (Word × Installer)
  left : S

/-- Carries out an errand and notes down what becomes of it. -/
def recordOf (w : Surroundings S) (cut : Option Nat) (i : Installer) (s : S) (c : Errand) :
    Record S :=
  let o := (i.carryOut c).perform w cut () s
  { errand := c, before := i, state := s, calls := (i.carryOut c).transcript w cut () s,
    outcome := o.value, left := o.after }

/-- Carries out errands one after the other, up to one that is cut short. -/
def records (w : Surroundings S) (cut : Option Nat) : Installer → S → List Errand → List (Record S)
  | _, _, [] => []
  | i, s, c :: cs =>
    let r := recordOf w cut i s c
    r :: match r.outcome with
      | some (_, i') => records w cut i' r.left cs
      | none => []

/-- The first record is that of the first errand, and the others are those of the rest. -/
theorem records_eq_cons {i : Installer} {s : S} {cs : List Errand} {r : Record S}
    {rs : List (Record S)} (h : records w cut i s cs = r :: rs) :
    ∃ c cs', r = recordOf w cut i s c ∧
      (rs ≠ [] → ∃ word i', (recordOf w cut i s c).outcome = some (word, i') ∧
        records w cut i' (recordOf w cut i s c).left cs' = rs) := by
  cases cs with
  | nil => cases h
  | cons c cs =>
    obtain ⟨rfl, hrest⟩ := List.cons.inj h
    refine ⟨c, cs, rfl, fun hne => ?_⟩
    cases hout : (recordOf w cut i s c).outcome with
    | none =>
      rw [hout] at hrest
      exact absurd hrest.symm hne
    | some out =>
      rw [hout] at hrest
      exact ⟨out.1, out.2, rfl, hrest⟩

/-- What comes of the reply.  Without a reply in time an operation has failed, but any other request
is still waited for. -/
def outcomeOf (i : Installer) (w : Surroundings S) (cut : Option Nat) (s : S) :
    (c : Errand) → Option (c.call i.session i.nextId).Reply → Option (Word × Installer)
  | .install entry, reply =>
    if Procedure.isBefore (w.now s + i.ackTimeout) cut || reply.isSome then
      some (i.concluded (.install entry) entry reply)
    else none
  | .delete entry, reply =>
    if Procedure.isBefore (w.now s + i.ackTimeout) cut || reply.isSome then
      some (i.concluded (.delete entry) entry reply)
    else none
  | .flush inst, reply => reply.map (i.answered (.flush inst))
  | .close, reply => reply.map (i.answered .close)

/-- A call with a time limit, and what follows at once. -/
theorem perform_askWithin_done {α : Type} (ms : Nat) (c : Call) (f : Option c.Reply → α) (s : S) :
    ((Procedure.askWithin ms c fun reply => .done (f reply)).perform w cut () s :
      Procedure.Outcome Unit α S) =
      let limit := if Procedure.isBefore (w.now s + ms) cut then some (w.now s + ms) else cut
      { value := if Procedure.isBefore (w.now s + ms) cut || (w.answer c limit s).1.isSome then
          some (f (w.answer c limit s).1) else none
        held := ()
        after := (w.answer c limit s).2 } := by
  rw [Procedure.perform_askWithin]
  dsimp only
  cases Procedure.isBefore (w.now s + ms) cut with
  | true => rfl
  | false =>
    simp only [Bool.false_eq_true, if_false, Bool.false_or]
    generalize w.answer c cut s = o
    obtain ⟨_ | r, s'⟩ := o <;> rfl

/-- A call without a time limit, and what follows at once. -/
theorem perform_ask_done {α : Type} (c : Call) (f : c.Reply → α) (s : S) :
    ((Procedure.ask c fun reply => .done (f reply)).perform w cut () s :
      Procedure.Outcome Unit α S) =
      { value := (w.answer c cut s).1.map f, held := (), after := (w.answer c cut s).2 } := by
  rw [Procedure.perform_ask]
  generalize w.answer c cut s = o
  obtain ⟨_ | r, s'⟩ := o <;> rfl

theorem recordOf_askWithin {i : Installer} {c : Errand} {ms : Nat} {call : Call}
    {f : Option call.Reply → Word × Installer}
    (hc : i.carryOut c = .askWithin ms call fun reply => .done (f reply)) (s : S) :
    recordOf w cut i s c =
      let limit := if Procedure.isBefore (w.now s + ms) cut then some (w.now s + ms) else cut
      { errand := c, before := i, state := s, calls := [⟨call, (w.answer call limit s).1⟩]
        outcome := if Procedure.isBefore (w.now s + ms) cut || (w.answer call limit s).1.isSome then
          some (f (w.answer call limit s).1) else none
        left := (w.answer call limit s).2 } := by
  unfold recordOf Procedure.transcript
  rw [hc, perform_askWithin_done, perform_askWithin_done]
  rfl

theorem recordOf_ask {i : Installer} {c : Errand} {call : Call} {f : call.Reply → Word × Installer}
    (hc : i.carryOut c = .ask call fun reply => .done (f reply)) (s : S) :
    recordOf w cut i s c =
      { errand := c, before := i, state := s, calls := [⟨call, (w.answer call cut s).1⟩]
        outcome := (w.answer call cut s).1.map f, left := (w.answer call cut s).2 } := by
  unfold recordOf Procedure.transcript
  rw [hc, perform_ask_done, perform_ask_done]
  rfl

/-- What becomes of an errand that is submitted. -/
theorem recordOf_submitted {i : Installer} {c : Errand} (hc : i.carryOut c = i.submit c) (s : S) :
    recordOf w cut i s c =
      let answered := w.answer (c.call i.session i.nextId) (c.limit w cut s i.ackTimeout) s
      { errand := c, before := i, state := s, calls := [⟨c.call i.session i.nextId, answered.1⟩]
        outcome := i.outcomeOf w cut s c answered.1, left := answered.2 } := by
  cases c with
  | install entry => exact recordOf_askWithin hc s
  | delete entry => exact recordOf_askWithin hc s
  | flush inst => exact recordOf_ask hc s
  | close => exact recordOf_ask hc s

/-- **One errand**: it is refused and nobody is asked, or it amounts to one call. -/
theorem recordOf_cases (w : Surroundings S) (cut : Option Nat) (i : Installer) (s : S)
    (c : Errand) :
    (∃ entry x, c = .install entry ∧ x ∈ entry.references ∧ i.knows x = false ∧
      recordOf w cut i s c =
        { errand := c, before := i, state := s, calls := []
          outcome :=
            some (.programmed (.error (.unacknowledgedReference entry.text x.text)), i)
          left := s }) ∨
    (∀ x ∈ c.references, i.knows x = true) ∧
      recordOf w cut i s c =
        let answered := w.answer (c.call i.session i.nextId) (c.limit w cut s i.ackTimeout) s
        { errand := c, before := i, state := s, calls := [⟨c.call i.session i.nextId, answered.1⟩]
          outcome := i.outcomeOf w cut s c answered.1, left := answered.2 } := by
  obtain ⟨entry, x, rfl, hx, hno, heq⟩ | ⟨hall, heq⟩ := i.carryOut_cases c
  · refine .inl ⟨entry, x, rfl, hx, hno, ?_⟩
    unfold recordOf Procedure.transcript
    rw [heq]
    rfl
  · exact .inr ⟨hall, recordOf_submitted heq s⟩

/-! ### The installer after an errand -/

/-- Whether two installers use the same session in the same way. -/
structure SameSession (i i' : Installer) : Prop where
  session : i'.session = i.session
  params : i'.params = i.params
  ackTimeout : i'.ackTimeout = i.ackTimeout

theorem SameSession.trans {i i' i'' : Installer} (h : SameSession i i') (h' : SameSession i' i'') :
    SameSession i i'' :=
  ⟨h'.session.trans h.session, h'.params.trans h.params, h'.ackTimeout.trans h.ackTimeout⟩

/-- The installer after it has numbered the operation of an errand, if there is one. -/
def counted (i : Installer) : Errand → Installer
  | .install _ | .delete _ => i.numbered
  | _ => i

theorem sameSession_counted (i : Installer) (c : Errand) : SameSession i (i.counted c) := by
  cases c <;> exact ⟨rfl, rfl, rfl⟩

theorem knows_counted (i : Installer) (c : Errand) (x : Referent) :
    (i.counted c).knows x = i.knows x := by
  cases c <;> rfl

/-- Success changes what is acknowledged, and nothing else. -/
theorem noted_eq (i : Installer) (c : Errand) :
    ∃ nextHops groups, i.noted c = { i with nextHops, groups } := by
  have hlearn : ∀ x, ∃ nextHops groups, i.learn x = { i with nextHops, groups } := fun x => by
    cases x <;> exact ⟨_, _, rfl⟩
  have hforget : ∀ x, ∃ nextHops groups, i.forget x = { i with nextHops, groups } := fun x => by
    cases x <;> exact ⟨_, _, rfl⟩
  cases c with
  | install entry =>
    cases hx : entry.referent? with
    | none => exact ⟨_, _, by rw [noted, hx]; rfl⟩
    | some x => simpa only [noted, hx, Option.elim_some] using hlearn x
  | delete entry =>
    cases hx : entry.referent? with
    | none => exact ⟨_, _, by rw [noted, hx]; rfl⟩
    | some x => simpa only [noted, hx, Option.elim_some] using hforget x
  | flush inst => exact ⟨_, _, rfl⟩
  | close => exact ⟨_, _, rfl⟩

theorem sameSession_noted (i : Installer) (c : Errand) : SameSession i (i.noted c) := by
  obtain ⟨_, _, heq⟩ := i.noted_eq c
  rw [heq]
  exact ⟨rfl, rfl, rfl⟩

theorem nextId_noted (i : Installer) (c : Errand) : (i.noted c).nextId = i.nextId := by
  obtain ⟨_, _, heq⟩ := i.noted_eq c
  rw [heq]

theorem knows_learn (i : Installer) (x y : Referent) :
    (i.learn y).knows x = (decide (y = x) || i.knows x) := by
  cases y <;> cases x <;> simp [learn, knows, Keys.contains_add]

theorem knows_forget (i : Installer) (x y : Referent) :
    (i.forget y).knows x = (!decide (y = x) && i.knows x) := by
  cases y <;> cases x <;> simp [forget, knows, Table.contains_erase]

theorem knows_flushed (i : Installer) (inst : String) (x : Referent) :
    (i.flushed inst).knows x = (i.knows x && decide (x.inst ≠ inst)) := by
  cases x <;> exact Table.contains_filter _ (fun k : EntryKey => decide (k.inst ≠ inst)) _

/-- What an installer knows of after an errand has succeeded. -/
theorem knows_noted (i : Installer) (c : Errand) (x : Referent) :
    (i.noted c).knows x = true ↔ c.Adds x ∨ i.knows x = true ∧ ¬ c.Removes x := by
  cases c with
  | install entry =>
    cases hy : entry.referent? with
    | none => simp [noted, Errand.Adds, Errand.Removes, hy]
    | some y => simp [noted, Errand.Adds, Errand.Removes, hy, knows_learn]
  | delete entry =>
    cases hy : entry.referent? with
    | none => simp [noted, Errand.Adds, Errand.Removes, hy]
    | some y => simp [noted, Errand.Adds, Errand.Removes, hy, knows_forget, and_comm]
  | flush inst => simp [noted, knows_flushed, Errand.Adds, Errand.Removes]
  | close => simp [noted, Errand.Adds, Errand.Removes]

theorem concluded_after {i i' : Installer} {c : Errand} {entry : AftEntry} {word : Word}
    {reply : Option (Except CallError (List OperationResult))}
    (h : i.concluded c entry reply = (word, i')) :
    i' = if word.isOk then i.numbered.noted c else i.numbered := by
  unfold concluded at h
  split at h <;> cases h <;> rfl

/-- The installer after an errand that was submitted: it has learned from success only. -/
theorem outcomeOf_after {i i' : Installer} {s : S} {c : Errand}
    {reply : Option (c.call i.session i.nextId).Reply} {word : Word}
    (h : i.outcomeOf w cut s c reply = some (word, i')) :
    i' = if word.isOk then (i.counted c).noted c else i.counted c := by
  cases c with
  | install entry => exact concluded_after (Option.some.inj (Option.ite_none_right_eq_some.1 h).2)
  | delete entry => exact concluded_after (Option.some.inj (Option.ite_none_right_eq_some.1 h).2)
  | flush inst =>
    obtain ⟨r, -, hr⟩ := Option.map_eq_some_iff.1 h
    cases hr
    rfl
  | close =>
    obtain ⟨r, -, hr⟩ := Option.map_eq_some_iff.1 h
    cases hr
    rfl

/-- **The installer after an errand**, whether it was submitted or not. -/
theorem recordOf_after {i i' : Installer} {s : S} {c : Errand} {word : Word}
    (h : (recordOf w cut i s c).outcome = some (word, i')) :
    SameSession i i' ∧
      (∀ x, i'.knows x = true ↔
        word.isOk = true ∧ c.Adds x ∨ i.knows x = true ∧ ¬ (word.isOk = true ∧ c.Removes x)) ∧
      (word.isOk = false → i'.nextHops = i.nextHops ∧ i'.groups = i.groups) := by
  obtain ⟨entry, x, rfl, -, -, heq⟩ | ⟨-, heq⟩ := recordOf_cases w cut i s c <;> rw [heq] at h
  · cases h
    refine ⟨⟨rfl, rfl, rfl⟩, fun x => ?_, fun _ => ⟨rfl, rfl⟩⟩
    simp [Word.isOk, Except.isOk, Except.toBool]
  · have hafter := outcomeOf_after h
    cases hok : word.isOk with
    | true =>
      rw [hok, if_pos rfl] at hafter
      subst hafter
      exact ⟨(i.sameSession_counted c).trans (sameSession_noted _ c),
        fun x => by simp [knows_noted, knows_counted], nofun⟩
    | false =>
      rw [hok, if_neg Bool.false_ne_true] at hafter
      subst hafter
      refine ⟨i.sameSession_counted c, fun x => by simp [knows_counted], fun _ => ?_⟩
      cases c <;> exact ⟨rfl, rfl⟩

end Installer

end RoutePreference
