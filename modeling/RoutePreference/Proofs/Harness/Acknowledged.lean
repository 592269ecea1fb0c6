import RoutePreference.Proofs.Harness.Errands

/-!
# References of what is submitted

* `numbers_records`: operations are numbered one after the other;
* `Installer.Held`: that something was installed with success, and not been removed since;
* `records_split`: before each errand, this is what an installer knows of;
* `judge_eq_ok_iff`, `recordOf_ok_iff`: what it takes for an operation to succeed;
* `Installer.Record.Lawful`: what goes out for an errand after others, and what comes of it;
* `submits_acknowledged_references`: every errand of a new installer is lawful.
-/

namespace RoutePreference

namespace Installer

variable {S : Type} {w : Surroundings S} {cut : Option Nat}

/-! ### Numbers of operations -/

/-- The operations that a call submits. -/
def operationsOf : Call → List Operation
  | .modify _ ops => ops
  | _ => []

/-- The operations that were submitted for an errand. -/
def Record.operations (r : Record S) : List Operation :=
  r.calls.flatMap fun c => operationsOf c.call

/-- Operations are numbered as they are submitted. -/
theorem operations_recordOf (w : Surroundings S) (cut : Option Nat) (i : Installer) (s : S)
    (c : Errand) :
    (recordOf w cut i s c).operations.map (·.id) =
        List.range' i.nextId (recordOf w cut i s c).operations.length ∧
      ∀ word i', (recordOf w cut i s c).outcome = some (word, i') →
        i'.nextId = i.nextId + (recordOf w cut i s c).operations.length := by
  obtain ⟨entry, x, rfl, -, -, heq⟩ | ⟨-, heq⟩ := recordOf_cases w cut i s c <;> rw [heq]
  · exact ⟨rfl, fun word i' h => by cases h; rfl⟩
  · refine ⟨by cases c <;> rfl, fun word i' h => ?_⟩
    have hid : i'.nextId = (i.counted c).nextId := by
      rw [outcomeOf_after h]
      split
      · exact nextId_noted _ c
      · rfl
    rw [hid]
    cases c <;> rfl

/-- **Numbers follow each other** in the course of any errands. -/
theorem numbers_records (w : Surroundings S) (cut : Option Nat) (i : Installer) (s : S)
    (cs : List Errand) :
    ((records w cut i s cs).flatMap Record.operations).map (·.id) =
      List.range' i.nextId ((records w cut i s cs).flatMap Record.operations).length := by
  induction cs generalizing i s with
  | nil => rfl
  | cons c cs ih =>
    obtain ⟨hids, hnext⟩ := operations_recordOf w cut i s c
    unfold records
    dsimp only
    rw [List.flatMap_cons, List.map_append, List.length_append, ← List.range'_append_1, hids]
    refine congrArg (_ ++ ·) ?_
    split
    · next word i' hout =>
      rw [ih, hnext word i' hout]
    · rfl

/-! ### What is acknowledged -/

/-- Whether an errand has succeeded. -/
def Record.succeeded (r : Record S) : Bool := r.outcome.any (·.1.isOk)

/-- Whether nothing has removed it. -/
def Unremoved (past : List (Record S)) (x : Referent) : Prop :=
  ∀ q ∈ past, q.succeeded = true → ¬ q.errand.Removes x

/-- Whether something was installed with success, and nothing has removed it since. -/
def Held (past : List (Record S)) (x : Referent) : Prop :=
  ∃ earlier r later, past = earlier ++ r :: later ∧ r.succeeded = true ∧ r.errand.Adds x ∧
    Unremoved later x

theorem not_held_nil (x : Referent) : ¬ Held ([] : List (Record S)) x := by
  rintro ⟨earlier, r, later, h, -⟩
  simp at h

theorem held_cons {q : Record S} {past : List (Record S)} {x : Referent} :
    Held (q :: past) x ↔
      Held past x ∨ q.succeeded = true ∧ q.errand.Adds x ∧ Unremoved past x := by
  constructor
  · rintro ⟨_ | ⟨q', earlier⟩, r, later, h, hr⟩
    · cases h
      exact .inr hr
    · cases h
      exact .inl ⟨earlier, r, later, rfl, hr⟩
  · rintro (⟨earlier, r, later, rfl, hr⟩ | hq)
    · exact ⟨q :: earlier, r, later, rfl, hr⟩
    · exact ⟨[], q, past, rfl, hq⟩

theorem unremoved_cons {q : Record S} {past : List (Record S)} {x : Referent} :
    Unremoved (q :: past) x ↔
      ¬ (q.succeeded = true ∧ q.errand.Removes x) ∧ Unremoved past x := by
  simp [Unremoved]

instance (past : List (Record S)) (x : Referent) : Decidable (Unremoved past x) := by
  unfold Unremoved
  infer_instance

instance decidableHeld (x : Referent) : (past : List (Record S)) → Decidable (Held past x)
  | [] => isFalse (not_held_nil x)
  | _ :: past => have := decidableHeld x past; decidable_of_iff _ held_cons.symm

/-- **The installer in the course of its errands**: before each one it knows of what it knew of in
the beginning and of what was installed with success, unless that has been removed since. -/
theorem records_split {i : Installer} {s : S} {cs : List Errand} {past later : List (Record S)}
    {r : Record S} (h : records w cut i s cs = past ++ r :: later) :
    r = recordOf w cut r.before r.state r.errand ∧ SameSession i r.before ∧
      r.before.nextId = i.nextId + (past.flatMap Record.operations).length ∧
      ∀ x, r.before.knows x = true ↔ Held past x ∨ i.knows x = true ∧ Unremoved past x := by
  induction past generalizing i s cs with
  | nil =>
    obtain ⟨c, -, rfl, -⟩ := records_eq_cons h
    exact ⟨rfl, ⟨rfl, rfl, rfl⟩, rfl, fun x => by simp [not_held_nil, Unremoved, recordOf]⟩
  | cons q past ih =>
    obtain ⟨c, cs', rfl, hrest⟩ := records_eq_cons h
    obtain ⟨word, i', hout, hlater⟩ := hrest (by simp)
    obtain ⟨hr, hsame, hnext, hknows⟩ := ih hlater
    obtain ⟨hsame', hknows', -⟩ := recordOf_after hout
    have hnext' := (operations_recordOf w cut i s c).2 word i' hout
    have hok : (recordOf w cut i s c).succeeded = word.isOk := by
      rw [Record.succeeded, hout]
      rfl
    have hc : (recordOf w cut i s c).errand = c := rfl
    refine ⟨hr, hsame'.trans hsame, ?_, fun x => ?_⟩
    · rw [hnext, hnext', List.flatMap_cons, List.length_append, Nat.add_assoc]
    · rw [hknows, hknows', held_cons, unremoved_cons, hok, hc]
      rw [or_and_right, and_assoc, and_assoc, or_assoc]

/-! ### Success -/

/-- An operation succeeds exactly if the first result with its number has a status that completes it
in the mode of the session. -/
theorem judge_eq_ok_iff {i : Installer} {name : String} {id : Nat} {status : Status}
    {reply : Option (Except CallError (List OperationResult))} :
    i.judge name id reply = .ok status ↔
      ∃ results x, reply = some (.ok results) ∧ results.find? (fun x => x.id = id) = some x ∧
        x.status = status ∧ status.satisfies i.params.ackMode = true := by
  constructor
  · intro h
    unfold judge at h
    split at h
    · cases h
    · cases h
    · next results =>
      split at h
      · cases h
      · next x hx =>
        split at h
        · cases h
        · split at h
          · next hs =>
            cases h
            exact ⟨results, x, rfl, hx, rfl, hs⟩
          · cases h
  · rintro ⟨results, x, rfl, hx, rfl, hs⟩
    unfold judge
    dsimp only
    rw [hx]
    dsimp only
    cases hstatus : x.status with
    | failed reason =>
      rw [hstatus] at hs
      cases hs
    | ribProgrammed =>
      rw [hstatus] at hs
      exact if_pos hs
    | fibProgrammed =>
      rw [hstatus] at hs
      exact if_pos hs

theorem concluded_eq_ok_iff {i : Installer} {c : Errand} {entry : AftEntry} {status : Status}
    {reply : Option (Except CallError (List OperationResult))} :
    (∃ i', i.concluded c entry reply = (.programmed (.ok status), i')) ↔
      i.judge entry.text i.nextId reply = .ok status := by
  unfold concluded
  cases i.judge entry.text i.nextId reply with
  | ok s => simp
  | error e => simp

/-- An operation that was submitted succeeds exactly if it was completed in time. -/
theorem operation_ok_iff {i : Installer} {c : Errand} (op : Operation) (hid : op.id = i.nextId)
    {inTime : Bool} {reply : Option (Except CallError (List OperationResult))} {status : Status} :
    (∃ i', (if inTime || reply.isSome then some (i.concluded c op.entry reply) else none) =
        some (.programmed (.ok status), i')) ↔
      ∃ op' results, ([⟨.modify i.session [op], reply⟩] : List CallRecord) =
          [⟨.modify i.session [op'], some (.ok results)⟩] ∧
        ∃ x, results.find? (fun x => x.id = op'.id) = some x ∧ x.status = status ∧
          status.satisfies i.params.ackMode = true := by
  have hheard : (∃ i', i.concluded c op.entry reply = (.programmed (.ok status), i')) ↔
      ∃ results x, reply = some (.ok results) ∧
        results.find? (fun x => x.id = op.id) = some x ∧ x.status = status ∧
        status.satisfies i.params.ackMode = true := by
    rw [concluded_eq_ok_iff, judge_eq_ok_iff, hid]
  constructor
  · rintro ⟨i', h⟩
    have hok := Option.some.inj (Option.ite_none_right_eq_some.1 h).2
    obtain ⟨results, x, rfl, hx⟩ := hheard.1 ⟨i', hok⟩
    exact ⟨op, results, rfl, x, hx⟩
  · rintro ⟨op', results, h, x, hx⟩
    cases h
    obtain ⟨i', hok⟩ := hheard.2 ⟨results, x, rfl, hx⟩
    refine ⟨i', ?_⟩
    rw [hok, if_pos (by cases inTime <;> rfl)]

/-- What has to be true of an errand that was carried out after others, with an installer that knew
of nothing in the beginning. -/
structure Record.Lawful (w : Surroundings S) (cut : Option Nat) (i : Installer)
    (past : List (Record S)) (r : Record S) : Prop where
  /-- If all references are held, one call is made, under the next number, and what is heard in time
  is what counts. -/
  submitted : (∀ x ∈ r.errand.references, Held past x) →
    ∃ c, c = r.errand.call i.session (1 + (past.flatMap Record.operations).length) ∧
      r.calls = [⟨c, (w.answer c (r.errand.limit w cut r.state i.ackTimeout) r.state).1⟩]
  refused : (∃ x ∈ r.errand.references, ¬ Held past x) →
    r.calls = [] ∧ ∃ entry x, r.errand = .install entry ∧ x ∈ entry.references ∧ ¬ Held past x ∧
      r.outcome = some (.programmed (.error (.unacknowledgedReference entry.text x.text)), r.before)
  kept : ∀ word i', r.outcome = some (word, i') → word.isOk = false →
    i'.nextHops = r.before.nextHops ∧ i'.groups = r.before.groups
  ok_iff : ∀ status, (∃ i', r.outcome = some (.programmed (.ok status), i')) ↔
    ∃ op results, r.calls = [⟨.modify i.session [op], some (.ok results)⟩] ∧
      ∃ x, results.find? (fun x => x.id = op.id) = some x ∧ x.status = status ∧
        status.satisfies i.params.ackMode = true

theorem recordOf_ok_iff (w : Surroundings S) (cut : Option Nat) (i : Installer) (s : S) (c : Errand)
    (status : Status) :
    (∃ i', (recordOf w cut i s c).outcome = some (.programmed (.ok status), i')) ↔
      ∃ op results, (recordOf w cut i s c).calls =
          [⟨.modify i.session [op], some (.ok results)⟩] ∧
        ∃ x, results.find? (fun x => x.id = op.id) = some x ∧ x.status = status ∧
          status.satisfies i.params.ackMode = true := by
  obtain ⟨entry, x, rfl, -, -, heq⟩ | ⟨-, heq⟩ := recordOf_cases w cut i s c <;> rw [heq]
  · constructor
    · rintro ⟨i', h⟩
      cases h
    · rintro ⟨op, results, h, -⟩
      cases h
  · cases c with
    | install entry => exact operation_ok_iff ⟨i.nextId, .add, entry⟩ rfl
    | delete entry => exact operation_ok_iff ⟨i.nextId, .delete, entry⟩ rfl
    | flush inst =>
      constructor
      · rintro ⟨i', h⟩
        obtain ⟨r, -, hr⟩ := Option.map_eq_some_iff.1 h
        cases hr
      · rintro ⟨op, results, h, -⟩
        cases h
    | close =>
      constructor
      · rintro ⟨i', h⟩
        obtain ⟨r, -, hr⟩ := Option.map_eq_some_iff.1 h
        cases hr
      · rintro ⟨op, results, h, -⟩
        cases h

/-- An installer that knows of nothing yet and has submitted nothing. -/
structure IsNew (i : Installer) : Prop where
  nextHops : i.nextHops = ∅
  groups : i.groups = ∅
  nextId : i.nextId = 1

theorem IsNew.knows {i : Installer} (h : i.IsNew) (x : Referent) : i.knows x = false := by
  cases x with
  | nextHop key => rw [Installer.knows, h.nextHops, Table.contains_empty]
  | group key => rw [Installer.knows, h.groups, Table.contains_empty]

theorem lawful_of_split {i : Installer} (hi : i.IsNew) {s : S} {cs : List Errand}
    {past later : List (Record S)} {r : Record S} (h : records w cut i s cs = past ++ r :: later) :
    r.Lawful w cut i past := by
  obtain ⟨hr, hsame, hnext, hknows⟩ := records_split h
  have hheld : ∀ x, r.before.knows x = true ↔ Held past x := fun x => by
    simp [hknows, hi.knows]
  have hunheld : ∀ x, r.before.knows x = false ↔ ¬ Held past x := fun x => by
    rw [← hheld, Bool.not_eq_true]
  have hone := recordOf_cases w cut r.before r.state r.errand
  rw [← hr] at hone
  refine ⟨fun hall => ?_, fun ⟨y, hy, hno⟩ => ?_, fun word i' hout hok => ?_, fun status => ?_⟩
  · obtain ⟨entry, x, hc, hx, hno, -⟩ | ⟨-, heq⟩ := hone
    · exact absurd (hall x (hc ▸ hx)) ((hunheld x).1 hno)
    · refine ⟨_, rfl, ?_⟩
      rw [← hi.nextId, ← hnext, ← hsame.session, ← hsame.ackTimeout]
      exact congrArg Record.calls heq
  · obtain ⟨entry, x, hc, hx, hunknown, heq⟩ | ⟨hall, -⟩ := hone
    · exact ⟨congrArg Record.calls heq, entry, x, hc, hx, (hunheld x).1 hunknown,
        congrArg Record.outcome heq⟩
    · exact absurd ((hheld y).1 (hall y hy)) hno
  · rw [hr] at hout
    exact (recordOf_after hout).2.2 hok
  · have hiff := recordOf_ok_iff w cut r.before r.state r.errand status
    rwa [← hr, hsame.session, hsame.params] at hiff

/-- **No reference goes out that isn't acknowledged**, whatever the errands are and whatever the
session answers.  The operations that are submitted are numbered from one; and each errand is
lawful after those before it. -/
theorem submits_acknowledged_references (w : Surroundings S) (cut : Option Nat) {i : Installer}
    (hi : i.IsNew) (s : S) (cs : List Errand) :
    ((records w cut i s cs).flatMap Record.operations).map (·.id) =
        List.range' 1 ((records w cut i s cs).flatMap Record.operations).length ∧
      ∀ past r later, records w cut i s cs = past ++ r :: later → r.Lawful w cut i past :=
  ⟨hi.nextId ▸ numbers_records w cut i s cs, fun _ _ _ h => lawful_of_split hi h⟩

/-- A list, taken apart at one of its members. -/
theorem split_of_getElem? {α : Type} {l : List α} {n : Nat} {a : α} (h : l[n]? = some a) :
    l = l.take n ++ a :: l.drop (n + 1) ∧ (l.take n).length = n := by
  obtain ⟨hlength, rfl⟩ := List.getElem?_eq_some_iff.1 h
  rw [List.getElem_cons_drop, List.take_append_drop, List.length_take]
  exact ⟨rfl, Nat.min_eq_left (Nat.le_of_lt hlength)⟩

/-- A session that answers operations with the listed replies, and closes and flushes at once. -/
def scripted : Surroundings (List (Option (Except CallError (List OperationResult)))) where
  now _ := 0
  passUntil _ s := s
  answer
    | .modify _ _, _, reply :: s => (reply, s)
    | .flush _ _, _, s => (some (.ok ()), s)
    | .close _, _, s => (some (.ok ()), s)
    | _, _, s => (none, s)

/-- A result of another operation goes before that of the first one; the second one isn't used for
forwarding, the third one isn't answered. -/
def wayward : List (Option (Except CallError (List OperationResult))) :=
  [some (.ok [⟨7, .failed .inUse⟩, ⟨1, .fibProgrammed⟩]), some (.ok [⟨2, .ribProgrammed⟩]), none]

/-- An installer that relies on acknowledgements by forwarding. -/
def cautious : Installer where
  session := 1
  params := { persistence := false, ackMode := .ribAndFib, electionId := { high := 1, low := 0 } }
  ackTimeout := 1000

/-- Two next-hops, a group with both of them, one with the first, and an entry. -/
def waywardErrands : List Errand :=
  [.install (.nextHop ⟨1, .ofOctets 192 0 2 1, "DEFAULT"⟩),
    .install (.nextHop ⟨2, .ofOctets 192 0 2 2, "DEFAULT"⟩),
    .install (.nextHopGroup ⟨1, .ofList [(1, 1), (2, 1)], "DEFAULT"⟩),
    .install (.nextHopGroup ⟨1, .ofList [(1, 1)], "DEFAULT"⟩),
    .install (.ipv4 ⟨.ofInterface (.ofOctets 203 0 113 0) 24, 1, "DEFAULT", none, none⟩)]

theorem submits_acknowledged_references_wayward :
    ((records scripted none cautious wayward waywardErrands).flatMap Record.operations).map (·.id) =
        [1, 2, 3] ∧
      ∃ past r later, records scripted none cautious wayward waywardErrands = past ++ r :: later ∧
        past.length = 2 ∧ r.calls = [] ∧ ∃ entry x, r.errand = .install entry ∧
          x ∈ entry.references ∧ ¬ Held past x ∧
          r.outcome =
            some (.programmed (.error (.unacknowledgedReference entry.text x.text)), r.before) := by
  obtain ⟨hids, hlawful⟩ :=
    submits_acknowledged_references scripted none (i := cautious) ⟨rfl, rfl, rfl⟩ wayward
      waywardErrands
  generalize hl : records scripted none cautious wayward waywardErrands = l at *
  have hcount : (l.flatMap Record.operations).length = 3 := by
    rw [← hl]
    decide +kernel
  -- the third errand is the group with both of them
  have herrand : l[2]?.map (·.errand) =
      some (.install (.nextHopGroup ⟨1, .ofList [(1, 1), (2, 1)], "DEFAULT"⟩)) := by
    rw [← hl]
    decide +kernel
  obtain ⟨r, hr, hgroup⟩ := Option.map_eq_some_iff.1 herrand
  obtain ⟨hsplit, hlength⟩ := split_of_getElem? hr
  have hno : ¬ Held (l.take 2) (.nextHop ⟨"DEFAULT", 2⟩) := by
    rw [← hl]
    decide +kernel
  exact ⟨by rw [hids, hcount]; rfl, l.take 2, r, l.drop 3, hsplit, hlength,
    (hlawful _ _ _ hsplit).refused ⟨_, by rw [hgroup]; decide +kernel, hno⟩⟩

end Installer

end RoutePreference
