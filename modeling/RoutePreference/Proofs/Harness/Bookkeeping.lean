import RoutePreference.Proofs.Device.Mirror
import RoutePreference.Proofs.Harness.Acknowledged
import RoutePreference.Proofs.Harness.Attended

/-!
# What an installer knows of

* `Device.holds`: whether something is programmed that can be referred to;
* `holds_add`, `holds_delete`: what operations make of it;
* `holds_of_add`, `WellFormed.add_ne_missing`: an entry can be added only if all that it refers to
  is programmed, and then nothing is missing;
* `Errand.Changes`: what an errand makes of it, `Exchange.operation`, `Exchange.flushed`: and so
  does the device;
* `Installer.Agrees`: an installer knows of exactly what is programmed;
* `Agrees.carriedOut`, `Agrees.records`: so it does after one errand, and after all of them;
* `knows_what_is_programmed`: the same for any device that attends to a new installer, and for the
  testbed on a clock.
-/

namespace RoutePreference

namespace Device

variable {settings : Settings} {d d' : Device}

/-! ### What is programmed -/

/-- Whether something that can be referred to is programmed. -/
def holds (d : Device) : Referent → Bool
  | .nextHop key => (d.aftOf key.inst).nextHops.contains key.number
  | .group key => (d.aftOf key.inst).groups.contains key.number

theorem holds_congr (h : d'.aft = d.aft) (x : Referent) : d'.holds x = d.holds x := by
  cases x <;> simp only [holds, aftOf, h]

theorem holds_of_empty (h : ∀ n, d.aftOf n = {}) (x : Referent) : d.holds x = false := by
  cases x <;> simp only [holds, h] <;> exact Table.contains_empty _

/-! ### Operations on entries -/

theorem add_ok {entry : AftEntry} {id : Nat} (hok : d.apply ⟨id, .add, entry⟩ = .ok d') :
    match entry with
    | .nextHop h => d.addNextHop h = .ok d'
    | .nextHopGroup g => d.addGroup g = .ok d'
    | .ipv4 e => d.addIpv4 e = .ok d' := by
  rw [apply] at hok
  split at hok
  · cases hok
  · cases entry <;> exact hok

theorem delete_ok {entry : AftEntry} {id : Nat} (hok : d.apply ⟨id, .delete, entry⟩ = .ok d') :
    match entry with
    | .nextHop h => d.deleteNextHop h = .ok d'
    | .nextHopGroup g => d.deleteGroup g = .ok d'
    | .ipv4 e => d.deleteIpv4 e = .ok d' := by
  rw [apply] at hok
  split at hok
  · cases hok
  · cases entry <;> exact hok

/-- An entry that is stored can be referred to, and nothing else changes. -/
theorem holds_add {entry : AftEntry} {id : Nat} (hok : d.apply ⟨id, .add, entry⟩ = .ok d')
    (x : Referent) : d'.holds x = true ↔ entry.referent? = some x ∨ d.holds x = true := by
  have hok := add_ok hok
  cases entry with
  | nextHop h =>
    obtain ⟨-, groups, rfl, -⟩ := addNextHop_ok hok
    rw [refresh, holds_congr (aft_foldl_reroute ..)]
    obtain ⟨n, k⟩ | ⟨n, k⟩ := x <;> by_cases hn : h.inst = n <;>
      simp [holds, aftOf_setAft, hn, AftEntry.referent?, Table.contains_insert]
  | nextHopGroup g =>
    obtain ⟨-, -, ids, rfl, -⟩ := addGroup_ok hok
    rw [refresh, holds_congr (aft_foldl_reroute ..)]
    obtain ⟨n, k⟩ | ⟨n, k⟩ := x <;> by_cases hn : g.inst = n <;>
      simp [holds, aftOf_setAft, hn, AftEntry.referent?, Table.contains_insert]
  | ipv4 e =>
    obtain ⟨-, -, route, -, rfl⟩ := addIpv4_ok hok
    obtain ⟨n, k⟩ | ⟨n, k⟩ := x <;> by_cases hn : e.inst = n <;>
      simp [holds, aftOf_setAft, hn, AftEntry.referent?]

/-- An entry that is deleted can't be referred to any more, and nothing else changes. -/
theorem holds_delete {entry : AftEntry} {id : Nat} (hok : d.apply ⟨id, .delete, entry⟩ = .ok d')
    (x : Referent) : d'.holds x = true ↔ d.holds x = true ∧ entry.referent? ≠ some x := by
  have hok := delete_ok hok
  cases entry with
  | nextHop h =>
    obtain ⟨-, rfl⟩ := deleteNextHop_ok hok
    obtain ⟨n, k⟩ | ⟨n, k⟩ := x <;> by_cases hn : h.inst = n <;>
      simp [holds, aftOf_setAft, hn, AftEntry.referent?, Table.contains_erase, and_comm]
  | nextHopGroup g =>
    obtain ⟨-, rfl⟩ := deleteGroup_ok hok
    obtain ⟨n, k⟩ | ⟨n, k⟩ := x <;> by_cases hn : g.inst = n <;>
      simp [holds, aftOf_setAft, hn, AftEntry.referent?, Table.contains_erase, and_comm]
  | ipv4 e =>
    obtain rfl := deleteIpv4_ok hok
    obtain ⟨n, k⟩ | ⟨n, k⟩ := x <;> by_cases hn : e.inst = n <;>
      simp [holds, aftOf_setAft, hn, AftEntry.referent?]

/-- An entry can be added only if all that it refers to is there. -/
theorem holds_of_add {entry : AftEntry} {id : Nat} (hok : d.apply ⟨id, .add, entry⟩ = .ok d') :
    ∀ x ∈ entry.references, d.holds x = true := by
  have hok := add_ok hok
  intro x hx
  cases entry with
  | nextHop h => cases hx
  | nextHopGroup g =>
    obtain ⟨index, hindex, rfl⟩ := List.mem_map.1 hx
    exact (addGroup_ok hok).2.1 index (Table.mem_keys_iff.1 hindex)
  | ipv4 e =>
    obtain ⟨-, -, route, hr, -⟩ := addIpv4_ok hok
    obtain ⟨g, hops, hg, -⟩ := entryRoute?_eq_some_iff.1 hr
    rw [List.mem_singleton.1 hx]
    exact Table.contains_of_get? hg

theorem addNextHop_error {h : NextHop} {reason : Failure}
    (herror : d.addNextHop h = .error reason) : reason = .invalidEntry := by
  unfold addNextHop at herror
  dsimp only at herror
  split at herror
  · cases herror
    rfl
  · split at herror
    · split at herror <;> cases herror
    · cases herror

theorem addGroup_error {g : NextHopGroup} {reason : Failure}
    (herror : d.addGroup g = .error reason) : reason = .invalidEntry ∨
      ∃ index ∈ g.members.keys, (d.aftOf g.inst).nextHops.contains index = false := by
  unfold addGroup at herror
  dsimp only at herror
  split at herror
  · cases herror
    exact .inl rfl
  · split at herror
    · next hany => exact .inr (by simpa using hany)
    · split at herror
      · split at herror <;> cases herror
      · cases herror

theorem addIpv4_error {e : Ipv4Entry} {reason : Failure} (herror : d.addIpv4 e = .error reason) :
    reason = .invalidEntry ∨ reason = .unknownInstance ∨ d.entryRoute? e = none := by
  unfold addIpv4 at herror
  split at herror
  · cases herror
    exact .inl rfl
  · split at herror
    · cases herror
      exact .inr (.inl rfl)
    · split at herror
      · next hnone => exact .inr (.inr hnone)
      · cases herror

/-- If all that it refers to is there, nothing is missing. -/
theorem WellFormed.add_ne_missing (hw : d.WellFormed) {entry : AftEntry}
    (hall : ∀ x ∈ entry.references, d.holds x = true) (id : Nat) :
    d.apply ⟨id, .add, entry⟩ ≠ .error .missingReference := by
  intro herror
  rw [Device.apply] at herror
  split at herror
  · cases herror
  cases entry with
  | nextHop h => cases addNextHop_error herror
  | nextHopGroup g =>
    obtain h | ⟨index, hindex, hno⟩ := addGroup_error herror
    · cases h
    · have hthere := hall _ (List.mem_map_of_mem hindex)
      rw [holds, hno] at hthere
      cases hthere
  | ipv4 e =>
    obtain h | h | hnone := addIpv4_error herror
    · cases h
    · cases h
    · obtain ⟨route, hroute⟩ := hw.entryRoute?_of_group (hall _ List.mem_cons_self)
      rw [hnone] at hroute
      cases hroute

end Device

/-! ### One errand -/

/-- The operation that an errand amounts to, if it is one. -/
def Errand.operation? (id : Nat) : Errand → Option Operation
  | install entry => some ⟨id, .add, entry⟩
  | delete entry => some ⟨id, .delete, entry⟩
  | _ => none

/-- Whether what was there became what is there, because of an errand with such an outcome. -/
def Errand.Changes (c : Errand) (ok : Bool) (before after : Referent → Bool) : Prop :=
  ∀ x, after x = true ↔ ok = true ∧ c.Adds x ∨ before x = true ∧ ¬ (ok = true ∧ c.Removes x)

/-- What was the same stays the same. -/
theorem Errand.Changes.agree {c : Errand} {ok : Bool} {p p' q q' : Referent → Bool}
    (h : c.Changes ok p q) (h' : c.Changes ok p' q') (heq : ∀ x, p x = p' x) (x : Referent) :
    q x = q' x := by
  rw [Bool.eq_iff_iff, h x, h' x, heq]

/-- Without success nothing changes. -/
theorem Errand.changes_false (c : Errand) {p q : Referent → Bool} (h : ∀ x, q x = p x) :
    c.Changes false p q := fun x => by simp [h]

namespace Device

variable {settings : Settings} {d d' : Device} {client : Nat} {params : SessionParams}

/-- What is programmed after the operation of an errand. -/
theorem changes_apply {c : Errand} {id : Nat} {op : Operation} (hc : c.operation? id = some op)
    (hok : d.apply op = .ok d') : c.Changes true d.holds d'.holds := by
  intro x
  cases c with
  | install entry =>
    cases hc
    simp [holds_add hok, Errand.Adds, Errand.Removes]
  | delete entry =>
    cases hc
    simp [holds_delete hok, Errand.Adds, Errand.Removes]
  | _ => cases hc

/-- What is programmed after a flush. -/
theorem changes_flush {inst : String} (h : ∀ n, d'.aftOf n = if inst = n then {} else d.aftOf n) :
    (Errand.flush inst).Changes true d.holds d'.holds := by
  intro x
  have hsame : d'.holds x = (d.holds x && decide (x.inst ≠ inst)) := by
    obtain ⟨n, k⟩ | ⟨n, k⟩ := x <;> by_cases hn : n = inst
    · simp [holds, h, hn, Referent.inst]
    · simp [holds, h, hn, Ne.symm hn, Referent.inst]
    · simp [holds, h, hn, Referent.inst]
    · simp [holds, h, hn, Ne.symm hn, Referent.inst]
  simp [hsame, Errand.Adds, Errand.Removes]

/-- An operation that leads to a forwarding entry changes nothing that can be referred to. -/
theorem changes_of_target {c : Errand} {id : Nat} {op : Operation}
    (hc : c.operation? id = some op) (htarget : target? op.verb op.entry ≠ none) {ok : Bool}
    {p q : Referent → Bool} : c.Changes true p q ↔ c.Changes ok p q := by
  cases c with
  | install entry =>
    cases hc
    cases entry with
    | ipv4 e => simp [Errand.Changes, Errand.Adds, Errand.Removes, AftEntry.referent?]
    | _ => exact absurd rfl htarget
  | delete entry =>
    cases hc
    exact absurd rfl htarget
  | _ => cases hc

theorem Attends.of_modify {session : Nat} {ops : List Operation}
    {reply : Option (Except CallError (List OperationResult))}
    (h : d.Attends client [⟨.modify session ops, reply⟩] d') :
    ∃ a, reply = some (Bench.resultsOf a) ∧ d.Exchange client (.modify client ops) a d' := by
  cases h with
  | modify hx => exact ⟨_, rfl, hx⟩

theorem Attends.of_flush {session : Nat} {inst : String} {reply : Option (Except CallError Unit)}
    (h : d.Attends client [⟨.flush session inst, reply⟩] d') :
    ∃ a, reply = some (Bench.wordOf a) ∧ d.Exchange client (.flush client inst) a d' := by
  cases h with
  | flush hx => exact ⟨_, rfl, hx⟩

/-- **The device and an operation of an errand**: what is programmed changes if the status completes
the operation, and only then; and nothing is missing that was there. -/
theorem Exchange.operation {c : Errand} {id : Nat} {op : Operation} {a : Answer}
    (hx : d.Exchange client (.modify client [op]) a d') (hd : Reachable settings d)
    (hopen : d.sessions.get? client = some params) (hc : c.operation? id = some op) :
    ∃ status, a = .results (.ok [⟨op.id, status⟩]) ∧
      c.Changes (status.satisfies params.ackMode) d.holds d'.holds ∧
      ((∀ x ∈ c.references, d.holds x = true) → c = .install op.entry →
        status ≠ .failed .missingReference) := by
  obtain ⟨h₀, status, hg, ha, hcarried⟩ := hx.modify hd hopen
  have hholds : ∀ x, (d.after h₀).holds x = d.holds x := holds_congr (hg.keeps hd hopen).1
  refine ⟨status, ha, ?_⟩
  cases hcarried with
  | @refused reason herror haft =>
    refine ⟨c.changes_false fun x => (holds_congr haft x).trans (hholds x), ?_⟩
    intro hall hinstall heq
    subst hinstall
    cases heq
    rw [← Option.some.inj hc] at herror
    exact (hd.after h₀).wellFormed.add_ne_missing (fun x hx => (hholds x).trans (hall x hx)) id
      herror
  | @applied d₂ _ hok haft hreached henough =>
    refine ⟨?_, fun _ _ => hreached _⟩
    have hchanges : c.Changes true d.holds d'.holds := fun x => by
      rw [holds_congr haft, changes_apply hc hok x, hholds]
    by_cases htarget : target? op.verb op.entry = none
    · rw [henough htarget]
      exact hchanges
    · exact (changes_of_target hc htarget).1 hchanges

/-- **The device and a flush.** -/
theorem Exchange.flushed {inst : String} {a : Answer}
    (hx : d.Exchange client (.flush client inst) a d') (hd : Reachable settings d)
    (hopen : d.sessions.get? client = some params) :
    (Errand.flush inst).Changes (Bench.wordOf a).isOk d.holds d'.holds := by
  obtain ⟨⟨e, rfl⟩, haft⟩ | ⟨rfl, hall⟩ := hx.flush hd hopen
  · exact Errand.changes_false _ (holds_congr haft)
  · exact changes_flush hall

end Device

namespace Installer

variable {S : Type} {w : Surroundings S} {cut : Option Nat} {settings : Settings}

/-- An installer whose session is open at a device, and that knows of exactly what is programmed
there. -/
structure Agrees (settings : Settings) (d : Device) (i : Installer) : Prop where
  reachable : Device.Reachable settings d
  opened : d.sessions.get? i.session = some i.params
  knows : ∀ x, i.knows x = d.holds x

/-- What has to be true of an errand that a device has attended to: before and after it, the
installer knows of exactly what is programmed. -/
structure Record.Exact (client : Nat) (d d' : Device) (r : Record S) : Prop where
  before : ∀ x, r.before.knows x = d.holds x
  after : ∃ word i', r.outcome = some (word, i') ∧ ∀ x, i'.knows x = d'.holds x
  /-- The device misses no reference of an entry that is submitted. -/
  submitted : ∀ entry, r.errand = .install entry → r.calls ≠ [] → ∃ id status,
    r.calls = [⟨.modify client [⟨id, .add, entry⟩], some (.ok [⟨id, status⟩])⟩] ∧
      status ≠ .failed .missingReference
  /-- The device would have refused an entry that isn't submitted, too. -/
  refused : ∀ entry, r.errand = .install entry → r.calls = [] →
    ∀ h, d.Governs client h → ∀ id, ∃ reason, (d.after h).apply ⟨id, .add, entry⟩ = .error reason

variable {i : Installer} {d d' : Device}

/-- An entry that refers to something unknown would be refused. -/
theorem Agrees.refuses (ha : i.Agrees settings d) {entry : AftEntry} {x : Referent}
    (hx : x ∈ entry.references) (hno : i.knows x = false) {h : List Event}
    (hg : d.Governs i.session h) (id : Nat) :
    ∃ reason, (d.after h).apply ⟨id, .add, entry⟩ = .error reason := by
  cases hop : (d.after h).apply ⟨id, .add, entry⟩ with
  | error reason => exact ⟨reason, rfl⟩
  | ok d₂ =>
    have hthere := Device.holds_of_add hop x hx
    rw [Device.holds_congr (hg.keeps ha.reachable ha.opened).1, ← ha.knows, hno] at hthere
    cases hthere

/-- The word on an operation tells whether the status completes it. -/
theorem isOk_concluded (i : Installer) (c : Errand) (entry : AftEntry) (status : Status) :
    (i.concluded c entry (some (.ok [⟨i.nextId, status⟩]))).1.isOk =
      status.satisfies i.params.ackMode := by
  have hfind : ([⟨i.nextId, status⟩] : List OperationResult).find? (fun x => x.id = i.nextId) =
      some ⟨i.nextId, status⟩ := by simp
  unfold concluded judge
  simp only [hfind]
  cases status with
  | failed reason => rfl
  | ribProgrammed => cases i.params.ackMode <;> rfl
  | fibProgrammed => cases i.params.ackMode <;> rfl

/-- What is the same in both stays the same when both change alike. -/
theorem Agrees.of_changes {s : S} {c : Errand} {word : Word} {i' : Installer}
    (ha : i.Agrees settings d) (hout : (recordOf w cut i s c).outcome = some (word, i'))
    (hkept : Device.Reachable settings d' ∧ d'.sessions.get? i.session = some i.params)
    (h : c.Changes word.isOk d.holds d'.holds) : i'.Agrees settings d' := by
  obtain ⟨hsame, hknows, -⟩ := recordOf_after hout
  refine ⟨hkept.1, ?_, Errand.Changes.agree hknows h ha.knows⟩
  rw [hsame.session, hsame.params]
  exact hkept.2

/-- An operation that was attended to. -/
theorem Agrees.operation {c : Errand} {op : Operation} (ha : i.Agrees settings d)
    (hc : c.operation? i.nextId = some op)
    {reply : Option (Except CallError (List OperationResult))}
    (hx : d.Attends i.session [⟨.modify i.session [op], reply⟩] d') :
    (Device.Reachable settings d' ∧ d'.sessions.get? i.session = some i.params) ∧
      ∃ status, reply = some (.ok [⟨i.nextId, status⟩]) ∧
        c.Changes (status.satisfies i.params.ackMode) d.holds d'.holds ∧
        ((∀ x ∈ c.references, i.knows x = true) → c = .install op.entry →
          status ≠ .failed .missingReference) := by
  obtain ⟨a, rfl, hexchange⟩ := hx.of_modify
  obtain ⟨status, rfl, hchanges, hthere⟩ := hexchange.operation ha.reachable ha.opened hc
  have hid : op.id = i.nextId := by cases c <;> cases hc <;> rfl
  refine ⟨hexchange.kept ha.reachable ha.opened fun d ticket => d.sessions_step _, status, ?_,
    hchanges, fun hall => hthere fun x hx => (ha.knows x).symm.trans (hall x hx)⟩
  rw [← hid]
  rfl

/-- The word on an operation that was answered. -/
theorem Agrees.concluded {s : S} {c : Errand} {entry : AftEntry} {status : Status}
    (ha : i.Agrees settings d)
    (hout : (recordOf w cut i s c).outcome =
      some (i.concluded c entry (some (.ok [⟨i.nextId, status⟩]))))
    (hkept : Device.Reachable settings d' ∧ d'.sessions.get? i.session = some i.params)
    (h : c.Changes (status.satisfies i.params.ackMode) d.holds d'.holds) :
    ∃ word i', (recordOf w cut i s c).outcome = some (word, i') ∧ i'.Agrees settings d' := by
  rw [← isOk_concluded i c entry] at h
  exact ⟨_, _, hout, ha.of_changes hout hkept h⟩

/-- An errand that is submitted: the installer and the device agree after it if they did before. -/
theorem Agrees.submitted {s : S} {c : Errand} {reply : Option (c.call i.session i.nextId).Reply}
    (ha : i.Agrees settings d)
    (hout : (recordOf w cut i s c).outcome = i.outcomeOf w cut s c reply)
    (hx : d.Attends i.session [⟨c.call i.session i.nextId, reply⟩] d') :
    ∃ word i', (recordOf w cut i s c).outcome = some (word, i') ∧ i'.Agrees settings d' := by
  cases c with
  | install entry =>
    obtain ⟨hkept, status, rfl, hchanges, -⟩ := ha.operation (c := .install entry) rfl hx
    exact ha.concluded (hout.trans (if_pos (Bool.or_true _))) hkept hchanges
  | delete entry =>
    obtain ⟨hkept, status, rfl, hchanges, -⟩ := ha.operation (c := .delete entry) rfl hx
    exact ha.concluded (hout.trans (if_pos (Bool.or_true _))) hkept hchanges
  | flush inst =>
    obtain ⟨a, rfl, hexchange⟩ := hx.of_flush
    exact ⟨_, _, hout, ha.of_changes hout
      (hexchange.kept ha.reachable ha.opened fun d ticket => d.sessions_step _)
      (hexchange.flushed ha.reachable ha.opened)⟩
  | close => cases hx

/-- An entry that is submitted is answered, and nothing is missing. -/
theorem Agrees.answered {entry : AftEntry} (ha : i.Agrees settings d)
    (hall : ∀ x ∈ entry.references, i.knows x = true)
    {reply : Option (Except CallError (List OperationResult))}
    (hx : d.Attends i.session [⟨.modify i.session [⟨i.nextId, .add, entry⟩], reply⟩] d') :
    ∃ status, reply = some (.ok [⟨i.nextId, status⟩]) ∧ status ≠ .failed .missingReference := by
  obtain ⟨-, status, hreply, -, hthere⟩ := ha.operation (c := .install entry) rfl hx
  exact ⟨status, hreply, hthere hall rfl⟩

/-- An entry that isn't submitted: others have left everything as it was. -/
theorem Agrees.silence {calls : List CallRecord} (ha : i.Agrees settings d) (hcalls : calls = [])
    (hx : d.Attends i.session calls d') : i.Agrees settings d' := by
  subst hcalls
  cases hx with
  | silence h hg =>
    obtain ⟨haft, hopen⟩ := hg.keeps ha.reachable ha.opened
    exact ⟨ha.reachable.after h, hopen,
      fun x => (ha.knows x).trans (Device.holds_congr haft x).symm⟩

/-- **One errand**: the installer and the device agree after it if they did before. -/
theorem Agrees.carriedOut {s : S} {c : Errand} (ha : i.Agrees settings d)
    (hx : d.Attends i.session (recordOf w cut i s c).calls d') :
    (recordOf w cut i s c).Exact i.session d d' ∧
      ∃ word i', (recordOf w cut i s c).outcome = some (word, i') ∧ i'.Agrees settings d' := by
  obtain ⟨entry, x, rfl, hxr, hno, heq⟩ | ⟨hall, heq⟩ := recordOf_cases w cut i s c
  · have hcalls := congrArg Record.calls heq
    have hafter := ha.silence hcalls hx
    refine ⟨⟨ha.knows, ⟨_, i, congrArg Record.outcome heq, hafter.knows⟩,
      fun _ _ hne => absurd hcalls hne, fun entry' hc _ h hg id => ?_⟩,
      _, i, congrArg Record.outcome heq, hafter⟩
    cases hc
    exact ha.refuses hxr hno hg id
  · have hcalls := congrArg Record.calls heq
    rw [hcalls] at hx
    obtain ⟨word, i', hout, hafter⟩ := ha.submitted (congrArg Record.outcome heq) hx
    refine ⟨⟨ha.knows, ⟨word, i', hout, hafter.knows⟩, fun entry hc _ => ?_,
      fun _ _ hnone => ?_⟩, word, i', hout, hafter⟩
    · change c = _ at hc
      subst hc
      obtain ⟨status, hreply, hthere⟩ := ha.answered hall hx
      refine ⟨i.nextId, status, hcalls.trans ?_, hthere⟩
      exact congrArg (fun r => [CallRecord.mk (.modify i.session _) r]) hreply
    · rw [hcalls] at hnone
      cases hnone

/-- **One errand after the other.** -/
theorem Agrees.records {s : S} {cs : List Errand} {past later : List (Record S)} {r : Record S}
    {d₁ d₂ : Device} (ha : i.Agrees settings d)
    (h : i.records w cut s cs = past ++ r :: later) (hpast : Attended i.session d past d₁)
    (hx : d₁.Attends i.session r.calls d₂) : r.Exact i.session d₁ d₂ := by
  induction past generalizing i d s cs with
  | nil =>
    cases hpast
    obtain ⟨c, -, rfl, -⟩ := records_eq_cons h
    exact (ha.carriedOut hx).1
  | cons q past ih =>
    obtain ⟨c, cs', rfl, hrest⟩ := records_eq_cons h
    obtain ⟨word, i', hout, hlater⟩ := hrest (by simp)
    cases hpast with
    | cons hfirst hpast =>
      obtain ⟨-, word', i'', hout', hafter⟩ := ha.carriedOut hfirst
      cases hout.symm.trans hout'
      have hsame := (recordOf_after hout).1.session
      rw [← hsame] at hpast hx ⊢
      exact ih hafter hlater hpast hx

/-- A new installer agrees with a device at which nothing is programmed. -/
theorem IsNew.agrees (hi : i.IsNew) (hd : Device.Reachable settings d)
    (hopen : d.sessions.get? i.session = some i.params) (hempty : ∀ n, d.aftOf n = {}) :
    i.Agrees settings d :=
  ⟨hd, hopen, fun x => (hi.knows x).trans (Device.holds_of_empty hempty x).symm⟩

/-- **A new installer knows of exactly what is programmed**, before and after every errand, if
nothing was programmed to begin with: so it does at a device that attends to its calls, whatever
others do that is no business of the primary session; and so it does at the testbed on a clock, up
to the first errand that isn't heard of in time.  No entry that it submits misses a reference, and
the device would have refused those that it doesn't submit. -/
theorem knows_what_is_programmed (hi : i.IsNew) (hd : Device.Reachable settings d)
    (hopen : d.sessions.get? i.session = some i.params) (hempty : ∀ n, d.aftOf n = {}) :
    (∀ {S : Type} (w : Surroundings S) (cut : Option Nat) (s : S) (cs : List Errand)
      (past : List (Record S)) (r : Record S) (later : List (Record S)) (d₁ d₂ : Device),
      i.records w cut s cs = past ++ r :: later → Attended i.session d past d₁ →
      d₁.Attends i.session r.calls d₂ → r.Exact i.session d₁ d₂) ∧
    ∀ (b : Bench) (cut : Option Nat) (cs : List Errand) (past : List (Record Bench))
      (r : Record Bench) (later : List (Record Bench)), b.device = d → b.Serves i.session →
      i.records Bench.surroundings cut b cs = past ++ r :: later →
      (∀ q ∈ past ++ [r], Bench.InTime q) → r.Exact i.session r.state.device r.left.device := by
  have ha := hi.agrees hd hopen hempty
  refine ⟨fun w cut s cs past r later d₁ d₂ h hpast hx => ha.records h hpast hx,
    fun b cut cs past r later hb hserves h hheard => ?_⟩
  obtain ⟨hpast, hx⟩ := Bench.attended_records hserves h hheard
  exact ha.records h (hb ▸ hpast) hx

/-- A testbed with a session that waits for forwarding, and nothing programmed. -/
def blank : Device := Device.linked.serveAll [.openSession cautious.params]

theorem reachable_blank : Device.Reachable .standard blank := Device.reachable_linked.serveAll _

/-- The testbed on a clock, with the installer's end of the session. -/
def blankBench : Bench :=
  { device := blank, handles := .insert ∅ 1 { params := cautious.params } }

theorem serves_blankBench : blankBench.Serves 1 where
  ready := Bench.ready_of_owed rfl _
  ticks _ hp := (List.not_mem_nil hp).elim
  opened := by decide +kernel
  primary := by decide +kernel

/-- The next-hop that the errands are about, and a group with it. -/
def loneHop : AftEntry := .nextHop ⟨1, .ofOctets 192 0 2 6, defaultInstanceName⟩

def loneGroup : AftEntry := .nextHopGroup ⟨1, .ofList [(1, 1)], defaultInstanceName⟩

/-- The group is installed too early, then in time, and the next-hop is deleted too early. -/
def hastyErrands : List Errand :=
  [.install loneGroup, .install loneHop, .install loneGroup, .delete loneHop]

/-- The next-hop and the group, as an installer knows of them and a device holds them. -/
def loneReferents : List Referent :=
  [.nextHop ⟨defaultInstanceName, 1⟩, .group ⟨defaultInstanceName, 1⟩]

/-- Before the last errand the next-hop and the group are known and programmed, although the group
was refused at first, and so they are after it. -/
theorem knows_what_is_programmed_hasty :
    ∃ past r later, cautious.records Bench.surroundings none blankBench hastyErrands =
        past ++ r :: later ∧ past.length = 3 ∧ r.errand = .delete loneHop ∧
      (∀ x ∈ loneReferents, r.before.knows x = true ∧ r.state.device.holds x = true ∧
        r.left.device.holds x = true) ∧
      r.Exact 1 r.state.device r.left.device := by
  obtain ⟨-, hclock⟩ := knows_what_is_programmed (i := cautious) ⟨rfl, rfl, rfl⟩ reachable_blank
    (by decide +kernel) (fun n => rfl)
  have hheard : ∀ q ∈ cautious.records Bench.surroundings none blankBench hastyErrands,
      q.errand ≠ .close ∧ ∀ x ∈ q.calls, x.reply.isSome = true := by
    decide +kernel
  have hfourth : (cautious.records Bench.surroundings none blankBench hastyErrands)[3]?.map
      (fun r => (r.errand, decide (∀ x ∈ loneReferents, r.before.knows x = true ∧
        r.state.device.holds x = true ∧ r.left.device.holds x = true))) =
      some (.delete loneHop, true) := by
    decide +kernel
  obtain ⟨r, hr, hboth⟩ := Option.map_eq_some_iff.1 hfourth
  obtain ⟨hdelete, hthere⟩ := Prod.mk.inj hboth
  obtain ⟨hsplit, hlength⟩ := split_of_getElem? hr
  refine ⟨_, r, _, hsplit, hlength, hdelete, of_decide_eq_true hthere, ?_⟩
  refine hclock blankBench none hastyErrands _ r _ rfl serves_blankBench hsplit fun q hq => ?_
  refine hheard q ?_
  rw [hsplit]
  exact (List.mem_append.1 hq).elim (List.mem_append_left _) fun hq =>
    List.mem_append_right _ (List.mem_singleton.1 hq ▸ List.mem_cons_self)

end Installer

end RoutePreference
