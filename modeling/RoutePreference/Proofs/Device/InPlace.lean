import RoutePreference.Proofs.Device.Alike

/-!
# Changes made in place

* `InPlace`: changes that are made one after the other, where an error keeps what was done before
  it;
* `InPlace.apply`, `InPlace.serve`: operations and requests made of such changes, in the order in
  which the testbed makes them: tables are put there before the members of a group are looked up,
  and what is deleted is removed before anybody asks whether it was there;
* `Device.Matches`: the same device, where a network instance without tables of programmed entries
  counts like one with empty ones;
* `Device.Renders`: what a change in place comes to;
* `renders_apply`, `performAll_inPlace`, `serve_inPlace`: operations and requests come to what
  `Device.apply` and `Device.serve` say;
* `after_inPlace`: so does any history.
-/

namespace RoutePreference

/-- Changes that are made in place: an error keeps what was done before it. -/
abbrev InPlace (ε α : Type) : Type := EStateM ε Device α

namespace InPlace

/-! ### Operations -/

/-- The tables of a network instance, which are put there if there are none. -/
def tables (inst : String) : InPlace Failure AftTables := do
  modify fun d => d.setAft inst (d.aftOf inst)
  return (← get).aftOf inst

/-- Adds or replaces a next-hop. -/
def addNextHop (h : NextHop) : InPlace Failure Unit := do
  if !h.address.isUsable then throw .invalidEntry
  let t ← tables h.inst
  modify fun d => d.setAft h.inst { t with nextHops := t.nextHops.insert h.index h }
  match t.nextHops.get? h.index with
  | some old =>
    if old ≠ h then
      let groups := t.groups.values.filter fun g => g.members.contains h.index
      modify fun d => d.refresh h.inst (groups.map (·.id))
  | none => return ()

/-- Adds or replaces a group.  The tables are there by the time the members are looked up. -/
def addGroup (g : NextHopGroup) : InPlace Failure Unit := do
  if g.members.isEmpty then throw .invalidEntry
  let t ← tables g.inst
  if g.members.keys.any fun index => !t.nextHops.contains index then throw .missingReference
  modify fun d => d.setAft g.inst { t with groups := t.groups.insert g.id g }
  match t.groups.get? g.id with
  | some old => if old ≠ g then modify fun d => d.refresh g.inst [g.id]
  | none => return ()

/-- Adds or replaces an IPv4 entry. -/
def addIpv4 (e : Ipv4Entry) : InPlace Failure Unit := do
  if !e.dest.isMasked then throw .invalidEntry
  if !(← get).instances.contains e.groupHome then throw .unknownInstance
  match (← get).entryRoute? e with
  | none => throw .missingReference
  | some route =>
    let t ← tables e.inst
    modify fun d => d.setAft e.inst { t with ipv4 := t.ipv4.insert e.dest e }
    modify fun d => d.changeRib e.inst fun rib => rib.install e.dest .gribi route

/-- Deletes a next-hop that no group of its network instance has as a member. -/
def deleteNextHop (h : NextHop) : InPlace Failure Unit := do
  match (← get).aft.get? h.inst with
  | none => throw .invalidEntry
  | some t =>
    if !t.nextHops.contains h.index then throw .invalidEntry
    if t.groups.values.any fun g => g.members.contains h.index then throw .inUse
    modify fun d => d.setAft h.inst { t with nextHops := t.nextHops.erase h.index }

/-- Deletes a group that no IPv4 entry resolves through.  It is removed before anybody asks whether
it was there. -/
def deleteGroup (g : NextHopGroup) : InPlace Failure Unit := do
  if !((← get).usersOf g.inst g.id).isEmpty then throw .inUse
  match (← get).aft.get? g.inst with
  | none => throw .invalidEntry
  | some t =>
    modify fun d => d.setAft g.inst { t with groups := t.groups.erase g.id }
    if !t.groups.contains g.id then throw .invalidEntry

/-- Deletes an IPv4 entry, which is removed before anybody asks whether it was there. -/
def deleteIpv4 (e : Ipv4Entry) : InPlace Failure Unit := do
  match (← get).aft.get? e.inst with
  | none => throw .invalidEntry
  | some t =>
    modify fun d => d.setAft e.inst { t with ipv4 := t.ipv4.erase e.dest }
    if !t.ipv4.contains e.dest then throw .invalidEntry
    modify fun d => d.changeRib e.inst fun rib => rib.withdraw e.dest .gribi

/-- Carries out an operation on an entry of an existing network instance. -/
def apply (op : Operation) : InPlace Failure Unit := do
  if !(← get).instances.contains op.entry.inst then throw .unknownInstance
  match op.verb, op.entry with
  | .delete, .nextHop h => deleteNextHop h
  | .delete, .nextHopGroup g => deleteGroup g
  | .delete, .ipv4 e => deleteIpv4 e
  | _, .nextHop h => addNextHop h
  | _, .nextHopGroup g => addGroup g
  | _, .ipv4 e => addIpv4 e

/-- Carries out one operation of a session. -/
def perform (primary : Bool) (d : Device) (op : Operation) : Device × Provisional :=
  match (if primary then apply op else throw .notPrimary).run d with
  | .ok () d =>
    (d, { result := { id := op.id, status := .ribProgrammed }
          target := Device.target? op.verb op.entry })
  | .error reason d =>
    (d, { result := { id := op.id, status := .failed reason }, target := none })

/-- Carries out the operations one after the other. -/
def performAll (primary : Bool) (d : Device) : List Operation → Device × List Provisional
  | [] => (d, [])
  | op :: ops =>
    let (d, r) := perform primary d op
    let (d, rs) := performAll primary d ops
    (d, r :: rs)

/-! ### Requests -/

/-- Deletes a network instance with everything in it.  It is removed before anybody asks whether it
was there. -/
def deleteInstance (name : String) : InPlace Refusal Unit := do
  let known := (← get).instances.contains name
  modify fun d => d.dropInstance name
  if !known then throw (.unknownInstance name)
  modify fun d => d.forgetAft name

/-- Closes a session, which is removed before anybody asks whether it was open. -/
def close (client : Nat) : InPlace Refusal Unit := do
  let before ← get
  modify fun d => { d with sessions := d.sessions.erase client }
  match before.sessions.get? client with
  | none => throw (.unknownSession client)
  | some params =>
    if before.isPrimary client && !params.persistence then
      modify fun d => d.aft.keys.foldl Device.flushInstance d

/-- Carries out the operations of a session. -/
def submit (d : Device) (ticket client : Nat) (ops : List Operation) :
    Device × Option (Except Refusal (List OperationResult)) :=
  match d.sessions.get? client with
  | none => (d, some (.error (.unknownSession client)))
  | some params =>
    let (d, results) := performAll (d.isPrimary client) d ops
    match params.ackMode with
    | .rib => (d, some (.ok (results.map (·.result))))
    | .ribAndFib =>
      ({ d with owed := d.owed ++ [{ client, ticket, results }], tokens := d.tokens + 1 }, none)

/-- The device after a change in place, and the word of it. -/
def settled (m : InPlace Refusal Unit) (d : Device) : Device × Option Answer :=
  match m.run d with
  | .ok () d => (d, some (.done (.ok ())))
  | .error e d => (d, some (.done (.error e)))

/-- Serves a request.  Those that aren't listed are decided before anything is changed. -/
def serve (d : Device) (ticket : Nat) : Request → Device × Option Answer
  | .deleteInstance name => settled (deleteInstance name) d
  | .modify client ops =>
    let (d, r) := submit d ticket client ops
    (d, r.map .results)
  | .close client => settled (close client) d
  | r => d.serve ticket r

/-! ### Histories -/

/-- The device after an event. -/
def step (d : Device) : Event → Device
  | .serve ticket r => (serve d ticket r).1
  | .process => d.process.1

/-- What the testbed says at an event, and to whom. -/
def replies (d : Device) : Event → List (Nat × Answer)
  | .serve ticket r => (serve d ticket r).2.toList.map fun a => (ticket, a)
  | .process => d.process.2

/-- The device after one event after the other. -/
def after (d : Device) (h : List Event) : Device := h.foldl step d

/-- All that the testbed says in the course of a history. -/
def repliesIn (d : Device) : List Event → List (Nat × Answer)
  | [] => []
  | e :: h => replies d e ++ repliesIn (step d e) h

end InPlace

namespace Device

variable {d d' : Device}

/-- Whether two devices are the same, where a network instance without tables of programmed entries
counts like one with empty ones. -/
structure Matches (d d' : Device) : Prop where
  alike : d.Alike d'
  owed : d'.owed = d.owed

theorem Matches.refl (d : Device) : Matches d d := ⟨.refl d, rfl⟩

theorem Matches.symm (h : Matches d d') : Matches d' d := ⟨h.alike.symm, h.owed.symm⟩

theorem Matches.trans {d'' : Device} (h : Matches d d') (h' : Matches d' d'') : Matches d d'' :=
  ⟨h.alike.trans h'.alike, h'.owed.trans h.owed⟩

/-- Tables that are empty, or there already, may be put there. -/
theorem matches_setAft (d : Device) (inst : String) : Matches d (d.setAft inst (d.aftOf inst)) where
  alike := .intro (d.aft.insert inst (d.aftOf inst)) d.owed fun n => by
    show (d.setAft inst (d.aftOf inst)).aftOf n = _
    rw [aftOf_setAft]
    split
    · next hn => rw [hn]
    · rfl
  owed := rfl

theorem setAft_setAft (d : Device) (inst : String) (t t' : AftTables) :
    (d.setAft inst t).setAft inst t' = d.setAft inst t' := by
  refine congrArg (fun aft => { d with aft }) (Table.ext_get? fun n => ?_)
  show ((d.aft.insert inst t).insert inst t').get? n = _
  rw [Table.get?_insert, Table.get?_insert, Table.get?_insert]
  split <;> rfl

/-- Putting the tables there that are there changes nothing at all. -/
theorem setAft_self {inst : String} {t : AftTables} (h : d.aft.get? inst = some t) :
    d.setAft inst t = d := by
  rw [setAft, Table.insert_eq_self h]

/-! ### What changes come to -/

/-- What a change in place comes to: the device that it leaves, or an error.  After an error, the
device still is what it has to be. -/
inductive Renders {ε : Type} (P : Device → Prop) (m : InPlace ε Unit) (d : Device) :
    Except ε Device → Prop where
  | error {e : ε} {d' : Device} (run : m.run d = .error e d') (kept : P d') :
    Renders P m d (.error e)
  | ok {d' : Device} (run : m.run d = .ok () d') : Renders P m d (.ok d')

namespace Renders

variable {ε : Type} {P : Device → Prop} {m m' : InPlace ε Unit} {r r' : Except ε Device}

theorem thrown (h : P d) (e : ε) : Renders P (throw e) d (.error e) := .error rfl h

theorem done : Renders P (pure () : InPlace ε Unit) d (.ok d) := .ok rfl

theorem changed (f : Device → Device) : Renders P (modify f : InPlace ε Unit) d (.ok (f d)) :=
  .ok rfl

/-- What runs alike comes to the same. -/
theorem of_run {d₁ : Device} (h : Renders P m' d₁ r) (hrun : m.run d = m'.run d₁) :
    Renders P m d r := by
  cases h with
  | error run kept => exact .error (hrun.trans run) kept
  | ok run => exact .ok (hrun.trans run)

theorem get {k : Device → InPlace ε Unit} (h : Renders P (k d) d r) :
    Renders P (get >>= k) d r := h.of_run rfl

theorem modify {f : Device → Device} {k : Unit → InPlace ε Unit}
    (h : Renders P (k ()) (f d) r) : Renders P (modify f >>= k) d r := h.of_run rfl

theorem tables {inst : String} {k : AftTables → InPlace Failure Unit} {r : Except Failure Device}
    (h : Renders P (k (d.aftOf inst)) (d.setAft inst (d.aftOf inst)) r) :
    Renders P (InPlace.tables inst >>= k) d r := by
  refine h.of_run ?_
  show (k ((d.setAft inst (d.aftOf inst)).aftOf inst)).run _ = _
  rw [aftOf_setAft_self]

theorem ite {c : Prop} [Decidable c] (h : c → Renders P m d r)
    (h' : ¬ c → Renders P m' d r') :
    Renders P (if c then m else m') d (if c then r else r') := by
  split
  · next hc => exact h hc
  · next hc => exact h' hc

/-- A check that comes before anything is changed in earnest. -/
theorem check {c : Prop} [Decidable c] {e : ε} {k : Unit → InPlace ε Unit}
    (h : P d) (hm : ¬ c → Renders P m d r) :
    Renders P (if c then throw e >>= k else m) d (if c then .error e else r) :=
  .ite (fun _ => .error rfl h) hm

end Renders

/-! ### Operations -/

theorem renders_addNextHop (d : Device) (h : NextHop) :
    Renders (Matches d) (.addNextHop h) d (d.addNextHop h) := by
  unfold Device.addNextHop InPlace.addNextHop
  dsimp only
  refine .check (.refl d) fun _ => .tables (.modify ?_)
  rw [setAft_setAft]
  cases (d.aftOf h.inst).nextHops.get? h.index with
  | none => exact .done
  | some old =>
    dsimp only
    rw [ite_not]
    exact .ite (fun _ => .done) fun _ => .changed _

theorem renders_addGroup (d : Device) (g : NextHopGroup) :
    Renders (Matches d) (.addGroup g) d (d.addGroup g) := by
  unfold Device.addGroup InPlace.addGroup
  dsimp only
  -- a missing member is found out when the tables are there already
  refine .check (.refl d) fun _ => .tables (.check (matches_setAft d g.inst) fun _ => .modify ?_)
  rw [setAft_setAft]
  cases (d.aftOf g.inst).groups.get? g.id with
  | none => exact .done
  | some old =>
    dsimp only
    rw [ite_not]
    exact .ite (fun _ => .done) fun _ => .changed _

theorem renders_addIpv4 (d : Device) (e : Ipv4Entry) :
    Renders (Matches d) (.addIpv4 e) d (d.addIpv4 e) := by
  unfold Device.addIpv4 InPlace.addIpv4
  dsimp only
  refine .check (.refl d) fun _ => .get (.check (.refl d) fun _ => .get ?_)
  cases d.entryRoute? e with
  | none => exact .thrown (.refl d) _
  | some route =>
    refine .tables (.modify ?_)
    rw [setAft_setAft]
    exact .changed _

/-- Where there are no tables, nothing is programmed. -/
theorem aftOf_of_none {inst : String} (h : d.aft.get? inst = none) : d.aftOf inst = {} := by
  rw [aftOf, h, Option.getD_none]

theorem aftOf_of_some {inst : String} {t : AftTables} (h : d.aft.get? inst = some t) :
    d.aftOf inst = t := by
  rw [aftOf, h, Option.getD_some]

theorem renders_deleteNextHop (d : Device) (h : NextHop) :
    Renders (Matches d) (.deleteNextHop h) d (d.deleteNextHop h) := by
  unfold Device.deleteNextHop InPlace.deleteNextHop
  dsimp only
  refine .get ?_
  cases ht : d.aft.get? h.inst with
  | none =>
    rw [aftOf_of_none ht]
    exact .thrown (.refl d) _
  | some t =>
    rw [aftOf_of_some ht]
    exact .check (.refl d) fun _ => .check (.refl d) fun _ => .changed _

/-- What is removed although it isn't there leaves the tables as they are. -/
theorem renders_deleteGroup (d : Device) (g : NextHopGroup) :
    Renders (Matches d) (.deleteGroup g) d (d.deleteGroup g) := by
  unfold Device.deleteGroup InPlace.deleteGroup
  dsimp only
  refine .get (.check (.refl d) fun _ => .get ?_)
  cases ht : d.aft.get? g.inst with
  | none =>
    rw [aftOf_of_none ht]
    exact .thrown (.refl d) _
  | some t =>
    rw [aftOf_of_some ht]
    refine .modify (.ite (fun habsent => .thrown ?_ _) fun _ => .done)
    have hno : t.groups.get? g.id = none := Table.contains_eq_false_iff.1 (by simpa using habsent)
    rw [Table.erase_eq_self hno, setAft_self ht]
    exact .refl d

theorem renders_deleteIpv4 (d : Device) (e : Ipv4Entry) :
    Renders (Matches d) (.deleteIpv4 e) d (d.deleteIpv4 e) := by
  unfold Device.deleteIpv4 InPlace.deleteIpv4
  dsimp only
  refine .get ?_
  cases ht : d.aft.get? e.inst with
  | none =>
    rw [aftOf_of_none ht]
    exact .thrown (.refl d) _
  | some t =>
    rw [aftOf_of_some ht]
    refine .modify (.ite (fun habsent => .error rfl ?_) fun _ => .changed _)
    have hno : t.ipv4.get? e.dest = none := Table.contains_eq_false_iff.1 (by simpa using habsent)
    rw [Table.erase_eq_self hno, setAft_self ht]
    exact .refl d

/-- **Operations** that are carried out in place come to what the device says. -/
theorem renders_apply (d : Device) (op : Operation) :
    Renders (Matches d) (.apply op) d (d.apply op) := by
  unfold Device.apply InPlace.apply
  refine .get (.check (.refl d) fun _ => ?_)
  obtain ⟨id, verb, entry⟩ := op
  cases verb <;> cases entry
  · exact renders_addNextHop ..
  · exact renders_addGroup ..
  · exact renders_addIpv4 ..
  · exact renders_addNextHop ..
  · exact renders_addGroup ..
  · exact renders_addIpv4 ..
  · exact renders_deleteNextHop ..
  · exact renders_deleteGroup ..
  · exact renders_deleteIpv4 ..

/-! ### What matching devices go on to -/

namespace Matches

theorem perform (h : Matches d d') (primary : Bool) (op : Operation) :
    (d'.perform primary op).2 = (d.perform primary op).2 ∧
      Matches (d.perform primary op).1 (d'.perform primary op).1 := by
  obtain ⟨hresult, hend⟩ := h.alike.perform primary op
  have howed : ∀ d : Device, (d.perform primary op).1.owed = d.owed := fun d =>
    (sameUse_performAll primary d [op]).owed
  exact ⟨hresult, hend, by rw [howed, howed, h.owed]⟩

/-- Withholding the same results. -/
theorem withhold (h : Matches d d') (o : OwedReply) :
    Matches { d with owed := d.owed ++ [o], tokens := d.tokens + 1 }
      { d' with owed := d'.owed ++ [o], tokens := d'.tokens + 1 } :=
  ⟨h.alike.owing .., congrArg (· ++ [o]) h.owed⟩

end Matches

theorem perform_inPlace (h : Matches d d') (primary : Bool) (op : Operation) :
    (InPlace.perform primary d' op).2 = (d.perform primary op).2 ∧
      Matches (d.perform primary op).1 (InPlace.perform primary d' op).1 := by
  obtain ⟨hresult, hend⟩ := h.perform primary op
  rw [← hresult]
  suffices hsame : (InPlace.perform primary d' op).2 = (d'.perform primary op).2 ∧
      Matches (d'.perform primary op).1 (InPlace.perform primary d' op).1 from
    ⟨hsame.1, hend.trans hsame.2⟩
  unfold InPlace.perform Device.perform
  cases primary with
  | false => exact ⟨rfl, .refl d'⟩
  | true =>
    have hop := renders_apply d' op
    generalize d'.apply op = r at hop
    cases hop with
    | error run same =>
      rw [if_pos rfl, if_pos rfl, run]
      exact ⟨rfl, same⟩
    | ok run =>
      rw [if_pos rfl, if_pos rfl, run]
      exact ⟨rfl, .refl _⟩

/-- Operations that are carried out in place, one after the other. -/
theorem performAll_inPlace (h : Matches d d') (primary : Bool) (ops : List Operation) :
    (InPlace.performAll primary d' ops).2 = (d.performAll primary ops).2 ∧
      Matches (d.performAll primary ops).1 (InPlace.performAll primary d' ops).1 := by
  induction ops generalizing d d' with
  | nil => exact ⟨rfl, h⟩
  | cons op ops ih =>
    obtain ⟨hresult, hnext⟩ := perform_inPlace h primary op
    obtain ⟨hresults, hend⟩ := ih hnext
    exact ⟨List.cons_eq_cons.2 ⟨hresult, hresults⟩, hend⟩

/-! ### Requests -/

/-- A network instance that isn't there is deleted in vain. -/
theorem renders_deleteInstance (d : Device) (name : String) :
    Renders (Eq d) (.deleteInstance name) d (d.deleteInstance name) := by
  unfold Device.deleteInstance InPlace.deleteInstance
  refine .get (.modify ?_)
  cases hknown : d.instances.contains name with
  | true => exact .changed _
  | false =>
    have hno : d.instances.get? name = none := Table.contains_eq_false_iff.1 hknown
    refine .error rfl ?_
    rw [dropInstance, Table.erase_eq_self hno]

/-- A session that isn't open is closed in vain. -/
theorem renders_close (d : Device) (client : Nat) :
    Renders (Eq d) (.close client) d (d.close client) := by
  unfold Device.close InPlace.close
  refine .get (.modify ?_)
  cases hopen : d.sessions.get? client with
  | none =>
    refine .error rfl ?_
    rw [Table.erase_eq_self hopen]
  | some params => exact .ite (fun _ => .changed _) fun _ => .done

theorem settled_inPlace {m : InPlace Refusal Unit} {r : Except Refusal Device}
    (h : Renders (Eq d) m d r) : InPlace.settled m d = d.settled r := by
  unfold InPlace.settled
  cases h with
  | error run kept =>
    rw [run, ← kept]
    rfl
  | ok run =>
    rw [run]
    rfl

/-- Apart from operations, requests that are served in place leave the device that they should. -/
theorem serve_inPlace_of_ne_modify (ticket : Nat) (d : Device) {r : Request}
    (hm : ∀ client ops, r ≠ .modify client ops) : InPlace.serve d ticket r = d.serve ticket r := by
  cases r with
  | modify client ops => exact absurd rfl (hm client ops)
  | deleteInstance name => exact settled_inPlace (renders_deleteInstance d name)
  | close client => exact settled_inPlace (renders_close d client)
  | _ => rfl

theorem submit_inPlace (h : Matches d d') (ticket client : Nat) (ops : List Operation) :
    (InPlace.submit d' ticket client ops).2 = (d.submit ticket client ops).2 ∧
      Matches (d.submit ticket client ops).1 (InPlace.submit d' ticket client ops).1 := by
  obtain ⟨hresults, hend⟩ := performAll_inPlace h (d.isPrimary client) ops
  unfold InPlace.submit Device.submit
  rw [h.alike.sessions, h.alike.isPrimary]
  cases d.sessions.get? client with
  | none => exact ⟨rfl, h⟩
  | some params =>
    dsimp only
    rw [hresults]
    cases params.ackMode with
    | rib => exact ⟨rfl, hend⟩
    | ribAndFib => exact ⟨rfl, hend.withhold _⟩

/-- **Requests** that are served in place are answered as the device says. -/
theorem serve_inPlace (h : Matches d d') (ticket : Nat) (r : Request) :
    (InPlace.serve d' ticket r).2 = (d.serve ticket r).2 ∧
      Matches (d.serve ticket r).1 (InPlace.serve d' ticket r).1 := by
  by_cases hm : ∃ client ops, r = .modify client ops
  · obtain ⟨client, ops, rfl⟩ := hm
    obtain ⟨hresult, hend⟩ := submit_inPlace h ticket client ops
    exact ⟨congrArg (Option.map Answer.results) hresult, hend⟩
  · obtain ⟨hanswer, hend⟩ := h.alike.serve ticket r
    obtain ⟨l, hl, hl'⟩ := h.alike.withheld ticket r
    rw [serve_inPlace_of_ne_modify ticket d' fun client ops hr => hm ⟨client, ops, hr⟩]
    exact ⟨hanswer, hend, by rw [hl, hl', h.owed]⟩

/-! ### Histories -/

/-- Withheld results come out alike. -/
theorem Matches.process (h : Matches d d') :
    d'.process.2 = d.process.2 ∧ Matches d.process.1 d'.process.1 := by
  obtain ⟨⟨aft, owed, hsame⟩, howed⟩ := h
  obtain rfl : owed = d.owed := howed
  exact ⟨rfl, .intro (d := d.process.1) aft [] hsame, rfl⟩

theorem step_inPlace (h : Matches d d') (e : Event) :
    InPlace.replies d' e = d.replies e ∧ Matches (d.step e) (InPlace.step d' e) := by
  cases e with
  | serve ticket r =>
    obtain ⟨hanswer, hend⟩ := serve_inPlace h ticket r
    exact ⟨congrArg (fun a : Option Answer => a.toList.map fun a => (ticket, a)) hanswer, hend⟩
  | process => exact h.process

/-- **In the course of a history**, the testbed that makes its changes in place says what the device
says. -/
theorem after_inPlace (h : Matches d d') (l : List Event) :
    InPlace.repliesIn d' l = d.repliesIn l ∧ Matches (d.after l) (InPlace.after d' l) := by
  induction l generalizing d d' with
  | nil => exact ⟨rfl, h⟩
  | cons e l ih =>
    obtain ⟨hsaid, hnext⟩ := step_inPlace h e
    obtain ⟨hrest, hend⟩ := ih hnext
    refine ⟨?_, hend⟩
    rw [InPlace.repliesIn, hsaid, hrest, Device.repliesIn]

end Device

end RoutePreference
