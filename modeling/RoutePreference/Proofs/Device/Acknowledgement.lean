import RoutePreference.Proofs.Device.History
import RoutePreference.Proofs.Device.Tokens
import RoutePreference.Proofs.Device.Use

/-!
# Acknowledgements by the forwarding table

* `Device.forwardsVia`: the channel whose route is used for a destination;
* `Device.statuses`: what becomes of operations in the routing tables;
* `Device.acknowledged`, `Device.acknowledgement`: what is to be reported of them, judged by the
  forwarding tables alone;
* `Device.repliesTo`: what is said to the request with a ticket in the course of a history;
* `waiting_replies`, `settled_replies`: until the routes are chosen anew a request whose results are
  withheld is told nothing, and afterwards nothing more;
* `repliesTo_modify`: all that such a request is ever told;
* `aftOrigin_of_acknowledged`: what is known after an entry was reported as used for forwarding.

The device looks at the mark on a route when it reports; that the mark tells what the forwarding
table holds is soundness.
-/

namespace RoutePreference

namespace Event

/-- Whether the request with the ticket is served; the ticks of a transmission have none. -/
def IsFor (ticket : Nat) : Event → Prop
  | serve t r => t = ticket ∧ ∀ name, r ≠ .tick name
  | process => False

/-- Whether nothing is served but ticks. -/
def Idle : Event → Prop
  | serve _ r => ∃ name, r = .tick name
  | process => True

theorem Idle.not_isFor {e : Event} (h : e.Idle) (ticket : Nat) : ¬ e.IsFor ticket := by
  cases e with
  | serve t r =>
    obtain ⟨name, rfl⟩ := h
    exact fun hf => hf.2 name rfl
  | process => exact id

end Event

/-- In a settled table, the mark on a route tells whether forwarding uses it. -/
theorem Rib.SettledAt.channel_iff {order : List Channel} {ifs : Interfaces} {rib : Rib}
    {dest : Network} (h : rib.SettledAt order ifs dest) (c : Channel) :
    (rib.fib.get? dest).map (·.channel) = some c ↔
      ∃ r, rib.route? dest c = some r ∧ r.active = true := by
  rw [h.fib]
  constructor
  · intro hc
    obtain ⟨e, he, rfl⟩ := Option.map_eq_some_iff.1 hc
    obtain ⟨c, -, hce⟩ := List.exists_of_findSome?_eq_some he
    obtain ⟨r, hr, -, rfl⟩ := Candidates.entryOf_eq_some_iff.1 hce
    exact ⟨r, hr, (h.active c r hr).2 hc⟩
  · rintro ⟨r, hr, hactive⟩
    exact (h.active c r hr).1 hactive

namespace Device

variable {settings : Settings} {d : Device} {ticket : Nat}

/-! ### What forwarding shows -/

/-- The channel whose route is used for a destination. -/
def forwardsVia (d : Device) (inst : String) (dest : Network) : Option Channel :=
  ((d.instances.get? inst).bind fun i => i.rib.fib.get? dest).map (·.channel)

theorem read?_aftOrigin (d : Device) (inst : String) (dest : Network) :
    d.read? (.aftOrigin inst dest) = (d.forwardsVia inst dest.masked).map (·.protocol.text) := by
  rw [forwardsVia, Option.map_map]
  show (d.instances.get? inst).bind _ = _
  cases d.instances.get? inst <;> rfl

/-- The device looks for the mark, and finds out about the forwarding table. -/
theorem Converged.isForwarding_iff (h : d.Converged) (t : Target) :
    d.isForwarding (some t) = true ↔ d.forwardsVia t.inst t.dest = some .gribi := by
  rw [forwardsVia, isForwarding]
  cases hi : d.instances.get? t.inst with
  | none => simp
  | some i =>
    simp only [Option.bind_some]
    rw [((h _ i hi).2 t.dest).channel_iff]
    cases i.rib.route? t.dest .gribi <;> simp

/-! ### What is reported -/

/-- What is to be reported of an operation that got so far: a failure is kept; an IPv4 entry that
was added or replaced counts as used for forwarding only if forwarding shows it. -/
def acknowledged (d : Device) (op : Operation) : Status → Status
  | .failed reason => .failed reason
  | _ =>
    match op.verb, op.entry with
    | .delete, _ => .fibProgrammed
    | _, .ipv4 e =>
      if d.forwardsVia e.inst e.dest = some .gribi then .fibProgrammed else .ribProgrammed
    | _, _ => .fibProgrammed

/-- What becomes of the operations of a session in the routing tables. -/
def statuses (d : Device) (client : Nat) (ops : List Operation) : List Status :=
  (d.performAll (d.isPrimary client) ops).2.map (·.result.status)

/-- What is to be reported of operations that got so far, one by one. -/
def acknowledgement (d : Device) (ops : List Operation) (reached : List Status) :
    List OperationResult :=
  List.zipWith (fun op status => { id := op.id, status := d.acknowledged op status }) ops reached

theorem length_performAll (primary : Bool) (d : Device) (ops : List Operation) :
    (d.performAll primary ops).2.length = ops.length := by
  induction ops generalizing d with
  | nil => rfl
  | cons op ops ih => exact congrArg (· + 1) (ih _)

@[simp] theorem length_statuses (d : Device) (client : Nat) (ops : List Operation) :
    (d.statuses client ops).length = ops.length := by
  rw [statuses, List.length_map, length_performAll]

/-- A successful operation is reported by what it should lead to in the forwarding table. -/
theorem acknowledged_ribProgrammed (d : Device) (op : Operation) :
    d.acknowledged op .ribProgrammed =
      match target? op.verb op.entry with
      | none => .fibProgrammed
      | some t =>
        if d.forwardsVia t.inst t.dest = some .gribi then .fibProgrammed else .ribProgrammed := by
  obtain ⟨id, verb, entry⟩ := op
  cases verb <;> cases entry <;> rfl

/-- The result of one operation, settled by a converged device. -/
theorem Converged.settleResult_perform (h : d.Converged) (primary : Bool) (before : Device)
    (op : Operation) :
    d.settleResult (before.perform primary op).2 =
      { id := op.id, status := d.acknowledged op (before.perform primary op).2.result.status } := by
  unfold perform
  split
  · rw [acknowledged_ribProgrammed]
    cases ht : target? op.verb op.entry with
    | none => simp [settleResult, isForwarding]
    | some t =>
      have hmark := h.isForwarding_iff t
      by_cases hf : d.forwardsVia t.inst t.dest = some .gribi
      · simp [settleResult, hf, hmark.2 hf]
      · simp [settleResult, hf, Bool.eq_false_iff.2 (mt hmark.1 hf)]
  · simp [settleResult, acknowledged]

theorem Converged.settleResult_performAll (h : d.Converged) (primary : Bool) (before : Device)
    (ops : List Operation) :
    (before.performAll primary ops).2.map d.settleResult =
      d.acknowledgement ops ((before.performAll primary ops).2.map (·.result.status)) := by
  induction ops generalizing before with
  | nil => rfl
  | cons op ops ih =>
    show d.settleResult (before.perform primary op).2 :: _ = _ :: _
    rw [h.settleResult_perform, ih]
    rfl

/-! ### What is said, and what is owed -/

/-- What is said to the request with the ticket in the course of a history. -/
def repliesTo (d : Device) (ticket : Nat) (h : List Event) : List Answer :=
  ((d.repliesIn h).filter fun x => x.1 = ticket).map (·.2)

/-- The results that the request with the ticket waits for. -/
def owedTo (d : Device) (ticket : Nat) : List (List Provisional) :=
  (d.owed.filter fun o => o.ticket = ticket).map (·.results)

theorem repliesTo_append (d : Device) (ticket : Nat) (h h' : List Event) :
    d.repliesTo ticket (h ++ h') = d.repliesTo ticket h ++ (d.after h).repliesTo ticket h' := by
  rw [repliesTo, repliesIn_append, List.filter_append, List.map_append]
  rfl

theorem repliesTo_cons (d : Device) (ticket : Nat) (e : Event) (h : List Event) :
    d.repliesTo ticket (e :: h) = d.repliesTo ticket [e] ++ (d.step e).repliesTo ticket h :=
  repliesTo_append d ticket [e] h

theorem mem_repliesTo_iff {h : List Event} {a : Answer} :
    a ∈ d.repliesTo ticket h ↔ (ticket, a) ∈ d.repliesIn h := by
  simp [repliesTo]

theorem owedTo_eq_nil_iff : d.owedTo ticket = [] ↔ ∀ o ∈ d.owed, o.ticket ≠ ticket := by
  simp [owedTo]

theorem repliesTo_serve (d : Device) (ticket : Nat) (r : Request) :
    d.repliesTo ticket [.serve ticket r] = (d.serve ticket r).2.toList := by
  cases ha : (d.serve ticket r).2 <;> simp [repliesTo, repliesIn, replies, ha]

/-- What others ask for is no reply to the request. -/
theorem repliesTo_other {t : Nat} {r : Request} (he : ¬ (Event.serve t r).IsFor ticket) :
    d.repliesTo ticket [.serve t r] = [] := by
  by_cases ht : t = ticket
  · have htick : ∃ name, r = .tick name := Classical.byContradiction fun hno =>
      he ⟨ht, fun name hr => hno ⟨name, hr⟩⟩
    obtain ⟨name, rfl⟩ := htick
    rfl
  · cases ha : (d.serve t r).2 <;> simp [repliesTo, repliesIn, replies, ha, ht]

/-- Nor does it change what the request waits for. -/
theorem owedTo_other {t : Nat} {r : Request} (he : ¬ (Event.serve t r).IsFor ticket) :
    (d.step (.serve t r)).owedTo ticket = d.owedTo ticket := by
  show (d.serve t r).1.owedTo ticket = d.owedTo ticket
  obtain ⟨l, hl, hown⟩ := owed_serve_append t d r
  by_cases ht : t = ticket
  · have htick : ∃ name, r = .tick name := Classical.byContradiction fun hno =>
      he ⟨ht, fun name hr => hno ⟨name, hr⟩⟩
    obtain ⟨name, rfl⟩ := htick
    rw [owedTo, owed_serve_of_ne_modify t d (by simp), owedTo]
  · have hnone : l.filter (fun o => o.ticket = ticket) = [] := by
      simp only [List.filter_eq_nil_iff, decide_eq_true_eq]
      exact fun o ho => (hown o ho).1 ▸ ht
    rw [owedTo, hl, List.filter_append, hnone, List.append_nil, owedTo]

/-- Once the routes are chosen, everything is said that is owed. -/
theorem repliesTo_process (d : Device) (ticket : Nat) :
    d.repliesTo ticket [.process] =
      (d.owedTo ticket).map fun rs => .results (.ok (rs.map d.process.1.settleResult)) := by
  show (((d.owed.map _).map _ ++ []).filter _).map _ = ((d.owed.filter _).map _).map _
  rw [List.append_nil, List.map_map, List.filter_map, List.map_map, List.map_map]
  rfl

/-- Until then nothing is said, and the request waits for the same. -/
theorem waiting_replies {h : List Event} (hno : .process ∉ h)
    (hother : ∀ e ∈ h, ¬ e.IsFor ticket) (d : Device) :
    d.repliesTo ticket h = [] ∧ (d.after h).owedTo ticket = d.owedTo ticket := by
  induction h generalizing d with
  | nil => exact ⟨rfl, rfl⟩
  | cons e h ih =>
    cases e with
    | process => exact absurd List.mem_cons_self hno
    | serve t r =>
      have he := hother _ List.mem_cons_self
      obtain ⟨hsaid, howed⟩ := ih (fun hp => hno (List.mem_cons_of_mem _ hp))
        (fun e' he' => hother e' (List.mem_cons_of_mem _ he')) (d.step (.serve t r))
      rw [repliesTo_cons, repliesTo_other he, hsaid, after_cons, howed, owedTo_other he]
      exact ⟨rfl, rfl⟩

/-- A request to which nothing is owed is told nothing, and nothing will be owed to it. -/
theorem settled_replies {h : List Event} (hother : ∀ e ∈ h, ¬ e.IsFor ticket)
    (hnone : d.owedTo ticket = []) :
    d.repliesTo ticket h = [] ∧ (d.after h).owedTo ticket = [] := by
  induction h generalizing d with
  | nil => exact ⟨rfl, hnone⟩
  | cons e h ih =>
    have he := hother e List.mem_cons_self
    have hstep : d.repliesTo ticket [e] = [] ∧ (d.step e).owedTo ticket = [] := by
      cases e with
      | process =>
        rw [repliesTo_process, hnone]
        exact ⟨rfl, rfl⟩
      | serve t r => exact ⟨repliesTo_other he, (owedTo_other he).trans hnone⟩
    obtain ⟨hsaid, howed⟩ := ih (fun e' he' => hother e' (List.mem_cons_of_mem _ he')) hstep.2
    rw [repliesTo_cons, hstep.1, hsaid, after_cons]
    exact ⟨rfl, howed⟩

/-! ### Operations whose results are withheld -/

theorem Reachable.converged_after_process (hd : Reachable settings d) (h : List Event) :
    (d.after (h ++ [.process])).Converged := by
  rw [after_concat]
  exact (hd.after h).sound.converged_process

section Withheld

variable {client : Nat} {params : SessionParams} {ops : List Operation} {h h' : List Event}

/-- The results of operations are withheld as they are now. -/
theorem owedTo_modify (hopen : d.sessions.get? client = some params)
    (hmode : params.ackMode = .ribAndFib) (hnew : d.owedTo ticket = []) :
    d.repliesTo ticket [.serve ticket (.modify client ops)] = [] ∧
      (d.step (.serve ticket (.modify client ops))).owedTo ticket =
        [(d.performAll (d.isPrimary client) ops).2] := by
  have hsubmit : d.submit ticket client ops =
      ({ (d.performAll (d.isPrimary client) ops).1 with
        owed := (d.performAll (d.isPrimary client) ops).1.owed ++
          [{ client, ticket, results := (d.performAll (d.isPrimary client) ops).2 }]
        tokens := (d.performAll (d.isPrimary client) ops).1.tokens + 1 }, none) := by
    rw [submit, hopen]
    simp only [hmode]
  have howed := (sameUse_performAll (d.isPrimary client) d ops).owed
  constructor
  · rw [repliesTo_serve]
    show ((d.submit ticket client ops).2.map Answer.results).toList = []
    rw [hsubmit]
    rfl
  · show (d.submit ticket client ops).1.owedTo ticket = _
    rw [hsubmit, owedTo, howed, List.filter_append, List.map_append]
    change d.owedTo ticket ++ _ = _
    simp [hnew]

/-- A request whose results are withheld is told nothing until the routes are chosen anew. -/
theorem repliesTo_modify_waiting (hopen : d.sessions.get? client = some params)
    (hmode : params.ackMode = .ribAndFib) (hnew : d.owedTo ticket = []) (hno : .process ∉ h)
    (hother : ∀ e ∈ h, ¬ e.IsFor ticket) :
    d.repliesTo ticket (.serve ticket (.modify client ops) :: h) = [] := by
  rw [repliesTo_cons, (owedTo_modify hopen hmode hnew).1, (waiting_replies hno hother _).1]
  rfl

/-- **All that it is ever told**: the status of each operation, as forwarding shows it when the
routes have been chosen anew, and nothing more. -/
theorem repliesTo_modify (hd : Reachable settings d) (hopen : d.sessions.get? client = some params)
    (hmode : params.ackMode = .ribAndFib) (hnew : d.owedTo ticket = []) (hno : .process ∉ h)
    (hother : ∀ e ∈ h, ¬ e.IsFor ticket) (hother' : ∀ e ∈ h', ¬ e.IsFor ticket) :
    d.repliesTo ticket (.serve ticket (.modify client ops) :: h ++ .process :: h') =
      [.results (.ok (acknowledgement
        (d.after (.serve ticket (.modify client ops) :: h ++ [.process]))
        ops (d.statuses client ops)))] := by
  have hconv := hd.converged_after_process (.serve ticket (.modify client ops) :: h)
  rw [repliesTo_append, repliesTo_modify_waiting hopen hmode hnew hno hother, List.nil_append,
    repliesTo_cons, repliesTo_process, after_cons, (waiting_replies hno hother _).2,
    (owedTo_modify hopen hmode hnew).2, (settled_replies hother' rfl).1, List.append_nil,
    List.map_singleton, statuses, ← hconv.settleResult_performAll, after_concat]
  rfl

end Withheld

/-! ### After an acknowledgement -/

/-- A request that is answered at once is told nothing else. -/
theorem repliesTo_of_answered {r : Request} {a : Answer} {h : List Event}
    (ha : (d.serve ticket r).2 = some a) (hnew : d.owedTo ticket = [])
    (hother : ∀ e ∈ h, ¬ e.IsFor ticket) : d.repliesTo ticket (.serve ticket r :: h) = [a] := by
  obtain ⟨l, hl, hown⟩ := owed_serve_append ticket d r
  have hnil : l = [] := List.eq_nil_iff_forall_not_mem.2 fun o ho => by
    have hno := (hown o ho).2
    rw [ha] at hno
    cases hno
  have hnone : (d.step (.serve ticket r)).owedTo ticket = [] := by
    show (d.serve ticket r).1.owedTo ticket = []
    rw [owedTo, hl, hnil, List.append_nil]
    exact hnew
  rw [repliesTo_cons, repliesTo_serve, ha, (settled_replies hother hnone).1]
  rfl

/-- Idle events leave the routing tables of a converged device as they are. -/
theorem Converged.instances_after {h : List Event} (hc : d.Converged) (hidle : ∀ e ∈ h, e.Idle) :
    (d.after h).instances = d.instances := by
  induction h generalizing d with
  | nil => rfl
  | cons e h ih =>
    have he := hidle e List.mem_cons_self
    have hrest := fun e' he' => hidle e' (List.mem_cons_of_mem _ he')
    rw [after_cons]
    cases e with
    | process => exact (ih hc.sound.converged_process hrest).trans hc.instances_process
    | serve t r =>
      obtain ⟨name, rfl⟩ := he
      have hsame := (sameWork_transmit d name).toSameRouting
      exact (ih (hc.congr hsame) hrest).trans hsame.instances

theorem forwardsVia_congr {d' : Device} (h : d'.instances = d.instances) :
    d'.forwardsVia = d.forwardsVia := by
  funext inst dest
  rw [forwardsVia, h, forwardsVia]

/-- The routing tables alone never say that an entry is used for forwarding. -/
theorem status_performAll (primary : Bool) (d : Device) (ops : List Operation) :
    ∀ p ∈ (d.performAll primary ops).2, p.result.status ≠ .fibProgrammed := by
  induction ops generalizing d with
  | nil => exact fun _ hp => (List.not_mem_nil hp).elim
  | cons op ops ih =>
    intro p hp
    obtain rfl | hp := List.mem_cons.1 hp
    · show (d.perform primary op).2.result.status ≠ .fibProgrammed
      unfold perform
      split <;> exact fun h => nomatch h
    · exact ih _ p hp

/-- So who is told that an entry is used for forwarding has waited for it. -/
theorem withheld_of_acknowledged {client : Nat} {ops : List Operation} {h : List Event}
    (hnew : d.owedTo ticket = []) (hother : ∀ e ∈ h, ¬ e.IsFor ticket)
    {results : List OperationResult} (hsaid : .results (.ok results) ∈
      d.repliesTo ticket (.serve ticket (.modify client ops) :: h))
    {r : OperationResult} (hr : r ∈ results) (hstatus : r.status = .fibProgrammed) :
    ∃ params, d.sessions.get? client = some params ∧ params.ackMode = .ribAndFib := by
  have hserve : (d.serve ticket (.modify client ops)).2 =
      (d.submit ticket client ops).2.map Answer.results := rfl
  cases hopen : d.sessions.get? client with
  | none =>
    rw [submit, hopen] at hserve
    rw [repliesTo_of_answered hserve hnew hother] at hsaid
    cases List.mem_singleton.1 hsaid
  | some params =>
    cases hmode : params.ackMode with
    | ribAndFib => exact ⟨params, rfl, hmode⟩
    | rib =>
      rw [submit, hopen] at hserve
      simp only [hmode] at hserve
      rw [repliesTo_of_answered hserve hnew hother] at hsaid
      cases List.mem_singleton.1 hsaid
      obtain ⟨p, hp, rfl⟩ := List.mem_map.1 hr
      exact absurd hstatus (status_performAll _ _ _ p hp)

theorem acknowledged_ipv4_iff {id : Nat} {verb : Verb} (hverb : verb ≠ .delete) {e : Ipv4Entry}
    {s : Status} : d.acknowledged ⟨id, verb, .ipv4 e⟩ s = .fibProgrammed ↔
      (∀ reason, s ≠ .failed reason) ∧ d.forwardsVia e.inst e.dest = some .gribi := by
  cases s <;> cases verb <;> simp [acknowledged] at hverb ⊢

/-- An entry that was added or replaced has no host bits. -/
theorem isMasked_of_perform {primary : Bool} {id : Nat} {verb : Verb} (hverb : verb ≠ .delete)
    {e : Ipv4Entry}
    (hs : ∀ reason, (d.perform primary ⟨id, verb, .ipv4 e⟩).2.result.status ≠ .failed reason) :
    e.dest.masked = e.dest := by
  unfold perform at hs
  split at hs
  · next d' hok =>
    cases primary with
    | false => cases hok
    | true =>
      have happly : (if !d.instances.contains e.inst then .error .unknownInstance
          else d.addIpv4 e) = Except.ok d' := by
        cases verb with
        | delete => exact absurd rfl hverb
        | _ => exact hok
      split at happly
      · cases happly
      · exact Network.isMasked_iff.1 (addIpv4_ok happly).1
  · exact absurd rfl (hs _)

/-- **What an acknowledgement is worth.**  Once an IPv4 entry was reported as used for forwarding,
the routes have been chosen since the request was served, and the origin of its forwarding entry
reads as the acknowledged channel for as long as no other request is served. -/
theorem aftOrigin_of_acknowledged (hd : Reachable settings d) (hnew : d.owedTo ticket = [])
    {h : List Event} (hother : ∀ e ∈ h, ¬ e.IsFor ticket) {client id : Nat} {verb : Verb}
    (hverb : verb ≠ .delete) {e : Ipv4Entry} {results : List OperationResult}
    (hsaid : .results (.ok results) ∈
      d.repliesTo ticket (.serve ticket (.modify client [⟨id, verb, .ipv4 e⟩]) :: h))
    {r : OperationResult} (hr : r ∈ results) (hstatus : r.status = .fibProgrammed) :
    ∃ h₁ h₂, h = h₁ ++ .process :: h₂ ∧ ∀ h₃, (∀ e ∈ h₃, e.Idle) →
      (d.after (.serve ticket (.modify client [⟨id, verb, .ipv4 e⟩]) :: h₁ ++ .process :: h₃)).read?
        (.aftOrigin e.inst e.dest) = some Protocol.gribi.text := by
  obtain ⟨params, hopen, hmode⟩ := withheld_of_acknowledged hnew hother hsaid hr hstatus
  have hprocess : .process ∈ h := by
    refine Decidable.byContradiction fun hno => ?_
    rw [repliesTo_modify_waiting hopen hmode hnew hno hother] at hsaid
    cases hsaid
  obtain ⟨h₁, h₂, rfl, hno⟩ := List.eq_append_cons_of_mem hprocess
  have hother₁ : ∀ e ∈ h₁, ¬ e.IsFor ticket := fun e he => hother e (List.mem_append_left _ he)
  have hother₂ : ∀ e ∈ h₂, ¬ e.IsFor ticket := fun e he =>
    hother e (List.mem_append_right _ (List.mem_cons_of_mem _ he))
  rw [← List.cons_append, repliesTo_modify hd hopen hmode hnew hno hother₁ hother₂] at hsaid
  cases List.mem_singleton.1 hsaid
  -- the only result is that of the entry
  cases List.mem_singleton.1 hr
  obtain ⟨hdone, hforwards⟩ := (acknowledged_ipv4_iff hverb).1 hstatus
  refine ⟨h₁, h₂, rfl, fun h₃ hidle => ?_⟩
  have hconv := hd.converged_after_process
    (.serve ticket (.modify client [⟨id, verb, .ipv4 e⟩]) :: h₁)
  rw [List.append_cons, after_append, read?_aftOrigin,
    forwardsVia_congr (hconv.instances_after hidle), isMasked_of_perform hverb hdone, hforwards]
  rfl

end Device

end RoutePreference
