import RoutePreference.Proofs.Device.Election

/-!
# The session that writes

* `Event.Spares`: events that are no requests of a session and delete no network instance;
* `Device.Governs`: that nothing else happens, and the session is the primary one all along;
* `Governs.keeps`: meanwhile the programmed entries and the parameters of the session stay;
* `Device.Exchange`: a request of the session and what it is told;
* `Device.Carried`: what has come of an operation by then;
* `Exchange.modify`, `Exchange.flush`: the session is told what has become of the entries.
-/

namespace RoutePreference

namespace Event

/-- Whether it is no request of the session and deletes no network instance. -/
def Spares (client : Nat) : Event → Prop
  | .serve _ (.modify c _) | .serve _ (.flush c _) | .serve _ (.close c) => c ≠ client
  | .serve _ (.deleteInstance _) => False
  | _ => True

theorem Idle.spares {e : Event} (h : e.Idle) (client : Nat) : e.Spares client := by
  cases e with
  | process => trivial
  | serve t r =>
    obtain ⟨name, rfl⟩ := h
    trivial

end Event

namespace Device

variable {settings : Settings} {d d' : Device} {client : Nat} {params : SessionParams}

/-! ### Between the requests of a session -/

/-- Whether the numbers of open sessions were given out. -/
def Numbered (d : Device) : Prop := ∀ c p, d.sessions.get? c = some p → c ≤ d.lastClient

theorem Numbered.step (h : d.Numbered) (e : Event) : (d.step e).Numbered := by
  intro c p hc
  obtain ⟨hnone, hlast⟩ | ⟨params, hone, hlast⟩ := d.opened_cases e
  · obtain hnew | hold := get?_sessions_step hc
    · rw [hnone] at hnew
      cases hnew
    · exact hlast ▸ h c p hold
  · rw [hlast]
    obtain hnew | hold := get?_sessions_step hc
    · rw [hone, List.mem_singleton] at hnew
      cases hnew
      exact Nat.le_refl _
    · exact Nat.le_succ_of_le (h c p hold)

theorem Reachable.numbered (hd : Reachable settings d) : d.Numbered := by
  induction hd with
  | start =>
    intro c p hc
    cases hc
  | serve ticket r _ ih => exact ih.step (.serve ticket r)
  | process _ ih => exact ih.step .process

/-- Requests that leave programmed entries alone do so. -/
theorem routine_aft (aft : Table String AftTables) : Routine fun d => d.aft = aft where
  same h hs := hs.aft.trans h
  configureDut h hok := by
    obtain rfl | rfl := configureDut_ok hok
    · exact h
    · exact h
  replaceInstance h hok := by
    obtain ⟨-, i, rfl, -⟩ := replaceInstance_ok hok
    exact h
  replaceStatic h hok := by
    obtain ⟨i, -, ⟨-, rfl⟩ | rfl⟩ := replaceStatic_ok hok
    · exact h
    · exact (aft_changeRib ..).trans h
  deleteStatic h hok := by
    obtain ⟨i, -, ⟨-, rfl⟩ | rfl⟩ := deleteStatic_ok hok
    · exact h
    · exact (aft_changeRib ..).trans h

/-- What others do leaves the programmed entries of the primary session alone. -/
theorem aft_step_of_spares (hd : Reachable settings d) (hprimary : d.isPrimary client = true)
    {e : Event} (he : e.Spares client) : (d.step e).aft = d.aft := by
  have hno : ∀ {c}, c ≠ client → d.isPrimary c = false := fun hne =>
    Bool.eq_false_iff.2 fun hc => hne (isPrimary_unique hc hprimary)
  cases e with
  | process => rfl
  | serve ticket r =>
    cases r with
    | modify c ops => exact ((powerless_of_notPrimary hd (hno he)).modify ticket ops).aft
    | flush c inst =>
      show (d.serve ticket (.flush c inst)).1.aft = d.aft
      rw [(powerless_of_notPrimary hd (hno he)).flush]
    | close c => exact ((powerless_of_notPrimary hd (hno he)).close ticket).aft
    | deleteInstance name => exact absurd he id
    | _ => exact (routine_aft d.aft).serve ticket rfl rfl

/-- The session stays open under its parameters. -/
theorem get?_sessions_of_spares (hd : Reachable settings d)
    (hopen : d.sessions.get? client = some params) {e : Event} (he : e.Spares client) :
    (d.step e).sessions.get? client = some params := by
  rw [sessions_step]
  split
  · have hne : d.lastClient + 1 ≠ client := fun heq => by
      have hle := hd.numbered client params hopen
      omega
    rw [Table.get?_insert_of_ne _ hne, hopen]
  · rw [Table.get?_erase_of_ne _ he, hopen]
  · exact hopen

/-- Whether a session is the primary one throughout a history, does nothing itself, and no network
instance is deleted. -/
structure Governs (d : Device) (client : Nat) (h : List Event) : Prop where
  spared : ∀ e ∈ h, e.Spares client
  primary : ∀ h', h' <+: h → (d.after h').isPrimary client = true

theorem Governs.keeps {h : List Event} (hg : Governs d client h) (hd : Reachable settings d)
    (hopen : d.sessions.get? client = some params) :
    (d.after h).aft = d.aft ∧ (d.after h).sessions.get? client = some params := by
  induction h generalizing d with
  | nil => exact ⟨rfl, hopen⟩
  | cons e h ih =>
    have he := hg.spared e List.mem_cons_self
    have hrest : Governs (d.step e) client h :=
      ⟨fun e' he' => hg.spared e' (List.mem_cons_of_mem _ he'),
        fun h' hpre => hg.primary (e :: h') (List.cons_prefix_cons.2 ⟨rfl, hpre⟩)⟩
    obtain ⟨haft, hsession⟩ := ih hrest (hd.step e) (get?_sessions_of_spares hd hopen he)
    have hprimary := hg.primary [] List.nil_prefix
    exact ⟨haft.trans (aft_step_of_spares hd hprimary he), hsession⟩

/-- Idle events leave the sessions as they are. -/
theorem sessions_after_idle {h : List Event} (hidle : ∀ e ∈ h, e.Idle) (d : Device) :
    (d.after h).sessions = d.sessions := by
  induction h generalizing d with
  | nil => rfl
  | cons e h ih =>
    rw [after_cons, ih fun e' he' => hidle e' (List.mem_cons_of_mem _ he'), sessions_step]
    have he := hidle e List.mem_cons_self
    cases e with
    | process => rfl
    | serve t r =>
      obtain ⟨name, rfl⟩ := he
      rfl

theorem isPrimary_congr (h : d'.sessions = d.sessions) (client : Nat) :
    d'.isPrimary client = d.isPrimary client := by
  rw [isPrimary, primary?, h, isPrimary, primary?]

/-- When nothing but idle events happens, the primary session stays the primary one. -/
theorem governs_of_idle {h : List Event} (hidle : ∀ e ∈ h, e.Idle)
    (hprimary : d.isPrimary client = true) : d.Governs client h where
  spared e he := (hidle e he).spares client
  primary h' hpre := by
    have hsessions := sessions_after_idle (fun e he => hidle e (hpre.subset he)) d
    rw [isPrimary_congr hsessions, hprimary]

/-! ### Requests of the session -/

/-- A request of the session and what it is told, with what others do before and after it is
served. -/
inductive Exchange (client : Nat) (d : Device) (r : Request) (a : Answer) : Device → Prop where
  | intro (ticket : Nat) (h₀ h : List Event) (before : d.Governs client h₀)
    (new : (d.after h₀).owedTo ticket = [])
    (said : a ∈ (d.after h₀).repliesTo ticket (.serve ticket r :: h))
    (others : ∀ e ∈ h, ¬ e.IsFor ticket)
    (after : ((d.after h₀).step (.serve ticket r)).Governs client h) :
    Exchange client d r a ((d.after h₀).after (.serve ticket r :: h))

/-- What has come of an operation by the time its status is told: it was refused for the reason
that is told, or else carried out.  The status of what leads to no forwarding entry is enough in the
mode of the session. -/
inductive Carried (mode : AckMode) (d : Device) (op : Operation) (d' : Device) : Status → Prop where
  | refused {reason : Failure} (error : d.apply op = .error reason) (aft : d'.aft = d.aft) :
    Carried mode d op d' (.failed reason)
  | applied {d₂ : Device} {status : Status} (ok : d.apply op = .ok d₂) (aft : d'.aft = d₂.aft)
    (reached : ∀ reason, status ≠ .failed reason)
    (enough : target? op.verb op.entry = none → status.satisfies mode = true) :
    Carried mode d op d' status

/-- The entries after an operation of the primary session. -/
theorem aft_modify (hopen : d.sessions.get? client = some params)
    (hprimary : d.isPrimary client = true) (ticket : Nat) (op : Operation) :
    (d.step (.serve ticket (.modify client [op]))).aft = (d.perform true op).1.aft := by
  show (d.submit ticket client [op]).1.aft = _
  rw [submit, hopen, hprimary]
  cases hmode : params.ackMode <;> simp only [hmode] <;> rfl

/-- The status that is told of an operation is that of the routing tables, or what forwarding shows
of it. -/
theorem told_modify (hd : Reachable settings d) (hopen : d.sessions.get? client = some params)
    (hprimary : d.isPrimary client = true) {ticket : Nat} (hnew : d.owedTo ticket = [])
    {op : Operation} {h : List Event} (hother : ∀ e ∈ h, ¬ e.IsFor ticket) {a : Answer}
    (hsaid : a ∈ d.repliesTo ticket (.serve ticket (.modify client [op]) :: h)) :
    ∃ status, a = .results (.ok [⟨op.id, status⟩]) ∧
      (params.ackMode = .rib ∧ status = (d.perform true op).2.result.status ∨
        params.ackMode = .ribAndFib ∧
          ∃ x : Device, status = x.acknowledged op (d.perform true op).2.result.status) := by
  cases hmode : params.ackMode with
  | rib =>
    have hanswer : (d.serve ticket (.modify client [op])).2 =
        some (.results (.ok [(d.perform true op).2.result])) := by
      show (d.submit ticket client [op]).2.map Answer.results = _
      rw [submit, hopen, hprimary]
      simp only [hmode]
      rfl
    rw [repliesTo_of_answered hanswer hnew hother] at hsaid
    refine ⟨_, (List.mem_singleton.1 hsaid).trans ?_, .inl ⟨rfl, rfl⟩⟩
    unfold perform
    split <;> rfl
  | ribAndFib =>
    have hprocess : .process ∈ h := by
      refine Decidable.byContradiction fun hno => ?_
      rw [repliesTo_modify_waiting hopen hmode hnew hno hother] at hsaid
      cases hsaid
    obtain ⟨h₁, h₂, rfl, hno⟩ := List.eq_append_cons_of_mem hprocess
    rw [← List.cons_append, repliesTo_modify hd hopen hmode hnew hno
      (fun e he => hother e (List.mem_append_left _ he))
      (fun e he => hother e (List.mem_append_right _ (List.mem_cons_of_mem _ he))),
      statuses, hprimary] at hsaid
    exact ⟨_, List.mem_singleton.1 hsaid, .inr ⟨rfl, _, rfl⟩⟩

/-- What leads to no forwarding entry counts as used for forwarding. -/
theorem acknowledged_of_no_target {op : Operation} (h : target? op.verb op.entry = none)
    (d : Device) : d.acknowledged op .ribProgrammed = .fibProgrammed := by
  rw [acknowledged_ribProgrammed, h]

theorem acknowledged_ne_failed (d : Device) (op : Operation) (reason : Failure) :
    d.acknowledged op .ribProgrammed ≠ .failed reason := by
  rw [acknowledged_ribProgrammed]
  split
  · simp
  · split <;> simp

/-- A status of the routing tables, or what forwarding shows of it, tells what has come of the
operation. -/
theorem carried_of_status {mode : AckMode} {op : Operation} {status : Status}
    (haft : d'.aft = (d.perform true op).1.aft)
    (hstatus : mode = .rib ∧ status = (d.perform true op).2.result.status ∨
      mode = .ribAndFib ∧
        ∃ x : Device, status = x.acknowledged op (d.perform true op).2.result.status) :
    Carried mode d op d' status := by
  unfold perform at haft hstatus
  cases hop : d.apply op with
  | error reason =>
    simp only [hop, if_true] at haft hstatus
    obtain ⟨-, rfl⟩ | ⟨-, x, rfl⟩ := hstatus
    · exact .refused hop haft
    · exact .refused hop haft
  | ok d₂ =>
    simp only [hop, if_true] at haft hstatus
    obtain ⟨rfl, rfl⟩ | ⟨rfl, x, rfl⟩ := hstatus
    · exact .applied hop haft (by simp) fun _ => rfl
    · refine .applied hop haft (x.acknowledged_ne_failed op) fun hnone => ?_
      rw [acknowledged_of_no_target hnone]
      rfl

namespace Exchange

variable {a : Answer}

/-- Requests that leave the sessions alone leave the session open. -/
theorem kept {r : Request} (hx : Exchange client d r a d') (hd : Reachable settings d)
    (hopen : d.sessions.get? client = some params)
    (hr : ∀ (d : Device) ticket, (d.step (.serve ticket r)).sessions = d.sessions) :
    Reachable settings d' ∧ d'.sessions.get? client = some params := by
  obtain ⟨ticket, h₀, h, hbefore, -, -, -, hafter⟩ := hx
  have hopen₀ := (hbefore.keeps hd hopen).2
  have hd₁ := (hd.after h₀).step (.serve ticket r)
  exact ⟨hd₁.after h, (hafter.keeps hd₁ ((congrArg (·.get? client) (hr _ _)).trans hopen₀)).2⟩

/-- **An operation of the primary session is told what has come of it.** -/
theorem modify {op : Operation} (hx : Exchange client d (.modify client [op]) a d')
    (hd : Reachable settings d) (hopen : d.sessions.get? client = some params) :
    ∃ h₀ status, d.Governs client h₀ ∧ a = .results (.ok [⟨op.id, status⟩]) ∧
      Carried params.ackMode (d.after h₀) op d' status := by
  obtain ⟨ticket, h₀, h, hbefore, hnew, hsaid, hother, hafter⟩ := hx
  have hprimary := hbefore.primary h₀ List.prefix_rfl
  have hd₀ := hd.after h₀
  have hopen₀ := (hbefore.keeps hd hopen).2
  obtain ⟨status, ha, hstatus⟩ := told_modify hd₀ hopen₀ hprimary hnew hother hsaid
  have hkept := (hafter.keeps (hd₀.step _)
    ((congrArg (·.get? client) (sessions_step _ _)).trans hopen₀)).1
  exact ⟨h₀, status, hbefore, ha,
    carried_of_status (hkept.trans (aft_modify hopen₀ hprimary ticket op)) hstatus⟩

/-- **A flush of the primary session** is refused, or leaves no entry in the network instance. -/
theorem flush {inst : String} (hx : Exchange client d (.flush client inst) a d')
    (hd : Reachable settings d) (hopen : d.sessions.get? client = some params) :
    (∃ e, a = .done (.error e)) ∧ d'.aft = d.aft ∨
      a = .done (.ok ()) ∧ ∀ n, d'.aftOf n = if inst = n then {} else d.aftOf n := by
  obtain ⟨ticket, h₀, h, hbefore, hnew, hsaid, hother, hafter⟩ := hx
  have hd₀ := hd.after h₀
  obtain ⟨haft₀, hopen₀⟩ := hbefore.keeps hd hopen
  have haft : ((d.after h₀).after (.serve ticket (.flush client inst) :: h)).aft =
      ((d.after h₀).step (.serve ticket (.flush client inst))).aft :=
    (hafter.keeps (hd₀.step _) ((congrArg (·.get? client) (sessions_step _ _)).trans hopen₀)).1
  cases hflush : (d.after h₀).flush client inst with
  | error e =>
    have hserve : (d.after h₀).serve ticket (.flush client inst) =
        (d.after h₀, some (.done (.error e))) := by
      simp [serve, hflush, settled]
    rw [repliesTo_of_answered (congrArg Prod.snd hserve) hnew hother] at hsaid
    exact .inl ⟨⟨e, List.mem_singleton.1 hsaid⟩,
      haft.trans ((congrArg (·.1.aft) hserve).trans haft₀)⟩
  | ok d₂ =>
    have hserve : (d.after h₀).serve ticket (.flush client inst) = (d₂, some (.done (.ok ()))) := by
      simp [serve, hflush, settled]
    obtain ⟨-, -, rfl⟩ := flush_ok hflush
    rw [repliesTo_of_answered (congrArg Prod.snd hserve) hnew hother] at hsaid
    refine .inr ⟨List.mem_singleton.1 hsaid, fun n => ?_⟩
    rw [aftOf, haft.trans (congrArg (·.1.aft) hserve), ← aftOf, aftOf_flushInstance, aftOf, haft₀,
      ← aftOf]

end Exchange

end Device

end RoutePreference
