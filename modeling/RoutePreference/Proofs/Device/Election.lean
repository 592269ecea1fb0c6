import RoutePreference.Proofs.Device.Acknowledgement
import RoutePreference.Proofs.Device.Mirror
import RoutePreference.Proofs.Device.Sessions

/-!
# One writer

* `ElectionId.Below`: the order of election identifiers, by their high and then by their low part;
* `Rib.Withdrawn`: a routing table whose programmed routes are all withdrawn;
* `preferred?_spec`: the preferred session goes before all others;
* `isPrimary_iff`, `exists_isPrimary`: which session is the primary one, and that there is one if
  any is open;
* `Device.Powerless`: the sessions that have no say in routing;
* `powerless_of_notPrimary`: all sessions but the primary one are such;
* `Device.Emptied`: a device without programmed entries and routes; `close_primary`: closing the
  primary session leads to it;
* `single_writer`: all of it, in the course of any history.

That every programmed route is withdrawn needs more than a look at what is flushed, which are the
programmed entries only: the routes mirror these.
-/

namespace RoutePreference

/-! ### Election identifiers -/

/-- Whether the first identifier is the lower one. -/
def ElectionId.Below (a b : ElectionId) : Prop := a.high < b.high ∨ a.high = b.high ∧ a.low < b.low

theorem ElectionId.compare_eq_gt_iff {a b : ElectionId} : compare a b = .gt ↔ b.Below a := by
  obtain ⟨h, l⟩ := a
  obtain ⟨h', l'⟩ := b
  show (compare h h').then ((compare l l').then .eq) = .gt ↔ _
  simp only [Below]
  rcases Nat.lt_trichotomy h h' with hlt | rfl | hgt
  · rw [Nat.compare_eq_lt.2 hlt]
    simp
    omega
  · simp [Nat.compare_eq_gt]
  · rw [Nat.compare_eq_gt.2 hgt]
    simp [hgt]

/-! ### Withdrawn routes -/

/-- The route, marked as withdrawn. -/
def Route.withdrawn (r : Route) : Route := { r with removed := true }

namespace Rib

/-- Whether the second routing table is the first one with programmed routes withdrawn, some or
all. -/
structure Withdraws (rib rib' : Rib) : Prop where
  fib : rib'.fib = rib.fib
  static : ∀ p, rib'.route? p .static = rib.route? p .static
  gribi : ∀ p,
    (rib'.route? p .gribi).map Route.withdrawn = (rib.route? p .gribi).map Route.withdrawn

theorem Withdraws.refl (rib : Rib) : Withdraws rib rib := ⟨rfl, fun _ => rfl, fun _ => rfl⟩

theorem Withdraws.trans {a b c : Rib} (hab : Withdraws a b) (hbc : Withdraws b c) :
    Withdraws a c :=
  ⟨hbc.fib.trans hab.fib, fun p => (hbc.static p).trans (hab.static p),
    fun p => (hbc.gribi p).trans (hab.gribi p)⟩

theorem withdraws_withdraw (rib : Rib) (dest : Network) :
    Withdraws rib (rib.withdraw dest .gribi).1 := by
  obtain ⟨-, heq⟩ | ⟨old, hold, heq⟩ := rib.withdraw_cases dest .gribi
  · rw [heq]
    exact .refl rib
  · rw [heq]
    refine ⟨rfl, fun p => ?_, fun p => ?_⟩
    · rw [route?_store, if_neg (by simp)]
    · rw [route?_store]
      split
      · next h => rw [← h.1, hold]; rfl
      · rfl

theorem withdraws_foldl (dests : List Network) (rib : Rib) :
    Withdraws rib (dests.foldl (fun rib p => (rib.withdraw p .gribi).1) rib) := by
  induction dests generalizing rib with
  | nil => exact .refl rib
  | cons p l ih => exact (rib.withdraws_withdraw p).trans (ih _)

/-- Whether the second routing table is the first one with every programmed route withdrawn, and
their destinations queued. -/
structure Withdrawn (rib rib' : Rib) : Prop where
  fib : rib'.fib = rib.fib
  static : ∀ p, rib'.route? p .static = rib.route? p .static
  gribi : ∀ p, rib'.route? p .gribi = (rib.route? p .gribi).map Route.withdrawn
  queued : ∀ p, (rib.route? p .gribi).isSome → rib'.queue.contains p = true

/-- If no programmed route is left, all of them were withdrawn. -/
theorem Withdraws.all {order : List Channel} {ifs : Interfaces} {rib rib' : Rib}
    (h : Withdraws rib rib') (hsound : rib'.Sound order ifs)
    (hnone : ∀ p, rib'.live? p .gribi = none) : Withdrawn rib rib' := by
  have hremoved : ∀ {p r}, rib'.route? p .gribi = some r → r.removed = true := by
    intro p r hr
    have hno := hnone p
    rw [live?, hr] at hno
    cases hm : r.removed with
    | true => rfl
    | false => simp [hm, Option.filter] at hno
  have hgribi : ∀ p, rib'.route? p .gribi = (rib.route? p .gribi).map Route.withdrawn := by
    intro p
    rw [← h.gribi p]
    cases hr : rib'.route? p .gribi with
    | none => rfl
    | some r => exact congrArg some (by rw [Route.withdrawn, ← hremoved hr])
  refine ⟨h.fib, h.static, hgribi, fun p hp => ?_⟩
  obtain ⟨r, hr⟩ := Option.isSome_iff_exists.1 hp
  cases hq : rib'.queue.contains p with
  | true => rfl
  | false =>
    -- what doesn't wait isn't withdrawn
    have hr' : rib'.route? p .gribi = some r.withdrawn := by rw [hgribi, hr]; rfl
    exact ((hsound p hq).kept .gribi _ hr').symm.trans rfl

end Rib

namespace Device

variable {settings : Settings} {d d' : Device}

theorem outranks_iff {a b : SessionParams} :
    outranks a b = true ↔ b.electionId.Below a.electionId := by
  rw [outranks, decide_eq_true_iff, ElectionId.compare_eq_gt_iff]

/-- Whether the first of two sessions goes before the other: its identifier is higher, or the same
with a lower number. -/
def GoesBefore (x y : Nat × SessionParams) : Prop :=
  y.2.electionId.Below x.2.electionId ∨ y.2.electionId = x.2.electionId ∧ x.1 < y.1

theorem GoesBefore.trans {x y z : Nat × SessionParams} (hxy : GoesBefore x y)
    (hyz : GoesBefore y z) : GoesBefore x z := by
  obtain ⟨n, ⟨p, m, ⟨a, b⟩⟩⟩ := x
  obtain ⟨n', ⟨p', m', ⟨a', b'⟩⟩⟩ := y
  obtain ⟨n'', ⟨p'', m'', ⟨a'', b''⟩⟩⟩ := z
  simp only [GoesBefore, ElectionId.Below, ElectionId.mk.injEq] at *
  omega

theorem goesBefore_of_not_outranks {x y : Nat × SessionParams} (h : outranks y.2 x.2 = false)
    (hlt : x.1 < y.1) : GoesBefore x y := by
  obtain ⟨n, ⟨p, m, ⟨a, b⟩⟩⟩ := x
  obtain ⟨n', ⟨p', m', ⟨a', b'⟩⟩⟩ := y
  have hno := mt outranks_iff.2 (by rw [h]; exact Bool.false_ne_true)
  simp only [GoesBefore, ElectionId.Below, ElectionId.mk.injEq] at *
  omega

theorem not_goesBefore_self (x : Nat × SessionParams) : ¬ GoesBefore x x := by
  simp [GoesBefore, ElectionId.Below]

/-- The preferred one of sessions that are listed by their numbers goes before all others. -/
theorem preferred?_spec {l : List (Nat × SessionParams)}
    (hl : l.Pairwise fun x y => x.1 < y.1) :
    match preferred? l with
    | none => l = []
    | some x => x ∈ l ∧ ∀ y ∈ l, y ≠ x → GoesBefore x y := by
  induction l with
  | nil => rfl
  | cons x l ih =>
    obtain ⟨hx, hl⟩ := List.pairwise_cons.1 hl
    have hrest := ih hl
    unfold preferred?
    cases hm : preferred? l with
    | none =>
      rw [hm] at hrest
      subst hrest
      exact ⟨List.mem_cons_self, fun y hy hne => absurd (List.mem_singleton.1 hy) hne⟩
    | some m =>
      rw [hm] at hrest
      obtain ⟨hmem, hbest⟩ := hrest
      dsimp only
      cases hout : outranks m.2 x.2 with
      | true =>
        refine ⟨List.mem_cons_of_mem _ hmem, fun y hy hne => ?_⟩
        obtain rfl | hy := List.mem_cons.1 hy
        · exact .inl (outranks_iff.1 hout)
        · exact hbest y hy hne
      | false =>
        have hxm := goesBefore_of_not_outranks hout (hx m hmem)
        refine ⟨List.mem_cons_self, fun y hy hne => ?_⟩
        obtain rfl | hy := List.mem_cons.1 hy
        · exact absurd rfl hne
        · by_cases hym : y = m
          · exact hym ▸ hxm
          · exact hxm.trans (hbest y hy hym)

theorem pairwise_sessions (d : Device) : d.sessions.entries.Pairwise fun x y => x.1 < y.1 :=
  d.sessions.sorted.imp Nat.compare_eq_lt.1

/-- The primary session goes before all others that are open. -/
theorem isPrimary_iff_goesBefore {client : Nat} : d.isPrimary client = true ↔
    ∃ params, d.sessions.get? client = some params ∧
      ∀ c p, d.sessions.get? c = some p → c ≠ client → GoesBefore (client, params) (c, p) := by
  have hspec := preferred?_spec d.pairwise_sessions
  rw [isPrimary, primary?, decide_eq_true_iff]
  constructor
  · intro h
    obtain ⟨x, hx, rfl⟩ := Option.map_eq_some_iff.1 h
    rw [hx] at hspec
    refine ⟨x.2, Table.get?_eq_some_iff.2 hspec.1, fun c p hc hne => ?_⟩
    exact hspec.2 (c, p) (Table.get?_eq_some_iff.1 hc) fun heq => hne (congrArg Prod.fst heq)
  · rintro ⟨params, hopen, hbest⟩
    cases hx : preferred? d.sessions.entries with
    | none =>
      rw [hx] at hspec
      have hmem := Table.get?_eq_some_iff.1 hopen
      rw [hspec] at hmem
      cases hmem
    | some x =>
      rw [hx] at hspec
      obtain ⟨hmem, hfirst⟩ := hspec
      have hx1 : x.1 = client := Decidable.byContradiction fun hne => by
        -- each of the two would go before the other
        have h₁ := hbest x.1 x.2 (Table.get?_eq_some_iff.2 hmem) hne
        have h₂ := hfirst (client, params) (Table.get?_eq_some_iff.1 hopen)
          fun heq => hne (congrArg Prod.fst heq).symm
        exact not_goesBefore_self _ (h₁.trans h₂)
      exact congrArg some hx1

theorem isPrimary_unique {c c' : Nat} (h : d.isPrimary c = true) (h' : d.isPrimary c' = true) :
    c = c' := by
  rw [isPrimary, decide_eq_true_iff] at h h'
  exact Option.some.inj (h.symm.trans h')

/-- If a session is open, one is the primary one, and no other is. -/
theorem exists_isPrimary (hopen : d.sessions ≠ ∅) :
    ∃ c, d.isPrimary c = true ∧ ∀ c', d.isPrimary c' = true → c' = c := by
  have hspec := preferred?_spec d.pairwise_sessions
  cases hx : preferred? d.sessions.entries with
  | none =>
    rw [hx] at hspec
    exact absurd (Table.eq_of_entries hspec) hopen
  | some x =>
    have hprimary : d.isPrimary x.1 = true := by
      rw [isPrimary, primary?, hx]
      exact decide_eq_true rfl
    exact ⟨x.1, hprimary, fun c' hc' => isPrimary_unique hc' hprimary⟩

theorem mem_openings_of_open {h : List Event} (hd : (start settings).after h = d) {c : Nat}
    {p : SessionParams} (hc : d.sessions.get? c = some p) :
    (c, p) ∈ (start settings).openings h := by
  rw [← hd] at hc
  exact (mem_openings hc).resolve_right fun hnone => nomatch hnone

/-- In the course of a history, **the primary session** is the open one with the highest identifier,
and of those with the highest one the session that was opened first. -/
theorem isPrimary_iff {h : List Event} (hd : (start settings).after h = d) {client : Nat} :
    d.isPrimary client = true ↔ ∃ params, d.sessions.get? client = some params ∧
      ∀ c p, d.sessions.get? c = some p → c ≠ client →
        p.electionId.Below params.electionId ∨ p.electionId = params.electionId ∧
          [(client, params), (c, p)].Sublist ((start settings).openings h) := by
  rw [isPrimary_iff_goesBefore]
  constructor
  · rintro ⟨params, hopen, hbest⟩
    exact ⟨params, hopen, fun c p hc hne => (hbest c p hc hne).imp id fun hsame =>
      ⟨hsame.1,
        opened_first (mem_openings_of_open hd hopen) (mem_openings_of_open hd hc) hsame.2⟩⟩
  · rintro ⟨params, hopen, hbest⟩
    exact ⟨params, hopen, fun c p hc hne => (hbest c p hc hne).imp id fun hsame =>
      ⟨hsame.1, lt_of_opened_first hsame.2⟩⟩

/-! ### Sessions that aren't the primary one -/

theorem SameRouting.refl (d : Device) : SameRouting d d := ⟨rfl, rfl, rfl, rfl⟩

/-- Every operation of such a session fails. -/
theorem performAll_notPrimary (d : Device) (ops : List Operation) :
    (d.performAll false ops).2 = ops.map fun op =>
      { result := { id := op.id, status := .failed .notPrimary }, target := none } := by
  induction ops with
  | nil => rfl
  | cons op ops ih => exact congrArg (List.cons _) ih

section NotPrimary

variable {client : Nat} (hno : d.isPrimary client = false)

include hno

theorem statuses_notPrimary (ops : List Operation) :
    d.statuses client ops = ops.map fun _ => .failed .notPrimary := by
  rw [statuses, hno, performAll_notPrimary, List.map_map]
  rfl

theorem submit_notPrimary (ticket : Nat) (ops : List Operation) :
    SameRouting d (d.submit ticket client ops).1 := by
  obtain heq | hsame := d.submit_cases ticket client ops
  · rw [heq]
    exact .refl d
  · rw [hno, performAll_false] at hsame
    exact hsame

/-- **Such a session is told of each operation that it failed**, in either mode. -/
theorem repliesTo_modify_notPrimary (hd : Reachable settings d) {params : SessionParams}
    (hopen : d.sessions.get? client = some params) {ticket : Nat} (hnew : d.owedTo ticket = [])
    (ops : List Operation) {h h' : List Event} (hwait : .process ∉ h)
    (hother : ∀ e ∈ h, ¬ e.IsFor ticket) (hother' : ∀ e ∈ h', ¬ e.IsFor ticket) :
    d.repliesTo ticket (.serve ticket (.modify client ops) :: h ++ .process :: h') =
      [.results (.ok (ops.map fun op => ⟨op.id, .failed .notPrimary⟩))] := by
  cases hmode : params.ackMode with
  | rib =>
    have hanswer : (d.serve ticket (.modify client ops)).2 =
        some (.results (.ok (ops.map fun op => ⟨op.id, .failed .notPrimary⟩))) := by
      show (d.submit ticket client ops).2.map Answer.results = _
      rw [submit, hopen, hno]
      simp only [hmode, performAll_notPrimary, List.map_map]
      rfl
    refine repliesTo_of_answered hanswer hnew fun e he => ?_
    obtain he | he := List.mem_append.1 he
    · exact hother e he
    · obtain rfl | he := List.mem_cons.1 he
      · exact id
      · exact hother' e he
  | ribAndFib =>
    rw [repliesTo_modify hd hopen hmode hnew hwait hother hother', statuses_notPrimary hno,
      acknowledgement]
    congr 3
    generalize d.after _ = x
    clear hother hother' hwait
    induction ops with
    | nil => rfl
    | cons op ops ih => exact congrArg (List.cons _) ih

theorem flush_notPrimary (inst : String) : d.flush client inst =
    .error (if d.sessions.contains client then .sessionRefused client .notPrimary
      else .unknownSession client) := by
  rw [flush, hno]
  cases d.sessions.contains client <;> rfl

end NotPrimary

/-! ### Closing a session -/

/-- A session that is closed is forgotten, and that is all unless it is the primary one and isn't
persistent. -/
theorem close_kept {client : Nat} {params : SessionParams}
    (hopen : d.sessions.get? client = some params)
    (hkept : d.isPrimary client = false ∨ params.persistence = true) :
    d.close client = .ok { d with sessions := d.sessions.erase client } := by
  rw [close, hopen]
  dsimp only
  rw [if_neg]
  obtain hno | hpersistent := hkept
  · simp [hno]
  · simp [hpersistent]

/-- Whether the second device has the configuration of the first one, and programmed routes
withdrawn at most. -/
def Withdraws (d d' : Device) : Prop :=
  ∀ n i', d'.instances.get? n = some i' → ∃ i, d.instances.get? n = some i ∧
    i'.configured = i.configured ∧ i.rib.Withdraws i'.rib

theorem withdraws_flushInstance (d : Device) (inst : String) :
    Withdraws d (d.flushInstance inst) := by
  intro n i' hi'
  rw [get?_flushInstance] at hi'
  split at hi'
  · obtain ⟨i, hi, rfl⟩ := Option.map_eq_some_iff.1 hi'
    exact ⟨i, hi, rfl, Rib.withdraws_foldl ..⟩
  · exact ⟨i', hi', rfl, .refl _⟩

theorem withdraws_foldl_flushInstance (names : List String) (d : Device) :
    Withdraws d (names.foldl flushInstance d) := by
  induction names generalizing d with
  | nil => exact fun n i hi => ⟨i, hi, rfl, .refl _⟩
  | cons name names ih =>
    intro n i' hi'
    obtain ⟨j, hj, hcfg, hrib⟩ := ih _ n i' hi'
    obtain ⟨i, hi, hcfg', hrib'⟩ := d.withdraws_flushInstance name n j hj
    exact ⟨i, hi, hcfg.trans hcfg', hrib'.trans hrib⟩

/-- What has nothing to do with entries and routes stays when they are flushed. -/
theorem foldl_flushInstance_kept {α : Type} {f : Device → α}
    (hforget : ∀ d inst, f (forgetAft d inst) = f d)
    (hrib : ∀ d inst g, f (changeRib d inst g) = f d) (names : List String) (d : Device) :
    f (names.foldl flushInstance d) = f d :=
  foldl_edits (P := fun x => f x = f d)
    (fun _ inst => flushInstance_edits (P := fun x => f x = f d)
      (fun x inst h => (hforget x inst).trans h) (fun x inst g h => (hrib x inst g).trans h) inst)
    names rfl

/-- Whether the second device is the first one without programmed entries, and with every programmed
route of every network instance withdrawn; configured routes are untouched. -/
structure Emptied (d d' : Device) : Prop where
  settings : d'.settings = d.settings
  interfaces : d'.interfaces = d.interfaces
  aft : ∀ n, d'.aftOf n = {}
  instances : ∀ n, d'.instances.contains n = d.instances.contains n
  routes : ∀ n i', d'.instances.get? n = some i' → ∃ i, d.instances.get? n = some i ∧
    i'.type = i.type ∧ i'.statics = i.statics ∧ i.rib.Withdrawn i'.rib

/-- **Closing the primary session**, unless it is persistent, takes all entries along. -/
theorem close_primary (hd : Reachable settings d) {client : Nat} {params : SessionParams}
    (hopen : d.sessions.get? client = some params) (hprimary : d.isPrimary client = true)
    (hleaves : params.persistence = false) :
    ∃ d', d.close client = .ok d' ∧ Emptied d d' := by
  have hclose : d.close client = .ok (d.aft.keys.foldl flushInstance
      { d with sessions := d.sessions.erase client }) := by
    rw [close, hopen, hprimary]
    simp [hleaves]
  refine ⟨_, hclose, ?_⟩
  have hr : Reachable settings (d.aft.keys.foldl flushInstance
      { d with sessions := d.sessions.erase client }) := by
    have hserve := hd.serve 0 (.close client)
    rwa [serve, hclose] at hserve
  have hempty := aftOf_flushAll { d with sessions := d.sessions.erase client }
  refine ⟨?_, ?_, hempty, (close_ok hclose).instances, fun n i' hi' => ?_⟩
  · exact foldl_flushInstance_kept (f := (·.settings)) (fun _ _ => rfl) settings_changeRib ..
  · exact foldl_flushInstance_kept (f := (·.interfaces)) (fun _ _ => rfl) interfaces_changeRib ..
  · obtain ⟨i, hi, hcfg, hrib⟩ := withdraws_foldl_flushInstance d.aft.keys _ n i' hi'
    refine ⟨i, hi, congrArg ConfiguredInstance.type hcfg, congrArg ConfiguredInstance.statics hcfg,
      hrib.all (hr.sound n i' hi') fun p => (hr.mirrors n i' hi').absent p ?_⟩
    exact (congrArg (fun t => t.ipv4.get? p) (hempty n)).trans rfl

/-! ### One writer -/

/-- What it takes for a session to have no say in routing: whatever it asks for, the programmed
entries, the routing tables with their queues and the forwarding tables stay, and it is told so. -/
structure Powerless (d : Device) (client : Nat) : Prop where
  modify : ∀ ticket ops, SameRouting d (d.serve ticket (.modify client ops)).1
  told : ∀ params, d.sessions.get? client = some params →
    ∀ ticket, d.owedTo ticket = [] → ∀ ops h h', .process ∉ h →
      (∀ e ∈ h, ¬ e.IsFor ticket) → (∀ e ∈ h', ¬ e.IsFor ticket) →
      d.repliesTo ticket (.serve ticket (.modify client ops) :: h ++ .process :: h') =
        [.results (.ok (ops.map fun op => ⟨op.id, .failed .notPrimary⟩))]
  flush : ∀ ticket inst, d.serve ticket (.flush client inst) =
    (d, some (.done (.error (if d.sessions.contains client then .sessionRefused client .notPrimary
      else .unknownSession client))))
  close : ∀ ticket, SameRouting d (d.serve ticket (.close client)).1

theorem powerless_of_notPrimary (hd : Reachable settings d) {client : Nat}
    (hno : d.isPrimary client = false) : Powerless d client where
  modify ticket ops := submit_notPrimary hno ticket ops
  told _ hopen _ hnew ops _ _ hwait hother hother' :=
    repliesTo_modify_notPrimary hno hd hopen hnew ops hwait hother hother'
  flush ticket inst := by
    show d.settled (d.flush client inst) = _
    rw [flush_notPrimary hno]
    rfl
  close ticket := by
    show SameRouting d (d.settled (d.close client)).1
    cases hopen : d.sessions.get? client with
    | none =>
      rw [Device.close, hopen]
      exact .refl d
    | some params =>
      rw [close_kept hopen (.inl hno)]
      exact ⟨rfl, rfl, rfl, rfl⟩

/-- What closing an open session does: routing is affected only if it is the primary session at that
moment, and not persistent; then everything that was programmed goes. -/
structure Closes (d : Device) (client : Nat) (params : SessionParams) (d' : Device) : Prop where
  sessions : d'.sessions = d.sessions.erase client
  kept : d.isPrimary client = false ∨ params.persistence = true → SameRouting d d'
  emptied : d.isPrimary client = true → params.persistence = false → Emptied d d'

theorem exists_closes (hd : Reachable settings d) {client : Nat} {params : SessionParams}
    (hopen : d.sessions.get? client = some params) :
    ∃ d', d.close client = .ok d' ∧ Closes d client params d' := by
  by_cases hkept : d.isPrimary client = false ∨ params.persistence = true
  · refine ⟨_, close_kept hopen hkept, rfl, fun _ => ⟨rfl, rfl, rfl, rfl⟩, fun hp hl => ?_⟩
    obtain hno | hpersistent := hkept
    · rw [hp] at hno
      cases hno
    · rw [hl] at hpersistent
      cases hpersistent
  · have hprimary : d.isPrimary client = true := by simpa using mt .inl hkept
    have hleaves : params.persistence = false := by simpa using mt .inr hkept
    obtain ⟨d', hok, hemptied⟩ := close_primary hd hopen hprimary hleaves
    exact ⟨d', hok, (close_ok hok).sessions, fun hk => absurd hk hkept, fun _ _ => hemptied⟩

/-- **There is one writer.**  In the course of any history the numbers of sessions follow each other
and none is given out twice.  As soon as a session is open, exactly one is the primary one: the one
with the highest election identifier, and among equals the one that was opened first.  No other
session has a say in routing.  And closing a session affects routing only if it is the primary one
at that moment and not persistent; then no programmed entry is left, and every programmed route is
withdrawn. -/
theorem single_writer {h : List Event} (hd : (start settings).after h = d) :
    (((start settings).openings h).map (·.1) =
        List.range' 1 ((start settings).openings h).length ∧
      ∀ c p, d.sessions.get? c = some p → (c, p) ∈ (start settings).openings h) ∧
    (d.sessions ≠ ∅ → ∃ c, d.isPrimary c = true ∧ ∀ c', d.isPrimary c' = true → c' = c) ∧
    (∀ c, d.isPrimary c = true ↔ ∃ params, d.sessions.get? c = some params ∧
      ∀ c' p, d.sessions.get? c' = some p → c' ≠ c →
        p.electionId.Below params.electionId ∨ p.electionId = params.electionId ∧
          [(c, params), (c', p)].Sublist ((start settings).openings h)) ∧
    (∀ c, d.isPrimary c = false → Powerless d c) ∧
    ∀ c params, d.sessions.get? c = some params → ∀ ticket, ∃ d',
      d.serve ticket (.close c) = (d', some (.done (.ok ()))) ∧ Closes d c params d' := by
  have hr : Reachable settings d := reachable_iff.2 ⟨h, hd.symm⟩
  refine ⟨⟨numbers_openings _ h, fun c p hc => mem_openings_of_open hd hc⟩, exists_isPrimary,
    fun c => isPrimary_iff hd, fun c hno => powerless_of_notPrimary hr hno,
    fun c params hopen ticket => ?_⟩
  obtain ⟨d', hok, hcloses⟩ := exists_closes hr hopen
  refine ⟨d', ?_, hcloses⟩
  show d.settled (d.close c) = _
  rw [hok]
  rfl

/-- Three sessions, two of them with the highest identifier; the first one of these programs an
entry. -/
def contested : List Event := [
  .serve 0 (.replaceInstance
    { name := defaultInstanceName, type := .default, description := none }),
  .serve 0 (.openSession
    { persistence := false, ackMode := .rib, electionId := { high := 1, low := 0 } }),
  .serve 0 (.openSession
    { persistence := false, ackMode := .ribAndFib, electionId := { high := 1, low := 1 } }),
  .serve 0 (.openSession
    { persistence := true, ackMode := .ribAndFib, electionId := { high := 1, low := 1 } }),
  .serve 1 (.modify 2 [
    ⟨1, .add, .nextHop ⟨1, (Link.numbered 1).ate.ipv4, defaultInstanceName⟩⟩,
    ⟨2, .add, .nextHopGroup ⟨1, .ofList [(1, 1)], defaultInstanceName⟩⟩,
    ⟨3, .add, .ipv4 ⟨crossedDest, 1, defaultInstanceName, none, none⟩⟩])]

theorem single_writer_contested : ∃ d, (start .standard).after contested = d ∧
    d.isPrimary 2 = true ∧ d.isPrimary 3 = false ∧
    SameRouting d (d.serve 2 (.flush 3 defaultInstanceName)).1 ∧
    (d.aftOf defaultInstanceName).ipv4.contains crossedDest = true ∧
    ∃ d', (d.serve 2 (.close 2)).1 = d' ∧ d'.aftOf defaultInstanceName = {} ∧
      ∃ i' r, d'.instances.get? defaultInstanceName = some i' ∧
        i'.rib.route? crossedDest .gribi = some r ∧ r.removed = true := by
  obtain ⟨-, -, hprimary, hothers, hcloses⟩ := @single_writer .standard _ contested rfl
  generalize hd : (start .standard).after contested = d at hprimary hothers hcloses
  have hentry : (d.aftOf defaultInstanceName).ipv4.contains crossedDest = true := by
    rw [← hd]
    decide +kernel
  have hfirst : d.isPrimary 2 = true := by
    rw [← hd]
    decide +kernel
  have hsecond : d.isPrimary 3 = false := by
    rw [← hd]
    decide +kernel
  have hflush : SameRouting d (d.serve 2 (.flush 3 defaultInstanceName)).1 := by
    rw [(hothers 3 hsecond).flush]
    exact .refl d
  refine ⟨d, rfl, hfirst, hsecond, hflush, hentry, ?_⟩
  obtain ⟨params, hopen, -⟩ := (hprimary 2).1 hfirst
  have hleaves : params.persistence = false := by
    have hsecond : (d.sessions.get? 2).map (·.persistence) = some false := by
      rw [← hd]
      decide +kernel
    rwa [hopen, Option.map_some, Option.some.injEq] at hsecond
  obtain ⟨d', hserve, hclosed⟩ := hcloses 2 params hopen 2
  have hemptied := hclosed.emptied hfirst hleaves
  obtain ⟨i', hi'⟩ : ∃ i', d'.instances.get? defaultInstanceName = some i' := by
    refine Option.isSome_iff_exists.1 ((hemptied.instances defaultInstanceName).trans ?_)
    rw [← hd]
    decide +kernel
  obtain ⟨i, hi, -, -, hrib⟩ := hemptied.routes _ i' hi'
  obtain ⟨r, hr⟩ : ∃ r, i.rib.route? crossedDest .gribi = some r := by
    have hinst : ((d.instances.get? defaultInstanceName).bind fun i =>
        i.rib.route? crossedDest .gribi).isSome = true := by
      rw [← hd]
      decide +kernel
    rw [hi] at hinst
    exact Option.isSome_iff_exists.1 hinst
  refine ⟨d', by rw [hserve], hemptied.aft _, i', r.withdrawn, hi', ?_, rfl⟩
  rw [hrib.gribi, hr]
  rfl

end Device

end RoutePreference
