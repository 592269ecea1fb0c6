import RoutePreference.Proofs.Rib.Choice

/-!
# Routing tables that wait for processing

* `Rib.SettledAt`: what processing leaves at a destination: the forwarding entry of the best
  route, the mark on that route and on no other, no withdrawn route and no empty entry;
* `Rib.Sound`: a destination that doesn't wait in the queue is settled;
* `Rib.Edits`: the changes that sessions and configuration make to a routing table;
* `Rib.rebuild`: the table with every choice made from scratch.

Every edit queues the destination that it touches, so soundness survives it; a change of
interfaces queues every destination that has routes.  A sound table is settled by processing only
what waits, with the same outcome as `Rib.rebuild` (`Sound.settle_eq_rebuild`).
-/

namespace RoutePreference

namespace Rib

/-- What processing leaves at a destination. -/
structure SettledAt (order : List Channel) (ifs : Interfaces) (rib : Rib) (dest : Network) :
    Prop where
  fib : rib.fib.get? dest = (rib.candidates dest).choose order ifs
  kept : ∀ c r, rib.route? dest c = some r → r.removed = false
  active : ∀ c r, rib.route? dest c = some r →
    (r.active = true ↔ ((rib.candidates dest).choose order ifs).map (·.channel) = some c)
  inhabited : ∀ n, rib.routes.get? dest = some n → n.isEmpty = false

/-- Whether every destination that doesn't wait for processing is settled. -/
def Sound (order : List Channel) (ifs : Interfaces) (rib : Rib) : Prop :=
  ∀ dest, rib.queue.contains dest = false → SettledAt order ifs rib dest

variable {order : List Channel} {ifs : Interfaces}

/-- Only the routes and the forwarding entry of the destination matter. -/
theorem SettledAt.congr {rib rib' : Rib} {dest : Network} (h : SettledAt order ifs rib dest)
    (hr : rib'.routes.get? dest = rib.routes.get? dest)
    (hf : rib'.fib.get? dest = rib.fib.get? dest) : SettledAt order ifs rib' dest := by
  have hc : rib'.candidates dest = rib.candidates dest := by simp only [candidates, hr]
  refine ⟨?_, ?_, ?_, ?_⟩
  · rw [hf, hc]; exact h.fib
  · intro c r hcr
    rw [route?, hc] at hcr
    exact h.kept c r hcr
  · intro c r hcr
    rw [route?, hc] at hcr
    rw [hc]
    exact h.active c r hcr
  · rw [hr]; exact h.inhabited

/-- A destination without routes and without a forwarding entry is settled. -/
theorem SettledAt.of_none {rib : Rib} {dest : Network} (hr : rib.routes.get? dest = none)
    (hf : rib.fib.get? dest = none) : SettledAt order ifs rib dest := by
  have hc : rib.candidates dest = {} := by simp [candidates, hr]
  refine ⟨by rw [hf, hc, Candidates.choose_empty], ?_, ?_, ?_⟩
  · intro c r h
    rw [route?, hc] at h
    cases c <;> cases h
  · intro c r h
    rw [route?, hc] at h
    cases c <;> cases h
  · intro n hn
    rw [hr] at hn
    cases hn

theorem Sound.empty : Sound order ifs {} := fun _ _ => .of_none rfl rfl

/-! ### Edits -/

theorem routes_store_of_ne (rib : Rib) {dest q : Network} (h : dest ≠ q) (c : Channel)
    (r : Route) : (rib.store dest c r).routes.get? q = rib.routes.get? q :=
  Table.get?_insert_of_ne _ h _

theorem candidates_store (rib : Rib) (dest q : Network) (c : Channel) (r : Route) :
    (rib.store dest c r).candidates q =
      if dest = q then (rib.candidates dest).set c (some r) else rib.candidates q := by
  rw [candidates, store]
  simp only [Table.get?_insert]
  split <;> rfl

theorem queue_store (rib : Rib) (dest q : Network) (c : Channel) (r : Route) :
    (rib.store dest c r).queue.contains q = (decide (dest = q) || rib.queue.contains q) :=
  Keys.contains_add _ _ _

/-- Putting a route in place queues its destination. -/
theorem Sound.store {rib : Rib} (h : Sound order ifs rib) (dest : Network) (c : Channel)
    (r : Route) : Sound order ifs (rib.store dest c r) := by
  intro q hq
  rw [queue_store] at hq
  simp only [Bool.or_eq_false_iff, decide_eq_false_iff_not] at hq
  exact (h q hq.2).congr (routes_store_of_ne rib hq.1 c r) rfl

/-- Installing a route does nothing or puts a route in place. -/
theorem install_cases (rib : Rib) (dest : Network) (c : Channel) (new : Route) :
    (∃ old, rib.route? dest c = some old ∧ old.removed = false ∧ old.agrees new = true ∧
      rib.install dest c new = (rib, false)) ∨
    ∃ r, r.tag = new.tag ∧ r.group = new.group ∧ r.hops = new.hops ∧
      (new.removed = false → r.removed = false) ∧
      rib.install dest c new = (rib.store dest c r, true) := by
  rw [install]
  cases hr : rib.route? dest c with
  | none => exact .inr ⟨new, rfl, rfl, rfl, id, rfl⟩
  | some old =>
    simp only
    split
    · next h =>
      simp only [Bool.and_eq_true, Bool.not_eq_true'] at h
      exact .inl ⟨old, rfl, h.1, h.2, rfl⟩
    · exact .inr ⟨{ new with active := old.active, removed := false }, rfl, rfl, rfl,
        fun _ => rfl, rfl⟩

/-- Withdrawing a route does nothing or puts the marked route in place. -/
theorem withdraw_cases (rib : Rib) (dest : Network) (c : Channel) :
    (rib.route? dest c = none ∧ rib.withdraw dest c = (rib, false)) ∨
    ∃ old, rib.route? dest c = some old ∧
      rib.withdraw dest c = (rib.store dest c { old with removed := true }, true) := by
  rw [withdraw]
  cases hr : rib.route? dest c with
  | none => exact .inl ⟨rfl, rfl⟩
  | some old => exact .inr ⟨old, rfl, rfl⟩

/-- The changes that installing and withdrawing routes make, one after the other. -/
inductive Edits (rib : Rib) : Rib → Prop where
  | refl : Edits rib rib
  | store {mid : Rib} (dest : Network) (c : Channel) (r : Route) :
      Edits rib mid → Edits rib (mid.store dest c r)

theorem edits_install (rib : Rib) (dest : Network) (c : Channel) (new : Route) :
    Edits rib (rib.install dest c new).1 := by
  rcases rib.install_cases dest c new with ⟨_, _, _, _, h⟩ | ⟨r, _, _, _, _, h⟩ <;> rw [h]
  · exact .refl
  · exact .store dest c r .refl

theorem edits_withdraw (rib : Rib) (dest : Network) (c : Channel) :
    Edits rib (rib.withdraw dest c).1 := by
  rcases rib.withdraw_cases dest c with ⟨_, h⟩ | ⟨old, _, h⟩ <;> rw [h]
  · exact .refl
  · exact .store dest c _ .refl

theorem Sound.edits {a b : Rib} (ha : Sound order ifs a) (h : Edits a b) : Sound order ifs b := by
  induction h with
  | refl => exact ha
  | store dest c r _ ih => exact ih.store dest c r

/-! ### A change of interfaces -/

theorem queue_requeueAll (rib : Rib) (q : Network) :
    rib.requeueAll.queue.contains q =
      (decide (q ∈ rib.routes.keys) || rib.queue.contains q) := Keys.contains_addAll _ _ _

/-- With every destination queued that has routes, other interfaces do no harm: a destination
without routes has no forwarding entry either. -/
theorem Sound.requeueAll {rib : Rib} (h : Sound order ifs rib) (ifs' : Interfaces) :
    Sound order ifs' rib.requeueAll := by
  intro q hq
  rw [queue_requeueAll] at hq
  simp only [Bool.or_eq_false_iff, decide_eq_false_iff_not] at hq
  have hr : rib.routes.get? q = none := Table.get?_eq_none_of_not_mem_keys hq.1
  refine .of_none hr ?_
  have hf := (h q hq.2).fib
  rwa [candidates, hr, Option.getD_none, Candidates.choose_empty] at hf

/-! ### Processing one destination -/

@[simp] theorem queue_process (rib : Rib) (dest : Network) :
    (rib.process order ifs dest).queue = rib.queue := by
  rw [process]
  split <;> rfl

theorem routes_process_of_ne (rib : Rib) {dest q : Network} (h : dest ≠ q) :
    (rib.process order ifs dest).routes.get? q = rib.routes.get? q := by
  rw [process]
  split
  · rfl
  · simp only
    split
    · exact Table.get?_erase_of_ne _ h
    · exact Table.get?_insert_of_ne _ h _

theorem fib_process_of_ne (rib : Rib) {dest q : Network} (h : dest ≠ q) :
    (rib.process order ifs dest).fib.get? q = rib.fib.get? q := by
  rw [process]
  split
  · exact Table.get?_erase_of_ne _ h
  · simp only
    split
    · exact Table.get?_insert_of_ne _ h _
    · exact Table.get?_erase_of_ne _ h

/-- The candidates that processing leaves: the withdrawn ones go, the chosen one is marked. -/
def marked (order : List Channel) (ifs : Interfaces) (n : Candidates) : Candidates :=
  n.dropRemoved.mapRoutes fun c r =>
    { r with active := (n.dropRemoved.choose order ifs).map (·.channel) = some c }

theorem choose_marked (n : Candidates) :
    (marked order ifs n).choose order ifs = n.dropRemoved.choose order ifs :=
  Candidates.choose_mapRoutes order ifs n.dropRemoved fun _ _ => ⟨rfl, rfl⟩

theorem candidates_process_self (rib : Rib) (dest : Network) :
    (rib.process order ifs dest).candidates dest = marked order ifs (rib.candidates dest) := by
  rw [process]
  cases hr : rib.routes.get? dest with
  | none =>
    simp only [candidates, hr, Option.getD_none]
    rfl
  | some node =>
    simp only [candidates, hr, Option.getD_some]
    by_cases he : (marked order ifs node).isEmpty = true
    · rw [if_pos (by exact he), Table.get?_erase_self, Candidates.eq_empty_of_isEmpty he]
      rfl
    · rw [if_neg (by exact he), Table.get?_insert_self]
      rfl

theorem fib_process_self (rib : Rib) (dest : Network) :
    (rib.process order ifs dest).fib.get? dest =
      (rib.candidates dest).dropRemoved.choose order ifs := by
  rw [process]
  cases hr : rib.routes.get? dest with
  | none =>
    simp only [candidates, hr, Option.getD_none, Table.get?_erase_self]
    exact (Candidates.choose_empty order ifs).symm
  | some node =>
    simp only [candidates, hr, Option.getD_some]
    cases hb : node.dropRemoved.choose order ifs <;> simp

theorem inhabited_process_self (rib : Rib) (dest : Network) (n : Candidates)
    (h : (rib.process order ifs dest).routes.get? dest = some n) : n.isEmpty = false := by
  rw [process] at h
  cases hr : rib.routes.get? dest with
  | none =>
    simp only [hr] at h
    cases h
  | some node =>
    simp only [hr] at h
    split at h
    · rw [Table.get?_erase_self] at h
      cases h
    · next he =>
      rw [Table.get?_insert_self] at h
      cases h
      simpa using he

/-- Processing a destination settles it. -/
theorem settledAt_process (rib : Rib) (dest : Network) :
    SettledAt order ifs (rib.process order ifs dest) dest := by
  refine ⟨?_, ?_, ?_, inhabited_process_self rib dest⟩
  · rw [fib_process_self, candidates_process_self, choose_marked]
  · intro c r hr
    rw [route?, candidates_process_self, marked, Candidates.get_mapRoutes,
      Candidates.get_dropRemoved] at hr
    obtain ⟨r', hr', rfl⟩ := Option.map_eq_some_iff.1 hr
    simpa using (Option.filter_eq_some_iff.1 hr').2
  · intro c r hr
    rw [candidates_process_self, choose_marked]
    rw [route?, candidates_process_self, marked, Candidates.get_mapRoutes] at hr
    obtain ⟨r', -, rfl⟩ := Option.map_eq_some_iff.1 hr
    simp

/-! ### Processing the queue -/

theorem queue_foldl_process (l : List Network) (rib : Rib) :
    (l.foldl (process order ifs) rib).queue = rib.queue := by
  induction l generalizing rib with
  | nil => rfl
  | cons a l ih => rw [List.foldl_cons, ih, queue_process]

theorem routes_foldl_process {l : List Network} {q : Network} (h : q ∉ l) (rib : Rib) :
    (l.foldl (process order ifs) rib).routes.get? q = rib.routes.get? q := by
  induction l generalizing rib with
  | nil => rfl
  | cons a l ih =>
    rw [List.mem_cons, not_or] at h
    obtain ⟨ha, hl⟩ := h
    rw [List.foldl_cons, ih hl, routes_process_of_ne rib (Ne.symm ha)]

theorem fib_foldl_process {l : List Network} {q : Network} (h : q ∉ l) (rib : Rib) :
    (l.foldl (process order ifs) rib).fib.get? q = rib.fib.get? q := by
  induction l generalizing rib with
  | nil => rfl
  | cons a l ih =>
    rw [List.mem_cons, not_or] at h
    obtain ⟨ha, hl⟩ := h
    rw [List.foldl_cons, ih hl, fib_process_of_ne rib (Ne.symm ha)]

/-- Processing a list of destinations settles each of them. -/
theorem settledAt_foldl_process {l : List Network} {q : Network} (h : q ∈ l) (rib : Rib) :
    SettledAt order ifs (l.foldl (process order ifs) rib) q := by
  induction l generalizing rib with
  | nil => cases h
  | cons a l ih =>
    rw [List.foldl_cons]
    by_cases hl : q ∈ l
    · exact ih hl _
    · obtain rfl | hl' := List.mem_cons.1 h
      · exact (settledAt_process rib q).congr (routes_foldl_process hl _) (fib_foldl_process hl _)
      · exact absurd hl' hl

/-! ### Making every choice from scratch -/

/-- At a settled destination there is nothing left to mark. -/
theorem SettledAt.marked_eq {rib : Rib} {dest : Network} (h : SettledAt order ifs rib dest) :
    marked order ifs (rib.candidates dest) = rib.candidates dest := by
  have hdrop : (rib.candidates dest).dropRemoved = rib.candidates dest := by
    refine Candidates.ext_get fun c => ?_
    rw [Candidates.get_dropRemoved]
    cases hr : (rib.candidates dest).get c with
    | none => rfl
    | some r => simp [h.kept c r hr]
  refine Candidates.ext_get fun c => ?_
  rw [marked, hdrop, Candidates.get_mapRoutes]
  cases hr : (rib.candidates dest).get c with
  | none => rfl
  | some r =>
    -- the mark says already what processing would write
    have ha : decide (((rib.candidates dest).choose order ifs).map (·.channel) = some c) =
        r.active := by
      rw [Bool.eq_iff_iff, decide_eq_true_iff, h.active c r hr]
    rw [Option.map_some, ha]

theorem marked_marked (n : Candidates) :
    marked order ifs (marked order ifs n) = marked order ifs n := by
  -- a table that holds nothing but these candidates
  have h : SettledAt order ifs
      (process order ifs { routes := Table.insert ∅ default n } default) default :=
    settledAt_process _ _
  have hm := h.marked_eq
  rwa [candidates_process_self, candidates, Table.get?_insert_self, Option.getD_some] at hm

theorem candidates_foldl_process (l : List Network) (rib : Rib) (q : Network) :
    (l.foldl (process order ifs) rib).candidates q =
      if q ∈ l then marked order ifs (rib.candidates q) else rib.candidates q := by
  induction l generalizing rib with
  | nil => simp
  | cons a l ih =>
    rw [List.foldl_cons, ih]
    by_cases ha : a = q
    · subst ha
      rw [candidates_process_self, marked_marked, ite_self, if_pos List.mem_cons_self]
    · have hc : (rib.process order ifs a).candidates q = rib.candidates q := by
        rw [candidates, routes_process_of_ne rib ha, candidates]
      simp only [hc, List.mem_cons, Ne.symm ha, false_or]

/-- Two tables that are settled at a destination and hold the same candidates there agree on it. -/
theorem SettledAt.ext {a b : Rib} {dest : Network} (ha : SettledAt order ifs a dest)
    (hb : SettledAt order ifs b dest) (h : a.candidates dest = b.candidates dest) :
    a.routes.get? dest = b.routes.get? dest ∧ a.fib.get? dest = b.fib.get? dest := by
  refine ⟨?_, by rw [ha.fib, hb.fib, h]⟩
  have hai := ha.inhabited
  have hbi := hb.inhabited
  simp only [candidates] at h
  cases hra : a.routes.get? dest with
  | none =>
    cases hrb : b.routes.get? dest with
    | none => rfl
    | some n =>
      -- an entry without routes would not be there
      rw [hra, hrb] at h
      have hn := hbi n hrb
      rw [← show ({} : Candidates) = n from h] at hn
      cases hn
  | some n =>
    cases hrb : b.routes.get? dest with
    | none =>
      rw [hra, hrb] at h
      have hn := hai n hra
      rw [show n = ({} : Candidates) from h] at hn
      cases hn
    | some m =>
      rw [hra, hrb] at h
      exact congrArg some h

/-- The table with an empty forwarding table to begin with and the choice made for every
destination that has routes. -/
def rebuild (order : List Channel) (ifs : Interfaces) (rib : Rib) : Rib :=
  rib.routes.keys.foldl (process order ifs) { rib with fib := ∅, queue := ∅ }

theorem queue_rebuild (rib : Rib) : (rib.rebuild order ifs).queue = ∅ :=
  queue_foldl_process _ _

theorem candidates_rebuild (rib : Rib) (q : Network) :
    (rib.rebuild order ifs).candidates q = marked order ifs (rib.candidates q) := by
  rw [rebuild, candidates_foldl_process]
  by_cases hq : q ∈ rib.routes.keys
  · rw [if_pos hq]
    rfl
  · have hc : rib.candidates q = {} := by
      rw [candidates, Table.get?_eq_none_of_not_mem_keys hq, Option.getD_none]
    rw [if_neg hq]
    exact hc.trans (congrArg (marked order ifs) hc.symm)

theorem settledAt_rebuild (rib : Rib) (q : Network) :
    SettledAt order ifs (rib.rebuild order ifs) q := by
  by_cases hq : q ∈ rib.routes.keys
  · exact settledAt_foldl_process hq _
  · refine .of_none ?_ ?_
    · rw [rebuild, routes_foldl_process hq]
      exact Table.get?_eq_none_of_not_mem_keys hq
    · rw [rebuild, fib_foldl_process hq]
      rfl

/-! ### Processing what waits -/

/-- Processing the queue of a sound table settles every destination. -/
theorem Sound.settledAt_settle {rib : Rib} (h : Sound order ifs rib) (dest : Network) :
    SettledAt order ifs (rib.settle order ifs) dest := by
  by_cases hq : dest ∈ rib.queue.keys
  · exact (settledAt_foldl_process hq rib).congr rfl rfl
  · have hs := h dest (by rwa [Table.mem_keys_iff, Bool.not_eq_true] at hq)
    exact hs.congr (routes_foldl_process hq rib) (fib_foldl_process hq rib)

theorem Sound.settle {rib : Rib} (h : Sound order ifs rib) :
    Sound order ifs (rib.settle order ifs) := fun dest _ => h.settledAt_settle dest

theorem Sound.candidates_settle {rib : Rib} (h : Sound order ifs rib) (q : Network) :
    (rib.settle order ifs).candidates q = marked order ifs (rib.candidates q) := by
  have hs : (rib.settle order ifs).candidates q =
      if q ∈ rib.queue.keys then marked order ifs (rib.candidates q) else rib.candidates q :=
    candidates_foldl_process _ _ _
  rw [hs]
  split
  · rfl
  · next hq =>
    rw [Table.mem_keys_iff, Bool.not_eq_true] at hq
    exact (h q hq).marked_eq.symm

/-- **Processing only what waits is as good as making every choice from scratch.** -/
theorem Sound.settle_eq_rebuild {rib : Rib} (h : Sound order ifs rib) :
    rib.settle order ifs = rib.rebuild order ifs := by
  have hq : ∀ q, (rib.settle order ifs).routes.get? q = (rib.rebuild order ifs).routes.get? q ∧
      (rib.settle order ifs).fib.get? q = (rib.rebuild order ifs).fib.get? q := fun q =>
    (h.settledAt_settle q).ext (settledAt_rebuild rib q)
      (by rw [h.candidates_settle, candidates_rebuild])
  have hroutes := Table.ext_get? fun q => (hq q).1
  have hfib := Table.ext_get? fun q => (hq q).2
  have hqueue : (rib.settle order ifs).queue = (rib.rebuild order ifs).queue :=
    (queue_rebuild rib).symm
  cases hs : rib.settle order ifs
  cases hb : rib.rebuild order ifs
  simp only [hs, hb] at hroutes hfib hqueue
  rw [hroutes, hfib, hqueue]

end Rib

end RoutePreference
