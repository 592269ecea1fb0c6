import RoutePreference.Proofs.Rib.Settling

/-!
# The routes that aren't withdrawn

* `Route.plain`: a route without its marks;
* `Rib.live?`: the route of a channel for a destination, if it isn't withdrawn, without its marks;
* `live?_install`, `live?_withdraw`: the only two changes of it;
* `live?_requeueAll`, `live?_settle`: queueing and processing leave it as it is.
-/

namespace RoutePreference

/-- The route with its marks cleared. -/
def Route.plain (r : Route) : Route := { r with active := false, removed := false }

namespace Route

theorem plain_eq_iff {r s : Route} :
    r.plain = s.plain ↔ r.tag = s.tag ∧ r.group = s.group ∧ r.hops = s.hops := by
  cases r; cases s
  simp [plain]

theorem agrees_iff {r s : Route} : r.agrees s = true ↔ r.plain = s.plain := by
  simp [plain_eq_iff, agrees, and_assoc]

end Route

namespace Rib

/-- The route of a channel for a destination, if there is one that isn't withdrawn. -/
def live? (rib : Rib) (dest : Network) (c : Channel) : Option Route :=
  ((rib.route? dest c).filter (!·.removed)).map Route.plain

@[simp] theorem live?_empty (dest : Network) (c : Channel) : live? {} dest c = none := by
  cases c <;> rfl

theorem live?_eq_some_iff {rib : Rib} {dest : Network} {c : Channel} {r : Route} :
    rib.live? dest c = some r ↔
      ∃ r', rib.route? dest c = some r' ∧ r'.removed = false ∧ r'.plain = r := by
  simp only [live?, Option.map_eq_some_iff, Option.filter_eq_some_iff, Bool.not_eq_true', and_assoc]

theorem live?_of_kept {rib : Rib} {dest : Network} {c : Channel}
    (h : ∀ r, rib.route? dest c = some r → r.removed = false) :
    rib.live? dest c = (rib.route? dest c).map Route.plain := by
  rw [live?]
  cases hr : rib.route? dest c with
  | none => rfl
  | some r => simp [h r hr, Option.filter]

theorem live?_isSome_iff {rib : Rib} {dest : Network} {c : Channel} :
    (rib.live? dest c).isSome = true ↔ ∃ r, rib.route? dest c = some r ∧ r.removed = false := by
  rw [Option.isSome_iff_exists]
  constructor
  · rintro ⟨r, hr⟩
    obtain ⟨r', hr', hk, -⟩ := live?_eq_some_iff.1 hr
    exact ⟨r', hr', hk⟩
  · rintro ⟨r, hr, hk⟩
    exact ⟨r.plain, live?_eq_some_iff.2 ⟨r, hr, hk, rfl⟩⟩

theorem route?_store (rib : Rib) (dest q : Network) (c x : Channel) (r : Route) :
    (rib.store dest c r).route? q x = if dest = q ∧ c = x then some r else rib.route? q x := by
  rw [route?, candidates_store]
  by_cases hd : dest = q
  · subst hd
    by_cases hc : c = x
    · subst hc; simp
    · simp [hc, Candidates.get_set_of_ne _ hc, route?]
  · simp [hd, route?]

theorem live?_store (rib : Rib) (dest q : Network) (c x : Channel) (r : Route) :
    (rib.store dest c r).live? q x =
      if dest = q ∧ c = x then (if r.removed then none else some r.plain) else rib.live? q x := by
  rw [live?, route?_store]
  by_cases h : dest = q ∧ c = x
  · cases hr : r.removed <;> simp [h, hr, Option.filter]
  · simp [h, live?]

/-- After installing a route it is the live one, even over a route that was withdrawn. -/
theorem live?_install (rib : Rib) (dest q : Network) (c x : Channel) {new : Route}
    (hnew : new.removed = false) :
    (rib.install dest c new).1.live? q x =
      if dest = q ∧ c = x then some new.plain else rib.live? q x := by
  obtain ⟨old, hold, hkept, hagree, heq⟩ | ⟨r, ht, hg, hh, hr, heq⟩ :=
    rib.install_cases dest c new
  · rw [heq]
    split
    · next h =>
      -- the route in place agrees with the new one
      obtain ⟨rfl, rfl⟩ := h
      exact live?_eq_some_iff.2 ⟨old, hold, hkept, Route.agrees_iff.1 hagree⟩
    · rfl
  · rw [heq, live?_store, hr hnew, Route.plain_eq_iff.2 ⟨ht, hg, hh⟩]
    rfl

/-- After withdrawing a route there is no live one. -/
theorem live?_withdraw (rib : Rib) (dest q : Network) (c x : Channel) :
    (rib.withdraw dest c).1.live? q x =
      if dest = q ∧ c = x then none else rib.live? q x := by
  obtain ⟨hnone, heq⟩ | ⟨old, -, heq⟩ := rib.withdraw_cases dest c
  · rw [heq]
    split
    · next h =>
      obtain ⟨rfl, rfl⟩ := h
      simp [live?, hnone]
    · rfl
  · rw [heq, live?_store]
    rfl

theorem live?_foldl_withdraw (dests : List Network) (rib : Rib) (q : Network) (c x : Channel) :
    (dests.foldl (fun rib p => (rib.withdraw p c).1) rib).live? q x =
      if q ∈ dests ∧ c = x then none else rib.live? q x := by
  induction dests generalizing rib with
  | nil => simp
  | cons p l ih =>
    rw [List.foldl_cons, ih, live?_withdraw]
    by_cases hc : c = x
    · by_cases hp : p = q
      · simp [hc, hp]
      · simp [hc, hp, Ne.symm hp]
    · simp [hc]

@[simp] theorem live?_requeueAll (rib : Rib) (q : Network) (x : Channel) :
    rib.requeueAll.live? q x = rib.live? q x := rfl

/-- Processing drops what was withdrawn and rewrites the marks; neither is seen. -/
theorem live?_process (order : List Channel) (ifs : Interfaces) (rib : Rib) (dest q : Network)
    (x : Channel) : (rib.process order ifs dest).live? q x = rib.live? q x := by
  by_cases h : dest = q
  · subst h
    rw [live?, route?, candidates_process_self, marked, Candidates.get_mapRoutes,
      Candidates.get_dropRemoved, live?, route?]
    cases (rib.candidates dest).get x with
    | none => rfl
    | some r => cases hr : r.removed <;> simp [hr, Option.filter, Route.plain_eq_iff]
  · rw [live?, route?, candidates, routes_process_of_ne rib h]
    rfl

@[simp] theorem live?_settle (order : List Channel) (ifs : Interfaces) (rib : Rib) (q : Network)
    (x : Channel) : (rib.settle order ifs).live? q x = rib.live? q x := by
  have hfold : ∀ (l : List Network) (rib : Rib),
      (l.foldl (process order ifs) rib).live? q x = rib.live? q x := by
    intro l
    induction l with
    | nil => exact fun _ => rfl
    | cons p l ih => exact fun rib => (ih _).trans (live?_process order ifs rib p q x)
  exact hfold rib.queue.keys rib

end Rib

end RoutePreference
