import RoutePreference.Device.Rib
import RoutePreference.Proofs.Tables

/-!
# The chosen route

* `Settings.Prefers`: which of two channels wins, by distance and then by protocol;
* `Route.Usable`: whether some next-hop of a route is reached through an interface;
* `Candidates.IsBest`: the route that wins among the candidates for a destination;
* `Candidates.choose_eq_some_iff`: the choice made along the list of channels is the entry built
  from the best route, and there is none exactly when no route is usable.
-/

namespace RoutePreference

/-! ### Preference between channels -/

/-- Whether a channel wins over another one: by a smaller administrative distance, or, at equal
distances, by the order of the protocols. -/
def Settings.Prefers (s : Settings) (c d : Channel) : Prop :=
  s.distance c < s.distance d ∨
    s.distance c = s.distance d ∧ compare c.protocol d.protocol = .lt

namespace Settings

theorem prefers_static_gribi_iff {s : Settings} :
    s.Prefers .static .gribi ↔ s.staticDistance ≤ s.gribiDistance := by
  have h : compare Channel.static.protocol Channel.gribi.protocol = .lt := by decide
  simp only [Prefers, distance, h, and_true]
  omega

theorem prefers_gribi_static_iff {s : Settings} :
    s.Prefers .gribi .static ↔ s.gribiDistance < s.staticDistance := by
  have h : compare Channel.gribi.protocol Channel.static.protocol ≠ .lt := by decide
  simp [Prefers, distance, h]

theorem not_prefers_self {s : Settings} {c : Channel} : ¬ s.Prefers c c := by
  have h : compare c.protocol c.protocol ≠ .lt := by cases c <;> decide
  simp [Prefers, h]

/-- The list of channels names a preferred channel first. -/
theorem preference_eq {s : Settings} :
    ∃ c d, s.preference = [c, d] ∧ s.Prefers c d ∧ ¬ s.Prefers d c ∧ ∀ x, x = c ∨ x = d := by
  by_cases h : s.staticDistance ≤ s.gribiDistance
  · refine ⟨.static, .gribi, by simp [preference, h], prefers_static_gribi_iff.2 h, ?_, ?_⟩
    · rw [prefers_gribi_static_iff]; omega
    · intro x; cases x <;> simp
  · refine ⟨.gribi, .static, by simp [preference, h], ?_, ?_, ?_⟩
    · rw [prefers_gribi_static_iff]; omega
    · rw [prefers_static_gribi_iff]; omega
    · intro x; cases x <;> simp

end Settings

/-! ### Usable routes -/

/-- Whether some next-hop of the route is reached through an interface. -/
def Route.Usable (ifs : Interfaces) (r : Route) : Prop :=
  ∃ a w port, r.hops.get? a = some w ∧ ifs.connected? a = some port

namespace Route

theorem mem_resolve_iff {ifs : Interfaces} {r : Route} {h : Hop} :
    h ∈ r.resolve ifs ↔
      r.hops.get? h.addr = some h.weight ∧ ifs.connected? h.addr = some h.port := by
  simp only [resolve, List.mem_filterMap, Option.map_eq_some_iff]
  constructor
  · rintro ⟨e, he, port, hport, rfl⟩
    exact ⟨Table.get?_of_mem_entries he, hport⟩
  · rintro ⟨hw, hport⟩
    exact ⟨_, Table.get?_eq_some_iff.1 hw, _, hport, rfl⟩

theorem usable_iff {ifs : Interfaces} {r : Route} : r.Usable ifs ↔ r.resolve ifs ≠ [] := by
  constructor
  · rintro ⟨a, w, port, hw, hport⟩
    have hm : (⟨a, port, w⟩ : Hop) ∈ r.resolve ifs := mem_resolve_iff.2 ⟨hw, hport⟩
    exact List.ne_nil_of_mem hm
  · intro hne
    obtain ⟨h, hh⟩ := List.exists_mem_of_ne_nil _ hne
    obtain ⟨hw, hport⟩ := mem_resolve_iff.1 hh
    exact ⟨h.addr, h.weight, h.port, hw, hport⟩

end Route

/-! ### The best candidate -/

namespace Candidates

/-- The forwarding entry that a route of a channel leads to. -/
def entryFor (ifs : Interfaces) (c : Channel) (r : Route) : FibEntry :=
  { channel := c, group := r.group, hops := r.resolve ifs }

/-- Whether the route is the first usable one, in order of preference. -/
structure IsBest (s : Settings) (ifs : Interfaces) (n : Candidates) (c : Channel) (r : Route) :
    Prop where
  held : n.get c = some r
  usable : r.Usable ifs
  first : ∀ d r', s.Prefers d c → n.get d = some r' → ¬ r'.Usable ifs

theorem entryOf_eq_some_iff {ifs : Interfaces} {n : Candidates} {c : Channel} {e : FibEntry} :
    n.entryOf ifs c = some e ↔ ∃ r, n.get c = some r ∧ r.Usable ifs ∧ e = entryFor ifs c r := by
  simp only [entryOf, Option.bind_eq_some_iff]
  refine exists_congr fun r => and_congr_right fun _ => ?_
  rw [Route.usable_iff, entryFor]
  cases hr : r.resolve ifs <;> simp [eq_comm]

theorem entryOf_eq_none_iff {ifs : Interfaces} {n : Candidates} {c : Channel} :
    n.entryOf ifs c = none ↔ ∀ r, n.get c = some r → ¬ r.Usable ifs := by
  constructor
  · intro h r hr hu
    have hs : n.entryOf ifs c = some (entryFor ifs c r) :=
      entryOf_eq_some_iff.2 ⟨r, hr, hu, rfl⟩
    rw [h] at hs
    cases hs
  · intro h
    cases he : n.entryOf ifs c with
    | none => rfl
    | some e =>
      obtain ⟨r, hr, hu, -⟩ := entryOf_eq_some_iff.1 he
      exact absurd hu (h r hr)

theorem IsBest.eq {s : Settings} {ifs : Interfaces} {n : Candidates} {c d : Channel}
    {r t : Route} (h : n.IsBest s ifs c r) (h' : n.IsBest s ifs d t) : c = d ∧ r = t := by
  have hcd : c = d := by
    obtain ⟨x, y, -, hxy, -, hall⟩ := s.preference_eq
    rcases hall c with rfl | rfl <;> rcases hall d with rfl | rfl
    · rfl
    · exact absurd h.usable (h'.first _ _ hxy h.held)
    · exact absurd h'.usable (h.first _ _ hxy h'.held)
    · rfl
  subst hcd
  have hr := h.held
  rw [h'.held] at hr
  exact ⟨rfl, (Option.some.inj hr).symm⟩

/-- **The choice is the entry built from the best route.** -/
theorem choose_eq_some_iff {s : Settings} {ifs : Interfaces} {n : Candidates} {e : FibEntry} :
    n.choose s.preference ifs = some e ↔
      ∃ c r, n.IsBest s ifs c r ∧ e = entryFor ifs c r := by
  obtain ⟨x, y, hxy, hp, hnp, hall⟩ := s.preference_eq
  have hchoose : n.choose s.preference ifs = (n.entryOf ifs x).or (n.entryOf ifs y) := by
    rw [hxy, choose]
    cases hx : n.entryOf ifs x <;> cases hy : n.entryOf ifs y <;> simp [List.findSome?, hx, hy]
  rw [hchoose, Option.or_eq_some_iff, entryOf_eq_some_iff, entryOf_eq_some_iff,
    entryOf_eq_none_iff]
  constructor
  · rintro (⟨r, hr, hu, rfl⟩ | ⟨hno, r, hr, hu, rfl⟩)
    · refine ⟨x, r, ⟨hr, hu, fun d t hd _ => ?_⟩, rfl⟩
      rcases hall d with rfl | rfl
      · exact absurd hd Settings.not_prefers_self
      · exact absurd hd hnp
    · refine ⟨y, r, ⟨hr, hu, fun d t hd ht => ?_⟩, rfl⟩
      rcases hall d with rfl | rfl
      · exact hno t ht
      · exact absurd hd Settings.not_prefers_self
  · rintro ⟨c, r, hb, rfl⟩
    rcases hall c with rfl | rfl
    · exact .inl ⟨r, hb.held, hb.usable, rfl⟩
    · exact .inr ⟨fun t ht => hb.first _ t hp ht, r, hb.held, hb.usable, rfl⟩

theorem choose_eq_none_iff {s : Settings} {ifs : Interfaces} {n : Candidates} :
    n.choose s.preference ifs = none ↔ ∀ c r, n.get c = some r → ¬ r.Usable ifs := by
  obtain ⟨x, y, hxy, -, -, hall⟩ := s.preference_eq
  simp only [choose, hxy, List.findSome?_eq_none_iff, List.mem_cons, List.not_mem_nil, or_false,
    forall_eq_or_imp, forall_eq, entryOf_eq_none_iff]
  constructor
  · rintro ⟨hx, hy⟩ c r hr
    rcases hall c with rfl | rfl
    · exact hx r hr
    · exact hy r hr
  · exact fun h => ⟨h x, h y⟩

/-- The chosen channel is that of the best route. -/
theorem choose_channel_iff {s : Settings} {ifs : Interfaces} {n : Candidates} {c : Channel}
    {r : Route} (hr : n.get c = some r) :
    (n.choose s.preference ifs).map (·.channel) = some c ↔ n.IsBest s ifs c r := by
  rw [Option.map_eq_some_iff]
  constructor
  · rintro ⟨e, he, rfl⟩
    obtain ⟨d, t, hb, rfl⟩ := choose_eq_some_iff.1 he
    have ht := hb.held
    simp only [entryFor] at hr
    rw [hr] at ht
    cases ht
    exact hb
  · intro hb
    exact ⟨_, choose_eq_some_iff.2 ⟨c, r, hb, rfl⟩, rfl⟩

/-! ### What the choice doesn't look at -/

/-- Changes that keep next-hops and groups leave the choice as it is. -/
theorem choose_mapRoutes (order : List Channel) (ifs : Interfaces) (n : Candidates)
    {f : Channel → Route → Route}
    (hf : ∀ c r, (f c r).group = r.group ∧ (f c r).hops = r.hops) :
    (n.mapRoutes f).choose order ifs = n.choose order ifs := by
  have h : ∀ c, (n.mapRoutes f).entryOf ifs c = n.entryOf ifs c := by
    intro c
    simp only [entryOf, get_mapRoutes, Option.bind_map]
    refine congrArg (Option.bind _) (funext fun r => ?_)
    simp only [Function.comp, Route.resolve, (hf c r).1, (hf c r).2]
  simp only [choose, funext h]

@[simp] theorem choose_empty (order : List Channel) (ifs : Interfaces) :
    ({} : Candidates).choose order ifs = none := by
  simp only [choose, List.findSome?_eq_none_iff]
  intro c _
  cases c <;> rfl

@[simp] theorem isEmpty_mapRoutes (n : Candidates) (f : Channel → Route → Route) :
    (n.mapRoutes f).isEmpty = n.isEmpty := by
  simp [isEmpty, mapRoutes]

theorem eq_empty_of_isEmpty {n : Candidates} (h : n.isEmpty = true) : n = {} := by
  obtain ⟨s, g⟩ := n
  simp only [isEmpty, Bool.and_eq_true, Option.isNone_iff_eq_none] at h
  obtain ⟨rfl, rfl⟩ := h
  rfl

/-- Candidates are determined by the routes of the channels. -/
theorem ext_get {m n : Candidates} (h : ∀ c, m.get c = n.get c) : m = n := by
  have hs := h .static
  have hg := h .gribi
  obtain ⟨s, g⟩ := m
  simp only [get] at hs hg
  subst hs hg
  rfl

end Candidates

end RoutePreference
