import RoutePreference.Proofs.Device.Mirror
import RoutePreference.Proofs.Device.References

/-!
# Resolution through another network instance

* `Route.Follows`: the next-hops of a route are the current addresses of the members of a group;
* `Device.RouteCurrent`: the route of the entry for a destination follows the entry's group,
  wherever that lives, if the group and its members are there;
* `Device.Revives`: programming a group anew for an entry that outlived it;
* `Device.Resolved`: the same as a current route, in terms of the routes that aren't withdrawn;
* `Resolved.apply`: an operation keeps the route current unless it revives the group;
* `ReferenceIntact.not_revives`: which takes an entry that was stranded before;
* `route_current_unless_revived`: so does a history in which no operation revives the group.

Re-resolving is tied to a next-hop or group that is replaced by a different one.  A group that was
flushed is not replaced but added.
-/

namespace RoutePreference

/-- Whether the next-hops of a route are the addresses of the members of a group, each with the
weights of the members that have it added up. -/
def Route.Follows (r : Route) (t : AftTables) (g : NextHopGroup) : Prop :=
  ∀ a, r.hops.get? a =
    if Device.shares t.nextHops g.members.entries a = [] then none
    else some (Device.total (Device.shares t.nextHops g.members.entries a))

namespace Device

variable {settings : Settings} {d d' : Device} {n : String} {p : Network}

/-- Whether the route of the entry for a destination follows the entry's group, if the group and
all its members are programmed. -/
def RouteCurrent (d : Device) (n : String) (p : Network) : Prop :=
  ∀ e g, (d.aftOf n).ipv4.get? p = some e →
    (d.aftOf e.groupHome).groups.get? e.group = some g →
    (∀ m, g.members.contains m = true → (d.aftOf e.groupHome).nextHops.contains m = true) →
    ∃ i r, d.instances.get? n = some i ∧ i.rib.route? p .gribi = some r ∧ r.removed = false ∧
      r.group = some e.group ∧ r.Follows (d.aftOf e.groupHome) g

/-- Whether an operation programs a group anew that the entry for a destination has outlived, with
other next-hops than the entry's route has. -/
def Revives (n : String) (p : Network) (d : Device) (op : Operation) : Prop :=
  (∃ d', d.apply op = .ok d') ∧
    ∃ g e i r, op.entry = .nextHopGroup g ∧ (d.aftOf g.inst).groups.get? g.id = none ∧
      (d.aftOf n).ipv4.get? p = some e ∧ e.groupHome = g.inst ∧ e.group = g.id ∧
      d.instances.get? n = some i ∧ i.rib.route? p .gribi = some r ∧
      ¬ r.Follows (d.aftOf g.inst) g

/-- The operations that the primary session carries out one after the other, each with the device
that it finds. -/
def found (d : Device) : List Operation → List (Device × Operation)
  | [] => []
  | op :: ops => (d, op) :: (d.perform true op).1.found ops

/-- The operations that are carried out at an event, each with the device that it finds. -/
def carriedOut (d : Device) : Event → List (Device × Operation)
  | .serve _ (.modify client ops) => if d.isPrimary client then d.found ops else []
  | _ => []

/-- The operations that are carried out in the course of a history. -/
def carriedOutIn (d : Device) : List Event → List (Device × Operation)
  | [] => []
  | e :: h => d.carriedOut e ++ (d.step e).carriedOutIn h

/-! ### The route that isn't withdrawn -/

/-- Whether the entry for a destination has its current route in place, if it has one at all. -/
def Resolved (n : String) (p : Network) (d : Device) : Prop :=
  ∀ e r i, (d.aftOf n).ipv4.get? p = some e → d.entryRoute? e = some r →
    d.instances.get? n = some i → i.rib.live? p .gribi = some r

/-- A programmed entry is one of an existing network instance. -/
theorem WellFormed.instance_of_entry (hw : d.WellFormed) {e : Ipv4Entry}
    (he : (d.aftOf n).ipv4.get? p = some e) : ∃ i, d.instances.get? n = some i := by
  have haft : d.aft.contains n = true := by
    rw [aftOf] at he
    cases ht : d.aft.get? n with
    | none =>
      rw [ht] at he
      cases he
    | some t => exact Table.contains_of_get? ht
  have hc := hw.placed n haft
  rw [contains_configured] at hc
  exact Table.contains_iff.1 hc

/-- The route of a programmed entry that isn't withdrawn. -/
theorem Mirrors.route_of_entry (hmir : Mirrors [] d) {i : Instance}
    (hi : d.instances.get? n = some i) {e : Ipv4Entry} (he : (d.aftOf n).ipv4.get? p = some e) :
    ∃ r, i.rib.route? p .gribi = some r ∧ r.removed = false ∧ r.group = some e.group ∧
      i.rib.live? p .gribi = some { tag := e.tag, group := some e.group, hops := r.hops } := by
  obtain ⟨hops, hlive⟩ := (hmir n i hi).present p e he
  obtain ⟨r, hr, hkept, hplain⟩ := Rib.live?_eq_some_iff.1 hlive
  have hhops : r.hops = hops := congrArg Route.hops hplain
  exact ⟨r, hr, hkept, congrArg Route.group hplain, by rw [hlive, hhops]⟩

/-- Following the group means having the entry's route. -/
theorem WellFormed.follows_iff (hw : d.WellFormed) {e : Ipv4Entry} {g : NextHopGroup}
    (hg : (d.aftOf e.groupHome).groups.get? e.group = some g) {r : Route} :
    r.Follows (d.aftOf e.groupHome) g ↔
      d.entryRoute? e = some { tag := e.tag, group := some e.group, hops := r.hops } := by
  have hmem : ∀ m ∈ g.members.entries, (d.aftOf e.groupHome).nextHops.contains m.1 = true :=
    fun m hm => (hw.tables e.groupHome).member _ g m.1 hg
      (Table.contains_of_get? (Table.get?_of_mem_entries hm))
  have hid := ((hw.tables e.groupHome).group _ g hg).1
  rw [entryRoute?_eq_some_iff]
  constructor
  · intro hf
    exact ⟨g, r.hops, hg, memberHops?_eq_some_iff.2 ⟨hmem, hf⟩, by rw [hid]⟩
  · rintro ⟨g', hops, hg', hh, heq⟩ a
    rw [hg] at hg'
    cases hg'
    have hhops : r.hops = hops := congrArg Route.hops heq
    rw [hhops, (memberHops?_eq_some_iff.1 hh).2 a]

/-- A current route is the entry's route in place. -/
theorem WellFormed.routeCurrent_iff (hw : d.WellFormed) (hmir : Mirrors [] d) :
    d.RouteCurrent n p ↔ Resolved n p d := by
  constructor
  · intro hc e r₀ i he hr₀ hi
    obtain ⟨g, hops, hg, -⟩ := entryRoute?_eq_some_iff.1 hr₀
    obtain ⟨i', r, hi', hr, -, -, hf⟩ := hc e g he hg fun m => (hw.tables _).member _ g m hg
    rw [hi] at hi'
    cases hi'
    obtain ⟨r', hr', -, -, hlive⟩ := hmir.route_of_entry hi he
    rw [hr] at hr'
    cases hr'
    rw [hlive, ← (hw.follows_iff hg).1 hf, hr₀]
  · intro hres e g he hg hm
    obtain ⟨i, hi⟩ := hw.instance_of_entry he
    obtain ⟨r, hr, hkept, hgroup, hlive⟩ := hmir.route_of_entry hi he
    refine ⟨i, r, hi, hr, hkept, hgroup, (hw.follows_iff hg).2 ?_⟩
    obtain ⟨hops, hh⟩ : ∃ hops, memberHops? (d.aftOf e.groupHome).nextHops g.members.entries =
        some hops :=
      memberHops?_isSome fun m hmem =>
        hm _ (Table.contains_of_get? (Table.get?_of_mem_entries hmem))
    have hnow : d.entryRoute? e = some { tag := e.tag, group := some g.id, hops } :=
      entryRoute?_eq_some_iff.2 ⟨g, hops, hg, hh, rfl⟩
    rw [hnow, ← hres e _ i he hnow hi, hlive]

namespace Resolved

/-- A change after which the entry resolves as before, and that leaves its route as it is. -/
theorem mono (h : Resolved n p d)
    (he : ∀ e r, (d'.aftOf n).ipv4.get? p = some e → d'.entryRoute? e = some r →
      (d.aftOf n).ipv4.get? p = some e ∧ d.entryRoute? e = some r)
    (hl : ∀ e j, (d'.aftOf n).ipv4.get? p = some e → d'.instances.get? n = some j →
      ∃ i, d.instances.get? n = some i ∧ j.rib.live? p .gribi = i.rib.live? p .gribi) :
    Resolved n p d' := by
  intro e r j hentry hr hj
  obtain ⟨i, hi, hlive⟩ := hl e j hentry hj
  obtain ⟨hentry, hr⟩ := he e r hentry hr
  rw [hlive, h e r i hentry hr hi]

/-- A change that concerns routes only. -/
theorem of_aft (h : Resolved n p d) (ha : d'.aft = d.aft)
    (hl : ∀ e j, (d.aftOf n).ipv4.get? p = some e → d'.instances.get? n = some j →
      ∃ i, d.instances.get? n = some i ∧ j.rib.live? p .gribi = i.rib.live? p .gribi) :
    Resolved n p d' := by
  have hof : ∀ x, d'.aftOf x = d.aftOf x := fun x => by rw [aftOf, ha, aftOf]
  refine h.mono (fun e r he hr => ?_) fun e j he => hl e j (hof n ▸ he)
  rw [hof] at he
  rw [entryRoute?_congr (hof e.groupHome)] at hr
  exact ⟨he, hr⟩

/-- A change of one routing table that leaves the programmed route as it is. -/
theorem changeRib (h : Resolved n p d) {inst : String} {f : Rib → Rib × Bool}
    (hf : ∀ rib, inst = n → (f rib).1.live? p .gribi = rib.live? p .gribi) :
    Resolved n p (d.changeRib inst f) := by
  refine h.of_aft (aft_changeRib ..) fun e j _ hj => ?_
  rw [get?_changeRib] at hj
  split at hj
  · next hin =>
    obtain ⟨i, hi, rfl⟩ := Option.map_eq_some_iff.1 hj
    exact ⟨i, hi, hf i.rib hin⟩
  · exact ⟨j, hj, rfl⟩

/-- Other configured routes of a network instance. -/
theorem setStatics (h : Resolved n p d) {name : String} {i : Instance}
    (hi : d.instances.get? name = some i) (statics : Table Network StaticRoute) :
    Resolved n p (d.setInstance name { i with statics }) := by
  refine h.of_aft rfl fun e j _ hj => ?_
  rw [get?_setInstance] at hj
  split at hj
  · next hn =>
    cases hj
    exact ⟨i, hn ▸ hi, rfl⟩
  · exact ⟨j, hj, rfl⟩

end Resolved

/-! ### Re-resolving -/

/-- Re-resolving programmed entries puts the current route of each in place and leaves the others
as they are. -/
theorem WellFormed.live?_foldl_reroute (hw : d.WellFormed) {l : List Ipv4Entry}
    (hl : ∀ e ∈ l, e ∈ d.ipv4Entries) {e : Ipv4Entry}
    (he : (d.aftOf n).ipv4.get? p = some e) {j : Instance}
    (hj : (l.foldl reroute d).instances.get? n = some j) :
    ∃ i, d.instances.get? n = some i ∧ j.rib.live? p .gribi =
      if e ∈ l then (d.entryRoute? e).or (i.rib.live? p .gribi) else i.rib.live? p .gribi := by
  induction l generalizing d with
  | nil => exact ⟨j, hj, rfl⟩
  | cons x l ih =>
    have haft : (d.reroute x).aft = d.aft := aft_reroute d x
    have hof : ∀ y, (d.reroute x).aftOf y = d.aftOf y := fun y => by rw [aftOf, haft, aftOf]
    have hmem : ∀ y, y ∈ (d.reroute x).ipv4Entries ↔ y ∈ d.ipv4Entries := fun y => by
      rw [ipv4Entries, haft, ipv4Entries]
    obtain ⟨i', hi', hlive'⟩ := ih (hw.congr haft (configured_reroute d x))
      (fun y hy => (hmem y).2 (hl y (List.mem_cons_of_mem _ hy))) (by rw [hof, he]) hj
    obtain ⟨i, hi, -, hlive⟩ := hw.live?_reroute x hi'
    refine ⟨i, hi, ?_⟩
    rw [hlive', hlive, entryRoute?_congr (hof e.groupHome)]
    -- the one entry in the place of the route is the one that is looked at
    have hplace : x.inst = n ∧ x.dest = p ↔ e = x := by
      have hx := hw.get?_of_mem (hl x List.mem_cons_self)
      constructor
      · rintro ⟨rfl, rfl⟩
        rw [he] at hx
        exact Option.some.inj hx
      · rintro rfl
        exact (hw.entry_place he).symm
    simp only [and_true, hplace, List.mem_cons]
    by_cases hex : e = x
    · subst hex
      by_cases hel : e ∈ l <;> cases d.entryRoute? e <;> simp [hel]
    · simp [hex]

namespace Resolved

/-- Other next-hops and groups in a network instance, followed by re-resolving those entries whose
routes have changed. -/
theorem refresh (h : Resolved n p d) {inst : String} {t : AftTables}
    (hw' : (d.setAft inst t).WellFormed) (ht : t.ipv4 = (d.aftOf inst).ipv4) (ids : List Nat)
    (hr : ∀ e, (d.aftOf n).ipv4.get? p = some e → (e.groupHome = inst → e.group ∉ ids) →
      (d.setAft inst t).entryRoute? e = d.entryRoute? e) :
    Resolved n p ((d.setAft inst t).refresh inst ids) := by
  have haft : ((d.setAft inst t).refresh inst ids).aft = (d.setAft inst t).aft :=
    aft_foldl_reroute ..
  have hof : ∀ x, ((d.setAft inst t).refresh inst ids).aftOf x = (d.setAft inst t).aftOf x :=
    fun x => by rw [aftOf, haft, aftOf]
  have hipv4 : ((d.setAft inst t).aftOf n).ipv4 = (d.aftOf n).ipv4 := ipv4_aftOf_setAft ht n
  intro e r j he hroute hj
  rw [hof] at he
  rw [entryRoute?_congr (hof e.groupHome)] at hroute
  obtain ⟨i, hi, hlive⟩ := hw'.live?_foldl_reroute
    (fun x hx => (mem_flatMap_usersOf_iff.1 hx).1) he hj
  rw [hlive]
  split
  · rw [hroute, Option.some_or]
  · next hno =>
    rw [hipv4] at he
    rw [hr e he fun hhome hid => hno ?_] at hroute
    · exact h e r i he hroute hi
    · refine mem_flatMap_usersOf_iff.2 ⟨mem_ipv4Entries_iff.2 ⟨n, p, ?_⟩, hhome, hid⟩
      rw [hipv4, he]

/-! ### Operations -/

theorem addNextHop {nh : NextHop} (h : Resolved n p d) (hw : d.WellFormed)
    (hc : d.configured.contains nh.inst = true) (hok : d.addNextHop nh = .ok d') :
    Resolved n p d' := by
  obtain ⟨hu, groups, rfl, hcases⟩ := addNextHop_ok hok
  have hw' := hw.setAft ((hw.tables nh.inst).insertNextHop rfl hu) hc
  exact h.refresh hw' rfl _ fun e _ hst => hw.entryRoute?_storeNextHop hcases hst

theorem deleteNextHop {nh : NextHop} (h : Resolved n p d) (hw : d.WellFormed)
    (hc : d.configured.contains nh.inst = true) (hok : d.deleteNextHop nh = .ok d') :
    Resolved n p d' := by
  obtain ⟨hno, rfl⟩ := deleteNextHop_ok hok
  have hw' := hw.setAft ((hw.tables nh.inst).eraseNextHop hno) hc
  exact h.refresh hw' rfl [] fun e _ _ => entryRoute?_dropNextHop hno e

theorem deleteGroup {g : NextHopGroup} (h : Resolved n p d) (hw' : d'.WellFormed)
    (hok : d.deleteGroup g = .ok d') : Resolved n p d' := by
  obtain ⟨hno, rfl⟩ := deleteGroup_ok hok
  exact h.refresh hw' rfl [] fun e he _ =>
    entryRoute?_dropGroup hno (mem_ipv4Entries_iff.2 ⟨n, p, he⟩)

/-- A group that is programmed anew, and that the route of its entry happens to follow. -/
theorem of_follows {g : NextHopGroup} {e : Ipv4Entry} (hmir : Mirrors [] d)
    (hw' : (d.setAft g.inst { d.aftOf g.inst with
      groups := (d.aftOf g.inst).groups.insert g.id g }).WellFormed)
    (he : (d.aftOf n).ipv4.get? p = some e) (hhome : e.groupHome = g.inst)
    (hid : e.group = g.id)
    (hf : ∀ i r, d.instances.get? n = some i → i.rib.route? p .gribi = some r →
      r.Follows (d.aftOf g.inst) g) :
    Resolved n p (d.setAft g.inst { d.aftOf g.inst with
      groups := (d.aftOf g.inst).groups.insert g.id g }) := by
  intro x r₀ i hx hr₀ hi
  rw [ipv4_aftOf_setAft (by rfl), he] at hx
  cases hx
  obtain ⟨r, hr, -, -, hlive⟩ := hmir.route_of_entry hi he
  have hgroup : ((d.setAft g.inst { d.aftOf g.inst with
      groups := (d.aftOf g.inst).groups.insert g.id g }).aftOf e.groupHome).groups.get?
        e.group = some g := by
    rw [hhome, hid, aftOf_setAft_self, Table.get?_insert_self]
  rw [hlive, ← hr₀]
  refine ((hw'.follows_iff hgroup).1 ?_).symm
  rw [hhome, aftOf_setAft_self]
  exact hf i r hi hr

theorem addGroup {g : NextHopGroup} (h : Resolved n p d) (hw : d.WellFormed)
    (hmir : Mirrors [] d) (hc : d.configured.contains g.inst = true)
    (hok : d.addGroup g = .ok d') {op : Operation} (hop : op.entry = .nextHopGroup g)
    (hdone : d.apply op = .ok d') (hrev : ¬ Revives n p d op) : Resolved n p d' := by
  obtain ⟨hne, hm, ids, heq, hcases⟩ := addGroup_ok hok
  have hw' := hw.setAft ((hw.tables g.inst).insertGroup rfl hne hm) hc
  by_cases hnew : ∃ e, (d.aftOf g.inst).groups.get? g.id = none ∧
      (d.aftOf n).ipv4.get? p = some e ∧ e.groupHome = g.inst ∧ e.group = g.id
  · obtain ⟨e, hnone, he, hhome, hid⟩ := hnew
    obtain rfl := addGroup_of_absent hok hnone
    refine of_follows hmir hw' he hhome hid fun i r hi hr => ?_
    exact Classical.byContradiction fun hf =>
      hrev ⟨⟨_, hdone⟩, g, e, i, r, hop, hnone, he, hhome, hid, hi, hr, hf⟩
  · rw [heq]
    refine h.refresh hw' rfl _ fun e he hst => entryRoute?_storeGroup hcases hst fun hhome hid => ?_
    cases hheld : (d.aftOf g.inst).groups.contains g.id with
    | true => rfl
    | false => exact absurd ⟨e, Table.contains_eq_false_iff.1 hheld, he, hhome, hid⟩ hnew

/-- Other entries for destinations in one network instance, with the route of the one in question
as it should be. -/
theorem setIpv4 (h : Resolved n p d) {inst : String} {ipv4 : Table Network Ipv4Entry}
    {f : Rib → Rib × Bool}
    (hat : ∀ e r rib, inst = n → ipv4.get? p = some e → d.entryRoute? e = some r →
      (d.aftOf inst).ipv4.get? p = some e ∧ (f rib).1.live? p .gribi = rib.live? p .gribi ∨
        (f rib).1.live? p .gribi = some r) :
    Resolved n p ((d.setAft inst { d.aftOf inst with ipv4 }).changeRib inst f) := by
  intro e r j he hr hj
  rw [entryRoute?_changeRib, entryRoute?_setIpv4] at hr
  rw [aftOf_changeRib, aftOf_setAft] at he
  rw [get?_changeRib, instances_setAft] at hj
  by_cases hn : inst = n
  · rw [if_pos hn] at he hj
    obtain ⟨i, hi, rfl⟩ := Option.map_eq_some_iff.1 hj
    obtain ⟨hold, hlive⟩ | hlive := hat e r i.rib hn he hr
    · rw [hn] at hold
      exact hlive.trans (h e r i hold hr hi)
    · exact hlive
  · rw [if_neg hn] at he hj
    exact h e r j he hr hj

theorem addIpv4 {e : Ipv4Entry} (h : Resolved n p d) (hw : d.WellFormed)
    (hok : d.addIpv4 e = .ok d') : Resolved n p d' := by
  obtain ⟨-, -, route, hroute, rfl⟩ := addIpv4_ok hok
  obtain ⟨hplain, hkept, -⟩ := hw.entryRoute?_shape hroute
  refine h.setIpv4 fun x r rib _ hx hr => ?_
  rw [Rib.live?_install _ _ _ _ _ hkept, hplain]
  rw [Table.get?_insert] at hx
  split at hx
  · next hd =>
    cases hx
    rw [hroute] at hr
    exact .inr (by rw [if_pos ⟨hd, rfl⟩, hr])
  · next hd => exact .inl ⟨hx, by rw [if_neg (by simp [hd])]⟩

theorem deleteIpv4 {e : Ipv4Entry} (h : Resolved n p d) (hok : d.deleteIpv4 e = .ok d') :
    Resolved n p d' := by
  obtain rfl := deleteIpv4_ok hok
  refine h.setIpv4 fun x r rib _ hx _ => ?_
  rw [Table.get?_erase] at hx
  split at hx
  · cases hx
  · next hd => exact .inl ⟨hx, by rw [Rib.live?_withdraw, if_neg (by simp [hd])]⟩

/-- **One operation** keeps the route of an entry current unless it revives the entry's group. -/
theorem apply {op : Operation} (h : Resolved n p d) (hw : d.WellFormed) (hmir : Mirrors [] d)
    (hok : d.apply op = .ok d') (hrev : ¬ Revives n p d op) : Resolved n p d' := by
  have hw' := hw.apply hok
  obtain ⟨hinst, ⟨nh, he, hadd | hdel⟩ | ⟨g, he, hadd | hdel⟩ | ⟨e, he, hadd | hdel⟩⟩ :=
    apply_ok hok <;> rw [he, ← contains_configured] at hinst
  · exact h.addNextHop hw hinst hadd
  · exact h.deleteNextHop hw hinst hdel
  · exact h.addGroup hw hmir hinst hadd he hok hrev
  · exact h.deleteGroup hw' hdel
  · exact h.addIpv4 hw hadd
  · exact h.deleteIpv4 hdel

/-! ### Other changes -/

/-- Forgetting the entries of a network instance leaves those of others as they are, or without
their group. -/
theorem forget (h : Resolved n p d) {name : String}
    (ha : ∀ x, d'.aftOf x = if name = x then {} else d.aftOf x)
    (hi : name ≠ n → d'.instances.get? n = d.instances.get? n) : Resolved n p d' := by
  refine h.mono (fun e r he hr => ?_) fun e j he hj => ?_
  · rw [ha] at he
    split at he
    · cases he
    · refine ⟨he, ?_⟩
      by_cases hhome : name = e.groupHome
      · obtain ⟨g, -, hg, -⟩ := entryRoute?_eq_some_iff.1 hr
        rw [ha, if_pos hhome] at hg
        cases hg
      · have hof : d'.aftOf e.groupHome = d.aftOf e.groupHome := by rw [ha, if_neg hhome]
        rwa [entryRoute?_congr hof] at hr
  · rw [ha] at he
    split at he
    · cases he
    · next hn => exact ⟨j, hi hn ▸ hj, rfl⟩

theorem flushInstance (h : Resolved n p d) (inst : String) :
    Resolved n p (d.flushInstance inst) := by
  refine h.forget (aftOf_flushInstance d inst) fun hn => ?_
  rw [get?_flushInstance, if_neg hn]

theorem deleteInstance {name : String} (h : Resolved n p d)
    (hok : d.deleteInstance name = .ok d') : Resolved n p d' := by
  obtain rfl := deleteInstance_ok hok
  refine h.forget (aftOf_forgetAft (d.dropInstance name) name) fun hn => ?_
  rw [instances_forgetAft, get?_dropInstance, if_neg hn]

theorem replaceInstance {cfg : InstanceConfig} (h : Resolved n p d) (hw : d.WellFormed)
    (hok : d.replaceInstance cfg = .ok d') : Resolved n p d' := by
  obtain ⟨-, i, rfl, hi⟩ := replaceInstance_ok hok
  refine h.of_aft rfl fun e j he hj => ?_
  rw [get?_setInstance] at hj
  split at hj
  · next hn =>
    cases hj
    subst hn
    -- a network instance with entries isn't new
    obtain ⟨i', hi'⟩ := hw.instance_of_entry he
    obtain hi | ⟨hnone, -⟩ := hi
    · exact ⟨i, hi, rfl⟩
    · rw [hnone] at hi'
      cases hi'
  · exact ⟨j, hj, rfl⟩

theorem replaceStatic {cfg : StaticRoute} (h : Resolved n p d)
    (hok : d.replaceStatic cfg = .ok d') : Resolved n p d' := by
  obtain ⟨i, hi, ⟨-, rfl⟩ | rfl⟩ := replaceStatic_ok hok
  · exact h
  · refine (h.setStatics hi _).changeRib fun rib _ => ?_
    rw [Rib.live?_install _ _ _ _ _ rfl, if_neg (by simp)]

theorem deleteStatic {inst : String} {dest : Network} (h : Resolved n p d)
    (hok : d.deleteStatic inst dest = .ok d') : Resolved n p d' := by
  obtain ⟨i, hi, ⟨-, rfl⟩ | rfl⟩ := deleteStatic_ok hok
  · exact h
  · refine (h.setStatics hi _).changeRib fun rib _ => ?_
    rw [Rib.live?_withdraw, if_neg (by simp)]

/-- Changes of all routing tables that leave the routes as they are. -/
theorem mapRibs (h : Resolved n p d) {f : Rib → Rib} (ha : d'.aft = d.aft)
    (hi : d'.instances = d.instances.mapValues fun _ i => { i with rib := f i.rib })
    (hf : ∀ rib, (f rib).live? p .gribi = rib.live? p .gribi) : Resolved n p d' := by
  refine h.of_aft ha fun e j _ hj => ?_
  rw [hi, Table.get?_mapValues] at hj
  obtain ⟨i, hni, rfl⟩ := Option.map_eq_some_iff.1 hj
  exact ⟨i, hni, hf i.rib⟩

theorem congr (h : Resolved n p d) (hs : SameRouting d d') : Resolved n p d' :=
  h.of_aft hs.aft fun _ j _ hj => ⟨j, hs.instances ▸ hj, rfl⟩

end Resolved

/-! ### Events -/

/-- The invariants that a current route rests on, with a current route. -/
structure Tracked (n : String) (p : Network) (d : Device) : Prop where
  wellFormed : d.WellFormed
  mirrors : Mirrors [] d
  resolved : Resolved n p d

namespace Tracked

theorem congr (h : Tracked n p d) (hs : SameRouting d d') : Tracked n p d' where
  wellFormed := kept_mirrors.same ⟨h.wellFormed, h.mirrors⟩ hs |>.1
  mirrors := kept_mirrors.same ⟨h.wellFormed, h.mirrors⟩ hs |>.2
  resolved := h.resolved.congr hs

theorem routine : Routine (Tracked n p) where
  same h hs := h.congr hs.toSameRouting
  configureDut h hok := by
    refine ⟨h.wellFormed.configureDut hok, h.mirrors.configureDut hok, ?_⟩
    obtain rfl | rfl := configureDut_ok hok
    · exact h.resolved
    · exact h.resolved.mapRibs rfl rfl fun rib => Rib.live?_requeueAll rib _ _
  replaceInstance h hok := ⟨h.wellFormed.replaceInstance hok,
    h.mirrors.replaceInstance h.wellFormed hok, h.resolved.replaceInstance h.wellFormed hok⟩
  replaceStatic h hok :=
    ⟨h.wellFormed.replaceStatic hok, h.mirrors.replaceStatic hok, h.resolved.replaceStatic hok⟩
  deleteStatic h hok :=
    ⟨h.wellFormed.deleteStatic hok, h.mirrors.deleteStatic hok, h.resolved.deleteStatic hok⟩

theorem flushInstance (h : Tracked n p d) (inst : String) : Tracked n p (d.flushInstance inst) :=
  ⟨h.wellFormed.flushInstance inst, h.mirrors.flushInstance inst, h.resolved.flushInstance inst⟩

theorem settleRoutes (h : Tracked n p d) : Tracked n p d.settleRoutes where
  wellFormed := h.wellFormed.settleRoutes
  mirrors := h.mirrors.settleRoutes
  resolved := h.resolved.mapRibs rfl rfl fun rib => Rib.live?_settle _ _ rib _ _

/-- Operations of the primary session, none of which revives the group. -/
theorem performAll (h : Tracked n p d) {ops : List Operation}
    (hrev : ∀ x ∈ d.found ops, ¬ Revives n p x.1 x.2) :
    Tracked n p (d.performAll true ops).1 := by
  induction ops generalizing d with
  | nil => exact h
  | cons op ops ih =>
    refine ih ?_ fun x hx => hrev x (List.mem_cons_of_mem _ hx)
    show Tracked n p (d.perform true op).1
    unfold Device.perform
    split
    · next d' hok =>
      have hop := hrev (d, op) List.mem_cons_self
      exact ⟨h.wellFormed.apply hok, h.mirrors.apply h.wellFormed hok,
        h.resolved.apply h.wellFormed h.mirrors hok hop⟩
    · exact h

/-- Operations of a session, of which only those of the primary one are carried out. -/
theorem submit (h : Tracked n p d) {ticket client : Nat} {ops : List Operation}
    (hrev : ∀ x ∈ d.carriedOut (.serve ticket (.modify client ops)), ¬ Revives n p x.1 x.2) :
    Tracked n p (d.submit ticket client ops).1 := by
  have hops : Tracked n p (d.performAll (d.isPrimary client) ops).1 := by
    cases hp : d.isPrimary client with
    | true => exact h.performAll (by simpa only [carriedOut, hp, if_true] using hrev)
    | false => exact (d.performAll_false ops).symm ▸ h
  obtain heq | hs := d.submit_cases ticket client ops
  · exact heq.symm ▸ h
  · exact hops.congr hs

/-- **One event** keeps the route of an entry current unless one of its operations revives the
entry's group. -/
theorem step (h : Tracked n p d) {ev : Event}
    (hrev : ∀ x ∈ d.carriedOut ev, ¬ Revives n p x.1 x.2) : Tracked n p (d.step ev) := by
  cases ev with
  | process => exact h.settleRoutes.congr ⟨rfl, rfl, rfl, rfl⟩
  | serve ticket r =>
    cases r with
    | modify client ops => exact h.submit hrev
    | deleteInstance name =>
      exact settled_of_ok (fun _ hok => ⟨h.wellFormed.deleteInstance hok,
        h.mirrors.deleteInstance hok, h.resolved.deleteInstance hok⟩) h
    | flush client inst =>
      refine settled_of_ok (fun d' hok => ?_) h
      obtain ⟨-, -, rfl⟩ := flush_ok hok
      exact h.flushInstance inst
    | close client =>
      refine settled_of_ok (fun d' hok => ?_) h
      have hc : Tracked n p { d with sessions := d.sessions.erase client } :=
        h.congr ⟨rfl, rfl, rfl, rfl⟩
      obtain rfl | rfl := close_cases hok
      · exact hc
      · exact foldl_flushInstance (fun h => h.flushInstance _) _ hc
    | _ => exact routine.serve ticket rfl h

theorem after (h : Tracked n p d) {l : List Event}
    (hrev : ∀ x ∈ d.carriedOutIn l, ¬ Revives n p x.1 x.2) : Tracked n p (d.after l) := by
  induction l generalizing d with
  | nil => exact h
  | cons ev l ih =>
    have hev := h.step fun x hx => hrev x (List.mem_append_left _ hx)
    exact ih hev fun x hx => hrev x (List.mem_append_right _ hx)

end Tracked

/-! ### Histories -/

/-- The entry for a destination and its route after a change of both. -/
theorem resolved_setIpv4_self {inst : String} {ipv4 : Table Network Ipv4Entry}
    {f : Rib → Rib × Bool} (hat : ∀ e r rib, ipv4.get? p = some e → d.entryRoute? e = some r →
      (f rib).1.live? p .gribi = some r) :
    Resolved inst p ((d.setAft inst { d.aftOf inst with ipv4 }).changeRib inst f) := by
  intro e r j he hr hj
  rw [entryRoute?_changeRib, entryRoute?_setIpv4] at hr
  rw [aftOf_changeRib, aftOf_setAft_self] at he
  rw [get?_changeRib, if_pos rfl] at hj
  obtain ⟨i, -, rfl⟩ := Option.map_eq_some_iff.1 hj
  exact hat e r i.rib he hr

/-- An operation on the entry itself puts its route in place. -/
theorem WellFormed.resolved_of_ipv4 (hw : d.WellFormed) {op : Operation} {e : Ipv4Entry}
    (hop : op.entry = .ipv4 e) (hok : d.apply op = .ok d') : Resolved e.inst e.dest d' := by
  obtain ⟨-, ⟨nh, he, -⟩ | ⟨g, he, -⟩ | ⟨x, he, hadd | hdel⟩⟩ := apply_ok hok <;>
    rw [hop] at he <;> cases he
  · obtain ⟨-, -, route, hroute, rfl⟩ := addIpv4_ok hadd
    obtain ⟨hplain, hkept, -⟩ := hw.entryRoute?_shape hroute
    refine resolved_setIpv4_self fun x r rib hx hr => ?_
    rw [Table.get?_insert_self] at hx
    cases hx
    rw [Rib.live?_install _ _ _ _ _ hkept, if_pos ⟨rfl, rfl⟩, hplain, ← hroute, hr]
  · obtain rfl := deleteIpv4_ok hdel
    refine resolved_setIpv4_self fun x r rib hx _ => ?_
    rw [Table.get?_erase_self] at hx
    cases hx

/-- An operation that revives the group of an entry leaves the entry's route as it was. -/
theorem Revives.not_current {op : Operation} (hrev : Revives n p d op)
    (hok : d.apply op = .ok d') : ¬ d'.RouteCurrent n p := by
  obtain ⟨-, g, e, i, r, hop, hnone, he, hhome, hid, hi, hr, hf⟩ := hrev
  obtain ⟨-, ⟨nh, hx, -⟩ | ⟨x, hx, hadd | hdel⟩ | ⟨x, hx, -⟩⟩ := apply_ok hok <;>
    rw [hop] at hx <;> cases hx
  · obtain ⟨-, hm, -⟩ := addGroup_ok hadd
    obtain rfl := addGroup_of_absent hadd hnone
    intro hc
    obtain ⟨i', r', hi', hr', -, -, hf'⟩ := hc e g
      (by rw [ipv4_aftOf_setAft (by rfl), he])
      (by rw [hhome, aftOf_setAft_self, hid, Table.get?_insert_self])
      (by rw [hhome, aftOf_setAft_self]; exact hm)
    rw [instances_setAft, hi] at hi'
    cases hi'
    rw [hr] at hr'
    cases hr'
    rw [hhome, aftOf_setAft_self] at hf'
    exact hf hf'
  · -- the entry is a user of the group, so deleting the group is refused
    obtain ⟨hno, -⟩ := deleteGroup_ok hdel
    have hmem : e ∈ d.usersOf g.inst g.id :=
      mem_usersOf_iff.2 ⟨mem_ipv4Entries_iff.2 ⟨n, p, he⟩, hid, hhome⟩
    rw [hno] at hmem
    cases hmem

/-- Only an entry whose group was taken away from it can have its group revived. -/
theorem ReferenceIntact.not_revives (hi : d.ReferenceIntact n p) (hw : d.WellFormed)
    (op : Operation) : ¬ Revives n p d op := by
  rintro ⟨-, g, e, i, r, -, hnone, he, hhome, hid, -⟩
  rw [← hhome, ← hid] at hnone
  by_cases hlocal : e.groupHome = n
  · have hin := (hw.tables n).localGroup p e he hlocal
    rw [Table.contains, ← hlocal, hnone] at hin
    cases hin
  · obtain ⟨-, g', hg', -⟩ := hi e he hlocal
    rw [hnone] at hg'
    cases hg'

/-- **A route follows the entry's group, wherever that lives, unless the group was programmed
anew.**  An operation on an entry leaves it with a current route.  From any reachable device in
which the route for a destination is current, it is current after every history in which no
operation of the primary session programs the entry's group anew with other next-hops than the
route has, and such an operation leaves it with a route that isn't current.  Weights are added up
as numbers; with words of 64 bits all sums of an address have to stay below 2⁶⁴, and then they are
the same (`memberHopsWord?_eq`). -/
theorem route_current_unless_revived (hd : Reachable settings d) :
    (∀ op e d', op.entry = .ipv4 e → d.apply op = .ok d' → d'.RouteCurrent e.inst e.dest) ∧
    (∀ n p h, d.RouteCurrent n p → (∀ x ∈ d.carriedOutIn h, ¬ Revives n p x.1 x.2) →
      (d.after h).RouteCurrent n p) ∧
    ∀ n p op d', Revives n p d op → d.apply op = .ok d' → ¬ d'.RouteCurrent n p := by
  have hw := hd.wellFormed
  have hmir := hd.mirrors
  refine ⟨fun op e d' hop hok => ?_, fun n p h hc hrev => ?_, fun n p op d' hrev hok => ?_⟩
  · exact ((hw.apply hok).routeCurrent_iff (hmir.apply hw hok)).2 (hw.resolved_of_ipv4 hop hok)
  · have ht : Tracked n p d := ⟨hw, hmir, (hw.routeCurrent_iff hmir).1 hc⟩
    have hafter := ht.after hrev
    exact (hafter.wellFormed.routeCurrent_iff hafter.mirrors).2 hafter.resolved
  · exact hrev.not_current hok

/-- A change of the group's member is followed by the route of the entry. -/
theorem route_current_unless_revived_crossed :
    (crossed.after [.serve 0 (.modify 1
      [⟨4, .replace, .nextHop ⟨1, .ofOctets 10 0 0 1, homeName⟩⟩])]).RouteCurrent
        defaultInstanceName crossedDest := by
  obtain ⟨-, hkept, -⟩ := route_current_unless_revived reachable_crossed
  refine hkept _ _ _ ?_ fun x hx => ?_
  · rw [reachable_crossed.wellFormed.routeCurrent_iff reachable_crossed.mirrors]
    intro e r i he hr hi
    have hlive : (crossed.instances.get? defaultInstanceName).map (·.rib.live? crossedDest .gribi) =
      some (crossed.entryRoute? crossedEntry) := by decide +kernel
    rw [crossed_entry] at he
    cases he
    rw [hi, hr] at hlive
    exact Option.some.inj hlive
  · -- the only operation is one on a next-hop
    have hprimary : crossed.isPrimary 1 = true := by decide +kernel
    simp only [carriedOutIn, carriedOut, hprimary, if_true, found, List.append_nil,
      List.mem_singleton] at hx
    rintro ⟨-, g, e, i, r, hop, -⟩
    rw [hx] at hop
    cases hop

/-- The testbed of `crossed` after the group's network instance was flushed, and the group and its
next-hop were programmed anew, the latter with another address. -/
def revived : Device := crossed.serveAll [
  .flush 1 homeName,
  .modify 1 [
    ⟨4, .add, .nextHop ⟨1, .ofOctets 10 0 0 1, homeName⟩⟩,
    ⟨5, .add, .nextHopGroup ⟨1, .ofList [(1, 1)], homeName⟩⟩]]

/-- **The route of an entry can keep the next-hops of a group that is gone**, although the group
and its member are programmed. -/
theorem revived_group_leaves_stale_route :
    Reachable .standard revived ∧ ¬ revived.RouteCurrent defaultInstanceName crossedDest := by
  have hreach : Reachable .standard revived := reachable_crossed.serveAll _
  refine ⟨hreach, fun hc => ?_⟩
  have he : (revived.aftOf defaultInstanceName).ipv4.get? crossedDest = some crossedEntry := by
    decide +kernel
  have hg : (revived.aftOf homeName).groups.get? 1 = some ⟨1, .ofList [(1, 1)], homeName⟩ := by
    decide +kernel
  obtain ⟨i, r, hi, hr, -, -, hf⟩ :=
    hc _ _ he hg fun m => (hreach.wellFormed.tables homeName).member _ _ m hg
  have hold : ((revived.instances.get? defaultInstanceName).bind
      (·.rib.route? crossedDest .gribi)).map (·.hops.get? (.ofOctets 10 0 0 1)) = some none := by
    decide +kernel
  have hnew : shares (revived.aftOf homeName).nextHops
    (Table.ofList [(1, 1)] : Table Nat Nat).entries (.ofOctets 10 0 0 1) = [1] := by
    decide +kernel
  rw [hi, Option.bind_some, hr, Option.map_some, Option.some.injEq] at hold
  have hnow := hf (.ofOctets 10 0 0 1)
  rw [hold] at hnow
  have hhome : crossedEntry.groupHome = homeName := rfl
  rw [hhome, hnew] at hnow
  cases hnow

end Device

end RoutePreference
