import RoutePreference.Proofs.Device.WellFormed
import RoutePreference.Proofs.Rib.Live

/-!
# Routes mirror the configuration

* `Device.MirrorsAt`: the routes of a network instance that aren't withdrawn are those of its
  configured routes and programmed entries; entries on a list of stale ones may have old
  next-hops;
* `Device.Mirrors`: the same for every network instance;
* `Mirrors.reroute`: re-resolving an entry takes it off the list;
* `Reachable.mirrors`: in every reachable device the list is empty.

A next-hop or group that changes makes the entries stale that resolve through it, and these are
the ones that get re-resolved.  Entries whose group lives in another network instance are promised
their tag and group only.
-/

namespace RoutePreference

namespace Device

variable {d d' : Device}

/-! ### Entries of well-formed devices -/

/-- If its group is there, an entry has a route: the members are there with the group. -/
theorem WellFormed.entryRoute?_of_group (h : d.WellFormed) {e : Ipv4Entry}
    (hg : (d.aftOf e.groupHome).groups.contains e.group = true) :
    ∃ r, d.entryRoute? e = some r := by
  obtain ⟨g, hg⟩ := Table.contains_iff.1 hg
  obtain ⟨hops, hh⟩ :
      ∃ hops, memberHops? (d.aftOf e.groupHome).nextHops g.members.entries = some hops := by
    refine memberHops?_isSome fun m hm => (h.tables e.groupHome).member _ g m.1 hg ?_
    exact Table.contains_of_get? (Table.get?_of_mem_entries hm)
  exact ⟨_, entryRoute?_eq_some_iff.2 ⟨g, hops, hg, hh, rfl⟩⟩

/-- An entry whose group lives in its own network instance has a route. -/
theorem WellFormed.entryRoute?_local (h : d.WellFormed) {n : String} {p : Network} {e : Ipv4Entry}
    (he : (d.aftOf n).ipv4.get? p = some e) (hl : e.groupHome = n) :
    ∃ r, d.entryRoute? e = some r := by
  refine h.entryRoute?_of_group ?_
  rw [hl]
  exact (h.tables n).localGroup p e he hl

/-- The route of an entry carries the entry's tag and group. -/
theorem WellFormed.entryRoute?_shape (h : d.WellFormed) {e : Ipv4Entry} {r : Route}
    (hr : d.entryRoute? e = some r) :
    r.plain = r ∧ r.removed = false ∧
      r = { tag := e.tag, group := some e.group, hops := r.hops } := by
  obtain ⟨g, hops, hg, -, rfl⟩ := entryRoute?_eq_some_iff.1 hr
  obtain ⟨hid, -, -⟩ := (h.tables e.groupHome).group _ g hg
  exact ⟨rfl, rfl, by rw [hid]⟩

/-- An entry stands under its own destination in its own network instance. -/
theorem WellFormed.entry_place (h : d.WellFormed) {n : String} {p : Network} {e : Ipv4Entry}
    (he : (d.aftOf n).ipv4.get? p = some e) : e.dest = p ∧ e.inst = n :=
  ⟨((h.tables n).entry p e he).1, ((h.tables n).entry p e he).2.1⟩

theorem WellFormed.get?_of_mem (h : d.WellFormed) {e : Ipv4Entry} (he : e ∈ d.ipv4Entries) :
    (d.aftOf e.inst).ipv4.get? e.dest = some e := by
  obtain ⟨n, p, hp⟩ := mem_ipv4Entries_iff.1 he
  obtain ⟨hd, hi⟩ := h.entry_place hp
  rw [hd, hi, hp]

/-! ### The invariant -/

/-- Whether the routes of a network instance are those of its configuration, next-hops of stale
entries apart. -/
structure MirrorsAt (d : Device) (stale : List Ipv4Entry) (n : String) (i : Instance) : Prop where
  static : ∀ p, i.rib.live? p .static = (i.statics.get? p).map StaticRoute.route
  absent : ∀ p, (d.aftOf n).ipv4.get? p = none → i.rib.live? p .gribi = none
  present : ∀ p e, (d.aftOf n).ipv4.get? p = some e →
    ∃ hops, i.rib.live? p .gribi = some { tag := e.tag, group := some e.group, hops }
  current : ∀ p e, (d.aftOf n).ipv4.get? p = some e → e.groupHome = n → e ∉ stale →
    i.rib.live? p .gribi = d.entryRoute? e

/-- Whether the routes of every network instance are those of its configuration. -/
def Mirrors (stale : List Ipv4Entry) (d : Device) : Prop :=
  ∀ n i, d.instances.get? n = some i → d.MirrorsAt stale n i

variable {stale : List Ipv4Entry}

/-- A network instance with the same routes and configured routes, among the same entries. -/
theorem MirrorsAt.congr {n : String} {i i' : Instance} (h : d.MirrorsAt stale n i)
    (ha : d'.aftOf n = d.aftOf n) (hs : i'.statics = i.statics)
    (hl : ∀ p c, i'.rib.live? p c = i.rib.live? p c) : d'.MirrorsAt stale n i' := by
  refine ⟨fun p => ?_, fun p hp => ?_, fun p e he => ?_, fun p e he hg hst => ?_⟩
  · rw [hl, hs, h.static]
  · rw [ha] at hp
    rw [hl, h.absent p hp]
  · rw [ha] at he
    rw [hl]
    exact h.present p e he
  · rw [ha] at he
    have hd : d'.aftOf e.groupHome = d.aftOf e.groupHome := by rw [hg, ha]
    rw [hl, entryRoute?_congr hd, h.current p e he hg hst]

/-- Changes of routing tables that leave the routes as they are. -/
theorem Mirrors.mapRibs (h : Mirrors stale d) {f : Rib → Rib} (ha : d'.aft = d.aft)
    (hi : d'.instances = d.instances.mapValues fun _ i => { i with rib := f i.rib })
    (hf : ∀ rib p c, (f rib).live? p c = rib.live? p c) : Mirrors stale d' := by
  intro n j hj
  rw [hi, Table.get?_mapValues] at hj
  obtain ⟨i, hni, rfl⟩ := Option.map_eq_some_iff.1 hj
  exact (h n i hni).congr (by rw [aftOf, ha, aftOf]) rfl fun p c => hf i.rib p c

/-! ### Next-hops and groups -/

/-- Other next-hops and groups in a network instance, as long as the routes of its entries stay or
the entries count as stale. -/
theorem Mirrors.setAft (h : Mirrors [] d) {inst : String} {t : AftTables}
    (ht : t.ipv4 = (d.aftOf inst).ipv4)
    (hr : ∀ p e, (d.aftOf inst).ipv4.get? p = some e → e.groupHome = inst → e ∉ stale →
      (d.setAft inst t).entryRoute? e = d.entryRoute? e) :
    Mirrors stale (d.setAft inst t) := by
  intro n i hi
  have hn := h n i hi
  by_cases heq : inst = n
  · subst heq
    have hipv4 : ((d.setAft inst t).aftOf inst).ipv4 = (d.aftOf inst).ipv4 := by
      rw [aftOf_setAft_self, ht]
    refine ⟨hn.static, fun p hp => ?_, fun p e he => ?_, fun p e he hg hst => ?_⟩
    · rw [hipv4] at hp
      exact hn.absent p hp
    · rw [hipv4] at he
      exact hn.present p e he
    · rw [hipv4] at he
      rw [hr p e he hg hst, hn.current p e he hg List.not_mem_nil]
  · have hof := aftOf_setAft_of_ne d t heq
    refine ⟨hn.static, fun p hp => ?_, fun p e he => ?_, fun p e he hg hst => ?_⟩
    · rw [hof] at hp
      exact hn.absent p hp
    · rw [hof] at he
      exact hn.present p e he
    · rw [hof] at he
      rw [hn.current p e he hg List.not_mem_nil]
      exact (entryRoute?_congr (by rw [hg, hof])).symm

/-- Re-resolving an entry makes its current route, if it has one, the live one. -/
theorem WellFormed.live?_reroute (hw : d.WellFormed) (e : Ipv4Entry) {n : String} {j : Instance}
    (hj : (d.reroute e).instances.get? n = some j) :
    ∃ i, d.instances.get? n = some i ∧ j.statics = i.statics ∧ ∀ q c, j.rib.live? q c =
      if e.inst = n ∧ e.dest = q ∧ .gribi = c then (d.entryRoute? e).or (i.rib.live? q c)
      else i.rib.live? q c := by
  rw [get?_reroute] at hj
  split at hj
  · next hin =>
    obtain ⟨i, hi, rfl⟩ := Option.map_eq_some_iff.1 hj
    refine ⟨i, hi, rfl, fun q c => ?_⟩
    cases hr : d.entryRoute? e with
    | none => simp
    | some r =>
      obtain ⟨hplain, hkept, -⟩ := hw.entryRoute?_shape hr
      simp only [Option.map_some, Option.getD_some, Option.some_or, hin, true_and]
      rw [Rib.live?_install _ _ _ _ _ hkept, hplain]
  · next hin => exact ⟨j, hj, rfl, fun q c => by simp [hin]⟩

/-- Re-resolving a programmed entry takes it off the list of stale ones. -/
theorem Mirrors.reroute {e : Ipv4Entry} (hw : d.WellFormed) (h : Mirrors (e :: stale) d)
    (he : e ∈ d.ipv4Entries) : Mirrors stale (d.reroute e) := by
  have hplace := hw.get?_of_mem he
  have hof : ∀ n, (d.reroute e).aftOf n = d.aftOf n := fun n => by rw [aftOf, aft_reroute, aftOf]
  intro n j hj
  obtain ⟨i, hi, hstatics, hlive⟩ := hw.live?_reroute e hj
  have hn := h n i hi
  refine ⟨fun p => ?_, fun p hp => ?_, fun p x hx => ?_, fun p x hx hg hst => ?_⟩
  · rw [hlive, hstatics, if_neg (by simp), hn.static]
  · rw [hof] at hp
    rw [hlive, hn.absent p hp, if_neg]
    rintro ⟨rfl, rfl, -⟩
    rw [hplace] at hp
    cases hp
  · rw [hof] at hx
    rw [hlive]
    split
    · next hd =>
      -- the entry in question: its new route, or the old one if it has none now
      obtain ⟨rfl, rfl, -⟩ := hd
      obtain ⟨hops, hold⟩ := hn.present _ x hx
      rw [hplace] at hx
      cases hx
      cases hr : d.entryRoute? e with
      | none => exact ⟨hops, by rw [Option.none_or, hold]⟩
      | some r => exact ⟨r.hops, congrArg some (hw.entryRoute?_shape hr).2.2⟩
    · exact hn.present p x hx
  · rw [hof] at hx
    rw [hlive, entryRoute?_congr (hof x.groupHome)]
    split
    · next hd =>
      obtain ⟨rfl, rfl, -⟩ := hd
      obtain ⟨r, hr⟩ := hw.entryRoute?_local hx hg
      rw [hplace] at hx
      cases hx
      rw [hr, Option.some_or]
    · next hd =>
      have hxe : x ≠ e := by
        rintro rfl
        obtain ⟨hdest, hinst⟩ := hw.entry_place hx
        exact hd ⟨hinst, hdest, rfl⟩
      exact hn.current p x hx hg (by simp [hxe, hst])

/-- Re-resolving all stale entries leaves none. -/
theorem Mirrors.foldl_reroute (hw : d.WellFormed) (h : Mirrors stale d)
    (hmem : ∀ e ∈ stale, e ∈ d.ipv4Entries) : Mirrors [] (stale.foldl Device.reroute d) := by
  induction stale generalizing d with
  | nil => exact h
  | cons e l ih =>
    refine ih (hw.congr (aft_reroute d e) (configured_reroute d e))
      (h.reroute hw (hmem e List.mem_cons_self)) fun x hx => ?_
    rw [ipv4Entries, aft_reroute]
    exact hmem x (List.mem_cons_of_mem _ hx)

/-! ### IPv4 entries and configured routes -/

/-- A change that concerns one network instance has to be looked at there only. -/
theorem Mirrors.of_off (h : Mirrors [] d) (inst : String)
    (hoff : ∀ n, n ≠ inst → d'.aftOf n = d.aftOf n ∧ d'.instances.get? n = d.instances.get? n)
    (hat : ∀ j, d'.instances.get? inst = some j → d'.MirrorsAt [] inst j) : Mirrors [] d' := by
  intro n j hj
  by_cases hn : n = inst
  · subst hn
    exact hat j hj
  · obtain ⟨ha, hi⟩ := hoff n hn
    rw [hi] at hj
    exact (h n j hj).congr ha rfl fun _ _ => rfl

/-- The network instances apart from the named one are as they were after a change of its entries
and routes. -/
theorem off_setAft_changeRib (d : Device) (inst : String) (t : AftTables)
    (f : Rib → Rib × Bool) (n : String) (hn : n ≠ inst) :
    ((d.setAft inst t).changeRib inst f).aftOf n = d.aftOf n ∧
      ((d.setAft inst t).changeRib inst f).instances.get? n = d.instances.get? n := by
  rw [aftOf_changeRib, aftOf_setAft_of_ne d t hn.symm, get?_changeRib, if_neg hn.symm]
  exact ⟨rfl, rfl⟩

theorem Mirrors.addIpv4 {e : Ipv4Entry} (hw : d.WellFormed) (h : Mirrors [] d)
    (hok : d.addIpv4 e = .ok d') : Mirrors [] d' := by
  obtain ⟨-, -, route, hr, rfl⟩ := addIpv4_ok hok
  obtain ⟨hplain, hkept, hshape⟩ := hw.entryRoute?_shape hr
  refine h.of_off e.inst (off_setAft_changeRib d e.inst _ _) fun j hj => ?_
  rw [get?_changeRib, if_pos rfl, instances_setAft] at hj
  obtain ⟨i, hi, rfl⟩ := Option.map_eq_some_iff.1 hj
  have hn := h _ i hi
  have hlive : ∀ q c, (i.rib.install e.dest .gribi route).1.live? q c =
      if e.dest = q ∧ .gribi = c then some route else i.rib.live? q c := by
    intro q c
    rw [Rib.live?_install _ _ _ _ _ hkept, hplain]
  refine ⟨fun p => ?_, fun p hp => ?_, fun p x hx => ?_, fun p x hx hg _ => ?_⟩
  · rw [hlive, if_neg (by simp), hn.static]
  · rw [aftOf_changeRib, aftOf_setAft_self, Table.get?_insert] at hp
    split at hp
    · cases hp
    · next hd => rw [hlive, if_neg (by simp [hd]), hn.absent p hp]
  · rw [aftOf_changeRib, aftOf_setAft_self, Table.get?_insert] at hx
    rw [hlive]
    split at hx
    · next hd =>
      cases hx
      exact ⟨route.hops, by rw [if_pos ⟨hd, rfl⟩, ← hshape]⟩
    · next hd =>
      rw [if_neg (by simp [hd])]
      exact hn.present p x hx
  · rw [aftOf_changeRib, aftOf_setAft_self, Table.get?_insert] at hx
    rw [entryRoute?_changeRib, entryRoute?_setIpv4, hlive]
    split at hx
    · next hd =>
      cases hx
      rw [if_pos ⟨hd, rfl⟩, hr]
    · next hd =>
      rw [if_neg (by simp [hd])]
      exact hn.current p x hx hg List.not_mem_nil

theorem Mirrors.deleteIpv4 {e : Ipv4Entry} (h : Mirrors [] d) (hok : d.deleteIpv4 e = .ok d') :
    Mirrors [] d' := by
  obtain rfl := deleteIpv4_ok hok
  refine h.of_off e.inst (off_setAft_changeRib d e.inst _ _) fun j hj => ?_
  rw [get?_changeRib, if_pos rfl, instances_setAft] at hj
  obtain ⟨i, hi, rfl⟩ := Option.map_eq_some_iff.1 hj
  have hn := h _ i hi
  refine ⟨fun p => ?_, fun p hp => ?_, fun p x hx => ?_, fun p x hx hg _ => ?_⟩
  · rw [Rib.live?_withdraw, if_neg (by simp), hn.static]
  · rw [aftOf_changeRib, aftOf_setAft_self, Table.get?_erase] at hp
    rw [Rib.live?_withdraw]
    split at hp
    · next hd => rw [if_pos ⟨hd, rfl⟩]
    · next hd => rw [if_neg (by simp [hd]), hn.absent p hp]
  · rw [aftOf_changeRib, aftOf_setAft_self, Table.get?_erase] at hx
    split at hx
    · cases hx
    · next hd =>
      rw [Rib.live?_withdraw, if_neg (by simp [hd])]
      exact hn.present p x hx
  · rw [aftOf_changeRib, aftOf_setAft_self, Table.get?_erase] at hx
    split at hx
    · cases hx
    · next hd =>
      rw [entryRoute?_changeRib, entryRoute?_setIpv4, Rib.live?_withdraw, if_neg (by simp [hd])]
      exact hn.current p x hx hg List.not_mem_nil

theorem Mirrors.flushInstance (h : Mirrors [] d) (inst : String) :
    Mirrors [] (d.flushInstance inst) := by
  refine h.of_off inst (fun n hn => ?_) fun j hj => ?_
  · rw [aftOf_flushInstance, get?_flushInstance, if_neg hn.symm, if_neg hn.symm]
    exact ⟨rfl, rfl⟩
  · rw [get?_flushInstance, if_pos rfl] at hj
    obtain ⟨i, hi, rfl⟩ := Option.map_eq_some_iff.1 hj
    have hn := h _ i hi
    have hnone : ∀ p e, ¬ (if inst = inst then ({} : AftTables) else d.aftOf inst).ipv4.get? p =
        some e := fun p e hp => by rw [if_pos rfl] at hp; cases hp
    refine ⟨fun p => ?_, fun p _ => ?_, fun p e he => ?_, fun p e he => ?_⟩
    · rw [Rib.live?_foldl_withdraw, if_neg (by simp), hn.static]
    · rw [Rib.live?_foldl_withdraw]
      split
      · rfl
      · next hno =>
        -- what isn't withdrawn now wasn't there before
        have hp : p ∉ (d.aftOf inst).ipv4.keys := fun hp => hno ⟨hp, rfl⟩
        exact hn.absent p (Table.get?_eq_none_of_not_mem_keys hp)
    · rw [aftOf_flushInstance] at he
      exact absurd he (hnone p e)
    · rw [aftOf_flushInstance] at he
      exact absurd he (hnone p e)

/-- Another route of the configuration, with its effect on the routing table. -/
theorem Mirrors.setStatic {inst : String} {i : Instance} {statics : Table Network StaticRoute}
    {f : Rib → Rib × Bool} (h : Mirrors [] d) (hi : d.instances.get? inst = some i)
    (hs : ∀ p, (f i.rib).1.live? p .static = (statics.get? p).map StaticRoute.route)
    (hg : ∀ p, (f i.rib).1.live? p .gribi = i.rib.live? p .gribi) :
    Mirrors [] ((d.setInstance inst { i with statics }).changeRib inst f) := by
  have hn := h inst i hi
  refine h.of_off inst (fun n hne => ?_) fun j hj => ?_
  · rw [get?_changeRib, if_neg hne.symm, get?_setInstance, if_neg hne.symm]
    exact ⟨by simp, rfl⟩
  · rw [get?_changeRib, if_pos rfl, get?_setInstance, if_pos rfl, Option.map_some] at hj
    cases hj
    have hof : ((d.setInstance inst { i with statics }).changeRib inst f).aftOf inst =
        d.aftOf inst := by simp
    refine ⟨hs, fun p hp => ?_, fun p e he => ?_, fun p e he hgh hst => ?_⟩
    · rw [hof] at hp
      exact (hg p).trans (hn.absent p hp)
    · rw [hof] at he
      obtain ⟨hops, hold⟩ := hn.present p e he
      exact ⟨hops, (hg p).trans hold⟩
    · rw [hof] at he
      rw [entryRoute?_changeRib]
      exact (hg p).trans (hn.current p e he hgh hst)

theorem Mirrors.replaceStatic {cfg : StaticRoute} (h : Mirrors [] d)
    (hok : d.replaceStatic cfg = .ok d') : Mirrors [] d' := by
  obtain ⟨i, hi, ⟨-, rfl⟩ | rfl⟩ := replaceStatic_ok hok
  · exact h
  · refine h.setStatic hi (fun p => ?_) fun p => ?_
    · rw [Rib.live?_install _ _ _ _ _ rfl, Table.get?_insert]
      by_cases hp : cfg.dest.masked = p
      · simp only [hp, and_self, if_true]
        rfl
      · simp only [hp, false_and, if_false]
        exact (h _ i hi).static p
    · rw [Rib.live?_install _ _ _ _ _ rfl, if_neg (by simp)]

theorem Mirrors.deleteStatic {inst : String} {dest : Network} (h : Mirrors [] d)
    (hok : d.deleteStatic inst dest = .ok d') : Mirrors [] d' := by
  obtain ⟨i, hi, ⟨-, rfl⟩ | rfl⟩ := deleteStatic_ok hok
  · exact h
  · refine h.setStatic hi (fun p => ?_) fun p => ?_
    · rw [Rib.live?_withdraw, Table.get?_erase]
      by_cases hp : dest.masked = p
      · simp only [hp, and_self, if_true]
        rfl
      · simp only [hp, false_and, if_false]
        exact (h _ i hi).static p
    · rw [Rib.live?_withdraw, if_neg (by simp)]

/-! ### The changes of routing -/

theorem Mirrors.replaceInstance {cfg : InstanceConfig} (hw : d.WellFormed) (h : Mirrors [] d)
    (hok : d.replaceInstance cfg = .ok d') : Mirrors [] d' := by
  obtain ⟨-, i, rfl, hi⟩ := replaceInstance_ok hok
  refine h.of_off cfg.name (fun n hne => ?_) fun j hj => ?_
  · rw [get?_setInstance, if_neg hne.symm]
    exact ⟨rfl, rfl⟩
  · rw [get?_setInstance, if_pos rfl] at hj
    cases hj
    obtain hi | ⟨hnone, hst, hrib⟩ := hi
    · exact (h _ i hi).congr rfl rfl fun _ _ => rfl
    · -- entries are for existing network instances only
      have haft : d.aftOf cfg.name = {} := by
        have hno : d.aft.contains cfg.name = false := by
          rw [← Bool.not_eq_true]
          intro hc
          have hp := hw.placed _ hc
          rw [contains_configured, Table.contains, hnone] at hp
          cases hp
        rw [aftOf, Table.contains_eq_false_iff.1 hno]
        rfl
      have hno : ∀ p, (d.aftOf cfg.name).ipv4.get? p = none := fun p => by rw [haft]; rfl
      refine ⟨fun p => ?_, fun p _ => ?_, fun p e he => ?_, fun p e he => ?_⟩
      · simp [hst, hrib]
      · simp [hrib]
      · exact absurd ((hno p).symm.trans he) (by simp)
      · exact absurd ((hno p).symm.trans he) (by simp)

theorem Mirrors.deleteInstance {name : String} (h : Mirrors [] d)
    (hok : d.deleteInstance name = .ok d') : Mirrors [] d' := by
  obtain rfl := deleteInstance_ok hok
  refine h.of_off name (fun n hne => ?_) fun j hj => ?_
  · rw [aftOf_forgetAft, if_neg hne.symm, instances_forgetAft, get?_dropInstance, if_neg hne.symm]
    exact ⟨rfl, rfl⟩
  · rw [instances_forgetAft, get?_dropInstance, if_pos rfl] at hj
    cases hj

theorem Mirrors.configureDut {cfg : DutInterface} (h : Mirrors [] d)
    (hok : d.configureDut cfg = .ok d') : Mirrors [] d' := by
  obtain rfl | rfl := configureDut_ok hok
  · exact h
  · exact h.mapRibs rfl rfl Rib.live?_requeueAll

theorem Mirrors.settleRoutes (h : Mirrors [] d) : Mirrors [] d.settleRoutes :=
  h.mapRibs rfl rfl (Rib.live?_settle _ _)

/-! ### Operations on next-hops and groups -/

/-- The tables of a network instance after a change of its own, for an entry that resolves
there. -/
theorem entryRoute?_setAft {inst : String} {t : AftTables} {e : Ipv4Entry}
    (hg : e.groupHome = inst → t.groups.get? e.group = (d.aftOf inst).groups.get? e.group)
    (hm : ∀ g m, e.groupHome = inst → (d.aftOf inst).groups.get? e.group = some g →
      m ∈ g.members.entries → t.nextHops.get? m.1 = (d.aftOf inst).nextHops.get? m.1) :
    (d.setAft inst t).entryRoute? e = d.entryRoute? e := by
  by_cases hhome : inst = e.groupHome
  · subst hhome
    refine entryRoute?_congr_group ?_ fun g m hgr hmem => ?_
    · rw [aftOf_setAft_self, hg rfl]
    · rw [aftOf_setAft_self, hm g m rfl hgr hmem]
  · exact entryRoute?_congr (aftOf_setAft_of_ne d t hhome)

/-- A next-hop that is stored changes the routes of those entries only that are re-resolved. -/
theorem WellFormed.entryRoute?_storeNextHop (hw : d.WellFormed) {nh : NextHop}
    {groups : List NextHopGroup}
    (hcases : (d.aftOf nh.inst).nextHops.get? nh.index = none ∨
      (d.aftOf nh.inst).nextHops.get? nh.index = some nh ∨
      groups = (d.aftOf nh.inst).groups.values.filter fun g => g.members.contains nh.index)
    {e : Ipv4Entry} (hst : e.groupHome = nh.inst → e.group ∉ groups.map (·.id)) :
    (d.setAft nh.inst { d.aftOf nh.inst with
      nextHops := (d.aftOf nh.inst).nextHops.insert nh.index nh }).entryRoute? e =
      d.entryRoute? e := by
  have ht := hw.tables nh.inst
  refine entryRoute?_setAft (fun _ => rfl) fun g m hg hgr hm => ?_
  rw [Table.get?_insert]
  split
  · next hidx =>
    -- the group has the next-hop as a member
    have hmem : g.members.contains nh.index = true := by
      rw [hidx]
      exact Table.contains_of_get? (Table.get?_of_mem_entries hm)
    obtain hnone | hsame | hgroups := hcases
    · have hin := ht.member _ g _ hgr hmem
      rw [Table.contains, hnone] at hin
      cases hin
    · rw [← hidx, hsame]
    · refine absurd ?_ (hst hg)
      obtain ⟨hid, -, -⟩ := ht.group _ g hgr
      rw [hgroups, List.mem_map]
      exact ⟨g, List.mem_filter.2 ⟨Table.mem_values_iff.2 ⟨_, hgr⟩, hmem⟩, hid⟩
  · rfl

/-- So does a group that is stored, apart from entries that waited for it. -/
theorem entryRoute?_storeGroup {g : NextHopGroup} {ids : List Nat}
    (hcases : (d.aftOf g.inst).groups.get? g.id = none ∨
      (d.aftOf g.inst).groups.get? g.id = some g ∨ ids = [g.id])
    {e : Ipv4Entry} (hst : e.groupHome = g.inst → e.group ∉ ids)
    (hheld : e.groupHome = g.inst → e.group = g.id →
      (d.aftOf g.inst).groups.contains g.id = true) :
    (d.setAft g.inst { d.aftOf g.inst with
      groups := (d.aftOf g.inst).groups.insert g.id g }).entryRoute? e = d.entryRoute? e := by
  refine entryRoute?_setAft (fun hg => ?_) fun _ _ _ _ _ => rfl
  rw [Table.get?_insert]
  split
  · next hid =>
    -- the entry resolves through the group
    obtain hnone | hsame | hids := hcases
    · have hin := hheld hg hid.symm
      rw [Table.contains, hnone] at hin
      cases hin
    · rw [← hid, hsame]
    · exact absurd (by simp [hids, hid]) (hst hg)
  · rfl

/-- A next-hop that no group has as a member may go. -/
theorem entryRoute?_dropNextHop {nh : NextHop}
    (hno : ∀ k g, (d.aftOf nh.inst).groups.get? k = some g →
      g.members.contains nh.index = false) (e : Ipv4Entry) :
    (d.setAft nh.inst { d.aftOf nh.inst with
      nextHops := (d.aftOf nh.inst).nextHops.erase nh.index }).entryRoute? e =
      d.entryRoute? e := by
  refine entryRoute?_setAft (fun _ => rfl) fun g m _ hgr hm => ?_
  rw [Table.get?_erase]
  split
  · next hidx =>
    have hmem := Table.contains_of_get? (Table.get?_of_mem_entries hm)
    rw [← hidx, hno _ g hgr] at hmem
    cases hmem
  · rfl

/-- A group that no entry resolves through may go. -/
theorem entryRoute?_dropGroup {g : NextHopGroup} (hno : d.usersOf g.inst g.id = [])
    {e : Ipv4Entry} (he : e ∈ d.ipv4Entries) :
    (d.setAft g.inst { d.aftOf g.inst with
      groups := (d.aftOf g.inst).groups.erase g.id }).entryRoute? e = d.entryRoute? e := by
  refine entryRoute?_setAft (fun hg => ?_) fun _ _ _ _ _ => rfl
  rw [Table.get?_erase]
  split
  · next hid =>
    have hmem : e ∈ d.usersOf g.inst g.id := mem_usersOf_iff.2 ⟨he, hid.symm, hg⟩
    rw [hno] at hmem
    cases hmem
  · rfl

/-- The entries that are re-resolved. -/
theorem mem_flatMap_usersOf_iff {home : String} {ids : List Nat} {e : Ipv4Entry} :
    e ∈ ids.flatMap (d.usersOf home) ↔
      e ∈ d.ipv4Entries ∧ e.groupHome = home ∧ e.group ∈ ids := by
  simp only [List.mem_flatMap, mem_usersOf_iff]
  constructor
  · rintro ⟨id, hid, he, rfl, hhome⟩
    exact ⟨he, hhome, hid⟩
  · rintro ⟨he, hhome, hid⟩
    exact ⟨e.group, hid, he, rfl, hhome⟩

theorem Mirrors.addNextHop {nh : NextHop} (hw : d.WellFormed)
    (hc : d.configured.contains nh.inst = true) (h : Mirrors [] d)
    (hok : d.addNextHop nh = .ok d') : Mirrors [] d' := by
  obtain ⟨hu, groups, rfl, hcases⟩ := addNextHop_ok hok
  have hw' := hw.setAft ((hw.tables nh.inst).insertNextHop rfl hu) hc
  rw [refresh]
  refine Mirrors.foldl_reroute hw' (h.setAft rfl fun p e he _ hst => ?_) fun e he => ?_
  · refine hw.entryRoute?_storeNextHop hcases fun hg hid => hst ?_
    refine mem_flatMap_usersOf_iff.2 ⟨mem_ipv4Entries_iff.2 ⟨nh.inst, p, ?_⟩, hg, hid⟩
    rw [aftOf_setAft_self]
    exact he
  · exact (mem_flatMap_usersOf_iff.1 he).1

theorem Mirrors.addGroup {g : NextHopGroup} (hw : d.WellFormed)
    (hc : d.configured.contains g.inst = true) (h : Mirrors [] d)
    (hok : d.addGroup g = .ok d') : Mirrors [] d' := by
  obtain ⟨hne, hm, ids, rfl, hcases⟩ := addGroup_ok hok
  have hw' := hw.setAft ((hw.tables g.inst).insertGroup rfl hne hm) hc
  rw [refresh]
  refine Mirrors.foldl_reroute hw' (h.setAft rfl fun p e he hg hst => ?_) fun e he => ?_
  · refine entryRoute?_storeGroup hcases (fun _ hid => hst ?_) fun _ hid => ?_
    · refine mem_flatMap_usersOf_iff.2 ⟨mem_ipv4Entries_iff.2 ⟨g.inst, p, ?_⟩, hg, hid⟩
      rw [aftOf_setAft_self]
      exact he
    · exact hid ▸ (hw.tables g.inst).localGroup p e he hg
  · exact (mem_flatMap_usersOf_iff.1 he).1

theorem Mirrors.deleteNextHop {nh : NextHop} (h : Mirrors [] d)
    (hok : d.deleteNextHop nh = .ok d') : Mirrors [] d' := by
  obtain ⟨hno, rfl⟩ := deleteNextHop_ok hok
  exact h.setAft rfl fun p e _ _ _ => entryRoute?_dropNextHop hno e

theorem Mirrors.deleteGroup {g : NextHopGroup} (h : Mirrors [] d)
    (hok : d.deleteGroup g = .ok d') : Mirrors [] d' := by
  obtain ⟨hno, rfl⟩ := deleteGroup_ok hok
  exact h.setAft rfl fun p e he _ _ =>
    entryRoute?_dropGroup hno (mem_ipv4Entries_iff.2 ⟨g.inst, p, he⟩)

theorem Mirrors.apply {op : Operation} (hw : d.WellFormed) (h : Mirrors [] d)
    (hok : d.apply op = .ok d') : Mirrors [] d' := by
  obtain ⟨hinst, ⟨nh, he, hadd | hdel⟩ | ⟨g, he, hadd | hdel⟩ | ⟨e, he, hadd | hdel⟩⟩ :=
    apply_ok hok <;> rw [he, ← contains_configured] at hinst
  · exact h.addNextHop hw hinst hadd
  · exact h.deleteNextHop hdel
  · exact h.addGroup hw hinst hadd
  · exact h.deleteGroup hdel
  · exact h.addIpv4 hw hadd
  · exact h.deleteIpv4 hdel

/-- Both invariants together, since re-resolving relies on well-formed entries. -/
theorem kept_mirrors : Kept fun d => d.WellFormed ∧ Mirrors [] d where
  same h hs := ⟨kept_wellFormed.same h.1 hs, fun n i hi =>
    (h.2 n i (hs.instances ▸ hi)).congr (by rw [aftOf, hs.aft, aftOf]) rfl fun _ _ => rfl⟩
  configureDut h hok := ⟨h.1.configureDut hok, h.2.configureDut hok⟩
  replaceInstance h hok := ⟨h.1.replaceInstance hok, h.2.replaceInstance h.1 hok⟩
  deleteInstance h hok := ⟨h.1.deleteInstance hok, h.2.deleteInstance hok⟩
  replaceStatic h hok := ⟨h.1.replaceStatic hok, h.2.replaceStatic hok⟩
  deleteStatic h hok := ⟨h.1.deleteStatic hok, h.2.deleteStatic hok⟩
  apply h hok := ⟨h.1.apply hok, h.2.apply h.1 hok⟩
  flushInstance h := ⟨h.1.flushInstance _, h.2.flushInstance _⟩
  settleRoutes h := ⟨h.1.settleRoutes, h.2.settleRoutes⟩

theorem Reachable.mirrors {settings : Settings} (h : Reachable settings d) : Mirrors [] d :=
  (h.of_kept kept_mirrors ⟨.start settings, fun _ _ hi => nomatch hi⟩).2

/-! ### Reachable devices -/

/-- **The routes that aren't withdrawn are those of the configuration.**  There is a configured
route for a destination exactly if the routing table has one, with each address once; there is a
programmed entry exactly if the routing table has a route with its tag and group, and if the group
lives in the same network instance, the next-hops are the addresses of its members with the
weights of equal addresses added up, as numbers (`memberHopsWord?_eq` for words, as long as the
sums stay below 2⁶⁴). -/
theorem routes_mirror_configuration {settings : Settings} (h : Reachable settings d)
    {name : String} {i : Instance} (hi : d.instances.get? name = some i) (dest : Network) :
    ((∃ r, i.rib.route? dest .static = some r ∧ r.removed = false) ↔
      i.statics.contains dest = true) ∧
    (∀ r cfg, i.rib.route? dest .static = some r → r.removed = false →
      i.statics.get? dest = some cfg →
      ∀ a, r.hops.get? a = if a ∈ cfg.nextHops.values then some 1 else none) ∧
    ((∃ r, i.rib.route? dest .gribi = some r ∧ r.removed = false) ↔
      (d.aftOf name).ipv4.contains dest = true) ∧
    ∀ r e, i.rib.route? dest .gribi = some r → r.removed = false →
      (d.aftOf name).ipv4.get? dest = some e →
      r.tag = e.tag ∧ r.group = some e.group ∧
      (e.groupHome = name → ∃ g, (d.aftOf name).groups.get? e.group = some g ∧
        (∀ m, g.members.contains m = true → (d.aftOf name).nextHops.contains m = true) ∧
        ∀ a, r.hops.get? a =
          if shares (d.aftOf name).nextHops g.members.entries a = [] then none
          else some (total (shares (d.aftOf name).nextHops g.members.entries a))) := by
  have hw := h.wellFormed
  have hm := h.mirrors name i hi
  refine ⟨?_, fun r cfg hr hk hcfg a => ?_, ?_, fun r e hr hk he => ?_⟩
  · rw [← Rib.live?_isSome_iff, hm.static, Option.isSome_map]
    rfl
  · have hlive : i.rib.live? dest .static = some r.plain :=
      Rib.live?_eq_some_iff.2 ⟨r, hr, hk, rfl⟩
    rw [hm.static, hcfg, Option.map_some, Option.some.injEq] at hlive
    have hhops : r.hops = cfg.route.hops := (congrArg Route.hops hlive).symm
    rw [hhops]
    exact Table.get?_ofList_map _ _ _
  · rw [← Rib.live?_isSome_iff]
    cases he : (d.aftOf name).ipv4.get? dest with
    | none => simp [hm.absent dest he, Table.contains, he]
    | some e =>
      obtain ⟨hops, hlive⟩ := hm.present dest e he
      simp [hlive, Table.contains, he]
  · have hlive : i.rib.live? dest .gribi = some r.plain :=
      Rib.live?_eq_some_iff.2 ⟨r, hr, hk, rfl⟩
    obtain ⟨hops, hpresent⟩ := hm.present dest e he
    rw [hlive, Option.some.injEq] at hpresent
    refine ⟨congrArg Route.tag hpresent, congrArg Route.group hpresent, fun hg => ?_⟩
    -- a group in the same network instance is resolved as it is now
    have hcurrent := hm.current dest e he hg List.not_mem_nil
    rw [hlive, eq_comm, entryRoute?_eq_some_iff, hg] at hcurrent
    obtain ⟨g, hops', hgr, hhops, hplain⟩ := hcurrent
    refine ⟨g, hgr, fun m => (hw.tables name).member _ g m hgr, fun a => ?_⟩
    have heq : r.hops = hops' := congrArg Route.hops hplain
    rw [heq, (memberHops?_eq_some_iff.1 hhops).2 a]

/-- A testbed with two next-hops of one address, a group with both of them, and an entry that
resolves through the group. -/
def programmed : Device := linked.serveAll [
  .openSession { persistence := false, ackMode := .rib, electionId := { high := 1, low := 0 } },
  .modify 1 [
    ⟨1, .add, .nextHop ⟨1, (Link.numbered 1).ate.ipv4, defaultInstanceName⟩⟩,
    ⟨2, .add, .nextHop ⟨2, (Link.numbered 1).ate.ipv4, defaultInstanceName⟩⟩,
    ⟨3, .add, .nextHopGroup ⟨1, .ofList [(1, 2), (2, 3)], defaultInstanceName⟩⟩,
    ⟨4, .add, .ipv4 ⟨.ofInterface (.ofOctets 203 0 113 0) 24, 1, defaultInstanceName, none,
      some "blue"⟩⟩]]

theorem routes_mirror_configuration_programmed :
    ∃ i r, programmed.instances.get? defaultInstanceName = some i ∧
      i.rib.route? (.ofInterface (.ofOctets 203 0 113 0) 24) .gribi = some r ∧
      r.tag = some "blue" ∧ r.group = some 1 ∧
      r.hops.get? (Link.numbered 1).ate.ipv4 = some 5 := by
  have hr : Reachable .standard programmed := reachable_linked.serveAll _
  obtain ⟨i, hi⟩ : ∃ i, programmed.instances.get? defaultInstanceName = some i :=
    Option.isSome_iff_exists.1 (by decide +kernel)
  obtain ⟨-, -, hiff, hroute⟩ := routes_mirror_configuration hr hi
    (.ofInterface (.ofOctets 203 0 113 0) 24)
  obtain ⟨r, hr, hk⟩ := hiff.2 (by decide +kernel)
  obtain ⟨htag, hgroup, hlocal⟩ := hroute r
    ⟨.ofInterface (.ofOctets 203 0 113 0) 24, 1, defaultInstanceName, none, some "blue"⟩
    hr hk (by decide +kernel)
  obtain ⟨g, hg, -, hhops⟩ := hlocal rfl
  have hgroup' : (programmed.aftOf defaultInstanceName).groups.get? 1 =
    some ⟨1, .ofList [(1, 2), (2, 3)], defaultInstanceName⟩ := by decide +kernel
  rw [hgroup'] at hg
  cases hg
  refine ⟨i, r, hi, hr, htag, hgroup, ?_⟩
  rw [hhops]
  decide +kernel

end Device

end RoutePreference
