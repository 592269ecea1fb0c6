import RoutePreference.Proofs.Device.Hops
import RoutePreference.Proofs.Device.Outcomes
import RoutePreference.Proofs.Device.Reachable

/-!
# Well-formed configuration

* `AftTables.WellFormed`: entries under their own keys, groups with members that are there, IPv4
  entries whose group is there if it lives in the same network instance;
* `Device.WellFormed`: such tables, for existing network instances only, at most one of which is
  the default one, with configured routes under their own destinations;
* `Reachable.wellFormed`: every reachable device is well-formed.
-/

namespace RoutePreference

/-- What the checks on operations keep true of the entries of a network instance. -/
structure AftTables.WellFormed (inst : String) (t : AftTables) : Prop where
  nextHop : ∀ k h, t.nextHops.get? k = some h →
    h.index = k ∧ h.inst = inst ∧ h.address.isUsable = true
  group : ∀ k g, t.groups.get? k = some g →
    g.id = k ∧ g.inst = inst ∧ g.members.isEmpty = false
  member : ∀ k g m, t.groups.get? k = some g → g.members.contains m = true →
    t.nextHops.contains m = true
  entry : ∀ p e, t.ipv4.get? p = some e → e.dest = p ∧ e.inst = inst ∧ p.isMasked = true
  localGroup : ∀ p e, t.ipv4.get? p = some e → e.groupHome = inst →
    t.groups.contains e.group = true

namespace AftTables.WellFormed

variable {inst : String} {t : AftTables}

theorem empty : WellFormed inst {} where
  nextHop _ _ h := nomatch h
  group _ _ h := nomatch h
  member _ _ _ h := nomatch h
  entry _ _ h := nomatch h
  localGroup _ _ h := nomatch h

theorem insertNextHop (ht : t.WellFormed inst) {h : NextHop} (hi : h.inst = inst)
    (hu : h.address.isUsable = true) :
    WellFormed inst { t with nextHops := t.nextHops.insert h.index h } where
  nextHop k h' hk := by
    rw [Table.get?_insert] at hk
    split at hk
    · cases hk
      exact ⟨‹_›, hi, hu⟩
    · exact ht.nextHop k h' hk
  group := ht.group
  member k g m hg hm := by
    rw [Table.contains_insert, ht.member k g m hg hm, Bool.or_true]
  entry := ht.entry
  localGroup := ht.localGroup

theorem insertGroup (ht : t.WellFormed inst) {g : NextHopGroup} (hi : g.inst = inst)
    (hne : g.members.isEmpty = false)
    (hm : ∀ m, g.members.contains m = true → t.nextHops.contains m = true) :
    WellFormed inst { t with groups := t.groups.insert g.id g } where
  nextHop := ht.nextHop
  group k g' hk := by
    rw [Table.get?_insert] at hk
    split at hk
    · cases hk
      exact ⟨‹_›, hi, hne⟩
    · exact ht.group k g' hk
  member k g' m hk hm' := by
    rw [Table.get?_insert] at hk
    split at hk
    · cases hk
      exact hm m hm'
    · exact ht.member k g' m hk hm'
  entry := ht.entry
  localGroup p e he hl := by
    rw [Table.contains_insert, ht.localGroup p e he hl, Bool.or_true]

theorem insertIpv4 (ht : t.WellFormed inst) {e : Ipv4Entry} (hi : e.inst = inst)
    (hm : e.dest.isMasked = true)
    (hg : e.groupHome = inst → t.groups.contains e.group = true) :
    WellFormed inst { t with ipv4 := t.ipv4.insert e.dest e } where
  nextHop := ht.nextHop
  group := ht.group
  member := ht.member
  entry p e' hp := by
    rw [Table.get?_insert] at hp
    split at hp
    · next hd =>
      cases hp
      exact ⟨hd, hi, hd ▸ hm⟩
    · exact ht.entry p e' hp
  localGroup p e' hp hl := by
    rw [Table.get?_insert] at hp
    split at hp
    · cases hp
      exact hg hl
    · exact ht.localGroup p e' hp hl

/-- A next-hop that is no member of any group may go. -/
theorem eraseNextHop (ht : t.WellFormed inst) {k : Nat}
    (hno : ∀ id g, t.groups.get? id = some g → g.members.contains k = false) :
    WellFormed inst { t with nextHops := t.nextHops.erase k } where
  nextHop k' h hk := by
    rw [Table.get?_erase] at hk
    split at hk
    · cases hk
    · exact ht.nextHop k' h hk
  group := ht.group
  member id g m hg hm := by
    have hkm : k ≠ m := by
      rintro rfl
      rw [hno id g hg] at hm
      cases hm
    rw [Table.contains_erase, ht.member id g m hg hm]
    simp [hkm]
  entry := ht.entry
  localGroup := ht.localGroup

/-- A group that no entry of the network instance resolves through may go. -/
theorem eraseGroup (ht : t.WellFormed inst) {id : Nat}
    (hno : ∀ p e, t.ipv4.get? p = some e → e.groupHome = inst → e.group ≠ id) :
    WellFormed inst { t with groups := t.groups.erase id } where
  nextHop := ht.nextHop
  group k g hk := by
    rw [Table.get?_erase] at hk
    split at hk
    · cases hk
    · exact ht.group k g hk
  member k g m hk hm := by
    rw [Table.get?_erase] at hk
    split at hk
    · cases hk
    · exact ht.member k g m hk hm
  entry := ht.entry
  localGroup p e hp hl := by
    rw [Table.contains_erase, ht.localGroup p e hp hl]
    simp [(hno p e hp hl).symm]

theorem eraseIpv4 (ht : t.WellFormed inst) (dest : Network) :
    WellFormed inst { t with ipv4 := t.ipv4.erase dest } where
  nextHop := ht.nextHop
  group := ht.group
  member := ht.member
  entry p e hp := by
    rw [Table.get?_erase] at hp
    split at hp
    · cases hp
    · exact ht.entry p e hp
  localGroup p e hp hl := by
    rw [Table.get?_erase] at hp
    split at hp
    · cases hp
    · exact ht.localGroup p e hp hl

end AftTables.WellFormed

namespace Device

/-- What the checks on requests keep true of the configuration. -/
structure WellFormed (d : Device) : Prop where
  tables : ∀ n, (d.aftOf n).WellFormed n
  placed : ∀ n, d.aft.contains n = true → d.configured.contains n = true
  static : ∀ n c, d.configured.get? n = some c → ∀ p s, c.statics.get? p = some s →
    s.dest = p ∧ p.isMasked = true
  default : ∀ n m c c', d.configured.get? n = some c → d.configured.get? m = some c' →
    c.type = .default → c'.type = .default → n = m

variable {d d' : Device}

theorem WellFormed.congr (h : d.WellFormed) (ha : d'.aft = d.aft)
    (hc : d'.configured = d.configured) : d'.WellFormed := by
  have hof : ∀ n, d'.aftOf n = d.aftOf n := fun n => by rw [aftOf, ha, aftOf]
  refine ⟨fun n => ?_, ?_, ?_, ?_⟩
  · rw [hof]
    exact h.tables n
  · rw [ha, hc]
    exact h.placed
  · rw [hc]
    exact h.static
  · rw [hc]
    exact h.default

theorem WellFormed.changeRib (h : d.WellFormed) (inst : String) (f : Rib → Rib × Bool) :
    (d.changeRib inst f).WellFormed := h.congr (by simp) (by simp)

theorem WellFormed.foldl_reroute (h : d.WellFormed) (l : List Ipv4Entry) :
    (l.foldl reroute d).WellFormed :=
  h.congr (aft_foldl_reroute d l) (configured_foldl_reroute d l)

theorem WellFormed.setAft (h : d.WellFormed) {inst : String} {t : AftTables}
    (ht : t.WellFormed inst) (hi : d.configured.contains inst = true) :
    (d.setAft inst t).WellFormed := by
  refine ⟨fun n => ?_, fun n hn => ?_, h.static, h.default⟩
  · rw [aftOf_setAft]
    split
    · next hn => exact hn ▸ ht
    · exact h.tables n
  · rw [Device.setAft, Table.contains_insert, Bool.or_eq_true, decide_eq_true_iff] at hn
    obtain rfl | hn := hn
    · exact hi
    · exact h.placed n hn

theorem WellFormed.forgetAft (h : d.WellFormed) (inst : String) :
    (d.forgetAft inst).WellFormed := by
  refine ⟨fun n => ?_, fun n hn => ?_, h.static, h.default⟩
  · rw [aftOf_forgetAft]
    split
    · exact .empty
    · exact h.tables n
  · rw [Device.forgetAft, Table.contains_erase, Bool.and_eq_true] at hn
    exact h.placed n hn.2

/-- A network instance with other configured routes, each under its own destination. -/
theorem WellFormed.setStatics (h : d.WellFormed) {name : String} {i : Instance}
    {statics : Table Network StaticRoute} (hi : d.instances.get? name = some i)
    (hs : ∀ p s, statics.get? p = some s → s.dest = p ∧ p.isMasked = true) :
    (d.setInstance name { i with statics }).WellFormed := by
  have hic : d.configured.get? name = some i.configured := by rw [get?_configured, hi]; rfl
  refine ⟨h.tables, fun n hn => ?_, fun n c hc => ?_, fun n m c c' hc hc' hd hd' => ?_⟩
  · rw [configured_setInstance, Table.contains_insert, h.placed n hn, Bool.or_true]
  · rw [configured_setInstance, Table.get?_insert] at hc
    split at hc
    · cases hc
      exact hs
    · exact h.static n c hc
  · -- the types are as they were
    have hold : ∀ m c', (d.setInstance name { i with statics }).configured.get? m = some c' →
        ∃ c'', d.configured.get? m = some c'' ∧ c''.type = c'.type := by
      intro m c' hm
      rw [configured_setInstance, Table.get?_insert] at hm
      split at hm
      · next hnm =>
        cases hm
        exact ⟨i.configured, hnm ▸ hic, rfl⟩
      · exact ⟨c', hm, rfl⟩
    obtain ⟨x, hx, hxt⟩ := hold n c hc
    obtain ⟨y, hy, hyt⟩ := hold m c' hc'
    exact h.default n m x y hx hy (hxt.trans hd) (hyt.trans hd')

/-! ### The default network instance -/

theorem defaultInstance?_eq_none_iff :
    d.defaultInstance? = none ↔ ∀ n i, d.instances.get? n = some i → i.type ≠ .default := by
  simp only [defaultInstance?, List.find?_eq_none, decide_eq_true_eq, Prod.forall,
    Table.get?_eq_some_iff]

theorem defaultInstance?_spec {n : String} {i : Instance} (h : d.defaultInstance? = some (n, i)) :
    d.instances.get? n = some i ∧ i.type = .default := by
  have hp := List.find?_some h
  exact ⟨Table.get?_eq_some_iff.2 (List.mem_of_find?_eq_some h), by simpa using hp⟩

/-- There is one default network instance at most, so the first one is any. -/
theorem WellFormed.defaultInstance? (h : d.WellFormed) {n : String} {i : Instance}
    (hi : d.instances.get? n = some i) (ht : i.type = .default) :
    d.defaultInstance? = some (n, i) := by
  cases hd : d.defaultInstance? with
  | none => exact absurd ht (defaultInstance?_eq_none_iff.1 hd n i hi)
  | some e =>
    obtain ⟨m, j⟩ := e
    obtain ⟨hj, hjt⟩ := defaultInstance?_spec hd
    have hmn : m = n := h.default m n j.configured i.configured
      (by rw [get?_configured, hj]; rfl) (by rw [get?_configured, hi]; rfl) hjt ht
    subst hmn
    rw [hi] at hj
    cases hj
    rfl

/-- The check on a default network instance finds any other one. -/
theorem WellFormed.eq_of_otherDefault? (h : d.WellFormed) {name n : String} {i : Instance}
    (hno : d.otherDefault? name = none) (hi : d.instances.get? n = some i)
    (ht : i.type = .default) : n = name := by
  rw [otherDefault?, h.defaultInstance? hi ht] at hno
  simpa using hno

/-! ### The changes of routing -/

theorem WellFormed.configureDut {cfg : DutInterface} (h : d.WellFormed)
    (hok : d.configureDut cfg = .ok d') : d'.WellFormed := by
  obtain rfl | rfl := configureDut_ok hok
  · exact h
  · refine h.congr rfl (configured_congr (f := fun _ rib => rib.requeueAll) fun n => ?_)
    exact Table.get?_mapValues _ _ _

theorem WellFormed.replaceInstance {cfg : InstanceConfig} (h : d.WellFormed)
    (hok : d.replaceInstance cfg = .ok d') : d'.WellFormed := by
  obtain ⟨hdef, i, rfl, hi⟩ := replaceInstance_ok hok
  refine ⟨h.tables, fun n hn => ?_, fun n c hc p s hs => ?_, ?_⟩
  · rw [configured_setInstance, Table.contains_insert, h.placed n hn, Bool.or_true]
  · rw [configured_setInstance, Table.get?_insert] at hc
    split at hc
    · cases hc
      obtain hi | ⟨-, hst, -⟩ := hi
      · exact h.static cfg.name i.configured (by rw [get?_configured, hi]; rfl) p s hs
      · simp only [Instance.configured, hst] at hs
        cases hs
    · exact h.static n c hc p s hs
  · -- a default one of another name would have been found
    have hother : ∀ n c, n ≠ cfg.name →
        (d.setInstance cfg.name { i with type := cfg.type }).configured.get? n = some c →
        ∃ j, d.instances.get? n = some j ∧ j.type = c.type := by
      intro n c hn hc
      rw [configured_setInstance, Table.get?_insert, if_neg hn.symm, get?_configured] at hc
      obtain ⟨j, hj, rfl⟩ := Option.map_eq_some_iff.1 hc
      exact ⟨j, hj, rfl⟩
    have hself : ∀ c, (d.setInstance cfg.name { i with type := cfg.type }).configured.get?
        cfg.name = some c → c.type = cfg.type := by
      intro c hc
      rw [configured_setInstance, Table.get?_insert_self] at hc
      cases hc
      rfl
    intro n m c c' hc hc' hd hd'
    by_cases hn : n = cfg.name <;> by_cases hm : m = cfg.name
    · rw [hn, hm]
    · subst hn
      obtain ⟨j, hj, hjt⟩ := hother m c' hm hc'
      have hnone := hdef ((hself c hc).symm.trans hd)
      exact (h.eq_of_otherDefault? hnone hj (hjt.trans hd')).symm
    · subst hm
      obtain ⟨j, hj, hjt⟩ := hother n c hn hc
      have hnone := hdef ((hself c' hc').symm.trans hd')
      exact h.eq_of_otherDefault? hnone hj (hjt.trans hd)
    · obtain ⟨j, hj, hjt⟩ := hother n c hn hc
      obtain ⟨k, hk, hkt⟩ := hother m c' hm hc'
      have hfst := h.defaultInstance? hj (hjt.trans hd)
      rw [h.defaultInstance? hk (hkt.trans hd')] at hfst
      cases hfst
      rfl

theorem WellFormed.deleteInstance {name : String} (h : d.WellFormed)
    (hok : d.deleteInstance name = .ok d') : d'.WellFormed := by
  obtain rfl := deleteInstance_ok hok
  have hold : ∀ n c, ((d.dropInstance name).forgetAft name).configured.get? n = some c →
      d.configured.get? n = some c := by
    intro n c hc
    have hc' : (d.dropInstance name).configured.get? n = some c := hc
    rw [configured_dropInstance, Table.get?_erase] at hc'
    split at hc'
    · cases hc'
    · exact hc'
  refine ⟨fun n => (h.forgetAft name).tables n, fun n hn => ?_, fun n c hc => ?_,
    fun n m c c' hc hc' => ?_⟩
  · show (d.dropInstance name).configured.contains n = true
    have hn' : (d.aft.erase name).contains n = true := hn
    rw [Table.contains_erase, Bool.and_eq_true] at hn'
    rw [configured_dropInstance, Table.contains_erase, Bool.and_eq_true]
    exact ⟨hn'.1, h.placed n hn'.2⟩
  · exact h.static n c (hold n c hc)
  · exact h.default n m c c' (hold n c hc) (hold m c' hc')

theorem WellFormed.statics (h : d.WellFormed) {name : String} {i : Instance}
    (hi : d.instances.get? name = some i) {p : Network} {s : StaticRoute}
    (hs : i.statics.get? p = some s) : s.dest = p ∧ p.isMasked = true :=
  h.static name i.configured (by rw [get?_configured, hi]; rfl) p s hs

theorem WellFormed.replaceStatic {cfg : StaticRoute} (h : d.WellFormed)
    (hok : d.replaceStatic cfg = .ok d') : d'.WellFormed := by
  obtain ⟨i, hi, ⟨-, rfl⟩ | rfl⟩ := replaceStatic_ok hok
  · exact h
  · refine (h.setStatics hi fun p s hp => ?_).changeRib _ _
    rw [Table.get?_insert] at hp
    split at hp
    · next hd =>
      cases hp
      exact ⟨hd, hd ▸ cfg.dest.isMasked_masked⟩
    · exact h.statics hi hp

theorem WellFormed.deleteStatic {inst : String} {dest : Network} (h : d.WellFormed)
    (hok : d.deleteStatic inst dest = .ok d') : d'.WellFormed := by
  obtain ⟨i, hi, ⟨-, rfl⟩ | rfl⟩ := deleteStatic_ok hok
  · exact h
  · refine (h.setStatics hi fun p s hp => ?_).changeRib _ _
    rw [Table.get?_erase] at hp
    split at hp
    · cases hp
    · exact h.statics hi hp

theorem WellFormed.apply {op : Operation} (h : d.WellFormed) (hok : d.apply op = .ok d') :
    d'.WellFormed := by
  obtain ⟨hinst, ⟨nh, he, hadd | hdel⟩ | ⟨g, he, hadd | hdel⟩ | ⟨e, he, hadd | hdel⟩⟩ :=
    apply_ok hok <;> rw [he, ← contains_configured] at hinst
  · obtain ⟨hu, groups, rfl, -⟩ := addNextHop_ok hadd
    exact (h.setAft ((h.tables _).insertNextHop rfl hu) hinst).foldl_reroute _
  · obtain ⟨hno, rfl⟩ := deleteNextHop_ok hdel
    exact h.setAft ((h.tables _).eraseNextHop hno) hinst
  · obtain ⟨hne, hm, ids, rfl, -⟩ := addGroup_ok hadd
    exact (h.setAft ((h.tables _).insertGroup rfl hne hm) hinst).foldl_reroute _
  · obtain ⟨hno, rfl⟩ := deleteGroup_ok hdel
    refine h.setAft ((h.tables _).eraseGroup fun p e' hp hl hg => ?_) hinst
    -- such an entry would use the group
    have hmem : e' ∈ d.usersOf g.inst g.id :=
      mem_usersOf_iff.2 ⟨mem_ipv4Entries_iff.2 ⟨_, p, hp⟩, hg, hl⟩
    rw [hno] at hmem
    cases hmem
  · obtain ⟨hm, -, route, hr, rfl⟩ := addIpv4_ok hadd
    refine (h.setAft ((h.tables _).insertIpv4 rfl hm fun hl => ?_) hinst).changeRib _ _
    obtain ⟨g, hops, hg, -⟩ := entryRoute?_eq_some_iff.1 hr
    rw [hl] at hg
    exact Table.contains_of_get? hg
  · obtain rfl := deleteIpv4_ok hdel
    exact (h.setAft ((h.tables _).eraseIpv4 _) hinst).changeRib _ _

theorem WellFormed.flushInstance (h : d.WellFormed) (inst : String) :
    (d.flushInstance inst).WellFormed := by
  rw [flushInstance_eq]
  exact (h.forgetAft inst).congr (by simp) (by simp)

theorem WellFormed.settleRoutes (h : d.WellFormed) : d.settleRoutes.WellFormed :=
  h.congr rfl (configured_congr
    (f := fun _ rib => rib.settle d.settings.preference d.interfaces) fun _ =>
      Table.get?_mapValues _ _ _)

theorem kept_wellFormed : Kept WellFormed where
  same h hs := h.congr hs.aft (by rw [configured, hs.instances, configured])
  configureDut := WellFormed.configureDut
  replaceInstance := WellFormed.replaceInstance
  deleteInstance := WellFormed.deleteInstance
  replaceStatic := WellFormed.replaceStatic
  deleteStatic := WellFormed.deleteStatic
  apply := WellFormed.apply
  flushInstance h := h.flushInstance _
  settleRoutes := WellFormed.settleRoutes

theorem WellFormed.start (settings : Settings) : (start settings).WellFormed where
  tables _ := .empty
  placed _ h := nomatch h
  static _ _ h := nomatch h
  default _ _ _ _ h := nomatch h

theorem Reachable.wellFormed {settings : Settings} (h : Reachable settings d) : d.WellFormed :=
  h.of_kept kept_wellFormed (.start settings)

end Device

end RoutePreference
