import RoutePreference.Proofs.Device.Changes

/-!
# What successful changes leave

* `configureDut_ok`, `replaceInstance_ok`, `deleteInstance_ok`, `replaceStatic_ok`,
  `deleteStatic_ok`: the device after a change of configuration that wasn't refused, and what the
  checks made sure of;
* `addNextHop_ok`, `addGroup_ok`, `addIpv4_ok`, `deleteNextHop_ok`, `deleteGroup_ok`,
  `deleteIpv4_ok`: the same for operations on entries;
* `apply_ok`: a successful operation is one of these six.
-/

namespace RoutePreference

/-- The configured route with its host bits cleared, as it is stored. -/
def StaticRoute.masked (cfg : StaticRoute) : StaticRoute := { cfg with dest := cfg.dest.masked }

namespace Device

variable {d d' : Device}

/-! ### Configuration -/

/-- An interface that is configured as it was changes nothing; another one queues everything. -/
theorem configureDut_ok {cfg : DutInterface} (h : d.configureDut cfg = .ok d') :
    d' = d ∨ d' = { d with
      interfaces := d.interfaces.insert cfg.attrs.port cfg.interface
      instances := d.instances.mapValues fun _ i => { i with rib := i.rib.requeueAll }
      tokens := d.tokens + d.instances.entries.length } := by
  rw [configureDut] at h
  dsimp only at h
  split at h
  · cases h
  split at h <;> cases h
  · next hsame => exact .inl (by rw [Table.insert_eq_self hsame])
  · exact .inr rfl

/-- A network instance gets the type; its routes stay, and a new one has none. -/
theorem replaceInstance_ok {cfg : InstanceConfig} (h : d.replaceInstance cfg = .ok d') :
    (cfg.type = .default → d.otherDefault? cfg.name = none) ∧
      ∃ i, d' = d.setInstance cfg.name { i with type := cfg.type } ∧
        (d.instances.get? cfg.name = some i ∨ d.instances.get? cfg.name = none ∧
          i.statics = ∅ ∧ i.rib = {}) := by
  rw [replaceInstance] at h
  split at h
  · cases h
  · next hno =>
    cases h
    refine ⟨fun hd => by rwa [if_pos hd] at hno, ?_⟩
    cases hi : d.instances.get? cfg.name with
    | none => exact ⟨{ type := cfg.type }, rfl, .inr ⟨rfl, rfl, rfl⟩⟩
    | some i => exact ⟨i, rfl, .inl rfl⟩

theorem deleteInstance_ok {name : String} (h : d.deleteInstance name = .ok d') :
    d' = (d.dropInstance name).forgetAft name := by
  rw [deleteInstance] at h
  split at h <;> cases h
  rfl

/-- A route that is configured as it was changes nothing; another one is stored and installed. -/
theorem replaceStatic_ok {cfg : StaticRoute} (h : d.replaceStatic cfg = .ok d') :
    ∃ i, d.instances.get? cfg.inst = some i ∧
      (i.statics.get? cfg.dest.masked = some cfg.masked ∧ d' = d ∨
        d' = (d.setInstance cfg.inst
            { i with statics := i.statics.insert cfg.dest.masked cfg.masked }).changeRib cfg.inst
          fun rib => rib.install cfg.dest.masked .static cfg.route) := by
  rw [replaceStatic] at h
  split at h
  · cases h
  · next i hi =>
    refine ⟨i, hi, ?_⟩
    dsimp only at h
    split at h <;> cases h
    · next hsame => exact .inl ⟨hsame, rfl⟩
    · exact .inr rfl

/-- A route that is configured is forgotten and withdrawn. -/
theorem deleteStatic_ok {inst : String} {dest : Network} (h : d.deleteStatic inst dest = .ok d') :
    ∃ i, d.instances.get? inst = some i ∧
      (i.statics.get? dest.masked = none ∧ d' = d ∨
        d' = (d.setInstance inst
            { i with statics := i.statics.erase dest.masked }).changeRib inst
          fun rib => rib.withdraw dest.masked .static) := by
  rw [deleteStatic] at h
  split at h
  · cases h
  · next i hi =>
    refine ⟨i, hi, ?_⟩
    dsimp only at h
    split at h <;> cases h
    · exact .inr rfl
    · next hno =>
      rw [Bool.not_eq_true, Table.contains_eq_false_iff] at hno
      exact .inl ⟨hno, rfl⟩

/-! ### Operations on entries -/

/-- A next-hop is stored; if it replaces a different one, the entries that resolve through a group
with it as a member are re-resolved. -/
theorem addNextHop_ok {h : NextHop} (hok : d.addNextHop h = .ok d') :
    h.address.isUsable = true ∧ ∃ groups : List NextHopGroup,
      d' = (d.setAft h.inst { d.aftOf h.inst with
          nextHops := (d.aftOf h.inst).nextHops.insert h.index h }).refresh h.inst
        (groups.map (·.id)) ∧
      ((d.aftOf h.inst).nextHops.get? h.index = none ∨
        (d.aftOf h.inst).nextHops.get? h.index = some h ∨
        groups = (d.aftOf h.inst).groups.values.filter fun g => g.members.contains h.index) := by
  rw [addNextHop] at hok
  split at hok
  · cases hok
  · next hu =>
    refine ⟨by simpa using hu, ?_⟩
    dsimp only at hok
    split at hok
    · next old hold =>
      split at hok <;> cases hok
      · next hsame => exact ⟨[], rfl, .inr (.inl (by rw [hold, hsame]))⟩
      · exact ⟨_, rfl, .inr (.inr rfl)⟩
    · next hnone =>
      cases hok
      exact ⟨[], rfl, .inl hnone⟩

/-- A group whose members are all there is stored; if it replaces a different one, the entries
that resolve through it are re-resolved. -/
theorem addGroup_ok {g : NextHopGroup} (hok : d.addGroup g = .ok d') :
    g.members.isEmpty = false ∧
      (∀ m, g.members.contains m = true → (d.aftOf g.inst).nextHops.contains m = true) ∧
      ∃ ids : List Nat,
        d' = (d.setAft g.inst { d.aftOf g.inst with
          groups := (d.aftOf g.inst).groups.insert g.id g }).refresh g.inst ids ∧
        ((d.aftOf g.inst).groups.get? g.id = none ∨
          (d.aftOf g.inst).groups.get? g.id = some g ∨ ids = [g.id]) := by
  rw [addGroup] at hok
  dsimp only at hok
  split at hok
  · cases hok
  · next hne =>
    split at hok
    · cases hok
    · next hall =>
      refine ⟨by simpa using hne, ?_, ?_⟩
      · intro m hm
        rw [← Table.mem_keys_iff] at hm
        rw [List.any_eq_true, not_exists] at hall
        simpa [hm] using hall m
      · split at hok
        · next old hold =>
          split at hok <;> cases hok
          · next hsame => exact ⟨[], rfl, .inr (.inl (by rw [hold, hsame]))⟩
          · exact ⟨_, rfl, .inr (.inr rfl)⟩
        · next hnone =>
          cases hok
          exact ⟨[], rfl, .inl hnone⟩

/-- A group that wasn't there is stored, and nothing is re-resolved. -/
theorem addGroup_of_absent {g : NextHopGroup} (hok : d.addGroup g = .ok d')
    (hnone : (d.aftOf g.inst).groups.get? g.id = none) :
    d' = d.setAft g.inst { d.aftOf g.inst with
      groups := (d.aftOf g.inst).groups.insert g.id g } := by
  rw [addGroup] at hok
  dsimp only at hok
  split at hok
  · cases hok
  split at hok
  · cases hok
  rw [hnone] at hok
  cases hok
  rfl

/-- An IPv4 entry without host bits that resolves is stored, and its route is installed. -/
theorem addIpv4_ok {e : Ipv4Entry} (hok : d.addIpv4 e = .ok d') :
    e.dest.isMasked = true ∧ d.instances.contains e.groupHome = true ∧
      ∃ route, d.entryRoute? e = some route ∧
        d' = (d.setAft e.inst { d.aftOf e.inst with
          ipv4 := (d.aftOf e.inst).ipv4.insert e.dest e }).changeRib e.inst
            fun rib => rib.install e.dest .gribi route := by
  rw [addIpv4] at hok
  split at hok
  · cases hok
  · next hm =>
    split at hok
    · cases hok
    · next hhome =>
      split at hok
      · cases hok
      · next route hr =>
        cases hok
        exact ⟨by simpa using hm, by simpa using hhome, route, hr, rfl⟩

/-- A next-hop goes if no group of its network instance has it as a member. -/
theorem deleteNextHop_ok {h : NextHop} (hok : d.deleteNextHop h = .ok d') :
    (∀ k g, (d.aftOf h.inst).groups.get? k = some g → g.members.contains h.index = false) ∧
      d' = d.setAft h.inst { d.aftOf h.inst with
        nextHops := (d.aftOf h.inst).nextHops.erase h.index } := by
  rw [deleteNextHop] at hok
  split at hok
  · cases hok
  · split at hok
    · cases hok
    · next hno =>
      cases hok
      refine ⟨fun k g hg => ?_, rfl⟩
      rw [List.any_eq_true, not_exists] at hno
      have hmem : g ∈ (d.aftOf h.inst).groups.values := Table.mem_values_iff.2 ⟨k, hg⟩
      simpa [hmem] using hno g

/-- A group goes if no IPv4 entry resolves through it. -/
theorem deleteGroup_ok {g : NextHopGroup} (hok : d.deleteGroup g = .ok d') :
    d.usersOf g.inst g.id = [] ∧
      d' = d.setAft g.inst { d.aftOf g.inst with
        groups := (d.aftOf g.inst).groups.erase g.id } := by
  rw [deleteGroup] at hok
  split at hok
  · cases hok
  · next hno =>
    split at hok <;> cases hok
    exact ⟨by simpa using hno, rfl⟩

/-- An IPv4 entry goes, and its route is withdrawn. -/
theorem deleteIpv4_ok {e : Ipv4Entry} (hok : d.deleteIpv4 e = .ok d') :
    d' = (d.setAft e.inst { d.aftOf e.inst with
        ipv4 := (d.aftOf e.inst).ipv4.erase e.dest }).changeRib e.inst
      fun rib => rib.withdraw e.dest .gribi := by
  rw [deleteIpv4] at hok
  dsimp only at hok
  split at hok <;> cases hok
  rfl

/-- A successful operation is on an existing network instance and of one of six kinds. -/
theorem apply_ok {op : Operation} (hok : d.apply op = .ok d') :
    d.instances.contains op.entry.inst = true ∧
      ((∃ h, op.entry = .nextHop h ∧ (d.addNextHop h = .ok d' ∨ d.deleteNextHop h = .ok d')) ∨
        (∃ g, op.entry = .nextHopGroup g ∧ (d.addGroup g = .ok d' ∨ d.deleteGroup g = .ok d')) ∨
        ∃ e, op.entry = .ipv4 e ∧ (d.addIpv4 e = .ok d' ∨ d.deleteIpv4 e = .ok d')) := by
  rw [apply] at hok
  split at hok
  · cases hok
  · next hinst =>
    refine ⟨by simpa using hinst, ?_⟩
    split at hok
    · next h _ he => exact .inl ⟨h, he, .inr hok⟩
    · next g _ he => exact .inr (.inl ⟨g, he, .inr hok⟩)
    · next e _ he => exact .inr (.inr ⟨e, he, .inr hok⟩)
    · next h he _ => exact .inl ⟨h, he, .inl hok⟩
    · next g he _ => exact .inr (.inl ⟨g, he, .inl hok⟩)
    · next e he _ => exact .inr (.inr ⟨e, he, .inl hok⟩)

end Device

end RoutePreference
