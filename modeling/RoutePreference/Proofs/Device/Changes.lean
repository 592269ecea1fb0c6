import RoutePreference.Device.Configuration
import RoutePreference.Device.Programming
import RoutePreference.Proofs.Rib.Settling

/-!
# What changes of routing touch

* `ConfiguredInstance`, `Device.configured`: the network instances without their routing tables,
  which changes of routes leave alone;
* `get?_changeRib`: a change of one routing table, seen from every network instance;
* `entryRoute?_congr`: the route of an entry depends on the programmed entries alone;
* `get?_reroute`, `aft_foldl_reroute`: re-resolving IPv4 entries;
* `flushInstance_eq`, `aftOf_flushInstance`, `get?_flushInstance`: flushing a network instance.

The settings, the interfaces and the programmed entries are no part of a routing table, so the
lemmas about them come in families and are there for simplification.
-/

namespace RoutePreference

/-- What is configured about a network instance. -/
structure ConfiguredInstance where
  type : InstanceType
  statics : Table Network StaticRoute
deriving DecidableEq

/-- The network instance without its routing table. -/
def Instance.configured (i : Instance) : ConfiguredInstance :=
  { type := i.type, statics := i.statics }

namespace Device

/-! ### The configured network instances -/

/-- The network instances without their routing tables. -/
def configured (d : Device) : Table String ConfiguredInstance :=
  d.instances.mapValues fun _ i => i.configured

theorem get?_configured (d : Device) (n : String) :
    d.configured.get? n = (d.instances.get? n).map Instance.configured :=
  Table.get?_mapValues _ _ _

@[simp] theorem contains_configured (d : Device) (n : String) :
    d.configured.contains n = d.instances.contains n := Table.contains_mapValues _ _ _

/-- Devices whose network instances differ in their routing tables at most. -/
theorem configured_congr {d d' : Device} {f : String → Rib → Rib}
    (h : ∀ n, d'.instances.get? n =
      (d.instances.get? n).map fun i => { i with rib := f n i.rib }) :
    d'.configured = d.configured := by
  refine Table.ext_get? fun n => ?_
  rw [get?_configured, get?_configured, h]
  cases d.instances.get? n <;> rfl

/-! ### One routing table -/

section ChangeRib

variable (d : Device) (inst n : String) (f : Rib → Rib × Bool)

@[simp] theorem settings_changeRib : (d.changeRib inst f).settings = d.settings := by
  rw [changeRib]; split <;> rfl

@[simp] theorem interfaces_changeRib : (d.changeRib inst f).interfaces = d.interfaces := by
  rw [changeRib]; split <;> rfl

@[simp] theorem aft_changeRib : (d.changeRib inst f).aft = d.aft := by
  rw [changeRib]; split <;> rfl

@[simp] theorem aftOf_changeRib : (d.changeRib inst f).aftOf n = d.aftOf n := by
  rw [aftOf, aft_changeRib, aftOf]

/-- Only the routing table of the named network instance changes. -/
theorem get?_changeRib : (d.changeRib inst f).instances.get? n =
    if inst = n then (d.instances.get? n).map fun i => { i with rib := (f i.rib).1 }
    else d.instances.get? n := by
  rw [changeRib]
  by_cases hn : inst = n
  · subst hn
    cases hi : d.instances.get? inst with
    | none => simp [hi]
    | some i => simp
  · rw [if_neg hn]
    cases hi : d.instances.get? inst with
    | none => rfl
    | some i => exact Table.get?_insert_of_ne _ hn _

@[simp] theorem configured_changeRib : (d.changeRib inst f).configured = d.configured := by
  refine configured_congr (f := fun n rib => if inst = n then (f rib).1 else rib) fun n => ?_
  rw [get?_changeRib]
  by_cases hn : inst = n <;> simp [hn]

end ChangeRib

/-! ### The routes of IPv4 entries -/

theorem entryRoute?_congr {d d' : Device} {e : Ipv4Entry}
    (h : d'.aftOf e.groupHome = d.aftOf e.groupHome) : d'.entryRoute? e = d.entryRoute? e := by
  simp only [entryRoute?, h]

section Reroute

variable (d : Device) (e : Ipv4Entry)

@[simp] theorem aft_reroute : (d.reroute e).aft = d.aft := by
  rw [reroute]; split <;> simp

@[simp] theorem configured_reroute : (d.reroute e).configured = d.configured := by
  rw [reroute]; split <;> simp

/-- Re-resolving an entry installs its current route, if it has one, and touches nothing else. -/
theorem get?_reroute (n : String) : (d.reroute e).instances.get? n =
    if e.inst = n then (d.instances.get? n).map fun i =>
      { i with rib := ((d.entryRoute? e).map fun r =>
          (i.rib.install e.dest .gribi r).1).getD i.rib }
    else d.instances.get? n := by
  rw [reroute]
  cases d.entryRoute? e with
  | none => simp
  | some r => rw [get?_changeRib]; rfl

theorem aft_foldl_reroute (l : List Ipv4Entry) : (l.foldl reroute d).aft = d.aft := by
  induction l generalizing d with
  | nil => rfl
  | cons e l ih => rw [List.foldl_cons, ih, aft_reroute]

theorem configured_foldl_reroute (l : List Ipv4Entry) :
    (l.foldl reroute d).configured = d.configured := by
  induction l generalizing d with
  | nil => rfl
  | cons e l ih => rw [List.foldl_cons, ih, configured_reroute]

end Reroute

/-- The programmed IPv4 entries are those that the network instances hold. -/
theorem mem_ipv4Entries_iff {d : Device} {e : Ipv4Entry} :
    e ∈ d.ipv4Entries ↔ ∃ n p, (d.aftOf n).ipv4.get? p = some e := by
  simp only [ipv4Entries, List.mem_flatMap, Table.mem_values_iff, aftOf]
  constructor
  · rintro ⟨t, ⟨n, hn⟩, p, hp⟩
    exact ⟨n, p, by rw [hn]; exact hp⟩
  · rintro ⟨n, p, hp⟩
    cases hn : d.aft.get? n with
    | none =>
      rw [hn] at hp
      cases hp
    | some t =>
      rw [hn] at hp
      exact ⟨t, ⟨n, hn⟩, p, hp⟩

theorem mem_usersOf_iff {d : Device} {home : String} {group : Nat} {e : Ipv4Entry} :
    e ∈ d.usersOf home group ↔ e ∈ d.ipv4Entries ∧ e.group = group ∧ e.groupHome = home := by
  simp [usersOf]

/-! ### One network instance -/

/-- Puts a network instance in place. -/
def setInstance (d : Device) (name : String) (i : Instance) : Device :=
  { d with instances := d.instances.insert name i }

/-- Takes a network instance away. -/
def dropInstance (d : Device) (name : String) : Device :=
  { d with instances := d.instances.erase name }

section SetInstance

variable (d : Device) (name n : String) (i : Instance)

@[simp] theorem aftOf_setInstance : (d.setInstance name i).aftOf n = d.aftOf n := rfl

theorem get?_setInstance : (d.setInstance name i).instances.get? n =
    if name = n then some i else d.instances.get? n := Table.get?_insert _ _ _ _

theorem configured_setInstance :
    (d.setInstance name i).configured = d.configured.insert name i.configured := by
  refine Table.ext_get? fun m => ?_
  rw [get?_configured, get?_setInstance, Table.get?_insert, get?_configured]
  split <;> rfl

theorem get?_dropInstance : (d.dropInstance name).instances.get? n =
    if name = n then none else d.instances.get? n := Table.get?_erase _ _ _

theorem configured_dropInstance :
    (d.dropInstance name).configured = d.configured.erase name := by
  refine Table.ext_get? fun m => ?_
  rw [get?_configured, get?_dropInstance, Table.get?_erase, get?_configured]
  split <;> rfl

end SetInstance

/-! ### Entries of a network instance -/

/-- Forgets the entries programmed in a network instance. -/
def forgetAft (d : Device) (inst : String) : Device := { d with aft := d.aft.erase inst }

section SetAft

variable (d : Device) (inst n : String) (t : AftTables)

@[simp] theorem aftOf_setAft_self : (d.setAft inst t).aftOf inst = t := by
  simp [aftOf, setAft]

theorem aftOf_setAft_of_ne {inst n : String} (h : inst ≠ n) :
    (d.setAft inst t).aftOf n = d.aftOf n := by
  rw [aftOf, setAft, Table.get?_insert_of_ne _ h, aftOf]

theorem aftOf_setAft : (d.setAft inst t).aftOf n = if inst = n then t else d.aftOf n := by
  split
  · next h => rw [← h, aftOf_setAft_self]
  · next h => exact aftOf_setAft_of_ne d t h

/-- Other next-hops and groups leave the IPv4 entries as they are. -/
theorem ipv4_aftOf_setAft {d : Device} {inst : String} {t : AftTables}
    (ht : t.ipv4 = (d.aftOf inst).ipv4) (n : String) :
    ((d.setAft inst t).aftOf n).ipv4 = (d.aftOf n).ipv4 := by
  rw [aftOf_setAft]
  split
  · next h => rw [ht, h]
  · rfl

@[simp] theorem instances_setAft : (d.setAft inst t).instances = d.instances := rfl

theorem aftOf_forgetAft : (d.forgetAft inst).aftOf n = if inst = n then {} else d.aftOf n := by
  rw [aftOf, forgetAft, Table.get?_erase]
  split <;> rfl

@[simp] theorem instances_forgetAft : (d.forgetAft inst).instances = d.instances := rfl

end SetAft

/-! ### Flushing -/

/-- Withdraws the programmed routes of the listed destinations. -/
def withdrawAll (inst : String) (dests : List Network) (d : Device) : Device :=
  dests.foldl (fun d dest => d.changeRib inst fun rib => rib.withdraw dest .gribi) d

/-- Flushing a network instance that holds programmed entries forgets them and withdraws their
routes. -/
theorem flushInstance_eq (d : Device) (inst : String) :
    d.flushInstance inst =
      (d.forgetAft inst).withdrawAll inst (d.aftOf inst).ipv4.keys := by
  rw [flushInstance, aftOf]
  cases h : d.aft.get? inst with
  | none =>
    -- nothing is programmed, so there is nothing to forget
    rw [forgetAft, Table.erase_eq_self h]
    rfl
  | some t => rfl

section WithdrawAll

variable (inst : String) (dests : List Network) (d : Device)

@[simp] theorem aft_withdrawAll : (d.withdrawAll inst dests).aft = d.aft := by
  induction dests generalizing d with
  | nil => rfl
  | cons p l ih => rw [withdrawAll, List.foldl_cons]; exact (ih _).trans (aft_changeRib ..)

@[simp] theorem configured_withdrawAll :
    (d.withdrawAll inst dests).configured = d.configured := by
  induction dests generalizing d with
  | nil => rfl
  | cons p l ih => rw [withdrawAll, List.foldl_cons]; exact (ih _).trans (configured_changeRib ..)

/-- Only the routing table of the flushed network instance changes. -/
theorem get?_withdrawAll (n : String) : (d.withdrawAll inst dests).instances.get? n =
    if inst = n then (d.instances.get? n).map fun i =>
      { i with rib := dests.foldl (fun rib p => (rib.withdraw p .gribi).1) i.rib }
    else d.instances.get? n := by
  induction dests generalizing d with
  | nil => cases hi : d.instances.get? n <;> simp [withdrawAll, hi]
  | cons p l ih =>
    refine (ih _).trans ?_
    rw [get?_changeRib]
    by_cases hn : inst = n
    · simp only [hn, if_true, Option.map_map]
      rfl
    · simp only [hn, if_false]

end WithdrawAll

theorem aftOf_flushInstance (d : Device) (inst x : String) :
    (d.flushInstance inst).aftOf x = if inst = x then {} else d.aftOf x := by
  rw [flushInstance_eq, aftOf, aft_withdrawAll, ← aftOf, aftOf_forgetAft]

theorem get?_flushInstance (d : Device) (inst n : String) :
    (d.flushInstance inst).instances.get? n =
      if inst = n then (d.instances.get? n).map fun i =>
        { i with rib :=
            (d.aftOf inst).ipv4.keys.foldl (fun rib p => (rib.withdraw p .gribi).1) i.rib }
      else d.instances.get? n := by
  rw [flushInstance_eq, get?_withdrawAll, instances_forgetAft]

/-- Flushing every network instance that holds entries leaves none. -/
theorem aftOf_flushAll (d : Device) (x : String) :
    (d.aft.keys.foldl flushInstance d).aftOf x = {} := by
  have hfold : ∀ (names : List String) (d : Device),
      (names.foldl flushInstance d).aftOf x = if x ∈ names then {} else d.aftOf x := by
    intro names
    induction names with
    | nil => simp
    | cons n names ih =>
      intro d
      rw [List.foldl_cons, ih, aftOf_flushInstance]
      by_cases hx : n = x
      · simp [hx]
      · simp [hx, Ne.symm hx]
  rw [hfold]
  split
  · rfl
  · next hno => rw [aftOf, Table.get?_eq_none_of_not_mem_keys hno]; rfl

end Device

end RoutePreference
