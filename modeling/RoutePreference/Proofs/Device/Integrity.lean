import RoutePreference.Proofs.Device.WellFormed

/-!
# Integrity of programmed entries

* `Device.Referenced`: a next-hop that a group of its network instance has as a member, and a group
  that an IPv4 entry of its network instance resolves through;
* `WellFormed.contains_of_referenced`: what is referenced is there, and so is its network instance;
* `WellFormed.apply_delete`: deleting it is refused;
* `tables_well_formed`: in every reachable device, and between any two operations of a request, the
  programmed entries are well-formed and nothing referenced can be deleted.
-/

namespace RoutePreference

namespace Device

variable {settings : Settings} {d : Device}

/-- Whether another entry of the same network instance refers to an entry.  IPv4 entries are never
referred to. -/
def Referenced (d : Device) : AftEntry → Prop
  | .nextHop h => ∃ k g, (d.aftOf h.inst).groups.get? k = some g ∧
      g.members.contains h.index = true
  | .nextHopGroup g => ∃ p e, (d.aftOf g.inst).ipv4.get? p = some e ∧ e.groupHome = g.inst ∧
      e.group = g.id
  | .ipv4 _ => False

/-- A network instance with entries exists. -/
theorem WellFormed.contains_of_aftOf (hw : d.WellFormed) {n : String} (h : d.aftOf n ≠ {}) :
    d.instances.contains n = true := by
  rw [← contains_configured]
  apply hw.placed
  rw [aftOf] at h
  cases ht : d.aft.get? n with
  | none =>
    rw [ht] at h
    exact absurd rfl h
  | some t => exact Table.contains_of_get? ht

theorem WellFormed.contains_of_referenced (hw : d.WellFormed) {entry : AftEntry}
    (h : d.Referenced entry) : d.instances.contains entry.inst = true := by
  refine hw.contains_of_aftOf fun hempty => ?_
  cases entry with
  | nextHop h' =>
    obtain ⟨k, g, hg, -⟩ := h
    change d.aftOf h'.inst = {} at hempty
    rw [hempty] at hg
    cases hg
  | nextHopGroup g =>
    obtain ⟨p, e, he, -⟩ := h
    change d.aftOf g.inst = {} at hempty
    rw [hempty] at he
    cases he
  | ipv4 e => exact h

/-- A next-hop that a group has as a member is in use. -/
theorem WellFormed.deleteNextHop_referenced (hw : d.WellFormed) {h : NextHop}
    (href : d.Referenced (.nextHop h)) : d.deleteNextHop h = .error .inUse := by
  obtain ⟨k, g, hg, hm⟩ := href
  have hthere := (hw.tables h.inst).member k g h.index hg hm
  have hany : ((d.aftOf h.inst).groups.values.any fun g => g.members.contains h.index) = true :=
    List.any_eq_true.2 ⟨g, Table.mem_values_iff.2 ⟨k, hg⟩, hm⟩
  rw [deleteNextHop, hthere, hany]
  rfl

/-- A group that an IPv4 entry resolves through is in use. -/
theorem deleteGroup_referenced {g : NextHopGroup} (href : d.Referenced (.nextHopGroup g)) :
    d.deleteGroup g = .error .inUse := by
  obtain ⟨p, e, he, hhome, hid⟩ := href
  have huser : e ∈ d.usersOf g.inst g.id :=
    mem_usersOf_iff.2 ⟨mem_ipv4Entries_iff.2 ⟨g.inst, p, he⟩, hid, hhome⟩
  have hsome : (d.usersOf g.inst g.id).isEmpty = false := by
    rw [List.isEmpty_eq_false_iff]
    exact List.ne_nil_of_mem huser
  rw [deleteGroup, hsome]
  rfl

/-- **What is referenced isn't deleted.** -/
theorem WellFormed.apply_delete (hw : d.WellFormed) {op : Operation} (hverb : op.verb = .delete)
    (href : d.Referenced op.entry) : d.apply op = .error .inUse := by
  obtain ⟨id, verb, entry⟩ := op
  dsimp only at hverb href
  subst hverb
  rw [Device.apply, hw.contains_of_referenced href]
  cases entry with
  | nextHop h => exact hw.deleteNextHop_referenced href
  | nextHopGroup g => exact deleteGroup_referenced href
  | ipv4 e => exact href.elim

/-- **Programmed entries are well-formed and stay so.**  In every reachable device, and after any
number of operations of a request to it: only existing network instances hold entries, which stand
under their own keys, with usable addresses and without host bits, each group with members, all of
them programmed, and each IPv4 entry whose group lives in its own network instance with that group
programmed; and to delete a next-hop or a group that is still referenced within its network instance
changes nothing and fails, because it is in use or because the session isn't the primary one. -/
theorem tables_well_formed (hd : Reachable settings d) (primary : Bool) (ops : List Operation)
    {d' : Device} (hops : (d.performAll primary ops).1 = d') :
    (∀ n, d'.aft.contains n = true → d'.instances.contains n = true) ∧
      (∀ n, (d'.aftOf n).WellFormed n) ∧
      ∀ op : Operation, op.verb = .delete → d'.Referenced op.entry →
        d'.perform primary op = (d', {
          result := { id := op.id, status := .failed (if primary then .inUse else .notPrimary) }
          target := none }) := by
  have hw : d'.WellFormed := hops ▸ performAll_of_apply WellFormed.apply primary ops hd.wellFormed
  refine ⟨fun n hn => ?_, hw.tables, fun op hverb href => ?_⟩
  · rw [← contains_configured]
    exact hw.placed n hn
  · rw [perform]
    cases primary with
    | false => rfl
    | true =>
      simp only [if_true]
      rw [hw.apply_delete hverb href]

/-- An entry whose group lives in its own network instance. -/
def localEntry : Ipv4Entry :=
  { dest := crossedDest, group := 1, inst := defaultInstanceName, groupInst := none, tag := none }

/-- The operations that program the entry, from the next-hop up. -/
def localOperations : List Operation := [
  ⟨1, .add, .nextHop ⟨1, (Link.numbered 1).ate.ipv4, defaultInstanceName⟩⟩,
  ⟨2, .add, .nextHopGroup ⟨1, .ofList [(1, 1)], defaultInstanceName⟩⟩,
  ⟨3, .add, .ipv4 localEntry⟩]

/-- Addresses that no neighbour has: the unspecified one, a loopback one, a multicast one, and that
of all hosts. -/
def unusableAddresses : List Addr :=
  [.ofOctets 0 0 0 0, .ofOctets 127 0 0 1, .ofOctets 224 0 0 5, .ofOctets 255 255 255 255]

/-- After these operations neither the next-hop nor the group can be deleted, and the entry can; the
next-hop can't be given an address that no neighbour has. -/
theorem tables_well_formed_layered :
    let d := (linked.performAll true localOperations).1
    d.perform true ⟨4, .delete, .nextHop ⟨1, (Link.numbered 1).ate.ipv4, defaultInstanceName⟩⟩ =
        (d, { result := { id := 4, status := .failed .inUse }, target := none }) ∧
      d.perform true ⟨5, .delete, .nextHopGroup ⟨1, ∅, defaultInstanceName⟩⟩ =
        (d, { result := { id := 5, status := .failed .inUse }, target := none }) ∧
      (d.perform true ⟨6, .delete, .ipv4 localEntry⟩).2.result.status = .ribProgrammed ∧
      ∀ a ∈ unusableAddresses,
        d.perform true ⟨7, .replace, .nextHop ⟨1, a, defaultInstanceName⟩⟩ =
          (d, { result := { id := 7, status := .failed .invalidEntry }, target := none }) := by
  intro d
  have hafter : (linked.performAll true localOperations).1 = d := rfl
  obtain ⟨-, -, hrefused⟩ := tables_well_formed reachable_linked true localOperations hafter
  have hmember : (d.aftOf defaultInstanceName).groups.get? 1 =
      some ⟨1, .ofList [(1, 1)], defaultInstanceName⟩ := by decide +kernel
  have hentry : (d.aftOf defaultInstanceName).ipv4.get? crossedDest = some localEntry := by
    decide +kernel
  refine ⟨hrefused _ rfl ⟨1, _, hmember, by decide +kernel⟩,
    hrefused _ rfl ⟨crossedDest, localEntry, hentry, rfl, rfl⟩, by decide +kernel,
    by decide +kernel⟩

end Device

end RoutePreference
