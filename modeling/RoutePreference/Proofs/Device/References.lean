import RoutePreference.Proofs.Device.History
import RoutePreference.Proofs.Device.WellFormed

/-!
# References to other network instances

* `Device.ReferenceIntact`: the group that an IPv4 entry looks up in another network instance is
  there, with all its members;
* `Device.Strands`: flushing or deleting a network instance that holds the group of an entry of
  another one;
* `Device.GroupHeld`: as much of an intact reference as well-formedness doesn't imply;
* `GroupHeld.step_iff`: an event breaks an intact reference exactly if it strands the entry;
* `reference_intact_iff`: so references are intact throughout a history exactly if no entry is
  stranded in it.

Deleting a group asks for its users in every network instance; flushing and deleting a network
instance ask for none.
-/

namespace RoutePreference

namespace Device

variable {settings : Settings} {d d' : Device} {n : String} {p : Network}

/-- Whether the group that the entry for a destination looks up in another network instance is
there, with all its members. -/
def ReferenceIntact (d : Device) (n : String) (p : Network) : Prop :=
  ∀ e, (d.aftOf n).ipv4.get? p = some e → e.groupHome ≠ n →
    d.instances.contains e.groupHome = true ∧
      ∃ g, (d.aftOf e.groupHome).groups.get? e.group = some g ∧
        ∀ m, g.members.contains m = true → (d.aftOf e.groupHome).nextHops.contains m = true

/-- Whether the entry for a destination looks up its group in the named other network instance. -/
def RefersTo (d : Device) (n : String) (p : Network) (home : String) : Prop :=
  home ≠ n ∧ ∃ e, (d.aftOf n).ipv4.get? p = some e ∧ e.groupHome = home

/-- Whether an event takes away all groups of the network instance in which the entry for a
destination looks up its own, without asking for the entry. -/
def Strands (n : String) (p : Network) (d : Device) : Event → Prop
  | .serve _ (.flush client inst) => (∃ d', d.flush client inst = .ok d') ∧ d.RefersTo n p inst
  | .serve _ (.deleteInstance name) =>
    (∃ d', d.deleteInstance name = .ok d') ∧ d.RefersTo n p name
  | _ => False

/-! ### The group of an entry -/

/-- Whether the group that the entry for a destination looks up in another network instance is
there. -/
def GroupHeld (n : String) (p : Network) (d : Device) : Prop :=
  ∀ e, (d.aftOf n).ipv4.get? p = some e → e.groupHome ≠ n →
    (d.aftOf e.groupHome).groups.contains e.group = true

/-- Groups are in existing network instances only, and their members are there with them. -/
theorem WellFormed.referenceIntact_iff (hw : d.WellFormed) :
    d.ReferenceIntact n p ↔ GroupHeld n p d := by
  refine forall_congr' fun e => forall_congr' fun _ => forall_congr' fun _ => ?_
  constructor
  · rintro ⟨-, g, hg, -⟩
    exact Table.contains_of_get? hg
  · intro hc
    obtain ⟨g, hg⟩ := Table.contains_iff.1 hc
    refine ⟨?_, g, hg, fun m => (hw.tables e.groupHome).member _ g m hg⟩
    rw [← contains_configured]
    apply hw.placed
    -- without tables there would be no group
    rw [aftOf] at hg
    cases ht : d.aft.get? e.groupHome with
    | none =>
      rw [ht] at hg
      cases hg
    | some t => exact Table.contains_of_get? ht

namespace GroupHeld

/-- A change that keeps the entry and takes no group away. -/
theorem mono (h : GroupHeld n p d) (he : (d'.aftOf n).ipv4.get? p = (d.aftOf n).ipv4.get? p)
    (hg : ∀ home id, (d.aftOf home).groups.contains id = true →
      (d'.aftOf home).groups.contains id = true) : GroupHeld n p d' := by
  intro e hentry hcross
  rw [he] at hentry
  exact hg _ _ (h e hentry hcross)

theorem congr (h : GroupHeld n p d) (ha : d'.aft = d.aft) : GroupHeld n p d' := by
  have hof : ∀ x, d'.aftOf x = d.aftOf x := fun x => by rw [aftOf, ha, aftOf]
  exact h.mono (by rw [hof]) fun home id hc => by rwa [hof]

/-- Other next-hops, and groups that include the old ones, in one network instance. -/
theorem setAft (h : GroupHeld n p d) {inst : String} {t : AftTables}
    (he : t.ipv4 = (d.aftOf inst).ipv4)
    (hg : ∀ id, (d.aftOf inst).groups.contains id = true → t.groups.contains id = true) :
    GroupHeld n p (d.setAft inst t) := by
  refine h.mono (by rw [ipv4_aftOf_setAft he]) fun home id hc => ?_
  rw [aftOf_setAft]
  split
  · next hn => exact hg id (hn ▸ hc)
  · exact hc

theorem refresh (h : GroupHeld n p d) (home : String) (ids : List Nat) :
    GroupHeld n p (d.refresh home ids) := h.congr (aft_foldl_reroute ..)

/-- A group that no entry resolves through may go. -/
theorem deleteGroup {g : NextHopGroup} (h : GroupHeld n p d) (hok : d.deleteGroup g = .ok d') :
    GroupHeld n p d' := by
  obtain ⟨hno, rfl⟩ := deleteGroup_ok hok
  intro e he hcross
  rw [ipv4_aftOf_setAft (by rfl)] at he
  have hheld := h e he hcross
  rw [aftOf_setAft]
  split
  · next hhome =>
    have hid : g.id ≠ e.group := by
      intro hid
      have hmem : e ∈ d.usersOf g.inst g.id :=
        mem_usersOf_iff.2 ⟨mem_ipv4Entries_iff.2 ⟨n, p, he⟩, hid.symm, hhome.symm⟩
      rw [hno] at hmem
      cases hmem
    rw [Table.contains_erase, hhome, hheld]
    simp [hid]
  · exact hheld

/-- Other entries for destinations in one network instance, each of which has its group. -/
theorem setIpv4 (h : GroupHeld n p d) {inst : String} {ipv4 : Table Network Ipv4Entry}
    (he : ∀ e, ipv4.get? p = some e → (d.aftOf inst).ipv4.get? p = some e ∨
      (d.aftOf e.groupHome).groups.contains e.group = true) :
    GroupHeld n p (d.setAft inst { d.aftOf inst with ipv4 }) := by
  have hgroups : ∀ x, ((d.setAft inst { d.aftOf inst with ipv4 }).aftOf x).groups =
      (d.aftOf x).groups := by
    intro x
    rw [aftOf_setAft]
    split
    · next hx => rw [hx]
    · rfl
  intro e hentry hcross
  rw [hgroups]
  rw [aftOf_setAft] at hentry
  split at hentry
  · next hn =>
    obtain hold | hheld := he e hentry
    · exact h e (hn ▸ hold) hcross
    · exact hheld
  · exact h e hentry hcross

/-- An entry is added only if it resolves, so its group is there. -/
theorem addIpv4 {e : Ipv4Entry} (h : GroupHeld n p d) (hok : d.addIpv4 e = .ok d') :
    GroupHeld n p d' := by
  obtain ⟨-, -, route, hr, rfl⟩ := addIpv4_ok hok
  refine (h.setIpv4 fun x hx => ?_).congr (aft_changeRib ..)
  rw [Table.get?_insert] at hx
  split at hx
  · cases hx
    obtain ⟨g, -, hg, -⟩ := entryRoute?_eq_some_iff.1 hr
    exact .inr (Table.contains_of_get? hg)
  · exact .inl hx

theorem deleteIpv4 {e : Ipv4Entry} (h : GroupHeld n p d) (hok : d.deleteIpv4 e = .ok d') :
    GroupHeld n p d' := by
  obtain rfl := deleteIpv4_ok hok
  refine (h.setIpv4 fun x hx => ?_).congr (aft_changeRib ..)
  rw [Table.get?_erase] at hx
  split at hx
  · cases hx
  · exact .inl hx

/-- **One operation** never takes away the group of an entry. -/
theorem apply {op : Operation} (h : GroupHeld n p d) (hok : d.apply op = .ok d') :
    GroupHeld n p d' := by
  obtain ⟨-, ⟨nh, -, hadd | hdel⟩ | ⟨g, -, hadd | hdel⟩ | ⟨e, -, hadd | hdel⟩⟩ := apply_ok hok
  · obtain ⟨-, groups, rfl, -⟩ := addNextHop_ok hadd
    refine GroupHeld.refresh ?_ _ _
    exact h.setAft rfl fun _ hc => hc
  · obtain ⟨-, rfl⟩ := deleteNextHop_ok hdel
    exact h.setAft rfl fun _ hc => hc
  · obtain ⟨-, -, ids, rfl, -⟩ := addGroup_ok hadd
    refine GroupHeld.refresh ?_ _ _
    exact h.setAft rfl fun id hc => by rw [Table.contains_insert, hc, Bool.or_true]
  · exact h.deleteGroup hdel
  · exact h.addIpv4 hadd
  · exact h.deleteIpv4 hdel

/-! ### Bulk removal -/

/-- Forgetting the entries of a network instance takes away the group of exactly those entries of
others that refer to it. -/
theorem forget_iff (h : GroupHeld n p d) {name : String}
    (ha : ∀ x, d'.aftOf x = if name = x then {} else d.aftOf x) :
    GroupHeld n p d' ↔ ¬ d.RefersTo n p name := by
  constructor
  · rintro h' ⟨hne, e, he, rfl⟩
    have he' : (d'.aftOf n).ipv4.get? p = some e := by rw [ha, if_neg hne, he]
    have hheld := h' e he' hne
    rw [ha, if_pos rfl] at hheld
    cases hheld
  · intro hno e he hcross
    rw [ha] at he
    split at he
    · cases he
    · next hn =>
      have hhome : name ≠ e.groupHome := by
        rintro rfl
        exact hno ⟨hcross, e, he, rfl⟩
      rw [ha, if_neg hhome]
      exact h e he hcross

end GroupHeld

/-- Closing a session flushes everything or nothing, which strands no entry. -/
theorem GroupHeld.close {client : Nat} (h : GroupHeld n p d) (hok : d.close client = .ok d') :
    GroupHeld n p d' := by
  obtain rfl | rfl := close_cases hok
  · exact h.congr rfl
  · intro e he
    rw [aftOf_flushAll { d with sessions := d.sessions.erase client }] at he
    cases he

/-! ### Events -/

theorem routine_groupHeld : Routine (GroupHeld n p) where
  same h hs := h.congr hs.aft
  configureDut h hok := by
    obtain rfl | rfl := configureDut_ok hok
    · exact h
    · exact h.congr rfl
  replaceInstance h hok := by
    obtain ⟨-, i, rfl, -⟩ := replaceInstance_ok hok
    exact h.congr rfl
  replaceStatic h hok := by
    obtain ⟨i, -, ⟨-, rfl⟩ | rfl⟩ := replaceStatic_ok hok
    · exact h
    · exact h.congr (aft_changeRib ..)
  deleteStatic h hok := by
    obtain ⟨i, -, ⟨-, rfl⟩ | rfl⟩ := deleteStatic_ok hok
    · exact h
    · exact h.congr (aft_changeRib ..)

/-- A change that may be refused, and takes the group away exactly if it isn't. -/
theorem GroupHeld.settled_iff (h : GroupHeld n p d) {r : Except Refusal Device} {Q : Prop}
    (hr : ∀ d', r = .ok d' → (GroupHeld n p d' ↔ ¬ Q)) :
    GroupHeld n p (d.settled r).1 ↔ ¬ ((∃ d', r = .ok d') ∧ Q) := by
  cases r with
  | error e =>
    refine ⟨fun _ hq => ?_, fun _ => h⟩
    obtain ⟨⟨d', hok⟩, -⟩ := hq
    cases hok
  | ok d' => exact (hr d' rfl).trans (by simp)

/-- **One event** takes the group of an entry away exactly if it strands the entry. -/
theorem GroupHeld.step_iff (h : GroupHeld n p d) (ev : Event) :
    GroupHeld n p (d.step ev) ↔ ¬ Strands n p d ev := by
  cases ev with
  | process => exact ⟨fun _ hs => hs, fun _ => h.congr rfl⟩
  | serve ticket r =>
    cases r with
    | flush client inst =>
      refine h.settled_iff fun d' hok => ?_
      obtain ⟨-, -, rfl⟩ := flush_ok hok
      exact h.forget_iff (aftOf_flushInstance d inst)
    | deleteInstance name =>
      refine h.settled_iff fun d' hok => ?_
      obtain rfl := deleteInstance_ok hok
      exact h.forget_iff (aftOf_forgetAft (d.dropInstance name) name)
    | modify client ops =>
      refine ⟨fun _ hs => hs, fun _ => ?_⟩
      exact submit_of_apply (fun h hs => h.congr hs.aft) GroupHeld.apply ticket client ops h
    | close client =>
      exact ⟨fun _ hs => hs, fun _ => settled_of_ok (fun _ hok => h.close hok) h⟩
    | _ => exact ⟨fun _ hs => hs, fun _ => routine_groupHeld.serve ticket rfl h⟩

/-! ### Histories -/

/-- **References to other network instances are intact exactly as long as no flush and no deletion
of a network instance strands the entry.**  From any reachable device in which the reference of an
entry is intact, so in particular from the start: it is intact after every part of a history if and
only if at no point of the history an existing network instance is flushed, or deleted, in which
the entry looks up its group. -/
theorem reference_intact_iff (hd : Reachable settings d) (hi : d.ReferenceIntact n p)
    (h : List Event) :
    (∀ h', h' <+: h → (d.after h').ReferenceIntact n p) ↔
      ∀ h' ev, h' ++ [ev] <+: h → ¬ Strands n p (d.after h') ev := by
  have hheld : (∀ h', h' <+: h → (d.after h').ReferenceIntact n p) ↔
      ∀ h', h' <+: h → GroupHeld n p (d.after h') :=
    forall_congr' fun h' => forall_congr' fun _ => (hd.after h').wellFormed.referenceIntact_iff
  rw [hheld]
  exact throughout_iff (fun _ h ev => h.step_iff ev) hd (hd.wellFormed.referenceIntact_iff.1 hi) h

/-- Deleting the group is refused, but flushing the network instance that holds it isn't. -/
theorem reference_intact_iff_crossed :
    (∀ h', h' <+: [.serve 0 (.modify 1 [⟨4, .delete, .nextHopGroup ⟨1, ∅, homeName⟩⟩])] →
      (crossed.after h').ReferenceIntact defaultInstanceName crossedDest) ∧
    ¬ ∀ h', h' <+: [.serve 0 (.flush 1 homeName)] →
      (crossed.after h').ReferenceIntact defaultInstanceName crossedDest := by
  have hi : crossed.ReferenceIntact defaultInstanceName crossedDest := by
    rw [reachable_crossed.wellFormed.referenceIntact_iff]
    intro e he _
    rw [crossed_entry] at he
    cases he
    decide +kernel
  refine ⟨(reference_intact_iff reachable_crossed hi _).2 fun h' ev hpre => ?_, fun hall => ?_⟩
  · -- there is one event only, and operations strand no entry
    obtain _ | ⟨a, l⟩ := h'
    · obtain rfl : ev = _ := by simpa using hpre
      exact id
    · simpa using (List.cons_prefix_cons.1 hpre).2
  · refine (reference_intact_iff reachable_crossed hi _).1 hall [] _ List.prefix_rfl ?_
    exact ⟨⟨crossed.flushInstance homeName, by rfl⟩,
      by decide +kernel, crossedEntry, crossed_entry, rfl⟩

/-- **An entry can outlive the group that it resolves through**, after a flush as well as after a
deletion of the network instance that holds the group. -/
theorem bulk_removal_strands_entry :
    (∃ d, Reachable .standard d ∧ (crossed.serve 0 (.flush 1 homeName)).1 = d ∧
      ¬ d.ReferenceIntact defaultInstanceName crossedDest) ∧
    ∃ d, Reachable .standard d ∧ (crossed.serve 0 (.deleteInstance homeName)).1 = d ∧
      ¬ d.ReferenceIntact defaultInstanceName crossedDest := by
  have hflush : ((crossed.serve 0 (.flush 1 homeName)).1.aftOf defaultInstanceName).ipv4.get?
      crossedDest = some crossedEntry := by decide +kernel
  have hdelete : ((crossed.serve 0 (.deleteInstance homeName)).1.aftOf
      defaultInstanceName).ipv4.get? crossedDest = some crossedEntry := by decide +kernel
  refine ⟨⟨_, reachable_crossed.serve 0 _, rfl, fun hi => ?_⟩,
    ⟨_, reachable_crossed.serve 0 _, rfl, fun hi => ?_⟩⟩
  · obtain ⟨-, g, hg, -⟩ := hi crossedEntry hflush (by decide)
    have hnone : ((crossed.serve 0 (.flush 1 homeName)).1.aftOf
      crossedEntry.groupHome).groups.get? crossedEntry.group = none := by decide +kernel
    rw [hnone] at hg
    cases hg
  · obtain ⟨hinst, -⟩ := hi crossedEntry hdelete (by decide)
    have hgone : (crossed.serve 0 (.deleteInstance homeName)).1.instances.contains
      crossedEntry.groupHome = false := by decide +kernel
    rw [hgone] at hinst
    cases hinst

end Device

end RoutePreference
