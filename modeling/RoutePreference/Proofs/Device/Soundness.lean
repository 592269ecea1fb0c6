import RoutePreference.Proofs.Device.Outcomes
import RoutePreference.Proofs.Device.Reachable

/-!
# Forwarding follows routing

* `Device.Sound`: every routing table of the device is sound for the interfaces as they are;
* `kept_sound`: every change of routing keeps that;
* `unqueued_destination_settled`: what it says about the reachable devices.

Each operation that can change the choice of a route queues the destinations that it concerns:
installing and withdrawing are the only ways to change the routes of a destination, and a change
of interfaces queues whatever has routes.
-/

namespace RoutePreference

namespace Device

/-- Whether every destination of every network instance is settled, unless it is queued. -/
def Sound (d : Device) : Prop :=
  ∀ n i, d.instances.get? n = some i → i.rib.Sound d.settings.preference d.interfaces

variable {d d' : Device}

theorem Sound.congr (h : d.Sound) (hs : d'.settings = d.settings)
    (hi : d'.interfaces = d.interfaces) (hn : d'.instances = d.instances) : d'.Sound := by
  rw [Sound, hs, hi, hn]
  exact h

theorem Sound.setInstance (h : d.Sound) {name : String} {i : Instance}
    (hi : i.rib.Sound d.settings.preference d.interfaces) : (d.setInstance name i).Sound := by
  intro n j hj
  rw [get?_setInstance] at hj
  split at hj
  · cases hj
    exact hi
  · exact h n j hj

theorem Sound.setAft (h : d.Sound) (inst : String) (t : AftTables) : (d.setAft inst t).Sound := h

theorem Sound.forgetAft (h : d.Sound) (inst : String) : (d.forgetAft inst).Sound := h

/-- Changes that queue what they touch keep the device sound. -/
theorem Sound.changeRib (h : d.Sound) {inst : String} {f : Rib → Rib × Bool}
    (hf : ∀ rib, Rib.Edits rib (f rib).1) : (d.changeRib inst f).Sound := by
  intro n j hj
  rw [settings_changeRib, interfaces_changeRib]
  rw [get?_changeRib] at hj
  split at hj
  · obtain ⟨i, hi, rfl⟩ := Option.map_eq_some_iff.1 hj
    exact (h n i hi).edits (hf i.rib)
  · exact h n j hj

theorem Sound.install (h : d.Sound) (inst : String) (dest : Network) (c : Channel) (r : Route) :
    (d.changeRib inst fun rib => rib.install dest c r).Sound :=
  h.changeRib fun rib => rib.edits_install dest c r

theorem Sound.withdraw (h : d.Sound) (inst : String) (dest : Network) (c : Channel) :
    (d.changeRib inst fun rib => rib.withdraw dest c).Sound :=
  h.changeRib fun rib => rib.edits_withdraw dest c

theorem Sound.foldl_reroute (h : d.Sound) (l : List Ipv4Entry) : (l.foldl reroute d).Sound := by
  induction l generalizing d with
  | nil => exact h
  | cons e l ih =>
    refine ih ?_
    rw [reroute]
    split
    · exact h.install _ _ _ _
    · exact h

theorem Sound.withdrawAll (h : d.Sound) (inst : String) (dests : List Network) :
    (d.withdrawAll inst dests).Sound := by
  induction dests generalizing d with
  | nil => exact h
  | cons p l ih => exact ih (h.withdraw inst p .gribi)

/-! ### The changes of routing -/

theorem Sound.configureDut {cfg : DutInterface} (h : d.Sound)
    (hok : d.configureDut cfg = .ok d') : d'.Sound := by
  obtain rfl | rfl := configureDut_ok hok
  · exact h
  · intro n j hj
    rw [Table.get?_mapValues] at hj
    obtain ⟨i, hi, rfl⟩ := Option.map_eq_some_iff.1 hj
    exact (h n i hi).requeueAll _

theorem Sound.replaceInstance {cfg : InstanceConfig} (h : d.Sound)
    (hok : d.replaceInstance cfg = .ok d') : d'.Sound := by
  obtain ⟨-, i, rfl, hi | ⟨-, -, hrib⟩⟩ := replaceInstance_ok hok
  · exact h.setInstance (h _ i hi)
  · refine h.setInstance ?_
    rw [hrib]
    exact Rib.Sound.empty

theorem Sound.deleteInstance {name : String} (h : d.Sound)
    (hok : d.deleteInstance name = .ok d') : d'.Sound := by
  obtain rfl := deleteInstance_ok hok
  intro n j hj
  rw [instances_forgetAft, get?_dropInstance] at hj
  split at hj
  · cases hj
  · exact h n j hj

theorem Sound.replaceStatic {cfg : StaticRoute} (h : d.Sound)
    (hok : d.replaceStatic cfg = .ok d') : d'.Sound := by
  obtain ⟨i, hi, ⟨-, rfl⟩ | rfl⟩ := replaceStatic_ok hok
  · exact h
  · refine Sound.install ?_ _ _ _ _
    exact h.setInstance (h _ i hi)

theorem Sound.deleteStatic {inst : String} {dest : Network} (h : d.Sound)
    (hok : d.deleteStatic inst dest = .ok d') : d'.Sound := by
  obtain ⟨i, hi, ⟨-, rfl⟩ | rfl⟩ := deleteStatic_ok hok
  · exact h
  · refine Sound.withdraw ?_ _ _ _
    exact h.setInstance (h _ i hi)

theorem Sound.apply {op : Operation} (h : d.Sound) (hok : d.apply op = .ok d') : d'.Sound := by
  obtain ⟨-, ⟨nh, -, hadd | hdel⟩ | ⟨g, -, hadd | hdel⟩ | ⟨e, -, hadd | hdel⟩⟩ := apply_ok hok
  · obtain ⟨-, groups, rfl, -⟩ := addNextHop_ok hadd
    exact (h.setAft _ _).foldl_reroute _
  · obtain ⟨-, rfl⟩ := deleteNextHop_ok hdel
    exact h.setAft _ _
  · obtain ⟨-, -, ids, rfl, -⟩ := addGroup_ok hadd
    exact (h.setAft _ _).foldl_reroute _
  · obtain ⟨-, rfl⟩ := deleteGroup_ok hdel
    exact h.setAft _ _
  · obtain ⟨-, -, route, -, rfl⟩ := addIpv4_ok hadd
    exact (h.setAft _ _).install _ _ _ _
  · obtain rfl := deleteIpv4_ok hdel
    exact (h.setAft _ _).withdraw _ _ _

theorem Sound.flushInstance (h : d.Sound) (inst : String) : (d.flushInstance inst).Sound := by
  rw [flushInstance_eq]
  exact (h.forgetAft inst).withdrawAll _ _

theorem Sound.settleRoutes (h : d.Sound) : d.settleRoutes.Sound := by
  intro n j hj
  rw [Device.settleRoutes, Table.get?_mapValues] at hj
  obtain ⟨i, hi, rfl⟩ := Option.map_eq_some_iff.1 hj
  exact (h n i hi).settle

theorem kept_sound : Kept Sound where
  same h hs := h.congr hs.settings hs.interfaces hs.instances
  configureDut := Sound.configureDut
  replaceInstance := Sound.replaceInstance
  deleteInstance := Sound.deleteInstance
  replaceStatic := Sound.replaceStatic
  deleteStatic := Sound.deleteStatic
  apply := Sound.apply
  flushInstance h := h.flushInstance _
  settleRoutes := Sound.settleRoutes

theorem Reachable.sound {settings : Settings} (h : Reachable settings d) : d.Sound :=
  h.of_kept kept_sound fun _ _ hi => nomatch hi

/-! ### Reachable devices -/

/-- **A destination that doesn't wait in the queue is settled**: its forwarding entry is the one
built from the best of its routes, that route and no other is active, none is withdrawn, and no
empty entry is left.  So processing what waits makes the same tables as making every choice from
scratch. -/
theorem unqueued_destination_settled {settings : Settings} (h : Reachable settings d)
    {name : String} {i : Instance} (hi : d.instances.get? name = some i) :
    (∀ dest, i.rib.queue.contains dest = false →
      (∀ e, i.rib.fib.get? dest = some e ↔
        ∃ c r, (i.rib.candidates dest).IsBest d.settings d.interfaces c r ∧
          e = Candidates.entryFor d.interfaces c r) ∧
      (i.rib.fib.get? dest = none ↔
        ∀ c r, i.rib.route? dest c = some r → ¬ r.Usable d.interfaces) ∧
      (∀ c r, i.rib.route? dest c = some r → r.removed = false ∧
        (r.active = true ↔ (i.rib.candidates dest).IsBest d.settings d.interfaces c r)) ∧
      ∀ n, i.rib.routes.get? dest = some n → n.isEmpty = false) ∧
    i.rib.settle d.settings.preference d.interfaces =
      i.rib.rebuild d.settings.preference d.interfaces := by
  have hs := h.sound name i hi
  refine ⟨fun dest hq => ?_, hs.settle_eq_rebuild⟩
  have hd := hs dest hq
  refine ⟨fun e => ?_, ?_, fun c r hr => ⟨hd.kept c r hr, ?_⟩, hd.inhabited⟩
  · rw [hd.fib, Candidates.choose_eq_some_iff]
  · rw [hd.fib, Candidates.choose_eq_none_iff]
    rfl
  · rw [hd.active c r hr, Candidates.choose_channel_iff hr]

/-- A testbed with a configured route that forwarding uses already and one that waits. -/
def routed : Device :=
  (linked.serveAll [.replaceStatic (.single defaultInstanceName "static"
      (.ofInterface (.ofOctets 203 0 113 0) 24) "0" (Link.numbered 1).ate.ipv4 none)]).process.1
    |>.serveAll [.replaceStatic (.single defaultInstanceName "static"
      (.ofInterface (.ofOctets 198 51 100 0) 24) "0" (Link.numbered 1).ate.ipv4 none)]

theorem unqueued_destination_settled_routed :
    ∃ i r, routed.instances.get? defaultInstanceName = some i ∧
      i.rib.queue.keys = [.ofInterface (.ofOctets 198 51 100 0) 24] ∧
      (i.rib.candidates (.ofInterface (.ofOctets 203 0 113 0) 24)).IsBest routed.settings
        routed.interfaces .static r ∧
      i.rib.settle routed.settings.preference routed.interfaces =
        i.rib.rebuild routed.settings.preference routed.interfaces := by
  have hr : Reachable .standard routed := (reachable_linked.serveAll _).process.serveAll _
  have hq : (routed.instances.get? defaultInstanceName).map (·.rib.queue.keys) =
    some [.ofInterface (.ofOctets 198 51 100 0) 24] := by decide +kernel
  have hf : (routed.instances.get? defaultInstanceName).map
      (·.rib.fib.get? (.ofInterface (.ofOctets 203 0 113 0) 24)) =
    some (some ⟨.static, none, [⟨(Link.numbered 1).ate.ipv4, "port1", 1⟩]⟩) := by decide +kernel
  obtain ⟨i, hi, hqueue⟩ := Option.map_eq_some_iff.1 hq
  rw [hi, Option.map_some, Option.some.injEq] at hf
  obtain ⟨hall, hsettle⟩ := unqueued_destination_settled hr hi
  have hno : i.rib.queue.contains (.ofInterface (.ofOctets 203 0 113 0) 24) = false := by
    rw [← Bool.not_eq_true, ← Table.mem_keys_iff, hqueue]
    decide +kernel
  obtain ⟨c, r, hbest, he⟩ := ((hall _ hno).1 _).1 hf
  -- the channel is the one that the forwarding entry names
  have hc : c = .static := (congrArg FibEntry.channel he).symm
  exact ⟨i, r, hi, hqueue, hc ▸ hbest, hsettle⟩

end Device

end RoutePreference
