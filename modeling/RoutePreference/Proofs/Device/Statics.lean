import RoutePreference.Proofs.Device.History
import RoutePreference.Proofs.Device.Sessions

/-!
# Configured routes

* `Device.staticAt?`: the route that is configured for a destination;
* `staticAt?_step`: what each event makes of it;
* `read?_staticRoute`: what is read of it;
* `Device.HoldsRoute`, `Event.KeepsRoute`: that a route is in place, and the events that leave it
  there (`holdsRoute_step_iff`, `holdsRoute_throughout_iff`);
* `replaceStatic_isOk_iff`, `holdsRoute_replaceStatic`: which routes are accepted, and that they are
  in place then, their host bits cleared.
-/

namespace RoutePreference

/-- Whether a request can change what is configured about network instances. -/
def Request.configures : Request → Bool
  | .replaceInstance _ | .deleteInstance _ | .replaceStatic _ | .deleteStatic _ _ => true
  | _ => false

namespace Device

variable {d d' : Device}

/-! ### What leaves the configuration alone -/

theorem configured_of_instances (h : d'.instances = d.instances) :
    d'.configured = d.configured := by
  rw [configured, h, configured]

theorem configured_flushInstance (d : Device) (inst : String) :
    (d.flushInstance inst).configured = d.configured := by
  rw [flushInstance_eq, configured_withdrawAll]
  rfl

theorem configured_apply {op : Operation} (hok : d.apply op = .ok d') :
    d'.configured = d.configured :=
  apply_edits (P := fun x => x.configured = d.configured) (fun _ _ _ h => h)
    (fun x inst f h => (configured_changeRib x inst f).trans h) rfl hok

theorem configured_close {client : Nat} (hok : d.close client = .ok d') :
    d'.configured = d.configured := by
  obtain rfl | rfl := close_cases hok
  · rfl
  · exact foldl_flushInstance (P := fun x => x.configured = d.configured)
      (fun {x inst} h => (configured_flushInstance x inst).trans h) _ rfl

theorem configured_process (d : Device) : d.process.1.configured = d.configured :=
  configured_congr (f := fun _ rib => rib.settle d.settings.preference d.interfaces) fun _ =>
    Table.get?_mapValues _ _ _

theorem configured_settled {r : Except Refusal Device}
    (hr : ∀ d', r = .ok d' → d'.configured = d.configured) :
    (d.settled r).1.configured = d.configured :=
  settled_of_ok (P := fun x => x.configured = d.configured) hr rfl

/-- All but four requests leave the configuration of network instances alone. -/
theorem configured_serve (d : Device) (ticket : Nat) {r : Request} (hr : r.configures = false) :
    (d.serve ticket r).1.configured = d.configured := by
  cases r with
  | configureDut cfg =>
    refine configured_settled fun d' hok => ?_
    obtain rfl | rfl := configureDut_ok hok
    · rfl
    · exact configured_congr (f := fun _ rib => rib.requeueAll) fun _ => Table.get?_mapValues _ _ _
  | configureAte cfg =>
    refine configured_settled fun d' hok => ?_
    rw [Device.configureAte] at hok
    split at hok <;> cases hok
    rfl
  | modify client ops =>
    exact submit_of_apply (P := fun x => x.configured = d.configured)
      (fun h hs => (configured_of_instances hs.instances).trans h)
      (fun h hok => (configured_apply hok).trans h) ticket client ops rfl
  | flush client inst =>
    refine configured_settled fun d' hok => ?_
    obtain ⟨-, -, rfl⟩ := flush_ok hok
    exact configured_flushInstance d inst
  | close client =>
    exact configured_settled fun _ hok => configured_close hok
  | startFlow spec =>
    refine configured_settled fun d' hok => ?_
    rw [Device.startFlow] at hok
    split at hok
    · cases hok
    split at hok <;> cases hok
    rfl
  | stopFlow name =>
    refine configured_settled fun d' hok => ?_
    rw [Device.stopFlow] at hok
    split at hok <;> cases hok
    rfl
  | tick name => exact configured_of_instances (sameWork_transmit d name).instances
  | setProtocols running => rfl
  | openSession params => rfl
  | read path => rfl
  | counters name => rfl
  | _ => cases hr

/-! ### The route for a destination -/

/-- The route that is configured for a destination of a network instance. -/
def staticAt? (d : Device) (n : String) (p : Network) : Option StaticRoute :=
  (d.configured.get? n).bind fun c => c.statics.get? p

section StaticAt

variable {n : String} {p : Network} {i : Instance}

theorem staticAt?_eq (d : Device) (n : String) (p : Network) :
    d.staticAt? n p = (d.instances.get? n).bind fun i => i.statics.get? p := by
  rw [staticAt?, get?_configured]
  cases d.instances.get? n <;> rfl

theorem staticAt?_of_some (hi : d.instances.get? n = some i) :
    d.staticAt? n p = i.statics.get? p := by
  rw [staticAt?_eq, hi, Option.bind_some]

theorem staticAt?_of_none (hi : d.instances.get? n = none) : d.staticAt? n p = none := by
  rw [staticAt?_eq, hi, Option.bind_none]

theorem staticAt?_congr (h : d'.configured = d.configured) (n : String) (p : Network) :
    d'.staticAt? n p = d.staticAt? n p := by
  rw [staticAt?, h, staticAt?]

theorem staticAt?_setInstance (d : Device) (name : String) (i : Instance) (n : String)
    (p : Network) : (d.setInstance name i).staticAt? n p =
      if name = n then i.statics.get? p else d.staticAt? n p := by
  rw [staticAt?_eq, get?_setInstance, staticAt?_eq]
  split <;> rfl

/-- A new network instance has no routes, and one that changes its type keeps them. -/
theorem staticAt?_replaceInstance {cfg : InstanceConfig} (hok : d.replaceInstance cfg = .ok d')
    (n : String) (p : Network) : d'.staticAt? n p = d.staticAt? n p := by
  obtain ⟨-, i, rfl, hi⟩ := replaceInstance_ok hok
  rw [staticAt?_setInstance]
  split
  · next hn =>
    subst hn
    obtain hi | ⟨hnone, hempty, -⟩ := hi
    · rw [staticAt?_of_some hi]
    · rw [staticAt?_of_none hnone, hempty]
      rfl
  · rfl

theorem staticAt?_deleteInstance (d : Device) (ticket : Nat) (name n : String) (p : Network) :
    (d.serve ticket (.deleteInstance name)).1.staticAt? n p =
      if name = n then none else d.staticAt? n p := by
  show (d.settled (d.deleteInstance name)).1.staticAt? n p = _
  cases hr : d.deleteInstance name with
  | ok d' =>
    rw [deleteInstance_ok hr]
    show (d.dropInstance name).staticAt? n p = _
    rw [staticAt?_eq, get?_dropInstance, staticAt?_eq]
    split <;> rfl
  | error e =>
    -- it is refused only if there is no such network instance, and so no route
    show d.staticAt? n p = _
    split
    · next hn =>
      rw [deleteInstance] at hr
      split at hr
      · cases hr
      · next hno =>
        rw [Bool.not_eq_true, Table.contains_eq_false_iff, hn] at hno
        exact staticAt?_of_none hno
    · rfl

theorem staticAt?_replaceStatic (d : Device) (ticket : Nat) (cfg : StaticRoute) (n : String)
    (p : Network) : (d.serve ticket (.replaceStatic cfg)).1.staticAt? n p =
      if cfg.inst = n ∧ cfg.dest.masked = p ∧ d.instances.contains n = true then some cfg.masked
      else d.staticAt? n p := by
  show (d.settled (d.replaceStatic cfg)).1.staticAt? n p = _
  cases hr : d.replaceStatic cfg with
  | ok d' =>
    show d'.staticAt? n p = _
    obtain ⟨i, hi, ⟨hsame, rfl⟩ | rfl⟩ := replaceStatic_ok hr
    · split
      · next hn =>
        obtain ⟨rfl, rfl, -⟩ := hn
        rw [staticAt?_of_some hi, hsame]
      · rfl
    · rw [staticAt?_congr (configured_changeRib ..), staticAt?_setInstance]
      by_cases hn : cfg.inst = n
      · subst hn
        rw [if_pos rfl, Table.get?_insert, staticAt?_of_some hi]
        simp [Table.contains_of_get? hi]
      · simp [hn]
  | error e =>
    show d.staticAt? n p = _
    rw [replaceStatic] at hr
    split at hr
    · next hnone =>
      rw [if_neg]
      rintro ⟨rfl, -, hyes⟩
      rw [Table.contains_eq_false_iff.2 hnone] at hyes
      cases hyes
    · dsimp only at hr
      split at hr <;> cases hr

theorem staticAt?_deleteStatic (d : Device) (ticket : Nat) (inst : String) (dest : Network)
    (n : String) (p : Network) : (d.serve ticket (.deleteStatic inst dest)).1.staticAt? n p =
      if inst = n ∧ dest.masked = p then none else d.staticAt? n p := by
  show (d.settled (d.deleteStatic inst dest)).1.staticAt? n p = _
  cases hr : d.deleteStatic inst dest with
  | ok d' =>
    show d'.staticAt? n p = _
    obtain ⟨i, hi, ⟨hnone, rfl⟩ | rfl⟩ := deleteStatic_ok hr
    · split
      · next hn =>
        obtain ⟨rfl, rfl⟩ := hn
        rw [staticAt?_of_some hi, hnone]
      · rfl
    · rw [staticAt?_congr (configured_changeRib ..), staticAt?_setInstance]
      by_cases hn : inst = n
      · subst hn
        rw [if_pos rfl, Table.get?_erase, staticAt?_of_some hi]
        simp
      · simp [hn]
  | error e =>
    show d.staticAt? n p = _
    rw [deleteStatic] at hr
    split at hr
    · next hnone =>
      split
      · next hn =>
        rw [hn.1] at hnone
        exact staticAt?_of_none hnone
      · rfl
    · dsimp only at hr
      split at hr <;> cases hr

/-- **What an event makes of a configured route**: it goes with its network instance or alone, and
another one takes its place; nothing else touches it. -/
theorem staticAt?_step (d : Device) (e : Event) (n : String) (p : Network) :
    (d.step e).staticAt? n p = match e with
      | .serve _ (.deleteInstance name) => if name = n then none else d.staticAt? n p
      | .serve _ (.replaceStatic cfg) =>
        if cfg.inst = n ∧ cfg.dest.masked = p ∧ d.instances.contains n = true then some cfg.masked
        else d.staticAt? n p
      | .serve _ (.deleteStatic inst dest) =>
        if inst = n ∧ dest.masked = p then none else d.staticAt? n p
      | _ => d.staticAt? n p := by
  cases e with
  | process => exact staticAt?_congr d.configured_process n p
  | serve ticket r =>
    cases r with
    | deleteInstance name => exact d.staticAt?_deleteInstance ticket name n p
    | replaceStatic cfg => exact d.staticAt?_replaceStatic ticket cfg n p
    | deleteStatic inst dest => exact d.staticAt?_deleteStatic ticket inst dest n p
    | replaceInstance cfg =>
      exact settled_of_ok (P := fun x => x.staticAt? n p = d.staticAt? n p)
        (fun d' hok => staticAt?_replaceInstance hok n p) rfl
    | _ => exact staticAt?_congr (d.configured_serve ticket rfl) n p

/-- A configured route is read under its own protocol instance. Host bits don't matter, and are not
part of the answer. -/
theorem read?_staticRoute (d : Device) (n name : String) (dest : Network) :
    d.read? (.staticRoute n name dest) = (d.staticAt? n dest.masked).bind fun r =>
      if r.protocolName = name then some dest.masked.text else none := by
  rw [staticAt?_eq, Option.bind_assoc]
  rfl

end StaticAt

end Device

/-! ### A route that stays -/

/-- Whether a route that is in place is still there afterwards: its network instance isn't deleted,
it isn't deleted itself, and nothing but the same route is configured in its place. -/
def Event.KeepsRoute (r : StaticRoute) : Event → Prop
  | .serve _ (.deleteInstance name) => name ≠ r.inst
  | .serve _ (.replaceStatic cfg) => cfg.inst = r.inst ∧ cfg.dest.masked = r.dest → cfg.masked = r
  | .serve _ (.deleteStatic inst dest) => ¬ (inst = r.inst ∧ dest.masked = r.dest)
  | _ => True

namespace Device

variable {d d' : Device} {r : StaticRoute}

/-- Whether a route is in place. -/
def HoldsRoute (r : StaticRoute) (d : Device) : Prop := d.staticAt? r.inst r.dest = some r

theorem HoldsRoute.contains (h : d.HoldsRoute r) : d.instances.contains r.inst = true := by
  cases hi : d.instances.get? r.inst with
  | none =>
    rw [HoldsRoute, staticAt?_of_none hi] at h
    cases h
  | some i => exact Table.contains_of_get? hi

/-- **One event.** -/
theorem holdsRoute_step_iff (h : d.HoldsRoute r) (e : Event) :
    (d.step e).HoldsRoute r ↔ e.KeepsRoute r := by
  have hthere := h.contains
  rw [HoldsRoute] at h ⊢
  rw [staticAt?_step]
  cases e with
  | process => simp [h, Event.KeepsRoute]
  | serve ticket q =>
    cases q with
    | deleteInstance name => simp [h, Event.KeepsRoute]
    | replaceStatic cfg =>
      simp only [hthere, and_true, Event.KeepsRoute]
      split
      · next hplace => simp [hplace]
      · next hplace => simp [h, hplace]
    | deleteStatic inst dest => simp [h, Event.KeepsRoute]
    | _ => simp [h, Event.KeepsRoute]

/-- **A whole history**: the route is there throughout if and only if every event keeps it. -/
theorem holdsRoute_throughout_iff (h : d.HoldsRoute r) (es : List Event) :
    (∀ es', es' <+: es → (d.after es').HoldsRoute r) ↔ ∀ e ∈ es, e.KeepsRoute r := by
  have hstep : ∀ {d : Device}, True → d.HoldsRoute r → ∀ e : Event,
      (d.step e).HoldsRoute r ↔ ¬ ¬ e.KeepsRoute r := fun _ hd e => by
    rw [Classical.not_not, holdsRoute_step_iff hd e]
  refine (foldl_throughout_iff (fun _ _ => trivial) hstep trivial h es).trans
    ⟨fun hno e he => ?_, fun hall es' e hpre => ?_⟩
  · obtain ⟨es', es'', rfl⟩ := List.append_of_mem he
    exact Classical.not_not.1 (hno es' e ⟨es'', by simp⟩)
  · exact Classical.not_not.2 (hall e (hpre.subset (by simp)))

theorem HoldsRoute.after (h : d.HoldsRoute r) {es : List Event} (hes : ∀ e ∈ es, e.KeepsRoute r) :
    (d.after es).HoldsRoute r :=
  (holdsRoute_throughout_iff h es).2 hes es List.prefix_rfl

/-- A route is accepted if and only if its network instance is there. -/
theorem replaceStatic_isOk_iff (d : Device) (cfg : StaticRoute) :
    (∃ d', d.replaceStatic cfg = .ok d') ↔ d.instances.contains cfg.inst = true := by
  constructor
  · rintro ⟨d', hok⟩
    obtain ⟨i, hi, -⟩ := replaceStatic_ok hok
    exact Table.contains_of_get? hi
  · intro hthere
    obtain ⟨i, hi⟩ := Table.contains_iff.1 hthere
    rw [replaceStatic, hi]
    dsimp only
    split
    · exact ⟨_, rfl⟩
    · exact ⟨_, rfl⟩

/-- A route that was accepted is in place, its host bits cleared. -/
theorem holdsRoute_replaceStatic {cfg : StaticRoute} (hok : d.replaceStatic cfg = .ok d') :
    d'.HoldsRoute cfg.masked := by
  obtain ⟨i, hi, -⟩ := replaceStatic_ok hok
  have hserved := d.staticAt?_replaceStatic 0 cfg cfg.inst cfg.dest.masked
  rw [if_pos ⟨rfl, rfl, Table.contains_of_get? hi⟩] at hserved
  have hd' : (d.serve 0 (.replaceStatic cfg)).1 = d' := by
    show (d.settled (d.replaceStatic cfg)).1 = d'
    rw [hok]
    rfl
  rwa [hd'] at hserved

/-- A route in place is read under its protocol instance, without host bits. -/
theorem HoldsRoute.read? (h : d.HoldsRoute r) (dest : Network) (hdest : dest.masked = r.dest) :
    d.read? (.staticRoute r.inst r.protocolName dest) = some r.dest.text := by
  rw [read?_staticRoute, hdest, show d.staticAt? r.inst r.dest = some r from h, Option.bind_some,
    if_pos rfl]

end Device

end RoutePreference
