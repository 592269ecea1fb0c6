import RoutePreference.Proofs.Device.Acknowledgement

/-!
# Devices that go on alike

* `Device.Alike`: devices that differ in what is owed at most, where a network instance without
  tables of programmed entries counts like one with empty ones;
* `Device.AlikeIf`: outcomes that are alike;
* `Alike.apply`, `Alike.performAll`: operations have the same outcomes at such devices;
* `Alike.step`, `Alike.after`: such devices stay so, whatever happens to both.

Most requests don't look at the programmed entries at all (`Alike.untouched`); the others look at
them through `aftOf` and `usersOf` only.
-/

namespace RoutePreference

namespace Device

variable {d d' : Device}

/-- The device with other tables of programmed entries, and other results owed. -/
def but (d : Device) (aft : Table String AftTables) (owed : List OwedReply) : Device :=
  { d with aft, owed }

/-- Whether two devices differ in what is owed at most, where a network instance without tables of
programmed entries counts like one with empty ones. -/
inductive Alike (d : Device) : Device → Prop where
  | intro (aft : Table String AftTables) (owed : List OwedReply)
    (same : ∀ n, (d.but aft owed).aftOf n = d.aftOf n) : Alike d (d.but aft owed)

theorem changeRib_but (d : Device) (aft : Table String AftTables) (owed : List OwedReply)
    (inst : String) (f : Rib → Rib × Bool) :
    (d.but aft owed).changeRib inst f = (d.changeRib inst f).but aft owed := by
  unfold changeRib but
  dsimp only
  split <;> rfl

/-- Outcomes that are the same error, or devices that are alike. -/
inductive AlikeIf {ε : Type} : Except ε Device → Except ε Device → Prop where
  | error (e : ε) : AlikeIf (.error e) (.error e)
  | ok {d d' : Device} (h : d.Alike d') : AlikeIf (.ok d) (.ok d')

namespace Alike

theorem refl (d : Device) : Alike d d := .intro d.aft d.owed fun _ => rfl

theorem trans {d'' : Device} (h : Alike d d') (h' : Alike d' d'') : Alike d d'' := by
  obtain ⟨a, o, hsame⟩ := h
  obtain ⟨a', o', hsame'⟩ := h'
  exact .intro a' o' fun n => (hsame' n).trans (hsame n)

theorem symm (h : Alike d d') : Alike d' d := by
  obtain ⟨a, o, hsame⟩ := h
  exact .intro (d := d.but a o) d.aft d.owed fun n => (hsame n).symm

theorem aftOf (h : Alike d d') (n : String) : d'.aftOf n = d.aftOf n := by
  obtain ⟨a, o, hsame⟩ := h
  exact hsame n

theorem instances (h : Alike d d') : d'.instances = d.instances := by cases h; rfl

theorem sessions (h : Alike d d') : d'.sessions = d.sessions := by cases h; rfl

/-! ### What is programmed -/

theorem ipv4Entries (h : Alike d d') : d'.ipv4Entries = d.ipv4Entries :=
  Table.flatMap_values_congr (z := ({} : AftTables)) rfl h.aftOf

theorem usersOf (h : Alike d d') (home : String) (group : Nat) :
    d'.usersOf home group = d.usersOf home group := by
  rw [Device.usersOf, h.ipv4Entries, Device.usersOf]

theorem setAft (h : Alike d d') (inst : String) (t : AftTables) :
    Alike (d.setAft inst t) (d'.setAft inst t) := by
  obtain ⟨a, o, hsame⟩ := h
  refine .intro (d := d.setAft inst t) (a.insert inst t) o fun n => ?_
  show ((d.but a o).setAft inst t).aftOf n = _
  rw [aftOf_setAft, aftOf_setAft, hsame]

theorem changeRib (h : Alike d d') (inst : String) (f : Rib → Rib × Bool) :
    Alike (d.changeRib inst f) (d'.changeRib inst f) := by
  obtain ⟨a, o, hsame⟩ := h
  rw [changeRib_but]
  refine .intro a o fun n => (hsame n).trans ?_
  rw [aftOf_changeRib]

theorem reroute (h : Alike d d') (e : Ipv4Entry) : Alike (d.reroute e) (d'.reroute e) := by
  rw [Device.reroute, Device.reroute, entryRoute?_congr (h.aftOf e.groupHome)]
  split
  · exact h.changeRib ..
  · exact h

theorem foldl {α : Type} {f : Device → α → Device}
    (hf : ∀ {d d'} a, Alike d d' → Alike (f d a) (f d' a)) (l : List α) (h : Alike d d') :
    Alike (l.foldl f d) (l.foldl f d') := by
  induction l generalizing d d' with
  | nil => exact h
  | cons a l ih => exact ih (hf a h)

theorem refresh (h : Alike d d') (home : String) (groups : List Nat) :
    Alike (d.refresh home groups) (d'.refresh home groups) := by
  rw [Device.refresh, Device.refresh, funext (h.usersOf home)]
  exact h.foldl (fun e h => h.reroute e) _

end Alike

theorem AlikeIf.ite {ε : Type} {c : Prop} [Decidable c] {a a' b b' : Except ε Device}
    (ha : AlikeIf a a') (hb : AlikeIf b b') :
    AlikeIf (if c then a else b) (if c then a' else b') := by
  split
  · exact ha
  · exact hb

/-! ### Operations -/

namespace Alike

theorem addNextHop (h : Alike d d') (nh : NextHop) :
    AlikeIf (d.addNextHop nh) (d'.addNextHop nh) := by
  unfold Device.addNextHop
  refine .ite (.error _) ?_
  dsimp only
  rw [h.aftOf]
  split
  · exact .ite (.ok (h.setAft ..)) (.ok ((h.setAft ..).refresh ..))
  · exact .ok (h.setAft ..)

theorem addGroup (h : Alike d d') (g : NextHopGroup) : AlikeIf (d.addGroup g) (d'.addGroup g) := by
  unfold Device.addGroup
  dsimp only
  rw [h.aftOf]
  refine .ite (.error _) (.ite (.error _) ?_)
  split
  · exact .ite (.ok (h.setAft ..)) (.ok ((h.setAft ..).refresh ..))
  · exact .ok (h.setAft ..)

theorem addIpv4 (h : Alike d d') (e : Ipv4Entry) : AlikeIf (d.addIpv4 e) (d'.addIpv4 e) := by
  unfold Device.addIpv4
  rw [h.instances, entryRoute?_congr (h.aftOf e.groupHome)]
  refine .ite (.error _) (.ite (.error _) ?_)
  split
  · exact .error _
  · dsimp only
    rw [h.aftOf]
    exact .ok ((h.setAft ..).changeRib ..)

theorem deleteNextHop (h : Alike d d') (nh : NextHop) :
    AlikeIf (d.deleteNextHop nh) (d'.deleteNextHop nh) := by
  unfold Device.deleteNextHop
  dsimp only
  rw [h.aftOf]
  exact .ite (.error _) (.ite (.error _) (.ok (h.setAft ..)))

theorem deleteGroup (h : Alike d d') (g : NextHopGroup) :
    AlikeIf (d.deleteGroup g) (d'.deleteGroup g) := by
  unfold Device.deleteGroup
  dsimp only
  rw [h.aftOf, h.usersOf]
  exact .ite (.error _) (.ite (.error _) (.ok (h.setAft ..)))

theorem deleteIpv4 (h : Alike d d') (e : Ipv4Entry) :
    AlikeIf (d.deleteIpv4 e) (d'.deleteIpv4 e) := by
  unfold Device.deleteIpv4
  dsimp only
  rw [h.aftOf]
  exact .ite (.error _) (.ok ((h.setAft ..).changeRib ..))

/-- **Operations** have the same outcome at devices that are alike. -/
theorem apply (h : Alike d d') (op : Operation) : AlikeIf (d.apply op) (d'.apply op) := by
  unfold Device.apply
  rw [h.instances]
  refine .ite (.error _) ?_
  obtain ⟨id, verb, entry⟩ := op
  cases verb <;> cases entry
  · exact h.addNextHop _
  · exact h.addGroup _
  · exact h.addIpv4 _
  · exact h.addNextHop _
  · exact h.addGroup _
  · exact h.addIpv4 _
  · exact h.deleteNextHop _
  · exact h.deleteGroup _
  · exact h.deleteIpv4 _

theorem perform (h : Alike d d') (primary : Bool) (op : Operation) :
    (d'.perform primary op).2 = (d.perform primary op).2 ∧
      Alike (d.perform primary op).1 (d'.perform primary op).1 := by
  have hop := h.apply op
  unfold Device.perform
  cases primary with
  | false => exact ⟨rfl, h⟩
  | true =>
    generalize d.apply op = r, d'.apply op = r' at hop
    cases hop with
    | error e => exact ⟨rfl, h⟩
    | ok h' => exact ⟨rfl, h'⟩

theorem performAll (h : Alike d d') (primary : Bool) (ops : List Operation) :
    (d'.performAll primary ops).2 = (d.performAll primary ops).2 ∧
      Alike (d.performAll primary ops).1 (d'.performAll primary ops).1 := by
  induction ops generalizing d d' with
  | nil => exact ⟨rfl, h⟩
  | cons op ops ih =>
    obtain ⟨hresult, hnext⟩ := h.perform primary op
    obtain ⟨hresults, hend⟩ := ih hnext
    exact ⟨List.cons_eq_cons.2 ⟨hresult, hresults⟩, hend⟩

/-! ### Requests -/

/-- Changes that don't look at what alike devices may differ in. -/
theorem untouched {ε : Type} {f : Device → Except ε Device}
    (hf : ∀ d a o, f (d.but a o) = (f d).map fun d' => d'.but a o) (h : Alike d d') :
    AlikeIf (f d) (f d') := by
  obtain ⟨a, o, hsame⟩ := h
  have hself := hf d d.aft d.owed
  rw [show d.but d.aft d.owed = d from rfl] at hself
  rw [hf]
  cases hd : f d with
  | error e => exact .error e
  | ok e =>
    rw [hd] at hself
    have heq : e = e.but d.aft d.owed := Except.ok.inj hself
    have haft : e.aft = d.aft := (congrArg Device.aft heq).trans rfl
    refine .ok (.intro a o fun n => (hsame n).trans ?_)
    rw [Device.aftOf, Device.aftOf, haft]

theorem configureDut (h : Alike d d') (cfg : DutInterface) :
    AlikeIf (d.configureDut cfg) (d'.configureDut cfg) := by
  refine h.untouched (f := (·.configureDut cfg)) fun d a o => ?_
  unfold Device.configureDut but
  dsimp only
  split
  · rfl
  · split <;> rfl

theorem configureAte (h : Alike d d') (cfg : AteInterface) :
    AlikeIf (d.configureAte cfg) (d'.configureAte cfg) := by
  refine h.untouched (f := (·.configureAte cfg)) fun d a o => ?_
  unfold Device.configureAte but
  dsimp only
  split <;> rfl

theorem replaceInstance (h : Alike d d') (cfg : InstanceConfig) :
    AlikeIf (d.replaceInstance cfg) (d'.replaceInstance cfg) := by
  refine h.untouched (f := (·.replaceInstance cfg)) fun d a o => ?_
  have hother : (d.but a o).otherDefault? cfg.name = d.otherDefault? cfg.name := rfl
  unfold Device.replaceInstance
  rw [hother]
  split <;> rfl

theorem replaceStatic (h : Alike d d') (cfg : StaticRoute) :
    AlikeIf (d.replaceStatic cfg) (d'.replaceStatic cfg) := by
  refine h.untouched (f := (·.replaceStatic cfg)) fun d a o => ?_
  have hi : (d.but a o).instances.get? cfg.inst = d.instances.get? cfg.inst := rfl
  rw [Device.replaceStatic, Device.replaceStatic, hi]
  cases d.instances.get? cfg.inst with
  | none => rfl
  | some i =>
    dsimp only
    split
    · rfl
    · exact congrArg Except.ok (changeRib_but (d.setInstance cfg.inst _) a o cfg.inst _)

theorem deleteStatic (h : Alike d d') (inst : String) (dest : Network) :
    AlikeIf (d.deleteStatic inst dest) (d'.deleteStatic inst dest) := by
  refine h.untouched (f := (·.deleteStatic inst dest)) fun d a o => ?_
  have hi : (d.but a o).instances.get? inst = d.instances.get? inst := rfl
  rw [Device.deleteStatic, Device.deleteStatic, hi]
  cases d.instances.get? inst with
  | none => rfl
  | some i =>
    dsimp only
    split
    · exact congrArg Except.ok (changeRib_but (d.setInstance inst _) a o inst _)
    · rfl

theorem startFlow (h : Alike d d') (spec : FlowSpec) :
    AlikeIf (d.startFlow spec) (d'.startFlow spec) := by
  refine h.untouched (f := (·.startFlow spec)) fun d a o => ?_
  have hg : (d.but a o).generator = d.generator := rfl
  rw [Device.startFlow, Device.startFlow, hg]
  cases (spec.source :: spec.receivers).find? fun n => !d.generator.endpoints.contains n with
  | some missing => rfl
  | none =>
    dsimp only
    split <;> rfl

theorem stopFlow (h : Alike d d') (name : String) :
    AlikeIf (d.stopFlow name) (d'.stopFlow name) := by
  refine h.untouched (f := (·.stopFlow name)) fun d a o => ?_
  have hg : (d.but a o).generator = d.generator := rfl
  rw [Device.stopFlow, Device.stopFlow, hg]
  cases d.generator.flows.get? name <;> rfl

theorem forgetAft (h : Alike d d') (inst : String) :
    Alike (d.forgetAft inst) (d'.forgetAft inst) := by
  obtain ⟨a, o, hsame⟩ := h
  refine .intro (d := d.forgetAft inst) (a.erase inst) o fun n => ?_
  show ((d.but a o).forgetAft inst).aftOf n = _
  rw [aftOf_forgetAft, aftOf_forgetAft, hsame]

theorem dropInstance (h : Alike d d') (name : String) :
    Alike (d.dropInstance name) (d'.dropInstance name) := by
  obtain ⟨a, o, hsame⟩ := h
  exact .intro (d := d.dropInstance name) a o hsame

theorem deleteInstance (h : Alike d d') (name : String) :
    AlikeIf (d.deleteInstance name) (d'.deleteInstance name) := by
  have hc : d'.instances.contains name = d.instances.contains name := by rw [h.instances]
  unfold Device.deleteInstance
  rw [hc]
  exact .ite (.ok ((h.dropInstance name).forgetAft name)) (.error _)

theorem withdrawAll (h : Alike d d') (inst : String) (dests : List Network) :
    Alike (d.withdrawAll inst dests) (d'.withdrawAll inst dests) :=
  h.foldl (f := fun d dest => d.changeRib inst fun rib => rib.withdraw dest .gribi)
    (fun _ h => h.changeRib ..) dests

theorem flushInstance (h : Alike d d') (inst : String) :
    Alike (d.flushInstance inst) (d'.flushInstance inst) := by
  rw [flushInstance_eq, flushInstance_eq, h.aftOf]
  exact (h.forgetAft inst).withdrawAll ..

theorem isPrimary (h : Alike d d') (client : Nat) : d'.isPrimary client = d.isPrimary client := by
  cases h
  rfl

theorem flush (h : Alike d d') (client : Nat) (inst : String) :
    AlikeIf (d.flush client inst) (d'.flush client inst) := by
  unfold Device.flush
  rw [h.sessions, h.isPrimary, h.instances]
  exact .ite (.error _) (.ite (.error _) (.ite (.error _) (.ok (h.flushInstance inst))))

end Alike

/-- Flushing a network instance without entries changes nothing. -/
theorem alike_flushInstance {inst : String} (h : d.aftOf inst = {}) :
    Alike d (d.flushInstance inst) := by
  rw [flushInstance_eq, h]
  refine .intro (d.aft.erase inst) d.owed fun n => ?_
  show (d.forgetAft inst).aftOf n = _
  rw [aftOf_forgetAft]
  split
  · next hn => rw [← hn, h]
  · rfl

/-- Those without entries may be passed over. -/
theorem alike_flush_filter (p : String → Bool) (names : List String)
    (h : ∀ n ∈ names, p n = false → d.aftOf n = {}) :
    Alike ((names.filter p).foldl flushInstance d) (names.foldl flushInstance d) := by
  induction names generalizing d with
  | nil => exact .refl d
  | cons n names ih =>
    have hnext : ∀ m ∈ names, p m = false → (d.flushInstance n).aftOf m = {} := by
      intro m hm hp
      rw [aftOf_flushInstance, h m (List.mem_cons_of_mem _ hm) hp, ite_self]
    rw [List.filter_cons]
    split
    · exact ih hnext
    · next hp =>
      have hempty := h n List.mem_cons_self (by simpa using hp)
      have hskip := (alike_flushInstance hempty).foldl
        (fun m h => h.flushInstance m) (names.filter p)
      exact hskip.trans (ih hnext)

namespace Alike

/-- Flushing every network instance that has tables. -/
theorem flushAll (h : Alike d d') : Alike (d.aft.keys.foldl Device.flushInstance d)
    (d'.aft.keys.foldl Device.flushInstance d') := by
  have hkeys : d'.aft.keys.filter (fun n => d'.aftOf n ≠ {}) =
      d.aft.keys.filter fun n => d.aftOf n ≠ {} := by
    have hsame := Table.filter_ne_congr (z := ({} : AftTables)) h.aftOf
    exact (Table.keys_filter_ne d'.aft).symm.trans
      ((congrArg Table.keys hsame).trans (Table.keys_filter_ne d.aft))
  have hskip : ∀ d : Device, Alike
      ((d.aft.keys.filter fun n => d.aftOf n ≠ {}).foldl Device.flushInstance d)
      (d.aft.keys.foldl Device.flushInstance d) := fun d =>
    alike_flush_filter _ _ fun n _ hp => by simpa using hp
  have hboth := h.foldl (fun n h => h.flushInstance n) (d.aft.keys.filter fun n => d.aftOf n ≠ {})
  exact (hskip d).symm.trans (hboth.trans (hkeys ▸ hskip d'))

theorem close (h : Alike d d') (client : Nat) : AlikeIf (d.close client) (d'.close client) := by
  have hgone : Alike { d with sessions := d.sessions.erase client }
      { d' with sessions := d'.sessions.erase client } := by
    obtain ⟨a, o, hsame⟩ := h
    exact .intro (d := { d with sessions := d.sessions.erase client }) a o hsame
  unfold Device.close
  rw [h.sessions, h.isPrimary] at *
  cases d.sessions.get? client with
  | none => exact .error _
  | some params => exact .ite (.ok hgone.flushAll) (.ok hgone)

theorem transmit (h : Alike d d') (name : String) :
    Alike (d.transmit name) (d'.transmit name) := by
  have hok := h.untouched (ε := Empty) (f := fun d => .ok (d.transmit name)) fun d a o => by
    have hg : (d.but a o).generator = d.generator := rfl
    rw [Device.transmit, Device.transmit, hg]
    cases d.generator.flows.get? name with
    | none => rfl
    | some f =>
      dsimp only
      split <;> rfl
  cases hok with
  | ok h => exact h

theorem settled {r r' : Except Refusal Device} (h : Alike d d') (hr : AlikeIf r r') :
    (d'.settled r').2 = (d.settled r).2 ∧ Alike (d.settled r).1 (d'.settled r').1 := by
  cases hr with
  | error e => exact ⟨rfl, h⟩
  | ok h' => exact ⟨rfl, h'⟩

/-- What is owed makes no difference. -/
theorem owing (h : Alike d d') (o o' : List OwedReply) (n : Nat) :
    Alike { d with owed := o, tokens := d.tokens + n }
      { d' with owed := o', tokens := d'.tokens + n } := by
  obtain ⟨a, o₁, hsame⟩ := h
  exact .intro (d := { d with owed := o, tokens := d.tokens + n }) a o' hsame

theorem submit (h : Alike d d') (ticket client : Nat) (ops : List Operation) :
    (d'.submit ticket client ops).2 = (d.submit ticket client ops).2 ∧
      Alike (d.submit ticket client ops).1 (d'.submit ticket client ops).1 := by
  obtain ⟨hresults, hend⟩ := h.performAll (d.isPrimary client) ops
  unfold Device.submit
  rw [h.sessions, h.isPrimary]
  cases d.sessions.get? client with
  | none => exact ⟨rfl, h⟩
  | some params =>
    dsimp only
    split
    · rw [hresults]
      exact ⟨rfl, hend⟩
    · exact ⟨rfl, hend.owing _ _ 1⟩

/-- **One request** is answered alike, and leaves alike devices. -/
theorem serve (h : Alike d d') (ticket : Nat) (r : Request) :
    (d'.serve ticket r).2 = (d.serve ticket r).2 ∧
      Alike (d.serve ticket r).1 (d'.serve ticket r).1 := by
  cases r with
  | configureDut cfg => exact h.settled (h.configureDut cfg)
  | configureAte cfg => exact h.settled (h.configureAte cfg)
  | setProtocols running =>
    refine h.settled (.ok ?_)
    obtain ⟨a, o, hsame⟩ := h
    exact .intro (d := d.setProtocols running) a o hsame
  | replaceInstance cfg => exact h.settled (h.replaceInstance cfg)
  | deleteInstance name => exact h.settled (h.deleteInstance name)
  | replaceStatic cfg => exact h.settled (h.replaceStatic cfg)
  | deleteStatic inst dest => exact h.settled (h.deleteStatic inst dest)
  | openSession params =>
    obtain ⟨a, o, hsame⟩ := h
    exact ⟨rfl, .intro (d := (d.openSession params).1) a o hsame⟩
  | modify client ops =>
    obtain ⟨hresult, hend⟩ := h.submit ticket client ops
    exact ⟨congrArg (Option.map Answer.results) hresult, hend⟩
  | flush client inst => exact h.settled (h.flush client inst)
  | close client => exact h.settled (h.close client)
  | read path =>
    obtain ⟨a, o, hsame⟩ := h
    exact ⟨rfl, .intro a o hsame⟩
  | startFlow spec => exact h.settled (h.startFlow spec)
  | stopFlow name => exact h.settled (h.stopFlow name)
  | counters name =>
    obtain ⟨a, o, hsame⟩ := h
    exact ⟨rfl, .intro a o hsame⟩
  | tick name => exact ⟨rfl, h.transmit name⟩

/-- The same results are withheld. -/
theorem withheld (h : Alike d d') (ticket : Nat) (r : Request) :
    ∃ l, (d.serve ticket r).1.owed = d.owed ++ l ∧ (d'.serve ticket r).1.owed = d'.owed ++ l := by
  by_cases hm : ∃ client ops, r = .modify client ops
  · obtain ⟨client, ops, rfl⟩ := hm
    show ∃ l, (d.submit ticket client ops).1.owed = _ ∧ (d'.submit ticket client ops).1.owed = _
    have howed : ∀ d : Device, (d.performAll (d'.isPrimary client) ops).1.owed = d.owed := fun d =>
      (sameUse_performAll _ d ops).owed
    unfold Device.submit
    rw [← h.isPrimary, h.sessions]
    cases d.sessions.get? client with
    | none => exact ⟨[], (List.append_nil _).symm, (List.append_nil _).symm⟩
    | some params =>
      dsimp only
      rw [(h.performAll _ ops).1]
      cases params.ackMode with
      | rib => exact ⟨[], by simp [howed], by simp [howed]⟩
      | ribAndFib => exact ⟨[_], by rw [howed], by rw [howed]⟩
  · have hother : ∀ client ops, r ≠ .modify client ops := fun client ops hr =>
      hm ⟨client, ops, hr⟩
    refine ⟨[], ?_, ?_⟩
    · rw [owed_serve_of_ne_modify ticket d hother, List.append_nil]
    · rw [owed_serve_of_ne_modify ticket d' hother, List.append_nil]

theorem step (h : Alike d d') (e : Event) : Alike (d.step e) (d'.step e) := by
  cases e with
  | serve ticket r => exact (h.serve ticket r).2
  | process =>
    obtain ⟨a, o, hsame⟩ := h
    exact .intro (d := d.process.1) a [] hsame

/-- **Whatever happens to both**, they stay alike. -/
theorem after (h : Alike d d') (l : List Event) : Alike (d.after l) (d'.after l) :=
  h.foldl (fun e h => h.step e) l

end Alike

end Device

end RoutePreference
