import RoutePreference.Proofs.Device.Soundness

/-!
# Tokens for what waits

* `Device.HasWork`: some destination waits for a choice of routes, or some request for its results;
* `Device.Awake`: a device with work has a token that calls for processing;
* `Rib.WakesFor`: a change of a routing table that asks for a token whenever it does something;
* `Awake.serve`: serving a request keeps the device awake;
* `Device.Converged`: nothing waits for a choice of routes any more;
* `not_hasWork_process`, `Sound.converged_process`: processing leaves no work, and a converged
  device;
* `Reachable.awake`: every reachable device is awake.

Whatever adds to the work adds a token itself, and nothing but processing takes tokens away.
-/

namespace RoutePreference

/-- Whether a change of a routing table leaves it as it is unless it asks for a token. -/
def Rib.WakesFor (f : Rib → Rib × Bool) : Prop := ∀ rib, (f rib).2 = true ∨ (f rib).1 = rib

namespace Rib

theorem wakesFor_install (dest : Network) (c : Channel) (new : Route) :
    WakesFor fun rib => rib.install dest c new := by
  intro rib
  obtain ⟨old, -, -, -, h⟩ | ⟨r, -, -, -, -, h⟩ := rib.install_cases dest c new
  · exact .inr (congrArg Prod.fst h)
  · exact .inl (congrArg Prod.snd h)

theorem wakesFor_withdraw (dest : Network) (c : Channel) :
    WakesFor fun rib => rib.withdraw dest c := by
  intro rib
  obtain ⟨-, h⟩ | ⟨old, -, h⟩ := rib.withdraw_cases dest c
  · exact .inr (congrArg Prod.fst h)
  · exact .inl (congrArg Prod.snd h)

end Rib

namespace Device

variable {d d' : Device}

/-- Whether a destination waits for a choice of routes, or a request for its results. -/
def HasWork (d : Device) : Prop :=
  (∃ n i, d.instances.get? n = some i ∧ i.rib.queue ≠ ∅) ∨ d.owed ≠ []

/-- Whether there is a token if there is work. -/
def Awake (d : Device) : Prop := d.HasWork → 0 < d.tokens

namespace Awake

/-- A change that adds no work and takes no token. -/
theorem mono (h : d.Awake) (hw : d'.HasWork → d.HasWork) (ht : d.tokens ≤ d'.tokens) :
    d'.Awake := fun hd' => Nat.lt_of_lt_of_le (h (hw hd')) ht

/-- A change of the network instances in which every queue is one of before. -/
theorem mono_instances (h : d.Awake) (ho : d'.owed = d.owed) (ht : d'.tokens = d.tokens)
    (hi : ∀ n j, d'.instances.get? n = some j → j.rib.queue ≠ ∅ →
      ∃ m i, d.instances.get? m = some i ∧ i.rib.queue ≠ ∅) : d'.Awake := by
  refine h.mono (fun hw => ?_) (Nat.le_of_eq ht.symm)
  obtain ⟨n, j, hj, hq⟩ | hw := hw
  · exact .inl (hi n j hj hq)
  · exact .inr (ho ▸ hw)

theorem congr (h : d.Awake) (hi : d'.instances = d.instances) (ho : d'.owed = d.owed)
    (ht : d'.tokens = d.tokens) : d'.Awake :=
  h.mono_instances ho ht fun n j hj hq => ⟨n, j, hi ▸ hj, hq⟩

theorem changeRib (h : d.Awake) {inst : String} {f : Rib → Rib × Bool} (hf : Rib.WakesFor f) :
    (d.changeRib inst f).Awake := by
  rw [Device.changeRib]
  cases hi : d.instances.get? inst with
  | none => exact h
  | some i =>
    obtain hwake | hsame := hf i.rib
    · intro _
      simp [hwake]
    · refine h.mono (fun hw => ?_) ?_
      · simp only [hsame] at hw
        rw [Table.insert_eq_self hi] at hw
        exact hw
      · dsimp only
        split <;> omega

/-- Another network instance in the place of one with the same queue, or a new one without. -/
theorem setInstance (h : d.Awake) {name : String} {j : Instance}
    (hj : j.rib.queue ≠ ∅ → ∃ i, d.instances.get? name = some i ∧ i.rib.queue ≠ ∅) :
    (d.setInstance name j).Awake := by
  refine h.mono_instances rfl rfl fun n k hk hq => ?_
  rw [get?_setInstance] at hk
  split at hk
  · cases hk
    exact ⟨name, hj hq⟩
  · exact ⟨n, k, hk, hq⟩

theorem setAft (h : d.Awake) (inst : String) (t : AftTables) : (d.setAft inst t).Awake :=
  h.congr rfl rfl rfl

theorem foldl {α : Type} {f : Device → α → Device} {l : List α}
    (hf : ∀ {d} a, Awake d → (f d a).Awake) (h : d.Awake) : (l.foldl f d).Awake := by
  induction l generalizing d with
  | nil => exact h
  | cons a l ih => exact ih (hf a h)

theorem reroute (h : d.Awake) (e : Ipv4Entry) : (d.reroute e).Awake := by
  rw [Device.reroute]
  split
  · exact h.changeRib (Rib.wakesFor_install _ _ _)
  · exact h

theorem refresh (h : d.Awake) (home : String) (ids : List Nat) : (d.refresh home ids).Awake :=
  foldl (fun e h => h.reroute e) h

theorem flushInstance (h : d.Awake) (inst : String) : (d.flushInstance inst).Awake := by
  have hf : (d.forgetAft inst).Awake := h.congr rfl rfl rfl
  rw [flushInstance_eq]
  exact foldl (fun dest h => h.changeRib (Rib.wakesFor_withdraw _ _)) hf

/-! ### Requests -/

theorem apply {op : Operation} (h : d.Awake) (hok : d.apply op = .ok d') : d'.Awake := by
  obtain ⟨-, ⟨nh, -, hadd | hdel⟩ | ⟨g, -, hadd | hdel⟩ | ⟨e, -, hadd | hdel⟩⟩ := apply_ok hok
  · obtain ⟨-, groups, rfl, -⟩ := addNextHop_ok hadd
    exact (h.setAft _ _).refresh _ _
  · obtain ⟨-, rfl⟩ := deleteNextHop_ok hdel
    exact h.setAft _ _
  · obtain ⟨-, -, ids, rfl, -⟩ := addGroup_ok hadd
    exact (h.setAft _ _).refresh _ _
  · obtain ⟨-, rfl⟩ := deleteGroup_ok hdel
    exact h.setAft _ _
  · obtain ⟨-, -, route, -, rfl⟩ := addIpv4_ok hadd
    exact (h.setAft _ _).changeRib (Rib.wakesFor_install _ _ _)
  · obtain rfl := deleteIpv4_ok hdel
    exact (h.setAft _ _).changeRib (Rib.wakesFor_withdraw _ _)

/-- Withheld results come with a token of their own. -/
theorem submit (h : d.Awake) (ticket client : Nat) (ops : List Operation) :
    (d.submit ticket client ops).1.Awake := by
  rw [Device.submit]
  cases d.sessions.get? client with
  | none => exact h
  | some params =>
    cases hm : params.ackMode with
    | rib => simpa only [hm] using performAll_of_apply Awake.apply (d.isPrimary client) ops h
    | ribAndFib =>
      simp only [hm]
      exact fun _ => Nat.succ_pos _

theorem deleteInstance {name : String} (h : d.Awake) (hok : d.deleteInstance name = .ok d') :
    d'.Awake := by
  obtain rfl := deleteInstance_ok hok
  refine h.mono_instances rfl rfl fun n j hj hq => ⟨n, j, ?_, hq⟩
  rw [instances_forgetAft, get?_dropInstance] at hj
  split at hj
  · cases hj
  · exact hj

/-- Another interface queues destinations in every network instance, with one token for each. -/
theorem configureDut {cfg : DutInterface} (h : d.Awake) (hok : d.configureDut cfg = .ok d') :
    d'.Awake := by
  obtain rfl | rfl := configureDut_ok hok
  · exact h
  · rintro (⟨n, j, hj, -⟩ | ho)
    · rw [Table.get?_mapValues] at hj
      obtain ⟨i, hi, -⟩ := Option.map_eq_some_iff.1 hj
      have hlen := List.length_pos_of_mem (Table.get?_eq_some_iff.1 hi)
      show 0 < d.tokens + d.instances.entries.length
      omega
    · have ht := h (.inr ho)
      show 0 < d.tokens + d.instances.entries.length
      omega

end Awake

theorem routine_awake : Routine Awake where
  same h hs := h.congr hs.instances hs.owed hs.tokens
  configureDut := Awake.configureDut
  replaceInstance h hok := by
    obtain ⟨-, i, rfl, hi⟩ := replaceInstance_ok hok
    refine h.setInstance fun hq => ?_
    obtain hi | ⟨-, -, hrib⟩ := hi
    · exact ⟨i, hi, hq⟩
    · rw [hrib] at hq
      exact absurd rfl hq
  replaceStatic h hok := by
    obtain ⟨i, hi, ⟨-, rfl⟩ | rfl⟩ := replaceStatic_ok hok
    · exact h
    · refine Awake.changeRib ?_ (Rib.wakesFor_install _ _ _)
      exact h.setInstance fun hq => ⟨i, hi, hq⟩
  deleteStatic h hok := by
    obtain ⟨i, hi, ⟨-, rfl⟩ | rfl⟩ := deleteStatic_ok hok
    · exact h
    · refine Awake.changeRib ?_ (Rib.wakesFor_withdraw _ _)
      exact h.setInstance fun hq => ⟨i, hi, hq⟩

/-- **One request** adds a token with whatever work it adds. -/
theorem Awake.serve (h : d.Awake) (ticket : Nat) (r : Request) : (d.serve ticket r).1.Awake := by
  cases r with
  | modify client ops => exact h.submit ticket client ops
  | deleteInstance name => exact settled_of_ok (fun _ hok => h.deleteInstance hok) h
  | flush client inst =>
    refine settled_of_ok (fun d' hok => ?_) h
    obtain ⟨-, -, rfl⟩ := flush_ok hok
    exact h.flushInstance inst
  | close client =>
    refine settled_of_ok (fun d' hok => ?_) h
    have hc : Awake { d with sessions := d.sessions.erase client } := h.congr rfl rfl rfl
    obtain rfl | rfl := close_cases hok
    · exact hc
    · exact foldl_flushInstance (fun h => h.flushInstance _) _ hc
  | _ => exact routine_awake.serve ticket rfl h

/-- **Processing** leaves no work. -/
theorem not_hasWork_process (d : Device) : ¬ d.process.1.HasWork := by
  rintro (⟨n, j, hj, hq⟩ | ho)
  · have hj' : d.settleRoutes.instances.get? n = some j := hj
    rw [Device.settleRoutes, Table.get?_mapValues] at hj'
    obtain ⟨i, -, rfl⟩ := Option.map_eq_some_iff.1 hj'
    exact hq rfl
  · exact ho rfl

theorem Reachable.awake {settings : Settings} (h : Reachable settings d) : d.Awake := by
  induction h with
  | start =>
    rintro (⟨n, i, hi, -⟩ | ho)
    · cases hi
    · exact absurd rfl ho
  | serve ticket r _ ih => exact ih.serve ticket r
  | process _ _ => exact fun hw => absurd hw (not_hasWork_process _)

/-! ### Nothing left to do -/

/-- Whether no destination waits, and the forwarding table is everywhere that of the best
routes. -/
def Converged (d : Device) : Prop :=
  ∀ n i, d.instances.get? n = some i → i.rib.queue = ∅ ∧
    ∀ dest, i.rib.SettledAt d.settings.preference d.interfaces dest

theorem Sound.converged_of_idle (hs : d.Sound) (hw : ¬ d.HasWork) : d.Converged := by
  intro n i hi
  have hq : i.rib.queue = ∅ := Decidable.byContradiction fun hq => hw (.inl ⟨n, i, hi, hq⟩)
  exact ⟨hq, fun dest => hs n i hi dest (by rw [hq]; rfl)⟩

theorem Converged.sound (h : d.Converged) : d.Sound := fun n i hi dest _ => (h n i hi).2 dest

theorem Converged.congr (h : d.Converged) (hs : d.SameRouting d') : d'.Converged := by
  rw [Converged, hs.settings, hs.interfaces, hs.instances]
  exact h

theorem Sound.converged_process (hs : d.Sound) : d.process.1.Converged :=
  (kept_sound.process hs).converged_of_idle (not_hasWork_process d)

/-- There is no choice left to make in a converged device. -/
theorem Converged.instances_process (h : d.Converged) : d.process.1.instances = d.instances := by
  refine Table.ext_get? fun n => ?_
  show d.settleRoutes.instances.get? n = d.instances.get? n
  rw [settleRoutes, Table.get?_mapValues]
  cases hi : d.instances.get? n with
  | none => rfl
  | some i =>
    -- with an empty queue, the choice is made for no destination
    have hsettle : i.rib.settle d.settings.preference d.interfaces = i.rib := by
      rw [Rib.settle, (h n i hi).1]
      exact congrArg (fun queue => { i.rib with queue }) (h n i hi).1.symm
    rw [Option.map_some, hsettle]

end Device

end RoutePreference
