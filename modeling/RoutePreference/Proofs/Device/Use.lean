import RoutePreference.Proofs.Device.Outcomes
import RoutePreference.Proofs.Device.Reachable

/-!
# Use of the testbed

* `Device.Vacant`: a testbed without network instances, sessions, running flows and protocols;
* `Device.SameUse`: two devices of which this can be said alike, with the same withheld results;
* `Request.changesUse`: the requests that acquire or release something; all others keep the use,
  but the results of operations may be withheld (`serve_sameUse`, `submit_sameUse`);
* `owed_serve_append`: results are withheld for the ticket of a request that isn't answered, behind
  those that were withheld before.
-/

namespace RoutePreference

namespace Device

variable {d d' : Device}

/-- A testbed that nobody uses. -/
structure Vacant (d : Device) : Prop where
  protocols : d.generator.protocolsRunning = false
  instances : ∀ n, d.instances.contains n = false
  sessions : ∀ c, d.sessions.contains c = false
  flows : ∀ n f, d.generator.flows.get? n = some f → f.transmission = none

/-! ### Requests that keep the use -/

/-- Whether two devices are used alike and withhold the same results. -/
structure SameUse (d d' : Device) : Prop where
  protocols : d'.generator.protocolsRunning = d.generator.protocolsRunning
  flows : d'.generator.flows = d.generator.flows
  sessions : d'.sessions = d.sessions
  instances : ∀ n, d'.instances.contains n = d.instances.contains n
  owed : d'.owed = d.owed

namespace SameUse

theorem refl (d : Device) : SameUse d d where
  protocols := rfl
  flows := rfl
  sessions := rfl
  instances _ := rfl
  owed := rfl

theorem trans {d'' : Device} (h : SameUse d d') (h' : SameUse d' d'') :
    SameUse d d'' where
  protocols := h'.protocols.trans h.protocols
  flows := h'.flows.trans h.flows
  sessions := h'.sessions.trans h.sessions
  instances n := (h'.instances n).trans (h.instances n)
  owed := h'.owed.trans h.owed

/-- Folding changes that keep the use. -/
theorem foldl {α : Type} {f : Device → α → Device} (hf : ∀ d a, SameUse d (f d a))
    (l : List α) (d : Device) : SameUse d (l.foldl f d) := by
  induction l generalizing d with
  | nil => exact refl d
  | cons a l ih => exact (hf d a).trans (ih (f d a))

end SameUse

theorem sameUse_changeRib (d : Device) (inst : String) (f : Rib → Rib × Bool) :
    SameUse d (d.changeRib inst f) := by
  have hn : ∀ n, (d.changeRib inst f).instances.contains n = d.instances.contains n := by
    intro n
    rw [Table.contains, get?_changeRib, Table.contains]
    by_cases h : inst = n <;> simp [h]
  unfold changeRib at hn ⊢
  split at hn
  · exact .refl d
  · next i hi => exact ⟨rfl, rfl, rfl, fun n => by simpa only [hi] using hn n, rfl⟩

/-- Putting a network instance in the place of one that is there keeps the use. -/
theorem sameUse_setInstance {name : String} {i : Instance}
    (h : d.instances.get? name = some i) (j : Instance) :
    SameUse d (d.setInstance name j) := by
  refine ⟨rfl, rfl, rfl, fun n => ?_, rfl⟩
  rw [setInstance, Table.contains_insert]
  by_cases hn : name = n
  · rw [← hn, Table.contains_of_get? h, Bool.or_true]
  · simp [hn]

theorem sameUse_reroute (d : Device) (e : Ipv4Entry) : SameUse d (d.reroute e) := by
  unfold reroute
  split
  · exact sameUse_changeRib ..
  · exact .refl d

theorem sameUse_refresh (d : Device) (home : String) (groups : List Nat) :
    SameUse d (d.refresh home groups) :=
  .foldl sameUse_reroute _ d

theorem sameUse_flushInstance (d : Device) (inst : String) :
    SameUse d (d.flushInstance inst) := by
  have hf : SameUse d (d.forgetAft inst) :=
    ⟨rfl, rfl, rfl, fun _ => rfl, rfl⟩
  rw [flushInstance_eq]
  exact hf.trans (.foldl (fun d _ => sameUse_changeRib d ..) _ _)

/-- An operation changes entries and routes only. -/
theorem sameUse_apply {op : Operation} (h : d.apply op = .ok d') : SameUse d d' := by
  have hset : ∀ (d : Device) (inst : String) (t : AftTables), SameUse d (d.setAft inst t) :=
    fun _ _ _ => ⟨rfl, rfl, rfl, fun _ => rfl, rfl⟩
  obtain ⟨-, ⟨_, -, h | h⟩ | ⟨_, -, h | h⟩ | ⟨_, -, h | h⟩⟩ := apply_ok h
  · obtain ⟨-, groups, rfl, -⟩ := addNextHop_ok h
    exact (hset ..).trans (sameUse_refresh ..)
  · obtain ⟨-, rfl⟩ := deleteNextHop_ok h
    exact hset ..
  · obtain ⟨-, -, ids, rfl, -⟩ := addGroup_ok h
    exact (hset ..).trans (sameUse_refresh ..)
  · obtain ⟨-, rfl⟩ := deleteGroup_ok h
    exact hset ..
  · obtain ⟨-, -, route, -, rfl⟩ := addIpv4_ok h
    exact (hset ..).trans (sameUse_changeRib ..)
  · obtain rfl := deleteIpv4_ok h
    exact (hset ..).trans (sameUse_changeRib ..)

theorem sameUse_performAll (primary : Bool) (d : Device) (ops : List Operation) :
    SameUse d (d.performAll primary ops).1 :=
  performAll_of_apply (fun h hok => h.trans (sameUse_apply hok)) primary ops (.refl d)

/-- Operations keep the use.  Their results may be withheld, for the ticket of the request. -/
theorem submit_sameUse (ticket : Nat) (d : Device) (client : Nat) (ops : List Operation) :
    ∃ d₁, SameUse d d₁ ∧
      ((d.submit ticket client ops).1 = d₁ ∨
        ∃ o, o.ticket = ticket ∧ (d.submit ticket client ops).2 = none ∧
          (d.submit ticket client ops).1 =
            { d₁ with owed := d₁.owed ++ [o], tokens := d₁.tokens + 1 }) := by
  unfold submit
  split
  · exact ⟨d, .refl d, .inl rfl⟩
  · next params _ =>
    refine ⟨_, sameUse_performAll (d.isPrimary client) d ops, ?_⟩
    dsimp only
    split
    · exact .inl rfl
    · exact .inr ⟨_, rfl, rfl, rfl⟩

theorem SameUse.settled {r : Except Refusal Device} (hr : ∀ d', r = .ok d' → SameUse d d') :
    SameUse d (d.settled r).1 := settled_of_ok hr (.refl d)

end Device

/-- Whether a request acquires or releases something that a run can leave behind. -/
def Request.changesUse : Request → Bool
  | .setProtocols _ | .replaceInstance _ | .deleteInstance _ | .openSession _ | .close _
  | .startFlow _ | .stopFlow _ | .tick _ => true
  | _ => false

namespace Device

variable {d d' : Device}

/-- All other requests but operations keep the use. -/
theorem serve_sameUse (ticket : Nat) {r : Request} (h : r.changesUse = false)
    (hm : ∀ client ops, r ≠ .modify client ops) (d : Device) :
    SameUse d (d.serve ticket r).1 := by
  cases r with
  | configureDut cfg =>
    refine SameUse.settled fun d' hok => ?_
    rcases configureDut_ok hok with h' | h' <;> rw [h']
    · exact .refl d
    · exact ⟨rfl, rfl, rfl, fun n => Table.contains_mapValues .., rfl⟩
  | configureAte cfg =>
    refine SameUse.settled fun d' hok => ?_
    unfold configureAte at hok
    dsimp only at hok
    split at hok <;> cases hok
    exact ⟨rfl, rfl, rfl, fun _ => rfl, rfl⟩
  | replaceStatic cfg =>
    refine SameUse.settled fun d' hok => ?_
    obtain ⟨i, hi, ⟨-, rfl⟩ | rfl⟩ := replaceStatic_ok hok
    · exact .refl _
    · exact (sameUse_setInstance hi _).trans (sameUse_changeRib ..)
  | deleteStatic inst dest =>
    refine SameUse.settled fun d' hok => ?_
    obtain ⟨i, hi, ⟨-, rfl⟩ | rfl⟩ := deleteStatic_ok hok
    · exact .refl _
    · exact (sameUse_setInstance hi _).trans (sameUse_changeRib ..)
  | modify client ops => exact absurd rfl (hm client ops)
  | flush client inst =>
    refine SameUse.settled fun d' hok => ?_
    obtain ⟨-, -, rfl⟩ := flush_ok hok
    exact sameUse_flushInstance ..
  | read path => exact .refl d
  | counters name => exact .refl d
  | _ => cases h

/-- Closing a session erases it and flushes network instances at most. -/
theorem close_ok {client : Nat} (h : d.close client = .ok d') :
    SameUse { d with sessions := d.sessions.erase client } d' := by
  obtain rfl | rfl := close_cases h
  · exact .refl _
  · exact .foldl sameUse_flushInstance _ _

@[simp] theorem owed_transmit (d : Device) (name : String) : (d.transmit name).owed = d.owed :=
  (sameWork_transmit d name).owed

theorem owed_settled {r : Except Refusal Device} (h : ∀ d', r = .ok d' → d'.owed = d.owed) :
    (d.settled r).1.owed = d.owed := settled_of_ok (P := fun d' => d'.owed = d.owed) h rfl

/-- Only operations withhold results. -/
theorem owed_serve_of_ne_modify (ticket : Nat) (d : Device) {r : Request}
    (hm : ∀ client ops, r ≠ .modify client ops) : (d.serve ticket r).1.owed = d.owed := by
  by_cases hr : r.changesUse = false
  · exact (serve_sameUse ticket hr hm d).owed
  cases r with
  | setProtocols running => rfl
  | replaceInstance cfg =>
    refine owed_settled fun d' hok => ?_
    obtain ⟨-, i, rfl, -⟩ := replaceInstance_ok hok
    rfl
  | deleteInstance name =>
    refine owed_settled fun d' hok => ?_
    obtain rfl := deleteInstance_ok hok
    rfl
  | openSession params => rfl
  | close client => exact owed_settled fun d' hok => (close_ok hok).owed
  | startFlow spec =>
    refine owed_settled fun d' hok => ?_
    unfold startFlow at hok
    split at hok
    · cases hok
    split at hok <;> cases hok
    rfl
  | stopFlow name =>
    refine owed_settled fun d' hok => ?_
    unfold stopFlow at hok
    split at hok <;> cases hok
    rfl
  | tick name => exact owed_transmit d name
  | _ => exact absurd rfl hr

/-- Serving a request withholds results for its own ticket at most, behind all others, and only if
there is no answer to it. -/
theorem owed_serve_append (ticket : Nat) (d : Device) (r : Request) :
    ∃ l, (d.serve ticket r).1.owed = d.owed ++ l ∧
      ∀ o ∈ l, o.ticket = ticket ∧ (d.serve ticket r).2 = none := by
  cases r with
  | modify client ops =>
    obtain ⟨d₁, hd₁, hs | ⟨o, ho, hnone, hs⟩⟩ := submit_sameUse ticket d client ops
    · refine ⟨[], ?_, fun _ ho => (List.not_mem_nil ho).elim⟩
      change (d.submit ticket client ops).1.owed = d.owed ++ []
      rw [hs, hd₁.owed, List.append_nil]
    · refine ⟨[o], ?_, fun o' ho' => ?_⟩
      · change (d.submit ticket client ops).1.owed = d.owed ++ [o]
        rw [hs, ← hd₁.owed]
      · rw [List.mem_singleton.1 ho']
        refine ⟨ho, ?_⟩
        show ((d.submit ticket client ops).2).map Answer.results = none
        rw [hnone]
        rfl
  | _ =>
    refine ⟨[], ?_, fun _ ho => (List.not_mem_nil ho).elim⟩
    rw [owed_serve_of_ne_modify ticket d, List.append_nil]
    simp

theorem owed_serve (ticket : Nat) (d : Device) (r : Request) :
    ∀ o ∈ (d.serve ticket r).1.owed,
      o ∈ d.owed ∨ o.ticket = ticket ∧ (d.serve ticket r).2 = none := by
  intro o ho
  obtain ⟨l, hl, hown⟩ := owed_serve_append ticket d r
  rw [hl] at ho
  exact (List.mem_append.1 ho).imp id (hown o)

end Device

end RoutePreference
