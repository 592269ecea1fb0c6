import RoutePreference.Proofs.Device.History
import RoutePreference.Proofs.Device.Use

/-!
# Sessions in the course of a history

* `apply_edits`, `performAll_edits`, `flushInstance_edits`: operations on entries are made of
  changes of the programmed entries of one network instance and of one routing table;
* `Device.SameClients`: devices with the same sessions, which all but two requests keep;
* `sessions_step`, `lastClient_step`: only opening and closing a session changes which sessions are
  open, and only opening one uses up a number;
* `Device.opened`, `Device.openings`: the sessions that are opened at an event, and in the course of
  a history, with the numbers that were answered;
* `numbers_openings`: these numbers follow each other, so none is given out twice;
* `mem_openings`, `opened_first`: an open session is one of them, and lower numbers were given out
  first.
-/

namespace RoutePreference

namespace Device

variable {settings : Settings} {d d' : Device}

/-! ### What operations are made of -/

section Edits

variable {P : Device → Prop}

theorem foldl_edits {α : Type} {f : Device → α → Device} (hf : ∀ d a, P d → P (f d a))
    (l : List α) (hd : P d) : P (l.foldl f d) := by
  induction l generalizing d with
  | nil => exact hd
  | cons a l ih => exact ih (hf d a hd)

theorem reroute_edits (hrib : ∀ d inst f, P d → P (changeRib d inst f)) (e : Ipv4Entry)
    (hd : P d) : P (d.reroute e) := by
  unfold reroute
  split
  · exact hrib _ _ _ hd
  · exact hd

/-- What changes of the programmed entries and of the routing tables keep, operations keep. -/
theorem apply_edits (hset : ∀ d inst t, P d → P (setAft d inst t))
    (hrib : ∀ d inst f, P d → P (changeRib d inst f)) {op : Operation} (hd : P d)
    (hok : d.apply op = .ok d') : P d' := by
  obtain ⟨-, ⟨_, -, h | h⟩ | ⟨_, -, h | h⟩ | ⟨_, -, h | h⟩⟩ := apply_ok hok
  · obtain ⟨-, groups, rfl, -⟩ := addNextHop_ok h
    exact foldl_edits (fun _ e => reroute_edits hrib e) _ (hset _ _ _ hd)
  · obtain ⟨-, rfl⟩ := deleteNextHop_ok h
    exact hset _ _ _ hd
  · obtain ⟨-, -, ids, rfl, -⟩ := addGroup_ok h
    exact foldl_edits (fun _ e => reroute_edits hrib e) _ (hset _ _ _ hd)
  · obtain ⟨-, rfl⟩ := deleteGroup_ok h
    exact hset _ _ _ hd
  · obtain ⟨-, -, route, -, rfl⟩ := addIpv4_ok h
    exact hrib _ _ _ (hset _ _ _ hd)
  · obtain rfl := deleteIpv4_ok h
    exact hrib _ _ _ (hset _ _ _ hd)

theorem performAll_edits (hset : ∀ d inst t, P d → P (setAft d inst t))
    (hrib : ∀ d inst f, P d → P (changeRib d inst f)) (primary : Bool) (ops : List Operation)
    (hd : P d) : P (d.performAll primary ops).1 :=
  performAll_of_apply (fun hd hok => apply_edits hset hrib hd hok) primary ops hd

theorem flushInstance_edits (hforget : ∀ d inst, P d → P (forgetAft d inst))
    (hrib : ∀ d inst f, P d → P (changeRib d inst f)) (inst : String) (hd : P d) :
    P (d.flushInstance inst) := by
  rw [flushInstance_eq]
  exact foldl_edits (fun _ _ => hrib _ _ _) _ (hforget _ _ hd)

end Edits

/-! ### What changes the sessions -/

/-- Whether two devices have the same sessions open, and the same number was given out last. -/
structure SameClients (d d' : Device) : Prop where
  lastClient : d'.lastClient = d.lastClient
  sessions : d'.sessions = d.sessions

namespace SameClients

theorem refl (d : Device) : SameClients d d := ⟨rfl, rfl⟩

theorem changeRib (h : SameClients d d') (inst : String) (f : Rib → Rib × Bool) :
    SameClients d (d'.changeRib inst f) := by
  unfold Device.changeRib
  split
  · exact h
  · exact ⟨h.lastClient, h.sessions⟩

theorem setInstance (d : Device) (name : String) (i : Instance) :
    SameClients d (d.setInstance name i) := ⟨rfl, rfl⟩

theorem performAll (h : SameClients d d') (primary : Bool) (ops : List Operation) :
    SameClients d (d'.performAll primary ops).1 :=
  performAll_edits (P := SameClients d) (fun _ _ _ h => ⟨h.lastClient, h.sessions⟩)
    (fun _ inst f h => h.changeRib inst f) primary ops h

theorem flushInstance (h : SameClients d d') (inst : String) :
    SameClients d (d'.flushInstance inst) :=
  flushInstance_edits (P := SameClients d) (fun _ _ h => ⟨h.lastClient, h.sessions⟩)
    (fun _ inst f h => h.changeRib inst f) inst h

theorem submit (d : Device) (ticket client : Nat) (ops : List Operation) :
    SameClients d (d.submit ticket client ops).1 := by
  have hops := (refl d).performAll (d.isPrimary client) ops
  unfold Device.submit
  split
  · exact refl d
  · dsimp only
    split
    · exact hops
    · exact ⟨hops.lastClient, hops.sessions⟩

theorem settled {r : Except Refusal Device} (hr : ∀ d', r = .ok d' → SameClients d d') :
    SameClients d (d.settled r).1 := settled_of_ok hr (refl d)

/-- Whatever is neither opened nor closed. -/
theorem serve (ticket : Nat) (d : Device) {r : Request} (hopens : ∀ params, r ≠ .openSession params)
    (hcloses : ∀ client, r ≠ .close client) : SameClients d (d.serve ticket r).1 := by
  cases r with
  | configureDut cfg =>
    refine settled fun d' hok => ?_
    obtain rfl | rfl := configureDut_ok hok <;> exact ⟨rfl, rfl⟩
  | configureAte cfg =>
    refine settled fun d' hok => ?_
    unfold configureAte at hok
    dsimp only at hok
    split at hok <;> cases hok
    exact ⟨rfl, rfl⟩
  | replaceInstance cfg =>
    refine settled fun d' hok => ?_
    obtain ⟨-, i, rfl, -⟩ := replaceInstance_ok hok
    exact ⟨rfl, rfl⟩
  | deleteInstance name =>
    refine settled fun d' hok => ?_
    obtain rfl := deleteInstance_ok hok
    exact ⟨rfl, rfl⟩
  | replaceStatic cfg =>
    refine settled fun d' hok => ?_
    obtain ⟨i, -, ⟨-, rfl⟩ | rfl⟩ := replaceStatic_ok hok
    · exact refl _
    · exact (setInstance ..).changeRib ..
  | deleteStatic inst dest =>
    refine settled fun d' hok => ?_
    obtain ⟨i, -, ⟨-, rfl⟩ | rfl⟩ := deleteStatic_ok hok
    · exact refl _
    · exact (setInstance ..).changeRib ..
  | openSession params => exact absurd rfl (hopens params)
  | modify client ops => exact submit d ticket client ops
  | flush client inst =>
    refine settled fun d' hok => ?_
    obtain ⟨-, -, rfl⟩ := flush_ok hok
    exact (refl d).flushInstance inst
  | close client => exact absurd rfl (hcloses client)
  | startFlow spec =>
    refine settled fun d' hok => ?_
    unfold startFlow at hok
    split at hok
    · cases hok
    split at hok <;> cases hok
    exact ⟨rfl, rfl⟩
  | stopFlow name =>
    refine settled fun d' hok => ?_
    unfold stopFlow at hok
    split at hok <;> cases hok
    exact ⟨rfl, rfl⟩
  | tick name =>
    show SameClients d (d.transmit name)
    unfold transmit
    split
    · exact refl d
    · split <;> exact ⟨rfl, rfl⟩
  | setProtocols | read | counters => exact ⟨rfl, rfl⟩

end SameClients

/-- Closing a session closes no other one.  Where it isn't open, there is nothing to close. -/
theorem sameClients_close (d : Device) (ticket client : Nat) :
    SameClients { d with sessions := d.sessions.erase client }
      (d.serve ticket (.close client)).1 := by
  show SameClients _ (d.settled (d.close client)).1
  cases hc : d.close client with
  | ok d' =>
    obtain rfl | rfl := close_cases hc
    · exact .refl _
    · exact foldl_edits (P := SameClients _) (fun _ inst h => h.flushInstance inst) _ (.refl _)
  | error reason =>
    have hnone : d.sessions.get? client = none := by
      unfold close at hc
      split at hc
      · next h => exact h
      · dsimp only at hc
        split at hc <;> cases hc
    rw [Table.erase_eq_self hnone]
    exact .refl d

/-- Only opening a session uses up a number. -/
theorem lastClient_step (d : Device) (e : Event) :
    (d.step e).lastClient =
      match e with
      | .serve _ (.openSession _) => d.lastClient + 1
      | _ => d.lastClient := by
  cases e with
  | process => rfl
  | serve ticket r =>
    cases r with
    | openSession params => rfl
    | close client => exact (sameClients_close d ticket client).lastClient
    | _ => exact (SameClients.serve ticket d (by simp) (by simp)).lastClient

/-- Only opening and closing a session changes which sessions are open. -/
theorem sessions_step (d : Device) (e : Event) :
    (d.step e).sessions =
      match e with
      | .serve _ (.openSession params) => d.sessions.insert (d.lastClient + 1) params
      | .serve _ (.close client) => d.sessions.erase client
      | _ => d.sessions := by
  cases e with
  | process => rfl
  | serve ticket r =>
    cases r with
    | openSession params => rfl
    | close client => exact (sameClients_close d ticket client).sessions
    | _ => exact (SameClients.serve ticket d (by simp) (by simp)).sessions

/-! ### The sessions that were opened -/

/-- The session that is opened at an event, with the number that is answered. -/
def opened (d : Device) : Event → List (Nat × SessionParams)
  | .serve ticket (.openSession params) =>
    match (d.serve ticket (.openSession params)).2 with
    | some (.session client) => [(client, params)]
    | _ => []
  | _ => []

/-- The sessions that are opened in the course of a history, first one first. -/
def openings (d : Device) : List Event → List (Nat × SessionParams)
  | [] => []
  | e :: h => d.opened e ++ (d.step e).openings h

/-- A session is opened under the number after the last one. -/
theorem opened_cases (d : Device) (e : Event) :
    (d.opened e = [] ∧ (d.step e).lastClient = d.lastClient) ∨
      ∃ params, d.opened e = [(d.lastClient + 1, params)] ∧
        (d.step e).lastClient = d.lastClient + 1 := by
  rw [lastClient_step]
  cases e with
  | process => exact .inl ⟨rfl, rfl⟩
  | serve ticket r =>
    cases r with
    | openSession params => exact .inr ⟨params, rfl, rfl⟩
    | _ => exact .inl ⟨rfl, rfl⟩

/-- **Numbers follow each other**, so that none is given out twice. -/
theorem numbers_openings (d : Device) (h : List Event) :
    (d.openings h).map (·.1) = List.range' (d.lastClient + 1) (d.openings h).length := by
  induction h generalizing d with
  | nil => rfl
  | cons e h ih =>
    have hrest := ih (d.step e)
    obtain ⟨hnone, hlast⟩ | ⟨params, hone, hlast⟩ := d.opened_cases e
    · rw [hlast] at hrest
      rw [openings, hnone]
      exact hrest
    · rw [hlast] at hrest
      rw [openings, hone]
      exact congrArg (List.cons (d.lastClient + 1)) hrest

theorem pairwise_openings (d : Device) (h : List Event) :
    (d.openings h).Pairwise fun x y => x.1 < y.1 := by
  rw [← List.pairwise_map (f := Prod.fst) (R := (· < ·)), numbers_openings]
  exact List.pairwise_lt_range'

/-- A session that is open after an event was opened at it, or was open before. -/
theorem get?_sessions_step {e : Event} {client : Nat} {params : SessionParams}
    (hopen : (d.step e).sessions.get? client = some params) :
    (client, params) ∈ d.opened e ∨ d.sessions.get? client = some params := by
  rw [sessions_step] at hopen
  split at hopen
  · next ticket p =>
    rw [Table.get?_insert] at hopen
    split at hopen
    · next hc =>
      cases hopen
      rw [← hc]
      exact .inl (List.mem_singleton.2 rfl)
    · exact .inr hopen
  · rw [Table.get?_erase] at hopen
    split at hopen
    · cases hopen
    · exact .inr hopen
  · exact .inr hopen

/-- An open session is one that was opened. -/
theorem mem_openings {h : List Event} {client : Nat} {params : SessionParams}
    (hopen : (d.after h).sessions.get? client = some params) :
    (client, params) ∈ d.openings h ∨ d.sessions.get? client = some params := by
  induction h generalizing d with
  | nil => exact .inr hopen
  | cons e h ih =>
    rw [openings, List.mem_append]
    obtain hlater | hbefore := ih hopen
    · exact .inl (.inr hlater)
    · exact (get?_sessions_step hbefore).imp .inl id

/-- Of two sessions that were opened, the one with the lower number was opened first. -/
theorem opened_first {h : List Event} {x y : Nat × SessionParams} (hx : x ∈ d.openings h)
    (hy : y ∈ d.openings h) (hlt : x.1 < y.1) : [x, y].Sublist (d.openings h) := by
  have hsorted := d.pairwise_openings h
  generalize d.openings h = l at hx hy hsorted
  induction l with
  | nil => cases hx
  | cons z l ih =>
    obtain ⟨hz, hl⟩ := List.pairwise_cons.1 hsorted
    obtain rfl | hxl := List.mem_cons.1 hx
    · obtain rfl | hyl := List.mem_cons.1 hy
      · exact absurd hlt (Nat.lt_irrefl _)
      · exact (List.singleton_sublist.2 hyl).cons_cons x
    · obtain rfl | hyl := List.mem_cons.1 hy
      · exact absurd (hz x hxl) (Nat.lt_asymm hlt)
      · exact (ih hxl hyl hl).cons z

/-- Conversely, what was opened first has the lower number. -/
theorem lt_of_opened_first {h : List Event} {x y : Nat × SessionParams}
    (hxy : [x, y].Sublist (d.openings h)) : x.1 < y.1 := by
  have hpair := (d.pairwise_openings h).sublist hxy
  simpa using hpair

end Device

end RoutePreference
