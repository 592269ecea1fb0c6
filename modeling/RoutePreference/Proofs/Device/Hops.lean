import RoutePreference.Proofs.Device.Changes
import RoutePreference.Proofs.Word

/-!
# The next-hops of a programmed route

* `shares`: the weights of the members of a group that have an address;
* `memberHops?_eq_some_iff`: the next-hops of a group are the addresses of its members, each with
  the sum of its shares, and there are such next-hops as soon as every member is programmed;
* `memberHops?_congr`: only the members of the group matter;
* `memberHopsWord?`, `memberHopsWord?_eq`: the next-hops of a group computed with words of 64 bits;
  no sum overflows as long as the shares of every address add up to less than 2⁶⁴;
* `entryRoute?_eq_some_iff`: the route of an IPv4 entry.
-/

namespace RoutePreference

namespace Device

variable {nextHops : Table Nat NextHop}

/-- The sum of weights. -/
def total : List Nat → Nat
  | [] => 0
  | w :: ws => w + total ws

/-- The weights of those members that have the address, in order. -/
def shares (nextHops : Table Nat NextHop) (members : List (Nat × Nat)) (a : Addr) : List Nat :=
  (members.filter fun m => (nextHops.get? m.1).map (·.address) = some a).map (·.2)

theorem shares_cons (m : Nat × Nat) (members : List (Nat × Nat)) (a : Addr) :
    shares nextHops (m :: members) a =
      if (nextHops.get? m.1).map (·.address) = some a then m.2 :: shares nextHops members a
      else shares nextHops members a := by
  simp only [shares, List.filter_cons, decide_eq_true_eq]
  split <;> rfl

/-- The addresses with their weights, as a member of one of them is added. -/
theorem get?_addWeight (hops : Table Addr Nat) (a b : Addr) (w : Nat) :
    (addWeight hops a w).get? b =
      if a = b then some ((hops.get? b).getD 0 + w) else hops.get? b := by
  rw [addWeight, Table.get?_insert]
  split
  · next h => rw [h]
  · rfl

/-- The weight of an address after its shares are added to what it has. -/
def addShares (old : Option Nat) : List Nat → Option Nat
  | [] => old
  | w :: ws => some (old.getD 0 + total (w :: ws))

theorem addShares_cons (old : Option Nat) (w : Nat) (ws : List Nat) :
    addShares (some (old.getD 0 + w)) ws = addShares old (w :: ws) := by
  cases ws with
  | nil => rfl
  | cons x xs =>
    simp only [addShares, Option.getD_some, total, Option.some.injEq]
    omega

/-- Adding one member after the other. -/
theorem foldlM_addWeight (nextHops : Table Nat NextHop) (members : List (Nat × Nat))
    (start : Table Addr Nat) :
    ((∀ m ∈ members, nextHops.contains m.1 = true) ∧
      ∃ hops, (members.foldlM (fun hops m =>
          (nextHops.get? m.1).map fun h => addWeight hops h.address m.2) start) = some hops ∧
        ∀ a, hops.get? a = addShares (start.get? a) (shares nextHops members a)) ∨
    (∃ m ∈ members, nextHops.contains m.1 = false) ∧
      (members.foldlM (fun hops m =>
        (nextHops.get? m.1).map fun h => addWeight hops h.address m.2) start) = none := by
  induction members generalizing start with
  | nil => exact .inl ⟨by simp, start, rfl, fun a => rfl⟩
  | cons m members ih =>
    rw [List.foldlM_cons]
    cases hm : nextHops.get? m.1 with
    | none =>
      exact .inr ⟨⟨m, List.mem_cons_self, Table.contains_eq_false_iff.2 hm⟩, rfl⟩
    | some h =>
      obtain ⟨hall, hops, hfold, hget⟩ | ⟨⟨x, hx, hno⟩, hfold⟩ :=
        ih (addWeight start h.address m.2)
      · refine .inl ⟨?_, hops, hfold, fun a => ?_⟩
        · intro x hx
          obtain rfl | hx := List.mem_cons.1 hx
          · exact Table.contains_of_get? hm
          · exact hall x hx
        rw [hget, get?_addWeight, shares_cons, hm, Option.map_some]
        by_cases ha : h.address = a
        · simp only [ha, if_true]
          exact addShares_cons _ _ _
        · simp [ha]
      · exact .inr ⟨⟨x, List.mem_cons_of_mem _ hx, hno⟩, hfold⟩

/-- **The next-hops of a group**: the addresses of its members, each with the weights of the
members that have it added up. -/
theorem memberHops?_eq_some_iff {members : List (Nat × Nat)} {hops : Table Addr Nat} :
    memberHops? nextHops members = some hops ↔
      (∀ m ∈ members, nextHops.contains m.1 = true) ∧
        ∀ a, hops.get? a = if shares nextHops members a = [] then none
          else some (total (shares nextHops members a)) := by
  have hsum : ∀ ws : List Nat, addShares none ws = if ws = [] then none else some (total ws) := by
    intro ws
    cases ws with
    | nil => rfl
    | cons w ws => simp [addShares]
  constructor
  · intro h
    obtain ⟨hall, hops', hfold, hget⟩ | ⟨-, hfold⟩ :=
      foldlM_addWeight nextHops members ∅
    · rw [memberHops?, hfold] at h
      cases h
      exact ⟨hall, fun a => by rw [hget, Table.get?_empty, hsum]⟩
    · rw [memberHops?, hfold] at h
      cases h
  · rintro ⟨hall, hget⟩
    obtain ⟨-, hops', hfold, hget'⟩ | ⟨⟨m, hm, hno⟩, -⟩ :=
      foldlM_addWeight nextHops members ∅
    · rw [memberHops?, hfold, Option.some.injEq]
      refine Table.ext_get? fun a => ?_
      rw [hget', hget, Table.get?_empty, hsum]
    · rw [hall m hm] at hno
      cases hno

/-- There are next-hops as soon as every member is programmed. -/
theorem memberHops?_isSome {members : List (Nat × Nat)}
    (h : ∀ m ∈ members, nextHops.contains m.1 = true) :
    ∃ hops, memberHops? nextHops members = some hops := by
  obtain ⟨-, hops, hfold, -⟩ | ⟨⟨m, hm, hno⟩, -⟩ :=
    foldlM_addWeight nextHops members ∅
  · exact ⟨hops, hfold⟩
  · rw [h m hm] at hno
    cases hno

/-- Only the members themselves matter. -/
theorem memberHops?_congr {nextHops' : Table Nat NextHop} {members : List (Nat × Nat)}
    (h : ∀ m ∈ members, nextHops'.get? m.1 = nextHops.get? m.1) :
    memberHops? nextHops' members = memberHops? nextHops members := by
  have hshares : ∀ a, shares nextHops' members a = shares nextHops members a := by
    intro a
    rw [shares, shares]
    refine congrArg (List.map _) (List.filter_congr fun m hm => ?_)
    rw [h m hm]
  refine Option.ext fun hops => ?_
  simp only [memberHops?_eq_some_iff, hshares]
  refine and_congr_left fun _ => forall_congr' fun m => forall_congr' fun hm => ?_
  rw [Table.contains, h m hm, Table.contains]

/-! ### With words -/

/-- Adds the weight of a member to that of its address, if the sum fits. -/
def addWeightWord? (hops : Table Addr (BitVec 64)) (a : Addr) (weight : BitVec 64) :
    Option (Table Addr (BitVec 64)) :=
  (Word.add? ((hops.get? a).getD 0) weight).map fun sum => hops.insert a sum

/-- The addresses of the members with their weights, if every member is programmed and every sum
fits. -/
def memberHopsWord? (nextHops : Table Nat NextHop) (members : List (Nat × Nat)) :
    Option (Table Addr (BitVec 64)) :=
  members.foldlM (fun hops m => (nextHops.get? m.1).bind fun h =>
    addWeightWord? hops h.address (BitVec.ofNat 64 m.2)) ∅

/-- Whether words stand for the weights of the same addresses. -/
def Stands (words : Table Addr (BitVec 64)) (hops : Table Addr Nat) : Prop :=
  ∀ a, (words.get? a).map BitVec.toNat = hops.get? a

theorem Stands.getD {words : Table Addr (BitVec 64)} {hops : Table Addr Nat}
    (h : Stands words hops) (a : Addr) :
    ((words.get? a).getD 0).toNat = (hops.get? a).getD 0 := by
  rw [← h a]
  cases words.get? a <;> rfl

theorem Stands.addWeight {words : Table Addr (BitVec 64)} {hops : Table Addr Nat}
    (h : Stands words hops) {a : Addr} {w : Nat}
    (hfits : (hops.get? a).getD 0 + w < 0x10000000000000000) :
    ∃ words', addWeightWord? words a (BitVec.ofNat 64 w) = some words' ∧
      Stands words' (addWeight hops a w) := by
  obtain ⟨sum, hsum, hsumNat⟩ := Word.add?_ofNat (x := (words.get? a).getD 0) (n := w)
    (by rw [h.getD, BitVec.toNat_allOnes]; omega)
  refine ⟨words.insert a sum, by rw [addWeightWord?, hsum, Option.map_some], fun b => ?_⟩
  rw [get?_addWeight, Table.get?_insert]
  by_cases hab : a = b
  · rw [if_pos hab, if_pos hab, Option.map_some, hsumNat, h.getD, hab]
  · rw [if_neg hab, if_neg hab, h b]

/-- What an address has and its shares, before and after the first of them is added. -/
theorem getD_addWeight {m : Nat × Nat} {nh : NextHop} (hm : nextHops.get? m.1 = some nh)
    (hops : Table Addr Nat) (members : List (Nat × Nat)) (a : Addr) :
    ((addWeight hops nh.address m.2).get? a).getD 0 + total (shares nextHops members a) =
      (hops.get? a).getD 0 + total (shares nextHops (m :: members) a) := by
  rw [get?_addWeight, shares_cons, hm, Option.map_some]
  by_cases ha : nh.address = a
  · simp only [ha, if_true, Option.getD_some, total]
    omega
  · simp [ha]

/-- Adding one member after the other, as long as what each address has and its shares fit
together. -/
theorem foldlM_addWeightWord? {members : List (Nat × Nat)} {words : Table Addr (BitVec 64)}
    {hops : Table Addr Nat} (hall : ∀ m ∈ members, nextHops.contains m.1 = true)
    (h : Stands words hops)
    (hfits : ∀ a, (hops.get? a).getD 0 + total (shares nextHops members a) <
      0x10000000000000000) :
    ∃ words' hops',
      members.foldlM (fun words m => (nextHops.get? m.1).bind fun h =>
        addWeightWord? words h.address (BitVec.ofNat 64 m.2)) words = some words' ∧
      members.foldlM (fun hops m =>
        (nextHops.get? m.1).map fun h => addWeight hops h.address m.2) hops = some hops' ∧
      Stands words' hops' := by
  induction members generalizing words hops with
  | nil => exact ⟨words, hops, rfl, rfl, h⟩
  | cons m members ih =>
    obtain ⟨hhead, hrest⟩ := List.forall_mem_cons.1 hall
    obtain ⟨nh, hm⟩ := Table.contains_iff.1 hhead
    have hself := getD_addWeight hm hops members nh.address ▸ hfits nh.address
    rw [get?_addWeight, if_pos rfl, Option.getD_some] at hself
    obtain ⟨words₁, hwords₁, hstands⟩ := h.addWeight (a := nh.address) (w := m.2) (by omega)
    obtain ⟨words', hops', hwords', hhops', hstands'⟩ :=
      ih hrest hstands fun a => getD_addWeight hm hops members a ▸ hfits a
    refine ⟨words', hops', ?_, ?_, hstands'⟩
    · rw [List.foldlM_cons, hm, Option.bind_some, hwords₁]
      exact hwords'
    · rw [List.foldlM_cons, hm, Option.map_some]
      exact hhops'

/-- **No sum of weights overflows** as long as the shares of every address fit together, and words
stand for the same next-hops. -/
theorem memberHopsWord?_eq {members : List (Nat × Nat)}
    (hall : ∀ m ∈ members, nextHops.contains m.1 = true)
    (hfits : ∀ a, total (shares nextHops members a) < 0x10000000000000000) :
    ∃ words hops, memberHopsWord? nextHops members = some words ∧
      memberHops? nextHops members = some hops ∧ Stands words hops :=
  foldlM_addWeightWord? hall (fun _ => rfl) fun a => by
    rw [Table.get?_empty, Option.getD_none, Nat.zero_add]
    exact hfits a

/-! ### The route of an entry -/

/-- The route of an entry has the entry's tag, the group's identifier, and the next-hops of the
group. -/
theorem entryRoute?_eq_some_iff {d : Device} {e : Ipv4Entry} {r : Route} :
    d.entryRoute? e = some r ↔ ∃ g hops, (d.aftOf e.groupHome).groups.get? e.group = some g ∧
      memberHops? (d.aftOf e.groupHome).nextHops g.members.entries = some hops ∧
      r = { tag := e.tag, group := some g.id, hops } := by
  simp only [entryRoute?, Option.bind_eq_some_iff, Option.map_eq_some_iff]
  constructor
  · rintro ⟨g, hg, hops, hh, rfl⟩
    exact ⟨g, hops, hg, hh, rfl⟩
  · rintro ⟨g, hops, hg, hh, rfl⟩
    exact ⟨g, hg, hops, hh, rfl⟩

/-- Only the group of the entry and the group's members matter. -/
theorem entryRoute?_congr_group {d d' : Device} {e : Ipv4Entry}
    (hg : (d'.aftOf e.groupHome).groups.get? e.group = (d.aftOf e.groupHome).groups.get? e.group)
    (hm : ∀ g m, (d.aftOf e.groupHome).groups.get? e.group = some g → m ∈ g.members.entries →
      (d'.aftOf e.groupHome).nextHops.get? m.1 = (d.aftOf e.groupHome).nextHops.get? m.1) :
    d'.entryRoute? e = d.entryRoute? e := by
  simp only [entryRoute?, hg]
  cases hgr : (d.aftOf e.groupHome).groups.get? e.group with
  | none => rfl
  | some g => simp only [Option.bind_some, memberHops?_congr fun m hmem => hm g m hgr hmem]

@[simp] theorem entryRoute?_changeRib (d : Device) (inst : String) (f : Rib → Rib × Bool)
    (e : Ipv4Entry) : (d.changeRib inst f).entryRoute? e = d.entryRoute? e :=
  entryRoute?_congr (aftOf_changeRib d inst _ f)

/-- Other IPv4 entries make no difference. -/
theorem entryRoute?_setIpv4 (d : Device) (inst : String) (ipv4 : Table Network Ipv4Entry)
    (e : Ipv4Entry) :
    (d.setAft inst { d.aftOf inst with ipv4 }).entryRoute? e = d.entryRoute? e := by
  simp only [entryRoute?, aftOf_setAft]
  by_cases h : inst = e.groupHome <;> simp [h]

end Device

end RoutePreference
