import RoutePreference.Device.Forwarding
import RoutePreference.Proofs.Word

/-!
# Shares of the line of weights

* `FibEntry.InShare`: whether a point falls into the share of the next-hop at some place;
  `inShare_zero_iff`, `inShare_succ_iff`: shares of a list by those of its tail;
* `inShare_unique`, `exists_inShare`, `atPoint?_of_inShare`: each point below the sum of the weights
  falls into exactly one share, and the next-hop it belongs to is found;
* `FibEntry.point`, `select?_of_inShare`: the next-hop for an address;
* `FibEntry.line`, `select?_eq_line`: the line of weights drawn out, and the choice as a place on
  it;
* `FibEntry.selectWord?`, `selectWord?_eq`: the choice computed with words of 64 bits; no sum
  overflows and no difference is negative.
-/

namespace RoutePreference

namespace FibEntry

variable {hops : List Hop} {hop : Hop} {i j p : Nat} {e : FibEntry}

/-! ### Shares -/

/-- Whether a point falls into the share of the next-hop at a given place: it is not below the sum
of the weights before that place, and below this sum with the weight at that place. -/
def InShare (hops : List Hop) (i p : Nat) : Prop :=
  weightOf (hops.take i) ≤ p ∧ p < weightOf (hops.take (i + 1))

theorem inShare_nil (i p : Nat) : ¬ InShare [] i p := by
  simp [InShare, weightOf]

theorem inShare_zero_iff : InShare (hop :: hops) 0 p ↔ p < hop.weight := by
  simp [InShare, weightOf]

theorem inShare_succ_iff :
    InShare (hop :: hops) (i + 1) p ↔
      hop.weight ≤ p ∧ InShare hops i (p - hop.weight) := by
  simp only [InShare, List.take_succ_cons, weightOf]
  omega

/-- Shares do not overlap. -/
theorem inShare_unique (hi : InShare hops i p) (hj : InShare hops j p) : i = j := by
  induction hops generalizing i j p with
  | nil => exact absurd hi (inShare_nil i p)
  | cons hop hops ih =>
    rcases i with _ | i <;> rcases j with _ | j
    · rfl
    · rw [inShare_zero_iff] at hi
      rw [inShare_succ_iff] at hj
      omega
    · rw [inShare_succ_iff] at hi
      rw [inShare_zero_iff] at hj
      omega
    · rw [inShare_succ_iff] at hi hj
      rw [ih hi.2 hj.2]

/-- A point below the sum of the weights falls into a share. -/
theorem exists_inShare (h : p < weightOf hops) :
    ∃ i hop, hops[i]? = some hop ∧ InShare hops i p := by
  induction hops generalizing p with
  | nil => exact absurd h (Nat.not_lt_zero p)
  | cons hop hops ih =>
    by_cases hhead : p < hop.weight
    · exact ⟨0, hop, rfl, inShare_zero_iff.2 hhead⟩
    · rw [weightOf] at h
      obtain ⟨i, hop', hget, hshare⟩ := ih (p := p - hop.weight) (by omega)
      exact ⟨i + 1, hop', hget, inShare_succ_iff.2 ⟨Nat.not_lt.1 hhead, hshare⟩⟩

/-- The next-hop into whose share a point falls is found. -/
theorem atPoint?_of_inShare (h : InShare hops i p) : atPoint? hops p = hops[i]? := by
  induction hops generalizing i p with
  | nil => exact absurd h (inShare_nil i p)
  | cons hop hops ih =>
    cases i with
    | zero => exact if_pos (inShare_zero_iff.1 h)
    | succ i =>
      obtain ⟨hbeyond, hshare⟩ := inShare_succ_iff.1 h
      rw [atPoint?, if_neg (Nat.not_lt.2 hbeyond), ih hshare, List.getElem?_cons_succ]

theorem weightOf_take_succ (h : hops[i]? = some hop) :
    weightOf (hops.take (i + 1)) = weightOf (hops.take i) + hop.weight := by
  induction hops generalizing i with
  | nil => cases h
  | cons hop' hops ih =>
    cases i with
    | zero =>
      cases h
      simp [weightOf]
    | succ i =>
      rw [List.take_succ_cons, List.take_succ_cons, weightOf, weightOf, ih h, Nat.add_assoc]

theorem weightOf_take_le (hops : List Hop) (i : Nat) : weightOf (hops.take i) ≤ weightOf hops := by
  induction hops generalizing i with
  | nil => simp
  | cons hop hops ih =>
    cases i with
    | zero => exact Nat.zero_le _
    | succ i => exact Nat.add_le_add_left (ih i) hop.weight

/-- A share is as long as the weight at its place. -/
theorem inShare_iff (h : hops[i]? = some hop) :
    InShare hops i p ↔
      weightOf (hops.take i) ≤ p ∧ p < weightOf (hops.take i) + hop.weight := by
  rw [InShare, weightOf_take_succ h]

/-! ### The choice for an address -/

/-- The point on the line of weights that the hash of an address picks. -/
def point (e : FibEntry) (a : Addr) : Nat := (flowHash a).toNat % e.totalWeight

theorem point_lt (h : 0 < e.totalWeight) (a : Addr) : e.point a < e.totalWeight := Nat.mod_lt _ h

/-- The next-hop into whose share the point falls is chosen; the last one is never needed
instead. -/
theorem select?_eq_atPoint? (h : 0 < e.totalWeight) (a : Addr) :
    e.select? a = atPoint? e.hops (e.point a) := by
  obtain ⟨hop, hfound⟩ := Option.isSome_iff_exists.1 (atPoint?_isSome (point_lt h a))
  rw [select?, if_neg (Nat.pos_iff_ne_zero.1 h)]
  show (atPoint? e.hops (e.point a)).or _ = _
  rw [hfound, Option.some_or]

theorem select?_of_inShare (h : 0 < e.totalWeight) {a : Addr}
    (hshare : InShare e.hops i (e.point a)) : e.select? a = e.hops[i]? := by
  rw [select?_eq_atPoint? h, atPoint?_of_inShare hshare]

/-- For every address a next-hop is chosen, the one into whose share its point falls. -/
theorem exists_select? (h : 0 < e.totalWeight) (a : Addr) :
    ∃ i hop, e.hops[i]? = some hop ∧ InShare e.hops i (e.point a) ∧ e.select? a = some hop := by
  obtain ⟨i, hop, hget, hshare⟩ := exists_inShare (point_lt h a)
  exact ⟨i, hop, hget, hshare, (select?_of_inShare h hshare).trans hget⟩

/-! ### The line of weights -/

/-- The line of weights drawn out: every next-hop stands there as often as it weighs. -/
def line (hops : List Hop) : List Hop := hops.flatMap fun hop => List.replicate hop.weight hop

theorem line_cons (hop : Hop) (hops : List Hop) :
    line (hop :: hops) = List.replicate hop.weight hop ++ line hops :=
  List.flatMap_cons

theorem length_line (hops : List Hop) : (line hops).length = weightOf hops := by
  induction hops with
  | nil => rfl
  | cons hop hops ih => rw [line_cons, List.length_append, List.length_replicate, ih, weightOf]

/-- The next-hop into whose share a point falls stands at that point of the line. -/
theorem atPoint?_eq_getElem?_line (hops : List Hop) (p : Nat) :
    atPoint? hops p = (line hops)[p]? := by
  induction hops generalizing p with
  | nil => rfl
  | cons hop hops ih =>
    rw [atPoint?, line_cons]
    by_cases hhead : p < hop.weight
    · rw [if_pos hhead, List.getElem?_append_left (by rwa [List.length_replicate]),
        List.getElem?_replicate_of_lt hhead]
    · rw [if_neg hhead, ih, List.getElem?_append_right (by rw [List.length_replicate]; omega),
        List.length_replicate]

/-- **The choice is a place on the line of weights**, or the first next-hop if nothing has any
weight. -/
theorem select?_eq_line (e : FibEntry) (a : Addr) :
    e.select? a =
      ((line e.hops)[(flowHash a).toNat % (line e.hops).length]?).or e.hops.head? := by
  have htotalWeight : weightOf e.hops = e.totalWeight := rfl
  rw [length_line, htotalWeight]
  rcases Nat.eq_zero_or_pos e.totalWeight with hnone | hpositive
  · have hempty : line e.hops = [] := List.eq_nil_of_length_eq_zero ((length_line _).trans hnone)
    rw [select?, if_pos hnone, hempty, List.getElem?_nil, Option.none_or]
  · rw [select?_eq_atPoint? hpositive, ← atPoint?_eq_getElem?_line]
    obtain ⟨hop, hfound⟩ := Option.isSome_iff_exists.1 (atPoint?_isSome (point_lt hpositive a))
    show atPoint? e.hops (e.point a) = (atPoint? e.hops (e.point a)).or _
    rw [hfound, Option.some_or]

/-! ### With words -/

/-- The sum of the weights and a given word, if it fits. -/
def sumWord? : List Hop → BitVec 64 → Option (BitVec 64)
  | [], sum => some sum
  | h :: rest, sum => (Word.add? sum (BitVec.ofNat 64 h.weight)).bind (sumWord? rest)

/-- The next-hop into whose share of the line of weights the point falls, if no difference is
negative. -/
def atPointWord? : List Hop → BitVec 64 → Option (Option Hop)
  | [], _ => some none
  | h :: rest, point =>
    if point < BitVec.ofNat 64 h.weight then some (some h)
    else (Word.sub? point (BitVec.ofNat 64 h.weight)).bind (atPointWord? rest)

/-- The next-hop for an address, if no operation on words fails. -/
def selectWord? (e : FibEntry) (a : Addr) : Option (Option Hop) := do
  let total ← sumWord? e.hops 0
  if total = 0 then some e.hops.head?
  else
    let point ← Word.mod? ((flowHash a).setWidth 64) total
    let found ← atPointWord? e.hops point
    some (found.or e.hops.getLast?)

theorem sumWord?_spec (hops : List Hop) (sum : BitVec 64)
    (h : sum.toNat + weightOf hops < 0x10000000000000000) :
    ∃ total, sumWord? hops sum = some total ∧ total.toNat = sum.toNat + weightOf hops := by
  induction hops generalizing sum with
  | nil => exact ⟨sum, rfl, rfl⟩
  | cons hop hops ih =>
    rw [weightOf] at h
    obtain ⟨sum', hsum, hsumNat⟩ := Word.add?_ofNat (x := sum) (n := hop.weight)
      (by rw [BitVec.toNat_allOnes]; omega)
    obtain ⟨total, htotal, htotalNat⟩ := ih sum' (by omega)
    refine ⟨total, ?_, ?_⟩
    · rw [sumWord?, hsum, Option.bind_some, htotal]
    · rw [htotalNat, weightOf]
      omega

/-- No difference is negative. -/
theorem atPointWord?_eq (h : weightOf hops < 0x10000000000000000) (point : BitVec 64) :
    atPointWord? hops point = some (atPoint? hops point.toNat) := by
  induction hops generalizing point with
  | nil => rfl
  | cons hop hops ih =>
    rw [weightOf] at h
    have hweight : (BitVec.ofNat 64 hop.weight).toNat = hop.weight :=
      Word.toNat_ofNat_of_le (by rw [BitVec.toNat_allOnes]; omega)
    have hlt : point < BitVec.ofNat 64 hop.weight ↔ point.toNat < hop.weight := by
      rw [BitVec.lt_def, hweight]
    rw [atPointWord?, atPoint?]
    by_cases hhead : point.toNat < hop.weight
    · rw [if_pos (hlt.2 hhead), if_pos hhead]
    · obtain ⟨rest, hrest, hrestNat⟩ := Word.sub?_spec (x := point)
        (y := BitVec.ofNat 64 hop.weight) (by omega)
      rw [if_neg (fun h => hhead (hlt.1 h)), if_neg hhead, hrest, Option.bind_some, ih (by omega),
        hrestNat, hweight]

/-- **No operation on words fails** as long as the sum of the weights fits, and they choose the same
next-hop. -/
theorem selectWord?_eq (h : e.totalWeight < 0x10000000000000000) (a : Addr) :
    e.selectWord? a = some (e.select? a) := by
  have hzero : (0 : BitVec 64).toNat = 0 := rfl
  have htotalWeight : weightOf e.hops = e.totalWeight := rfl
  obtain ⟨total, htotal, htotalNat⟩ := sumWord?_spec e.hops 0 (by omega)
  rw [hzero, Nat.zero_add, htotalWeight] at htotalNat
  rw [selectWord?, htotal, Option.bind_eq_bind, Option.bind_some, select?]
  by_cases hnone : e.totalWeight = 0
  · rw [if_pos (Word.eq_zero_iff.2 (htotalNat.trans hnone)), if_pos hnone]
  · have hsome : ¬ total = 0 := fun h => hnone (htotalNat.symm.trans (Word.eq_zero_iff.1 h))
    obtain ⟨point, hpoint, hpointNat⟩ :=
      Word.mod?_spec (x := (flowHash a).setWidth 64) (y := total) (by omega)
    have hhash : ((flowHash a).setWidth 64).toNat = (flowHash a).toNat := by
      have hlt := (flowHash a).isLt
      rw [BitVec.toNat_setWidth]
      omega
    rw [hhash, htotalNat] at hpointNat
    rw [if_neg hsome, if_neg hnone, hpoint, Option.bind_eq_bind, Option.bind_some,
      atPointWord?_eq h, Option.bind_some, hpointNat]

end FibEntry

end RoutePreference
