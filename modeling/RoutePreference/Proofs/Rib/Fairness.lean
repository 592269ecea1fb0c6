import RoutePreference.Proofs.Rib.Hash
import RoutePreference.Proofs.Rib.Shares

/-!
# How evenly next-hops are chosen

* `FibEntry.inProportion_share`: the addresses that fall into a share, in proportion to its weight;
* `FibEntry.Fair`, `weighted_choice_fair`: a choice by weights whose sum the hash can reach is
  complete, leaves out next-hops without weight, and follows the weights up to rounding;
* `FibEntry.exists_inShare_iff`, `equal_weights_all_chosen_iff`: among next-hops of equal weight the
  ones behind the range of the hash are never chosen;
* `heavy_next_hop_never_chosen`: two such next-hops, of which only the first one is.
-/

namespace RoutePreference

namespace FibEntry

variable {e : FibEntry} {hops : List Hop} {hop : Hop} {i w : Nat}

/-! ### In proportion to the weight -/

/-- Whether that many of all addresses are in proportion to a weight, up to rounding. -/
def InProportion (weight total addresses : Nat) : Prop :=
  weight * (0x100000000 / total) ≤ addresses ∧
    addresses ≤ weight * ((0x100000000 + (total - 1)) / total)

/-- The addresses whose point falls into a share are in proportion to its weight. -/
theorem inProportion_share (h : e.hops[i]? = some hop) :
    InProportion hop.weight e.totalWeight {a | InShare e.hops i (e.point a)}.ncard := by
  have hshare : {a | InShare e.hops i (e.point a)} =
      {a | weightOf (e.hops.take i) ≤ (flowHash a).toNat % e.totalWeight ∧
        (flowHash a).toNat % e.totalWeight < weightOf (e.hops.take i) + hop.weight} := by
    ext a
    exact inShare_iff h
  have hwithin : weightOf (e.hops.take i) + hop.weight ≤ e.totalWeight := by
    rw [← weightOf_take_succ h]
    exact weightOf_take_le e.hops (i + 1)
  rw [hshare, ncard_flowHash fun n => weightOf (e.hops.take i) ≤ n % e.totalWeight ∧
    n % e.totalWeight < weightOf (e.hops.take i) + hop.weight]
  exact card_residues 0x100000000 hwithin

/-- Of distinct next-hops, the one at a place is chosen for the addresses whose point falls into its
share. -/
theorem select?_eq_some_iff (hpositive : 0 < e.totalWeight) (hnodup : e.hops.Nodup)
    (h : e.hops[i]? = some hop) {a : Addr} :
    e.select? a = some hop ↔ InShare e.hops i (e.point a) := by
  constructor
  · intro hchosen
    obtain ⟨j, hop', hget, hshare, hselect⟩ := exists_select? hpositive a
    have hhop : hop' = hop := Option.some.inj (hselect.symm.trans hchosen)
    have hplace : i = j := by
      have hlt : i < e.hops.length := (List.getElem?_eq_some_iff.1 h).1
      exact (List.getElem?_inj hlt hnodup).1 (h.trans (hhop ▸ hget.symm))
    exact hplace ▸ hshare
  · intro hshare
    exact (select?_of_inShare hpositive hshare).trans h

/-- What makes a choice by weights fair. -/
structure Fair (e : FibEntry) : Prop where
  /-- For every address there is a next-hop, the one into whose share the point falls. -/
  chosen : ∀ a, ∃ i hop, e.hops[i]? = some hop ∧ InShare e.hops i (e.point a) ∧
    e.select? a = some hop
  apart : ∀ p i j, InShare e.hops i p → InShare e.hops j p → i = j
  /-- It is found before the next-hops are at an end. -/
  found : ∀ a, e.select? a = atPoint? e.hops (e.point a)
  weighty : ∀ a hop, e.select? a = some hop → 0 < hop.weight
  proportional : ∀ i hop, e.hops[i]? = some hop →
    InProportion hop.weight e.totalWeight {a | InShare e.hops i (e.point a)}.ncard
  distinct : e.hops.Nodup → ∀ hop ∈ e.hops,
    InProportion hop.weight e.totalWeight {a | e.select? a = some hop}.ncard
  /-- No sum of words overflows, and no difference is negative. -/
  words : ∀ a, e.selectWord? a = some (e.select? a)

/-- **The choice by weights is fair**: the hash is a bijection, and as long as the sum of the
weights is not beyond its range, every address gets the next-hop into whose share its point falls,
and a next-hop gets as many of all addresses as its weight is worth, up to rounding. -/
theorem weighted_choice_fair (e : FibEntry) (hpositive : 1 ≤ e.totalWeight)
    (hrange : e.totalWeight ≤ 0x100000000) : Function.Bijective flowHash ∧ Fair e := by
  refine ⟨flowHash_bijective, ?_⟩
  constructor
  case chosen => exact exists_select? hpositive
  case apart => exact fun p i j => inShare_unique
  case found => exact select?_eq_atPoint? hpositive
  case weighty =>
    intro a hop hchosen
    obtain ⟨i, hop', hget, hshare, hselect⟩ := exists_select? hpositive a
    rw [hselect] at hchosen
    cases hchosen
    rw [inShare_iff hget] at hshare
    omega
  case proportional => exact fun i hop => inProportion_share
  case distinct =>
    intro hnodup hop hmem
    obtain ⟨i, hget⟩ := List.mem_iff_getElem?.1 hmem
    have hset : {a | e.select? a = some hop} = {a | InShare e.hops i (e.point a)} := by
      ext a
      exact select?_eq_some_iff hpositive hnodup hget
    rw [hset]
    exact inProportion_share hget
  case words => exact selectWord?_eq (by omega)

/-- A next-hop through the first port. -/
def hopOfWeight (n weight : Nat) : Hop := { addr := .ofNat n, port := "port1", weight }

/-- Three next-hops, one of them without weight. -/
def lopsided : FibEntry :=
  { channel := .gribi, group := some 1,
    hops := [hopOfWeight 1 1, hopOfWeight 2 0, hopOfWeight 3 3] }

/-- The last one of them gets three quarters of all addresses. -/
theorem weighted_choice_fair_lopsided :
    {a | lopsided.select? a = some (hopOfWeight 3 3)}.ncard = 0xc0000000 := by
  obtain ⟨-, hfair⟩ := weighted_choice_fair lopsided (by decide) (by decide)
  obtain ⟨hmany, hfew⟩ := hfair.distinct (by decide) (hopOfWeight 3 3) (by decide)
  exact Nat.le_antisymm hfew hmany

/-! ### Equal weights -/

theorem weightOf_of_equal (hequal : ∀ hop ∈ hops, hop.weight = w) :
    weightOf hops = hops.length * w := by
  induction hops with
  | nil => simp [weightOf]
  | cons hop hops ih =>
    obtain ⟨hhop, hrest⟩ := List.forall_mem_cons.1 hequal
    rw [weightOf, hhop, ih hrest, List.length_cons, Nat.succ_mul, Nat.add_comm]

theorem totalWeight_of_equal (hequal : ∀ hop ∈ e.hops, hop.weight = w) :
    e.totalWeight = e.hops.length * w := weightOf_of_equal hequal

/-- Up to a place there are as many equal weights as places. -/
theorem weightOf_take_of_equal (hequal : ∀ hop ∈ hops, hop.weight = w) (hi : i ≤ hops.length) :
    weightOf (hops.take i) = i * w := by
  have htaken : ∀ hop ∈ hops.take i, hop.weight = w := fun hop hmem =>
    hequal hop (List.mem_of_mem_take hmem)
  rw [weightOf_of_equal htaken, List.length_take, Nat.min_eq_left hi]

/-- **A share of equal weights is reached** exactly if it begins in the range of the hash. -/
theorem exists_inShare_iff (hw : 0 < w) (hequal : ∀ hop ∈ e.hops, hop.weight = w)
    (h : e.hops[i]? = some hop) :
    (∃ a, InShare e.hops i (e.point a)) ↔ i * w < 0x100000000 := by
  obtain ⟨hi, hget⟩ := List.getElem?_eq_some_iff.1 h
  have hweight : hop.weight = w := hequal hop (hget ▸ List.getElem_mem hi)
  have hbefore : weightOf (e.hops.take i) = i * w :=
    weightOf_take_of_equal hequal (Nat.le_of_lt hi)
  constructor
  · rintro ⟨a, hshare⟩
    rw [inShare_iff h, hbefore] at hshare
    have hle : e.point a ≤ (flowHash a).toNat := Nat.mod_le _ _
    have hlt := (flowHash a).isLt
    omega
  · intro hreached
    obtain ⟨a, ha⟩ := exists_flowHash hreached
    have hbelow : i * w < e.totalWeight := by
      rw [totalWeight_of_equal hequal]
      exact Nat.mul_lt_mul_of_pos_right hi hw
    have hpoint : e.point a = i * w := by
      rw [point, ha, Nat.mod_eq_of_lt hbelow]
    refine ⟨a, ?_⟩
    rw [inShare_iff h, hbefore, hpoint, hweight]
    omega

/-- Some next-hop of positive weight makes the sum of the weights positive. -/
theorem totalWeight_pos (hw : 0 < w) (hequal : ∀ hop ∈ e.hops, hop.weight = w)
    (h : hop ∈ e.hops) : 0 < e.totalWeight := by
  rw [totalWeight_of_equal hequal]
  exact Nat.mul_pos (List.length_pos_of_mem h) hw

/-- **Next-hops of equal weight are all chosen** for some address if, and if they are distinct only
if, the share of the last one begins in the range of the hash; in any case the ones that are chosen
are those whose share does.  No operation on words fails. -/
theorem equal_weights_all_chosen_iff (e : FibEntry) {w : Nat} (hw : 0 < w)
    (hequal : ∀ hop ∈ e.hops, hop.weight = w)
    (hfits : e.hops.length * w < 0x10000000000000000) :
    (∀ i hop, e.hops[i]? = some hop →
      ((∃ a, InShare e.hops i (e.point a) ∧ e.select? a = some hop) ↔ i * w < 0x100000000)) ∧
    ((e.hops.length - 1) * w < 0x100000000 → ∀ hop ∈ e.hops, ∃ a, e.select? a = some hop) ∧
    (e.hops.Nodup → (∀ hop ∈ e.hops, ∃ a, e.select? a = some hop) →
      (e.hops.length - 1) * w < 0x100000000) ∧
    ∀ a, e.selectWord? a = some (e.select? a) := by
  have hplace : ∀ i hop, e.hops[i]? = some hop →
      ((∃ a, InShare e.hops i (e.point a) ∧ e.select? a = some hop) ↔ i * w < 0x100000000) := by
    intro i hop h
    rw [← exists_inShare_iff hw hequal h]
    refine exists_congr fun a => and_iff_left_of_imp fun hshare => ?_
    exact (select?_of_inShare (totalWeight_pos hw hequal (List.mem_of_getElem? h)) hshare).trans h
  refine ⟨hplace, ?_, ?_, ?_⟩
  · intro hreached hop hmem
    obtain ⟨i, h⟩ := List.mem_iff_getElem?.1 hmem
    have hi := (List.getElem?_eq_some_iff.1 h).1
    have hle : i * w ≤ (e.hops.length - 1) * w := Nat.mul_le_mul_right w (by omega)
    obtain ⟨a, -, hchosen⟩ := (hplace i hop h).2 (Nat.lt_of_le_of_lt hle hreached)
    exact ⟨a, hchosen⟩
  · intro hnodup hall
    rcases Nat.eq_zero_or_pos e.hops.length with hnone | hsome
    · rw [hnone, Nat.zero_sub, Nat.zero_mul]
      decide
    · have hlast := List.getElem?_eq_getElem (l := e.hops) (i := e.hops.length - 1) (by omega)
      obtain ⟨a, hchosen⟩ := hall _ (List.mem_of_getElem? hlast)
      have hpositive := totalWeight_pos hw hequal (List.mem_of_getElem? hlast)
      have hshare := (select?_eq_some_iff hpositive hnodup hlast).1 hchosen
      exact (hplace _ _ hlast).1 ⟨a, hshare, hchosen⟩
  · exact selectWord?_eq (totalWeight_of_equal hequal ▸ hfits)

/-- Three next-hops, each of which is worth half of the range of the hash. -/
def crowded : FibEntry :=
  { channel := .gribi, group := some 1,
    hops := [hopOfWeight 1 0x80000000, hopOfWeight 2 0x80000000, hopOfWeight 3 0x80000000] }

/-- The second one of them is chosen, the third one is not. -/
theorem equal_weights_all_chosen_iff_crowded :
    (∃ a, crowded.select? a = some (hopOfWeight 2 0x80000000)) ∧
      ¬ ∀ hop ∈ crowded.hops, ∃ a, crowded.select? a = some hop := by
  obtain ⟨hplace, -, hall, -⟩ := equal_weights_all_chosen_iff crowded (w := 0x80000000) (by decide)
    (by decide) (by decide)
  obtain ⟨a, -, hchosen⟩ := (hplace 1 _ rfl).2 (by decide)
  exact ⟨⟨a, hchosen⟩, fun h => absurd (hall (by decide) h) (by decide)⟩

/-- Two next-hops of the same weight, each worth the whole range of the hash. -/
def heavy : FibEntry :=
  { channel := .gribi, group := some 1,
    hops := [hopOfWeight 1 0x100000000, hopOfWeight 2 0x100000000] }

/-- **The second one of two next-hops of the same great weight is never chosen.** -/
theorem heavy_next_hop_never_chosen :
    (∀ hop ∈ heavy.hops, hop.weight = 0x100000000) ∧
      heavy.hops.length * 0x100000000 < 0x10000000000000000 ∧
      ¬ ∀ hop ∈ heavy.hops, ∃ a, heavy.select? a = some hop := by
  refine ⟨by decide, by decide, fun hall => ?_⟩
  have hequal : ∀ hop ∈ heavy.hops, hop.weight = 0x100000000 := by decide
  have hsecond : heavy.hops[1]? = some (hopOfWeight 2 0x100000000) := rfl
  obtain ⟨a, hchosen⟩ := hall (hopOfWeight 2 0x100000000) (by decide)
  rw [select?_eq_some_iff (by decide) (by decide) hsecond] at hchosen
  exact absurd ((exists_inShare_iff (by decide) hequal hsecond).1 ⟨a, hchosen⟩) (by decide)

end FibEntry

end RoutePreference
