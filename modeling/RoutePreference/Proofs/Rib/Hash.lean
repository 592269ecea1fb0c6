import Mathlib.Data.Int.CardIntervalMod
import Mathlib.Data.Set.Card
import RoutePreference.Device.Forwarding

/-!
# The hash of an address

* `xor_shiftRight_injective`, `mul_injective_of_mul_eq_one`: the steps of the hash lose nothing;
* `flowHash_bijective`: the hash is a bijection between addresses and words of 32 bits, so that
  `exists_flowHash` gives an address for every word, and `ncard_flowHash` counts addresses by
  counting words;
* `card_residue`, `card_residues`: how many of the first numbers have a remainder in an interval.
-/

namespace RoutePreference

/-! ### A bijection -/

/-- A word that is not changed by shifting it is zero. -/
theorem eq_zero_of_shiftRight_eq {w s : Nat} (hs : 0 < s) {d : BitVec w} (h : d >>> s = d) :
    d = 0#w := by
  have hnat : d.toNat >>> s = d.toNat := by rw [← BitVec.toNat_ushiftRight, h]
  rw [Nat.shiftRight_eq_div_pow] at hnat
  by_contra hd
  have hpositive : 0 < d.toNat := Nat.pos_of_ne_zero fun h' => hd (BitVec.eq_of_toNat_eq h')
  have hlt := Nat.div_lt_self hpositive (Nat.one_lt_two_pow (Nat.pos_iff_ne_zero.1 hs))
  omega

/-- Mixing a word with its own upper bits loses nothing. -/
theorem xor_shiftRight_injective {w s : Nat} (hs : 0 < s) :
    Function.Injective fun x : BitVec w => x ^^^ (x >>> s) := by
  intro x y h
  have hdiff : (x ^^^ y) >>> s = x ^^^ y := by
    rw [BitVec.ushiftRight_xor_distrib]
    calc x >>> s ^^^ y >>> s
        = x ^^^ (x ^^^ x >>> s) ^^^ y >>> s := by rw [← BitVec.xor_assoc x x, BitVec.xor_self,
            BitVec.zero_xor]
      _ = x ^^^ (y ^^^ y >>> s) ^^^ y >>> s := congrArg (x ^^^ · ^^^ y >>> s) h
      _ = x ^^^ y := by rw [BitVec.xor_assoc, BitVec.xor_assoc, BitVec.xor_self, BitVec.xor_zero]
  exact BitVec.xor_eq_zero_iff.1 (eq_zero_of_shiftRight_eq hs hdiff)

/-- Multiplication by a word that has an inverse loses nothing. -/
theorem mul_injective_of_mul_eq_one {w : Nat} {c c' : BitVec w} (hc : c * c' = 1#w) :
    Function.Injective fun x : BitVec w => x * c := by
  intro x y h
  have hback : x * c * c' = y * c * c' := congrArg (· * c') h
  rwa [BitVec.mul_assoc, BitVec.mul_assoc, hc, BitVec.mul_one, BitVec.mul_one] at hback

theorem flowHash_injective : Function.Injective flowHash := by
  intro a a' h
  have hmixed := xor_shiftRight_injective (by decide) h
  have hfactor : 0x7feb352d#32 * 0x1d69e2a5#32 = 1#32 := by decide
  have hshifted := mul_injective_of_mul_eq_one hfactor hmixed
  have hbits := xor_shiftRight_injective (by decide) hshifted
  cases a
  cases a'
  exact congrArg Addr.mk hbits

/-- **The hash is a bijection.** -/
theorem flowHash_bijective : Function.Bijective flowHash := by
  have hfinite : Finite (BitVec 32) :=
    Finite.of_injective BitVec.toFin fun _ _ => BitVec.eq_of_toFin_eq
  have hinjective : Function.Injective fun x : BitVec 32 => flowHash ⟨x⟩ := fun x y h =>
    congrArg Addr.bits (flowHash_injective h)
  refine ⟨flowHash_injective, fun h => ?_⟩
  obtain ⟨x, hx⟩ := Finite.surjective_of_injective hinjective h
  exact ⟨⟨x⟩, hx⟩

theorem exists_flowHash {n : Nat} (h : n < 0x100000000) : ∃ a, (flowHash a).toNat = n := by
  obtain ⟨a, ha⟩ := flowHash_bijective.2 (BitVec.ofNat 32 n)
  refine ⟨a, ?_⟩
  rw [ha, BitVec.toNat_ofNat]
  exact Nat.mod_eq_of_lt h

/-- There are as many addresses whose hash has some property as there are words that have it. -/
theorem ncard_flowHash (p : Nat → Prop) [DecidablePred p] :
    {a | p (flowHash a).toNat}.ncard = ((Finset.range 0x100000000).filter p).card := by
  have hinjective : Function.Injective fun a => (flowHash a).toNat := fun a a' h =>
    flowHash_injective (BitVec.eq_of_toNat_eq h)
  have himage : (fun a => (flowHash a).toNat) '' {a | p (flowHash a).toNat} =
      ((Finset.range 0x100000000).filter p : Set Nat) := by
    ext n
    rw [Finset.mem_coe, Finset.mem_filter, Finset.mem_range]
    constructor
    · rintro ⟨a, ha, rfl⟩
      exact ⟨(flowHash a).isLt, ha⟩
    · rintro ⟨hlt, hn⟩
      obtain ⟨a, rfl⟩ := exists_flowHash hlt
      exact ⟨a, hn, rfl⟩
  rw [← Set.ncard_image_of_injective _ hinjective, himage, Set.ncard_coe_finset]

/-! ### Remainders -/

/-- How many of the first numbers have a given remainder. -/
theorem card_residue (N : Nat) {T v : Nat} (hv : v < T) :
    N / T ≤ ((Finset.range N).filter fun n => n % T = v).card ∧
      ((Finset.range N).filter fun n => n % T = v).card ≤ (N + (T - 1)) / T := by
  have hpositive : 0 < T := by omega
  have hcard : ((Finset.range N).filter fun n => n % T = v).card =
      N / T + if v < N % T then 1 else 0 := by
    have hcount := Nat.count_modEq_card N hpositive v
    rw [Nat.count_eq_card_filter_range, Nat.mod_eq_of_lt hv] at hcount
    rw [← hcount]
    refine congrArg Finset.card (Finset.filter_congr fun n _ => ?_)
    rw [Nat.ModEq, Nat.mod_eq_of_lt hv]
  rw [hcard]
  refine ⟨Nat.le_add_right _ _, ?_⟩
  have hdiv := Nat.div_add_mod N T
  split
  · rw [Nat.le_div_iff_mul_le hpositive, Nat.add_mul, Nat.mul_comm (N / T)]
    omega
  · exact Nat.div_le_div_right (Nat.le_add_right _ _)

/-- How many of the first numbers have a remainder in a given interval. -/
theorem card_residues (N : Nat) {T lo w : Nat} (hw : lo + w ≤ T) :
    w * (N / T) ≤ ((Finset.range N).filter fun n => lo ≤ n % T ∧ n % T < lo + w).card ∧
      ((Finset.range N).filter fun n => lo ≤ n % T ∧ n % T < lo + w).card ≤
        w * ((N + (T - 1)) / T) := by
  induction w with
  | zero =>
    have hnone : ((Finset.range N).filter fun n => lo ≤ n % T ∧ n % T < lo + 0) = ∅ := by
      refine Finset.filter_eq_empty_iff.2 fun n _ h => ?_
      omega
    rw [hnone, Finset.card_empty, Nat.zero_mul, Nat.zero_mul]
    exact ⟨Nat.le_refl 0, Nat.le_refl 0⟩
  | succ w ih =>
    obtain ⟨hmany, hfew⟩ := ih (by omega)
    obtain ⟨hone, hlast⟩ := card_residue N (T := T) (v := lo + w) (by omega)
    have hsplit : ((Finset.range N).filter fun n => lo ≤ n % T ∧ n % T < lo + (w + 1)) =
        ((Finset.range N).filter fun n => lo ≤ n % T ∧ n % T < lo + w) ∪
          ((Finset.range N).filter fun n => n % T = lo + w) := by
      rw [← Finset.filter_or]
      refine Finset.filter_congr fun n _ => ?_
      omega
    have hdisjoint : Disjoint ((Finset.range N).filter fun n => lo ≤ n % T ∧ n % T < lo + w)
        ((Finset.range N).filter fun n => n % T = lo + w) := by
      refine Finset.disjoint_filter.2 fun n _ h => ?_
      omega
    rw [hsplit, Finset.card_union_of_disjoint hdisjoint, Nat.succ_mul, Nat.succ_mul]
    exact ⟨Nat.add_le_add hmany hone, Nat.add_le_add hfew hlast⟩

end RoutePreference
