/-!
# Checked arithmetic of words

* `Word.add?`, `Word.sub?`, `Word.mul?`: operations on words that have no result if the number does
  not fit;
* `Word.div?`, `Word.mod?`: division, which has no result if the divisor is zero;
* `Word.addSat`, `Word.subSat`, `Word.min`, `Word.max`: operations that always have a result;
* `add?_spec`, ..., `toNat_max`: each of them computes with numbers, as long as the result fits.
-/

namespace RoutePreference.Word

variable {w : Nat} {x y : BitVec w}

/-- The sum, if it fits. -/
def add? (x y : BitVec w) : Option (BitVec w) := if x.uaddOverflow y then none else some (x + y)

/-- The difference, if it is not negative. -/
def sub? (x y : BitVec w) : Option (BitVec w) := if x.usubOverflow y then none else some (x - y)

/-- The product, if it fits. -/
def mul? (x y : BitVec w) : Option (BitVec w) := if x.umulOverflow y then none else some (x * y)

/-- The quotient, if the divisor is not zero. -/
def div? (x y : BitVec w) : Option (BitVec w) := if y = 0 then none else some (x / y)

/-- The remainder, if the divisor is not zero. -/
def mod? (x y : BitVec w) : Option (BitVec w) := if y = 0 then none else some (x % y)

/-- The sum, or the greatest word if that is less. -/
def addSat (x y : BitVec w) : BitVec w := if x.uaddOverflow y then BitVec.allOnes w else x + y

/-- The difference, or zero if it is negative. -/
def subSat (x y : BitVec w) : BitVec w := if x.usubOverflow y then 0 else x - y

/-- The lesser one of two words. -/
def min (x y : BitVec w) : BitVec w := if x ≤ y then x else y

/-- The greater one of two words. -/
def max (x y : BitVec w) : BitVec w := if x ≤ y then y else x

/-! ### Words as numbers -/

theorem add?_spec (h : x.toNat + y.toNat ≤ (BitVec.allOnes w).toNat) :
    ∃ z, add? x y = some z ∧ z.toNat = x.toNat + y.toNat := by
  have hfits : ¬ x.uaddOverflow y = true := by
    have hpositive := Nat.two_pow_pos w
    rw [BitVec.toNat_allOnes] at h
    rw [BitVec.uaddOverflow, decide_eq_true_eq]
    omega
  exact ⟨x + y, if_neg hfits, BitVec.toNat_add_of_not_uaddOverflow hfits⟩

theorem toNat_ofNat_of_le {n : Nat} (h : n ≤ (BitVec.allOnes w).toNat) :
    (BitVec.ofNat w n).toNat = n := by
  have hpositive := Nat.two_pow_pos w
  rw [BitVec.toNat_allOnes] at h
  rw [BitVec.toNat_ofNat]
  exact Nat.mod_eq_of_lt (by omega)

/-- A number is added, as long as the sum fits. -/
theorem add?_ofNat {n : Nat} (h : x.toNat + n ≤ (BitVec.allOnes w).toNat) :
    ∃ z, add? x (BitVec.ofNat w n) = some z ∧ z.toNat = x.toNat + n := by
  have hn : (BitVec.ofNat w n).toNat = n := toNat_ofNat_of_le (by omega)
  have hsum := add?_spec (x := x) (y := BitVec.ofNat w n) (by rwa [hn])
  rwa [hn] at hsum

theorem sub?_spec (h : y.toNat ≤ x.toNat) :
    ∃ z, sub? x y = some z ∧ z.toNat = x.toNat - y.toNat := by
  have hfits : ¬ x.usubOverflow y = true := by
    rw [BitVec.usubOverflow, decide_eq_true_eq]
    omega
  exact ⟨x - y, if_neg hfits, BitVec.toNat_sub_of_not_usubOverflow hfits⟩

theorem mul?_spec (h : x.toNat * y.toNat ≤ (BitVec.allOnes w).toNat) :
    ∃ z, mul? x y = some z ∧ z.toNat = x.toNat * y.toNat := by
  have hfits : ¬ x.umulOverflow y = true := by
    have hpositive := Nat.two_pow_pos w
    rw [BitVec.toNat_allOnes] at h
    rw [BitVec.umulOverflow, decide_eq_true_eq]
    omega
  exact ⟨x * y, if_neg hfits, BitVec.toNat_mul_of_not_umulOverflow hfits⟩

theorem eq_zero_iff : x = 0 ↔ x.toNat = 0 := by
  rw [← BitVec.toNat_inj]
  rfl

theorem div?_spec (h : 0 < y.toNat) :
    ∃ z, div? x y = some z ∧ z.toNat = x.toNat / y.toNat := by
  have hy : ¬ y = 0 := by
    rw [eq_zero_iff]
    omega
  exact ⟨x / y, if_neg hy, BitVec.toNat_udiv⟩

theorem mod?_spec (h : 0 < y.toNat) :
    ∃ z, mod? x y = some z ∧ z.toNat = x.toNat % y.toNat := by
  have hy : ¬ y = 0 := by
    rw [eq_zero_iff]
    omega
  exact ⟨x % y, if_neg hy, BitVec.toNat_umod⟩

theorem toNat_addSat :
    (addSat x y).toNat = Nat.min (x.toNat + y.toNat) (BitVec.allOnes w).toNat := by
  unfold addSat
  rw [BitVec.toNat_allOnes]
  split
  · rename_i h
    rw [BitVec.uaddOverflow, decide_eq_true_eq] at h
    rw [BitVec.toNat_allOnes]
    exact (Nat.min_eq_right (by omega)).symm
  · rename_i h
    rw [BitVec.toNat_add_of_not_uaddOverflow h]
    rw [BitVec.uaddOverflow, decide_eq_true_eq] at h
    exact (Nat.min_eq_left (by omega)).symm

theorem toNat_subSat : (subSat x y).toNat = x.toNat - y.toNat := by
  unfold subSat
  split
  · rename_i h
    rw [BitVec.usubOverflow, decide_eq_true_eq] at h
    rw [eq_zero_iff.1 rfl]
    omega
  · rename_i h
    exact BitVec.toNat_sub_of_not_usubOverflow h

theorem toNat_min : (min x y).toNat = Nat.min x.toNat y.toNat := by
  unfold min
  split
  · rename_i h
    exact (Nat.min_eq_left (BitVec.le_def.1 h)).symm
  · rename_i h
    rw [BitVec.le_def] at h
    exact (Nat.min_eq_right (by omega)).symm

theorem toNat_max : (max x y).toNat = Nat.max x.toNat y.toNat := by
  unfold max
  split
  · rename_i h
    exact (Nat.max_eq_right (BitVec.le_def.1 h)).symm
  · rename_i h
    rw [BitVec.le_def] at h
    exact (Nat.max_eq_left (by omega)).symm

end RoutePreference.Word
