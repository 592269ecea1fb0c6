import RoutePreference.Net.AddrRange
import RoutePreference.Proofs.Word

/-!
# Addresses spread over a range

* `AddrRange.sizeWord`, `AddrRange.nthWord?`: the number of addresses and the `n`-th one, computed
  with words of 32 bits; `toNat_sizeWord`, `nthWord?_eq`: no operation overflows or divides by zero,
  and the results are the same;
* `AddrRange.gaps_mul_step_le`, `AddrRange.le_step_iff`: the step is the widest one for which the
  last address is not beyond the range;
* `AddrRange.nth?_toNat`: the addresses as numbers;
* `AddrRange.Spread`, `addresses_spread_evenly`: the addresses of a range are spread evenly over it.
-/

namespace RoutePreference

namespace AddrRange

variable {r : AddrRange}

/-! ### With words -/

/-- The distance from the first address to the last one allowed, as a word. -/
def spanWord (r : AddrRange) : BitVec 32 := Word.subSat r.max.bits r.min.bits

/-- The number of addresses, as a word. -/
def sizeWord (r : AddrRange) : BitVec 32 :=
  Word.min (BitVec.ofNat 32 r.count) (Word.addSat r.spanWord 1)

/-- The distance between neighbouring addresses, if no operation on words fails. -/
def stepWord? (r : AddrRange) : Option (BitVec 32) :=
  if 1 < r.sizeWord then do
    let gaps ← Word.sub? r.sizeWord 1
    let share ← Word.div? r.spanWord gaps
    some (Word.max share 1)
  else some 0

/-- The `n`-th address, if no operation on words fails. -/
def nthWord? (r : AddrRange) (n : BitVec 64) : Option (Option Addr) :=
  if r.sizeWord = 0 then some none
  else do
    let step ← r.stepWord?
    let place ← Word.mod? n (r.sizeWord.setWidth 64)
    let offset ← Word.mul? (place.setWidth 32) step
    let bits ← Word.add? r.min.bits offset
    some (some ⟨bits⟩)

/-! ### Size and step -/

theorem size_le_count (r : AddrRange) : r.size ≤ r.count := Nat.min_le_left _ _

theorem size_le_span (r : AddrRange) : r.size ≤ r.span + 1 :=
  Nat.le_trans (Nat.min_le_right _ _) (Nat.min_le_left _ _)

theorem size_lt (r : AddrRange) : r.size < 0x100000000 :=
  Nat.lt_succ_of_le (Nat.le_trans (Nat.min_le_right _ _) (Nat.min_le_right _ _))

theorem span_lt (r : AddrRange) : r.span < 0x100000000 :=
  Nat.lt_of_le_of_lt (Nat.sub_le _ _) r.max.toNat_lt

/-- There is an address as soon as one is asked for. -/
theorem size_eq_zero_iff : r.size = 0 ↔ r.count = 0 := by
  have hsize : r.size = Nat.min r.count (Nat.min (r.span + 1) 0xffffffff) := rfl
  rcases Nat.eq_zero_or_pos r.count with hcount | hcount
  · have hle := r.size_le_count
    omega
  · have hcap : 0 < Nat.min (r.span + 1) 0xffffffff :=
      Nat.lt_min.2 ⟨Nat.succ_pos r.span, by decide⟩
    have hpos : 0 < r.size := hsize ▸ Nat.lt_min.2 ⟨hcount, hcap⟩
    omega

/-- With two addresses or more, the step is the span divided by the number of gaps. -/
theorem step_eq (h : 1 < r.size) : r.step = r.span / (r.size - 1) := by
  have hle := r.size_le_span
  have hpositive : 1 ≤ r.span / (r.size - 1) := (Nat.one_le_div_iff (by omega)).2 (by omega)
  rw [step, if_pos h]
  exact Nat.max_eq_left hpositive

theorem step_pos (h : 1 < r.size) : 0 < r.step := by
  have hle := r.size_le_span
  rw [step_eq h]
  exact Nat.div_pos (by omega) (by omega)

/-- **The step is the widest one** for which the last address is not beyond the range. -/
theorem le_step_iff (h : 1 < r.size) {d : Nat} : d ≤ r.step ↔ (r.size - 1) * d ≤ r.span := by
  rw [step_eq h, Nat.le_div_iff_mul_le (by omega), Nat.mul_comm]

theorem gaps_mul_step_le (r : AddrRange) : (r.size - 1) * r.step ≤ r.span := by
  by_cases h : 1 < r.size
  · exact (le_step_iff h).1 (Nat.le_refl _)
  · have hnone : r.size - 1 = 0 := by omega
    rw [hnone, Nat.zero_mul]
    exact Nat.zero_le _

/-- No place is beyond the range. -/
theorem mul_step_le {place : Nat} (h : place < r.size) : place * r.step ≤ r.span := by
  have hmono : place * r.step ≤ (r.size - 1) * r.step := Nat.mul_le_mul_right _ (by omega)
  exact Nat.le_trans hmono r.gaps_mul_step_le

theorem mod_size_lt (h : 0 < r.count) (n : Nat) : n % r.size < r.size := by
  have hsize : r.size ≠ 0 := fun h' => by
    rw [size_eq_zero_iff] at h'
    omega
  exact Nat.mod_lt n (Nat.pos_of_ne_zero hsize)

/-! ### Addresses -/

theorem min_add_le (hle : r.min.toNat ≤ r.max.toNat) {place : Nat} (h : place < r.size) :
    r.min.toNat + place * r.step ≤ r.max.toNat := by
  have hoffset := mul_step_le h
  have hspan : r.span = r.max.toNat - r.min.toNat := rfl
  omega

/-- **The addresses as numbers.** -/
theorem nth?_toNat (hle : r.min.toNat ≤ r.max.toNat) (hcount : 0 < r.count) (n : Nat) :
    (r.nth? n).map Addr.toNat = some (r.min.toNat + n % r.size * r.step) := by
  have hplace := mod_size_lt hcount n
  have hlast := min_add_le hle hplace
  have hmax := r.max.toNat_lt
  rw [nth?, if_neg (by omega), Option.map_some, Addr.toNat_ofNat, Nat.mod_eq_of_lt (by omega)]

theorem toList_eq (r : AddrRange) : r.toList.map some = (List.range r.size).map r.nth? := by
  have hsome : ∀ l : List Nat, 0 < r.size → (l.filterMap r.nth?).map some = l.map r.nth? := by
    intro l hsize
    induction l with
    | nil => rfl
    | cons n l ih =>
      obtain ⟨a, ha⟩ : ∃ a, r.nth? n = some a := by
        rw [nth?, if_neg (by omega)]
        exact ⟨_, rfl⟩
      rw [List.filterMap_cons_some ha, List.map_cons, List.map_cons, ih, ha]
  rcases Nat.eq_zero_or_pos r.size with hsize | hsize
  · rw [toList, hsize]
    rfl
  · exact hsome _ hsize

/-- The addresses of the list increase. -/
theorem toList_pairwise (hle : r.min.toNat ≤ r.max.toNat) :
    r.toList.Pairwise fun a a' => a.toNat < a'.toNat := by
  have hrange : (List.range r.size).Pairwise fun n n' =>
      ∀ a ∈ r.nth? n, ∀ a' ∈ r.nth? n', a.toNat < a'.toNat := by
    refine List.Pairwise.imp_of_mem ?_ List.pairwise_lt_range
    intro n n' hn hn' hlt a ha a' ha'
    rw [List.mem_range] at hn hn'
    have hcount : 0 < r.count := Nat.lt_of_lt_of_le (by omega) r.size_le_count
    have hnat := nth?_toNat hle hcount n
    have hnat' := nth?_toNat hle hcount n'
    rw [ha, Option.map_some, Option.some.injEq, Nat.mod_eq_of_lt hn] at hnat
    rw [ha', Option.map_some, Option.some.injEq, Nat.mod_eq_of_lt hn'] at hnat'
    have hstep := Nat.mul_lt_mul_of_pos_right hlt (step_pos (r := r) (by omega))
    omega
  exact List.pairwise_filterMap.2 hrange

/-! ### Words agree with numbers -/

theorem toNat_spanWord (r : AddrRange) : r.spanWord.toNat = r.span := Word.toNat_subSat

theorem toNat_sizeWord (hcount : r.count < 0x100000000) : r.sizeWord.toNat = r.size := by
  rw [sizeWord, Word.toNat_min, Word.toNat_addSat, toNat_spanWord, BitVec.toNat_ofNat,
    Nat.mod_eq_of_lt hcount]
  rfl

theorem stepWord?_spec (hcount : r.count < 0x100000000) :
    ∃ s, r.stepWord? = some s ∧ s.toNat = r.step := by
  have hsize := toNat_sizeWord hcount
  by_cases h : 1 < r.size
  · have hlt : 1 < r.sizeWord := by
      rw [BitVec.lt_def, hsize]
      exact h
    obtain ⟨gaps, hgaps, hgapsNat⟩ := Word.sub?_spec (x := r.sizeWord) (y := 1) (Nat.le_of_lt hlt)
    rw [hsize] at hgapsNat
    have hgapsPos : 0 < gaps.toNat := by
      rw [hgapsNat]
      exact Nat.sub_pos_of_lt h
    obtain ⟨share, hshare, hshareNat⟩ := Word.div?_spec (x := r.spanWord) hgapsPos
    refine ⟨Word.max share 1, ?_, ?_⟩
    · rw [stepWord?, if_pos hlt, hgaps, Option.bind_eq_bind, Option.bind_some, hshare]
      rfl
    · rw [Word.toNat_max, hshareNat, hgapsNat, toNat_spanWord, step, if_pos h]
      rfl
  · have hlt : ¬ 1 < r.sizeWord := by
      rw [BitVec.lt_def, hsize]
      exact h
    refine ⟨0, if_neg hlt, ?_⟩
    rw [step, if_neg h]
    rfl

/-- The place in the cycle is below the number of addresses, so that it fits a word of 32 bits. -/
theorem placeWord_spec (hcount : r.count < 0x100000000) (hsome : 0 < r.size) (n : BitVec 64) :
    ∃ place, Word.mod? n (r.sizeWord.setWidth 64) = some place ∧
      (place.setWidth 32).toNat = n.toNat % r.size := by
  have hsizeLt := r.size_lt
  have hwide : (r.sizeWord.setWidth 64).toNat = r.size := by
    rw [BitVec.toNat_setWidth, toNat_sizeWord hcount]
    omega
  obtain ⟨place, hplace, hplaceNat⟩ := Word.mod?_spec (x := n) (y := r.sizeWord.setWidth 64)
    (by omega)
  have hlt : n.toNat % r.size < r.size := Nat.mod_lt _ hsome
  rw [hwide] at hplaceNat
  refine ⟨place, hplace, ?_⟩
  rw [BitVec.toNat_setWidth, hplaceNat]
  omega

/-- **No operation on words fails**, and their result is the address. -/
theorem nthWord?_eq (hle : r.min.toNat ≤ r.max.toNat) (hcount : r.count < 0x100000000)
    (n : BitVec 64) : r.nthWord? n = some (r.nth? n.toNat) := by
  have hsize := toNat_sizeWord hcount
  by_cases hnone : r.size = 0
  · rw [nthWord?, if_pos (Word.eq_zero_iff.2 (hsize.trans hnone)), nth?, if_pos hnone]
  · have hsome : ¬ r.sizeWord = 0 := fun h => hnone (hsize.symm.trans (Word.eq_zero_iff.1 h))
    have hlt : n.toNat % r.size < r.size := Nat.mod_lt _ (Nat.pos_of_ne_zero hnone)
    have hoffsetLe := mul_step_le hlt
    have haddrLe := min_add_le hle hlt
    have hspanLt := r.span_lt
    have hmaxLt := r.max.toNat_lt
    have htop : (BitVec.allOnes 32).toNat = 0xffffffff := rfl
    have hmin : r.min.bits.toNat = r.min.toNat := rfl
    obtain ⟨step, hstep, hstepNat⟩ := stepWord?_spec hcount
    obtain ⟨place, hplace, hplaceNat⟩ := placeWord_spec hcount (Nat.pos_of_ne_zero hnone) n
    obtain ⟨offset, hoffset, hoffsetNat⟩ := Word.mul?_spec (x := place.setWidth 32) (y := step) (by
      rw [hplaceNat, hstepNat]
      omega)
    rw [hplaceNat, hstepNat] at hoffsetNat
    obtain ⟨bits, hbits, hbitsNat⟩ := Word.add?_spec (x := r.min.bits) (y := offset) (by omega)
    have haddr : (⟨bits⟩ : Addr) = Addr.ofNat (r.min.toNat + n.toNat % r.size * r.step) := by
      rw [← Addr.toNat_inj, Addr.toNat_ofNat, Nat.mod_eq_of_lt (by omega)]
      exact hbitsNat.trans (congrArg (r.min.toNat + ·) hoffsetNat)
    rw [nthWord?, if_neg hsome, nth?, if_neg hnone, ← haddr]
    simp only [hstep, hplace, hoffset, hbits, Option.bind_eq_bind, Option.bind_some]

/-! ### Ranges -/

/-- What the addresses of a range are. -/
structure Spread (r : AddrRange) : Prop where
  none : ∀ n, r.nth? n = none ↔ r.count = 0
  within : ∀ n a, r.nth? n = some a → r.min.toNat ≤ a.toNat ∧ a.toNat ≤ r.max.toNat
  cyclic : ∀ n, r.nth? n = r.nth? (n % r.size)
  /-- They start at the first address of the range and are all the same step apart. -/
  spaced : ∀ n, n < r.size → (r.nth? n).map Addr.toNat = some (r.min.toNat + n * r.step)
  /-- The step is the widest one for which the last address is in the range. -/
  widest : 1 < r.size → 0 < r.step ∧
    ∀ d, r.min.toNat + (r.size - 1) * d ≤ r.max.toNat ↔ d ≤ r.step
  listed : r.toList.map some = (List.range r.size).map r.nth?
  distinct : r.toList.Nodup

/-- **The addresses of a range are spread evenly over it**: there are none only if none are asked
for, they lie in the range, from its first address on, all the same and the widest possible step
apart, and follow each other in a cycle.  With words of 32 bits nothing overflows on the way, and
nothing is divided by zero. -/
theorem addresses_spread_evenly (r : AddrRange) (hle : r.min.toNat ≤ r.max.toNat) :
    Spread r ∧ (r.count < 0x100000000 → r.sizeWord.toNat = r.size ∧
      ∀ n : BitVec 64, r.nthWord? n = some (r.nth? n.toNat)) := by
  refine ⟨?_, fun hcount => ⟨toNat_sizeWord hcount, nthWord?_eq hle hcount⟩⟩
  constructor
  case none =>
    intro n
    rw [nth?_eq_none_iff, size_eq_zero_iff]
  case within =>
    intro n a ha
    have hcount : 0 < r.count := by
      rw [Nat.pos_iff_ne_zero, Ne, ← size_eq_zero_iff, ← nth?_eq_none_iff (n := n), ha]
      exact Option.some_ne_none a
    have hnat := nth?_toNat hle hcount n
    have hlast := min_add_le hle (mod_size_lt hcount n)
    rw [ha, Option.map_some, Option.some.injEq] at hnat
    omega
  case cyclic => exact fun n => (nth?_mod r n).symm
  case spaced =>
    intro n hn
    have hcount : 0 < r.count := Nat.lt_of_lt_of_le (by omega) r.size_le_count
    rw [nth?_toNat hle hcount, Nat.mod_eq_of_lt hn]
  case widest =>
    intro h
    refine ⟨step_pos h, fun d => ?_⟩
    rw [le_step_iff h]
    have hspan : r.span = r.max.toNat - r.min.toNat := rfl
    omega
  case listed => exact r.toList_eq
  case distinct =>
    refine (toList_pairwise hle).imp ?_
    intro a a' hlt heq
    rw [heq] at hlt
    exact Nat.lt_irrefl _ hlt

/-- The whole address space, with as many addresses as can be asked for: each of them but the last
one. -/
theorem addresses_spread_evenly_whole :
    let r : AddrRange := { min := .ofNat 0, max := .ofNat 0xffffffff, count := 0xffffffff }
    Spread r ∧ r.size = 0xffffffff ∧ r.step = 1 ∧
      r.nthWord? (BitVec.allOnes 64) = some (some (.ofNat 0)) := by
  obtain ⟨hspread, hwords⟩ := addresses_spread_evenly
    { min := .ofNat 0, max := .ofNat 0xffffffff, count := 0xffffffff } (by decide)
  exact ⟨hspread, rfl, rfl, ((hwords (by decide)).2 _).trans (by decide)⟩

end AddrRange

end RoutePreference
