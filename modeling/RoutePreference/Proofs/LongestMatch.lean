import RoutePreference.Device.Forwarding
import RoutePreference.Proofs.Tables

/-!
# Longest match

* `Network.around`: the network of a given length that holds an address;
* `Network.longest?`: what a function says about the longest of these networks that it says
  anything about;
* `longestMatch?_eq_longest?`: in a table of networks without host bits, the longest match finds
  just that.
-/

namespace RoutePreference

namespace Network

/-- The network of the given length that holds the address. -/
def around (a : Addr) (len : Nat) : Network := (ofInterface a len).masked

theorem len_around {a : Addr} {len : Nat} (h : len ≤ 32) : (around a len).len = len := by
  simp [around, ofInterface, h]

theorem contains_around {a : Addr} {len : Nat} (h : len ≤ 32) :
    (around a len).contains a = true := by
  rw [around, contains_masked]
  simp [ofInterface, h, contains]

/-- There is one network without host bits for each length that holds the address. -/
theorem eq_around {p : Network} {a : Addr} (hm : p.isMasked = true) (hc : p.contains a = true) :
    p = around a p.len := by
  rw [isMasked_iff] at hm
  have haddr : p.addr.bits &&& maskBits p.len = p.addr.bits :=
    congrArg (·.addr.bits) hm
  simp only [contains, decide_eq_true_eq, haddr] at hc
  rw [ext_iff', len_around p.len_le]
  refine ⟨?_, rfl⟩
  simp only [around, ofInterface, p.len_le, dif_pos, masked, hc]

/-- The value for the longest of the networks around an address, from the given length down. -/
def longest? {α : Type} (f : Network → Option α) (a : Addr) : Nat → Option α
  | 0 => f (around a 0)
  | n + 1 => (f (around a (n + 1))).or (longest? f a n)

theorem longest?_map {α β : Type} (f : Network → Option α) (g : α → β) (a : Addr) (n : Nat) :
    longest? (fun p => (f p).map g) a n = (longest? f a n).map g := by
  induction n with
  | zero => rfl
  | succ n ih => rw [longest?, longest?, ih, Option.map_or]

theorem longest?_eq_none {α : Type} {f : Network → Option α} {a : Addr} {n : Nat}
    (h : ∀ m, m ≤ n → f (around a m) = none) : longest? f a n = none := by
  induction n with
  | zero => exact h 0 (Nat.le_refl 0)
  | succ n ih =>
    rw [longest?, h (n + 1) (Nat.le_refl _), Option.none_or]
    exact ih fun m hm => h m (by omega)

theorem longest?_eq_some {α : Type} {f : Network → Option α} {a : Addr} {n m : Nat} {v : α}
    (hm : m ≤ n) (hv : f (around a m) = some v)
    (h : ∀ k, m < k → k ≤ n → f (around a k) = none) : longest? f a n = some v := by
  induction n with
  | zero =>
    obtain rfl : m = 0 := by omega
    exact hv
  | succ n ih =>
    rw [longest?]
    by_cases heq : m = n + 1
    · rw [← heq, hv, Option.some_or]
    · rw [h (n + 1) (by omega) (Nat.le_refl _), Option.none_or]
      exact ih (by omega) fun k hk hkn => h k hk (by omega)

end Network

section Match

variable {α : Type} {a : Addr} {l : List (Network × α)}

theorem longestMatch?_eq_none (h : longestMatch? a l = none) :
    ∀ e ∈ l, e.1.contains a = false := by
  induction l with
  | nil => simp
  | cons d rest ih =>
    rw [longestMatch?] at h
    split at h
    · split at h
      · split at h <;> cases h
      · cases h
    · next hd =>
      intro e he
      obtain rfl | he := List.mem_cons.1 he
      · simpa using hd
      · exact ih h e he

/-- The match holds the address, and no longer network does. -/
theorem longestMatch?_spec {m : Network × α} (h : longestMatch? a l = some m) :
    m ∈ l ∧ m.1.contains a = true ∧ ∀ e ∈ l, e.1.contains a = true → e.1.len ≤ m.1.len := by
  induction l generalizing m with
  | nil => cases h
  | cons d rest ih =>
    rw [longestMatch?] at h
    split at h
    · next hd =>
      cases hr : longestMatch? a rest with
      | none =>
        rw [hr] at h
        cases h
        refine ⟨List.mem_cons_self, hd, fun e he hc => ?_⟩
        obtain rfl | he := List.mem_cons.1 he
        · exact Nat.le_refl _
        · rw [longestMatch?_eq_none hr e he] at hc
          cases hc
      | some x =>
        obtain ⟨hx, hxc, hxl⟩ := ih hr
        rw [hr] at h
        dsimp only at h
        split at h <;> cases h
        · next hlt =>
          refine ⟨List.mem_cons_of_mem _ hx, hxc, fun e he hc => ?_⟩
          obtain rfl | he := List.mem_cons.1 he
          · exact Nat.le_of_lt hlt
          · exact hxl e he hc
        · next hge =>
          refine ⟨List.mem_cons_self, hd, fun e he hc => ?_⟩
          obtain rfl | he := List.mem_cons.1 he
          · exact Nat.le_refl _
          · have hle := hxl e he hc
            omega
    · next hd =>
      obtain ⟨hm, hc, hl⟩ := ih h
      refine ⟨List.mem_cons_of_mem _ hm, hc, fun e he hce => ?_⟩
      obtain rfl | he := List.mem_cons.1 he
      · exact absurd hce hd
      · exact hl e he hce

/-- **The longest match in a table of networks without host bits** is the first one, from the
longest network around the address to the shortest, that is there. -/
theorem longestMatch?_eq_longest? {t : Table Network α}
    (hm : ∀ p v, t.get? p = some v → p.isMasked = true) :
    (longestMatch? a t.entries).map (·.2) = Network.longest? t.get? a 32 := by
  cases h : longestMatch? a t.entries with
  | none =>
    refine (Network.longest?_eq_none fun len hlen => ?_).symm
    cases hg : t.get? (Network.around a len) with
    | none => rfl
    | some v =>
      have hno := longestMatch?_eq_none h _ (Table.get?_eq_some_iff.1 hg)
      rw [Network.contains_around hlen] at hno
      cases hno
  | some m =>
    obtain ⟨hmem, hc, hmax⟩ := longestMatch?_spec h
    have hget : t.get? m.1 = some m.2 := Table.get?_of_mem_entries hmem
    have hp : m.1 = Network.around a m.1.len := Network.eq_around (hm _ _ hget) hc
    refine (Network.longest?_eq_some m.1.len_le (hp ▸ hget) fun k hk hk32 => ?_).symm
    cases hg : t.get? (Network.around a k) with
    | none => rfl
    | some v =>
      -- a longer one would have been the match
      have hle := hmax _ (Table.get?_eq_some_iff.1 hg) (Network.contains_around hk32)
      rw [Network.len_around hk32] at hle
      omega

end Match

end RoutePreference
