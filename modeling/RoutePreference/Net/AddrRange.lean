import RoutePreference.Net.Addr

/-!
# Ranges of destination addresses

* `AddrRange`: at most `count` addresses spread evenly from `min` up to `max`;
* `AddrRange.size`, `AddrRange.step`: how many there are and how far apart they stand;
* `AddrRange.nth?`: the `n`-th address, counted cyclically;
* `AddrRange.toList`: each address once.
-/

namespace RoutePreference

/-- The addresses that a flow cycles through. -/
structure AddrRange where
  min : Addr
  max : Addr
  /-- An upper bound on the number of addresses. -/
  count : Nat
deriving DecidableEq, Inhabited

namespace AddrRange

/-- The distance from the first address to the last one allowed. -/
def span (r : AddrRange) : Nat := r.max.toNat - r.min.toNat

/-- The number of addresses, which stays below the size of the address space. -/
def size (r : AddrRange) : Nat := Nat.min r.count (Nat.min (r.span + 1) 0xffffffff)

/-- Whether there is no address at all. -/
def isEmpty (r : AddrRange) : Bool := r.size = 0

/-- The distance between neighbouring addresses. -/
def step (r : AddrRange) : Nat :=
  if 1 < r.size then Nat.max (r.span / (r.size - 1)) 1 else 0

/-- The `n`-th address; after the last one comes the first one again. -/
def nth? (r : AddrRange) (n : Nat) : Option Addr :=
  if r.size = 0 then none
  else some (Addr.ofNat (r.min.toNat + n % r.size * r.step))

/-- Each address once, from the smallest one on. -/
def toList (r : AddrRange) : List Addr := (List.range r.size).filterMap r.nth?

/-- The first addresses of the range, at most `n` of them. -/
def first (r : AddrRange) (n : Nat) : List Addr :=
  (List.range (Nat.min n r.size)).filterMap r.nth?

theorem nth?_eq_none_iff {r : AddrRange} {n : Nat} : r.nth? n = none ↔ r.size = 0 := by
  simp [nth?]

theorem nth?_mod (r : AddrRange) (n : Nat) : r.nth? (n % r.size) = r.nth? n := by
  simp [nth?]

end AddrRange

end RoutePreference
