import RoutePreference.Device.Interfaces

/-!
# Forwarding entries and the choice of a next-hop

* `Hop`, `FibEntry`: how packets for a destination are sent on;
* `flowHash`: spreads destination addresses over the 32-bit numbers;
* `FibEntry.select?`: the next-hop for an address, in proportion to the weights;
* `longestMatch?`: the most specific network that holds an address.
-/

namespace RoutePreference

/-- A next-hop that is reached through a port. -/
structure Hop where
  addr : Addr
  port : String
  weight : Nat
deriving DecidableEq, Inhabited

/-- How packets for a destination are sent on, and which channel decided it. -/
structure FibEntry where
  channel : Channel
  /-- The group that the next-hops come from, for a programmed route. -/
  group : Option Nat
  hops : List Hop
deriving DecidableEq, Inhabited

/-! ### Weighted choice -/

/-- Mixes the bits of an address, so that neighbouring addresses spread out. -/
def flowHash (a : Addr) : BitVec 32 :=
  let h := a.bits ^^^ (a.bits >>> 16)
  let h := h * 0x7feb352d#32
  h ^^^ (h >>> 15)

namespace FibEntry

/-- The sum of the weights of next-hops. -/
def weightOf : List Hop → Nat
  | [] => 0
  | h :: rest => h.weight + weightOf rest

/-- The sum of all weights. -/
def totalWeight (e : FibEntry) : Nat := weightOf e.hops

/-- The next-hop into whose share of the line of weights the point falls. -/
def atPoint? : List Hop → Nat → Option Hop
  | [], _ => none
  | h :: rest, point => if point < h.weight then some h else atPoint? rest (point - h.weight)

/-- The next-hop for an address: the hash of the address picks a point on the line of weights.
Without any weight it is the first one. -/
def select? (e : FibEntry) (a : Addr) : Option Hop :=
  if e.totalWeight = 0 then e.hops.head?
  else (atPoint? e.hops ((flowHash a).toNat % e.totalWeight)).or e.hops.getLast?

/-- A point below the sum of the weights falls into the share of some next-hop. -/
theorem atPoint?_isSome {hops : List Hop} {point : Nat} (h : point < weightOf hops) :
    (atPoint? hops point).isSome = true := by
  induction hops generalizing point with
  | nil => simp [weightOf] at h
  | cons hop rest ih =>
    unfold atPoint?
    split
    · rfl
    · apply ih
      simp only [weightOf] at h
      omega

end FibEntry

/-! ### Longest match -/

/-- The entry of the longest network that holds the address; of two equally long ones, the
first. -/
def longestMatch? {α : Type} (a : Addr) : List (Network × α) → Option (Network × α)
  | [] => none
  | e :: rest =>
    if e.1.contains a then
      match longestMatch? a rest with
      | some m => if e.1.len < m.1.len then some m else some e
      | none => some e
    else longestMatch? a rest

end RoutePreference
