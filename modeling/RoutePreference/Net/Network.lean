import RoutePreference.Net.Addr

/-!
# IPv4 networks

* `Network`: an address with a length of at most 32, host bits kept;
* `Network.masked`: the same network with its host bits cleared;
* `Network.contains`: whether an address agrees with the network on its first `len` bits;
* `Network.text`, `Network.parse?`: the address, a slash and the length; a mask in dotted form
  and an address alone are read too.

Networks are ordered by address, then by length.
-/

namespace RoutePreference

/-- An address together with the number of its bits that name the network. -/
structure Network where
  addr : Addr
  /-- How many leading bits belong to the network. -/
  len : Nat
  len_le : len ≤ 32 := by decide
deriving DecidableEq

namespace Network

instance : Inhabited Network := ⟨{ addr := default, len := 0 }⟩

theorem ext_iff' {p q : Network} : p = q ↔ p.addr = q.addr ∧ p.len = q.len := by
  cases p; cases q; simp

/-! ### Order -/

/-- Networks are ordered by address, then by length. -/
instance : Ord Network := ⟨compareLex (compareOn addr) (compareOn len)⟩

instance : Std.TransOrd Network :=
  inferInstanceAs (Std.TransCmp (compareLex (compareOn addr) (compareOn len)))

instance : Std.LawfulEqOrd Network where
  compare_self := fun {_} =>
    @Std.ReflCmp.compare_self _ (compareLex (compareOn addr) (compareOn len)) _ _
  eq_of_compare {p q} h := by
    obtain ⟨h₁, h₂⟩ := compareLex_eq_eq.1 h
    exact ext_iff'.2 ⟨@Std.LawfulEqCmp.eq_of_compare _ compare _ _ _ h₁,
      @Std.LawfulEqCmp.eq_of_compare _ compare _ _ _ h₂⟩

/-! ### Masks -/

/-- The mask with `len` leading ones. -/
def maskBits (len : Nat) : BitVec 32 := BitVec.allOnes 32 <<< (32 - len)

/-- The network with its host bits cleared. -/
def masked (p : Network) : Network := { p with addr := ⟨p.addr.bits &&& maskBits p.len⟩ }

/-- Whether no host bit is set. -/
def isMasked (p : Network) : Bool := p.masked = p

/-- Whether the address agrees with the network on the network's bits. -/
def contains (p : Network) (a : Addr) : Bool :=
  a.bits &&& maskBits p.len = p.addr.bits &&& maskBits p.len

/-- The network that holds a single address. -/
def host (a : Addr) : Network := { addr := a, len := 32 }

@[simp] theorem masked_len (p : Network) : p.masked.len = p.len := rfl

@[simp] theorem masked_masked (p : Network) : p.masked.masked = p.masked := by
  simp [masked, BitVec.and_assoc]

theorem isMasked_iff {p : Network} : p.isMasked = true ↔ p.masked = p := by simp [isMasked]

@[simp] theorem isMasked_masked (p : Network) : p.masked.isMasked = true := by
  simp [isMasked]

@[simp] theorem contains_masked (p : Network) (a : Addr) :
    p.masked.contains a = p.contains a := by
  simp [contains, masked, BitVec.and_assoc]

/-- The network of an interface address, or of the address alone if the length is out of range. -/
def ofInterface (a : Addr) (len : Nat) : Network :=
  if h : len ≤ 32 then { addr := a, len := len, len_le := h } else host a

/-! ### Text -/

/-- The address, a slash and the length. -/
def text (p : Network) : String := p.addr.text ++ "/" ++ toString p.len

/-- The length that a dotted mask stands for, if its ones come before its zeros. -/
def lenOfMask? (m : Addr) : Option Nat :=
  (List.range 33).find? fun len => maskBits len = m.bits

/-- Attaches a length to an address, if it is in range. -/
def ofParts? (a : Addr) (len : Nat) : Option Network :=
  if h : len ≤ 32 then some { addr := a, len := len, len_le := h } else none

/-- Reads what follows the slash: a dotted mask or a number. -/
def lenOfChars? (cs : List Char) : Option Nat :=
  match Addr.ofChars? cs with
  | some m => lenOfMask? m
  | none => Number.unsignedBelow? 33 cs

/-- Reads an address, alone or followed by a slash and a length. -/
def parse? (s : String) : Option Network :=
  match Number.pieces '/' s.toList with
  | [a] => (Addr.ofChars? a).map host
  | [a, l] => (Addr.ofChars? a).bind fun addr => (lenOfChars? l).bind fun len => ofParts? addr len
  | _ => none

example : (parse? "203.0.113.7/24").map text = some "203.0.113.7/24" := by decide +kernel
example : (parse? "203.0.113.7").map text = some "203.0.113.7/32" := by decide +kernel
example : (parse? "10.0.0.0/255.255.0.0").map text = some "10.0.0.0/16" := by decide +kernel
example : parse? "10.0.0.0/255.0.255.0" = none := by decide +kernel
example : (parse? "10.0.0.0/+08").map text = some "10.0.0.0/8" := by decide +kernel
example : parse? "10.0.0.0/8/8" = none := by decide +kernel
example : (parse? "203.0.113.7/24").map (·.masked.text) = some "203.0.113.0/24" := by
  decide +kernel

end Network

end RoutePreference
