import RoutePreference.Text.Number

/-!
# IPv4 addresses

* `Addr`: a 32-bit address, ordered as a number;
* `Addr.text`, `Addr.parse?`: four decimal octets between dots, written without leading zeros;
* `Addr.isUsable`: whether a neighbour may have the address.
-/

namespace RoutePreference

/-- An IPv4 address. -/
structure Addr where
  /-- The four octets, the first one highest. -/
  bits : BitVec 32
deriving DecidableEq, Inhabited

namespace Addr

/-- The address as a number. -/
def toNat (a : Addr) : Nat := a.bits.toNat

/-- The address of a number, counted modulo the size of the address space. -/
def ofNat (n : Nat) : Addr := ⟨BitVec.ofNat 32 n⟩

theorem toNat_lt (a : Addr) : a.toNat < 0x100000000 := a.bits.isLt

theorem toNat_inj {a b : Addr} : a.toNat = b.toNat ↔ a = b := by
  constructor
  · intro h; cases a; cases b; exact congrArg Addr.mk (BitVec.eq_of_toNat_eq h)
  · rintro rfl; rfl

@[simp] theorem toNat_ofNat (n : Nat) : (ofNat n).toNat = n % 0x100000000 := by
  simp [ofNat, toNat]

@[simp] theorem ofNat_toNat (a : Addr) : ofNat a.toNat = a := by
  apply toNat_inj.mp
  rw [toNat_ofNat, Nat.mod_eq_of_lt a.toNat_lt]

/-! ### Order -/

/-- Addresses are ordered as numbers. -/
instance : Ord Addr := ⟨compareOn toNat⟩

instance : Std.TransOrd Addr := inferInstanceAs (Std.TransCmp (compareOn toNat))

instance : Std.LawfulEqOrd Addr where
  eq_of_compare h := toNat_inj.1 (@Std.LawfulEqCmp.eq_of_compare _ compare _ _ _ h)

/-! ### Octets -/

/-- The address with the given octets, each counted modulo 256. -/
def ofOctets (a b c d : Nat) : Addr :=
  ofNat (((a % 256 * 256 + b % 256) * 256 + c % 256) * 256 + d % 256)

/-- The octets, first one first. -/
def octets (a : Addr) : List Nat :=
  [a.toNat / 0x1000000, a.toNat / 0x10000 % 256, a.toNat / 256 % 256, a.toNat % 256]

/-- The address written as four decimal octets between dots. -/
def text (a : Addr) : String := String.intercalate "." (a.octets.map toString)

/-- An octet is written in decimal, without leading zeros. -/
def octet? (cs : List Char) : Option Nat :=
  match cs with
  | '0' :: _ :: _ => none
  | _ => if cs.length ≤ 3 then (Number.decimal? cs).filter (· < 256) else none

/-- Reads four octets between dots. -/
def ofChars? (cs : List Char) : Option Addr :=
  match Number.pieces '.' cs with
  | [a, b, c, d] =>
    match octet? a, octet? b, octet? c, octet? d with
    | some a, some b, some c, some d => some (ofOctets a b c d)
    | _, _, _, _ => none
  | _ => none

/-- Reads an address in the form that `text` writes. -/
def parse? (s : String) : Option Addr := ofChars? s.toList

example : (ofOctets 192 0 2 1).text = "192.0.2.1" := by decide +kernel
example : parse? "192.0.2.1" = some (ofOctets 192 0 2 1) := by decide +kernel
example : parse? "192.0.02.1" = none := by decide +kernel
example : parse? "192.0.2.256" = none := by decide +kernel
example : parse? "192.0.2" = none := by decide +kernel

/-! ### Kinds of addresses -/

/-- The address that stands for none. -/
def isUnspecified (a : Addr) : Bool := a.toNat = 0

/-- The address of every host on a link. -/
def isBroadcast (a : Addr) : Bool := a.toNat = 0xffffffff

/-- The addresses of groups, `224.0.0.0/4`. -/
def isMulticast (a : Addr) : Bool := a.toNat / 0x10000000 = 14

/-- The addresses of the host itself, `127.0.0.0/8`. -/
def isLoopback (a : Addr) : Bool := a.toNat / 0x1000000 = 127

/-- Whether the address can belong to a neighbour. -/
def isUsable (a : Addr) : Bool :=
  !(a.isBroadcast || a.isMulticast || a.isUnspecified || a.isLoopback)

end Addr

end RoutePreference
