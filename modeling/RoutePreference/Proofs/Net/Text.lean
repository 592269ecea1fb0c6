import RoutePreference.Net.Network

/-!
# Addresses and networks are read back

* `Number.pieces_intercalate`: pieces that were joined are found again;
* `Addr.ofChars?_text`, `Network.parse?_text`: an address and a network are read back from their
  texts;
* `Network.text_injective`: so a network is known by its text, host bits included;
* `Network.not_mem_text`: the text has digits, dots and a slash only.
-/

namespace RoutePreference

namespace Number

theorem pieces_eq_splitOn (sep : Char) (cs : List Char) : pieces sep cs = cs.splitOn sep := by
  induction cs with
  | nil => rw [pieces, List.splitOn_nil]
  | cons c rest ih =>
    rw [pieces, List.splitOn_cons_eq_if_modifyHead, ih]
    simp only [beq_iff_eq]
    split
    · rfl
    · cases hrest : rest.splitOn sep with
      | nil => exact absurd hrest (List.splitOn_ne_nil sep rest)
      | cons p ps => rfl

/-- Pieces that were joined are found again. -/
theorem pieces_intercalate {sep : Char} {ps : List (List Char)} (h : ∀ p ∈ ps, sep ∉ p)
    (hne : ps ≠ []) : pieces sep (List.intercalate [sep] ps) = ps := by
  rw [pieces_eq_splitOn, List.splitOn_intercalate sep h hne]

/-- A number is written with digits only. -/
theorem not_mem_toString {c : Char} (hc : c.isDigit = false) (n : Nat) :
    c ∉ (toString n).toList := by
  rw [Nat.toString_eq_ofList_toDigits, String.toList_ofList]
  intro hmem
  rw [Nat.isDigit_of_mem_toDigits (by decide) (by decide) hmem] at hc
  cases hc

/-- A number is known by its text. -/
theorem toString_injective : Function.Injective (toString : Nat → String) := fun n m h => by
  rw [Nat.toString_eq_ofList_toDigits, Nat.toString_eq_ofList_toDigits, String.ofList_inj] at h
  rw [← Nat.ofDigitChars_ten_toDigits (n := n), h, Nat.ofDigitChars_ten_toDigits]

end Number

namespace Addr

/-! ### Addresses -/

theorem octet?_toString : ∀ n < 256, octet? (toString n).toList = some n := by decide +kernel

/-- An address is made of its octets. -/
theorem ofOctets_octets (a : Addr) :
    ofOctets (a.toNat / 0x1000000) (a.toNat / 0x10000 % 256) (a.toNat / 256 % 256)
      (a.toNat % 256) = a := by
  have hlt := a.toNat_lt
  apply toNat_inj.1
  rw [ofOctets, toNat_ofNat]
  omega

theorem toList_text (a : Addr) :
    a.text.toList = List.intercalate ['.'] (a.octets.map fun n => (toString n).toList) := by
  rw [text, String.toList_intercalate, List.map_map]
  rfl

/-- **An address is read back.** -/
theorem ofChars?_text (a : Addr) : ofChars? a.text.toList = some a := by
  have hpieces : Number.pieces '.' a.text.toList = a.octets.map fun n => (toString n).toList := by
    rw [toList_text]
    refine Number.pieces_intercalate (fun p hp => ?_) (by simp [octets])
    obtain ⟨n, -, rfl⟩ := List.mem_map.1 hp
    exact Number.not_mem_toString (by decide) n
  have hlt := a.toNat_lt
  unfold ofChars?
  rw [hpieces]
  simp only [octets, List.map_cons, List.map_nil]
  rw [octet?_toString _ (by omega), octet?_toString _ (by omega), octet?_toString _ (by omega),
    octet?_toString _ (by omega)]
  exact congrArg some a.ofOctets_octets

/-- The text of an address has digits and dots only. -/
theorem not_mem_text {c : Char} (hc : c.isDigit = false) (hdot : c ≠ '.') (a : Addr) :
    c ∉ a.text.toList := by
  have hoctet := Number.not_mem_toString hc
  rw [toList_text]
  simp only [octets, List.map_cons, List.map_nil, List.intercalate_cons_cons,
    List.intercalate_singleton, List.mem_append, List.mem_singleton, hoctet, hdot, or_self,
    not_false_eq_true]

end Addr

namespace Network

/-! ### Networks -/

theorem lenOfChars?_toString : ∀ n < 33, lenOfChars? (toString n).toList = some n := by
  decide +kernel

theorem toList_text (p : Network) :
    p.text.toList = p.addr.text.toList ++ '/' :: (toString p.len).toList := by
  simp [text, String.toList_append]

/-- **A network is read back**, its host bits included. -/
theorem parse?_text (p : Network) : parse? p.text = some p := by
  have hjoined : p.text.toList =
      List.intercalate ['/'] [p.addr.text.toList, (toString p.len).toList] := by
    rw [toList_text]
    simp [List.intercalate_cons_cons]
  have hpieces : Number.pieces '/' p.text.toList =
      [p.addr.text.toList, (toString p.len).toList] := by
    rw [hjoined]
    refine Number.pieces_intercalate (fun q hq => ?_) (by simp)
    obtain rfl | hq := List.mem_cons.1 hq
    · exact Addr.not_mem_text (by decide) (by decide) p.addr
    · rw [List.mem_singleton.1 hq]
      exact Number.not_mem_toString (by decide) p.len
  unfold parse?
  rw [hpieces]
  simp only [Addr.ofChars?_text, lenOfChars?_toString p.len (Nat.lt_succ_of_le p.len_le),
    Option.bind_some]
  exact dif_pos p.len_le

/-- **A network is known by its text.** -/
theorem text_injective : Function.Injective text := fun p q h =>
  Option.some.inj ((parse?_text p).symm.trans ((congrArg parse? h).trans (parse?_text q)))

/-- The text of a network has digits, dots and a slash only. -/
theorem not_mem_text {c : Char} (hc : c.isDigit = false) (hdot : c ≠ '.') (hslash : c ≠ '/')
    (p : Network) : c ∉ p.text.toList := by
  rw [toList_text, List.mem_append, List.mem_cons, not_or, not_or]
  exact ⟨Addr.not_mem_text hc hdot p.addr, hslash, Number.not_mem_toString hc p.len⟩

end Network

end RoutePreference
