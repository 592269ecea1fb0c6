import RoutePreference.Aft.Entry
import RoutePreference.Proofs.Net.Text
import RoutePreference.Telemetry.Path

/-!
# Entries and paths are told apart by their texts

Names are written into the texts as they are, so a text is taken apart at separators that the parts
beside them can't have: the first one when the part before it has none, the last one when the part
after it has none.

* `Identifiers.append_inj_first`, `Identifiers.append_inj_last`: the two ways to do so;
* `AftEntry.SameKey`: two entries of one kind with one key;
* `AftEntry.text_eq_iff`, `AftEntry.key_eq_iff`: a text has the kind, the key and the network
  instance of its entry, whatever the instance is called;
* `StatePath.eq_of_text_eq`: a path is known by its text, provided that the name of its network
  instance has no closing bracket; the name of a protocol instance may have one;
* `identifiers_unambiguous`: both.
-/

namespace RoutePreference

/-! ### Taking a text apart -/

namespace Identifiers

variable {sep : Char}

theorem cons_inj_first {l l' r r' : List Char} (hl : sep ∉ l) (hl' : sep ∉ l') :
    l ++ sep :: r = l' ++ sep :: r' ↔ l = l' ∧ r = r' := by
  refine ⟨fun h => ?_, fun ⟨hleft, hright⟩ => by rw [hleft, hright]⟩
  obtain ⟨t, rfl, ht⟩ | ⟨t, rfl, ht⟩ := List.append_eq_append_iff.1 h
  · cases t with
    | nil => exact ⟨(List.append_nil l).symm, (List.cons.inj ht).2⟩
    | cons c t =>
      rw [← (List.cons.inj ht).1] at hl'
      exact absurd (List.mem_append_right l List.mem_cons_self) hl'
  · cases t with
    | nil => exact ⟨List.append_nil l', (List.cons.inj ht).2.symm⟩
    | cons c t =>
      rw [← (List.cons.inj ht).1] at hl
      exact absurd (List.mem_append_right l' List.mem_cons_self) hl

variable {a a' b b' : String}

/-- Texts are taken apart at their first separator, which stays with the part after it. -/
theorem append_inj_first (ha : sep ∉ a.toList) (ha' : sep ∉ a'.toList)
    (hb : b.toList.head? = some sep) (hb' : b'.toList.head? = some sep) :
    a ++ b = a' ++ b' ↔ a = a' ∧ b = b' := by
  obtain ⟨r, hr⟩ := List.head?_eq_some_iff.1 hb
  obtain ⟨r', hr'⟩ := List.head?_eq_some_iff.1 hb'
  rw [← String.toList_inj, String.toList_append, String.toList_append, hr, hr',
    cons_inj_first ha ha', String.toList_inj, ← @String.toList_inj b, hr, hr',
    List.cons_inj_right]

/-- Texts are taken apart at their last separator, which stays with the part before it. -/
theorem append_inj_last (hb : sep ∉ b.toList) (hb' : sep ∉ b'.toList)
    (ha : a.toList.getLast? = some sep) (ha' : a'.toList.getLast? = some sep) :
    a ++ b = a' ++ b' ↔ a = a' ∧ b = b' := by
  obtain ⟨l, hl⟩ := List.getLast?_eq_some_iff.1 ha
  obtain ⟨l', hl'⟩ := List.getLast?_eq_some_iff.1 ha'
  have hback : ∀ m s : List Char, (m ++ [sep] ++ s).reverse = s.reverse ++ sep :: m.reverse := by
    simp
  rw [← String.toList_inj, String.toList_append, String.toList_append, hl, hl',
    ← List.reverse_inj, hback, hback, cons_inj_first (by simpa using hb) (by simpa using hb'),
    List.reverse_inj, List.reverse_inj, String.toList_inj, ← @String.toList_inj a, hl, hl',
    List.append_left_inj, and_comm]

theorem getLast?_append {c : Char} (h : b.toList.getLast? = some c) :
    (a ++ b).toList.getLast? = some c := by
  rw [String.toList_append, List.getLast?_append, h, Option.some_or]

theorem getElem?_append {i : Nat} {c : Char} (h : a.toList[i]? = some c) :
    (a ++ b).toList[i]? = some c := by
  rw [String.toList_append, List.getElem?_append_left (List.getElem?_eq_some_iff.1 h).1, h]

end Identifiers

open Identifiers

/-! ### Forwarding entries -/

namespace AftEntry

/-- The entries are of one kind and have the same key: the index of a next-hop, the identifier of a
group, the network of an IPv4 entry. -/
def SameKey : AftEntry → AftEntry → Prop
  | nextHop e, nextHop e' => e.index = e'.index
  | nextHopGroup e, nextHopGroup e' => e.id = e'.id
  | ipv4 e, ipv4 e' => e.dest = e'.dest
  | _, _ => False

/-- Kind and key, as they are written, are those of the entry. -/
theorem key_eq_iff (e e' : AftEntry) : e.kind = e'.kind ∧ e.key = e'.key ↔ e.SameKey e' := by
  have hnumber : ∀ n m : Nat, n.repr = m.repr ↔ n = m := fun _ _ =>
    Number.toString_injective.eq_iff
  have hnetwork : ∀ p q : Network, p.text = q.text ↔ p = q := fun _ _ =>
    Network.text_injective.eq_iff
  cases e <;> cases e' <;> simp [kind, key, SameKey, hnumber, hnetwork]

theorem bracket_not_mem_kind (e : AftEntry) : '[' ∉ e.kind.toList := by
  cases e <;> simp [kind]

/-- A key has digits, dots and a slash only. -/
theorem bracket_not_mem_key (e : AftEntry) : ']' ∉ e.key.toList := by
  cases e with
  | nextHop e => exact Number.not_mem_toString (by decide) e.index
  | nextHopGroup e => exact Number.not_mem_toString (by decide) e.id
  | ipv4 e => exact Network.not_mem_text (by decide) (by decide) (by decide) e.dest

/-- A text has the kind, the key and the network instance of its entry. -/
theorem text_eq_iff (e e' : AftEntry) :
    e.text = e'.text ↔ e.kind = e'.kind ∧ e.key = e'.key ∧ e.inst = e'.inst := by
  have hopen : ∀ s : String, ("[" ++ s).toList.head? = some '[' := fun s => by simp
  have hclose : ∀ s : String, ("]@" ++ s).toList.head? = some ']' := fun s => by simp
  simp only [text, String.append_assoc]
  rw [append_inj_first e.bracket_not_mem_kind e'.bracket_not_mem_kind (hopen _) (hopen _),
    String.append_right_inj,
    append_inj_first e.bracket_not_mem_key e'.bracket_not_mem_key (hclose _) (hclose _),
    String.append_right_inj]

end AftEntry

/-! ### Paths -/

namespace StatePath

/-- The first letter of the path below the network instance. -/
def letter : StatePath → Char
  | instanceType .. => 's'
  | staticRoute .. => 'p'
  | aftPrefix .. => 'a'
  | aftOrigin .. => 'a'

theorem tail_letter (p : StatePath) : p.tail.toList[1]? = some p.letter := by
  cases p with
  | instanceType i =>
    show "/state/type".toList[1]? = some 's'
    decide
  | staticRoute i name dest =>
    show _ = some 'p'
    exact getElem?_append (getElem?_append (getElem?_append (getElem?_append (by decide))))
  | aftPrefix i dest =>
    show _ = some 'a'
    exact getElem?_append (getElem?_append (by decide))
  | aftOrigin i dest =>
    show _ = some 'a'
    exact getElem?_append (getElem?_append (by decide))

/-- A configured route's path has its protocol instance and its network. The name may have any
separator in it; the network has none, so that the last equals sign stands right before it. -/
theorem staticRoute_tail_inj {i i' name name' : String} {dest dest' : Network}
    (h : (staticRoute i name dest).tail = (staticRoute i' name' dest').tail) :
    name = name' ∧ dest = dest' := by
  have hequals : ∀ p : Network, '=' ∉ p.text.toList :=
    Network.not_mem_text (by decide) (by decide) (by decide)
  have hlast : ∀ s : String, (s ++ "]/static-routes/static[prefix=").toList.getLast? = some '=' :=
    fun _ => getLast?_append (by decide)
  obtain ⟨hname, hdest⟩ := (append_inj_last (hequals dest) (hequals dest') (hlast _) (hlast _)).1
    ((String.append_left_inj _).1 h)
  exact ⟨(String.append_right_inj _).1 ((String.append_left_inj _).1 hname),
    Network.text_injective hdest⟩

/-- A forwarding entry's path has its network, and the leaf below it. -/
theorem entry_tail_inj {dest dest' : Network} {leaf leaf' : String}
    (hleaf : leaf.toList.head? = some ']') (hleaf' : leaf'.toList.head? = some ']')
    (h : "/afts/ipv4-unicast/ipv4-entry[prefix=" ++ dest.text ++ leaf =
      "/afts/ipv4-unicast/ipv4-entry[prefix=" ++ dest'.text ++ leaf') :
    dest = dest' ∧ leaf = leaf' := by
  have hbracket : ∀ p : Network, ']' ∉ p.text.toList :=
    Network.not_mem_text (by decide) (by decide) (by decide)
  rw [String.append_assoc, String.append_assoc, String.append_right_inj,
    append_inj_first (hbracket dest) (hbracket dest') hleaf hleaf'] at h
  exact ⟨Network.text_injective h.1, h.2⟩

/-- Within a network instance, a path is known by what is written below it. -/
theorem eq_of_tail_eq {p p' : StatePath} (hinst : p.inst = p'.inst) (htail : p.tail = p'.tail) :
    p = p' := by
  have hletter : p.letter = p'.letter :=
    Option.some.inj ((tail_letter p).symm.trans (htail ▸ tail_letter p'))
  cases p with
  | instanceType i =>
    cases p' with
    | instanceType i' => exact congrArg instanceType hinst
    | _ => simp [letter] at hletter
  | staticRoute i name dest =>
    cases p' with
    | staticRoute i' name' dest' =>
      obtain ⟨rfl, rfl⟩ := staticRoute_tail_inj htail
      exact congrArg (staticRoute · name dest) hinst
    | _ => simp [letter] at hletter
  | aftPrefix i dest =>
    cases p' with
    | aftPrefix i' dest' =>
      obtain ⟨rfl, -⟩ := entry_tail_inj (by decide) (by decide) htail
      exact congrArg (aftPrefix · dest) hinst
    | aftOrigin i' dest' =>
      obtain ⟨-, hleaf⟩ := entry_tail_inj (by decide) (by decide) htail
      exact absurd hleaf (by decide)
    | _ => simp [letter] at hletter
  | aftOrigin i dest =>
    cases p' with
    | aftPrefix i' dest' =>
      obtain ⟨-, hleaf⟩ := entry_tail_inj (by decide) (by decide) htail
      exact absurd hleaf (by decide)
    | aftOrigin i' dest' =>
      obtain ⟨rfl, -⟩ := entry_tail_inj (by decide) (by decide) htail
      exact congrArg (aftOrigin · dest) hinst
    | _ => simp [letter] at hletter

/-- A path is known by its text, if the name of its network instance has no closing bracket. -/
theorem eq_of_text_eq {p p' : StatePath} (hp : ']' ∉ p.inst.toList) (hp' : ']' ∉ p'.inst.toList)
    (h : p.text = p'.text) : p = p' := by
  have hclose : ∀ s : String, ("]" ++ s).toList.head? = some ']' := fun s => by simp
  have hassoc : ∀ q : StatePath, q.text =
      "/network-instances/network-instance[name=" ++ (q.inst ++ ("]" ++ q.tail)) := fun _ =>
    (String.append_assoc ..).trans (String.append_assoc ..)
  rw [hassoc, hassoc] at h
  obtain ⟨hinst, htail⟩ := (append_inj_first hp hp' (hclose _) (hclose _)).1
    ((String.append_right_inj _).1 h)
  exact eq_of_tail_eq hinst ((String.append_right_inj _).1 htail)

/-- The condition is needed: with a bracket in its name, an instance can pass for a protocol of
another one. -/
theorem text_of_bracketed_inst (i name name' : String) (dest : Network) :
    (staticRoute (i ++ "]/protocols/protocol[identifier=STATIC][name=" ++ name) name' dest).text =
      (staticRoute i (name ++ "]/protocols/protocol[identifier=STATIC][name=" ++ name')
        dest).text := by
  have hmiddle : "]/protocols/protocol[identifier=STATIC][name=" =
      "]" ++ "/protocols/protocol[identifier=STATIC][name=" := by decide
  have hassoc : ∀ root close middle opening key leaf : String,
      root ++ (i ++ (close ++ middle) ++ name) ++ close ++
          (middle ++ name' ++ opening ++ key ++ leaf) =
        root ++ i ++ close ++
          (middle ++ (name ++ (close ++ middle) ++ name') ++ opening ++ key ++ leaf) := by
    simp only [String.append_assoc, implies_true]
  rw [hmiddle]
  exact hassoc ..

end StatePath

/-! ### Both -/

/-- **Identifiers are unambiguous.** Entries with one text have the same kind, key and network
instance, however the instances are called, and kind and key are those of the entries themselves.
Paths with one text are equal, host bits included, unless an instance's name has a closing
bracket. -/
theorem identifiers_unambiguous :
    (∀ e e' : AftEntry,
      e.text = e'.text ↔ e.kind = e'.kind ∧ e.key = e'.key ∧ e.inst = e'.inst) ∧
    (∀ e e' : AftEntry, e.kind = e'.kind ∧ e.key = e'.key ↔ e.SameKey e') ∧
    ∀ p p' : StatePath, ']' ∉ p.inst.toList → ']' ∉ p'.inst.toList →
      (p.text = p'.text ↔ p = p') :=
  ⟨AftEntry.text_eq_iff, AftEntry.key_eq_iff, fun _ _ hp hp' =>
    ⟨StatePath.eq_of_text_eq hp hp', congrArg StatePath.text⟩⟩

/-- Two networks that differ in their host bits only, and a next-hop and a group of one number. -/
theorem host_bits_told_apart :
    let p := StatePath.staticRoute "DEFAULT" "a]b" (.ofInterface (.ofOctets 203 0 113 7) 24)
    let q := StatePath.staticRoute "DEFAULT" "a]b" (.ofInterface (.ofOctets 203 0 113 0) 24)
    let e := AftEntry.nextHop { index := 7, address := Addr.ofOctets 192 0 2 1, inst := "]@a" }
    let e' := AftEntry.nextHopGroup { id := 7, members := ∅, inst := "]@a" }
    (']' ∉ p.inst.toList ∧ ']' ∉ q.inst.toList ∧ p.text ≠ q.text) ∧ e.text ≠ e'.text := by
  intro p q e e'
  have hp : ']' ∉ p.inst.toList := by decide
  have hq : ']' ∉ q.inst.toList := by decide
  have hne : p ≠ q := by decide
  have hkind : e.kind ≠ e'.kind := by decide
  exact ⟨⟨hp, hq, fun h => hne ((identifiers_unambiguous.2.2 p q hp hq).1 h)⟩,
    fun h => hkind ((identifiers_unambiguous.1 e e').1 h).1⟩

end RoutePreference
