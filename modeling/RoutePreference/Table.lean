/-!
# Ordered tables

* `Table κ ν`: a finite map held as its list of pairs, keys strictly increasing;
* `get?`, `insert`, `erase`, `mapValues`, `filter`, `find?`: its operations, each with the
  lemma that says what it does to `get?`;
* `Keys κ`: a finite set of keys.

A table is determined by its lookups (`ext_get?`), so two histories that leave the same entries
leave equal tables.  Reading the entries from first to last visits the keys in increasing order.
-/

namespace RoutePreference

/-- A finite map whose entries stand in strictly increasing key order. -/
structure Table (κ : Type) (ν : Type) [Ord κ] where
  /-- The entries, smallest key first. -/
  entries : List (κ × ν)
  /-- No key stands before a smaller or equal one. -/
  sorted : entries.Pairwise (fun a b => compare a.1 b.1 = .lt)

namespace Table

variable {κ ν μ : Type} [Ord κ]

theorem eq_of_entries {s t : Table κ ν} (h : s.entries = t.entries) : s = t := by
  cases s; cases t; cases h; rfl

instance [DecidableEq κ] [DecidableEq ν] : DecidableEq (Table κ ν) := fun s t =>
  if h : s.entries = t.entries then isTrue (eq_of_entries h)
  else isFalse fun e => h (congrArg entries e)

/-- The table without entries. -/
def empty : Table κ ν := ⟨[], .nil⟩

instance : EmptyCollection (Table κ ν) := ⟨empty⟩
instance : Inhabited (Table κ ν) := ⟨empty⟩

/-! ### Lookup -/

/-- The value listed for a key. -/
def listGet? (k : κ) : List (κ × ν) → Option ν
  | [] => none
  | e :: rest => if compare k e.1 = .eq then some e.2 else listGet? k rest

/-- The value held for a key, if any. -/
def get? (t : Table κ ν) (k : κ) : Option ν := listGet? k t.entries

/-- Whether the key is present. -/
def contains (t : Table κ ν) (k : κ) : Bool := (t.get? k).isSome

/-- The keys, in increasing order. -/
def keys (t : Table κ ν) : List κ := t.entries.map (·.1)

/-- The values, in increasing order of their keys. -/
def values (t : Table κ ν) : List ν := t.entries.map (·.2)

/-- Whether there is no entry. -/
def isEmpty (t : Table κ ν) : Bool := t.entries.isEmpty

/-- The first value, in key order, that satisfies the test. -/
def find? (t : Table κ ν) (p : ν → Bool) : Option ν := t.values.find? p

@[simp] theorem get?_empty (k : κ) : (∅ : Table κ ν).get? k = none := rfl

/-! ### Insertion -/

/-- Puts an entry at its place in an ordered list, replacing one of the same key. -/
def listInsert (k : κ) (v : ν) : List (κ × ν) → List (κ × ν)
  | [] => [(k, v)]
  | e :: rest =>
    match compare k e.1 with
    | .lt => (k, v) :: e :: rest
    | .eq => (k, v) :: rest
    | .gt => e :: listInsert k v rest

theorem mem_listInsert {k : κ} {v : ν} {e : κ × ν} {l : List (κ × ν)}
    (h : e ∈ listInsert k v l) : e = (k, v) ∨ e ∈ l := by
  induction l with
  | nil => simpa [listInsert] using h
  | cons d rest ih =>
    unfold listInsert at h
    split at h
    · simpa using h
    · rcases List.mem_cons.1 h with h | h
      · exact .inl h
      · exact .inr (List.mem_cons_of_mem _ h)
    · rcases List.mem_cons.1 h with h | h
      · exact .inr (by simp [h])
      · rcases ih h with h | h
        · exact .inl h
        · exact .inr (List.mem_cons_of_mem _ h)

section Lookup

variable [Std.LawfulEqOrd κ]

theorem listGet?_listInsert_self (k : κ) (v : ν) (l : List (κ × ν)) :
    listGet? k (listInsert k v l) = some v := by
  induction l with
  | nil => simp [listInsert, listGet?]
  | cons d rest ih =>
    unfold listInsert
    split
    · simp [listGet?]
    · simp [listGet?]
    · rename_i hgt
      simp [listGet?, hgt, ih]

theorem listGet?_listInsert_of_ne {k k' : κ} (hne : k ≠ k') (v : ν) (l : List (κ × ν)) :
    listGet? k' (listInsert k v l) = listGet? k' l := by
  have hk : ¬ compare k' k = .eq := fun h => hne (Std.LawfulEqCmp.eq_of_compare h).symm
  induction l with
  | nil => simp [listInsert, listGet?, hk]
  | cons d rest ih =>
    unfold listInsert
    split
    · simp [listGet?, hk]
    · rename_i heq
      have hd : k = d.1 := Std.LawfulEqCmp.eq_of_compare heq
      have hk' : ¬ compare k' d.1 = .eq := hd ▸ hk
      simp [listGet?, hk, hk']
    · simp [listGet?, ih]

theorem listGet?_eq_some_iff {l : List (κ × ν)}
    (h : l.Pairwise (fun a b => compare a.1 b.1 = .lt)) {k : κ} {v : ν} :
    listGet? k l = some v ↔ (k, v) ∈ l := by
  induction l with
  | nil => simp [listGet?]
  | cons d rest ih =>
    have hd := (List.pairwise_cons.1 h).1
    unfold listGet?
    split
    · rename_i heq
      have hk : k = d.1 := Std.LawfulEqCmp.eq_of_compare heq
      constructor
      · intro hv
        obtain ⟨d1, d2⟩ := d
        simp only [Option.some.injEq] at hv
        simp only at hk
        simp [hk, hv]
      · intro hm
        rcases List.mem_cons.1 hm with hm | hm
        · rw [← hm]
        · have hlt := hd _ hm
          rw [← hk] at hlt
          simp at hlt
    · rename_i hne
      rw [ih h.of_cons]
      constructor
      · exact List.mem_cons_of_mem _
      · intro hm
        rcases List.mem_cons.1 hm with hm | hm
        · exact absurd (by rw [← hm]; simp) hne
        · exact hm

theorem get?_eq_some_iff {t : Table κ ν} {k : κ} {v : ν} :
    t.get? k = some v ↔ (k, v) ∈ t.entries := listGet?_eq_some_iff t.sorted

theorem mem_keys_iff {t : Table κ ν} {k : κ} : k ∈ t.keys ↔ t.contains k = true := by
  simp only [keys, contains, List.mem_map, Option.isSome_iff_exists, get?_eq_some_iff]
  constructor
  · rintro ⟨e, he, rfl⟩; exact ⟨e.2, he⟩
  · rintro ⟨v, hv⟩; exact ⟨_, hv, rfl⟩

theorem mem_values_iff {t : Table κ ν} {v : ν} : v ∈ t.values ↔ ∃ k, t.get? k = some v := by
  simp only [values, List.mem_map, get?_eq_some_iff]
  constructor
  · rintro ⟨e, he, rfl⟩; exact ⟨e.1, he⟩
  · rintro ⟨k, hk⟩; exact ⟨_, hk, rfl⟩

end Lookup

section Insertion

variable [Std.TransOrd κ] [Std.LawfulEqOrd κ]

theorem sorted_listInsert (k : κ) (v : ν) {l : List (κ × ν)}
    (h : l.Pairwise (fun a b => compare a.1 b.1 = .lt)) :
    (listInsert k v l).Pairwise (fun a b => compare a.1 b.1 = .lt) := by
  induction l with
  | nil => simp [listInsert]
  | cons d rest ih =>
    have hd := (List.pairwise_cons.1 h).1
    unfold listInsert
    split
    · rename_i hlt
      refine List.Pairwise.cons (fun e he => ?_) h
      rcases List.mem_cons.1 he with rfl | he
      · exact hlt
      · exact Std.TransCmp.lt_trans hlt (hd e he)
    · rename_i heq
      have hk : k = d.1 := Std.LawfulEqCmp.eq_of_compare heq
      exact List.Pairwise.cons (fun e he => hk ▸ hd e he) h.of_cons
    · rename_i hgt
      refine List.Pairwise.cons (fun e he => ?_) (ih h.of_cons)
      rcases mem_listInsert he with rfl | he
      · exact Std.OrientedCmp.lt_of_gt hgt
      · exact hd e he

/-- Puts an entry into the table, replacing one of the same key. -/
def insert (t : Table κ ν) (k : κ) (v : ν) : Table κ ν :=
  ⟨listInsert k v t.entries, sorted_listInsert k v t.sorted⟩

@[simp] theorem get?_insert_self (t : Table κ ν) (k : κ) (v : ν) :
    (t.insert k v).get? k = some v := listGet?_listInsert_self k v t.entries

theorem get?_insert_of_ne (t : Table κ ν) {k k' : κ} (hne : k ≠ k') (v : ν) :
    (t.insert k v).get? k' = t.get? k' := listGet?_listInsert_of_ne hne v t.entries

theorem get?_insert [DecidableEq κ] (t : Table κ ν) (k k' : κ) (v : ν) :
    (t.insert k v).get? k' = if k = k' then some v else t.get? k' := by
  split
  · next h => subst h; simp
  · next h => exact get?_insert_of_ne t h v

/-- The table that holds the listed entries, a later one replacing an earlier one of its key. -/
def ofList (l : List (κ × ν)) : Table κ ν :=
  l.foldl (fun t e => t.insert e.1 e.2) ∅

/-! ### Tables with the same lookups -/

theorem sorted_ext {l m : List (κ × ν)}
    (hl : l.Pairwise (fun a b => compare a.1 b.1 = .lt))
    (hm : m.Pairwise (fun a b => compare a.1 b.1 = .lt))
    (h : ∀ e, e ∈ l ↔ e ∈ m) : l = m := by
  induction l generalizing m with
  | nil =>
    cases m with
    | nil => rfl
    | cons e m => exact absurd ((h e).2 (by simp)) (by simp)
  | cons d rest ih =>
    cases m with
    | nil => exact absurd ((h d).1 (by simp)) (by simp)
    | cons e m =>
      have hde : d = e := by
        rcases List.mem_cons.1 ((h d).1 (by simp)) with hde | hde
        · exact hde
        · rcases List.mem_cons.1 ((h e).2 (by simp)) with hed | hed
          · exact hed.symm
          · have h1 := List.rel_of_pairwise_cons hm hde
            have h2 := List.rel_of_pairwise_cons hl hed
            have h3 := Std.TransCmp.lt_trans h1 h2
            simp at h3
      subst hde
      congr 1
      refine ih hl.of_cons hm.of_cons fun x => ?_
      constructor
      · intro hx
        rcases List.mem_cons.1 ((h x).1 (List.mem_cons_of_mem _ hx)) with rfl | hx'
        · have := List.rel_of_pairwise_cons hl hx
          simp at this
        · exact hx'
      · intro hx
        rcases List.mem_cons.1 ((h x).2 (List.mem_cons_of_mem _ hx)) with rfl | hx'
        · have := List.rel_of_pairwise_cons hm hx
          simp at this
        · exact hx'

/-- A table is determined by its lookups. -/
theorem ext_get? {s t : Table κ ν} (h : ∀ k, s.get? k = t.get? k) : s = t := by
  refine eq_of_entries (sorted_ext s.sorted t.sorted fun e => ?_)
  rw [← get?_eq_some_iff (t := s), ← get?_eq_some_iff (t := t), h]

end Insertion

/-! ### Removal and selection -/

/-- Keeps the entries that satisfy the test. -/
def filter (t : Table κ ν) (p : κ → ν → Bool) : Table κ ν :=
  ⟨t.entries.filter (fun e => p e.1 e.2), t.sorted.filter _⟩

/-- Removes the entry of a key, if there is one. -/
def erase (t : Table κ ν) (k : κ) : Table κ ν :=
  t.filter (fun k' _ => compare k k' ≠ .eq)

/-- Replaces every value, its key in view. -/
def mapValues (t : Table κ ν) (f : κ → ν → μ) : Table κ μ :=
  ⟨t.entries.map (fun e => (e.1, f e.1 e.2)),
    List.pairwise_map.2 (t.sorted.imp fun h => h)⟩

section LookupAfter

variable [Std.LawfulEqOrd κ]

theorem get?_filter (t : Table κ ν) (p : κ → ν → Bool) (k : κ) :
    (t.filter p).get? k = (t.get? k).filter (p k) := by
  apply Option.ext
  intro v
  rw [get?_eq_some_iff, Option.filter_eq_some_iff, get?_eq_some_iff]
  simp [filter]

theorem get?_erase [DecidableEq κ] (t : Table κ ν) (k k' : κ) :
    (t.erase k).get? k' = if k = k' then none else t.get? k' := by
  rw [erase, get?_filter]
  split
  · next h =>
    subst h
    cases t.get? k <;> simp
  · next h =>
    have : ¬ compare k k' = .eq := fun e => h (Std.LawfulEqCmp.eq_of_compare e)
    cases t.get? k' <;> simp [this]

@[simp] theorem get?_erase_self (t : Table κ ν) (k : κ) : (t.erase k).get? k = none := by
  rw [erase, get?_filter]
  cases t.get? k <;> simp

theorem get?_erase_of_ne (t : Table κ ν) {k k' : κ} (h : k ≠ k') :
    (t.erase k).get? k' = t.get? k' := by
  have : ¬ compare k k' = .eq := fun e => h (Std.LawfulEqCmp.eq_of_compare e)
  rw [erase, get?_filter]
  cases t.get? k' <;> simp [this]

end LookupAfter

theorem listGet?_map (f : κ → ν → μ) (hf : ∀ k k' : κ, compare k k' = .eq → k = k') (k : κ)
    (l : List (κ × ν)) :
    listGet? k (l.map (fun e => (e.1, f e.1 e.2))) = (listGet? k l).map (f k) := by
  induction l with
  | nil => rfl
  | cons d rest ih =>
    simp only [List.map_cons, listGet?]
    split
    · next h => rw [← hf _ _ h]; rfl
    · exact ih

theorem get?_mapValues [Std.LawfulEqOrd κ] (t : Table κ ν) (f : κ → ν → μ) (k : κ) :
    (t.mapValues f).get? k = (t.get? k).map (f k) :=
  listGet?_map f (fun _ _ => Std.LawfulEqCmp.eq_of_compare) k t.entries

end Table

/-! ### Sets of keys -/

/-- A finite set of keys, smallest first. -/
abbrev Keys (κ : Type) [Ord κ] := Table κ Unit

namespace Keys

variable {κ : Type} [Ord κ] [Std.TransOrd κ] [Std.LawfulEqOrd κ]

/-- Adds a key. -/
def add (s : Keys κ) (k : κ) : Keys κ := s.insert k ()

/-- Adds every listed key. -/
def addAll (s : Keys κ) (ks : List κ) : Keys κ := ks.foldl add s

theorem contains_add [DecidableEq κ] (s : Keys κ) (k k' : κ) :
    (s.add k).contains k' = (decide (k = k') || s.contains k') := by
  simp only [add, Table.contains, Table.get?_insert]
  by_cases h : k = k' <;> simp [h]

theorem contains_addAll [DecidableEq κ] (s : Keys κ) (ks : List κ) (k : κ) :
    (s.addAll ks).contains k = (decide (k ∈ ks) || s.contains k) := by
  induction ks generalizing s with
  | nil => simp [addAll]
  | cons a ks ih =>
    have : s.addAll (a :: ks) = (s.add a).addAll ks := rfl
    rw [this, ih, contains_add]
    by_cases h : a = k
    · subst h; simp
    · have h' : ¬ k = a := fun e => h e.symm
      simp [h, h']

end Keys

end RoutePreference
