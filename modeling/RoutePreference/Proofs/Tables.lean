import RoutePreference.Table

/-!
# More about tables

* `contains` after each operation, and what it says about lookups;
* `insert_eq_self`: putting an entry where it stands already changes nothing;
* `get?_ofList_map`: the table of a function on the listed keys;
* `eq_empty_iff`: tables without entries;
* `flatMap_values_congr`: tables that look the same if a value counts like none.
-/

namespace RoutePreference

namespace Table

variable {κ ν μ : Type} [Ord κ]

theorem contains_iff {t : Table κ ν} {k : κ} :
    t.contains k = true ↔ ∃ v, t.get? k = some v := Option.isSome_iff_exists

theorem contains_eq_false_iff {t : Table κ ν} {k : κ} :
    t.contains k = false ↔ t.get? k = none := by
  simp [contains]

theorem contains_of_get? {t : Table κ ν} {k : κ} {v : ν} (h : t.get? k = some v) :
    t.contains k = true := contains_iff.2 ⟨v, h⟩

@[simp] theorem contains_empty (k : κ) : (∅ : Table κ ν).contains k = false := rfl

section Keyed

variable [Std.LawfulEqOrd κ]

@[simp] theorem contains_mapValues (t : Table κ ν) (f : κ → ν → μ) (k : κ) :
    (t.mapValues f).contains k = t.contains k := by
  simp [contains, get?_mapValues]

theorem contains_erase [DecidableEq κ] (t : Table κ ν) (k k' : κ) :
    (t.erase k).contains k' = (!decide (k = k') && t.contains k') := by
  rw [contains, get?_erase]
  by_cases h : k = k' <;> simp [h, contains]

/-- Keeping the entries whose keys pass a test. -/
theorem contains_filter (t : Table κ ν) (p : κ → Bool) (k : κ) :
    (t.filter fun k _ => p k).contains k = (t.contains k && p k) := by
  rw [contains, get?_filter, contains]
  cases t.get? k <;> simp

theorem get?_eq_none_of_not_mem_keys {t : Table κ ν} {k : κ} (h : k ∉ t.keys) :
    t.get? k = none := by
  rw [mem_keys_iff] at h
  simpa [contains] using h

theorem get?_of_mem_entries {t : Table κ ν} {e : κ × ν} (h : e ∈ t.entries) :
    t.get? e.1 = some e.2 := get?_eq_some_iff.2 h

end Keyed

section Ordered

variable [Std.TransOrd κ] [Std.LawfulEqOrd κ]

theorem contains_insert [DecidableEq κ] (t : Table κ ν) (k k' : κ) (v : ν) :
    (t.insert k v).contains k' = (decide (k = k') || t.contains k') := by
  rw [contains, get?_insert]
  by_cases h : k = k' <;> simp [h, contains]

/-- Putting an entry where it stands already changes nothing. -/
theorem insert_eq_self [DecidableEq κ] {t : Table κ ν} {k : κ} {v : ν}
    (h : t.get? k = some v) : t.insert k v = t := by
  refine ext_get? fun k' => ?_
  rw [get?_insert]
  split
  · next hk => rw [← hk, h]
  · rfl

/-- Erasing a key that isn't there changes nothing. -/
theorem erase_eq_self [DecidableEq κ] {t : Table κ ν} {k : κ}
    (h : t.get? k = none) : t.erase k = t := by
  refine ext_get? fun k' => ?_
  rw [get?_erase]
  split
  · next hk => rw [← hk, h]
  · rfl

theorem eq_empty_iff {t : Table κ ν} : t = ∅ ↔ ∀ k, t.get? k = none := by
  constructor
  · rintro rfl k; rfl
  · intro h
    exact ext_get? fun k => by rw [h k]; rfl

theorem get?_foldl_insert_map [DecidableEq κ] (l : List κ) (f : κ → ν) (t : Table κ ν) (k : κ) :
    ((l.map fun a => (a, f a)).foldl (fun t e => t.insert e.1 e.2) t).get? k =
      if k ∈ l then some (f k) else t.get? k := by
  induction l generalizing t with
  | nil => simp
  | cons a l ih =>
    simp only [List.map_cons, List.foldl_cons]
    rw [ih, get?_insert]
    by_cases hk : k ∈ l
    · simp [hk]
    · by_cases ha : a = k
      · simp [ha]
      · simp [hk, ha, Ne.symm ha]

/-- The table of a function on the listed keys. -/
theorem get?_ofList_map [DecidableEq κ] (l : List κ) (f : κ → ν) (k : κ) :
    (ofList (l.map fun a => (a, f a))).get? k = if k ∈ l then some (f k) else none :=
  get?_foldl_insert_map l f ∅ k

end Ordered

/-! ### Values that count like none -/

section Vacuous

variable {β : Type} [DecidableEq ν] {z : ν} {f : ν → List β}

/-- Entries that come to nothing may be left out. -/
theorem flatMap_values_filter (hf : f z = []) (t : Table κ ν) :
    (t.filter fun _ v => v ≠ z).values.flatMap f = t.values.flatMap f := by
  show ((t.entries.filter _).map _).flatMap f = (t.entries.map _).flatMap f
  induction t.entries with
  | nil => rfl
  | cons e l ih =>
    rw [List.map_cons, List.flatMap_cons, ← ih, List.filter_cons]
    split
    · rfl
    · next h =>
      have he : e.2 = z := by simpa using h
      rw [he, hf, List.nil_append]

/-- What is left of a lookup depends on what it looks like. -/
theorem filter_ne_eq (o : Option ν) : (o.filter fun v => v ≠ z) =
    if o.getD z = z then none else some (o.getD z) := by
  cases o with
  | none => simp
  | some v => by_cases hv : v = z <;> simp [hv, Option.filter]

variable [Std.LawfulEqOrd κ]

theorem keys_filter_ne (t : Table κ ν) :
    (t.filter fun _ v => v ≠ z).keys = t.keys.filter fun k => (t.get? k).getD z ≠ z := by
  show (t.entries.filter _).map _ = (t.entries.map _).filter _
  rw [List.filter_map]
  refine congrArg (List.map _) (List.filter_congr fun e he => ?_)
  simp [get?_of_mem_entries he]

variable [Std.TransOrd κ] {s t : Table κ ν}

/-- Tables that look the same if a value counts like none are the same without it. -/
theorem filter_ne_congr (h : ∀ k, (s.get? k).getD z = (t.get? k).getD z) :
    (s.filter fun _ v => v ≠ z) = t.filter fun _ v => v ≠ z := by
  refine ext_get? fun k => ?_
  rw [get?_filter, get?_filter, filter_ne_eq, filter_ne_eq, h]

/-- So they come to the same. -/
theorem flatMap_values_congr (hf : f z = [])
    (h : ∀ k, (s.get? k).getD z = (t.get? k).getD z) :
    s.values.flatMap f = t.values.flatMap f := by
  rw [← flatMap_values_filter hf s, filter_ne_congr h, flatMap_values_filter hf]

end Vacuous

end Table

end RoutePreference
