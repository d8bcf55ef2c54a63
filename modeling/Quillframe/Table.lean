import Mathlib.Data.List.Nodup
import Mathlib.Tactic

/-! Relational tables as lists of rows in insertion order. -/
namespace Quillframe.Table

variable {Row Key : Type} [DecidableEq Key]

/-- The row under a unique key. -/
def lookup (key : Row → Key) (k : Key) (table : List Row) : Option Row :=
  table.find? fun row => key row = k

/-- Adds a row unless it clashes with one that is there. -/
def insert (clash : Row → Row → Bool) (row : Row) (table : List Row) : Option (List Row) :=
  if table.any (clash row) then none else some (table ++ [row])

def updateWhere (p : Row → Bool) (f : Row → Row) (table : List Row) : List Row :=
  table.map fun row => if p row then f row else row

/-- `INSERT .. ON CONFLICT(key) DO UPDATE`: merges into the row with the same key. -/
def upsert (key : Row → Key) (row : Row) (merge : Row → Row) (table : List Row) : List Row :=
  if table.any (fun other => key other = key row) then
    updateWhere (fun other => key other = key row) merge table
  else table ++ [row]

theorem lookup_mem {key : Row → Key} {k : Key} {table : List Row} {row : Row}
    (h : lookup key k table = some row) : row ∈ table := List.mem_of_find?_eq_some h

theorem lookup_key {key : Row → Key} {k : Key} {table : List Row} {row : Row}
    (h : lookup key k table = some row) : key row = k := by
  simpa using List.find?_some h

theorem lookup_eq_none {key : Row → Key} {k : Key} {table : List Row} :
    lookup key k table = none ↔ ∀ row ∈ table, key row ≠ k := by
  simp [lookup]

theorem lookup_isSome {key : Row → Key} {k : Key} {table : List Row} :
    (lookup key k table).isSome ↔ ∃ row ∈ table, key row = k := by
  simp [lookup]

/-- Distinct keys make the lookup find every row. -/
theorem lookup_of_mem {key : Row → Key} {table : List Row} {row : Row}
    (hkeys : (table.map key).Nodup) (h : row ∈ table) :
    lookup key (key row) table = some row := by
  induction table with
  | nil => cases h
  | cons head rest ih =>
    obtain ⟨hhead, hrest⟩ := List.nodup_cons.mp hkeys
    rcases List.mem_cons.mp h with rfl | h
    · simp [lookup]
    · have hne : key head ≠ key row := fun he => hhead (he ▸ List.mem_map_of_mem h)
      rw [lookup, List.find?_cons_of_neg (by simpa using hne)]
      exact ih hrest h

omit [DecidableEq Key] in
/-- The only row with a property is the one that is found. -/
theorem find_of_unique {p : Row → Bool} {table : List Row} {row : Row} (h : row ∈ table)
    (hp : p row) (hunique : ∀ other ∈ table, p other → other = row) :
    table.find? p = some row := by
  cases hfind : table.find? p with
  | none => simpa [hp] using List.find?_eq_none.mp hfind row h
  | some found =>
    rw [hunique found (List.mem_of_find?_eq_some hfind) (List.find?_some hfind)]

/-- The rows of a key, as a list. -/
theorem filter_key {key : Row → Key} {table : List Row} (hkeys : (table.map key).Nodup) (k : Key) :
    table.filter (fun row => key row = k) = (lookup key k table).toList := by
  induction table with
  | nil => rfl
  | cons row rest ih =>
    obtain ⟨hfresh, hrest⟩ := List.nodup_cons.mp hkeys
    by_cases hk : key row = k
    · have hnone : rest.filter (fun other => key other = k) = [] := by
        refine List.filter_eq_nil_iff.mpr fun other hother => ?_
        rw [decide_eq_true_eq]
        exact fun he => hfresh (List.mem_map.mpr ⟨other, hother, he.trans hk.symm⟩)
      rw [List.filter_cons_of_pos (by simpa using hk), hnone, lookup,
        List.find?_cons_of_pos (by simpa using hk)]
      rfl
    · rw [List.filter_cons_of_neg (by simpa using hk), ih hrest, lookup, lookup,
        List.find?_cons_of_neg (by simpa using hk)]

theorem eq_of_key_eq {key : Row → Key} {table : List Row} {a b : Row}
    (hkeys : (table.map key).Nodup) (ha : a ∈ table) (hb : b ∈ table) (h : key a = key b) :
    a = b := by
  have hla := lookup_of_mem hkeys ha
  rw [h, lookup_of_mem hkeys hb] at hla
  exact (Option.some.inj hla).symm

/-! ## Inserting -/

theorem insert_eq_some {clash : Row → Row → Bool} {row : Row} {table table' : List Row} :
    insert clash row table = some table' ↔
      (∀ other ∈ table, clash row other = false) ∧ table' = table ++ [row] := by
  simp only [insert]
  split_ifs with h
  · simp only [List.any_eq_true] at h
    obtain ⟨other, hmem, hclash⟩ := h
    refine ⟨fun h => by simp at h, fun h => ?_⟩
    simp [h.1 other hmem] at hclash
  · simp only [List.any_eq_true, not_exists, not_and, Bool.not_eq_true] at h
    simp only [Option.some.injEq, eq_comm (a := table ++ [row])]
    exact ⟨fun he => ⟨h, he⟩, fun he => he.2⟩

omit [DecidableEq Key] in
theorem nodup_append_singleton {key : Row → Key} {row : Row} {table : List Row}
    (hkeys : (table.map key).Nodup) (hnew : ∀ other ∈ table, key other ≠ key row) :
    ((table ++ [row]).map key).Nodup := by
  rw [List.map_append, List.map_singleton]
  refine List.Nodup.append hkeys (List.nodup_singleton _) ?_
  simp only [List.disjoint_singleton, List.mem_map, not_exists, not_and]
  exact hnew

theorem lookup_append_singleton (key : Row → Key) (k : Key) (table : List Row) (row : Row) :
    lookup key k (table ++ [row]) =
      (lookup key k table).or (if key row = k then some row else none) := by
  simp only [lookup, List.find?_append, List.find?_singleton]
  by_cases h : key row = k <;> simp [h]

/-! ## Updating -/

theorem mem_updateWhere {p : Row → Bool} {f : Row → Row} {table : List Row} {row : Row} :
    row ∈ updateWhere p f table ↔ ∃ old ∈ table, row = if p old then f old else old := by
  simp only [updateWhere, List.mem_map]
  exact ⟨fun ⟨old, hold, h⟩ => ⟨old, hold, h.symm⟩, fun ⟨old, hold, h⟩ => ⟨old, hold, h.symm⟩⟩

omit [DecidableEq Key] in
theorem map_updateWhere {key : Row → Key} {p : Row → Bool} {f : Row → Row} (table : List Row)
    (hkey : ∀ row, key (f row) = key row) :
    (updateWhere p f table).map key = table.map key := by
  simp only [updateWhere, List.map_map]
  refine List.map_congr_left fun row _ => ?_
  by_cases h : p row <;> simp [h, hkey]

omit [DecidableEq Key] in
theorem nodup_updateWhere {key : Row → Key} {p : Row → Bool} {f : Row → Row} {table : List Row}
    (hkey : ∀ row, key (f row) = key row) (hkeys : (table.map key).Nodup) :
    ((updateWhere p f table).map key).Nodup := by
  rwa [map_updateWhere table hkey]

omit [DecidableEq Key] in
theorem filter_updateWhere {p q : Row → Bool} {f : Row → Row} (table : List Row)
    (hq : ∀ row, q (f row) = q row) :
    (updateWhere p f table).filter q = updateWhere p f (table.filter q) := by
  have h : (q ∘ fun row => if p row then f row else row) = q := by
    funext row
    by_cases h : p row <;> simp [h, hq]
  rw [updateWhere, List.filter_map, h, updateWhere]

theorem lookup_updateWhere {key : Row → Key} {p : Row → Bool} {f : Row → Row} (k : Key)
    (table : List Row) (hkey : ∀ row, key (f row) = key row) :
    lookup key k (updateWhere p f table) =
      (lookup key k table).map fun row => if p row then f row else row := by
  have h : ((fun row => decide (key row = k)) ∘ fun row => if p row then f row else row) =
      fun row => decide (key row = k) := by
    funext row
    by_cases h : p row <;> simp [h, hkey]
  rw [lookup, updateWhere, List.find?_map, h, lookup]

/-- An update keeps the row of a key and the fields it does not write. -/
theorem lookup_updateWhere_field {Field : Type*} {key : Row → Key} {field : Row → Field}
    {p : Row → Bool} {f : Row → Row} (k : Key) (table : List Row)
    (hkey : ∀ row, key (f row) = key row) (hfield : ∀ row, field (f row) = field row) :
    (lookup key k (updateWhere p f table)).map field = (lookup key k table).map field := by
  rw [lookup_updateWhere k table hkey, Option.map_map]
  refine congrArg (Option.map · _) (funext fun row => ?_)
  by_cases h : p row <;> simp [h, hfield]

/-! ## Upserting -/

theorem mem_upsert {key : Row → Key} {row other : Row} {merge : Row → Row} {table : List Row}
    (h : other ∈ upsert key row merge table) :
    other = row ∨ (∃ old ∈ table, key old = key row ∧ other = merge old) ∨
      (other ∈ table ∧ key other ≠ key row) := by
  rw [upsert] at h
  split_ifs at h with hany
  · obtain ⟨old, hold, rfl⟩ := mem_updateWhere.mp h
    by_cases hk : key old = key row
    · exact .inr (.inl ⟨old, hold, hk, by simp [hk]⟩)
    · exact .inr (.inr ⟨by simpa [hk] using hold, by simp [hk]⟩)
  · rcases List.mem_append.mp h with h | h
    · refine .inr (.inr ⟨h, fun hk => hany ?_⟩)
      exact List.any_eq_true.mpr ⟨other, h, by simpa using hk⟩
    · exact .inl (by simpa using h)

theorem forall_upsert {key : Row → Key} {row : Row} {merge : Row → Row} {table : List Row}
    {P : Row → Prop} (hrow : P row) (hmerge : ∀ old ∈ table, P (merge old))
    (htable : ∀ old ∈ table, P old) : ∀ other ∈ upsert key row merge table, P other := by
  intro other hother
  rcases mem_upsert hother with rfl | ⟨old, hold, -, rfl⟩ | ⟨hold, -⟩
  · exact hrow
  · exact hmerge old hold
  · exact htable other hold

/-- An upsert adds its key. -/
theorem mem_keys_upsert {key : Row → Key} {row : Row} {merge : Row → Row} (k : Key)
    (table : List Row) (hkey : ∀ other, key (merge other) = key other) :
    k ∈ (upsert key row merge table).map key ↔ k ∈ table.map key ∨ k = key row := by
  rw [upsert]
  split_ifs with hany
  · rw [map_updateWhere table hkey]
    obtain ⟨old, hold, hk⟩ := List.any_eq_true.mp hany
    refine ⟨.inl, ?_⟩
    rintro (h | rfl)
    · exact h
    · exact List.mem_map.mpr ⟨old, hold, by simpa using hk⟩
  · simp

theorem lookup_upsert {key : Row → Key} {row : Row} {merge : Row → Row} (k : Key)
    (table : List Row) (hkey : ∀ other, key (merge other) = key other) :
    lookup key k (upsert key row merge table) =
      if k = key row then some (((lookup key k table).map merge).getD row)
      else lookup key k table := by
  rw [upsert]
  split_ifs with hany hk hk
  · subst hk
    rw [lookup_updateWhere _ table hkey]
    obtain ⟨old, hold, hkold⟩ := List.any_eq_true.mp hany
    have hsome : (lookup key (key row) table).isSome :=
      lookup_isSome.mpr ⟨old, hold, by simpa using hkold⟩
    obtain ⟨found, hfound⟩ := Option.isSome_iff_exists.mp hsome
    simp [hfound, lookup_key hfound]
  · rw [lookup_updateWhere k table hkey]
    cases hfound : lookup key k table with
    | none => rfl
    | some found => simp [lookup_key hfound, hk]
  · subst hk
    have hnone : lookup key (key row) table = none := by
      refine lookup_eq_none.mpr fun other hother hko => hany ?_
      exact List.any_eq_true.mpr ⟨other, hother, by simpa using hko⟩
    simp [lookup_append_singleton, hnone]
  · simp [lookup_append_singleton, Ne.symm hk]

theorem upsert_congr {key : Row → Key} {row : Row} {merge merge' : Row → Row} {table : List Row}
    (h : ∀ old ∈ table, key old = key row → merge old = merge' old) :
    upsert key row merge table = upsert key row merge' table := by
  rw [upsert, upsert]
  split_ifs
  · refine List.map_congr_left fun old hold => ?_
    by_cases hk : key old = key row <;> simp [hk, h old hold]
  · rfl

/-- After an upsert that leaves its row under its key. -/
theorem lookup_upsert_eq {key : Row → Key} {row : Row} {merge : Row → Row} {table : List Row}
    (k : Key) (hmerge : ∀ old ∈ table, key old = key row → merge old = row) :
    lookup key k (upsert key row merge table) =
      if k = key row then some row else lookup key k table := by
  have hsame : upsert key row merge table =
      upsert key row (fun old => if key old = key row then row else old) table := by
    refine upsert_congr fun old hold hk => ?_
    rw [hmerge old hold hk, if_pos hk]
  rw [hsame, lookup_upsert k table]
  · split_ifs with hk
    · cases hfound : lookup key k table with
      | none => rfl
      | some old => simp [(lookup_key hfound).trans hk]
    · rfl
  · intro other
    split_ifs with hk
    · exact hk.symm
    · rfl

theorem nodup_upsert {key : Row → Key} {row : Row} {merge : Row → Row} {table : List Row}
    (hkey : ∀ other, key (merge other) = key other) (hkeys : (table.map key).Nodup) :
    ((upsert key row merge table).map key).Nodup := by
  rw [upsert]
  split_ifs with hany
  · exact nodup_updateWhere hkey hkeys
  · refine nodup_append_singleton hkeys fun other hother hk => hany ?_
    exact List.any_eq_true.mpr ⟨other, hother, by simpa using hk⟩

end Quillframe.Table
