import Mathlib.Order.Basic
import Mathlib.Data.List.Basic
import Mathlib.Tactic

/-! Finite maps kept as strictly increasing association lists, so that iterating over a map
visits its keys in order. An `OrderedSet` is a map to the unit type. -/
namespace Quillframe

structure OrderedMap (K V : Type) [LinearOrder K] where
  entries : List (K × V)
  sorted : entries.Pairwise fun a b => a.1 < b.1

namespace OrderedMap

variable {K V : Type} [LinearOrder K]

@[ext] theorem ext {m n : OrderedMap K V} (h : m.entries = n.entries) : m = n := by
  cases m
  cases n
  simp_all

instance [DecidableEq V] : DecidableEq (OrderedMap K V) := fun m n =>
  decidable_of_iff (m.entries = n.entries) ⟨ext, fun h => h ▸ rfl⟩

def empty : OrderedMap K V := ⟨[], List.Pairwise.nil⟩

instance : Inhabited (OrderedMap K V) := ⟨empty⟩

@[grind =] def get? (m : OrderedMap K V) (k : K) : Option V :=
  (m.entries.find? fun entry => entry.1 = k).map Prod.snd

@[grind =] def keys (m : OrderedMap K V) : List K := m.entries.map Prod.fst

def values (m : OrderedMap K V) : List V := m.entries.map Prod.snd

instance : Membership K (OrderedMap K V) := ⟨fun m k => k ∈ m.keys⟩

instance (k : K) (m : OrderedMap K V) : Decidable (k ∈ m) :=
  inferInstanceAs (Decidable (k ∈ m.keys))

theorem mem_iff {k : K} {m : OrderedMap K V} : k ∈ m ↔ k ∈ m.keys := Iff.rfl

@[grind =] def insertEntry (k : K) (v : V) : List (K × V) → List (K × V)
  | [] => [(k, v)]
  | (l, w) :: rest =>
    if k < l then (k, v) :: (l, w) :: rest
    else if k = l then (k, v) :: rest
    else (l, w) :: insertEntry k v rest

theorem mem_insertEntry {k : K} {v : V} {entries : List (K × V)} {entry : K × V}
    (h : entry ∈ insertEntry k v entries) : entry = (k, v) ∨ entry ∈ entries := by
  induction entries with
  | nil => simpa [insertEntry] using h
  | cons head rest ih =>
    obtain ⟨l, w⟩ := head
    rw [insertEntry] at h
    split_ifs at h
    · simpa using h
    · rcases List.mem_cons.mp h with h | h
      · exact .inl h
      · exact .inr (List.mem_cons_of_mem _ h)
    · rcases List.mem_cons.mp h with h | h
      · exact .inr (h ▸ List.mem_cons_self)
      · exact (ih h).imp id (List.mem_cons_of_mem _)

theorem sorted_insertEntry (k : K) (v : V) (entries : List (K × V))
    (sorted : entries.Pairwise fun a b => a.1 < b.1) :
    (insertEntry k v entries).Pairwise fun a b => a.1 < b.1 := by
  induction entries with
  | nil => simp [insertEntry]
  | cons head rest ih =>
    obtain ⟨l, w⟩ := head
    obtain ⟨hl, hrest⟩ := List.pairwise_cons.mp sorted
    rw [insertEntry]
    split_ifs with hlt heq
    · refine List.pairwise_cons.mpr ⟨fun entry h => ?_, sorted⟩
      rcases List.mem_cons.mp h with rfl | h
      · exact hlt
      · exact hlt.trans (hl entry h)
    · exact List.pairwise_cons.mpr ⟨fun entry h => heq ▸ hl entry h, hrest⟩
    · have hkl : l < k := lt_of_le_of_ne (not_lt.mp hlt) (Ne.symm heq)
      refine List.pairwise_cons.mpr ⟨fun entry h => ?_, ih hrest⟩
      rcases mem_insertEntry h with rfl | h
      · exact hkl
      · exact hl entry h

@[grind =] def insert (m : OrderedMap K V) (k : K) (v : V) : OrderedMap K V :=
  ⟨insertEntry k v m.entries, sorted_insertEntry k v m.entries m.sorted⟩

@[grind =] def erase (m : OrderedMap K V) (k : K) : OrderedMap K V :=
  ⟨m.entries.filter fun entry => entry.1 ≠ k, m.sorted.filter _⟩

/-- Later pairs replace earlier ones. -/
@[grind =] def insertMany (m : OrderedMap K V) (pairs : List (K × V)) : OrderedMap K V :=
  pairs.foldl (fun m pair => m.insert pair.1 pair.2) m

def ofList (pairs : List (K × V)) : OrderedMap K V := empty.insertMany pairs

@[simp] theorem get?_empty (k : K) : (empty : OrderedMap K V).get? k = none := rfl

@[simp] theorem not_mem_empty (k : K) : k ∉ (empty : OrderedMap K V) := by
  simp [mem_iff, keys, empty]

private theorem find?_insertEntry_self (k : K) (v : V) (entries : List (K × V)) :
    (insertEntry k v entries).find? (fun entry => entry.1 = k) = some (k, v) := by
  induction entries with
  | nil => simp [insertEntry]
  | cons head rest ih =>
    obtain ⟨l, w⟩ := head
    rw [insertEntry]
    split_ifs with hlt heq
    · simp
    · simp
    · rw [List.find?_cons_of_neg (by simpa using Ne.symm heq), ih]

private theorem find?_insertEntry_of_ne {k l : K} (h : l ≠ k) (v : V) (entries : List (K × V)) :
    (insertEntry k v entries).find? (fun entry => entry.1 = l) =
      entries.find? fun entry => entry.1 = l := by
  induction entries with
  | nil => simp [insertEntry, Ne.symm h]
  | cons head rest ih =>
    obtain ⟨j, w⟩ := head
    rw [insertEntry]
    split_ifs with hlt heq
    · simp [List.find?_cons_of_neg, Ne.symm h]
    · simp [List.find?_cons_of_neg, Ne.symm h, ← heq]
    · simp only [List.find?_cons, ih]

@[simp] theorem get?_insert_self (m : OrderedMap K V) (k : K) (v : V) :
    (m.insert k v).get? k = some v := by
  simp [get?, insert, find?_insertEntry_self]

theorem get?_insert_of_ne (m : OrderedMap K V) {k l : K} (h : l ≠ k) (v : V) :
    (m.insert k v).get? l = m.get? l := by
  simp [get?, insert, find?_insertEntry_of_ne h]

theorem mem_iff_get? {k : K} {m : OrderedMap K V} : k ∈ m ↔ (m.get? k).isSome := by
  simp [mem_iff, keys, get?]

@[simp] theorem mem_insert {m : OrderedMap K V} {k l : K} {v : V} :
    l ∈ m.insert k v ↔ l = k ∨ l ∈ m := by
  by_cases h : l = k
  · simp [h, mem_iff_get?]
  · simp [h, mem_iff_get?, get?_insert_of_ne]

@[simp] theorem mem_erase {m : OrderedMap K V} {k l : K} :
    l ∈ m.erase k ↔ l ≠ k ∧ l ∈ m := by
  simp only [mem_iff, keys, erase, List.mem_map, List.mem_filter, decide_eq_true_eq]
  constructor
  · rintro ⟨entry, ⟨h, hne⟩, rfl⟩
    exact ⟨hne, entry, h, rfl⟩
  · rintro ⟨hne, entry, h, rfl⟩
    exact ⟨entry, ⟨h, hne⟩, rfl⟩

@[simp] theorem get?_erase_self (m : OrderedMap K V) (k : K) : (m.erase k).get? k = none := by
  simp [get?, erase, List.find?_filter]

theorem get?_erase_of_ne (m : OrderedMap K V) {k l : K} (h : l ≠ k) :
    (m.erase k).get? l = m.get? l := by
  rw [get?, get?, erase, List.find?_filter]
  refine congrArg (Option.map Prod.snd) (List.find?_congr fun entry _ => ?_)
  by_cases hl : entry.1 = l <;> simp [hl, h]

theorem nodup_keys (m : OrderedMap K V) : m.keys.Nodup :=
  List.pairwise_map.mpr (m.sorted.imp fun h => h.ne)

theorem mem_entries {m : OrderedMap K V} {k : K} {v : V} :
    (k, v) ∈ m.entries ↔ m.get? k = some v := by
  rw [get?, Option.map_eq_some_iff]
  constructor
  · intro hmem
    cases hfind : m.entries.find? fun entry => entry.1 = k with
    | none => exact absurd (List.find?_eq_none.mp hfind (k, v) hmem) (by simp)
    | some entry =>
      have hkey : entry.1 = k := by simpa using List.find?_some hfind
      have hsame := List.inj_on_of_nodup_map m.nodup_keys (List.mem_of_find?_eq_some hfind) hmem hkey
      exact ⟨entry, rfl, congrArg Prod.snd hsame⟩
  · rintro ⟨entry, hfind, rfl⟩
    have hkey : entry.1 = k := by simpa using List.find?_some hfind
    exact hkey ▸ List.mem_of_find?_eq_some hfind

theorem insertEntry_of_mem {k : K} {v : V} {entries : List (K × V)}
    (sorted : entries.Pairwise fun a b => a.1 < b.1) (h : (k, v) ∈ entries) :
    insertEntry k v entries = entries := by
  induction entries with
  | nil => cases h
  | cons head rest ih =>
    obtain ⟨l, w⟩ := head
    obtain ⟨hl, hrest⟩ := List.pairwise_cons.mp sorted
    rcases List.mem_cons.mp h with he | h
    · obtain ⟨rfl, rfl⟩ := Prod.mk.inj he
      simp [insertEntry]
    · have hlt : l < k := hl (k, v) h
      rw [insertEntry, if_neg hlt.not_gt, if_neg hlt.ne', ih hrest h]

/-- Writing what is there changes nothing. -/
theorem insert_of_get? {m : OrderedMap K V} {k : K} {v : V} (h : m.get? k = some v) :
    m.insert k v = m :=
  ext (insertEntry_of_mem m.sorted (mem_entries.mpr h))

theorem get?_eraseAll (entries : List (K × V)) (m : OrderedMap K V) (k : K) :
    (entries.foldl (fun left entry => left.erase entry.1) m).get? k =
      if k ∈ entries.map Prod.fst then none else m.get? k := by
  induction entries generalizing m with
  | nil => simp
  | cons entry rest ih =>
    rw [List.foldl_cons, ih]
    by_cases hk : k = entry.1
    · simp [hk]
    · simp only [get?_erase_of_ne m hk, List.map_cons, List.mem_cons, hk, false_or]

theorem nodup_entries (m : OrderedMap K V) : m.entries.Nodup :=
  List.Nodup.of_map Prod.fst m.nodup_keys

/-- Maps with the same values are the same. -/
theorem ext_get? {m n : OrderedMap K V} (h : ∀ k, m.get? k = n.get? k) : m = n := by
  have hperm : m.entries.Perm n.entries :=
    (List.perm_ext_iff_of_nodup m.nodup_entries n.nodup_entries).mpr fun ⟨k, v⟩ => by
      rw [mem_entries, mem_entries, h k]
  exact ext (hperm.eq_of_pairwise (fun a b _ _ hab hba => absurd hab hba.not_gt) m.sorted n.sorted)

theorem erase_of_get?_none {m : OrderedMap K V} {k : K} (h : m.get? k = none) :
    m.erase k = m := by
  refine ext_get? fun l => ?_
  by_cases hl : l = k
  · rw [hl, get?_erase_self, h]
  · rw [get?_erase_of_ne _ hl]

/-- An entry that was taken out is put back. -/
theorem insert_erase {m : OrderedMap K V} {k : K} {v : V} (h : m.get? k = some v) :
    (m.erase k).insert k v = m := by
  refine ext_get? fun l => ?_
  by_cases hl : l = k
  · rw [hl, get?_insert_self, h]
  · rw [get?_insert_of_ne _ hl, get?_erase_of_ne _ hl]

theorem erase_insert_self (m : OrderedMap K V) (k : K) (v : V) :
    (m.insert k v).erase k = m.erase k := by
  refine ext_get? fun l => ?_
  by_cases hl : l = k
  · simp [hl]
  · rw [get?_erase_of_ne _ hl, get?_insert_of_ne _ hl, get?_erase_of_ne _ hl]

/-- A list of distinct entries of a map is no longer than the map. -/
theorem length_le_of_mem {m : OrderedMap K V} {entries : List (K × V)} (hnodup : entries.Nodup)
    (h : ∀ entry ∈ entries, entry ∈ m.entries) : entries.length ≤ m.entries.length :=
  (hnodup.subperm h).length_le

theorem length_insertEntry_le (k : K) (v : V) (entries : List (K × V)) :
    (insertEntry k v entries).length ≤ entries.length + 1 := by
  induction entries with
  | nil => simp [insertEntry]
  | cons head rest ih =>
    obtain ⟨l, w⟩ := head
    rw [insertEntry]
    split_ifs
    · simp
    · simp
    · simpa using ih

/-- Replacing a value adds no entry. -/
theorem length_insert_of_get? {m : OrderedMap K V} {k : K} {v w : V} (h : m.get? k = some w) :
    (m.insert k v).entries.length ≤ m.entries.length := by
  have hkeys : (m.insert k v).keys ⊆ m.keys := fun l hl => by
    rcases mem_insert.mp (mem_iff.mpr hl) with rfl | hl
    · exact mem_iff.mp (mem_iff_get?.mpr (by simp [h]))
    · exact mem_iff.mp hl
  have hle := ((m.insert k v).nodup_keys.subperm hkeys).length_le
  simpa [keys] using hle

theorem length_eraseAll {m : OrderedMap K V} {entries : List (K × V)} (hnodup : entries.Nodup)
    (h : ∀ entry ∈ entries, entry ∈ m.entries) :
    (entries.foldl (fun left entry => left.erase entry.1) m).entries.length + entries.length ≤
      m.entries.length := by
  set left := entries.foldl (fun left entry => left.erase entry.1) m with hleft
  have hkept : ∀ entry ∈ left.entries, entry.1 ∉ entries.map Prod.fst ∧ entry ∈ m.entries := by
    rintro ⟨k, v⟩ hentry
    rw [mem_entries, hleft, get?_eraseAll] at hentry
    split_ifs at hentry with hk
    exact ⟨hk, mem_entries.mpr hentry⟩
  have hdisjoint : List.Disjoint left.entries entries := fun entry hentry hremoved =>
    (hkept entry hentry).1 (List.mem_map_of_mem hremoved)
  have hall := length_le_of_mem (m := m) (left.nodup_entries.append hnodup hdisjoint)
    fun entry hentry => (List.mem_append.mp hentry).elim (fun he => (hkept entry he).2) (h entry)
  rwa [List.length_append] at hall

theorem mem_insertMany {m : OrderedMap K V} {pairs : List (K × V)} {l : K} :
    l ∈ m.insertMany pairs ↔ l ∈ pairs.map Prod.fst ∨ l ∈ m := by
  induction pairs generalizing m with
  | nil => simp [insertMany]
  | cons pair rest ih =>
    have h : m.insertMany (pair :: rest) = (m.insert pair.1 pair.2).insertMany rest := rfl
    rw [h, ih, mem_insert, List.map_cons, List.mem_cons]
    tauto

private theorem insertEntry_of_lt {k : K} {v : V} {entries : List (K × V)}
    (h : ∀ entry ∈ entries, entry.1 < k) : insertEntry k v entries = entries ++ [(k, v)] := by
  induction entries with
  | nil => rfl
  | cons head rest ih =>
    obtain ⟨l, w⟩ := head
    have hl : l < k := h (l, w) List.mem_cons_self
    rw [insertEntry, if_neg hl.not_gt, if_neg hl.ne',
      ih fun entry hentry => h entry (List.mem_cons_of_mem _ hentry)]
    rfl

theorem entries_insertMany {m : OrderedMap K V} {pairs : List (K × V)}
    (h : (m.entries ++ pairs).Pairwise fun a b => a.1 < b.1) :
    (m.insertMany pairs).entries = m.entries ++ pairs := by
  induction pairs generalizing m with
  | nil => simp [insertMany]
  | cons pair rest ih =>
    have hlast : (m.insert pair.1 pair.2).entries = m.entries ++ [pair] :=
      insertEntry_of_lt fun entry hentry =>
        (List.pairwise_append.mp h).2.2 entry hentry pair List.mem_cons_self
    have hrest := ih (m := m.insert pair.1 pair.2) (by rw [hlast]; simpa using h)
    rw [hlast] at hrest
    simpa [insertMany] using hrest

/-- A map is rebuilt from its entries. -/
@[simp] theorem ofList_entries (m : OrderedMap K V) : ofList m.entries = m := by
  have hsorted : ((empty : OrderedMap K V).entries ++ m.entries).Pairwise
      fun a b => a.1 < b.1 := m.sorted
  exact ext (entries_insertMany hsorted)

end OrderedMap

abbrev OrderedSet (K : Type) [LinearOrder K] := OrderedMap K Unit

namespace OrderedSet

variable {K : Type} [LinearOrder K]

def insertAll (s : OrderedSet K) (elements : List K) : OrderedSet K :=
  s.insertMany (elements.map fun k => (k, ()))

@[simp] theorem mem_insertAll {s : OrderedSet K} {elements : List K} {l : K} :
    l ∈ s.insertAll elements ↔ l ∈ elements ∨ l ∈ s := by
  simp [insertAll, OrderedMap.mem_insertMany, Function.comp_def]

@[simp] theorem ofList_keys (s : OrderedSet K) :
    (OrderedMap.ofList (s.keys.map fun k => (k, ())) : OrderedSet K) = s := by
  have hentries : (s.keys.map fun k => (k, ())) = s.entries := by
    simp [OrderedMap.keys, Function.comp_def]
  rw [hentries]
  exact OrderedMap.ofList_entries s

end OrderedSet

end Quillframe
