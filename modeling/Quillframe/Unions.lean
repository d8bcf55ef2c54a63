import Mathlib.Data.List.Destutter
import Mathlib.Data.List.Sort
import Quillframe.Blocks

/-!
# Unions by sorting

Lists are joined, sorted by a key and freed of repeats that stand next to each other. The result
has every item once and is the same for every order of the lists exactly when no two different
items of one key come from different lists or alternate within a list.
-/
namespace Quillframe

variable {α κ : Type*} [LinearOrder κ] {key : α → κ}

/-! ## Sorting by a key -/

section Sorting

variable {xs c : List α} {k : κ}

open Blocks

theorem sublist_block_iff (hc : ∀ x ∈ c, key x = k) : c.Sublist (block key k xs) ↔ c.Sublist xs := by
  constructor
  · intro h
    exact h.trans List.filter_sublist
  · intro h
    have hfilter : c.filter (fun x => key x = k) = c := by
      apply List.filter_eq_self.mpr
      intro x hx
      simpa using hc x hx
    rw [← hfilter]
    exact h.filter _

/-- A stable sort keeps the items of a key in their order. -/
theorem block_insertionSort (k : κ) (xs : List α) :
    block key k (xs.insertionSort fun a b => key a ≤ key b) = block key k xs := by
  have hkey : ∀ x ∈ block key k xs, key x = k := fun x hx => (mem_block.mp hx).2
  have hsorted : (block key k xs).Pairwise fun a b => key a ≤ key b := by
    apply List.pairwise_of_forall_mem_list
    intro a ha b hb
    rw [hkey a ha, hkey b hb]
  have hsub : (block key k xs).Sublist (xs.insertionSort fun a b => key a ≤ key b) :=
    List.sublist_insertionSort hsorted List.filter_sublist
  have hlength : (block key k (xs.insertionSort fun a b => key a ≤ key b)).length =
      (block key k xs).length := ((List.perm_insertionSort _ xs).filter _).length_eq
  exact (((sublist_block_iff hkey).mpr hsub).eq_of_length hlength.symm).symm

theorem sublist_insertionSort_iff (hc : ∀ x ∈ c, key x = k) :
    c.Sublist (xs.insertionSort fun a b => key a ≤ key b) ↔ c.Sublist xs := by
  rw [← sublist_block_iff hc, block_insertionSort, sublist_block_iff hc]

theorem le_of_pair_sublist (hsorted : xs.Pairwise fun a b => key a ≤ key b) {a b : α}
    (h : [a, b].Sublist xs) : key a ≤ key b := by
  simpa using hsorted.sublist h

end Sorting

/-! ## Dropping repeats -/

section Repeats

variable [DecidableEq α] {xs c : List α}

theorem sublist_destutter' {a : α} (hchain : c.IsChain (· ≠ ·)) (h : c.Sublist (a :: xs)) :
    c.Sublist (xs.destutter' (· ≠ ·) a) := by
  induction xs generalizing a c with
  | nil => simpa using h
  | cons b rest ih =>
    by_cases hab : a ≠ b
    · rw [List.destutter'_cons_pos _ hab]
      cases h with
      | cons _ h => exact (ih hchain h).cons a
      | cons_cons _ h => exact (ih hchain.tail h).cons_cons a
    · obtain rfl := not_not.mp hab
      rw [List.destutter'_cons_neg _ hab]
      cases h with
      | cons _ h => exact ih hchain h
      | cons_cons _ h =>
        cases h with
        | cons _ h => exact ih hchain (h.cons_cons a)
        | cons_cons _ h => simp at hchain

/-- What alternates stays when the repeats go. -/
theorem sublist_destutter (hchain : c.IsChain (· ≠ ·)) (h : c.Sublist xs) :
    c.Sublist (xs.destutter (· ≠ ·)) := by
  cases xs with
  | nil => exact h
  | cons a rest => exact sublist_destutter' hchain h

theorem mem_destutter {a : α} : a ∈ xs.destutter (· ≠ ·) ↔ a ∈ xs := by
  constructor
  · intro h
    exact (List.destutter_sublist _ _).subset h
  · intro h
    exact (sublist_destutter (List.isChain_singleton a) (List.singleton_sublist.mpr h)).subset
      (by simp)

omit [DecidableEq α] in
/-- Between two copies of an item in a list without neighbouring repeats stands another item. -/
theorem exists_between {a : α} (hchain : xs.IsChain (· ≠ ·)) (h : [a, a].Sublist xs) :
    ∃ b, a ≠ b ∧ [a, b, a].Sublist xs := by
  induction xs with
  | nil => cases h
  | cons x rest ih =>
    cases h with
    | cons _ h =>
      obtain ⟨b, hne, hsub⟩ := ih hchain.tail h
      exact ⟨b, hne, hsub.cons x⟩
    | cons_cons _ h =>
      cases rest with
      | nil => cases h
      | cons y rest =>
        have hne : a ≠ y := (List.isChain_cons_cons.mp hchain).1
        have hlater : a ∈ rest := by
          rcases List.mem_cons.mp (List.singleton_sublist.mp h) with he | hrest
          · exact absurd he hne
          · exact hrest
        exact ⟨y, hne, ((List.singleton_sublist.mpr hlater).cons_cons y).cons_cons a⟩

theorem nodup_destutter_iff :
    (xs.destutter (· ≠ ·)).Nodup ↔ ∀ a b, [a, b, a].Sublist xs → a = b := by
  constructor
  · intro h a b hsub
    by_contra hne
    have hstay : [a, b, a].Sublist (xs.destutter (· ≠ ·)) :=
      sublist_destutter (by simp [hne, Ne.symm hne]) hsub
    have hnodup := h.sublist hstay
    simp at hnodup
  · intro h
    rw [List.nodup_iff_sublist]
    intro a htwice
    obtain ⟨b, hne, hsub⟩ := exists_between (List.isChain_destutter _ xs) htwice
    exact hne (h a b (hsub.trans (List.destutter_sublist _ xs)))

end Repeats

/-! ## Unions -/

section Union

variable [DecidableEq α] {lists order : List (List α)}

/-- The lists joined, sorted by the key and freed of neighbouring repeats. -/
def union (key : α → κ) (lists : List (List α)) : List α :=
  (lists.flatten.insertionSort fun a b => key a ≤ key b).destutter (· ≠ ·)

/-- Different items of one key stand in one list, and none of them stands between two copies of
another. -/
def Together (key : α → κ) (lists : List (List α)) : Prop :=
  ∀ a ∈ lists.flatten, ∀ b ∈ lists.flatten, a ≠ b → key a = key b →
    ∃ front items back, lists = front ++ items :: back ∧
      (∀ other ∈ front ++ back, ∀ c ∈ other, key c ≠ key a) ∧ ¬ [a, b, a].Sublist items

theorem mem_union {a : α} : a ∈ union key lists ↔ ∃ items ∈ lists, a ∈ items := by
  rw [union, mem_destutter, List.mem_insertionSort, List.mem_flatten]

theorem pairwise_union : (union key lists).Pairwise fun a b => key a ≤ key b :=
  (List.pairwise_insertionSort _ _).sublist (List.destutter_sublist _ _)

/-- Different items of a key stand in the union as in the lists. -/
theorem pair_sublist_union {a b : α} (hne : a ≠ b) (hkey : key a = key b) :
    [a, b].Sublist (union key lists) ↔ [a, b].Sublist lists.flatten := by
  have hkeys : ∀ x ∈ [a, b], key x = key b := by simp [hkey]
  constructor
  · intro h
    exact (sublist_insertionSort_iff hkeys).mp (h.trans (List.destutter_sublist _ _))
  · intro h
    exact sublist_destutter (by simp [hne]) ((sublist_insertionSort_iff hkeys).mpr h)

theorem nodup_union_iff : (union key lists).Nodup ↔
    ∀ a b, key a = key b → [a, b, a].Sublist lists.flatten → a = b := by
  rw [union, nodup_destutter_iff]
  constructor
  · intro h a b hkey hsub
    apply h a b
    apply (sublist_insertionSort_iff (k := key a) _).mpr hsub
    simp [hkey]
  · intro h a b hsub
    have hsorted := List.pairwise_insertionSort (fun a b => key a ≤ key b) lists.flatten
    have hab : key a ≤ key b :=
      le_of_pair_sublist hsorted (.trans (by simp) hsub)
    have hba : key b ≤ key a :=
      le_of_pair_sublist hsorted (.trans (by simp) hsub)
    have hkey := le_antisymm hab hba
    apply h a b hkey
    apply (sublist_insertionSort_iff (k := key a) _).mp hsub
    simp [hkey]

omit [LinearOrder κ] [DecidableEq α] in
theorem not_both_orders {xs : List α} (hnodup : xs.Nodup) {a b : α} (hab : [a, b].Sublist xs)
    (hba : [b, a].Sublist xs) : False := by
  induction xs with
  | nil => cases hab
  | cons x rest ih =>
    obtain ⟨hx, hrest⟩ := List.nodup_cons.mp hnodup
    cases hab with
    | cons _ hab =>
      cases hba with
      | cons _ hba => exact ih hrest hab hba
      | cons_cons _ hba => exact hx (hab.subset (by simp))
    | cons_cons _ hab =>
      cases hba with
      | cons _ hba => exact hx (hba.subset (by simp))
      | cons_cons _ hba => exact hx (hba.subset (by simp))

omit [DecidableEq α] in
theorem block_of_notMem {k : κ} {xs : List α} (h : ∀ x ∈ xs, key x ≠ k) :
    Blocks.block key k xs = [] := by
  apply List.filter_eq_nil_iff.mpr
  intro x hx
  simpa using h x hx

omit [DecidableEq α] in
/-- What has a key that only one list has is in that list. -/
theorem sublist_of_together {front back : List (List α)} {items c : List α} {k : κ}
    (hothers : ∀ other ∈ front ++ back, ∀ x ∈ other, key x ≠ k) (hc : ∀ x ∈ c, key x = k)
    (h : c.Sublist (front ++ items :: back).flatten) : c.Sublist items := by
  rw [← sublist_block_iff hc] at h ⊢
  have hnone : ∀ more : List (List α), (∀ other ∈ more, other ∈ front ++ back) →
      Blocks.block key k more.flatten = [] := by
    intro more hmore
    apply block_of_notMem
    intro x hx
    obtain ⟨other, hother, hx⟩ := List.mem_flatten.mp hx
    exact hothers other (hmore other hother) x hx
  rw [List.flatten_append, List.flatten_cons, Blocks.block_append, Blocks.block_append,
    hnone front (fun other hother => List.mem_append_left _ hother),
    hnone back (fun other hother => List.mem_append_right _ hother)] at h
  simpa using h

omit [LinearOrder κ] [DecidableEq α] in
theorem Together.perm (h : Together key lists) (hperm : order.Perm lists) :
    Together key order := by
  intro a ha b hb hne hkey
  have hflatten := hperm.flatten
  obtain ⟨front, items, back, hsplit, hothers, hapart⟩ :=
    h a (hflatten.mem_iff.mp ha) b (hflatten.mem_iff.mp hb) hne hkey
  have hitems : items ∈ order := hperm.mem_iff.mpr (by simp [hsplit])
  obtain ⟨front', back', hsplit'⟩ := List.append_of_mem hitems
  refine ⟨front', items, back', hsplit', ?_, hapart⟩
  have hrest : (items :: (front' ++ back')).Perm (items :: (front ++ back)) := by
    rw [hsplit, hsplit'] at hperm
    exact (List.perm_middle.symm.trans hperm).trans List.perm_middle
  intro other hother
  exact hothers other (hrest.cons_inv.mem_iff.mp hother)

theorem Together.nodup (h : Together key lists) : (union key lists).Nodup := by
  apply nodup_union_iff.mpr
  intro a b hkey hsub
  by_contra hne
  obtain ⟨front, items, back, rfl, hothers, hapart⟩ :=
    h a (hsub.subset (by simp)) b (hsub.subset (by simp)) hne hkey
  exact hapart (sublist_of_together hothers (by simp [hkey]) hsub)

theorem Together.union_perm (h : Together key lists) (hperm : order.Perm lists) :
    union key order = union key lists := by
  have horder := (h.perm hperm).nodup
  have hmem : ∀ a, a ∈ union key order ↔ a ∈ union key lists := by
    intro a
    rw [mem_union, mem_union]
    simp [hperm.mem_iff]
  -- the order of the second union: by key, then as they stand there
  let S : α → α → Prop := fun a b =>
    key a < key b ∨ key a = key b ∧ [a, b].Sublist (union key lists)
  have hlists : (union key lists).Pairwise S := by
    apply List.pairwise_of_forall_sublist
    intro a b hsub
    rcases (le_of_pair_sublist pairwise_union hsub).lt_or_eq with hlt | heq
    · exact .inl hlt
    · exact .inr ⟨heq, hsub⟩
  have hsame : (union key order).Pairwise S := by
    apply List.pairwise_of_forall_sublist
    intro a b hsub
    rcases (le_of_pair_sublist pairwise_union hsub).lt_or_eq with hlt | heq
    · exact .inl hlt
    · have hne : a ≠ b := by
        have hpair := horder.sublist hsub
        simpa using hpair
      have hjoined := (pair_sublist_union hne heq).mp hsub
      obtain ⟨front, items, back, hsplit, hothers, -⟩ :=
        h.perm hperm a (hjoined.subset (by simp)) b (hjoined.subset (by simp)) hne heq
      rw [hsplit] at hjoined
      have hitems : items ∈ lists := hperm.mem_iff.mp (by simp [hsplit])
      have hwithin := sublist_of_together hothers (by simp [heq]) hjoined
      have hall := hwithin.trans (List.sublist_flatten_of_mem hitems)
      exact .inr ⟨heq, (pair_sublist_union hne heq).mpr hall⟩
  apply ((List.perm_ext_iff_of_nodup horder h.nodup).mpr hmem).eq_of_pairwise _ hsame hlists
  intro a b _ _ hab hba
  exfalso
  rcases hab with hlt | ⟨hkey, hab⟩
  · rcases hba with hlt' | ⟨hkey, -⟩
    · exact absurd hlt' hlt.not_gt
    · exact absurd hkey.symm hlt.ne
  · rcases hba with hlt | ⟨-, hba⟩
    · exact absurd hkey.symm hlt.ne
    · exact not_both_orders h.nodup hab hba

/-- Items of one key that stand in two lists are equal where the order of the lists is without
effect. -/
theorem eq_of_union_perm {rest : List (List α)} {first second : List α}
    (hsame : union key (first :: second :: rest) = union key (second :: first :: rest))
    (hnodup : (union key (first :: second :: rest)).Nodup) {a b : α} (ha : a ∈ first)
    (hb : b ∈ second) (hkey : key a = key b) : a = b := by
  by_contra hne
  have hpair : ∀ {x y : α} {xs ys : List α}, x ∈ xs → y ∈ ys →
      [x, y].Sublist (xs :: ys :: rest).flatten := by
    intro x y xs ys hx hy
    rw [List.flatten_cons, List.flatten_cons, ← List.append_assoc]
    have hboth := (List.singleton_sublist.mpr hx).append (List.singleton_sublist.mpr hy)
    exact hboth.trans (List.sublist_append_left _ _)
  have hforward := (pair_sublist_union hne hkey).mpr (hpair ha hb)
  have hback := (pair_sublist_union (Ne.symm hne) hkey.symm).mpr (hpair hb ha)
  rw [← hsame] at hback
  exact not_both_orders hnodup hforward hback

theorem together_of_union_perm
    (hsame : ∀ order, order.Perm lists → union key order = union key lists)
    (hnodup : (union key lists).Nodup) : Together key lists := by
  have heq : ∀ first second rest, (first :: second :: rest).Perm lists → ∀ a ∈ first,
      ∀ b ∈ second, key a = key b → a = b := by
    intro first second rest hperm a ha b hb hkey
    have hunion := hsame _ hperm
    apply eq_of_union_perm _ (hunion ▸ hnodup) ha hb hkey
    rw [hunion, hsame _ ((List.Perm.swap first second rest).trans hperm)]
  intro a ha b hb hne hkey
  obtain ⟨items, hitems, haitems⟩ := List.mem_flatten.mp ha
  obtain ⟨front, back, rfl⟩ := List.append_of_mem hitems
  -- a list beside the one of `a` has nothing of the key but `a`
  have hbeside : ∀ other ∈ front ++ back, ∀ c ∈ other, ∀ x ∈ items, key x = key c → x = c := by
    intro other hother c hc x hx hkey
    obtain ⟨before, after, hsplit⟩ := List.append_of_mem hother
    have hperm : (items :: other :: (before ++ after)).Perm (front ++ items :: back) := by
      apply List.Perm.trans _ List.perm_middle.symm
      rw [hsplit]
      exact List.perm_middle.symm.cons items
    exact heq items other _ hperm x hx c hc hkey
  have hbitems : b ∈ items := by
    obtain ⟨other, hother, hbother⟩ := List.mem_flatten.mp hb
    rcases List.mem_append.mp hother with hfront | hmiddle
    · exact absurd (hbeside other (List.mem_append_left _ hfront) b hbother a haitems hkey) hne
    · rcases List.mem_cons.mp hmiddle with rfl | hback
      · exact hbother
      · exact absurd (hbeside other (List.mem_append_right _ hback) b hbother a haitems hkey) hne
  refine ⟨front, items, back, rfl, ?_, ?_⟩
  · intro other hother c hc hkeyc
    have hac := hbeside other hother c hc a haitems hkeyc.symm
    have hbc := hbeside other hother c hc b hbitems (hkey.symm.trans hkeyc.symm)
    exact hne (hac.trans hbc.symm)
  · intro hsub
    have hitemssub := hsub.trans (List.sublist_flatten_of_mem hitems)
    exact hne (nodup_union_iff.mp hnodup a b hkey hitemssub)

end Union

end Quillframe
