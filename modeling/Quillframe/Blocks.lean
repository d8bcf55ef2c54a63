import Mathlib.Tactic

/-! Lists in blocks: a list whose keys never decrease is the concatenation of the blocks of its
keys, and what stands between two items of a block belongs to the block. -/
namespace Quillframe.Blocks

variable {α κ : Type*} [LinearOrder κ] {key : α → κ}

/-- The items of a key, in order. -/
@[grind =] def block (key : α → κ) (k : κ) (xs : List α) : List α := xs.filter fun x => key x = k

theorem mem_block {k : κ} {xs : List α} {x : α} : x ∈ block key k xs ↔ x ∈ xs ∧ key x = k := by
  simp [block]

theorem block_append (k : κ) (xs ys : List α) :
    block key k (xs ++ ys) = block key k xs ++ block key k ys :=
  List.filter_append xs ys

/-- Items that come before all others of a list can be cut off. -/
theorem filter_append_filter_not {p : α → Bool} {xs : List α}
    (h : xs.Pairwise fun a b => p b = true → p a = true) :
    xs.filter p ++ xs.filter (fun x => !p x) = xs := by
  induction xs with
  | nil => rfl
  | cons x rest ih =>
    obtain ⟨hx, hrest⟩ := List.pairwise_cons.mp h
    by_cases hp : p x = true
    · simp [hp, ih hrest]
    · have hnone : rest.filter p = [] := by
        apply List.filter_eq_nil_iff.mpr
        intro y hy hpy
        exact hp (hx y hy hpy)
      have htail := ih hrest
      rw [hnone, List.nil_append] at htail
      simp [hp, hnone, htail]

/-- The blocks of a sorted list make the list. -/
theorem flatten_blocks {xs : List α} {keys : List κ}
    (hsorted : xs.Pairwise fun a b => key a ≤ key b) (hkeys : keys.Pairwise (· < ·))
    (hmem : ∀ x ∈ xs, key x ∈ keys) : (keys.map fun k => block key k xs).flatten = xs := by
  induction keys generalizing xs with
  | nil =>
    cases xs with
    | nil => rfl
    | cons x rest => simpa using hmem x List.mem_cons_self
  | cons k rest ih =>
    obtain ⟨hk, hrest⟩ := List.pairwise_cons.mp hkeys
    have hlow : ∀ x ∈ xs, k ≤ key x := by
      intro x hx
      rcases List.mem_cons.mp (hmem x hx) with he | hlater
      · exact he.ge
      · exact (hk _ hlater).le
    set behind := xs.filter fun x => !decide (key x = k) with hbehind
    have hcut : block key k xs ++ behind = xs := by
      apply filter_append_filter_not
      apply hsorted.imp_of_mem
      intro a b ha _ hab hb
      simp only [decide_eq_true_eq] at hb ⊢
      exact le_antisymm (hb ▸ hab) (hlow a ha)
    have hothers : ∀ l ∈ rest, block key l xs = block key l behind := by
      intro l hl
      rw [hbehind, block, block, List.filter_filter]
      apply List.filter_congr
      intro x _
      have hne : l ≠ k := (hk l hl).ne'
      by_cases hx : key x = l <;> simp [hx, hne]
    have hlater : ∀ x ∈ behind, key x ∈ rest := by
      intro x hx
      obtain ⟨hx, hne⟩ := List.mem_filter.mp hx
      have hkey := hmem x hx
      have hother : key x ≠ k := by simpa using hne
      simpa [hother] using hkey
    have htail : (rest.map fun k => block key k behind).flatten = behind :=
      ih (hsorted.filter _) hrest hlater
    rw [List.map_cons, List.flatten_cons, List.map_congr_left hothers, htail, hcut]

/-- The item behind an item of a block that is not the block's last is in the block. -/
theorem next_of_block {xs front rest : List α} {x : α}
    (hsorted : xs.Pairwise fun a b => key a ≤ key b) (hsplit : xs = front ++ x :: rest)
    (hmore : block key (key x) rest ≠ []) : ∃ y more, rest = y :: more ∧ key y = key x := by
  rw [hsplit] at hsorted
  obtain ⟨hx, hrest⟩ := List.pairwise_cons.mp (List.pairwise_append.mp hsorted).2.1
  obtain ⟨z, hz⟩ := List.exists_mem_of_ne_nil _ hmore
  obtain ⟨hz, hkey⟩ := mem_block.mp hz
  cases rest with
  | nil => cases hz
  | cons y more =>
    refine ⟨y, more, rfl, le_antisymm ?_ (hx y List.mem_cons_self)⟩
    rcases List.mem_cons.mp hz with he | hlater
    · rw [← he, hkey]
    · rw [← hkey]
      exact (List.pairwise_cons.mp hrest).1 z hlater

/-- The pairs of an item and the one right behind it. -/
@[grind =] def neighbours (xs : List α) : List (α × α) := xs.zip xs.tail

theorem mem_neighbours {xs : List α} {x y : α} :
    (x, y) ∈ neighbours xs ↔ ∃ front rest, xs = front ++ x :: y :: rest := by
  induction xs with
  | nil => simp [neighbours]
  | cons z rest ih =>
    cases rest with
    | nil =>
      have hshort : ∀ front behind, [z] ≠ front ++ x :: y :: behind := by
        intro front behind he
        have hlength := congrArg List.length he
        simp at hlength
        omega
      simpa [neighbours] using hshort
    | cons w more =>
      have hcons : neighbours (z :: w :: more) = (z, w) :: neighbours (w :: more) := rfl
      rw [hcons, List.mem_cons, ih]
      constructor
      · intro h
        rcases h with hhead | ⟨front, behind, hrest⟩
        · obtain ⟨rfl, rfl⟩ := Prod.mk.inj hhead
          exact ⟨[], more, rfl⟩
        · exact ⟨z :: front, behind, by rw [hrest, List.cons_append]⟩
      · intro h
        obtain ⟨front, behind, hsplit⟩ := h
        cases front with
        | nil =>
          simp only [List.nil_append, List.cons.injEq] at hsplit
          exact .inl (by rw [hsplit.1, hsplit.2.1])
        | cons _ front =>
          simp only [List.cons_append, List.cons.injEq] at hsplit
          exact .inr ⟨front, behind, hsplit.2⟩

end Quillframe.Blocks
