import Mathlib.Tactic

/-!
# Farthest-first lists

The greatest item of a list under a comparison that can fail, and lists whose items, but for the
first, each have the greatest distance to the nearest item in front, the least name deciding
between several. A pool has at most one such list of a length with a first item.
-/
namespace Quillframe

/-! ## The greatest item -/

section Greatest

variable {α β : Type*} [LinearOrder β] {key : α → β} {compare : α → α → Option Ordering}

/-- The last of the greatest items; a comparison that fails ends the search. -/
@[grind =] def maxBy (compare : α → α → Option Ordering) : List α → Option α
  | [] => none
  | x :: rest => rest.foldlM
      (fun best y => (compare best y).map fun order => if order = .gt then best else y) x

theorem maxBy_eq_some {xs : List α} (hne : xs ≠ [])
    (hcompare : ∀ a ∈ xs, ∀ b ∈ xs, ∃ order,
      compare a b = some order ∧ (order = .gt ↔ key b < key a)) :
    ∃ m ∈ xs, maxBy compare xs = some m ∧ ∀ y ∈ xs, key y ≤ key m := by
  cases xs with
  | nil => exact absurd rfl hne
  | cons x rest =>
    clear hne
    induction rest generalizing x with
    | nil => exact ⟨x, by simp, rfl, by simp⟩
    | cons y rest ih =>
      obtain ⟨order, horder, hgreater⟩ := hcompare x (by simp) y (by simp)
      -- the fold goes on with the greater of the two
      by_cases hlt : key y < key x
      · obtain ⟨m, hm, hfold, hmax⟩ := ih x fun a ha b hb =>
          hcompare a (by simp at ha ⊢; tauto) b (by simp at hb ⊢; tauto)
        refine ⟨m, by simp at hm ⊢; tauto, ?_, ?_⟩
        · have hkeep : order = .gt := hgreater.mpr hlt
          simpa [maxBy, horder, hkeep] using hfold
        · have hx := hmax x (by simp)
          simp only [List.mem_cons, forall_eq_or_imp] at hmax ⊢
          exact ⟨hx, hlt.le.trans hx, hmax.2⟩
      · obtain ⟨m, hm, hfold, hmax⟩ := ih y fun a ha b hb =>
          hcompare a (by simp at ha ⊢; tauto) b (by simp at hb ⊢; tauto)
        refine ⟨m, by simp at hm ⊢; tauto, ?_, ?_⟩
        · have htake : order ≠ .gt := fun h => hlt (hgreater.mp h)
          simpa [maxBy, horder, htake] using hfold
        · have hy := hmax y (by simp)
          simp only [List.mem_cons, forall_eq_or_imp] at hmax ⊢
          exact ⟨(not_lt.mp hlt).trans hy, hy, hmax.2⟩

end Greatest

/-! ## Farthest-first lists -/

section Farthest

variable {α κ : Type*} [LinearOrder κ] {distance : α → α → ℕ} {name : α → κ}
  {pool chosen : List α} {x y : α}

/-- The distance to the nearest chosen item. -/
@[grind =] def nearest (distance : α → α → ℕ) (chosen : List α) (x : α) : ℕ :=
  (chosen.map (distance x)).min?.getD 0

/-- The item of the pool to choose after the chosen ones. -/
structure Farthest (distance : α → α → ℕ) (name : α → κ) (pool chosen : List α) (x : α) : Prop where
  mem : x ∈ pool
  fresh : x ∉ chosen
  far : ∀ y ∈ pool, y ∉ chosen →
    nearest distance chosen y < nearest distance chosen x ∨
      nearest distance chosen y = nearest distance chosen x ∧ name x ≤ name y

theorem Farthest.unique (hname : ∀ a ∈ pool, ∀ b ∈ pool, name a = name b → a = b)
    (hx : Farthest distance name pool chosen x) (hy : Farthest distance name pool chosen y) :
    x = y := by
  apply hname x hx.mem y hy.mem
  rcases hx.far y hy.mem hy.fresh with hlow | ⟨heq, hle⟩
  · rcases hy.far x hx.mem hx.fresh with hlow' | ⟨heq', -⟩ <;> omega
  · rcases hy.far x hx.mem hx.fresh with hlow' | ⟨-, hle'⟩
    · omega
    · exact le_antisymm hle hle'

/-- Every item but the first is the farthest from the ones in front. -/
def FarthestFirst (distance : α → α → ℕ) (name : α → κ) (pool xs : List α) : Prop :=
  ∀ front x rest, xs = front ++ x :: rest → front ≠ [] → Farthest distance name pool front x

theorem FarthestFirst.singleton (x : α) : FarthestFirst distance name pool [x] := by
  intro front y rest hsplit hne
  cases front with
  | nil => exact absurd rfl hne
  | cons _ front =>
    have hlength := congrArg List.length hsplit
    simp at hlength

theorem FarthestFirst.concat {xs : List α} (h : FarthestFirst distance name pool xs)
    (hx : Farthest distance name pool xs x) : FarthestFirst distance name pool (xs ++ [x]) := by
  intro front y rest hsplit hne
  rcases List.eq_nil_or_concat rest with rfl | ⟨rest, z, rfl⟩
  · obtain ⟨rfl, hlast⟩ := List.append_inj' hsplit rfl
    rw [List.singleton_inj] at hlast
    exact hlast ▸ hx
  · rw [List.concat_eq_append, ← List.cons_append, ← List.append_assoc] at hsplit
    exact h front y rest (List.append_inj' hsplit rfl).1 hne

theorem FarthestFirst.congr {other xs : List α} (hpool : ∀ a, a ∈ pool ↔ a ∈ other)
    (h : FarthestFirst distance name pool xs) : FarthestFirst distance name other xs := by
  intro front x rest hsplit hne
  have hx := h front x rest hsplit hne
  exact ⟨(hpool x).mp hx.mem, hx.fresh, fun y hy => hx.far y ((hpool y).mpr hy)⟩

/-- A pool has one farthest-first list of a length with a first item. -/
theorem FarthestFirst.unique {xs ys : List α}
    (hname : ∀ a ∈ pool, ∀ b ∈ pool, name a = name b → a = b)
    (hxs : FarthestFirst distance name pool (x :: xs))
    (hys : FarthestFirst distance name pool (x :: ys)) (hlength : xs.length = ys.length) :
    xs = ys := by
  induction xs using List.reverseRecOn generalizing ys with
  | nil => exact (List.length_eq_zero_iff.mp hlength.symm).symm
  | append_singleton xs a ih =>
    rcases List.eq_nil_or_concat ys with rfl | ⟨ys, b, rfl⟩
    · simp at hlength
    · rw [List.concat_eq_append] at hys hlength ⊢
      have hsame : xs = ys := by
        apply ih _ _ (by simpa using hlength)
        · intro front c rest hsplit
          exact hxs front c (rest ++ [a]) (by rw [← List.cons_append, hsplit]; simp)
        · intro front c rest hsplit
          exact hys front c (rest ++ [b]) (by rw [← List.cons_append, hsplit]; simp)
      subst hsame
      have hlast : a = b :=
        (hxs (x :: xs) a [] rfl (by simp)).unique hname (hys (x :: xs) b [] rfl (by simp))
      rw [hlast]

end Farthest

end Quillframe
