import Mathlib.Tactic

/-! Chains of digests: a head that folds the entries of a log with an injective link determines
the log, and a log of replacements leads from the first head to the last. -/
namespace Quillframe.HashChain

variable {H E : Type}

/-- The link loses neither the head before it nor the entry. -/
def Injective (link : H → E → H) : Prop :=
  ∀ ⦃a c : H⦄ ⦃b d : E⦄, link a b = link c d → a = c ∧ b = d

/-- Two logs of one length with one head are the same log. -/
theorem foldl_inj {link : H → E → H} (hlink : Injective link) {xs ys : List E} {s t : H}
    (hlength : xs.length = ys.length) (h : xs.foldl link s = ys.foldl link t) :
    s = t ∧ xs = ys := by
  induction xs generalizing ys s t with
  | nil =>
    obtain rfl : ys = [] := List.length_eq_zero_iff.mp hlength.symm
    exact ⟨h, rfl⟩
  | cons x xs ih =>
    cases ys with
    | nil => simp at hlength
    | cons y ys =>
      have hrest : xs.length = ys.length := by simpa using hlength
      obtain ⟨hstep, rfl⟩ := ih hrest h
      obtain ⟨rfl, rfl⟩ := hlink hstep
      exact ⟨rfl, rfl⟩

/-- Replacements lead from one head to another: each starts where the one before ended. -/
def Linked : H → List (H × H) → H → Prop
  | first, [], last => first = last
  | first, (before, after) :: rest, last => first = before ∧ Linked after rest last

/-- A replacement of the last head extends the chain. -/
theorem Linked.append {first last next : H} {links : List (H × H)} (h : Linked first links last) :
    Linked first (links ++ [(last, next)]) next := by
  induction links generalizing first with
  | nil => exact ⟨h, rfl⟩
  | cons link rest ih => exact ⟨h.1, ih h.2⟩

end Quillframe.HashChain
