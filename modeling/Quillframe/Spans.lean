import Mathlib.Tactic

/-! Consecutive ranges: every range is not empty and begins where the one before it ends, so each
position between the ends is in exactly one of them. -/
namespace Quillframe

/-- The items of a range, where the range is inside. -/
def subslice {α : Type*} (items : List α) (range : ℕ × ℕ) : Option (List α) :=
  if range.1 ≤ range.2 ∧ range.2 ≤ items.length then some ((items.take range.2).drop range.1)
  else none

variable {α : Type*} {start stop : α → ℕ} {a b i : ℕ} {x : α} {xs : List α}

/-- The ranges lead from one position to another. -/
inductive Spans (start stop : α → ℕ) : ℕ → List α → ℕ → Prop where
  | nil (a : ℕ) : Spans start stop a [] a
  | cons {x : α} {xs : List α} {b : ℕ} (nonempty : start x < stop x)
      (rest : Spans start stop (stop x) xs b) : Spans start stop (start x) (x :: xs) b

namespace Spans

theorem cons_of_eq {m : ℕ} (ha : start x = a) (hm : stop x = m) (nonempty : a < m)
    (rest : Spans start stop m xs b) : Spans start stop a (x :: xs) b := by
  subst ha hm
  exact .cons nonempty rest

theorem le (h : Spans start stop a xs b) : a ≤ b := by
  induction h with
  | nil => exact le_rfl
  | cons nonempty _ ih => omega

theorem bounds (h : Spans start stop a xs b) (hx : x ∈ xs) :
    a ≤ start x ∧ start x < stop x ∧ stop x ≤ b := by
  induction h with
  | nil => cases hx
  | cons nonempty rest ih =>
    rcases List.mem_cons.mp hx with rfl | hlater
    · exact ⟨le_rfl, nonempty, rest.le⟩
    · have hinner := ih hlater
      omega

/-- Every position is in a range. -/
theorem exists_mem (h : Spans start stop a xs b) (ha : a ≤ i) (hb : i < b) :
    ∃ x ∈ xs, start x ≤ i ∧ i < stop x := by
  induction h with
  | nil => omega
  | @cons x xs b nonempty rest ih =>
    by_cases hi : i < stop x
    · exact ⟨x, List.mem_cons_self, ha, hi⟩
    · obtain ⟨y, hy, hrange⟩ := ih (not_lt.mp hi) hb
      exact ⟨y, List.mem_cons_of_mem _ hy, hrange⟩

/-- Every position is in one range only. -/
theorem eq_of_mem (h : Spans start stop a xs b) {y : α} (hx : x ∈ xs) (hy : y ∈ xs)
    (hix : start x ≤ i ∧ i < stop x) (hiy : start y ≤ i ∧ i < stop y) : x = y := by
  induction h with
  | nil => cases hx
  | cons _ rest ih =>
    rcases List.mem_cons.mp hx with rfl | hxrest
    · rcases List.mem_cons.mp hy with rfl | hyrest
      · rfl
      · have hlater := (rest.bounds hyrest).1
        omega
    · rcases List.mem_cons.mp hy with rfl | hyrest
      · have hlater := (rest.bounds hxrest).1
        omega
      · exact ih hxrest hyrest

theorem of_append {ys : List α} (h : Spans start stop a (xs ++ ys) b) :
    ∃ m, Spans start stop a xs m ∧ Spans start stop m ys b := by
  induction xs generalizing a with
  | nil => exact ⟨a, .nil a, h⟩
  | cons x xs ih =>
    cases h with
    | cons nonempty rest =>
      obtain ⟨m, hxs, hys⟩ := ih rest
      exact ⟨m, .cons nonempty hxs, hys⟩

theorem start_eq (h : Spans start stop a xs b) (hx : xs.head? = some x) : start x = a := by
  cases h with
  | nil => cases hx
  | cons _ _ =>
    rw [List.head?_cons, Option.some.injEq] at hx
    rw [hx]

theorem eq_of_nil (h : Spans start stop a ([] : List α) b) : a = b := by
  cases h
  rfl

theorem stop_eq (h : Spans start stop a xs b) (hx : xs.getLast? = some x) : stop x = b := by
  induction h with
  | nil => cases hx
  | @cons y ys b _ rest ih =>
    cases ys with
    | nil =>
      obtain rfl : y = x := by simpa using hx
      exact rest.eq_of_nil
    | cons z zs => exact ih (by simpa using hx)

theorem length_le (h : Spans start stop a xs b) : a + xs.length ≤ b := by
  induction h with
  | nil => simp
  | cons nonempty _ ih =>
    rw [List.length_cons]
    omega

end Spans

end Quillframe
