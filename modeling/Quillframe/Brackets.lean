import Mathlib.Data.List.Basic
import Mathlib.Tactic

/-!
# Nested brackets

A text of brackets of several kinds and of other tokens. `run` keeps the brackets that are open
on a stack; the grammar `Balanced` says which texts close every bracket they open.
-/
namespace Quillframe.Brackets

variable {κ : Type}

inductive Token (κ : Type) where
  | opening (kind : κ)
  | closing (kind : κ)
  | inert
  deriving DecidableEq, Repr

open Token

inductive Balanced : List (Token κ) → Prop
  | nil : Balanced []
  | inert {rest : List (Token κ)} : Balanced rest → Balanced (inert :: rest)
  | group {kind : κ} {inner rest : List (Token κ)} :
    Balanced inner → Balanced rest → Balanced (opening kind :: (inner ++ closing kind :: rest))

/-- The text closes the brackets of a stack, the innermost first, and all that it opens. -/
def Closes : List κ → List (Token κ) → Prop
  | [], text => Balanced text
  | kind :: stack, text =>
    ∃ inner rest, Balanced inner ∧ text = inner ++ closing kind :: rest ∧ Closes stack rest

section Run

variable [DecidableEq κ]

/-- One token against the stack of open brackets. -/
@[grind =] def pass (stack : List κ) : Token κ → Option (List κ)
  | opening kind => some (kind :: stack)
  | closing kind =>
    match stack with
    | [] => none
    | top :: below => if top = kind then some below else none
  | inert => some stack

@[grind =] def run (stack : List κ) (text : List (Token κ)) : Option (List κ) := text.foldlM pass stack

variable {stack below result : List κ} {kind : κ} {text front rest : List (Token κ)}

@[simp] theorem run_nil : run stack [] = some stack := rfl

@[simp] theorem run_inert : run stack (inert :: rest) = run stack rest := rfl

@[simp] theorem run_opening : run stack (opening kind :: rest) = run (kind :: stack) rest := rfl

theorem run_cons {token : Token κ} :
    run stack (token :: rest) = (pass stack token).bind fun next => run next rest := rfl

theorem run_append :
    run stack (front ++ rest) = (run stack front).bind fun next => run next rest := by
  rw [run, List.foldlM_append]
  rfl

theorem run_closing_eq_some :
    run stack (closing kind :: rest) = some result ↔
      ∃ below, stack = kind :: below ∧ run below rest = some result := by
  rw [run_cons]
  cases stack with
  | nil => simp [pass]
  | cons top below =>
    by_cases htop : top = kind
    · simp [pass, htop]
    · simp [pass, htop]

end Run

/-! ## The grammar -/

theorem Balanced.append {front rest : List (Token κ)} (hfront : Balanced front)
    (hrest : Balanced rest) : Balanced (front ++ rest) := by
  induction hfront with
  | nil => exact hrest
  | inert _ ih => exact ih.inert
  | group hinner _ _ ih =>
    rw [List.cons_append, List.append_assoc, List.cons_append]
    exact hinner.group ih

theorem Closes.prepend {stack : List κ} {front text : List (Token κ)} (hfront : Balanced front)
    (h : Closes stack text) : Closes stack (front ++ text) := by
  cases stack with
  | nil => exact hfront.append h
  | cons kind stack =>
    obtain ⟨inner, rest, hinner, rfl, hrest⟩ := h
    exact ⟨front ++ inner, rest, hfront.append hinner, by simp, hrest⟩

variable [DecidableEq κ]

/-- A balanced text leaves the stack as it is. -/
theorem Balanced.run {text : List (Token κ)} (h : Balanced text) (stack : List κ) :
    Brackets.run stack text = some stack := by
  induction h generalizing stack with
  | nil => rfl
  | inert _ ih => exact ih stack
  | @group kind inner rest _ _ ihInner ihRest =>
    rw [run_opening, run_append, ihInner, Option.bind_some, run_closing_eq_some]
    exact ⟨stack, rfl, ihRest stack⟩

/-- A text that empties the stack has closed each of its brackets. -/
theorem closes_of_run {stack : List κ} {text : List (Token κ)} (h : run stack text = some []) :
    Closes stack text := by
  induction text generalizing stack with
  | nil =>
    obtain rfl : stack = [] := Option.some.inj h
    exact Balanced.nil
  | cons token rest ih =>
    cases token with
    | inert => exact (ih h).prepend (Balanced.inert .nil)
    | opening kind =>
      obtain ⟨inner, after, hinner, rfl, hafter⟩ := ih h
      have hgroup : Balanced (opening kind :: (inner ++ closing kind :: [])) :=
        hinner.group .nil
      have hclosed := hafter.prepend hgroup
      rw [List.cons_append, List.append_assoc] at hclosed
      exact hclosed
    | closing kind =>
      obtain ⟨below, rfl, hrest⟩ := run_closing_eq_some.mp h
      exact ⟨[], rest, .nil, rfl, ih hrest⟩

theorem run_map_closing {stack given : List κ} :
    run given (stack.map closing) = some [] ↔ given = stack := by
  induction stack generalizing given with
  | nil => simp
  | cons kind stack ih =>
    rw [List.map_cons, run_closing_eq_some]
    constructor
    · rintro ⟨below, rfl, hbelow⟩
      rw [ih.mp hbelow]
    · rintro rfl
      exact ⟨stack, rfl, ih.mpr rfl⟩

/-- The stack at the end of a text holds the brackets whose closing would balance it. -/
theorem run_eq_some_iff {stack : List κ} {text : List (Token κ)} :
    run [] text = some stack ↔ Balanced (text ++ stack.map closing) := by
  constructor
  · intro h
    have hrun : run [] (text ++ stack.map closing) = some [] := by
      rw [run_append, h, Option.bind_some]
      exact run_map_closing.mpr rfl
    exact closes_of_run hrun
  · intro h
    have hrun := h.run []
    rw [run_append, Option.bind_eq_some_iff] at hrun
    obtain ⟨reached, hreached, hclosed⟩ := hrun
    rw [hreached, run_map_closing.mp hclosed]

end Quillframe.Brackets
