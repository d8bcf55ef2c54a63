import Mathlib.Tactic

/-!
# Calls that change an object

A call on a mutable object answers or fails, and leaves the object as its last assignment did in
both cases. Checks leave it alone, and a call that only checks before it assigns keeps the object
when it fails.
-/
namespace Quillframe

/-- A call on an object of type `σ`. -/
abbrev Mutation (ε σ α : Type) := EStateM ε σ α

namespace Mutation

variable {ε σ α β : Type} {s t u : σ} {e : ε}

/-- A computation that does not touch the object. -/
@[grind =] def check (x : Except ε α) : Mutation ε σ α := fun s =>
  match x with
  | .ok a => .ok a s
  | .error e => .error e s

/-- The object after a call, answered or not. -/
@[grind =] def after (call : Mutation ε σ α) (s : σ) : σ :=
  match call s with
  | .ok _ t => t
  | .error _ t => t

theorem after_of_ok {call : Mutation ε σ α} {a : α} (h : call s = .ok a t) : call.after s = t := by
  rw [after, h]

theorem after_of_error {call : Mutation ε σ α} (h : call s = .error e t) : call.after s = t := by
  rw [after, h]

theorem check_bind (x : Except ε α) (rest : α → Mutation ε σ β) (s : σ) :
    (check x >>= rest) s = match x with
      | .ok a => rest a s
      | .error e => .error e s := by
  cases x <;> rfl

/-! ## Answers and failures of each part -/

@[simp] theorem pure_ok {a b : α} : (pure a : Mutation ε σ α) s = .ok b t ↔ a = b ∧ s = t := by
  simp [pure, EStateM.pure]

@[simp] theorem pure_error {a : α} : (pure a : Mutation ε σ α) s = .error e t ↔ False := by
  simp [pure, EStateM.pure]

@[simp] theorem get_ok {a : σ} : (get : Mutation ε σ σ) s = .ok a t ↔ s = a ∧ s = t := by
  change EStateM.Result.ok s s = .ok a t ↔ _
  simp

@[simp] theorem get_error : (get : Mutation ε σ σ) s = .error e t ↔ False := by
  change EStateM.Result.ok s s = .error e t ↔ _
  simp

@[simp] theorem modify_ok {f : σ → σ} {a : PUnit} :
    (modify f : Mutation ε σ PUnit) s = .ok a t ↔ f s = t := by
  change EStateM.Result.ok PUnit.unit (f s) = .ok a t ↔ _
  simp

@[simp] theorem modify_error {f : σ → σ} :
    (modify f : Mutation ε σ PUnit) s = .error e t ↔ False := by
  change EStateM.Result.ok PUnit.unit (f s) = .error e t ↔ _
  simp

@[simp] theorem check_ok {x : Except ε α} {a : α} :
    (check x : Mutation ε σ α) s = .ok a t ↔ x = .ok a ∧ s = t := by
  cases x <;> simp [check]

@[simp] theorem check_error {x : Except ε α} :
    (check x : Mutation ε σ α) s = .error e t ↔ x = .error e ∧ s = t := by
  cases x <;> simp [check]

@[simp] theorem bind_ok {x : Mutation ε σ α} {f : α → Mutation ε σ β} {b : β} :
    (x >>= f) s = .ok b u ↔ ∃ a t, x s = .ok a t ∧ f a t = .ok b u := by
  cases h : x s <;> simp [bind, EStateM.bind, h]

@[simp] theorem bind_error {x : Mutation ε σ α} {f : α → Mutation ε σ β} :
    (x >>= f) s = .error e u ↔
      x s = .error e u ∨ ∃ a t, x s = .ok a t ∧ f a t = .error e u := by
  cases h : x s <;> simp [bind, EStateM.bind, h]

/-! ## Calls that keep the object when they fail -/

/-- The object is left alone. -/
def Reads (x : Mutation ε σ α) : Prop := ∀ s a t, x s = .ok a t → t = s

/-- A failure leaves the object alone. -/
def Keeps (x : Mutation ε σ α) : Prop := ∀ s e t, x s = .error e t → t = s

theorem reads_get : Reads (get : Mutation ε σ σ) := fun _ _ _ h => (get_ok.mp h).2.symm

theorem reads_check (x : Except ε α) : Reads (check x : Mutation ε σ α) :=
  fun _ _ _ h => (check_ok.mp h).2.symm

theorem keeps_get : Keeps (get : Mutation ε σ σ) := fun _ _ _ h => (get_error.mp h).elim

theorem keeps_pure (a : α) : Keeps (pure a : Mutation ε σ α) :=
  fun _ _ _ h => (pure_error.mp h).elim

theorem keeps_modify (f : σ → σ) : Keeps (modify f : Mutation ε σ PUnit) :=
  fun _ _ _ h => (modify_error.mp h).elim

theorem keeps_check (x : Except ε α) : Keeps (check x : Mutation ε σ α) :=
  fun _ _ _ h => (check_error.mp h).2.symm

/-- What follows a part that only reads decides whether a failure keeps the object. -/
theorem Reads.keeps_bind {x : Mutation ε σ α} {f : α → Mutation ε σ β} (hreads : Reads x)
    (hkeeps : Keeps x) (hrest : ∀ a, Keeps (f a)) : Keeps (x >>= f) := by
  intro s e t h
  cases bind_error.mp h with
  | inl hfirst => exact hkeeps s e t hfirst
  | inr hlater =>
    obtain ⟨a, mid, hfirst, hlater⟩ := hlater
    rw [← hreads s a mid hfirst]
    exact hrest a mid e t hlater

/-- An assignment before a part that cannot fail is never undone. -/
theorem keeps_bind_of_total {x : Mutation ε σ α} {f : α → Mutation ε σ β} (hkeeps : Keeps x)
    (htotal : ∀ a s e t, f a s ≠ .error e t) : Keeps (x >>= f) := by
  intro s e t h
  cases bind_error.mp h with
  | inl hfirst => exact hkeeps s e t hfirst
  | inr hlater =>
    obtain ⟨a, mid, -, hlater⟩ := hlater
    exact absurd hlater (htotal a mid e t)

end Mutation

end Quillframe
