import Quillframe.Mutation
import Quillframe.Repair

/-! Calls on an object that fail with an error of the core or panic. -/
namespace Quillframe

/-- A checked step of a call. -/
def attempt {σ α : Type} (x : CoreResult α) : Mutation Abort σ α := Mutation.check (raise x)

/-- `value.unwrap()`. -/
def unwrap {σ α : Type} (value : Option α) : Mutation Abort σ α :=
  Mutation.check (fetch value .panicked)

section

variable {σ α : Type} {s t : σ} {a : α}

@[simp] theorem attempt_ok {x : CoreResult α} :
    (attempt x : Mutation Abort σ α) s = .ok a t ↔ x = .ok a ∧ s = t := by
  simp [attempt]

@[simp] theorem attempt_panicked {x : CoreResult α} :
    (attempt x : Mutation Abort σ α) s = .error .panicked t ↔ False := by
  simp [attempt]

@[simp] theorem attempt_failed {x : CoreResult α} {e : CoreError} :
    (attempt x : Mutation Abort σ α) s = .error (.failed e) t ↔ x = .error e ∧ s = t := by
  cases x <;> simp [attempt, raise]

@[simp] theorem unwrap_ok {value : Option α} :
    (unwrap value : Mutation Abort σ α) s = .ok a t ↔ value = some a ∧ s = t := by
  simp [unwrap]

@[simp] theorem unwrap_panicked {value : Option α} :
    (unwrap value : Mutation Abort σ α) s = .error .panicked t ↔ value = none ∧ s = t := by
  cases value <;> simp [unwrap, fetch]

@[simp] theorem unwrap_failed {value : Option α} {e : CoreError} :
    (unwrap value : Mutation Abort σ α) s = .error (.failed e) t ↔ False := by
  cases value <;> simp [unwrap, fetch]

theorem keeps_attempt (x : CoreResult α) : Mutation.Keeps (attempt x : Mutation Abort σ α) :=
  Mutation.keeps_check _

theorem reads_attempt (x : CoreResult α) : Mutation.Reads (attempt x : Mutation Abort σ α) :=
  Mutation.reads_check _

end

end Quillframe
