import Quillframe.Fallible

/-!
# Transactions

The body of a storage transaction returns a value and the storage it wrote, or fails. A failure
that is thrown rolls the writes back, a failure that is returned keeps them.
-/
namespace Quillframe

variable {ε σ α β : Type}

/-- Why a transaction fails, and the storage it leaves when the failure is returned. -/
structure Failure (ε σ : Type) where
  error : ε
  kept : Option σ

abbrev Transaction (ε σ : Type) := Except (Failure ε σ)

namespace Transaction

def run (storage : σ) (body : Transaction ε σ (α × σ)) : Except ε α × σ :=
  match body with
  | .ok (value, storage') => (.ok value, storage')
  | .error failed => (.error failed.error, failed.kept.getD storage)

/-- No failure of the body keeps a write. -/
def Rolls (body : Transaction ε σ β) : Prop :=
  ∀ error storage, body ≠ .error ⟨error, some storage⟩

section Rolls

@[simp] theorem rolls_ok (value : β) : Rolls (.ok value : Transaction ε σ β) :=
  fun _ _ h => nomatch h

@[simp] theorem rolls_pure (value : β) : Rolls (pure value : Transaction ε σ β) := rolls_ok value

@[simp] theorem rolls_error {failed : Failure ε σ} :
    Rolls (.error failed : Transaction ε σ β) ↔ failed.kept = none := by
  obtain ⟨error, _ | kept⟩ := failed
  · exact ⟨fun _ => rfl, fun _ _ _ he => nomatch he⟩
  · exact ⟨fun h => absurd rfl (h error kept), fun h => nomatch h⟩

@[simp] theorem rolls_require {condition : Prop} [Decidable condition] {failed : Failure ε σ} :
    Rolls (require condition failed : Transaction ε σ Unit) ↔
      condition ∨ failed.kept = none := by
  rw [Quillframe.require]
  split_ifs with h <;> simp [h]

@[simp] theorem rolls_fetch {row : Option α} {failed : Failure ε σ} :
    Rolls (fetch row failed : Transaction ε σ α) ↔ row ≠ none ∨ failed.kept = none := by
  cases row <;> simp [fetch]

@[simp] theorem rolls_bind {body : Transaction ε σ α} {next : α → Transaction ε σ β} :
    Rolls (body >>= next) ↔ Rolls body ∧ ∀ value, body = .ok value → Rolls (next value) := by
  cases body with
  | ok value => simp [bind, Except.bind]
  | error failed => simp [bind, Except.bind]

@[simp] theorem rolls_map {body : Transaction ε σ α} {f : α → β} :
    Rolls (f <$> body) ↔ Rolls body := by
  cases body <;> simp [Functor.map, Except.map]

theorem rolls_forEach {step : β → α → Transaction ε σ β} {items : List α} {state : β}
    (hstep : ∀ state item, Rolls (step state item)) : Rolls (forEach step items state) := by
  induction items generalizing state with
  | nil => exact rolls_ok state
  | cons item rest ih => exact rolls_bind.mpr ⟨hstep state item, fun _ _ => ih⟩

/-- A transaction that keeps no write of a failure succeeds or changes nothing. -/
theorem Rolls.run_cases {body : Transaction ε σ (α × σ)} (h : Rolls body) (storage : σ) :
    (∃ value, body = .ok (value, (body.run storage).2)) ∨ (body.run storage).2 = storage := by
  rcases body with ⟨error, _ | kept⟩ | ⟨value, written⟩
  · exact .inr rfl
  · exact absurd rfl (h error kept)
  · exact .inl ⟨value, rfl⟩

end Rolls

/-- The results of a body have the property `Q`, and the storages that its failures keep have the
property `P`. -/
structure Post (P : σ → Prop) (Q : β → Prop) (body : Transaction ε σ β) : Prop where
  returned : ∀ value, body = .ok value → Q value
  kept : ∀ error storage, body = .error ⟨error, some storage⟩ → P storage

variable {P : σ → Prop}

theorem Post.ok {Q : β → Prop} {value : β} (h : Q value) :
    Post P Q (.ok value : Transaction ε σ β) :=
  ⟨fun _ he => Except.ok.inj he ▸ h, fun _ _ he => nomatch he⟩

theorem Post.pure {Q : β → Prop} {value : β} (h : Q value) :
    Post P Q (pure value : Transaction ε σ β) := Post.ok h

theorem Post.error {Q : β → Prop} {failed : Failure ε σ}
    (h : ∀ storage, failed.kept = some storage → P storage) :
    Post P Q (.error failed : Transaction ε σ β) :=
  ⟨fun _ he => (nomatch he), fun error storage he => h storage (by
    rw [Except.error.inj he])⟩

theorem Post.of_rolls {body : Transaction ε σ β} (h : Rolls body) :
    Post P (fun value => body = .ok value) body :=
  ⟨fun _ he => he, fun error storage he => absurd he (h error storage)⟩

theorem Post.bind {R : α → Prop} {Q : β → Prop} {body : Transaction ε σ α}
    {next : α → Transaction ε σ β} (hbody : Post P R body)
    (hnext : ∀ value, R value → Post P Q (next value)) : Post P Q (body >>= next) := by
  cases body with
  | error failed =>
    refine ⟨fun _ he => (nomatch he), fun error storage he => ?_⟩
    exact hbody.kept error storage (congrArg Except.error (Except.error.inj he))
  | ok value => exact hnext value (hbody.returned value rfl)

theorem Post.mono {R Q : β → Prop} {body : Transaction ε σ β} (hbody : Post P R body)
    (h : ∀ value, R value → Q value) : Post P Q body :=
  ⟨fun value he => h value (hbody.returned value he), hbody.kept⟩

theorem Post.imp {P' : σ → Prop} {R Q : β → Prop} {body : Transaction ε σ β}
    (hbody : Post P R body) (hkept : ∀ storage, P storage → P' storage)
    (h : ∀ value, R value → Q value) : Post P' Q body :=
  ⟨fun value he => h value (hbody.returned value he),
    fun error storage he => hkept storage (hbody.kept error storage he)⟩

theorem Post.require {condition : Prop} [Decidable condition] {failed : Failure ε σ}
    (h : ∀ storage, failed.kept = some storage → P storage) :
    Post P (fun _ => condition) (require condition failed : Transaction ε σ Unit) := by
  rw [Quillframe.require]
  split_ifs with hcondition
  · exact Post.ok hcondition
  · exact Post.error h

theorem Post.fetch {row : Option α} {failed : Failure ε σ}
    (h : ∀ storage, failed.kept = some storage → P storage) :
    Post P (fun value => row = some value) (fetch row failed : Transaction ε σ α) := by
  cases row with
  | none => exact Post.error h
  | some value => exact Post.ok rfl

/-- A loop keeps what every iteration keeps. -/
theorem Post.forEach {step : β → α → Transaction ε σ β} {Q : β → Prop} {items : List α}
    (hstep : ∀ item ∈ items, ∀ state, Q state → Post P Q (step state item)) {state : β}
    (h : Q state) : Post P Q (forEach step items state) := by
  induction items generalizing state with
  | nil => exact Post.ok h
  | cons item rest ih =>
    refine Post.bind (hstep item List.mem_cons_self state h) fun state' h' => ?_
    exact ih (fun other hother => hstep other (List.mem_cons_of_mem _ hother)) h'

/-- What holds before, of every result and of every kept storage holds after the transaction. -/
theorem Post.run {body : Transaction ε σ (α × σ)} (hbody : Post P (fun result => P result.2) body)
    {storage : σ} (h : P storage) : P (body.run storage).2 := by
  rcases body with ⟨error, _ | kept⟩ | result
  · exact h
  · exact hbody.kept error kept rfl
  · exact hbody.returned result rfl

theorem run_eq_ok {storage : σ} {body : Transaction ε σ (α × σ)} {value : α}
    (h : (body.run storage).1 = .ok value) : body = .ok (value, (body.run storage).2) := by
  rcases body with failed | ⟨value', written⟩
  · cases h
  · rw [Except.ok.inj h]
    rfl

/-! ## Running step by step -/

theorem run_error {storage : σ} {failed : Failure ε σ} :
    run storage (.error failed : Transaction ε σ (α × σ)) =
      (.error failed.error, failed.kept.getD storage) := rfl

theorem run_pure {storage : σ} {result : α × σ} :
    run storage (pure result : Transaction ε σ (α × σ)) = (.ok result.1, result.2) := rfl

theorem run_require {storage : σ} {condition : Prop} [Decidable condition] {failed : Failure ε σ}
    {next : Unit → Transaction ε σ (α × σ)} :
    run storage (Quillframe.require condition failed >>= next) =
      if condition then run storage (next ())
      else (.error failed.error, failed.kept.getD storage) := by
  by_cases h : condition <;> simp only [Quillframe.require, h, if_true, if_false] <;> rfl

theorem exists_of_isOk {result : Except ε α} (h : result.isOk = true) :
    ∃ value, result = .ok value := by
  rcases result with error | value
  · cases h
  · exact ⟨value, rfl⟩

theorem ok_or_error (body : Transaction ε σ β) :
    (∃ value, body = .ok value) ∨ ∃ failed, body = .error failed := by
  rcases body with failed | value
  · exact .inr ⟨failed, rfl⟩
  · exact .inl ⟨value, rfl⟩

theorem run_bind_ok {storage : σ} {body : Transaction ε σ β} {value : β}
    (h : body = .ok value) (next : β → Transaction ε σ (α × σ)) :
    run storage (body >>= next) = run storage (next value) := by
  rw [h]
  rfl

/-- A check that writes nothing changes nothing when it fails. -/
theorem run_bind_error {storage : σ} {body : Transaction ε σ β} {failed : Failure ε σ}
    (h : body = .error failed) (hrolls : Rolls body) (next : β → Transaction ε σ (α × σ)) :
    run storage (body >>= next) = (.error failed.error, storage) := by
  obtain ⟨error, _ | kept⟩ := failed
  · rw [h]
    rfl
  · exact absurd h (hrolls error kept)

theorem run_fetch {storage : σ} {row : Option β} {failed : Failure ε σ}
    {next : β → Transaction ε σ (α × σ)} :
    run storage (Quillframe.fetch row failed >>= next) =
      match row with
      | some value => run storage (next value)
      | none => (.error failed.error, failed.kept.getD storage) := by
  cases row <;> rfl

end Transaction

end Quillframe
