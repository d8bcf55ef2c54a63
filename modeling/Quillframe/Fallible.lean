import Mathlib.Logic.Relation
import Mathlib.Tactic

/-! Guards, lookups and inversion of computations in `Except`, and invariants of the states
that a step relation reaches. -/
namespace Quillframe

variable {ε α β σ : Type}

/-- A list is checked entry by entry, also where its whole type could be enumerated. -/
instance (priority := high) decidableForallMem (p : α → Prop) [DecidablePred p] (items : List α) :
    Decidable (∀ a ∈ items, p a) :=
  List.decidableBAll p items

instance (priority := high) decidableExistsMem (p : α → Prop) [DecidablePred p] (items : List α) :
    Decidable (∃ a ∈ items, p a) :=
  List.decidableBEx p items

instance lawfulOption [DecidableEq α] : LawfulBEq (Option α) := inferInstance

instance lawfulPair [DecidableEq α] [DecidableEq β] : LawfulBEq (α × β) := inferInstance

/-- Fails with `error` unless the condition holds. -/
@[grind =] def require (condition : Prop) [Decidable condition] (error : ε) : Except ε Unit :=
  if condition then .ok () else .error error

/-- The value of an optional row, or `error`. -/
@[grind =] def fetch (row : Option α) (error : ε) : Except ε α :=
  match row with
  | some a => .ok a
  | none => .error error

@[simp] theorem require_eq_ok {condition : Prop} [Decidable condition] {error : ε} {u : Unit} :
    require condition error = .ok u ↔ condition := by
  by_cases h : condition <;> simp [require, h]

@[simp] theorem fetch_eq_ok {row : Option α} {error : ε} {a : α} :
    fetch row error = .ok a ↔ row = some a := by
  cases row <;> simp [fetch]

@[simp] theorem bind_eq_ok {x : Except ε α} {f : α → Except ε β} {b : β} :
    (x >>= f) = .ok b ↔ ∃ a, x = .ok a ∧ f a = .ok b := by
  cases x <;> simp [bind, Except.bind]

@[simp] theorem pure_eq_ok {a b : α} : (pure a : Except ε α) = .ok b ↔ a = b := by
  simp [pure, Except.pure]

theorem map_eq_ok {x : Except ε α} {f : α → β} {b : β} :
    x.map f = .ok b ↔ ∃ a, x = .ok a ∧ f a = b := by
  cases x <;> simp [Except.map]

theorem snd_map_eq_ok {x : Except ε (α × β)} {b : β} (h : Prod.snd <$> x = .ok b) :
    ∃ a, x = .ok (a, b) := by
  cases x with
  | error e => simp [Functor.map, Except.map] at h
  | ok p =>
    obtain ⟨a, c⟩ := p
    simp only [Functor.map, Except.map, Except.ok.injEq] at h
    exact ⟨a, h ▸ rfl⟩

/-- The loop `for a in items`, with the state it changes. -/
@[grind =] def forEach (step : σ → α → Except ε σ) : List α → σ → Except ε σ
  | [], s => .ok s
  | a :: rest, s => step s a >>= forEach step rest

theorem forEach_append (step : σ → α → Except ε σ) (xs ys : List α) (s : σ) :
    forEach step (xs ++ ys) s = forEach step xs s >>= forEach step ys := by
  induction xs generalizing s with
  | nil => rfl
  | cons a rest ih =>
    cases h : step s a with
    | error e => simp [forEach, h, bind, Except.bind]
    | ok t => simpa [forEach, h, bind, Except.bind] using ih t

/-- A loop whose items are loops themselves. -/
theorem forEach_flatMap {step : σ → β → Except ε σ} {outer : σ → α → Except ε σ}
    {inner : α → List β} {items : List α}
    (h : ∀ a ∈ items, ∀ s, outer s a = forEach step (inner a) s) (s : σ) :
    forEach outer items s = forEach step (items.flatMap inner) s := by
  induction items generalizing s with
  | nil => rfl
  | cons a rest ih =>
    rw [forEach, List.flatMap_cons, forEach_append, h a List.mem_cons_self s]
    congr 1
    funext t
    exact ih (fun b hb => h b (List.mem_cons_of_mem _ hb)) t

/-- A property kept by every successful iteration is kept by the loop. -/
theorem forEach_invariant {step : σ → α → Except ε σ} {P : σ → Prop} {items : List α} {s t : σ}
    (hstep : ∀ a ∈ items, ∀ s t, step s a = .ok t → P s → P t)
    (h : forEach step items s = .ok t) (hs : P s) : P t := by
  induction items generalizing s with
  | nil => simp only [forEach, Except.ok.injEq] at h; exact h ▸ hs
  | cons a rest ih =>
    obtain ⟨u, hu, h⟩ := bind_eq_ok.mp h
    exact ih (fun b hb => hstep b (List.mem_cons_of_mem _ hb)) h
      (hstep a List.mem_cons_self s u hu hs)

/-- A loop whose every iteration succeeds under a property it keeps succeeds. -/
theorem forEach_succeeds {step : σ → α → Except ε σ} {P : σ → Prop} {items : List α} {s : σ}
    (hstep : ∀ a ∈ items, ∀ s, P s → ∃ t, step s a = .ok t ∧ P t) (hs : P s) :
    ∃ t, forEach step items s = .ok t ∧ P t := by
  induction items generalizing s with
  | nil => exact ⟨s, rfl, hs⟩
  | cons a rest ih =>
    obtain ⟨u, hu, hP⟩ := hstep a List.mem_cons_self s hs
    obtain ⟨t, ht, hPt⟩ := ih (fun b hb => hstep b (List.mem_cons_of_mem _ hb)) hP
    exact ⟨t, bind_eq_ok.mpr ⟨u, hu, ht⟩, hPt⟩

/-- A loop that appends every item that gets along with those before it. -/
theorem forEach_append_eq_ok {step : List α → α → Except ε (List α)} {Q : α → Prop}
    {R : α → α → Prop}
    (hstep : ∀ seen a next,
      step seen a = .ok next ↔ Q a ∧ (∀ b ∈ seen, R b a) ∧ next = seen ++ [a])
    {items seen last : List α} :
    forEach step items seen = .ok last ↔
      (∀ a ∈ items, Q a) ∧ (∀ b ∈ seen, ∀ a ∈ items, R b a) ∧ items.Pairwise R ∧
        last = seen ++ items := by
  induction items generalizing seen with
  | nil => simp [forEach, eq_comm]
  | cons a rest ih =>
    simp only [forEach, bind_eq_ok, hstep, List.forall_mem_cons, List.pairwise_cons]
    constructor
    · rintro ⟨next, ⟨hQ, hR, rfl⟩, hrest⟩
      obtain ⟨hitems, hseen, hpairwise, rfl⟩ := ih.mp hrest
      refine ⟨⟨hQ, hitems⟩, fun b hb => ⟨hR b hb, ?_⟩, ⟨?_, hpairwise⟩, by simp⟩
      · exact hseen b (List.mem_append_left _ hb)
      · exact hseen a (by simp)
    · rintro ⟨⟨hQ, hitems⟩, hseen, ⟨hfirst, hpairwise⟩, rfl⟩
      refine ⟨_, ⟨hQ, fun b hb => (hseen b hb).1, rfl⟩, ih.mpr ⟨hitems, ?_, hpairwise, by simp⟩⟩
      intro b hb
      rcases List.mem_append.mp hb with hb | hb
      · exact (hseen b hb).2
      · rw [List.mem_singleton.mp hb]
        exact hfirst

/-- A property of the state and the items left is kept by the whole loop. -/
theorem forEach_remaining {step : σ → α → Except ε σ} {P : List α → σ → Prop}
    (hkeep : ∀ a rest s t, P (a :: rest) s → step s a = .ok t → P rest t)
    {items : List α} {s t : σ} (h : forEach step items s = .ok t) (hs : P items s) : P [] t := by
  induction items generalizing s with
  | nil => simp only [forEach, Except.ok.injEq] at h; exact h ▸ hs
  | cons a rest ih =>
    obtain ⟨u, hu, h⟩ := bind_eq_ok.mp h
    exact ih h (hkeep a rest s u hs hu)

/-- A loop succeeds exactly when every item does, if no iteration decides for a later one. -/
theorem forEach_succeeds_iff {step : σ → α → Except ε σ} {P : List α → σ → Prop} {Q : α → Prop}
    (hiff : ∀ a rest s, P (a :: rest) s → ((∃ t, step s a = .ok t) ↔ Q a))
    (hkeep : ∀ a rest s t, P (a :: rest) s → step s a = .ok t → P rest t)
    {items : List α} {s : σ} (hs : P items s) :
    (∃ t, forEach step items s = .ok t) ↔ ∀ a ∈ items, Q a := by
  induction items generalizing s with
  | nil => simp [forEach]
  | cons a rest ih =>
    simp only [forEach, bind_eq_ok, List.mem_cons, forall_eq_or_imp]
    constructor
    · rintro ⟨t, u, hu, ht⟩
      exact ⟨(hiff a rest s hs).mp ⟨u, hu⟩, (ih (hkeep a rest s u hs hu)).mp ⟨t, ht⟩⟩
    · rintro ⟨ha, hrest⟩
      obtain ⟨u, hu⟩ := (hiff a rest s hs).mpr ha
      obtain ⟨t, ht⟩ := (ih (hkeep a rest s u hs hu)).mpr hrest
      exact ⟨t, u, hu, ht⟩

/-- A loop whose turns only check before they compute succeeds when every check does. -/
theorem forEach_eq_ok_foldl {step : σ → α → Except ε σ} {f : σ → α → σ} {P : List α → σ → Prop}
    {Q : α → Prop}
    (hstep : ∀ a rest s t, P (a :: rest) s → (step s a = .ok t ↔ Q a ∧ f s a = t))
    (hkeep : ∀ a rest s, P (a :: rest) s → Q a → P rest (f s a))
    {items : List α} {s t : σ} (hs : P items s) :
    forEach step items s = .ok t ↔ (∀ a ∈ items, Q a) ∧ items.foldl f s = t := by
  induction items generalizing s with
  | nil => simp [forEach]
  | cons a rest ih =>
    simp only [forEach, bind_eq_ok, List.mem_cons, forall_eq_or_imp, List.foldl_cons]
    constructor
    · rintro ⟨u, hu, h⟩
      obtain ⟨ha, rfl⟩ := (hstep a rest s u hs).mp hu
      obtain ⟨hrest, ht⟩ := (ih (hkeep a rest s hs ha)).mp h
      exact ⟨⟨ha, hrest⟩, ht⟩
    · rintro ⟨⟨ha, hrest⟩, ht⟩
      exact ⟨f s a, (hstep a rest s _ hs).mpr ⟨ha, rfl⟩,
        (ih (hkeep a rest s hs ha)).mpr ⟨hrest, ht⟩⟩

/-- A loop that only checks succeeds when every check does. -/
theorem forEach_unit_eq_ok {check : α → Except ε Unit} {items : List α} {u v : Unit} :
    forEach (fun _ a => check a) items u = .ok v ↔ ∀ a ∈ items, check a = .ok () := by
  induction items generalizing u with
  | nil => simp [forEach]
  | cons a rest ih =>
    simp only [forEach, bind_eq_ok, List.mem_cons, forall_eq_or_imp, ih]
    exact ⟨fun ⟨_, ha, hrest⟩ => ⟨ha, hrest⟩, fun ⟨ha, hrest⟩ => ⟨(), ha, hrest⟩⟩

/-- Checks every item and rejects the first whose key was seen before. -/
@[grind =] def forDistinct {κ : Type} [DecidableEq κ] (check : α → Except ε Unit) (key : α → κ)
    (duplicate : ε) : List α → List κ → Except ε Unit
  | [], _ => .ok ()
  | a :: rest, seen => do
    check a
    require (key a ∉ seen) duplicate
    forDistinct check key duplicate rest (key a :: seen)

theorem forDistinct_eq_ok {κ : Type} [DecidableEq κ] {check : α → Except ε Unit} {key : α → κ}
    {duplicate : ε} {items : List α} {seen : List κ} {u : Unit} :
    forDistinct check key duplicate items seen = .ok u ↔
      (∀ a ∈ items, check a = .ok ()) ∧ (items.map key).Nodup ∧ ∀ a ∈ items, key a ∉ seen := by
  induction items generalizing seen with
  | nil => simp [forDistinct]
  | cons a rest ih =>
    simp only [forDistinct, bind_eq_ok, require_eq_ok, exists_const, ih, List.mem_cons,
      forall_eq_or_imp, List.map_cons, List.nodup_cons, List.mem_map, not_exists, not_and, not_or]
    constructor
    · rintro ⟨⟨⟩, hcheck, hseen, hrest, hnodup, hfresh⟩
      exact ⟨⟨hcheck, hrest⟩, ⟨fun b hb => (hfresh b hb).1, hnodup⟩, hseen,
        fun b hb => (hfresh b hb).2⟩
    · rintro ⟨⟨hcheck, hrest⟩, ⟨hhead, hnodup⟩, hseen, hfresh⟩
      exact ⟨(), hcheck, hseen, hrest, hnodup, fun b hb => ⟨hhead b hb, hfresh b hb⟩⟩

/-! ## Reachable states -/

open Relation in
/-- What holds initially and is kept by every step holds after every run. -/
theorem invariant_of_step {State : Type*} {step : State → State → Prop} {P : State → Prop}
    (hstep : ∀ s t, step s t → P s → P t) {s t : State} (h : ReflTransGen step s t) (hs : P s) :
    P t := by
  induction h with
  | refl => exact hs
  | tail _ hst ih => exact hstep _ _ hst ih

end Quillframe
