import Quillframe.Fallible

/-!
# Computations that commit

A computation that alone writes a durable storage reads it, fails and commits. It may commit
several times, and a crash may stop it behind any commit: it leaves the storage of its last commit.
-/
namespace Quillframe

variable {ε σ α β : Type}

/-- The storages that are committed, the oldest first, with the result. -/
def Commits (ε σ α : Type) := σ → List σ × Except ε α

namespace Commits

/-- The storage behind some commits. -/
def last : σ → List σ → σ
  | s, [] => s
  | _, t :: rest => last t rest

def read (x : σ → Except ε α) : Commits ε σ α := fun s => ([], x s)

/-- A transaction, which commits what its body makes of the storage. -/
def commit (body : σ → Except ε σ) : Commits ε σ Unit := fun s =>
  match body s with
  | .ok t => ([t], .ok ())
  | .error e => ([], .error e)

/-- The second computation runs on the storage that the first one leaves. -/
protected def bind (x : Commits ε σ α) (f : α → Commits ε σ β) : Commits ε σ β := fun s =>
  match x s with
  | (commits, .error e) => (commits, .error e)
  | (commits, .ok a) => (commits ++ (f a (last s commits)).1, (f a (last s commits)).2)

instance : Monad (Commits ε σ) where
  pure a := fun _ => ([], .ok a)
  bind := Commits.bind

/-- The storage that a computation leaves when it is stopped behind some of its commits. -/
def stopped (x : Commits ε σ α) (count : ℕ) (s : σ) : σ := last s ((x s).1.take count)

/-! ## What a computation does to a storage -/

/-- Every commit is a step, and a result comes with a storage it holds of. -/
def Holds (step : σ → σ → Prop) (x : Commits ε σ α) (s : σ) (post : α → σ → Prop) : Prop :=
  List.IsChain step (s :: (x s).1) ∧ ∀ a, (x s).2 = .ok a → post a (last s (x s).1)

section Rules

variable {step : σ → σ → Prop} {s t : σ} {x : Commits ε σ α} {f : α → Commits ε σ β}
  {post : α → σ → Prop} {post' : β → σ → Prop}

theorem last_append (s : σ) (commits more : List σ) :
    last s (commits ++ more) = last (last s commits) more := by
  induction commits generalizing s with
  | nil => rfl
  | cons t rest ih => exact ih t

theorem isChain_append {commits more : List σ} (hcommits : List.IsChain step (s :: commits))
    (hmore : List.IsChain step (last s commits :: more)) :
    List.IsChain step (s :: (commits ++ more)) := by
  induction commits generalizing s with
  | nil => exact hmore
  | cons t rest ih =>
    rw [List.isChain_cons_cons] at hcommits
    rw [List.cons_append, List.isChain_cons_cons]
    exact ⟨hcommits.1, ih hcommits.2 hmore⟩

theorem Holds.pure {a : α} (h : post a s) : Holds step (pure a : Commits ε σ α) s post := by
  refine ⟨List.isChain_singleton s, ?_⟩
  intro b hb
  exact Except.ok.inj hb ▸ h

theorem Holds.read {x : σ → Except ε α} (h : ∀ a, x s = .ok a → post a s) :
    Holds step (read x) s post :=
  ⟨List.isChain_singleton s, h⟩

theorem Holds.commit {body : σ → Except ε σ} {post : Unit → σ → Prop}
    (h : ∀ t, body s = .ok t → step s t ∧ post () t) : Holds step (commit body) s post := by
  unfold Holds Commits.commit
  cases hbody : body s with
  | error e => simp
  | ok t =>
    obtain ⟨hstep, hpost⟩ := h t hbody
    refine ⟨by simpa using hstep, ?_⟩
    intro u _
    exact hpost

theorem bind_of_error {commits : List σ} {e : ε} (h : x s = (commits, .error e)) :
    (x >>= f) s = (commits, .error e) := by
  change Commits.bind x f s = _
  rw [Commits.bind, h]

theorem bind_of_ok {commits : List σ} {a : α} (h : x s = (commits, .ok a)) :
    (x >>= f) s = (commits ++ (f a (last s commits)).1, (f a (last s commits)).2) := by
  change Commits.bind x f s = _
  rw [Commits.bind, h]

theorem Holds.bind (hx : Holds step x s post)
    (hf : ∀ a t, post a t → Holds step (f a) t post') : Holds step (x >>= f) s post' := by
  obtain ⟨hchain, hpost⟩ := hx
  unfold Holds
  cases hresult : x s with
  | mk commits result =>
    rw [hresult] at hchain hpost
    cases result with
    | error e =>
      rw [bind_of_error hresult]
      refine ⟨hchain, ?_⟩
      intro b hb
      cases hb
    | ok a =>
      obtain ⟨hmore, hafter⟩ := hf a (last s commits) (hpost a rfl)
      rw [bind_of_ok hresult]
      refine ⟨isChain_append hchain hmore, ?_⟩
      intro b hb
      rw [last_append]
      exact hafter b hb

theorem Holds.read_bind {x : σ → Except ε α}
    (h : ∀ a, x s = .ok a → Holds step (f a) s post') :
    Holds step (Commits.read x >>= f) s post' := by
  have hread : Holds step (Commits.read x) s fun a t => t = s ∧ x s = .ok a :=
    Holds.read fun a ha => ⟨rfl, ha⟩
  apply hread.bind
  intro a t ht
  rw [ht.1]
  exact h a ht.2

theorem Holds.commit_bind {body : σ → Except ε σ} {f : Unit → Commits ε σ β}
    (h : ∀ t, body s = .ok t → step s t ∧ Holds step (f ()) t post') :
    Holds step (Commits.commit body >>= f) s post' := by
  have hcommit : Holds step (Commits.commit body) s fun _ t => Holds step (f ()) t post' :=
    Holds.commit h
  exact hcommit.bind fun _ _ ht => ht

theorem Holds.imp {step' : σ → σ → Prop} (h : Holds step x s post)
    (hstep : ∀ s t, step s t → step' s t) : Holds step' x s post :=
  ⟨h.1.imp hstep, h.2⟩

/-- Wherever the computation is stopped, it has taken steps. -/
theorem Holds.stopped (h : Holds step x s post) (count : ℕ) :
    Relation.ReflTransGen step s (x.stopped count s) := by
  have hpath : ∀ (commits : List σ) (s : σ), List.IsChain step (s :: commits) →
      Relation.ReflTransGen step s (last s commits) := by
    intro commits
    induction commits with
    | nil => exact fun _ _ => .refl
    | cons t rest ih =>
      intro s hchain
      rw [List.isChain_cons_cons] at hchain
      exact .head hchain.1 (ih t hchain.2)
  apply hpath
  exact h.1.take (count + 1)

end Rules

end Commits

end Quillframe
