import Quillframe.Fallible

/-!
# Procedures that share a storage

A procedure runs in atomic actions. Between two of them other procedures may act, and a crash may
end it behind any of them. What a procedure does is proved from what the others may do.
-/
namespace Quillframe

variable {ε σ α β : Type}

/-- What is left of a procedure: its result, or an action and the rest, which sees the storage that
the action found. -/
inductive Procedure (ε σ α : Type) where
  | done (result : Except ε α)
  | act (change : σ → σ) (next : σ → Procedure ε σ α)

namespace Procedure

protected def bind : Procedure ε σ α → (α → Procedure ε σ β) → Procedure ε σ β
  | done (.ok a), f => f a
  | done (.error e), _ => done (.error e)
  | act change next, f => act change fun s => (next s).bind f

instance : Monad (Procedure ε σ) where
  pure a := done (.ok a)
  bind := Procedure.bind

/-- A computation that needs no storage. -/
def raise (result : Except ε α) : Procedure ε σ α := done result

/-- An action that only looks at the storage. -/
def look (body : σ → Except ε α) : Procedure ε σ α := act id fun s => done (body s)

/-- The storage of a transaction, which a failure rolls back. -/
def committed (s : σ) : Except ε (α × σ) → σ
  | .ok (_, t) => t
  | .error _ => s

def transact (body : σ → Except ε (α × σ)) : Procedure ε σ α :=
  act (fun s => committed s (body s)) fun s => done ((body s).map Prod.fst)

/-! ## Procedures that run alone -/

/-- The storage that a procedure leaves, and its result. -/
def alone : Procedure ε σ α → σ → σ × Except ε α
  | done result, s => (s, result)
  | act change next, s => (next s).alone (change s)

/-- The storage and what is left of a procedure behind some of its actions. -/
def after : Procedure ε σ α → ℕ → σ → σ × Procedure ε σ α
  | act change next, n + 1, s => (next s).after n (change s)
  | x, _, s => (s, x)

section Alone

variable {s t u : σ} {x : Procedure ε σ α} {f : α → Procedure ε σ β} {a : α} {e : ε}
  {post : α → σ → Prop} {post' : β → σ → Prop}

theorem alone_bind_of_ok (h : x.alone s = (t, .ok a)) : (x >>= f).alone s = (f a).alone t := by
  change (x.bind f).alone s = _
  induction x generalizing s with
  | done result =>
    simp only [alone, Prod.mk.injEq] at h
    rw [h.1, h.2]
    rfl
  | act change next ih => exact ih s h

theorem alone_bind_of_error (h : x.alone s = (t, .error e)) :
    (x >>= f).alone s = (t, .error e) := by
  change (x.bind f).alone s = _
  induction x generalizing s with
  | done result =>
    simp only [alone, Prod.mk.injEq] at h
    rw [h.1, h.2]
    rfl
  | act change next ih => exact ih s h

theorem alone_raise_bind {result : Except ε α} (h : result = .ok a) :
    (raise result >>= f).alone s = (f a).alone s := by
  subst h
  rfl

theorem alone_look_bind {body : σ → Except ε α} (h : body s = .ok a) :
    (look body >>= f).alone s = (f a).alone s := by
  apply alone_bind_of_ok
  simp only [look, alone, h, id_eq]

/-- A procedure that runs alone ends with a result, and something holds then. -/
def Succeeds (post : α → σ → Prop) (x : Procedure ε σ α) (s : σ) : Prop :=
  ∃ a t, x.alone s = (t, .ok a) ∧ post a t

theorem Succeeds.pure (h : post a s) : Succeeds post (pure a : Procedure ε σ α) s :=
  ⟨a, s, rfl, h⟩

theorem Succeeds.bind (hx : Succeeds post x s) (hf : ∀ a t, post a t → Succeeds post' (f a) t) :
    Succeeds post' (x >>= f) s := by
  obtain ⟨a, t, halone, hpost⟩ := hx
  unfold Succeeds
  rw [alone_bind_of_ok halone]
  exact hf a t hpost

theorem Succeeds.raise_bind {result : Except ε α} (h : result = .ok a)
    (hf : Succeeds post' (f a) s) : Succeeds post' (raise result >>= f) s := by
  subst h
  exact hf

theorem Succeeds.require_bind {p : Prop} [Decidable p] {f : Unit → Procedure ε σ β} (h : p)
    (hf : Succeeds post' (f ()) s) : Succeeds post' (raise (require p e) >>= f) s :=
  Succeeds.raise_bind (require_eq_ok.mpr h) hf

theorem Succeeds.look {body : σ → Except ε α} (h : body s = .ok a) (hpost : post a s) :
    Succeeds post (Procedure.look body) s := by
  refine ⟨a, s, ?_, hpost⟩
  simp only [Procedure.look, alone, h, id_eq]

theorem Succeeds.look_bind {body : σ → Except ε α} (h : body s = .ok a)
    (hf : Succeeds post' (f a) s) : Succeeds post' (Procedure.look body >>= f) s := by
  have hstep : Succeeds (fun b u => b = a ∧ u = s) (Procedure.look body) s :=
    Succeeds.look h ⟨rfl, rfl⟩
  apply hstep.bind
  rintro _ _ ⟨rfl, rfl⟩
  exact hf

theorem Succeeds.transact {body : σ → Except ε (α × σ)} (h : body s = .ok (a, t))
    (hpost : post a t) : Succeeds post (transact body) s := by
  refine ⟨a, t, ?_, hpost⟩
  simp only [Procedure.transact, alone, h, committed, Except.map]

theorem Succeeds.transact_bind {body : σ → Except ε (α × σ)} (h : body s = .ok (a, t))
    (hf : Succeeds post' (f a) t) : Succeeds post' (Procedure.transact body >>= f) s := by
  have hstep : Succeeds (fun b u => b = a ∧ u = t) (Procedure.transact body) s :=
    Succeeds.transact h ⟨rfl, rfl⟩
  apply hstep.bind
  rintro _ _ ⟨rfl, rfl⟩
  exact hf

end Alone

/-! ## Procedures among others -/

end Procedure

/-- What holds of a storage, what others may do to it, and what a procedure does. -/
structure Terms (σ : Type) where
  invariant : σ → Prop
  rely : σ → σ → Prop
  guarantee : σ → σ → Prop

namespace Terms

variable (terms : Terms σ)

/-- What others make of a storage. -/
def Later : σ → σ → Prop := Relation.ReflTransGen fun s t => terms.rely s t ∧ terms.invariant t

/-- What others and the procedure itself make of a storage. -/
def Follows : σ → σ → Prop :=
  Relation.ReflTransGen fun s t => (terms.rely s t ∨ terms.guarantee s t) ∧ terms.invariant t

/-- A fact of some moment in between. -/
def Seen (s : σ) (p : σ → Prop) (u : σ) : Prop :=
  ∃ t, terms.Follows s t ∧ terms.invariant t ∧ terms.Follows t u ∧ p t

/-- Whatever others do before each action, the procedure keeps its promises, and a result comes
with a storage it holds of. -/
def Safe (post : α → σ → Prop) : Procedure ε σ α → σ → Prop
  | .done (.ok a), s => ∀ t, terms.Later s t → post a t
  | .done (.error _), _ => True
  | .act change next, s => ∀ t, terms.Later s t →
      terms.invariant (change t) ∧ (change t = t ∨ terms.guarantee t (change t)) ∧
        Safe post (next t) (change t)

section Rules

variable {terms} {s t : σ} {x : Procedure ε σ α} {f : α → Procedure ε σ β} {p : σ → Prop}
  {post : α → σ → Prop} {post' : β → σ → Prop}

theorem Later.invariant (h : terms.Later s t) (hs : terms.invariant s) : terms.invariant t := by
  induction h with
  | refl => exact hs
  | tail _ hstep _ => exact hstep.2

theorem Later.follows (h : terms.Later s t) : terms.Follows s t := by
  induction h with
  | refl => exact .refl
  | tail _ hstep ih => exact ih.tail ⟨.inl hstep.1, hstep.2⟩

/-- A fact that others leave alone. -/
theorem Later.keeps (hp : ∀ s t, terms.invariant s → terms.rely s t → p s → p t)
    (hs : terms.invariant s) (h : terms.Later s t) (hps : p s) : p t := by
  induction h with
  | refl => exact hps
  | tail hbefore hstep ih => exact hp _ _ (Later.invariant hbefore hs) hstep.1 ih

theorem Follows.invariant (h : terms.Follows s t) (hs : terms.invariant s) :
    terms.invariant t := by
  induction h with
  | refl => exact hs
  | tail _ hstep _ => exact hstep.2

/-- A fact that nobody changes. -/
theorem Follows.keeps
    (hp : ∀ s t, terms.invariant s → terms.rely s t ∨ terms.guarantee s t → p s → p t)
    (hs : terms.invariant s) (h : terms.Follows s t) (hps : p s) : p t := by
  induction h with
  | refl => exact hps
  | tail hbefore hstep ih => exact hp _ _ (Follows.invariant hbefore hs) hstep.1 ih

theorem Seen.follows {u : σ} (h : terms.Seen s p t) (hu : terms.Follows t u) :
    terms.Seen s p u := by
  obtain ⟨r, hbefore, hr, hafter, hp⟩ := h
  exact ⟨r, hbefore, hr, hafter.trans hu, hp⟩

theorem Seen.after {r : σ} (h : terms.Seen s p t) (hr : terms.Follows r s) :
    terms.Seen r p t := by
  obtain ⟨u, hbefore, hu, hafter, hp⟩ := h
  exact ⟨u, hr.trans hbefore, hu, hafter, hp⟩

theorem Safe.later (h : terms.Safe post x s) (hlater : terms.Later s t) :
    terms.Safe post x t := by
  cases x with
  | done result =>
    cases result with
    | error e => trivial
    | ok a => exact fun u hu => h u (hlater.trans hu)
  | act change next => exact fun u hu => h u (hlater.trans hu)

theorem Safe.pure {a : α} (h : ∀ t, terms.Later s t → post a t) :
    terms.Safe post (pure a : Procedure ε σ α) s := h

theorem Safe.imp {post' : α → σ → Prop} (hx : terms.Safe post x s)
    (h : ∀ a t, post a t → post' a t) : terms.Safe post' x s := by
  induction x generalizing s with
  | done result =>
    cases result with
    | error e => trivial
    | ok a => exact fun t hlater => h a t (hx t hlater)
  | act change next ih =>
    intro t hlater
    obtain ⟨hinvariant, hguarantee, hnext⟩ := hx t hlater
    exact ⟨hinvariant, hguarantee, ih t hnext⟩

/-- The storage that a result comes with follows the one that the procedure found. -/
theorem Safe.followed (hx : terms.Safe post x s) :
    terms.Safe (fun a t => terms.Follows s t ∧ post a t) x s := by
  induction x generalizing s with
  | done result =>
    cases result with
    | error e => trivial
    | ok a => exact fun t hlater => ⟨hlater.follows, hx t hlater⟩
  | act change next ih =>
    intro t hlater
    obtain ⟨hinvariant, hguarantee, hnext⟩ := hx t hlater
    refine ⟨hinvariant, hguarantee, (ih t hnext).imp fun a u h => ⟨?_, h.2⟩⟩
    apply hlater.follows.trans
    rcases hguarantee with hsame | hguarantee
    · exact hsame ▸ h.1
    · exact .head ⟨.inr hguarantee, hinvariant⟩ h.1

theorem Safe.bind (hs : terms.invariant s) (hx : terms.Safe post x s)
    (hf : ∀ a t, terms.invariant t → terms.Follows s t → post a t →
      terms.Safe post' (f a) t) : terms.Safe post' (x >>= f) s := by
  have hbind : ∀ {t}, terms.Safe (fun a u => terms.Follows s u ∧ post a u) x t →
      terms.Safe post' (x.bind f) t := by
    clear hx
    induction x with
    | done result =>
      intro t hx
      cases result with
      | error e => trivial
      | ok a =>
        obtain ⟨hfollows, hpost⟩ := hx t .refl
        exact hf a t (hfollows.invariant hs) hfollows hpost
    | act change next ih =>
      intro t hx u hlater
      obtain ⟨hinvariant, hguarantee, hnext⟩ := hx u hlater
      exact ⟨hinvariant, hguarantee, ih u hnext⟩
  exact hbind hx.followed

theorem Safe.raise_bind {result : Except ε α}
    (h : ∀ a, result = .ok a → terms.Safe post' (f a) s) :
    terms.Safe post' (Procedure.raise result >>= f) s := by
  cases result with
  | error e => trivial
  | ok a => exact h a rfl

theorem Safe.look_bind {body : σ → Except ε α} (hs : terms.invariant s)
    (h : ∀ t a, terms.Later s t → terms.invariant t → body t = .ok a →
      terms.Safe post' (f a) t) :
    terms.Safe post' (Procedure.look body >>= f) s := by
  intro t hlater
  have ht := hlater.invariant hs
  refine ⟨ht, .inl rfl, ?_⟩
  apply Safe.raise_bind
  intro a ha
  exact h t a hlater ht ha

/-- A failed transaction changes nothing. -/
theorem Safe.transact_bind {body : σ → Except ε (α × σ)} (hs : terms.invariant s)
    (h : ∀ t a u, terms.Later s t → terms.invariant t → body t = .ok (a, u) →
      terms.invariant u ∧ (u = t ∨ terms.guarantee t u) ∧ terms.Safe post' (f a) u) :
    terms.Safe post' (Procedure.transact body >>= f) s := by
  intro t hlater
  have ht := hlater.invariant hs
  change terms.invariant (Procedure.committed t (body t)) ∧
    (Procedure.committed t (body t) = t ∨ terms.guarantee t (Procedure.committed t (body t))) ∧
    terms.Safe post' (Procedure.done ((body t).map Prod.fst) >>= f) (Procedure.committed t (body t))
  cases hbody : body t with
  | error e => exact ⟨ht, .inl rfl, trivial⟩
  | ok result =>
    obtain ⟨hinvariant, hguarantee, hnext⟩ := h t result.1 result.2 hlater ht hbody
    exact ⟨hinvariant, hguarantee, hnext⟩

theorem bind_pure_eq (x : Procedure ε σ α) : x >>= Pure.pure = x := by
  change x.bind Pure.pure = x
  induction x with
  | done result => cases result <;> rfl
  | act change next ih => exact congrArg (Procedure.act change) (funext ih)

theorem Safe.look {body : σ → Except ε α} (hs : terms.invariant s)
    (h : ∀ t a, terms.Later s t → terms.invariant t → body t = .ok a →
      ∀ u, terms.Later t u → post a u) :
    terms.Safe post (Procedure.look body) s := by
  rw [← bind_pure_eq (Procedure.look body)]
  exact Safe.look_bind hs h

theorem Safe.transact {body : σ → Except ε (α × σ)} (hs : terms.invariant s)
    (h : ∀ t a u, terms.Later s t → terms.invariant t → body t = .ok (a, u) →
      terms.invariant u ∧ (u = t ∨ terms.guarantee t u) ∧
        ∀ v, terms.Later u v → post a v) :
    terms.Safe post (Procedure.transact body) s := by
  rw [← bind_pure_eq (Procedure.transact body)]
  exact Safe.transact_bind hs h

end Rules

end Terms

/-! ## Ensembles -/

/-- Procedures that run side by side. -/
structure Ensemble (ε σ : Type) where
  storage : σ
  running : List (Procedure ε σ Unit)

namespace Ensemble

/-- One move of an ensemble: the outside acts, a procedure begins or acts, or a crash ends one. -/
inductive Move (begins : List (Procedure ε σ Unit) → σ → Procedure ε σ Unit → Prop)
    (outside : σ → σ → Prop) : Ensemble ε σ → Ensemble ε σ → Prop where
  | outside {s t : σ} {running : List (Procedure ε σ Unit)} (h : outside s t) :
      Move begins outside ⟨s, running⟩ ⟨t, running⟩
  | begin {s : σ} {running : List (Procedure ε σ Unit)} {x : Procedure ε σ Unit}
      (h : begins running s x) : Move begins outside ⟨s, running⟩ ⟨s, x :: running⟩
  | act {s : σ} {before after : List (Procedure ε σ Unit)} {change : σ → σ}
      {next : σ → Procedure ε σ Unit} :
      Move begins outside ⟨s, before ++ .act change next :: after⟩
        ⟨change s, before ++ next s :: after⟩
  | stop {s : σ} {before after : List (Procedure ε σ Unit)} {x : Procedure ε σ Unit} :
      Move begins outside ⟨s, before ++ x :: after⟩ ⟨s, before ++ after⟩

/-- The storage keeps its invariant and every procedure is safe from here on. Where several run,
each relies on no more than what all of them keep to. -/
structure Kept (terms : Terms σ) (p : Ensemble ε σ) : Prop where
  invariant : terms.invariant p.storage
  safe : ∀ x ∈ p.running, terms.Safe (fun _ _ => True) x p.storage
  crowd : p.running.length ≤ 1 ∨ ∀ s t, terms.guarantee s t → terms.rely s t

section Moves

variable {begins : List (Procedure ε σ Unit) → σ → Procedure ε σ Unit → Prop}
  {outside : σ → σ → Prop} {terms : Terms σ} {p q : Ensemble ε σ} {s t : σ}
  {running before after : List (Procedure ε σ Unit)} {x y : Procedure ε σ Unit}
  {change : σ → σ} {next : σ → Procedure ε σ Unit}

theorem Kept.stop (hp : Kept terms ⟨s, before ++ x :: after⟩) :
    Kept terms ⟨s, before ++ after⟩ := by
  refine ⟨hp.invariant, ?_, ?_⟩
  · intro y hy
    apply hp.safe
    simp only [List.mem_append, List.mem_cons] at hy ⊢
    tauto
  · apply hp.crowd.imp_left
    intro hlength
    simp only [List.length_append, List.length_cons] at hlength ⊢
    omega

/-- The procedures beside the one that acts. -/
theorem Kept.others (hp : Kept terms ⟨s, before ++ .act change next :: after⟩)
    (hinvariant : terms.invariant (change s))
    (hguarantee : change s = s ∨ terms.guarantee s (change s)) (hy : y ∈ before ++ after) :
    terms.Safe (fun _ _ => True) y (change s) := by
  have hsafe := hp.stop.safe y hy
  rcases hp.crowd with hlength | hcrowd
  · have hpositive := List.length_pos_of_mem hy
    simp only [List.length_append, List.length_cons] at hlength hpositive
    omega
  · rcases hguarantee with hsame | hguarantee
    · rw [hsame]
      exact hsafe
    · exact hsafe.later (.single ⟨hcrowd _ _ hguarantee, hinvariant⟩)

theorem Kept.act (hp : Kept terms ⟨s, before ++ .act change next :: after⟩) :
    Kept terms ⟨change s, before ++ next s :: after⟩ ∧
      (change s = s ∨ terms.guarantee s (change s)) := by
  obtain ⟨hinvariant, hguarantee, hnext⟩ :=
    hp.safe (.act change next) (by simp) s .refl
  refine ⟨⟨hinvariant, ?_, by simpa using hp.crowd⟩, hguarantee⟩
  intro y hy
  rcases List.mem_append.mp hy with hbefore | hafter
  · exact hp.others hinvariant hguarantee (List.mem_append_left _ hbefore)
  · rcases List.mem_cons.mp hafter with rfl | hafter
    · exact hnext
    · exact hp.others hinvariant hguarantee (List.mem_append_right _ hafter)

theorem Kept.interfere (hp : Kept terms ⟨s, running⟩) (ht : terms.invariant t)
    (h : terms.rely s t) : Kept terms ⟨t, running⟩ :=
  ⟨ht, fun x hx => (hp.safe x hx).later (.single ⟨h, ht⟩), hp.crowd⟩

theorem Kept.begin (hp : Kept terms ⟨s, running⟩) (hsafe : terms.Safe (fun _ _ => True) x s)
    (hcrowd : running = [] ∨ ∀ s t, terms.guarantee s t → terms.rely s t) :
    Kept terms ⟨s, x :: running⟩ := by
  refine ⟨hp.invariant, ?_, ?_⟩
  · intro y hy
    rcases List.mem_cons.mp hy with rfl | hy
    · exact hsafe
    · exact hp.safe y hy
  · apply hcrowd.imp_left
    intro hnone
    simp [hnone]

/-- What an ensemble keeps, and what a move does to the storage. -/
theorem Kept.move
    (hbegins : ∀ running s x, begins running s x → terms.invariant s →
      terms.Safe (fun _ _ => True) x s ∧
        (running = [] ∨ ∀ s t, terms.guarantee s t → terms.rely s t))
    (houtside : ∀ s t, outside s t → terms.invariant s → terms.rely s t ∧ terms.invariant t)
    (hp : Kept terms p) (h : Move begins outside p q) :
    Kept terms q ∧ (q.storage = p.storage ∨ outside p.storage q.storage ∨
      terms.guarantee p.storage q.storage) := by
  cases h with
  | outside hstep =>
    obtain ⟨hrely, hinvariant⟩ := houtside _ _ hstep hp.invariant
    exact ⟨hp.interfere hinvariant hrely, .inr (.inl hstep)⟩
  | begin hbegin =>
    obtain ⟨hsafe, hcrowd⟩ := hbegins _ _ _ hbegin hp.invariant
    exact ⟨hp.begin hsafe hcrowd, .inl rfl⟩
  | act =>
    obtain ⟨hkept, hguarantee⟩ := hp.act
    exact ⟨hkept, hguarantee.imp_right .inr⟩
  | stop => exact ⟨hp.stop, .inl rfl⟩

/-- A procedure may run alone from its first action to its end. -/
theorem moves_alone (x : Procedure ε σ Unit) (s : σ) :
    Relation.ReflTransGen (Move begins outside) ⟨s, x :: running⟩ ⟨(x.alone s).1, running⟩ := by
  induction x generalizing s with
  | done result =>
    have hstop : Move begins outside ⟨s, [] ++ .done result :: running⟩ ⟨s, [] ++ running⟩ := .stop
    exact .single hstop
  | act change next ih =>
    have hact : Move begins outside ⟨s, [] ++ .act change next :: running⟩
        ⟨change s, [] ++ next s :: running⟩ := .act
    exact .head hact (ih s (change s))

/-- A procedure may run alone until a crash ends it. -/
theorem moves_after (n : ℕ) (x : Procedure ε σ Unit) (s : σ) :
    Relation.ReflTransGen (Move begins outside) ⟨s, x :: running⟩ ⟨(x.after n s).1, running⟩ := by
  induction n generalizing x s with
  | zero =>
    have hstop : Move begins outside ⟨s, [] ++ x :: running⟩ ⟨s, [] ++ running⟩ := .stop
    have hsame : (x.after 0 s).1 = s := by cases x <;> rfl
    rw [hsame]
    exact .single hstop
  | succ n ih =>
    cases x with
    | done result =>
      have hstop : Move begins outside ⟨s, [] ++ .done result :: running⟩ ⟨s, [] ++ running⟩ :=
        .stop
      exact .single hstop
    | act change next =>
      have hact : Move begins outside ⟨s, [] ++ .act change next :: running⟩
          ⟨change s, [] ++ next s :: running⟩ := .act
      exact .head hact (ih (next s) (change s))

/-- What a run of an ensemble keeps. -/
theorem Kept.moves
    (hbegins : ∀ running s x, begins running s x → terms.invariant s →
      terms.Safe (fun _ _ => True) x s ∧
        (running = [] ∨ ∀ s t, terms.guarantee s t → terms.rely s t))
    (houtside : ∀ s t, outside s t → terms.invariant s → terms.rely s t ∧ terms.invariant t)
    (hp : Kept terms p) (h : Relation.ReflTransGen (Move begins outside) p q) :
    Kept terms q ∧ terms.Follows p.storage q.storage := by
  induction h with
  | refl => exact ⟨hp, .refl⟩
  | tail _ hmove ih =>
    obtain ⟨hkept, hfollows⟩ := ih
    obtain ⟨hnext, hsame | hstep | hguarantee⟩ := hkept.move hbegins houtside hmove
    · exact ⟨hnext, hsame ▸ hfollows⟩
    · obtain ⟨hrely, hinvariant⟩ := houtside _ _ hstep hkept.invariant
      exact ⟨hnext, hfollows.tail ⟨.inl hrely, hinvariant⟩⟩
    · exact ⟨hnext, hfollows.tail ⟨.inr hguarantee, hnext.invariant⟩⟩

end Moves

end Ensemble

end Quillframe
