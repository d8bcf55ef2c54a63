import Mathlib.Logic.Relation
import Mathlib.Tactic

/-!
# Callers of a shared store

A caller is a tree of transactions on a store and of requests that leave the process. Any number
of callers run at once; between two transactions of one caller the others, and the rest of the
world, may change the store, and a caller may stop at any point. Invariants are proved caller by
caller: what a caller has learned must be stable under a relation that every transaction, its
own included, stays within.
-/
namespace Quillframe

/-- A caller with operations `Op`, requests `Q` answered by `R`, errors `ε` and results `α`. A
failed transaction ends the call. -/
inductive Process (Op : Type → Type) (ε Q R α : Type) : Type 1 where
  | done (outcome : Except ε α)
  | transact {β : Type} (op : Op β) (next : β → Process Op ε Q R α)
  | send (request : Q) (next : R → Process Op ε Q R α)

namespace Process

variable {Op : Type → Type} {σ ε Q R α β : Type}

def bind (process : Process Op ε Q R α) (rest : α → Process Op ε Q R β) :
    Process Op ε Q R β :=
  match process with
  | done (.ok a) => rest a
  | done (.error e) => done (.error e)
  | transact op next => transact op fun answer => (next answer).bind rest
  | send request next => send request fun response => (next response).bind rest

instance : Monad (Process Op ε Q R) where
  pure a := done (.ok a)
  bind := bind

/-- A computation without effects. -/
def ofExcept (outcome : Except ε α) : Process Op ε Q R α := done outcome

def perform (op : Op α) : Process Op ε Q R α := transact op fun answer => done (.ok answer)

def request (question : Q) : Process Op ε Q R R := send question fun answer => done (.ok answer)

end Process

/-- The store, the callers that are running and the requests sent so far. -/
structure Pool (Op : Type → Type) (σ ε Q R α : Type) where
  state : σ
  callers : List (Process Op ε Q R α)
  sent : List Q

/-- A system of callers: how an operation acts, which transactions are taken in which states,
which callers enter, and what else happens to the store. -/
structure Callers (Op : Type → Type) (σ ε Q R α : Type) where
  exec : ∀ {β : Type}, Op β → σ → Except ε (β × σ)
  permits : ∀ {β : Type}, Op β → σ → Prop
  enters : Process Op ε Q R α → Prop
  environment : σ → σ → Prop

namespace Callers

variable {Op : Type → Type} {σ ε Q R α : Type} (system : Callers Op σ ε Q R α)

inductive Step : Pool Op σ ε Q R α → Pool Op σ ε Q R α → Prop
  | enter {pool : Pool Op σ ε Q R α} (caller) (h : system.enters caller) :
      Step pool { pool with callers := pool.callers ++ [caller] }
  | transact {state state' : σ} {before after sent} {β : Type} (op : Op β) (next answer)
      (hpermits : system.permits op state) (h : system.exec op state = .ok (answer, state')) :
      Step ⟨state, before ++ .transact op next :: after, sent⟩
        ⟨state', before ++ next answer :: after, sent⟩
  | refuse {state : σ} {before after sent} {β : Type} (op : Op β) (next error)
      (h : system.exec op state = .error error) :
      Step ⟨state, before ++ .transact op next :: after, sent⟩
        ⟨state, before ++ .done (.error error) :: after, sent⟩
  | send {state : σ} {before after sent} (request next response) :
      Step ⟨state, before ++ .send request next :: after, sent⟩
        ⟨state, before ++ next response :: after, sent ++ [request]⟩
  | stop {state : σ} {before after sent} (caller) :
      Step ⟨state, before ++ caller :: after, sent⟩ ⟨state, before ++ after, sent⟩
  | environment {pool : Pool Op σ ε Q R α} (state') (h : system.environment pool.state state') :
      Step pool { pool with state := state' }

/-- Whatever the others do within `Rely`, every transaction of the caller keeps the invariant
and stays within `Rely`, and its result satisfies `post`. -/
def Holds {α : Type} (exec : ∀ {β : Type}, Op β → σ → Except ε (β × σ)) (Inv : σ → Prop)
    (Rely : σ → σ → Prop) (post : α → σ → Prop) : Process Op ε Q R α → σ → Prop
  | .done (.ok a), state => post a state
  | .done (.error _), _ => True
  | .transact op next, state => ∀ state', Rely state state' → Inv state' →
      ∀ answer state'', exec op state' = .ok (answer, state'') →
        Inv state'' ∧ Rely state' state'' ∧ Holds exec Inv Rely post (next answer) state''
  | .send _ next, state => ∀ response, Holds exec Inv Rely post (next response) state

section Rules

variable {exec : ∀ {β : Type}, Op β → σ → Except ε (β × σ)} {Inv : σ → Prop}
  {Rely : σ → σ → Prop} {α β : Type} {post : α → σ → Prop}

/-- What a caller has learned survives the others. -/
theorem Holds.mono (htrans : ∀ a b c, Rely a b → Rely b c → Rely a c)
    (hpost : ∀ a state state', Rely state state' → post a state → post a state')
    {process : Process Op ε Q R α} {state state' : σ} (hrely : Rely state state')
    (h : Holds exec Inv Rely post process state) : Holds exec Inv Rely post process state' := by
  induction process with
  | done outcome =>
    cases outcome with
    | ok a => exact hpost a state state' hrely h
    | error e => trivial
  | transact op next =>
    intro later hlater hinv answer after hexec
    exact h later (htrans _ _ _ hrely hlater) hinv answer after hexec
  | send request next ih => exact fun response => ih response (h response)

/-- Weakening the postcondition. -/
theorem Holds.weaken {post' : α → σ → Prop} (hpost : ∀ a state, post a state → post' a state)
    {process : Process Op ε Q R α} {state : σ} (h : Holds exec Inv Rely post process state) :
    Holds exec Inv Rely post' process state := by
  induction process generalizing state with
  | done outcome =>
    cases outcome with
    | ok a => exact hpost a state h
    | error e => trivial
  | transact op next ih =>
    intro later hlater hinv answer after hexec
    obtain ⟨hinv', hrely', hnext⟩ := h later hlater hinv answer after hexec
    exact ⟨hinv', hrely', ih answer hnext⟩
  | send request next ih => exact fun response => ih response (h response)

theorem Holds.bind {post' : β → σ → Prop} {process : Process Op ε Q R α}
    {rest : α → Process Op ε Q R β} {state : σ}
    (h : Holds exec Inv Rely (fun a state => Holds exec Inv Rely post' (rest a) state)
      process state) :
    Holds exec Inv Rely post' (process.bind rest) state := by
  induction process generalizing state with
  | done outcome =>
    cases outcome with
    | ok a => exact h
    | error e => trivial
  | transact op next ih =>
    intro later hlater hinv answer after hexec
    obtain ⟨hinv', hrely', hnext⟩ := h later hlater hinv answer after hexec
    exact ⟨hinv', hrely', ih answer hnext⟩
  | send request next ih => exact fun response => ih response (h response)

theorem Holds.ofExcept {outcome : Except ε α} {state : σ}
    (h : ∀ a, outcome = .ok a → post a state) :
    Holds exec Inv Rely post (.ofExcept outcome : Process Op ε Q R α) state := by
  cases outcome with
  | ok a => exact h a rfl
  | error e => trivial

theorem Holds.perform {op : Op α} {state : σ}
    (h : ∀ state', Rely state state' → Inv state' → ∀ answer state'',
      exec op state' = .ok (answer, state'') →
        Inv state'' ∧ Rely state' state'' ∧ post answer state'') :
    Holds exec Inv Rely post (.perform op : Process Op ε Q R α) state := h

end Rules

/-- The invariant of the store, and every running caller on its way. -/
theorem invariant {Inv : σ → Prop} {Rely : σ → σ → Prop} (hrefl : ∀ state, Rely state state)
    (htrans : ∀ a b c, Rely a b → Rely b c → Rely a c)
    (henters : ∀ caller, system.enters caller → ∀ state, Inv state →
      Holds system.exec Inv Rely (fun _ _ => True) caller state)
    (henvironment : ∀ state state', system.environment state state' → Inv state →
      Inv state' ∧ Rely state state')
    {pool pool' : Pool Op σ ε Q R α} (hrun : Relation.ReflTransGen system.Step pool pool')
    (hinv : Inv pool.state)
    (hcallers : ∀ caller ∈ pool.callers,
      Holds system.exec Inv Rely (fun _ _ => True) caller pool.state) :
    Inv pool'.state ∧ ∀ caller ∈ pool'.callers,
      Holds system.exec Inv Rely (fun _ _ => True) caller pool'.state := by
  have hstable : ∀ {caller : Process Op ε Q R α} {state state' : σ}, Rely state state' →
      Holds system.exec Inv Rely (fun _ _ => True) caller state →
      Holds system.exec Inv Rely (fun _ _ => True) caller state' :=
    fun hrely h => h.mono htrans (fun _ _ _ _ _ => trivial) hrely
  induction hrun with
  | refl => exact ⟨hinv, hcallers⟩
  | tail _ hstep ih =>
    obtain ⟨hinv, hcallers⟩ := ih
    -- the other callers keep what they know when one of them moves on
    have hmove : ∀ {state state' : σ} {before after : List (Process Op ε Q R α)}
        {caller caller' : Process Op ε Q R α}, Rely state state' →
        (∀ p ∈ before ++ caller :: after,
          Holds system.exec Inv Rely (fun _ _ => True) p state) →
        Holds system.exec Inv Rely (fun _ _ => True) caller' state' →
        ∀ p ∈ before ++ caller' :: after,
          Holds system.exec Inv Rely (fun _ _ => True) p state' := by
      intro state state' before after caller caller' hrely hall hnew p hp
      rcases List.mem_append.mp hp with hp | hp
      · exact hstable hrely (hall p (List.mem_append_left _ hp))
      · rcases List.mem_cons.mp hp with rfl | hp
        · exact hnew
        · exact hstable hrely (hall p (List.mem_append_right _ (List.mem_cons_of_mem _ hp)))
    cases hstep with
    | enter caller henter =>
      refine ⟨hinv, fun p hp => ?_⟩
      rcases List.mem_append.mp hp with hp | hp
      · exact hcallers p hp
      · rw [List.mem_singleton.mp hp]
        exact henters caller henter _ hinv
    | transact op next answer _ hexec =>
      have hcaller := hcallers _ (List.mem_append_right _ List.mem_cons_self)
      obtain ⟨hinv', hrely, hnext⟩ := hcaller _ (hrefl _) hinv answer _ hexec
      exact ⟨hinv', hmove hrely hcallers hnext⟩
    | refuse op next error => exact ⟨hinv, hmove (hrefl _) hcallers trivial⟩
    | send request next response =>
      have hcaller := hcallers _ (List.mem_append_right _ List.mem_cons_self)
      exact ⟨hinv, hmove (hrefl _) hcallers (hcaller response)⟩
    | stop caller =>
      refine ⟨hinv, fun p hp => hcallers p ?_⟩
      rcases List.mem_append.mp hp with hp | hp
      · exact List.mem_append_left _ hp
      · exact List.mem_append_right _ (List.mem_cons_of_mem _ hp)
    | environment state' henv =>
      obtain ⟨hinv', hrely⟩ := henvironment _ _ henv hinv
      exact ⟨hinv', fun p hp => hstable hrely (hcallers p hp)⟩

end Callers

end Quillframe
