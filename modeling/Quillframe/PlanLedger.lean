import Quillframe.Calls
import Quillframe.Planning

/-!
# The plan ledger

Stored proposals, the active plan of each target and the activations that were answered. The
status of a proposal is kept in two maps.
-/
namespace Quillframe

open Relation

variable {Fp : Type}

structure ActivePlan (Fp : Type) where
  proposal : PlanProposal Fp
  activeVersion : ℕ
  deriving DecidableEq

/-- `idempotency` holds the proposal and the version of each answered activation. -/
structure PlanLedger (Fp : Type) where
  proposals : OrderedMap String (PlanProposal Fp)
  active : OrderedMap String (ActivePlan Fp)
  idempotency : OrderedMap String (String × ℕ)
  deriving DecidableEq

/-- `current_version + 1` on `u64`. -/
def nextVersion (version : ℕ) : Outcome ℕ :=
  if version + 1 < 2 ^ 64 then .ok (version + 1) else .error .panicked

namespace PlanLedger

/-- `PlanLedger::default()`. -/
def initial : PlanLedger Fp := ⟨.empty, .empty, .empty⟩

/-- The version of the active plan of a target, zero without one. -/
def version (ledger : PlanLedger Fp) (reference : String) : ℕ :=
  ((ledger.active.get? reference).map (·.activeVersion)).getD 0

/-- `current.proposal.status = PlanStatus::Superseded` in the map of active plans. -/
def supersede (reference : String) (active : OrderedMap String (ActivePlan Fp)) :
    OrderedMap String (ActivePlan Fp) :=
  match active.get? reference with
  | some current => active.insert reference
    { current with proposal := { current.proposal with status := .superseded } }
  | none => active

variable [Sha256 Fp] [DecidableEq Fp]

def saveProposal (proposal : PlanProposal Fp) : Mutation Abort (PlanLedger Fp) Unit := do
  attempt proposal.validateFingerprint
  attempt (require (proposal.status = .proposal)
    (.invalidPlan "only proposal status may enter proposal storage"))
  let ledger ← get
  modify fun ledger => { ledger with proposals := ledger.proposals.insert proposal.id proposal }
  attempt (require (ledger.proposals.get? proposal.id = none)
    (.authorityConflict "proposal id already exists"))

/-- The answer to an activation whose idempotency key is known. -/
def replay (authorization : AuthorActivation Fp) (ledger : PlanLedger Fp)
    (prior : String × ℕ) : Mutation Abort (PlanLedger Fp) (ActivePlan Fp) := do
  attempt (require (prior.1 = authorization.proposalId)
    (.authorityConflict "idempotency key was used for a different proposal"))
  let proposal ← unwrap (ledger.proposals.get? prior.1)
  attempt (fetch ((ledger.active.get? proposal.target.reference).filter
      fun active => active.activeVersion = prior.2)
    (.authorityConflict "idempotent activation is no longer current"))

/-- An activation under a new idempotency key. -/
def activateNew (authorization : AuthorActivation Fp) (ledger : PlanLedger Fp) :
    Mutation Abort (PlanLedger Fp) (ActivePlan Fp) := do
  let proposal ← attempt (fetch (ledger.proposals.get? authorization.proposalId)
    (.authorityConflict "proposal does not exist"))
  attempt proposal.validateFingerprint
  attempt (require (proposal.fingerprint = authorization.proposalFingerprint)
    (.authorityConflict "proposal fingerprint changed"))
  let reference := proposal.target.reference
  let currentVersion := ledger.version reference
  attempt (require (¬ (currentVersion ≠ authorization.expectedActiveVersion ∨
      proposal.expectedActiveVersion ≠ authorization.expectedActiveVersion))
    (.authorityConflict "active plan version changed"))
  modify fun ledger => { ledger with active := supersede reference ledger.active }
  let activated := { proposal with status := .active }
  let version ← Mutation.check (nextVersion currentVersion)
  modify fun ledger => { ledger with
    proposals := ledger.proposals.insert activated.id activated }
  modify fun ledger => { ledger with
    active := ledger.active.insert reference ⟨activated, version⟩ }
  modify fun ledger => { ledger with
    idempotency :=
      ledger.idempotency.insert authorization.idempotencyKey (proposal.id, version) }
  let ledger ← get
  unwrap (ledger.active.get? reference)

def activate (authorization : AuthorActivation Fp) :
    Mutation Abort (PlanLedger Fp) (ActivePlan Fp) := do
  attempt authorization.validate
  let ledger ← get
  match ledger.idempotency.get? authorization.idempotencyKey with
  | some prior => replay authorization ledger prior
  | none => activateNew authorization ledger

/-! ## What each call does -/

theorem saveProposal_ok {proposal : PlanProposal Fp} {ledger next : PlanLedger Fp} {u : Unit}
    (h : saveProposal proposal ledger = .ok u next) :
    ledger.proposals.get? proposal.id = none ∧ proposal.status = .proposal ∧
      next = { ledger with proposals := ledger.proposals.insert proposal.id proposal } := by
  simp only [saveProposal, Mutation.bind_ok, Mutation.get_ok, attempt_ok, Mutation.modify_ok,
    require_eq_ok] at h
  obtain ⟨_, _, ⟨-, rfl⟩, _, _, ⟨hstatus, rfl⟩, _, _, ⟨rfl, rfl⟩, _, _, rfl, hnew, rfl⟩ := h
  exact ⟨hnew, hstatus, rfl⟩

/-- A refused proposal is left in the storage when its id was taken. -/
theorem saveProposal_failed {proposal : PlanProposal Fp} {ledger next : PlanLedger Fp}
    {e : CoreError} (h : saveProposal proposal ledger = .error (.failed e) next) :
    next = ledger ∨ ∃ stored, ledger.proposals.get? proposal.id = some stored ∧
      proposal.status = .proposal ∧
      next = { ledger with proposals := ledger.proposals.insert proposal.id proposal } := by
  simp only [saveProposal, Mutation.bind_error, Mutation.get_ok, Mutation.get_error, attempt_ok,
    attempt_failed, Mutation.modify_ok, Mutation.modify_error, false_or] at h
  rcases h with ⟨-, rfl⟩ | ⟨_, _, ⟨-, rfl⟩, ⟨-, rfl⟩ | ⟨_, _, ⟨hstatus, rfl⟩, _, _, ⟨rfl, rfl⟩, _, _,
    rfl, htaken, rfl⟩⟩
  · exact .inl rfl
  · exact .inl rfl
  · refine .inr ?_
    cases hstored : ledger.proposals.get? proposal.id with
    | none => simp [require, hstored] at htaken
    | some stored => exact ⟨stored, rfl, require_eq_ok.mp hstatus, rfl⟩

omit [Sha256 Fp] [DecidableEq Fp] in
theorem replay_ok {authorization : AuthorActivation Fp} {ledger next : PlanLedger Fp}
    {prior : String × ℕ} {plan : ActivePlan Fp}
    (h : replay authorization ledger prior ledger = .ok plan next) :
    next = ledger := by
  simp only [replay, Mutation.bind_ok, attempt_ok, unwrap_ok] at h
  obtain ⟨_, _, ⟨-, rfl⟩, _, _, ⟨-, rfl⟩, -, rfl⟩ := h
  rfl

theorem activateNew_ok {authorization : AuthorActivation Fp} {ledger next : PlanLedger Fp}
    {plan : ActivePlan Fp} (h : activateNew authorization ledger ledger = .ok plan next) :
    ∃ proposal, ledger.proposals.get? authorization.proposalId = some proposal ∧
      ledger.version proposal.target.reference = authorization.expectedActiveVersion ∧
      proposal.expectedActiveVersion = authorization.expectedActiveVersion ∧
      plan = ⟨{ proposal with status := .active },
        ledger.version proposal.target.reference + 1⟩ ∧
      next =
        { proposals := ledger.proposals.insert proposal.id plan.proposal
          active := (supersede proposal.target.reference ledger.active).insert
            proposal.target.reference plan
          idempotency := ledger.idempotency.insert authorization.idempotencyKey
            (proposal.id, plan.activeVersion) } := by
  simp only [activateNew, Mutation.bind_ok, Mutation.get_ok, attempt_ok, Mutation.modify_ok,
    Mutation.check_ok, require_eq_ok, fetch_eq_ok, unwrap_ok, not_or, not_not] at h
  obtain ⟨proposal, _, ⟨hproposal, rfl⟩, _, _, ⟨-, rfl⟩, _, _, ⟨-, rfl⟩, _, _,
    ⟨⟨hversion, hexpected⟩, rfl⟩, _, _, rfl, version, _, ⟨hnext, rfl⟩, _, _, rfl, _, _, rfl, _, _, rfl, _,
    _, ⟨rfl, rfl⟩, hplan, rfl⟩ := h
  have hnumber : version = ledger.version proposal.target.reference + 1 := by
    rw [nextVersion] at hnext
    split_ifs at hnext
    exact (Except.ok.inj hnext).symm
  simp only [OrderedMap.get?_insert_self, Option.some.injEq] at hplan
  subst hnumber hplan
  exact ⟨proposal, hproposal, hversion, hexpected, rfl, rfl⟩

theorem activate_ok {authorization : AuthorActivation Fp} {ledger next : PlanLedger Fp}
    {plan : ActivePlan Fp} (h : activate authorization ledger = .ok plan next) :
    (ledger.idempotency.get? authorization.idempotencyKey ≠ none ∧ next = ledger) ∨
      (ledger.idempotency.get? authorization.idempotencyKey = none ∧
        activateNew authorization ledger ledger = .ok plan next) := by
  simp only [activate, Mutation.bind_ok, Mutation.get_ok, attempt_ok] at h
  obtain ⟨_, _, ⟨-, rfl⟩, _, _, ⟨rfl, rfl⟩, h⟩ := h
  cases hkey : ledger.idempotency.get? authorization.idempotencyKey with
  | some prior =>
    rw [hkey] at h
    exact .inl ⟨by simp, replay_ok h⟩
  | none =>
    rw [hkey] at h
    exact .inr ⟨rfl, h⟩

omit [Sha256 Fp] [DecidableEq Fp] in
theorem keeps_replay (authorization : AuthorActivation Fp) (ledger : PlanLedger Fp)
    (prior : String × ℕ) : Mutation.Keeps (replay authorization ledger prior) := by
  refine (reads_attempt _).keeps_bind (keeps_attempt _) fun _ => ?_
  refine (Mutation.reads_check _).keeps_bind (Mutation.keeps_check _) fun proposal => ?_
  exact keeps_attempt _

theorem activateNew_failed {authorization : AuthorActivation Fp} {ledger next : PlanLedger Fp}
    {e : CoreError} (h : activateNew authorization ledger ledger = .error (.failed e) next) :
    next = ledger := by
  have hcounter : ∀ version, nextVersion version ≠ .error (.failed e) := by
    intro version
    rw [nextVersion]
    split_ifs <;> simp
  simp only [activateNew, Mutation.bind_error, Mutation.get_error, Mutation.modify_error,
    Mutation.check_error, unwrap_failed, attempt_ok, attempt_failed, hcounter, false_and,
    and_false, exists_false, or_false] at h
  rcases h with ⟨-, rfl⟩ | ⟨_, _, ⟨-, rfl⟩, ⟨-, rfl⟩ | ⟨_, _, ⟨-, rfl⟩, ⟨-, rfl⟩ | ⟨_, _, ⟨-, rfl⟩,
    ⟨-, rfl⟩⟩⟩⟩ <;> rfl

/-- A refused activation leaves the ledger as it was. -/
theorem activate_failed {authorization : AuthorActivation Fp} {ledger next : PlanLedger Fp}
    {e : CoreError} (h : activate authorization ledger = .error (.failed e) next) :
    next = ledger := by
  simp only [activate, Mutation.bind_error, Mutation.get_ok, Mutation.get_error, attempt_ok,
    attempt_failed, false_or] at h
  rcases h with ⟨-, rfl⟩ | ⟨_, _, ⟨-, rfl⟩, _, _, ⟨rfl, rfl⟩, h⟩
  · rfl
  · cases hkey : ledger.idempotency.get? authorization.idempotencyKey with
    | some prior =>
      rw [hkey] at h
      exact keeps_replay authorization ledger prior _ _ _ h
    | none =>
      rw [hkey] at h
      exact activateNew_failed h

omit [Sha256 Fp] [DecidableEq Fp] in
theorem get?_supersede_of_ne {reference other : String} (h : other ≠ reference)
    (active : OrderedMap String (ActivePlan Fp)) :
    (supersede reference active).get? other = active.get? other := by
  unfold supersede
  split
  · exact OrderedMap.get?_insert_of_ne _ h _
  · rfl

end PlanLedger

/-! ## Runs -/

/-- A public call with its arguments. -/
inductive PlanOp (Fp : Type) where
  | saveProposal (proposal : PlanProposal Fp)
  | activate (authorization : AuthorActivation Fp)

/-- The ledger with the activations it answered under new idempotency keys. -/
structure PlanTrace (Fp : Type) where
  ledger : PlanLedger Fp
  history : List (String × ActivePlan Fp)

def PlanTrace.initial : PlanTrace Fp := ⟨.initial, []⟩

section

variable [Sha256 Fp] [DecidableEq Fp]

/-- A call that returns, with an answer or an error. -/
inductive PlanStep : PlanTrace Fp → PlanOp Fp → PlanTrace Fp → Prop
  | saved {trace : PlanTrace Fp} {proposal : PlanProposal Fp} {ledger : PlanLedger Fp}
      (h : PlanLedger.saveProposal proposal trace.ledger = .ok () ledger) :
      PlanStep trace (.saveProposal proposal) { trace with ledger }
  | notSaved {trace : PlanTrace Fp} {proposal : PlanProposal Fp} {ledger : PlanLedger Fp}
      {error : CoreError}
      (h : PlanLedger.saveProposal proposal trace.ledger = .error (.failed error) ledger) :
      PlanStep trace (.saveProposal proposal) { trace with ledger }
  | activated {trace : PlanTrace Fp} {authorization : AuthorActivation Fp}
      {plan : ActivePlan Fp} {ledger : PlanLedger Fp}
      (h : PlanLedger.activate authorization trace.ledger = .ok plan ledger) :
      PlanStep trace (.activate authorization)
        { ledger
          history :=
            if trace.ledger.idempotency.get? authorization.idempotencyKey = none then
              trace.history ++ [(authorization.idempotencyKey, plan)]
            else trace.history }
  | notActivated {trace : PlanTrace Fp} {authorization : AuthorActivation Fp}
      {ledger : PlanLedger Fp} {error : CoreError}
      (h : PlanLedger.activate authorization trace.ledger = .error (.failed error) ledger) :
      PlanStep trace (.activate authorization) { trace with ledger }

omit [Sha256 Fp] [DecidableEq Fp] in
/-- The answered activations of a target. -/
def PlanTrace.activations (trace : PlanTrace Fp) (reference : String) : ℕ :=
  trace.history.countP fun entry => entry.2.proposal.target.reference = reference

/-- Every version counts the activations of its target. -/
def PlanTrace.Counted (trace : PlanTrace Fp) : Prop :=
  ∀ reference, trace.ledger.version reference = trace.activations reference

theorem PlanStep.counted {trace next : PlanTrace Fp} {op : PlanOp Fp}
    (h : PlanStep trace op next) (hcounted : trace.Counted) : next.Counted := by
  intro reference
  have hbefore := hcounted reference
  cases h with
  | saved h =>
    obtain ⟨-, -, rfl⟩ := PlanLedger.saveProposal_ok h
    exact hbefore
  | notSaved h =>
    rcases PlanLedger.saveProposal_failed h with rfl | ⟨stored, -, -, rfl⟩
    · exact hbefore
    · exact hbefore
  | notActivated h =>
    obtain rfl := PlanLedger.activate_failed h
    exact hbefore
  | @activated authorization plan ledger h =>
    cases PlanLedger.activate_ok h with
    | inl hreplay =>
      obtain ⟨hkey, rfl⟩ := hreplay
      simp only [hkey, if_false]
      exact hbefore
    | inr hnew =>
      obtain ⟨hkey, hnew⟩ := hnew
      obtain ⟨proposal, -, -, -, rfl, rfl⟩ := PlanLedger.activateNew_ok hnew
      simp only [hkey, if_true]
      rw [PlanTrace.activations, List.countP_append, ← PlanTrace.activations, ← hbefore]
      by_cases href : proposal.target.reference = reference
      · simp [PlanLedger.version, href]
      · simp [PlanLedger.version, href, OrderedMap.get?_insert_of_ne _ (Ne.symm href),
          PlanLedger.get?_supersede_of_ne (Ne.symm href)]

/-! ## Runs that never replace a plan -/

/-- The condition on a call: a proposal is saved under a taken id only if it is the stored one,
and an activation does not expect the version of a plan that is active. -/
def PlanOp.Regular (ledger : PlanLedger Fp) : PlanOp Fp → Prop
  | .saveProposal proposal =>
    ∀ stored, ledger.proposals.get? proposal.id = some stored → stored = proposal
  | .activate authorization =>
    ledger.idempotency.get? authorization.idempotencyKey = none →
    ∀ proposal, ledger.proposals.get? authorization.proposalId = some proposal →
    ∀ plan, ledger.active.get? proposal.target.reference = some plan →
      plan.activeVersion ≠ authorization.expectedActiveVersion

/-- The two maps agree on the active plans, and every answered activation is still current. -/
structure PlanTrace.Coherent (trace : PlanTrace Fp) : Prop where
  ids : ∀ id proposal, trace.ledger.proposals.get? id = some proposal → proposal.id = id
  stored : ∀ id proposal, trace.ledger.proposals.get? id = some proposal →
    proposal.status = .active → ∃ plan,
      trace.ledger.active.get? proposal.target.reference = some plan ∧ plan.proposal = proposal
  active : ∀ reference plan, trace.ledger.active.get? reference = some plan →
    plan.proposal.target.reference = reference ∧
      trace.ledger.proposals.get? plan.proposal.id = some plan.proposal
  issued : ∀ entry ∈ trace.history,
    trace.ledger.idempotency.get? entry.1 =
        some (entry.2.proposal.id, entry.2.activeVersion) ∧
      trace.ledger.active.get? entry.2.proposal.target.reference = some entry.2

omit [Sha256 Fp] [DecidableEq Fp] in
theorem PlanTrace.coherent_initial : (initial : PlanTrace Fp).Coherent where
  ids := fun _ _ h => by cases h
  stored := fun _ _ h => by cases h
  active := fun _ _ h => by cases h
  issued := fun _ h => by cases h

omit [Sha256 Fp] [DecidableEq Fp] in
/-- A new proposal enters a coherent ledger. -/
theorem PlanTrace.Coherent.insert {trace : PlanTrace Fp} (h : trace.Coherent)
    {proposal : PlanProposal Fp} (hnew : trace.ledger.proposals.get? proposal.id = none)
    (hstatus : proposal.status = .proposal) :
    PlanTrace.Coherent { trace with
      ledger := { trace.ledger with
        proposals := trace.ledger.proposals.insert proposal.id proposal } } := by
  have hget : ∀ id other, (trace.ledger.proposals.insert proposal.id proposal).get? id =
      some other → id = proposal.id ∧ other = proposal ∨
        trace.ledger.proposals.get? id = some other := by
    intro id other hother
    by_cases hid : id = proposal.id
    · rw [hid, OrderedMap.get?_insert_self, Option.some.injEq] at hother
      exact .inl ⟨hid, hother.symm⟩
    · rw [OrderedMap.get?_insert_of_ne _ hid] at hother
      exact .inr hother
  refine ⟨fun id other hother => ?_, fun id other hother hactive => ?_, ?_, h.issued⟩
  · cases hget id other hother with
    | inl hsame => rw [hsame.2, hsame.1]
    | inr hold => exact h.ids id other hold
  · cases hget id other hother with
    | inl hsame =>
      rw [hsame.2, hstatus] at hactive
      cases hactive
    | inr hold => exact h.stored id other hold hactive
  · intro reference plan hplan
    obtain ⟨htarget, hkept⟩ := h.active reference plan hplan
    refine ⟨htarget, ?_⟩
    have hother : plan.proposal.id ≠ proposal.id := by
      intro hsame
      rw [hsame, hnew] at hkept
      cases hkept
    exact (OrderedMap.get?_insert_of_ne _ hother _).trans hkept

omit [Sha256 Fp] [DecidableEq Fp] in
/-- A first plan of a target enters a coherent ledger. -/
theorem PlanTrace.Coherent.activate {trace : PlanTrace Fp} (h : trace.Coherent)
    {key : String} {proposal : PlanProposal Fp} {version : ℕ}
    (hkey : trace.ledger.idempotency.get? key = none)
    (hproposal : trace.ledger.proposals.get? proposal.id = some proposal)
    (hfree : trace.ledger.active.get? proposal.target.reference = none) :
    PlanTrace.Coherent
      { ledger :=
          { proposals := trace.ledger.proposals.insert proposal.id
              { proposal with status := .active }
            active := trace.ledger.active.insert proposal.target.reference
              ⟨{ proposal with status := .active }, version⟩
            idempotency := trace.ledger.idempotency.insert key (proposal.id, version) }
        history := trace.history ++ [(key, ⟨{ proposal with status := .active }, version⟩)] } := by
  have hactive : ∀ reference plan, trace.ledger.active.get? reference = some plan →
      reference ≠ proposal.target.reference := by
    intro reference plan hplan hsame
    rw [hsame, hfree] at hplan
    cases hplan
  have hkept : ∀ reference plan, trace.ledger.active.get? reference = some plan →
      (trace.ledger.active.insert proposal.target.reference
        ⟨{ proposal with status := .active }, version⟩).get? reference = some plan := by
    intro reference plan hplan
    exact (OrderedMap.get?_insert_of_ne _ (hactive reference plan hplan) _).trans hplan
  refine ⟨fun id other hother => ?_, fun id other hother hstatus => ?_, ?_, ?_⟩
  · by_cases hid : id = proposal.id
    · rw [hid, OrderedMap.get?_insert_self, Option.some.injEq] at hother
      rw [← hother, hid]
    · rw [OrderedMap.get?_insert_of_ne _ hid] at hother
      exact h.ids id other hother
  · by_cases hid : id = proposal.id
    · rw [hid, OrderedMap.get?_insert_self, Option.some.injEq] at hother
      rw [← hother]
      exact ⟨_, OrderedMap.get?_insert_self _ _ _, rfl⟩
    · rw [OrderedMap.get?_insert_of_ne _ hid] at hother
      obtain ⟨plan, hplan, hsame⟩ := h.stored id other hother hstatus
      exact ⟨plan, hkept _ plan hplan, hsame⟩
  · intro reference plan hplan
    by_cases href : reference = proposal.target.reference
    · rw [href, OrderedMap.get?_insert_self, Option.some.injEq] at hplan
      rw [← hplan, href]
      exact ⟨rfl, OrderedMap.get?_insert_self _ _ _⟩
    · rw [OrderedMap.get?_insert_of_ne _ href] at hplan
      obtain ⟨htarget, hstored⟩ := h.active reference plan hplan
      have hother : plan.proposal.id ≠ proposal.id := by
        intro hsame
        rw [hsame, hproposal, Option.some.injEq] at hstored
        rw [← hstored] at htarget
        exact href htarget.symm
      exact ⟨htarget, (OrderedMap.get?_insert_of_ne _ hother _).trans hstored⟩
  · intro entry hentry
    cases List.mem_append.mp hentry with
    | inl hold =>
      obtain ⟨hanswer, hcurrent⟩ := h.issued entry hold
      have hother : entry.1 ≠ key := by
        intro hsame
        rw [hsame, hkey] at hanswer
        cases hanswer
      exact ⟨(OrderedMap.get?_insert_of_ne _ hother _).trans hanswer, hkept _ _ hcurrent⟩
    | inr hnew =>
      rw [List.mem_singleton.mp hnew]
      exact ⟨OrderedMap.get?_insert_self _ _ _, OrderedMap.get?_insert_self _ _ _⟩

theorem PlanLedger.saveProposal_failed_regular {proposal : PlanProposal Fp}
    {ledger next : PlanLedger Fp} {e : CoreError}
    (h : PlanLedger.saveProposal proposal ledger = .error (.failed e) next)
    (hop : PlanOp.Regular ledger (.saveProposal proposal)) : next = ledger := by
  rcases PlanLedger.saveProposal_failed h with rfl | ⟨stored, hstored, -, rfl⟩
  · rfl
  · have hsame : stored = proposal := hop stored hstored
    rw [hsame] at hstored
    rw [OrderedMap.insert_of_get? hstored]

theorem PlanStep.coherent {trace next : PlanTrace Fp} {op : PlanOp Fp}
    (h : PlanStep trace op next) (hop : op.Regular trace.ledger) (hcoherent : trace.Coherent) :
    next.Coherent := by
  cases h with
  | saved h =>
    obtain ⟨hnew, hstatus, rfl⟩ := PlanLedger.saveProposal_ok h
    exact hcoherent.insert hnew hstatus
  | notSaved h =>
    obtain rfl := PlanLedger.saveProposal_failed_regular h hop
    exact hcoherent
  | notActivated h =>
    obtain rfl := PlanLedger.activate_failed h
    exact hcoherent
  | @activated authorization plan ledger h =>
    cases PlanLedger.activate_ok h with
    | inl hreplay =>
      obtain ⟨hkey, rfl⟩ := hreplay
      simp only [hkey, if_false]
      exact hcoherent
    | inr hnew =>
      obtain ⟨hkey, hnew⟩ := hnew
      obtain ⟨proposal, hproposal, hversion, -, rfl, rfl⟩ := PlanLedger.activateNew_ok hnew
      have hid : proposal.id = authorization.proposalId := hcoherent.ids _ _ hproposal
      have hfree : trace.ledger.active.get? proposal.target.reference = none := by
        cases hplan : trace.ledger.active.get? proposal.target.reference with
        | none => rfl
        | some plan =>
          rw [PlanLedger.version, hplan] at hversion
          exact absurd hversion (hop hkey proposal hproposal plan hplan)
      have hactive : PlanLedger.supersede proposal.target.reference trace.ledger.active =
          trace.ledger.active := by
        rw [PlanLedger.supersede, hfree]
      rw [← hid] at hproposal
      simp only [hkey, if_true, hactive]
      exact hcoherent.activate hkey hproposal hfree

/-- The activation behind a current plan is answered with the plan again. -/
theorem PlanTrace.Coherent.replay {trace : PlanTrace Fp} (h : trace.Coherent)
    {key : String} {plan : ActivePlan Fp} (hentry : (key, plan) ∈ trace.history)
    {authorization : AuthorActivation Fp} (hvalid : authorization.validate = .ok ())
    (hkey : authorization.idempotencyKey = key)
    (hid : authorization.proposalId = plan.proposal.id) :
    PlanLedger.activate authorization trace.ledger = .ok plan trace.ledger := by
  obtain ⟨hanswer, hcurrent⟩ := h.issued (key, plan) hentry
  have hstored := (h.active _ _ hcurrent).2
  simp only [PlanLedger.activate, Mutation.bind_ok, Mutation.get_ok, attempt_ok]
  refine ⟨(), _, ⟨hvalid, rfl⟩, _, _, ⟨rfl, rfl⟩, ?_⟩
  rw [hkey, hanswer]
  simp only [PlanLedger.replay, Mutation.bind_ok, attempt_ok, unwrap_ok, require_eq_ok,
    fetch_eq_ok]
  refine ⟨(), _, ⟨hid.symm, rfl⟩, plan.proposal, _, ⟨hstored, rfl⟩, ?_, rfl⟩
  rw [hcurrent]
  simp

/-- Over every run the versions count the activations and a refused activation changes nothing.
Over runs that never replace a plan or overwrite a proposal, the stored active proposals are those
of the active map, a plan that was replaced is stored as superseded, a replay answers the plan
again, and a refused call changes nothing. -/
theorem planLedger_runs :
    (∀ trace : PlanTrace Fp, ReflTransGen (fun s t => ∃ op, PlanStep s op t) .initial trace →
      (∀ reference, trace.ledger.version reference = trace.activations reference) ∧
      ∀ authorization e ledger,
        PlanLedger.activate authorization trace.ledger = .error (.failed e) ledger →
          ledger = trace.ledger) ∧
    ∀ trace : PlanTrace Fp,
      ReflTransGen (fun s t => ∃ op, PlanOp.Regular s.ledger op ∧ PlanStep s op t) .initial
        trace →
      (∀ id proposal, trace.ledger.proposals.get? id = some proposal →
        proposal.status = .active → ∃ plan,
          trace.ledger.active.get? proposal.target.reference = some plan ∧
            plan.proposal = proposal) ∧
      (∀ entry ∈ trace.history,
        trace.ledger.active.get? entry.2.proposal.target.reference ≠ some entry.2 →
        ∃ proposal, trace.ledger.proposals.get? entry.2.proposal.id = some proposal ∧
          proposal.status = .superseded) ∧
      (∀ key plan, (key, plan) ∈ trace.history → ∀ authorization : AuthorActivation Fp,
        authorization.validate = .ok () → authorization.idempotencyKey = key →
        authorization.proposalId = plan.proposal.id →
        trace.ledger.active.get? plan.proposal.target.reference = some plan →
        PlanLedger.activate authorization trace.ledger = .ok plan trace.ledger) ∧
      ∀ proposal e ledger, PlanOp.Regular trace.ledger (.saveProposal proposal) →
        PlanLedger.saveProposal proposal trace.ledger = .error (.failed e) ledger →
          ledger = trace.ledger := by
  constructor
  · intro trace hrun
    have hcounted : trace.Counted := invariant_of_step (P := PlanTrace.Counted)
      (fun _ _ ⟨_, hstep⟩ hs => hstep.counted hs) hrun fun _ => rfl
    exact ⟨hcounted, fun authorization e ledger h => PlanLedger.activate_failed h⟩
  · intro trace hrun
    have hcoherent : trace.Coherent := invariant_of_step (P := PlanTrace.Coherent)
      (fun _ _ ⟨_, hop, hstep⟩ hs => hstep.coherent hop hs) hrun PlanTrace.coherent_initial
    refine ⟨hcoherent.stored, fun entry hentry hreplaced => ?_, ?_, ?_⟩
    · exact absurd (hcoherent.issued entry hentry).2 hreplaced
    · intro key plan hentry authorization hvalid hkey hid _
      exact hcoherent.replay hentry hvalid hkey hid
    · intro proposal e ledger hop h
      exact PlanLedger.saveProposal_failed_regular h hop

end

namespace Sample

/-- A proposal for the first volume that expects the given active version. -/
def volumeProposal (id : String) (expectedActiveVersion : ℕ) : PlanProposal Digest :=
  let body : PlanProposal Digest :=
    { schema := "quillframe_typed_plan_proposal_v2", id, mode := .designVolume,
      target := ⟨"book:B1/volume:V1", "V1", .volume⟩, proposalVersion := 1, expectedActiveVersion,
      body := .volume ⟨"promise", "change", "rival", [], "climax", []⟩, assumptions := [],
      openQuestions := [], dependencyFingerprints := .empty, fingerprint := .tag 0,
      status := .proposal }
  { body with fingerprint := body.computeFingerprint }

def volumeActivation (id key : String) (expectedActiveVersion : ℕ) : AuthorActivation Digest :=
  let body : AuthorActivation Digest :=
    { schema := "quillframe_author_plan_activation_v1", decisionId := "D-" ++ id,
      proposalId := id,
      proposalFingerprint := (volumeProposal id expectedActiveVersion).fingerprint,
      expectedActiveVersion, authorizedBy := "author", decidedAt := "t1", idempotencyKey := key,
      fingerprint := .tag 0 }
  { body with fingerprint := body.computeFingerprint }

/-- The active plan that an activation answers with. -/
def volumePlan (id : String) (expectedActiveVersion : ℕ) : ActivePlan Digest where
  proposal := { volumeProposal id expectedActiveVersion with status := .active }
  activeVersion := expectedActiveVersion + 1

/-- The answer of a call and the ledger it leaves, also after an error. -/
def outcomeOf {α : Type} (result : EStateM.Result Abort (PlanLedger Digest) α) :
    Except Abort α × PlanLedger Digest :=
  match result with
  | .ok a ledger => (.ok a, ledger)
  | .error e ledger => (.error e, ledger)

theorem ok_of_outcome {α : Type} {result : EStateM.Result Abort (PlanLedger Digest) α} {a : α}
    {ledger : PlanLedger Digest} (h : outcomeOf result = (.ok a, ledger)) :
    result = .ok a ledger := by
  cases result <;> simp_all [outcomeOf]

theorem error_of_outcome {α : Type} {result : EStateM.Result Abort (PlanLedger Digest) α}
    {e : Abort} {ledger : PlanLedger Digest} (h : outcomeOf result = (.error e, ledger)) :
    result = .error e ledger := by
  cases result <;> simp_all [outcomeOf]

def savedLedger : PlanLedger Digest :=
  { PlanLedger.initial with
    proposals := OrderedMap.empty.insert "P1" (volumeProposal "P1" 0) }

def activeLedger : PlanLedger Digest where
  proposals := savedLedger.proposals.insert "P1" (volumePlan "P1" 0).proposal
  active := OrderedMap.empty.insert "book:B1/volume:V1" (volumePlan "P1" 0)
  idempotency := OrderedMap.empty.insert "K1" ("P1", 1)

/-- The second proposal is saved beside the active one. -/
def proposedLedger : PlanLedger Digest :=
  { activeLedger with proposals := activeLedger.proposals.insert "P2" (volumeProposal "P2" 1) }

/-- Its activation leaves the first proposal stored as active. -/
def replacedLedger : PlanLedger Digest where
  proposals := proposedLedger.proposals.insert "P2" (volumePlan "P2" 1).proposal
  active := OrderedMap.empty.insert "book:B1/volume:V1" (volumePlan "P2" 1)
  idempotency := activeLedger.idempotency.insert "K2" ("P2", 2)

/-- The first proposal, still a proposal, is saved again over the active one. -/
def overwrittenLedger : PlanLedger Digest :=
  { activeLedger with proposals := activeLedger.proposals.insert "P1" (volumeProposal "P1" 0) }

theorem outcomes :
    outcomeOf (PlanLedger.saveProposal (volumeProposal "P1" 0) .initial) = (.ok (), savedLedger) ∧
    outcomeOf (PlanLedger.activate (volumeActivation "P1" "K1" 0) savedLedger) =
      (.ok (volumePlan "P1" 0), activeLedger) ∧
    outcomeOf (PlanLedger.saveProposal (volumeProposal "P2" 1) activeLedger) =
      (.ok (), proposedLedger) ∧
    outcomeOf (PlanLedger.activate (volumeActivation "P2" "K2" 1) proposedLedger) =
      (.ok (volumePlan "P2" 1), replacedLedger) ∧
    outcomeOf (PlanLedger.saveProposal (volumeProposal "P1" 0) activeLedger) =
      (.error (.failed (.authorityConflict "proposal id already exists")), overwrittenLedger) := by
  decide +kernel

theorem save_first : PlanLedger.saveProposal (volumeProposal "P1" 0) .initial =
    .ok () savedLedger :=
  ok_of_outcome outcomes.1

theorem activate_first : PlanLedger.activate (volumeActivation "P1" "K1" 0) savedLedger =
    .ok (volumePlan "P1" 0) activeLedger :=
  ok_of_outcome outcomes.2.1

theorem save_second : PlanLedger.saveProposal (volumeProposal "P2" 1) activeLedger =
    .ok () proposedLedger :=
  ok_of_outcome outcomes.2.2.1

theorem activate_second : PlanLedger.activate (volumeActivation "P2" "K2" 1) proposedLedger =
    .ok (volumePlan "P2" 1) replacedLedger :=
  ok_of_outcome outcomes.2.2.2.1

theorem save_again : PlanLedger.saveProposal (volumeProposal "P1" 0) activeLedger =
    .error (.failed (.authorityConflict "proposal id already exists")) overwrittenLedger :=
  error_of_outcome outcomes.2.2.2.2

def activeTrace : PlanTrace Digest := ⟨activeLedger, [("K1", volumePlan "P1" 0)]⟩

theorem activeTrace_run : ReflTransGen
    (fun s t => ∃ op, PlanOp.Regular s.ledger op ∧ PlanStep s op t) .initial activeTrace := by
  refine .tail (.single ⟨.saveProposal (volumeProposal "P1" 0), fun _ h => ?_, .saved save_first⟩)
    ⟨.activate (volumeActivation "P1" "K1" 0), fun _ _ _ plan h => ?_, .activated activate_first⟩
  · cases h
  · cases h

end Sample

/-- The second plan of a target leaves the first one stored as active, and a refused proposal is
stored over the active one. -/
theorem planLedger_incoherent :
    (∃ trace : PlanTrace Digest, ReflTransGen (fun s t => ∃ op, PlanStep s op t) .initial trace ∧
      trace.ledger.proposals.get? "P1" = some (Sample.volumePlan "P1" 0).proposal ∧
      (Sample.volumePlan "P1" 0).proposal.status = .active ∧
      trace.ledger.active.get? "book:B1/volume:V1" = some (Sample.volumePlan "P2" 1)) ∧
    ∃ trace : PlanTrace Digest, ReflTransGen (fun s t => ∃ op, PlanStep s op t) .initial trace ∧
      ∃ proposal e ledger,
        PlanLedger.saveProposal proposal trace.ledger = .error (.failed e) ledger ∧
        ledger ≠ trace.ledger := by
  have hforget : ∀ s t : PlanTrace Digest,
      (∃ op, PlanOp.Regular s.ledger op ∧ PlanStep s op t) → ∃ op, PlanStep s op t :=
    fun _ _ ⟨op, _, hstep⟩ => ⟨op, hstep⟩
  have hactive := ReflTransGen.mono hforget _ _ Sample.activeTrace_run
  constructor
  · have hsecond := (hactive.tail ⟨_, .saved Sample.save_second⟩).tail
      ⟨_, .activated Sample.activate_second⟩
    exact ⟨_, hsecond, by decide +kernel, rfl, by decide +kernel⟩
  · exact ⟨_, hactive, _, _, _, Sample.save_again, by decide +kernel⟩

theorem planLedger_runs_sample :
    PlanLedger.activate (Sample.volumeActivation "P1" "K1" 0) Sample.activeLedger =
      .ok (Sample.volumePlan "P1" 0) Sample.activeLedger :=
  (planLedger_runs.2 _ Sample.activeTrace_run).2.2.1 "K1" _ (List.mem_singleton_self _)
    (Sample.volumeActivation "P1" "K1" 0) (by decide +kernel) rfl rfl (by decide +kernel)

end Quillframe
