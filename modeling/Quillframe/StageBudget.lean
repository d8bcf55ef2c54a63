import Quillframe.StageLedger

/-!
# The call budget of a run

A dispatch counts the rows of its run before it looks for the stage, whether an earlier dispatch
or a derivation wrote them.
-/
namespace Quillframe

open Relation Database

variable {Fp : Type}

/-- The rows of a run in the ledger. -/
def Database.callCount (runId : String) (db : Database Fp) : ℕ :=
  (db.stageCalls.filter fun call => call.runId = runId).length

theorem Database.callCount_append {db db' : Database Fp} {row : StageCallRow Fp} (runId : String)
    (h : db'.stageCalls = db.stageCalls ++ [row]) :
    db'.callCount runId = db.callCount runId + if row.runId = runId then 1 else 0 := by
  rw [callCount, callCount, h, List.filter_append, List.length_append]
  by_cases hrun : row.runId = runId
  · simp [hrun]
  · simp [hrun]

theorem Database.callCount_updateWhere {db db' : Database Fp} {p : StageCallRow Fp → Bool}
    {f : StageCallRow Fp → StageCallRow Fp} (runId : String)
    (h : db'.stageCalls = Table.updateWhere p f db.stageCalls)
    (hf : ∀ call, (f call).runId = call.runId) :
    db'.callCount runId = db.callCount runId := by
  rw [callCount, callCount, h, Table.filter_updateWhere _ fun call => by rw [hf],
    Table.updateWhere, List.length_map]

/-- The rows of a run, by the operation that wrote them. -/
structure StageTally where
  model : ℕ
  derived : ℕ
  deriving DecidableEq

section

variable [Sha256 Fp]

/-- The checks that a dispatch makes of its own arguments. -/
structure DispatchReady [DecidableEq Fp] (job : StageJob Fp) (ownerToken : String)
    (deadlineAtMs : ℕ) (createdAt : String) : Prop where
  job : job.validate = .ok ()
  timestamp : requireTimestamp createdAt = .ok ()
  lease : ¬ (blank ownerToken ∨ deadlineAtMs = 0 ∨ 2 ^ 63 - 1 < deadlineAtMs)

end

/-! ## What an operation does to the count -/

section Operations

theorem markStageUnconfirmed_count {callId errorCode updatedAt : String} {u : Unit}
    {db db' : Database Fp} (h : markStageUnconfirmed callId errorCode updatedAt db = .ok (u, db'))
    (runId : String) :
    db'.callCount runId = db.callCount runId ∧
      db'.productionExecutions = db.productionExecutions := by
  simp only [markStageUnconfirmed, bind_eq_ok, require_eq_ok, exists_const, pure_eq_ok,
    Prod.mk.injEq] at h
  obtain ⟨_, -, -, -, -, rfl⟩ := h
  exact ⟨callCount_updateWhere runId rfl fun _ => rfl, rfl⟩

variable [Sha256 Fp] [DecidableEq Fp]

theorem confirmStage_count {callId : String} {result : ModelResult Fp} {updatedAt : String}
    {u : Unit} {db db' : Database Fp} (h : confirmStage callId result updatedAt db = .ok (u, db'))
    (runId : String) :
    db'.callCount runId = db.callCount runId ∧
      db'.productionExecutions = db.productionExecutions := by
  simp only [confirmStage, bind_eq_ok, fetch_eq_ok] at h
  obtain ⟨_, -, _, -, call, hcall, h⟩ := h
  split_ifs at h with hconfirmed
  · simp only [bind_eq_ok, require_eq_ok, exists_const, pure_eq_ok, Prod.mk.injEq] at h
    obtain ⟨-, -, rfl⟩ := h
    exact ⟨rfl, rfl⟩
  · simp only [bind_eq_ok, require_eq_ok, exists_const] at h
    obtain ⟨-, _, -, -, h⟩ := h
    split at h
    · simp only [pure_eq_ok, Prod.mk.injEq] at h
      obtain ⟨-, rfl⟩ := h
      exact ⟨callCount_updateWhere runId rfl fun _ => rfl, rfl⟩
    · simp only [bind_eq_ok, pure_eq_ok, Prod.mk.injEq] at h
      obtain ⟨_, -, billed, hbilled, -, rfl⟩ := h
      obtain ⟨-, rfl⟩ := insertBillingReceipt_eq_ok hbilled
      exact ⟨callCount_updateWhere runId rfl fun _ => rfl, rfl⟩

/-- A derivation adds at most one row, whatever the budget is. -/
theorem confirmDerivedStage_count {target : String} {job : StageJob Fp} {result : ModelResult Fp}
    {checkpointKind : String} {checkpointState : Json Fp} {artifactFingerprint : Fp}
    {createdAt callUuid eventUuid : String} {u : Unit} {db db' : Database Fp}
    (h : confirmDerivedStage target job result checkpointKind checkpointState artifactFingerprint
      createdAt callUuid eventUuid db = .ok (u, db')) (runId : String) :
    db.callCount runId ≤ db'.callCount runId ∧
      db'.productionExecutions = db.productionExecutions := by
  simp only [confirmDerivedStage, bind_eq_ok, require_eq_ok, exists_const] at h
  obtain ⟨_, -, _, -, _, -, -, -, h⟩ := h
  split at h
  · simp only [bind_eq_ok, require_eq_ok, exists_const, pure_eq_ok, Prod.mk.injEq] at h
    obtain ⟨-, -, rfl⟩ := h
    exact ⟨le_rfl, rfl⟩
  · simp only [bind_eq_ok, pure_eq_ok, Prod.mk.injEq] at h
    obtain ⟨called, hcalled, checked, hchecked, done, hdone, -, rfl⟩ := h
    obtain ⟨-, -, -, rfl⟩ := insertStageCall_eq_ok hcalled
    obtain rfl := insertCheckpoint_eq_ok hchecked
    obtain rfl := insertRuntimeEvent_eq_ok hdone
    exact ⟨le_of_le_of_eq (Nat.le_add_right _ _) (callCount_append runId rfl).symm, rfl⟩

variable [Documents Fp]

theorem dispatchStage_budget {target : String} {job : StageJob Fp} {ownerToken : String}
    {deadlineAtMs : ℕ} {createdAt uuid callId : String} {db db' : Database Fp}
    (h : dispatchStage target job ownerToken deadlineAtMs createdAt uuid db = .ok (callId, db')) :
    ∃ execution, db.execution? target = some execution ∧
      ∀ budget ∈ execution.request.modelCallBudget, db.callCount target < budget := by
  simp only [dispatchStage, bind_eq_ok, require_eq_ok, fetch_eq_ok, exists_const] at h
  obtain ⟨_, -, _, -, -, execution, hexecution, -, _, -, hbudget, -⟩ := h
  refine ⟨execution, hexecution, fun budget hmem => ?_⟩
  by_contra hfull
  exact hbudget ⟨budget, hmem, not_lt.mp hfull⟩

/-- A dispatch adds at most one row, and only below the budget. -/
theorem dispatchStage_count {target : String} {job : StageJob Fp} {ownerToken : String}
    {deadlineAtMs : ℕ} {createdAt uuid callId : String} {db db' : Database Fp}
    (h : dispatchStage target job ownerToken deadlineAtMs createdAt uuid db = .ok (callId, db'))
    (runId : String) :
    db'.productionExecutions = db.productionExecutions ∧
      (db'.callCount runId = db.callCount runId ∨
        target = runId ∧ db'.callCount runId = db.callCount runId + 1) := by
  obtain ⟨-, ⟨_, -, -, -, -, -, rfl⟩ | ⟨row, -, hrow, -, -, -, -, -, -, -, rfl⟩⟩ :=
    dispatchStage_eq_ok h
  · exact ⟨rfl, .inl rfl⟩
  · refine ⟨rfl, ?_⟩
    have hcount := @callCount_append _ db ({ db with stageCalls := db.stageCalls ++ [row] }.updateRun
      target "executing" none createdAt) row runId rfl
    rw [hrow] at hcount
    by_cases hrun : target = runId
    · rw [if_pos hrun] at hcount
      exact .inr ⟨hrun, hcount⟩
    · rw [if_neg hrun] at hcount
      exact .inl hcount

/-- A stage that is in the ledger is answered from it exactly below the budget. -/
theorem dispatchStage_replay_iff {runId : String} {job : StageJob Fp} {ownerToken : String}
    {deadlineAtMs : ℕ} {createdAt uuid : String} {db : Database Fp}
    {execution : ExecutionRow Fp} (hinv : db.journal.Inv)
    (hexecution : db.execution? runId = some execution)
    (hactive : execution.cancelRequested = false) (hvalid : execution.request.validate = .ok ())
    (hready : DispatchReady job ownerToken deadlineAtMs createdAt) {call : StageCallRow Fp}
    (hcall : call ∈ db.stageCalls) (hrun : call.runId = runId)
    (hstage : call.stageKey = job.stageKey)
    (hinput : call.inputFingerprint = job.inputFingerprint) :
    dispatchStage runId job ownerToken deadlineAtMs createdAt uuid db = .ok (call.callId, db) ↔
      ∀ budget ∈ execution.request.modelCallBudget, db.callCount runId < budget := by
  have hfind : (db.stageCalls.find? fun other =>
      other.runId = runId ∧ other.stageKey = job.stageKey) = some call := by
    refine Table.find_of_unique hcall (by simp [hrun, hstage]) fun other hother hkey => ?_
    simp only [Bool.decide_and, Bool.and_eq_true, decide_eq_true_eq] at hkey
    refine Table.eq_of_key_eq hinv.keys hother hcall ?_
    rw [hkey.1, hkey.2, hrun, hstage]
  constructor
  · intro h
    obtain ⟨found, hfound, hbudget⟩ := dispatchStage_budget h
    rw [hexecution, Option.some.injEq] at hfound
    rw [hfound]
    exact hbudget
  · intro hbudget
    have hspare : ¬ ∃ budget ∈ execution.request.modelCallBudget,
        budget ≤ db.callCount runId := fun ⟨budget, hmem, hfull⟩ =>
      absurd (hbudget budget hmem) (not_lt.mpr hfull)
    simp only [dispatchStage, bind_eq_ok, require_eq_ok, fetch_eq_ok, exists_const]
    refine ⟨(), hready.job, (), hready.timestamp, hready.lease, execution, hexecution, hactive,
      (), hvalid, hspare, ?_⟩
    rw [hfind]
    simp only [bind_eq_ok, require_eq_ok, exists_const, pure_eq_ok, and_true]
    exact hinput

/-- A new stage is inserted exactly below the budget. -/
theorem dispatchStage_fresh_iff {runId : String} {job : StageJob Fp} {ownerToken : String}
    {deadlineAtMs : ℕ} {createdAt uuid : String} {db : Database Fp}
    {execution : ExecutionRow Fp} (hexecution : db.execution? runId = some execution)
    (hactive : execution.cancelRequested = false) (hvalid : execution.request.validate = .ok ())
    (hready : DispatchReady job ownerToken deadlineAtMs createdAt)
    (hrun : runId ∈ db.runs.map (·.runId))
    (hstage : (runId, job.stageKey) ∉ db.stageCalls.map fun call => (call.runId, call.stageKey))
    (huuid : "call-" ++ uuid ∉ db.stageCalls.map (·.callId)) :
    (∃ answer, dispatchStage runId job ownerToken deadlineAtMs createdAt uuid db = .ok answer) ↔
      ∀ budget ∈ execution.request.modelCallBudget, db.callCount runId < budget := by
  have hfind : (db.stageCalls.find? fun other =>
      other.runId = runId ∧ other.stageKey = job.stageKey) = none := by
    rw [List.find?_eq_none]
    intro other hother hkey
    simp only [Bool.decide_and, Bool.and_eq_true, decide_eq_true_eq] at hkey
    refine hstage (List.mem_map.mpr ⟨other, hother, ?_⟩)
    rw [hkey.1, hkey.2]
  constructor
  · rintro ⟨⟨callId, db'⟩, h⟩
    obtain ⟨found, hfound, hbudget⟩ := dispatchStage_budget h
    rw [hexecution, Option.some.injEq] at hfound
    rw [hfound]
    exact hbudget
  · intro hbudget
    have hspare : ¬ ∃ budget ∈ execution.request.modelCallBudget,
        budget ≤ db.callCount runId := fun ⟨budget, hmem, hfull⟩ =>
      absurd (hbudget budget hmem) (not_lt.mpr hfull)
    simp only [dispatchStage, bind_eq_ok, require_eq_ok, fetch_eq_ok, exists_const]
    apply Exists.intro
    refine ⟨(), hready.job, (), hready.timestamp, hready.lease, execution, hexecution, hactive,
      (), hvalid, hspare, ?_⟩
    rw [hfind]
    simp only [insertStageCall, bind_eq_ok, require_eq_ok, exists_const, pure_eq_ok]
    exact ⟨_, ⟨huuid, hstage, hrun, rfl⟩, rfl⟩

/-! ## Runs -/

/-- One call of the store. The tally of `runId` counts the rows that the call adds; a failed call
is rolled back and is no step. -/
inductive BudgetStep (runId : String) :
    Database Fp × StageTally → Database Fp × StageTally → Prop
  | dispatch {db db' : Database Fp} {tally : StageTally} (target job ownerToken deadlineAtMs
      createdAt uuid callId)
      (h : dispatchStage target job ownerToken deadlineAtMs createdAt uuid db =
        .ok (callId, db')) :
      BudgetStep runId (db, tally)
        (db', { tally with model := tally.model + (db'.callCount runId - db.callCount runId) })
  | confirm {db db' : Database Fp} {tally : StageTally} (callId result updatedAt)
      (h : confirmStage callId result updatedAt db = .ok ((), db')) :
      BudgetStep runId (db, tally) (db', tally)
  | confirmDerived {db db' : Database Fp} {tally : StageTally} (target job result checkpointKind
      checkpointState artifactFingerprint createdAt callUuid eventUuid)
      (h : confirmDerivedStage target job result checkpointKind checkpointState
        artifactFingerprint createdAt callUuid eventUuid db = .ok ((), db')) :
      BudgetStep runId (db, tally)
        (db', { tally with
          derived := tally.derived + (db'.callCount runId - db.callCount runId) })
  | markUnconfirmed {db db' : Database Fp} {tally : StageTally} (callId errorCode updatedAt)
      (h : markStageUnconfirmed callId errorCode updatedAt db = .ok ((), db')) :
      BudgetStep runId (db, tally) (db', tally)

/-- The tally adds up to the rows, and the dispatches stayed inside the budget. -/
structure BudgetInv (runId : String) (execution : ExecutionRow Fp)
    (state : Database Fp × StageTally) : Prop where
  journal : state.1.journal.Inv
  request : state.1.execution? runId = some execution
  rows : state.1.callCount runId = state.2.model + state.2.derived
  model : ∀ budget ∈ execution.request.modelCallBudget, state.2.model ≤ budget

theorem BudgetStep.journal {runId : String} {s t : Database Fp × StageTally}
    (h : BudgetStep runId s t) : Journal.Step s.1.journal t.1.journal := by
  cases h with
  | dispatch _ _ _ _ _ _ _ h => exact dispatchStage_journal h
  | confirm _ _ _ h => exact confirmStage_journal h
  | confirmDerived _ _ _ _ _ _ _ _ _ h => exact confirmDerivedStage_journal h
  | markUnconfirmed _ _ _ h => exact markStageUnconfirmed_journal h

theorem BudgetStep.inv {runId : String} {execution : ExecutionRow Fp}
    {s t : Database Fp × StageTally} (h : BudgetStep runId s t)
    (hinv : BudgetInv runId execution s) : BudgetInv runId execution t := by
  have hjournal := h.journal.inv hinv.journal
  have hrows := hinv.rows
  have hmodel := hinv.model
  cases h with
  | @dispatch db db' tally target job ownerToken deadlineAtMs createdAt uuid callId h =>
    have hcount := dispatchStage_count h runId
    have hrequest : db'.execution? runId = some execution := by
      rw [← hinv.request, execution?, execution?, hcount.1]
    cases hcount.2 with
    | inl hsame =>
      refine ⟨hjournal, hrequest, ?_, ?_⟩
      · simp only [hsame] at hrows ⊢
        omega
      · intro budget hbudget
        have hspent := hmodel budget hbudget
        simp only [hsame] at hspent ⊢
        omega
    | inr hadded =>
      obtain ⟨rfl, hadded⟩ := hadded
      obtain ⟨found, hfound, hbelow⟩ := dispatchStage_budget h
      have hsame : found = execution := by
        have hrequested := hinv.request
        rw [hfound, Option.some.injEq] at hrequested
        exact hrequested
      refine ⟨hjournal, hrequest, ?_, ?_⟩
      · simp only [hadded] at hrows ⊢
        omega
      · intro budget hbudget
        have hspare := hbelow budget (hsame ▸ hbudget)
        simp only [hadded] at hrows ⊢
        omega
  | confirm callId result updatedAt h =>
    have hcount := confirmStage_count h runId
    refine ⟨hjournal, ?_, hcount.1.trans hrows, hmodel⟩
    rw [← hinv.request, execution?, execution?, hcount.2]
  | confirmDerived target job result checkpointKind checkpointState artifactFingerprint createdAt
      callUuid eventUuid h =>
    have hcount := confirmDerivedStage_count h runId
    refine ⟨hjournal, ?_, ?_, hmodel⟩
    · rw [← hinv.request, execution?, execution?, hcount.2]
    · have hgrown := hcount.1
      simp only at hrows hgrown ⊢
      omega
  | markUnconfirmed callId errorCode updatedAt h =>
    have hcount := markStageUnconfirmed_count h runId
    refine ⟨hjournal, ?_, hcount.1.trans hrows, hmodel⟩
    rw [← hinv.request, execution?, execution?, hcount.2]

theorem BudgetStep.run_inv {runId : String} {execution : ExecutionRow Fp}
    {s t : Database Fp × StageTally} (h : ReflTransGen (BudgetStep runId) s t)
    (hinv : BudgetInv runId execution s) : BudgetInv runId execution t :=
  invariant_of_step (P := BudgetInv runId execution) (fun _ _ hstep => hstep.inv) h hinv

/-- The dispatches of a run never insert more calls than its budget. A stage that is in the
ledger, and a new one, are answered exactly while all rows of the run are below the budget; the
derived ones among them are charged like model calls. -/
theorem stageBudget_runs {runId : String} {execution : ExecutionRow Fp} {start db : Database Fp}
    {tally : StageTally} (hjournal : start.journal.Inv)
    (hexecution : start.execution? runId = some execution)
    (hactive : execution.cancelRequested = false) (hvalid : execution.request.validate = .ok ())
    (hempty : start.callCount runId = 0)
    (hrun : ReflTransGen (BudgetStep runId) (start, ⟨0, 0⟩) (db, tally)) :
    (∀ budget ∈ execution.request.modelCallBudget, tally.model ≤ budget) ∧
    (∀ job ownerToken deadlineAtMs createdAt uuid,
      DispatchReady job ownerToken deadlineAtMs createdAt →
      ∀ call ∈ db.stageCalls, call.runId = runId → call.stageKey = job.stageKey →
        call.inputFingerprint = job.inputFingerprint →
        (dispatchStage runId job ownerToken deadlineAtMs createdAt uuid db =
            .ok (call.callId, db) ↔
          ∀ budget ∈ execution.request.modelCallBudget, tally.model + tally.derived < budget)) ∧
    (∀ job ownerToken deadlineAtMs createdAt uuid,
      DispatchReady job ownerToken deadlineAtMs createdAt →
      runId ∈ db.runs.map (·.runId) →
      (runId, job.stageKey) ∉ db.stageCalls.map (fun call => (call.runId, call.stageKey)) →
      "call-" ++ uuid ∉ db.stageCalls.map (·.callId) →
        ((∃ answer, dispatchStage runId job ownerToken deadlineAtMs createdAt uuid db =
            .ok answer) ↔
          ∀ budget ∈ execution.request.modelCallBudget, tally.model + tally.derived < budget)) ∧
    ∀ budget ∈ execution.request.modelCallBudget,
      (budget - db.callCount runId = budget - tally.model ↔
        tally.derived = 0 ∨ budget ≤ tally.model) := by
  have hinv := BudgetStep.run_inv hrun
    ⟨hjournal, hexecution, hempty, fun budget _ => Nat.zero_le budget⟩
  have hrows : db.callCount runId = tally.model + tally.derived := hinv.rows
  refine ⟨hinv.model, ?_, ?_, ?_⟩
  · intro job ownerToken deadlineAtMs createdAt uuid hready call hcall hrunId hstage hinput
    rw [← hrows]
    exact dispatchStage_replay_iff hinv.journal hinv.request hactive hvalid hready hcall hrunId
      hstage hinput
  · intro job ownerToken deadlineAtMs createdAt uuid hready hrunId hstage huuid
    rw [← hrows]
    exact dispatchStage_fresh_iff hinv.request hactive hvalid hready hrunId hstage huuid
  · intro budget hbudget
    have hspent := hinv.model budget hbudget
    simp only at hspent
    omega

end Operations

namespace Sample

/-- The sample request with a budget of one call. -/
def budgetedRequest : ProductionRequest Digest :=
  let body := { request with modelCallBudget := some 1 }
  { body with fingerprint := body.computeFingerprint }

def budgetedExecution : ExecutionRow Digest where
  runId := "run-1"
  requestFingerprint := budgetedRequest.fingerprint
  request := budgetedRequest
  cancelRequested := false
  createdAt := "t2"
  updatedAt := "t2"

def budgeted : Database Digest := { started with productionExecutions := [budgetedExecution] }

/-- Its only call is made. -/
def spent : Database Digest :=
  { dispatched with productionExecutions := [budgetedExecution] }

theorem dispatch_budgeted :
    dispatchStage "run-1" (job "context_query_plan") "o" 9 "t3" "1" budgeted =
      .ok ("call-1", spent) := by
  decide +kernel

theorem spent_run : ReflTransGen (BudgetStep "run-1") (budgeted, ⟨0, 0⟩) (spent, ⟨1, 0⟩) :=
  .single (.dispatch _ _ _ _ _ _ _ dispatch_budgeted)

def derivedAnswer : ModelResult Digest :=
  let body := { answer "derived" with serviceId := "quillframe-deterministic" }
  { body with fingerprint := body.computeFingerprint }

def derivation : CoreResult (Unit × Database Digest) :=
  confirmDerivedStage "run-1" (job "surface_merge") derivedAnswer "merge" .null (.tag 5) "t3" "1"
    "1" budgeted

end Sample

/-- After one call the replay of its dispatch is refused, and after one derivation the only call
is. -/
theorem stageBudget_replay_refused :
    (∃ (db : Database Digest) (tally : StageTally),
      ReflTransGen (BudgetStep "run-1") (Sample.budgeted, ⟨0, 0⟩) (db, tally) ∧
      Sample.call "context_query_plan" "1" ∈ db.stageCalls ∧
      dispatchStage "run-1" (Sample.job "context_query_plan") "o" 9 "t4" "2" db =
        .error (.authorityConflict "production model call budget is exhausted")) ∧
    ∃ (db : Database Digest) (tally : StageTally),
      ReflTransGen (BudgetStep "run-1") (Sample.budgeted, ⟨0, 0⟩) (db, tally) ∧
      tally.model = 0 ∧
      dispatchStage "run-1" (Sample.job "context_query_plan") "o" 9 "t4" "2" db =
        .error (.authorityConflict "production model call budget is exhausted") := by
  constructor
  · exact ⟨_, _, Sample.spent_run, by decide +kernel, by decide +kernel⟩
  · have hderived : ∃ db, Sample.derivation = .ok ((), db) ∧
        dispatchStage "run-1" (Sample.job "context_query_plan") "o" 9 "t4" "2" db =
          .error (.authorityConflict "production model call budget is exhausted") := by
      refine ⟨_, rfl, ?_⟩
      decide +kernel
    obtain ⟨db, hderived, hrefused⟩ := hderived
    exact ⟨db, _, .single (.confirmDerived _ _ _ _ _ _ _ _ _ hderived), rfl, hrefused⟩

theorem stageBudget_runs_sample :
    ReflTransGen (BudgetStep "run-1") (Sample.budgeted, ⟨0, 0⟩) (Sample.spent, ⟨1, 0⟩) ∧
    (⟨1, 0⟩ : StageTally).model ≤ 1 ∧
    1 - Sample.spent.callCount "run-1" = 1 - (⟨1, 0⟩ : StageTally).model := by
  have hstart : Sample.budgeted.journal.Inv := by
    rw [show Sample.budgeted.journal = ⟨[], []⟩ from rfl]
    exact ⟨by simp, by simp, by simp, by simp, by simp⟩
  have hexecution : Sample.budgeted.execution? "run-1" = some Sample.budgetedExecution := rfl
  have hruns := stageBudget_runs hstart hexecution rfl (by decide +kernel) rfl Sample.spent_run
  exact ⟨Sample.spent_run, hruns.1 1 rfl, (hruns.2.2.2 1 rfl).mpr (.inl rfl)⟩

end Quillframe
