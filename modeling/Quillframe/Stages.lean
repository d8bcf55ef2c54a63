import Quillframe.Schema

/-!
# Stage calls of a production run

The journal of model calls: dispatching, confirming, marking unconfirmed and cancelling. Ids that
the store generates are arguments.
-/
namespace Quillframe

open Json (str int fp obj)

variable {Fp : Type}

namespace Database

def insertStageCall (row : StageCallRow Fp) (db : Database Fp) : CoreResult (Database Fp) := do
  require (row.callId ∉ db.stageCalls.map (·.callId))
    (uniqueFailed "production_stage_calls.call_id")
  require ((row.runId, row.stageKey) ∉ db.stageCalls.map fun call => (call.runId, call.stageKey))
    (uniqueFailed "production_stage_calls.run_id, production_stage_calls.stage_key")
  require (row.runId ∈ db.runs.map (·.runId)) foreignKeyFailed
  return { db with stageCalls := db.stageCalls ++ [row] }

theorem insertStageCall_eq_ok {row : StageCallRow Fp} {db db' : Database Fp}
    (h : db.insertStageCall row = .ok db') :
    row.callId ∉ db.stageCalls.map (·.callId) ∧
      ((row.runId, row.stageKey) ∉ db.stageCalls.map fun call => (call.runId, call.stageKey)) ∧
      row.runId ∈ db.runs.map (·.runId) ∧
      db' = { db with stageCalls := db.stageCalls ++ [row] } := by
  simp only [insertStageCall, bind_eq_ok, require_eq_ok, exists_const, pure_eq_ok] at h
  exact ⟨h.1, h.2.1, h.2.2.1, h.2.2.2.symm⟩

def insertBillingReceipt [DecidableEq Fp] (row : BillingReceiptRow Fp) (db : Database Fp) :
    CoreResult (Database Fp) := do
  -- the insert trigger binds the receipt to its confirmed result
  require (∃ call ∈ db.stageCalls, call.callId = row.callId ∧ call.runId = row.runId ∧
      call.resultFingerprint = some row.resultFingerprint ∧ call.state = .confirmed)
    (.storage "production billing receipt binding mismatch")
  require (row.callId ∉ db.billingReceipts.map (·.callId))
    (uniqueFailed "production_billing_receipts.call_id")
  require (row.receiptFingerprint ∉ db.billingReceipts.map (·.receiptFingerprint))
    (uniqueFailed "production_billing_receipts.receipt_fingerprint")
  return { db with billingReceipts := db.billingReceipts ++ [row] }

theorem insertBillingReceipt_eq_ok [DecidableEq Fp] {row : BillingReceiptRow Fp} {db db' : Database Fp}
    (h : db.insertBillingReceipt row = .ok db') :
    row.callId ∉ db.billingReceipts.map (·.callId) ∧
      db' = { db with billingReceipts := db.billingReceipts ++ [row] } := by
  simp only [insertBillingReceipt, bind_eq_ok, require_eq_ok, exists_const, pure_eq_ok] at h
  exact ⟨h.2.1, h.2.2.2.symm⟩

def insertCheckpoint (row : CheckpointRow Fp) (db : Database Fp) : CoreResult (Database Fp) := do
  require (row.checkpointId ∉ db.checkpoints.map (·.checkpointId))
    (uniqueFailed "checkpoints.checkpoint_id")
  require (row.runId ∈ db.runs.map (·.runId)) foreignKeyFailed
  return { db with checkpoints := db.checkpoints ++ [row] }

theorem insertCheckpoint_eq_ok {row : CheckpointRow Fp} {db db' : Database Fp}
    (h : db.insertCheckpoint row = .ok db') :
    db' = { db with checkpoints := db.checkpoints ++ [row] } := by
  simp only [insertCheckpoint, bind_eq_ok, require_eq_ok, exists_const, pure_eq_ok] at h
  exact h.2.2.symm

def insertRuntimeEvent (row : RuntimeEventRow Fp) (db : Database Fp) :
    CoreResult (Database Fp) := do
  require (row.eventId ∉ db.runtimeEvents.map (·.eventId))
    (uniqueFailed "runtime_events.event_id")
  require (row.runId ∈ db.runs.map (·.runId)) foreignKeyFailed
  return { db with runtimeEvents := db.runtimeEvents ++ [row] }

theorem insertRuntimeEvent_eq_ok {row : RuntimeEventRow Fp} {db db' : Database Fp}
    (h : db.insertRuntimeEvent row = .ok db') :
    db' = { db with runtimeEvents := db.runtimeEvents ++ [row] } := by
  simp only [insertRuntimeEvent, bind_eq_ok, require_eq_ok, exists_const, pure_eq_ok] at h
  exact h.2.2.symm

def insertReceipt (row : ReceiptRow Fp) (db : Database Fp) : CoreResult (Database Fp) := do
  require (row.receiptId ∉ db.receipts.map (·.receiptId)) (uniqueFailed "receipts.receipt_id")
  require (row.idempotencyKey = none ∨ row.idempotencyKey ∉ db.receipts.map (·.idempotencyKey))
    (uniqueFailed "receipts.idempotency_key")
  return { db with receipts := db.receipts ++ [row] }

theorem insertReceipt_eq_ok {row : ReceiptRow Fp} {db db' : Database Fp}
    (h : db.insertReceipt row = .ok db') :
    (row.idempotencyKey = none ∨
      row.idempotencyKey ∉ db.receipts.map (·.idempotencyKey)) ∧
      db' = { db with receipts := db.receipts ++ [row] } := by
  simp only [insertReceipt, bind_eq_ok, require_eq_ok, exists_const, pure_eq_ok] at h
  exact ⟨h.2.1, h.2.2.symm⟩

/-- `UPDATE runs SET status=.., result_fingerprint=.. WHERE run_id=..`; no result keeps it. -/
def updateRun (runId status : String) (resultFingerprint : Option (Option Fp))
    (updatedAt : String) (db : Database Fp) : Database Fp :=
  { db with
    runs := Table.updateWhere (fun run => run.runId = runId)
      (fun run => { run with
        status, updatedAt, resultFingerprint := resultFingerprint.getD run.resultFingerprint })
      db.runs }

end Database

open Database

variable [Sha256 Fp] [DecidableEq Fp] [Documents Fp]

/-- `ProjectDatabase::load_production_request`. -/
def Database.loadProductionRequest (db : Database Fp) (runId : String) :
    CoreResult (ProductionRequest Fp) := do
  let execution ← fetch (db.execution? runId) (.authorityConflict "production run is unavailable")
  execution.request.validate
  return execution.request

def dispatchStage (runId : String) (job : StageJob Fp) (ownerToken : String) (deadlineAtMs : ℕ)
    (createdAt uuid : String) (db : Database Fp) : CoreResult (String × Database Fp) := do
  job.validate
  requireTimestamp createdAt
  require (¬ (blank ownerToken ∨ deadlineAtMs = 0 ∨ 2 ^ 63 - 1 < deadlineAtMs))
    (.authorityConflict "stage dispatch lease is incomplete")
  let execution ← fetch (db.execution? runId) noRows
  require (execution.cancelRequested = false) (.authorityConflict "production run is cancelled")
  execution.request.validate
  let dispatched := (db.stageCalls.filter fun call => call.runId = runId).length
  require (¬ ∃ budget ∈ execution.request.modelCallBudget, budget ≤ dispatched)
    (.authorityConflict "production model call budget is exhausted")
  match db.stageCalls.find? fun call => call.runId = runId ∧ call.stageKey = job.stageKey with
  | some call =>
    require (call.inputFingerprint = job.inputFingerprint)
      (.authorityConflict "stage key already binds different input")
    return (call.callId, db)
  | none =>
    let callId := "call-" ++ uuid
    let row : StageCallRow Fp :=
      { callId, runId, stageKey := job.stageKey, runtimeRole := job.runtimeRole,
        inputFingerprint := job.inputFingerprint, job, ownerToken, state := .dispatched,
        deadlineAtMs, result := none, resultFingerprint := none, errorCode := none,
        createdAt, updatedAt := createdAt }
    let db ← db.insertStageCall row
    return (callId, db.updateRun runId "executing" none createdAt)

/-- The call after its result is stored. -/
def StageCallRow.confirm (call : StageCallRow Fp) (result : ModelResult Fp) (updatedAt : String) :
    StageCallRow Fp :=
  { call with
    state := .confirmed, result := some result, resultFingerprint := some result.fingerprint,
    errorCode := none, updatedAt }

def confirmStage (callId : String) (result : ModelResult Fp) (updatedAt : String)
    (db : Database Fp) : CoreResult (Unit × Database Fp) := do
  result.validate
  requireTimestamp updatedAt
  let call ← fetch (Table.lookup StageCallRow.callId callId db.stageCalls) noRows
  if call.state = .confirmed then
    require (call.resultFingerprint = some result.fingerprint)
      (.authorityConflict "confirmed stage result changed")
    return ((), db)
  else
    require (call.state = .dispatched ∨
        (call.state = .unconfirmed ∧ call.errorCode = some "model_transport_unconfirmed"))
      (.authorityConflict "only dispatched stages can be confirmed")
    call.job.validate
    require (result.requestId = call.job.modelRequest.requestId)
      (.authorityConflict "model result does not bind the stage request")
    let confirmed : Database Fp :=
      { db with
        stageCalls := Table.updateWhere (fun row => row.callId = callId)
          (fun row => row.confirm result updatedAt) db.stageCalls }
    match result.usage.costMicros with
    | none => return ((), confirmed)
    | some costMicros =>
      let receiptFingerprint : Fp := Sha256.ofPieces
        [.inl (callId ++ ":"), .inr result.fingerprint, .inl (":" ++ toString costMicros)]
      bindInteger costMicros
      let db ← confirmed.insertBillingReceipt
        { callId, runId := call.runId, resultFingerprint := result.fingerprint, costMicros,
          receiptFingerprint, createdAt := updatedAt }
      return ((), db)

def confirmDerivedStage (runId : String) (job : StageJob Fp) (result : ModelResult Fp)
    (checkpointKind : String) (checkpointState : Json Fp) (artifactFingerprint : Fp)
    (createdAt callUuid eventUuid : String) (db : Database Fp) :
    CoreResult (Unit × Database Fp) := do
  job.validate
  result.validate
  requireTimestamp createdAt
  require (¬ (blank checkpointKind ∨ result.requestId ≠ job.modelRequest.requestId ∨
      result.serviceId ≠ "quillframe-deterministic"))
    (.authorityConflict "derived stage binding is incomplete")
  require ((db.productionExecutions.filter fun execution =>
      execution.runId = runId ∧ execution.cancelRequested = false).length = 1)
    (.authorityConflict "derived stage run is unavailable or cancelled")
  match db.stageCalls.find? fun call =>
      call.runId = runId ∧ call.stageKey = job.stageKey ∧ call.state = .confirmed with
  | some call =>
    require (call.inputFingerprint = job.inputFingerprint ∧
        call.resultFingerprint = some result.fingerprint)
      (.authorityConflict "derived stage changed after confirmation")
    return ((), db)
  | none =>
    let row : StageCallRow Fp :=
      { callId := "call-derived-" ++ callUuid, runId, stageKey := job.stageKey,
        runtimeRole := job.runtimeRole, inputFingerprint := job.inputFingerprint, job,
        ownerToken := "quillframe-core", state := .confirmed, deadlineAtMs := 1,
        result := some result, resultFingerprint := some result.fingerprint, errorCode := none,
        createdAt, updatedAt := createdAt }
    let db ← db.insertStageCall row
    let db ← db.insertCheckpoint
      { checkpointId := "checkpoint-derived-" ++ runId ++ "-" ++ job.stageKey, runId,
        checkpointKind, state := checkpointState, artifactFingerprint, createdAt }
    let db ← db.insertRuntimeEvent
      { eventId := "event-" ++ eventUuid, runId,
        eventKind := "production_derived_stage_confirmed",
        payload := obj [("artifact_fingerprint", fp artifactFingerprint),
          ("result_fingerprint", fp result.fingerprint), ("stage_key", str job.stageKey)],
        createdAt }
    return ((), db)

/-- The condition under which a call can be marked unconfirmed. -/
def StageCallRow.dispatchPending (call : StageCallRow Fp) (errorCode : String) : Bool :=
  call.state = .dispatched || (call.state = .unconfirmed && call.errorCode = some errorCode)

omit [Sha256 Fp] [DecidableEq Fp] [Documents Fp] in
theorem StageCallRow.pending_of_dispatchPending {call : StageCallRow Fp} {errorCode : String}
    (h : call.dispatchPending errorCode) :
    call.state = .dispatched ∨ call.state = .unconfirmed := by
  simp only [dispatchPending, Bool.or_eq_true, decide_eq_true_eq, Bool.and_eq_true] at h
  exact h.imp id And.left

def markStageUnconfirmed (callId errorCode updatedAt : String) (db : Database Fp) :
    CoreResult (Unit × Database Fp) := do
  requireTimestamp updatedAt
  require (¬ blank errorCode) (.authorityConflict "unconfirmed stage requires an error code")
  let matching (call : StageCallRow Fp) : Bool :=
    call.callId = callId && call.dispatchPending errorCode
  require ((db.stageCalls.filter matching).length = 1)
    (.authorityConflict "stage is not dispatch-pending")
  return ((), { db with
    stageCalls := Table.updateWhere matching
      (fun call => { call with state := .unconfirmed, errorCode := some errorCode, updatedAt })
      db.stageCalls })

/-- The calls of a run whose outcome is still open. -/
def StageCallRow.openCall (runId : String) (call : StageCallRow Fp) : Bool :=
  call.runId = runId && (call.state = .dispatched || call.state = .unconfirmed)

def StageCallRow.abandon (updatedAt : String) (call : StageCallRow Fp) : StageCallRow Fp :=
  { call with
    state := .cancelled, errorCode := some "author_abandoned_unknown_outcome", updatedAt }

def cancelProduction (runId : String) (expectedCursor : ℕ)
    (idempotencyKey updatedAt eventUuid receiptUuid : String) (db : Database Fp) :
    CoreResult ((ℕ × Bool) × Database Fp) := do
  requireTimestamp updatedAt
  require (¬ (blank runId ∨ blank idempotencyKey))
    (.authorityConflict "production cancellation identity is incomplete")
  match db.receipts.find? fun receipt => receipt.idempotencyKey = some idempotencyKey ∧
      receipt.receiptKind = "production_cancelled" with
  | some receipt =>
    match receipt.payload with
    | .cancellation priorRun priorCursor count =>
      require (priorRun = runId ∧ priorCursor = expectedCursor)
        (.authorityConflict "production cancellation idempotency key binds different input")
      return ((count, true), db)
    | _ => throw <|
        .authorityConflict "production cancellation idempotency key binds different input"
  | none =>
    require ((db.runtimeEvents.filter fun event => event.runId = runId).length = expectedCursor)
      (.authorityConflict "production cancellation cursor changed")
    require ((db.candidates.filter fun candidate => candidate.runId = some runId).length = 0)
      (.authorityConflict
        "a released candidate cannot be abandoned as an unknown model outcome")
    let abandoned := (db.stageCalls.filter (StageCallRow.openCall runId)).length
    require ((db.runs.filter fun run => run.runId = runId ∧ run.status ≠ "cancelled").length = 1)
      (.authorityConflict "production run is unavailable or already cancelled")
    require (abandoned < 2 ^ 32) (.contextBoundary "abandoned call count exceeds u32")
    let db : Database Fp :=
      { db with
        stageCalls := Table.updateWhere (StageCallRow.openCall runId)
          (StageCallRow.abandon updatedAt) db.stageCalls
        runs := Table.updateWhere (fun run => run.runId = runId ∧ run.status ≠ "cancelled")
          (fun run => { run with status := "cancelled", updatedAt }) db.runs
        productionExecutions := Table.updateWhere (fun execution => execution.runId = runId)
          (fun execution => { execution with cancelRequested := true, updatedAt })
          db.productionExecutions }
    let db ← db.insertRuntimeEvent
      { eventId := "event-" ++ eventUuid, runId, eventKind := "production_abandoned",
        payload := obj [("abandoned_call_count", int abandoned),
          ("expected_cursor", int expectedCursor), ("run_id", str runId)],
        createdAt := updatedAt }
    let db ← db.insertReceipt
      { receiptId := "receipt-" ++ receiptUuid, receiptKind := "production_cancelled",
        idempotencyKey := some idempotencyKey,
        payload := .cancellation runId expectedCursor abandoned, createdAt := updatedAt }
    return ((abandoned, false), db)

def setRunStatus (runId status : String) (resultFingerprint : Option Fp) (updatedAt : String)
    (db : Database Fp) : CoreResult (Unit × Database Fp) := do
  requireTimestamp updatedAt
  require (¬ blank status) (.authorityConflict "run status is required")
  require ((db.runs.filter fun run => run.runId = runId).length = 1)
    (.authorityConflict "production run is unavailable")
  return ((), db.updateRun runId status (some resultFingerprint) updatedAt)

/-- The ordinal of the candidate a failed gate rejects. -/
def failedGateRevision (request : ProductionRequest Fp) (db : Database Fp) : CoreResult ℕ :=
  match request.taskMode with
  | .draft => return 1
  | .revise => do
    let binding ← fetch request.intent.repairSource
      (.authorityConflict "failed REVISE run lost its repair source")
    let source ← fetch (db.checkpoints.find? fun checkpoint =>
      checkpoint.checkpointId = binding.sourceCheckpointId ∧
      checkpoint.runId = binding.sourceRunId ∧
      checkpoint.checkpointKind ∈
        ["failed_candidate_repair_source", "author_revision_repair_source"]) noRows
    let revision ← fetch ((source.state.get? "revision").bind Json.asInt)
      (.authorityConflict "repair source has no revision ordinal")
    require (0 ≤ revision ∧ revision < 2 ^ 64)
      (.authorityConflict "repair source has no revision ordinal")
    require (revision + 1 < 2 ^ 64) (.authorityConflict "repair revision ordinal overflowed")
    return revision.toNat + 1

def recordFailedGate (runId : String) (candidateFingerprint : Fp) (mechanism : String)
    (stageResultFingerprint : Fp) (createdAt checkpointUuid eventUuid : String)
    (db : Database Fp) : CoreResult (String × Database Fp) := do
  requireTimestamp createdAt
  require (¬ blank mechanism) (.authorityConflict "failed gate mechanism is required")
  let production ← db.loadProductionRequest runId
  let revision ← failedGateRevision production db
  let checkpointId := "checkpoint-" ++ checkpointUuid
  let payload : Json Fp := obj [("candidate_fingerprint", fp candidateFingerprint),
    ("mechanism", str mechanism), ("revision", int revision),
    ("stage_result_fingerprint", fp stageResultFingerprint)]
  let db ← db.insertCheckpoint
    { checkpointId, runId, checkpointKind := "failed_candidate_repair_source", state := payload,
      artifactFingerprint := candidateFingerprint, createdAt }
  let db := db.updateRun runId "failed_gate" (some (some stageResultFingerprint)) createdAt
  let db ← db.insertRuntimeEvent
    { eventId := "event-" ++ eventUuid, runId, eventKind := "production_gate_rejected",
      payload, createdAt }
  return (checkpointId, db)

/-! ## Frames -/

omit [Documents Fp] in
theorem confirmStage_frame {callId : String} {result : ModelResult Fp} {updatedAt : String}
    {u : Unit} {db db' : Database Fp} (h : confirmStage callId result updatedAt db = .ok (u, db')) :
    ∃ calls receipts, db' = { db with stageCalls := calls, billingReceipts := receipts } := by
  simp only [confirmStage, bind_eq_ok, fetch_eq_ok] at h
  obtain ⟨_, -, _, -, call, -, h⟩ := h
  split_ifs at h
  · simp only [bind_eq_ok, require_eq_ok, exists_const, pure_eq_ok, Prod.mk.injEq] at h
    obtain ⟨-, -, rfl⟩ := h
    exact ⟨_, _, rfl⟩
  · simp only [bind_eq_ok, require_eq_ok, exists_const] at h
    obtain ⟨-, _, -, -, h⟩ := h
    split at h
    · simp only [pure_eq_ok, Prod.mk.injEq] at h
      obtain ⟨-, rfl⟩ := h
      exact ⟨_, _, rfl⟩
    · simp only [bind_eq_ok, pure_eq_ok, Prod.mk.injEq] at h
      obtain ⟨_, -, billed, hbilled, -, rfl⟩ := h
      obtain ⟨-, rfl⟩ := insertBillingReceipt_eq_ok hbilled
      exact ⟨_, _, rfl⟩

omit [Documents Fp] in
theorem confirmDerivedStage_frame {runId : String} {job : StageJob Fp} {result : ModelResult Fp}
    {checkpointKind : String} {checkpointState : Json Fp} {artifactFingerprint : Fp}
    {createdAt callUuid eventUuid : String} {u : Unit} {db db' : Database Fp}
    (h : confirmDerivedStage runId job result checkpointKind checkpointState artifactFingerprint
      createdAt callUuid eventUuid db = .ok (u, db')) :
    ∃ calls checkpoints events, db' = { db with
      stageCalls := calls, checkpoints := checkpoints, runtimeEvents := events } := by
  simp only [confirmDerivedStage, bind_eq_ok, require_eq_ok, exists_const] at h
  obtain ⟨_, -, _, -, _, -, -, -, h⟩ := h
  split at h
  · simp only [bind_eq_ok, require_eq_ok, exists_const, pure_eq_ok, Prod.mk.injEq] at h
    obtain ⟨-, -, rfl⟩ := h
    exact ⟨_, _, _, rfl⟩
  · simp only [bind_eq_ok, pure_eq_ok, Prod.mk.injEq] at h
    obtain ⟨called, hcalled, checked, hchecked, done, hdone, -, rfl⟩ := h
    obtain ⟨-, -, -, rfl⟩ := insertStageCall_eq_ok hcalled
    obtain rfl := insertCheckpoint_eq_ok hchecked
    obtain rfl := insertRuntimeEvent_eq_ok hdone
    exact ⟨_, _, _, rfl⟩

omit [Sha256 Fp] [DecidableEq Fp] [Documents Fp] in
theorem markStageUnconfirmed_frame {callId errorCode updatedAt : String} {u : Unit}
    {db db' : Database Fp} (h : markStageUnconfirmed callId errorCode updatedAt db = .ok (u, db')) :
    ∃ calls, db' = { db with stageCalls := calls } := by
  simp only [markStageUnconfirmed, bind_eq_ok, require_eq_ok, exists_const, pure_eq_ok,
    Prod.mk.injEq] at h
  obtain ⟨_, -, -, -, -, rfl⟩ := h
  exact ⟨_, rfl⟩

omit [Sha256 Fp] [DecidableEq Fp] [Documents Fp] in
theorem setRunStatus_eq_ok {runId status : String} {resultFingerprint : Option Fp}
    {updatedAt : String} {u : Unit} {db db' : Database Fp}
    (h : setRunStatus runId status resultFingerprint updatedAt db = .ok (u, db')) :
    db' = db.updateRun runId status (some resultFingerprint) updatedAt := by
  simp only [setRunStatus, bind_eq_ok, require_eq_ok, exists_const, pure_eq_ok,
    Prod.mk.injEq] at h
  obtain ⟨_, -, -, -, -, rfl⟩ := h
  rfl

theorem recordFailedGate_eq_ok {runId : String} {candidateFingerprint : Fp} {mechanism : String}
    {stageResultFingerprint : Fp} {createdAt checkpointUuid eventUuid checkpointId : String}
    {db db' : Database Fp}
    (h : recordFailedGate runId candidateFingerprint mechanism stageResultFingerprint createdAt
      checkpointUuid eventUuid db = .ok (checkpointId, db')) :
    ∃ checkpoints events,
      db' = { db.updateRun runId "failed_gate" (some (some stageResultFingerprint)) createdAt with
        checkpoints := checkpoints, runtimeEvents := events } := by
  simp only [recordFailedGate, bind_eq_ok, require_eq_ok, exists_const, pure_eq_ok,
    Prod.mk.injEq] at h
  obtain ⟨_, -, -, _, -, _, -, checked, hchecked, evented, hevented, -, rfl⟩ := h
  obtain rfl := insertCheckpoint_eq_ok hchecked
  obtain rfl := insertRuntimeEvent_eq_ok hevented
  exact ⟨_, _, rfl⟩

end Quillframe
