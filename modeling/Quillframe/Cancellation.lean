import Quillframe.Release
import Quillframe.StageLedger

/-!
# Cancelling a run

The operations that act on a run, and what a cancellation leaves to them.
-/
namespace Quillframe

open Relation Database

variable {Fp : Type}

/-! ## Operations on a run -/

/-- The calls that can interleave with a cancellation, with their arguments. -/
inductive RunOp (Fp : Type) where
  | dispatch (runId : String) (job : StageJob Fp) (ownerToken : String) (deadlineAtMs : ℕ)
      (createdAt uuid : String)
  | confirm (callId : String) (result : ModelResult Fp) (updatedAt : String)
  | confirmDerived (runId : String) (job : StageJob Fp) (result : ModelResult Fp)
      (checkpointKind : String) (checkpointState : Json Fp) (artifactFingerprint : Fp)
      (createdAt callUuid eventUuid : String)
  | markUnconfirmed (callId errorCode updatedAt : String)
  | setStatus (runId status : String) (resultFingerprint : Option Fp) (updatedAt : String)
  | failedGate (runId : String) (candidateFingerprint : Fp) (mechanism : String)
      (stageResultFingerprint : Fp) (createdAt checkpointUuid eventUuid : String)
  | freezeContext (runId : String) (taskMode : ProductionTaskMode) (queryPlan : ContextQueryPlan)
      (candidates : List (ContextEntry Fp)) (proposal : ContextSelectionProposal)
      (freeze : ContextFreeze Fp) (createdAt selectionUuid freezeUuid : String)
  | commit (runId documentId : String) (taskMode : ProductionTaskMode)
      (candidate : CandidateArtifact Fp) (report : ReviewReport Fp)
      (release : ProductionRelease Fp)
      (boundedEvidence : CoreResult (String × OrderedMap String Fp)) (createdAt : String)
      (ids : ReleaseIds)
  | cancel (runId : String) (expectedCursor : ℕ)
      (idempotencyKey updatedAt eventUuid receiptUuid : String)

section Run

variable [Sha256 Fp] [DecidableEq Fp] [Documents Fp]

/-- The database an operation commits; a failed one rolls back. -/
def RunOp.exec (op : RunOp Fp) (db : Database Fp) : CoreResult (Database Fp) :=
  match op with
  | dispatch runId job ownerToken deadlineAtMs createdAt uuid =>
    Prod.snd <$> dispatchStage runId job ownerToken deadlineAtMs createdAt uuid db
  | confirm callId result updatedAt => Prod.snd <$> confirmStage callId result updatedAt db
  | confirmDerived runId job result checkpointKind checkpointState artifactFingerprint createdAt
      callUuid eventUuid =>
    Prod.snd <$> confirmDerivedStage runId job result checkpointKind checkpointState
      artifactFingerprint createdAt callUuid eventUuid db
  | markUnconfirmed callId errorCode updatedAt =>
    Prod.snd <$> markStageUnconfirmed callId errorCode updatedAt db
  | setStatus runId status resultFingerprint updatedAt =>
    Prod.snd <$> setRunStatus runId status resultFingerprint updatedAt db
  | failedGate runId candidateFingerprint mechanism stageResultFingerprint createdAt
      checkpointUuid eventUuid =>
    Prod.snd <$> recordFailedGate runId candidateFingerprint mechanism stageResultFingerprint
      createdAt checkpointUuid eventUuid db
  | freezeContext runId taskMode queryPlan candidates proposal freeze createdAt selectionUuid
      freezeUuid =>
    Prod.snd <$> persistWriterContextFreeze runId taskMode queryPlan candidates proposal freeze
      createdAt selectionUuid freezeUuid db
  | commit runId documentId taskMode candidate report release boundedEvidence createdAt ids =>
    Prod.snd <$> commitReleasedCandidate runId documentId taskMode candidate report release
      boundedEvidence createdAt ids db
  | cancel runId expectedCursor idempotencyKey updatedAt eventUuid receiptUuid =>
    Prod.snd <$> cancelProduction runId expectedCursor idempotencyKey updatedAt eventUuid
      receiptUuid db

/-- One committed operation. -/
def RunOp.Step (db db' : Database Fp) : Prop := ∃ op : RunOp Fp, op.exec db = .ok db'

end Run

/-! ## Cancelled runs -/

/-- The run is cancelled, no stage of it can be dispatched and it has no candidate. -/
structure Database.Cancelled (db : Database Fp) (runId : String) : Prop where
  exists_run : ∃ run ∈ db.runs, run.runId = runId
  status : ∀ run ∈ db.runs, run.runId = runId → run.status = "cancelled"
  requested : ∀ execution ∈ db.productionExecutions, execution.runId = runId →
    execution.cancelRequested = true
  unreleased : ∀ candidate ∈ db.candidates, candidate.runId ≠ some runId

/-- Every stored receipt of a cancellation of the run is true. -/
def Database.CancellationsHold (db : Database Fp) (runId : String) : Prop :=
  ∀ receipt ∈ db.receipts, receipt.receiptKind = "production_cancelled" →
    ∀ cursor count, receipt.payload = .cancellation runId cursor count → db.Cancelled runId

/-- The two operations that write a status without looking at the old one leave a cancelled run
alone. -/
def RunOp.SparesCancelled (op : RunOp Fp) (db : Database Fp) (runId : String) : Prop :=
  match op with
  | setStatus target status _ _ =>
    target = runId → (∃ run ∈ db.runs, run.runId = runId ∧ run.status = "cancelled") →
      status = "cancelled"
  | failedGate target _ _ _ _ _ _ =>
    target = runId → ¬ ∃ run ∈ db.runs, run.runId = runId ∧ run.status = "cancelled"
  | _ => True

namespace Database.Cancelled

variable {db db' : Database Fp} {runId : String}

/-- Cancellation reads three tables. -/
theorem of_tables (h : db.Cancelled runId) (hruns : db'.runs = db.runs)
    (hexecutions : db'.productionExecutions = db.productionExecutions)
    (hcandidates : db'.candidates = db.candidates) : db'.Cancelled runId := by
  obtain ⟨h1, h2, h3, h4⟩ := h
  exact ⟨hruns ▸ h1, hruns ▸ h2, hexecutions ▸ h3, hcandidates ▸ h4⟩

/-- Updating another run, or this one to the same status. -/
theorem updateRun (h : db.Cancelled runId) {target status updatedAt : String}
    {result : Option (Option Fp)} (hstatus : target = runId → status = "cancelled") :
    (db.updateRun target status result updatedAt).Cancelled runId := by
  obtain ⟨⟨run, hrun, hid⟩, hcancelled, hrequested, hunreleased⟩ := h
  refine ⟨⟨_, Table.mem_updateWhere.mpr ⟨run, hrun, rfl⟩, ?_⟩, ?_, hrequested, hunreleased⟩
  · split_ifs <;> exact hid
  · intro new hnew hnewId
    obtain ⟨old, hold, rfl⟩ := Table.mem_updateWhere.mp hnew
    split_ifs at hnewId ⊢ with htarget
    · exact hstatus ((of_decide_eq_true htarget).symm.trans hnewId)
    · exact hcancelled old hold hnewId

theorem exists_status (h : db.Cancelled runId) :
    ∃ run ∈ db.runs, run.runId = runId ∧ run.status = "cancelled" := by
  obtain ⟨run, hrun, hid⟩ := h.exists_run
  exact ⟨run, hrun, hid, h.status run hrun hid⟩

/-- No execution of a cancelled run is open. -/
theorem not_open (h : db.Cancelled runId) {execution : ExecutionRow Fp}
    (hmem : execution ∈ db.productionExecutions) (hopen : execution.cancelRequested = false) :
    execution.runId ≠ runId := by
  intro hid
  simp [h.requested execution hmem hid] at hopen

end Database.Cancelled

/-! ## Steps -/

section Steps

/-- A cancellation that commits leaves its run cancelled. -/
theorem cancelProduction_cancelled {runId : String} {expectedCursor : ℕ}
    {idempotencyKey updatedAt eventUuid receiptUuid : String} {answer : ℕ × Bool}
    {db db' : Database Fp} (hinv : db.CancellationsHold runId)
    (h : cancelProduction runId expectedCursor idempotencyKey updatedAt eventUuid receiptUuid db =
      .ok (answer, db')) : db'.Cancelled runId := by
  obtain ⟨rfl, receipt, hreceipt, hkind, count, hpayload⟩ |
    ⟨hcandidates, ⟨run, hrun, hid⟩, event, receipt, count, -, -, rfl⟩ := cancelProduction_eq_ok h
  · exact hinv receipt hreceipt hkind expectedCursor count hpayload
  · refine ⟨⟨_, Table.mem_updateWhere.mpr ⟨run, hrun, rfl⟩, ?_⟩, ?_, ?_, hcandidates⟩
    · split_ifs <;> exact hid
    · intro new hnew hnewId
      obtain ⟨old, hold, rfl⟩ := Table.mem_updateWhere.mp hnew
      split_ifs at hnewId ⊢ with hselected
      · rfl
      · by_contra hstatus
        exact hselected (by simpa using ⟨hnewId, hstatus⟩)
    · intro new hnew hnewId
      obtain ⟨old, hold, rfl⟩ := Table.mem_updateWhere.mp hnew
      split_ifs at hnewId ⊢ with hselected
      · rfl
      · exact absurd (decide_eq_true hnewId) hselected

/-- Cancelling any run keeps every cancelled run cancelled. -/
theorem Database.Cancelled.cancelProduction {target runId : String} {expectedCursor : ℕ}
    {idempotencyKey updatedAt eventUuid receiptUuid : String} {answer : ℕ × Bool}
    {db db' : Database Fp}
    (h : Quillframe.cancelProduction target expectedCursor idempotencyKey updatedAt eventUuid
      receiptUuid db = .ok (answer, db'))
    (hcancelled : db.Cancelled runId) : db'.Cancelled runId := by
  obtain ⟨rfl, -⟩ | ⟨-, -, event, receipt, count, -, -, rfl⟩ := cancelProduction_eq_ok h
  · exact hcancelled
  · obtain ⟨⟨run, hrun, hid⟩, hstatus, hrequested, hunreleased⟩ := hcancelled
    refine ⟨⟨_, Table.mem_updateWhere.mpr ⟨run, hrun, rfl⟩, ?_⟩, ?_, ?_, hunreleased⟩
    · split_ifs <;> exact hid
    · intro new hnew hnewId
      obtain ⟨old, hold, rfl⟩ := Table.mem_updateWhere.mp hnew
      split_ifs at hnewId ⊢
      · rfl
      · exact hstatus old hold hnewId
    · intro new hnew hnewId
      obtain ⟨old, hold, rfl⟩ := Table.mem_updateWhere.mp hnew
      split_ifs at hnewId ⊢
      · rfl
      · exact hrequested old hold hnewId

variable [Sha256 Fp] [DecidableEq Fp] [Documents Fp]

/-- A step that spares cancelled runs keeps a cancelled run cancelled. -/
theorem RunOp.cancelled_of_exec {op : RunOp Fp} {db db' : Database Fp} {runId : String}
    (h : op.exec db = .ok db') (hspares : op.SparesCancelled db runId)
    (hcancelled : db.Cancelled runId) : db'.Cancelled runId := by
  cases op with
  | dispatch target job ownerToken deadlineAtMs createdAt uuid =>
    obtain ⟨callId, h⟩ := snd_map_eq_ok h
    obtain ⟨⟨execution, hexecution, hopen⟩, hcases⟩ := dispatchStage_eq_ok h
    have htarget : target ≠ runId := fun he =>
      hcancelled.not_open (Table.lookup_mem hexecution) hopen
        ((Table.lookup_key hexecution).trans he)
    obtain ⟨_, -, -, -, -, -, rfl⟩ | ⟨_, -, -, -, -, -, -, -, -, -, rfl⟩ := hcases
    · exact hcancelled
    · refine Cancelled.updateRun ?_ fun he => absurd he htarget
      exact hcancelled.of_tables rfl rfl rfl
  | confirm callId result updatedAt =>
    obtain ⟨_, h⟩ := snd_map_eq_ok h
    obtain ⟨calls, receipts, rfl⟩ := confirmStage_frame h
    exact hcancelled.of_tables rfl rfl rfl
  | confirmDerived target job result kind state artifact createdAt callUuid eventUuid =>
    obtain ⟨_, h⟩ := snd_map_eq_ok h
    obtain ⟨calls, checkpoints, events, rfl⟩ := confirmDerivedStage_frame h
    exact hcancelled.of_tables rfl rfl rfl
  | markUnconfirmed callId errorCode updatedAt =>
    obtain ⟨_, h⟩ := snd_map_eq_ok h
    obtain ⟨calls, rfl⟩ := markStageUnconfirmed_frame h
    exact hcancelled.of_tables rfl rfl rfl
  | setStatus target status result updatedAt =>
    obtain ⟨_, h⟩ := snd_map_eq_ok h
    obtain rfl := setRunStatus_eq_ok h
    exact hcancelled.updateRun fun he => hspares he hcancelled.exists_status
  | failedGate target candidateFingerprint mechanism stageResult createdAt checkpoint event =>
    obtain ⟨_, h⟩ := snd_map_eq_ok h
    obtain ⟨checkpoints, events, rfl⟩ := recordFailedGate_eq_ok h
    have hupdated : (db.updateRun target "failed_gate" (some (some stageResult))
        createdAt).Cancelled runId :=
      hcancelled.updateRun fun he => absurd hcancelled.exists_status (hspares he)
    exact hupdated.of_tables rfl rfl rfl
  | freezeContext target taskMode plan candidates proposal freeze createdAt selection freezeId =>
    obtain ⟨_, h⟩ := snd_map_eq_ok h
    obtain ⟨-, selections, freezes, dependencies, -, rfl⟩ :=
      persistWriterContextFreeze_eq_ok h
    exact hcancelled.of_tables rfl rfl rfl
  | commit target documentId taskMode candidate report release evidence createdAt ids =>
    obtain ⟨_, h⟩ := snd_map_eq_ok h
    obtain ⟨-, -, bounded, receipt, checkpoint, event, hcheck, -, -, rfl⟩ :=
      commitReleasedCandidate_eq_ok h
    obtain ⟨-, -, ⟨run, hrun, hstatus⟩, -, -⟩ := checkRelease_eq_ok hcheck
    have htarget : target ≠ runId := by
      rintro rfl
      have := hcancelled.status run (Table.lookup_mem hrun) (Table.lookup_key hrun)
      simp [this] at hstatus
    obtain ⟨hexists, hall, hrequested, hunreleased⟩ : (db.updateRun target "review"
        (some (some release.fingerprint)) createdAt).Cancelled runId :=
      hcancelled.updateRun fun he => absurd he htarget
    refine ⟨hexists, hall, hrequested, fun row hrow => ?_⟩
    rcases List.mem_append.mp hrow with hrow | hrow
    · exact hunreleased row hrow
    · obtain rfl := List.mem_singleton.mp hrow
      exact fun he => htarget (Option.some.inj he)
  | cancel target expectedCursor key updatedAt eventUuid receiptUuid =>
    obtain ⟨_, h⟩ := snd_map_eq_ok h
    exact hcancelled.cancelProduction h

/-- Only a cancellation writes a receipt. -/
theorem RunOp.receipts_of_exec {op : RunOp Fp} {db db' : Database Fp}
    (h : op.exec db = .ok db') :
    db'.receipts = db.receipts ∨ ∃ target expectedCursor key updatedAt eventUuid receiptUuid answer,
      cancelProduction target expectedCursor key updatedAt eventUuid receiptUuid db =
        .ok (answer, db') := by
  cases op with
  | dispatch =>
    obtain ⟨callId, h⟩ := snd_map_eq_ok h
    obtain ⟨-, ⟨_, -, -, -, -, -, rfl⟩ | ⟨_, -, -, -, -, -, -, -, -, -, rfl⟩⟩ :=
      dispatchStage_eq_ok h
    all_goals exact .inl rfl
  | confirm =>
    obtain ⟨_, h⟩ := snd_map_eq_ok h
    obtain ⟨calls, receipts, rfl⟩ := confirmStage_frame h
    exact .inl rfl
  | confirmDerived =>
    obtain ⟨_, h⟩ := snd_map_eq_ok h
    obtain ⟨calls, checkpoints, events, rfl⟩ := confirmDerivedStage_frame h
    exact .inl rfl
  | markUnconfirmed =>
    obtain ⟨_, h⟩ := snd_map_eq_ok h
    obtain ⟨calls, rfl⟩ := markStageUnconfirmed_frame h
    exact .inl rfl
  | setStatus =>
    obtain ⟨_, h⟩ := snd_map_eq_ok h
    obtain rfl := setRunStatus_eq_ok h
    exact .inl rfl
  | failedGate =>
    obtain ⟨_, h⟩ := snd_map_eq_ok h
    obtain ⟨checkpoints, events, rfl⟩ := recordFailedGate_eq_ok h
    exact .inl rfl
  | freezeContext =>
    obtain ⟨_, h⟩ := snd_map_eq_ok h
    obtain ⟨-, selections, freezes, dependencies, -, rfl⟩ :=
      persistWriterContextFreeze_eq_ok h
    exact .inl rfl
  | commit =>
    obtain ⟨_, h⟩ := snd_map_eq_ok h
    obtain ⟨-, -, bounded, receipt, checkpoint, event, -, -, -, rfl⟩ :=
      commitReleasedCandidate_eq_ok h
    exact .inl rfl
  | cancel =>
    obtain ⟨answer, h⟩ := snd_map_eq_ok h
    exact .inr ⟨_, _, _, _, _, _, answer, h⟩

theorem RunOp.cancellationsHold_of_exec {op : RunOp Fp} {db db' : Database Fp} {runId : String}
    (h : op.exec db = .ok db') (hspares : op.SparesCancelled db runId)
    (hinv : db.CancellationsHold runId) : db'.CancellationsHold runId := by
  intro receipt hreceipt hkind cursor count hpayload
  have hold : receipt ∈ db.receipts → db'.Cancelled runId := fun hmem =>
    cancelled_of_exec h hspares (hinv receipt hmem hkind cursor count hpayload)
  rcases receipts_of_exec h with hsame | ⟨target, _, _, _, _, _, answer, hcancel⟩
  · exact hold (hsame ▸ hreceipt)
  · obtain ⟨rfl, -⟩ | ⟨-, -, event, new, newCount, -, hnew, hdb⟩ := cancelProduction_eq_ok hcancel
    · exact hold hreceipt
    · have hmem : receipt ∈ db.receipts ++ [new] := by
        rw [hdb] at hreceipt
        exact hreceipt
      rcases List.mem_append.mp hmem with hmem | hmem
      · exact hold hmem
      · -- the receipt of this very cancellation
        obtain rfl := List.mem_singleton.mp hmem
        obtain ⟨rfl, -⟩ : target = runId ∧ _ := by simpa [hnew] using hpayload
        exact cancelProduction_cancelled hinv hcancel

end Steps

/-! ## Runs -/

section Runs

variable [Sha256 Fp] [DecidableEq Fp] [Documents Fp]

/-- A committed operation that spares the run once it is cancelled. -/
def RunOp.SparingStep (runId : String) (db db' : Database Fp) : Prop :=
  ∃ op : RunOp Fp, op.SparesCancelled db runId ∧ op.exec db = .ok db'

/-- Once a run is cancelled it stays cancelled, with no candidate and no release, in every run of
the store whose status writes spare it. -/
theorem cancellation_final {runId : String} {expectedCursor : ℕ}
    {idempotencyKey updatedAt eventUuid receiptUuid : String} {answer : ℕ × Bool}
    {start before after later : Database Fp}
    (hstart : ∀ receipt ∈ start.receipts, receipt.receiptKind ≠ "production_cancelled")
    (hbefore : ReflTransGen (RunOp.SparingStep runId) start before)
    (hcancel : cancelProduction runId expectedCursor idempotencyKey updatedAt eventUuid receiptUuid
      before = .ok (answer, after))
    (hlater : ReflTransGen (RunOp.SparingStep runId) after later) :
    (∃ run ∈ later.runs, run.runId = runId) ∧
    (∀ run ∈ later.runs, run.runId = runId → run.status = "cancelled") ∧
    (∀ candidate ∈ later.candidates, candidate.runId ≠ some runId) ∧
    (∀ release ∈ later.productionReleases, ∀ candidate ∈ later.candidates,
      candidate.candidateId = release.candidateId → candidate.runId ≠ some runId) := by
  have hhold : before.CancellationsHold runId := by
    refine invariant_of_step (P := fun db => db.CancellationsHold runId) ?_ hbefore ?_
    · rintro db db' ⟨op, hspares, hexec⟩
      exact RunOp.cancellationsHold_of_exec hexec hspares
    · exact fun receipt hreceipt hkind => absurd hkind (hstart receipt hreceipt)
  have hcancelled : later.Cancelled runId := by
    refine invariant_of_step (P := fun db => db.Cancelled runId) ?_ hlater
      (cancelProduction_cancelled hhold hcancel)
    rintro db db' ⟨op, hspares, hexec⟩
    exact RunOp.cancelled_of_exec hexec hspares
  exact ⟨hcancelled.exists_run, hcancelled.status, hcancelled.unreleased,
    fun _ _ candidate hcandidate _ => hcancelled.unreleased candidate hcandidate⟩

end Runs

namespace Sample

/-- The sample run with one open call, cancelled. -/
def cancelled : Database Digest :=
  { dispatched with
    stageCalls := [(call "context_query_plan" "1").abandon "t4"]
    runs := [{ run with status := "cancelled", updatedAt := "t4" }]
    productionExecutions :=
      [{ runId := "run-1", requestFingerprint := request.fingerprint, request,
         cancelRequested := true, createdAt := "t2", updatedAt := "t4" }]
    runtimeEvents :=
      [{ eventId := "event-1", runId := "run-1", eventKind := "production_abandoned",
         payload := Json.obj [("abandoned_call_count", .int 1), ("expected_cursor", .int 0),
           ("run_id", .str "run-1")], createdAt := "t4" }]
    receipts :=
      [{ receiptId := "receipt-1", receiptKind := "production_cancelled",
         idempotencyKey := some "k", payload := .cancellation "run-1" 0 1, createdAt := "t4" }] }

theorem cancel_dispatched :
    cancelProduction "run-1" 0 "k" "t4" "1" "1" dispatched = .ok ((1, false), cancelled) := by
  decide +kernel

/-- The cancelled run after the executor, still at work, moved on to its release. -/
def resumed : Database Digest :=
  { cancelled with
    runs := [{ run with
      status := "awaiting_release", updatedAt := "t5", resultFingerprint := some (.tag 5) }] }

theorem setStatus_cancelled :
    setRunStatus "run-1" "awaiting_release" (some (.tag 5)) "t5" cancelled =
      .ok ((), resumed) := by
  decide +kernel

end Sample

theorem cancellation_final_sample :
    (∃ run ∈ Sample.cancelled.runs, run.runId = "run-1") ∧
    ∀ later, ReflTransGen (RunOp.SparingStep "run-1") Sample.cancelled later →
      ∀ run ∈ later.runs, run.runId = "run-1" → run.status = "cancelled" := by
  have hrun : ReflTransGen (RunOp.SparingStep "run-1") Sample.started Sample.dispatched := by
    refine .single ⟨.dispatch "run-1" (Sample.job "context_query_plan") "o" 9 "t3" "1", trivial, ?_⟩
    simp [RunOp.exec, Sample.dispatch_started, Functor.map, Except.map]
  have hstart : ∀ receipt ∈ Sample.started.receipts,
      receipt.receiptKind ≠ "production_cancelled" := fun receipt h => by cases h
  refine ⟨(cancellation_final hstart hrun Sample.cancel_dispatched .refl).1, fun later hlater => ?_⟩
  exact (cancellation_final hstart hrun Sample.cancel_dispatched hlater).2.1

/-- Without the condition a cancelled run gets another status. -/
theorem cancellation_not_final :
    ¬ ∀ (runId : String) (expectedCursor : ℕ)
      (idempotencyKey updatedAt eventUuid receiptUuid : String) (answer : ℕ × Bool)
      (start before after later : Database Digest),
      (∀ receipt ∈ start.receipts, receipt.receiptKind ≠ "production_cancelled") →
      ReflTransGen RunOp.Step start before →
      cancelProduction runId expectedCursor idempotencyKey updatedAt eventUuid receiptUuid
        before = .ok (answer, after) →
      ReflTransGen RunOp.Step after later →
      ∀ run ∈ later.runs, run.runId = runId → run.status = "cancelled" := by
  intro h
  have hstart : ∀ receipt ∈ Sample.dispatched.receipts,
      receipt.receiptKind ≠ "production_cancelled" := fun receipt h => by cases h
  have hstep : RunOp.Step Sample.cancelled Sample.resumed := by
    refine ⟨.setStatus "run-1" "awaiting_release" (some (.tag 5)) "t5", ?_⟩
    simp [RunOp.exec, Sample.setStatus_cancelled, Functor.map, Except.map]
  have hstatus := h "run-1" 0 "k" "t4" "1" "1" (1, false) _ _ _ _ hstart .refl
    Sample.cancel_dispatched (.single hstep) _ List.mem_cons_self rfl
  simp at hstatus

end Quillframe
