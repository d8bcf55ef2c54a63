import Quillframe.Runs

/-!
# Releasing and accepting a candidate

`commit_released_candidate` checks that every receipt of a release is a confirmed stage of the
run, and writes the revision, the candidate and the release in one transaction.
-/
namespace Quillframe

open Json (str fp obj)
open Database

variable {Fp : Type} [DecidableEq Fp]

/-! ## Stage evidence -/

def trackingProjectionKeys : List String :=
  ["settlement_tracking_projection", "settlement_tracking_projection_schema_repair",
    "settlement_tracking_projection_semantic_repair",
    "settlement_tracking_projection_audit_repair",
    "settlement_tracking_projection_audit_repair_2",
    "settlement_tracking_projection_audit_repair_3"]

def trackingAuditKeys : List String :=
  ["settlement_tracking_audit", "settlement_tracking_audit_repair",
    "settlement_tracking_audit_repair_2", "settlement_tracking_audit_repair_3"]

def hardRuleAuditKeys : List String :=
  ["surface_hard_rule_audit", "surface_hard_rule_audit_contract_repair"]

/-- Release receipts and the stage each is taken from. -/
def releaseStages : List (String × String) :=
  [("context_query_plan", "context_query_plan"), ("context_greenlight", "context_greenlight"),
    ("corpus_greenlight", "corpus_greenlight"),
    ("preference_greenlight", "preference_greenlight"),
    ("character_simulation", "character_simulation"), ("scene_resolution", "scene_resolution"),
    ("surface_realization", "surface_realization"),
    ("surface_hard_rule_audit", "surface_hard_rule_audit"),
    ("reader_engagement", "reader_engagement"), ("continuity", "continuity_rule_audit"),
    ("candidate_self_audit", "candidate_self_audit"),
    ("independent_semantic_gate", "independent_semantic_gate"),
    ("settlement_tracking_projection", "settlement_tracking_projection"),
    ("settlement_tracking_audit", "settlement_tracking_audit")]

/-- Confirmed calls of a run with one of the stage keys and the given result. -/
def Database.confirmedCount (db : Database Fp) (runId : String) (stageKeys : List String)
    (resultFingerprint : Fp) : ℕ :=
  (db.stageCalls.filter fun call => call.runId = runId ∧ call.stageKey ∈ stageKeys ∧
    call.state = .confirmed ∧ call.resultFingerprint = some resultFingerprint).length

/-- Evidence a bounded repair inherits: the run it was produced in and its receipts. -/
abbrev BoundedEvidence (Fp : Type) := Option (String × OrderedMap String Fp)

/-- How many confirmed calls back a release receipt. -/
def Database.receiptCount (db : Database Fp) (runId : String) (bounded : BoundedEvidence Fp)
    (releaseKey stageKey : String) (expected : Fp) : ℕ :=
  match bounded, decide (releaseKey ∈ ["character_simulation", "scene_resolution"]) with
  | some (evidenceRunId, receipts), true =>
    if receipts.get? releaseKey = some expected then
      db.confirmedCount evidenceRunId [stageKey] expected
    else 0
  | _, _ =>
    if releaseKey = "surface_hard_rule_audit" then
      db.confirmedCount runId hardRuleAuditKeys expected
    else if releaseKey = "settlement_tracking_projection" then
      db.confirmedCount runId trackingProjectionKeys expected
    else if releaseKey = "settlement_tracking_audit" then
      db.confirmedCount runId trackingAuditKeys expected
    else db.confirmedCount runId [stageKey] expected

def Database.checkReleaseStage (db : Database Fp) (runId : String) (bounded : BoundedEvidence Fp)
    (receipts : OrderedMap String Fp) (stage : String × String) : CoreResult Unit := do
  let expected ← fetch (receipts.get? stage.1)
    (.authorityConflict "release stage receipt is missing")
  require (db.receiptCount runId bounded stage.1 stage.2 expected = 1)
    (.authorityConflict ("release " ++ stage.1 ++ " receipt does not belong to this run"))

def Database.checkSceneReceipt (db : Database Fp) (runId : String) (bounded : BoundedEvidence Fp)
    (receipt : String × Fp) : CoreResult Unit :=
  let count := match bounded with
    | some (evidenceRunId, receipts) =>
      if receipts.get? receipt.1 = some receipt.2 then
        db.confirmedCount evidenceRunId [receipt.1] receipt.2
      else 0
    | none => db.confirmedCount runId [receipt.1] receipt.2
  require (count = 1)
    (.authorityConflict ("release " ++ receipt.1 ++ " receipt does not belong to this run"))

def Database.checkRepairStage (db : Database Fp) (runId : String) (receipts : OrderedMap String Fp)
    (stageKey : String) : CoreResult Unit := do
  let expected ← fetch (receipts.get? stageKey)
    (.authorityConflict "REVISE release stage receipt is missing")
  let call ← fetch (db.stageCalls.find? fun call =>
    call.runId = runId ∧ call.stageKey = stageKey ∧ call.state = .confirmed) noRows
  require (call.resultFingerprint = some expected)
    (.authorityConflict ("REVISE " ++ stageKey ++ " receipt is not bound to this run"))

def Database.checkRepair (db : Database Fp) (runId : String) (request : ProductionRequest Fp)
    (receipts : OrderedMap String Fp) : CoreResult Unit := do
  let _ ← forEach (fun _ stageKey => db.checkRepairStage runId receipts stageKey)
    ["repair_editor", "repair_comparison"] ()
  let source ← fetch (receipts.get? "repair_source")
    (.authorityConflict "REVISE repair source receipt is missing")
  let binding ← fetch request.intent.repairSource
    (.authorityConflict "REVISE request lost its repair binding")
  require (source = binding.expectedCandidateFingerprint)
    (.authorityConflict "REVISE release repair source changed")

/-- The receipts a bounded repair must take over unchanged. -/
def inheritedReceipts (receipts : OrderedMap String Fp) : List (String × Fp) :=
  receipts.entries.filter fun entry =>
    entry.1 ∈ ["character_simulation", "scene_resolution"] || startsWith "surface_scene_" entry.1

/-- Only a bounded repair inherits evidence. -/
def ProductionRelease.inheritedEvidence (release : ProductionRelease Fp)
    (resolved : CoreResult (String × OrderedMap String Fp)) : CoreResult (BoundedEvidence Fp) :=
  if "bounded_repair_surface" ∈ release.stageReceiptFingerprints then some <$> resolved
  else return none

/-! ## Writing the candidate -/

/-- The revision that was created last, by time and id. -/
def Database.latestRevision (db : Database Fp) (documentId : String) : Option String :=
  let newer (a b : DocumentRevision Fp) : Prop :=
    b.createdAt < a.createdAt ∨ (b.createdAt = a.createdAt ∧ b.revisionId ≤ a.revisionId)
  have : DecidableRel newer := fun _ _ => inferInstanceAs (Decidable (_ ∨ _))
  ((db.documentRevisions.filter fun revision => revision.documentId = documentId).insertionSort
    newer).head?.map DocumentRevision.revisionId

/-- Generated ids of one release. -/
structure ReleaseIds where
  revision : String
  checkpoint : String
  event : String

/-- The rows of a released candidate. -/
structure ReleaseRows (Fp : Type) where
  revision : DocumentRevision Fp
  candidate : CandidateRow Fp
  lineage : String × CandidateArtifact Fp
  report : ReviewReportRow Fp
  release : ReleaseRow Fp

def releaseRows [Sha256 Fp] (runId documentId : String) (taskMode : ProductionTaskMode)
    (candidate : CandidateArtifact Fp) (report : ReviewReport Fp) (release : ProductionRelease Fp)
    (parentRevisionId : Option String) (createdAt : String) (ids : ReleaseIds) :
    ReleaseRows Fp where
  revision :=
    { revisionId := "revision-" ++ ids.revision, documentId, parentRevisionId,
      content := candidate.manuscript, contentFingerprint := candidate.fingerprint, createdAt,
      source := "production_candidate", authorityClass := .review,
      provenance := obj [("candidate_id", str candidate.candidateId),
        ("production_release_id", str release.releaseId), ("run_id", str runId),
        ("writer_pack_fingerprint", fp candidate.writerPackFingerprint)] }
  candidate :=
    { candidateId := candidate.candidateId, documentId := some documentId,
      revisionId := some ("revision-" ++ ids.revision), runId := some runId, taskMode,
      candidateKind := if taskMode = .draft then "draft" else "repair", status := .reviewDraft,
      contentFingerprint := candidate.fingerprint, userVisibleGate := "PASS", createdAt }
  lineage := (candidate.candidateId, candidate)
  report :=
    { reportFingerprint := report.fingerprint, candidateFingerprint := candidate.fingerprint,
      mode := report.mode, decision := .accept, independentContext := true, payload := report,
      createdAt }
  release :=
    { releaseId := release.releaseId, candidateId := candidate.candidateId,
      candidateFingerprint := candidate.fingerprint,
      writerPackFingerprint := candidate.writerPackFingerprint,
      trackingFingerprint := release.trackingFingerprint,
      reviewReportFingerprint := report.fingerprint,
      stageReceiptFingerprints := release.stageReceiptFingerprints, payload := release,
      releaseFingerprint := release.fingerprint, releasedAt := release.releasedAt }

/-- Inserts the rows under the keys of their tables. -/
def Database.insertRelease (rows : ReleaseRows Fp) (db : Database Fp) :
    CoreResult (Database Fp) := do
  require (rows.revision.revisionId ∉ db.documentRevisions.map (·.revisionId))
    (uniqueFailed "document_revisions.revision_id")
  require ((rows.revision.documentId, rows.revision.contentFingerprint) ∉
      db.documentRevisions.map fun other => (other.documentId, other.contentFingerprint))
    (uniqueFailed "document_revisions.document_id, document_revisions.content_fingerprint")
  -- the insert trigger on candidates
  require (∀ other ∈ db.candidates,
      ¬ (other.runId = rows.candidate.runId ∧ other.userVisibleGate = "PASS"))
    (.storage "production run already has a PASS candidate")
  require (rows.candidate.candidateId ∉ db.candidates.map (·.candidateId))
    (uniqueFailed "candidates.candidate_id")
  require (rows.lineage.1 ∉ db.candidateLineage.map Prod.fst)
    (uniqueFailed "candidate_lineage.candidate_id")
  require (rows.report.reportFingerprint ∉ db.reviewReports.map (·.reportFingerprint))
    (uniqueFailed "structured_review_reports.report_fingerprint")
  require (rows.release.releaseId ∉ db.productionReleases.map (·.releaseId))
    (uniqueFailed "production_releases.release_id")
  require ((rows.release.candidateId, rows.release.candidateFingerprint) ∉
      db.productionReleases.map fun other => (other.candidateId, other.candidateFingerprint))
    (uniqueFailed "production_releases.candidate_id, production_releases.candidate_fingerprint")
  require (rows.release.releaseFingerprint ∉ db.productionReleases.map (·.releaseFingerprint))
    (uniqueFailed "production_releases.release_fingerprint")
  return { db with
    documentRevisions := db.documentRevisions ++ [rows.revision]
    candidates := db.candidates ++ [rows.candidate]
    candidateLineage := db.candidateLineage ++ [rows.lineage]
    reviewReports := db.reviewReports ++ [rows.report]
    productionReleases := db.productionReleases ++ [rows.release] }

variable [Sha256 Fp] [Documents Fp]

/-- The checks of a release that read the database: the target chapter, the run's request and
status, the frozen tracking fingerprint and the evidence of every stage. -/
def Database.checkRelease (db : Database Fp) (runId documentId : String)
    (taskMode : ProductionTaskMode) (candidate : CandidateArtifact Fp)
    (release : ProductionRelease Fp) (bounded : BoundedEvidence Fp) : CoreResult Fp := do
  let chapterId ← db.manuscriptChapter documentId
  require (chapterId = candidate.chapterId)
    (.authorityConflict "candidate chapter does not match its manuscript document")
  let execution ← fetch (db.execution? runId) noRows
  let run ← fetch (db.run? runId) noRows
  execution.request.validate
  require (run.status ∈ ["executing", "awaiting_release"] ∧
      execution.request.targetRef = documentId ∧
      execution.request.writerPackFingerprint = candidate.writerPackFingerprint ∧
      execution.request.taskMode = taskMode)
    (.authorityConflict "production run changed before candidate release")
  let frozen ← fetch (Table.lookup WriterPackRow.writerPackFingerprint
    candidate.writerPackFingerprint db.writerPackFreezes) noRows
  require (frozen.trackingFingerprint = release.trackingFingerprint)
    (.authorityConflict "release tracking freeze changed")
  require (∀ evidence ∈ bounded,
      inheritedReceipts release.stageReceiptFingerprints = evidence.2.entries)
    (.authorityConflict "bounded release inherited evidence changed")
  let _ ← forEach (fun _ stage =>
    db.checkReleaseStage runId bounded release.stageReceiptFingerprints stage) releaseStages ()
  let contextFreeze ← fetch (release.stageReceiptFingerprints.get? "context_freeze")
    (.authorityConflict "release context freeze is missing")
  let persisted ← fetch (db.contextFreezes.find? fun row =>
    row.runId = runId ∧ row.status = .frozen) noRows
  require (persisted.freezeFingerprint = contextFreeze)
    (.authorityConflict "release context freeze does not belong to this run")
  require (release.sceneReceipts ≠ [])
    (.authorityConflict "release has no scene-level surface receipts")
  let _ ← forEach (fun _ receipt => db.checkSceneReceipt runId bounded receipt)
    release.sceneReceipts ()
  if taskMode = .revise then
    db.checkRepair runId execution.request release.stageReceiptFingerprints
  fetch (release.stageReceiptFingerprints.get? "user_visible_gate")
    (.authorityConflict "user-visible receipt is missing")

/-- `boundedEvidence` is what `resolve_bounded_repair_evidence` answers for the request. -/
def commitReleasedCandidate (runId documentId : String) (taskMode : ProductionTaskMode)
    (candidate : CandidateArtifact Fp) (report : ReviewReport Fp) (release : ProductionRelease Fp)
    (boundedEvidence : CoreResult (String × OrderedMap String Fp)) (createdAt : String)
    (ids : ReleaseIds) (db : Database Fp) : CoreResult ((String × String) × Database Fp) := do
  requireTimestamp createdAt
  candidate.validate
  report.validate candidate.fingerprint
  release.validate
  require (report.decision = .accept ∧ release.candidateId = candidate.candidateId ∧
      release.candidateFingerprint = candidate.fingerprint ∧
      release.writerPackFingerprint = candidate.writerPackFingerprint ∧
      release.reviewReportFingerprint = report.fingerprint ∧ release.taskMode = taskMode)
    (.authorityConflict "candidate, review and production release are not exactly bound")
  let _ ← db.loadProductionRequest runId
  let bounded ← release.inheritedEvidence boundedEvidence
  let userVisibleReceipt ← db.checkRelease runId documentId taskMode candidate release bounded
  let rows := releaseRows runId documentId taskMode candidate report release
    (db.latestRevision documentId) createdAt ids
  let db ← db.insertRelease rows
  let db ← db.insertCheckpoint
    { checkpointId := "checkpoint-" ++ ids.checkpoint, runId,
      checkpointKind := "user_visible_gate",
      state := obj [("candidate_fingerprint", fp candidate.fingerprint),
        ("release_id", str release.releaseId)],
      artifactFingerprint := userVisibleReceipt, createdAt }
  let db := db.updateRun runId "review" (some (some release.fingerprint)) createdAt
  let db ← db.insertRuntimeEvent
    { eventId := "event-" ++ ids.event, runId, eventKind := "production_released",
      payload := obj [("candidate_fingerprint", fp candidate.fingerprint),
        ("candidate_id", str candidate.candidateId),
        ("release_fingerprint", fp release.fingerprint)],
      createdAt }
  return ((rows.revision.revisionId, release.releaseId), db)

/-! ## Accepting a candidate -/

/-- What accepting checks of the candidate, its review and its release. -/
def Database.checkAcceptance (db : Database Fp) (decision : AcceptanceDecision Fp) :
    CoreResult Unit := do
  let candidate ← fetch (db.candidate? decision.candidateId) noRows
  require (candidate.status = .reviewDraft ∧
      candidate.contentFingerprint = decision.candidateFingerprint)
    (.authorityConflict "candidate is stale or not reviewable")
  require (∀ request ∈ db.revisionRequests,
      ¬ (request.candidateId = decision.candidateId ∧ request.state = .requested))
    (.authorityConflict "candidate has an actionable revision request")
  require ((db.reviewReports.filter fun report =>
      report.reportFingerprint = decision.reviewReportFingerprint ∧
        report.candidateFingerprint = decision.candidateFingerprint ∧
        report.decision = .accept ∧ report.independentContext = true).length = 1)
    (.authorityConflict "acceptance requires one fresh independent accept report")
  require ((db.productionReleases.filter fun release =>
      release.candidateId = decision.candidateId ∧
        release.candidateFingerprint = decision.candidateFingerprint ∧
        release.reviewReportFingerprint = decision.reviewReportFingerprint).length = 1)
    (.authorityConflict "acceptance requires one exact production release")

/-- A receipt payload of another kind. -/
def foreignReceipt : CoreError := .storage "receipt payload has another schema"

/-- `accept_candidate`: the id of the acceptance. -/
def acceptCandidate (decision : AcceptanceDecision Fp) (db : Database Fp) :
    CoreResult (String × Database Fp) := do
  decision.validate
  match db.receipt? decision.idempotencyKey with
  | some receipt =>
    match receipt.payload with
    | .acceptance prior =>
      require (prior.fingerprint = decision.fingerprint)
        (.authorityConflict "acceptance idempotency key binds a different decision")
      return (prior.acceptanceId, db)
    | _ => throw foreignReceipt
  | none =>
    db.checkAcceptance decision
    require (decision.acceptanceId ∉ db.acceptanceEvidence.map (·.acceptanceId))
      (uniqueFailed "acceptance_evidence.acceptance_id")
    let accepted : Database Fp :=
      { db with
        acceptanceEvidence := db.acceptanceEvidence ++
          [{ acceptanceId := decision.acceptanceId, candidateId := decision.candidateId,
             candidateFingerprint := decision.candidateFingerprint,
             authorizedBy := decision.authorizedBy, authorization := decision,
             createdAt := decision.createdAt }]
        candidates := Table.updateWhere (fun row => row.candidateId = decision.candidateId)
          (fun row => { row with status := .accepted }) db.candidates }
    let db ← accepted.insertReceipt
      { receiptId := "receipt-" ++ decision.acceptanceId, receiptKind := "candidate_acceptance",
        idempotencyKey := some decision.idempotencyKey, payload := .acceptance decision,
        createdAt := decision.createdAt }
    return (decision.acceptanceId, db)

omit [Sha256 Fp] [Documents Fp] in
theorem Database.insertRelease_eq_ok {rows : ReleaseRows Fp} {db db' : Database Fp}
    (h : db.insertRelease rows = .ok db') :
    rows.candidate.candidateId ∉ db.candidates.map (·.candidateId) ∧
    ((rows.release.candidateId, rows.release.candidateFingerprint) ∉
      db.productionReleases.map fun other => (other.candidateId, other.candidateFingerprint)) ∧
    db' = { db with
      documentRevisions := db.documentRevisions ++ [rows.revision]
      candidates := db.candidates ++ [rows.candidate]
      candidateLineage := db.candidateLineage ++ [rows.lineage]
      reviewReports := db.reviewReports ++ [rows.report]
      productionReleases := db.productionReleases ++ [rows.release] } := by
  simp only [insertRelease, bind_eq_ok, require_eq_ok, exists_const, pure_eq_ok] at h
  obtain ⟨-, -, -, hcandidate, -, -, -, hrelease, -, rfl⟩ := h
  exact ⟨hcandidate, hrelease, rfl⟩

/-- What a successful release did. -/
theorem commitReleasedCandidate_eq_ok {runId documentId : String} {taskMode : ProductionTaskMode}
    {candidate : CandidateArtifact Fp} {report : ReviewReport Fp} {release : ProductionRelease Fp}
    {boundedEvidence : CoreResult (String × OrderedMap String Fp)} {createdAt : String}
    {ids : ReleaseIds} {answer : String × String} {db db' : Database Fp}
    (h : commitReleasedCandidate runId documentId taskMode candidate report release
      boundedEvidence createdAt ids db = .ok (answer, db')) :
    release.candidateId = candidate.candidateId ∧
    release.candidateFingerprint = candidate.fingerprint ∧
    ∃ bounded receipt checkpoint event,
      db.checkRelease runId documentId taskMode candidate release bounded = .ok receipt ∧
      let rows := releaseRows runId documentId taskMode candidate report release
        (db.latestRevision documentId) createdAt ids
      rows.candidate.candidateId ∉ db.candidates.map (·.candidateId) ∧
      ((rows.release.candidateId, rows.release.candidateFingerprint) ∉
        db.productionReleases.map fun other => (other.candidateId, other.candidateFingerprint)) ∧
      db' = { db.updateRun runId "review" (some (some release.fingerprint)) createdAt with
        documentRevisions := db.documentRevisions ++ [rows.revision]
        candidates := db.candidates ++ [rows.candidate]
        candidateLineage := db.candidateLineage ++ [rows.lineage]
        reviewReports := db.reviewReports ++ [rows.report]
        productionReleases := db.productionReleases ++ [rows.release]
        checkpoints := db.checkpoints ++ [checkpoint]
        runtimeEvents := db.runtimeEvents ++ [event] } := by
  simp only [commitReleasedCandidate, bind_eq_ok, require_eq_ok, exists_const, pure_eq_ok,
    Prod.mk.injEq] at h
  obtain ⟨_, -, _, -, _, -, _, -, ⟨-, hid, hfp, -, -, -⟩, _, -, bounded, -, receipt, hcheck,
    inserted, hinserted, checked, hchecked, evented, hevented, -, rfl⟩ := h
  obtain ⟨hcandidate, hrelease, rfl⟩ := insertRelease_eq_ok hinserted
  obtain rfl := insertCheckpoint_eq_ok hchecked
  obtain rfl := insertRuntimeEvent_eq_ok hevented
  exact ⟨hid, hfp, bounded, receipt, _, _, hcheck, hcandidate, hrelease, rfl⟩

/-- What a passed release check has read. -/
theorem Database.checkRelease_eq_ok {runId documentId : String} {taskMode : ProductionTaskMode}
    {candidate : CandidateArtifact Fp} {release : ProductionRelease Fp}
    {bounded : BoundedEvidence Fp} {receipt : Fp} {db : Database Fp}
    (h : db.checkRelease runId documentId taskMode candidate release bounded = .ok receipt) :
    db.manuscriptChapter documentId = .ok candidate.chapterId ∧
    (∃ execution, db.execution? runId = some execution ∧
      execution.request.targetRef = documentId ∧
      execution.request.writerPackFingerprint = candidate.writerPackFingerprint) ∧
    (∃ run, db.run? runId = some run ∧ run.status ∈ ["executing", "awaiting_release"]) ∧
    (∃ frozen, Table.lookup WriterPackRow.writerPackFingerprint candidate.writerPackFingerprint
        db.writerPackFreezes = some frozen ∧
      frozen.trackingFingerprint = release.trackingFingerprint) ∧
    ∃ expected, release.stageReceiptFingerprints.get? "settlement_tracking_projection" =
        some expected ∧
      db.confirmedCount runId trackingProjectionKeys expected = 1 := by
  simp only [checkRelease, bind_eq_ok, require_eq_ok, exists_const, fetch_eq_ok] at h
  obtain ⟨chapterId, hchapter, rfl, execution, hexecution, run, hrun, _, -,
    ⟨hstatus, htarget, hpack, -⟩, frozen, hfrozen, htracking, -, _, hstages, -⟩ := h
  refine ⟨hchapter, ⟨execution, hexecution, htarget, hpack⟩, ⟨run, hrun, hstatus⟩,
    ⟨frozen, hfrozen, htracking⟩, ?_⟩
  have hstage := forEach_unit_eq_ok.mp hstages
    ("settlement_tracking_projection", "settlement_tracking_projection") (by decide)
  simp only [checkReleaseStage, bind_eq_ok, require_eq_ok, fetch_eq_ok] at hstage
  obtain ⟨expected, hexpected, hcount⟩ := hstage
  refine ⟨expected, hexpected, ?_⟩
  rcases bounded with _ | ⟨evidenceRunId, receipts⟩ <;> simpa [receiptCount] using hcount

/-- The rows of an acceptance. -/
def AcceptanceDecision.row (decision : AcceptanceDecision Fp) : AcceptanceRow Fp where
  acceptanceId := decision.acceptanceId
  candidateId := decision.candidateId
  candidateFingerprint := decision.candidateFingerprint
  authorizedBy := decision.authorizedBy
  authorization := decision
  createdAt := decision.createdAt

def AcceptanceDecision.receipt (decision : AcceptanceDecision Fp) : ReceiptRow Fp where
  receiptId := "receipt-" ++ decision.acceptanceId
  receiptKind := "candidate_acceptance"
  idempotencyKey := some decision.idempotencyKey
  payload := .acceptance decision
  createdAt := decision.createdAt

/-- The tables that an acceptance leaves. -/
def Database.withAcceptance (db : Database Fp) (decision : AcceptanceDecision Fp) : Database Fp :=
  { db with
    acceptanceEvidence := db.acceptanceEvidence ++ [decision.row]
    candidates := Table.updateWhere (fun row => row.candidateId = decision.candidateId)
      (fun row => { row with status := .accepted }) db.candidates
    receipts := db.receipts ++ [decision.receipt] }

omit [Documents Fp] in
/-- Accepting a candidate is a replay of its key, or passes the gate and writes the decision. -/
theorem acceptCandidate_cases {decision : AcceptanceDecision Fp} {acceptanceId : String}
    {db db' : Database Fp} (h : acceptCandidate decision db = .ok (acceptanceId, db')) :
    decision.validate = .ok () ∧
    ((∃ receipt prior, db.receipt? decision.idempotencyKey = some receipt ∧
        receipt.payload = .acceptance prior ∧ prior.fingerprint = decision.fingerprint ∧
        db' = db) ∨
      (db.receipt? decision.idempotencyKey = none ∧ db.checkAcceptance decision = .ok () ∧
        decision.acceptanceId ∉ db.acceptanceEvidence.map (·.acceptanceId) ∧
        db' = db.withAcceptance decision)) := by
  simp only [acceptCandidate, bind_eq_ok] at h
  obtain ⟨⟨⟩, hvalid, h⟩ := h
  refine ⟨hvalid, ?_⟩
  split at h
  case h_1 receipt hreceipt =>
    split at h
    · rename_i prior hpayload
      simp only [bind_eq_ok, require_eq_ok, exists_const, pure_eq_ok, Prod.mk.injEq] at h
      exact .inl ⟨receipt, prior, hreceipt, hpayload, h.1, h.2.2.symm⟩
    · simp [throw, throwThe, MonadExceptOf.throw] at h
  case h_2 hnone =>
    simp only [bind_eq_ok, require_eq_ok, exists_const, pure_eq_ok, Prod.mk.injEq] at h
    obtain ⟨⟨⟩, hcheck, hfresh, receipted, hreceipted, -, rfl⟩ := h
    obtain ⟨-, rfl⟩ := insertReceipt_eq_ok hreceipted
    exact .inr ⟨hnone, hcheck, hfresh, rfl⟩

omit [Documents Fp] in
/-- Accepting a candidate is a replay, or adds the acceptance and its receipt. -/
theorem acceptCandidate_eq_ok {decision : AcceptanceDecision Fp} {acceptanceId : String}
    {db db' : Database Fp} (h : acceptCandidate decision db = .ok (acceptanceId, db')) :
    db' = db ∨ ∃ (row : AcceptanceRow Fp) (receipt : ReceiptRow Fp),
      (∀ other ∈ db.acceptanceEvidence, other.acceptanceId ≠ row.acceptanceId) ∧
      receipt.payload = .acceptance decision ∧
      db' = { db with
        acceptanceEvidence := db.acceptanceEvidence ++ [row]
        candidates := Table.updateWhere (fun row => row.candidateId = decision.candidateId)
          (fun row => { row with status := .accepted }) db.candidates
        receipts := db.receipts ++ [receipt] } := by
  obtain ⟨-, ⟨_, _, -, -, -, rfl⟩ | ⟨-, -, hfresh, rfl⟩⟩ := acceptCandidate_cases h
  · exact .inl rfl
  · refine .inr ⟨decision.row, decision.receipt, fun other hother he => hfresh ?_, rfl, rfl⟩
    exact List.mem_map.mpr ⟨other, hother, he⟩

end Quillframe
