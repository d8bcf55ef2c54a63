import Quillframe.History
import Quillframe.Narrative
import Quillframe.Release

/-!
# Settling a chapter

`apply_settlement` recomputes the preflight of its authorization, checks the evidence of the run,
and writes canon, narrative state, tracking and history in one transaction.
-/
namespace Quillframe

open Json (str int fp obj)
open Database

variable {Fp : Type}

/-! ## The preflight -/

section Preflight

variable [Sha256 Fp] [DecidableEq Fp]

/-- `settlement_preflight_from_connection`. A target without a canon row is before the
fingerprint of the empty text. -/
def Database.settlementPreflight (db : Database Fp)
    (acceptanceId targetRef createdAt preflightUuid : String) :
    CoreResult (SettlementPreflight Fp) := do
  let acceptance ← fetch
    (Table.lookup AcceptanceRow.acceptanceId acceptanceId db.acceptanceEvidence) noRows
  let candidate ← fetch ((db.candidate? acceptance.candidateId).filter
    fun candidate => candidate.status = .accepted) noRows
  let document ← fetch (candidate.documentId.bind db.document?) noRows
  let revisionId ← fetch candidate.revisionId (nullColumn "revision_id")
  let chapterId ← fetch document.storyNodeId (nullColumn "story_node_id")
  require (acceptance.candidateFingerprint = candidate.contentFingerprint ∧
      targetRef = chapterRef chapterId)
    (.authorityConflict
      "settlement acceptance, candidate and chapter target are not exactly bound")
  let revision ← fetch
    (Table.lookup DocumentRevision.revisionId revisionId db.documentRevisions) noRows
  require (revision.contentFingerprint = candidate.contentFingerprint ∧
      Sha256.ofText revision.content = candidate.contentFingerprint)
    (.authorityConflict "settlement candidate bytes changed after release")
  return SettlementPreflight.sealed
    { schema := "quillframe_settlement_preflight_v1", preflightId := preflightUuid, acceptanceId,
      candidateId := candidate.candidateId,
      candidateFingerprint := candidate.contentFingerprint, revisionId, targetRef,
      beforeFingerprint := (db.canonHead targetRef).getD (Sha256.ofText ""), createdAt,
      fingerprint := candidate.contentFingerprint }

/-- `settlement_preflight`. -/
def settlementPreflight (db : Database Fp)
    (acceptanceId targetRef createdAt preflightUuid : String) :
    CoreResult (SettlementPreflight Fp) := do
  requireTimestamp createdAt
  db.settlementPreflight acceptanceId targetRef createdAt preflightUuid

end Preflight

/-! ## Reading order -/

/-- Where a chapter stands: the ordinals of its volume, its unit and itself, and its id. -/
abbrev Place := ℤ ×ₗ ℤ ×ₗ ℤ ×ₗ String

/-- The nodes with a parent and a grandparent, each with its place. -/
def Database.places (db : Database Fp) : List (StoryNode × Place) :=
  db.storyNodes.flatMap fun chapter =>
    (db.storyNodes.filter fun unit => chapter.parentId = some unit.nodeId).flatMap fun unit =>
      (db.storyNodes.filter fun volume => unit.parentId = some volume.nodeId).map fun volume =>
        (chapter, toLex (volume.ordinal, toLex (unit.ordinal,
          toLex (chapter.ordinal, chapter.nodeId))))

/-- The number of chapters up to a node. -/
def Database.readingOrder (db : Database Fp) (nodeId : String) : ℕ :=
  ((db.places.filter fun placed => placed.1.nodeId = nodeId).map fun node =>
    db.places.countP fun placed => placed.1.kind = .chapter ∧ placed.2 ≤ node.2).sum

/-! ## The tracking proposal of a run -/

/-- The order in which the projections of a run are preferred. -/
def trackingProjectionPriority : List String :=
  ["settlement_tracking_projection_audit_repair_3",
    "settlement_tracking_projection_audit_repair_2",
    "settlement_tracking_projection_audit_repair",
    "settlement_tracking_projection_semantic_repair",
    "settlement_tracking_projection_schema_repair", "settlement_tracking_projection"]

/-- The confirmed projection that settlement reads. -/
def Database.selectedProjection (db : Database Fp) (runId : String) : Option (StageCallRow Fp) :=
  trackingProjectionPriority.findSome? fun stageKey => db.stageCalls.find? fun call =>
    call.runId = runId ∧ call.state = .confirmed ∧ call.stageKey = stageKey

section Prepare

variable [Sha256 Fp] [DecidableEq Fp] [SerdeJson Fp]

/-- The release of the candidate and the proposal its receipt names. -/
def Database.settlementProposal (db : Database Fp) (runId : String)
    (preflight : SettlementPreflight Fp) :
    CoreResult (ReleaseRow Fp × ChapterTrackingProposal Fp) := do
  let call ← fetch (db.selectedProjection runId) noRows
  let result ← fetch call.result (nullColumn "result_json")
  let resultFingerprint ← fetch call.resultFingerprint (nullColumn "result_fingerprint")
  let release ← fetch (db.productionReleases.find? fun release =>
    release.candidateId = preflight.candidateId ∧
      release.candidateFingerprint = preflight.candidateFingerprint) noRows
  require (release.stageReceiptFingerprints.get? "settlement_tracking_projection" =
      some resultFingerprint)
    (.authorityConflict "settlement tracking proposal is not bound to the released candidate")
  result.validate
  require (result.fingerprint = resultFingerprint)
    (.authorityConflict "settlement tracking result fingerprint changed")
  let proposal ← SerdeJson.readProposal result.content
  proposal.validate
  return (release, proposal)

/-- Every dependency of the run is current and names the head of its source. -/
def Database.RunCurrent (db : Database Fp) (runId : String) : Prop :=
  ∀ row ∈ db.chapterDependencies, row.runId = runId →
    row.status = .current ∧ db.chapterHead row.sourceChapterId = some row.sourceFingerprint

instance (db : Database Fp) (runId : String) : Decidable (db.RunCurrent runId) :=
  inferInstanceAs (Decidable (∀ _ ∈ _, _ → _))

/-- What a settlement has read and checked before its first write. -/
structure SettlementPlan (Fp : Type) where
  preflight : SettlementPreflight Fp
  documentId : String
  runId : String
  chapterId : String
  readingOrder : ℕ
  proposal : ChapterTrackingProposal Fp
  manuscript : String
  tracking : TrackingState Fp
  /-- The tracking state with the record of the chapter. -/
  recorded : TrackingState Fp
  priorCandidate : Option Fp

/-- The record a proposal becomes. -/
def ChapterTrackingProposal.record (proposal : ChapterTrackingProposal Fp) (chapterId : String)
    (readingOrder : ℕ) (candidateFingerprint : Fp) : ChapterTrackingRecord Fp where
  chapterId
  readingOrder
  netChange := proposal.netChange
  openExpectations := proposal.openExpectations
  paidExpectations := proposal.paidExpectations
  relationshipChanges := proposal.relationshipChanges
  stateChanges := proposal.stateChanges
  nextPull := proposal.nextPull
  sourceCandidateFingerprint := candidateFingerprint

def TrackingState.recordChapter (record : ChapterTrackingRecord Fp)
    (snapshots : OrderedMap String String) (state : TrackingState Fp) : TrackingState Fp :=
  { state with
    chapters := state.chapters.insert record.chapterId record
    characterSnapshots := state.characterSnapshots.insertMany snapshots.entries
    invalidatedChapters := state.invalidatedChapters.erase record.chapterId }

/-- The candidate an existing canon row was settled from. -/
def CanonRow.candidateFingerprint (row : CanonRow Fp) : CoreResult (Option Fp) :=
  match row.value.get? "content_fingerprint" with
  | some (.fp fingerprint) => return some fingerprint
  -- a text that is no fingerprint names no source
  | some (.str _) => return none
  | _ => throw (.storage "existing chapter Canon head lacks its candidate fingerprint")

def Database.priorCandidate (db : Database Fp) (targetRef : String) : CoreResult (Option Fp) :=
  match Table.lookup CanonRow.stateKey targetRef db.canonState with
  | some row => row.candidateFingerprint
  | none => return none

/-- The reading half of `apply_settlement`. -/
def Database.prepareSettlement (db : Database Fp) (authorization : SettlementAuthorization Fp)
    (preflightUuid : String) : CoreResult (SettlementPlan Fp) := do
  let preflight ← db.settlementPreflight authorization.acceptanceId authorization.targetRef
    authorization.createdAt preflightUuid
  require (preflight.fingerprint = authorization.preflightFingerprint)
    (.authorityConflict "settlement authorization does not match the current preflight")
  require (preflight.beforeFingerprint = authorization.expectedBeforeFingerprint)
    (.authorityConflict "Canon changed after settlement preflight")
  let candidate ← fetch (db.candidate? preflight.candidateId) noRows
  let document ← fetch (candidate.documentId.bind db.document?) noRows
  let chapterId ← fetch document.storyNodeId (nullColumn "story_node_id")
  let runId ← fetch candidate.runId
    (.authorityConflict "settlement requires a production run with tracking evidence")
  require (db.RunCurrent runId)
    (.authorityConflict "production dependency changed before settlement")
  let (release, proposal) ← db.settlementProposal runId preflight
  let revision ← fetch
    (Table.lookup DocumentRevision.revisionId preflight.revisionId db.documentRevisions) noRows
  require (∀ excerpt ∈ proposal.evidenceExcerpts, containsText revision.content excerpt)
    (.authorityConflict "narrative state delta evidence is absent from the accepted manuscript")
  let row ← fetch (Table.lookup TrackingRow.projectId db.projectId db.trackingAuthority) noRows
  row.payload.validate
  require (row.payload.fingerprint = release.trackingFingerprint)
    (.authorityConflict "tracking authority changed after candidate generation")
  let readingOrder := db.readingOrder chapterId
  require (readingOrder < 2 ^ 32) (.contextBoundary "chapter reading order exceeds u32")
  let record := proposal.record chapterId readingOrder preflight.candidateFingerprint
  record.validate
  let recorded ← TrackingLedger.transact row.payload row.payload.version row.payload.fingerprint
    (TrackingState.recordChapter record proposal.characterSnapshotUpdates)
  let priorCandidate ← db.priorCandidate preflight.targetRef
  return { preflight, documentId := document.documentId, runId, chapterId, readingOrder, proposal,
           manuscript := revision.content, tracking := row.payload, recorded, priorCandidate }

end Prepare

/-! ## Writing -/

section Write

variable [Sha256 Fp] [DecidableEq Fp]

/-- Generated ids of one settlement; the impacts are numbered in order. -/
structure SettlementIds where
  preflight : String
  impact : ℕ → String
  event : String
  snapshot : String

namespace SettlementPlan

/-- The canon value of the chapter. -/
def stateValue (plan : SettlementPlan Fp) : Json Fp :=
  obj [("acceptance_id", str plan.preflight.acceptanceId),
    ("candidate_id", str plan.preflight.candidateId), ("chapter_id", str plan.chapterId),
    ("content_fingerprint", fp plan.preflight.candidateFingerprint),
    ("document_id", str plan.documentId), ("reading_order", int plan.readingOrder),
    ("revision_id", str plan.preflight.revisionId), ("run_id", str plan.runId)]

def afterHead (plan : SettlementPlan Fp) : Fp := Sha256.ofJson plan.stateValue

def source (plan : SettlementPlan Fp) (createdAt : String) : DeltaSource Fp where
  chapterId := plan.chapterId
  acceptanceId := plan.preflight.acceptanceId
  sourceFingerprint := plan.preflight.candidateFingerprint
  readingOrder := plan.readingOrder
  createdAt

def canonRow (plan : SettlementPlan Fp) (createdAt : String) : CanonRow Fp where
  stateKey := plan.preflight.targetRef
  value := plan.stateValue
  authorityClass := "accepted"
  evidenceRef := plan.preflight.acceptanceId
  contentFingerprint := plan.afterHead
  updatedAt := createdAt

def settlementRow (plan : SettlementPlan Fp) (authorization : SettlementAuthorization Fp) :
    SettlementRow Fp where
  settlementId := authorization.settlementId
  acceptanceId := plan.preflight.acceptanceId
  targetRef := plan.preflight.targetRef
  beforeFingerprint := plan.preflight.beforeFingerprint
  afterFingerprint := plan.afterHead
  stateDelta := plan.stateValue
  receipt := authorization
  createdAt := authorization.createdAt

/-- The payload of the `chapter_settled` event. -/
def eventPayload (plan : SettlementPlan Fp) (settlementId : String) : Json Fp :=
  obj [("acceptance_id", str plan.preflight.acceptanceId),
    ("candidate_fingerprint", fp plan.preflight.candidateFingerprint),
    ("candidate_id", str plan.preflight.candidateId), ("canon_after", plan.stateValue),
    ("canon_before_fingerprint", fp plan.preflight.beforeFingerprint),
    ("canon_head_fingerprint", fp plan.afterHead), ("chapter_id", str plan.chapterId),
    ("document_id", str plan.documentId), ("reading_order", int plan.readingOrder),
    ("revision_id", str plan.preflight.revisionId),
    ("schema", str "quillframe_chapter_settled_event_v3"), ("settlement_id", str settlementId),
    ("tracking_proposal", plan.proposal.toValue)]

/-- The head of the chapter was settled before and changes now. -/
def ChangesHead (plan : SettlementPlan Fp) : Prop :=
  plan.preflight.beforeFingerprint ≠ Sha256.ofText "" ∧
    plan.preflight.beforeFingerprint ≠ plan.afterHead

instance (plan : SettlementPlan Fp) : Decidable plan.ChangesHead :=
  inferInstanceAs (Decidable (_ ∧ _))

end SettlementPlan

def Database.upsertCanon (row : CanonRow Fp) (db : Database Fp) : Database Fp :=
  { db with
    canonState := Table.upsert CanonRow.stateKey row
      (fun old => { row with stateKey := old.stateKey }) db.canonState }

def Database.insertSettlement (row : SettlementRow Fp) (db : Database Fp) :
    CoreResult (Database Fp) := do
  require (row.settlementId ∉ db.settlements.map (·.settlementId))
    (uniqueFailed "settlements.settlement_id")
  require (row.acceptanceId ∈ db.acceptanceEvidence.map (·.acceptanceId)) foreignKeyFailed
  return { db with settlements := db.settlements ++ [row] }

/-- The settled revision becomes the accepted one, and its text the searched one. -/
def Database.acceptRevision (plan : SettlementPlan Fp) (title : String) (db : Database Fp) :
    Database Fp :=
  { db with
    documentRevisions := Table.updateWhere (fun revision =>
        revision.revisionId = plan.preflight.revisionId ∧
          revision.contentFingerprint = plan.preflight.candidateFingerprint)
      (fun revision => { revision with authorityClass := .accepted }) db.documentRevisions
    searchIndex := (db.searchIndex.filter fun row =>
        ¬ (row.entityType = "document" ∧ row.entityId = plan.documentId)) ++
      [⟨"document", plan.documentId, title, plan.manuscript⟩] }

/-! ### Invalidating dependents -/

/-- The dependency is current for the replaced head. -/
def DependencyRow.affectedBy (chapterId : String) (before : Fp) (row : DependencyRow Fp) : Bool :=
  row.sourceChapterId = chapterId ∧ row.sourceFingerprint = before ∧ row.status = .current

/-- `INSERT OR IGNORE INTO downstream_impacts`. -/
def Database.insertImpact (row : DownstreamImpactRow Fp) (db : Database Fp) :
    CoreResult (Database Fp) :=
  if row.impactId ∈ db.downstreamImpacts.map (·.impactId) ∨
      (row.sourceChapterId, row.oldFingerprint, row.newFingerprint, row.affectedChapterId) ∈
        db.downstreamImpacts.map fun other => (other.sourceChapterId, other.oldFingerprint,
          other.newFingerprint, other.affectedChapterId) then
    return db
  else do
    require (row.sourceChapterId ∈ db.storyNodes.map (·.nodeId) ∧
        row.affectedChapterId ∈ db.storyNodes.map (·.nodeId))
      foreignKeyFailed
    return { db with downstreamImpacts := db.downstreamImpacts ++ [row] }

/-- One affected dependency: the frozen context of its run is in conflict. -/
def Database.recordImpact (plan : SettlementPlan Fp) (createdAt : String) (ids : SettlementIds)
    (db : Database Fp) (affected : DependencyRow Fp × ℕ) : CoreResult (Database Fp) :=
  let marked : Database Fp :=
    { db with
      contextFreezes := Table.updateWhere (fun freeze =>
          freeze.runId = affected.1.runId ∧ freeze.status = .frozen)
        (fun freeze => { freeze with status := .staleConflict }) db.contextFreezes }
  marked.insertImpact
    { impactId := "impact-" ++ ids.impact affected.2, sourceChapterId := plan.chapterId,
      oldFingerprint := plan.preflight.beforeFingerprint, newFingerprint := plan.afterHead,
      affectedChapterId := affected.1.chapterId, createdAt }

/-- What was derived from the replaced text: observations of it and narrative sources. -/
def Database.invalidateReadings (plan : SettlementPlan Fp) (createdAt : String)
    (db : Database Fp) : Database Fp :=
  let observed := (db.readerObservationSources.filter fun source =>
    source.sourceChapterId = plan.chapterId ∧
      source.sourceFingerprint = plan.preflight.beforeFingerprint).map (·.observationId)
  { db with
    readerObservations := Table.updateWhere (fun observation =>
        observation.observationId ∈ observed ∧ observation.state ∈ [.proposed, .applied])
      (fun observation => { observation with state := .invalidated, updatedAt := createdAt })
      db.readerObservations
    narrativeStateSources := Table.updateWhere (fun source =>
        source.chapterId = plan.chapterId ∧ plan.priorCandidate = some source.sourceFingerprint ∧
          source.state = .current)
      (fun source => { source with state := .stale, updatedAt := createdAt })
      db.narrativeStateSources }

def Database.markStale (stale : DependencyRow Fp → Bool) (updatedAt : String)
    (db : Database Fp) : Database Fp :=
  { db with
    chapterDependencies := Table.updateWhere stale
      (fun row => { row with status := .stale, updatedAt }) db.chapterDependencies }

/-- The dependencies that become stale, and the database without them. -/
def Database.invalidateDependents (plan : SettlementPlan Fp) (createdAt : String)
    (ids : SettlementIds) (db : Database Fp) :
    CoreResult (List (DependencyRow Fp) × Database Fp) :=
  if plan.ChangesHead then do
    let stale := DependencyRow.affectedBy plan.chapterId plan.preflight.beforeFingerprint
    let affected := db.chapterDependencies.filter stale
    let db ← forEach (recordImpact plan createdAt ids) affected.zipIdx
      (db.markStale stale createdAt)
    return (affected, db.invalidateReadings plan createdAt)
  else return ([], db)

/-- Affected chapters are invalidated in a second transaction of the ledger. -/
def TrackingState.invalidate (chapters : List String) (state : TrackingState Fp) :
    CoreResult (TrackingState Fp) :=
  if chapters = [] then return state
  else do
    state.validate
    TrackingLedger.transact state state.version state.fingerprint fun next =>
      { next with invalidatedChapters := next.invalidatedChapters.insertAll chapters }

/-- The compare-and-swap of the tracking row. -/
def Database.swapTracking (before next : TrackingState Fp) (updatedAt : String)
    (db : Database Fp) : CoreResult (Database Fp) := do
  let unchanged (row : TrackingRow Fp) : Bool :=
    row.projectId = db.projectId ∧ row.version = before.version ∧
      row.contentFingerprint = before.fingerprint
  bindInteger next.version
  bindInteger before.version
  require ((db.trackingAuthority.filter unchanged).length = 1)
    (.authorityConflict "tracking settlement compare-and-swap conflict")
  return { db with
    trackingAuthority := Table.updateWhere unchanged
      (fun row => { row with
        version := next.version, payload := next, contentFingerprint := next.fingerprint,
        updatedAt })
      db.trackingAuthority }

variable [SerdeJson Fp]

/-- The writing half of `apply_settlement`. -/
def Database.commitSettlement (authorization : SettlementAuthorization Fp)
    (ids : SettlementIds) (plan : SettlementPlan Fp) (db : Database Fp) :
    CoreResult (Database Fp) := do
  let createdAt := authorization.createdAt
  let db ← applyNarrativeDeltas plan.proposal (plan.source createdAt) db
  let db := db.upsertCanon (plan.canonRow createdAt)
  let db ← db.insertSettlement (plan.settlementRow authorization)
  let document ← fetch (db.document? plan.documentId) noRows
  let db := db.acceptRevision plan document.title
  let (affected, db) ← db.invalidateDependents plan createdAt ids
  let next ← plan.recorded.invalidate (affected.map (·.chapterId))
  let db ← db.swapTracking plan.tracking next createdAt
  let db ← db.insertReceipt
    { receiptId := "receipt-" ++ authorization.settlementId, receiptKind := "settlement",
      idempotencyKey := some authorization.idempotencyKey, payload := .settlement authorization,
      createdAt }
  let (eventSeq, db) ← appendStoryEvent ids.event db.projectId (some plan.runId)
    (some plan.chapterId) "chapter" plan.chapterId "chapter_settled"
    (plan.eventPayload authorization.settlementId) createdAt db
  let (_, db) ← createStorySnapshot ids.snapshot db.projectId eventSeq "chapter_settled"
    createdAt db
  return db

/-- `apply_settlement`: the id of the settlement. -/
def applySettlement (authorization : SettlementAuthorization Fp) (ids : SettlementIds)
    (db : Database Fp) : CoreResult (String × Database Fp) := do
  authorization.validate
  match db.receipt? authorization.idempotencyKey with
  | some receipt =>
    match receipt.payload with
    | .settlement prior =>
      require (prior.fingerprint = authorization.fingerprint)
        (.authorityConflict "settlement idempotency key binds a different authorization")
      return (prior.settlementId, db)
    | _ => throw foreignReceipt
  | none =>
    let plan ← db.prepareSettlement authorization ids.preflight
    let db ← db.commitSettlement authorization ids plan
    return (authorization.settlementId, db)

/-! ## What a settlement reads -/

/-- The facts a prepared settlement rests on. -/
structure Database.Prepared (db : Database Fp) (authorization : SettlementAuthorization Fp)
    (plan : SettlementPlan Fp) : Prop where
  acceptanceId : plan.preflight.acceptanceId = authorization.acceptanceId
  targetRef : plan.preflight.targetRef = authorization.targetRef
  target : plan.preflight.targetRef = chapterRef plan.chapterId
  before : plan.preflight.beforeFingerprint =
    (db.canonHead plan.preflight.targetRef).getD (Sha256.ofText "")
  expected : plan.preflight.beforeFingerprint = authorization.expectedBeforeFingerprint
  acceptance : ∃ row ∈ db.acceptanceEvidence, row.acceptanceId = plan.preflight.acceptanceId ∧
    row.candidateId = plan.preflight.candidateId ∧
    row.candidateFingerprint = plan.preflight.candidateFingerprint
  candidate : ∃ row, db.candidate? plan.preflight.candidateId = some row ∧
    row.runId = some plan.runId ∧ row.contentFingerprint = plan.preflight.candidateFingerprint
  current : db.RunCurrent plan.runId
  release : ∃ row ∈ db.productionReleases, row.candidateId = plan.preflight.candidateId ∧
    row.candidateFingerprint = plan.preflight.candidateFingerprint ∧
    row.trackingFingerprint = plan.tracking.fingerprint
  tracking : ∃ row, Table.lookup TrackingRow.projectId db.projectId db.trackingAuthority =
    some row ∧ row.payload = plan.tracking
  trackingSealed : plan.tracking.Sealed
  recorded : plan.recorded = TrackingState.refreshFingerprint
    { plan.tracking.recordChapter (plan.proposal.record plan.chapterId plan.readingOrder
        plan.preflight.candidateFingerprint) plan.proposal.characterSnapshotUpdates with
      version := plan.tracking.version + 1 }
  evidence : ∃ call result, db.selectedProjection plan.runId = some call ∧
    call.result = some result ∧ SerdeJson.readProposal result.content = .ok plan.proposal

omit [SerdeJson Fp] in
theorem Database.settlementPreflight_eq_ok {db : Database Fp}
    {acceptanceId targetRef createdAt preflightUuid : String} {preflight : SettlementPreflight Fp}
    (h : db.settlementPreflight acceptanceId targetRef createdAt preflightUuid = .ok preflight) :
    preflight.acceptanceId = acceptanceId ∧ preflight.targetRef = targetRef ∧
    preflight.beforeFingerprint = (db.canonHead targetRef).getD (Sha256.ofText "") ∧
    (∃ row ∈ db.acceptanceEvidence, row.acceptanceId = acceptanceId ∧
      row.candidateId = preflight.candidateId ∧
      row.candidateFingerprint = preflight.candidateFingerprint) ∧
    ∃ candidate document chapterId, db.candidate? preflight.candidateId = some candidate ∧
      candidate.contentFingerprint = preflight.candidateFingerprint ∧
      candidate.documentId.bind db.document? = some document ∧
      document.storyNodeId = some chapterId ∧ targetRef = chapterRef chapterId := by
  simp only [Database.settlementPreflight, bind_eq_ok, require_eq_ok, exists_const, fetch_eq_ok,
    pure_eq_ok] at h
  obtain ⟨acceptance, hacceptance, candidate, hcandidate, document, hdocument, revisionId, -,
    chapterId, hchapter, ⟨hfp, htarget⟩, revision, -, -, rfl⟩ := h
  obtain ⟨hfound, -⟩ := Option.filter_eq_some_iff.mp hcandidate
  have hid : candidate.candidateId = acceptance.candidateId := Table.lookup_key hfound
  refine ⟨rfl, rfl, rfl, ⟨acceptance, Table.lookup_mem hacceptance,
    Table.lookup_key hacceptance, hid.symm, hfp⟩, candidate, document, chapterId, ?_, rfl,
    hdocument, hchapter, htarget⟩
  change db.candidate? candidate.candidateId = some candidate
  rw [hid]
  exact hfound

theorem Database.settlementProposal_eq_ok {db : Database Fp} {runId : String}
    {preflight : SettlementPreflight Fp} {release : ReleaseRow Fp}
    {proposal : ChapterTrackingProposal Fp}
    (h : db.settlementProposal runId preflight = .ok (release, proposal)) :
    release ∈ db.productionReleases ∧ release.candidateId = preflight.candidateId ∧
    release.candidateFingerprint = preflight.candidateFingerprint ∧
    ∃ call result, db.selectedProjection runId = some call ∧
      call.result = some result ∧ SerdeJson.readProposal result.content = .ok proposal := by
  simp only [Database.settlementProposal, bind_eq_ok, require_eq_ok, exists_const, fetch_eq_ok,
    pure_eq_ok, Prod.mk.injEq] at h
  obtain ⟨call, hcall, result, hresult, _, -, found, hrelease, -, _, -, -, read, hread, _, -,
    rfl, rfl⟩ := h
  have hfound := List.find?_some hrelease
  simp only [Bool.decide_and, Bool.and_eq_true, decide_eq_true_eq] at hfound
  exact ⟨List.mem_of_find?_eq_some hrelease, hfound.1, hfound.2, call, result, hcall, hresult,
    hread⟩

theorem Database.prepareSettlement_eq_ok {db : Database Fp}
    {authorization : SettlementAuthorization Fp} {preflightUuid : String}
    {plan : SettlementPlan Fp}
    (h : db.prepareSettlement authorization preflightUuid = .ok plan) :
    db.Prepared authorization plan := by
  simp only [Database.prepareSettlement, bind_eq_ok, require_eq_ok, exists_const, fetch_eq_ok,
    pure_eq_ok, Prod.exists] at h
  obtain ⟨preflight, hpreflight, -, hexpected, candidate, hcandidate, document, hdocument,
    chapterId, hchapter, runId, hrun, hcurrent, release, proposal, hproposal, revision, -, -, row,
    hrow, _, hvalid, htracking, -, _, -, recorded, hrecorded, prior, -, rfl⟩ := h
  obtain ⟨hacceptanceId, htarget, hbefore, hacceptance, found, foundDocument, foundChapter, hfound,
    hfp, hfoundDocument, hfoundChapter, hchapterRef⟩ := settlementPreflight_eq_ok hpreflight
  obtain ⟨hmem, hreleaseId, hreleaseFp, hevidence⟩ := settlementProposal_eq_ok hproposal
  obtain rfl : found = candidate := Option.some.inj (hfound.symm.trans hcandidate)
  obtain rfl : foundDocument = document := Option.some.inj (hfoundDocument.symm.trans hdocument)
  obtain rfl : foundChapter = chapterId := Option.some.inj (hfoundChapter.symm.trans hchapter)
  obtain ⟨-, -, hnext, -⟩ := TrackingLedger.transact_eq_ok hrecorded
  exact
    { acceptanceId := hacceptanceId
      targetRef := htarget
      target := htarget.trans hchapterRef
      before := htarget.symm ▸ hbefore
      expected := hexpected
      acceptance := hacceptanceId.symm ▸ hacceptance
      candidate := ⟨found, hcandidate, hrun, hfp⟩
      current := hcurrent
      release := ⟨release, hmem, hreleaseId, hreleaseFp, htracking.symm⟩
      tracking := ⟨row, hrow, rfl⟩
      trackingSealed := TrackingState.validate_sealed hvalid
      recorded := hnext
      evidence := hevidence }

/-! ## What a settlement writes -/

omit [Sha256 Fp] [DecidableEq Fp] [SerdeJson Fp] in
theorem applyNarrativeDeltas_eq_ok {proposal : ChapterTrackingProposal Fp}
    {source : DeltaSource Fp} {db db' : Database Fp}
    (h : applyNarrativeDeltas proposal source db = .ok db') :
    ∃ tables, db' = db.withNarrative tables := by
  simp only [applyNarrativeDeltas, bind_eq_ok, pure_eq_ok] at h
  obtain ⟨_, -, _, -, _, -, _, -, tables, -, rfl⟩ := h
  exact ⟨tables, rfl⟩

omit [Sha256 Fp] [SerdeJson Fp] in
theorem Database.insertImpact_eq_ok {row : DownstreamImpactRow Fp} {db db' : Database Fp}
    (h : db.insertImpact row = .ok db') :
    ∃ impacts, db' = { db with downstreamImpacts := impacts } := by
  rw [insertImpact] at h
  split_ifs at h
  · exact ⟨db.downstreamImpacts, (pure_eq_ok.mp h).symm⟩
  · simp only [bind_eq_ok, require_eq_ok, exists_const, pure_eq_ok] at h
    exact ⟨_, h.2.symm⟩

/-- The contexts of the affected runs. -/
def markConflicts (runs : List String) (freezes : List (ContextFreezeRow Fp)) :
    List (ContextFreezeRow Fp) :=
  Table.updateWhere (fun freeze => freeze.runId ∈ runs ∧ freeze.status = .frozen)
    (fun freeze => { freeze with status := .staleConflict }) freezes

omit [Sha256 Fp] [DecidableEq Fp] [SerdeJson Fp] in
theorem markConflicts_cons (run : String) (runs : List String)
    (freezes : List (ContextFreezeRow Fp)) :
    markConflicts (run :: runs) freezes = markConflicts runs (markConflicts [run] freezes) := by
  simp only [markConflicts, Table.updateWhere, List.map_map]
  refine List.map_congr_left fun freeze _ => ?_
  by_cases hstatus : freeze.status = .frozen <;> by_cases hrun : freeze.runId = run <;>
    simp [hstatus, hrun]

omit [SerdeJson Fp] in
/-- The loop over the affected dependencies. -/
theorem recordImpact_loop {plan : SettlementPlan Fp} {createdAt : String} {ids : SettlementIds}
    {affected : List (DependencyRow Fp × ℕ)} {db db' : Database Fp}
    (h : forEach (recordImpact plan createdAt ids) affected db = .ok db') :
    ∃ impacts, db' = { db with
      contextFreezes := markConflicts (affected.map fun item => item.1.runId) db.contextFreezes
      downstreamImpacts := impacts } := by
  induction affected generalizing db with
  | nil =>
    simp only [forEach, Except.ok.injEq] at h
    subst h
    refine ⟨db.downstreamImpacts, ?_⟩
    simp [markConflicts, Table.updateWhere]
  | cons item rest ih =>
    obtain ⟨mid, hmid, h⟩ := bind_eq_ok.mp h
    obtain ⟨impacts, rfl⟩ := insertImpact_eq_ok hmid
    obtain ⟨impacts', rfl⟩ := ih h
    refine ⟨impacts', ?_⟩
    rw [List.map_cons, markConflicts_cons]
    simp [markConflicts]

namespace SettlementPlan

/-- The dependencies that the settlement makes stale. -/
def stale (plan : SettlementPlan Fp) (row : DependencyRow Fp) : Bool :=
  plan.ChangesHead ∧ row.affectedBy plan.chapterId plan.preflight.beforeFingerprint

end SettlementPlan

omit [SerdeJson Fp] in
theorem Database.invalidateDependents_eq_ok {plan : SettlementPlan Fp} {createdAt : String}
    {ids : SettlementIds} {affected : List (DependencyRow Fp)} {db db' : Database Fp}
    (h : db.invalidateDependents plan createdAt ids = .ok (affected, db')) :
    affected = db.chapterDependencies.filter plan.stale ∧
    ∃ impacts observations sources, db' = { db with
      chapterDependencies := Table.updateWhere plan.stale
        (fun row => { row with status := .stale, updatedAt := createdAt }) db.chapterDependencies
      contextFreezes := markConflicts (affected.map (·.runId)) db.contextFreezes
      downstreamImpacts := impacts
      readerObservations := observations
      narrativeStateSources := sources } := by
  rw [invalidateDependents] at h
  split_ifs at h with hchanges
  · have hstale : plan.stale =
        DependencyRow.affectedBy plan.chapterId plan.preflight.beforeFingerprint := by
      funext row
      simp [SettlementPlan.stale, hchanges]
    have hruns : ∀ rows : List (DependencyRow Fp),
        (rows.zipIdx.map fun item => item.1.runId) = rows.map (·.runId) := by
      intro rows
      have hfst := congrArg (List.map DependencyRow.runId) (List.zipIdx_map_fst 0 rows)
      rwa [List.map_map] at hfst
    simp only [bind_eq_ok, pure_eq_ok, Prod.mk.injEq] at h
    obtain ⟨mid, hmid, rfl, rfl⟩ := h
    obtain ⟨impacts, hmid⟩ := recordImpact_loop hmid
    rw [hruns] at hmid
    refine ⟨by rw [hstale], impacts, (mid.invalidateReadings plan createdAt).readerObservations,
      (mid.invalidateReadings plan createdAt).narrativeStateSources, ?_⟩
    rw [hstale, hmid]
    rfl
  · have hstale : plan.stale = fun _ => false := by
      funext row
      simp [SettlementPlan.stale, hchanges]
    simp only [pure_eq_ok, Prod.mk.injEq] at h
    obtain ⟨rfl, rfl⟩ := h
    refine ⟨by simp [hstale], db.downstreamImpacts, db.readerObservations,
      db.narrativeStateSources, ?_⟩
    simp [hstale, markConflicts, Table.updateWhere]

omit [SerdeJson Fp] in
/-- Invalidating chapters only adds them, in a later version. -/
theorem TrackingState.invalidate_eq_ok {chapters : List String} {state next : TrackingState Fp}
    (h : state.invalidate chapters = .ok next) (hsealed : state.Sealed) :
    next.Sealed ∧ state.version ≤ next.version ∧ next.projectId = state.projectId ∧
      next.chapters = state.chapters ∧
      next.characterSnapshots = state.characterSnapshots ∧
      ∀ chapterId, chapterId ∈ next.invalidatedChapters ↔
        chapterId ∈ chapters ∨ chapterId ∈ state.invalidatedChapters := by
  rw [invalidate] at h
  split_ifs at h with hnone
  · obtain rfl := pure_eq_ok.mp h
    simp [hnone, hsealed]
  · obtain ⟨_, -, h⟩ := bind_eq_ok.mp h
    obtain ⟨-, -, rfl, -⟩ := TrackingLedger.transact_eq_ok h
    refine ⟨refreshFingerprint_sealed _, ?_, rfl, rfl, rfl, fun chapterId => ?_⟩
    · exact Nat.le_succ _
    · exact OrderedSet.mem_insertAll

omit [Sha256 Fp] [SerdeJson Fp] in
theorem Database.swapTracking_eq_ok {before next : TrackingState Fp} {updatedAt : String}
    {db db' : Database Fp} (h : db.swapTracking before next updatedAt = .ok db') :
    ∃ row ∈ db.trackingAuthority, row.projectId = db.projectId ∧ row.version = before.version ∧
      row.contentFingerprint = before.fingerprint ∧
      db' = { db with
        trackingAuthority := Table.updateWhere (fun row => row.projectId = db.projectId ∧
            row.version = before.version ∧ row.contentFingerprint = before.fingerprint)
          (fun row => { row with
            version := next.version, payload := next, contentFingerprint := next.fingerprint,
            updatedAt })
          db.trackingAuthority } := by
  simp only [swapTracking, bind_eq_ok, require_eq_ok, exists_const, pure_eq_ok] at h
  obtain ⟨_, -, _, -, hcount, rfl⟩ := h
  obtain ⟨row, hrow⟩ := List.exists_mem_of_length_pos (hcount ▸ Nat.one_pos)
  obtain ⟨hmem, hrow⟩ := List.mem_filter.mp hrow
  simp only [Bool.decide_and, Bool.and_eq_true, decide_eq_true_eq] at hrow
  exact ⟨row, hmem, hrow.1, hrow.2.1, hrow.2.2, rfl⟩

/-- The database after the tables of a settlement are written and before its event. -/
structure SettledTables (db : Database Fp) (authorization : SettlementAuthorization Fp)
    (plan : SettlementPlan Fp) (mid : Database Fp) : Prop where
  written : ∃ tables next revisions search impacts observations sources,
    applyNarrativeDeltas plan.proposal (plan.source authorization.createdAt) db =
      .ok (db.withNarrative tables) ∧
    plan.recorded.invalidate
      ((db.chapterDependencies.filter plan.stale).map (·.chapterId)) = .ok next ∧
    (∃ row ∈ db.trackingAuthority, row.projectId = db.projectId ∧
      row.version = plan.tracking.version ∧
      row.contentFingerprint = plan.tracking.fingerprint) ∧
    mid = { db.withNarrative tables with
      narrativeStateSources := sources
      canonState := (db.upsertCanon (plan.canonRow authorization.createdAt)).canonState
      settlements := db.settlements ++ [plan.settlementRow authorization]
      documentRevisions := revisions
      searchIndex := search
      chapterDependencies := Table.updateWhere plan.stale
        (fun row => { row with status := .stale, updatedAt := authorization.createdAt })
        db.chapterDependencies
      contextFreezes := markConflicts
        ((db.chapterDependencies.filter plan.stale).map (·.runId)) db.contextFreezes
      downstreamImpacts := impacts
      readerObservations := observations
      trackingAuthority := Table.updateWhere (fun row => row.projectId = db.projectId ∧
          row.version = plan.tracking.version ∧
          row.contentFingerprint = plan.tracking.fingerprint)
        (fun row => { row with
          version := next.version, payload := next, contentFingerprint := next.fingerprint,
          updatedAt := authorization.createdAt })
        db.trackingAuthority
      receipts := db.receipts ++
        [{ receiptId := "receipt-" ++ authorization.settlementId, receiptKind := "settlement",
           idempotencyKey := some authorization.idempotencyKey,
           payload := .settlement authorization, createdAt := authorization.createdAt }] }

theorem Database.commitSettlement_eq_ok {authorization : SettlementAuthorization Fp}
    {ids : SettlementIds} {plan : SettlementPlan Fp} {db db' : Database Fp}
    (h : db.commitSettlement authorization ids plan = .ok db') :
    ∃ mid seq appended snapshotId, SettledTables db authorization plan mid ∧
      authorization.settlementId ∉ db.settlements.map (·.settlementId) ∧
      appendStoryEvent ids.event mid.projectId (some plan.runId) (some plan.chapterId) "chapter"
        plan.chapterId "chapter_settled" (plan.eventPayload authorization.settlementId)
        authorization.createdAt mid = .ok (seq, appended) ∧
      createStorySnapshot ids.snapshot appended.projectId seq "chapter_settled"
        authorization.createdAt appended = .ok (snapshotId, db') := by
  simp only [commitSettlement, insertSettlement, bind_eq_ok, require_eq_ok, exists_const,
    fetch_eq_ok, pure_eq_ok, Prod.exists] at h
  obtain ⟨narrated, hnarrated, settled, ⟨hfresh, -, rfl⟩, document, -, affected, invalidated,
    hinvalidated, next, hnext, swapped, hswapped, receipted, hreceipted, seq, appended, happended,
    snapshotId, final, hfinal, rfl⟩ := h
  obtain ⟨tables, rfl⟩ := applyNarrativeDeltas_eq_ok hnarrated
  obtain ⟨haffected, impacts, observations, sources, rfl⟩ := invalidateDependents_eq_ok hinvalidated
  obtain ⟨row, hrow, hproject, hversion, hfp, rfl⟩ := swapTracking_eq_ok hswapped
  obtain ⟨-, rfl⟩ := insertReceipt_eq_ok hreceipted
  subst haffected
  refine ⟨_, seq, appended, snapshotId, ⟨tables, next, _, _, impacts, observations, sources,
    hnarrated, hnext, ⟨row, hrow, hproject, hversion, hfp⟩, rfl⟩, hfresh, happended, hfinal⟩

/-- A settlement is a replay or is applied now. -/
theorem applySettlement_eq_ok {authorization : SettlementAuthorization Fp} {ids : SettlementIds}
    {settlementId : String} {db db' : Database Fp}
    (h : applySettlement authorization ids db = .ok (settlementId, db')) :
    authorization.validate = .ok () ∧
    ((∃ receipt prior, db.receipt? authorization.idempotencyKey = some receipt ∧
        receipt.payload = .settlement prior ∧ prior.fingerprint = authorization.fingerprint ∧
        settlementId = prior.settlementId ∧ db' = db) ∨
      (db.receipt? authorization.idempotencyKey = none ∧
        settlementId = authorization.settlementId ∧
        ∃ plan, db.prepareSettlement authorization ids.preflight = .ok plan ∧
          db.commitSettlement authorization ids plan = .ok db')) := by
  simp only [applySettlement, bind_eq_ok] at h
  obtain ⟨⟨⟩, hvalid, h⟩ := h
  refine ⟨hvalid, ?_⟩
  split at h
  case h_1 receipt hreceipt =>
    split at h
    · rename_i prior hpayload
      simp only [bind_eq_ok, require_eq_ok, exists_const, pure_eq_ok, Prod.mk.injEq] at h
      obtain ⟨hfp, rfl, rfl⟩ := h
      exact .inl ⟨receipt, prior, hreceipt, hpayload, hfp, rfl, rfl⟩
    · simp [throw, throwThe, MonadExceptOf.throw] at h
  case h_2 hnone =>
    simp only [bind_eq_ok, pure_eq_ok, Prod.mk.injEq] at h
    obtain ⟨plan, hplan, final, hfinal, rfl, rfl⟩ := h
    exact .inr ⟨hnone, rfl, plan, hplan, hfinal⟩

end Write

end Quillframe
