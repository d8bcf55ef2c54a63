import Quillframe.Context
import Quillframe.Decisions
import Quillframe.Events
import Quillframe.Production
import Quillframe.Review
import Quillframe.Semantic
import Quillframe.Table

/-!
# The project database

One record per table of `persistence/schema/project`, with the columns the modelled operations
read or write. A column that stores a serialised record holds the record.
-/
namespace Quillframe

variable {Fp : Type}

/-! ## Story topology and manuscripts -/

inductive StoryKind where
  | book | volume | arc | unit | chapter | scene
  deriving DecidableEq, Repr

structure StoryNode where
  nodeId : String
  parentId : Option String
  kind : StoryKind
  ordinal : ℤ
  title : String
  deriving DecidableEq, Repr

inductive DocumentKind where
  | manuscript | note | plan | researchNote | publicationSource
  deriving DecidableEq, Repr

structure Document where
  documentId : String
  storyNodeId : Option String
  documentKind : DocumentKind
  title : String
  createdAt : String
  deriving DecidableEq, Repr

inductive RevisionAuthority where
  | proposal | review | accepted
  deriving DecidableEq, Repr

structure DocumentRevision (Fp : Type) where
  revisionId : String
  documentId : String
  parentRevisionId : Option String
  content : String
  contentFingerprint : Fp
  createdAt : String
  source : String
  authorityClass : RevisionAuthority
  provenance : Json Fp
  deriving DecidableEq

/-! ## The projection tables -/

structure CharacterRow (Fp : Type) where
  characterId : String
  name : String
  agenda : Option String
  voiceNotes : Option String
  state : Json Fp
  updatedAt : String
  deriving DecidableEq

structure RelationshipRow (Fp : Type) where
  relationshipId : String
  participantA : String
  participantB : String
  relationshipType : String
  state : Json Fp
  updatedAt : String
  deriving DecidableEq

structure WorldEntityRow (Fp : Type) where
  entityId : String
  entityType : String
  name : String
  truth : Json Fp
  updatedAt : String
  deriving DecidableEq

structure TimelineEventRow where
  eventId : String
  storyOrder : ℤ
  title : String
  description : Option String
  authorityClass : String
  sourceRef : Option String
  deriving DecidableEq, Repr

structure CharacterKnowledgeRow (Fp : Type) where
  knowledgeId : String
  characterId : String
  claimRef : Option String
  fact : Json Fp
  availableFromStoryOrder : ℤ
  evidenceRef : String
  confidence : String
  deriving DecidableEq

structure ExpectationRow (Fp : Type) where
  expectationId : String
  kind : String
  scope : String
  description : String
  openedOrder : ℤ
  dueByOrder : Option ℤ
  lastTouchedOrder : ℤ
  status : String
  sourceRef : String
  sourceFingerprint : Option Fp
  version : ℤ
  createdAt : String
  updatedAt : String
  deriving DecidableEq

structure ExpectationEventRow where
  eventId : ℤ
  expectationId : String
  eventType : String
  atOrder : ℤ
  detail : Option String
  evidenceRef : Option String
  createdAt : String
  deriving DecidableEq, Repr

inductive NarrativeEntityType where
  | character | relationship | world | timeline | knowledge | expectation
  deriving DecidableEq, Repr

inductive Freshness where
  | current | stale
  deriving DecidableEq, Repr

structure NarrativeSourceRow (Fp : Type) where
  entityType : NarrativeEntityType
  entityId : String
  chapterId : String
  acceptanceId : String
  sourceFingerprint : Fp
  state : Freshness
  updatedAt : String
  deriving DecidableEq

structure CanonRow (Fp : Type) where
  stateKey : String
  value : Json Fp
  authorityClass : String
  evidenceRef : String
  contentFingerprint : Fp
  updatedAt : String
  deriving DecidableEq

structure TrackingRow (Fp : Type) where
  projectId : String
  version : ℕ
  payload : TrackingState Fp
  contentFingerprint : Fp
  updatedAt : String
  deriving DecidableEq

/-! ## Candidates, decisions and receipts -/

inductive CandidateStatus where
  | internal | reviewDraft | rejected | accepted
  deriving DecidableEq, Repr

structure CandidateRow (Fp : Type) where
  candidateId : String
  documentId : Option String
  revisionId : Option String
  runId : Option String
  taskMode : ProductionTaskMode
  candidateKind : String
  status : CandidateStatus
  contentFingerprint : Fp
  userVisibleGate : String
  createdAt : String
  deriving DecidableEq

structure AcceptanceRow (Fp : Type) where
  acceptanceId : String
  candidateId : String
  candidateFingerprint : Fp
  authorizedBy : String
  authorization : AcceptanceDecision Fp
  createdAt : String
  deriving DecidableEq

structure SettlementRow (Fp : Type) where
  settlementId : String
  acceptanceId : String
  targetRef : String
  beforeFingerprint : Fp
  afterFingerprint : Fp
  stateDelta : Json Fp
  receipt : SettlementAuthorization Fp
  createdAt : String
  deriving DecidableEq

/-- What the payload of a receipt parses as. -/
inductive ReceiptPayload (Fp : Type) where
  | acceptance (decision : AcceptanceDecision Fp)
  | settlement (authorization : SettlementAuthorization Fp)
  | cancellation (runId : String) (expectedCursor abandonedCallCount : ℕ)
  | other (payload : Json Fp)
  deriving DecidableEq

structure ReceiptRow (Fp : Type) where
  receiptId : String
  receiptKind : String
  idempotencyKey : Option String
  payload : ReceiptPayload Fp
  createdAt : String
  deriving DecidableEq

inductive RevisionRequestState where
  | requested | consumed | cancelled
  deriving DecidableEq, Repr

structure RevisionRequestRow (Fp : Type) where
  requestId : String
  candidateId : String
  candidateFingerprint : Fp
  requestFingerprint : Fp
  idempotencyKey : String
  requestedBy : String
  reason : String
  state : RevisionRequestState
  createdAt : String
  deriving DecidableEq

structure ReviewReportRow (Fp : Type) where
  reportFingerprint : Fp
  candidateFingerprint : Fp
  mode : ReviewMode
  decision : ReviewDecision
  independentContext : Bool
  payload : ReviewReport Fp
  createdAt : String
  deriving DecidableEq

structure ReleaseRow (Fp : Type) where
  releaseId : String
  candidateId : String
  candidateFingerprint : Fp
  writerPackFingerprint : Fp
  trackingFingerprint : Fp
  reviewReportFingerprint : Fp
  stageReceiptFingerprints : OrderedMap String Fp
  payload : ProductionRelease Fp
  releaseFingerprint : Fp
  releasedAt : String
  deriving DecidableEq

/-! ## Production runs -/

structure RunRow (Fp : Type) where
  runId : String
  taskMode : ProductionTaskMode
  targetRef : String
  status : String
  requestFingerprint : Fp
  resultFingerprint : Option Fp
  createdAt : String
  updatedAt : String
  deriving DecidableEq

structure ExecutionRow (Fp : Type) where
  runId : String
  requestFingerprint : Fp
  request : ProductionRequest Fp
  cancelRequested : Bool
  createdAt : String
  updatedAt : String
  deriving DecidableEq

structure StageCallRow (Fp : Type) where
  callId : String
  runId : String
  stageKey : String
  runtimeRole : String
  inputFingerprint : Fp
  job : StageJob Fp
  ownerToken : String
  state : StageCallState
  deadlineAtMs : ℕ
  result : Option (ModelResult Fp)
  resultFingerprint : Option Fp
  errorCode : Option String
  createdAt : String
  updatedAt : String
  deriving DecidableEq

structure BillingReceiptRow (Fp : Type) where
  callId : String
  runId : String
  resultFingerprint : Fp
  costMicros : ℕ
  receiptFingerprint : Fp
  createdAt : String
  deriving DecidableEq

structure CheckpointRow (Fp : Type) where
  checkpointId : String
  runId : String
  checkpointKind : String
  state : Json Fp
  artifactFingerprint : Fp
  createdAt : String
  deriving DecidableEq

structure RuntimeEventRow (Fp : Type) where
  eventId : String
  runId : String
  eventKind : String
  payload : Json Fp
  createdAt : String
  deriving DecidableEq

structure WriterPackRow (Fp : Type) where
  writerPackFingerprint : Fp
  chapterId : String
  activePlanFingerprint : Fp
  contextFreezeFingerprint : Fp
  trackingFingerprint : Fp
  payload : WriterPack Fp
  createdAt : String
  deriving DecidableEq

structure ContextSelectionRow (Fp : Type) where
  selectionId : String
  runId : String
  candidateUniverseFingerprint : Fp
  selectionFingerprint : Fp
  pool : List (ContextEntry Fp)
  greenlight : ContextSelectionProposal
  createdAt : String
  deriving DecidableEq

inductive FreezeStatus where
  | frozen | staleConflict | superseded
  deriving DecidableEq, Repr

structure ContextFreezeRow (Fp : Type) where
  freezeId : String
  runId : String
  taskMode : ProductionTaskMode
  freezeFingerprint : Fp
  snapshot : ContextFreeze Fp
  status : FreezeStatus
  createdAt : String
  deriving DecidableEq

structure DependencyRow (Fp : Type) where
  chapterId : String
  sourceChapterId : String
  sourceFingerprint : Fp
  runId : String
  status : Freshness
  createdAt : String
  updatedAt : String
  deriving DecidableEq

structure DownstreamImpactRow (Fp : Type) where
  impactId : String
  sourceChapterId : String
  oldFingerprint : Fp
  newFingerprint : Fp
  affectedChapterId : String
  createdAt : String
  deriving DecidableEq

inductive ObservationState where
  | proposed | applied | invalidated
  deriving DecidableEq, Repr

structure ReaderObservationRow where
  observationId : String
  state : ObservationState
  updatedAt : String
  deriving DecidableEq, Repr

structure ReaderObservationSourceRow (Fp : Type) where
  observationId : String
  sourceChapterId : String
  sourceFingerprint : Fp
  deriving DecidableEq

/-- A row of one of the two reader tables that reference an expectation. -/
structure ReaderExpectationRow where
  observationId : String
  expectationId : String
  deriving DecidableEq, Repr

structure SearchRow where
  entityType : String
  entityId : String
  title : String
  body : String
  deriving DecidableEq, Repr

/-! ## Story history -/

structure StateHead (Fp : Type) where
  projectId : String
  revision : ℕ
  latestEventSeq : Option ℤ
  latestSnapshotId : Option String
  stateFingerprint : Fp
  updatedAt : String
  deriving DecidableEq

structure StoryEventRow (Fp : Type) where
  eventSeq : ℤ
  eventId : String
  projectId : String
  runId : Option String
  chapterId : Option String
  aggregateKind : String
  aggregateId : String
  eventKind : String
  baseRevision : ℕ
  commitRevision : ℕ
  payload : Json Fp
  payloadFingerprint : Fp
  eventFingerprint : Fp
  createdAt : String
  deriving DecidableEq

structure SnapshotRow (Fp : Type) where
  snapshotId : String
  projectId : String
  throughEventSeq : ℤ
  stateFingerprint : Fp
  payload : StoryStateSnapshot Fp
  reason : String
  createdAt : String
  deriving DecidableEq

/-- The tables of one project. `project_identity` and `project_state_heads` have the single row
that project creation inserts; the two counters are the `sqlite_sequence` entries of the
autoincrement keys. -/
structure Database (Fp : Type) where
  projectId : String
  storyNodes : List StoryNode
  documents : List Document
  documentRevisions : List (DocumentRevision Fp)
  canonState : List (CanonRow Fp)
  trackingAuthority : List (TrackingRow Fp)
  characters : List (CharacterRow Fp)
  relationships : List (RelationshipRow Fp)
  worldEntities : List (WorldEntityRow Fp)
  timelineEvents : List TimelineEventRow
  characterKnowledge : List (CharacterKnowledgeRow Fp)
  expectations : List (ExpectationRow Fp)
  expectationEvents : List ExpectationEventRow
  expectationEventSequence : ℤ
  narrativeStateSources : List (NarrativeSourceRow Fp)
  candidates : List (CandidateRow Fp)
  candidateLineage : List (String × CandidateArtifact Fp)
  acceptanceEvidence : List (AcceptanceRow Fp)
  settlements : List (SettlementRow Fp)
  receipts : List (ReceiptRow Fp)
  revisionRequests : List (RevisionRequestRow Fp)
  reviewReports : List (ReviewReportRow Fp)
  productionReleases : List (ReleaseRow Fp)
  runs : List (RunRow Fp)
  productionExecutions : List (ExecutionRow Fp)
  stageCalls : List (StageCallRow Fp)
  billingReceipts : List (BillingReceiptRow Fp)
  checkpoints : List (CheckpointRow Fp)
  runtimeEvents : List (RuntimeEventRow Fp)
  writerPackFreezes : List (WriterPackRow Fp)
  contextSelections : List (ContextSelectionRow Fp)
  contextFreezes : List (ContextFreezeRow Fp)
  chapterDependencies : List (DependencyRow Fp)
  downstreamImpacts : List (DownstreamImpactRow Fp)
  readerObservations : List ReaderObservationRow
  readerObservationSources : List (ReaderObservationSourceRow Fp)
  readerExpectationDependencies : List ReaderExpectationRow
  readerExpectationEffects : List ReaderExpectationRow
  searchIndex : List SearchRow
  head : StateHead Fp
  storyEvents : List (StoryEventRow Fp)
  storyEventSequence : ℤ
  storySnapshots : List (SnapshotRow Fp)
  deriving DecidableEq

/-- `chapter:{chapter_id}`, the key of a chapter's canon row. -/
def chapterRef (chapterId : String) : String := "chapter:" ++ chapterId

theorem chapterRef_injective : Function.Injective chapterRef := by
  intro a b h
  have hlist := congrArg String.toList h
  simp only [chapterRef, String.toList_append, List.append_cancel_left_eq] at hlist
  exact String.toList_inj.mp hlist

namespace Database

/-- The canon head fingerprint of a target. -/
def canonHead (db : Database Fp) (targetRef : String) : Option Fp :=
  (Table.lookup CanonRow.stateKey targetRef db.canonState).map CanonRow.contentFingerprint

/-- The canon head of a chapter. -/
def chapterHead (db : Database Fp) (chapterId : String) : Option Fp :=
  db.canonHead (chapterRef chapterId)

def candidate? (db : Database Fp) (candidateId : String) : Option (CandidateRow Fp) :=
  Table.lookup CandidateRow.candidateId candidateId db.candidates

def document? (db : Database Fp) (documentId : String) : Option Document :=
  Table.lookup Document.documentId documentId db.documents

def receipt? (db : Database Fp) (idempotencyKey : String) : Option (ReceiptRow Fp) :=
  Table.lookup ReceiptRow.idempotencyKey (some idempotencyKey) db.receipts

def execution? (db : Database Fp) (runId : String) : Option (ExecutionRow Fp) :=
  Table.lookup ExecutionRow.runId runId db.productionExecutions

def run? (db : Database Fp) (runId : String) : Option (RunRow Fp) :=
  Table.lookup RunRow.runId runId db.runs

end Database

end Quillframe
