import Quillframe.Release

/-!
# Revision requests

The decision of the author against a candidate. It is kept with a checkpoint that a repair run
starts from, and with a piece of learning feedback.
-/
namespace Quillframe

open Json (str fp obj)
open Database

variable {Fp : Type}

/-! ## Learning feedback -/

structure LearningFeedback (Fp : Type) where
  eventId : String
  feedbackText : String
  evidenceKind : String
  candidateId : String
  candidateFingerprint : Fp
  documentId : String
  runId : String
  sourceType : String
  sourceId : String
  /-- The other arguments that an observed event came with. -/
  rest : List (String × Json Fp)

def LearningFeedback.toJson (event : LearningFeedback Fp) : Json Fp :=
  obj ([("candidate_fingerprint", fp event.candidateFingerprint),
    ("candidate_id", str event.candidateId), ("document_id", str event.documentId),
    ("event_id", str event.eventId), ("evidence_kind", str event.evidenceKind),
    ("feedback_text", str event.feedbackText), ("run_id", str event.runId),
    ("source_id", str event.sourceId), ("source_type", str event.sourceType)] ++ event.rest)

def LearningFeedback.required (event : LearningFeedback Fp) : List (String × String) :=
  [("event_id", event.eventId), ("feedback_text", event.feedbackText),
    ("evidence_kind", event.evidenceKind), ("candidate_id", event.candidateId),
    ("document_id", event.documentId), ("run_id", event.runId),
    ("source_type", event.sourceType), ("source_id", event.sourceId)]

inductive FeedbackStatus where
  | captured | interpreted | skipped | rejected
  deriving DecidableEq, Repr

structure FeedbackRow (Fp : Type) where
  eventId : String
  feedbackText : String
  evidenceKind : String
  candidateId : String
  candidateFingerprint : Fp
  documentId : String
  runId : String
  sourceType : String
  sourceId : String
  payloadFingerprint : Fp
  status : FeedbackStatus
  hypothesisId : Option String
  version : ℕ
  createdAt : String
  updatedAt : String
  deriving DecidableEq

inductive EvidenceState where
  | captured | awaitingSemantic | validated | rejected
  deriving DecidableEq, Repr

structure EvidenceRow (Fp : Type) where
  evidenceId : String
  evidenceKind : String
  sourceRef : String
  payload : Json Fp
  interpretedScope : Option String
  state : EvidenceState
  promotionEligible : Bool
  createdAt : String
  deriving DecidableEq

/-- A project with what it learns from its author. -/
structure AuthorDatabase (Fp : Type) where
  project : Database Fp
  feedbackEvents : List (FeedbackRow Fp)
  learningEvidence : List (EvidenceRow Fp)
  deriving DecidableEq

def AuthorDatabase.unlearned (project : Database Fp) : AuthorDatabase Fp := ⟨project, [], []⟩

section Calls

variable [Sha256 Fp] [DecidableEq Fp]

def LearningFeedback.row (event : LearningFeedback Fp) (createdAt : String) : FeedbackRow Fp where
  eventId := event.eventId
  feedbackText := event.feedbackText
  evidenceKind := event.evidenceKind
  candidateId := event.candidateId
  candidateFingerprint := event.candidateFingerprint
  documentId := event.documentId
  runId := event.runId
  sourceType := event.sourceType
  sourceId := event.sourceId
  payloadFingerprint := Sha256.ofJson event.toJson
  status := .captured
  hypothesisId := none
  version := 1
  createdAt
  updatedAt := createdAt

def LearningFeedback.evidence (event : LearningFeedback Fp) (createdAt : String) :
    EvidenceRow Fp where
  evidenceId := "learning-evidence-" ++ event.eventId
  evidenceKind := event.evidenceKind
  sourceRef := event.sourceType ++ ":" ++ event.sourceId
  payload := event.toJson
  interpretedScope := none
  state := .awaitingSemantic
  promotionEligible := false
  createdAt

/-- The two rows of an event that is new. -/
def AuthorDatabase.insertFeedback (event : LearningFeedback Fp) (createdAt : String)
    (s : AuthorDatabase Fp) : CoreResult (AuthorDatabase Fp) := do
  require ((s.project.candidates.filter fun row =>
      row.candidateId = event.candidateId ∧
        row.contentFingerprint = event.candidateFingerprint ∧
        row.documentId = some event.documentId ∧ row.runId = some event.runId).length = 1)
    (.authorityConflict "learning feedback does not bind an exact production candidate")
  require (event.documentId ∈ s.project.documents.map (·.documentId) ∧
      event.runId ∈ s.project.runs.map (·.runId)) foreignKeyFailed
  require ("learning-evidence-" ++ event.eventId ∉ s.learningEvidence.map (·.evidenceId))
    (uniqueFailed "learning_evidence.evidence_id")
  return { s with
    feedbackEvents := s.feedbackEvents ++ [event.row createdAt]
    learningEvidence := s.learningEvidence ++ [event.evidence createdAt] }

/-- `insert_learning_feedback`: the id of the event, and whether it was already there. -/
def insertLearningFeedback (event : LearningFeedback Fp) (createdAt : String)
    (s : AuthorDatabase Fp) : CoreResult ((String × Bool) × AuthorDatabase Fp) := do
  let _ ← forEach (fun _ field => require (¬ blank field.2)
      (.invalidProject ("learning feedback " ++ field.1 ++ " is required"))) event.required ()
  match Table.lookup FeedbackRow.eventId event.eventId s.feedbackEvents with
  | some existing =>
    require (existing.payloadFingerprint = Sha256.ofJson event.toJson)
      (.authorityConflict "learning feedback event id binds different evidence")
    return ((event.eventId, true), s)
  | none =>
    let s ← s.insertFeedback event createdAt
    return ((event.eventId, false), s)

def captureLearningFeedback (event : LearningFeedback Fp) (createdAt : String)
    (s : AuthorDatabase Fp) : CoreResult ((String × Bool) × AuthorDatabase Fp) := do
  requireTimestamp createdAt
  insertLearningFeedback event createdAt s

/-! ## Requests -/

/-- The ids of a request, of its checkpoint and of its feedback, and whether that was recorded
before. -/
structure RevisionAnswer where
  requestId : String
  checkpointId : String
  feedbackEventId : String
  feedbackReplayed : Bool
  deriving DecidableEq, Repr

def checkpointOf (requestId : String) : String := "checkpoint-author-revision-" ++ requestId

def feedbackOf (requestId : String) : String := "feedback-revision-" ++ requestId

namespace RevisionRequest

/-- The stored request of a key is the same one: its id and its time may differ. -/
def Matches (r : RevisionRequest Fp) (row : RevisionRequestRow Fp) : Prop :=
  row.candidateId = r.candidateId ∧ row.candidateFingerprint = r.candidateFingerprint ∧
    row.requestedBy = r.requestedBy ∧ row.reason = r.reason

instance (r : RevisionRequest Fp) (row : RevisionRequestRow Fp) : Decidable (r.Matches row) :=
  inferInstanceAs (Decidable (_ ∧ _))

def row (r : RevisionRequest Fp) : RevisionRequestRow Fp where
  requestId := r.requestId
  candidateId := r.candidateId
  candidateFingerprint := r.candidateFingerprint
  requestFingerprint := r.fingerprint
  idempotencyKey := r.idempotencyKey
  requestedBy := r.requestedBy
  reason := r.reason
  state := .requested
  createdAt := r.createdAt

def checkpoint (r : RevisionRequest Fp) (runId : String) (revision : ℕ) : CheckpointRow Fp where
  checkpointId := checkpointOf r.requestId
  runId
  checkpointKind := "author_revision_repair_source"
  state := obj [("candidate_id", str r.candidateId), ("instruction", str r.reason),
    ("mechanism", str "author_revision_request"), ("revision", .int revision),
    ("revision_request_id", str r.requestId), ("source_kind", str "author_revision_request")]
  artifactFingerprint := r.candidateFingerprint
  createdAt := r.createdAt

end RevisionRequest

/-- The feedback of a stored request. -/
def RevisionRequestRow.feedback (row : RevisionRequestRow Fp) (documentId runId : String) :
    LearningFeedback Fp where
  eventId := feedbackOf row.requestId
  feedbackText := row.reason
  evidenceKind := "author_revision"
  candidateId := row.candidateId
  candidateFingerprint := row.candidateFingerprint
  documentId
  runId
  sourceType := "candidate_revision_request"
  sourceId := row.requestId
  rest := []

/-- A request whose key is bound. -/
def replayRevision (r : RevisionRequest Fp) (row : RevisionRequestRow Fp)
    (s : AuthorDatabase Fp) : CoreResult (RevisionAnswer × AuthorDatabase Fp) := do
  require (r.Matches row)
    (.authorityConflict "revision idempotency key binds a different request")
  let candidate ← fetch (s.project.candidates.find? fun candidate =>
    candidate.candidateId = row.candidateId ∧
      candidate.contentFingerprint = row.candidateFingerprint) noRows
  let documentId ← fetch candidate.documentId (nullColumn "document_id")
  let runId ← fetch candidate.runId (nullColumn "run_id")
  let ((eventId, replayed), s) ←
    insertLearningFeedback (row.feedback documentId runId) r.createdAt s
  return (⟨row.requestId, checkpointOf row.requestId, eventId, replayed⟩, s)

/-- `INSERT INTO candidate_revision_requests`. -/
def Database.insertRevisionRequest (row : RevisionRequestRow Fp) (db : Database Fp) :
    CoreResult (Database Fp) := do
  require (row.requestId ∉ db.revisionRequests.map (·.requestId))
    (uniqueFailed "candidate_revision_requests.request_id")
  require (row.candidateId ∉ db.revisionRequests.map (·.candidateId))
    (uniqueFailed "candidate_revision_requests.candidate_id")
  require (row.idempotencyKey ∉ db.revisionRequests.map (·.idempotencyKey))
    (uniqueFailed "candidate_revision_requests.idempotency_key")
  return { db with revisionRequests := db.revisionRequests ++ [row] }

/-- A request with a new key. -/
def recordRevision (r : RevisionRequest Fp) (s : AuthorDatabase Fp) :
    CoreResult (RevisionAnswer × AuthorDatabase Fp) := do
  let candidate ← fetch (s.project.candidate? r.candidateId) noRows
  let (_, lineage) ← fetch (Table.lookup Prod.fst r.candidateId s.project.candidateLineage) noRows
  let runId ← fetch candidate.runId (nullColumn "run_id")
  let documentId ← fetch candidate.documentId (nullColumn "document_id")
  require (candidate.status = .reviewDraft ∧
      candidate.contentFingerprint = r.candidateFingerprint)
    (.authorityConflict "revision request candidate is stale or not reviewable")
  require (r.candidateId ∉ s.project.acceptanceEvidence.map (·.candidateId))
    (.authorityConflict "accepted candidate cannot receive a revision request")
  lineage.validate
  let db ← s.project.insertRevisionRequest r.row
  let db ← db.insertCheckpoint (r.checkpoint runId lineage.revision)
  let ((eventId, replayed), s) ←
    insertLearningFeedback (r.row.feedback documentId runId) r.createdAt { s with project := db }
  return (⟨r.requestId, checkpointOf r.requestId, eventId, replayed⟩, s)

def requestCandidateRevision (r : RevisionRequest Fp) (s : AuthorDatabase Fp) :
    CoreResult (RevisionAnswer × AuthorDatabase Fp) := do
  r.validate
  match Table.lookup RevisionRequestRow.idempotencyKey r.idempotencyKey
      s.project.revisionRequests with
  | some row => replayRevision r row s
  | none => recordRevision r s

end Calls

end Quillframe
