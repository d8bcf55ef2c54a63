import Quillframe.Columns
import Quillframe.Settlement

/-!
# Sources and plans of a publication

What `publication.rs` reads before it touches a file: the accepted revisions, their place in the
canon, and the plan whose identity names the build.
-/
namespace Quillframe

open Json

variable {Fp : Type}

def maxArtifactBytes : ℕ := 64 * 1024 * 1024

inductive PublicationFormat where
  | md | txt
  deriving DecidableEq, Repr

def PublicationFormat.asStr : PublicationFormat → String
  | .md => "md"
  | .txt => "txt"

structure SourceBinding (Fp : Type) where
  acceptanceId : String
  candidateId : String
  chapterId : String
  contentFingerprint : Fp
  documentId : String
  headFingerprint : Option Fp
  readingOrder : Option ℕ
  revisionId : String
  runId : Option String
  settlementId : Option String
  deriving DecidableEq

def SourceBinding.toJson (binding : SourceBinding Fp) : Json Fp :=
  obj [("acceptance_id", str binding.acceptanceId), ("candidate_id", str binding.candidateId),
    ("chapter_id", str binding.chapterId), ("content_fingerprint", fp binding.contentFingerprint),
    ("document_id", str binding.documentId),
    ("head_fingerprint", ofOption fp binding.headFingerprint),
    ("reading_order", ofOption (fun order : ℕ => int order) binding.readingOrder),
    ("revision_id", str binding.revisionId), ("run_id", ofOption str binding.runId),
    ("settlement_id", ofOption str binding.settlementId)]

structure PublicationSource (Fp : Type) where
  binding : SourceBinding Fp
  content : String
  deriving DecidableEq

/-! ## Sources -/

section Sources

variable [Sha256 Fp] [DecidableEq Fp]

/-- `load_accepted_source`. -/
def Database.loadAcceptedSource (db : Database Fp) (acceptanceId : String) :
    CoreResult (PublicationSource Fp) := do
  require (¬ blank acceptanceId) (.invalidProject "acceptance id is required")
  let acceptance ← fetch
    (Table.lookup AcceptanceRow.acceptanceId acceptanceId db.acceptanceEvidence) noRows
  let candidate ← fetch (db.candidate? acceptance.candidateId) noRows
  let revision ← fetch (candidate.revisionId.bind fun revisionId =>
    Table.lookup DocumentRevision.revisionId revisionId db.documentRevisions) noRows
  let document ← fetch (candidate.documentId.bind db.document?) noRows
  let node ← fetch (document.storyNodeId.bind fun nodeId =>
    Table.lookup StoryNode.nodeId nodeId db.storyNodes) noRows
  require (candidate.status = .accepted ∧ revision.authorityClass = .accepted ∧
      acceptance.candidateFingerprint = revision.contentFingerprint ∧
      revision.contentFingerprint = Sha256.ofText revision.content ∧
      document.documentId = revision.documentId ∧ document.documentKind = .manuscript ∧
      node.kind = .chapter)
    (.authorityConflict "publication source is not an intact accepted revision")
  return {
    binding := {
      acceptanceId, candidateId := candidate.candidateId, chapterId := node.nodeId,
      contentFingerprint := revision.contentFingerprint, documentId := document.documentId,
      headFingerprint := none, readingOrder := none, revisionId := revision.revisionId,
      runId := candidate.runId, settlementId := none }
    content := revision.content }

/-- The canon value names the source. -/
def SourceBinding.Heads (binding : SourceBinding Fp) (head : Json Fp) : Prop :=
  head.get? "acceptance_id" = some (str binding.acceptanceId) ∧
    head.get? "candidate_id" = some (str binding.candidateId) ∧
    head.get? "chapter_id" = some (str binding.chapterId) ∧
    head.get? "content_fingerprint" = some (fp binding.contentFingerprint) ∧
    head.get? "document_id" = some (str binding.documentId) ∧
    head.get? "revision_id" = some (str binding.revisionId)

instance (binding : SourceBinding Fp) (head : Json Fp) : Decidable (binding.Heads head) :=
  inferInstanceAs (Decidable (_ ∧ _))

omit [Sha256 Fp] in
/-- The last settlement of an acceptance that left a chapter at a head. -/
def Database.settlementOf (db : Database Fp) (acceptanceId chapterId : String) (head : Fp) :
    Option (SettlementRow Fp) :=
  ((db.settlements.filter fun row => row.acceptanceId = acceptanceId ∧
      row.targetRef = chapterRef chapterId ∧ row.afterFingerprint = head).insertionSort
    fun a b => toLex (b.createdAt, b.settlementId) ≤ toLex (a.createdAt, a.settlementId)).head?

/-- `load_current_source`. -/
def Database.loadCurrentSource (db : Database Fp) (acceptanceId : String) :
    CoreResult (PublicationSource Fp) := do
  let source ← db.loadAcceptedSource acceptanceId
  let row ← fetch
    (Table.lookup CanonRow.stateKey (chapterRef source.binding.chapterId) db.canonState) noRows
  require (row.authorityClass = "accepted" ∧ Sha256.ofJson row.value = row.contentFingerprint)
    (.authorityConflict "current chapter head is invalid")
  let readingOrder ← fetch ((row.value.get? "reading_order").bind asNat)
    (.authorityConflict "current chapter head has no reading order")
  require (source.binding.Heads row.value)
    (.authorityConflict "acceptance is not the current settled chapter head")
  let settlement ← fetch
    (db.settlementOf acceptanceId source.binding.chapterId row.contentFingerprint) noRows
  require (∀ runId ∈ source.binding.runId, db.RunCurrent runId)
    (.authorityConflict "publication source has stale production dependencies")
  require (db.readingOrder source.binding.chapterId = readingOrder)
    (.authorityConflict "publication reading order changed after settlement")
  return { source with
    binding := { source.binding with
      headFingerprint := some row.contentFingerprint
      readingOrder := some readingOrder
      settlementId := some settlement.settlementId } }

end Sources

/-! ## Plans -/

structure PublicationPlan (Fp : Type) where
  projectId : String
  sourceAcceptanceIds : List String
  sourceBinding : Json Fp
  sourceBindingFingerprint : Fp
  format : PublicationFormat
  content : String
  sourceFingerprint : Fp
  identityFingerprint : Fp
  artifactFingerprint : Fp
  collection : Bool
  deriving DecidableEq

def compilerContract (collection : Bool) : String :=
  if collection then "quillframe_core_publication_collection_text_v1"
  else "quillframe_core_publication_text_v1"

namespace PublicationPlan

/-- The id `pub_…` is the identity fingerprint under another name. -/
def buildId (plan : PublicationPlan Fp) : Fp := plan.identityFingerprint

def compiler (plan : PublicationPlan Fp) : String := compilerContract plan.collection

/-- The UTF-8 bytes that are written. -/
def bytes (plan : PublicationPlan Fp) : List UInt8 := plan.content.toUTF8.data.toList

def byteSize (plan : PublicationPlan Fp) : ℕ := plan.bytes.length

end PublicationPlan

section Plans

variable [Sha256 Fp]

def publicationIdentity (collection : Bool) (format : PublicationFormat) (projectId : String)
    (sourceAcceptanceIds : List String) (sourceBindingFingerprint : Fp) : Json Fp :=
  obj [("compiler_contract", str (compilerContract collection)), ("format", str format.asStr),
    ("project_id", str projectId), ("source_acceptance_ids", strings sourceAcceptanceIds),
    ("source_binding_fingerprint", fp sourceBindingFingerprint)]

/-- `make_plan`. No caller passes an empty list. -/
def makePlan (projectId : String) (sources : List (PublicationSource Fp))
    (format : PublicationFormat) (collection : Bool) : CoreResult (PublicationPlan Fp) := do
  let first ← fetch sources.head? (.storage "index out of bounds")
  let sourceAcceptanceIds := sources.map (·.binding.acceptanceId)
  let sourceBinding := if collection then arr (sources.map (·.binding.toJson))
    else first.binding.toJson
  let sourceBindingFingerprint := Sha256.ofJson sourceBinding
  let content := (if collection then "\n\n" else "").intercalate (sources.map (·.content))
  require (content.utf8ByteSize ≤ maxArtifactBytes)
    (.invalidProject "publication artifact exceeds 64 MiB")
  return {
    projectId, sourceAcceptanceIds, sourceBinding, sourceBindingFingerprint, format, content
    sourceFingerprint :=
      if collection then sourceBindingFingerprint else first.binding.contentFingerprint
    identityFingerprint := Sha256.ofJson (publicationIdentity collection format projectId
      sourceAcceptanceIds sourceBindingFingerprint)
    artifactFingerprint := Sha256.ofText content
    collection }

variable [DecidableEq Fp]

omit [Sha256 Fp] [DecidableEq Fp] in
/-- The reading orders rise. -/
def ReadingOrdered (sources : List (PublicationSource Fp)) : Prop :=
  (sources.map (·.binding.readingOrder)).IsChain (Option.lt (· < ·))

instance (sources : List (PublicationSource Fp)) : Decidable (ReadingOrdered sources) :=
  inferInstanceAs (Decidable (List.IsChain _ _))

/-- `rebuild_plan`. -/
def Database.rebuildPlan (db : Database Fp) (plan : PublicationPlan Fp) :
    CoreResult (PublicationPlan Fp) := do
  let sources ← plan.sourceAcceptanceIds.mapM
    (if plan.collection then db.loadCurrentSource else db.loadAcceptedSource)
  require (plan.collection → ReadingOrdered sources)
    (.authorityConflict "publication reading order changed")
  makePlan plan.projectId sources plan.format plan.collection

end Plans

end Quillframe
