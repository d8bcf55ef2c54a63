import Quillframe.Digest
import Quillframe.Error

/-! Context entries, bounded manifests and their freezes. -/
namespace Quillframe

open Json (str int fp obj arr ofOption strings)

variable {Fp : Type}

inductive ContextStage where
  | planning
  | character
  | scene
  | writer
  | blindReader
  | continuity
  | independentReview
  deriving DecidableEq, Repr

def ContextStage.name : ContextStage → String
  | .planning => "planning"
  | .character => "character"
  | .scene => "scene"
  | .writer => "writer"
  | .blindReader => "blind_reader"
  | .continuity => "continuity"
  | .independentReview => "independent_review"

inductive ContextTier where
  | recentManuscript
  | settledLedger
  | archiveEvidence
  deriving DecidableEq, Repr

def ContextTier.name : ContextTier → String
  | .recentManuscript => "recent_manuscript"
  | .settledLedger => "settled_ledger"
  | .archiveEvidence => "archive_evidence"

/-- `allowedStages` lists a set in the order of the enumeration. -/
structure ContextEntry (Fp : Type) where
  reference : String
  tier : ContextTier
  fingerprint : Fp
  summary : String
  byteSize : ℕ
  sourceChapterId : Option String
  sourceHeadFingerprint : Option Fp
  allowedStages : List ContextStage
  containsManuscriptBody : Bool
  containsPrivateState : Bool
  containsCorpusIdentity : Bool
  deriving DecidableEq

def ContextEntry.toJson (e : ContextEntry Fp) : Json Fp :=
  obj [("reference", str e.reference), ("tier", str e.tier.name),
    ("fingerprint", fp e.fingerprint), ("summary", str e.summary), ("byte_size", int e.byteSize),
    ("source_chapter_id", ofOption str e.sourceChapterId),
    ("source_head_fingerprint", ofOption fp e.sourceHeadFingerprint),
    ("allowed_stages", strings (e.allowedStages.map ContextStage.name)),
    ("contains_manuscript_body", .bool e.containsManuscriptBody),
    ("contains_private_state", .bool e.containsPrivateState),
    ("contains_corpus_identity", .bool e.containsCorpusIdentity)]

structure ContextQueryPlan where
  queries : List String
  requiredReferences : List String
  deriving DecidableEq, Repr

structure ContextSelectionProposal where
  selectedReferences : List String
  deriving DecidableEq, Repr

structure ContextFreeze (Fp : Type) where
  schema : String
  stage : ContextStage
  entries : List (ContextEntry Fp)
  totalBytes : ℕ
  fingerprint : Fp
  deriving DecidableEq

namespace ContextQueryPlan

def validate (plan : ContextQueryPlan) : CoreResult Unit := do
  require (¬ (6 < plan.queries.length ∨
      (∃ query ∈ plan.queries, blank query ∨ 80 < query.length) ∨
      16 < plan.requiredReferences.length ∨
      ∃ reference ∈ plan.requiredReferences, blank reference))
    (.contextBoundary "context query plan exceeds its bounded contract")
  require (plan.queries.Nodup ∧ plan.requiredReferences.Nodup)
    (.contextBoundary "context query plan contains duplicate selectors")

def toValue (plan : ContextQueryPlan) : Json Fp :=
  obj [("queries", strings plan.queries),
    ("required_references", strings plan.requiredReferences)]

end ContextQueryPlan

namespace ContextSelectionProposal

def validateAgainst (proposal : ContextSelectionProposal) (candidates : List (ContextEntry Fp)) :
    CoreResult Unit := do
  require (¬ (24 < proposal.selectedReferences.length ∨
      proposal.selectedReferences.isEmpty ≠ candidates.isEmpty))
    (.contextBoundary ("context greenlight must select zero references only for an empty " ++
      "candidate set, otherwise one to twenty-four"))
  require (proposal.selectedReferences.Nodup ∧
      ∀ reference ∈ proposal.selectedReferences, reference ∈ candidates.map (·.reference))
    (.contextBoundary "context greenlight selected duplicate or unknown references")

def toValue (proposal : ContextSelectionProposal) : Json Fp :=
  obj [("selected_references", strings proposal.selectedReferences)]

end ContextSelectionProposal

/-! ## Manifests -/

/-- `ContextManifest::select`: the entries kept so far, in selection order. -/
def ContextManifest.select (entries : List (ContextEntry Fp)) (entry : ContextEntry Fp) :
    CoreResult (List (ContextEntry Fp)) := do
  require (¬ (blank entry.reference ∨ blank entry.summary ∨
      entry.byteSize ≠ entry.summary.utf8ByteSize ∨
      entry.sourceChapterId.isSome ≠ entry.sourceHeadFingerprint.isSome))
    (.contextBoundary "context entry is not canonical")
  require (entry.reference ∉ entries.map (·.reference))
    (.contextBoundary "context reference was selected twice")
  return entries ++ [entry]

/-- The loop of `ContextManifest::freeze`: entries taken so far and their bytes. -/
def ContextManifest.freezeLoop (stage : ContextStage) (maxItems maxBytes : ℕ) :
    List (ContextEntry Fp) → List (ContextEntry Fp) → ℕ →
      CoreResult (List (ContextEntry Fp) × ℕ)
  | [], taken, total => return (taken, total)
  | entry :: rest, taken, total =>
    if stage ∉ entry.allowedStages then freezeLoop stage maxItems maxBytes rest taken total
    else if (stage = .blindReader ∨ stage = .independentReview) ∧
        (entry.containsPrivateState ∨ entry.containsCorpusIdentity) then
      throw (.contextBoundary "blind stage received private or treatment identity")
    else if stage = .writer ∧ entry.containsPrivateState then
      throw (.contextBoundary "Writer received private character state")
    else if taken.length = maxItems ∨ maxBytes < total + entry.byteSize then
      return (taken, total)
    else freezeLoop stage maxItems maxBytes rest (taken ++ [entry]) (total + entry.byteSize)

def ContextManifest.freeze [Sha256 Fp] (entries : List (ContextEntry Fp)) (stage : ContextStage)
    (maxItems maxBytes : ℕ) : CoreResult (ContextFreeze Fp) := do
  require (¬ (maxItems = 0 ∨ maxBytes = 0)) (.contextBoundary "context budget must be positive")
  let (taken, totalBytes) ← freezeLoop stage maxItems maxBytes entries [] 0
  return {
    schema := "quillframe_context_freeze_v1"
    stage
    entries := taken
    totalBytes
    fingerprint := Sha256.ofJson
      (arr [str stage.name, arr (taken.map ContextEntry.toJson), int totalBytes]) }

end Quillframe
