import Quillframe.Execution
import Quillframe.Tracking

/-! Writer Packs, candidate artifacts and production releases. -/
namespace Quillframe

open Json (str int fp obj arr ofOption)

variable {Fp : Type}

structure WriterContinuityEntry (Fp : Type) where
  record : ChapterTrackingRecord Fp
  canonHeadFingerprint : Fp
  deriving DecidableEq

def WriterContinuityEntry.toJson (e : WriterContinuityEntry Fp) : Json Fp :=
  obj [("record", e.record.toJson), ("canon_head_fingerprint", fp e.canonHeadFingerprint)]

structure WriterPack (Fp : Type) where
  schema : String
  chapterId : String
  planLock : Json Fp
  activePlanFingerprint : Fp
  bookSetupFingerprint : Fp
  contextFreezeFingerprint : Fp
  trackingFingerprint : Fp
  readerPressure : String
  scenes : List SceneWritingBrief
  continuityContext : List (WriterContinuityEntry Fp)
  corpusMechanisms : List (Json Fp)
  privateStateAbsent : Bool
  fingerprint : Fp
  deriving DecidableEq

namespace WriterPack

def toJsonWith (p : WriterPack Fp) (fingerprint : Json Fp) : Json Fp :=
  obj [("schema", str p.schema), ("chapter_id", str p.chapterId), ("plan_lock", p.planLock),
    ("active_plan_fingerprint", fp p.activePlanFingerprint),
    ("book_setup_fingerprint", fp p.bookSetupFingerprint),
    ("context_freeze_fingerprint", fp p.contextFreezeFingerprint),
    ("tracking_fingerprint", fp p.trackingFingerprint), ("reader_pressure", str p.readerPressure),
    ("scenes", arr (p.scenes.map SceneWritingBrief.toJson)),
    ("continuity_context", arr (p.continuityContext.map WriterContinuityEntry.toJson)),
    ("corpus_mechanisms", arr p.corpusMechanisms),
    ("private_state_absent", .bool p.privateStateAbsent), ("fingerprint", fingerprint)]

variable [Sha256 Fp] [DecidableEq Fp] [Documents Fp]

def computeFingerprint (p : WriterPack Fp) : Fp := Sha256.ofJson (p.toJsonWith (str ""))

/-- One pass over the continuity entries: chapters seen and bytes used. -/
def checkContinuity (chapterId : String) (acc : List String × ℕ)
    (entry : WriterContinuityEntry Fp) : CoreResult (List String × ℕ) := do
  entry.record.validate
  require (¬ (entry.record.chapterId = chapterId ∨ entry.record.chapterId ∈ acc.1))
    (.contextBoundary "Writer Pack continuity entries must be unique settled prior chapters")
  return (entry.record.chapterId :: acc.1, acc.2 + entry.toJson.encodedSize)

def checkScene (ordinal : ℕ) (scene : SceneWritingBrief) : CoreResult ℕ := do
  require (¬ (scene.ordinal ≠ ordinal ∨ blank scene.sceneId ∨
      ∃ text ∈ scene.texts, blank text.2))
    (.invalidPlan "Writer Pack scene briefs are incomplete or unordered")
  return ordinal + 1

def freeze (chapterId : String) (planLock : Json Fp)
    (bookSetupFingerprint contextFreezeFingerprint trackingFingerprint : Fp)
    (readerPressure : String) (continuityContext : List (WriterContinuityEntry Fp))
    (corpusMechanisms : List (Json Fp)) : CoreResult (WriterPack Fp) := do
  require (corpusMechanisms.length ≤ 4)
    (.contextBoundary "Writer Pack accepts zero to four source-free corpus packs")
  let _ ← forEach (fun _ pack => Documents.corpusProjectionValidate pack) corpusMechanisms ()
  require (continuityContext.length ≤ 12)
    (.contextBoundary "Writer Pack accepts at most twelve settled continuity entries")
  Documents.planLockValidate planLock
  let scenes ← Documents.planLockScenes planLock chapterId
  require (scenes ≠ []) (.invalidPlan "Writer Pack requires ordered scene briefs")
  let _ ← forEach checkScene scenes 1
  let layer ← fetch (Documents.planLockLastLayer planLock)
    (.invalidPlan "Writer Pack plan lock is empty")
  let value : WriterPack Fp :=
    { schema := "quillframe_writer_pack_v5", chapterId, planLock,
      activePlanFingerprint := layer.2, bookSetupFingerprint, contextFreezeFingerprint,
      trackingFingerprint, readerPressure, scenes, continuityContext, corpusMechanisms,
      privateStateAbsent := true, fingerprint := trackingFingerprint }
  require (¬ (blank value.chapterId ∨ blank value.readerPressure))
    (.invalidPlan "Writer Pack lacks chapter identity or Reader Pressure")
  let (_, bytes) ← forEach (checkContinuity chapterId) continuityContext ([], 0)
  require (bytes ≤ 12 * 1024) (.contextBoundary "Writer Pack continuity context exceeds 12 KiB")
  return { value with fingerprint := value.computeFingerprint }

def validate (p : WriterPack Fp) : CoreResult Unit := do
  Documents.planLockValidate p.planLock
  let layer ← fetch (Documents.planLockLastLayer p.planLock)
    (.contextBoundary "Writer Pack plan lock has no chapter layer")
  let plannedScenes ← Documents.planLockScenes p.planLock p.chapterId
  require (p.schema = "quillframe_writer_pack_v5" ∧ layer.1 = p.chapterId ∧
      layer.2 = p.activePlanFingerprint ∧ p.scenes = plannedScenes ∧
      p.privateStateAbsent = true ∧ p.fingerprint = p.computeFingerprint)
    (.contextBoundary "Writer Pack contains private state or changed after freeze")

end WriterPack

structure CandidateArtifact (Fp : Type) where
  schema : String
  candidateId : String
  chapterId : String
  writerPackFingerprint : Fp
  parentCandidateFingerprint : Option Fp
  revision : ℕ
  manuscript : String
  fingerprint : Fp
  deriving DecidableEq

namespace CandidateArtifact

variable [Sha256 Fp] [DecidableEq Fp]

def validate (c : CandidateArtifact Fp) : CoreResult Unit := do
  require (¬ (c.schema ≠ "quillframe_candidate_artifact_v1" ∨ blank c.candidateId ∨
      blank c.chapterId ∨ c.revision = 0 ∨ blank c.manuscript))
    (.authorityConflict "candidate artifact is incomplete")
  require (c.fingerprint = Sha256.ofText c.manuscript)
    (.authorityConflict "candidate fingerprint changed")

end CandidateArtifact

structure ProductionRelease (Fp : Type) where
  schema : String
  releaseId : String
  candidateId : String
  candidateFingerprint : Fp
  taskMode : ProductionTaskMode
  writerPackFingerprint : Fp
  trackingFingerprint : Fp
  reviewReportFingerprint : Fp
  stageReceiptFingerprints : OrderedMap String Fp
  releasedAt : String
  fingerprint : Fp
  deriving DecidableEq

namespace ProductionRelease

def requiredStages : List String :=
  ["context_query_plan", "context_greenlight", "context_freeze", "corpus_greenlight",
    "preference_greenlight", "reader_engagement", "character_simulation", "scene_resolution",
    "surface_realization", "continuity", "candidate_self_audit", "independent_semantic_gate",
    "settlement_tracking_projection", "settlement_tracking_audit", "user_visible_gate"]

def toJsonWith (r : ProductionRelease Fp) (fingerprint : Json Fp) : Json Fp :=
  obj [("schema", str r.schema), ("release_id", str r.releaseId),
    ("candidate_id", str r.candidateId), ("candidate_fingerprint", fp r.candidateFingerprint),
    ("task_mode", str (productionTaskMode r.taskMode)),
    ("writer_pack_fingerprint", fp r.writerPackFingerprint),
    ("tracking_fingerprint", fp r.trackingFingerprint),
    ("review_report_fingerprint", fp r.reviewReportFingerprint),
    ("stage_receipt_fingerprints",
      obj (r.stageReceiptFingerprints.entries.map fun entry => (entry.1, fp entry.2))),
    ("released_at", str r.releasedAt), ("fingerprint", fingerprint)]

def requireReceipt (r : ProductionRelease Fp) (release stage : String) : CoreResult Unit :=
  require (stage ∈ r.stageReceiptFingerprints)
    (.authorityConflict (release ++ " release lacks " ++ stage ++ " evidence"))

/-- Receipts of the realized scenes, in key order. -/
def sceneReceipts (r : ProductionRelease Fp) : List (String × Fp) :=
  r.stageReceiptFingerprints.entries.filter fun entry => startsWith "surface_scene_" entry.1

/-- The decimal digits of `n`, padded to four places. -/
def paddedOrdinal (n : ℕ) : String :=
  let digits := toString n
  String.ofList (List.replicate (4 - digits.length) '0') ++ digits

def checkScene (ordinal : ℕ) (receipt : String × Fp) : CoreResult ℕ := do
  require (startsWith ("surface_scene_" ++ paddedOrdinal ordinal ++ "_") receipt.1)
    (.authorityConflict "surface scene receipts are not a contiguous ordered sequence")
  return ordinal + 1

def validateFields (r : ProductionRelease Fp) : CoreResult Unit := do
  require (¬ (r.schema ∉ ["quillframe_production_release_v1", "quillframe_production_release_v2"] ∨
      blank r.releaseId ∨ blank r.candidateId ∨ blank r.releasedAt))
    (.authorityConflict "production release identity is incomplete")
  let _ ← forEach (fun _ stage => r.requireReceipt "production" stage) requiredStages ()
  if r.schema = "quillframe_production_release_v2" then
    r.requireReceipt "production" "surface_hard_rule_audit"
  require (r.sceneReceipts ≠ [])
    (.authorityConflict "production release lacks scene-level surface evidence")
  let _ ← forEach checkScene r.sceneReceipts 1
  if r.taskMode = .revise then
    let _ ← forEach (fun _ stage => r.requireReceipt "REVISE" stage)
      ["repair_editor", "repair_comparison", "repair_source"] ()

variable [Sha256 Fp] [DecidableEq Fp]

def computeFingerprint (r : ProductionRelease Fp) : Fp := Sha256.ofJson (r.toJsonWith (str ""))

def validate (r : ProductionRelease Fp) : CoreResult Unit := do
  r.validateFields
  require (r.fingerprint = r.computeFingerprint)
    (.authorityConflict "production release fingerprint changed")

end ProductionRelease

end Quillframe
