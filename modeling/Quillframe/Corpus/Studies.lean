import Quillframe.Commits
import Quillframe.Corpus.Courses
import Quillframe.Corpus.Evidence
import Quillframe.Corpus.Packs
import Quillframe.Corpus.ScanRuns
import Quillframe.Corpus.Units
import Quillframe.Model
import Quillframe.Prompt
import Quillframe.Table

/-!
# Corpus studies

The calls on the studies in the database of the corpus: a selection of works is proposed and
confirmed, the units of its stages are sent to a model one by one, and the answers lead the study
on. The database has one owner; a call commits once or several times.
-/
namespace Quillframe.Corpus

open Json (str int fp obj arr)
open Prompt (JsonMap PromptBlock)

variable {Fp : Type}

/-! ## Answers of the model -/

structure CorpusMechanismDraft where
  mechanismId : String
  readerNeed : String
  emotionChain : List String
  dramaticFunction : String
  replaceableSlots : List String
  forbiddenCopyElements : List String
  rhythmRefs : List String

inductive CorpusStageAnalysis where
  | goldenThree (chapterFunctions : List String) (openingPromise : String)
  | chapterExtraction (chapterSummaries causalBeats emotionalProgression : List String)
    (coverageState : String) (nextUnitKeys : List String) (stopReason : Option String)
  | aggregateMechanisms (convergences disagreements coverageGaps : List String)
  | storyEntities (characterFunctions relationshipPressures escalationPaths : List String)
  | report (structureFindings characterEngine payoffAndReversal : List String)
  | styleProfile (voicePrinciples rhythmProtocol antiCopyBoundaries : List String)

structure CorpusStageOutput where
  genre : String
  mechanisms : List CorpusMechanismDraft
  rhythmSummary : String
  styleGuidance : List String
  evidenceSummary : String
  analysis : CorpusStageAnalysis

def CorpusMechanismDraft.incomplete (m : CorpusMechanismDraft) : Bool :=
  blank m.mechanismId || blank m.readerNeed || blank m.dramaticFunction ||
    decide (m.emotionChain.length < 3) || decide (m.replaceableSlots.length < 3) ||
    m.forbiddenCopyElements.isEmpty

/-- The analysis is one of the stage and says something. -/
def CorpusStageAnalysis.fits : AnalyzeStage → CorpusStageAnalysis → Bool
  | .goldenThree, .goldenThree chapterFunctions openingPromise =>
    !chapterFunctions.isEmpty && !blank openingPromise
  | .chapterExtraction, .chapterExtraction chapterSummaries causalBeats emotionalProgression
      coverageState nextUnitKeys stopReason =>
    !chapterSummaries.isEmpty && !causalBeats.isEmpty && !emotionalProgression.isEmpty &&
      (coverageState == "expanding" || coverageState == "saturated") &&
      decide (nextUnitKeys.length ≤ 8) &&
      ((coverageState == "expanding" && !nextUnitKeys.isEmpty && stopReason.isNone) ||
        (coverageState == "saturated" && nextUnitKeys.isEmpty &&
          stopReason.any fun reason => !blank reason))
  | .aggregateMechanisms, .aggregateMechanisms convergences _ _ => !convergences.isEmpty
  | .storyEntities, .storyEntities characterFunctions relationshipPressures escalationPaths =>
    !characterFunctions.isEmpty && !relationshipPressures.isEmpty && !escalationPaths.isEmpty
  | .report, .report structureFindings characterEngine payoffAndReversal =>
    !structureFindings.isEmpty && !characterEngine.isEmpty && !payoffAndReversal.isEmpty
  | .styleProfile, .styleProfile voicePrinciples rhythmProtocol antiCopyBoundaries =>
    !voicePrinciples.isEmpty && !rhythmProtocol.isEmpty && !antiCopyBoundaries.isEmpty
  | _, _ => false

def CorpusStageOutput.validateFor (output : CorpusStageOutput) (stage : AnalyzeStage) :
    CoreResult Unit := do
  require (¬ (blank output.genre ∨ output.mechanisms.isEmpty ∨ blank output.rhythmSummary ∨
      output.styleGuidance.isEmpty ∨ blank output.evidenceSummary ∨
      output.mechanisms.any CorpusMechanismDraft.incomplete))
    (.invalidProject "corpus semantic artifact is incomplete")
  require (output.analysis.fits stage)
    (.invalidProject "corpus artifact does not match its typed analyze stage")

/-! ## The tables -/

structure SelectionProposal (Fp : Type) where
  studyId : String
  collectionId : String
  profile : String
  proposalFingerprint : Fp
  selection : List CorpusWorkProjection
  status : StudyStatus
  createdAt : String
  updatedAt : String

structure Study (Fp : Type) where
  studyId : String
  currentStage : AnalyzeStage
  checkpointFingerprint : Fp
  progress : JsonMap Fp
  cancelRequested : Bool
  createdAt : String
  updatedAt : String

structure StageJob (Fp : Type) where
  stage : AnalyzeStage
  unitKey : String
  model : String
  inputFingerprint : Fp
  evidence : List (EvidenceAnchor Fp)

structure StageCall (Fp : Type) where
  callId : String
  studyId : String
  stageKey : AnalyzeStage
  unitKey : String
  requestId : String
  inputFingerprint : Fp
  job : StageJob Fp
  state : StageCallState
  result : Option (ModelResult Fp)
  resultFingerprint : Option Fp
  errorCode : Option String
  createdAt : String
  updatedAt : String

structure StageArtifact (Fp : Type) where
  artifactId : String
  studyId : String
  stageKey : AnalyzeStage
  unitKey : String
  payload : String
  artifactFingerprint : Fp
  evidenceBundleFingerprint : Fp
  createdAt : String

structure ContinueAuthorization (Fp : Type) where
  authorizationId : String
  studyId : String
  expectedCheckpointFingerprint : Fp
  authorizationFingerprint : Fp
  createdAt : String

structure PackCandidate (Fp : Type) where
  studyId : String
  pack : SourceFreeCorpusPack Fp
  evidenceBundleFingerprint : Fp
  createdAt : String

structure StudyTables (Fp : Type) where
  scans : ScanTables Fp
  proposals : List (SelectionProposal Fp)
  studies : List (Study Fp)
  calls : List (StageCall Fp)
  artifacts : List (StageArtifact Fp)
  authorizations : List (ContinueAuthorization Fp)
  packs : List (PackCandidate Fp)

/-- The JSON library: how it writes a value, and how it reads the answer of a model. -/
structure StudyJson (Fp : Type) where
  write : Json Fp → String
  readOutput : String → Except String CorpusStageOutput
  readValue : String → Except String (Json Fp)

def defaultProposalLimit : ℕ := 24

def maxModelInputBytes : ℕ := 512 * 1024

namespace StudyTables

def empty : StudyTables Fp := ⟨.empty, [], [], [], [], [], []⟩

def proposal? (tables : StudyTables Fp) (studyId : String) : Option (SelectionProposal Fp) :=
  Table.lookup (·.studyId) studyId tables.proposals

def study? (tables : StudyTables Fp) (studyId : String) : Option (Study Fp) :=
  Table.lookup (·.studyId) studyId tables.studies

/-- The call of a unit. -/
def call? (tables : StudyTables Fp) (studyId : String) (stage : AnalyzeStage) (unit : String) :
    Option (StageCall Fp) :=
  tables.calls.find? fun call =>
    call.studyId = studyId ∧ call.stageKey = stage ∧ call.unitKey = unit

def updateProposal (tables : StudyTables Fp) (studyId : String)
    (f : SelectionProposal Fp → SelectionProposal Fp) : StudyTables Fp :=
  { tables with
    proposals := Table.updateWhere (fun row => row.studyId = studyId) f tables.proposals }

def updateStudy (tables : StudyTables Fp) (studyId : String) (f : Study Fp → Study Fp) :
    StudyTables Fp :=
  { tables with studies := Table.updateWhere (fun row => row.studyId = studyId) f tables.studies }

/-- `UPDATE corpus_studies SET current_stage, checkpoint_fingerprint, updated_at`. -/
def moveTo (tables : StudyTables Fp) (studyId : String) (stage : AnalyzeStage)
    (checkpoint : Fp) (updatedAt : String) : StudyTables Fp :=
  tables.updateStudy studyId fun row =>
    { row with currentStage := stage, checkpointFingerprint := checkpoint, updatedAt }

def setStatus (tables : StudyTables Fp) (studyId : String) (status : StudyStatus)
    (updatedAt : String) : StudyTables Fp :=
  tables.updateProposal studyId fun row => { row with status, updatedAt }

/-- The study that a new row refers to. -/
def requireStudy (tables : StudyTables Fp) (studyId : String) : CoreResult Unit :=
  require (tables.study? studyId).isSome foreignKeyFailed

end StudyTables

/-! ## Selections -/

structure CorpusSelectionProjection (Fp : Type) where
  collectionId : String
  studyId : String
  profile : String
  status : StudyStatus
  proposalFingerprint : Fp
  availablePoolCount : ℕ
  items : List CorpusWorkProjection

section Selection

/-- The works of a collection that may be selected. -/
def ScanTables.eligible (scans : ScanTables Fp) (collectionId : String) : List (VersionRow Fp) :=
  scans.versions.filter fun row => row.collectionId = collectionId ∧ row.state = "eligible"

def poolItem (row : VersionRow Fp) : PoolItem :=
  ({ workId := row.publicWorkId, displayLabel := row.displayTitle, rightsClass := row.rightsClass,
     selected := true }, row.byteSize, row.boundaries.length)

def ScanTables.pool (scans : ScanTables Fp) (collectionId : String) : List PoolItem :=
  ((scans.eligible collectionId).insertionSort fun a b => a.publicWorkId ≤ b.publicWorkId).map
    poolItem

variable [Sha256 Fp] (hex : Fp → String)

def proposalFingerprint (collectionId profile : String) (items : List CorpusWorkProjection) : Fp :=
  Sha256.ofJson (obj [("collection_id", str collectionId), ("profile", str profile),
    ("work_ids", .strings (items.map (·.workId)))])

def studyIdOf (fingerprint : Fp) : String := "study_" ++ hex fingerprint

/-- `limit.unwrap_or(24).clamp(1, 24).min(available)`. -/
def proposalSize (limit : Option ℕ) (available : ℕ) : ℕ :=
  min (max 1 (min (limit.getD defaultProposalLimit) defaultProposalLimit)) available

def StudyTables.proposeItems (tables : StudyTables Fp) (collectionId profile : String)
    (limit : Option ℕ) : Outcome (CorpusSelectionProjection Fp) := do
  raise (require (profile = "general" ∨ profile = "adult_explicit")
    (.invalidProject "unknown Corpus profile"))
  raise (require (¬ blank collectionId) (.invalidProject "Corpus collection_id is required"))
  raise (require (∃ row ∈ tables.scans.collections, row.collectionId = collectionId) noRows)
  let available := (tables.scans.eligible collectionId).length
  let items ← fetch (coverageStratifiedSelection (tables.scans.pool collectionId)
    (proposalSize limit available)) .panicked
  let fingerprint := proposalFingerprint collectionId profile items
  return {
    collectionId, studyId := studyIdOf hex fingerprint, profile, status := .proposed
    proposalFingerprint := fingerprint, availablePoolCount := available, items }

variable [DecidableEq Fp]

/-- `INSERT .. ON CONFLICT(study_id) DO NOTHING`. -/
def StudyTables.insertProposal (tables : StudyTables Fp) (row : SelectionProposal Fp) :
    CoreResult (StudyTables Fp) :=
  if (tables.proposal? row.studyId).isSome then .ok tables
  else do
    require (∀ other ∈ tables.proposals, other.proposalFingerprint ≠ row.proposalFingerprint)
      (uniqueFailed "corpus_selection_proposals.proposal_fingerprint")
    return { tables with proposals := tables.proposals ++ [row] }

def proposeSelection (collectionId profile : String) (limit : Option ℕ) (createdAt : String) :
    Commits Abort (StudyTables Fp) (CorpusSelectionProjection Fp) := do
  let projection ← .read fun tables => tables.proposeItems hex collectionId profile limit
  .commit fun tables => raise (tables.insertProposal
    { studyId := projection.studyId, collectionId, profile
      proposalFingerprint := projection.proposalFingerprint, selection := projection.items
      status := .proposed, createdAt, updatedAt := createdAt })
  return projection

/-- The rows that a confirmation writes. -/
structure ConfirmedSelection (Fp : Type) where
  collectionId : String
  confirmed : List CorpusWorkProjection
  checkpoint : Fp
  progress : JsonMap Fp

def StudyTables.checkSelection (tables : StudyTables Fp) (studyId : String)
    (workIds : List String) (fingerprint : Fp) (profile : String) :
    CoreResult (ConfirmedSelection Fp) := do
  require (¬ (workIds = [] ∨ defaultProposalLimit < workIds.length ∨ ¬ workIds.Nodup))
    (.invalidProject "Corpus selection must be a non-empty minimal cohort")
  let stored ← fetch (tables.proposal? studyId) noRows
  require (¬ (stored.profile ≠ profile ∨ stored.proposalFingerprint ≠ fingerprint ∨
      ¬ (stored.status = .proposed ∨ stored.status = .confirmed)))
    (.authorityConflict "Corpus proposal changed before confirmation")
  require (¬ ∃ id ∈ workIds, ¬ ∃ item ∈ stored.selection, item.workId = id)
    (.authorityConflict "Corpus confirmation contains a work outside the proposal")
  return {
    collectionId := stored.collectionId
    confirmed := stored.selection.filter fun item => item.workId ∈ workIds
    checkpoint := Sha256.ofJson (obj [("proposal_fingerprint", fp fingerprint),
      ("stage", str "boundary_index"), ("study_id", str studyId),
      ("work_ids", .strings workIds)])
    progress := OrderedMap.ofList [("completed_stages", .strings ["boundary_index"]),
      ("selected_work_ids", .strings workIds)] }

/-- `INSERT .. ON CONFLICT(study_id) DO NOTHING`. -/
def StudyTables.insertStudy (tables : StudyTables Fp) (row : Study Fp) : StudyTables Fp :=
  if (tables.study? row.studyId).isSome then tables
  else { tables with studies := tables.studies ++ [row] }

/-- `UPDATE .. SET current_stage='golden_three' .. AND current_stage='boundary_index'`. -/
def Study.indexed (updatedAt : String) (row : Study Fp) : Study Fp :=
  if row.currentStage = .boundaryIndex then { row with currentStage := .goldenThree, updatedAt }
  else row

/-- The transaction of a confirmation. -/
def StudyTables.storeSelection (tables : StudyTables Fp) (studyId : String)
    (selection : ConfirmedSelection Fp) (createdAt : String) : StudyTables Fp :=
  ((tables.updateProposal studyId fun row =>
      { row with
        selection := selection.confirmed, status := .confirmed
        updatedAt := createdAt }).insertStudy
    { studyId, currentStage := .boundaryIndex, checkpointFingerprint := selection.checkpoint
      progress := selection.progress, cancelRequested := false, createdAt
      updatedAt := createdAt }).updateStudy studyId (Study.indexed createdAt)

def confirmSelection (studyId : String) (workIds : List String) (fingerprint : Fp)
    (profile createdAt : String) :
    Commits Abort (StudyTables Fp) (CorpusSelectionProjection Fp) := do
  let selection ← .read fun tables =>
    raise (tables.checkSelection studyId workIds fingerprint profile)
  .commit fun tables => .ok (tables.storeSelection studyId selection createdAt)
  let available ← .read fun tables =>
    .ok (tables.scans.eligible selection.collectionId).length
  return {
    collectionId := selection.collectionId, studyId, profile, status := .confirmed
    proposalFingerprint := fingerprint, availablePoolCount := available
    items := selection.confirmed }

end Selection

/-! ## Units and inputs of a stage -/

section Stages

/-- The status of a selection that the stages run over. -/
def StudyStatus.selected (status : StudyStatus) : Prop :=
  status = .confirmed ∨ status = .running ∨ status = .pausedGoldenThree ∨ status = .complete

instance : DecidablePred StudyStatus.selected := fun status =>
  inferInstanceAs (Decidable (status = .confirmed ∨ _))

def StudyTables.confirmedSelection (tables : StudyTables Fp) (studyId : String) :
    CoreResult (String × List CorpusWorkProjection) := do
  let row ← fetch (tables.proposal? studyId) noRows
  require row.status.selected (.authorityConflict "Corpus selection has not been confirmed")
  return (row.collectionId, row.selection)

/-- What the chapters of a stored row are read from. -/
def VersionRow.version (row : VersionRow Fp) : WorkVersion Fp :=
  ⟨row.relativeRef, row.sourceFingerprint, row.boundaries⟩

/-- The stage has a call of the unit. -/
def StudyTables.called (tables : StudyTables Fp) (studyId : String) (stage : AnalyzeStage)
    (unit : String) : Bool :=
  (tables.call? studyId stage unit).isSome

/-- What the stages of a study read, with the files of its collection. -/
def StudyTables.view (tables : StudyTables Fp) (files : String → CoreResult ByteArray)
    (studyId : String) : CorpusView Fp where
  confirmedSelection := (tables.confirmedSelection studyId).map Prod.snd
  version := fun workId => (fetch
    (tables.scans.versions.find? fun row => row.publicWorkId = workId) noRows).map
      VersionRow.version
  file := files
  called := tables.called studyId .chapterExtraction

def corpusSystem : AnalyzeStage → String
  | .goldenThree =>
    "You are the Golden Three analyst for Chinese web fiction. Diagnose hook, character " ++
    "promise, reader reward, causal scene turns and chapter pull. Return strict JSON only; " ++
    "never copy sentences or expose titles."
  | .chapterExtraction =>
    "You are a Chinese web-novel mechanism analyst. Extract reusable dramatic mechanisms, " ++
    "emotion chains, pacing and reader needs from the supplied chapter chunk. Return strict " ++
    "JSON only; never imitate or quote source prose."
  | .aggregateMechanisms =>
    "Aggregate semantic findings into deduplicated, replaceable web-novel mechanisms. Preserve " ++
    "disagreements and uncertainty. Return strict JSON only."
  | .storyEntities =>
    "Analyze character functions, relationship pressure and long-form escalation from prior " ++
    "semantic artifacts. Return strict JSON only without source identities."
  | .report =>
    "Synthesize a story-skill analyze report across Golden Three, structure, character engine, " ++
    "payoff cadence, reversals, emotional progression and prose execution. Return strict JSON " ++
    "only."
  | .styleProfile =>
    "Build a source-free Writer Corpus pack for original Chinese web fiction. Keep only reader " ++
    "needs, dramatic functions, replaceable slots, forbidden copying boundaries, rhythm " ++
    "references and style guidance. Return strict JSON only."
  | .boundaryIndex => "Boundary indexing is deterministic and must not call a model."

def corpusStageAnalysisContract : AnalyzeStage → Json Fp
  | .goldenThree => obj [("chapter_functions", .strings ["one entry per supplied opening chapter"]),
      ("kind", str "golden_three"), ("opening_promise", str "string")]
  | .chapterExtraction => obj [
      ("causal_beats", .strings ["trigger-choice-consequence"]),
      ("chapter_summaries", .strings ["source-free summary"]),
      ("coverage_state", str "expanding|saturated"),
      ("emotional_progression", .strings ["state transition"]), ("kind", str "chapter_extraction"),
      ("next_unit_keys", .strings [
        "zero to eight exact keys from remaining_unit_keys; required when expanding"]),
      ("stop_reason", str "required non-empty string only when saturated")]
  | .aggregateMechanisms => obj [("convergences", .strings ["cross-work finding"]),
      ("coverage_gaps", .strings ["evidence still needed"]),
      ("disagreements", .strings ["conflicting evidence"]), ("kind", str "aggregate_mechanisms")]
  | .storyEntities => obj [("character_functions", .strings ["function without names"]),
      ("escalation_paths", .strings ["long-form escalation"]), ("kind", str "story_entities"),
      ("relationship_pressures", .strings ["relationship evolution"])]
  | .report => obj [("character_engine", .strings ["finding"]), ("kind", str "report"),
      ("payoff_and_reversal", .strings ["finding"]), ("structure_findings", .strings ["finding"])]
  | .styleProfile => obj [("anti_copy_boundaries", .strings ["specific non-copy boundary"]),
      ("kind", str "style_profile"), ("rhythm_protocol", .strings ["beat-driven rhythm"]),
      ("voice_principles", .strings ["positive original prose rule"])]
  | .boundaryIndex => obj [("kind", str "deterministic_boundary_index")]

def corpusContract (stage : AnalyzeStage) : Json Fp :=
  obj [("prohibitions", .strings ["no source title", "no character or place names",
      "no verbatim sentence", "no imitation request"]),
    ("return", str "JSON only"),
    ("shape", obj [("analysis", corpusStageAnalysisContract stage),
      ("evidence_summary", str "reasoned summary without quotations"), ("genre", str "string"),
      ("mechanisms", arr [obj [("dramatic_function", str "string"),
        ("emotion_chain", .strings ["at least three states"]),
        ("forbidden_copy_elements", .strings ["source-specific elements never to copy"]),
        ("mechanism_id", str "string"), ("reader_need", str "string"),
        ("replaceable_slots", .strings ["at least three slots"]),
        ("rhythm_refs", .strings ["abstract rhythm label"])]]),
      ("rhythm_summary", str "string"), ("style_guidance", .strings ["original prose guidance"])]),
    ("stage", str stage.name)]

/-- The rows of a study that are joined: an artifact and the call of its unit. -/
def StudyTables.answered (tables : StudyTables Fp) (studyId : String) :
    List (StageArtifact Fp × StageCall Fp) :=
  (tables.artifacts.filter fun artifact => artifact.studyId = studyId).flatMap fun artifact =>
    (tables.calls.filter fun call => call.studyId = studyId ∧ call.stageKey = artifact.stageKey ∧
      call.unitKey = artifact.unitKey).map fun call => (artifact, call)

/-- `ORDER BY a.stage_key, a.unit_key`. -/
def StageArtifact.position (artifact : StageArtifact Fp) : String ×ₗ String :=
  toLex (artifact.stageKey.name, artifact.unitKey)

variable [Sha256 Fp] [DecidableEq Fp] (json : StudyJson Fp) (sha256 : ByteArray → Fp)

/-- A result of the JSON library, its error as the storage's. -/
def storageError {α : Type} (x : Except String α) : CoreResult α := x.mapError .storage

/-- The branch of `stage_input` for the stages that read chapters. -/
def StudyTables.chapterInput (tables : StudyTables Fp) (files : String → CoreResult ByteArray)
    (studyId : String) (stage : AnalyzeStage) (unit : String) : Outcome (UnitInput Fp) := do
  let (collection, items) ← raise (tables.confirmedSelection studyId)
  let workId := unitWork unit
  raise (require (∃ item ∈ items, item.workId = workId)
    (.authorityConflict "Corpus stage unit is outside the confirmed selection"))
  let row ← raise (fetch (tables.scans.versions.find? fun row =>
    row.collectionId = collection ∧ row.publicWorkId = workId) noRows)
  let raw ← raise (files row.relativeRef)
  let bytes := stripMark raw
  raise (require (sha256 bytes = row.sourceFingerprint)
    (.authorityConflict "Corpus source changed after scan"))
  let range ← if stage = .goldenThree then pure (0, min row.boundaries.length 3)
    else raise (parseUnit unit)
  let (chapters, evidence) ← readChapters sha256 workId bytes row.boundaries range
  let remainingUnitKeys ←
    if stage = .chapterExtraction then do
      let units ← (tables.view files studyId).stageUnits stage
      pure (((units.filter (· ≠ unit)).filter fun candidate =>
        ¬ tables.called studyId .chapterExtraction candidate).take 64)
    else pure []
  return { anonymousWorkId := workId, chapters, remainingUnitKeys, evidence }

/-- The branch of `stage_input` for the later stages. -/
def StudyTables.artifactInput (tables : StudyTables Fp) (studyId : String) :
    CoreResult (List (Json Fp) × List (EvidenceAnchor Fp)) := do
  let _ ← tables.confirmedSelection studyId
  let joined := (tables.answered studyId).insertionSort fun a b => a.1.position ≤ b.1.position
  let rows ← joined.mapM fun row => do
    let payload ← storageError (json.readValue row.1.payload)
    return ⟨payload, row.2.job.evidence⟩
  return laterStageInput rows

def StudyTables.stageInput (tables : StudyTables Fp) (files : String → CoreResult ByteArray)
    (studyId : String) (stage : AnalyzeStage) (unit : String) :
    Outcome (Json Fp × List (EvidenceAnchor Fp)) := do
  if stage = .goldenThree ∨ stage = .chapterExtraction then
    let input ← tables.chapterInput sha256 files studyId stage unit
    return (obj [("anonymous_work_id", str input.anonymousWorkId),
      ("chapters", str input.chapters), ("contract", corpusContract stage),
      ("remaining_unit_keys", .strings input.remainingUnitKeys), ("stage", str stage.name),
      ("study_id", str studyId)], input.evidence)
  else
    let (artifacts, evidence) ← raise (tables.artifactInput json studyId)
    return (obj [("contract", corpusContract stage), ("prior_semantic_artifacts", arr artifacts),
      ("stage", str stage.name), ("study_id", str studyId)], evidence)

end Stages

/-! ## Advancing -/

section Advance

variable [Sha256 Fp] [DecidableEq Fp] (json : StudyJson Fp)

def checkpointFor (studyId stage : String) (binding : Json Fp) : Fp :=
  Sha256.ofJson (obj [("binding", binding), ("stage", str stage), ("study_id", str studyId)])

/-- The rows that the completion of a study writes. -/
def StudyTables.buildPack (tables : StudyTables Fp) (studyId createdAt : String) :
    CoreResult (PackCandidate Fp) := do
  let rows := (tables.answered studyId).filter fun row => row.1.stageKey = .styleProfile
  let outputs ← rows.mapM fun row => storageError (json.readOutput row.1.payload)
  let evidence := rows.flatMap fun row => row.2.job.evidence
  let output ← fetch outputs.head? (.authorityConflict "style profile artifact is missing")
  let mechanisms := output.mechanisms.map fun item =>
    { mechanismId := item.mechanismId, readerNeed := item.readerNeed
      emotionChain := item.emotionChain, dramaticFunction := item.dramaticFunction
      replaceableSlots := item.replaceableSlots
      forbiddenCopyElements := item.forbiddenCopyElements, rhythmRefs := item.rhythmRefs
      evidence }
  let pack ← SourceFreeCorpusPack.build output.genre mechanisms output.rhythmSummary
    output.styleGuidance
  let (_, items) ← tables.confirmedSelection studyId
  require (¬ ∃ item ∈ items, 2 < item.displayLabel.length ∧
      containsText (json.write pack.toJson) item.displayLabel)
    (.contextBoundary "source-free Corpus pack leaked a source title")
  return {
    studyId, pack
    evidenceBundleFingerprint := Sha256.ofJson (arr (evidence.map EvidenceAnchor.toJson))
    createdAt }

def StudyTables.insertPack (tables : StudyTables Fp) (row : PackCandidate Fp) :
    CoreResult (StudyTables Fp) := do
  tables.requireStudy row.studyId
  require (∀ other ∈ tables.packs, other.pack.fingerprint ≠ row.pack.fingerprint)
    (uniqueFailed "corpus_pack_candidates.pack_fingerprint")
  require (∀ other ∈ tables.packs, other.studyId ≠ row.studyId)
    (uniqueFailed "corpus_pack_candidates.study_id")
  return { tables with packs := tables.packs ++ [row] }

def finishPack (studyId createdAt : String) : Commits Abort (StudyTables Fp) Unit := do
  let row ← .read fun tables => raise (tables.buildPack json studyId createdAt)
  .commit fun tables => raise do
    let tables ← tables.insertPack row
    return tables.setStatus studyId .complete createdAt

def advanceStage (studyId : String) (stage : AnalyzeStage) (updatedAt : String) :
    Commits Abort (StudyTables Fp) Unit :=
  if stage = .goldenThree then
    .commit fun tables => .ok <|
      (tables.updateStudy studyId fun row =>
        { row with
          checkpointFingerprint := checkpointFor studyId "golden_three_paused" (str updatedAt)
          updatedAt }).setStatus studyId .pausedGoldenThree updatedAt
  else
    match stage.next with
    | some next => do
      .commit fun tables => .ok <|
        tables.moveTo studyId next (checkpointFor studyId next.name (str updatedAt)) updatedAt
      .commit fun tables => .ok (tables.setStatus studyId .running updatedAt)
    | none => finishPack json studyId updatedAt

end Advance

/-! ## Dispatching -/

structure StageDispatch (Fp : Type) where
  studyId : String
  stage : AnalyzeStage
  unitKey : String
  callId : String
  request : ModelRequest
  checkpointFingerprint : Fp

/-- What a dispatch goes on to do. -/
inductive DispatchPlan (Fp : Type) where
  | nothing
  | advance (stage : AnalyzeStage)
  | send (call : StageCall Fp) (dispatch : StageDispatch Fp)

/-- The loop over the units: the first without a call. -/
def pendingUnit (state : String → Option StageCallState) : List String → CoreResult (Option String)
  | [] => .ok none
  | unit :: rest =>
    match state unit with
    | some .confirmed => pendingUnit state rest
    | some .dispatched | some .unconfirmed => .error (.modelRuntime
        "unconfirmed_model_outcome: Corpus stage will not be sent twice")
    | some _ => .error (.authorityConflict "Corpus stage call is not executable")
    | none => .ok (some unit)

/-- `progress.get("chapter_extraction_queue")`, its texts. -/
def extractionQueue (progress : JsonMap Fp) : List String :=
  (((progress.get? "chapter_extraction_queue").bind Json.asItems).map
    (·.filterMap Json.asStr)).getD []

section Dispatch

variable [Sha256 Fp] [DecidableEq Fp] (hex : Fp → String) (json : StudyJson Fp)
  (sha256 : ByteArray → Fp)

def systemText (assembly : Prompt.PromptAssembly Fp) : String :=
  "\n\n".intercalate ((assembly.blocks.filter fun block => block.channel = "system").filterMap
    fun block => block.content.asStr)

def userText (assembly : Prompt.PromptAssembly Fp) : String :=
  json.write (obj [
    ("blocks", arr ((assembly.blocks.filter fun block => block.channel = "user").map
      PromptBlock.toJson)),
    ("prompt_assembly_fingerprint", fp assembly.fingerprint), ("schema", str assembly.schema),
    ("stage_key", str assembly.stageKey)])

/-- The proposal and the study that are joined. -/
def StudyTables.joined (tables : StudyTables Fp) (studyId : String) :
    CoreResult (SelectionProposal Fp × Study Fp) := do
  let study ← fetch (tables.study? studyId) noRows
  let proposal ← fetch (tables.proposal? studyId) noRows
  return (proposal, study)

def StudyTables.requestedUnits (tables : StudyTables Fp) (files : String → CoreResult ByteArray)
    (study : Study Fp) : Outcome (List String) := do
  let stage := study.currentStage
  let all ← (tables.view files study.studyId).stageUnits stage
  if stage = .chapterExtraction then
    let priorCalls := tables.calls.countP fun call =>
      call.studyId = study.studyId ∧ call.stageKey = .chapterExtraction
    if priorCalls = 0 then return all.head?.toList else return extractionQueue study.progress
  else return all

/-- The call of a unit with its request. -/
def StudyTables.prepareCall (tables : StudyTables Fp) (files : String → CoreResult ByteArray)
    (study : Study Fp) (unitKey model callUuid createdAt : String) :
    Outcome (StageCall Fp × StageDispatch Fp) := do
  let stage := study.currentStage
  let (input, evidence) ← tables.stageInput json sha256 files study.studyId stage unitKey
  raise (require (input.encodedSize ≤ maxModelInputBytes) (.contextBoundary
    "Corpus stage input exceeds 512 KiB; chapter chunking or cohort size must be reduced"))
  let assembly ← raise
    (Prompt.PromptAssembly.build ("corpus_" ++ stage.name) (corpusSystem stage) input)
  let inputFingerprint := assembly.fingerprint
  let requestId := "corpus-" ++ stage.name ++ "-" ++ String.ofList ((hex (Sha256.ofPieces
    [.inl (study.studyId ++ ":" ++ unitKey ++ ":"), .inr inputFingerprint])).toList.take 16)
  let callId := "call_" ++ callUuid
  return (
    { callId, studyId := study.studyId, stageKey := stage, unitKey, requestId, inputFingerprint
      job := { stage, unitKey, model, inputFingerprint, evidence }
      state := .dispatched, result := none, resultFingerprint := none, errorCode := none
      createdAt, updatedAt := createdAt },
    { studyId := study.studyId, stage, unitKey, callId
      request := {
        requestId, model, system := systemText assembly
        user := userText json assembly
        temperature := some (if stage = .styleProfile then ⟨false, 25, -2⟩ else ⟨false, 15, -2⟩)
        maxOutputTokens := some 6000, absoluteDeadlineMs := 120000 }
      checkpointFingerprint := study.checkpointFingerprint })

def StudyTables.planDispatch (tables : StudyTables Fp) (files : String → CoreResult ByteArray)
    (studyId model callUuid createdAt : String) : Outcome (DispatchPlan Fp) := do
  raise (require (¬ blank model) (.invalidProject "Corpus analysis requires a model"))
  let (proposal, study) ← raise (tables.joined studyId)
  raise (require (proposal.status ≠ .pausedGoldenThree) (.authorityConflict
    "Golden Three preview is paused; explicit continuation is required"))
  if proposal.status = .complete ∨ proposal.status = .cancelled then return .nothing
  else
    let stage := study.currentStage
    let units ← tables.requestedUnits files study
    let pending ← raise (pendingUnit
      (fun unit => (tables.call? studyId stage unit).map (·.state)) units)
    match pending with
    | none => return if stage = .chapterExtraction then .nothing else .advance stage
    | some unitKey =>
      let (call, dispatch) ←
        tables.prepareCall hex json sha256 files study unitKey model callUuid createdAt
      return .send call dispatch

def StudyTables.insertCall (tables : StudyTables Fp) (row : StageCall Fp) :
    CoreResult (StudyTables Fp) := do
  tables.requireStudy row.studyId
  require (∀ other ∈ tables.calls, other.callId ≠ row.callId)
    (uniqueFailed "corpus_stage_calls.call_id")
  require (∀ other ∈ tables.calls, other.requestId ≠ row.requestId)
    (uniqueFailed "corpus_stage_calls.request_id")
  require (∀ other ∈ tables.calls, ¬ (other.studyId = row.studyId ∧
      other.stageKey = row.stageKey ∧ other.unitKey = row.unitKey))
    (uniqueFailed ("corpus_stage_calls.study_id, corpus_stage_calls.stage_key, " ++
      "corpus_stage_calls.unit_key"))
  return { tables with calls := tables.calls ++ [row] }

def dispatchNextStage (files : String → CoreResult ByteArray)
    (studyId model callUuid createdAt : String) :
    Commits Abort (StudyTables Fp) (Option (StageDispatch Fp)) := do
  let plan ← .read fun tables =>
    tables.planDispatch hex json sha256 files studyId model callUuid createdAt
  match plan with
  | .nothing => return none
  | .advance stage =>
    advanceStage json studyId stage createdAt
    return none
  | .send call dispatch =>
    .commit fun tables => raise (tables.insertCall call)
    return some dispatch

end Dispatch

/-! ## Confirming -/

structure ExtractionControl where
  coverageState : String
  nextUnitKeys : List String
  stopReason : Option String

def CorpusStageAnalysis.control? : CorpusStageAnalysis → Option ExtractionControl
  | .chapterExtraction _ _ _ coverageState nextUnitKeys stopReason =>
    some ⟨coverageState, nextUnitKeys, stopReason⟩
  | _ => none

/-- What an answer goes on to write. -/
structure Confirmation (Fp : Type) where
  call : StageCall Fp
  control : Option ExtractionControl
  artifact : StageArtifact Fp

section Confirm

variable [Sha256 Fp] [DecidableEq Fp] (hex : Fp → String) (json : StudyJson Fp)

/-- The check of the units that an answer of the extraction asks for. -/
def StudyTables.checkControl (tables : StudyTables Fp) (files : String → CoreResult ByteArray)
    (studyId unitKey : String) (stage : AnalyzeStage) (control : ExtractionControl) :
    Outcome Unit := do
  let known ← (tables.view files studyId).stageUnits stage
  raise (require (¬ (¬ control.nextUnitKeys.Nodup ∨ ∃ next ∈ control.nextUnitKeys,
      next = unitKey ∨ next ∉ known ∨ ∃ call ∈ tables.calls, call.studyId = studyId ∧
        call.stageKey = .chapterExtraction ∧ call.state = .confirmed ∧ call.unitKey = next))
    (.authorityConflict
      "Corpus evidence request selected duplicate, unknown or completed units"))

def StudyTables.planConfirmation (tables : StudyTables Fp)
    (files : String → CoreResult ByteArray) (studyId callId : String) (result : ModelResult Fp)
    (updatedAt : String) : Outcome (Confirmation Fp) := do
  raise result.validate
  let call ← raise (fetch
    (tables.calls.find? fun call => call.callId = callId ∧ call.studyId = studyId) noRows)
  raise (require (¬ (call.state ≠ .dispatched ∨ call.requestId ≠ result.requestId))
    (.authorityConflict "Corpus result does not match its dispatched call"))
  let output ← raise ((json.readOutput result.content).mapError fun error =>
    .modelRuntime ("Corpus stage returned invalid JSON: " ++ error))
  raise (output.validateFor call.stageKey)
  let control := output.analysis.control?
  match control with
  | some control => tables.checkControl files studyId call.unitKey call.stageKey control
  | none => pure ()
  raise (require (call.job.evidence ≠ [])
    (.authorityConflict "Corpus semantic result has no bound source evidence"))
  let artifactFingerprint := Sha256.ofText result.content
  return {
    call, control
    artifact := {
      artifactId := "artifact_" ++ hex (Sha256.ofPieces [.inl (studyId ++ ":" ++
        call.stageKey.name ++ ":" ++ call.unitKey ++ ":"), .inr artifactFingerprint])
      studyId, stageKey := call.stageKey, unitKey := call.unitKey, payload := result.content
      artifactFingerprint
      evidenceBundleFingerprint :=
        Sha256.ofJson (arr (call.job.evidence.map EvidenceAnchor.toJson))
      createdAt := updatedAt } }

def StudyTables.insertArtifact (tables : StudyTables Fp) (row : StageArtifact Fp) :
    CoreResult (StudyTables Fp) := do
  tables.requireStudy row.studyId
  require (∀ other ∈ tables.artifacts, other.artifactId ≠ row.artifactId)
    (uniqueFailed "corpus_artifacts.artifact_id")
  require (∀ other ∈ tables.artifacts, ¬ (other.studyId = row.studyId ∧
      other.stageKey = row.stageKey ∧ other.unitKey = row.unitKey))
    (uniqueFailed ("corpus_artifacts.study_id, corpus_artifacts.stage_key, " ++
      "corpus_artifacts.unit_key"))
  return { tables with artifacts := tables.artifacts ++ [row] }

def ExtractionControl.record (control : ExtractionControl) (progress : JsonMap Fp) : JsonMap Fp :=
  ((progress.insert "chapter_extraction_coverage" (str control.coverageState)).insert
    "chapter_extraction_queue" (.strings control.nextUnitKeys)).insert
    "chapter_extraction_stop_reason" (Json.ofOption str control.stopReason)

/-- The transaction of a confirmation. -/
def StudyTables.storeAnswer (tables : StudyTables Fp) (confirmation : Confirmation Fp)
    (studyId callId : String) (result : ModelResult Fp) (updatedAt : String) :
    CoreResult (StudyTables Fp) := do
  let tables ← tables.insertArtifact confirmation.artifact
  require ((tables.calls.filter fun call =>
      call.callId = callId ∧ call.state = .dispatched).length = 1)
    (.authorityConflict "Corpus call changed before confirmation")
  let calls := Table.updateWhere
    (fun call => call.callId = callId ∧ call.state = .dispatched)
    (fun call => { call with
      state := .confirmed, result := some result, resultFingerprint := some result.fingerprint
      updatedAt }) tables.calls
  let tables := { tables with calls }
  match confirmation.control with
  | none => return tables
  | some control =>
    let _ ← fetch (tables.study? studyId) noRows
    return tables.updateStudy studyId fun row =>
      { row with progress := control.record row.progress, updatedAt }

def StudyTables.confirmedUnits (tables : StudyTables Fp) (studyId : String)
    (stage : AnalyzeStage) : ℕ :=
  tables.calls.countP fun call =>
    call.studyId = studyId ∧ call.stageKey = stage ∧ call.state = .confirmed

structure StageConfirmation (Fp : Type) where
  studyId : String
  stage : AnalyzeStage
  unitKey : String
  artifactFingerprint : Fp
  confirmedUnits : ℕ
  totalUnits : ℕ

def confirmStage (files : String → CoreResult ByteArray) (studyId callId : String)
    (result : ModelResult Fp) (updatedAt : String) :
    Commits Abort (StudyTables Fp) (StageConfirmation Fp) := do
  let confirmation ← .read fun tables =>
    tables.planConfirmation hex json files studyId callId result updatedAt
  .commit fun tables => raise (tables.storeAnswer confirmation studyId callId result updatedAt)
  let stage := confirmation.call.stageKey
  let units ← .read fun tables => (tables.view files studyId).stageUnits stage
  let confirmed ← .read fun tables => .ok (tables.confirmedUnits studyId stage)
  let saturated := confirmation.control.any fun control => control.coverageState = "saturated"
  if saturated ∨ confirmed = units.length then
    advanceStage json studyId stage updatedAt
  return {
    studyId, stage, unitKey := confirmation.call.unitKey
    artifactFingerprint := confirmation.artifact.artifactFingerprint
    confirmedUnits := confirmed, totalUnits := units.length }

end Confirm

/-! ## The other calls -/

section Other

def markStageUnconfirmed (studyId callId errorCode updatedAt : String) :
    Commits Abort (StudyTables Fp) Unit :=
  let open? := fun call : StageCall Fp =>
    decide (call.studyId = studyId ∧ call.callId = callId ∧ call.state = .dispatched)
  .commit fun tables => raise do
    require ((tables.calls.filter open?).length = 1)
      (.authorityConflict "Corpus call changed before unconfirmed outcome was recorded")
    let calls := Table.updateWhere open?
      (fun call => { call with state := .unconfirmed, errorCode := some errorCode, updatedAt })
      tables.calls
    return { tables with calls }

variable [Sha256 Fp] [DecidableEq Fp]

def StudyTables.insertAuthorization (tables : StudyTables Fp) (row : ContinueAuthorization Fp) :
    CoreResult (StudyTables Fp) := do
  tables.requireStudy row.studyId
  require (∀ other ∈ tables.authorizations, other.authorizationId ≠ row.authorizationId)
    (uniqueFailed "corpus_continue_authorizations.authorization_id")
  require (∀ other ∈ tables.authorizations, other.studyId ≠ row.studyId)
    (uniqueFailed "corpus_continue_authorizations.study_id")
  require (∀ other ∈ tables.authorizations,
      other.authorizationFingerprint ≠ row.authorizationFingerprint)
    (uniqueFailed "corpus_continue_authorizations.authorization_fingerprint")
  return { tables with authorizations := tables.authorizations ++ [row] }

/-- The checkpoint that an author lets a paused study continue from. -/
def StudyTables.checkContinuation (tables : StudyTables Fp) (studyId : String)
    (expectedCheckpoint : Fp) (authorization : String) : CoreResult Fp := do
  require (¬ blank authorization)
    (.authorityConflict "Corpus continuation requires explicit author authorization")
  let (proposal, study) ← tables.joined studyId
  require (¬ (study.currentStage ≠ .goldenThree ∨ proposal.status ≠ .pausedGoldenThree ∨
      study.checkpointFingerprint ≠ expectedCheckpoint))
    (.authorityConflict "Golden Three checkpoint changed before continuation")
  return study.checkpointFingerprint

def continueAfterGoldenThree (studyId : String) (expectedCheckpoint : Fp)
    (authorization uuid createdAt : String) : Commits Abort (StudyTables Fp) Unit := do
  let checkpoint ← .read fun tables =>
    raise (tables.checkContinuation studyId expectedCheckpoint authorization)
  let authorizationFingerprint : Fp := Sha256.ofJson (obj [("authorization", str authorization),
    ("checkpoint", fp checkpoint), ("study_id", str studyId)])
  .commit fun tables => raise do
    let tables ← tables.insertAuthorization
      { authorizationId := "continue_" ++ uuid, studyId
        expectedCheckpointFingerprint := checkpoint, authorizationFingerprint, createdAt }
    let tables := tables.moveTo studyId .chapterExtraction
      (checkpointFor studyId "chapter_extraction" (fp authorizationFingerprint)) createdAt
    return tables.setStatus studyId .running createdAt

/-- `UPDATE .. SET status='cancelled' .. AND status NOT IN ('complete','cancelled')`. -/
def SelectionProposal.withdrawn (updatedAt : String) (row : SelectionProposal Fp) :
    SelectionProposal Fp :=
  if row.status = .complete ∨ row.status = .cancelled then row
  else { row with status := .cancelled, updatedAt }

def cancelStudy (studyId updatedAt : String) : Commits Abort (StudyTables Fp) Unit := do
  .commit fun tables =>
    .ok (tables.updateProposal studyId (SelectionProposal.withdrawn updatedAt))
  .commit fun tables => .ok <| tables.updateStudy studyId fun row =>
    { row with cancelRequested := true, updatedAt }

end Other

end Quillframe.Corpus
