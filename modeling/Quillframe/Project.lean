import Quillframe.Schema

/-! The database of a new project. -/
namespace Quillframe

variable {Fp : Type} [Sha256 Fp]

/-- The head fingerprint before any event: `"{project_id}:{tracking fingerprint}"`. -/
def genesisFingerprint (projectId : String) : Fp :=
  Sha256.ofLink (.inl projectId) (TrackingState.genesis projectId : TrackingState Fp).fingerprint

/-- The tables `insert_initial_project` leaves, before the project id is checked. -/
def initialProject (projectId title createdAt : String) : Database Fp where
  projectId
  storyNodes :=
    [⟨"BOOK", none, .book, 1, title⟩, ⟨"VOL001", some "BOOK", .volume, 1, "第一卷"⟩,
      ⟨"UNIT001", some "VOL001", .unit, 1, "第一单元"⟩,
      ⟨"CH001", some "UNIT001", .chapter, 1, title⟩]
  documents := [⟨"DOC-CH001", some "CH001", .manuscript, title, createdAt⟩]
  documentRevisions := []
  canonState := []
  trackingAuthority :=
    [⟨projectId, 0, .genesis projectId, (TrackingState.genesis projectId).fingerprint, createdAt⟩]
  characters := []
  relationships := []
  worldEntities := []
  timelineEvents := []
  characterKnowledge := []
  expectations := []
  expectationEvents := []
  expectationEventSequence := 0
  narrativeStateSources := []
  candidates := []
  candidateLineage := []
  acceptanceEvidence := []
  settlements := []
  receipts := []
  revisionRequests := []
  reviewReports := []
  productionReleases := []
  runs := []
  productionExecutions := []
  stageCalls := []
  billingReceipts := []
  checkpoints := []
  runtimeEvents := []
  writerPackFreezes := []
  contextSelections := []
  contextFreezes := []
  chapterDependencies := []
  downstreamImpacts := []
  readerObservations := []
  readerObservationSources := []
  readerExpectationDependencies := []
  readerExpectationEffects := []
  searchIndex := [⟨"document", "DOC-CH001", title, ""⟩]
  head := ⟨projectId, 0, none, none, genesisFingerprint projectId, createdAt⟩
  storyEvents := []
  storyEventSequence := 0
  storySnapshots := []

/-- The database `create_reserved` commits. -/
def createReserved (projectId title createdAt : String) : CoreResult (Database Fp) := do
  let _ ← (TrackingState.empty projectId : CoreResult (TrackingState Fp))
  return initialProject projectId title createdAt

end Quillframe
