import Quillframe.Archive
import Quillframe.HistoryRuns

/-!
# Runs of a workspace

Production and settlement interleaved with the calls that grow the story, down to the documents
and revisions that they write.
-/
namespace Quillframe

open Relation Database

variable {Fp : Type}

/-- What reviews, revision requests, run events and readers change. -/
def Database.Aside (db db' : Database Fp) : Prop :=
  ∃ requests reports checkpoints events observations sources, db' = { db with
    revisionRequests := requests
    reviewReports := reports
    checkpoints := checkpoints
    runtimeEvents := events
    readerObservations := observations
    readerObservationSources := sources }

section Steps

variable [Sha256 Fp] [DecidableEq Fp] [Documents Fp] [SerdeJson Fp]

/-- One call. Chapters have a table of receipts of their own, which no other call reads. -/
inductive WorkStep : Database Fp → Database Fp → Prop
  | freezePack {db db' : Database Fp} (view chapterId createdAt pack)
      (h : freezeWriterPackForChapter view chapterId createdAt db = .ok (pack, db')) :
      WorkStep db db'
  | start {db db' : Database Fp} (request createdAt)
      (h : startProduction request createdAt db = .ok ((), db')) : WorkStep db db'
  | run {db db' : Database Fp} (op : RunOp Fp) (h : op.exec db = .ok db') : WorkStep db db'
  | accept {db db' : Database Fp} (decision acceptanceId)
      (h : acceptCandidate decision db = .ok (acceptanceId, db')) : WorkStep db db'
  | settle {db db' : Database Fp} (authorization ids settlementId)
      (h : applySettlement authorization ids db = .ok (settlementId, db')) : WorkStep db db'
  | chapter {db db' : Database Fp} (projectId unitId title idempotencyKey createdAt)
      (receipts receipts' receipt)
      (h : createChapter projectId unitId title idempotencyKey createdAt (receipts, db) =
        .ok (receipt, receipts', db')) : WorkStep db db'
  | container {db db' : Database Fp} (projectId kind parentId title idempotencyKey createdAt uuid)
      (receipt)
      (h : createStoryContainer projectId kind parentId title idempotencyKey createdAt uuid db =
        .ok (receipt, db')) : WorkStep db db'
  | document {db db' : Database Fp} (projectId documentId title kind storyNodeId createdAt)
      (h : documentCreate projectId documentId title kind storyNodeId createdAt db = .ok db') :
      WorkStep db db'
  | revision {db db' : Database Fp} (r answer)
      (h : documentRevisionSave r db = .ok (answer, db')) : WorkStep db db'
  | titles {db : Database Fp} (seed) : WorkStep db (db.setFirstTitles seed)
  | aside {db db' : Database Fp} (h : db.Aside db') : WorkStep db db'

/-! ## The calls as steps of the archive -/

omit [Sha256 Fp] [DecidableEq Fp] [Documents Fp] [SerdeJson Fp] in
theorem Database.NewDocument.archive {db : Database Fp} {document : Document}
    (h : db.NewDocument document) :
    document.documentId ∉ db.archive.documents.map Prod.fst ∧
      (document.documentKind = .manuscript → ∀ other ∈ db.archive.documents,
        other.2.2 = .manuscript → other.2.1 ≠ document.storyNodeId) := by
  obtain ⟨hfresh, hmanuscript⟩ := h
  refine ⟨by simpa [Database.archive] using hfresh, fun hkind other hother hotherKind => ?_⟩
  obtain ⟨node, hnode, hothers⟩ := hmanuscript hkind
  obtain ⟨row, hrow, rfl⟩ := List.mem_map.mp hother
  exact hnode ▸ hothers row hrow hotherKind

omit [SerdeJson Fp] in
theorem commitReleasedCandidate_archive {runId documentId : String} {taskMode : ProductionTaskMode}
    {candidate : CandidateArtifact Fp} {report : ReviewReport Fp} {release : ProductionRelease Fp}
    {boundedEvidence : CoreResult (String × OrderedMap String Fp)} {createdAt : String}
    {ids : ReleaseIds} {answer : String × String} {db db' : Database Fp}
    (h : commitReleasedCandidate runId documentId taskMode candidate report release
      boundedEvidence createdAt ids db = .ok (answer, db')) :
    Archive.Step db.archive db'.archive := by
  have hfresh : ("revision-" ++ ids.revision) ∉ db.documentRevisions.map (·.revisionId) ∧
      (documentId, candidate.fingerprint) ∉
        db.documentRevisions.map fun row => (row.documentId, row.contentFingerprint) := by
    simp only [commitReleasedCandidate, insertRelease, bind_eq_ok, require_eq_ok,
      exists_const] at h
    obtain ⟨_, -, _, -, _, -, _, -, -, _, -, bounded, -, receipt, -, inserted,
      ⟨hid, hpair, -⟩, -⟩ := h
    exact ⟨hid, hpair⟩
  obtain ⟨-, -, bounded, receipt, checkpoint, event, hcheck, hcandidate, -, rfl⟩ :=
    commitReleasedCandidate_eq_ok h
  obtain ⟨hchapter, -⟩ := checkRelease_eq_ok hcheck
  simp only [manuscriptChapter, bind_eq_ok, fetch_eq_ok] at hchapter
  obtain ⟨document, hdocument, hnode⟩ := hchapter
  have hfound := List.find?_some hdocument
  simp only [Bool.decide_and, Bool.and_eq_true, decide_eq_true_eq] at hfound
  refine Archive.Step.release candidate.chapterId hfresh.1 hfresh.2 ?_ hcandidate
    ⟨rfl, rfl, rfl⟩ (List.mem_map.mpr ⟨document, List.mem_of_find?_eq_some hdocument, ?_⟩)
  · simp [releaseRows]
  · rw [hfound.1, hfound.2, hnode]
    rfl

omit [SerdeJson Fp] in
/-- Of the calls on a run only a release touches the archive. -/
theorem RunOp.archive_of_exec {op : RunOp Fp} {db db' : Database Fp} (h : op.exec db = .ok db') :
    Archive.Step db.archive db'.archive := by
  cases op with
  | dispatch =>
    obtain ⟨callId, h⟩ := snd_map_eq_ok h
    obtain ⟨-, ⟨_, -, -, -, -, -, rfl⟩ | ⟨_, -, -, -, -, -, -, -, -, -, rfl⟩⟩ :=
      dispatchStage_eq_ok h
    all_goals exact .skip _
  | confirm =>
    obtain ⟨_, h⟩ := snd_map_eq_ok h
    obtain ⟨calls, receipts, rfl⟩ := confirmStage_frame h
    exact .skip _
  | confirmDerived =>
    obtain ⟨_, h⟩ := snd_map_eq_ok h
    obtain ⟨calls, checkpoints, events, rfl⟩ := confirmDerivedStage_frame h
    exact .skip _
  | markUnconfirmed =>
    obtain ⟨_, h⟩ := snd_map_eq_ok h
    obtain ⟨calls, rfl⟩ := markStageUnconfirmed_frame h
    exact .skip _
  | setStatus =>
    obtain ⟨_, h⟩ := snd_map_eq_ok h
    obtain rfl := setRunStatus_eq_ok h
    exact .skip _
  | failedGate =>
    obtain ⟨_, h⟩ := snd_map_eq_ok h
    obtain ⟨checkpoints, events, rfl⟩ := recordFailedGate_eq_ok h
    exact .skip _
  | freezeContext =>
    obtain ⟨_, h⟩ := snd_map_eq_ok h
    obtain ⟨-, selections, freezes, dependencies, -, rfl⟩ := persistWriterContextFreeze_eq_ok h
    exact .skip _
  | commit =>
    obtain ⟨_, h⟩ := snd_map_eq_ok h
    exact commitReleasedCandidate_archive h
  | cancel =>
    obtain ⟨answer, h⟩ := snd_map_eq_ok h
    obtain ⟨rfl, -⟩ | ⟨-, -, event, receipt, count, -, -, rfl⟩ := cancelProduction_eq_ok h
    all_goals exact .skip _

omit [Documents Fp] [SerdeJson Fp] in
theorem acceptCandidate_archive {decision : AcceptanceDecision Fp} {acceptanceId : String}
    {db db' : Database Fp} (h : acceptCandidate decision db = .ok (acceptanceId, db')) :
    Archive.Step db.archive db'.archive := by
  obtain ⟨-, ⟨_, _, -, -, -, rfl⟩ | ⟨-, hcheck, -, rfl⟩⟩ := acceptCandidate_cases h
  · exact .skip _
  · simp only [checkAcceptance, bind_eq_ok, require_eq_ok, exists_const, fetch_eq_ok] at hcheck
    obtain ⟨candidate, hcandidate, ⟨hstatus, -⟩, -⟩ := hcheck
    have hmem : candidate ∈ db.archive.candidates := Table.lookup_mem hcandidate
    have hid : candidate.candidateId = decision.candidateId := Table.lookup_key hcandidate
    refine Archive.Step.accept (a := db.archive) ⟨decision.acceptanceId, decision.candidateId,
      decision.candidateFingerprint, decision.authorizedBy, decision, decision.createdAt⟩
      ⟨candidate, hmem, hid, ?_⟩
    rw [hstatus]
    decide

/-! ### Settlements -/

omit [Documents Fp] in
/-- The rows that a prepared settlement has read. -/
theorem Database.prepareSettlement_backs {authorization : SettlementAuthorization Fp}
    {preflightUuid : String} {plan : SettlementPlan Fp} {db : Database Fp}
    (hinv : db.archive.Inv)
    (h : db.prepareSettlement authorization preflightUuid = .ok plan) :
    db.archive.Backs plan ∧
      db.priorCandidate plan.preflight.targetRef = .ok plan.priorCandidate := by
  simp only [Database.prepareSettlement, Database.settlementPreflight, bind_eq_ok, require_eq_ok,
    exists_const, fetch_eq_ok, pure_eq_ok, Prod.exists] at h
  obtain ⟨preflight, ⟨acceptance, hacceptance, candidate, hcandidate, document, hdocument,
    revisionId, hrevisionId, chapterId, hchapter, ⟨-, htarget⟩, revision, hrevision, ⟨hfp, -⟩,
    rfl⟩, -, -, found, hfound, foundDocument, hfoundDocument, foundChapter, hfoundChapter, runId,
    -, -, _, proposal, -, foundRevision, hfoundRevision, -, row, -, _, -, -, -, _, -, recorded, -,
    prior, hprior, rfl⟩ := h
  obtain ⟨hcandidate, -⟩ := Option.filter_eq_some_iff.mp hcandidate
  have hid : candidate.candidateId = acceptance.candidateId := Table.lookup_key hcandidate
  obtain rfl : candidate = found := by
    have hfound : db.candidate? candidate.candidateId = some found := hfound
    exact Option.some.inj ((hid ▸ hcandidate).symm.trans hfound)
  obtain rfl : document = foundDocument :=
    Option.some.inj (hdocument.symm.trans hfoundDocument)
  obtain rfl : chapterId = foundChapter := Option.some.inj (hchapter.symm.trans hfoundChapter)
  obtain rfl : revision = foundRevision := Option.some.inj (hrevision.symm.trans hfoundRevision)
  obtain ⟨documentId, hdocumentId, hdocument⟩ := Option.bind_eq_some_iff.mp hdocument
  obtain rfl : document.documentId = documentId := Table.lookup_key hdocument
  -- the candidate was released with this revision, for a manuscript
  obtain ⟨released, hreleased, hpairs, node, hnode⟩ :=
    hinv.candidates candidate (Table.lookup_mem hcandidate)
  obtain rfl : released = revision := by
    refine Table.eq_of_key_eq hinv.keys.revisions hreleased (Table.lookup_mem hrevision) ?_
    exact (Option.some.inj (hpairs.revisionId.symm.trans hrevisionId)).trans
      (Table.lookup_key hrevision).symm
  have hreleasedDocument : released.documentId = document.documentId :=
    Option.some.inj (hpairs.document.symm.trans hdocumentId)
  have hmanuscript : (document.documentId, some chapterId, .manuscript) ∈
      db.archive.documents := by
    have hrow : (document.documentId, document.storyNodeId, document.documentKind) ∈
        db.archive.documents := List.mem_map.mpr ⟨document, Table.lookup_mem hdocument, rfl⟩
    have hsame := Table.eq_of_key_eq hinv.keys.documents hnode hrow hreleasedDocument
    rw [hchapter] at hrow
    rw [(Prod.mk.inj (Prod.mk.inj hsame).2).2]
    exact hrow
  refine ⟨⟨htarget, ⟨acceptance, Table.lookup_mem hacceptance, Table.lookup_key hacceptance,
    hid.symm⟩, ⟨candidate, Table.lookup_mem hcandidate, rfl, hdocumentId, hrevisionId, rfl⟩,
    ⟨released, hreleased, Table.lookup_key hrevision, hreleasedDocument, rfl, hfp⟩,
    hmanuscript⟩, hprior⟩

omit [Documents Fp] [SerdeJson Fp] in
/-- The staleness update of the narrative sources. -/
theorem Database.invalidateDependents_sources {plan : SettlementPlan Fp} {createdAt : String}
    {ids : SettlementIds} {affected : List (DependencyRow Fp)} {db db' : Database Fp}
    (h : db.invalidateDependents plan createdAt ids = .ok (affected, db')) :
    db'.narrativeStateSources = Table.updateWhere (fun source => plan.ChangesHead ∧
        source.chapterId = plan.chapterId ∧ plan.priorCandidate = some source.sourceFingerprint ∧
          source.state = .current)
      (fun source => { source with state := .stale, updatedAt := createdAt })
      db.narrativeStateSources := by
  rw [invalidateDependents] at h
  split_ifs at h with hchanges
  · simp only [bind_eq_ok, pure_eq_ok, Prod.mk.injEq] at h
    obtain ⟨mid, hmid, -, rfl⟩ := h
    obtain ⟨impacts, rfl⟩ := recordImpact_loop hmid
    simp only [invalidateReadings, markStale, hchanges, true_and]
  · simp only [pure_eq_ok, Prod.mk.injEq] at h
    obtain ⟨-, rfl⟩ := h
    simp [hchanges, Table.updateWhere]

/-- The narrative tables, the archive and the topology that a settlement leaves. -/
structure Narrated (db : Database Fp) (authorization : SettlementAuthorization Fp)
    (plan : SettlementPlan Fp) (tables : NarrativeTables Fp) (db' : Database Fp) : Prop where
  deltas : applyNarrativeDeltas plan.proposal (plan.source authorization.createdAt) db =
    .ok (db.withNarrative tables)
  narrative : db'.narrative = { tables with
    narrativeStateSources := Table.updateWhere (fun source => plan.ChangesHead ∧
        source.chapterId = plan.chapterId ∧ plan.priorCandidate = some source.sourceFingerprint ∧
          source.state = .current)
      (fun source => { source with state := .stale, updatedAt := authorization.createdAt })
      tables.narrativeStateSources }
  archive : db'.archive = { db.archive with
    settlements := db.archive.settlements ++ [plan.settlementRow authorization]
    canonState := Table.upsert CanonRow.stateKey (plan.canonRow authorization.createdAt)
      (fun old => { plan.canonRow authorization.createdAt with stateKey := old.stateKey })
      db.archive.canonState
    revisions := Table.updateWhere (fun revision =>
        revision.revisionId = plan.preflight.revisionId ∧
          revision.contentFingerprint = plan.preflight.candidateFingerprint)
      (fun revision => { revision with authorityClass := .accepted }) db.archive.revisions }
  storyNodes : db'.storyNodes = db.storyNodes

omit [Documents Fp] in
theorem Database.commitSettlement_narrated {authorization : SettlementAuthorization Fp}
    {ids : SettlementIds} {plan : SettlementPlan Fp} {db db' : Database Fp}
    (h : db.commitSettlement authorization ids plan = .ok db') :
    ∃ tables, Narrated db authorization plan tables db' := by
  simp only [commitSettlement, insertSettlement, bind_eq_ok, require_eq_ok, exists_const,
    fetch_eq_ok, pure_eq_ok, Prod.exists] at h
  obtain ⟨narrated, hnarrated, settled, ⟨-, -, rfl⟩, document, -, affected, invalidated,
    hinvalidated, next, -, swapped, hswapped, receipted, hreceipted, seq, appended, happended,
    snapshotId, final, hfinal, rfl⟩ := h
  obtain ⟨tables, rfl⟩ := applyNarrativeDeltas_eq_ok hnarrated
  have hsources := invalidateDependents_sources hinvalidated
  obtain ⟨-, impacts, observations, sources, rfl⟩ := invalidateDependents_eq_ok hinvalidated
  obtain ⟨row, -, -, -, -, rfl⟩ := swapTracking_eq_ok hswapped
  obtain ⟨-, rfl⟩ := insertReceipt_eq_ok hreceipted
  obtain ⟨-, -, event, -, -, -, -, -, -, rfl⟩ := appendStoryEvent_eq_ok happended
  obtain ⟨_, -, -, -, _, -, _, -, -, -, -, -, -, -, -, -, -, -, -, rfl⟩ :=
    createStorySnapshot_eq_ok hfinal
  refine ⟨tables, hnarrated, ?_, rfl, rfl⟩
  change ({ tables with narrativeStateSources := sources } : NarrativeTables Fp) = _
  rw [show sources = _ from hsources]
  rfl

theorem WorkStep.archive {db db' : Database Fp} (h : WorkStep db db') (hinv : db.archive.Inv) :
    Archive.Step db.archive db'.archive := by
  cases h with
  | freezePack _ _ _ _ h =>
    obtain ⟨-, -, rfl | ⟨row, -, -, -, -, rfl⟩⟩ := freezeWriterPackForChapter_eq_ok h
    all_goals exact .skip _
  | start _ _ h =>
    obtain rfl | ⟨_, _, _, _, -, -, -, -, -, -, -, -, -, -, -, rfl⟩ := startProduction_eq_ok h
    all_goals exact .skip _
  | run op h => exact op.archive_of_exec h
  | accept _ _ h => exact acceptCandidate_archive h
  | settle authorization ids settlementId h =>
    obtain ⟨-, ⟨_, _, -, -, -, -, rfl⟩ | ⟨-, -, plan, hplan, hcommit⟩⟩ := applySettlement_eq_ok h
    · exact .skip _
    · obtain ⟨tables, hnarrated⟩ := commitSettlement_narrated hcommit
      rw [hnarrated.archive]
      exact .settle plan authorization (prepareSettlement_backs hinv hplan).1
  | chapter _ _ _ _ _ _ _ _ h =>
    obtain rfl | ⟨node, document, row, -, -, hnew, -, -, rfl, -⟩ := createChapter_eq_ok h
    · exact .skip _
    · have hstep := Archive.Step.document (a := db.archive) (document.documentId,
        document.storyNodeId, document.documentKind) hnew.archive.1 hnew.archive.2
      simpa [Database.archive] using hstep
  | container _ _ _ _ _ _ _ _ h =>
    obtain rfl | ⟨_, _, _, -, -, rfl, -⟩ := createStoryContainer_eq_ok h
    all_goals exact .skip _
  | document _ _ _ _ _ _ h =>
    obtain ⟨document, hnew, rfl⟩ := documentCreate_eq_ok h
    have hstep := Archive.Step.document (a := db.archive) (document.documentId,
      document.storyNodeId, document.documentKind) hnew.archive.1 hnew.archive.2
    simpa [Database.archive] using hstep
  | revision _ _ h =>
    obtain rfl | ⟨revision, hfresh, hpair, hdocument, hauthority, rfl⟩ :=
      documentRevisionSave_eq_ok h
    · exact .skip _
    · refine Archive.Step.revision (a := db.archive) hfresh hpair ?_ ?_
      · simpa [Database.archive] using hdocument
      · rcases hauthority with hauthority | hauthority <;> simp [hauthority]
  | titles seed =>
    have hsame : (db.setFirstTitles seed).archive = db.archive := by
      simp only [Database.archive, setFirstTitles, Archive.mk.injEq, and_true]
      exact Table.map_updateWhere _ fun _ => rfl
    exact hsame ▸ .skip _
  | aside h =>
    obtain ⟨_, _, _, _, _, _, rfl⟩ := h
    exact .skip _

theorem WorkStep.ledger {db db' : Database Fp} (h : WorkStep db db') (hinv : db.ledger.Inv) :
    Ledger.Step db.ledger db'.ledger := by
  cases h with
  | freezePack _ _ _ _ h => exact freezeWriterPackForChapter_ledger h
  | start _ _ h => exact startProduction_ledger h
  | run op h => exact op.ledger_of_exec h
  | accept _ _ h => exact acceptCandidate_ledger h
  | settle authorization ids settlementId h =>
    exact (ProjectStep.settle authorization ids settlementId h).ledger hinv
  | chapter _ _ _ _ _ _ _ _ h =>
    obtain rfl | ⟨_, _, _, -, -, -, -, -, rfl, -⟩ := createChapter_eq_ok h
    all_goals exact .skip _
  | container _ _ _ _ _ _ _ _ h =>
    obtain rfl | ⟨node, receipt, payload, -, hpayload, rfl, -⟩ := createStoryContainer_eq_ok h
    · exact .skip _
    · have hsame : settledReceipts (db.receipts ++ [receipt]) = settledReceipts db.receipts :=
        settledReceipts_append_other _ (by rw [hpayload]; rfl)
      have hledger : ({ db with
          storyNodes := db.storyNodes ++ [node]
          receipts := db.receipts ++ [receipt] } : Database Fp).ledger = db.ledger := by
        simp only [Database.ledger, hsame]
      exact hledger ▸ .skip _
  | document _ _ _ _ _ _ h =>
    obtain ⟨_, -, rfl⟩ := documentCreate_eq_ok h
    exact .skip _
  | revision _ _ h =>
    obtain rfl | ⟨_, -, -, -, -, rfl⟩ := documentRevisionSave_eq_ok h
    all_goals exact .skip _
  | titles => exact .skip _
  | aside h =>
    obtain ⟨_, _, _, _, _, _, rfl⟩ := h
    exact .skip _

/-! ## The calls beside the story -/

omit [DecidableEq Fp] [Documents Fp] [SerdeJson Fp] in
/-- A new document has no revision yet. -/
theorem Database.acceptedAnchors_document {db db' : Database Fp} {document : Document}
    (hinv : db.archive.Inv) (hnew : db.NewDocument document)
    (hdocuments : db'.documents = db.documents ++ [document])
    (hrevisions : db'.documentRevisions = db.documentRevisions) :
    db'.acceptedAnchors = db.acceptedAnchors := by
  simp only [acceptedAnchors, hdocuments, hrevisions]
  refine List.flatMap_congr fun revision hrevision => ?_
  have hne : document.documentId ≠ revision.documentId := by
    intro he
    have hold := hinv.revisions revision (List.mem_filter.mp hrevision).1
    rw [← he] at hold
    exact hnew.archive.1 hold
  simp [hne]

omit [Sha256 Fp] [DecidableEq Fp] [Documents Fp] [SerdeJson Fp] in
theorem Database.acceptedAnchors_titles (db : Database Fp) (seed : BookStructureSeed) :
    (db.setFirstTitles seed).acceptedAnchors = db.acceptedAnchors := by
  simp only [acceptedAnchors, setFirstTitles]
  refine List.flatMap_congr fun revision _ => ?_
  rw [Table.filter_updateWhere, Table.map_updateWhere]
  all_goals exact fun _ => rfl

omit [Documents Fp] [SerdeJson Fp] in
theorem createChapter_sameStory {projectId : String} {requestedUnitId : Option String}
    {title idempotencyKey createdAt : String} {receipts receipts' : List (ChapterReceiptRow Fp)}
    {receipt : ChapterCreationReceipt Fp} {db db' : Database Fp} (hinv : db.archive.Inv)
    (h : createChapter projectId requestedUnitId title idempotencyKey createdAt (receipts, db) =
      .ok (receipt, receipts', db')) : db.SameStory db' := by
  obtain rfl | ⟨_, document, _, -, -, hnew, -, -, rfl, -⟩ := createChapter_eq_ok h
  · exact .refl _
  · exact ⟨rfl, rfl, rfl, rfl, rfl, rfl, rfl, rfl, acceptedAnchors_document hinv hnew rfl rfl⟩

omit [Documents Fp] [SerdeJson Fp] in
theorem createStoryContainer_sameStory {projectId : String} {kind : StoryKind}
    {requestedParentId : Option String} {title idempotencyKey createdAt uuid : String}
    {answer : StoryNodeCreationReceipt Fp} {db db' : Database Fp}
    (h : createStoryContainer projectId kind requestedParentId title idempotencyKey createdAt uuid
      db = .ok (answer, db')) : db.SameStory db' := by
  obtain rfl | ⟨_, _, _, -, -, rfl, -⟩ := createStoryContainer_eq_ok h
  · exact .refl _
  · exact ⟨rfl, rfl, rfl, rfl, rfl, rfl, rfl, rfl, rfl⟩

/-- Only an applied settlement changes the story. -/
theorem WorkStep.story {db db' : Database Fp} (h : WorkStep db db') (hinv : db.archive.Inv) :
    db.SameStory db' ∨ ∃ authorization ids settlementId,
      applySettlement authorization ids db = .ok (settlementId, db') := by
  cases h with
  | freezePack _ _ _ _ h => exact (ProjectStep.freezePack _ _ _ _ h).story
  | start _ _ h => exact (ProjectStep.start _ _ h).story
  | run op h => exact .inl (op.sameStory h)
  | accept _ _ h => exact .inl (acceptCandidate_sameStory h)
  | settle authorization ids settlementId h => exact .inr ⟨authorization, ids, settlementId, h⟩
  | chapter _ _ _ _ _ _ _ _ h => exact .inl (createChapter_sameStory hinv h)
  | container _ _ _ _ _ _ _ _ h => exact .inl (createStoryContainer_sameStory h)
  | document _ _ _ _ _ _ h =>
    obtain ⟨document, hnew, rfl⟩ := documentCreate_eq_ok h
    exact .inl ⟨rfl, rfl, rfl, rfl, rfl, rfl, rfl, rfl,
      acceptedAnchors_document hinv hnew rfl rfl⟩
  | revision _ _ h =>
    obtain rfl | ⟨revision, -, -, -, hauthority, rfl⟩ := documentRevisionSave_eq_ok h
    · exact .inl (.refl _)
    · refine .inl ⟨rfl, rfl, rfl, rfl, rfl, rfl, rfl, rfl, ?_⟩
      rcases hauthority with hauthority | hauthority <;> simp [acceptedAnchors, hauthority]
  | titles seed =>
    exact .inl ⟨rfl, rfl, rfl, rfl, rfl, rfl, rfl, rfl, acceptedAnchors_titles db seed⟩
  | aside h =>
    obtain ⟨_, _, _, _, _, _, rfl⟩ := h
    exact .inl ⟨rfl, rfl, rfl, rfl, rfl, rfl, rfl, rfl, rfl⟩

/-! ## Reachable workspaces -/

omit [DecidableEq Fp] [Documents Fp] [SerdeJson Fp] in
theorem initialProject_archive (projectId title createdAt : String) :
    (initialProject projectId title createdAt : Database Fp).archive.Inv where
  keys := by
    refine ⟨?_, ?_, ?_, ?_, ?_, ?_, ?_, ?_⟩ <;> simp [Database.archive, initialProject]
    rintro chapterId x y rfl - rfl -
    rfl
  revisions := by simp [Database.archive, initialProject]
  candidates := by simp [Database.archive, initialProject]
  acceptances := by simp [Database.archive, initialProject]
  canon := by simp [Database.archive, initialProject]

end Steps

end Quillframe
