import Quillframe.Float64
import Quillframe.Ledger

/-!
# Runs of a project

Any interleaving of the calls that freeze, start, release, accept and settle, each one serial
transaction, from the database of a new project.
-/
namespace Quillframe

open Json (str int obj arr)
open Relation Database

variable {Fp : Type}

/-- What the rest of the program may change. Accepted revisions stay where they are. -/
def Database.Beside (db db' : Database Fp) : Prop :=
  db'.acceptedAnchors = db.acceptedAnchors ∧
  ∃ storyNodes documents revisions lineage requests reports calls bills checkpoints events
      selections observations sources search,
    db' = { db with
      storyNodes := storyNodes
      documents := documents
      documentRevisions := revisions
      candidateLineage := lineage
      revisionRequests := requests
      reviewReports := reports
      stageCalls := calls
      billingReceipts := bills
      checkpoints := checkpoints
      runtimeEvents := events
      contextSelections := selections
      readerObservations := observations
      readerObservationSources := sources
      searchIndex := search }

section Steps

variable [Sha256 Fp] [DecidableEq Fp] [Documents Fp] [SerdeJson Fp]

/-- One call. The authorization of a settlement is any value, whatever preflight it was made
from. A failed call is rolled back and is no step. -/
inductive ProjectStep : Database Fp → Database Fp → Prop
  | freezePack {db db' : Database Fp} (view chapterId createdAt pack)
      (h : freezeWriterPackForChapter view chapterId createdAt db = .ok (pack, db')) :
      ProjectStep db db'
  | start {db db' : Database Fp} (request createdAt)
      (h : startProduction request createdAt db = .ok ((), db')) : ProjectStep db db'
  | run {db db' : Database Fp} (op : RunOp Fp) (h : op.exec db = .ok db') : ProjectStep db db'
  | accept {db db' : Database Fp} (decision acceptanceId)
      (h : acceptCandidate decision db = .ok (acceptanceId, db')) : ProjectStep db db'
  | preflight {db : Database Fp} (acceptanceId targetRef createdAt preflightUuid preflight)
      (h : settlementPreflight db acceptanceId targetRef createdAt preflightUuid =
        .ok preflight) : ProjectStep db db
  | settle {db db' : Database Fp} (authorization ids settlementId)
      (h : applySettlement authorization ids db = .ok (settlementId, db')) : ProjectStep db db'
  | beside {db db' : Database Fp} (h : db.Beside db') : ProjectStep db db'

/-! ## The calls as steps of the ledger -/

omit [SerdeJson Fp] in
theorem freezeWriterPackForChapter_ledger {view : PlanningView Fp} {chapterId createdAt : String}
    {pack : WriterPack Fp} {db db' : Database Fp}
    (h : freezeWriterPackForChapter view chapterId createdAt db = .ok (pack, db')) :
    Ledger.Step db.ledger db'.ledger := by
  obtain ⟨⟨tracking, htracking, -, hfp⟩, hheads, rfl | ⟨row, rfl, -, hrow, hfresh, rfl⟩⟩ :=
    freezeWriterPackForChapter_eq_ok h
  · exact .skip _
  · exact .pack hfresh (Table.lookup_mem htracking) hfp hrow hheads

omit [SerdeJson Fp] in
theorem startProduction_ledger {request : ProductionRequest Fp} {createdAt : String}
    {db db' : Database Fp} (h : startProduction request createdAt db = .ok ((), db')) :
    Ledger.Step db.ledger db'.ledger := by
  obtain rfl | ⟨frozen, targetChapter, run, execution, -, -, hnone, -, -, -, -, hrun, hrequest, -,
    hheads, hdb⟩ := startProduction_eq_ok h
  · exact .skip _
  · have hledger : db'.ledger = { db.ledger with
        requests := db.ledger.requests ++ [(request.runId, request)]
        dependencies := db.ledger.dependencies ++ frozen.payload.continuityContext.map
          fun entry => entry.dependency request.runId targetChapter createdAt } := by
      rw [hdb]
      simp [ledger, hrun, hrequest]
    rw [hledger]
    refine .start (fun hmem => ?_) fun row hrow => ?_
    · obtain ⟨pair, hpair, hid⟩ := List.mem_map.mp hmem
      obtain ⟨old, hold, rfl⟩ := List.mem_map.mp hpair
      exact Table.lookup_eq_none.mp hnone old hold hid
    · obtain ⟨entry, hentry, rfl⟩ := List.mem_map.mp hrow
      exact hheads entry hentry

omit [SerdeJson Fp] in
theorem commitReleasedCandidate_ledger {runId documentId : String} {taskMode : ProductionTaskMode}
    {candidate : CandidateArtifact Fp} {report : ReviewReport Fp} {release : ProductionRelease Fp}
    {boundedEvidence : CoreResult (String × OrderedMap String Fp)} {createdAt : String}
    {ids : ReleaseIds} {answer : String × String} {db db' : Database Fp}
    (h : commitReleasedCandidate runId documentId taskMode candidate report release
      boundedEvidence createdAt ids db = .ok (answer, db')) :
    Ledger.Step db.ledger db'.ledger := by
  obtain ⟨hid, hfp, bounded, receipt, checkpoint, event, hcheck, hcandidate, hrelease, hdb⟩ :=
    commitReleasedCandidate_eq_ok h
  obtain ⟨-, ⟨execution, hexecution, -, hpackFp⟩, -, ⟨frozen, hfrozen, htracking⟩, -⟩ :=
    checkRelease_eq_ok hcheck
  set rows := releaseRows runId documentId taskMode candidate report release
    (db.latestRevision documentId) createdAt ids with hrows
  have hledger : db'.ledger = { db.ledger with
      candidates := db.ledger.candidates ++
        [(candidate.candidateId, some runId, candidate.fingerprint)]
      releases := db.ledger.releases ++ [rows.release] } := by
    rw [hdb]
    simp [ledger, hrows, releaseRows, updateRun]
  have hrequest : (runId, execution.request) ∈ db.ledger.requests := by
    refine List.mem_map.mpr ⟨execution, Table.lookup_mem hexecution, ?_⟩
    rw [Table.lookup_key hexecution]
  have hpack : frozen ∈ db.ledger.packs := Table.lookup_mem hfrozen
  rw [hledger]
  refine .release ?_ hrelease rfl rfl hrequest hpack
    ((Table.lookup_key hfrozen).trans hpackFp.symm) htracking
  intro hmem
  obtain ⟨pair, hpair, hpairId⟩ := List.mem_map.mp hmem
  obtain ⟨old, hold, rfl⟩ := List.mem_map.mp hpair
  exact hcandidate (List.mem_map.mpr ⟨old, hold, hpairId⟩)

omit [SerdeJson Fp] in
/-- A call on a run is a context freeze, a release or no step of the ledger. -/
theorem RunOp.ledger_of_exec {op : RunOp Fp} {db db' : Database Fp} (h : op.exec db = .ok db') :
    Ledger.Step db.ledger db'.ledger := by
  cases op with
  | dispatch =>
    obtain ⟨callId, h⟩ := snd_map_eq_ok h
    obtain ⟨-, ⟨_, -, -, -, -, -, rfl⟩ | ⟨_, -, -, -, -, -, -, -, -, -, rfl⟩⟩ :=
      dispatchStage_eq_ok h
    all_goals exact .skip _
  | confirm =>
    obtain ⟨_, h⟩ := snd_map_eq_ok h
    obtain ⟨calls, receipts, rfl⟩ := confirmStage_frame h
    exact .skip _
  | confirmDerived =>
    obtain ⟨_, h⟩ := snd_map_eq_ok h
    obtain ⟨calls, checkpoints, events, rfl⟩ := confirmDerivedStage_frame h
    exact .skip _
  | markUnconfirmed =>
    obtain ⟨_, h⟩ := snd_map_eq_ok h
    obtain ⟨calls, rfl⟩ := markStageUnconfirmed_frame h
    exact .skip _
  | setStatus =>
    obtain ⟨_, h⟩ := snd_map_eq_ok h
    obtain rfl := setRunStatus_eq_ok h
    exact .skip _
  | failedGate =>
    obtain ⟨_, h⟩ := snd_map_eq_ok h
    obtain ⟨checkpoints, events, rfl⟩ := recordFailedGate_eq_ok h
    exact .skip _
  | freezeContext =>
    obtain ⟨_, h⟩ := snd_map_eq_ok h
    obtain ⟨-, selections, freezes, dependencies, hbinds, rfl⟩ :=
      persistWriterContextFreeze_eq_ok h
    exact .bind hbinds
  | commit =>
    obtain ⟨_, h⟩ := snd_map_eq_ok h
    exact commitReleasedCandidate_ledger h
  | cancel =>
    obtain ⟨answer, h⟩ := snd_map_eq_ok h
    obtain ⟨rfl, -⟩ | ⟨-, -, event, receipt, count, -, hpayload, hdb⟩ := cancelProduction_eq_ok h
    · exact .skip _
    · have hledger : db'.ledger = db.ledger := by
        rw [hdb]
        simp only [ledger, Ledger.mk.injEq, true_and]
        refine ⟨Table.map_updateWhere _ fun _ => rfl, settledReceipts_append_other _ ?_⟩
        rw [hpayload]
        rfl
      exact hledger ▸ .skip _

omit [Documents Fp] [SerdeJson Fp] in
theorem acceptCandidate_ledger {decision : AcceptanceDecision Fp} {acceptanceId : String}
    {db db' : Database Fp} (h : acceptCandidate decision db = .ok (acceptanceId, db')) :
    Ledger.Step db.ledger db'.ledger := by
  obtain rfl | ⟨row, receipt, hfresh, hpayload, hdb⟩ := acceptCandidate_eq_ok h
  · exact .skip _
  · have hledger : db'.ledger = { db.ledger with
        acceptances := db.ledger.acceptances ++ [row] } := by
      rw [hdb]
      simp only [ledger, Ledger.mk.injEq, true_and]
      refine ⟨Table.map_updateWhere _ fun _ => rfl, settledReceipts_append_other _ ?_⟩
      rw [hpayload]
      rfl
    rw [hledger]
    exact .accept hfresh

omit [Documents Fp] in
/-- What a settlement leaves in the ledger and in the frozen contexts. -/
theorem commitSettlement_effects {authorization : SettlementAuthorization Fp}
    {ids : SettlementIds} {plan : SettlementPlan Fp} {db db' : Database Fp}
    (hinv : db.ledger.Inv) (hplan : db.Prepared authorization plan)
    (h : db.commitSettlement authorization ids plan = .ok db') :
    ∃ tracking next, db.trackingAuthority = [tracking] ∧ plan.tracking = tracking.payload ∧
      plan.recorded.invalidate
        ((db.chapterDependencies.filter plan.stale).map (·.chapterId)) = .ok next ∧
      db'.contextFreezes = markConflicts
        ((db.chapterDependencies.filter plan.stale).map (·.runId)) db.contextFreezes ∧
      db'.ledger = { db.ledger with
        canonState := Table.upsert CanonRow.stateKey (plan.canonRow authorization.createdAt)
          (fun old => { plan.canonRow authorization.createdAt with stateKey := old.stateKey })
          db.ledger.canonState
        tracking := [{ tracking with
          version := next.version, payload := next, contentFingerprint := next.fingerprint,
          updatedAt := authorization.createdAt }]
        dependencies := Table.updateWhere plan.stale
          (fun row => { row with status := .stale, updatedAt := authorization.createdAt })
          db.ledger.dependencies
        settlements := db.ledger.settlements ++ [plan.settlementRow authorization]
        receipts := db.ledger.receipts ++ [authorization] } := by
  obtain ⟨mid, seq, appended, snapshotId, ⟨tables, next, revisions, search, impacts, observations,
    sources, -, hnext, ⟨row, hrow, hproject, hversion, hfp⟩, hmid⟩, -, happended, hsnapshot⟩ :=
    commitSettlement_eq_ok h
  obtain ⟨-, -, event, -, -, -, -, -, -, happended⟩ := appendStoryEvent_eq_ok happended
  obtain ⟨_, -, -, -, _, -, _, -, -, -, -, -, -, -, -, -, -, -, -, hdb⟩ :=
    createStorySnapshot_eq_ok hsnapshot
  have hledger : db'.ledger = mid.ledger := by
    rw [hdb, happended]
    rfl
  have hfreezes : db'.contextFreezes = mid.contextFreezes := by
    rw [hdb, happended]
  obtain ⟨tracking, hsingle, -⟩ := hinv.tracking
  change db.trackingAuthority = [tracking] at hsingle
  obtain rfl : row = tracking := List.mem_singleton.mp (hsingle ▸ hrow)
  have hpayload : plan.tracking = row.payload := by
    obtain ⟨found, hfound, hpayload⟩ := hplan.tracking
    have hmem : found ∈ [row] := hsingle ▸ Table.lookup_mem hfound
    rw [← hpayload, List.mem_singleton.mp hmem]
  refine ⟨row, next, hsingle, hpayload, hnext, by rw [hfreezes, hmid], ?_⟩
  rw [hledger, hmid, hsingle]
  simp only [ledger, withNarrative, upsertCanon, Ledger.mk.injEq, true_and]
  refine ⟨?_, settledReceipts_append _ rfl⟩
  simp [Table.updateWhere, hproject, hversion, hfp]

omit [Documents Fp] in
theorem commitSettlement_ledger {authorization : SettlementAuthorization Fp}
    {ids : SettlementIds} {plan : SettlementPlan Fp} {db db' : Database Fp}
    (hinv : db.ledger.Inv) (hplan : db.Prepared authorization plan)
    (h : db.commitSettlement authorization ids plan = .ok db') :
    Ledger.Step db.ledger db'.ledger := by
  obtain ⟨tracking, next, hsingle, hpayload, hnext, -, hledger⟩ :=
    commitSettlement_effects hinv hplan h
  obtain ⟨hsealed, hlater, -⟩ := TrackingState.invalidate_eq_ok hnext
    (hplan.recorded ▸ TrackingState.refreshFingerprint_sealed _)
  obtain ⟨acceptance, hacceptance, hacceptanceId, hcandidate, hcandidateFp⟩ := hplan.acceptance
  obtain ⟨release, hrelease, hreleaseId, hreleaseFp, hreleaseTracking⟩ := hplan.release
  rw [hledger]
  refine .settle hsingle hsealed ?_ hacceptance hacceptanceId hrelease
    (hreleaseId.trans hcandidate.symm) (hreleaseFp.trans hcandidateFp.symm)
    (hreleaseTracking.trans (congrArg _ hpayload)) rfl rfl rfl hplan.before ?_ rfl
  · rw [hplan.recorded, hpayload] at hlater
    exact hlater
  · intro dependency
    simp only [SettlementPlan.stale, SettlementPlan.ChangesHead, DependencyRow.affectedBy,
      decide_eq_true_eq, SettlementPlan.settlementRow, hplan.target,
      chapterRef_injective.eq_iff]

theorem ProjectStep.ledger {db db' : Database Fp} (h : ProjectStep db db')
    (hinv : db.ledger.Inv) : Ledger.Step db.ledger db'.ledger := by
  cases h with
  | freezePack _ _ _ _ h => exact freezeWriterPackForChapter_ledger h
  | start _ _ h => exact startProduction_ledger h
  | run op h => exact op.ledger_of_exec h
  | accept _ _ h => exact acceptCandidate_ledger h
  | preflight => exact .skip _
  | settle authorization ids settlementId h =>
    obtain ⟨-, ⟨_, _, -, -, -, -, rfl⟩ | ⟨-, -, plan, hplan, hcommit⟩⟩ := applySettlement_eq_ok h
    · exact .skip _
    · exact commitSettlement_ledger hinv (prepareSettlement_eq_ok hplan) hcommit
  | beside h =>
    obtain ⟨-, _, _, _, _, _, _, _, _, _, _, _, _, _, _, rfl⟩ := h
    exact .skip _

omit [DecidableEq Fp] [Documents Fp] [SerdeJson Fp] in
theorem createReserved_eq_ok {projectId title createdAt : String} {start : Database Fp}
    (h : createReserved projectId title createdAt = .ok start) :
    ¬ blank projectId ∧ start = initialProject projectId title createdAt := by
  simp only [createReserved, TrackingState.empty, bind_eq_ok, require_eq_ok, exists_const,
    pure_eq_ok] at h
  obtain ⟨_, ⟨hproject, -⟩, rfl⟩ := h
  exact ⟨hproject, rfl⟩

omit [DecidableEq Fp] [Documents Fp] [SerdeJson Fp] in
theorem initialProject_ledger (projectId title createdAt : String) :
    (initialProject projectId title createdAt : Database Fp).ledger.Inv where
  keys := ⟨by simp [ledger, initialProject], by simp [ledger, initialProject],
    by simp [ledger, initialProject], by simp [ledger, initialProject],
    by simp [ledger, initialProject]⟩
  tracking := ⟨_, rfl, rfl, TrackingState.genesis_sealed projectId, rfl, rfl⟩
  heads := by simp [ledger, initialProject]
  packs := by simp [ledger, initialProject]
  releases := by simp [ledger, initialProject]
  dependencies := by simp [ledger, initialProject]
  spent := by simp [ledger, initialProject]
  once := by simp [ledger, initialProject]
  linked _ := rfl
  receipts := by simp [ledger, settledReceipts, initialProject]

/-- The ledger of every reachable database. -/
theorem ProjectStep.run_ledger [CollisionFree Fp] {projectId title createdAt : String}
    {start db : Database Fp} (hstart : createReserved projectId title createdAt = .ok start)
    (hrun : ReflTransGen ProjectStep start db) : db.ledger.Inv := by
  obtain ⟨-, rfl⟩ := createReserved_eq_ok hstart
  exact invariant_of_step (P := fun db => db.ledger.Inv)
    (fun _ _ hstep hinv => (hstep.ledger hinv).inv hinv) hrun
    (initialProject_ledger projectId title createdAt)

end Steps

/-! ## A sample run -/

namespace Sample

/-- A proposal text without deltas; a struct is also read from the sequence of its fields. -/
def quietText : String := "[\"met\",[],[],[],[],\"who\",\x7b\x7d,[],[],[],[],[]]"

/-- A proposal text with a world entity whose state holds a number. -/
def soundingText : String :=
  "[\"met\",[],[],[],[],\"who\",\x7b\x7d,[[\"world\",\"S\",\"sea\",\x7b\"d\":9.222222222222222\x7d,\"Lin\"]],[],[],[],[]]"

def sounding : ChapterTrackingProposal Digest :=
  { quiet with
    entityDeltas := [⟨.world, "S", "sea",
      obj [("d", .float (Binary64.reprint ⟨false, 9222222222222222, -15⟩))], "Lin"⟩] }

/-- A proposal text that tells of the same entity in another state. -/
def retoldText : String :=
  "[\"met\",[],[],[],[],\"who\",\x7b\x7d,[[\"world\",\"S\",\"bay\",\x7b\x7d,\"Lin\"]],[],[],[],[]]"

def retold : ChapterTrackingProposal Digest :=
  { quiet with entityDeltas := [⟨.world, "S", "bay", obj [], "Lin"⟩] }

instance : SerdeJson Digest where
  reprint := Binary64.reprint
  readProposal text :=
    if text = quietText then .ok quiet
    else if text = soundingText then .ok sounding
    else if text = retoldText then .ok retold
    else .error (.storage "expected value at line 1 column 1")

/-- The stages of the run, with the ids of their calls. -/
def stages : List (String × String) :=
  (releaseStages.map Prod.snd ++ ["surface_scene_0001_S1"]).zip
    ["a", "b", "c", "d", "e", "f", "g", "h", "i", "j", "k", "l", "m", "n", "o"]

def stageAnswer (text stageKey : String) : ModelResult Digest :=
  answer (if stageKey = "settlement_tracking_projection" then text else "done")

def contextFreeze : ContextFreeze Digest where
  schema := "quillframe_context_freeze_v1"
  stage := .writer
  entries := []
  totalBytes := 0
  fingerprint := Sha256.ofJson (arr [str "writer", arr [], int 0])

def candidate : CandidateArtifact Digest where
  schema := "quillframe_candidate_artifact_v1"
  candidateId := "CAND1"
  chapterId := "CH001"
  writerPackFingerprint := pack.fingerprint
  parentCandidateFingerprint := none
  revision := 1
  manuscript := manuscript
  fingerprint := Sha256.ofText manuscript

def report : ReviewReport Digest :=
  let body : ReviewReport Digest :=
    { schema := "quillframe_review_report_v1", candidateFingerprint := candidate.fingerprint,
      mode := .solo, reviewerSessions := OrderedMap.empty.insert "s1" (),
      independentContext := true, deterministicPrechecks := [], findings := [],
      disagreements := [], decision := .accept, fingerprint := .tag 0 }
  { body with fingerprint := body.computeFingerprint }

def stageReceipts (text : String) : OrderedMap String Digest :=
  OrderedMap.empty.insertMany
    ((releaseStages.map fun stage => (stage.1, (stageAnswer text stage.2).fingerprint)) ++
      [("context_freeze", Sha256.ofLink (.inl "run-1") contextFreeze.fingerprint),
        ("user_visible_gate", .tag 7),
        ("surface_scene_0001_S1", (stageAnswer text "surface_scene_0001_S1").fingerprint)])

def release (text : String) : ProductionRelease Digest :=
  let body : ProductionRelease Digest :=
    { schema := "quillframe_production_release_v2", releaseId := "REL1", candidateId := "CAND1",
      candidateFingerprint := candidate.fingerprint, taskMode := .draft,
      writerPackFingerprint := pack.fingerprint,
      trackingFingerprint := pack.trackingFingerprint,
      reviewReportFingerprint := report.fingerprint,
      stageReceiptFingerprints := stageReceipts text, releasedAt := "t5", fingerprint := .tag 0 }
  { body with fingerprint := body.computeFingerprint }

/-- Every stage is dispatched and confirmed, then the context is frozen and the candidate
released. -/
def runOps (text : String) : List (RunOp Digest) :=
  (stages.flatMap fun stage =>
    [.dispatch "run-1" (job stage.1) "o" 9 "t3" stage.2,
      .confirm ("call-" ++ stage.2) (stageAnswer text stage.1) "t4"]) ++
  [.freezeContext "run-1" .draft ⟨[], []⟩ [] ⟨[]⟩ contextFreeze "t4" "u1" "u2",
    .commit "run-1" "DOC-CH001" .draft candidate report (release text) (.error noRows) "t5"
      ⟨"r1", "c1", "e1"⟩]

def accepted (text : String) : CoreResult (Database Digest) := do
  let released ← forEach (fun db op => RunOp.exec op db) (runOps text) started
  let decision ← AcceptanceDecision.create "ACC1" "CAND1" candidate.fingerprint
    report.fingerprint "author" "k1" "t6"
  Prod.snd <$> acceptCandidate decision released

def authorize (db : Database Digest) : CoreResult (SettlementAuthorization Digest) := do
  let preflight ← settlementPreflight db "ACC1" "chapter:CH001" "t7" "p1"
  SettlementAuthorization.create preflight "SET1" "author" "k2" "t8"

def settlementIds : SettlementIds := ⟨"p2", fun _ => "i", "e2", "s1"⟩

/-- The chapter is drafted, released, accepted and settled with the proposal of the text. -/
def settled (text : String) : CoreResult (Database Digest) := do
  let db ← accepted text
  let authorization ← authorize db
  Prod.snd <$> applySettlement authorization settlementIds db

theorem create_project : createReserved "novel" "Harbour" "t0" = .ok project := by
  decide +kernel

theorem runOps_steps {ops : List (RunOp Digest)} {db db' : Database Digest}
    (h : forEach (fun db op => RunOp.exec op db) ops db = .ok db') :
    ReflTransGen ProjectStep db db' := by
  refine forEach_invariant (P := fun t => ReflTransGen ProjectStep db t) ?_ h .refl
  exact fun op _ s t hst hs => hs.tail (.run op hst)

/-- The calls of the sample, up to the settlement. -/
theorem settled_steps {text : String} {db : Database Digest} (h : settled text = .ok db) :
    ∃ before authorization settlementId, ReflTransGen ProjectStep project before ∧
      applySettlement authorization settlementIds before = .ok (settlementId, db) := by
  simp only [settled, accepted, bind_eq_ok] at h
  obtain ⟨before, ⟨released, hreleased, decision, -, haccepted⟩, authorization, -, h⟩ := h
  obtain ⟨acceptanceId, haccepted⟩ := snd_map_eq_ok haccepted
  obtain ⟨settlementId, h⟩ := snd_map_eq_ok h
  have hstarted : ReflTransGen ProjectStep project started :=
    .tail (.single (.freezePack _ _ _ _ freeze_project)) (.start _ _ start_frozen)
  exact ⟨before, authorization, settlementId,
    (hstarted.trans (runOps_steps hreleased)).tail (.accept _ _ haccepted), h⟩

/-- The settlement succeeds, but the number it recorded is read back as another one. -/
theorem settled_sounding :
    (settled soundingText).map (fun db => (db.settlements.length, db.verifyStoryHistory)) =
      .ok (1, .error (.authorityConflict "story event fingerprint changed")) := by
  decide +kernel

/-- A database in which the sample chapter can be settled, and the settlement. -/
theorem exists_settled : ∃ before authorization settlementId db,
    ReflTransGen ProjectStep project before ∧
    applySettlement authorization settlementIds before = .ok (settlementId, db) ∧
    db.settlements.length = 1 ∧
    db.verifyStoryHistory = .error (.authorityConflict "story event fingerprint changed") := by
  obtain ⟨db, hdb, hfacts⟩ := map_eq_ok.mp settled_sounding
  obtain ⟨before, authorization, settlementId, hrun, h⟩ := settled_steps hdb
  exact ⟨before, authorization, settlementId, db, hrun, h, (Prod.mk.inj hfacts).1,
    (Prod.mk.inj hfacts).2⟩

end Sample

/-! ## Settlements over every run -/

section Settlements

variable [Sha256 Fp] [DecidableEq Fp] [Documents Fp] [SerdeJson Fp] [CollisionFree Fp]

variable {projectId title createdAt : String} {start db : Database Fp}

/-- Every acceptance is settled at most once, the settlements of a target lead from no head to
its current one, and a settlement that is applied replaces exactly the head it expects. -/
theorem settlements_once (hstart : createReserved projectId title createdAt = .ok start)
    (hrun : ReflTransGen ProjectStep start db) :
    (db.settlements.map (·.acceptanceId)).Nodup ∧
    (∀ targetRef, HashChain.Linked (Sha256.ofText "")
      ((db.settlements.filter fun row => row.targetRef = targetRef).map fun row =>
        (row.beforeFingerprint, row.afterFingerprint))
      ((db.canonHead targetRef).getD (Sha256.ofText ""))) ∧
    ∀ authorization ids settlementId db',
      applySettlement authorization ids db = .ok (settlementId, db') →
      -- a replay answers for a settlement that is there
      (db' = db ∧ ∃ row ∈ db.settlements, row.settlementId = settlementId ∧
        row.receipt.fingerprint = authorization.fingerprint) ∨
      (db.canonHead authorization.targetRef = some authorization.expectedBeforeFingerprint ∨
        db.canonHead authorization.targetRef = none ∧
          authorization.expectedBeforeFingerprint = Sha256.ofText "") ∧
      (∀ row ∈ db.settlements, row.acceptanceId ≠ authorization.acceptanceId) ∧
      (∃ row, db'.settlements = db.settlements ++ [row] ∧ row.settlementId = settlementId ∧
        row.acceptanceId = authorization.acceptanceId ∧
        row.targetRef = authorization.targetRef ∧
        row.beforeFingerprint = authorization.expectedBeforeFingerprint ∧
        db'.canonHead authorization.targetRef = some row.afterFingerprint) ∧
      ∀ other, other ≠ authorization.targetRef → db'.canonHead other = db.canonHead other := by
  have hinv := ProjectStep.run_ledger hstart hrun
  refine ⟨hinv.once, hinv.linked, fun authorization ids settlementId db' h => ?_⟩
  obtain ⟨-, ⟨receipt, prior, hreceipt, hpayload, hfp, rfl, rfl⟩ | ⟨-, rfl, plan, hplan, hcommit⟩⟩ :=
    applySettlement_eq_ok h
  · have hprior : prior ∈ db'.ledger.receipts := by
      refine List.mem_filterMap.mpr ⟨receipt, Table.lookup_mem hreceipt, ?_⟩
      rw [hpayload]
      rfl
    obtain ⟨row, hrow, rfl, hid⟩ := hinv.receipts prior hprior
    exact .inl ⟨rfl, row, hrow, hid, hfp⟩
  · replace hplan := prepareSettlement_eq_ok hplan
    obtain ⟨tracking, next, -, -, -, -, hledger⟩ := commitSettlement_effects hinv hplan hcommit
    have honce := ((commitSettlement_ledger hinv hplan hcommit).inv hinv).once
    have hhead : ∀ targetRef, db'.canonHead targetRef =
        if targetRef = authorization.targetRef then some plan.afterHead
        else db.canonHead targetRef := by
      intro targetRef
      rw [← hplan.targetRef]
      exact Ledger.head_of_upsert (congrArg Ledger.canonState hledger) targetRef
    have hsettlements : db'.settlements = db.settlements ++ [plan.settlementRow authorization] :=
      congrArg Ledger.settlements hledger
    have hbefore := hplan.before
    rw [hplan.expected, hplan.targetRef] at hbefore
    refine .inr ⟨?_, ?_, ⟨_, hsettlements, rfl, hplan.acceptanceId, hplan.targetRef,
      hplan.expected, ?_⟩, fun other hother => ?_⟩
    · cases hcase : db.canonHead authorization.targetRef with
      | none => exact .inr ⟨rfl, by rw [hbefore, hcase, Option.getD_none]⟩
      | some head => exact .inl (by rw [hbefore, hcase, Option.getD_some])
    · intro row hrow hsame
      change (db'.settlements.map (·.acceptanceId)).Nodup at honce
      rw [hsettlements, List.map_append, List.map_singleton] at honce
      refine (List.disjoint_of_nodup_append honce) (List.mem_map_of_mem hrow) ?_
      rw [hsame, ← hplan.acceptanceId]
      exact List.mem_singleton_self _
    · rw [hhead, if_pos rfl]
      rfl
    · rw [hhead, if_neg hother]

theorem settlements_once_sample :
    ∃ db : Database Digest, createReserved "novel" "Harbour" "t0" = .ok Sample.project ∧
      ReflTransGen ProjectStep Sample.project db ∧ db.settlements.length = 1 ∧
      (db.settlements.map (·.acceptanceId)).Nodup ∧
      ∀ targetRef, HashChain.Linked (Sha256.ofText "")
        ((db.settlements.filter fun row => row.targetRef = targetRef).map fun row =>
          (row.beforeFingerprint, row.afterFingerprint))
        ((db.canonHead targetRef).getD (Sha256.ofText "")) := by
  obtain ⟨before, authorization, settlementId, db, hrun, h, hlength, -⟩ := Sample.exists_settled
  have hsettled := hrun.tail (ProjectStep.settle _ _ _ h)
  obtain ⟨honce, hlinked, -⟩ := settlements_once Sample.create_project hsettled
  exact ⟨db, Sample.create_project, hsettled, hlength, honce, hlinked⟩

/-! ### Dependencies -/

/-- Dependencies marked current carry the head of their source. A settlement that changes the
head of a chapter marks exactly the current dependencies on it, puts the frozen contexts of their
runs in conflict, and invalidates exactly their chapters. -/
theorem dependencies_current (hstart : createReserved projectId title createdAt = .ok start)
    (hrun : ReflTransGen ProjectStep start db) :
    db.DependenciesCurrent ∧
    ∀ authorization ids settlementId db',
      applySettlement authorization ids db = .ok (settlementId, db') →
      ∀ chapterId, db'.chapterHead chapterId ≠ db.chapterHead chapterId →
      let affected := db.chapterDependencies.filter fun row =>
        row.sourceChapterId = chapterId ∧ row.status = .current
      db'.chapterDependencies = Table.updateWhere
        (fun row => row.sourceChapterId = chapterId ∧ row.status = .current)
        (fun row => { row with status := .stale, updatedAt := authorization.createdAt })
        db.chapterDependencies ∧
      db'.contextFreezes = Table.updateWhere
        (fun freeze => freeze.runId ∈ affected.map (·.runId) ∧ freeze.status = .frozen)
        (fun freeze => { freeze with status := .staleConflict }) db.contextFreezes ∧
      ∃ before after,
        Table.lookup TrackingRow.projectId db.projectId db.trackingAuthority = some before ∧
        Table.lookup TrackingRow.projectId db'.projectId db'.trackingAuthority = some after ∧
        ∀ other, other ∈ after.payload.invalidatedChapters ↔
          other ∈ affected.map (·.chapterId) ∨
            other ≠ chapterId ∧ other ∈ before.payload.invalidatedChapters := by
  have hinv := ProjectStep.run_ledger hstart hrun
  refine ⟨hinv.dependencies, fun authorization ids settlementId db' h chapterId hchanged => ?_⟩
  obtain ⟨-, ⟨_, _, -, -, -, -, rfl⟩ | ⟨-, -, plan, hplan, hcommit⟩⟩ := applySettlement_eq_ok h
  · exact absurd rfl hchanged
  replace hplan := prepareSettlement_eq_ok hplan
  obtain ⟨tracking, next, hsingle, hpayload, hnext, hfreezes, hledger⟩ :=
    commitSettlement_effects hinv hplan hcommit
  have hhead := Ledger.head_of_upsert (congrArg Ledger.canonState hledger) (chapterRef chapterId)
  change db'.chapterHead chapterId = if chapterRef chapterId = plan.preflight.targetRef then
    some plan.afterHead else db.chapterHead chapterId at hhead
  -- only the head of the settled chapter changes
  obtain rfl : chapterId = plan.chapterId := by
    by_contra hne
    rw [if_neg fun he => hne (chapterRef_injective (he.trans hplan.target))] at hhead
    exact hchanged hhead
  rw [if_pos hplan.target.symm] at hhead
  have hstale : ∀ row ∈ db.chapterDependencies, plan.stale row =
      decide (row.sourceChapterId = plan.chapterId ∧ row.status = .current) := by
    intro row hrow
    refine Bool.eq_iff_iff.mpr ?_
    simp only [SettlementPlan.stale, SettlementPlan.ChangesHead, DependencyRow.affectedBy,
      decide_eq_true_eq]
    refine ⟨fun hrow => ⟨hrow.2.1, hrow.2.2.2⟩, ?_⟩
    rintro ⟨hsource, hstatus⟩
    -- a current row carries the head, which is the one before the settlement
    have hcurrent : db.chapterHead plan.chapterId = some row.sourceFingerprint :=
      hsource ▸ hinv.dependencies row hrow hstatus
    have hbefore : plan.preflight.beforeFingerprint = row.sourceFingerprint := by
      have hbefore := hplan.before
      rw [hplan.target] at hbefore
      exact hbefore.trans (congrArg (Option.getD · _) hcurrent)
    obtain ⟨value, hvalue⟩ := Ledger.head_eq_ofJson hinv.heads hcurrent
    refine ⟨⟨?_, fun hsame => hchanged ?_⟩, hsource, hbefore.symm, hstatus⟩
    · rw [hbefore, hvalue]
      exact CollisionFree.ofJson_ne_empty value
    · rw [hhead, hcurrent, ← hbefore, hsame]
  have haffected : db.chapterDependencies.filter plan.stale =
      db.chapterDependencies.filter fun row =>
        row.sourceChapterId = plan.chapterId ∧ row.status = .current :=
    List.filter_congr hstale
  have hproject : tracking.projectId = db.projectId := by
    obtain ⟨row, hrow, hproject, -⟩ := hinv.tracking
    rwa [List.singleton_inj.mp (hsingle.symm.trans hrow)]
  refine ⟨?_, ?_, tracking, { tracking with
    version := next.version, payload := next, contentFingerprint := next.fingerprint,
    updatedAt := authorization.createdAt }, ?_, ?_, fun other => ?_⟩
  · refine (congrArg Ledger.dependencies hledger).trans (List.map_congr_left fun row hrow => ?_)
    rw [hstale row hrow]
  · rw [hfreezes, haffected]
    rfl
  · rw [hsingle]
    simp [Table.lookup, hproject]
  · rw [show db'.trackingAuthority = _ from congrArg Ledger.tracking hledger,
      show db'.projectId = _ from congrArg Ledger.projectId hledger]
    simp [Table.lookup, hproject, ledger]
  · obtain ⟨-, -, -, -, -, hmem⟩ := TrackingState.invalidate_eq_ok hnext
      (hplan.recorded ▸ TrackingState.refreshFingerprint_sealed _)
    rw [hmem, haffected, hplan.recorded, ← hpayload]
    exact or_congr Iff.rfl OrderedMap.mem_erase

theorem dependencies_current_sample :
    ∃ db : Database Digest, createReserved "novel" "Harbour" "t0" = .ok Sample.project ∧
      ReflTransGen ProjectStep Sample.project db ∧ db.settlements.length = 1 ∧
      db.DependenciesCurrent := by
  obtain ⟨before, authorization, settlementId, db, hrun, h, hlength, -⟩ := Sample.exists_settled
  have hsettled := hrun.tail (ProjectStep.settle _ _ _ h)
  exact ⟨db, Sample.create_project, hsettled, hlength,
    (dependencies_current Sample.create_project hsettled).1⟩

/-! ### Context -/

/-- An authorization is applied, not replayed, at a moment. -/
def Applied (moment moment' : Database Fp) (authorization : SettlementAuthorization Fp) : Prop :=
  moment.receipt? authorization.idempotencyKey = none ∧
    ∃ ids, applySettlement authorization ids moment = .ok (authorization.settlementId, moment')

omit [CollisionFree Fp] in
/-- Only an applied settlement writes the receipt of one. -/
theorem ProjectStep.receipts {db db' : Database Fp} (h : ProjectStep db db')
    (hinv : db.ledger.Inv) :
    db'.ledger.receipts = db.ledger.receipts ∨
      ∃ authorization, Applied db db' authorization ∧
        db'.ledger.receipts = db.ledger.receipts ++ [authorization] := by
  cases h with
  | freezePack _ _ _ _ h =>
    obtain ⟨-, -, rfl | ⟨row, -, -, -, -, rfl⟩⟩ := freezeWriterPackForChapter_eq_ok h
    all_goals exact .inl rfl
  | start _ _ h =>
    obtain rfl | ⟨_, _, _, _, -, -, -, -, -, -, -, -, -, -, -, rfl⟩ := startProduction_eq_ok h
    all_goals exact .inl rfl
  | run op h =>
    obtain hsame | ⟨_, _, _, _, _, _, _, hcancel⟩ := op.receipts_of_exec h
    · exact .inl (congrArg settledReceipts hsame)
    · obtain ⟨rfl, -⟩ | ⟨-, -, _, receipt, _, -, hpayload, rfl⟩ := cancelProduction_eq_ok hcancel
      · exact .inl rfl
      · refine .inl (settledReceipts_append_other _ ?_)
        rw [hpayload]
        rfl
  | accept _ _ h =>
    obtain rfl | ⟨_, receipt, -, hpayload, rfl⟩ := acceptCandidate_eq_ok h
    · exact .inl rfl
    · refine .inl (settledReceipts_append_other _ ?_)
      rw [hpayload]
      rfl
  | preflight => exact .inl rfl
  | settle authorization ids settlementId h =>
    obtain ⟨-, ⟨_, _, -, -, -, -, rfl⟩ | ⟨hnone, rfl, plan, hplan, hcommit⟩⟩ :=
      applySettlement_eq_ok h
    · exact .inl rfl
    · obtain ⟨_, _, -, -, -, -, hledger⟩ :=
        commitSettlement_effects hinv (prepareSettlement_eq_ok hplan) hcommit
      exact .inr ⟨authorization, ⟨hnone, ids, h⟩, congrArg Ledger.receipts hledger⟩
  | beside h =>
    obtain ⟨-, _, _, _, _, _, _, _, _, _, _, _, _, _, _, rfl⟩ := h
    exact .inl rfl

/-- Every receipt of a settlement goes back to the moment it was applied. -/
theorem applied_of_receipt (hstart : createReserved projectId title createdAt = .ok start)
    (hrun : ReflTransGen ProjectStep start db) {authorization : SettlementAuthorization Fp}
    (h : authorization ∈ db.ledger.receipts) :
    ∃ moment moment', ReflTransGen ProjectStep start moment ∧
      Applied moment moment' authorization ∧ ReflTransGen ProjectStep moment' db := by
  induction hrun with
  | refl =>
    obtain ⟨-, rfl⟩ := createReserved_eq_ok hstart
    simp [ledger, settledReceipts, initialProject] at h
  | @tail mid final hrun hstep ih =>
    have hold : authorization ∈ mid.ledger.receipts → ∃ moment moment',
        ReflTransGen ProjectStep start moment ∧ Applied moment moment' authorization ∧
          ReflTransGen ProjectStep moment' final := by
      intro hmem
      obtain ⟨moment, moment', hbefore, happlied, hafter⟩ := ih hmem
      exact ⟨moment, moment', hbefore, happlied, hafter.tail hstep⟩
    rcases hstep.receipts (ProjectStep.run_ledger hstart hrun) with hsame | ⟨new, happlied, happend⟩
    · exact hold (hsame ▸ h)
    · rw [happend] at h
      rcases List.mem_append.mp h with hmem | hnew
      · exact hold hmem
      · obtain rfl := List.mem_singleton.mp hnew
        exact ⟨mid, final, hrun, happlied, .refl⟩

/-- The tracking state is the one frozen in the Writer Pack of the run, and its continuity and
the dependencies of the run name the canon heads. -/
def Database.ContextCurrent (db : Database Fp) (runId : String) : Prop :=
  ∃ execution frozen tracking, db.execution? runId = some execution ∧
    Table.lookup WriterPackRow.writerPackFingerprint execution.request.writerPackFingerprint
      db.writerPackFreezes = some frozen ∧
    Table.lookup TrackingRow.projectId db.projectId db.trackingAuthority = some tracking ∧
    tracking.payload.fingerprint = frozen.payload.trackingFingerprint ∧
    (∀ state : TrackingState Fp, state.Sealed →
      state.fingerprint = frozen.payload.trackingFingerprint → state = tracking.payload) ∧
    (∀ entry ∈ frozen.payload.continuityContext,
      db.chapterHead entry.record.chapterId = some entry.canonHeadFingerprint) ∧
    ∀ row ∈ db.chapterDependencies, row.runId = runId →
      db.chapterHead row.sourceChapterId = some row.sourceFingerprint

omit [Documents Fp] in
theorem Database.Prepared.contextCurrent (hinv : db.ledger.Inv)
    {authorization : SettlementAuthorization Fp} {plan : SettlementPlan Fp}
    (hplan : db.Prepared authorization plan) : db.ContextCurrent plan.runId := by
  obtain ⟨candidate, hcandidate, hrun, -⟩ := hplan.candidate
  obtain ⟨release, hrelease, hreleaseId, -, htracking⟩ := hplan.release
  obtain ⟨tracking, hlookup, hpayload⟩ := hplan.tracking
  obtain ⟨found, hfound, hfoundId, runId, request, hfoundRun, hrequest, pack, hpack, hpackFp,
    hpackTracking⟩ := hinv.releases release hrelease
  -- the released candidate is the one that is settled
  obtain rfl : found = (candidate.candidateId, candidate.runId, candidate.contentFingerprint) := by
    refine Table.eq_of_key_eq hinv.keys.candidates hfound ?_
      (hfoundId.trans (hreleaseId.trans (Table.lookup_key hcandidate).symm))
    exact List.mem_map.mpr ⟨candidate, Table.lookup_mem hcandidate, rfl⟩
  obtain rfl : plan.runId = runId := Option.some.inj (hrun.symm.trans hfoundRun)
  obtain ⟨execution, hexecution, hpair⟩ := List.mem_map.mp hrequest
  obtain ⟨hrunId, rfl⟩ := Prod.mk.inj hpair
  have hexecutions : (db.productionExecutions.map (·.runId)).Nodup := by
    have := hinv.keys.requests
    simpa [ledger, Function.comp_def] using this
  obtain ⟨hcurrent, hheads⟩ := hinv.continues (Table.lookup_mem hlookup) hpack
    (hpackTracking.trans (htracking.trans (congrArg _ hpayload.symm)))
  refine ⟨execution, pack, tracking, ?_, ?_, hlookup, hcurrent.symm, ?_, hheads,
    fun row hrow hid => (hplan.current row hrow hid).2⟩
  · rw [← hrunId]
    exact Table.lookup_of_mem hexecutions hexecution
  · rw [← hpackFp]
    exact Table.lookup_of_mem hinv.keys.packs hpack
  · intro state hstate hfp
    have hsealed : tracking.payload.Sealed := hpayload ▸ hplan.trackingSealed
    exact hstate.eq_of_fingerprint_eq hsealed (hfp.trans hcurrent)

/-- Whatever a settlement answers, at the moment it was applied (now, unless this call is a
replay) the candidate's run was written against the current context. -/
theorem settlement_context_current
    (hstart : createReserved projectId title createdAt = .ok start)
    (hrun : ReflTransGen ProjectStep start db) {authorization : SettlementAuthorization Fp}
    {ids : SettlementIds} {settlementId : String} {db' : Database Fp}
    (h : applySettlement authorization ids db = .ok (settlementId, db')) :
    ∃ moment moment', ReflTransGen ProjectStep start moment ∧
      Applied moment moment' authorization ∧ settlementId = authorization.settlementId ∧
      (moment = db ∧ moment' = db' ∨
        db' = db ∧ ReflTransGen ProjectStep moment' db) ∧
      ∃ acceptance candidate runId, Table.lookup AcceptanceRow.acceptanceId
          authorization.acceptanceId moment.acceptanceEvidence = some acceptance ∧
        moment.candidate? acceptance.candidateId = some candidate ∧
        candidate.runId = some runId ∧ moment.ContextCurrent runId := by
  have hcontext : ∀ moment moment', ReflTransGen ProjectStep start moment →
      Applied moment moment' authorization →
      ∃ acceptance candidate runId, Table.lookup AcceptanceRow.acceptanceId
          authorization.acceptanceId moment.acceptanceEvidence = some acceptance ∧
        moment.candidate? acceptance.candidateId = some candidate ∧
        candidate.runId = some runId ∧ moment.ContextCurrent runId := by
    rintro moment moment' hmoment ⟨hnone, ids, happlied⟩
    have hinv := ProjectStep.run_ledger hstart hmoment
    obtain ⟨-, ⟨_, _, hsome, -⟩ | ⟨-, -, plan, hplan, -⟩⟩ := applySettlement_eq_ok happlied
    · simp [hnone] at hsome
    replace hplan := prepareSettlement_eq_ok hplan
    obtain ⟨acceptance, hacceptance, hid, hcandidateId, -⟩ := hplan.acceptance
    obtain ⟨candidate, hcandidate, hcandidateRun, -⟩ := hplan.candidate
    refine ⟨acceptance, candidate, plan.runId, ?_, hcandidateId ▸ hcandidate, hcandidateRun,
      hplan.contextCurrent hinv⟩
    rw [← hplan.acceptanceId, ← hid]
    exact Table.lookup_of_mem hinv.keys.acceptances hacceptance
  obtain ⟨hvalid, ⟨receipt, prior, hreceipt, hpayload, hfp, rfl, rfl⟩ | ⟨hnone, rfl, -⟩⟩ :=
    applySettlement_eq_ok h
  · have hprior : prior ∈ db'.ledger.receipts := by
      refine List.mem_filterMap.mpr ⟨receipt, Table.lookup_mem hreceipt, ?_⟩
      rw [hpayload]
      rfl
    obtain ⟨moment, moment', hbefore, happlied, hafter⟩ := applied_of_receipt hstart hrun hprior
    obtain ⟨-, _, hprior⟩ := id happlied
    obtain rfl := SettlementAuthorization.eq_of_validate (applySettlement_eq_ok hprior).1 hvalid hfp
    exact ⟨moment, moment', hbefore, happlied, rfl, .inr ⟨rfl, hafter⟩,
      hcontext moment moment' hbefore happlied⟩
  · exact ⟨db, db', hrun, ⟨hnone, ids, h⟩, rfl, .inl ⟨rfl, rfl⟩,
      hcontext db db' hrun ⟨hnone, ids, h⟩⟩

theorem settlement_context_current_sample :
    ∃ (before db : Database Digest) (authorization : SettlementAuthorization Digest)
      (settlementId : String),
      ReflTransGen ProjectStep Sample.project before ∧
      applySettlement authorization Sample.settlementIds before = .ok (settlementId, db) ∧
      ∃ moment moment', ReflTransGen ProjectStep Sample.project moment ∧
        Applied moment moment' authorization ∧ ∃ runId, moment.ContextCurrent runId := by
  obtain ⟨before, authorization, settlementId, db, hrun, h, -, -⟩ := Sample.exists_settled
  obtain ⟨moment, moment', hmoment, happlied, -, -, _, _, runId, -, -, -, hcurrent⟩ :=
    settlement_context_current Sample.create_project hrun h
  exact ⟨before, db, authorization, settlementId, hrun, h, moment, moment', hmoment, happlied,
    runId, hcurrent⟩

end Settlements

end Quillframe
