import Quillframe.Project
import Quillframe.Stages

/-!
# Production runs

Freezing a Writer Pack, starting a run, freezing its writer context and releasing its candidate.
-/
namespace Quillframe

open Json (str int fp obj arr)
open Database

variable {Fp : Type}

/-- The story node of a manuscript document. -/
def Database.manuscriptChapter (db : Database Fp) (documentId : String) : CoreResult String := do
  let document ← fetch (db.documents.find? fun document =>
    document.documentId = documentId ∧ document.documentKind = .manuscript) noRows
  fetch document.storyNodeId (nullColumn "story_node_id")

/-- `load_tracking_state` for the project. -/
def Database.loadTrackingState [Sha256 Fp] [DecidableEq Fp] (db : Database Fp) :
    CoreResult (Option (TrackingState Fp)) :=
  match Table.lookup TrackingRow.projectId db.projectId db.trackingAuthority with
  | none => return none
  | some row => do
    row.payload.validate
    return some row.payload

/-! ## Freezing a Writer Pack -/

/-- What the plan and book-setup tables answer while a Writer Pack is frozen. -/
structure PlanningView (Fp : Type) where
  planLock : CoreResult (Json Fp)
  planFingerprint : Fp
  approvedSetupFingerprint : CoreResult Fp
  readerPressure : String
  bindings : CoreResult Unit

section Packs

variable [Sha256 Fp] [DecidableEq Fp] [Documents Fp]

/-- One tracking record of the continuity window: the entry must be settled and current. -/
def Database.continuityEntry (db : Database Fp) (tracking : TrackingState Fp)
    (record : ChapterTrackingRecord Fp) : CoreResult (WriterContinuityEntry Fp) := do
  require (record.chapterId ∉ tracking.invalidatedChapters)
    (.authorityConflict ("settled continuity for " ++ record.chapterId ++ " is invalidated"))
  let canon ← fetch
    (Table.lookup CanonRow.stateKey (chapterRef record.chapterId) db.canonState) noRows
  require ((canon.value.get? "content_fingerprint").bind Json.asFp =
      some record.sourceCandidateFingerprint)
    (.authorityConflict "tracking record does not match settled Canon")
  return { record, canonHeadFingerprint := canon.contentFingerprint }

def planContextEntry (chapterId : String) (view : PlanningView Fp) (planLock : Json Fp) :
    ContextEntry Fp :=
  let summary := Documents.render planLock
  { reference := "active-plan-chain:" ++ chapterId, tier := .settledLedger,
    fingerprint := view.planFingerprint, summary, byteSize := summary.utf8ByteSize,
    sourceChapterId := none, sourceHeadFingerprint := none, allowedStages := [.writer],
    containsManuscriptBody := false, containsPrivateState := false,
    containsCorpusIdentity := false }

def continuityContextEntry (entry : WriterContinuityEntry Fp) : ContextEntry Fp :=
  let summary := Documents.render entry.record.toJson
  { reference := "tracking:" ++ entry.record.chapterId, tier := .settledLedger,
    fingerprint := entry.record.sourceCandidateFingerprint, summary,
    byteSize := summary.utf8ByteSize, sourceChapterId := some entry.record.chapterId,
    sourceHeadFingerprint := some entry.canonHeadFingerprint, allowedStages := [.writer],
    containsManuscriptBody := false, containsPrivateState := false,
    containsCorpusIdentity := false }

/-- The at most twelve latest records, by reading order. -/
def TrackingState.continuityWindow (tracking : TrackingState Fp) :
    List (ChapterTrackingRecord Fp) :=
  (tracking.chapters.values.insertionSort
    fun a b => b.readingOrder ≤ a.readingOrder).take 12

/-- One record of the window: its context entry is selected and its continuity entry kept. -/
def Database.freezeRecord (db : Database Fp) (tracking : TrackingState Fp)
    (acc : List (ContextEntry Fp) × List (WriterContinuityEntry Fp))
    (record : ChapterTrackingRecord Fp) :
    CoreResult (List (ContextEntry Fp) × List (WriterContinuityEntry Fp)) := do
  let entry ← db.continuityEntry tracking record
  let context ← ContextManifest.select acc.1 (continuityContextEntry entry)
  return (context, acc.2 ++ [entry])

def saveWriterPack (view : PlanningView Fp) (pack : WriterPack Fp) (createdAt : String)
    (db : Database Fp) : CoreResult (Unit × Database Fp) := do
  pack.validate
  requireTimestamp createdAt
  match Table.lookup WriterPackRow.writerPackFingerprint pack.fingerprint
      db.writerPackFreezes with
  | some frozen =>
    frozen.payload.validate
    require (frozen.payload.fingerprint = pack.fingerprint)
      (.authorityConflict "Writer Pack fingerprint binds different frozen material")
    view.bindings
    return ((), db)
  | none =>
    require (pack.chapterId ∈ db.storyNodes.map (·.nodeId)) foreignKeyFailed
    return ((), { db with
      writerPackFreezes := db.writerPackFreezes ++
        [{ writerPackFingerprint := pack.fingerprint, chapterId := pack.chapterId,
           activePlanFingerprint := pack.activePlanFingerprint,
           contextFreezeFingerprint := pack.contextFreezeFingerprint,
           trackingFingerprint := pack.trackingFingerprint, payload := pack, createdAt }] })

def freezeWriterPackForChapter (view : PlanningView Fp) (chapterId createdAt : String)
    (db : Database Fp) : CoreResult (WriterPack Fp × Database Fp) := do
  requireTimestamp createdAt
  let planLock ← view.planLock
  let setup ← view.approvedSetupFingerprint
  let tracking ← fetch (← db.loadTrackingState)
    (.authorityConflict "tracking authority is unavailable")
  let context ← ContextManifest.select [] (planContextEntry chapterId view planLock)
  let (context, continuity) ←
    forEach (db.freezeRecord tracking) tracking.continuityWindow (context, [])
  let freeze ← ContextManifest.freeze context .writer 16 (12 * 1024)
  let pack ← WriterPack.freeze chapterId planLock setup freeze.fingerprint tracking.fingerprint
    view.readerPressure continuity []
  let (_, db) ← saveWriterPack view pack createdAt db
  return (pack, db)

/-- Saving a pack finds it or appends it. -/
theorem saveWriterPack_eq_ok {view : PlanningView Fp} {pack : WriterPack Fp} {createdAt : String}
    {u : Unit} {db db' : Database Fp} (h : saveWriterPack view pack createdAt db = .ok (u, db')) :
    db' = db ∨ ∃ row : WriterPackRow Fp, row.payload = pack ∧
      row.writerPackFingerprint = pack.fingerprint ∧
      row.trackingFingerprint = pack.trackingFingerprint ∧
      (∀ other ∈ db.writerPackFreezes,
        other.writerPackFingerprint ≠ row.writerPackFingerprint) ∧
      db' = { db with writerPackFreezes := db.writerPackFreezes ++ [row] } := by
  simp only [saveWriterPack, bind_eq_ok] at h
  obtain ⟨_, -, _, -, h⟩ := h
  split at h
  · simp only [bind_eq_ok, require_eq_ok, exists_const, pure_eq_ok, Prod.mk.injEq] at h
    obtain ⟨_, -, -, _, -, -, rfl⟩ := h
    exact .inl rfl
  · rename_i hnone
    simp only [bind_eq_ok, require_eq_ok, exists_const, pure_eq_ok, Prod.mk.injEq] at h
    obtain ⟨-, -, rfl⟩ := h
    exact .inr ⟨_, rfl, rfl, rfl, Table.lookup_eq_none.mp hnone, rfl⟩

omit [Sha256 Fp] [Documents Fp] in
theorem Database.continuityEntry_eq_ok {db : Database Fp} {tracking : TrackingState Fp}
    {record : ChapterTrackingRecord Fp} {entry : WriterContinuityEntry Fp}
    (h : db.continuityEntry tracking record = .ok entry) :
    db.chapterHead entry.record.chapterId = some entry.canonHeadFingerprint := by
  simp only [continuityEntry, bind_eq_ok, require_eq_ok, exists_const, fetch_eq_ok,
    pure_eq_ok] at h
  obtain ⟨-, canon, hcanon, -, rfl⟩ := h
  simp [chapterHead, canonHead, hcanon]

omit [Sha256 Fp] in
theorem Database.freezeRecord_heads {db : Database Fp} {tracking : TrackingState Fp}
    {records : List (ChapterTrackingRecord Fp)}
    {acc result : List (ContextEntry Fp) × List (WriterContinuityEntry Fp)}
    (h : forEach (db.freezeRecord tracking) records acc = .ok result)
    (hacc : ∀ entry ∈ acc.2,
      db.chapterHead entry.record.chapterId = some entry.canonHeadFingerprint) :
    ∀ entry ∈ result.2,
      db.chapterHead entry.record.chapterId = some entry.canonHeadFingerprint := by
  refine forEach_invariant (P := fun acc => ∀ entry ∈ acc.2,
    db.chapterHead entry.record.chapterId = some entry.canonHeadFingerprint) ?_ h hacc
  intro record _ acc next hnext hacc entry hentry
  simp only [freezeRecord, bind_eq_ok, pure_eq_ok] at hnext
  obtain ⟨new, hnew, context, -, rfl⟩ := hnext
  rcases List.mem_append.mp hentry with hentry | hentry
  · exact hacc entry hentry
  · exact List.mem_singleton.mp hentry ▸ continuityEntry_eq_ok hnew

omit [DecidableEq Fp] in
/-- A frozen pack: its own fields, and what it took from the tracking state and the canon. -/
theorem WriterPack.freeze_eq_ok {chapterId : String} {planLock : Json Fp}
    {setup context tracking : Fp} {readerPressure : String}
    {continuity : List (WriterContinuityEntry Fp)} {corpus : List (Json Fp)}
    {pack : WriterPack Fp}
    (h : WriterPack.freeze chapterId planLock setup context tracking readerPressure continuity
      corpus = .ok pack) :
    pack.chapterId = chapterId ∧ pack.trackingFingerprint = tracking ∧
      pack.continuityContext = continuity := by
  simp only [WriterPack.freeze, bind_eq_ok, pure_eq_ok] at h
  obtain ⟨_, -, _, -, _, -, _, -, _, -, _, -, _, -, _, -, _, -, _, -, _, -, rfl⟩ := h
  exact ⟨rfl, rfl, rfl⟩

/-- Freezing reads the current tracking state and canon heads into the pack it stores. -/
theorem freezeWriterPackForChapter_eq_ok {view : PlanningView Fp} {chapterId createdAt : String}
    {pack : WriterPack Fp} {db db' : Database Fp}
    (h : freezeWriterPackForChapter view chapterId createdAt db = .ok (pack, db')) :
    (∃ row, Table.lookup TrackingRow.projectId db.projectId db.trackingAuthority = some row ∧
      row.payload.Sealed ∧ pack.trackingFingerprint = row.payload.fingerprint) ∧
    (∀ entry ∈ pack.continuityContext,
      db.chapterHead entry.record.chapterId = some entry.canonHeadFingerprint) ∧
    (db' = db ∨ ∃ row : WriterPackRow Fp, row.payload = pack ∧
      row.writerPackFingerprint = pack.fingerprint ∧
      row.trackingFingerprint = pack.trackingFingerprint ∧
      (∀ other ∈ db.writerPackFreezes,
        other.writerPackFingerprint ≠ row.writerPackFingerprint) ∧
      db' = { db with writerPackFreezes := db.writerPackFreezes ++ [row] }) := by
  simp only [freezeWriterPackForChapter, bind_eq_ok, fetch_eq_ok, pure_eq_ok, Prod.exists,
    Prod.mk.injEq] at h
  obtain ⟨_, -, planLock, -, setup, -, loaded, hloaded, tracking, rfl, context, -, selected,
    continuity, hcontinuity, freeze, -, frozen, hpack, _, saved, hsaved, rfl, rfl⟩ := h
  obtain ⟨-, htracking, hentries⟩ := WriterPack.freeze_eq_ok hpack
  refine ⟨?_, ?_, saveWriterPack_eq_ok hsaved⟩
  · rw [loadTrackingState] at hloaded
    split at hloaded
    · simp at hloaded
    · rename_i row hrow
      simp only [bind_eq_ok, pure_eq_ok, Option.some.injEq] at hloaded
      obtain ⟨_, hvalid, rfl⟩ := hloaded
      exact ⟨row, hrow, TrackingState.validate_sealed hvalid, htracking⟩
  · rw [hentries]
    exact freezeRecord_heads hcontinuity (by simp)

end Packs

/-! ## Starting a run -/

section Start

variable [DecidableEq Fp]

def Database.insertDependency (row : DependencyRow Fp) (db : Database Fp) :
    CoreResult (Database Fp) := do
  require (row.chapterId ≠ row.sourceChapterId) (checkFailed "chapter_id != source_chapter_id")
  require ((row.chapterId, row.sourceChapterId, row.runId) ∉
      db.chapterDependencies.map fun other => (other.chapterId, other.sourceChapterId, other.runId))
    (uniqueFailed "chapter_dependencies.chapter_id, source_chapter_id, run_id")
  require (row.chapterId ∈ db.storyNodes.map (·.nodeId) ∧
      row.sourceChapterId ∈ db.storyNodes.map (·.nodeId) ∧ row.runId ∈ db.runs.map (·.runId))
    foreignKeyFailed
  return { db with chapterDependencies := db.chapterDependencies ++ [row] }

/-- One continuity entry of the pack becomes a dependency of the run. -/
def bindContinuity (runId targetChapter createdAt : String) (db : Database Fp)
    (entry : WriterContinuityEntry Fp) : CoreResult (Database Fp) := do
  require (db.chapterHead entry.record.chapterId = some entry.canonHeadFingerprint)
    (.authorityConflict "settled continuity changed before production activation")
  db.insertDependency
    { chapterId := targetChapter, sourceChapterId := entry.record.chapterId,
      sourceFingerprint := entry.canonHeadFingerprint, runId, status := .current, createdAt,
      updatedAt := createdAt }

/-- The dependency row of a continuity entry. -/
def WriterContinuityEntry.dependency (entry : WriterContinuityEntry Fp)
    (runId targetChapter createdAt : String) : DependencyRow Fp :=
  { chapterId := targetChapter, sourceChapterId := entry.record.chapterId,
    sourceFingerprint := entry.canonHeadFingerprint, runId, status := .current, createdAt,
    updatedAt := createdAt }

theorem bindContinuity_eq_ok {runId targetChapter createdAt : String} {db db' : Database Fp}
    {entry : WriterContinuityEntry Fp}
    (h : bindContinuity runId targetChapter createdAt db entry = .ok db') :
    db.chapterHead entry.record.chapterId = some entry.canonHeadFingerprint ∧
      db' = { db with
        chapterDependencies := db.chapterDependencies ++
          [entry.dependency runId targetChapter createdAt] } := by
  simp only [bindContinuity, insertDependency, bind_eq_ok, require_eq_ok, exists_const,
    pure_eq_ok] at h
  obtain ⟨hhead, -, -, -, rfl⟩ := h
  exact ⟨hhead, rfl⟩

/-- The whole loop: every entry is checked against the canon, and all become dependencies. -/
theorem bindContinuity_loop {runId targetChapter createdAt : String} {db db' : Database Fp}
    {entries : List (WriterContinuityEntry Fp)}
    (h : forEach (bindContinuity runId targetChapter createdAt) entries db = .ok db') :
    (∀ entry ∈ entries,
      db.chapterHead entry.record.chapterId = some entry.canonHeadFingerprint) ∧
      db' = { db with
        chapterDependencies := db.chapterDependencies ++
          entries.map fun entry => entry.dependency runId targetChapter createdAt } := by
  induction entries generalizing db with
  | nil =>
    simp only [forEach, Except.ok.injEq] at h
    subst h
    simp
  | cons entry rest ih =>
    obtain ⟨mid, hmid, h⟩ := bind_eq_ok.mp h
    obtain ⟨hhead, rfl⟩ := bindContinuity_eq_ok hmid
    obtain ⟨hrest, rfl⟩ := ih h
    refine ⟨?_, by simp⟩
    intro other hother
    rcases List.mem_cons.mp hother with rfl | hother
    · exact hhead
    · exact hrest other hother

variable [Sha256 Fp] [Documents Fp]

def startProduction (request : ProductionRequest Fp) (createdAt : String) (db : Database Fp) :
    CoreResult (Unit × Database Fp) := do
  request.validate
  requireTimestamp createdAt
  match db.execution? request.runId with
  | some existing =>
    require (existing.requestFingerprint = request.fingerprint)
      (.authorityConflict "run id binds a different production request")
    return ((), db)
  | none =>
    let frozen ← fetch (Table.lookup WriterPackRow.writerPackFingerprint
      request.writerPackFingerprint db.writerPackFreezes)
      (.authorityConflict "production requires its exact frozen Writer Pack")
    let pack := frozen.payload
    pack.validate
    let targetChapter ← db.manuscriptChapter request.targetRef
    require (targetChapter = pack.chapterId)
      (.authorityConflict "production target and Writer Pack chapter differ")
    require (request.runId ∉ db.runs.map (·.runId)) (uniqueFailed "runs.run_id")
    let run : RunRow Fp :=
      { runId := request.runId, taskMode := request.taskMode, targetRef := request.targetRef,
        status := "ready", requestFingerprint := request.fingerprint, resultFingerprint := none,
        createdAt, updatedAt := createdAt }
    let execution : ExecutionRow Fp :=
      { runId := request.runId, requestFingerprint := request.fingerprint, request,
        cancelRequested := false, createdAt, updatedAt := createdAt }
    let started : Database Fp :=
      { db with
        runs := db.runs ++ [run]
        productionExecutions := db.productionExecutions ++ [execution] }
    let bound ← forEach (bindContinuity request.runId targetChapter createdAt)
      pack.continuityContext started
    return ((), bound)

/-- Starting a run is a replay, or adds the run, its request and its dependencies. -/
theorem startProduction_eq_ok {request : ProductionRequest Fp} {createdAt : String} {u : Unit}
    {db db' : Database Fp} (h : startProduction request createdAt db = .ok (u, db')) :
    db' = db ∨ ∃ frozen targetChapter run execution,
      Table.lookup WriterPackRow.writerPackFingerprint request.writerPackFingerprint
        db.writerPackFreezes = some frozen ∧
      db.manuscriptChapter request.targetRef = .ok targetChapter ∧
      db.execution? request.runId = none ∧ request.runId ∉ db.runs.map (·.runId) ∧
      run.runId = request.runId ∧ run.status = "ready" ∧ run.targetRef = request.targetRef ∧
      execution.runId = request.runId ∧ execution.request = request ∧
      execution.cancelRequested = false ∧
      (∀ entry ∈ frozen.payload.continuityContext,
        db.chapterHead entry.record.chapterId = some entry.canonHeadFingerprint) ∧
      db' = { db with
        runs := db.runs ++ [run]
        productionExecutions := db.productionExecutions ++ [execution]
        chapterDependencies := db.chapterDependencies ++
          frozen.payload.continuityContext.map fun entry =>
            entry.dependency request.runId targetChapter createdAt } := by
  simp only [startProduction, bind_eq_ok] at h
  obtain ⟨_, -, _, -, h⟩ := h
  split at h
  · simp only [bind_eq_ok, require_eq_ok, exists_const, pure_eq_ok, Prod.mk.injEq] at h
    obtain ⟨-, -, rfl⟩ := h
    exact .inl rfl
  · rename_i hnone
    simp only [bind_eq_ok, require_eq_ok, exists_const, pure_eq_ok, fetch_eq_ok,
      Prod.mk.injEq] at h
    obtain ⟨frozen, hfrozen, _, -, targetChapter, htarget, -, hfresh, bound, hbound, -, rfl⟩ := h
    obtain ⟨hheads, rfl⟩ := bindContinuity_loop hbound
    exact .inr ⟨frozen, targetChapter, _, _, hfrozen, htarget, hnone, hfresh, rfl, rfl, rfl,
      rfl, rfl, rfl, hheads, rfl⟩

end Start

/-! ## Freezing the writer context -/

section Freeze

variable [DecidableEq Fp]

def DependencyRow.key (row : DependencyRow Fp) : String × String × String :=
  (row.chapterId, row.sourceChapterId, row.runId)

def Database.upsertDependency (row : DependencyRow Fp) (db : Database Fp) :
    CoreResult (Database Fp) := do
  require (row.chapterId ≠ row.sourceChapterId) (checkFailed "chapter_id != source_chapter_id")
  require (row.chapterId ∈ db.storyNodes.map (·.nodeId) ∧
      row.sourceChapterId ∈ db.storyNodes.map (·.nodeId) ∧ row.runId ∈ db.runs.map (·.runId))
    foreignKeyFailed
  return { db with
    chapterDependencies := Table.upsert DependencyRow.key row
      (fun old => { old with
        sourceFingerprint := row.sourceFingerprint, status := .current,
        updatedAt := row.updatedAt })
      db.chapterDependencies }

/-- One entry of the frozen context: a dependency when it cites another chapter. -/
def bindContextEntry (runId targetChapter createdAt : String) (db : Database Fp)
    (entry : ContextEntry Fp) : CoreResult (Database Fp) :=
  match entry.sourceChapterId, entry.sourceHeadFingerprint with
  | some sourceChapterId, some sourceHeadFingerprint =>
    if sourceChapterId = targetChapter then return db
    else do
      let head ← fetch (db.chapterHead sourceChapterId) noRows
      require (head = sourceHeadFingerprint)
        (.authorityConflict "selected context changed before freeze commit")
      db.upsertDependency
        { chapterId := targetChapter, sourceChapterId, sourceFingerprint := sourceHeadFingerprint,
          runId, status := .current, createdAt, updatedAt := createdAt }
  | _, _ => return db

/-- Every dependency marked current carries the head of its source chapter. -/
def Database.DependenciesCurrent (db : Database Fp) : Prop :=
  ∀ row ∈ db.chapterDependencies, row.status = .current →
    db.chapterHead row.sourceChapterId = some row.sourceFingerprint

/-- Every row was there before or names the head of its source. -/
def Database.Binds (db : Database Fp) (rows : List (DependencyRow Fp)) : Prop :=
  ∀ row ∈ rows, row ∈ db.chapterDependencies ∨
    db.chapterHead row.sourceChapterId = some row.sourceFingerprint

/-- Binding a context entry changes the dependencies only. -/
theorem bindContextEntry_eq_ok {runId targetChapter createdAt : String} {db db' : Database Fp}
    {entry : ContextEntry Fp}
    (h : bindContextEntry runId targetChapter createdAt db entry = .ok db') :
    ∃ rows, db.Binds rows ∧ db' = { db with chapterDependencies := rows } := by
  simp only [bindContextEntry] at h
  split at h
  case h_2 =>
    obtain rfl := pure_eq_ok.mp h
    exact ⟨_, fun row hrow => .inl hrow, rfl⟩
  case h_1 sourceChapterId sourceHead _ _ =>
    split_ifs at h with hself
    · obtain rfl := pure_eq_ok.mp h
      exact ⟨_, fun row hrow => .inl hrow, rfl⟩
    · simp only [upsertDependency, bind_eq_ok, require_eq_ok, exists_const, fetch_eq_ok,
        pure_eq_ok] at h
      obtain ⟨head, hhead, rfl, -, -, rfl⟩ := h
      refine ⟨_, fun row hrow => ?_, rfl⟩
      rcases Table.mem_upsert hrow with rfl | ⟨old, -, hkey, rfl⟩ | ⟨hold, -⟩
      · exact .inr hhead
      · have hsource : old.sourceChapterId = sourceChapterId := by
          simp only [DependencyRow.key, Prod.mk.injEq] at hkey
          exact hkey.2.1
        refine .inr ?_
        change db.chapterHead old.sourceChapterId = some head
        rw [hsource, hhead]
      · exact .inl hold

theorem bindContextEntry_loop {runId targetChapter createdAt : String} {db db' : Database Fp}
    {entries : List (ContextEntry Fp)}
    (h : forEach (bindContextEntry runId targetChapter createdAt) entries db = .ok db') :
    ∃ rows, db.Binds rows ∧ db' = { db with chapterDependencies := rows } := by
  refine forEach_invariant (P := fun t => ∃ rows, db.Binds rows ∧
    t = { db with chapterDependencies := rows }) ?_ h ⟨_, fun row hrow => .inl hrow, rfl⟩
  rintro entry - s t hst ⟨rows, hrows, rfl⟩
  obtain ⟨rows', hrows', rfl⟩ := bindContextEntry_eq_ok hst
  refine ⟨rows', fun row hrow => ?_, rfl⟩
  rcases hrows' row hrow with hold | hhead
  · exact hrows row hold
  · exact .inr hhead

variable [Sha256 Fp] [Documents Fp]

def persistWriterContextFreeze (runId : String) (taskMode : ProductionTaskMode)
    (queryPlan : ContextQueryPlan) (candidates : List (ContextEntry Fp))
    (proposal : ContextSelectionProposal) (freeze : ContextFreeze Fp)
    (createdAt selectionUuid freezeUuid : String) (db : Database Fp) :
    CoreResult (Fp × Database Fp) := do
  queryPlan.validate
  proposal.validateAgainst candidates
  requireTimestamp createdAt
  let universeFingerprint : Fp := Sha256.ofJson (arr (candidates.map ContextEntry.toJson))
  let selectionFingerprint : Fp := Sha256.ofJson (obj
    [("candidate_universe_fingerprint", fp universeFingerprint), ("proposal", proposal.toValue),
      ("query_plan", queryPlan.toValue), ("run_id", str runId), ("stage", str "writer")])
  let scopedFingerprint : Fp := Sha256.ofLink (.inl runId) freeze.fingerprint
  let execution ← fetch (db.productionExecutions.find? fun execution =>
    execution.runId = runId ∧ execution.cancelRequested = false) noRows
  execution.request.validate
  require (execution.request.taskMode = taskMode)
    (.authorityConflict "context freeze task mode changed")
  match db.contextFreezes.find? fun row => row.runId = runId ∧ row.status = .frozen with
  | some existing =>
    require (existing.freezeFingerprint = scopedFingerprint)
      (.authorityConflict "run already binds a different context freeze")
    return (scopedFingerprint, db)
  | none =>
    require ("context-selection-" ++ selectionUuid ∉ db.contextSelections.map (·.selectionId))
      (uniqueFailed "context_stage_selections.selection_id")
    require (selectionFingerprint ∉ db.contextSelections.map (·.selectionFingerprint))
      (uniqueFailed "context_stage_selections.selection_fingerprint")
    require ("context-freeze-" ++ freezeUuid ∉ db.contextFreezes.map (·.freezeId))
      (uniqueFailed "context_freezes.freeze_id")
    require (scopedFingerprint ∉ db.contextFreezes.map (·.freezeFingerprint))
      (uniqueFailed "context_freezes.freeze_fingerprint")
    require (runId ∈ db.runs.map (·.runId)) foreignKeyFailed
    let frozen : Database Fp :=
      { db with
        contextSelections := db.contextSelections ++
          [{ selectionId := "context-selection-" ++ selectionUuid, runId,
             candidateUniverseFingerprint := universeFingerprint, selectionFingerprint,
             pool := candidates, greenlight := proposal, createdAt }]
        contextFreezes := db.contextFreezes ++
          [{ freezeId := "context-freeze-" ++ freezeUuid, runId, taskMode,
             freezeFingerprint := scopedFingerprint, snapshot := freeze, status := .frozen,
             createdAt }] }
    let run ← fetch (db.run? runId) noRows
    let document ← fetch (db.document? run.targetRef) noRows
    let targetChapter ← fetch document.storyNodeId (nullColumn "story_node_id")
    let bound ← forEach (bindContextEntry runId targetChapter createdAt) freeze.entries frozen
    return (scopedFingerprint, bound)

/-- Persisting a context freeze is a replay, or adds the freeze and its dependencies. -/
theorem persistWriterContextFreeze_eq_ok {runId : String} {taskMode : ProductionTaskMode}
    {queryPlan : ContextQueryPlan} {candidates : List (ContextEntry Fp)}
    {proposal : ContextSelectionProposal} {freeze : ContextFreeze Fp}
    {createdAt selectionUuid freezeUuid : String} {answer : Fp} {db db' : Database Fp}
    (h : persistWriterContextFreeze runId taskMode queryPlan candidates proposal freeze createdAt
      selectionUuid freezeUuid db = .ok (answer, db')) :
    (∃ execution ∈ db.productionExecutions, execution.runId = runId ∧
      execution.cancelRequested = false) ∧
    ∃ selections freezes dependencies, db.Binds dependencies ∧ db' = { db with
      contextSelections := selections, contextFreezes := freezes,
      chapterDependencies := dependencies } := by
  simp only [persistWriterContextFreeze, bind_eq_ok, require_eq_ok, exists_const,
    fetch_eq_ok] at h
  obtain ⟨_, -, _, -, _, -, execution, hexecution, _, -, -, h⟩ := h
  have hfound := List.find?_some hexecution
  simp only [Bool.decide_and, Bool.and_eq_true, decide_eq_true_eq] at hfound
  refine ⟨⟨execution, List.mem_of_find?_eq_some hexecution, hfound⟩, ?_⟩
  split at h
  · simp only [bind_eq_ok, require_eq_ok, exists_const, pure_eq_ok, Prod.mk.injEq] at h
    obtain ⟨-, -, rfl⟩ := h
    exact ⟨_, _, _, fun row hrow => .inl hrow, rfl⟩
  · simp only [bind_eq_ok, require_eq_ok, exists_const, pure_eq_ok, fetch_eq_ok,
      Prod.mk.injEq] at h
    obtain ⟨-, -, -, -, -, run, -, document, -, targetChapter, -, bound, hbound, -, rfl⟩ := h
    obtain ⟨rows, hrows, rfl⟩ := bindContextEntry_loop hbound
    exact ⟨_, _, rows, hrows, rfl⟩

end Freeze

/-! ## A sample run -/

namespace Sample

/-- A new project with one chapter. -/
def project : Database Digest := initialProject "novel" "Harbour" "t0"

def scene : SceneWritingBrief where
  sceneId := "S1"
  ordinal := 1
  viewpoint := "Lin"
  location := "pier"
  entryState := "calm"
  objective := "board"
  opposition := "guard"
  turn := "alarm"
  choice := "run"
  consequence := "seen"
  valueShift := "hunted"
  informationChange := "trap"
  exitState := "flight"
  emotionTarget := "dread"
  readerEffect := "pull"

def planLock : Json Digest :=
  obj [("node_id", str "CH001"), ("fingerprint", fp (.tag 1)), ("scenes", arr [scene.toJson])]

def view : PlanningView Digest where
  planLock := .ok planLock
  planFingerprint := .tag 1
  approvedSetupFingerprint := .ok (.tag 2)
  readerPressure := "high"
  bindings := .ok ()

/-- The context of the first chapter is its plan alone. -/
def packContext : Digest :=
  let entry := planContextEntry "CH001" view planLock
  Sha256.ofJson (arr [str "writer", arr [entry.toJson], int entry.byteSize])

def pack : WriterPack Digest :=
  let body : WriterPack Digest :=
    { schema := "quillframe_writer_pack_v5", chapterId := "CH001", planLock,
      activePlanFingerprint := .tag 1, bookSetupFingerprint := .tag 2,
      contextFreezeFingerprint := packContext,
      trackingFingerprint := (TrackingState.genesis "novel").fingerprint,
      readerPressure := "high", scenes := [scene], continuityContext := [],
      corpusMechanisms := [], privateStateAbsent := true, fingerprint := .tag 0 }
  { body with fingerprint := body.computeFingerprint }

def frozen : Database Digest :=
  { project with
    writerPackFreezes :=
      [{ writerPackFingerprint := pack.fingerprint, chapterId := "CH001",
         activePlanFingerprint := .tag 1, contextFreezeFingerprint := packContext,
         trackingFingerprint := pack.trackingFingerprint, payload := pack, createdAt := "t1" }] }

theorem freeze_project :
    freezeWriterPackForChapter view "CH001" "t1" project = .ok (pack, frozen) := by
  decide +kernel

def request : ProductionRequest Digest :=
  let body : ProductionRequest Digest :=
    { schema := "quillframe_production_request_v1", runId := "run-1", taskMode := .draft,
      targetRef := "DOC-CH001",
      intent :=
        { instruction := "draft", readerGrip := "high", authorProfile := "default",
          ruleMaterial := [], selectedPreferenceIds := [], repairSource := none,
          guidanceSnapshot := none },
      writerPackFingerprint := pack.fingerprint, frameworkBuildFingerprint := .tag 3,
      routePolicy := "default", modelCallBudget := none, fingerprint := .tag 0 }
  { body with fingerprint := body.computeFingerprint }

def run : RunRow Digest where
  runId := "run-1"
  taskMode := .draft
  targetRef := "DOC-CH001"
  status := "ready"
  requestFingerprint := request.fingerprint
  resultFingerprint := none
  createdAt := "t2"
  updatedAt := "t2"

/-- The run of the sample request, just started. -/
def started : Database Digest :=
  { frozen with
    runs := [run]
    productionExecutions :=
      [{ runId := "run-1", requestFingerprint := request.fingerprint, request,
         cancelRequested := false, createdAt := "t2", updatedAt := "t2" }] }

theorem start_frozen : startProduction request "t2" frozen = .ok ((), started) := by
  decide +kernel

end Sample

end Quillframe
