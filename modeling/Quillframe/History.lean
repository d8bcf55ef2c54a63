import Quillframe.HashChain
import Quillframe.Project
import Quillframe.Projection

/-!
# Story history

The event log is a hash chain that ends in the state head; every event is followed by a snapshot
of the story projection, of which the four newest are kept. `verifyStoryHistory` replays the
chain and compares the latest snapshot with the tables.
-/
namespace Quillframe

open Json (str obj)
open Database

variable {Fp : Type} [Sha256 Fp] [DecidableEq Fp]

/-! ## Appending an event -/

/-- The row an event is stored as. -/
def StoryEvent.row (event : StoryEvent Fp) (eventSeq : ℤ) : StoryEventRow Fp where
  eventSeq
  eventId := event.eventId
  projectId := event.projectId
  runId := event.runId
  chapterId := event.chapterId
  aggregateKind := event.aggregateKind
  aggregateId := event.aggregateId
  eventKind := event.eventKind
  baseRevision := event.baseRevision
  commitRevision := event.commitRevision
  payload := event.payload
  payloadFingerprint := event.payloadFingerprint
  eventFingerprint := event.fingerprint
  createdAt := event.createdAt

def Database.insertStoryEvent (row : StoryEventRow Fp) (db : Database Fp) :
    CoreResult (Database Fp) := do
  bindInteger row.baseRevision
  bindInteger row.commitRevision
  require (row.commitRevision = row.baseRevision + 1)
    (checkFailed "commit_revision = base_revision + 1")
  require (row.eventId ∉ db.storyEvents.map (·.eventId)) (uniqueFailed "story_events.event_id")
  require (row.eventFingerprint ∉ db.storyEvents.map (·.eventFingerprint))
    (uniqueFailed "story_events.event_fingerprint")
  require ((row.projectId, row.commitRevision) ∉
      db.storyEvents.map fun other => (other.projectId, other.commitRevision))
    (uniqueFailed "story_events.project_id, story_events.commit_revision")
  require (row.projectId = db.projectId ∧
      ∀ chapterId ∈ row.chapterId, chapterId ∈ db.storyNodes.map (·.nodeId))
    foreignKeyFailed
  return { db with
    storyEvents := db.storyEvents ++ [row]
    storyEventSequence := row.eventSeq }

/-- `append_story_event`: the sequence number of the new event. -/
def appendStoryEvent (eventUuid projectId : String) (runId chapterId : Option String)
    (aggregateKind aggregateId eventKind : String) (payload : Json Fp) (createdAt : String)
    (db : Database Fp) : CoreResult (ℤ × Database Fp) := do
  require (db.head.projectId = projectId) noRows
  let event ← StoryEvent.create eventUuid projectId runId chapterId aggregateKind aggregateId
    eventKind db.head.revision payload createdAt
  event.validate
  let eventSeq := db.storyEventSequence + 1
  let db ← db.insertStoryEvent (event.row eventSeq)
  return (eventSeq, { db with
    head := { db.head with
      revision := event.commitRevision
      latestEventSeq := some eventSeq
      stateFingerprint := Sha256.ofLink (.inr db.head.stateFingerprint) event.fingerprint
      updatedAt := createdAt } })

/-! ## Snapshots -/

section

variable [SerdeJson Fp]

/-- `DELETE .. WHERE snapshot_id NOT IN (.. ORDER BY through_event_seq DESC LIMIT 4)`. -/
def retainSnapshots (projectId : String) (rows : List (SnapshotRow Fp)) : List (SnapshotRow Fp) :=
  let newest := (rows.filter fun row => row.projectId = projectId).insertionSort
    fun a b => b.throughEventSeq ≤ a.throughEventSeq
  let kept := (newest.take 4).map (·.snapshotId)
  rows.filter fun row => ¬ (row.projectId = projectId ∧ row.snapshotId ∉ kept)

def createStorySnapshot (snapshotUuid projectId : String) (throughEventSeq : ℤ)
    (reason createdAt : String) (db : Database Fp) : CoreResult (String × Database Fp) := do
  let event ← fetch (db.storyEvents.find? fun event =>
    event.projectId = projectId ∧ event.eventSeq = throughEventSeq ∧
      db.head.projectId = projectId ∧ db.head.latestEventSeq = some throughEventSeq) noRows
  let projection ← db.storyProjection projectId
  let snapshot ← StoryStateSnapshot.create snapshotUuid projectId event.commitRevision
    throughEventSeq event.eventFingerprint db.head.stateFingerprint projection reason createdAt
  snapshot.validate
  require (snapshot.snapshotId ∉ db.storySnapshots.map (·.snapshotId))
    (uniqueFailed "story_state_snapshots.snapshot_id")
  require ((projectId, throughEventSeq) ∉
      db.storySnapshots.map fun other => (other.projectId, other.throughEventSeq))
    (uniqueFailed "story_state_snapshots.project_id, story_state_snapshots.through_event_seq")
  require (projectId = db.projectId) foreignKeyFailed
  let row : SnapshotRow Fp :=
    { snapshotId := snapshot.snapshotId, projectId, throughEventSeq,
      stateFingerprint := snapshot.projectionFingerprint, payload := snapshot, reason, createdAt }
  require (db.head.revision = event.commitRevision)
    (.authorityConflict "project head changed before snapshot attachment")
  return (snapshot.snapshotId, { db with
    head := { db.head with latestSnapshotId := some snapshot.snapshotId, updatedAt := createdAt }
    storySnapshots := retainSnapshots projectId (db.storySnapshots ++ [row]) })

/-! ## Verifying -/

/-- The event a stored row is read as. -/
def StoryEventRow.event (projectId : String) (row : StoryEventRow Fp) : StoryEvent Fp where
  schema := "quillframe_story_event_v1"
  eventId := row.eventId
  projectId
  runId := row.runId
  chapterId := row.chapterId
  aggregateKind := row.aggregateKind
  aggregateId := row.aggregateId
  eventKind := row.eventKind
  baseRevision := row.baseRevision
  commitRevision := row.commitRevision
  payload := row.payload.reread
  payloadFingerprint := row.payloadFingerprint
  createdAt := row.createdAt
  fingerprint := row.eventFingerprint

/-- The rows of a project's log, in order. -/
def Database.eventLog (db : Database Fp) (projectId : String) : List (StoryEventRow Fp) :=
  orderBy StoryEventRow.eventSeq (db.storyEvents.filter fun row => row.projectId = projectId)

/-- Where the replay of the log stands. -/
structure Replay (Fp : Type) where
  chain : Fp
  revision : ℕ
  lastSeq : Option ℤ
  lastFingerprint : Option Fp

def Replay.genesis (projectId : String) : Replay Fp :=
  ⟨genesisFingerprint projectId, 0, none, none⟩

def Replay.next (projectId : String) (replay : Replay Fp) (row : StoryEventRow Fp) :
    CoreResult (Replay Fp) := do
  let event := row.event projectId
  event.validate
  require (event.baseRevision = replay.revision ∧ event.commitRevision = replay.revision + 1)
    (.authorityConflict "story event revision chain is broken")
  return ⟨Sha256.ofLink (.inr replay.chain) event.fingerprint, event.commitRevision,
    some row.eventSeq, some event.fingerprint⟩

/-- The snapshot a stored text is read as. -/
def StoryStateSnapshot.reread (snapshot : StoryStateSnapshot Fp) : StoryStateSnapshot Fp :=
  { snapshot with projection := snapshot.projection.reread }

/-- The latest snapshot must match the head, the log and the tables. -/
def Database.verifySnapshot (db : Database Fp) (snapshotId : String) (replay : Replay Fp) :
    CoreResult Unit := do
  let row ← fetch (db.storySnapshots.find? fun row =>
    row.snapshotId = snapshotId ∧ row.projectId = db.head.projectId) noRows
  let snapshot := row.payload.reread
  snapshot.validate
  let projection ← db.storyProjection db.head.projectId
  require (snapshot.projectId = db.head.projectId ∧
      snapshot.throughRevision = db.head.revision ∧
      some row.throughEventSeq = db.head.latestEventSeq ∧
      snapshot.throughEventSeq = row.throughEventSeq ∧
      some snapshot.throughEventFingerprint = replay.lastFingerprint ∧
      snapshot.eventChainFingerprint = db.head.stateFingerprint ∧
      snapshot.projectionFingerprint = row.stateFingerprint ∧
      snapshot.projectionFingerprint = Sha256.ofJson projection)
    (.authorityConflict "latest story snapshot does not match its head or projection")

def Database.verifyStoryHistory (db : Database Fp) : CoreResult Unit := do
  let projectId := db.head.projectId
  let _ ← (TrackingState.empty projectId : CoreResult (TrackingState Fp))
  let replay ← forEach (Replay.next projectId) (db.eventLog projectId) (.genesis projectId)
  require (replay.revision = db.head.revision ∧ replay.lastSeq = db.head.latestEventSeq ∧
      replay.chain = db.head.stateFingerprint)
    (.authorityConflict "project state head does not match story history")
  match db.head.revision, db.head.latestSnapshotId with
  | 0, none => return ()
  | 0, some _ => throw (.authorityConflict "genesis head must not have a snapshot")
  | _, some snapshotId => db.verifySnapshot snapshotId replay
  | _, none => throw (.authorityConflict "committed story head has no recovery snapshot")

end

/-! ## Replaying the log -/

section Replay

variable [SerdeJson Fp]

/-- A chain fingerprint followed by an event fingerprint. -/
def chainLink (chain event : Fp) : Fp := Sha256.ofLink (.inr chain) event

omit [DecidableEq Fp] [SerdeJson Fp] in
theorem chainLink_injective [CollisionFree Fp] :
    HashChain.Injective (chainLink : Fp → Fp → Fp) := by
  intro a c b d h
  obtain ⟨hchain, hevent⟩ := CollisionFree.ofLink_injective h
  exact ⟨Sum.inr.inj hchain, hevent⟩

theorem Replay.next_eq_ok {projectId : String} {replay next : Replay Fp} {row : StoryEventRow Fp} :
    Replay.next projectId replay row = .ok next ↔
      (row.event projectId).validate = .ok () ∧ row.baseRevision = replay.revision ∧
      row.commitRevision = replay.revision + 1 ∧
      next = ⟨chainLink replay.chain row.eventFingerprint, row.commitRevision,
        some row.eventSeq, some row.eventFingerprint⟩ := by
  simp only [Replay.next, bind_eq_ok, require_eq_ok, exists_const, pure_eq_ok]
  constructor
  · rintro ⟨⟨⟩, hvalid, ⟨hbase, hcommit⟩, rfl⟩
    exact ⟨hvalid, hbase, hcommit, rfl⟩
  · rintro ⟨hvalid, hbase, hcommit, rfl⟩
    exact ⟨(), hvalid, ⟨hbase, hcommit⟩, rfl⟩

/-- What a replay that succeeds has checked, and where it ends. -/
theorem Replay.run_eq_ok {projectId : String} {rows : List (StoryEventRow Fp)}
    {start final : Replay Fp} (h : forEach (Replay.next projectId) rows start = .ok final) :
    (∀ row ∈ rows, (row.event projectId).validate = .ok ()) ∧
    final.revision = start.revision + rows.length ∧
    final.chain = (rows.map (·.eventFingerprint)).foldl chainLink start.chain := by
  induction rows generalizing start with
  | nil =>
    simp only [forEach, Except.ok.injEq] at h
    subst h
    simp
  | cons row rest ih =>
    obtain ⟨next, hnext, h⟩ := bind_eq_ok.mp h
    obtain ⟨hvalid, -, hcommit, rfl⟩ := Replay.next_eq_ok.mp hnext
    obtain ⟨hrest, hrevision, hchain⟩ := ih h
    refine ⟨?_, ?_, ?_⟩
    · intro other hother
      rcases List.mem_cons.mp hother with rfl | hother
      · exact hvalid
      · exact hrest other hother
    · change final.revision = start.revision + (rest.length + 1)
      simp only [hcommit] at hrevision
      omega
    · rw [hchain]
      rfl

/-- The replay of a verified history. -/
theorem Database.replay_of_verify {db : Database Fp} (h : db.verifyStoryHistory = .ok ()) :
    ¬ blank db.head.projectId ∧
    ∃ replay, forEach (Replay.next db.head.projectId) (db.eventLog db.head.projectId)
        (.genesis db.head.projectId) = .ok replay ∧
      replay.revision = db.head.revision ∧ replay.lastSeq = db.head.latestEventSeq ∧
      replay.chain = db.head.stateFingerprint := by
  simp only [verifyStoryHistory, TrackingState.empty, bind_eq_ok, require_eq_ok, exists_const,
    pure_eq_ok] at h
  obtain ⟨_, ⟨hproject, -⟩, replay, hreplay, hhead, -⟩ := h
  exact ⟨hproject, replay, hreplay, hhead⟩

/-- The verification reads the head, the log, the snapshots and the projection. -/
theorem Database.verifyStoryHistory_congr {db db' : Database Fp} (hhead : db'.head = db.head)
    (hevents : db'.storyEvents = db.storyEvents)
    (hsnapshots : db'.storySnapshots = db.storySnapshots)
    (hprojection : db'.storyProjection db.head.projectId =
      db.storyProjection db.head.projectId) :
    db'.verifyStoryHistory = db.verifyStoryHistory := by
  rw [verifyStoryHistory, verifyStoryHistory]
  simp only [verifySnapshot, eventLog, hhead, hevents, hsnapshots, hprojection]

/-- The events of the log as `verify_story_history` reads them. -/
def Database.events (db : Database Fp) : List (StoryEvent Fp) :=
  (db.eventLog db.head.projectId).map (StoryEventRow.event db.head.projectId)

omit [Sha256 Fp] [DecidableEq Fp] in
theorem Database.events_fingerprints (db : Database Fp) :
    db.events.map (·.fingerprint) = (db.eventLog db.head.projectId).map (·.eventFingerprint) := by
  simp [events, Function.comp_def, StoryEventRow.event]

/-- Two verified databases with one head have one log. -/
theorem events_eq_of_verify [CollisionFree Fp] {db db' : Database Fp}
    (h : db.verifyStoryHistory = .ok ()) (h' : db'.verifyStoryHistory = .ok ())
    (hhead : db'.head = db.head) : db'.events = db.events := by
  obtain ⟨-, replay, hreplay, hrevision, -, hchain⟩ := replay_of_verify h
  obtain ⟨-, replay', hreplay', hrevision', -, hchain'⟩ := replay_of_verify h'
  obtain ⟨hvalid, hlength, hfold⟩ := Replay.run_eq_ok hreplay
  obtain ⟨hvalid', hlength', hfold'⟩ := Replay.run_eq_ok hreplay'
  have hlen : (db'.events.map (·.fingerprint)).length = (db.events.map (·.fingerprint)).length := by
    rw [events_fingerprints, events_fingerprints, List.length_map, List.length_map]
    rw [hrevision] at hlength
    rw [hrevision', hhead] at hlength'
    rw [hhead]
    simp only [Replay.genesis] at hlength hlength'
    omega
  have hfps : db'.events.map (·.fingerprint) = db.events.map (·.fingerprint) := by
    refine (HashChain.foldl_inj chainLink_injective hlen (s := genesisFingerprint
      db'.head.projectId) (t := genesisFingerprint db.head.projectId) ?_).2
    rw [events_fingerprints, events_fingerprints]
    exact hfold'.symm.trans ((hchain'.trans (hhead ▸ rfl)).trans (hchain.symm.trans hfold))
  have hsealed : ∀ db : Database Fp, (∀ row ∈ db.eventLog db.head.projectId,
      (row.event db.head.projectId).validate = .ok ()) →
      ∀ event ∈ db.events, event.fingerprint = event.computeFingerprint := by
    intro db hvalid event hevent
    obtain ⟨row, hrow, rfl⟩ := List.mem_map.mp hevent
    have hrowValid := hvalid row hrow
    simp only [StoryEvent.validate, bind_eq_ok, require_eq_ok] at hrowValid
    obtain ⟨_, -, -, hfp⟩ := hrowValid
    exact hfp
  exact StoryEvent.list_eq_of_fingerprints (hsealed db' hvalid') (hsealed db hvalid) hfps

end Replay

/-! ## Committing an event with its snapshot -/

section Commit

variable [SerdeJson Fp]

/-- The log agrees with the head, and both logs are kept in sequence. -/
structure Database.LogInv (db : Database Fp) : Prop where
  project : ¬ blank db.projectId
  headProject : db.head.projectId = db.projectId
  eventProjects : ∀ row ∈ db.storyEvents, row.projectId = db.projectId
  ordered : db.storyEvents.Pairwise fun a b => a.eventSeq < b.eventSeq
  bounded : ∀ row ∈ db.storyEvents, row.eventSeq ≤ db.storyEventSequence
  positive : 0 ≤ db.storyEventSequence
  snapshotProjects : ∀ row ∈ db.storySnapshots, row.projectId = db.projectId
  snapshotIds : (db.storySnapshots.map (·.snapshotId)).Nodup
  snapshotBounded : ∀ row ∈ db.storySnapshots, row.throughEventSeq ≤ db.storyEventSequence
  retained : db.storySnapshots.length ≤ 4
  replayed : ∃ replay, forEach (Replay.next db.projectId) db.storyEvents
      (.genesis db.projectId) = .ok replay ∧
    replay.revision = db.head.revision ∧ replay.lastSeq = db.head.latestEventSeq ∧
    replay.chain = db.head.stateFingerprint

/-- The invariant reads the history tables only. -/
theorem Database.LogInv.of_tables {db db' : Database Fp} (h : db.LogInv)
    (hproject : db'.projectId = db.projectId) (hhead : db'.head = db.head)
    (hevents : db'.storyEvents = db.storyEvents)
    (hsequence : db'.storyEventSequence = db.storyEventSequence)
    (hsnapshots : db'.storySnapshots = db.storySnapshots) : db'.LogInv := by
  obtain ⟨h1, h2, h3, h4, h5, h6, h7, h8, h9, h10, h11⟩ := h
  refine ⟨?_, ?_, ?_, ?_, ?_, ?_, ?_, ?_, ?_, ?_, ?_⟩ <;>
    simp only [hproject, hhead, hevents, hsequence, hsnapshots] <;> assumption

omit [Sha256 Fp] [DecidableEq Fp] [SerdeJson Fp] in
/-- A log in sequence is read in its own order. -/
theorem Database.eventLog_eq {db : Database Fp} {projectId : String}
    (hprojects : ∀ row ∈ db.storyEvents, row.projectId = projectId)
    (hordered : db.storyEvents.Pairwise fun a b => a.eventSeq < b.eventSeq) :
    db.eventLog projectId = db.storyEvents := by
  rw [eventLog, List.filter_eq_self.mpr (by simpa using hprojects), orderBy]
  exact (hordered.imp fun h => h.le).insertionSort_eq

omit [DecidableEq Fp] [SerdeJson Fp] in
theorem StoryEvent.create_eq_ok {eventUuid projectId : String} {runId chapterId : Option String}
    {aggregateKind aggregateId eventKind : String} {baseRevision : ℕ} {payload : Json Fp}
    {createdAt : String} {event : StoryEvent Fp}
    (h : StoryEvent.create eventUuid projectId runId chapterId aggregateKind aggregateId eventKind
      baseRevision payload createdAt = .ok event) :
    event.schema = "quillframe_story_event_v1" ∧ event.eventId = eventUuid ∧
      event.projectId = projectId ∧ event.baseRevision = baseRevision ∧
      event.payload = payload := by
  simp only [StoryEvent.create, bind_eq_ok, pure_eq_ok] at h
  obtain ⟨_, -, rfl⟩ := h
  exact ⟨rfl, rfl, rfl, rfl, rfl⟩

omit [SerdeJson Fp] in
theorem appendStoryEvent_eq_ok {eventUuid projectId : String} {runId chapterId : Option String}
    {aggregateKind aggregateId eventKind : String} {payload : Json Fp} {createdAt : String}
    {seq : ℤ} {db db' : Database Fp}
    (h : appendStoryEvent eventUuid projectId runId chapterId aggregateKind aggregateId eventKind
      payload createdAt db = .ok (seq, db')) :
    db.head.projectId = projectId ∧ seq = db.storyEventSequence + 1 ∧
    ∃ event : StoryEvent Fp, event.validate = .ok () ∧
      event.schema = "quillframe_story_event_v1" ∧ event.projectId = projectId ∧
      event.payload = payload ∧ event.baseRevision = db.head.revision ∧
      event.commitRevision = db.head.revision + 1 ∧
      db' = { db with
        storyEvents := db.storyEvents ++ [event.row seq]
        storyEventSequence := seq
        head := { db.head with
          revision := event.commitRevision, latestEventSeq := some seq,
          stateFingerprint := chainLink db.head.stateFingerprint event.fingerprint,
          updatedAt := createdAt } } := by
  simp only [appendStoryEvent, insertStoryEvent, bind_eq_ok, require_eq_ok, exists_const,
    pure_eq_ok, Prod.mk.injEq] at h
  obtain ⟨hproject, event, hcreate, ⟨⟩, hvalid, inserted, ⟨_, -, _, -, hcommit, -, -, -, -, rfl⟩,
    rfl, rfl⟩ := h
  obtain ⟨hschema, -, hproj, hbase, hpayload⟩ := StoryEvent.create_eq_ok hcreate
  refine ⟨hproject, rfl, event, hvalid, hschema, hproj, hpayload, hbase, ?_, rfl⟩
  exact hcommit.trans (congrArg (· + 1) hbase)

omit [Sha256 Fp] [DecidableEq Fp] in
/-- A stable payload is read back as the event that was stored. -/
theorem StoryEvent.event_row {event : StoryEvent Fp} {projectId : String}
    (hschema : event.schema = "quillframe_story_event_v1") (hproject : event.projectId = projectId)
    (hstable : event.payload.Stable) (seq : ℤ) : (event.row seq).event projectId = event := by
  cases event
  simp only at hschema hproject
  subst hschema
  subst hproject
  simp only [StoryEvent.row, StoryEventRow.event, StoryEvent.mk.injEq, true_and, and_true]
  exact hstable

theorem createStorySnapshot_eq_ok {snapshotUuid projectId : String} {seq : ℤ}
    {reason createdAt snapshotId : String} {db db' : Database Fp}
    (h : createStorySnapshot snapshotUuid projectId seq reason createdAt db =
      .ok (snapshotId, db')) :
    ∃ event ∈ db.storyEvents, event.eventSeq = seq ∧ db.head.revision = event.commitRevision ∧
    ∃ projection, db.storyProjection projectId = .ok projection ∧
    ∃ row : SnapshotRow Fp, row.snapshotId = snapshotId ∧ row.projectId = projectId ∧
      row.throughEventSeq = seq ∧ row.payload.validate = .ok () ∧
      row.stateFingerprint = row.payload.projectionFingerprint ∧
      row.payload.projectId = projectId ∧ row.payload.throughRevision = event.commitRevision ∧
      row.payload.throughEventSeq = seq ∧
      row.payload.throughEventFingerprint = event.eventFingerprint ∧
      row.payload.eventChainFingerprint = db.head.stateFingerprint ∧
      row.payload.projection = projection ∧
      snapshotId ∉ db.storySnapshots.map (·.snapshotId) ∧
      db' = { db with
        head := { db.head with latestSnapshotId := some snapshotId, updatedAt := createdAt }
        storySnapshots := retainSnapshots projectId (db.storySnapshots ++ [row]) } := by
  simp only [createStorySnapshot, StoryStateSnapshot.create, bind_eq_ok, require_eq_ok,
    exists_const, pure_eq_ok, fetch_eq_ok, Prod.mk.injEq] at h
  obtain ⟨event, hevent, projection, hprojection, snapshot, ⟨_, -, rfl⟩, ⟨⟩, hvalid, hfresh, -, -,
    hrevision, rfl, rfl⟩ := h
  have hfound := List.find?_some hevent
  simp only [Bool.decide_and, Bool.and_eq_true, decide_eq_true_eq] at hfound
  refine ⟨event, List.mem_of_find?_eq_some hevent, hfound.2.1, hrevision, projection, hprojection,
    _, rfl, rfl, rfl, hvalid, rfl, rfl, rfl, rfl, rfl, rfl, rfl, hfresh, rfl⟩

omit [Sha256 Fp] [DecidableEq Fp] [SerdeJson Fp] in
theorem retainSnapshots_sublist (projectId : String) (rows : List (SnapshotRow Fp)) :
    (retainSnapshots projectId rows).Sublist rows := List.filter_sublist

omit [Sha256 Fp] [DecidableEq Fp] [SerdeJson Fp] in
/-- At most four snapshots are kept. -/
theorem retainSnapshots_length {projectId : String} {rows : List (SnapshotRow Fp)}
    (hprojects : ∀ row ∈ rows, row.projectId = projectId)
    (hids : (rows.map (·.snapshotId)).Nodup) : (retainSnapshots projectId rows).length ≤ 4 := by
  have hnodup : ((retainSnapshots projectId rows).map (·.snapshotId)).Nodup :=
    hids.sublist ((retainSnapshots_sublist projectId rows).map _)
  have hsubset : (retainSnapshots projectId rows).map (·.snapshotId) ⊆
      (((rows.filter fun row => row.projectId = projectId).insertionSort
        fun a b => b.throughEventSeq ≤ a.throughEventSeq).take 4).map (·.snapshotId) := by
    intro id hid
    obtain ⟨row, hrow, rfl⟩ := List.mem_map.mp hid
    obtain ⟨hmem, hkept⟩ := List.mem_filter.mp hrow
    simp only [not_and, not_not, decide_eq_true_eq] at hkept
    exact hkept (hprojects row hmem)
  have hle := (hnodup.subperm hsubset).length_le
  simp only [List.length_map, List.length_take] at hle
  omega

omit [Sha256 Fp] [DecidableEq Fp] [SerdeJson Fp] in
/-- The newest snapshot is kept. -/
theorem mem_retainSnapshots {projectId : String} {rows : List (SnapshotRow Fp)}
    {row : SnapshotRow Fp} (hrow : row ∈ rows) (hproject : row.projectId = projectId)
    (hnewest : ∀ other ∈ rows, other ≠ row → other.throughEventSeq < row.throughEventSeq) :
    row ∈ retainSnapshots projectId rows := by
  refine List.mem_filter.mpr ⟨hrow, ?_⟩
  simp only [not_and, not_not, decide_eq_true_eq]
  intro _
  set newest := (rows.filter fun row => row.projectId = projectId).insertionSort
    fun a b => b.throughEventSeq ≤ a.throughEventSeq with hnewestDef
  have hmem : row ∈ newest := by
    rw [hnewestDef, List.mem_insertionSort]
    exact List.mem_filter.mpr ⟨hrow, by simpa using hproject⟩
  have hsorted : newest.Pairwise fun a b => b.throughEventSeq ≤ a.throughEventSeq := by
    have : Std.Total fun a b : SnapshotRow Fp => b.throughEventSeq ≤ a.throughEventSeq :=
      ⟨fun a b => le_total _ _⟩
    have : IsTrans (SnapshotRow Fp) fun a b => b.throughEventSeq ≤ a.throughEventSeq :=
      ⟨fun a b c hab hbc => hbc.trans hab⟩
    exact List.pairwise_insertionSort _ _
  -- the first of the list is the newest, so it is the row itself
  cases hlist : newest with
  | nil => simp [hlist] at hmem
  | cons first rest =>
    have hfirst : first = row := by
      by_contra hne
      have hfirstMem : first ∈ rows := by
        have : first ∈ newest := hlist ▸ List.mem_cons_self
        rw [hnewestDef, List.mem_insertionSort] at this
        exact (List.mem_filter.mp this).1
      rw [hlist] at hmem hsorted
      have hle := (List.pairwise_cons.mp hsorted).1 row
        ((List.mem_cons.mp hmem).resolve_left (Ne.symm hne))
      exact absurd (hnewest first hfirstMem hne) (not_lt.mpr hle)
    simp [hfirst]

omit [Sha256 Fp] [DecidableEq Fp] in
theorem StoryStateSnapshot.reread_eq {snapshot : StoryStateSnapshot Fp}
    (h : snapshot.projection.Stable) : snapshot.reread = snapshot := by
  rw [StoryStateSnapshot.reread, h]

/-- A new event extends the replay of the log. -/
theorem Database.LogInv.replay_append {db : Database Fp} (hinv : db.LogInv)
    {event : StoryEvent Fp} {seq : ℤ} (hvalid : event.validate = .ok ())
    (hevent : (event.row seq).event db.projectId = event)
    (hbase : event.baseRevision = db.head.revision)
    (hcommit : event.commitRevision = db.head.revision + 1) :
    forEach (Replay.next db.projectId) (db.storyEvents ++ [event.row seq])
        (.genesis db.projectId) =
      .ok ⟨chainLink db.head.stateFingerprint event.fingerprint, event.commitRevision, some seq,
        some event.fingerprint⟩ := by
  obtain ⟨replay, hreplay, hrevision, -, hchain⟩ := hinv.replayed
  rw [forEach_append]
  refine bind_eq_ok.mpr ⟨replay, hreplay, bind_eq_ok.mpr ⟨_, ?_, rfl⟩⟩
  refine Replay.next_eq_ok.mpr ⟨by rw [hevent]; exact hvalid, ?_, ?_, ?_⟩
  · exact hbase.trans hrevision.symm
  · exact hcommit.trans (congrArg (· + 1) hrevision.symm)
  · rw [hchain]
    rfl

omit [Sha256 Fp] [DecidableEq Fp] [SerdeJson Fp] in
theorem pairwise_append_seq {rows : List (StoryEventRow Fp)} {row : StoryEventRow Fp}
    (hordered : rows.Pairwise fun a b => a.eventSeq < b.eventSeq)
    (hlast : ∀ other ∈ rows, other.eventSeq < row.eventSeq) :
    (rows ++ [row]).Pairwise fun a b => a.eventSeq < b.eventSeq := by
  refine List.pairwise_append.mpr ⟨hordered, List.pairwise_singleton _ _, ?_⟩
  intro a ha b hb
  exact List.mem_singleton.mp hb ▸ hlast a ha

/-- A replay that ends in the head and a matching snapshot verify the history. -/
theorem Database.verifyStoryHistory_of_snapshot {db : Database Fp} {replay : Replay Fp}
    {snapshotId : String} (hproject : ¬ blank db.head.projectId)
    (hreplay : forEach (Replay.next db.head.projectId) (db.eventLog db.head.projectId)
      (.genesis db.head.projectId) = .ok replay)
    (hrevision : replay.revision = db.head.revision)
    (hseq : replay.lastSeq = db.head.latestEventSeq)
    (hchain : replay.chain = db.head.stateFingerprint) (hcommitted : db.head.revision ≠ 0)
    (hid : db.head.latestSnapshotId = some snapshotId)
    (hsnapshot : db.verifySnapshot snapshotId replay = .ok ()) :
    db.verifyStoryHistory = .ok () := by
  simp only [verifyStoryHistory, TrackingState.empty, bind_eq_ok, require_eq_ok, exists_const,
    pure_eq_ok]
  refine ⟨_, ⟨hproject, rfl⟩, replay, hreplay, ⟨hrevision, hseq, hchain⟩, ?_⟩
  rw [hid]
  split
  · simp_all
  · simp_all
  · rename_i heq _
    rwa [Option.some.inj heq] at hsnapshot
  · simp_all

/-- The history after an event and its snapshot. -/
structure Committed (db db' : Database Fp) (event : StoryEvent Fp) (row : SnapshotRow Fp) :
    Prop where
  project : db'.projectId = db.projectId
  events : db'.storyEvents = db.storyEvents ++ [event.row (db.storyEventSequence + 1)]
  sequence : db'.storyEventSequence = db.storyEventSequence + 1
  snapshots : db'.storySnapshots = retainSnapshots db.projectId (db.storySnapshots ++ [row])
  headProject : db'.head.projectId = db.projectId
  revision : db'.head.revision = event.commitRevision
  latestSeq : db'.head.latestEventSeq = some (db.storyEventSequence + 1)
  latestSnapshot : db'.head.latestSnapshotId = some row.snapshotId
  fingerprint : db'.head.stateFingerprint = chainLink db.head.stateFingerprint event.fingerprint
  valid : event.validate = .ok ()
  stored : (event.row (db.storyEventSequence + 1)).event db.projectId = event
  eventProject : event.projectId = db.projectId
  base : event.baseRevision = db.head.revision
  commit : event.commitRevision = db.head.revision + 1
  rowProject : row.projectId = db.projectId
  rowSeq : row.throughEventSeq = db.storyEventSequence + 1
  rowFresh : row.snapshotId ∉ db.storySnapshots.map (·.snapshotId)

namespace Committed

variable {db db' : Database Fp} {event : StoryEvent Fp} {row : SnapshotRow Fp}

theorem mem_snapshots (h : Committed db db' event row) (hinv : db.LogInv) :
    row ∈ db'.storySnapshots := by
  rw [h.snapshots]
  refine mem_retainSnapshots (by simp) h.rowProject fun other hother hne => ?_
  rcases List.mem_append.mp hother with hother | hother
  · rw [h.rowSeq]
    exact Int.lt_add_one_of_le (hinv.snapshotBounded other hother)
  · exact absurd (List.mem_singleton.mp hother) hne

theorem logInv (h : Committed db db' event row) (hinv : db.LogInv) : db'.LogInv := by
  have hprojects : ∀ other ∈ db.storySnapshots ++ [row], other.projectId = db.projectId := by
    intro other hother
    rcases List.mem_append.mp hother with hother | hother
    · exact hinv.snapshotProjects other hother
    · exact List.mem_singleton.mp hother ▸ h.rowProject
  have hids : ((db.storySnapshots ++ [row]).map (·.snapshotId)).Nodup := by
    refine Table.nodup_append_singleton hinv.snapshotIds fun other hother he => ?_
    exact h.rowFresh (List.mem_map.mpr ⟨other, hother, he⟩)
  have hkept := retainSnapshots_sublist db.projectId (db.storySnapshots ++ [row])
  refine ⟨?_, ?_, ?_, ?_, ?_, ?_, ?_, ?_, ?_, ?_, ?_⟩
  · rw [h.project]
    exact hinv.project
  · rw [h.project]
    exact h.headProject
  · rw [h.events, h.project]
    intro other hother
    rcases List.mem_append.mp hother with hother | hother
    · exact hinv.eventProjects other hother
    · rw [List.mem_singleton.mp hother]
      exact h.eventProject
  · rw [h.events]
    exact pairwise_append_seq hinv.ordered fun other hother =>
      Int.lt_add_one_of_le (hinv.bounded other hother)
  · rw [h.events, h.sequence]
    intro other hother
    rcases List.mem_append.mp hother with hother | hother
    · exact (Int.lt_add_one_of_le (hinv.bounded other hother)).le
    · rw [List.mem_singleton.mp hother]
      exact le_refl _
  · rw [h.sequence]
    exact Int.add_nonneg hinv.positive Int.one_nonneg
  · rw [h.snapshots, h.project]
    exact fun other hother => hprojects other (hkept.mem hother)
  · rw [h.snapshots]
    exact hids.sublist (hkept.map _)
  · rw [h.snapshots, h.sequence]
    intro other hother
    rcases List.mem_append.mp (hkept.mem hother) with hother | hother
    · exact (Int.lt_add_one_of_le (hinv.snapshotBounded other hother)).le
    · rw [List.mem_singleton.mp hother]
      exact h.rowSeq.le
  · rw [h.snapshots]
    exact retainSnapshots_length hprojects hids
  · rw [h.events, h.project, h.revision, h.latestSeq, h.fingerprint]
    exact ⟨_, hinv.replay_append h.valid h.stored h.base h.commit, rfl, rfl, rfl⟩

/-- The committed history verifies if its snapshot matches the tables. -/
theorem verify (h : Committed db db' event row) (hinv : db.LogInv)
    (hread : row.payload.reread = row.payload) (hvalid : row.payload.validate = .ok ())
    {projection : Json Fp} (hprojection : db'.storyProjection db.projectId = .ok projection)
    (hsame : row.payload.projection = projection)
    (hrowFp : row.stateFingerprint = row.payload.projectionFingerprint)
    (hproject : row.payload.projectId = db.projectId)
    (hrevision : row.payload.throughRevision = event.commitRevision)
    (hseq : row.payload.throughEventSeq = db.storyEventSequence + 1)
    (hevent : row.payload.throughEventFingerprint = event.fingerprint)
    (hchain : row.payload.eventChainFingerprint =
      chainLink db.head.stateFingerprint event.fingerprint) :
    db'.verifyStoryHistory = .ok () := by
  have hinv' := h.logInv hinv
  have hlog : db'.eventLog db'.head.projectId =
      db.storyEvents ++ [event.row (db.storyEventSequence + 1)] := by
    rw [h.headProject, ← h.project, eventLog_eq hinv'.eventProjects hinv'.ordered, h.events]
  have hfind : db'.storySnapshots.find? (fun other =>
      other.snapshotId = row.snapshotId ∧ other.projectId = db'.head.projectId) = some row := by
    refine Table.find_of_unique (h.mem_snapshots hinv) ?_ fun other hother hp => ?_
    · rw [h.headProject]
      simpa using h.rowProject
    · simp only [Bool.decide_and, Bool.and_eq_true, decide_eq_true_eq] at hp
      exact Table.eq_of_key_eq hinv'.snapshotIds hother (h.mem_snapshots hinv) hp.1
  have hfp : Sha256.ofJson projection = row.payload.projectionFingerprint := by
    simp only [StoryStateSnapshot.validate, bind_eq_ok, require_eq_ok] at hvalid
    obtain ⟨_, -, hfp, -⟩ := hvalid
    rw [← hfp, hsame]
  have hreplay : forEach (Replay.next db'.head.projectId) (db'.eventLog db'.head.projectId)
      (.genesis db'.head.projectId) =
      .ok ⟨chainLink db.head.stateFingerprint event.fingerprint, event.commitRevision,
        some (db.storyEventSequence + 1), some event.fingerprint⟩ := by
    rw [hlog, h.headProject]
    exact hinv.replay_append h.valid h.stored h.base h.commit
  refine verifyStoryHistory_of_snapshot ?_ hreplay h.revision.symm h.latestSeq.symm
    h.fingerprint.symm ?_ h.latestSnapshot ?_
  · rw [h.headProject]
    exact hinv.project
  · rw [h.revision, h.commit]
    omega
  · simp only [verifySnapshot, bind_eq_ok, require_eq_ok, fetch_eq_ok]
    refine ⟨row, hfind, (), by rw [hread]; exact hvalid, projection,
      by rw [h.headProject]; exact hprojection, ?_⟩
    rw [hread, h.headProject, h.revision, h.latestSeq, h.fingerprint, h.rowSeq, hfp, hevent]
    exact ⟨hproject, hrevision, rfl, hseq, rfl, hchain, hrowFp.symm, rfl⟩

end Committed

/-- One settlement: the event and its snapshot leave a history that verifies. -/
theorem history_commit {eventUuid snapshotUuid projectId : String}
    {runId chapterId : Option String} {aggregateKind aggregateId eventKind : String}
    {payload : Json Fp} {createdAt reason snapshotId : String} {seq : ℤ}
    {db appended db' : Database Fp} (hinv : db.LogInv)
    (happend : appendStoryEvent eventUuid projectId runId chapterId aggregateKind aggregateId
      eventKind payload createdAt db = .ok (seq, appended))
    (hsnapshot : createStorySnapshot snapshotUuid projectId seq reason createdAt appended =
      .ok (snapshotId, db'))
    (hpayload : payload.Stable)
    (hprojection : ∀ projection, appended.storyProjection projectId = .ok projection →
      projection.Stable) :
    db'.LogInv ∧ db'.verifyStoryHistory = .ok () := by
  obtain ⟨hproject, hseq, event, hvalid, hschema, heventProject, hpayloadEq, hbase, hcommit,
    happended⟩ := appendStoryEvent_eq_ok happend
  obtain ⟨found, hfound, hfoundSeq, -, projection, hproj, row, hrowId, hrowProject, hrowSeq,
    hrowValid, hrowFp, hsnapProject, hsnapRevision, hsnapSeq, hsnapEvent, hsnapChain,
    hsnapProjection, hfresh, hdb'⟩ := createStorySnapshot_eq_ok hsnapshot
  obtain rfl : projectId = db.projectId := hproject.symm.trans hinv.headProject
  have hstored := StoryEvent.event_row hschema heventProject (hpayloadEq ▸ hpayload) seq
  subst hseq
  -- the snapshot is of the new event
  obtain rfl : found = event.row (db.storyEventSequence + 1) := by
    rw [happended] at hfound
    rcases List.mem_append.mp hfound with hold | hlast
    · have := hinv.bounded found hold
      omega
    · exact List.mem_singleton.mp hlast
  have hcommitted : Committed db db' event row := by
    subst hrowId happended
    refine ⟨?_, ?_, ?_, ?_, ?_, ?_, ?_, ?_, ?_, hvalid, hstored, heventProject, hbase, hcommit,
      hrowProject, hrowSeq, hfresh⟩ <;> rw [hdb']
    exact hproject
  have hsameProjection : db'.storyProjection db.projectId = .ok projection := by
    rw [hdb']
    exact hproj
  refine ⟨hcommitted.logInv hinv, hcommitted.verify hinv ?_ hrowValid hsameProjection
    hsnapProjection hrowFp hsnapProject hsnapRevision hsnapSeq hsnapEvent ?_⟩
  · exact StoryStateSnapshot.reread_eq (hsnapProjection ▸ hprojection projection hproj)
  · rw [hsnapChain, happended]

end Commit

end Quillframe
