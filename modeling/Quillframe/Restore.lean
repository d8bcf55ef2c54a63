import Quillframe.Columns
import Quillframe.HistoryRuns

/-!
# Restoring a snapshot

`materialize_story_projection` empties the ten projection tables and refills them from the text
of a snapshot, column by column. Each table has a codec: its decoder undoes the encoder of
`story_projection`.
-/
namespace Quillframe

open Json (str int fp obj arr column nullable asStr asFp asInt asNat readItems readEntries
  jsonEach)

variable {Fp : Type}

/-! ## Decoding rows -/

def ChapterTrackingRecord.ofValue (v : Json Fp) : Option (ChapterTrackingRecord Fp) := do
  return {
    chapterId := ← column asStr v "chapter_id"
    readingOrder := ← column asNat v "reading_order"
    netChange := ← column asStr v "net_change"
    openExpectations := ← column (readItems asStr) v "open_expectations"
    paidExpectations := ← column (readItems asStr) v "paid_expectations"
    relationshipChanges := ← column (readItems asStr) v "relationship_changes"
    stateChanges := ← column (readItems asStr) v "state_changes"
    nextPull := ← column asStr v "next_pull"
    sourceCandidateFingerprint := ← column asFp v "source_candidate_fingerprint" }

def TrackingState.ofValue (v : Json Fp) : Option (TrackingState Fp) := do
  let invalidated ← column (readItems asStr) v "invalidated_chapters"
  return {
    schema := ← column asStr v "schema"
    projectId := ← column asStr v "project_id"
    version := ← column asNat v "version"
    chapters := .ofList (← column (readEntries ChapterTrackingRecord.ofValue) v "chapters")
    characterSnapshots := .ofList (← column (readEntries asStr) v "character_snapshots")
    invalidatedChapters := .ofList (invalidated.map fun chapter => (chapter, ()))
    fingerprint := ← column asFp v "fingerprint" }

def CanonRow.ofValue (v : Json Fp) : Option (CanonRow Fp) := do
  return {
    stateKey := ← column asStr v "state_key"
    value := ← column some v "value_json"
    authorityClass := ← column asStr v "authority_class"
    evidenceRef := ← column asStr v "evidence_ref"
    contentFingerprint := ← column asFp v "content_fingerprint"
    updatedAt := ← column asStr v "updated_at" }

def TrackingRow.ofValue (v : Json Fp) : Option (TrackingRow Fp) := do
  return {
    projectId := ← column asStr v "project_id"
    version := ← column asNat v "version"
    payload := ← column TrackingState.ofValue v "payload_json"
    contentFingerprint := ← column asFp v "content_fingerprint"
    updatedAt := ← column asStr v "updated_at" }

def CharacterRow.ofValue (v : Json Fp) : Option (CharacterRow Fp) := do
  return {
    characterId := ← column asStr v "character_id"
    name := ← column asStr v "name"
    agenda := ← column (nullable asStr) v "agenda"
    voiceNotes := ← column (nullable asStr) v "voice_notes"
    state := ← column some v "state_json"
    updatedAt := ← column asStr v "updated_at" }

def WorldEntityRow.ofValue (v : Json Fp) : Option (WorldEntityRow Fp) := do
  return {
    entityId := ← column asStr v "entity_id"
    entityType := ← column asStr v "entity_type"
    name := ← column asStr v "name"
    truth := ← column some v "truth_json"
    updatedAt := ← column asStr v "updated_at" }

def RelationshipRow.ofValue (v : Json Fp) : Option (RelationshipRow Fp) := do
  return {
    relationshipId := ← column asStr v "relationship_id"
    participantA := ← column asStr v "participant_a"
    participantB := ← column asStr v "participant_b"
    relationshipType := ← column asStr v "relationship_type"
    state := ← column some v "state_json"
    updatedAt := ← column asStr v "updated_at" }

def TimelineEventRow.ofValue (v : Json Fp) : Option TimelineEventRow := do
  return {
    eventId := ← column asStr v "event_id"
    storyOrder := ← column asInt v "story_order"
    title := ← column asStr v "title"
    description := ← column (nullable asStr) v "description"
    authorityClass := ← column asStr v "authority_class"
    sourceRef := ← column (nullable asStr) v "source_ref" }

def CharacterKnowledgeRow.ofValue (v : Json Fp) : Option (CharacterKnowledgeRow Fp) := do
  return {
    knowledgeId := ← column asStr v "knowledge_id"
    characterId := ← column asStr v "character_id"
    claimRef := ← column (nullable asStr) v "claim_ref"
    fact := ← column some v "fact_json"
    availableFromStoryOrder := ← column asInt v "available_from_story_order"
    evidenceRef := ← column asStr v "evidence_ref"
    confidence := ← column asStr v "confidence" }

def ExpectationRow.ofValue (v : Json Fp) : Option (ExpectationRow Fp) := do
  return {
    expectationId := ← column asStr v "expectation_id"
    kind := ← column asStr v "kind"
    scope := ← column asStr v "scope"
    description := ← column asStr v "description"
    openedOrder := ← column asInt v "opened_order"
    dueByOrder := ← column (nullable asInt) v "due_by_order"
    lastTouchedOrder := ← column asInt v "last_touched_order"
    status := ← column asStr v "status"
    sourceRef := ← column asStr v "source_ref"
    sourceFingerprint := ← column (nullable asFp) v "source_fingerprint"
    version := ← column asInt v "version"
    createdAt := ← column asStr v "created_at"
    updatedAt := ← column asStr v "updated_at" }

def ExpectationEventRow.ofValue (v : Json Fp) : Option ExpectationEventRow := do
  return {
    eventId := ← column asInt v "event_id"
    expectationId := ← column asStr v "expectation_id"
    eventType := ← column asStr v "event_type"
    atOrder := ← column asInt v "at_order"
    detail := ← column (nullable asStr) v "detail"
    evidenceRef := ← column (nullable asStr) v "evidence_ref"
    createdAt := ← column asStr v "created_at" }

def NarrativeEntityType.ofName (name : String) : Option NarrativeEntityType :=
  [.character, .relationship, .world, .timeline, .knowledge, .expectation].find?
    fun kind => kind.name = name

def Freshness.ofName (name : String) : Option Freshness :=
  [.current, .stale].find? fun state => state.name = name

def NarrativeSourceRow.ofValue (v : Json Fp) : Option (NarrativeSourceRow Fp) := do
  return {
    entityType := ← NarrativeEntityType.ofName (← column asStr v "entity_type")
    entityId := ← column asStr v "entity_id"
    chapterId := ← column asStr v "chapter_id"
    acceptanceId := ← column asStr v "acceptance_id"
    sourceFingerprint := ← column asFp v "source_fingerprint"
    state := ← Freshness.ofName (← column asStr v "state")
    updatedAt := ← column asStr v "updated_at" }

/-! ## Codecs -/

section Codecs

@[simp] theorem ChapterTrackingRecord.ofValue_toValue (r : ChapterTrackingRecord Fp) :
    ofValue r.toValue = some r := by
  simp [ofValue, toValue, column, Json.get?, asStr, asNat, asFp]

@[simp] theorem TrackingState.ofValue_toValue (s : TrackingState Fp) :
    ofValue s.toValue = some s := by
  simp [ofValue, toValue, column, Json.get?, asStr, asNat, asFp]

@[simp] theorem NarrativeEntityType.ofName_name (kind : NarrativeEntityType) :
    ofName kind.name = some kind := by
  cases kind <;> decide

@[simp] theorem Freshness.ofName_name (state : Freshness) : ofName state.name = some state := by
  cases state <;> decide

variable [SerdeJson Fp]

@[simp] theorem ChapterTrackingRecord.blind_ofValue :
    Json.Blind (ChapterTrackingRecord.ofValue : Json Fp → _) := by
  intro v
  simp [ofValue]

@[simp] theorem TrackingState.blind_ofValue :
    Json.Blind (TrackingState.ofValue : Json Fp → _) := by
  intro v
  simp [ofValue]

def CanonRow.codec : RowCodec Fp (CanonRow Fp) where
  toValue := toValue
  ofValue := ofValue
  reread row := { row with value := row.value.reread }
  toValue_reread row := by simp [toValue, Json.reread]
  ofValue_reread v := by simp [ofValue, Option.map_bind, Option.bind_map]
  ofValue_toValue row := by simp [toValue, ofValue, column, Json.get?, asStr, asFp]

def TrackingRow.codec : RowCodec Fp (TrackingRow Fp) where
  toValue := toValue
  ofValue := ofValue
  reread row := row
  toValue_reread row := by
    have hpayload : row.payload.toValue.reread = row.payload.toValue :=
      row.payload.toValue_stable
    rw [Json.reread] at hpayload
    simp [toValue, Json.reread, hpayload]
  ofValue_reread v := by simp [ofValue]
  ofValue_toValue row := by simp [toValue, ofValue, column, Json.get?, asStr, asNat, asFp]

def CharacterRow.codec : RowCodec Fp (CharacterRow Fp) where
  toValue := toValue
  ofValue := ofValue
  reread row := { row with state := row.state.reread }
  toValue_reread row := by simp [toValue, Json.reread]
  ofValue_reread v := by simp [ofValue, Option.map_bind, Option.bind_map]
  ofValue_toValue row := by simp [toValue, ofValue, column, Json.get?, asStr]

def WorldEntityRow.codec : RowCodec Fp (WorldEntityRow Fp) where
  toValue := toValue
  ofValue := ofValue
  reread row := { row with truth := row.truth.reread }
  toValue_reread row := by simp [toValue, Json.reread]
  ofValue_reread v := by simp [ofValue, Option.map_bind, Option.bind_map]
  ofValue_toValue row := by simp [toValue, ofValue, column, Json.get?, asStr]

def RelationshipRow.codec : RowCodec Fp (RelationshipRow Fp) where
  toValue := toValue
  ofValue := ofValue
  reread row := { row with state := row.state.reread }
  toValue_reread row := by simp [toValue, Json.reread]
  ofValue_reread v := by simp [ofValue, Option.map_bind, Option.bind_map]
  ofValue_toValue row := by simp [toValue, ofValue, column, Json.get?, asStr]

def CharacterKnowledgeRow.codec : RowCodec Fp (CharacterKnowledgeRow Fp) where
  toValue := toValue
  ofValue := ofValue
  reread row := { row with fact := row.fact.reread }
  toValue_reread row := by simp [toValue, Json.reread]
  ofValue_reread v := by simp [ofValue, Option.map_bind, Option.bind_map]
  ofValue_toValue row := by simp [toValue, ofValue, column, Json.get?, asStr, asInt]

def TimelineEventRow.codec : RowCodec Fp TimelineEventRow where
  toValue := toValue
  ofValue := ofValue
  reread row := row
  toValue_reread row := by simp [toValue, Json.reread]
  ofValue_reread v := by simp [ofValue]
  ofValue_toValue row := by simp [toValue, ofValue, column, Json.get?, asStr, asInt]

def ExpectationRow.codec : RowCodec Fp (ExpectationRow Fp) where
  toValue := toValue
  ofValue := ofValue
  reread row := row
  toValue_reread row := by simp [toValue, Json.reread]
  ofValue_reread v := by
    have hread : ofValue v.reread = ofValue v := by
      simp only [ofValue, Json.column_reread, Json.blind_asStr, Json.blind_asInt, Json.blind_asFp,
        Json.Blind.nullable]
    rw [hread, Option.map_id']
  ofValue_toValue row := by
    simp only [ofValue, column, toValue, Json.get?, List.find?_cons, String.reduceBEq,
      Option.map_some, Option.bind_eq_bind, Option.bind_some, asStr, asInt, Json.nullable_int,
      Json.nullable_fp, Option.pure_def]

def ExpectationEventRow.codec : RowCodec Fp ExpectationEventRow where
  toValue := toValue
  ofValue := ofValue
  reread row := row
  toValue_reread row := by simp [toValue, Json.reread]
  ofValue_reread v := by simp [ofValue]
  ofValue_toValue row := by simp [toValue, ofValue, column, Json.get?, asStr, asInt]

def NarrativeSourceRow.codec : RowCodec Fp (NarrativeSourceRow Fp) where
  toValue := toValue
  ofValue := ofValue
  reread row := row
  toValue_reread row := by simp [toValue, Json.reread]
  ofValue_reread v := by simp [ofValue]
  ofValue_toValue row := by simp [toValue, ofValue, column, Json.get?, asStr, asFp]
end Codecs

/-! ## Opening checks -/

def StoryKind.parentKind : StoryKind → CoreResult (Option StoryKind)
  | .book => .ok none
  | .volume => .ok (some .book)
  | .unit => .ok (some .volume)
  | .chapter => .ok (some .unit)
  | .scene => .ok (some .chapter)
  | .arc => .error (.storage "story topology contains an unsupported node kind")

/-- The walk from a node to its book. It visits each node at most once, so the number of nodes
bounds its steps. -/
def validateAncestry (nodes : List StoryNode) :
    ℕ → List String → Option String → CoreResult Unit
  | _, _, none => .ok ()
  | 0, _, some _ => .error (.storage "story topology contains a cycle")
  | steps + 1, seen, some parent => do
    require (parent ∉ seen) (.storage "story topology contains a cycle")
    let node ← fetch (Table.lookup StoryNode.nodeId parent nodes)
      (.storage "story parent is missing")
    validateAncestry nodes steps (parent :: seen) node.parentId

def validateStoryNode (nodes : List StoryNode) (node : StoryNode) : CoreResult Unit := do
  let expected ← node.kind.parentKind
  require (node.parentId.map (fun parent =>
      (Table.lookup StoryNode.nodeId parent nodes).map (·.kind)) = expected.map some)
    (.storage "story topology violates book-volume-unit-chapter-scene ancestry")
  validateAncestry nodes nodes.length [node.nodeId] node.parentId

def Database.validateNovelTopology (db : Database Fp) : CoreResult Unit := do
  require (db.storyNodes ≠ []) (.storage "novel topology is empty")
  require ((∀ node ∈ db.storyNodes, 0 < node.ordinal) ∧
      (db.storyNodes.map fun node => (node.parentId, node.kind, node.ordinal)).Nodup)
    (.storage "story sibling positions must be positive and unique")
  forEach (fun _ node => validateStoryNode db.storyNodes node) db.storyNodes ()
  let chapters := (db.storyNodes.filter fun node => node.kind = .chapter).map (·.nodeId)
  require ((db.storyNodes.filter fun node => node.kind = .book).length = 1 ∧ chapters ≠ [])
    (.storage "native novel requires one book and at least one chapter")
  let manuscripts ← fetch ((db.documents.filter fun document =>
    document.documentKind = .manuscript).mapM (·.storyNodeId))
    (.storage "manuscript is missing its chapter")
  require (manuscripts ⊆ chapters ∧ chapters ⊆ manuscripts)
    (.storage "every chapter must own exactly one manuscript")

/-- The foreign keys of the projection tables and into them. -/
structure Database.ForeignKeys (db : Database Fp) : Prop where
  participants : ∀ row ∈ db.relationships,
    row.participantA ∈ db.characters.map (·.characterId) ∧
      row.participantB ∈ db.characters.map (·.characterId)
  knowers : ∀ row ∈ db.characterKnowledge, row.characterId ∈ db.characters.map (·.characterId)
  expectationEvents : ∀ row ∈ db.expectationEvents,
    row.expectationId ∈ db.expectations.map (·.expectationId)
  sources : ∀ row ∈ db.narrativeStateSources, row.chapterId ∈ db.storyNodes.map (·.nodeId) ∧
    row.acceptanceId ∈ db.acceptanceEvidence.map (·.acceptanceId)
  tracking : ∀ row ∈ db.trackingAuthority, row.projectId = db.projectId
  readers : ∀ row ∈ db.readerExpectationDependencies ++ db.readerExpectationEffects,
    row.expectationId ∈ db.expectations.map (·.expectationId)

instance (db : Database Fp) : Decidable db.ForeignKeys :=
  decidable_of_iff
    ((∀ row ∈ db.relationships, row.participantA ∈ db.characters.map (·.characterId) ∧
        row.participantB ∈ db.characters.map (·.characterId)) ∧
      (∀ row ∈ db.characterKnowledge, row.characterId ∈ db.characters.map (·.characterId)) ∧
      (∀ row ∈ db.expectationEvents,
        row.expectationId ∈ db.expectations.map (·.expectationId)) ∧
      (∀ row ∈ db.narrativeStateSources, row.chapterId ∈ db.storyNodes.map (·.nodeId) ∧
        row.acceptanceId ∈ db.acceptanceEvidence.map (·.acceptanceId)) ∧
      (∀ row ∈ db.trackingAuthority, row.projectId = db.projectId) ∧
      ∀ row ∈ db.readerExpectationDependencies ++ db.readerExpectationEffects,
        row.expectationId ∈ db.expectations.map (·.expectationId))
    ⟨fun ⟨h1, h2, h3, h4, h5, h6⟩ => ⟨h1, h2, h3, h4, h5, h6⟩,
      fun ⟨h1, h2, h3, h4, h5, h6⟩ => ⟨h1, h2, h3, h4, h5, h6⟩⟩

/-- The checks that precede every use of a project database: the foreign keys, the identity of
the project and the shape of its story tree. -/
def Database.openingChecks (db : Database Fp) (projectId : String) : CoreResult Unit := do
  require db.ForeignKeys (.storage "SQLite foreign_key_check reported a violation")
  require (db.projectId = projectId)
    (.storage "SQLite Project identity does not match the exact manifest")
  db.validateNovelTopology

/-! ## Restoring -/

def CanonRow.Checked (row : CanonRow Fp) : Prop := row.authorityClass ∈ ["locked", "accepted"]

def RelationshipRow.Checked (row : RelationshipRow Fp) : Prop :=
  row.participantA ≠ row.participantB

def TimelineEventRow.Checked (row : TimelineEventRow) : Prop :=
  row.authorityClass ∈ ["locked", "accepted", "active_plan", "review", "proposal"]

def ExpectationEventRow.Checked (row : ExpectationEventRow) : Prop := 0 ≤ row.atOrder

instance : DecidablePred (@CanonRow.Checked Fp) :=
  fun row => inferInstanceAs (Decidable (row.authorityClass ∈ _))

instance : DecidablePred (@RelationshipRow.Checked Fp) :=
  fun row => inferInstanceAs (Decidable (row.participantA ≠ _))

instance : DecidablePred TimelineEventRow.Checked :=
  fun row => inferInstanceAs (Decidable (row.authorityClass ∈ _))

instance : DecidablePred ExpectationEventRow.Checked :=
  fun row => inferInstanceAs (Decidable (0 ≤ row.atOrder))

/-- `INSERT INTO table(..) SELECT json_extract(..) FROM json_each(..)`, with the `CHECK`
constraints and the key of the table. -/
def insertRows {Row K : Type} [DecidableEq K] (ofValue : Json Fp → Option Row) (key : Row → K)
    (Checked : Row → Prop) [DecidablePred Checked] (projection : Json Fp) (table : String) :
    CoreResult (List Row) := do
  let rows ← fetch ((jsonEach (projection.get? table)).mapM ofValue)
    (.storage ("datatype mismatch: " ++ table))
  require (∀ row ∈ rows, Checked row) (checkFailed table)
  require (rows.map key).Nodup (uniqueFailed table)
  return rows

/-- The largest key of an autoincrement table, now or before. -/
def expectationSequence (sequence : ℤ) (rows : List ExpectationEventRow) : ℤ :=
  rows.foldl (fun latest row => max latest row.eventId) sequence

def Database.materializeStoryProjection (projection : Json Fp) (db : Database Fp) :
    CoreResult (Database Fp) := do
  -- an expectation that a reader row references cannot be deleted
  require (∀ row ∈ db.readerExpectationDependencies ++ db.readerExpectationEffects,
      row.expectationId ∉ db.expectations.map (·.expectationId))
    foreignKeyFailed
  let canonState ← insertRows CanonRow.ofValue (·.stateKey) CanonRow.Checked
    projection "canon_state"
  let trackingAuthority ← insertRows TrackingRow.ofValue (·.projectId) (fun _ => True)
    projection "tracking"
  require (∀ row ∈ trackingAuthority, row.projectId = db.projectId) foreignKeyFailed
  let characters ← insertRows CharacterRow.ofValue (·.characterId) (fun _ => True)
    projection "characters"
  let worldEntities ← insertRows WorldEntityRow.ofValue (·.entityId) (fun _ => True)
    projection "world_entities"
  let relationships ← insertRows RelationshipRow.ofValue (·.relationshipId)
    RelationshipRow.Checked projection "relationships"
  require (∀ row ∈ relationships, row.participantA ∈ characters.map (·.characterId) ∧
      row.participantB ∈ characters.map (·.characterId))
    foreignKeyFailed
  let timelineEvents ← insertRows TimelineEventRow.ofValue (·.eventId) TimelineEventRow.Checked
    projection "timeline_events"
  let characterKnowledge ← insertRows CharacterKnowledgeRow.ofValue (·.knowledgeId)
    (fun _ => True) projection "character_knowledge"
  require (∀ row ∈ characterKnowledge, row.characterId ∈ characters.map (·.characterId))
    foreignKeyFailed
  let expectations ← insertRows ExpectationRow.ofValue (·.expectationId) ExpectationRow.Checked
    projection "expectations"
  let expectationEvents ← insertRows ExpectationEventRow.ofValue (·.eventId)
    ExpectationEventRow.Checked projection "expectation_events"
  require (∀ row ∈ expectationEvents, row.expectationId ∈ expectations.map (·.expectationId))
    foreignKeyFailed
  let narrativeStateSources ← insertRows NarrativeSourceRow.ofValue
    (fun row => (row.entityType, row.entityId)) (fun _ => True) projection
    "narrative_state_sources"
  require (∀ row ∈ narrativeStateSources, row.chapterId ∈ db.storyNodes.map (·.nodeId) ∧
      row.acceptanceId ∈ db.acceptanceEvidence.map (·.acceptanceId))
    foreignKeyFailed
  return { db with
    canonState, trackingAuthority, characters, worldEntities, relationships, timelineEvents,
    characterKnowledge, expectations, expectationEvents, narrativeStateSources
    expectationEventSequence :=
      expectationSequence db.expectationEventSequence expectationEvents }

section Restore

variable [Sha256 Fp] [DecidableEq Fp] [SerdeJson Fp]

def restoreLatestStorySnapshot (projectId : String) (expectedRevision : ℕ) (db : Database Fp) :
    CoreResult (String × Database Fp) := do
  db.openingChecks projectId
  require (db.head.projectId = projectId) noRows
  require (¬ (db.head.revision ≠ expectedRevision ∨ db.head.revision = 0))
    (.authorityConflict "story snapshot recovery revision is stale or has no committed state")
  let snapshotId ← fetch db.head.latestSnapshotId
    (.authorityConflict "committed story head has no recovery snapshot")
  let row ← fetch (db.storySnapshots.find? fun row => row.snapshotId = snapshotId ∧
    row.projectId = projectId ∧ some row.throughEventSeq = db.head.latestEventSeq) noRows
  let snapshot := row.payload.reread
  snapshot.validate
  require (¬ (snapshot.projectId ≠ projectId ∨ snapshot.throughRevision ≠ db.head.revision ∨
      some snapshot.throughEventSeq ≠ db.head.latestEventSeq ∨
      snapshot.eventChainFingerprint ≠ db.head.stateFingerprint))
    (.authorityConflict "story snapshot recovery binding does not match the committed head")
  -- the columns are taken from the stored text, not from the value it was parsed to
  let db ← db.materializeStoryProjection row.payload.projection
  db.verifyStoryHistory
  return (snapshotId, db)

/-! ## Restored tables -/

/-- The rows of a table after a pass through the snapshot: in the order of the projection, with
their JSON columns as they read. -/
def Restored {Row O : Type} [LinearOrder O] (codec : RowCodec Fp Row) (order : Row → O)
    (rows rows' : List Row) : Prop :=
  rows'.map codec.reread = (orderBy order rows).map codec.reread

namespace Restored

variable {Row O K : Type} [LinearOrder O] {codec : RowCodec Fp Row} {order : Row → O}
  {rows rows' : List Row}

omit [Sha256 Fp] [DecidableEq Fp] in
/-- A column that reading does not change has the same values. -/
theorem perm (h : Restored codec order rows rows') {column : Row → K}
    (hcolumn : ∀ row, column (codec.reread row) = column row) :
    (rows'.map column).Perm (rows.map column) := by
  have hsame : ∀ rows : List Row, (rows.map codec.reread).map column = rows.map column := by
    intro rows
    simp [Function.comp_def, hcolumn]
  rw [← hsame rows', h, hsame]
  exact (List.perm_insertionSort _ rows).map column

omit [Sha256 Fp] [DecidableEq Fp] in
theorem mem_iff (h : Restored codec order rows rows') {column : Row → K}
    (hcolumn : ∀ row, column (codec.reread row) = column row) (value : K) :
    value ∈ rows'.map column ↔ value ∈ rows.map column := (h.perm hcolumn).mem_iff

omit [Sha256 Fp] [DecidableEq Fp] in
/-- A property of the columns that reading does not change is kept. -/
theorem forall_mem (h : Restored codec order rows rows') {P : Row → Prop}
    (hP : ∀ row, P (codec.reread row) ↔ P row) (hrows : ∀ row ∈ rows, P row) :
    ∀ row ∈ rows', P row := by
  intro row hrow
  have hmem : P row ∈ rows'.map P := List.mem_map_of_mem hrow
  have hcolumn : ∀ row, P (codec.reread row) = P row := fun row => propext (hP row)
  obtain ⟨row₀, hrow₀, hsame⟩ := List.mem_map.mp ((h.mem_iff hcolumn (P row)).mp hmem)
  exact hsame ▸ hrows row₀ hrow₀

omit [Sha256 Fp] [DecidableEq Fp] in
/-- The restored rows are projected as the old ones. -/
theorem collect (h : Restored codec order rows rows')
    (horder : ∀ row, order (codec.reread row) = order row) :
    collectJsonRows order codec.toValue rows' = collectJsonRows order codec.toValue rows := by
  have hkeys : rows'.map order = (orderBy order rows).map order := by
    have hsame : ∀ rows : List Row, (rows.map codec.reread).map order = rows.map order := by
      intro rows
      simp [Function.comp_def, horder]
    rw [← hsame rows', h, hsame]
  have hsorted : rows'.Pairwise fun a b => order a ≤ order b := by
    have : Std.Total fun a b : Row => order a ≤ order b := ⟨fun a b => le_total _ _⟩
    have : IsTrans Row fun a b => order a ≤ order b := ⟨fun a b c hab hbc => hab.trans hbc⟩
    have hpairs := List.pairwise_insertionSort (fun a b : Row => order a ≤ order b) rows
    rw [← List.pairwise_map (R := fun a b => a ≤ b), hkeys, List.pairwise_map]
    exact hpairs
  have hidem : orderBy order rows' = rows' := hsorted.insertionSort_eq
  rw [collectJsonRows, collectJsonRows, hidem, codec.map_toValue_reread h]

end Restored

omit [Sha256 Fp] [DecidableEq Fp] in
/-- A table is refilled from the array its rows were collected into. -/
theorem insertRows_collected {Row O K : Type} [LinearOrder O] [DecidableEq K]
    (codec : RowCodec Fp Row) (key : Row → K) (Checked : Row → Prop) [DecidablePred Checked]
    {order : Row → O} (hkey : ∀ row, key (codec.reread row) = key row)
    (hchecked : ∀ row, Checked (codec.reread row) ↔ Checked row) {rows : List Row}
    (hnodup : (rows.map key).Nodup) (hrows : ∀ row ∈ rows, Checked row)
    {projection : Json Fp} {table : String}
    (h : projection.reread.get? table = some (collectJsonRows order codec.toValue rows)) :
    ∃ rows', insertRows codec.ofValue key Checked projection table = .ok rows' ∧
      Restored codec order rows rows' := by
  have hitems : (jsonEach (projection.get? table)).map Json.reread =
      (orderBy order rows).map fun row => (codec.toValue row).reread := by
    rw [← Json.jsonEach_reread, ← Json.get?_reread, h]
    rfl
  obtain ⟨rows', hdecoded, hrestored⟩ := codec.mapM_of_reread hitems
  have hrestored : Restored codec order rows rows' := hrestored
  refine ⟨rows', ?_, hrestored⟩
  simp only [insertRows, hdecoded, bind_eq_ok, fetch_eq_ok, require_eq_ok, exists_const,
    pure_eq_ok]
  exact ⟨rows', rfl, hrestored.forall_mem hchecked hrows, (hrestored.perm hkey).nodup_iff.mpr hnodup,
    rfl⟩

/-! ## A restored database -/

/-- The database with its ten projection tables taken from another one. -/
def Database.withProjection (db tables : Database Fp) : Database Fp :=
  { db with
    canonState := tables.canonState
    trackingAuthority := tables.trackingAuthority
    characters := tables.characters
    relationships := tables.relationships
    worldEntities := tables.worldEntities
    timelineEvents := tables.timelineEvents
    characterKnowledge := tables.characterKnowledge
    expectations := tables.expectations
    expectationEvents := tables.expectationEvents
    expectationEventSequence := tables.expectationEventSequence
    narrativeStateSources := tables.narrativeStateSources }

/-- The keys and the `CHECK` constraints of the projection tables. -/
structure Database.RowConstraints (db : Database Fp) : Prop where
  canonKeys : (db.canonState.map (·.stateKey)).Nodup
  canon : ∀ row ∈ db.canonState, row.Checked
  trackingKeys : (db.trackingAuthority.map (·.projectId)).Nodup
  characterKeys : (db.characters.map (·.characterId)).Nodup
  entityKeys : (db.worldEntities.map (·.entityId)).Nodup
  relationshipKeys : (db.relationships.map (·.relationshipId)).Nodup
  relationships : ∀ row ∈ db.relationships, row.Checked
  timelineKeys : (db.timelineEvents.map (·.eventId)).Nodup
  timeline : ∀ row ∈ db.timelineEvents, row.Checked
  knowledgeKeys : (db.characterKnowledge.map (·.knowledgeId)).Nodup
  expectationKeys : (db.expectations.map (·.expectationId)).Nodup
  expectations : ∀ row ∈ db.expectations, row.Checked
  eventKeys : (db.expectationEvents.map (·.eventId)).Nodup
  events : ∀ row ∈ db.expectationEvents, row.Checked
  sourceKeys : (db.narrativeStateSources.map fun row => (row.entityType, row.entityId)).Nodup

omit [Sha256 Fp] [DecidableEq Fp] in
theorem Database.storyProjection_eq_ok {db : Database Fp} {projectId : String}
    {projection : Json Fp} (h : db.storyProjection projectId = .ok projection) :
    db.trackingAuthority.map (·.projectId) = [projectId] ∧
    projection.get? "canon_state" =
      some (collectJsonRows CanonRow.stateKey CanonRow.codec.toValue db.canonState) ∧
    projection.get? "tracking" =
      some (collectJsonRows TrackingRow.projectId TrackingRow.codec.toValue
        db.trackingAuthority) ∧
    projection.get? "characters" =
      some (collectJsonRows CharacterRow.characterId CharacterRow.codec.toValue
        db.characters) ∧
    projection.get? "world_entities" =
      some (collectJsonRows WorldEntityRow.entityId WorldEntityRow.codec.toValue
        db.worldEntities) ∧
    projection.get? "relationships" =
      some (collectJsonRows RelationshipRow.relationshipId RelationshipRow.codec.toValue
        db.relationships) ∧
    projection.get? "timeline_events" =
      some (collectJsonRows (fun r => toLex (r.storyOrder, r.eventId))
        TimelineEventRow.codec.toValue db.timelineEvents) ∧
    projection.get? "character_knowledge" =
      some (collectJsonRows CharacterKnowledgeRow.knowledgeId
        CharacterKnowledgeRow.codec.toValue db.characterKnowledge) ∧
    projection.get? "expectations" =
      some (collectJsonRows ExpectationRow.expectationId ExpectationRow.codec.toValue
        db.expectations) ∧
    projection.get? "expectation_events" =
      some (collectJsonRows ExpectationEventRow.eventId ExpectationEventRow.codec.toValue
        db.expectationEvents) ∧
    projection.get? "narrative_state_sources" =
      some (collectJsonRows (fun r => toLex (r.entityType.name, r.entityId))
        NarrativeSourceRow.codec.toValue db.narrativeStateSources) := by
  simp only [storyProjection, bind_eq_ok, require_eq_ok, exists_const, pure_eq_ok] at h
  obtain ⟨htracking, rfl⟩ := h
  simp only [Json.get?, List.find?_cons, String.reduceBEq, Option.map_some]
  exact ⟨htracking, rfl, rfl, rfl, rfl, rfl, rfl, rfl, rfl, rfl, rfl⟩

omit [Sha256 Fp] [DecidableEq Fp] in
/-- Refilling the tables of a changed database from a snapshot's text. -/
theorem Database.materializeStoryProjection_of_snapshot {db : Database Fp}
    (tables : Database Fp) {projectId : String} {projection : Json Fp}
    (hprojection : db.storyProjection projectId = .ok projection.reread)
    (hrows : db.RowConstraints) (hkeys : db.ForeignKeys)
    (hreaders : db.readerExpectationDependencies = [] ∧ db.readerExpectationEffects = []) :
    ∃ restored, (db.withProjection tables).materializeStoryProjection projection = .ok restored ∧
      restored = db.withProjection restored ∧
      restored.storyProjection projectId = .ok projection.reread := by
  obtain ⟨hproject, h1, h2, h3, h4, h5, h6, h7, h8, h9, h10⟩ := storyProjection_eq_ok hprojection
  obtain ⟨canon, hcanonOk, hcanon⟩ := insertRows_collected CanonRow.codec (·.stateKey)
    CanonRow.Checked (fun _ => rfl) (fun _ => Iff.rfl) hrows.canonKeys hrows.canon h1
  obtain ⟨tracking, htrackingOk, htracking⟩ := insertRows_collected TrackingRow.codec (·.projectId)
    (fun _ => True) (fun _ => rfl) (fun _ => Iff.rfl) hrows.trackingKeys (fun _ _ => trivial) h2
  obtain ⟨characters, hcharactersOk, hcharacters⟩ := insertRows_collected CharacterRow.codec (·.characterId)
    (fun _ => True) (fun _ => rfl) (fun _ => Iff.rfl) hrows.characterKeys (fun _ _ => trivial) h3
  obtain ⟨entities, hentitiesOk, hentities⟩ := insertRows_collected WorldEntityRow.codec (·.entityId)
    (fun _ => True) (fun _ => rfl) (fun _ => Iff.rfl) hrows.entityKeys (fun _ _ => trivial) h4
  obtain ⟨relationships, hrelationshipsOk, hrelationships⟩ := insertRows_collected RelationshipRow.codec (·.relationshipId)
    RelationshipRow.Checked (fun _ => rfl) (fun _ => Iff.rfl) hrows.relationshipKeys hrows.relationships h5
  obtain ⟨timeline, htimelineOk, htimeline⟩ := insertRows_collected TimelineEventRow.codec (·.eventId)
    TimelineEventRow.Checked (fun _ => rfl) (fun _ => Iff.rfl) hrows.timelineKeys hrows.timeline h6
  obtain ⟨knowledge, hknowledgeOk, hknowledge⟩ := insertRows_collected CharacterKnowledgeRow.codec (·.knowledgeId)
    (fun _ => True) (fun _ => rfl) (fun _ => Iff.rfl) hrows.knowledgeKeys (fun _ _ => trivial) h7
  obtain ⟨expectations, hexpectationsOk, hexpectations⟩ := insertRows_collected ExpectationRow.codec (·.expectationId)
    ExpectationRow.Checked (fun _ => rfl) (fun _ => Iff.rfl) hrows.expectationKeys hrows.expectations h8
  obtain ⟨events, heventsOk, hevents⟩ := insertRows_collected ExpectationEventRow.codec (·.eventId)
    ExpectationEventRow.Checked (fun _ => rfl) (fun _ => Iff.rfl) hrows.eventKeys hrows.events h9
  obtain ⟨sources, hsourcesOk, hsources⟩ := insertRows_collected NarrativeSourceRow.codec (fun row => (row.entityType, row.entityId))
    (fun _ => True) (fun _ => rfl) (fun _ => Iff.rfl) hrows.sourceKeys (fun _ _ => trivial) h10
  have hcharacter : ∀ id, id ∈ characters.map (·.characterId) ↔
      id ∈ db.characters.map (·.characterId) := hcharacters.mem_iff fun _ => rfl
  have hexpectation : ∀ id, id ∈ expectations.map (·.expectationId) ↔
      id ∈ db.expectations.map (·.expectationId) := hexpectations.mem_iff fun _ => rfl
  have htrackingIds : tracking.map (·.projectId) = db.trackingAuthority.map (·.projectId) := by
    have hperm : (tracking.map TrackingRow.projectId).Perm
        (db.trackingAuthority.map TrackingRow.projectId) := htracking.perm fun _ => rfl
    rw [hproject] at hperm ⊢
    exact List.perm_singleton.mp hperm
  refine ⟨{ db.withProjection tables with
    canonState := canon, trackingAuthority := tracking, characters
    worldEntities := entities, relationships, timelineEvents := timeline
    characterKnowledge := knowledge, expectations, expectationEvents := events
    narrativeStateSources := sources
    expectationEventSequence :=
      expectationSequence tables.expectationEventSequence events }, ?_, rfl, ?_⟩
  · simp only [materializeStoryProjection, bind_eq_ok, require_eq_ok, exists_const, pure_eq_ok]
    refine ⟨?_, canon, hcanonOk, tracking, htrackingOk, ?_, characters, hcharactersOk, entities,
      hentitiesOk, relationships, hrelationshipsOk, ?_, timeline, htimelineOk, knowledge,
      hknowledgeOk, ?_, expectations, hexpectationsOk, events, heventsOk, ?_, sources,
      hsourcesOk, ?_, rfl⟩
    · simp [withProjection, hreaders.1, hreaders.2]
    · exact htracking.forall_mem (fun _ => Iff.rfl) hkeys.tracking
    · refine hrelationships.forall_mem (fun _ => Iff.rfl) fun row hrow => ?_
      exact ⟨(hcharacter _).mpr (hkeys.participants row hrow).1,
        (hcharacter _).mpr (hkeys.participants row hrow).2⟩
    · exact hknowledge.forall_mem (fun _ => Iff.rfl) fun row hrow =>
        (hcharacter _).mpr (hkeys.knowers row hrow)
    · exact hevents.forall_mem (fun _ => Iff.rfl) fun row hrow =>
        (hexpectation _).mpr (hkeys.expectationEvents row hrow)
    · exact hsources.forall_mem (fun _ => Iff.rfl) hkeys.sources
  · have hanchors : ∀ restored : Database Fp, restored = db.withProjection restored →
        restored.acceptedAnchors = db.acceptedAnchors := fun restored h => by rw [h]; rfl
    rw [← hprojection, storyProjection, storyProjection, hanchors _ rfl]
    have hcanonRows : collectJsonRows CanonRow.stateKey CanonRow.toValue canon =
        collectJsonRows CanonRow.stateKey CanonRow.toValue db.canonState :=
      hcanon.collect fun _ => rfl
    have htrackingRows : collectJsonRows TrackingRow.projectId TrackingRow.toValue tracking =
        collectJsonRows TrackingRow.projectId TrackingRow.toValue db.trackingAuthority :=
      htracking.collect fun _ => rfl
    have hcharacterRows : collectJsonRows CharacterRow.characterId CharacterRow.toValue characters =
        collectJsonRows CharacterRow.characterId CharacterRow.toValue db.characters :=
      hcharacters.collect fun _ => rfl
    have hentityRows : collectJsonRows WorldEntityRow.entityId WorldEntityRow.toValue entities =
        collectJsonRows WorldEntityRow.entityId WorldEntityRow.toValue db.worldEntities :=
      hentities.collect fun _ => rfl
    have hrelationshipRows : collectJsonRows RelationshipRow.relationshipId RelationshipRow.toValue
        relationships = collectJsonRows RelationshipRow.relationshipId RelationshipRow.toValue
          db.relationships := hrelationships.collect fun _ => rfl
    have htimelineRows : collectJsonRows (fun r => toLex (r.storyOrder, r.eventId)) (TimelineEventRow.toValue : _ → Json Fp)
        timeline = collectJsonRows (fun r => toLex (r.storyOrder, r.eventId)) (TimelineEventRow.toValue : _ → Json Fp)
          db.timelineEvents := htimeline.collect fun _ => rfl
    have hknowledgeRows : collectJsonRows CharacterKnowledgeRow.knowledgeId CharacterKnowledgeRow.toValue
        knowledge = collectJsonRows CharacterKnowledgeRow.knowledgeId CharacterKnowledgeRow.toValue
          db.characterKnowledge := hknowledge.collect fun _ => rfl
    have hexpectationRows : collectJsonRows ExpectationRow.expectationId ExpectationRow.toValue
        expectations = collectJsonRows ExpectationRow.expectationId ExpectationRow.toValue
          db.expectations := hexpectations.collect fun _ => rfl
    have heventRows : collectJsonRows ExpectationEventRow.eventId (ExpectationEventRow.toValue : _ → Json Fp)
        events = collectJsonRows ExpectationEventRow.eventId (ExpectationEventRow.toValue : _ → Json Fp)
          db.expectationEvents := hevents.collect fun _ => rfl
    have hsourceRows : collectJsonRows (fun r => toLex (r.entityType.name, r.entityId)) NarrativeSourceRow.toValue
        sources = collectJsonRows (fun r => toLex (r.entityType.name, r.entityId)) NarrativeSourceRow.toValue
          db.narrativeStateSources := hsources.collect fun _ => rfl
    simp only [htrackingIds, hcanonRows, htrackingRows, hcharacterRows, hentityRows, hrelationshipRows, htimelineRows, hknowledgeRows, hexpectationRows, heventRows, hsourceRows]

/-- The latest snapshot of a verified history holds the projection of the tables. -/
theorem Database.snapshot_projection [CollisionFree Fp] {db : Database Fp}
    (h : db.verifyStoryHistory = .ok ()) (hcommitted : db.head.revision ≠ 0) :
    ∃ snapshotId row, db.head.latestSnapshotId = some snapshotId ∧
      db.storySnapshots.find? (fun row =>
        row.snapshotId = snapshotId ∧ row.projectId = db.head.projectId) = some row ∧
      some row.throughEventSeq = db.head.latestEventSeq ∧
      row.payload.reread.validate = .ok () ∧
      row.payload.reread.projectId = db.head.projectId ∧
      row.payload.reread.throughRevision = db.head.revision ∧
      some row.payload.reread.throughEventSeq = db.head.latestEventSeq ∧
      row.payload.reread.eventChainFingerprint = db.head.stateFingerprint ∧
      db.storyProjection db.head.projectId = .ok row.payload.projection.reread := by
  simp only [verifyStoryHistory, bind_eq_ok, require_eq_ok, exists_const] at h
  obtain ⟨_, -, _, -, -, h⟩ := h
  split at h
  · rename_i hzero _
    exact absurd hzero hcommitted
  · simp [throw, throwThe, MonadExceptOf.throw] at h
  · rename_i snapshotId hsome _
    simp only [verifySnapshot, bind_eq_ok, fetch_eq_ok, require_eq_ok] at h
    obtain ⟨row, hrow, ⟨⟩, hvalid, projection, hprojection, hproject, hrevision, hseq, hsnapSeq, -,
      hchain, -, hfp⟩ := h
    have hsealed := hvalid
    simp only [StoryStateSnapshot.validate, bind_eq_ok, require_eq_ok] at hsealed
    obtain ⟨_, -, hown, -⟩ := hsealed
    have hsame : row.payload.reread.projection = projection :=
      CollisionFree.ofJson_injective (hown.trans hfp)
    refine ⟨snapshotId, row, hsome, hrow, hseq, hvalid, hproject, hrevision, ?_,
      hchain, ?_⟩
    · rw [hsnapSeq, hseq]
    · rw [hprojection, ← hsame]
      rfl
  · simp [throw, throwThe, MonadExceptOf.throw] at h

/-- Restoring rebuilds the projection tables, whatever they held. -/
theorem restore_exact [CollisionFree Fp] {db tables : Database Fp}
    (hverify : db.verifyStoryHistory = .ok ()) (hcommitted : db.head.revision ≠ 0)
    (hrows : db.RowConstraints) (hkeys : db.ForeignKeys)
    (hopen : (db.withProjection tables).openingChecks db.head.projectId = .ok ())
    (hreaders : db.readerExpectationDependencies = [] ∧ db.readerExpectationEffects = []) :
    ∃ row ∈ db.storySnapshots, db.head.latestSnapshotId = some row.snapshotId ∧
      ∃ restored, restoreLatestStorySnapshot db.head.projectId db.head.revision
          (db.withProjection tables) = .ok (row.snapshotId, restored) ∧
        restored.storyProjection db.head.projectId = .ok row.payload.reread.projection ∧
        restored = db.withProjection restored := by
  obtain ⟨snapshotId, row, hid, hfind, hseq, hvalid, hproject, hrevision, hsnapSeq,
    hchain, hprojection⟩ := Database.snapshot_projection hverify hcommitted
  have hfound := List.find?_some hfind
  simp only [Bool.decide_and, Bool.and_eq_true, decide_eq_true_eq] at hfound
  obtain ⟨rfl, hrowProject⟩ := hfound
  obtain ⟨restored, hmaterialized, hframe, hrestored⟩ :=
    Database.materializeStoryProjection_of_snapshot tables hprojection hrows hkeys hreaders
  refine ⟨row, List.mem_of_find?_eq_some hfind, hid, restored, ?_, hrestored, hframe⟩
  -- the stricter query of the recovery finds the row the verification found
  have hlookup : db.storySnapshots.find? (fun other => other.snapshotId = row.snapshotId ∧
      other.projectId = db.head.projectId ∧
      some other.throughEventSeq = db.head.latestEventSeq) = some row := by
    obtain ⟨-, before, after, hsplit, hbefore⟩ := List.find?_eq_some_iff_append.mp hfind
    refine List.find?_eq_some_iff_append.mpr ⟨?_, before, after, hsplit, fun other hother => ?_⟩
    · simpa using ⟨hrowProject, hseq⟩
    · have hother := hbefore other hother
      simp only [Bool.decide_and, Bool.not_eq_true', Bool.and_eq_false_iff,
        decide_eq_false_iff_not] at hother ⊢
      tauto
  -- the verification of the restored database reads what that of the old one read
  have hagain : restored.verifyStoryHistory = .ok () := by
    have hhead : restored.head = db.head := by rw [hframe]; rfl
    have hevents : restored.storyEvents = db.storyEvents := by rw [hframe]; rfl
    have hsnapshots : restored.storySnapshots = db.storySnapshots := by rw [hframe]; rfl
    rw [Database.verifyStoryHistory_congr hhead hevents hsnapshots
      (hrestored.trans hprojection.symm), hverify]
  simp only [restoreLatestStorySnapshot, bind_eq_ok, require_eq_ok, fetch_eq_ok, exists_const,
    pure_eq_ok]
  refine ⟨(), hopen, rfl, by simpa [Database.withProjection] using hcommitted, row.snapshotId, hid,
    row, hlookup, (), hvalid, ?_, restored, hmaterialized, (), hagain, rfl⟩
  simp [Database.withProjection, hproject, hrevision, hsnapSeq, hchain]

end Restore

namespace Sample

def genesis : Database Digest := initialProject "n" "H" "t"

/-- A committed story with rows in most of the tables. -/
def chronicle : Database Digest :=
  let told : Database Digest := { genesis with
    canonState := [⟨"k", obj [("a", .float ⟨false, 5, -1⟩)], "accepted", "e", .tag 0, "t"⟩]
    characters := [⟨"b", "B", none, some "v", obj [], "t"⟩, ⟨"a", "A", none, none, obj [], "t"⟩]
    relationships := [⟨"r", "a", "b", "ally", obj [], "t"⟩]
    worldEntities := [⟨"w", "narrative", "W", obj [], "t"⟩]
    timelineEvents := [⟨"y", 2, "Y", none, "accepted", none⟩, ⟨"x", 1, "X", none, "locked", none⟩]
    characterKnowledge := [⟨"c", "a", none, obj [], 1, "e", "known"⟩]
    expectations := [⟨"q", "goal", "book", "d", 1, none, 1, "open", "s", none, 1, "t", "t"⟩]
    expectationEvents := [⟨1, "q", "open", 1, none, none, "t"⟩]
    expectationEventSequence := 1 }
  let committed : CoreResult (Database Digest) := do
    let (seq, db) ← appendStoryEvent "e" "n" none none "chapter" "c" "settled" (obj []) "t" told
    let (_, db) ← createStorySnapshot "s" "n" seq "settled" "t" db
    return db
  committed.toOption.getD told

end Sample

/-- A story whose tables were emptied. -/
theorem restore_exact_sample :
    ∃ row ∈ Sample.chronicle.storySnapshots,
      Sample.chronicle.head.latestSnapshotId = some row.snapshotId ∧
      ∃ restored, restoreLatestStorySnapshot Sample.chronicle.head.projectId
          Sample.chronicle.head.revision
          (Sample.chronicle.withProjection Sample.genesis) =
            .ok (row.snapshotId, restored) ∧
        restored.storyProjection Sample.chronicle.head.projectId =
          .ok row.payload.reread.projection ∧
        restored = Sample.chronicle.withProjection restored := by
  refine restore_exact ?_ ?_ ?_ ?_ ?_ ?_
  · decide +kernel
  · decide +kernel
  · constructor <;> decide +kernel
  · decide +kernel
  · decide +kernel
  · decide +kernel

/-- A new project has nothing to restore. -/
theorem restore_genesis_refused :
    Sample.genesis.verifyStoryHistory = .ok () ∧
      restoreLatestStorySnapshot Sample.genesis.head.projectId Sample.genesis.head.revision
          (Sample.genesis.withProjection Sample.genesis) =
        .error (.authorityConflict
          "story snapshot recovery revision is stale or has no committed state") := by
  decide +kernel

end Quillframe
