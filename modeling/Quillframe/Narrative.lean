import Quillframe.Project

/-!
# Narrative deltas

Settling a chapter writes the five kinds of deltas of its tracking proposal into the narrative
tables, each insert under the constraints of its table. The database itself only answers the
foreign keys into its other tables.
-/
namespace Quillframe

open Database

variable {Fp : Type}

/-- The tables narrative deltas are written to. -/
structure NarrativeTables (Fp : Type) where
  characters : List (CharacterRow Fp)
  relationships : List (RelationshipRow Fp)
  worldEntities : List (WorldEntityRow Fp)
  timelineEvents : List TimelineEventRow
  characterKnowledge : List (CharacterKnowledgeRow Fp)
  expectations : List (ExpectationRow Fp)
  expectationEvents : List ExpectationEventRow
  expectationEventSequence : ℤ
  narrativeStateSources : List (NarrativeSourceRow Fp)
  deriving DecidableEq

def Database.narrative (db : Database Fp) : NarrativeTables Fp where
  characters := db.characters
  relationships := db.relationships
  worldEntities := db.worldEntities
  timelineEvents := db.timelineEvents
  characterKnowledge := db.characterKnowledge
  expectations := db.expectations
  expectationEvents := db.expectationEvents
  expectationEventSequence := db.expectationEventSequence
  narrativeStateSources := db.narrativeStateSources

def Database.withNarrative (db : Database Fp) (tables : NarrativeTables Fp) : Database Fp :=
  { db with
    characters := tables.characters
    relationships := tables.relationships
    worldEntities := tables.worldEntities
    timelineEvents := tables.timelineEvents
    characterKnowledge := tables.characterKnowledge
    expectations := tables.expectations
    expectationEvents := tables.expectationEvents
    expectationEventSequence := tables.expectationEventSequence
    narrativeStateSources := tables.narrativeStateSources }

/-- The settled chapter that deltas are written for. -/
structure DeltaSource (Fp : Type) where
  chapterId : String
  acceptanceId : String
  sourceFingerprint : Fp
  readingOrder : ℕ
  createdAt : String

def NarrativeSourceRow.key (row : NarrativeSourceRow Fp) : NarrativeEntityType × String :=
  (row.entityType, row.entityId)

/-- The rows a delta's source refers to exist. -/
def DeltaSource.Known (source : DeltaSource Fp) (db : Database Fp) : Prop :=
  source.chapterId ∈ db.storyNodes.map (·.nodeId) ∧
    source.acceptanceId ∈ db.acceptanceEvidence.map (·.acceptanceId)

instance (source : DeltaSource Fp) (db : Database Fp) : Decidable (source.Known db) :=
  inferInstanceAs (Decidable (_ ∧ _))

def DeltaSource.row (source : DeltaSource Fp) (entityType : NarrativeEntityType)
    (entityId : String) : NarrativeSourceRow Fp where
  entityType
  entityId
  chapterId := source.chapterId
  acceptanceId := source.acceptanceId
  sourceFingerprint := source.sourceFingerprint
  state := .current
  updatedAt := source.createdAt

def upsertNarrativeSource (db : Database Fp) (source : DeltaSource Fp)
    (entityType : NarrativeEntityType) (entityId : String) (tables : NarrativeTables Fp) :
    CoreResult (NarrativeTables Fp) := do
  require (source.Known db) foreignKeyFailed
  let row := source.row entityType entityId
  return { tables with
    narrativeStateSources := Table.upsert NarrativeSourceRow.key row (fun _ => row)
      tables.narrativeStateSources }

/-! ## Writing a delta -/

def applyEntityDelta (db : Database Fp) (source : DeltaSource Fp) (tables : NarrativeTables Fp)
    (delta : NarrativeEntityDelta Fp) : CoreResult (NarrativeTables Fp) :=
  match delta.entityKind with
  | .character => upsertNarrativeSource db source .character delta.entityId
    { tables with
      characters := Table.upsert CharacterRow.characterId
        { characterId := delta.entityId, name := delta.displayName, agenda := none,
          voiceNotes := none, state := delta.state, updatedAt := source.createdAt }
        (fun old => { old with
          name := delta.displayName, state := delta.state, updatedAt := source.createdAt })
        tables.characters }
  | .world => upsertNarrativeSource db source .world delta.entityId
    { tables with
      worldEntities := Table.upsert WorldEntityRow.entityId
        { entityId := delta.entityId, entityType := "narrative", name := delta.displayName,
          truth := delta.state, updatedAt := source.createdAt }
        (fun old => { old with
          name := delta.displayName, truth := delta.state, updatedAt := source.createdAt })
        tables.worldEntities }

/-- The insert checks the participants; an update does not touch them. -/
def NarrativeTables.upsertRelationship (row : RelationshipRow Fp)
    (tables : NarrativeTables Fp) : CoreResult (NarrativeTables Fp) := do
  require (row.participantA ≠ row.participantB) (checkFailed "participant_a <> participant_b")
  require (row.relationshipId ∈ tables.relationships.map (·.relationshipId) ∨
      (row.participantA ∈ tables.characters.map (·.characterId) ∧
        row.participantB ∈ tables.characters.map (·.characterId)))
    foreignKeyFailed
  return { tables with
    relationships := Table.upsert RelationshipRow.relationshipId row
      (fun old => { old with
        relationshipType := row.relationshipType, state := row.state,
        updatedAt := row.updatedAt })
      tables.relationships }

def applyRelationshipDelta (db : Database Fp) (source : DeltaSource Fp)
    (tables : NarrativeTables Fp) (delta : RelationshipStateDelta Fp) :
    CoreResult (NarrativeTables Fp) := do
  require (∀ existing ∈ Table.lookup RelationshipRow.relationshipId delta.relationshipId
      tables.relationships,
      existing.participantA = delta.participantA ∧ existing.participantB = delta.participantB)
    (.authorityConflict "relationship identity cannot change participants")
  let tables ← tables.upsertRelationship
    { relationshipId := delta.relationshipId, participantA := delta.participantA,
      participantB := delta.participantB, relationshipType := delta.relationshipType,
      state := delta.state, updatedAt := source.createdAt }
  upsertNarrativeSource db source .relationship delta.relationshipId tables

def NarrativeTables.upsertKnowledge (row : CharacterKnowledgeRow Fp)
    (tables : NarrativeTables Fp) : CoreResult (NarrativeTables Fp) := do
  require (row.knowledgeId ∈ tables.characterKnowledge.map (·.knowledgeId) ∨
      row.characterId ∈ tables.characters.map (·.characterId))
    foreignKeyFailed
  return { tables with
    characterKnowledge := Table.upsert CharacterKnowledgeRow.knowledgeId row
      (fun old => { old with
        fact := row.fact, availableFromStoryOrder := row.availableFromStoryOrder,
        evidenceRef := row.evidenceRef, confidence := row.confidence })
      tables.characterKnowledge }

def applyKnowledgeDelta (db : Database Fp) (source : DeltaSource Fp)
    (tables : NarrativeTables Fp) (delta : CharacterKnowledgeDelta Fp) :
    CoreResult (NarrativeTables Fp) := do
  require (∀ existing ∈ Table.lookup CharacterKnowledgeRow.knowledgeId delta.knowledgeId
      tables.characterKnowledge, existing.characterId = delta.characterId)
    (.authorityConflict "knowledge identity cannot change character ownership")
  let tables ← tables.upsertKnowledge
    { knowledgeId := delta.knowledgeId, characterId := delta.characterId, claimRef := none,
      fact := delta.fact, availableFromStoryOrder := source.readingOrder,
      evidenceRef := source.acceptanceId, confidence := delta.confidence }
  upsertNarrativeSource db source .knowledge delta.knowledgeId tables

def applyTimelineDelta (db : Database Fp) (source : DeltaSource Fp)
    (tables : NarrativeTables Fp) (delta : TimelineEventDelta) : CoreResult (NarrativeTables Fp) :=
  let row : TimelineEventRow :=
    { eventId := delta.eventId, storyOrder := source.readingOrder, title := delta.title,
      description := some delta.description, authorityClass := "accepted",
      sourceRef := some source.acceptanceId }
  upsertNarrativeSource db source .timeline delta.eventId { tables with
    timelineEvents := Table.upsert TimelineEventRow.eventId row (fun _ => row)
      tables.timelineEvents }

/-- The `CHECK` constraints of `expectations`. -/
def ExpectationRow.Checked (row : ExpectationRow Fp) : Prop :=
  row.kind ∈ expectationKinds ∧ 0 ≤ row.openedOrder ∧ row.openedOrder ≤ row.lastTouchedOrder ∧
    row.status ∈ ["open", "partial", "paid", "invalidated", "abandoned"] ∧ 1 ≤ row.version

instance (row : ExpectationRow Fp) : Decidable row.Checked :=
  inferInstanceAs (Decidable (_ ∧ _))

def ExpectationDeltaAction.status : ExpectationDeltaAction → String
  | .opened | .defer => "open"
  | .advance => "partial"
  | .payoff => "paid"
  | .abandon => "abandoned"

/-- The row an expectation delta inserts. -/
def ReaderExpectationDelta.row (delta : ReaderExpectationDelta) (source : DeltaSource Fp) :
    ExpectationRow Fp where
  expectationId := delta.expectationId
  kind := delta.kind
  scope := "book"
  description := delta.description
  openedOrder := source.readingOrder
  dueByOrder := none
  lastTouchedOrder := source.readingOrder
  status := delta.action.status
  sourceRef := chapterRef source.chapterId
  sourceFingerprint := some source.sourceFingerprint
  version := 1
  createdAt := source.createdAt
  updatedAt := source.createdAt

/-- What the conflict clause makes of the row that is there. -/
def ReaderExpectationDelta.touch (delta : ReaderExpectationDelta) (source : DeltaSource Fp)
    (old : ExpectationRow Fp) : ExpectationRow Fp :=
  { old with
    description := delta.description
    lastTouchedOrder := source.readingOrder
    status := delta.action.status
    sourceRef := chapterRef source.chapterId
    sourceFingerprint := some source.sourceFingerprint
    version := old.version + 1
    updatedAt := source.createdAt }

def NarrativeTables.upsertExpectation (row : ExpectationRow Fp)
    (touch : ExpectationRow Fp → ExpectationRow Fp) (tables : NarrativeTables Fp) :
    CoreResult (NarrativeTables Fp) := do
  require row.Checked (checkFailed "expectations")
  require (∀ old ∈ Table.lookup ExpectationRow.expectationId row.expectationId tables.expectations,
      (touch old).Checked)
    (checkFailed "last_touched_order >= opened_order")
  return { tables with
    expectations := Table.upsert ExpectationRow.expectationId row touch tables.expectations }

def NarrativeTables.insertExpectationEvent (expectationId eventType : String) (atOrder : ℤ)
    (detail evidenceRef : Option String) (createdAt : String) (tables : NarrativeTables Fp) :
    CoreResult (NarrativeTables Fp) := do
  require (0 ≤ atOrder) (checkFailed "at_order >= 0")
  require (expectationId ∈ tables.expectations.map (·.expectationId)) foreignKeyFailed
  let eventId := tables.expectationEventSequence + 1
  return { tables with
    expectationEvents := tables.expectationEvents ++
      [{ eventId, expectationId, eventType, atOrder, detail, evidenceRef, createdAt }]
    expectationEventSequence := eventId }

def applyExpectationDelta (db : Database Fp) (source : DeltaSource Fp)
    (tables : NarrativeTables Fp) (delta : ReaderExpectationDelta) : CoreResult (NarrativeTables Fp) := do
  let tables ← tables.upsertExpectation (delta.row source) (delta.touch source)
  let tables ← tables.insertExpectationEvent delta.expectationId delta.action.name source.readingOrder
    (some delta.description) (some source.acceptanceId) source.createdAt
  upsertNarrativeSource db source .expectation delta.expectationId tables

def applyNarrativeDeltas (proposal : ChapterTrackingProposal Fp) (source : DeltaSource Fp)
    (db : Database Fp) : CoreResult (Database Fp) := do
  let tables ← forEach (applyEntityDelta db source) proposal.entityDeltas db.narrative
  let tables ← forEach (applyRelationshipDelta db source) proposal.relationshipDeltas tables
  let tables ← forEach (applyKnowledgeDelta db source) proposal.knowledgeDeltas tables
  let tables ← forEach (applyTimelineDelta db source) proposal.timelineDeltas tables
  let tables ← forEach (applyExpectationDelta db source) proposal.expectationDeltas tables
  return db.withNarrative tables

/-! ## When a delta is accepted -/

section Deltas

variable {db : Database Fp} {source : DeltaSource Fp} {tables tables' : NarrativeTables Fp}

theorem upsertNarrativeSource_eq_ok {entityType : NarrativeEntityType} {entityId : String} :
    upsertNarrativeSource db source entityType entityId tables = .ok tables' ↔
      source.Known db ∧ tables' = { tables with
        narrativeStateSources := Table.upsert NarrativeSourceRow.key
          (source.row entityType entityId) (fun _ => source.row entityType entityId)
          tables.narrativeStateSources } := by
  simp only [upsertNarrativeSource, bind_eq_ok, require_eq_ok, exists_const, pure_eq_ok]
  exact and_congr_right fun _ => eq_comm

theorem applyEntityDelta_succeeds {delta : NarrativeEntityDelta Fp} (hknown : source.Known db) :
    ∃ tables', applyEntityDelta db source tables delta = .ok tables' := by
  simp only [applyEntityDelta]
  split <;> exact ⟨_, upsertNarrativeSource_eq_ok.mpr ⟨hknown, rfl⟩⟩

/-- An entity delta touches the entities alone and adds its character. -/
theorem applyEntityDelta_eq_ok {delta : NarrativeEntityDelta Fp}
    (h : applyEntityDelta db source tables delta = .ok tables') :
    ∃ characters entities sources, tables' = { tables with
      characters := characters, worldEntities := entities, narrativeStateSources := sources } ∧
    ∀ id, id ∈ characters.map (·.characterId) ↔ id ∈ tables.characters.map (·.characterId) ∨
      (delta.entityKind = .character ∧ delta.entityId = id) := by
  simp only [applyEntityDelta] at h
  split at h <;> rename_i hkind
  · obtain ⟨-, rfl⟩ := upsertNarrativeSource_eq_ok.mp h
    refine ⟨_, _, _, rfl, fun id => ?_⟩
    refine (Table.mem_keys_upsert id tables.characters ?_).trans ?_
    · exact fun _ => rfl
    · simp [hkind, eq_comm]
  · obtain ⟨-, rfl⟩ := upsertNarrativeSource_eq_ok.mp h
    exact ⟨_, _, _, rfl, fun id => by simp [hkind]⟩

theorem applyRelationshipDelta_eq_ok {delta : RelationshipStateDelta Fp} :
    applyRelationshipDelta db source tables delta = .ok tables' ↔
      (∀ existing ∈ Table.lookup RelationshipRow.relationshipId delta.relationshipId
        tables.relationships, existing.participantA = delta.participantA ∧
          existing.participantB = delta.participantB) ∧
      delta.participantA ≠ delta.participantB ∧
      (delta.relationshipId ∈ tables.relationships.map (·.relationshipId) ∨
        (delta.participantA ∈ tables.characters.map (·.characterId) ∧
          delta.participantB ∈ tables.characters.map (·.characterId))) ∧
      source.Known db ∧ tables' = { tables with
        relationships := Table.upsert RelationshipRow.relationshipId
          { relationshipId := delta.relationshipId, participantA := delta.participantA,
            participantB := delta.participantB, relationshipType := delta.relationshipType,
            state := delta.state, updatedAt := source.createdAt }
          (fun old => { old with
            relationshipType := delta.relationshipType, state := delta.state,
            updatedAt := source.createdAt }) tables.relationships
        narrativeStateSources := Table.upsert NarrativeSourceRow.key
          (source.row .relationship delta.relationshipId)
          (fun _ => source.row .relationship delta.relationshipId)
          tables.narrativeStateSources } := by
  simp only [applyRelationshipDelta, NarrativeTables.upsertRelationship, bind_eq_ok,
    require_eq_ok, exists_const, pure_eq_ok, upsertNarrativeSource_eq_ok, and_assoc]
  refine and_congr_right fun _ => ⟨?_, ?_⟩
  · rintro ⟨mid, hne, hparticipants, rfl, hknown, rfl⟩
    exact ⟨hne, hparticipants, hknown, rfl⟩
  · rintro ⟨hne, hparticipants, hknown, rfl⟩
    exact ⟨_, hne, hparticipants, rfl, hknown, rfl⟩

theorem applyKnowledgeDelta_eq_ok {delta : CharacterKnowledgeDelta Fp} :
    applyKnowledgeDelta db source tables delta = .ok tables' ↔
      (∀ existing ∈ Table.lookup CharacterKnowledgeRow.knowledgeId delta.knowledgeId
        tables.characterKnowledge, existing.characterId = delta.characterId) ∧
      (delta.knowledgeId ∈ tables.characterKnowledge.map (·.knowledgeId) ∨
        delta.characterId ∈ tables.characters.map (·.characterId)) ∧
      source.Known db ∧ tables' = { tables with
        characterKnowledge := Table.upsert CharacterKnowledgeRow.knowledgeId
          { knowledgeId := delta.knowledgeId, characterId := delta.characterId, claimRef := none,
            fact := delta.fact, availableFromStoryOrder := source.readingOrder,
            evidenceRef := source.acceptanceId, confidence := delta.confidence }
          (fun old => { old with
            fact := delta.fact, availableFromStoryOrder := source.readingOrder,
            evidenceRef := source.acceptanceId, confidence := delta.confidence })
          tables.characterKnowledge
        narrativeStateSources := Table.upsert NarrativeSourceRow.key
          (source.row .knowledge delta.knowledgeId)
          (fun _ => source.row .knowledge delta.knowledgeId) tables.narrativeStateSources } := by
  simp only [applyKnowledgeDelta, NarrativeTables.upsertKnowledge, bind_eq_ok, require_eq_ok,
    exists_const, pure_eq_ok, upsertNarrativeSource_eq_ok, and_assoc]
  refine and_congr_right fun _ => ⟨?_, ?_⟩
  · rintro ⟨mid, howner, rfl, hknown, rfl⟩
    exact ⟨howner, hknown, rfl⟩
  · rintro ⟨howner, hknown, rfl⟩
    exact ⟨_, howner, rfl, hknown, rfl⟩

theorem applyTimelineDelta_succeeds {delta : TimelineEventDelta} (hknown : source.Known db) :
    ∃ tables', applyTimelineDelta db source tables delta = .ok tables' :=
  ⟨_, upsertNarrativeSource_eq_ok.mpr ⟨hknown, rfl⟩⟩

theorem applyTimelineDelta_eq_ok {delta : TimelineEventDelta}
    (h : applyTimelineDelta db source tables delta = .ok tables') :
    ∃ events sources, tables' = { tables with
      timelineEvents := events, narrativeStateSources := sources } := by
  obtain ⟨-, rfl⟩ := upsertNarrativeSource_eq_ok.mp h
  exact ⟨_, _, rfl⟩

theorem applyExpectationDelta_eq_ok {delta : ReaderExpectationDelta} :
    applyExpectationDelta db source tables delta = .ok tables' ↔
      (delta.row source).Checked ∧
      (∀ old ∈ Table.lookup ExpectationRow.expectationId delta.expectationId tables.expectations,
        (delta.touch source old).Checked) ∧
      source.Known db ∧ tables' = { tables with
        expectations := Table.upsert ExpectationRow.expectationId (delta.row source)
          (delta.touch source) tables.expectations
        expectationEvents := tables.expectationEvents ++
          [{ eventId := tables.expectationEventSequence + 1,
             expectationId := delta.expectationId, eventType := delta.action.name,
             atOrder := source.readingOrder, detail := some delta.description,
             evidenceRef := some source.acceptanceId, createdAt := source.createdAt }]
        expectationEventSequence := tables.expectationEventSequence + 1
        narrativeStateSources := Table.upsert NarrativeSourceRow.key
          (source.row .expectation delta.expectationId)
          (fun _ => source.row .expectation delta.expectationId)
          tables.narrativeStateSources } := by
  have hmem : delta.expectationId ∈ (Table.upsert ExpectationRow.expectationId (delta.row source)
      (delta.touch source) tables.expectations).map (·.expectationId) := by
    refine (Table.mem_keys_upsert _ _ ?_).mpr (.inr rfl)
    exact fun _ => rfl
  simp only [applyExpectationDelta, NarrativeTables.upsertExpectation,
    NarrativeTables.insertExpectationEvent, bind_eq_ok, require_eq_ok, exists_const, pure_eq_ok,
    upsertNarrativeSource_eq_ok, and_assoc]
  constructor
  · rintro ⟨mid, hrow, htouch, rfl, logged, -, -, rfl, hknown, rfl⟩
    exact ⟨hrow, htouch, hknown, rfl⟩
  · rintro ⟨hrow, htouch, hknown, rfl⟩
    exact ⟨_, hrow, htouch, rfl, _, by simp, hmem, rfl, hknown, rfl⟩

end Deltas

/-! ## Whole proposals -/

/-- The constraints of the narrative tables that a delta can run into. -/
structure NarrativeTables.Schema (tables : NarrativeTables Fp) : Prop where
  participants : ∀ row ∈ tables.relationships,
    row.participantA ∈ tables.characters.map (·.characterId) ∧
      row.participantB ∈ tables.characters.map (·.characterId)
  owners : ∀ row ∈ tables.characterKnowledge,
    row.characterId ∈ tables.characters.map (·.characterId)
  expectationIds : (tables.expectations.map (·.expectationId)).Nodup
  expectationChecks : ∀ row ∈ tables.expectations, row.Checked

/-- Relationship and knowledge identities keep their participants and owner. -/
structure ChapterTrackingProposal.KeepsIdentities (proposal : ChapterTrackingProposal Fp)
    (tables : NarrativeTables Fp) : Prop where
  participants : ∀ delta ∈ proposal.relationshipDeltas, ∀ row ∈ tables.relationships,
    row.relationshipId = delta.relationshipId →
      row.participantA = delta.participantA ∧ row.participantB = delta.participantB
  owner : ∀ delta ∈ proposal.knowledgeDeltas, ∀ row ∈ tables.characterKnowledge,
    row.knowledgeId = delta.knowledgeId → row.characterId = delta.characterId

/-- A character of the project, or one the proposal introduces. -/
def ChapterTrackingProposal.Introduces (proposal : ChapterTrackingProposal Fp)
    (tables : NarrativeTables Fp) (characterId : String) : Prop :=
  characterId ∈ tables.characters.map (·.characterId) ∨
    ∃ delta ∈ proposal.entityDeltas,
      delta.entityKind = .character ∧ delta.entityId = characterId

/-- What the schema asks of a proposal beyond its own validation. -/
structure ChapterTrackingProposal.Applicable (proposal : ChapterTrackingProposal Fp)
    (tables : NarrativeTables Fp) (readingOrder : ℕ) : Prop where
  participants : ∀ delta ∈ proposal.relationshipDeltas,
    proposal.Introduces tables delta.participantA ∧ proposal.Introduces tables delta.participantB
  owners : ∀ delta ∈ proposal.knowledgeDeltas, proposal.Introduces tables delta.characterId
  opened : ∀ delta ∈ proposal.expectationDeltas, ∀ row ∈ tables.expectations,
    row.expectationId = delta.expectationId → row.openedOrder ≤ readingOrder

section Loops

variable {db : Database Fp} {source : DeltaSource Fp}

theorem entityLoop_succeeds (tables : NarrativeTables Fp)
    (deltas : List (NarrativeEntityDelta Fp)) (hknown : source.Known db) :
    ∃ tables', forEach (applyEntityDelta db source) deltas tables = .ok tables' := by
  have hsteps : ∀ delta ∈ deltas, ∀ t, True →
      ∃ t', applyEntityDelta db source t delta = .ok t' ∧ True := by
    intro delta _ t _
    obtain ⟨t', h⟩ : ∃ t', applyEntityDelta db source t delta = .ok t' :=
      applyEntityDelta_succeeds hknown
    exact ⟨t', h, trivial⟩
  obtain ⟨tables', h, -⟩ := forEach_succeeds hsteps (s := tables) trivial
  exact ⟨tables', h⟩

theorem entityLoop_eq_ok {tables tables' : NarrativeTables Fp}
    {deltas : List (NarrativeEntityDelta Fp)}
    (h : forEach (applyEntityDelta db source) deltas tables = .ok tables') :
    ∃ characters entities sources, tables' = { tables with
      characters := characters, worldEntities := entities, narrativeStateSources := sources } ∧
    ∀ id, id ∈ characters.map (·.characterId) ↔ id ∈ tables.characters.map (·.characterId) ∨
      ∃ delta ∈ deltas, delta.entityKind = .character ∧ delta.entityId = id := by
  induction deltas generalizing tables with
  | nil =>
    simp only [forEach, Except.ok.injEq] at h
    subst h
    exact ⟨_, _, _, rfl, by simp⟩
  | cons delta rest ih =>
    obtain ⟨mid, hmid, h⟩ := bind_eq_ok.mp h
    obtain ⟨characters, entities, sources, rfl, hchars⟩ := applyEntityDelta_eq_ok hmid
    obtain ⟨characters', entities', sources', rfl, hchars'⟩ := ih h
    refine ⟨characters', entities', sources', rfl, fun id => ?_⟩
    rw [hchars', hchars]
    simp [or_assoc]

/-- Every relationship delta is accepted when its participants are characters. -/
theorem relationshipLoop (tables : NarrativeTables Fp)
    {deltas : List (RelationshipStateDelta Fp)} (hknown : source.Known db)
    (hids : (deltas.map (·.relationshipId)).Nodup)
    (hne : ∀ delta ∈ deltas, delta.participantA ≠ delta.participantB)
    (hrows : ∀ delta ∈ deltas, ∀ row ∈ tables.relationships,
      row.relationshipId = delta.relationshipId →
        (row.participantA = delta.participantA ∧ row.participantB = delta.participantB) ∧
        delta.participantA ∈ tables.characters.map (·.characterId) ∧
        delta.participantB ∈ tables.characters.map (·.characterId)) :
    ((∃ tables', forEach (applyRelationshipDelta db source) deltas tables = .ok tables') ↔
      ∀ delta ∈ deltas, delta.participantA ∈ tables.characters.map (·.characterId) ∧
        delta.participantB ∈ tables.characters.map (·.characterId)) ∧
    ∀ tables', forEach (applyRelationshipDelta db source) deltas tables = .ok tables' →
      ∃ rows sources, tables' = { tables with
        relationships := rows, narrativeStateSources := sources } := by
  -- rows under the ids that are left are still the old ones
  let P (rest : List (RelationshipStateDelta Fp)) (t : NarrativeTables Fp) : Prop :=
    (∃ rows sources, t = { tables with relationships := rows, narrativeStateSources := sources }) ∧
    (rest.map (·.relationshipId)).Nodup ∧
    (∀ delta ∈ rest, delta.participantA ≠ delta.participantB) ∧
    ∀ delta ∈ rest, ∀ row ∈ t.relationships, row.relationshipId = delta.relationshipId →
      (row.participantA = delta.participantA ∧ row.participantB = delta.participantB) ∧
      delta.participantA ∈ tables.characters.map (·.characterId) ∧
      delta.participantB ∈ tables.characters.map (·.characterId)
  have hkeep : ∀ a rest t t', P (a :: rest) t →
      applyRelationshipDelta db source t a = .ok t' → P rest t' := by
    rintro a rest t t' ⟨⟨rows, sources, rfl⟩, hnodup, hne, hrows⟩ hstep
    obtain ⟨-, -, -, -, rfl⟩ := applyRelationshipDelta_eq_ok.mp hstep
    obtain ⟨hfresh, hrest⟩ := List.nodup_cons.mp hnodup
    refine ⟨⟨_, _, rfl⟩, hrest, fun d hd => hne d (List.mem_cons_of_mem _ hd), ?_⟩
    intro d hd row hrow hid
    have hother : d.relationshipId ≠ a.relationshipId := fun he =>
      hfresh (List.mem_map.mpr ⟨d, hd, he⟩)
    rcases Table.mem_upsert hrow with rfl | ⟨old, -, hkey, rfl⟩ | ⟨hold, -⟩
    · exact absurd hid.symm hother
    · exact absurd (hid.symm.trans hkey) hother
    · exact hrows d (List.mem_cons_of_mem _ hd) row hold hid
  have hstart : P deltas tables := ⟨⟨_, _, rfl⟩, hids, hne, hrows⟩
  refine ⟨forEach_succeeds_iff ?_ hkeep hstart, fun t ht => (forEach_remaining hkeep ht hstart).1⟩
  rintro a rest t ⟨⟨rows, sources, rfl⟩, -, hne, hrows⟩
  constructor
  · rintro ⟨t', hstep⟩
    obtain ⟨-, -, hexists | hparticipants, -, -⟩ := applyRelationshipDelta_eq_ok.mp hstep
    · obtain ⟨row, hrow, hid⟩ := List.mem_map.mp hexists
      exact (hrows a List.mem_cons_self row hrow hid).2
    · exact hparticipants
  · intro hparticipants
    refine ⟨_, applyRelationshipDelta_eq_ok.mpr ⟨?_, hne a List.mem_cons_self,
      .inr hparticipants, hknown, rfl⟩⟩
    intro row hrow
    exact (hrows a List.mem_cons_self row (Table.lookup_mem hrow) (Table.lookup_key hrow)).1

/-- Every knowledge delta is accepted when its owner is a character. -/
theorem knowledgeLoop (tables : NarrativeTables Fp)
    {deltas : List (CharacterKnowledgeDelta Fp)} (hknown : source.Known db)
    (hids : (deltas.map (·.knowledgeId)).Nodup)
    (hrows : ∀ delta ∈ deltas, ∀ row ∈ tables.characterKnowledge,
      row.knowledgeId = delta.knowledgeId → row.characterId = delta.characterId ∧
        delta.characterId ∈ tables.characters.map (·.characterId)) :
    ((∃ tables', forEach (applyKnowledgeDelta db source) deltas tables = .ok tables') ↔
      ∀ delta ∈ deltas, delta.characterId ∈ tables.characters.map (·.characterId)) ∧
    ∀ tables', forEach (applyKnowledgeDelta db source) deltas tables = .ok tables' →
      ∃ rows sources, tables' = { tables with
        characterKnowledge := rows, narrativeStateSources := sources } := by
  let P (rest : List (CharacterKnowledgeDelta Fp)) (t : NarrativeTables Fp) : Prop :=
    (∃ rows sources, t = { tables with
      characterKnowledge := rows, narrativeStateSources := sources }) ∧
    (rest.map (·.knowledgeId)).Nodup ∧
    ∀ delta ∈ rest, ∀ row ∈ t.characterKnowledge, row.knowledgeId = delta.knowledgeId →
      row.characterId = delta.characterId ∧
      delta.characterId ∈ tables.characters.map (·.characterId)
  have hkeep : ∀ a rest t t', P (a :: rest) t →
      applyKnowledgeDelta db source t a = .ok t' → P rest t' := by
    rintro a rest t t' ⟨⟨rows, sources, rfl⟩, hnodup, hrows⟩ hstep
    obtain ⟨-, -, -, rfl⟩ := applyKnowledgeDelta_eq_ok.mp hstep
    obtain ⟨hfresh, hrest⟩ := List.nodup_cons.mp hnodup
    refine ⟨⟨_, _, rfl⟩, hrest, ?_⟩
    intro d hd row hrow hid
    have hother : d.knowledgeId ≠ a.knowledgeId := fun he =>
      hfresh (List.mem_map.mpr ⟨d, hd, he⟩)
    rcases Table.mem_upsert hrow with rfl | ⟨old, -, hkey, rfl⟩ | ⟨hold, -⟩
    · exact absurd hid.symm hother
    · exact absurd (hid.symm.trans hkey) hother
    · exact hrows d (List.mem_cons_of_mem _ hd) row hold hid
  have hstart : P deltas tables := ⟨⟨_, _, rfl⟩, hids, hrows⟩
  refine ⟨forEach_succeeds_iff ?_ hkeep hstart, fun t ht => (forEach_remaining hkeep ht hstart).1⟩
  rintro a rest t ⟨⟨rows, sources, rfl⟩, -, hrows⟩
  constructor
  · rintro ⟨t', hstep⟩
    obtain ⟨-, hexists | howner, -, -⟩ := applyKnowledgeDelta_eq_ok.mp hstep
    · obtain ⟨row, hrow, hid⟩ := List.mem_map.mp hexists
      exact (hrows a List.mem_cons_self row hrow hid).2
    · exact howner
  · intro howner
    refine ⟨_, applyKnowledgeDelta_eq_ok.mpr ⟨?_, .inr howner, hknown, rfl⟩⟩
    intro row hrow
    exact (hrows a List.mem_cons_self row (Table.lookup_mem hrow) (Table.lookup_key hrow)).1

theorem timelineLoop (tables : NarrativeTables Fp) (deltas : List TimelineEventDelta)
    (hknown : source.Known db) :
    (∃ tables', forEach (applyTimelineDelta db source) deltas tables = .ok tables') ∧
    ∀ tables', forEach (applyTimelineDelta db source) deltas tables = .ok tables' →
      ∃ rows sources, tables' = { tables with
        timelineEvents := rows, narrativeStateSources := sources } := by
  constructor
  · have hsteps : ∀ delta ∈ deltas, ∀ t, True →
        ∃ t', applyTimelineDelta db source t delta = .ok t' ∧ True := by
      intro delta _ t _
      obtain ⟨t', h⟩ : ∃ t', applyTimelineDelta db source t delta = .ok t' :=
        applyTimelineDelta_succeeds hknown
      exact ⟨t', h, trivial⟩
    obtain ⟨tables', h, -⟩ := forEach_succeeds hsteps (s := tables) trivial
    exact ⟨tables', h⟩
  · intro tables' h
    refine forEach_invariant (P := fun t => ∃ rows sources, t = { tables with
      timelineEvents := rows, narrativeStateSources := sources }) ?_ h ⟨_, _, rfl⟩
    rintro delta - t t' hstep ⟨rows, sources, rfl⟩
    obtain ⟨rows', sources', rfl⟩ := applyTimelineDelta_eq_ok hstep
    exact ⟨rows', sources', rfl⟩

theorem ReaderExpectationDelta.row_checked {delta : ReaderExpectationDelta}
    (hkind : delta.kind ∈ expectationKinds) : (delta.row source).Checked := by
  refine ⟨hkind, Int.natCast_nonneg _, le_refl _, ?_, le_refl _⟩
  cases h : delta.action <;> simp [row, ExpectationDeltaAction.status, h]

theorem ReaderExpectationDelta.touch_checked {delta : ReaderExpectationDelta}
    {old : ExpectationRow Fp} (hold : old.Checked) :
    (delta.touch source old).Checked ↔ old.openedOrder ≤ source.readingOrder := by
  obtain ⟨hkind, hopened, -, -, hversion⟩ := hold
  refine ⟨fun h => h.2.2.1, fun h => ⟨hkind, hopened, h, ?_, ?_⟩⟩
  · cases h : delta.action <;> simp [touch, ExpectationDeltaAction.status, h]
  · change 1 ≤ old.version + 1
    omega

/-- An expectation delta is accepted when the chapter does not come before the opening. -/
theorem expectationLoop (tables : NarrativeTables Fp) {deltas : List ReaderExpectationDelta}
    (hknown : source.Known db)
    (hids : (deltas.map (·.expectationId)).Nodup)
    (hkinds : ∀ delta ∈ deltas, delta.kind ∈ expectationKinds)
    (hrowIds : (tables.expectations.map (·.expectationId)).Nodup)
    (hchecks : ∀ row ∈ tables.expectations, row.Checked) :
    (∃ tables', forEach (applyExpectationDelta db source) deltas tables = .ok tables') ↔
      ∀ delta ∈ deltas, ∀ row ∈ tables.expectations,
        row.expectationId = delta.expectationId → row.openedOrder ≤ source.readingOrder := by
  -- the rows under the ids that are left are found as they were
  let P (rest : List ReaderExpectationDelta) (t : NarrativeTables Fp) : Prop :=
    (rest.map (·.expectationId)).Nodup ∧ (∀ delta ∈ rest, delta.kind ∈ expectationKinds) ∧
    ∀ delta ∈ rest,
      Table.lookup ExpectationRow.expectationId delta.expectationId t.expectations =
        Table.lookup ExpectationRow.expectationId delta.expectationId tables.expectations
  have hstart : P deltas tables := ⟨hids, hkinds, fun _ _ => rfl⟩
  refine forEach_succeeds_iff ?_ ?_ hstart
  · rintro a rest t ⟨-, hkinds, hfound⟩
    have hsame := hfound a List.mem_cons_self
    constructor
    · rintro ⟨t', hstep⟩ row hrow hid
      obtain ⟨-, htouch, -, -⟩ := applyExpectationDelta_eq_ok.mp hstep
      have hlookup := Table.lookup_of_mem hrowIds hrow
      rw [hid, ← hsame] at hlookup
      exact (ReaderExpectationDelta.touch_checked (hchecks row hrow)).mp (htouch row hlookup)
    · intro hopened
      refine ⟨_, applyExpectationDelta_eq_ok.mpr
        ⟨ReaderExpectationDelta.row_checked (hkinds a List.mem_cons_self), ?_, hknown, rfl⟩⟩
      intro old hold
      rw [hsame] at hold
      have hmem := Table.lookup_mem hold
      exact (ReaderExpectationDelta.touch_checked (hchecks old hmem)).mpr
        (hopened old hmem (Table.lookup_key hold))
  · rintro a rest t t' ⟨hnodup, hkinds, hfound⟩ hstep
    obtain ⟨-, -, -, rfl⟩ := applyExpectationDelta_eq_ok.mp hstep
    obtain ⟨hfresh, hrest⟩ := List.nodup_cons.mp hnodup
    refine ⟨hrest, fun d hd => hkinds d (List.mem_cons_of_mem _ hd), fun d hd => ?_⟩
    have hother : d.expectationId ≠ a.expectationId := fun he =>
      hfresh (List.mem_map.mpr ⟨d, hd, he⟩)
    refine (Table.lookup_upsert d.expectationId t.expectations ?_).trans ?_
    · exact fun _ => rfl
    · rw [if_neg (by exact hother)]
      exact hfound d (List.mem_cons_of_mem _ hd)

end Loops

/-- A validated proposal that keeps its identities is written exactly when the schema's own
conditions on it hold. -/
theorem applyNarrativeDeltas_succeeds_iff {proposal : ChapterTrackingProposal Fp}
    {source : DeltaSource Fp} {db : Database Fp} (hvalid : proposal.validate = .ok ())
    (hschema : db.narrative.Schema) (hknown : source.Known db)
    (hidentities : proposal.KeepsIdentities db.narrative) :
    (∃ db', applyNarrativeDeltas proposal source db = .ok db') ↔
      proposal.Applicable db.narrative source.readingOrder := by
  have hv := ChapterTrackingProposal.valid_of_validate hvalid
  obtain ⟨t₁, h₁⟩ := entityLoop_succeeds db.narrative proposal.entityDeltas hknown
  obtain ⟨characters, entities, sources, ht₁, hchars⟩ := entityLoop_eq_ok h₁
  have hintroduces : ∀ id, id ∈ t₁.characters.map (·.characterId) ↔
      proposal.Introduces db.narrative id := by
    rw [ht₁]
    exact hchars
  have hrelationships := relationshipLoop t₁ hknown hv.relationshipIds hv.participants (by
    intro delta hdelta row hrow hid
    have hrow : row ∈ db.narrative.relationships := by rwa [ht₁] at hrow
    obtain ⟨ha, hb⟩ := hidentities.participants delta hdelta row hrow hid
    obtain ⟨hca, hcb⟩ := hschema.participants row hrow
    rw [hintroduces, hintroduces, ← ha, ← hb]
    exact ⟨⟨rfl, rfl⟩, .inl hca, .inl hcb⟩)
  have hknowledge : ∀ t₂, (∃ rows sources, t₂ = { t₁ with
      relationships := rows, narrativeStateSources := sources }) → _ := fun t₂ ht₂ =>
    knowledgeLoop t₂ hknown hv.knowledgeIds (by
      obtain ⟨rows, sources, rfl⟩ := ht₂
      intro delta hdelta row hrow hid
      have hrow : row ∈ db.narrative.characterKnowledge := by rwa [ht₁] at hrow
      have howner := hidentities.owner delta hdelta row hrow hid
      refine ⟨howner, (hintroduces _).mpr (.inl ?_)⟩
      exact howner ▸ hschema.owners row hrow)
  have hexpectations : ∀ t₄ : NarrativeTables Fp,
      t₄.expectations = db.narrative.expectations → _ := fun t₄ ht₄ =>
    expectationLoop t₄ hknown hv.expectationIds hv.kinds (ht₄ ▸ hschema.expectationIds)
      (ht₄ ▸ hschema.expectationChecks)
  simp only [applyNarrativeDeltas, bind_eq_ok, pure_eq_ok]
  constructor
  · rintro ⟨_, t₁', h₁', t₂, h₂, t₃, h₃, t₄, h₄, t₅, h₅, -⟩
    obtain rfl : t₁ = t₁' := Except.ok.inj (h₁.symm.trans h₁')
    obtain ⟨rows₂, sources₂, ht₂⟩ := hrelationships.2 t₂ h₂
    obtain ⟨rows₃, sources₃, ht₃⟩ := (hknowledge t₂ ⟨_, _, ht₂⟩).2 t₃ h₃
    obtain ⟨rows₄, sources₄, ht₄⟩ := (timelineLoop t₃ proposal.timelineDeltas hknown).2 t₄ h₄
    have hsame : t₄.expectations = db.narrative.expectations := by
      rw [ht₄, ht₃, ht₂, ht₁]
    refine ⟨fun delta hdelta => ?_, fun delta hdelta => ?_, ?_⟩
    · obtain ⟨ha, hb⟩ := hrelationships.1.mp ⟨t₂, h₂⟩ delta hdelta
      exact ⟨(hintroduces _).mp ha, (hintroduces _).mp hb⟩
    · have howner := (hknowledge t₂ ⟨_, _, ht₂⟩).1.mp ⟨t₃, h₃⟩ delta hdelta
      rw [ht₂] at howner
      exact (hintroduces _).mp howner
    · have hopened := (hexpectations t₄ hsame).mp ⟨t₅, h₅⟩
      rwa [hsame] at hopened
  · rintro ⟨hparticipants, howners, hopened⟩
    obtain ⟨t₂, h₂⟩ := hrelationships.1.mpr fun delta hdelta =>
      ⟨(hintroduces _).mpr (hparticipants delta hdelta).1,
        (hintroduces _).mpr (hparticipants delta hdelta).2⟩
    obtain ⟨rows₂, sources₂, ht₂⟩ := hrelationships.2 t₂ h₂
    obtain ⟨t₃, h₃⟩ := (hknowledge t₂ ⟨_, _, ht₂⟩).1.mpr fun delta hdelta => by
      rw [ht₂]
      exact (hintroduces _).mpr (howners delta hdelta)
    obtain ⟨rows₃, sources₃, ht₃⟩ := (hknowledge t₂ ⟨_, _, ht₂⟩).2 t₃ h₃
    obtain ⟨⟨t₄, h₄⟩, hframe⟩ := timelineLoop t₃ proposal.timelineDeltas hknown
    obtain ⟨rows₄, sources₄, ht₄⟩ := hframe t₄ h₄
    have hsame : t₄.expectations = db.narrative.expectations := by
      rw [ht₄, ht₃, ht₂, ht₁]
    obtain ⟨t₅, h₅⟩ := (hexpectations t₄ hsame).mpr (by rwa [hsame])
    exact ⟨_, t₁, h₁, t₂, h₂, t₃, h₃, t₄, h₄, t₅, h₅, rfl⟩

namespace Sample

/-- An accepted candidate of the first chapter, in a story that opened a mystery in its third. -/
def story : Database Digest :=
  { (initialProject "novel" "Harbour" "t0" : Database Digest) with
    acceptanceEvidence :=
      [{ acceptanceId := "ACC1", candidateId := "CAND1", candidateFingerprint := .tag 1,
         authorizedBy := "author", createdAt := "t1",
         authorization :=
          { schema := "quillframe_acceptance_decision_v1", acceptanceId := "ACC1",
            candidateId := "CAND1", candidateFingerprint := .tag 1,
            reviewReportFingerprint := .tag 2, authorizedBy := "author", idempotencyKey := "k1",
            createdAt := "t1", fingerprint := .tag 3 } }]
    expectations :=
      [{ expectationId := "EXP1", kind := "mystery", scope := "book", description := "who",
         openedOrder := 3, dueByOrder := none, lastTouchedOrder := 3, status := "open",
         sourceRef := "chapter:CH003", sourceFingerprint := none, version := 1,
         createdAt := "t0", updatedAt := "t0" }] }

def source : DeltaSource Digest := ⟨"CH001", "ACC1", .tag 1, 1, "t2"⟩

def manuscript : String := "Lin met Mei."

def quiet : ChapterTrackingProposal Digest where
  netChange := "met"
  openExpectations := []
  paidExpectations := []
  relationshipChanges := []
  stateChanges := []
  nextPull := "who"
  characterSnapshotUpdates := .empty
  entityDeltas := []
  relationshipDeltas := []
  knowledgeDeltas := []
  timelineDeltas := []
  expectationDeltas := []

def bond : RelationshipStateDelta Digest :=
  ⟨"REL1", "Lin", "Mei", "friends", .obj [], "Lin met Mei"⟩

def character (id : String) : NarrativeEntityDelta Digest :=
  ⟨.character, id, id, .obj [], "Lin met Mei"⟩

/-- A relationship of two characters that were never introduced. -/
def strangers : ChapterTrackingProposal Digest := { quiet with relationshipDeltas := [bond] }

/-- The first chapter, settled again, touches the later mystery. -/
def foreshadowing : ChapterTrackingProposal Digest :=
  { quiet with expectationDeltas := [⟨"EXP1", "mystery", .advance, "hint", "Lin met Mei"⟩] }

/-- The same relationship with its characters. -/
def introduced : ChapterTrackingProposal Digest :=
  { strangers with entityDeltas := [character "Lin", character "Mei"] }

theorem story_schema : story.narrative.Schema where
  participants := by decide
  owners := by decide
  expectationIds := by decide
  expectationChecks := by decide +kernel

end Sample

theorem applyNarrativeDeltas_succeeds_sample :
    ∃ db', applyNarrativeDeltas Sample.introduced Sample.source Sample.story = .ok db' := by
  refine (applyNarrativeDeltas_succeeds_iff ?_ Sample.story_schema ?_ ?_).mpr ⟨?_, ?_, ?_⟩
  · decide +kernel
  · decide +kernel
  · exact ⟨by decide +kernel, by decide +kernel⟩
  · intro delta hdelta
    obtain rfl := List.mem_singleton.mp hdelta
    exact ⟨.inr ⟨Sample.character "Lin", by decide +kernel⟩,
      .inr ⟨Sample.character "Mei", by decide +kernel⟩⟩
  · intro delta hdelta
    cases hdelta
  · intro delta hdelta
    cases hdelta

/-- Two validated proposals that the schema rejects. -/
theorem validated_proposal_rejected :
    Sample.story.narrative.Schema ∧ Sample.source.Known Sample.story ∧
    (∀ proposal ∈ [Sample.strangers, Sample.foreshadowing],
      proposal.validate = .ok () ∧ proposal.KeepsIdentities Sample.story.narrative ∧
      ∀ excerpt ∈ proposal.evidenceExcerpts, containsText Sample.manuscript excerpt) ∧
    applyNarrativeDeltas Sample.strangers Sample.source Sample.story =
      .error foreignKeyFailed ∧
    applyNarrativeDeltas Sample.foreshadowing Sample.source Sample.story =
      .error (checkFailed "last_touched_order >= opened_order") := by
  refine ⟨Sample.story_schema, by decide +kernel, ?_, by decide +kernel, by decide +kernel⟩
  intro proposal hproposal
  simp only [List.mem_cons, List.not_mem_nil, or_false] at hproposal
  rcases hproposal with rfl | rfl
  · exact ⟨by decide +kernel, ⟨by decide +kernel, by decide +kernel⟩, by decide +kernel⟩
  · exact ⟨by decide +kernel, ⟨by decide +kernel, by decide +kernel⟩, by decide +kernel⟩

end Quillframe
