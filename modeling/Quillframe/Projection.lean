import Quillframe.Schema
import Quillframe.Serde
import Mathlib.Data.Prod.Lex

/-!
# The story projection

The ten tables a settlement writes, and the accepted revisions, as one JSON value. Rows are
encoded by `json_object`; the members stand in key order, as in the `serde_json::Value` they are
read into.
-/
namespace Quillframe

open Json (str int fp obj arr ofOption strings)

variable {Fp : Type}

/-- `ORDER BY key`. -/
def orderBy {Row K : Type} [LinearOrder K] (key : Row → K) (rows : List Row) : List Row :=
  rows.insertionSort fun a b => key a ≤ key b

/-! ## Rows -/

def ChapterTrackingRecord.toValue (r : ChapterTrackingRecord Fp) : Json Fp :=
  obj [("chapter_id", str r.chapterId), ("net_change", str r.netChange),
    ("next_pull", str r.nextPull), ("open_expectations", strings r.openExpectations),
    ("paid_expectations", strings r.paidExpectations), ("reading_order", int r.readingOrder),
    ("relationship_changes", strings r.relationshipChanges),
    ("source_candidate_fingerprint", fp r.sourceCandidateFingerprint),
    ("state_changes", strings r.stateChanges)]

def TrackingState.toValue (s : TrackingState Fp) : Json Fp :=
  obj [("chapters", obj (s.chapters.entries.map fun entry => (entry.1, entry.2.toValue))),
    ("character_snapshots",
      obj (s.characterSnapshots.entries.map fun entry => (entry.1, str entry.2))),
    ("fingerprint", fp s.fingerprint),
    ("invalidated_chapters", strings s.invalidatedChapters.keys),
    ("project_id", str s.projectId), ("schema", str s.schema), ("version", int s.version)]

def CanonRow.toValue (r : CanonRow Fp) : Json Fp :=
  obj [("authority_class", str r.authorityClass),
    ("content_fingerprint", fp r.contentFingerprint), ("evidence_ref", str r.evidenceRef),
    ("state_key", str r.stateKey), ("updated_at", str r.updatedAt), ("value_json", r.value)]

def TrackingRow.toValue (r : TrackingRow Fp) : Json Fp :=
  obj [("content_fingerprint", fp r.contentFingerprint), ("payload_json", r.payload.toValue),
    ("project_id", str r.projectId), ("updated_at", str r.updatedAt), ("version", int r.version)]

def CharacterRow.toValue (r : CharacterRow Fp) : Json Fp :=
  obj [("agenda", ofOption str r.agenda), ("character_id", str r.characterId),
    ("name", str r.name), ("state_json", r.state), ("updated_at", str r.updatedAt),
    ("voice_notes", ofOption str r.voiceNotes)]

def RelationshipRow.toValue (r : RelationshipRow Fp) : Json Fp :=
  obj [("participant_a", str r.participantA), ("participant_b", str r.participantB),
    ("relationship_id", str r.relationshipId), ("relationship_type", str r.relationshipType),
    ("state_json", r.state), ("updated_at", str r.updatedAt)]

def WorldEntityRow.toValue (r : WorldEntityRow Fp) : Json Fp :=
  obj [("entity_id", str r.entityId), ("entity_type", str r.entityType), ("name", str r.name),
    ("truth_json", r.truth), ("updated_at", str r.updatedAt)]

def TimelineEventRow.toValue (r : TimelineEventRow) : Json Fp :=
  obj [("authority_class", str r.authorityClass), ("description", ofOption str r.description),
    ("event_id", str r.eventId), ("source_ref", ofOption str r.sourceRef),
    ("story_order", int r.storyOrder), ("title", str r.title)]

def CharacterKnowledgeRow.toValue (r : CharacterKnowledgeRow Fp) : Json Fp :=
  obj [("available_from_story_order", int r.availableFromStoryOrder),
    ("character_id", str r.characterId), ("claim_ref", ofOption str r.claimRef),
    ("confidence", str r.confidence), ("evidence_ref", str r.evidenceRef),
    ("fact_json", r.fact), ("knowledge_id", str r.knowledgeId)]

def ExpectationRow.toValue (r : ExpectationRow Fp) : Json Fp :=
  obj [("created_at", str r.createdAt), ("description", str r.description),
    ("due_by_order", ofOption int r.dueByOrder), ("expectation_id", str r.expectationId),
    ("kind", str r.kind), ("last_touched_order", int r.lastTouchedOrder),
    ("opened_order", int r.openedOrder), ("scope", str r.scope),
    ("source_fingerprint", ofOption fp r.sourceFingerprint), ("source_ref", str r.sourceRef),
    ("status", str r.status), ("updated_at", str r.updatedAt), ("version", int r.version)]

def ExpectationEventRow.toValue (r : ExpectationEventRow) : Json Fp :=
  obj [("at_order", int r.atOrder), ("created_at", str r.createdAt),
    ("detail", ofOption str r.detail), ("event_id", int r.eventId),
    ("event_type", str r.eventType), ("evidence_ref", ofOption str r.evidenceRef),
    ("expectation_id", str r.expectationId)]

def NarrativeEntityType.name : NarrativeEntityType → String
  | .character => "character"
  | .relationship => "relationship"
  | .world => "world"
  | .timeline => "timeline"
  | .knowledge => "knowledge"
  | .expectation => "expectation"

def Freshness.name : Freshness → String
  | .current => "current"
  | .stale => "stale"

def NarrativeSourceRow.toValue (r : NarrativeSourceRow Fp) : Json Fp :=
  obj [("acceptance_id", str r.acceptanceId), ("chapter_id", str r.chapterId),
    ("entity_id", str r.entityId), ("entity_type", str r.entityType.name),
    ("source_fingerprint", fp r.sourceFingerprint), ("state", str r.state.name),
    ("updated_at", str r.updatedAt)]

/-- An accepted revision joined with its document. -/
structure RevisionAnchor (Fp : Type) where
  documentId : String
  chapterId : Option String
  revisionId : String
  contentFingerprint : Fp

def RevisionAnchor.toValue (a : RevisionAnchor Fp) : Json Fp :=
  obj [("chapter_id", ofOption str a.chapterId),
    ("content_fingerprint", fp a.contentFingerprint), ("document_id", str a.documentId),
    ("revision_id", str a.revisionId)]

def Database.acceptedAnchors (db : Database Fp) : List (RevisionAnchor Fp) :=
  (db.documentRevisions.filter fun revision => revision.authorityClass = .accepted).flatMap
    fun revision => (db.documents.filter fun document =>
      document.documentId = revision.documentId).map fun document =>
        { documentId := document.documentId, chapterId := document.storyNodeId,
          revisionId := revision.revisionId,
          contentFingerprint := revision.contentFingerprint }

/-! ## The projection -/

section Projection

variable [SerdeJson Fp]

/-- `collect_json_rows`. -/
def collectJsonRows {Row K : Type} [LinearOrder K] (key : Row → K) (toValue : Row → Json Fp)
    (rows : List Row) : Json Fp :=
  arr ((orderBy key rows).map fun row => (toValue row).reread)

def Database.storyProjection (db : Database Fp) (projectId : String) : CoreResult (Json Fp) := do
  require (db.trackingAuthority.map (·.projectId) = [projectId])
    (.authorityConflict "snapshot tracking authority is missing")
  return obj [
    -- a missing chapter comes first
    ("accepted_revision_anchors", collectJsonRows
      (fun a => toLex (a.chapterId.isSome, toLex (a.chapterId.getD "", a.revisionId)))
      RevisionAnchor.toValue db.acceptedAnchors),
    ("canon_state", collectJsonRows CanonRow.stateKey CanonRow.toValue db.canonState),
    ("character_knowledge", collectJsonRows CharacterKnowledgeRow.knowledgeId
      CharacterKnowledgeRow.toValue db.characterKnowledge),
    ("characters", collectJsonRows CharacterRow.characterId CharacterRow.toValue db.characters),
    ("expectation_events", collectJsonRows ExpectationEventRow.eventId
      ExpectationEventRow.toValue db.expectationEvents),
    ("expectations", collectJsonRows ExpectationRow.expectationId ExpectationRow.toValue
      db.expectations),
    ("narrative_state_sources", collectJsonRows
      (fun r => toLex (r.entityType.name, r.entityId)) NarrativeSourceRow.toValue
      db.narrativeStateSources),
    ("project_id", str projectId),
    ("relationships", collectJsonRows RelationshipRow.relationshipId RelationshipRow.toValue
      db.relationships),
    ("schema", str "quillframe_story_projection_v1"),
    ("timeline_events", collectJsonRows (fun r => toLex (r.storyOrder, r.eventId))
      TimelineEventRow.toValue db.timelineEvents),
    ("tracking", collectJsonRows TrackingRow.projectId TrackingRow.toValue db.trackingAuthority),
    ("world_entities", collectJsonRows WorldEntityRow.entityId WorldEntityRow.toValue
      db.worldEntities)]

/-! ## Stability -/

/-- The JSON columns of the projection tables are read back as they are. -/
structure Database.TablesStable (db : Database Fp) : Prop where
  canon : ∀ row ∈ db.canonState, row.value.Stable
  characters : ∀ row ∈ db.characters, row.state.Stable
  relationships : ∀ row ∈ db.relationships, row.state.Stable
  worldEntities : ∀ row ∈ db.worldEntities, row.truth.Stable
  knowledge : ∀ row ∈ db.characterKnowledge, row.fact.Stable

theorem TrackingState.toValue_stable (s : TrackingState Fp) : s.toValue.Stable := by
  simp only [toValue, Json.stable_obj, List.forall_mem_cons, List.mem_map, Json.stable_fp,
    Json.stable_str, Json.stable_int, Json.stable_strings, true_and]
  refine ⟨?_, ?_, by simp⟩
  · rintro _ ⟨entry, -, rfl⟩
    simp [ChapterTrackingRecord.toValue, Json.stable_obj]
  · rintro _ ⟨entry, -, rfl⟩
    simp

theorem collectJsonRows_stable {Row K : Type} [LinearOrder K] {key : Row → K}
    {toValue : Row → Json Fp} {rows : List Row} (h : ∀ row ∈ rows, (toValue row).Stable) :
    (collectJsonRows key toValue rows).Stable := by
  refine Json.stable_arr.mpr fun item hitem => ?_
  obtain ⟨row, hrow, rfl⟩ := List.mem_map.mp hitem
  have hstable := h row (List.mem_insertionSort _ |>.mp hrow)
  rwa [hstable]

/-- A projection of stable tables is stable. -/
theorem Database.storyProjection_stable {db : Database Fp} {projectId : String}
    {projection : Json Fp} (hstable : db.TablesStable)
    (h : db.storyProjection projectId = .ok projection) : projection.Stable := by
  simp only [storyProjection, bind_eq_ok, require_eq_ok, exists_const, pure_eq_ok] at h
  obtain ⟨-, rfl⟩ := h
  simp only [Json.stable_obj, List.forall_mem_cons, Json.stable_str, true_and]
  refine ⟨?_, ?_, ?_, ?_, ?_, ?_, ?_, ?_, ?_, ?_, ?_, by simp⟩ <;>
    refine collectJsonRows_stable fun row hrow => ?_
  · simp [RevisionAnchor.toValue, Json.stable_obj]
  · simp [CanonRow.toValue, Json.stable_obj, hstable.canon row hrow]
  · simp [CharacterKnowledgeRow.toValue, Json.stable_obj, hstable.knowledge row hrow]
  · simp [CharacterRow.toValue, Json.stable_obj, hstable.characters row hrow]
  · simp [ExpectationEventRow.toValue, Json.stable_obj]
  · simp [ExpectationRow.toValue, Json.stable_obj]
  · simp [NarrativeSourceRow.toValue, Json.stable_obj]
  · simp [RelationshipRow.toValue, Json.stable_obj, hstable.relationships row hrow]
  · simp [TimelineEventRow.toValue, Json.stable_obj]
  · simp [TrackingRow.toValue, Json.stable_obj, TrackingState.toValue_stable]
  · simp [WorldEntityRow.toValue, Json.stable_obj, hstable.worldEntities row hrow]

end Projection

end Quillframe
