import Quillframe.Digest
import Quillframe.Error
import Quillframe.OrderedMap
import Quillframe.StringOrder

/-! The tracking proposal a chapter is settled with, and its validator. -/
namespace Quillframe

open Json (str obj arr strings)

variable {Fp : Type}

inductive NarrativeEntityKind where
  | character
  | world
  deriving DecidableEq, Repr

inductive ExpectationDeltaAction where
  | opened
  | advance
  | payoff
  | defer
  | abandon
  deriving DecidableEq, Repr

def ExpectationDeltaAction.name : ExpectationDeltaAction → String
  | .opened => "open"
  | .advance => "advance"
  | .payoff => "payoff"
  | .defer => "defer"
  | .abandon => "abandon"

structure NarrativeEntityDelta (Fp : Type) where
  entityKind : NarrativeEntityKind
  entityId : String
  displayName : String
  state : Json Fp
  evidenceExcerpt : String
  deriving DecidableEq

structure RelationshipStateDelta (Fp : Type) where
  relationshipId : String
  participantA : String
  participantB : String
  relationshipType : String
  state : Json Fp
  evidenceExcerpt : String
  deriving DecidableEq

structure CharacterKnowledgeDelta (Fp : Type) where
  knowledgeId : String
  characterId : String
  fact : Json Fp
  confidence : String
  evidenceExcerpt : String
  deriving DecidableEq

structure TimelineEventDelta where
  eventId : String
  title : String
  description : String
  evidenceExcerpt : String
  deriving DecidableEq, Repr

structure ReaderExpectationDelta where
  expectationId : String
  kind : String
  action : ExpectationDeltaAction
  description : String
  evidenceExcerpt : String
  deriving DecidableEq, Repr

structure ChapterTrackingProposal (Fp : Type) where
  netChange : String
  openExpectations : List String
  paidExpectations : List String
  relationshipChanges : List String
  stateChanges : List String
  nextPull : String
  characterSnapshotUpdates : OrderedMap String String
  entityDeltas : List (NarrativeEntityDelta Fp)
  relationshipDeltas : List (RelationshipStateDelta Fp)
  knowledgeDeltas : List (CharacterKnowledgeDelta Fp)
  timelineDeltas : List TimelineEventDelta
  expectationDeltas : List ReaderExpectationDelta
  deriving DecidableEq

/-! ## JSON values

Members stand in key order, as in a `serde_json::Value`; the size of the text is the same in
every order. -/

def NarrativeEntityDelta.toValue (d : NarrativeEntityDelta Fp) : Json Fp :=
  obj [("display_name", str d.displayName), ("entity_id", str d.entityId),
    ("entity_kind", str (match d.entityKind with | .character => "character" | .world => "world")),
    ("evidence_excerpt", str d.evidenceExcerpt), ("state", d.state)]

def RelationshipStateDelta.toValue (d : RelationshipStateDelta Fp) : Json Fp :=
  obj [("evidence_excerpt", str d.evidenceExcerpt), ("participant_a", str d.participantA),
    ("participant_b", str d.participantB), ("relationship_id", str d.relationshipId),
    ("relationship_type", str d.relationshipType), ("state", d.state)]

def CharacterKnowledgeDelta.toValue (d : CharacterKnowledgeDelta Fp) : Json Fp :=
  obj [("character_id", str d.characterId), ("confidence", str d.confidence),
    ("evidence_excerpt", str d.evidenceExcerpt), ("fact", d.fact),
    ("knowledge_id", str d.knowledgeId)]

def TimelineEventDelta.toValue (d : TimelineEventDelta) : Json Fp :=
  obj [("description", str d.description), ("event_id", str d.eventId),
    ("evidence_excerpt", str d.evidenceExcerpt), ("title", str d.title)]

def ReaderExpectationDelta.toValue (d : ReaderExpectationDelta) : Json Fp :=
  obj [("action", str d.action.name), ("description", str d.description),
    ("evidence_excerpt", str d.evidenceExcerpt), ("expectation_id", str d.expectationId),
    ("kind", str d.kind)]

namespace ChapterTrackingProposal

def toValue (p : ChapterTrackingProposal Fp) : Json Fp :=
  obj [("character_snapshot_updates",
      obj (p.characterSnapshotUpdates.entries.map fun entry => (entry.1, str entry.2))),
    ("entity_deltas", arr (p.entityDeltas.map NarrativeEntityDelta.toValue)),
    ("expectation_deltas", arr (p.expectationDeltas.map ReaderExpectationDelta.toValue)),
    ("knowledge_deltas", arr (p.knowledgeDeltas.map CharacterKnowledgeDelta.toValue)),
    ("net_change", str p.netChange), ("next_pull", str p.nextPull),
    ("open_expectations", strings p.openExpectations),
    ("paid_expectations", strings p.paidExpectations),
    ("relationship_changes", strings p.relationshipChanges),
    ("relationship_deltas", arr (p.relationshipDeltas.map RelationshipStateDelta.toValue)),
    ("state_changes", strings p.stateChanges),
    ("timeline_deltas", arr (p.timelineDeltas.map TimelineEventDelta.toValue))]

/-- Evidence excerpts of all deltas, in the order settlement checks them. -/
def evidenceExcerpts (p : ChapterTrackingProposal Fp) : List String :=
  p.entityDeltas.map (·.evidenceExcerpt) ++ p.relationshipDeltas.map (·.evidenceExcerpt) ++
    p.knowledgeDeltas.map (·.evidenceExcerpt) ++ p.timelineDeltas.map (·.evidenceExcerpt) ++
    p.expectationDeltas.map (·.evidenceExcerpt)

end ChapterTrackingProposal

/-! ## Validation -/

def requireDeltaFields (fields : List String) (value : Json Fp) : CoreResult Unit :=
  require (¬ ((∃ field ∈ fields, blank field) ∨ value.isObject = false))
    (.invalidProject "narrative state delta fields and structured value are required")

def expectationKinds : List String :=
  ["question", "promise", "setup", "relationship", "goal", "mystery"]

def NarrativeEntityDelta.validate (d : NarrativeEntityDelta Fp) : CoreResult Unit :=
  requireDeltaFields [d.entityId, d.displayName, d.evidenceExcerpt] d.state

def RelationshipStateDelta.validate (d : RelationshipStateDelta Fp) : CoreResult Unit := do
  requireDeltaFields [d.relationshipId, d.participantA, d.participantB, d.relationshipType,
    d.evidenceExcerpt] d.state
  require (d.participantA ≠ d.participantB)
    (.invalidProject "relationship delta identity is invalid")

def CharacterKnowledgeDelta.validate (d : CharacterKnowledgeDelta Fp) : CoreResult Unit :=
  requireDeltaFields [d.knowledgeId, d.characterId, d.confidence, d.evidenceExcerpt] d.fact

def TimelineEventDelta.validate (d : TimelineEventDelta) : CoreResult Unit :=
  require (∀ value ∈ [d.eventId, d.title, d.description, d.evidenceExcerpt], ¬ blank value)
    (.invalidProject "timeline delta is incomplete or duplicated")

def ReaderExpectationDelta.validate (d : ReaderExpectationDelta) : CoreResult Unit :=
  require (¬ ((∃ value ∈ [d.expectationId, d.kind, d.description, d.evidenceExcerpt],
      blank value) ∨ d.kind ∉ expectationKinds))
    (.invalidProject "reader expectation delta is invalid or duplicated")

namespace ChapterTrackingProposal

def bounded (p : ChapterTrackingProposal Fp) : Prop :=
  ¬ (blank p.netChange ∨ blank p.nextPull ∨
    (∃ values ∈ [p.openExpectations, p.paidExpectations, p.relationshipChanges, p.stateChanges],
      16 < values.length ∨ ∃ value ∈ values, blank value) ∨
    32 < p.characterSnapshotUpdates.entries.length ∨
    (∃ update ∈ p.characterSnapshotUpdates.entries,
      blank update.1 ∨ blank update.2 ∨ 2048 < update.2.utf8ByteSize) ∨
    32 < p.entityDeltas.length ∨ 32 < p.relationshipDeltas.length ∨
    64 < p.knowledgeDeltas.length ∨ 32 < p.timelineDeltas.length ∨
    32 < p.expectationDeltas.length)

instance (p : ChapterTrackingProposal Fp) : Decidable p.bounded := by
  unfold bounded
  infer_instance

/-- The identities are tagged by kind, so each kind is checked against its own ids. -/
def validate (p : ChapterTrackingProposal Fp) : CoreResult Unit := do
  require p.bounded (.invalidProject "chapter tracking proposal is incomplete or unbounded")
  forDistinct NarrativeEntityDelta.validate (·.entityId)
    (.invalidProject "narrative entity delta id is duplicated") p.entityDeltas []
  forDistinct RelationshipStateDelta.validate (·.relationshipId)
    (.invalidProject "relationship delta identity is invalid") p.relationshipDeltas []
  forDistinct CharacterKnowledgeDelta.validate (·.knowledgeId)
    (.invalidProject "knowledge delta id is duplicated") p.knowledgeDeltas []
  forDistinct TimelineEventDelta.validate (·.eventId)
    (.invalidProject "timeline delta is incomplete or duplicated") p.timelineDeltas []
  forDistinct ReaderExpectationDelta.validate (·.expectationId)
    (.invalidProject "reader expectation delta is invalid or duplicated") p.expectationDeltas []
  require (p.toValue.encodedSize ≤ 12 * 1024)
    (.contextBoundary "chapter tracking proposal exceeds 12 KiB")

/-- What a validated proposal promises to the tables it is written to. -/
structure Valid (p : ChapterTrackingProposal Fp) : Prop where
  entityIds : (p.entityDeltas.map (·.entityId)).Nodup
  relationshipIds : (p.relationshipDeltas.map (·.relationshipId)).Nodup
  knowledgeIds : (p.knowledgeDeltas.map (·.knowledgeId)).Nodup
  timelineIds : (p.timelineDeltas.map (·.eventId)).Nodup
  expectationIds : (p.expectationDeltas.map (·.expectationId)).Nodup
  participants : ∀ d ∈ p.relationshipDeltas, d.participantA ≠ d.participantB
  kinds : ∀ d ∈ p.expectationDeltas, d.kind ∈ expectationKinds

theorem valid_of_validate {p : ChapterTrackingProposal Fp} {u : Unit} (h : p.validate = .ok u) :
    p.Valid := by
  simp only [validate, bind_eq_ok, require_eq_ok, forDistinct_eq_ok, exists_const] at h
  obtain ⟨-, ⟨-, hentity, -⟩, ⟨hrel, hrelIds, -⟩, ⟨-, hknow, -⟩, ⟨-, htime, -⟩,
    ⟨hexp, hexpIds, -⟩, -⟩ := h
  refine ⟨hentity, hrelIds, hknow, htime, hexpIds, fun d hd => ?_, fun d hd => ?_⟩
  · have hval := hrel d hd
    simp only [RelationshipStateDelta.validate, bind_eq_ok, require_eq_ok] at hval
    obtain ⟨_, -, hne⟩ := hval
    exact hne
  · have hval := hexp d hd
    simp only [ReaderExpectationDelta.validate, require_eq_ok, not_or, not_not] at hval
    exact hval.2

end ChapterTrackingProposal

end Quillframe
