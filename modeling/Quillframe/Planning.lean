import Quillframe.Story

/-!
# Plans

Typed plan bodies of the four levels, proposals, author activations and the frozen plan lock.
-/
namespace Quillframe

open Json (str int fp obj arr strings)

variable {Fp : Type}

inductive PlanMode where
  | designBook | designVolume | planUnit | planChapter
  deriving DecidableEq, Repr

namespace PlanMode

def name : PlanMode → String
  | .designBook => "DESIGN-BOOK"
  | .designVolume => "DESIGN-VOLUME"
  | .planUnit => "PLAN-UNIT"
  | .planChapter => "PLAN-CHAPTER"

def targetKind : PlanMode → StoryKind
  | .designBook => .book
  | .designVolume => .volume
  | .planUnit => .unit
  | .planChapter => .chapter

end PlanMode

structure PlanTarget where
  reference : String
  nodeId : String
  kind : StoryKind
  deriving DecidableEq, Repr

def PlanTarget.toJson (t : PlanTarget) : Json Fp :=
  obj [("reference", str t.reference), ("node_id", str t.nodeId), ("kind", str t.kind.name)]

def PlanTarget.resolve (graph : StoryGraph) (mode : PlanMode) (nodeId : String) :
    CoreResult PlanTarget := do
  let node ← fetch (graph.node nodeId) (.invalidPlan "plan target does not exist")
  require (node.kind = mode.targetKind) (.invalidPlan "plan mode does not match target kind")
  let reference ← graph.canonicalTarget nodeId
  return { reference, nodeId, kind := node.kind }

/-! ## Plan bodies -/

/-- `require_texts`. -/
def requireTexts (values : List String) : CoreResult Unit :=
  require (¬ ∃ value ∈ values, blank value)
    (.invalidPlan "required planning text must be non-empty")

structure ReaderContract where
  readerQuestion : String
  visibleReward : String
  characterChoice : String
  cost : String
  netChange : String
  nextPull : String
  deriving DecidableEq, Repr

namespace ReaderContract

def fields (c : ReaderContract) : List (String × String) :=
  [("reader_question", c.readerQuestion), ("visible_reward", c.visibleReward),
    ("character_choice", c.characterChoice), ("cost", c.cost), ("net_change", c.netChange),
    ("next_pull", c.nextPull)]

def toJson (c : ReaderContract) : Json Fp := obj (c.fields.map fun field => (field.1, str field.2))

def validate (c : ReaderContract) : CoreResult Unit :=
  forEach (fun _ field => require (¬ blank field.2)
    (.invalidPlan (field.1 ++ " must be non-empty"))) c.fields ()

end ReaderContract

structure StoryFoundation where
  targetReaders : String
  genrePromise : String
  coreEmotion : String
  progressionFantasy : String
  payoffCadence : String
  premise : String
  intendedEndState : String
  differentiators : List String
  nonNegotiables : List String
  deriving DecidableEq, Repr

def StoryFoundation.toJson (f : StoryFoundation) : Json Fp :=
  obj [("target_readers", str f.targetReaders), ("genre_promise", str f.genrePromise),
    ("core_emotion", str f.coreEmotion), ("progression_fantasy", str f.progressionFantasy),
    ("payoff_cadence", str f.payoffCadence), ("premise", str f.premise),
    ("intended_end_state", str f.intendedEndState),
    ("differentiators", strings f.differentiators), ("non_negotiables", strings f.nonNegotiables)]

structure CharacterArcPlan where
  characterId : String
  displayName : String
  narrativeRole : String
  externalWant : String
  internalNeed : String
  pressure : String
  agency : String
  initialState : String
  intendedChange : String
  turningPoints : List String
  deriving DecidableEq, Repr

namespace CharacterArcPlan

def texts (c : CharacterArcPlan) : List (String × String) :=
  [("character_id", c.characterId), ("display_name", c.displayName),
    ("narrative_role", c.narrativeRole), ("external_want", c.externalWant),
    ("internal_need", c.internalNeed), ("pressure", c.pressure), ("agency", c.agency),
    ("initial_state", c.initialState), ("intended_change", c.intendedChange)]

def toJson (c : CharacterArcPlan) : Json Fp :=
  obj ((c.texts.map fun text => (text.1, str text.2)) ++
    [("turning_points", strings c.turningPoints)])

end CharacterArcPlan

structure RelationshipArcPlan where
  relationshipId : String
  participantIds : List String
  initialState : String
  pressure : String
  intendedChange : String
  turningPoints : List String
  deriving DecidableEq, Repr

namespace RelationshipArcPlan

def toJson (r : RelationshipArcPlan) : Json Fp :=
  obj [("relationship_id", str r.relationshipId), ("participant_ids", strings r.participantIds),
    ("initial_state", str r.initialState), ("pressure", str r.pressure),
    ("intended_change", str r.intendedChange), ("turning_points", strings r.turningPoints)]

/-- One relationship arc against the known characters and the arcs before it. -/
def check (characterIds : List String) (seen : List String) (r : RelationshipArcPlan) :
    CoreResult (List String) := do
  requireTexts [r.relationshipId, r.initialState, r.pressure, r.intendedChange]
  require (¬ (r.relationshipId ∈ seen ∨ r.participantIds.length ≠ 2 ∨
      r.participantIds[0]? = r.participantIds[1]? ∨
      ∃ id ∈ r.participantIds, id ∉ characterIds))
    (.invalidPlan "relationship arcs require a unique id and two known participants")
  return r.relationshipId :: seen

end RelationshipArcPlan

structure BookPlan where
  foundation : StoryFoundation
  characterArcs : List CharacterArcPlan
  relationshipArcs : List RelationshipArcPlan
  readerPromise : String
  protagonistAgency : String
  centralConflict : String
  progression : List String
  endgameReserve : List String
  fixedEndingOutcomes : List String
  antiExhaustionLimits : List String
  deriving DecidableEq, Repr

namespace BookPlan

/-- A list that is left out of the text when it is empty. -/
def optionalStrings (name : String) (values : List String) : List (String × Json Fp) :=
  if values = [] then [] else [(name, strings values)]

def toJson (b : BookPlan) : Json Fp :=
  obj ([("foundation", b.foundation.toJson),
    ("character_arcs", arr (b.characterArcs.map CharacterArcPlan.toJson)),
    ("relationship_arcs", arr (b.relationshipArcs.map RelationshipArcPlan.toJson)),
    ("reader_promise", str b.readerPromise), ("protagonist_agency", str b.protagonistAgency),
    ("central_conflict", str b.centralConflict), ("progression", strings b.progression)] ++
    optionalStrings "endgame_reserve" b.endgameReserve ++
    optionalStrings "fixed_ending_outcomes" b.fixedEndingOutcomes ++
    [("anti_exhaustion_limits", strings b.antiExhaustionLimits)])

def validate (b : BookPlan) : CoreResult Unit := do
  requireTexts [b.foundation.targetReaders, b.foundation.genrePromise, b.foundation.coreEmotion,
    b.foundation.progressionFantasy, b.foundation.payoffCadence, b.foundation.premise,
    b.foundation.intendedEndState, b.readerPromise, b.protagonistAgency, b.centralConflict]
  require (b.characterArcs ≠ []) (.invalidPlan "book plan requires at least one character arc")
  require (¬ (b.fixedEndingOutcomes = [] ∧ b.endgameReserve = []))
    (.invalidPlan ("book plan requires concrete ending outcomes (legacy endgame_reserve is " ++
      "accepted only for existing plans)"))
  requireTexts (b.fixedEndingOutcomes ++ b.endgameReserve)
  forDistinct (fun character : CharacterArcPlan => requireTexts (character.texts.map Prod.snd))
    CharacterArcPlan.characterId (.invalidPlan "book plan character ids must be unique")
    b.characterArcs []
  let _ ← forEach (RelationshipArcPlan.check (b.characterArcs.map (·.characterId)))
    b.relationshipArcs []

end BookPlan

structure VolumePlan where
  volumePromise : String
  netSituationChange : String
  opposition : String
  relationshipMovements : List String
  climax : String
  inheritedDebts : List String
  deriving DecidableEq, Repr

def VolumePlan.toJson (v : VolumePlan) : Json Fp :=
  obj [("volume_promise", str v.volumePromise), ("net_situation_change", str v.netSituationChange),
    ("opposition", str v.opposition), ("relationship_movements", strings v.relationshipMovements),
    ("climax", str v.climax), ("inherited_debts", strings v.inheritedDebts)]

structure UnitPlan where
  loopQuestion : String
  setup : List String
  release : String
  aftermath : String
  rewards : List String
  delayCosts : List String
  foreshadowing : List String
  callbacks : List String
  deriving DecidableEq, Repr

def UnitPlan.toJson (u : UnitPlan) : Json Fp :=
  obj [("loop_question", str u.loopQuestion), ("setup", strings u.setup),
    ("release", str u.release), ("aftermath", str u.aftermath), ("rewards", strings u.rewards),
    ("delay_costs", strings u.delayCosts), ("foreshadowing", strings u.foreshadowing),
    ("callbacks", strings u.callbacks)]

inductive LengthUnit where
  | chineseCharacters | words
  deriving DecidableEq, Repr

def LengthUnit.name : LengthUnit → String
  | .chineseCharacters => "chinese_characters"
  | .words => "words"

structure LengthBand where
  min : ℕ
  max : Option ℕ
  unit : LengthUnit
  deriving DecidableEq, Repr

def LengthBand.toJson (b : LengthBand) : Json Fp :=
  obj ([("min", int b.min)] ++ (b.max.toList.map fun (n : ℕ) => ("max", int n)) ++
    [("unit", str b.unit.name)])

structure ConstraintClause where
  id : String
  statement : String
  deriving DecidableEq, Repr

def ConstraintClause.toJson (c : ConstraintClause) : Json Fp :=
  obj [("id", str c.id), ("statement", str c.statement)]

structure ChapterConstraintLock where
  length : LengthBand
  mustHappen : List ConstraintClause
  mustNotHappen : List ConstraintClause
  exactTimeAnchors : List ConstraintClause
  stopPoint : String
  endDebt : String
  deriving DecidableEq, Repr

namespace ChapterConstraintLock

def toJson (l : ChapterConstraintLock) : Json Fp :=
  obj [("length", l.length.toJson), ("must_happen", arr (l.mustHappen.map ConstraintClause.toJson)),
    ("must_not_happen", arr (l.mustNotHappen.map ConstraintClause.toJson)),
    ("exact_time_anchors", arr (l.exactTimeAnchors.map ConstraintClause.toJson)),
    ("stop_point", str l.stopPoint), ("end_debt", str l.endDebt)]

def validate (l : ChapterConstraintLock) (readerContract : ReaderContract) : CoreResult Unit := do
  require (l.length.min ≠ 0) (.invalidPlan "chapter minimum length must be positive")
  requireTexts [l.stopPoint, l.endDebt]
  require (l.endDebt = readerContract.nextPull)
    (.invalidPlan "chapter end debt must equal the reader contract next pull")
  forDistinct (fun clause : ConstraintClause => requireTexts [clause.id, clause.statement])
    ConstraintClause.id (.invalidPlan "chapter constraint clause ids must be unique")
    (l.mustHappen ++ l.mustNotHappen ++ l.exactTimeAnchors) []

end ChapterConstraintLock

structure ChapterContract where
  chapterFunction : String
  viewpoint : String
  entryState : String
  intendedExitState : String
  readerContract : ReaderContract
  constraintLock : ChapterConstraintLock
  deriving DecidableEq, Repr

/-- The scene objectives of a chapter are the briefs its writer receives, field by field. -/
structure ChapterPlan where
  contract : ChapterContract
  scenes : List SceneWritingBrief
  deriving DecidableEq, Repr

namespace ChapterPlan

def toJson (c : ChapterPlan) : Json Fp :=
  obj [("contract", obj [("chapter_function", str c.contract.chapterFunction),
      ("viewpoint", str c.contract.viewpoint), ("entry_state", str c.contract.entryState),
      ("intended_exit_state", str c.contract.intendedExitState),
      ("reader_contract", c.contract.readerContract.toJson),
      ("constraint_lock", c.contract.constraintLock.toJson)]),
    ("scene_script", obj [("scenes", arr (c.scenes.map SceneWritingBrief.toJson))])]

/-- One scene objective: the next ordinal and the scene ids seen. -/
def checkObjective (acc : ℕ × List String) (scene : SceneWritingBrief) :
    CoreResult (ℕ × List String) := do
  require (scene.ordinal = acc.1)
    (.invalidPlan "scene objectives must use contiguous ordinals")
  requireTexts (scene.sceneId :: scene.texts.map Prod.snd)
  require (scene.sceneId ∉ acc.2) (.invalidPlan "scene objectives require unique scene ids")
  return (acc.1 + 1, scene.sceneId :: acc.2)

def validate (c : ChapterPlan) : CoreResult Unit := do
  requireTexts [c.contract.chapterFunction, c.contract.viewpoint, c.contract.entryState,
    c.contract.intendedExitState]
  c.contract.readerContract.validate
  c.contract.constraintLock.validate c.contract.readerContract
  require (c.scenes ≠ []) (.invalidPlan "chapter plan requires at least one scene objective")
  let _ ← forEach checkObjective c.scenes (1, [])

end ChapterPlan

inductive PlanBody where
  | book (plan : BookPlan)
  | volume (plan : VolumePlan)
  | unit (plan : UnitPlan)
  | chapter (plan : ChapterPlan)
  deriving DecidableEq, Repr

namespace PlanBody

def kind : PlanBody → StoryKind
  | .book _ => .book
  | .volume _ => .volume
  | .unit _ => .unit
  | .chapter _ => .chapter

def toJson : PlanBody → Json Fp
  | .book plan => obj [("kind", str "book"), ("body", plan.toJson)]
  | .volume plan => obj [("kind", str "volume"), ("body", plan.toJson)]
  | .unit plan => obj [("kind", str "unit"), ("body", plan.toJson)]
  | .chapter plan => obj [("kind", str "chapter"), ("body", plan.toJson)]

def validate : PlanBody → CoreResult Unit
  | .book plan => plan.validate
  | .volume plan =>
    requireTexts [plan.volumePromise, plan.netSituationChange, plan.opposition, plan.climax]
  | .unit plan => requireTexts [plan.loopQuestion, plan.release, plan.aftermath]
  | .chapter plan => plan.validate

end PlanBody

/-! ## Proposals -/

inductive PlanStatus where
  | proposal | active | superseded | stale
  deriving DecidableEq, Repr

structure PlanProposal (Fp : Type) where
  schema : String
  id : String
  mode : PlanMode
  target : PlanTarget
  proposalVersion : ℕ
  expectedActiveVersion : ℕ
  body : PlanBody
  assumptions : List String
  openQuestions : List String
  dependencyFingerprints : OrderedMap String Fp
  fingerprint : Fp
  status : PlanStatus
  deriving DecidableEq

structure PlanProposalInput (Fp : Type) where
  mode : PlanMode
  nodeId : String
  expectedActiveVersion : ℕ
  body : PlanBody
  assumptions : List String
  openQuestions : List String
  dependencyFingerprints : OrderedMap String Fp
  deriving DecidableEq

namespace PlanProposal

/-- The text that is fingerprinted: no fingerprint, and the status of a proposal. -/
def projection (p : PlanProposal Fp) : Json Fp :=
  obj [("schema", str p.schema), ("id", str p.id), ("mode", str p.mode.name),
    ("target", p.target.toJson), ("proposal_version", int p.proposalVersion),
    ("expected_active_version", int p.expectedActiveVersion), ("body", p.body.toJson),
    ("assumptions", strings p.assumptions), ("open_questions", strings p.openQuestions),
    ("dependency_fingerprints",
      obj (p.dependencyFingerprints.entries.map fun entry => (entry.1, fp entry.2))),
    ("fingerprint", str ""), ("status", str "proposal")]

variable [Sha256 Fp] [DecidableEq Fp]

def computeFingerprint (p : PlanProposal Fp) : Fp := Sha256.ofJson p.projection

def validateFingerprint (p : PlanProposal Fp) : CoreResult Unit :=
  require (p.fingerprint = p.computeFingerprint)
    (.invalidPlan "proposal fingerprint does not match exact content")

/-- `PlanProposal::create`, under the id that it generates. -/
def create (graph : StoryGraph) (input : PlanProposalInput Fp) (id : String) :
    CoreResult (PlanProposal Fp) := do
  let target ← PlanTarget.resolve graph input.mode input.nodeId
  require (input.body.kind = target.kind) (.invalidPlan "plan body does not match target kind")
  input.body.validate
  require (∀ reference ∈ input.dependencyFingerprints.keys, ':' ∈ reference.toList)
    (.invalidPlan "dependency binding is not canonical")
  let value : PlanProposal Fp :=
    { schema := "quillframe_typed_plan_proposal_v2", id, mode := input.mode, target,
      proposalVersion := 1, expectedActiveVersion := input.expectedActiveVersion,
      body := input.body, assumptions := input.assumptions, openQuestions := input.openQuestions,
      dependencyFingerprints := input.dependencyFingerprints, fingerprint := Sha256.ofText "",
      status := .proposal }
  return { value with fingerprint := value.computeFingerprint }

end PlanProposal

structure AuthorActivation (Fp : Type) where
  schema : String
  decisionId : String
  proposalId : String
  proposalFingerprint : Fp
  expectedActiveVersion : ℕ
  authorizedBy : String
  decidedAt : String
  idempotencyKey : String
  fingerprint : Fp
  deriving DecidableEq

namespace AuthorActivation

def projection (a : AuthorActivation Fp) : Json Fp :=
  obj [("schema", str a.schema), ("decision_id", str a.decisionId),
    ("proposal_id", str a.proposalId), ("proposal_fingerprint", fp a.proposalFingerprint),
    ("expected_active_version", int a.expectedActiveVersion),
    ("authorized_by", str a.authorizedBy), ("decided_at", str a.decidedAt),
    ("idempotency_key", str a.idempotencyKey), ("fingerprint", str "")]

def validateFields (a : AuthorActivation Fp) : CoreResult Unit :=
  require (¬ (a.schema ≠ "quillframe_author_plan_activation_v1" ∨ blank a.authorizedBy ∨
      blank a.decidedAt ∨ blank a.idempotencyKey))
    (.authorityConflict "author activation receipt is incomplete")

variable [Sha256 Fp] [DecidableEq Fp]

def computeFingerprint (a : AuthorActivation Fp) : Fp := Sha256.ofJson a.projection

def validate (a : AuthorActivation Fp) : CoreResult Unit := do
  a.validateFields
  require (a.fingerprint = a.computeFingerprint)
    (.authorityConflict "author activation receipt fingerprint changed")

/-- `AuthorActivation::authorize`, under the decision id that it generates. -/
def authorize (proposal : PlanProposal Fp)
    (authorizedBy decidedAt idempotencyKey decisionId : String) :
    CoreResult (AuthorActivation Fp) := do
  proposal.validateFingerprint
  let value : AuthorActivation Fp :=
    { schema := "quillframe_author_plan_activation_v1", decisionId, proposalId := proposal.id,
      proposalFingerprint := proposal.fingerprint,
      expectedActiveVersion := proposal.expectedActiveVersion, authorizedBy, decidedAt,
      idempotencyKey, fingerprint := Sha256.ofText "" }
  value.validateFields
  return { value with fingerprint := value.computeFingerprint }

end AuthorActivation

/-! ## The plan lock -/

structure FrozenPlanLayer (Fp : Type) where
  target : PlanTarget
  proposalId : String
  activeVersion : ℕ
  proposalFingerprint : Fp
  body : PlanBody
  deriving DecidableEq

namespace FrozenPlanLayer

def toJson (l : FrozenPlanLayer Fp) : Json Fp :=
  obj [("target", l.target.toJson), ("proposal_id", str l.proposalId),
    ("active_version", int l.activeVersion), ("proposal_fingerprint", fp l.proposalFingerprint),
    ("body", l.body.toJson)]

def validate (l : FrozenPlanLayer Fp) : CoreResult Unit := do
  require (¬ (l.activeVersion = 0 ∨ l.target.kind ≠ l.body.kind ∨ blank l.target.reference ∨
      blank l.target.nodeId))
    (.invalidPlan "frozen plan layer is incomplete or mismatched")
  l.body.validate

def fromActive [Sha256 Fp] [DecidableEq Fp] (proposal : PlanProposal Fp) (activeVersion : ℕ) :
    CoreResult (FrozenPlanLayer Fp) := do
  proposal.validateFingerprint
  let value : FrozenPlanLayer Fp :=
    { target := proposal.target, proposalId := proposal.id, activeVersion,
      proposalFingerprint := proposal.fingerprint, body := proposal.body }
  value.validate
  return value

end FrozenPlanLayer

structure HierarchicalPlanLock (Fp : Type) where
  schema : String
  layers : List (FrozenPlanLayer Fp)
  fingerprint : Fp
  deriving DecidableEq

namespace HierarchicalPlanLock

def toJsonWith (l : HierarchicalPlanLock Fp) (fingerprint : Json Fp) : Json Fp :=
  obj [("schema", str l.schema), ("layers", arr (l.layers.map FrozenPlanLayer.toJson)),
    ("fingerprint", fingerprint)]

def toJson (l : HierarchicalPlanLock Fp) : Json Fp := l.toJsonWith (fp l.fingerprint)

def levels : List StoryKind := [.book, .volume, .unit, .chapter]

/-- One layer with the kind of its level, after the node of the layer above it. -/
def checkLayer (above : Option String) (item : FrozenPlanLayer Fp × StoryKind) :
    CoreResult (Option String) := do
  item.1.validate
  require (item.1.target.kind = item.2)
    (.invalidPlan "hierarchical plan lock layers are missing or out of order")
  require (above ≠ some item.1.target.nodeId)
    (.invalidPlan "hierarchical plan lock repeats a target")
  return some item.1.target.nodeId

def validateFields (l : HierarchicalPlanLock Fp) : CoreResult Unit := do
  require (¬ (l.schema ≠ "quillframe_hierarchical_plan_lock_v2" ∨ l.layers.length ≠ 4))
    (.invalidPlan "hierarchical plan lock requires exactly book, volume, unit and chapter")
  let _ ← forEach checkLayer (l.layers.zip levels) none

variable [Sha256 Fp] [DecidableEq Fp]

def computeFingerprint (l : HierarchicalPlanLock Fp) : Fp := Sha256.ofJson (l.toJsonWith (str ""))

def freeze (layers : List (FrozenPlanLayer Fp)) : CoreResult (HierarchicalPlanLock Fp) := do
  let value : HierarchicalPlanLock Fp :=
    { schema := "quillframe_hierarchical_plan_lock_v2", layers, fingerprint := Sha256.ofText "" }
  value.validateFields
  return { value with fingerprint := value.computeFingerprint }

def validate (l : HierarchicalPlanLock Fp) : CoreResult Unit := do
  l.validateFields
  require (l.fingerprint = l.computeFingerprint)
    (.authorityConflict "hierarchical plan lock fingerprint changed")

def chapterPlan (l : HierarchicalPlanLock Fp) (chapterId : String) : CoreResult ChapterPlan := do
  l.validate
  let layer ← fetch l.layers.getLast?
    (.invalidPlan "hierarchical plan lock has no chapter layer")
  require (layer.target.nodeId = chapterId)
    (.invalidPlan "hierarchical plan lock targets a different chapter")
  match layer.body with
  | .chapter plan => return plan
  | _ => throw (.invalidPlan "hierarchical plan lock ends with a non-chapter body")

end HierarchicalPlanLock

end Quillframe
