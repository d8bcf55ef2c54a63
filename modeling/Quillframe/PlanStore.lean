import Quillframe.Setup

/-!
# The plan tables

Saving plan proposals and activating them under an expected version. The active plans of a
chapter and of everything above it are the chain that a Writer Pack freezes.
-/
namespace Quillframe

open Json (str int fp obj)

variable {Fp : Type}

/-! ## Tables -/

inductive PlanRowStatus where
  | active | superseded | completed | proposal
  deriving DecidableEq, Repr

structure PlanRow (Fp : Type) where
  planId : String
  taskMode : PlanMode
  targetId : String
  status : PlanRowStatus
  plan : PlanProposal Fp
  contentFingerprint : Fp
  createdAt : String
  updatedAt : String
  deriving DecidableEq

structure PlanVersionRow (Fp : Type) where
  planId : String
  version : ℕ
  payload : PlanProposal Fp
  contentFingerprint : Fp
  createdAt : String
  deriving DecidableEq

inductive ActivationStatus where
  | active | superseded
  deriving DecidableEq, Repr

structure PlanActivationRow (Fp : Type) where
  activationId : String
  proposalId : String
  targetRef : String
  activeVersion : ℕ
  proposalFingerprint : Fp
  authorizationFingerprint : Fp
  authorization : AuthorActivation Fp
  status : ActivationStatus
  createdAt : String
  deriving DecidableEq

structure PlanEditorViewRow (Fp : Type) where
  proposalId : String
  targetRef : String
  title : String
  content : String
  readerIntent : Json Fp
  expectationRefs : List String
  createdAt : String
  deriving DecidableEq

inductive SetupStatus where
  | proposalReady | approved | superseded
  deriving DecidableEq, Repr

structure BookSetupProposalRow (Fp : Type) where
  setupId : String
  projectId : String
  expectedSetupVersion : ℕ
  expectedBookPlanVersion : ℕ
  status : SetupStatus
  setup : BookSetupArtifact Fp
  setupFingerprint : Fp
  requestFingerprint : Fp
  idempotencyKey : String
  createdAt : String
  deriving DecidableEq

structure BookSetupApprovalRow (Fp : Type) where
  approvalId : String
  setupId : String
  projectId : String
  expectedSetupVersion : ℕ
  bookPlanId : String
  bookPlanFingerprint : Fp
  authorizedBy : String
  approval : Json Fp
  approvalFingerprint : Fp
  idempotencyKey : String
  createdAt : String
  deriving DecidableEq

/-- The only status of a head is `ready`. -/
structure BookSetupHeadRow (Fp : Type) where
  projectId : String
  setupId : String
  version : ℕ
  setupFingerprint : Fp
  bookPlanId : String
  bookPlanFingerprint : Fp
  approvalFingerprint : Fp
  updatedAt : String
  deriving DecidableEq

/-- A project with its planning tables. -/
structure PlanDatabase (Fp : Type) where
  project : Database Fp
  plans : List (PlanRow Fp)
  planVersions : List (PlanVersionRow Fp)
  planActivations : List (PlanActivationRow Fp)
  planEditorViews : List (PlanEditorViewRow Fp)
  bookSetupProposals : List (BookSetupProposalRow Fp)
  bookSetupApprovals : List (BookSetupApprovalRow Fp)
  bookSetupHeads : List (BookSetupHeadRow Fp)
  deriving DecidableEq

namespace PlanDatabase

/-- A project before its first plan. -/
def unplanned (project : Database Fp) : PlanDatabase Fp :=
  ⟨project, [], [], [], [], [], [], []⟩

/-- The activations of a target, in the order they were made. -/
def activationsOf (db : PlanDatabase Fp) (targetRef : String) : List (PlanActivationRow Fp) :=
  db.planActivations.filter fun row => row.targetRef = targetRef

def activeActivation (db : PlanDatabase Fp) (targetRef : String) :
    Option (PlanActivationRow Fp) :=
  db.planActivations.find? fun row => row.targetRef = targetRef ∧ row.status = .active

def currentVersion (db : PlanDatabase Fp) (targetRef : String) : ℕ :=
  ((db.activeActivation targetRef).map (·.activeVersion)).getD 0

def activeFingerprint (db : PlanDatabase Fp) (targetRef : String) : Option Fp :=
  (db.activeActivation targetRef).map (·.proposalFingerprint)

end PlanDatabase

/-! ## Dependencies -/

def parseStoryKind (kind : StoryKind) : CoreResult StoryKind := do
  require (kind ≠ .arc) (.invalidHierarchy ("unsupported persisted story kind: " ++ kind.name))
  return kind

/-- The walk from a parent to the root; the nodes found, from the root down. -/
def Database.lineageLoop (db : Database Fp) : ℕ → Option String → List (String × StoryKind) →
    CoreResult (List (String × StoryKind))
  | _, none, below => return below
  | 0, some _, _ => throw (.invalidHierarchy "story lineage is broken")
  | fuel + 1, some nodeId, below => do
    let node ← fetch (Table.lookup StoryNode.nodeId nodeId db.storyNodes)
      (.invalidHierarchy "story lineage is broken")
    let kind ← parseStoryKind node.kind
    db.lineageLoop fuel node.parentId ((nodeId, kind) :: below)

/-- One ancestor: its active plan is the one that the proposal depends on. -/
def PlanDatabase.checkDependency [DecidableEq Fp] (db : PlanDatabase Fp)
    (proposal : PlanProposal Fp) (ancestor : String × StoryKind) : CoreResult Unit := do
  let targetRef := ancestor.2.name ++ ":" ++ ancestor.1
  let fingerprint ← fetch (db.activeFingerprint targetRef)
    (.authorityConflict ("active ancestor plan " ++ targetRef ++ " is required"))
  require (proposal.dependencyFingerprints.get? targetRef = some fingerprint)
    (.authorityConflict ("plan dependency for " ++ targetRef ++ " is missing or stale"))

def PlanDatabase.validatePlanDependencies [DecidableEq Fp] (db : PlanDatabase Fp)
    (proposal : PlanProposal Fp) : CoreResult Unit := do
  let node ← fetch
    (Table.lookup StoryNode.nodeId proposal.target.nodeId db.project.storyNodes)
    (.invalidPlan "plan target node is unavailable")
  let targetKind ← parseStoryKind node.kind
  require (targetKind = proposal.target.kind)
    (.invalidPlan "plan target kind differs from the persisted story node")
  let lineage ← db.project.lineageLoop db.project.storyNodes.length node.parentId []
  forEach (fun _ ancestor => db.checkDependency proposal ancestor) lineage ()

/-! ## Saving and activating -/

section Operations

variable [Sha256 Fp] [DecidableEq Fp]

/-- The two inserts of a new proposal. -/
def PlanDatabase.insertPlan (proposal : PlanProposal Fp) (createdAt : String)
    (db : PlanDatabase Fp) : CoreResult (PlanDatabase Fp) := do
  require (proposal.id ∉ db.plans.map (·.planId)) (uniqueFailed "plans.plan_id")
  require ((proposal.id, 1) ∉ db.planVersions.map fun row => (row.planId, row.version))
    (uniqueFailed "plan_versions.plan_id, plan_versions.version")
  return { db with
    plans := db.plans ++
      [{ planId := proposal.id, taskMode := proposal.mode, targetId := proposal.target.nodeId,
         status := .proposal, plan := proposal, contentFingerprint := proposal.fingerprint,
         createdAt, updatedAt := createdAt }]
    planVersions := db.planVersions ++
      [{ planId := proposal.id, version := 1, payload := proposal,
         contentFingerprint := proposal.fingerprint, createdAt }] }

def savePlanProposal (proposal : PlanProposal Fp) (createdAt : String) (db : PlanDatabase Fp) :
    CoreResult (Unit × PlanDatabase Fp) := do
  proposal.validateFingerprint
  requireTimestamp createdAt
  let db ← db.insertPlan proposal createdAt
  return ((), db)

/-- The plan tables after the target's plan is superseded by the next one. -/
def PlanDatabase.supersede (proposal : PlanProposal Fp) (authorization : AuthorActivation Fp)
    (activeVersion : ℕ) (db : PlanDatabase Fp) : PlanDatabase Fp :=
  let plans := Table.updateWhere (fun row =>
      row.targetId = proposal.target.nodeId ∧ row.status = .active)
    (fun row => { row with status := .superseded, updatedAt := authorization.decidedAt }) db.plans
  { db with
    plans := Table.updateWhere (fun row => row.planId = proposal.id)
      (fun row => { row with status := .active, updatedAt := authorization.decidedAt }) plans
    planActivations := Table.updateWhere (fun row =>
        row.targetRef = proposal.target.reference ∧ row.status = .active)
      (fun row => { row with status := .superseded }) db.planActivations ++
      [{ activationId := authorization.decisionId, proposalId := proposal.id,
         targetRef := proposal.target.reference, activeVersion,
         proposalFingerprint := proposal.fingerprint,
         authorizationFingerprint := authorization.fingerprint, authorization,
         status := .active, createdAt := authorization.decidedAt }] }

/-- The updates and the insert of an activation. The superseded rows leave the index of active
targets free. -/
def PlanDatabase.insertActivation (proposal : PlanProposal Fp)
    (authorization : AuthorActivation Fp) (activeVersion : ℕ) (db : PlanDatabase Fp) :
    CoreResult (PlanDatabase Fp) := do
  bindInteger activeVersion
  require (authorization.decisionId ∉ db.planActivations.map (·.activationId))
    (uniqueFailed "plan_activations.activation_id")
  require (authorization.fingerprint ∉ db.planActivations.map (·.authorizationFingerprint))
    (uniqueFailed "plan_activations.authorization_fingerprint")
  require ((proposal.target.reference, activeVersion) ∉
      db.planActivations.map fun row => (row.targetRef, row.activeVersion))
    (uniqueFailed "plan_activations.target_ref, plan_activations.active_version")
  return db.supersede proposal authorization activeVersion

def activatePlan (authorization : AuthorActivation Fp) (db : PlanDatabase Fp) :
    CoreResult (ℕ × PlanDatabase Fp) := do
  authorization.validate
  let row ← fetch (Table.lookup PlanRow.planId authorization.proposalId db.plans)
    (.authorityConflict "plan proposal is unavailable")
  row.plan.validateFingerprint
  db.validatePlanDependencies row.plan
  require (row.plan.fingerprint = authorization.proposalFingerprint)
    (.authorityConflict "authorization does not bind the persisted proposal")
  match Table.lookup PlanActivationRow.authorizationFingerprint authorization.fingerprint
      db.planActivations with
  | some prior => return (prior.activeVersion, db)
  | none =>
    let current := db.currentVersion row.plan.target.reference
    require (current = authorization.expectedActiveVersion)
      (.authorityConflict "persisted active plan version changed")
    let db ← db.insertActivation row.plan authorization (current + 1)
    return (current + 1, db)

/-- The editor view of an activated plan. -/
structure EditorView (Fp : Type) where
  title : String
  content : String
  readerIntent : Json Fp
  expectationRefs : List String

def PlanDatabase.insertEditorView (proposal : PlanProposal Fp) (view : EditorView Fp)
    (createdAt : String) (db : PlanDatabase Fp) : CoreResult (PlanDatabase Fp) := do
  require (proposal.id ∉ db.planEditorViews.map (·.proposalId))
    (uniqueFailed "plan_editor_views.proposal_id")
  return { db with
    planEditorViews := db.planEditorViews ++
      [{ proposalId := proposal.id, targetRef := proposal.target.reference, title := view.title,
         content := view.content, readerIntent := view.readerIntent,
         expectationRefs := view.expectationRefs, createdAt }] }

def saveAndActivateEditorPlan (proposal : PlanProposal Fp) (authorization : AuthorActivation Fp)
    (view : EditorView Fp) (db : PlanDatabase Fp) : CoreResult (ℕ × PlanDatabase Fp) := do
  proposal.validateFingerprint
  authorization.validate
  require (authorization.proposalId = proposal.id ∧
      authorization.proposalFingerprint = proposal.fingerprint ∧ ¬ blank view.title ∧
      view.readerIntent.isObject ∧ ∀ reference ∈ view.expectationRefs, ¬ blank reference)
    (.authorityConflict "editor plan activation binding is incomplete")
  db.validatePlanDependencies proposal
  match Table.lookup PlanActivationRow.authorizationFingerprint authorization.fingerprint
      db.planActivations with
  | some prior =>
    require (prior.proposalFingerprint = proposal.fingerprint)
      (.authorityConflict "plan activation idempotency binding changed")
    return (prior.activeVersion, db)
  | none =>
    let current := db.currentVersion proposal.target.reference
    require (current = proposal.expectedActiveVersion ∧
        current = authorization.expectedActiveVersion)
      (.authorityConflict "active plan version changed")
    let db ← db.insertPlan proposal authorization.decidedAt
    let db ← db.insertEditorView proposal view authorization.decidedAt
    let db ← db.insertActivation proposal authorization (current + 1)
    return (current + 1, db)

/-! ## The chain of a chapter -/

/-- The active plan of a target with its activation. -/
def PlanDatabase.activePlan (db : PlanDatabase Fp) (targetRef : String) :
    Option (PlanRow Fp × PlanActivationRow Fp) := do
  let activation ← db.activeActivation targetRef
  let row ← (Table.lookup PlanRow.planId activation.proposalId db.plans).filter
    fun row => row.status = .active
  return (row, activation)

/-- One level of the chain below the layers above it. -/
def PlanDatabase.chainLayer (db : PlanDatabase Fp) (graph : StoryGraph)
    (layers : List (FrozenPlanLayer Fp)) (node : GraphNode) :
    CoreResult (List (FrozenPlanLayer Fp)) := do
  let targetRef ← graph.canonicalTarget node.id
  let (row, activation) ← fetch (db.activePlan targetRef)
    (.authorityConflict ("active " ++ targetRef ++ " plan is required before chapter production"))
  row.plan.validateFingerprint
  require (row.plan.target.reference = targetRef ∧
      row.plan.fingerprint = activation.proposalFingerprint)
    (.authorityConflict "active plan identity differs from its persisted activation")
  require (∀ ancestor ∈ layers,
      row.plan.dependencyFingerprints.get? ancestor.target.reference =
        some ancestor.proposalFingerprint)
    (.authorityConflict (targetRef ++ " plan is stale or lacks an active ancestor binding"))
  let layer ← FrozenPlanLayer.fromActive row.plan activation.activeVersion
  return layers ++ [layer]

def PlanDatabase.activePlanChainForChapter (db : PlanDatabase Fp) (chapterId : String) :
    CoreResult (HierarchicalPlanLock Fp) := do
  let graph ← db.project.loadStoryGraph
  let chapter ← fetch (graph.node chapterId) (.invalidPlan "chapter target does not exist")
  require (chapter.kind = .chapter) (.invalidPlan "Writer Pack target must be a chapter")
  let above ← graph.ancestors chapterId
  require ((above ++ [chapter]).map (·.kind) = HierarchicalPlanLock.levels)
    (.invalidPlan "chapter does not have a complete book-volume-unit lineage")
  let layers ← forEach (db.chainLayer graph) (above ++ [chapter]) []
  HierarchicalPlanLock.freeze layers

end Operations

end Quillframe
