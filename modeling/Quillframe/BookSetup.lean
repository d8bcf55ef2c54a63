import Quillframe.PlanRuns
import Quillframe.Restore

/-!
# Book setups

A setup is proposed against a setup version, and approving it takes two transactions: its book
plan is activated first, then the setup becomes the head of the project.
-/
namespace Quillframe

open Json (str int fp obj)

variable {Fp : Type}

/-- `serde_json::to_string_pretty`. -/
class PrettyJson (Fp : Type) where
  toStringPretty : Json Fp → String

def requireIdempotencyKey (value : String) : CoreResult Unit :=
  require (¬ blank value ∧ value = trim value)
    (.authorityConflict "idempotency key must be non-empty and trimmed")

/-- A required argument of a request, under its name. -/
def stringArg (argument : String × String) : CoreResult Unit :=
  require (¬ blank argument.2) (.invalidProject (argument.1 ++ " must be a non-empty string"))

/-- The target of the book plan. -/
def bookTarget : String := "book:BOOK"

namespace PlanDatabase

def setupHead (db : PlanDatabase Fp) (projectId : String) : Option (BookSetupHeadRow Fp) :=
  Table.lookup BookSetupHeadRow.projectId projectId db.bookSetupHeads

def setupVersion (db : PlanDatabase Fp) (projectId : String) : ℕ :=
  ((db.setupHead projectId).map (·.version)).getD 0

def setupProposal (db : PlanDatabase Fp) (setupId : String) : Option (BookSetupProposalRow Fp) :=
  Table.lookup BookSetupProposalRow.setupId setupId db.bookSetupProposals

end PlanDatabase

/-! ## Proposing -/

structure BookSetupProposalReceipt (Fp : Type) where
  setupId : String
  expectedSetupVersion : ℕ
  expectedBookPlanVersion : ℕ
  setupFingerprint : Fp
  requestFingerprint : Fp
  replayed : Bool
  deriving DecidableEq

/-- One call of `propose_book_setup`, with the id that it generates. -/
structure SetupProposal (Fp : Type) where
  artifact : BookSetupArtifact Fp
  expectedSetupVersion : ℕ
  idempotencyKey : String
  createdAt : String
  setupId : String
  deriving DecidableEq

section Propose

variable [Sha256 Fp] [DecidableEq Fp]

def SetupProposal.requestFingerprint (p : SetupProposal Fp) : Fp :=
  Sha256.ofJson (obj [("expected_setup_version", int p.expectedSetupVersion),
    ("project_id", str p.artifact.projectId), ("setup_fingerprint", fp p.artifact.fingerprint)])

/-- The row of a new proposal, before its plan version is known. -/
def SetupProposal.row (p : SetupProposal Fp) (expectedBookPlanVersion : ℕ) :
    BookSetupProposalRow Fp where
  setupId := p.setupId
  projectId := p.artifact.projectId
  expectedSetupVersion := p.expectedSetupVersion
  expectedBookPlanVersion
  status := .proposalReady
  setup := p.artifact
  setupFingerprint := p.artifact.fingerprint
  requestFingerprint := p.requestFingerprint
  idempotencyKey := p.idempotencyKey
  createdAt := p.createdAt

omit [Sha256 Fp] in
def PlanDatabase.insertSetupProposal (row : BookSetupProposalRow Fp) (db : PlanDatabase Fp) :
    CoreResult (PlanDatabase Fp) := do
  bindInteger row.expectedSetupVersion
  bindInteger row.expectedBookPlanVersion
  require (row.setupId ∉ db.bookSetupProposals.map (·.setupId))
    (uniqueFailed "book_setup_proposals.setup_id")
  require (row.idempotencyKey ∉ db.bookSetupProposals.map (·.idempotencyKey))
    (uniqueFailed "book_setup_proposals.idempotency_key")
  require ((row.projectId, row.setupFingerprint) ∉
      db.bookSetupProposals.map fun old => (old.projectId, old.setupFingerprint))
    (uniqueFailed "book_setup_proposals.project_id, book_setup_proposals.setup_fingerprint")
  require (row.projectId = db.project.projectId) foreignKeyFailed
  return { db with bookSetupProposals := db.bookSetupProposals ++ [row] }

def proposeBookSetup (p : SetupProposal Fp) (db : PlanDatabase Fp) :
    CoreResult (BookSetupProposalReceipt Fp × PlanDatabase Fp) := do
  p.artifact.validate
  requireTimestamp p.createdAt
  requireIdempotencyKey p.idempotencyKey
  require (db.project.projectId = p.artifact.projectId)
    (.authorityConflict "book setup project binding does not match the database")
  match Table.lookup BookSetupProposalRow.idempotencyKey p.idempotencyKey
      db.bookSetupProposals with
  | some stored =>
    require (stored.requestFingerprint = p.requestFingerprint ∧
        stored.setupFingerprint = p.artifact.fingerprint)
      (.authorityConflict "book setup idempotency key binds different input")
    return ({
      setupId := stored.setupId
      expectedSetupVersion := p.expectedSetupVersion
      expectedBookPlanVersion := stored.expectedBookPlanVersion
      setupFingerprint := stored.setupFingerprint
      requestFingerprint := p.requestFingerprint
      replayed := true }, db)
  | none =>
    require (db.setupVersion p.artifact.projectId = p.expectedSetupVersion)
      (.authorityConflict "book setup version changed")
    let row := p.row (db.currentVersion bookTarget)
    let db ← db.insertSetupProposal row
    return ({
      setupId := row.setupId
      expectedSetupVersion := row.expectedSetupVersion
      expectedBookPlanVersion := row.expectedBookPlanVersion
      setupFingerprint := row.setupFingerprint
      requestFingerprint := row.requestFingerprint
      replayed := false }, db)

def PlanDatabase.loadBookSetupProposal (db : PlanDatabase Fp) (setupId : String) :
    CoreResult (BookSetupProposalRow Fp) := do
  let row ← fetch (db.setupProposal setupId) noRows
  row.setup.validate
  return row

end Propose

/-! ## Approving: the setup -/

/-- The arguments of an approval request. -/
structure SetupApproval where
  projectId : String
  setupId : String
  expectedVersion : ℕ
  authorizedBy : String
  idempotencyKey : String
  deriving DecidableEq, Repr

/-- The texts that a request must bring, under their names. -/
def SetupApproval.arguments (request : SetupApproval) : List (String × String) :=
  [("project_id", request.projectId), ("setup_id", request.setupId),
    ("authorized_by", request.authorizedBy), ("idempotency_key", request.idempotencyKey)]

structure BookSetupApprovalReceipt (Fp : Type) where
  setupId : String
  version : ℕ
  setupFingerprint : Fp
  bookPlanId : String
  bookPlanFingerprint : Fp
  approvalFingerprint : Fp
  replayed : Bool
  deriving DecidableEq

/-- The approval of a key whose setup is a head, with the head. -/
def PlanDatabase.approvalOf (db : PlanDatabase Fp) (accepts : BookSetupApprovalRow Fp → Bool) :
    Option (BookSetupApprovalRow Fp × BookSetupHeadRow Fp) := do
  let approval ← db.bookSetupApprovals.find? accepts
  let head ← Table.lookup BookSetupHeadRow.setupId approval.setupId db.bookSetupHeads
  return (approval, head)

def replayedReceipt (approval : BookSetupApprovalRow Fp) (head : BookSetupHeadRow Fp) :
    BookSetupApprovalReceipt Fp where
  setupId := approval.setupId
  version := head.version
  setupFingerprint := head.setupFingerprint
  bookPlanId := approval.bookPlanId
  bookPlanFingerprint := approval.bookPlanFingerprint
  approvalFingerprint := approval.approvalFingerprint
  replayed := true

/-- The titles of the first volume, unit and chapter. -/
def Database.setFirstTitles (seed : BookStructureSeed) (db : Database Fp) : Database Fp :=
  let retitle (nodeId title : String) :=
    Table.updateWhere (fun node : StoryNode => node.nodeId = nodeId) fun node => { node with title }
  { db with
    storyNodes := retitle "CH001" seed.firstChapterTitle (retitle "UNIT001" seed.firstUnitTitle
      (retitle "VOL001" seed.firstVolumeTitle db.storyNodes))
    documents := Table.updateWhere (fun document => document.documentId = "DOC-CH001")
      (fun document => { document with title := seed.firstChapterTitle }) db.documents
    searchIndex := Table.updateWhere
      (fun row => row.entityType = "document" ∧ row.entityId = "DOC-CH001")
      (fun row => { row with title := seed.firstChapterTitle }) db.searchIndex }

section Approve

variable [Sha256 Fp] [DecidableEq Fp]

/-- One call of `approve_book_setup` after the plan it binds, with the id that it generates. -/
structure SetupDecision (Fp : Type) where
  request : SetupApproval
  bookPlanId : String
  bookPlanFingerprint : Fp
  createdAt : String
  approvalId : String
  deriving DecidableEq

namespace SetupDecision

omit [Sha256 Fp] [DecidableEq Fp] in
def approvalJson (d : SetupDecision Fp) (row : BookSetupProposalRow Fp) : Json Fp :=
  obj [("authorized_by", str d.request.authorizedBy),
    ("book_plan_fingerprint", fp d.bookPlanFingerprint), ("book_plan_id", str d.bookPlanId),
    ("created_at", str d.createdAt),
    ("expected_setup_version", int d.request.expectedVersion),
    ("idempotency_key", str d.request.idempotencyKey), ("project_id", str row.projectId),
    ("schema", str "quillframe_book_setup_approval_v1"),
    ("setup_fingerprint", fp row.setupFingerprint), ("setup_id", str d.request.setupId)]

omit [DecidableEq Fp] in
def approval (d : SetupDecision Fp) (row : BookSetupProposalRow Fp) :
    BookSetupApprovalRow Fp where
  approvalId := d.approvalId
  setupId := d.request.setupId
  projectId := row.projectId
  expectedSetupVersion := d.request.expectedVersion
  bookPlanId := d.bookPlanId
  bookPlanFingerprint := d.bookPlanFingerprint
  authorizedBy := d.request.authorizedBy
  approval := d.approvalJson row
  approvalFingerprint := Sha256.ofJson (d.approvalJson row)
  idempotencyKey := d.request.idempotencyKey
  createdAt := d.createdAt

omit [DecidableEq Fp] in
def head (d : SetupDecision Fp) (row : BookSetupProposalRow Fp) : BookSetupHeadRow Fp where
  projectId := row.projectId
  setupId := d.request.setupId
  version := d.request.expectedVersion + 1
  setupFingerprint := row.setupFingerprint
  bookPlanId := d.bookPlanId
  bookPlanFingerprint := d.bookPlanFingerprint
  approvalFingerprint := Sha256.ofJson (d.approvalJson row)
  updatedAt := d.createdAt

omit [DecidableEq Fp] in
def receipt (d : SetupDecision Fp) (row : BookSetupProposalRow Fp) :
    BookSetupApprovalReceipt Fp where
  setupId := d.request.setupId
  version := d.request.expectedVersion + 1
  setupFingerprint := row.setupFingerprint
  bookPlanId := d.bookPlanId
  bookPlanFingerprint := d.bookPlanFingerprint
  approvalFingerprint := Sha256.ofJson (d.approvalJson row)
  replayed := false

/-- The tables after the approval of a proposal. -/
def tables (d : SetupDecision Fp) (row : BookSetupProposalRow Fp) (db : PlanDatabase Fp) :
    PlanDatabase Fp :=
  let superseded := Table.updateWhere
    (fun old => old.projectId = row.projectId ∧ old.status = .approved)
    (fun old => { old with status := .superseded }) db.bookSetupProposals
  { db with
    bookSetupProposals := Table.updateWhere (fun old => old.setupId = d.request.setupId)
      (fun old => { old with status := .approved }) superseded
    bookSetupApprovals := db.bookSetupApprovals ++ [d.approval row]
    bookSetupHeads := Table.upsert BookSetupHeadRow.projectId (d.head row)
      (fun old => { d.head row with projectId := old.projectId }) db.bookSetupHeads
    project := db.project.setFirstTitles row.setup.seed }

/-- The constraints of the approvals and of the heads. -/
def insert (d : SetupDecision Fp) (row : BookSetupProposalRow Fp) (db : PlanDatabase Fp) :
    CoreResult (PlanDatabase Fp) := do
  require (d.request.expectedVersion + 1 < 2 ^ 64)
    (.authorityConflict "book setup version overflowed")
  require (d.approvalId ∉ db.bookSetupApprovals.map (·.approvalId))
    (uniqueFailed "book_setup_approvals.approval_id")
  require (d.request.setupId ∉ db.bookSetupApprovals.map (·.setupId))
    (uniqueFailed "book_setup_approvals.setup_id")
  require ((d.approval row).approvalFingerprint ∉
      db.bookSetupApprovals.map (·.approvalFingerprint))
    (uniqueFailed "book_setup_approvals.approval_fingerprint")
  require (d.request.idempotencyKey ∉ db.bookSetupApprovals.map (·.idempotencyKey))
    (uniqueFailed "book_setup_approvals.idempotency_key")
  require (row.projectId = db.project.projectId ∧ d.bookPlanId ∈ db.plans.map (·.planId))
    foreignKeyFailed
  bindInteger (d.request.expectedVersion + 1)
  require (∀ old ∈ db.bookSetupHeads, old.projectId ≠ row.projectId →
      old.setupId ≠ d.request.setupId)
    (uniqueFailed "book_setup_heads.setup_id")
  let db := d.tables row db
  db.project.validateNovelTopology
  return db

end SetupDecision

def approveBookSetup (d : SetupDecision Fp) (db : PlanDatabase Fp) :
    CoreResult (BookSetupApprovalReceipt Fp × PlanDatabase Fp) := do
  requireTimestamp d.createdAt
  requireIdempotencyKey d.request.idempotencyKey
  require (¬ blank d.request.authorizedBy ∧ d.request.authorizedBy = trim d.request.authorizedBy)
    (.authorityConflict "book setup approver must be non-empty and trimmed")
  match db.approvalOf fun row => row.idempotencyKey = d.request.idempotencyKey with
  | some (stored, head) =>
    require (stored.setupId = d.request.setupId ∧ stored.bookPlanId = d.bookPlanId ∧
        stored.bookPlanFingerprint = d.bookPlanFingerprint ∧
        stored.authorizedBy = d.request.authorizedBy ∧
        head.version = d.request.expectedVersion + 1)
      (.authorityConflict "book setup approval idempotency key binds different input")
    return (replayedReceipt stored head, db)
  | none =>
    let row ← fetch (db.setupProposal d.request.setupId) noRows
    require (row.expectedSetupVersion = d.request.expectedVersion ∧ row.status = .proposalReady)
      (.authorityConflict "book setup proposal is stale or no longer approvable")
    require (db.setupVersion row.projectId = d.request.expectedVersion)
      (.authorityConflict "book setup head changed before approval")
    let active ← fetch (db.activeActivation bookTarget) noRows
    require (active.proposalId = d.bookPlanId ∧
        active.proposalFingerprint = d.bookPlanFingerprint)
      (.authorityConflict "book setup approval must bind the current active book plan")
    row.setup.validate
    let db ← d.insert row db
    return (d.receipt row, db)

/-- The head with the approved proposal and the active book plan it was bound to. -/
def PlanDatabase.requireBookSetupReady (db : PlanDatabase Fp) (projectId : String) :
    CoreResult Unit := do
  let notReady : CoreError := .authorityConflict
    "book setup is not author-approved and bound to the active book plan"
  let head ← fetch (db.setupHead projectId) notReady
  let proposal ← fetch
    ((db.setupProposal head.setupId).filter fun row => row.status = .approved) notReady
  let active ← fetch (db.activeActivation bookTarget) notReady
  require (head.setupFingerprint = proposal.setupFingerprint ∧
      head.bookPlanId = active.proposalId ∧
      head.bookPlanFingerprint = active.proposalFingerprint)
    notReady

end Approve

/-! ## Approving: the plan -/

section Start

variable [Sha256 Fp] [DecidableEq Fp] [PrettyJson Fp]

/-- What an approval request has before its second transaction. -/
inductive ApprovalStart (Fp : Type) where
  | replayed (receipt : BookSetupApprovalReceipt Fp)
  | planned (bookPlanId : String) (bookPlanFingerprint : Fp)
  deriving DecidableEq

def bookPlanContent (Fp : Type) [PrettyJson Fp] (plan : BookPlan) : String :=
  PrettyJson.toStringPretty (plan.toJson : Json Fp)

def setupPlanKey (idempotencyKey : String) : String := "book-setup-plan:" ++ idempotencyKey

/-- The ids that a plan activation generates. -/
structure SetupPlanIds where
  planId : String
  decisionId : String
  deriving DecidableEq, Repr

def setupPlanInput (plan : BookPlan) (expectedBookPlanVersion : ℕ) : PlanProposalInput Fp where
  mode := .designBook
  nodeId := "BOOK"
  expectedActiveVersion := expectedBookPlanVersion
  body := .book plan
  assumptions := []
  openQuestions := []
  dependencyFingerprints := .empty

def setupPlanView (plan : BookPlan) : EditorView Fp where
  title := "Book Setup / 全书基础"
  content := bookPlanContent Fp plan
  readerIntent := obj [("core_emotion", str plan.foundation.coreEmotion),
    ("reader_promise", str plan.readerPromise),
    ("target_readers", str plan.foundation.targetReaders)]
  expectationRefs := []

def activateBookSetupPlan (row : BookSetupProposalRow Fp) (request : SetupApproval)
    (ids : SetupPlanIds) (db : PlanDatabase Fp) :
    CoreResult (ApprovalStart Fp × PlanDatabase Fp) := do
  let graph ← db.project.loadStoryGraph
  let proposal ← PlanProposal.create graph
    (setupPlanInput row.setup.bookPlan row.expectedBookPlanVersion) ids.planId
  let authorization ← AuthorActivation.authorize proposal request.authorizedBy row.createdAt
    (setupPlanKey request.idempotencyKey) ids.decisionId
  let (_, db) ← saveAndActivateEditorPlan proposal authorization
    (setupPlanView row.setup.bookPlan) db
  return (.planned proposal.id proposal.fingerprint, db)

/-- The active book plan with its activation and its editor view. -/
def PlanDatabase.activeBookPlan (db : PlanDatabase Fp) :
    Option (PlanActivationRow Fp × PlanRow Fp × PlanEditorViewRow Fp) := do
  let activation ← db.activeActivation bookTarget
  let plan ← Table.lookup PlanRow.planId activation.proposalId db.plans
  let view ← Table.lookup PlanEditorViewRow.proposalId activation.proposalId db.planEditorViews
  return (activation, plan, view)

/-- The active plan is the one that an interrupted approval of the setup left. -/
def interruptedPlan (row : BookSetupProposalRow Fp) (request : SetupApproval)
    (activation : PlanActivationRow Fp) (plan : PlanRow Fp) (view : PlanEditorViewRow Fp) :
    CoreResult (ApprovalStart Fp) := do
  plan.plan.validateFingerprint
  activation.authorization.validate
  require (plan.plan.body = .book row.setup.bookPlan ∧ plan.plan.id = activation.proposalId ∧
      plan.plan.fingerprint = activation.proposalFingerprint ∧
      activation.authorization.proposalId = plan.plan.id ∧
      activation.authorization.authorizedBy = request.authorizedBy ∧
      activation.authorization.decidedAt = row.createdAt ∧
      activation.authorization.idempotencyKey = setupPlanKey request.idempotencyKey ∧
      view.content = bookPlanContent Fp row.setup.bookPlan)
    (.authorityConflict "active book plan is not the interrupted setup approval")
  return .planned activation.proposalId activation.proposalFingerprint

/-- The plan of an approvable proposal: resumed, or activated now. -/
def startSetupPlan (row : BookSetupProposalRow Fp) (request : SetupApproval)
    (ids : SetupPlanIds) (db : PlanDatabase Fp) :
    CoreResult (ApprovalStart Fp × PlanDatabase Fp) :=
  match db.activeBookPlan with
  | some (activation, plan, view) =>
    if activation.activeVersion = row.expectedBookPlanVersion + 1 then do
      let start ← interruptedPlan row request activation plan view
      return (start, db)
    else if activation.activeVersion = row.expectedBookPlanVersion then
      activateBookSetupPlan row request ids db
    else
      throw (.authorityConflict "active book plan version changed before setup approval")
  | none =>
    if row.expectedBookPlanVersion = 0 then
      activateBookSetupPlan row request ids db
    else
      throw (.authorityConflict "expected active book plan is missing before setup approval")

/-- The bridge's `book_setup_approve` up to the end of its first transaction. -/
def startBookSetupApproval (request : SetupApproval) (ids : SetupPlanIds)
    (db : PlanDatabase Fp) : CoreResult (ApprovalStart Fp × PlanDatabase Fp) := do
  forEach (fun _ argument => stringArg argument) request.arguments ()
  let row ← db.loadBookSetupProposal request.setupId
  require (row.setup.projectId = request.projectId ∧
      row.expectedSetupVersion = request.expectedVersion ∧
      (row.status = .proposalReady ∨ row.status = .approved))
    (.authorityConflict "book setup proposal is stale, foreign or no longer approvable")
  if row.status = .approved then
    let (approval, head) ← fetch
      (db.approvalOf fun stored =>
        stored.setupId = request.setupId ∧ stored.idempotencyKey = request.idempotencyKey)
      (.authorityConflict "approved book setup is bound to a different approval request")
    require (head.version = request.expectedVersion + 1 ∧
        approval.authorizedBy = request.authorizedBy)
      (.authorityConflict "book setup approval idempotency key binds different input")
    return (.replayed (replayedReceipt approval head), db)
  else
    require (∀ owner, Table.lookup BookSetupApprovalRow.idempotencyKey request.idempotencyKey
        db.bookSetupApprovals = some owner → owner.setupId = request.setupId)
      (.authorityConflict "book setup approval idempotency key already binds another setup")
    startSetupPlan row request ids db

end Start

/-! ## A sample setup -/

namespace Json

/-- A line break with the indentation of a nesting depth. -/
def lineBreak (depth : ℕ) : String := "\n" ++ String.ofList (List.replicate (2 * depth) ' ')

mutual

/-- The pretty text of a value without escapes, at a nesting depth. -/
def pretty (depth : ℕ) : Json Digest → String
  | .arr [] => "[]"
  | .arr (first :: rest) =>
    "[" ++ lineBreak (depth + 1) ++ pretty (depth + 1) first ++ prettyItems (depth + 1) rest ++
      lineBreak depth ++ "]"
  | .obj [] => "\x7b\x7d"
  | .obj ((key, first) :: rest) =>
    "\x7b" ++ lineBreak (depth + 1) ++ "\"" ++ key ++ "\": " ++ pretty (depth + 1) first ++
      prettyMembers (depth + 1) rest ++ lineBreak depth ++ "\x7d"
  | leaf => spell leaf

def prettyItems (depth : ℕ) : List (Json Digest) → String
  | [] => ""
  | item :: rest => "," ++ lineBreak depth ++ pretty depth item ++ prettyItems depth rest

def prettyMembers (depth : ℕ) : List (String × Json Digest) → String
  | [] => ""
  | (key, item) :: rest =>
    "," ++ lineBreak depth ++ "\"" ++ key ++ "\": " ++ pretty depth item ++
      prettyMembers depth rest

end

end Json

instance : PrettyJson Digest where
  toStringPretty := Json.pretty 0

namespace Sample

def bookPlan : BookPlan where
  foundation := ⟨"r", "g", "e", "p", "c", "s", "end", [], []⟩
  characterArcs := [⟨"lin", "Lin", "lead", "w", "n", "p", "a", "i", "c", []⟩]
  relationshipArcs := []
  readerPromise := "r"
  protagonistAgency := "a"
  centralConflict := "c"
  progression := []
  endgameReserve := []
  fixedEndingOutcomes := ["out"]
  antiExhaustionLimits := []

/-- A setup that binds one source text. -/
def setup (source : String) : BookSetupArtifact Digest :=
  let artifact : BookSetupArtifact Digest :=
    { schema := bookSetupSchema, projectId := "novel", bookId := "BOOK", bookPlan,
      characterBibles := [⟨"lin", "Lin", "lead", "w", "n", "f", "b", ["v"], "m", "s", "l", "d",
        ⟨"b", "i", "a", "p", ["x"]⟩, ["k"], ["n"]⟩]
      relationshipBibles := [], worldSeeds := [⟨"w", "t", "r", "p", []⟩],
      seed := ⟨"V", "U", "C", 1, none, none⟩,
      sourceEvidenceRefs := [⟨"s", "note", source, "1", .tag 0, "premise"⟩], fingerprint := .tag 0 }
  { artifact with fingerprint := artifact.setupFingerprint }

def proposal (source key setupId : String) : SetupProposal Digest where
  artifact := setup source
  expectedSetupVersion := 0
  idempotencyKey := key
  createdAt := "t1"
  setupId := setupId

def approval (authorizedBy : String) : SetupApproval :=
  ⟨"novel", "S1", 0, authorizedBy, "k1"⟩

/-- A decision that binds the active book plan. -/
def decision (request : SetupApproval) (db : PlanDatabase Digest) : SetupDecision Digest where
  request := request
  bookPlanId := ((db.activeActivation bookTarget).map (·.proposalId)).getD ""
  bookPlanFingerprint := (db.activeFingerprint bookTarget).getD (.tag 0)
  createdAt := "t2"
  approvalId := "A1"

end Sample

end Quillframe
