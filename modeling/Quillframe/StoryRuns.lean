import Quillframe.Graph

/-!
# Runs of creation calls

Chapters, containers, other documents and book setups, created in any order from a new project.
The topology and the graph that is read from it stay valid, and creations under a used key are
answered from their receipt.
-/
namespace Quillframe

open Database

variable {Fp : Type}

/-! ## New projects -/

structure ProjectManifest where
  schema : String
  id : String
  title : String
  language : String
  deriving DecidableEq, Repr

def validProjectId (value : String) : Bool :=
  value.utf8ByteSize ≤ 64 && match value.toList with
    | [] => false
    | first :: rest => first.isAlphanum &&
      rest.all fun c => c.isAlphanum || c = '.' || c = '_' || c = '-'

def ProjectManifest.validate (manifest : ProjectManifest) : CoreResult Unit := do
  require (manifest.schema = "quillframe_project_v1_0")
    (.invalidProject "schema must be exactly quillframe_project_v1_0")
  require (validProjectId manifest.id) (.invalidProject "project id is not canonical")
  require (¬ blank manifest.title ∧ manifest.title = trim manifest.title)
    (.invalidProject "title must be non-empty and trimmed")
  require (¬ blank manifest.language ∧ manifest.language = trim manifest.language)
    (.invalidProject "language must be non-empty and trimmed")

/-- `create_reserved` with the checks of its arguments. -/
def createProject [Sha256 Fp] (manifest : ProjectManifest) (createdAt : String) :
    CoreResult (Database Fp) := do
  manifest.validate
  requireTimestamp createdAt
  createReserved manifest.id manifest.title createdAt

/-- A project with its plans and the receipts of its chapters. -/
structure StoryProject (Fp : Type) where
  chapters : List (ChapterReceiptRow Fp)
  plans : PlanDatabase Fp

namespace StoryProject

def project (s : StoryProject Fp) : Database Fp := s.plans.project

def withProject (s : StoryProject Fp) (project : Database Fp) : StoryProject Fp :=
  { s with plans := { s.plans with project } }

/-- A project before its first creation. -/
def new (project : Database Fp) : StoryProject Fp := ⟨[], .unplanned project⟩

@[simp] theorem project_new (project : Database Fp) : (new project).project = project := rfl

@[simp] theorem chapters_new (project : Database Fp) : (new project).chapters = [] := rfl

@[simp] theorem project_withProject (s : StoryProject Fp) (project : Database Fp) :
    (s.withProject project).project = project := rfl

@[simp] theorem chapters_withProject (s : StoryProject Fp) (project : Database Fp) :
    (s.withProject project).chapters = s.chapters := rfl

end StoryProject

/-! ## Creations -/

section Creations

variable [Sha256 Fp] [DecidableEq Fp]

structure ChapterRequest where
  projectId : String
  unitId : Option String
  title : String
  idempotencyKey : String
  createdAt : String
  deriving DecidableEq, Repr

structure ContainerRequest where
  projectId : String
  kind : StoryKind
  parentId : Option String
  title : String
  idempotencyKey : String
  createdAt : String
  uuid : String
  deriving DecidableEq, Repr

namespace StoryProject

def createChapter (request : ChapterRequest) (s : StoryProject Fp) :
    CoreResult (ChapterCreationReceipt Fp × StoryProject Fp) := do
  let (receipt, chapters, project) ← Quillframe.createChapter request.projectId request.unitId
    request.title request.idempotencyKey request.createdAt (s.chapters, s.project)
  return (receipt, { s.withProject project with chapters })

def createContainer (request : ContainerRequest) (s : StoryProject Fp) :
    CoreResult (StoryNodeCreationReceipt Fp × StoryProject Fp) := do
  let (receipt, project) ← createStoryContainer request.projectId request.kind request.parentId
    request.title request.idempotencyKey request.createdAt request.uuid s.project
  return (receipt, s.withProject project)

end StoryProject

/-- One call with its arguments. -/
inductive StoryCall (Fp : Type) where
  | chapter (request : ChapterRequest)
  | container (request : ContainerRequest)
  | document (projectId documentId title : String) (kind : DocumentKind)
      (storyNodeId : Option String) (createdAt : String)
  | setup (call : SetupCall Fp)

variable [PrettyJson Fp]

def StoryCall.exec (s : StoryProject Fp) : StoryCall Fp → CoreResult (StoryProject Fp)
  | chapter request => Prod.snd <$> s.createChapter request
  | container request => Prod.snd <$> s.createContainer request
  | document projectId documentId title kind storyNodeId createdAt => do
    let project ← documentCreate projectId documentId title kind storyNodeId createdAt s.project
    return s.withProject project
  | setup call => do
    let plans ← call.exec s.plans
    return { s with plans }

/-- The project after a call; a failed one is rolled back. -/
def StoryCall.apply (s : StoryProject Fp) (call : StoryCall Fp) : StoryProject Fp :=
  match call.exec s with
  | .ok next => next
  | .error _ => s

def StoryProject.run (s : StoryProject Fp) (calls : List (StoryCall Fp)) : StoryProject Fp :=
  calls.foldl StoryCall.apply s

end Creations

/-! ## What a creation writes -/

section Inversion

variable [Sha256 Fp] [DecidableEq Fp]

/-- The node, the manuscript and the index entry of a chapter. -/
def Database.withChapter (row : ChapterReceiptRow Fp) (db : Database Fp) : Database Fp :=
  { db with
    storyNodes := db.storyNodes ++ [⟨row.chapterId, some row.unitId, .chapter, row.ordinal,
      row.title⟩]
    documents := db.documents ++ [⟨row.documentId, some row.chapterId, .manuscript, row.title,
      row.createdAt⟩]
    searchIndex := db.searchIndex ++ [⟨"document", row.documentId, row.title, ""⟩] }

/-- The texts of a chapter request are non-empty and trimmed, and it names the project. -/
structure ChapterRequest.Valid (request : ChapterRequest) (db : Database Fp) : Prop where
  createdAt : requireTimestamp request.createdAt = .ok ()
  title : ¬ blank request.title ∧ request.title = trim request.title
  key : ¬ blank request.idempotencyKey ∧ request.idempotencyKey = trim request.idempotencyKey
  project : db.projectId = request.projectId

/-- The receipt that a new chapter gets. -/
def ChapterRequest.row (request : ChapterRequest) (unitId : String) (number ordinal : ℕ) :
    ChapterReceiptRow Fp where
  idempotencyKey := request.idempotencyKey
  projectId := request.projectId
  unitId
  chapterId := paddedId "CH" number
  documentId := "DOC-" ++ paddedId "CH" number
  ordinal
  title := request.title
  requestFingerprint := chapterRequestFingerprint request.projectId unitId request.title
  createdAt := request.createdAt

/-- The constraints that a new chapter meets. -/
structure StoryProject.Admits (s : StoryProject Fp) (row : ChapterReceiptRow Fp) : Prop where
  nodeId : row.chapterId ∉ s.project.storyNodes.map (·.nodeId)
  position : (some row.unitId, .chapter, (row.ordinal : ℤ)) ∉
    s.project.storyNodes.map fun other => (other.parentId, other.kind, other.ordinal)
  parent : row.unitId ∈ s.project.storyNodes.map (·.nodeId)
  documentId : row.documentId ∉ s.project.documents.map (·.documentId)
  manuscript : some row.chapterId ∉ s.project.documents.map manuscriptNode
  chapterIds : row.chapterId ∉ s.chapters.map (·.chapterId)
  documentIds : row.documentId ∉ s.chapters.map (·.documentId)
  ordinals : (row.unitId, row.ordinal) ∉ s.chapters.map fun other => (other.unitId, other.ordinal)
  ordinal : 1 ≤ row.ordinal
  topology : (s.project.withChapter row).validateNovelTopology = .ok ()

variable {s s' : StoryProject Fp} {request : ChapterRequest}
  {receipt : ChapterCreationReceipt Fp}

/-- A request that fails its checks creates nothing. -/
theorem StoryProject.createChapter_valid (h : s.createChapter request = .ok (receipt, s')) :
    request.Valid s.project := by
  simp only [createChapter, Quillframe.createChapter, bind_eq_ok, require_eq_ok, exists_const,
    Prod.exists] at h
  obtain ⟨_, _, _, ⟨⟨⟩, hcreated, htitle, hkey, hproject, -⟩, -⟩ := h
  exact ⟨hcreated, htitle, hkey, hproject⟩

/-- A request under the key of a chapter is answered from its receipt, or refused. -/
theorem StoryProject.createChapter_replay (hvalid : request.Valid s.project)
    {stored : ChapterReceiptRow Fp}
    (hstored : Table.lookup ChapterReceiptRow.idempotencyKey request.idempotencyKey s.chapters =
      some stored) :
    s.createChapter request = .ok (receipt, s') ↔
      (stored.title = request.title ∧ (∀ unitId ∈ request.unitId, unitId = stored.unitId) ∧
        stored.requestFingerprint =
          chapterRequestFingerprint request.projectId stored.unitId request.title) ∧
      receipt = stored.receipt true ∧ s' = s := by
  simp only [createChapter, Quillframe.createChapter, hstored, bind_eq_ok, require_eq_ok,
    exists_const, pure_eq_ok, Prod.exists, Prod.mk.injEq]
  constructor
  · rintro ⟨_, _, _, ⟨_, -, -, -, -, hmatch, rfl, rfl, rfl⟩, rfl, rfl⟩
    exact ⟨hmatch, rfl, rfl⟩
  · rintro ⟨hmatch, rfl, rfl⟩
    exact ⟨_, _, _, ⟨(), hvalid.createdAt, hvalid.title, hvalid.key, hvalid.project, hmatch, rfl,
      rfl, rfl⟩, rfl, rfl⟩

/-- A request under a new key creates the next chapter of its unit. -/
theorem StoryProject.createChapter_new (hvalid : request.Valid s.project)
    (hnew : Table.lookup ChapterReceiptRow.idempotencyKey request.idempotencyKey s.chapters =
      none) :
    s.createChapter request = .ok (receipt, s') ↔ ∃ (unitId : String) (number ordinal : ℕ),
      s.project.chapterUnit request.unitId = .ok unitId ∧
      ((number : ℤ) = nextAfter (s.project.numbers .chapter) ∧
        nextAfter (s.project.numbers .chapter) < 2 ^ 32) ∧
      ((ordinal : ℤ) = nextAfter (s.project.ordinalsUnder .chapter unitId) ∧
        nextAfter (s.project.ordinalsUnder .chapter unitId) < 2 ^ 32) ∧
      s.Admits (request.row unitId number ordinal) ∧
      receipt = (request.row unitId number ordinal).receipt false ∧
      s' = { s.withProject (s.project.withChapter (request.row unitId number ordinal)) with
        chapters := s.chapters ++ [request.row unitId number ordinal] } := by
  simp only [createChapter, Quillframe.createChapter, hnew, bind_eq_ok, require_eq_ok,
    exists_const, pure_eq_ok, Prod.exists, Prod.mk.injEq, nextNodeNumber, nextOrdinal,
    readU32_eq_ok, insertStoryNode, insertDocument, insertChapterReceipt]
  constructor
  · rintro ⟨_, _, _, ⟨_, -, -, -, -, unitId, hunit, number, hnumber, ordinal, hordinal, _,
      ⟨hnode, hposition, hparent, rfl⟩, _, ⟨hdocument, hmanuscript, -, rfl⟩, _, ⟨hchapterIds,
      hdocumentIds, hordinals, hpositive, rfl⟩, _, htopology, rfl, rfl, rfl⟩, rfl, rfl⟩
    refine ⟨unitId, number, ordinal, hunit, hnumber, hordinal, ⟨hnode, ?_, ?_, hdocument, ?_,
      hchapterIds, hdocumentIds, hordinals, hpositive, htopology⟩, rfl, rfl⟩
    · exact hposition.resolve_left (by simp)
    · exact hparent unitId rfl
    · exact hmanuscript (paddedId "CH" number) rfl
  · rintro ⟨unitId, number, ordinal, hunit, hnumber, hordinal, hadmits, rfl, rfl⟩
    refine ⟨_, _, _, ⟨(), hvalid.createdAt, hvalid.title, hvalid.key, hvalid.project, unitId,
      hunit, number, hnumber, ordinal, hordinal, _, ⟨hadmits.nodeId, .inr hadmits.position, ?_,
      rfl⟩, _, ⟨hadmits.documentId, ?_, ?_, rfl⟩, _, ⟨hadmits.chapterIds, hadmits.documentIds,
      hadmits.ordinals, hadmits.ordinal, rfl⟩, (), hadmits.topology, rfl, rfl, rfl⟩, rfl, rfl⟩
    · rintro _ ⟨⟩
      exact hadmits.parent
    · simp only [manuscriptNode, if_true, Option.mem_def, Option.some.injEq]
      rintro _ rfl
      exact hadmits.manuscript
    · simp

/-! ### Containers -/

/-- The texts of a container request are non-empty and trimmed, its kind is a volume or a unit,
and it names the project. -/
structure ContainerRequest.Valid (request : ContainerRequest) (db : Database Fp) : Prop where
  createdAt : requireTimestamp request.createdAt = .ok ()
  kind : request.kind = .volume ∨ request.kind = .unit
  title : ¬ blank request.title ∧ request.title = trim request.title
  key : requireIdempotencyKey request.idempotencyKey = .ok ()
  project : db.projectId = request.projectId

namespace ContainerRequest

/-- What the kind of a valid request is created as. -/
def container (request : ContainerRequest) : ContainerKind :=
  ⟨request.kind, request.kind.expectedParent.getD .book, request.kind.stem⟩

def node (request : ContainerRequest) (parentId : String) (number ordinal : ℕ) : StoryNode :=
  ⟨paddedId request.kind.stem number, some parentId, request.kind, ordinal, request.title⟩

def fingerprint (request : ContainerRequest) (parentId : String) : Fp :=
  storyContainerRequestFingerprint request.projectId request.kind.name parentId request.title

def payload (request : ContainerRequest) (parentId : String) (number ordinal : ℕ) : Json Fp :=
  .obj [("kind", .str request.kind.name),
    ("node_id", .str (paddedId request.kind.stem number)), ("ordinal", .int ordinal),
    ("parent_id", .str parentId), ("project_id", .str request.projectId),
    ("request_fingerprint", .fp (request.fingerprint parentId)),
    ("schema", .str "quillframe_story_container_create_receipt_v1"),
    ("title", .str request.title)]

/-- The receipt that a new container gets. -/
def row (request : ContainerRequest) (parentId : String) (number ordinal : ℕ) :
    ReceiptRow Fp where
  receiptId := "receipt-" ++ request.uuid
  receiptKind := "story_container_created"
  idempotencyKey := some request.idempotencyKey
  payload := .other (request.payload parentId number ordinal)
  createdAt := request.createdAt

def answer (request : ContainerRequest) (parentId : String) (number ordinal : ℕ)
    (replayed : Bool) : StoryNodeCreationReceipt Fp where
  nodeId := paddedId request.kind.stem number
  parentId
  kind := request.kind
  ordinal
  title := request.title
  requestFingerprint := request.fingerprint parentId
  replayed

end ContainerRequest

def Database.withContainer (node : StoryNode) (receipt : ReceiptRow Fp) (db : Database Fp) :
    Database Fp :=
  { db with storyNodes := db.storyNodes ++ [node], receipts := db.receipts ++ [receipt] }

omit [Sha256 Fp] [DecidableEq Fp] in
/-- The constraints that a new container meets. -/
structure Database.Admits (db : Database Fp) (node : StoryNode) (parentId : String)
    (receipt : ReceiptRow Fp) : Prop where
  nodeId : node.nodeId ∉ db.storyNodes.map (·.nodeId)
  position : (some parentId, node.kind, node.ordinal) ∉
    db.storyNodes.map fun other => (other.parentId, other.kind, other.ordinal)
  parent : parentId ∈ db.storyNodes.map (·.nodeId)
  receiptId : receipt.receiptId ∉ db.receipts.map (·.receiptId)
  topology : (db.withContainer node receipt).validateNovelTopology = .ok ()

section Containers

variable {create : ContainerRequest} {answer : StoryNodeCreationReceipt Fp}

omit [Sha256 Fp] [DecidableEq Fp] in
theorem containerKind_eq_ok {kind : StoryKind} {container : ContainerKind} :
    containerKind kind = .ok container ↔ (kind = .volume ∨ kind = .unit) ∧
      container = ⟨kind, kind.expectedParent.getD .book, kind.stem⟩ := by
  cases kind <;> simp [containerKind, StoryKind.expectedParent, StoryKind.stem, eq_comm]

theorem StoryProject.createContainer_valid (h : s.createContainer create = .ok (answer, s')) :
    create.Valid s.project := by
  simp only [createContainer, createStoryContainer, bind_eq_ok, require_eq_ok, exists_const,
    Prod.exists, containerKind_eq_ok] at h
  obtain ⟨_, _, ⟨⟨⟩, hcreated, container, ⟨hkind, rfl⟩, htitle, ⟨⟩, hkey, hproject, -⟩, -⟩ := h
  exact ⟨hcreated, hkind, htitle, hkey, hproject⟩

/-- A request under a new key creates the next container of its parent. -/
theorem StoryProject.createContainer_new (hvalid : create.Valid s.project)
    (hnew : s.project.receipt? create.idempotencyKey = none) :
    s.createContainer create = .ok (answer, s') ↔
      ∃ (parentId : String) (number ordinal : ℕ),
        s.project.containerParent create.container create.parentId = .ok parentId ∧
        ((number : ℤ) = nextAfter (s.project.numbers create.kind) ∧
          nextAfter (s.project.numbers create.kind) < 2 ^ 32) ∧
        ((ordinal : ℤ) = nextAfter (s.project.ordinalsUnder create.kind parentId) ∧
          nextAfter (s.project.ordinalsUnder create.kind parentId) < 2 ^ 32) ∧
        s.project.Admits (create.node parentId number ordinal) parentId
          (create.row parentId number ordinal) ∧
        answer = create.answer parentId number ordinal false ∧
        s' = s.withProject (s.project.withContainer (create.node parentId number ordinal)
          (create.row parentId number ordinal)) := by
  have hkey : some create.idempotencyKey ∉ s.project.receipts.map (·.idempotencyKey) := by
    intro hmem
    obtain ⟨row, hrow, hsame⟩ := List.mem_map.mp hmem
    exact Table.lookup_eq_none.mp hnew row hrow hsame
  simp only [createContainer, createStoryContainer, hnew, bind_eq_ok, require_eq_ok, exists_const,
    pure_eq_ok, Prod.exists, Prod.mk.injEq, nextNodeNumber, nextOrdinal, readU32_eq_ok,
    insertStoryNode, insertReceipt, containerKind_eq_ok]
  constructor
  · rintro ⟨_, _, ⟨_, -, container, ⟨hkind, rfl⟩, -, _, -, -, parentId, hparent, number, hnumber,
      ordinal, hordinal, _, ⟨hnode, hposition, hknown, rfl⟩, _, ⟨hreceipt, -, rfl⟩, _, htopology,
      rfl, rfl⟩, rfl, rfl⟩
    refine ⟨parentId, number, ordinal, hparent, hnumber, hordinal, ⟨hnode, ?_, ?_, hreceipt,
      htopology⟩, rfl, rfl⟩
    · exact hposition.resolve_left (by simp)
    · exact hknown parentId rfl
  · rintro ⟨parentId, number, ordinal, hparent, hnumber, hordinal, hadmits, rfl, rfl⟩
    refine ⟨_, _, ⟨(), hvalid.createdAt, _, ⟨hvalid.kind, rfl⟩, hvalid.title, (), hvalid.key,
      hvalid.project, parentId, hparent, number, hnumber, ordinal, hordinal, _, ⟨hadmits.nodeId,
      .inr hadmits.position, ?_, rfl⟩, _, ⟨hadmits.receiptId, .inr hkey, rfl⟩, (),
      hadmits.topology, rfl, rfl⟩, rfl, rfl⟩
    rintro _ ⟨⟩
    exact hadmits.parent

omit [Sha256 Fp] [DecidableEq Fp] in
theorem StoryKind.name_injective : Function.Injective StoryKind.name := by
  intro kind kind' h
  cases kind <;> cases kind' <;> first
    | rfl
    | exact absurd h (by decide)

/-- The answer that the receipt of a container gives. -/
theorem replayedContainer_row {first : ContainerRequest} {parentId : String}
    {number ordinal : ℕ} (hordinal : ordinal < 2 ^ 32) :
    replayedContainer create.projectId create.container create.parentId create.title
        (first.row parentId number ordinal) = .ok answer ↔
      (create.projectId = first.projectId ∧ create.kind = first.kind ∧
        (∀ requested ∈ create.parentId, requested = parentId) ∧ create.title = first.title) ∧
      answer = first.answer parentId number ordinal true := by
  have hparent : parentId = create.parentId.getD parentId ↔
      ∀ requested ∈ create.parentId, requested = parentId := by
    cases create.parentId <;> simp [eq_comm]
  have hbound : (ordinal : ℤ) < 2 ^ 32 := by exact_mod_cast hordinal
  generalize hvalue : (first.payload parentId number ordinal : Json Fp) = value
  have hkind : value.memberText "kind" = first.kind.name := hvalue ▸ rfl
  have hid : value.memberText "node_id" = paddedId first.kind.stem number := hvalue ▸ rfl
  have hordinal : (value.get? "ordinal").bind Json.asInt = some (ordinal : ℤ) := hvalue ▸ rfl
  have hparentId : value.memberText "parent_id" = parentId := hvalue ▸ rfl
  have hproject : value.memberText "project_id" = first.projectId := hvalue ▸ rfl
  have hfp : (value.get? "request_fingerprint").bind Json.asFp =
      some (first.fingerprint parentId) := hvalue ▸ rfl
  have htitle : value.memberText "title" = first.title := hvalue ▸ rfl
  simp only [replayedContainer, ContainerRequest.row, hvalue, ContainerRequest.container,
    bind_eq_ok, require_eq_ok, exists_const, pure_eq_ok, exists_eq_left', hkind, hid, hordinal,
    hparentId, hproject, hfp, htitle, Option.getD_some, hbound, ← hparent]
  constructor
  · rintro ⟨-, ⟨hproject, hkind, hsame, htitle, -⟩, -, rfl⟩
    have hkinds := StoryKind.name_injective hkind
    refine ⟨⟨hproject.symm, hkinds.symm, hsame, htitle.symm⟩, ?_⟩
    simp only [ContainerRequest.answer, ContainerRequest.fingerprint, ← hproject, ← hsame,
      ← htitle, ← hkinds, Int.toNat_natCast]
  · rintro ⟨⟨hproject, hkind, hsame, htitle⟩, rfl⟩
    simp only [ContainerRequest.answer, ContainerRequest.fingerprint, hproject, ← hsame, htitle,
      hkind, Int.toNat_natCast, and_self]

/-- A request under the key of a container is answered from its receipt, or refused. -/
theorem StoryProject.createContainer_replay {first : ContainerRequest} {parentId : String}
    {number ordinal : ℕ} (hvalid : create.Valid s.project) (hordinal : ordinal < 2 ^ 32)
    (hstored : s.project.receipt? create.idempotencyKey =
      some (first.row parentId number ordinal)) :
    s.createContainer create = .ok (answer, s') ↔
      (create.projectId = first.projectId ∧ create.kind = first.kind ∧
        (∀ requested ∈ create.parentId, requested = parentId) ∧ create.title = first.title) ∧
      answer = first.answer parentId number ordinal true ∧ s' = s := by
  simp only [createContainer, createStoryContainer, hstored, bind_eq_ok, require_eq_ok,
    exists_const, pure_eq_ok, Prod.exists, Prod.mk.injEq, containerKind_eq_ok]
  constructor
  · rintro ⟨_, _, ⟨_, -, _, ⟨-, rfl⟩, -, _, -, -, _, hreplayed, rfl, rfl⟩, rfl, rfl⟩
    obtain ⟨hsame, rfl⟩ := (replayedContainer_row hordinal).mp hreplayed
    exact ⟨hsame, rfl, rfl⟩
  · rintro ⟨hsame, rfl, rfl⟩
    exact ⟨_, _, ⟨(), hvalid.createdAt, _, ⟨hvalid.kind, rfl⟩, hvalid.title, (), hvalid.key,
      hvalid.project, _, (replayedContainer_row hordinal).mpr ⟨hsame, rfl⟩, rfl, rfl⟩, rfl, rfl⟩

end Containers

end Inversion

/-! ## The invariant -/

/-- A receipt names its chapter. -/
structure ChapterReceiptRow.At (row : ChapterReceiptRow Fp) (db : Database Fp) : Prop where
  node : ∃ node ∈ db.storyNodes, node.nodeId = row.chapterId ∧ node.parentId = some row.unitId ∧
    node.kind = .chapter ∧ node.ordinal = row.ordinal
  document : row.documentId ∈ db.documents.map (·.documentId)

/-- The titles that a setup gives to the first nodes. -/
structure BookStructureSeed.Titled (seed : BookStructureSeed) : Prop where
  volume : ¬ blank seed.firstVolumeTitle
  unit : ¬ blank seed.firstUnitTitle
  chapter : ¬ blank seed.firstChapterTitle

section Invariant

variable [Sha256 Fp]

structure StoryProject.Inv (s : StoryProject Fp) : Prop where
  shaped : s.project.Shaped
  named : ∀ node ∈ s.project.storyNodes, node.Named
  titled : ∀ node ∈ s.project.storyNodes, ¬ blank node.title
  documents : ∀ document ∈ s.project.documents, document.documentId ≠ ""
  manuscripts : s.project.manuscriptNodes.Nodup
  chapters : ∀ row ∈ s.chapters, row.At s.project
  containers : ∀ row ∈ s.project.receipts, ∃ (request : ContainerRequest) (parentId : String)
    (number ordinal : ℕ), ordinal < 2 ^ 32 ∧ row = request.row parentId number ordinal
  setups : ∀ row ∈ s.plans.bookSetupProposals, row.setup.seed.Titled

variable {s s' : StoryProject Fp}

theorem createProject_inv {manifest : ProjectManifest} {createdAt : String} {start : Database Fp}
    (h : createProject manifest createdAt = .ok start) : (StoryProject.new start).Inv := by
  simp only [createProject, ProjectManifest.validate, bind_eq_ok, require_eq_ok,
    exists_const] at h
  obtain ⟨⟨-, -, ⟨htitle, -⟩, -⟩, _, -, h⟩ := h
  obtain ⟨-, rfl⟩ := createReserved_eq_ok h
  refine ⟨initialProject_shaped _ _ _, ?_, ?_, ?_, ?_, ?_, ?_, ?_⟩
  · intro node hnode
    simp only [StoryProject.project_new, initialProject, List.mem_cons, List.not_mem_nil,
      or_false] at hnode
    rcases hnode with rfl | rfl | rfl | rfl
    · exact .inl ⟨rfl, rfl, rfl⟩
    all_goals exact .inr ⟨rfl, 1, by decide, le_rfl, by dsimp only [StoryKind.stem]; decide⟩
  · intro node hnode
    simp only [StoryProject.project_new, initialProject, List.mem_cons, List.not_mem_nil,
      or_false] at hnode
    rcases hnode with rfl | rfl | rfl | rfl
    · exact htitle
    · decide
    · decide
    · exact htitle
  all_goals simp [initialProject, manuscriptNodes, StoryProject.new, StoryProject.project,
    PlanDatabase.unplanned]

omit [Sha256 Fp] in
theorem ChapterReceiptRow.At.mono {row : ChapterReceiptRow Fp} {db db' : Database Fp}
    (h : row.At db) (hnodes : ∀ node ∈ db.storyNodes, ∃ node' ∈ db'.storyNodes,
      node'.nodeId = node.nodeId ∧ node'.parentId = node.parentId ∧ node'.kind = node.kind ∧
        node'.ordinal = node.ordinal)
    (hdocuments : ∀ documentId ∈ db.documents.map (·.documentId),
      documentId ∈ db'.documents.map (·.documentId)) : row.At db' := by
  obtain ⟨⟨node, hnode, hid, hparent, hkind, hordinal⟩, hdocument⟩ := h
  obtain ⟨node', hnode', hid', hparent', hkind', hordinal'⟩ := hnodes node hnode
  exact ⟨⟨node', hnode', hid'.trans hid, hparent'.trans hparent, hkind'.trans hkind,
    hordinal'.trans hordinal⟩, hdocuments _ hdocument⟩

/-- What a new chapter leaves. -/
theorem StoryProject.Inv.chapter (h : s.Inv) {request : ChapterRequest} {unitId : String}
    {number ordinal : ℕ} (hvalid : request.Valid s.project)
    (hnumber : (number : ℤ) = nextAfter (s.project.numbers .chapter) ∧
      nextAfter (s.project.numbers .chapter) < 2 ^ 32)
    (hordinal : (ordinal : ℤ) = nextAfter (s.project.ordinalsUnder .chapter unitId))
    (hadmits : s.Admits (request.row unitId number ordinal)) :
    StoryProject.Inv { s.withProject (s.project.withChapter (request.row unitId number ordinal))
      with chapters := s.chapters ++ [request.row unitId number ordinal] } := by
  have hle := s.project.nextOrdinal_le h.named .chapter (by decide) unitId
  have hshaped : (s.project.withChapter (request.row unitId number ordinal)).Shaped := by
    refine (h.shaped.append ?_ rfl hadmits.topology).1
    exact hadmits.nodeId
  refine ⟨hshaped, List.forall_mem_append.mpr ⟨h.named, ?_⟩,
    List.forall_mem_append.mpr ⟨h.titled, ?_⟩, List.forall_mem_append.mpr ⟨h.documents, ?_⟩, ?_,
    List.forall_mem_append.mpr ⟨fun row hrow => ?_, ?_⟩, h.containers, h.setups⟩
  · rintro node hnode
    obtain rfl := List.mem_singleton.mp hnode
    exact .inr ⟨rfl, number, by omega, by simp only [ChapterRequest.row]; omega, rfl⟩
  · rintro node hnode
    obtain rfl := List.mem_singleton.mp hnode
    exact hvalid.title.1
  · rintro document hdocument hempty
    obtain rfl := List.mem_singleton.mp hdocument
    have hnil := congrArg String.toList hempty
    simp [ChapterRequest.row] at hnil
  · have hnew : some (paddedId "CH" number) ∉ s.project.manuscriptNodes := by
      intro hmem
      obtain ⟨document, hdocument, hnode⟩ := List.mem_map.mp hmem
      obtain ⟨hdocument, hkind⟩ := List.mem_filter.mp hdocument
      refine hadmits.manuscript (List.mem_map.mpr ⟨document, hdocument, ?_⟩)
      rw [manuscriptNode, if_pos (of_decide_eq_true hkind), hnode]
      rfl
    have happended : (s.project.withChapter (request.row unitId number ordinal)).manuscriptNodes =
        s.project.manuscriptNodes ++ [some (paddedId "CH" number)] := by
      simp [manuscriptNodes, withChapter, ChapterRequest.row]
    change (s.project.withChapter _).manuscriptNodes.Nodup
    rw [happended]
    exact List.nodup_append.mpr ⟨h.manuscripts, List.nodup_singleton _, by
      rintro _ hold _ hmem rfl
      exact hnew (List.mem_singleton.mp hmem ▸ hold)⟩
  · refine (h.chapters row hrow).mono (fun node hnode => ?_) fun documentId hdocument => ?_
    · exact ⟨node, List.mem_append_left _ hnode, rfl, rfl, rfl, rfl⟩
    · simp only [project, withProject, withChapter, List.map_append]
      exact List.mem_append_left _ hdocument
  · rintro row hrow
    obtain rfl := List.mem_singleton.mp hrow
    refine ⟨⟨_, List.mem_append_right _ (List.mem_singleton_self _), rfl, rfl, rfl, rfl⟩, ?_⟩
    exact List.mem_map.mpr ⟨_, List.mem_append_right _ (List.mem_singleton_self _), rfl⟩

/-- What a new container leaves. -/
theorem StoryProject.Inv.container (h : s.Inv) {request : ContainerRequest} {parentId : String}
    {number ordinal : ℕ} (hvalid : request.Valid s.project)
    (hnumber : (number : ℤ) = nextAfter (s.project.numbers request.kind) ∧
      nextAfter (s.project.numbers request.kind) < 2 ^ 32)
    (hordinal : (ordinal : ℤ) = nextAfter (s.project.ordinalsUnder request.kind parentId))
    (hadmits : s.project.Admits (request.node parentId number ordinal) parentId
      (request.row parentId number ordinal)) :
    (s.withProject (s.project.withContainer (request.node parentId number ordinal)
      (request.row parentId number ordinal))).Inv := by
  have hnumbered : request.kind.numbered := by
    rcases hvalid.kind with hkind | hkind <;> rw [hkind] <;> rfl
  have hle := s.project.nextOrdinal_le h.named request.kind
    (fun hbook => by simp [hbook, StoryKind.numbered] at hnumbered) parentId
  have hshaped : (s.project.withContainer (request.node parentId number ordinal)
      (request.row parentId number ordinal)).Shaped :=
    (h.shaped.append hadmits.nodeId rfl hadmits.topology).1
  refine ⟨hshaped, List.forall_mem_append.mpr ⟨h.named, ?_⟩,
    List.forall_mem_append.mpr ⟨h.titled, ?_⟩, h.documents, h.manuscripts, fun row hrow => ?_,
    List.forall_mem_append.mpr ⟨h.containers, ?_⟩, h.setups⟩
  · rintro node hnode
    obtain rfl := List.mem_singleton.mp hnode
    exact .inr ⟨hnumbered, number, by omega, by simp only [ContainerRequest.node]; omega, rfl⟩
  · rintro node hnode
    obtain rfl := List.mem_singleton.mp hnode
    exact hvalid.title.1
  · exact (h.chapters row hrow).mono
      (fun node hnode => ⟨node, List.mem_append_left _ hnode, rfl, rfl, rfl, rfl⟩) fun _ hid => hid
  · rintro row hrow
    exact ⟨request, parentId, number, ordinal, by omega, List.mem_singleton.mp hrow⟩

theorem StoryProject.Inv.document (h : s.Inv) {projectId documentId title : String}
    {kind : DocumentKind} {storyNodeId : Option String} {createdAt : String}
    {project : Database Fp}
    (hcreate : documentCreate projectId documentId title kind storyNodeId createdAt s.project =
      .ok project) : (s.withProject project).Inv := by
  have hname : ¬ blank documentId := by
    simp only [documentCreate, stringArg, bind_eq_ok, require_eq_ok, exists_const] at hcreate
    exact hcreate.2.1
  obtain ⟨hkind, -, rfl⟩ := documentCreate_kind h.shaped hcreate
  have hmanuscripts : manuscriptNodes { s.project with documents := s.project.documents ++
      [⟨documentId, storyNodeId, kind, title, createdAt⟩] } = s.project.manuscriptNodes := by
    simp [manuscriptNodes, hkind]
  refine ⟨h.shaped.congr rfl hmanuscripts, h.named, h.titled,
    List.forall_mem_append.mpr ⟨h.documents, ?_⟩, ?_, fun row hrow => ?_, h.containers, h.setups⟩
  · rintro document hdocument hempty
    obtain rfl := List.mem_singleton.mp hdocument
    exact hname (by rw [show documentId = "" from hempty]; decide)
  · exact hmanuscripts.symm ▸ h.manuscripts
  · refine (h.chapters row hrow).mono (fun node hnode => ⟨node, hnode, rfl, rfl, rfl, rfl⟩) ?_
    intro id hid
    simp only [project_withProject, List.map_append]
    exact List.mem_append_left _ hid

omit [Sha256 Fp] in
theorem setFirstTitles_archive (db : Database Fp) (seed : BookStructureSeed) :
    (db.setFirstTitles seed).archive.documents = db.archive.documents := by
  simp only [Database.archive, setFirstTitles, Table.updateWhere, List.map_map]
  refine List.map_congr_left fun document _ => ?_
  simp only [Function.comp_apply]
  split_ifs <;> rfl

omit [Sha256 Fp] in
theorem setFirstTitles_documentIds (db : Database Fp) (seed : BookStructureSeed) :
    (db.setFirstTitles seed).documents.map (·.documentId) = db.documents.map (·.documentId) := by
  have hfirst := congrArg (List.map Prod.fst) (setFirstTitles_archive db seed)
  simp only [Database.archive, List.map_map] at hfirst
  exact hfirst

omit [Sha256 Fp] in
/-- The titles of the nodes are the old ones or those of the setup. -/
theorem setFirstTitles_titled {db : Database Fp} {seed : BookStructureSeed} (hseed : seed.Titled)
    (htitled : ∀ node ∈ db.storyNodes, ¬ blank node.title) :
    ∀ node ∈ (db.setFirstTitles seed).storyNodes, ¬ blank node.title := by
  have hretitle : ∀ (nodes : List StoryNode) (nodeId title : String), ¬ blank title →
      (∀ node ∈ nodes, ¬ blank node.title) →
      ∀ node ∈ Table.updateWhere (fun node : StoryNode => node.nodeId = nodeId)
        (fun node => { node with title }) nodes, ¬ blank node.title := by
    intro nodes nodeId title htitle hnodes node hnode
    obtain ⟨old, hold, rfl⟩ := Table.mem_updateWhere.mp hnode
    split_ifs
    · exact htitle
    · exact hnodes old hold
  exact hretitle _ _ _ hseed.chapter (hretitle _ _ _ hseed.unit (hretitle _ _ _ hseed.volume
    htitled))

/-- What the approval of a setup leaves. -/
theorem StoryProject.Inv.titles (h : s.Inv) {seed : BookStructureSeed} (hseed : seed.Titled) :
    (s.withProject (s.project.setFirstTitles seed)).Inv := by
  obtain ⟨f, hf, hnodes⟩ := @setFirstTitles_storyNodes Fp s.project seed
  have harchive := setFirstTitles_archive s.project seed
  have hids := setFirstTitles_documentIds s.project seed
  refine ⟨(h.shaped.titles seed).1, ?_, setFirstTitles_titled hseed h.titled, ?_, ?_,
    fun row hrow => ?_, h.containers, h.setups⟩
  · intro node hnode
    rw [project_withProject, hnodes] at hnode
    obtain ⟨old, hold, rfl⟩ := List.mem_map.mp hnode
    simpa only [StoryNode.Named, hf.kind, hf.nodeId, hf.ordinal] using h.named old hold
  · intro document hdocument
    have hid : document.documentId ∈ s.project.documents.map (·.documentId) := by
      rw [← hids]
      exact List.mem_map.mpr ⟨document, hdocument, rfl⟩
    obtain ⟨old, hold, hsame⟩ := List.mem_map.mp hid
    exact hsame ▸ h.documents old hold
  · rw [project_withProject, manuscriptNodes_archive, harchive, ← manuscriptNodes_archive]
    exact h.manuscripts
  · refine (h.chapters row hrow).mono (fun node hnode => ?_) fun id hid => ?_
    · rw [project_withProject, hnodes]
      exact ⟨f node, List.mem_map.mpr ⟨node, hnode, rfl⟩, hf.nodeId node, hf.parentId node,
        hf.kind node, hf.ordinal node⟩
    · rw [project_withProject, hids]
      exact hid

/-- Calls on the plans leave the project. -/
theorem StoryProject.Inv.plans (h : s.Inv) {plans : PlanDatabase Fp}
    (hproject : plans.project = s.project)
    (hsetups : ∀ row ∈ plans.bookSetupProposals, row.setup.seed.Titled) :
    StoryProject.Inv { s with plans } := by
  obtain ⟨hshaped, hnamed, htitled, hdocuments, hmanuscripts, hchapters, hcontainers, -⟩ := h
  rw [← hproject] at hshaped hnamed htitled hdocuments hmanuscripts hchapters hcontainers
  exact ⟨hshaped, hnamed, htitled, hdocuments, hmanuscripts, hchapters, hcontainers, hsetups⟩

theorem BookSetupArtifact.titled_of_validate [DecidableEq Fp] {setup : BookSetupArtifact Fp}
    (h : setup.validate = .ok ()) : setup.seed.Titled := by
  simp only [validate, validateShape, requireTextFields, requireText, bind_eq_ok, require_eq_ok,
    exists_const, forEach_unit_eq_ok, List.forall_mem_cons] at h
  obtain ⟨_, ⟨-, -, -, _, -, _, -, _, -, ⟨hvolume, hunit, hchapter, -⟩, -⟩, -⟩ := h
  exact ⟨hvolume.1, hunit.1, hchapter.1⟩

variable [DecidableEq Fp] [PrettyJson Fp]

theorem StoryProject.Inv.setup (h : s.Inv) {call : SetupCall Fp} {plans : PlanDatabase Fp}
    (hexec : call.exec s.plans = .ok plans) : StoryProject.Inv { s with plans } := by
  cases call with
  | plan call =>
    have hprogress := PlanCall.progress hexec
    exact h.plans hprogress.project (hprogress.proposals ▸ h.setups)
  | propose proposal =>
    obtain ⟨receipt, hpropose⟩ := snd_map_eq_ok hexec
    have hvalid : proposal.artifact.validate = .ok () := by
      simp only [proposeBookSetup, bind_eq_ok] at hpropose
      obtain ⟨⟨⟩, hvalid, -⟩ := hpropose
      exact hvalid
    obtain rfl | ⟨-, -, rfl⟩ := proposeBookSetup_eq_ok hpropose
    · exact h
    · refine h.plans rfl (List.forall_mem_append.mpr ⟨h.setups, fun row hrow => ?_⟩)
      rw [List.mem_singleton.mp hrow]
      exact BookSetupArtifact.titled_of_validate hvalid
  | start request ids =>
    obtain ⟨start, hstart⟩ := snd_map_eq_ok hexec
    have hprogress := startBookSetupApproval_progress hstart
    exact h.plans hprogress.project (hprogress.proposals ▸ h.setups)
  | approve decision =>
    obtain ⟨receipt, happrove⟩ := snd_map_eq_ok hexec
    obtain ⟨-, rfl | ⟨row, hdecides, rfl⟩⟩ := approveBookSetup_eq_ok happrove
    · exact h
    · have hseed := h.setups row (Table.lookup_mem hdecides.stored)
      refine (h.titles hseed).plans rfl fun other hother => ?_
      obtain ⟨old, hold, rfl⟩ := Table.mem_updateWhere.mp hother
      obtain ⟨older, holder, rfl⟩ := Table.mem_updateWhere.mp hold
      have htitled := h.setups older holder
      split_ifs <;> exact htitled

/-- What calls keep beside the tree. -/
structure StoryProject.Grows (s s' : StoryProject Fp) : Prop where
  project : s'.project.projectId = s.project.projectId
  chapters : s.chapters <+: s'.chapters
  receipts : s.project.receipts <+: s'.project.receipts

omit [Sha256 Fp] [DecidableEq Fp] [PrettyJson Fp] in
theorem StoryProject.Grows.refl (s : StoryProject Fp) : s.Grows s :=
  ⟨rfl, List.prefix_rfl, List.prefix_rfl⟩

omit [Sha256 Fp] [DecidableEq Fp] [PrettyJson Fp] in
theorem StoryProject.Grows.trans {s'' : StoryProject Fp} (h : s.Grows s') (h' : s'.Grows s'') :
    s.Grows s'' :=
  ⟨h'.project.trans h.project, h.chapters.trans h'.chapters, h.receipts.trans h'.receipts⟩

/-- The setup calls change titles at most. -/
theorem SetupCall.exec_project {call : SetupCall Fp} {plans plans' : PlanDatabase Fp}
    (h : call.exec plans = .ok plans') :
    plans'.project = plans.project ∨
      ∃ seed, plans'.project = plans.project.setFirstTitles seed := by
  by_cases hcall : call.isApprove = true
  · cases call with
    | approve decision =>
      obtain ⟨receipt, happrove⟩ := snd_map_eq_ok h
      obtain ⟨-, rfl | ⟨row, -, rfl⟩⟩ := approveBookSetup_eq_ok happrove
      · exact .inl rfl
      · exact .inr ⟨row.setup.seed, rfl⟩
    | plan | propose | start => exact absurd hcall (by simp [isApprove])
  · exact .inl (SetupCall.progress_of_exec h (by simpa using hcall)).plan.project

/-- One call: the invariant is kept, and nothing but titles is lost. -/
theorem StoryCall.exec_inv {call : StoryCall Fp} (hexec : call.exec s = .ok s') (h : s.Inv) :
    s'.Inv ∧ s.Grows s' := by
  cases call with
  | chapter request =>
    obtain ⟨receipt, hcreate⟩ := snd_map_eq_ok hexec
    have hvalid := StoryProject.createChapter_valid hcreate
    cases hlookup : Table.lookup ChapterReceiptRow.idempotencyKey request.idempotencyKey
        s.chapters with
    | some stored =>
      obtain ⟨-, -, rfl⟩ := (StoryProject.createChapter_replay hvalid hlookup).mp hcreate
      exact ⟨h, .refl _⟩
    | none =>
      obtain ⟨unitId, number, ordinal, -, hnumber, hordinal, hadmits, -, rfl⟩ :=
        (StoryProject.createChapter_new hvalid hlookup).mp hcreate
      exact ⟨h.chapter hvalid hnumber hordinal.1 hadmits, rfl, List.prefix_append _ _,
        List.prefix_rfl⟩
  | container request =>
    obtain ⟨receipt, hcreate⟩ := snd_map_eq_ok hexec
    have hvalid := StoryProject.createContainer_valid hcreate
    cases hlookup : s.project.receipt? request.idempotencyKey with
    | some stored =>
      obtain ⟨first, parentId, number, ordinal, hordinal, rfl⟩ :=
        h.containers stored (Table.lookup_mem hlookup)
      obtain ⟨-, -, rfl⟩ :=
        (StoryProject.createContainer_replay hvalid hordinal hlookup).mp hcreate
      exact ⟨h, .refl _⟩
    | none =>
      obtain ⟨parentId, number, ordinal, -, hnumber, hordinal, hadmits, -, rfl⟩ :=
        (StoryProject.createContainer_new hvalid hlookup).mp hcreate
      exact ⟨h.container hvalid hnumber hordinal.1 hadmits, rfl, List.prefix_rfl,
        List.prefix_append _ _⟩
  | document projectId documentId title kind storyNodeId createdAt =>
    simp only [exec, bind_eq_ok, pure_eq_ok] at hexec
    obtain ⟨project, hcreate, rfl⟩ := hexec
    refine ⟨h.document hcreate, ?_, List.prefix_rfl, ?_⟩
    · obtain ⟨_, -, rfl⟩ := documentCreate_eq_ok hcreate
      rfl
    · obtain ⟨_, -, rfl⟩ := documentCreate_eq_ok hcreate
      exact List.prefix_rfl
  | setup call =>
    simp only [exec, bind_eq_ok, pure_eq_ok] at hexec
    obtain ⟨plans, hcall, rfl⟩ := hexec
    have hkept : plans.project.projectId = s.project.projectId ∧
        plans.project.receipts = s.project.receipts := by
      obtain hsame | ⟨seed, hsame⟩ := SetupCall.exec_project hcall
      all_goals
        rw [hsame]
        exact ⟨rfl, rfl⟩
    exact ⟨h.setup hcall, hkept.1, List.prefix_rfl, hkept.2 ▸ List.prefix_rfl⟩

theorem StoryProject.Inv.run (h : s.Inv) (calls : List (StoryCall Fp)) :
    (s.run calls).Inv ∧ s.Grows (s.run calls) := by
  induction calls generalizing s with
  | nil => exact ⟨h, .refl s⟩
  | cons call rest ih =>
    have hstep : (call.apply s).Inv ∧ s.Grows (call.apply s) := by
      rw [StoryCall.apply]
      cases hexec : call.exec s with
      | ok next => exact StoryCall.exec_inv hexec h
      | error _ => exact ⟨h, .refl s⟩
    obtain ⟨hinv, hgrows⟩ := ih hstep.1
    exact ⟨hinv, hstep.2.trans hgrows⟩

end Invariant

/-! ## The tree that a run leaves -/

section Tree

variable [Sha256 Fp] {s : StoryProject Fp}

theorem StoryProject.Inv.readable (h : s.Inv) : s.project.Readable :=
  ⟨h.shaped, h.named, h.titled, h.documents⟩

omit [Sha256 Fp] in
theorem StoryKind.parentKind_inj {kind kind' : StoryKind} {parent : Option StoryKind}
    (h : kind.parentKind = .ok parent) (h' : kind'.parentKind = .ok parent) : kind = kind' := by
  have hsame := h.trans h'.symm
  revert hsame
  cases kind <;> cases kind' <;> simp [parentKind]

/-- Siblings are told apart by their ordinals. -/
theorem StoryProject.Inv.siblings (h : s.Inv) {node other : StoryNode}
    (hnode : node ∈ s.project.storyNodes) (hother : other ∈ s.project.storyNodes)
    (hparents : node.parentId = other.parentId) (hordinals : node.ordinal = other.ordinal) :
    node = other := by
  have hkinds : node.kind = other.kind := by
    obtain ⟨expected, hexpected, hkind⟩ := h.shaped.tree.placed node hnode
    obtain ⟨expected', hexpected', hkind'⟩ := h.shaped.tree.placed other hother
    rw [← hparents, hkind] at hkind'
    obtain rfl := Option.map_injective (Option.some_injective _) hkind'
    exact StoryKind.parentKind_inj hexpected hexpected'
  refine List.inj_on_of_nodup_map h.shaped.tree.positions hnode hother ?_
  rw [hparents, hkinds, hordinals]

/-- A chapter has one manuscript. -/
theorem StoryProject.Inv.manuscript (h : s.Inv) {chapterId : String}
    (hchapter : chapterId ∈ s.project.chapterIds) :
    ∃ document, s.project.documents.filter (fun document =>
      document.documentKind = .manuscript ∧ document.storyNodeId = some chapterId) =
        [document] := by
  have hkeys : ((s.project.documents.filter fun document =>
      document.documentKind = .manuscript).map (·.storyNodeId)).Nodup := h.manuscripts
  have hfilter := Table.filter_key hkeys (some chapterId)
  rw [List.filter_filter] at hfilter
  obtain ⟨document, hdocument, howner⟩ := List.mem_map.mp (h.shaped.tree.owned _ hchapter)
  rw [← howner, Table.lookup_of_mem hkeys hdocument] at hfilter
  refine ⟨document, Eq.trans ?_ hfilter⟩
  refine List.filter_congr fun other _ => ?_
  simp [howner, Bool.and_comm]

end Tree

/-! ## Creations under a used key -/

section Repeats

variable [Sha256 Fp] [DecidableEq Fp] {s s' t t' : StoryProject Fp}

omit [Sha256 Fp] [DecidableEq Fp] in
theorem StoryProject.Grows.chapter? (h : s.Grows t) {key : String} {row : ChapterReceiptRow Fp}
    (hrow : Table.lookup ChapterReceiptRow.idempotencyKey key s.chapters = some row) :
    Table.lookup ChapterReceiptRow.idempotencyKey key t.chapters = some row := by
  obtain ⟨more, hmore⟩ := h.chapters
  rw [← hmore]
  exact Table.lookup_append_of_some hrow

omit [Sha256 Fp] [DecidableEq Fp] in
theorem StoryProject.Grows.receipt? (h : s.Grows t) {key : String} {row : ReceiptRow Fp}
    (hrow : s.project.receipt? key = some row) : t.project.receipt? key = some row := by
  obtain ⟨more, hmore⟩ := h.receipts
  rw [Database.receipt?, ← hmore]
  exact Table.lookup_append_of_some hrow

omit [Sha256 Fp] [DecidableEq Fp] in
theorem Database.chapterUnit_requested {db : Database Fp} {requested : Option String}
    {unitId requestedId : String} (h : db.chapterUnit requested = .ok unitId)
    (hrequested : requestedId ∈ requested) : requestedId = unitId := by
  obtain rfl := Option.mem_def.mp hrequested
  simp only [chapterUnit, bind_eq_ok, require_eq_ok, exists_const, pure_eq_ok] at h
  exact h.2

omit [Sha256 Fp] [DecidableEq Fp] in
theorem Database.containerParent_requested {db : Database Fp} {container : ContainerKind}
    {requested : Option String} {parentId requestedId : String}
    (h : db.containerParent container requested = .ok parentId)
    (hrequested : requestedId ∈ requested) : requestedId = parentId := by
  obtain rfl := Option.mem_def.mp hrequested
  simp only [containerParent, bind_eq_ok, require_eq_ok, exists_const, pure_eq_ok] at h
  exact h.2

/-- The receipt of a chapter is stored under its key. -/
theorem StoryProject.createChapter_stored {request : ChapterRequest}
    {receipt : ChapterCreationReceipt Fp} (h : s.createChapter request = .ok (receipt, s')) :
    ∃ stored : ChapterReceiptRow Fp,
      Table.lookup ChapterReceiptRow.idempotencyKey request.idempotencyKey s'.chapters =
        some stored ∧
      stored.title = request.title ∧ (∀ unitId ∈ request.unitId, unitId = stored.unitId) ∧
      stored.requestFingerprint =
        chapterRequestFingerprint s.project.projectId stored.unitId stored.title ∧
      stored.receipt true = { receipt with replayed := true } := by
  have hvalid := createChapter_valid h
  cases hlookup : Table.lookup ChapterReceiptRow.idempotencyKey request.idempotencyKey
      s.chapters with
  | some stored =>
    obtain ⟨⟨htitle, hunit, hfingerprint⟩, rfl, rfl⟩ := (createChapter_replay hvalid hlookup).mp h
    refine ⟨stored, hlookup, htitle, hunit, ?_, rfl⟩
    rw [hfingerprint, hvalid.project, htitle]
  | none =>
    obtain ⟨unitId, number, ordinal, hunit, -, -, -, rfl, rfl⟩ :=
      (createChapter_new hvalid hlookup).mp h
    refine ⟨request.row unitId number ordinal, ?_, rfl, ?_, ?_, rfl⟩
    · rw [Table.lookup_append_singleton, hlookup]
      simp [ChapterRequest.row]
    · intro requested hrequested
      exact chapterUnit_requested hunit hrequested
    · simp only [ChapterRequest.row, hvalid.project]

/-- A later request under the key of a chapter. -/
theorem StoryProject.createChapter_again {request again : ChapterRequest}
    {receipt answer : ChapterCreationReceipt Fp}
    (h : s.createChapter request = .ok (receipt, s')) (hproject : s.Grows s') (hgrows : s'.Grows t)
    (hkey : again.idempotencyKey = request.idempotencyKey) :
    t.createChapter again = .ok (answer, t') ↔
      (again.Valid t.project ∧ again.title = request.title ∧
        ∀ unitId ∈ again.unitId, unitId = receipt.unitId) ∧
      answer = { receipt with replayed := true } ∧ t' = t := by
  obtain ⟨stored, hstored, htitle, -, hfingerprint, hreceipt⟩ := createChapter_stored h
  have hlater := hgrows.chapter? hstored
  rw [← hkey] at hlater
  have hunit : stored.unitId = receipt.unitId :=
    congrArg ChapterCreationReceipt.unitId hreceipt
  have hbound : t.project.projectId = s.project.projectId :=
    hgrows.project.trans hproject.project
  constructor
  · intro hagain
    have hvalid := createChapter_valid hagain
    obtain ⟨⟨hsame, hunits, -⟩, rfl, rfl⟩ := (createChapter_replay hvalid hlater).mp hagain
    exact ⟨⟨hvalid, hsame.symm.trans htitle, hunit ▸ hunits⟩, hreceipt, rfl⟩
  · rintro ⟨⟨hvalid, hsame, hunits⟩, rfl, rfl⟩
    refine (createChapter_replay hvalid hlater).mpr ⟨⟨htitle.trans hsame.symm, ?_, ?_⟩,
      hreceipt.symm, rfl⟩
    · rwa [hunit]
    · rw [hfingerprint, ← hvalid.project, hbound, htitle, hsame]

/-- The receipt of a container is stored under its key. -/
theorem StoryProject.Inv.createContainer_stored (hinv : s.Inv) {request : ContainerRequest}
    {receipt : StoryNodeCreationReceipt Fp}
    (h : s.createContainer request = .ok (receipt, s')) :
    ∃ (first : ContainerRequest) (parentId : String) (number ordinal : ℕ), ordinal < 2 ^ 32 ∧
      s'.project.receipt? request.idempotencyKey = some (first.row parentId number ordinal) ∧
      first.projectId = s.project.projectId ∧ first.kind = request.kind ∧
      (∀ requested ∈ request.parentId, requested = parentId) ∧ first.title = request.title ∧
      first.answer parentId number ordinal true = { receipt with replayed := true } := by
  have hvalid := createContainer_valid h
  cases hlookup : s.project.receipt? request.idempotencyKey with
  | some stored =>
    obtain ⟨first, parentId, number, ordinal, hordinal, rfl⟩ :=
      hinv.containers stored (Table.lookup_mem hlookup)
    obtain ⟨⟨hproject, hkind, hparent, htitle⟩, rfl, rfl⟩ :=
      (createContainer_replay hvalid hordinal hlookup).mp h
    exact ⟨first, parentId, number, ordinal, hordinal, hlookup,
      hproject.symm.trans hvalid.project.symm, hkind.symm, hparent, htitle.symm, rfl⟩
  | none =>
    obtain ⟨parentId, number, ordinal, hparent, -, ⟨hordinal, hbound⟩, -, rfl, rfl⟩ :=
      (createContainer_new hvalid hlookup).mp h
    refine ⟨request, parentId, number, ordinal, by omega, ?_, hvalid.project.symm, rfl,
      fun _ hrequested => containerParent_requested hparent hrequested, rfl, rfl⟩
    rw [project_withProject, Database.receipt?, withContainer, Table.lookup_append_singleton,
      ← Database.receipt?, hlookup]
    simp [ContainerRequest.row]

/-- A later request under the key of a container. -/
theorem StoryProject.Inv.createContainer_again (hinv : s.Inv) {request again : ContainerRequest}
    {receipt answer : StoryNodeCreationReceipt Fp}
    (h : s.createContainer request = .ok (receipt, s')) (hproject : s.Grows s')
    (hgrows : s'.Grows t) (hkey : again.idempotencyKey = request.idempotencyKey) :
    t.createContainer again = .ok (answer, t') ↔
      (again.Valid t.project ∧ again.kind = request.kind ∧ again.title = request.title ∧
        ∀ parentId ∈ again.parentId, parentId = receipt.parentId) ∧
      answer = { receipt with replayed := true } ∧ t' = t := by
  obtain ⟨first, parentId, number, ordinal, hordinal, hstored, hfirst, hkind, -, htitle,
    hreceipt⟩ := hinv.createContainer_stored h
  have hlater := hgrows.receipt? hstored
  rw [← hkey] at hlater
  have hparent : parentId = receipt.parentId :=
    congrArg StoryNodeCreationReceipt.parentId hreceipt
  have hbound : t.project.projectId = s.project.projectId :=
    hgrows.project.trans hproject.project
  constructor
  · intro hagain
    have hvalid := createContainer_valid hagain
    obtain ⟨⟨-, hkinds, hparents, htitles⟩, rfl, rfl⟩ :=
      (createContainer_replay hvalid hordinal hlater).mp hagain
    exact ⟨⟨hvalid, hkinds.trans hkind, htitles.trans htitle, hparent ▸ hparents⟩, hreceipt, rfl⟩
  · rintro ⟨⟨hvalid, hkinds, htitles, hparents⟩, rfl, rfl⟩
    refine (createContainer_replay hvalid hordinal hlater).mpr ⟨⟨?_, hkinds.trans hkind.symm,
      hparent ▸ hparents, htitles.trans htitle.symm⟩, hreceipt.symm, rfl⟩
    rw [hfirst, ← hvalid.project, hbound]

/-- The same request under its key is answered again. -/
theorem StoryProject.createChapter_repeated {request : ChapterRequest}
    {receipt : ChapterCreationReceipt Fp}
    (h : s.createChapter request = .ok (receipt, s')) (hproject : s.Grows s')
    (hgrows : s'.Grows t) :
    t.createChapter request = .ok ({ receipt with replayed := true }, t) := by
  obtain ⟨stored, -, -, hunit, -, hreceipt⟩ := createChapter_stored h
  refine (createChapter_again h hproject hgrows rfl).mpr ⟨⟨?_, rfl, fun unitId hunitId => ?_⟩,
    rfl, rfl⟩
  · refine { createChapter_valid h with project := ?_ }
    rw [hgrows.project, hproject.project]
    exact (createChapter_valid h).project
  · rw [hunit unitId hunitId]
    exact congrArg ChapterCreationReceipt.unitId hreceipt

theorem StoryProject.Inv.createContainer_repeated (hinv : s.Inv) {request : ContainerRequest}
    {receipt : StoryNodeCreationReceipt Fp}
    (h : s.createContainer request = .ok (receipt, s')) (hproject : s.Grows s')
    (hgrows : s'.Grows t) :
    t.createContainer request = .ok ({ receipt with replayed := true }, t) := by
  obtain ⟨first, parentId, number, ordinal, -, -, -, -, hparent, -, hreceipt⟩ :=
    hinv.createContainer_stored h
  refine (hinv.createContainer_again h hproject hgrows rfl).mpr ⟨⟨?_, rfl, rfl, ?_⟩, rfl, rfl⟩
  · refine { createContainer_valid h with project := ?_ }
    rw [hgrows.project, hproject.project]
    exact (createContainer_valid h).project
  · intro requested hrequested
    rw [hparent requested hrequested]
    exact congrArg StoryNodeCreationReceipt.parentId hreceipt

end Repeats

/-! ## Whole runs -/

section Runs

variable [Sha256 Fp] [DecidableEq Fp] [PrettyJson Fp]

/-- What holds in every state that creation calls reach from a new project: the topology is
accepted and the graph is read, siblings differ in their ordinals, and each chapter has one
manuscript. Under the key of an earlier creation the same request gets the same node, as does a
request that leaves out the unit or the parent; any other is refused, and nothing changes. -/
theorem story_topology_preserved {manifest : ProjectManifest} {createdAt : String}
    {start : Database Fp} (hstart : createProject manifest createdAt = .ok start)
    (calls : List (StoryCall Fp)) {s : StoryProject Fp}
    (hs : s = (StoryProject.new start).run calls) :
    s.project.validateNovelTopology = .ok () ∧
    (∃ graph, s.project.loadStoryGraph = .ok graph) ∧
    (∀ node ∈ s.project.storyNodes, ∀ other ∈ s.project.storyNodes,
      node.parentId = other.parentId → node.ordinal = other.ordinal → node = other) ∧
    (∀ chapterId ∈ s.project.chapterIds, ∃ document, s.project.documents.filter (fun document =>
      document.documentKind = .manuscript ∧ document.storyNodeId = some chapterId) =
        [document]) ∧
    (∀ (request : ChapterRequest) (receipt : ChapterCreationReceipt Fp) (s' : StoryProject Fp),
      s.createChapter request = .ok (receipt, s') →
      ∀ (later : List (StoryCall Fp)) (t : StoryProject Fp), t = s'.run later →
        t.createChapter request = .ok ({ receipt with replayed := true }, t) ∧
        ∀ again : ChapterRequest, again.idempotencyKey = request.idempotencyKey →
          (StoryCall.chapter again).apply t = t ∧
          ∀ answer t', t.createChapter again = .ok (answer, t') ↔
            (again.Valid t.project ∧ again.title = request.title ∧
              ∀ unitId ∈ again.unitId, unitId = receipt.unitId) ∧
            answer = { receipt with replayed := true } ∧ t' = t) ∧
    (∀ (request : ContainerRequest) (receipt : StoryNodeCreationReceipt Fp)
      (s' : StoryProject Fp), s.createContainer request = .ok (receipt, s') →
      ∀ (later : List (StoryCall Fp)) (t : StoryProject Fp), t = s'.run later →
        t.createContainer request = .ok ({ receipt with replayed := true }, t) ∧
        ∀ again : ContainerRequest, again.idempotencyKey = request.idempotencyKey →
          (StoryCall.container again).apply t = t ∧
          ∀ answer t', t.createContainer again = .ok (answer, t') ↔
            (again.Valid t.project ∧ again.kind = request.kind ∧ again.title = request.title ∧
              ∀ parentId ∈ again.parentId, parentId = receipt.parentId) ∧
            answer = { receipt with replayed := true } ∧ t' = t) := by
  have hinv : s.Inv := hs ▸ ((createProject_inv hstart).run calls).1
  refine ⟨hinv.shaped.topology, hinv.readable.loadStoryGraph,
    fun node hnode other hother => hinv.siblings hnode hother,
    fun chapterId hchapter => hinv.manuscript hchapter, ?_, ?_⟩
  · rintro request receipt s' hcreate later t rfl
    have hexec : (StoryCall.chapter request).exec s = .ok s' := by
      simp only [StoryCall.exec, hcreate]
      rfl
    obtain ⟨hinv', hgrows⟩ := StoryCall.exec_inv hexec hinv
    have hlater := (hinv'.run later).2
    refine ⟨StoryProject.createChapter_repeated hcreate hgrows hlater, fun again hkey => ?_⟩
    refine ⟨?_, fun _ _ => StoryProject.createChapter_again hcreate hgrows hlater hkey⟩
    rw [StoryCall.apply]
    cases hnext : (StoryCall.chapter again).exec (s'.run later) with
    | error _ => rfl
    | ok next =>
      obtain ⟨answer, hanswer⟩ := snd_map_eq_ok hnext
      exact ((StoryProject.createChapter_again hcreate hgrows hlater hkey).mp hanswer).2.2
  · rintro request receipt s' hcreate later t rfl
    have hexec : (StoryCall.container request).exec s = .ok s' := by
      simp only [StoryCall.exec, hcreate]
      rfl
    obtain ⟨hinv', hgrows⟩ := StoryCall.exec_inv hexec hinv
    have hlater := (hinv'.run later).2
    refine ⟨hinv.createContainer_repeated hcreate hgrows hlater, fun again hkey => ?_⟩
    refine ⟨?_, fun _ _ => hinv.createContainer_again hcreate hgrows hlater hkey⟩
    rw [StoryCall.apply]
    cases hnext : (StoryCall.container again).exec (s'.run later) with
    | error _ => rfl
    | ok next =>
      obtain ⟨answer, hanswer⟩ := snd_map_eq_ok hnext
      exact ((hinv.createContainer_again hcreate hgrows hlater hkey).mp hanswer).2.2

end Runs

/-! ### A second unit -/

namespace Sample

def manifest : ProjectManifest := ⟨"quillframe_project_v1_0", "novel", "Harbour", "en"⟩

def secondChapter : ChapterRequest := ⟨"novel", some "UNIT001", "Tide", "key-1", "t1"⟩

def secondUnit : ContainerRequest := ⟨"novel", .unit, none, "Open sea", "key-2", "t2", "u2"⟩

/-- A new project with a second chapter in its first unit, and then a second unit. -/
def twoUnits : CoreResult (ChapterCreationReceipt Digest × StoryProject Digest) := do
  let start ← createProject manifest "t0"
  let (receipt, s) ← (StoryProject.new start).createChapter secondChapter
  return (receipt, s.run [.container secondUnit])

theorem manifest_creates : createProject manifest "t0" = .ok project := by
  have hvalid : manifest.validate = .ok () := by decide +kernel
  simp only [createProject, hvalid]
  rfl

theorem twoUnits_checked : (twoUnits.map fun (receipt, t) =>
    decide (receipt.unitId = "UNIT001" ∧ t.project.chapterUnit none = .ok "UNIT002" ∧
      Prod.fst <$> t.createChapter { secondChapter with unitId := none } =
        .ok { receipt with replayed := true } ∧
      Prod.fst <$> t.createContainer { secondUnit with idempotencyKey := "key-1", uuid := "u3" } =
        .ok ⟨"UNIT003", "VOL001", .unit, 3, "Open sea", secondUnit.fingerprint "VOL001", false⟩)) =
      .ok true := by
  decide +kernel

theorem exists_twoUnits : ∃ (receipt : ChapterCreationReceipt Digest) (s : StoryProject Digest),
    (StoryProject.new project).createChapter secondChapter = .ok (receipt, s) ∧
      receipt.unitId = "UNIT001" ∧
      (s.run [.container secondUnit]).project.chapterUnit none = .ok "UNIT002" ∧
      (∃ t, (s.run [.container secondUnit]).createChapter { secondChapter with unitId := none } =
        .ok ({ receipt with replayed := true }, t)) ∧
      ∃ answer t, (s.run [.container secondUnit]).createContainer
        { secondUnit with idempotencyKey := "key-1", uuid := "u3" } = .ok (answer, t) ∧
          answer.nodeId = "UNIT003" := by
  obtain ⟨⟨receipt, t⟩, hrun, hfacts⟩ := map_eq_ok.mp twoUnits_checked
  simp only [twoUnits, manifest_creates, bind_eq_ok, pure_eq_ok, Prod.exists, Prod.mk.injEq] at hrun
  obtain ⟨_, ⟨⟩, receipt, s, hcreate, rfl, rfl⟩ := hrun
  obtain ⟨hunit, hdefault, hreplayed, haccepted⟩ := of_decide_eq_true hfacts
  obtain ⟨⟨answer, t⟩, hagain, rfl⟩ := map_eq_ok.mp hreplayed
  obtain ⟨⟨other, t'⟩, hother, hanswer⟩ := map_eq_ok.mp haccepted
  refine ⟨receipt, s, hcreate, hunit, hdefault, ⟨t, hagain⟩, other, t', hother, ?_⟩
  rw [show other = _ from hanswer]

end Sample

/-- A chapter request that leaves out its unit is answered with a chapter of the first unit,
though its chapter would be created in the second; and a unit is created under the key of the
chapter. -/
theorem used_key_accepted : ∃ (receipt : ChapterCreationReceipt Digest) (s : StoryProject Digest),
    createProject Sample.manifest "t0" = .ok Sample.project ∧
      (StoryProject.new Sample.project).createChapter Sample.secondChapter = .ok (receipt, s) ∧
      receipt.unitId = "UNIT001" ∧
      (s.run [.container Sample.secondUnit]).project.chapterUnit none = .ok "UNIT002" ∧
      (∃ t, (s.run [.container Sample.secondUnit]).createChapter
        { Sample.secondChapter with unitId := none } =
          .ok ({ receipt with replayed := true }, t)) ∧
      ∃ answer t, (s.run [.container Sample.secondUnit]).createContainer
        { Sample.secondUnit with idempotencyKey := "key-1", uuid := "u3" } = .ok (answer, t) ∧
          answer.nodeId = "UNIT003" := by
  obtain ⟨receipt, s, hcreate⟩ := Sample.exists_twoUnits
  exact ⟨receipt, s, Sample.manifest_creates, hcreate⟩

theorem story_topology_preserved_sample :
    ∃ (receipt : ChapterCreationReceipt Digest) (s : StoryProject Digest),
      (StoryProject.new Sample.project).createChapter Sample.secondChapter = .ok (receipt, s) ∧
      (s.run [.container Sample.secondUnit]).createChapter Sample.secondChapter =
        .ok ({ receipt with replayed := true }, s.run [.container Sample.secondUnit]) := by
  obtain ⟨receipt, s, hcreate, -⟩ := Sample.exists_twoUnits
  obtain ⟨-, -, -, -, hchapters, -⟩ :=
    story_topology_preserved Sample.manifest_creates [] rfl
  exact ⟨receipt, s, hcreate, (hchapters _ _ _ hcreate _ _ rfl).1⟩

end Quillframe
