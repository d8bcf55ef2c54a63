import Quillframe.BookSetup

/-!
# Chapters, containers and documents

The calls that grow the story: new chapters with their manuscripts, new volumes and units, other
documents and manual revisions. Nothing here removes a row.
-/
namespace Quillframe

open Json (str int fp obj)

variable {Fp : Type}

/-! ## Ids and ordinals -/

/-- The number after the stem of an id, up to the first character that is no digit. -/
def idNumber (stem nodeId : String) : Option ℕ :=
  let digits := (nodeId.toList.drop stem.length).takeWhile Char.isDigit
  if startsWith stem nodeId ∧ digits ≠ [] then
    some (digits.foldl (fun n digit => 10 * n + (digit.toNat - '0'.toNat)) 0)
  else none

/-- `format!("{stem}{n:03}")`. -/
def paddedId (stem : String) (n : ℕ) : String :=
  let digits := toString n
  stem ++ String.ofList (List.replicate (3 - digits.length) '0') ++ digits

/-- Reading an SQL integer as a `u32`. -/
def readU32 (n : ℤ) : CoreResult ℕ := do
  require (0 ≤ n ∧ n < 2 ^ 32) (.storage "Integer out of range at index 0")
  return n.toNat

/-- `COALESCE(MAX(..),0)+1`. -/
def nextAfter (values : List ℤ) : ℤ := values.max?.getD 0 + 1

namespace Database

def nextNodeNumber (db : Database Fp) (kind : StoryKind) (stem : String) : CoreResult ℕ :=
  readU32 (nextAfter ((db.storyNodes.filter fun node => node.kind = kind).filterMap
    fun node => (idNumber stem node.nodeId).map Int.ofNat))

def nextOrdinal (db : Database Fp) (kind : StoryKind) (parentId : String) : CoreResult ℕ :=
  readU32 (nextAfter ((db.storyNodes.filter fun node =>
    node.parentId = some parentId ∧ node.kind = kind).map (·.ordinal)))

/-- Inserts a node under the keys of the table; its parent is there. -/
def insertStoryNode (node : StoryNode) (db : Database Fp) : CoreResult (Database Fp) := do
  require (node.nodeId ∉ db.storyNodes.map (·.nodeId)) (uniqueFailed "story_nodes.node_id")
  require (node.parentId = none ∨ (node.parentId, node.kind, node.ordinal) ∉
      db.storyNodes.map fun other => (other.parentId, other.kind, other.ordinal))
    (uniqueFailed "story_nodes.parent_id, story_nodes.kind, story_nodes.ordinal")
  require (∀ parentId ∈ node.parentId, parentId ∈ db.storyNodes.map (·.nodeId)) foreignKeyFailed
  return { db with storyNodes := db.storyNodes ++ [node] }

/-- The node that a manuscript belongs to. -/
def manuscriptNode (document : Document) : Option String :=
  if document.documentKind = .manuscript then document.storyNodeId else none

/-- Inserts a document; a node has one manuscript. -/
def insertDocument (document : Document) (db : Database Fp) : CoreResult (Database Fp) := do
  require (document.documentId ∉ db.documents.map (·.documentId))
    (uniqueFailed "documents.document_id")
  require (∀ node ∈ manuscriptNode document, some node ∉ db.documents.map manuscriptNode)
    (uniqueFailed "documents.story_node_id")
  require (∀ node ∈ document.storyNodeId, node ∈ db.storyNodes.map (·.nodeId)) foreignKeyFailed
  return { db with documents := db.documents ++ [document] }

end Database

/-- The node with the largest key. -/
def lastBy {K : Type} [LinearOrder K] (key : StoryNode → K) (nodes : List StoryNode) :
    Option StoryNode :=
  (nodes.insertionSort fun a b => key b ≤ key a).head?

/-! ## Chapters -/

structure ChapterReceiptRow (Fp : Type) where
  idempotencyKey : String
  projectId : String
  unitId : String
  chapterId : String
  documentId : String
  ordinal : ℕ
  title : String
  requestFingerprint : Fp
  createdAt : String
  deriving DecidableEq

structure ChapterCreationReceipt (Fp : Type) where
  chapterId : String
  documentId : String
  unitId : String
  ordinal : ℕ
  title : String
  requestFingerprint : Fp
  replayed : Bool
  deriving DecidableEq

def ChapterReceiptRow.receipt (row : ChapterReceiptRow Fp) (replayed : Bool) :
    ChapterCreationReceipt Fp where
  chapterId := row.chapterId
  documentId := row.documentId
  unitId := row.unitId
  ordinal := row.ordinal
  title := row.title
  requestFingerprint := row.requestFingerprint
  replayed

/-- The volume of a unit. -/
def Database.volumeOf (db : Database Fp) (unit : StoryNode) : Option StoryNode :=
  (unit.parentId.bind fun parent => Table.lookup StoryNode.nodeId parent db.storyNodes).filter
    fun node => node.kind = .volume

/-- The last unit of the last volume. -/
def Database.lastUnit (db : Database Fp) : Option StoryNode :=
  let placed := db.storyNodes.filterMap fun unit =>
    if unit.kind = .unit then (db.volumeOf unit).map fun volume => (unit, volume) else none
  ((placed.insertionSort fun a b =>
    toLex (b.2.ordinal, toLex (b.1.ordinal, b.1.nodeId)) ≤
      toLex (a.2.ordinal, toLex (a.1.ordinal, a.1.nodeId))).head?).map Prod.fst

section Chapters

variable [Sha256 Fp] [DecidableEq Fp]

def chapterRequestFingerprint (projectId unitId title : String) : Fp :=
  Sha256.ofJson (obj [("project_id", str projectId), ("title", str title),
    ("unit_id", str unitId)])

omit [Sha256 Fp] [DecidableEq Fp] in
/-- The parent of a new chapter. -/
def Database.chapterUnit (db : Database Fp) (requestedUnitId : Option String) :
    CoreResult String :=
  match requestedUnitId with
  | some unitId => do
    require ((Table.lookup StoryNode.nodeId unitId db.storyNodes).map (·.kind) = some .unit)
      (.invalidHierarchy "chapter parent must be an existing unit")
    return unitId
  | none => do
    let unit ← fetch db.lastUnit noRows
    return unit.nodeId

omit [Sha256 Fp] in
def insertChapterReceipt (row : ChapterReceiptRow Fp) (receipts : List (ChapterReceiptRow Fp)) :
    CoreResult (List (ChapterReceiptRow Fp)) := do
  require (row.chapterId ∉ receipts.map (·.chapterId))
    (uniqueFailed "chapter_creation_receipts.chapter_id")
  require (row.documentId ∉ receipts.map (·.documentId))
    (uniqueFailed "chapter_creation_receipts.document_id")
  require ((row.unitId, row.ordinal) ∉ receipts.map fun other => (other.unitId, other.ordinal))
    (uniqueFailed "chapter_creation_receipts.unit_id, chapter_creation_receipts.ordinal")
  require (1 ≤ row.ordinal) (checkFailed "ordinal >= 1")
  return receipts ++ [row]

/-- `create_chapter` over the table of its receipts and the project. -/
def createChapter (projectId : String) (requestedUnitId : Option String)
    (title idempotencyKey createdAt : String)
    (state : List (ChapterReceiptRow Fp) × Database Fp) :
    CoreResult (ChapterCreationReceipt Fp × List (ChapterReceiptRow Fp) × Database Fp) := do
  let (receipts, db) := state
  requireTimestamp createdAt
  require (¬ blank title ∧ title = trim title)
    (.invalidHierarchy "chapter title must be non-empty and trimmed")
  require (¬ blank idempotencyKey ∧ idempotencyKey = trim idempotencyKey)
    (.authorityConflict "chapter idempotency key must be non-empty and trimmed")
  require (db.projectId = projectId)
    (.authorityConflict "chapter project binding does not match the database")
  match Table.lookup ChapterReceiptRow.idempotencyKey idempotencyKey receipts with
  | some stored =>
    require (stored.title = title ∧ (∀ requested ∈ requestedUnitId, requested = stored.unitId) ∧
        stored.requestFingerprint = chapterRequestFingerprint projectId stored.unitId title)
      (.authorityConflict "chapter idempotency key is bound to different input")
    return (stored.receipt true, receipts, db)
  | none =>
    let unitId ← db.chapterUnit requestedUnitId
    let number ← db.nextNodeNumber .chapter "CH"
    let ordinal ← db.nextOrdinal .chapter unitId
    let chapterId := paddedId "CH" number
    let row : ChapterReceiptRow Fp :=
      { idempotencyKey, projectId, unitId, chapterId, documentId := "DOC-" ++ chapterId, ordinal,
        title, requestFingerprint := chapterRequestFingerprint projectId unitId title, createdAt }
    let db ← db.insertStoryNode ⟨chapterId, some unitId, .chapter, ordinal, title⟩
    let db ← db.insertDocument ⟨row.documentId, some chapterId, .manuscript, title, createdAt⟩
    let db := { db with
      searchIndex := db.searchIndex ++ [⟨"document", row.documentId, title, ""⟩] }
    let receipts ← insertChapterReceipt row receipts
    db.validateNovelTopology
    return (row.receipt false, receipts, db)

end Chapters

/-! ## Volumes and units -/

structure StoryNodeCreationReceipt (Fp : Type) where
  nodeId : String
  parentId : String
  kind : StoryKind
  ordinal : ℕ
  title : String
  requestFingerprint : Fp
  replayed : Bool
  deriving DecidableEq

/-- What the two kinds of containers differ in. -/
structure ContainerKind where
  kind : StoryKind
  parentKind : StoryKind
  stem : String

def containerKind : StoryKind → CoreResult ContainerKind
  | .volume => .ok ⟨.volume, .book, "VOL"⟩
  | .unit => .ok ⟨.unit, .volume, "UNIT"⟩
  | _ => .error (.invalidHierarchy "story container creation only supports volume or unit")

/-- The parent that a container gets when none is requested. -/
def Database.defaultParent (db : Database Fp) (container : ContainerKind) : Option StoryNode :=
  match container.kind with
  | .volume => db.storyNodes.find? fun node => node.kind = .book
  | _ => lastBy (fun node => toLex (node.ordinal, node.nodeId))
    (db.storyNodes.filter fun node => node.kind = .volume)

/-- A text member of a stored value, empty when it is none. -/
def Json.memberText (value : Json Fp) (name : String) : String :=
  ((value.get? name).bind Json.asStr).getD ""

section Containers

variable [Sha256 Fp] [DecidableEq Fp]

def storyContainerRequestFingerprint (projectId kind parentId title : String) : Fp :=
  Sha256.ofJson (obj [("kind", str kind), ("parent_id", str parentId),
    ("project_id", str projectId), ("title", str title)])

/-- The answer of a container that was created under the same key. -/
def replayedContainer (projectId : String) (container : ContainerKind)
    (requestedParentId : Option String) (title : String) (receipt : ReceiptRow Fp) :
    CoreResult (StoryNodeCreationReceipt Fp) := do
  require (receipt.receiptKind = "story_container_created")
    (.authorityConflict "story container idempotency key is already bound to another operation")
  let value ← match receipt.payload with
    | .other value => pure value
    | _ => throw (.storage "receipt payload has another schema")
  let parentId := requestedParentId.getD (value.memberText "parent_id")
  let fingerprint : Fp :=
    storyContainerRequestFingerprint projectId container.kind.name parentId title
  require (value.memberText "project_id" = projectId ∧
      value.memberText "kind" = container.kind.name ∧
      value.memberText "parent_id" = parentId ∧ value.memberText "title" = title ∧
      (value.get? "request_fingerprint").bind Json.asFp = some fingerprint)
    (.authorityConflict "story container idempotency key is bound to different input")
  let ordinal := ((value.get? "ordinal").bind Json.asInt).getD 0
  require (ordinal < 2 ^ 32) (.storage "story container ordinal overflow")
  return {
    nodeId := value.memberText "node_id"
    parentId
    kind := container.kind
    ordinal := ordinal.toNat
    title
    requestFingerprint := fingerprint
    replayed := true }

omit [Sha256 Fp] [DecidableEq Fp] in
def Database.containerParent (db : Database Fp) (container : ContainerKind)
    (requestedParentId : Option String) : CoreResult String :=
  match requestedParentId with
  | some parentId => do
    require ((Table.lookup StoryNode.nodeId parentId db.storyNodes).map (·.kind) =
        some container.parentKind)
      (.invalidHierarchy (container.kind.name ++ " parent must be an existing " ++
        container.parentKind.name))
    return parentId
  | none => do
    let parent ← fetch (db.defaultParent container) noRows
    return parent.nodeId

def createStoryContainer (projectId : String) (kind : StoryKind)
    (requestedParentId : Option String) (title idempotencyKey createdAt uuid : String)
    (db : Database Fp) : CoreResult (StoryNodeCreationReceipt Fp × Database Fp) := do
  requireTimestamp createdAt
  let container ← containerKind kind
  require (¬ blank title ∧ title = trim title)
    (.invalidHierarchy (container.kind.name ++ " title must be non-empty and trimmed"))
  requireIdempotencyKey idempotencyKey
  require (db.projectId = projectId)
    (.authorityConflict "story container project binding does not match the database")
  match db.receipt? idempotencyKey with
  | some receipt =>
    let answer ← replayedContainer projectId container requestedParentId title receipt
    return (answer, db)
  | none =>
    let parentId ← db.containerParent container requestedParentId
    let number ← db.nextNodeNumber container.kind container.stem
    let ordinal ← db.nextOrdinal container.kind parentId
    let nodeId := paddedId container.stem number
    let requestFingerprint : Fp :=
      storyContainerRequestFingerprint projectId container.kind.name parentId title
    let db ← db.insertStoryNode ⟨nodeId, some parentId, container.kind, ordinal, title⟩
    let db ← db.insertReceipt
      { receiptId := "receipt-" ++ uuid, receiptKind := "story_container_created",
        idempotencyKey := some idempotencyKey
        payload := .other (obj [("kind", str container.kind.name), ("node_id", str nodeId),
          ("ordinal", int ordinal), ("parent_id", str parentId), ("project_id", str projectId),
          ("request_fingerprint", fp requestFingerprint),
          ("schema", str "quillframe_story_container_create_receipt_v1"), ("title", str title)])
        createdAt }
    db.validateNovelTopology
    return ({ nodeId, parentId, kind := container.kind, ordinal, title, requestFingerprint,
              replayed := false }, db)

end Containers

/-! ## Documents -/

/-- The bridge's `document_create`. -/
def documentCreate (projectId documentId title : String) (kind : DocumentKind)
    (storyNodeId : Option String) (createdAt : String) (db : Database Fp) :
    CoreResult (Database Fp) := do
  stringArg ("project_id", projectId)
  stringArg ("document_id", documentId)
  stringArg ("title", title)
  require (¬ (kind = .manuscript ∧ storyNodeId = none))
    (.invalidProject "manuscript requires a chapter story_node_id")
  require (∀ node ∈ storyNodeId, ¬ ((Table.lookup StoryNode.nodeId node db.storyNodes).map
      (·.kind) ≠ some .chapter ∧ kind = .manuscript))
    (.invalidHierarchy "manuscript must belong to an existing chapter")
  db.insertDocument ⟨documentId, storyNodeId, kind, title, createdAt⟩

/-- The newest revision of a document that is no open candidate. -/
def Database.documentHead (db : Database Fp) (documentId : String) : Option String :=
  let newer (a b : DocumentRevision Fp) : Prop :=
    b.createdAt < a.createdAt ∨ (b.createdAt = a.createdAt ∧ b.revisionId ≤ a.revisionId)
  have : DecidableRel newer := fun _ _ => inferInstanceAs (Decidable (_ ∨ _))
  ((db.documentRevisions.filter fun revision => revision.documentId = documentId ∧
    (revision.source ≠ "production_candidate" ∨ revision.authorityClass = .accepted)).insertionSort
      newer).head?.map DocumentRevision.revisionId

/-- A manual revision, with the id that it generates. -/
structure ManualRevision (Fp : Type) where
  projectId : String
  documentId : String
  content : String
  source : String
  authorityClass : RevisionAuthority
  expectedParent : Option String
  provenance : Json Fp
  createdAt : String
  uuid : String

/-- The bridge's `document_revision_save`: the revision and whether it was there already. -/
def documentRevisionSave [Sha256 Fp] [DecidableEq Fp] (r : ManualRevision Fp)
    (db : Database Fp) : CoreResult ((String × Bool) × Database Fp) := do
  stringArg ("project_id", r.projectId)
  stringArg ("document_id", r.documentId)
  stringArg ("source", r.source)
  require (r.source ≠ "production_runtime")
    (.authorityConflict "production revisions must use the production pipeline")
  require (r.authorityClass = .proposal ∨ r.authorityClass = .review)
    (.authorityConflict "manual revision authority must be proposal or review")
  let contentFingerprint : Fp := Sha256.ofText r.content
  match db.documentRevisions.find? fun revision =>
      revision.documentId = r.documentId ∧ revision.contentFingerprint = contentFingerprint with
  | some existing => return ((existing.revisionId, true), db)
  | none =>
    let current := db.documentHead r.documentId
    require (current = r.expectedParent) (.authorityConflict "document head changed")
    let revisionId := "REV-" ++ r.uuid
    require (revisionId ∉ db.documentRevisions.map (·.revisionId))
      (uniqueFailed "document_revisions.revision_id")
    require (r.documentId ∈ db.documents.map (·.documentId)) foreignKeyFailed
    return ((revisionId, false), { db with
      documentRevisions := db.documentRevisions ++
        [{ revisionId, documentId := r.documentId, parentRevisionId := current,
           content := r.content, contentFingerprint, createdAt := r.createdAt,
           source := r.source, authorityClass := r.authorityClass,
           provenance := r.provenance }] })

/-! ## What the calls write -/

theorem Database.insertStoryNode_eq_ok {node : StoryNode} {db db' : Database Fp}
    (h : db.insertStoryNode node = .ok db') :
    node.nodeId ∉ db.storyNodes.map (·.nodeId) ∧
      db' = { db with storyNodes := db.storyNodes ++ [node] } := by
  simp only [insertStoryNode, bind_eq_ok, require_eq_ok, exists_const, pure_eq_ok] at h
  obtain ⟨hfresh, -, -, rfl⟩ := h
  exact ⟨hfresh, rfl⟩

/-- The document has a new id, and its chapter no other manuscript. -/
def Database.NewDocument (db : Database Fp) (document : Document) : Prop :=
  document.documentId ∉ db.documents.map (·.documentId) ∧
    (document.documentKind = .manuscript → ∃ node, document.storyNodeId = some node ∧
      ∀ other ∈ db.documents, other.documentKind = .manuscript → other.storyNodeId ≠ some node)

theorem Database.insertDocument_eq_ok {document : Document} {db db' : Database Fp}
    (hnode : document.documentKind = .manuscript → document.storyNodeId ≠ none)
    (h : db.insertDocument document = .ok db') :
    db.NewDocument document ∧ db' = { db with documents := db.documents ++ [document] } := by
  simp only [insertDocument, bind_eq_ok, require_eq_ok, exists_const, pure_eq_ok] at h
  obtain ⟨hfresh, hmanuscript, -, rfl⟩ := h
  refine ⟨⟨hfresh, fun hkind => ?_⟩, rfl⟩
  obtain ⟨node, hsome⟩ := Option.ne_none_iff_exists'.mp (hnode hkind)
  refine ⟨node, hsome, fun other hother hotherKind hotherNode => ?_⟩
  refine hmanuscript node ?_ (List.mem_map.mpr ⟨other, hother, ?_⟩)
  · simp [manuscriptNode, hkind, hsome]
  · simp [manuscriptNode, hotherKind, hotherNode]

/-- A chapter is a replay, or a new node with its manuscript. -/
theorem createChapter_eq_ok [Sha256 Fp] [DecidableEq Fp] {projectId : String}
    {requestedUnitId : Option String} {title idempotencyKey createdAt : String}
    {receipts receipts' : List (ChapterReceiptRow Fp)} {receipt : ChapterCreationReceipt Fp}
    {db db' : Database Fp}
    (h : createChapter projectId requestedUnitId title idempotencyKey createdAt (receipts, db) =
      .ok (receipt, receipts', db')) :
    db' = db ∨ ∃ node document row,
      node.nodeId ∉ db.storyNodes.map (·.nodeId) ∧ node.kind = .chapter ∧
      db.NewDocument document ∧ document.documentKind = .manuscript ∧
      document.storyNodeId = some node.nodeId ∧
      db' = { db with
        storyNodes := db.storyNodes ++ [node]
        documents := db.documents ++ [document]
        searchIndex := db.searchIndex ++ [row] } ∧
      db'.validateNovelTopology = .ok () := by
  simp only [createChapter, bind_eq_ok, require_eq_ok, exists_const] at h
  obtain ⟨_, -, -, -, -, h⟩ := h
  split at h
  · simp only [bind_eq_ok, require_eq_ok, exists_const, pure_eq_ok, Prod.mk.injEq] at h
    exact .inl h.2.2.2.symm
  · simp only [bind_eq_ok, pure_eq_ok, Prod.mk.injEq] at h
    obtain ⟨unitId, -, number, -, ordinal, -, placed, hplaced, stored, hstored, _, -, ⟨⟩, hvalid,
      -, -, rfl⟩ := h
    obtain ⟨hnode, rfl⟩ := Database.insertStoryNode_eq_ok hplaced
    obtain ⟨hdocument, rfl⟩ := Database.insertDocument_eq_ok (by simp) hstored
    exact .inr ⟨_, _, _, hnode, rfl, hdocument, rfl, rfl, rfl, hvalid⟩

/-- A container is a replay, or a new node and a receipt. -/
theorem createStoryContainer_eq_ok [Sha256 Fp] [DecidableEq Fp] {projectId : String}
    {kind : StoryKind} {requestedParentId : Option String}
    {title idempotencyKey createdAt uuid : String} {answer : StoryNodeCreationReceipt Fp}
    {db db' : Database Fp}
    (h : createStoryContainer projectId kind requestedParentId title idempotencyKey createdAt uuid
      db = .ok (answer, db')) :
    db' = db ∨ ∃ node receipt payload,
      node.nodeId ∉ db.storyNodes.map (·.nodeId) ∧ receipt.payload = .other payload ∧
      db' = { db with
        storyNodes := db.storyNodes ++ [node]
        receipts := db.receipts ++ [receipt] } ∧
      db'.validateNovelTopology = .ok () := by
  simp only [createStoryContainer, bind_eq_ok, require_eq_ok, exists_const] at h
  obtain ⟨_, -, container, -, -, _, -, -, h⟩ := h
  split at h
  · simp only [bind_eq_ok, pure_eq_ok, Prod.mk.injEq] at h
    obtain ⟨_, -, -, rfl⟩ := h
    exact .inl rfl
  · simp only [bind_eq_ok, pure_eq_ok, Prod.mk.injEq] at h
    obtain ⟨parentId, -, number, -, ordinal, -, placed, hplaced, receipted, hreceipted, ⟨⟩,
      hvalid, -, rfl⟩ := h
    obtain ⟨hnode, rfl⟩ := Database.insertStoryNode_eq_ok hplaced
    obtain ⟨-, rfl⟩ := Database.insertReceipt_eq_ok hreceipted
    exact .inr ⟨_, _, _, hnode, rfl, rfl, hvalid⟩

theorem documentCreate_eq_ok {projectId documentId title : String} {kind : DocumentKind}
    {storyNodeId : Option String} {createdAt : String} {db db' : Database Fp}
    (h : documentCreate projectId documentId title kind storyNodeId createdAt db = .ok db') :
    ∃ document, db.NewDocument document ∧
      db' = { db with documents := db.documents ++ [document] } := by
  simp only [documentCreate, bind_eq_ok, require_eq_ok, exists_const] at h
  obtain ⟨_, -, _, -, _, -, hnode, -, h⟩ := h
  exact ⟨_, Database.insertDocument_eq_ok (fun hkind hnone => hnode ⟨hkind, hnone⟩) h⟩

/-- A manual revision is there already, or is new and open. -/
theorem documentRevisionSave_eq_ok [Sha256 Fp] [DecidableEq Fp] {r : ManualRevision Fp}
    {answer : String × Bool} {db db' : Database Fp}
    (h : documentRevisionSave r db = .ok (answer, db')) :
    db' = db ∨ ∃ revision : DocumentRevision Fp,
      revision.revisionId ∉ db.documentRevisions.map (·.revisionId) ∧
      ((revision.documentId, revision.contentFingerprint) ∉
        db.documentRevisions.map fun row => (row.documentId, row.contentFingerprint)) ∧
      revision.documentId ∈ db.documents.map (·.documentId) ∧
      (revision.authorityClass = .proposal ∨ revision.authorityClass = .review) ∧
      db' = { db with documentRevisions := db.documentRevisions ++ [revision] } := by
  simp only [documentRevisionSave, bind_eq_ok, require_eq_ok, exists_const] at h
  obtain ⟨_, -, _, -, _, -, -, hauthority, h⟩ := h
  split at h
  · simp only [pure_eq_ok, Prod.mk.injEq] at h
    exact .inl h.2.symm
  · rename_i hnone
    simp only [bind_eq_ok, require_eq_ok, exists_const, pure_eq_ok, Prod.mk.injEq] at h
    obtain ⟨-, hfresh, hdocument, -, rfl⟩ := h
    refine .inr ⟨_, hfresh, fun hmem => ?_, hdocument, hauthority, rfl⟩
    obtain ⟨other, hother, he⟩ := List.mem_map.mp hmem
    obtain ⟨hid, hfp⟩ := Prod.mk.inj he
    simpa [hid, hfp] using List.find?_eq_none.mp hnone other hother

end Quillframe
