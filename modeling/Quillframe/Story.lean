import Quillframe.Schema

/-! The story graph: book, volumes, units, chapters and scenes, inserted one node at a time, and
its reading from the tables of a project. -/
namespace Quillframe

variable {Fp : Type}

namespace StoryKind

/-- The prefix of a canonical target, also the stored name of a kind. -/
def name : StoryKind → String
  | .book => "book"
  | .volume => "volume"
  | .arc => "arc"
  | .unit => "unit"
  | .chapter => "chapter"
  | .scene => "scene"

def debugName : StoryKind → String
  | .book => "Book"
  | .volume => "Volume"
  | .unit => "Unit"
  | .chapter => "Chapter"
  | .arc | .scene => "Scene"

/-- The graph has no arcs: a stored arc is read as a scene. -/
def expectedParent : StoryKind → Option StoryKind
  | .book => none
  | .volume => some .book
  | .unit => some .volume
  | .chapter => some .unit
  | .arc | .scene => some .chapter

end StoryKind

structure GraphNode where
  id : String
  parentId : Option String
  kind : StoryKind
  ordinal : ℕ
  title : String
  manuscriptId : Option String
  deriving DecidableEq, Repr

structure StoryGraph where
  nodes : OrderedMap String GraphNode
  siblingOrdinals : List (Option String × StoryKind × ℕ)
  chapterReadingOrder : OrderedMap ℕ String

def validateNodeId (value : String) : CoreResult Unit :=
  require (¬ (value = "" ∨ 96 < value.utf8ByteSize ∨
      ¬ ∀ c ∈ value.toList, c.isAlphanum ∨ c = '-' ∨ c = '_'))
    (.invalidHierarchy "node id is not canonical")

namespace StoryGraph

def empty : StoryGraph := ⟨.empty, [], .empty⟩

/-- The parent of a node must be there and of the kind above. -/
def checkParent (graph : StoryGraph) (node : GraphNode) : CoreResult Unit :=
  match node.kind.expectedParent with
  | none =>
    require (¬ (node.parentId.isSome ∨ ∃ value ∈ graph.nodes.values, value.kind = .book))
      (.invalidHierarchy "book must be the single root")
  | some expected => do
    let parentId ← fetch node.parentId (.invalidHierarchy "non-book node requires a parent")
    let parent ← fetch (graph.nodes.get? parentId)
      (.invalidHierarchy "parent node does not exist")
    require (parent.kind = expected)
      (.invalidHierarchy (node.kind.debugName ++ " requires " ++ expected.debugName ++ " parent"))

def checkManuscript (node : GraphNode) : CoreResult Unit :=
  if node.kind = .chapter then
    require (¬ (node.manuscriptId = none ∨ node.manuscriptId = some ""))
      (.invalidHierarchy "chapter requires exactly one manuscript id")
  else
    require (node.manuscriptId = none)
      (.invalidHierarchy "only chapters may bind manuscript documents")

def insert (graph : StoryGraph) (node : GraphNode) : CoreResult StoryGraph := do
  validateNodeId node.id
  require (node.id ∉ graph.nodes) (.invalidHierarchy "node id already exists")
  require (¬ (node.ordinal = 0 ∨ blank node.title))
    (.invalidHierarchy "ordinal must be positive and title must be non-empty")
  graph.checkParent node
  checkManuscript node
  require ((node.parentId, node.kind, node.ordinal) ∉ graph.siblingOrdinals)
    (.invalidHierarchy "sibling ordinal already exists")
  return {
    nodes := graph.nodes.insert node.id node
    siblingOrdinals := (node.parentId, node.kind, node.ordinal) :: graph.siblingOrdinals
    chapterReadingOrder :=
      if node.kind = .chapter then
        graph.chapterReadingOrder.insert (graph.chapterReadingOrder.entries.length + 1) node.id
      else graph.chapterReadingOrder }

def node (graph : StoryGraph) (id : String) : Option GraphNode := graph.nodes.get? id

/-- The walk from a node to the root, at most as many steps as there are nodes. -/
def ancestorsLoop (graph : StoryGraph) : ℕ → GraphNode → List GraphNode →
    CoreResult (List GraphNode)
  | 0, _, _ => throw (.invalidHierarchy "story graph contains a broken parent")
  | fuel + 1, current, below =>
    match current.parentId with
    | none => return below
    | some parentId => do
      let parent ← fetch (graph.nodes.get? parentId)
        (.invalidHierarchy "story graph contains a broken parent")
      graph.ancestorsLoop fuel parent (parent :: below)

/-- The ancestors of a node, from the book down. -/
def ancestors (graph : StoryGraph) (id : String) : CoreResult (List GraphNode) := do
  let current ← fetch (graph.nodes.get? id) (.invalidHierarchy "target node does not exist")
  graph.ancestorsLoop (graph.nodes.entries.length + 1) current []

def canonicalTarget (graph : StoryGraph) (id : String) : CoreResult String := do
  let node ← fetch (graph.nodes.get? id) (.invalidHierarchy "target node does not exist")
  return node.kind.name ++ ":" ++ node.id

end StoryGraph

/-! ## Reading the graph -/

/-- The order of the rows that the graph is read from; an arc has no rank and comes first. -/
def StoryNode.loadRank (node : StoryNode) : ℕ ×ₗ ℤ ×ₗ String :=
  let rank := match node.kind with
    | .arc => 0
    | .book => 1
    | .volume => 2
    | .unit => 3
    | .chapter => 4
    | .scene => 5
  toLex (rank, toLex (node.ordinal, node.nodeId))

def Database.graphNode (db : Database Fp) (node : StoryNode) : CoreResult GraphNode := do
  require (0 ≤ node.ordinal ∧ node.ordinal < 2 ^ 32)
    (.storage "Integer out of range at index 3")
  return {
    id := node.nodeId
    parentId := node.parentId
    kind := if node.kind = .arc then .scene else node.kind
    ordinal := node.ordinal.toNat
    title := node.title
    manuscriptId := (db.documents.find? fun document =>
      document.storyNodeId = some node.nodeId ∧ document.documentKind = .manuscript).map
        Document.documentId }

def Database.loadStoryGraph (db : Database Fp) : CoreResult StoryGraph := do
  let nodes ← (db.storyNodes.insertionSort fun a b => a.loadRank ≤ b.loadRank).mapM db.graphNode
  forEach StoryGraph.insert nodes .empty

end Quillframe
