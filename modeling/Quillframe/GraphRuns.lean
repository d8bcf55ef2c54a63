import Quillframe.Graph
import Quillframe.Mutation

/-!
# Insertions into the graph

Any sequence of insertions, refused ones included, leaves a tree under at most one book. The walk
from a node to the book meets one node of every kind above.
-/
namespace Quillframe

variable {Fp : Type}

/-- How many nodes stand above a node of the kind. -/
def StoryKind.depth : StoryKind → ℕ
  | .book => 0
  | .volume => 1
  | .unit => 2
  | .chapter => 3
  | .arc | .scene => 4

theorem StoryKind.depth_of_expectedParent {kind parent : StoryKind}
    (h : kind.expectedParent = some parent) : kind.depth = parent.depth + 1 := by
  cases kind <;> simp [expectedParent] at h <;> subst h <;> rfl

theorem StoryKind.expectedParent_eq_none {kind : StoryKind} :
    kind.expectedParent = none ↔ kind = .book := by
  cases kind <;> simp [expectedParent]

namespace StoryGraph

/-! ## The call -/

instance lawfulPosition : LawfulBEq (Option String × StoryKind × ℕ) := inferInstance

/-- `self.sibling_ordinals.insert(key)`: whether the position was free. -/
def takePosition (position : Option String × StoryKind × ℕ) :
    Mutation CoreError StoryGraph Bool := fun graph =>
  if position ∈ graph.siblingOrdinals then .ok false graph
  else .ok true { graph with siblingOrdinals := position :: graph.siblingOrdinals }

/-- `StoryGraph::insert`, assignment by assignment. -/
def insertNode (node : GraphNode) : Mutation CoreError StoryGraph Unit := do
  Mutation.check (validateNodeId node.id)
  let graph ← get
  Mutation.check (require (node.id ∉ graph.nodes) (.invalidHierarchy "node id already exists"))
  Mutation.check (require (¬ (node.ordinal = 0 ∨ blank node.title))
    (.invalidHierarchy "ordinal must be positive and title must be non-empty"))
  Mutation.check (graph.checkParent node)
  Mutation.check (checkManuscript node)
  let free ← takePosition (node.parentId, node.kind, node.ordinal)
  Mutation.check (require (free = true) (.invalidHierarchy "sibling ordinal already exists"))
  modify fun graph => { graph with
    chapterReadingOrder :=
      if node.kind = .chapter then
        graph.chapterReadingOrder.insert (graph.chapterReadingOrder.entries.length + 1) node.id
      else graph.chapterReadingOrder }
  modify fun graph => { graph with nodes := graph.nodes.insert node.id node }

/-- The graph after a sequence of calls. -/
def afterCalls (graph : StoryGraph) (nodes : List GraphNode) : StoryGraph :=
  nodes.foldl (fun graph node => (insertNode node).after graph) graph

section Call

variable {graph next : StoryGraph} {node : GraphNode}

/-- What a successful insertion has checked and what it adds. -/
structure Inserted (graph : StoryGraph) (node : GraphNode) (next : StoryGraph) : Prop where
  canonical : validateNodeId node.id = .ok ()
  fresh : node.id ∉ graph.nodes
  ordinal : node.ordinal ≠ 0
  titled : ¬ blank node.title
  parent : graph.checkParent node = .ok ()
  manuscript : checkManuscript node = .ok ()
  free : node.position ∉ graph.siblingOrdinals
  nodes : next.nodes = graph.nodes.insert node.id node
  siblings : next.siblingOrdinals = node.position :: graph.siblingOrdinals

theorem insert_eq_ok (h : graph.insert node = .ok next) : graph.Inserted node next := by
  simp only [insert, bind_eq_ok, require_eq_ok, exists_const, pure_eq_ok, not_or] at h
  obtain ⟨_, hcanonical, hfresh, ⟨hordinal, htitled⟩, _, hparent, _, hmanuscript, hfree, rfl⟩ := h
  exact ⟨hcanonical, hfresh, hordinal, htitled, hparent, hmanuscript, hfree, rfl, rfl⟩

/-- The call answers as the insertion does, and a refused one assigns nothing. -/
theorem insertNode_eq (graph : StoryGraph) (node : GraphNode) :
    insertNode node graph =
      match graph.insert node with
      | .ok next => .ok () next
      | .error e => .error e graph := by
  have hget : ∀ {β : Type} (rest : StoryGraph → Mutation CoreError StoryGraph β),
      (get >>= rest) graph = rest graph graph := fun _ => rfl
  have hok : ∀ {α β : Type} (x : α) (rest : α → CoreResult β),
      ((.ok x : CoreResult α) >>= rest) = rest x := fun _ _ => rfl
  have herror : ∀ {α β : Type} (e : CoreError) (rest : α → CoreResult β),
      ((.error e : CoreResult α) >>= rest) = .error e := fun _ _ => rfl
  have hmodify : ∀ change : StoryGraph → StoryGraph,
      (modify change : Mutation CoreError StoryGraph PUnit) graph = .ok ⟨⟩ (change graph) :=
    fun _ => rfl
  simp only [insertNode, insert, Mutation.check_bind, hget]
  cases validateNodeId node.id with
  | error e => rfl
  | ok _ =>
    rw [hok]
    dsimp only
    by_cases hfresh : node.id ∉ graph.nodes
    · by_cases htitled : ¬ (node.ordinal = 0 ∨ blank node.title)
      · cases hparent : graph.checkParent node with
        | error e => simp [require, hfresh, htitled, hok, herror]
        | ok _ =>
          cases hmanuscript : checkManuscript node with
          | error e => simp [require, hfresh, htitled, hok, herror]
          | ok _ =>
            by_cases hfree : (node.parentId, node.kind, node.ordinal) ∈ graph.siblingOrdinals
            · simp [require, hfresh, htitled, hfree, takePosition, bind, EStateM.bind,
                Mutation.check]
              rfl
            · simp [require, hfresh, htitled, hfree, takePosition, bind, EStateM.bind,
                Mutation.check, pure, Except.pure]
              rfl
      · simp [require, hfresh, htitled, hok, herror]
    · simp [require, hfresh, herror]

theorem insertNode_error {e : CoreError} (h : insertNode node graph = .error e next) :
    graph.insert node = .error e ∧ next = graph := by
  rw [insertNode_eq] at h
  cases hinsert : graph.insert node with
  | ok _ => simp [hinsert] at h
  | error _ =>
    simp only [hinsert, EStateM.Result.error.injEq] at h
    exact ⟨congrArg _ h.1, h.2.symm⟩

end Call

/-! ## The tree -/

/-- What stands in a graph: a forest of nodes under their parents with at most one book. -/
structure Tree (graph : StoryGraph) : Prop where
  keyed : ∀ id node, graph.node id = some node → node.id = id
  book : ∀ id id' first second, graph.node id = some first → graph.node id' = some second →
    first.kind = .book → second.kind = .book → first = second
  root : ∀ id node, graph.node id = some node → node.kind = .book → node.parentId = none
  parents : ∀ id node, graph.node id = some node → node.kind ≠ .book → ∃ parentId parent,
    node.parentId = some parentId ∧ graph.node parentId = some parent ∧
      node.kind.expectedParent = some parent.kind
  siblings : ∀ id id' first second, graph.node id = some first → graph.node id' = some second →
    first.parentId = second.parentId → first.kind = second.kind →
      first.ordinal = second.ordinal → first = second
  manuscripts : ∀ id node, graph.node id = some node →
    (node.manuscriptId.isSome ↔ node.kind = .chapter)
  taken : ∀ position, position ∈ graph.siblingOrdinals ↔
    ∃ id node, graph.node id = some node ∧ node.position = position

section Tree

variable {graph next : StoryGraph} {node : GraphNode} {id : String}

theorem Tree.empty : StoryGraph.empty.Tree := by
  have hnode : ∀ id, StoryGraph.empty.node id = none := fun _ => rfl
  have hfree : ∀ position, position ∉ StoryGraph.empty.siblingOrdinals := by
    simp [StoryGraph.empty]
  constructor <;> simp [hnode, hfree]

/-- A node of the graph after an insertion is the new one or one of before. -/
theorem Inserted.node_cases (h : graph.Inserted node next) {other : GraphNode}
    (hother : next.node id = some other) :
    id = node.id ∧ other = node ∨ id ≠ node.id ∧ graph.node id = some other := by
  rw [StoryGraph.node, h.nodes] at hother
  by_cases hid : id = node.id
  · rw [hid, OrderedMap.get?_insert_self, Option.some.injEq] at hother
    exact .inl ⟨hid, hother.symm⟩
  · rw [OrderedMap.get?_insert_of_ne _ hid] at hother
    exact .inr ⟨hid, hother⟩

theorem Inserted.node_new (h : graph.Inserted node next) : next.node node.id = some node := by
  rw [StoryGraph.node, h.nodes, OrderedMap.get?_insert_self]

theorem Inserted.node_old (h : graph.Inserted node next) {other : GraphNode}
    (hother : graph.node id = some other) : next.node id = some other := by
  have hne : id ≠ node.id := by
    intro hid
    apply h.fresh
    rw [OrderedMap.mem_iff_get?, ← hid, ← StoryGraph.node, hother, Option.isSome_some]
  rw [StoryGraph.node, h.nodes, OrderedMap.get?_insert_of_ne _ hne]
  exact hother

theorem node_mem_values (h : graph.node id = some node) : node ∈ graph.nodes.values :=
  List.mem_map.mpr ⟨(id, node), OrderedMap.mem_entries.mpr h, rfl⟩

/-- The book has no parent and comes once. -/
theorem checkParent_book (h : graph.checkParent node = .ok ()) (hkind : node.kind = .book) :
    node.parentId = none ∧ ∀ id other, graph.node id = some other → other.kind ≠ .book := by
  simp only [checkParent, hkind, StoryKind.expectedParent, require_eq_ok, not_or, not_exists,
    not_and, Bool.not_eq_true, Option.isSome_eq_false_iff, Option.isNone_iff_eq_none] at h
  exact ⟨h.1, fun id other hother => h.2 other (node_mem_values hother)⟩

theorem checkParent_below (h : graph.checkParent node = .ok ()) (hkind : node.kind ≠ .book) :
    ∃ parentId parent, node.parentId = some parentId ∧ graph.node parentId = some parent ∧
      node.kind.expectedParent = some parent.kind := by
  cases hexpected : node.kind.expectedParent with
  | none => exact absurd (StoryKind.expectedParent_eq_none.mp hexpected) hkind
  | some expected =>
    simp only [checkParent, hexpected, bind_eq_ok, fetch_eq_ok, require_eq_ok] at h
    obtain ⟨parentId, hparentId, parent, hparent, hsame⟩ := h
    exact ⟨parentId, parent, hparentId, hparent, by rw [hsame]⟩

theorem checkManuscript_iff (h : checkManuscript node = .ok ()) :
    node.manuscriptId.isSome ↔ node.kind = .chapter := by
  rw [checkManuscript] at h
  split_ifs at h with hkind
  · simp only [require_eq_ok, not_or] at h
    simp [hkind, Option.isSome_iff_ne_none, h.1]
  · simp only [require_eq_ok] at h
    simp [hkind, h]

/-- A successful insertion keeps the tree. -/
theorem Tree.inserted (htree : graph.Tree) (h : graph.Inserted node next) : next.Tree where
  keyed id other hother := by
    rcases h.node_cases hother with ⟨hid, hsame⟩ | ⟨-, hold⟩
    · rw [hsame, hid]
    · exact htree.keyed id other hold
  book id id' first second hfirst hsecond hbook hbook' := by
    have hnone := fun hkind => (checkParent_book h.parent hkind).2
    rcases h.node_cases hfirst with ⟨-, hnew⟩ | ⟨-, hold⟩
    · rcases h.node_cases hsecond with ⟨-, hnew'⟩ | ⟨-, hold'⟩
      · rw [hnew, hnew']
      · exact absurd hbook' (hnone (hnew ▸ hbook) id' second hold')
    · rcases h.node_cases hsecond with ⟨-, hnew'⟩ | ⟨-, hold'⟩
      · exact absurd hbook (hnone (hnew' ▸ hbook') id first hold)
      · exact htree.book id id' first second hold hold' hbook hbook'
  root id other hother hkind := by
    rcases h.node_cases hother with ⟨-, hnew⟩ | ⟨-, hold⟩
    · rw [hnew]
      exact (checkParent_book h.parent (hnew ▸ hkind)).1
    · exact htree.root id other hold hkind
  parents id other hother hkind := by
    rcases h.node_cases hother with ⟨-, hnew⟩ | ⟨-, hold⟩
    · rw [hnew] at hkind ⊢
      obtain ⟨parentId, parent, hparentId, hparent, hexpected⟩ := checkParent_below h.parent hkind
      exact ⟨parentId, parent, hparentId, h.node_old hparent, hexpected⟩
    · obtain ⟨parentId, parent, hparentId, hparent, hexpected⟩ := htree.parents id other hold hkind
      exact ⟨parentId, parent, hparentId, h.node_old hparent, hexpected⟩
  siblings id id' first second hfirst hsecond hparent hkind hordinal := by
    -- the position of the new node was free
    have hfree : ∀ id other, graph.node id = some other → other.position ≠ node.position :=
      fun id other hother hposition =>
        h.free ((htree.taken node.position).mpr ⟨id, other, hother, hposition⟩)
    have hsame : first.position = second.position := by
      simp only [GraphNode.position, hparent, hkind, hordinal]
    rcases h.node_cases hfirst with ⟨-, hnew⟩ | ⟨-, hold⟩
    · rcases h.node_cases hsecond with ⟨-, hnew'⟩ | ⟨-, hold'⟩
      · rw [hnew, hnew']
      · exact absurd (hsame.symm.trans (congrArg _ hnew)) (hfree id' second hold')
    · rcases h.node_cases hsecond with ⟨-, hnew'⟩ | ⟨-, hold'⟩
      · exact absurd (hsame.trans (congrArg _ hnew')) (hfree id first hold)
      · exact htree.siblings id id' first second hold hold' hparent hkind hordinal
  manuscripts id other hother := by
    rcases h.node_cases hother with ⟨-, hnew⟩ | ⟨-, hold⟩
    · rw [hnew]
      exact checkManuscript_iff h.manuscript
    · exact htree.manuscripts id other hold
  taken position := by
    rw [h.siblings, List.mem_cons, htree.taken]
    constructor
    · rintro (hnew | ⟨id, other, hother, hposition⟩)
      · exact ⟨node.id, node, h.node_new, hnew.symm⟩
      · exact ⟨id, other, h.node_old hother, hposition⟩
    · rintro ⟨id, other, hother, hposition⟩
      rcases h.node_cases hother with ⟨-, hnew⟩ | ⟨-, hold⟩
      · exact .inl (by rw [← hposition, hnew])
      · exact .inr ⟨id, other, hold, hposition⟩

/-- An insertion, refused or not, keeps the tree. -/
theorem Tree.after (htree : graph.Tree) (node : GraphNode) :
    ((insertNode node).after graph).Tree := by
  rw [Mutation.after, insertNode_eq]
  cases hinsert : graph.insert node with
  | error _ => exact htree
  | ok next => exact htree.inserted (insert_eq_ok hinsert)

theorem Tree.afterCalls (htree : graph.Tree) (nodes : List GraphNode) :
    (graph.afterCalls nodes).Tree := by
  induction nodes generalizing graph with
  | nil => exact htree
  | cons node rest ih => exact ih (htree.after node)

end Tree

/-- Where no call is refused, the calls are the loader's loop. -/
theorem afterCalls_of_forEach {graph next : StoryGraph} {nodes : List GraphNode}
    (h : forEach insert nodes graph = .ok next) : graph.afterCalls nodes = next := by
  induction nodes generalizing graph with
  | nil => simpa [forEach, afterCalls] using h
  | cons node rest ih =>
    obtain ⟨mid, hmid, hrest⟩ := bind_eq_ok.mp h
    have hafter : (insertNode node).after graph = mid := by
      rw [Mutation.after, insertNode_eq, hmid]
    have hcons : graph.afterCalls (node :: rest) = ((insertNode node).after graph).afterCalls rest :=
      rfl
    rw [hcons, hafter]
    exact ih hrest

/-! ## The walk to the book -/

/-- The nodes above a node, from the book down: each is the parent of the next. -/
structure LeadsTo (graph : StoryGraph) (chain : List GraphNode) (node : GraphNode) : Prop where
  stored : ∀ upper ∈ chain, graph.node upper.id = some upper
  book : ∀ first, (chain ++ [node]).head? = some first → first.kind = .book
  linked : (chain ++ [node]).IsChain fun upper lower => lower.parentId = some upper.id

section Walk

variable {graph : StoryGraph} {node parent : GraphNode} {chain : List GraphNode} {id : String}

theorem LeadsTo.below (h : graph.LeadsTo chain parent) (hparent : graph.node parent.id = some parent)
    (hnode : node.parentId = some parent.id) : graph.LeadsTo (chain ++ [parent]) node where
  stored := List.forall_mem_append.mpr ⟨h.stored, by simpa using hparent⟩
  book first hfirst := h.book first (by cases chain <;> simpa using hfirst)
  linked := by
    apply List.IsChain.append h.linked (List.isChain_singleton _)
    simpa using hnode

/-- The walk takes as many steps as there are kinds above the node. -/
theorem Tree.walk (htree : graph.Tree) {depth : ℕ} (hnode : graph.node id = some node)
    (hdepth : node.kind.depth = depth) :
    ∃ chain, graph.LeadsTo chain node ∧ chain.map (·.kind.depth) = List.range depth ∧
      ∀ steps below, depth < steps → graph.ancestorsLoop steps node below = .ok (chain ++ below) := by
  induction depth generalizing id node with
  | zero =>
    have hbook : node.kind = .book := by
      revert hdepth
      cases node.kind <;> simp [StoryKind.depth]
    refine ⟨[], ⟨by simp, by simpa using hbook, List.isChain_singleton _⟩, rfl, ?_⟩
    intro steps below hsteps
    obtain ⟨steps, rfl⟩ := Nat.exists_eq_add_one.mpr hsteps
    simp [ancestorsLoop, htree.root id node hnode hbook, pure, Except.pure]
  | succ depth ih =>
    have hbelow : node.kind ≠ .book := by
      intro hbook
      simp [hbook, StoryKind.depth] at hdepth
    obtain ⟨parentId, parent, hparentId, hparent, hexpected⟩ := htree.parents id node hnode hbelow
    have hid := htree.keyed parentId parent hparent
    have hparentDepth := StoryKind.depth_of_expectedParent hexpected
    obtain ⟨chain, hleads, hdepths, hwalk⟩ := ih hparent (by omega)
    have hlinked : graph.LeadsTo (chain ++ [parent]) node :=
      hleads.below (by rw [hid, hparent]) (by rw [hid, hparentId])
    refine ⟨chain ++ [parent], hlinked, ?_, ?_⟩
    · have hlast : parent.kind.depth = depth := by omega
      rw [List.map_append, hdepths, List.map_singleton, hlast, List.range_succ]
    · intro steps below hsteps
      obtain ⟨steps, rfl⟩ := Nat.exists_eq_add_one.mpr (Nat.zero_lt_of_lt hsteps)
      have hfetch : graph.nodes.get? parentId = some parent := hparent
      have hrest := hwalk steps (parent :: below) (by omega)
      simp [ancestorsLoop, hparentId, hfetch, fetch, hrest, bind, Except.bind]

/-- The nodes above a node are fewer than the nodes of the graph. -/
theorem LeadsTo.length_le (h : graph.LeadsTo chain node)
    (hdepths : chain.map (·.kind.depth) = List.range chain.length) :
    chain.length ≤ graph.nodes.entries.length := by
  have hnodup : chain.Nodup := by
    apply List.Nodup.of_map (·.kind.depth)
    rw [hdepths]
    exact List.nodup_range
  have hentries : (chain.map fun upper => (upper.id, upper)).Nodup :=
    hnodup.map fun _ _ h => (Prod.mk.inj h).2
  have hle := OrderedMap.length_le_of_mem (m := graph.nodes) hentries fun entry hentry => by
    obtain ⟨upper, hupper, rfl⟩ := List.mem_map.mp hentry
    exact OrderedMap.mem_entries.mpr (h.stored upper hupper)
  simpa using hle

/-- The walk ends by itself, and the bound on its steps is never met. -/
theorem Tree.ancestors_eq_ok (htree : graph.Tree) (hnode : graph.node id = some node) :
    ∃ chain, graph.ancestors id = .ok chain ∧ chain.length = node.kind.depth ∧
      graph.LeadsTo chain node ∧
      ∀ steps, node.kind.depth < steps → graph.ancestorsLoop steps node [] = .ok chain := by
  obtain ⟨chain, hleads, hdepths, hwalk⟩ := htree.walk hnode rfl
  have hlength : chain.length = node.kind.depth := by
    simpa using congrArg List.length hdepths
  have hfew := hleads.length_le (by rw [hdepths, hlength])
  have hloop : ∀ steps, node.kind.depth < steps → graph.ancestorsLoop steps node [] = .ok chain := by
    intro steps hsteps
    rw [hwalk steps [] hsteps, List.append_nil]
  have hfetch : graph.nodes.get? id = some node := hnode
  refine ⟨chain, ?_, hlength, hleads, hloop⟩
  simp only [ancestors, bind_eq_ok, fetch_eq_ok]
  exact ⟨node, hfetch, hloop _ (by omega)⟩

end Walk

/-- Whatever is inserted, the graph is a tree, a refused call leaves it as it is, and the walk from
every node ends at the book. The graph that is loaded from stored rows is such a tree too. -/
theorem graph_runs :
    (∀ nodes, let graph := StoryGraph.empty.afterCalls nodes
      graph.Tree ∧
      (∀ node e next, insertNode node graph = .error e next → next = graph) ∧
      ∀ id node, graph.node id = some node → ∃ chain,
        graph.ancestors id = .ok chain ∧ chain.length = node.kind.depth ∧
        graph.LeadsTo chain node ∧
        ∀ steps, node.kind.depth < steps → graph.ancestorsLoop steps node [] = .ok chain) ∧
    ∀ (db : Database Fp) graph, db.loadStoryGraph = .ok graph →
      ∃ nodes, graph = StoryGraph.empty.afterCalls nodes := by
  constructor
  · intro nodes
    have htree : (StoryGraph.empty.afterCalls nodes).Tree := Tree.empty.afterCalls nodes
    refine ⟨htree, ?_, ?_⟩
    · intro node e next h
      exact (insertNode_error h).2
    · intro id node hnode
      exact htree.ancestors_eq_ok hnode
  · intro db graph hload
    simp only [Database.loadStoryGraph, bind_eq_ok] at hload
    obtain ⟨nodes, -, hnodes⟩ := hload
    exact ⟨nodes, (afterCalls_of_forEach hnodes).symm⟩

/-! ## The first graph -/

/-- The nodes that `StoryGraph::bootstrap` inserts. -/
def bootstrapNodes (title : String) : List GraphNode :=
  [⟨"BOOK", none, .book, 1, title, none⟩,
    ⟨"VOL001", some "BOOK", .volume, 1, "第一卷", none⟩,
    ⟨"UNIT001", some "VOL001", .unit, 1, "第一单元", none⟩,
    ⟨"CH001", some "UNIT001", .chapter, 1, title, some "DOC-CH001"⟩,
    ⟨"SC001", some "CH001", .scene, 1, "第一场", none⟩]

/-- A second book, refused after the nodes of the first. -/
def refusedNodes : List GraphNode :=
  bootstrapNodes "第一章" ++ [⟨"BOOK2", none, .book, 2, "第二部", none⟩]

theorem graph_runs_sample :
    ∃ chain, (StoryGraph.empty.afterCalls refusedNodes).ancestors "SC001" = .ok chain ∧
      chain.length = 4 := by
  have hscene : (StoryGraph.empty.afterCalls refusedNodes).node "SC001" =
      some ⟨"SC001", some "CH001", .scene, 1, "第一场", none⟩ := by decide +kernel
  have hruns := (@graph_runs Digest).1 refusedNodes
  obtain ⟨chain, hchain, hlength, -⟩ := hruns.2.2 "SC001" _ hscene
  exact ⟨chain, hchain, hlength⟩

end StoryGraph

end Quillframe
