import Quillframe.Numbering

/-!
# Reading the graph

The graph loader inserts the nodes by kind and ordinal, with checks of its own. On a valid tree of
numbered nodes with titles and manuscripts each insertion finds its parent, and the graph is read.
-/
namespace Quillframe

open Database

variable {Fp : Type}

/-! ## Inserting -/

namespace GraphNode

def position (node : GraphNode) : Option String × StoryKind × ℕ :=
  (node.parentId, node.kind, node.ordinal)

/-- A node that can be inserted after others. -/
structure Fits (before : List GraphNode) (node : GraphNode) : Prop where
  canonical : validateNodeId node.id = .ok ()
  fresh : node.id ∉ before.map (·.id)
  ordinal : node.ordinal ≠ 0
  title : ¬ blank node.title
  root : node.kind.expectedParent = none →
    node.parentId = none ∧ ∀ other ∈ before, other.kind ≠ .book
  parent : ∀ expected, node.kind.expectedParent = some expected →
    ∃ parent ∈ before, node.parentId = some parent.id ∧ parent.kind = expected
  manuscript : StoryGraph.checkManuscript node = .ok ()
  position : node.position ∉ before.map GraphNode.position

end GraphNode

/-- A graph of inserted nodes. -/
structure StoryGraph.Holds (graph : StoryGraph) (nodes : List GraphNode) : Prop where
  get : ∀ node ∈ nodes, graph.nodes.get? node.id = some node
  values : ∀ entry ∈ graph.nodes.entries, entry.1 ∈ nodes.map (·.id) ∧ entry.2 ∈ nodes
  siblings : ∀ position ∈ graph.siblingOrdinals, position ∈ nodes.map GraphNode.position

namespace StoryGraph

theorem checkParent_eq_ok {graph : StoryGraph} {before : List GraphNode} {node : GraphNode}
    (hgraph : graph.Holds before) (hfits : node.Fits before) : graph.checkParent node = .ok () := by
  rw [checkParent]
  cases hexpected : node.kind.expectedParent with
  | none =>
    obtain ⟨hparent, hbook⟩ := hfits.root hexpected
    simp only [require_eq_ok, hparent, Option.isSome_none, Bool.false_eq_true, false_or]
    rintro ⟨value, hvalue, hkind⟩
    obtain ⟨entry, hentry, rfl⟩ := List.mem_map.mp hvalue
    exact hbook entry.2 (hgraph.values entry hentry).2 hkind
  | some expected =>
    obtain ⟨parent, hparent, hid, hkind⟩ := hfits.parent expected hexpected
    simp only [bind_eq_ok, fetch_eq_ok, require_eq_ok]
    exact ⟨parent.id, hid, parent, hgraph.get parent hparent, hkind⟩

/-- A node that fits is inserted. -/
theorem insert_holds {graph : StoryGraph} {before : List GraphNode} {node : GraphNode}
    (hgraph : graph.Holds before) (hfits : node.Fits before) :
    ∃ graph', graph.insert node = .ok graph' ∧ graph'.Holds (before ++ [node]) := by
  have hfresh : node.id ∉ graph.nodes := by
    intro hmem
    obtain ⟨entry, hentry, hid⟩ := List.mem_map.mp (OrderedMap.mem_iff.mp hmem)
    exact hfits.fresh (hid ▸ (hgraph.values entry hentry).1)
  have hsibling : (node.parentId, node.kind, node.ordinal) ∉ graph.siblingOrdinals :=
    fun hmem => hfits.position (hgraph.siblings _ hmem)
  simp only [insert, bind_eq_ok, require_eq_ok, exists_const, pure_eq_ok]
  refine ⟨_, ⟨(), hfits.canonical, hfresh, ?_, (), checkParent_eq_ok hgraph hfits, (),
    hfits.manuscript, hsibling, rfl⟩, ?_, ?_, ?_⟩
  · exact not_or.mpr ⟨hfits.ordinal, hfits.title⟩
  · refine List.forall_mem_append.mpr ⟨fun other hother => ?_, ?_⟩
    · have hne : other.id ≠ node.id := by
        rintro he
        exact hfits.fresh (List.mem_map.mpr ⟨other, hother, he⟩)
      rw [OrderedMap.get?_insert_of_ne _ hne, hgraph.get other hother]
    · simp
  · intro entry hentry
    simp only [List.map_append, List.mem_append]
    rcases OrderedMap.mem_insertEntry hentry with rfl | hold
    · simp
    · exact ⟨.inl (hgraph.values entry hold).1, .inl (hgraph.values entry hold).2⟩
  · intro position hposition
    simp only [List.map_append, List.mem_append]
    rcases List.mem_cons.mp hposition with rfl | hold
    · exact .inr (by simp [GraphNode.position])
    · exact .inl (hgraph.siblings position hold)

/-- Nodes that each fit after the ones before make a graph. -/
theorem forEach_insert {nodes : List GraphNode}
    (hfits : ∀ before node after, nodes = before ++ node :: after → node.Fits before) :
    ∃ graph, forEach insert nodes .empty = .ok graph := by
  refine (forEach_succeeds_iff (Q := fun _ => True) (P := fun rest graph =>
    ∃ before, nodes = before ++ rest ∧ graph.Holds before) ?_ ?_ ?_).mpr fun _ _ => trivial
  · rintro node rest graph ⟨before, hsplit, hgraph⟩
    obtain ⟨graph', hinsert, -⟩ := insert_holds hgraph (hfits before node rest hsplit)
    exact ⟨fun _ => trivial, fun _ => ⟨graph', hinsert⟩⟩
  · rintro node rest graph graph' ⟨before, hsplit, hgraph⟩ hinsert
    obtain ⟨next, hnext, hholds⟩ := insert_holds hgraph (hfits before node rest hsplit)
    obtain rfl := Except.ok.inj (hnext.symm.trans hinsert)
    exact ⟨before ++ [node], by simp [hsplit], hholds⟩
  · exact ⟨[], rfl, by simp, by simp [empty, OrderedMap.empty], by simp [empty]⟩

end StoryGraph

/-! ## Loading -/

/-- What the loader asks for beyond the topology. -/
structure Database.Readable (db : Database Fp) : Prop where
  shaped : db.Shaped
  named : ∀ node ∈ db.storyNodes, node.Named
  titled : ∀ node ∈ db.storyNodes, ¬ blank node.title
  documents : ∀ document ∈ db.documents, document.documentId ≠ ""

/-- The graph node of a row whose ordinal fits. -/
def Database.graphRow (db : Database Fp) (node : StoryNode) : GraphNode where
  id := node.nodeId
  parentId := node.parentId
  kind := if node.kind = .arc then .scene else node.kind
  ordinal := node.ordinal.toNat
  title := node.title
  manuscriptId := (db.documents.find? fun document =>
    document.storyNodeId = some node.nodeId ∧ document.documentKind = .manuscript).map
      Document.documentId

section Load

variable {db : Database Fp} {node : StoryNode}

theorem Database.graphNode_eq (h : 0 ≤ node.ordinal ∧ node.ordinal < 2 ^ 32) :
    db.graphNode node = .ok (db.graphRow node) := by
  simp only [graphNode, bind_eq_ok, require_eq_ok, exists_const, pure_eq_ok]
  exact ⟨h, rfl⟩

theorem mapM_eq_ok_map {α β ε : Type} {f : α → Except ε β} {g : α → β} {xs : List α}
    (h : ∀ x ∈ xs, f x = .ok (g x)) : xs.mapM f = .ok (xs.map g) := by
  induction xs with
  | nil => rfl
  | cons x rest ih =>
    rw [List.mapM_cons, h x List.mem_cons_self, ih fun y hy => h y (List.mem_cons_of_mem _ hy)]
    rfl

theorem StoryNode.Named.kind_ne_arc (h : node.Named) : node.kind ≠ .arc := by
  rintro hkind
  obtain ⟨hbook, -⟩ | ⟨hnumbered, -⟩ := h
  · simp [hkind] at hbook
  · simp [hkind, StoryKind.numbered] at hnumbered

theorem StoryNode.Named.parentKind (h : node.Named) {kind : StoryKind}
    (hkind : node.kind.expectedParent = some kind) : node.kind.parentKind = .ok (some kind) := by
  obtain ⟨hbook, -⟩ | ⟨hnumbered, -⟩ := h
  · simp [hbook, StoryKind.expectedParent] at hkind
  · revert hkind hnumbered
    cases node.kind <;> simp [StoryKind.expectedParent, StoryKind.parentKind, StoryKind.numbered]

/-- Parents are read before their children. -/
theorem StoryNode.loadRank_lt {parent : StoryNode} (hne : node.kind ≠ .arc)
    (h : node.kind.expectedParent = some parent.kind) : parent.loadRank < node.loadRank := by
  rw [loadRank, loadRank, Prod.Lex.toLex_lt_toLex]
  left
  dsimp only
  revert h hne
  cases node.kind <;> cases parent.kind <;> decide

theorem StoryNode.Named.canonical (h : node.Named) : validateNodeId node.nodeId = .ok () := by
  obtain ⟨-, hid, -⟩ | ⟨hnumbered, n, hn, -, hid⟩ := h
  · rw [hid]
    decide
  · rw [hid]
    have hstem : ∀ kind : StoryKind, kind.stem ≠ "" ∧ kind.stem.length ≤ 4 ∧
        ∀ c ∈ kind.stem.toList, c.isAlphanum := by
      intro kind
      cases kind <;> decide
    obtain ⟨hne, hshort, hletters⟩ := hstem node.kind
    exact validateNodeId_paddedId hn hne hshort hletters

theorem StoryNode.Named.ordinal_lt (h : node.Named) : node.ordinal < 2 ^ 32 := by
  obtain ⟨-, -, hordinal⟩ | ⟨-, n, hn, hordinal, -⟩ := h <;> omega

variable (h : db.Readable)

include h

theorem Database.Readable.graphRow_kind (hnode : node ∈ db.storyNodes) :
    (db.graphRow node).kind = node.kind :=
  if_neg (h.named node hnode).kind_ne_arc

/-- Chapters have their manuscript, and no other node has one. -/
theorem Database.Readable.checkManuscript (hnode : node ∈ db.storyNodes) :
    StoryGraph.checkManuscript (db.graphRow node) = .ok () := by
  rw [StoryGraph.checkManuscript, h.graphRow_kind hnode]
  cases hfind : db.documents.find? fun document =>
      document.storyNodeId = some node.nodeId ∧ document.documentKind = .manuscript with
  | none =>
    split_ifs with hkind
    · -- the manuscript of a chapter would be found
      have hchapter : node.nodeId ∈ db.chapterIds := mem_chapterIds.mpr ⟨node, hnode, hkind, rfl⟩
      obtain ⟨document, hdocument, hsame⟩ := List.mem_map.mp (h.shaped.tree.owned _ hchapter)
      obtain ⟨hdocument, hmanuscript⟩ := List.mem_filter.mp hdocument
      have hnone := List.find?_eq_none.mp hfind document hdocument
      simp [hsame, of_decide_eq_true hmanuscript] at hnone
    · have hnone : (db.graphRow node).manuscriptId = none := by rw [graphRow, hfind, Option.map_none]
      simp only [require_eq_ok, hnone]
  | some document =>
    have hfound := List.find?_some hfind
    obtain ⟨howner, hmanuscript⟩ := of_decide_eq_true hfound
    have hmem := List.mem_of_find?_eq_some hfind
    have hkind : node.kind = .chapter := by
      have howned : some node.nodeId ∈ db.manuscriptNodes :=
        List.mem_map.mpr ⟨document, List.mem_filter.mpr ⟨hmem, by simpa using hmanuscript⟩, howner⟩
      obtain ⟨chapterId, hchapter, hid⟩ := h.shaped.tree.manuscripts _ howned
      obtain ⟨chapter, hchapterMem, hchapterKind, hchapterId⟩ := mem_chapterIds.mp hchapter
      have hsame := Table.eq_of_key_eq h.shaped.nodeIds hnode hchapterMem
        ((Option.some.inj hid).trans hchapterId.symm)
      rw [hsame, hchapterKind]
    have hid : (db.graphRow node).manuscriptId = some document.documentId := by
      rw [graphRow, hfind, Option.map_some]
    rw [if_pos hkind, require_eq_ok, hid]
    simp [h.documents document hmem]

/-- Every row fits after the rows that are read before it. -/
theorem Database.Readable.fits {before after : List StoryNode}
    (hsplit : (db.storyNodes.insertionSort fun a b => a.loadRank ≤ b.loadRank) =
      before ++ node :: after) : (db.graphRow node).Fits (before.map db.graphRow) := by
  have hperm := List.perm_insertionSort (fun a b : StoryNode => a.loadRank ≤ b.loadRank)
    db.storyNodes
  have hsorted := List.pairwise_insertionSort (fun a b : StoryNode => a.loadRank ≤ b.loadRank)
    db.storyNodes
  rw [hsplit] at hperm hsorted
  have hmem : ∀ other, other ∈ db.storyNodes ↔ other ∈ before ++ node :: after :=
    fun other => hperm.symm.mem_iff
  have hnode : node ∈ db.storyNodes := (hmem node).mpr (by simp)
  have hbefore : ∀ other ∈ before, other ∈ db.storyNodes :=
    fun other hother => (hmem other).mpr (List.mem_append_left _ hother)
  -- a row of a smaller rank has been read
  have hread : ∀ other ∈ db.storyNodes, other.loadRank < node.loadRank → other ∈ before := by
    intro other hother hrank
    rcases List.mem_append.mp ((hmem other).mp hother) with hold | hlater
    · exact hold
    · have hle : node.loadRank ≤ other.loadRank := by
        rcases List.mem_cons.mp hlater with rfl | hlater
        · exact le_rfl
        · exact (List.pairwise_cons.mp (List.pairwise_append.mp hsorted).2.1).1 other hlater
      exact absurd hrank (not_lt.mpr hle)
  have hids : ((before ++ node :: after).map (·.nodeId)).Nodup :=
    (hperm.map _).nodup_iff.mpr h.shaped.nodeIds
  have hpositions : ((before ++ node :: after).map
      fun other => (other.parentId, other.kind, other.ordinal)).Nodup :=
    (hperm.map _).nodup_iff.mpr h.shaped.tree.positions
  rw [List.map_append, List.map_cons, List.nodup_middle, List.nodup_cons, List.mem_append,
    not_or] at hids hpositions
  obtain ⟨expected, hexpected, hparent⟩ := h.shaped.tree.placed node hnode
  refine ⟨(h.named node hnode).canonical, ?_, ?_, h.titled node hnode, ?_, ?_,
    h.checkManuscript hnode, ?_⟩
  · rw [List.map_map]
    exact hids.1.1
  · have hordinal := h.shaped.tree.ordinals node hnode
    simp only [graphRow]
    omega
  · rw [h.graphRow_kind hnode]
    intro hroot
    have hbook : node.kind = .book := by
      revert hroot
      cases node.kind <;> simp [StoryKind.expectedParent]
    refine ⟨?_, fun other hother => ?_⟩
    · rw [hbook, StoryKind.parentKind, Except.ok.injEq] at hexpected
      rw [← hexpected] at hparent
      exact Option.map_eq_none_iff.mp hparent
    · obtain ⟨row, hrow, rfl⟩ := List.mem_map.mp hother
      rw [h.graphRow_kind (hbefore row hrow)]
      intro hotherBook
      obtain ⟨book, hbooks⟩ := List.length_eq_one_iff.mp h.shaped.tree.book
      have hone : ∀ row ∈ db.storyNodes, row.kind = .book → row = book := by
        intro row hrow hkind
        have hfiltered : row ∈ db.storyNodes.filter fun node => node.kind = .book :=
          List.mem_filter.mpr ⟨hrow, by simpa using hkind⟩
        rw [hbooks] at hfiltered
        exact List.mem_singleton.mp hfiltered
      have hsame := (hone row (hbefore row hrow) hotherBook).trans (hone node hnode hbook).symm
      exact hids.1.1 (List.mem_map.mpr ⟨row, hrow, by rw [hsame]⟩)
  · rw [h.graphRow_kind hnode]
    intro kind hkind
    obtain ⟨parent, hfound, hparentMem, rfl⟩ :=
      h.shaped.parents hnode kind ((h.named node hnode).parentKind hkind)
    obtain ⟨parentId, hparentId, hlookup⟩ := Option.bind_eq_some_iff.mp hfound
    have hid : parent.nodeId = parentId := Table.lookup_key hlookup
    have hrank := StoryNode.loadRank_lt (h.named node hnode).kind_ne_arc hkind
    refine ⟨db.graphRow parent, List.mem_map.mpr ⟨parent, hread parent hparentMem hrank, rfl⟩,
      ?_, ?_⟩
    · rw [graphRow, graphRow, hparentId, hid]
    · rw [h.graphRow_kind hparentMem]
  · rw [List.map_map]
    intro hmem
    obtain ⟨other, hother, he⟩ := List.mem_map.mp hmem
    have hotherMem := hbefore other hother
    simp only [Function.comp_apply, GraphNode.position, h.graphRow_kind hnode,
      h.graphRow_kind hotherMem, Prod.mk.injEq] at he
    obtain ⟨hparents, hkinds, hordinals⟩ := he
    have hpos := h.shaped.tree.ordinals node hnode
    have hotherPos := h.shaped.tree.ordinals other hotherMem
    refine hpositions.1.1 (List.mem_map.mpr ⟨other, hother, ?_⟩)
    have hsame : other.ordinal = node.ordinal := by
      simp only [graphRow] at hordinals
      omega
    rw [hkinds, hsame, show other.parentId = node.parentId from hparents]

/-- The graph of a readable project is read. -/
theorem Database.Readable.loadStoryGraph : ∃ graph, db.loadStoryGraph = .ok graph := by
  have hrows : ((db.storyNodes.insertionSort fun a b => a.loadRank ≤ b.loadRank).mapM
      db.graphNode) = .ok ((db.storyNodes.insertionSort fun a b => a.loadRank ≤ b.loadRank).map
        db.graphRow) := by
    refine mapM_eq_ok_map fun node hnode => graphNode_eq ?_
    have hmem := List.mem_insertionSort _ |>.mp hnode
    exact ⟨(h.shaped.tree.ordinals node hmem).le, (h.named node hmem).ordinal_lt⟩
  rw [Database.loadStoryGraph, hrows]
  refine StoryGraph.forEach_insert fun before node after hsplit => ?_
  obtain ⟨rows, rest, hsorted, rfl, hrest⟩ := List.map_eq_append_iff.mp hsplit
  obtain ⟨row, later, rfl, rfl, rfl⟩ := List.map_eq_cons_iff.mp hrest
  exact h.fits hsorted

end Load

end Quillframe
