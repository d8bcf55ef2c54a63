import Quillframe.ReadingOrder

/-!
# Growth of the story tree

Calls add nodes and documents and change titles. Nothing that stands moves, and the topology that
projects are opened with is kept.
-/
namespace Quillframe

open Relation Database

variable {Fp : Type}

/-! ## Extensions -/

/-- The old nodes come first, with other titles at most. -/
def Database.Extends (db db' : Database Fp) : Prop :=
  ∃ f new, KeepsPlace f ∧ db'.storyNodes = db.storyNodes.map f ++ new

namespace Database.Extends

variable {db db' db'' : Database Fp}

theorem of_eq (h : db'.storyNodes = db.storyNodes) : db.Extends db' :=
  ⟨id, [], ⟨fun _ => rfl, fun _ => rfl, fun _ => rfl, fun _ => rfl⟩, by simp [h]⟩

theorem of_append {node : StoryNode} (h : db'.storyNodes = db.storyNodes ++ [node]) :
    db.Extends db' :=
  ⟨id, [node], ⟨fun _ => rfl, fun _ => rfl, fun _ => rfl, fun _ => rfl⟩, by simp [h]⟩

theorem trans (h : db.Extends db') (h' : db'.Extends db'') : db.Extends db'' := by
  obtain ⟨f, new, hf, hnodes⟩ := h
  obtain ⟨g, newer, hg, hnodes'⟩ := h'
  refine ⟨g ∘ f, new.map g ++ newer, ⟨?_, ?_, ?_, ?_⟩, by simp [hnodes', hnodes]⟩
  · exact fun node => (hg.nodeId _).trans (hf.nodeId node)
  · exact fun node => (hg.parentId _).trans (hf.parentId node)
  · exact fun node => (hg.kind _).trans (hf.kind node)
  · exact fun node => (hg.ordinal _).trans (hf.ordinal node)

/-- A node is found where it was. -/
theorem node? (h : db.Extends db') {nodeId : String} {node : StoryNode}
    (hnode : db.node? nodeId = some node) :
    ∃ node', db'.node? nodeId = some node' ∧ node'.nodeId = node.nodeId ∧
      node'.parentId = node.parentId ∧ node'.kind = node.kind ∧
      node'.ordinal = node.ordinal := by
  obtain ⟨f, new, hf, hnodes⟩ := h
  refine ⟨f node, ?_, hf.nodeId node, hf.parentId node, hf.kind node, hf.ordinal node⟩
  have hmapped := hf.lookup nodeId db.storyNodes
  rw [show Table.lookup _ _ _ = some node from hnode, Option.map_some, Table.lookup] at hmapped
  rw [Database.node?, hnodes, Table.lookup, List.find?_append, hmapped]
  rfl

theorem placeOf (h : db.Extends db') {nodeId : String} {place : Place}
    (hplace : db.placeOf nodeId = some place) : db'.placeOf nodeId = some place := by
  simp only [Database.placeOf, Option.bind_eq_bind, Option.bind_eq_some_iff, Option.pure_def,
    Option.some.injEq] at hplace ⊢
  obtain ⟨chapter, hchapter, unit, ⟨unitId, hunitId, hunit⟩, volume, ⟨volumeId, hvolumeId,
    hvolume⟩, rfl⟩ := hplace
  obtain ⟨chapter', hchapter', hid, hparent, -, hordinal⟩ := h.node? hchapter
  obtain ⟨unit', hunit', -, hunitParent, -, hunitOrdinal⟩ := h.node? hunit
  obtain ⟨volume', hvolume', -, -, -, hvolumeOrdinal⟩ := h.node? hvolume
  exact ⟨chapter', hchapter', unit', ⟨unitId, hparent.trans hunitId, hunit'⟩, volume',
    ⟨volumeId, hunitParent.trans hvolumeId, hvolume'⟩,
    by rw [hid, hordinal, hunitOrdinal, hvolumeOrdinal]⟩

/-- New chapters come after the old ones in the table. -/
theorem chapterIds (h : db.Extends db') :
    ∃ newer, db'.chapterIds = db.chapterIds ++ newer := by
  obtain ⟨f, new, hf, hnodes⟩ := h
  have hkind : ((fun node : StoryNode => decide (node.kind = .chapter)) ∘ f) =
      fun node => decide (node.kind = .chapter) := funext fun node => by simp [hf.kind]
  have hids : StoryNode.nodeId ∘ f = StoryNode.nodeId := funext hf.nodeId
  refine ⟨(new.filter fun node => node.kind = .chapter).map (·.nodeId), ?_⟩
  rw [Database.chapterIds, hnodes, List.filter_append, List.map_append, List.filter_map, hkind,
    List.map_map, hids, Database.chapterIds]

/-- The rank grows by the new chapters that come before. -/
theorem readingOrder (h : db.Extends db') (hdb : db.Shaped) (hdb' : db'.Shaped) {nodeId : String}
    {place : Place} (hplace : db.placeOf nodeId = some place) {newer : List String}
    (hnewer : db'.chapterIds = db.chapterIds ++ newer) :
    db'.readingOrder nodeId =
      db.readingOrder nodeId + rank (newer.filterMap db'.placeOf) place := by
  have hold : db.chapterIds.filterMap db'.placeOf = db.chapterPlaces := by
    refine List.filterMap_congr fun chapterId hchapter => ?_
    obtain ⟨_, _, _, -, -, -, -, -, -, hold⟩ := hdb.placed hchapter
    rw [hold, h.placeOf hold]
  rw [hdb.readingOrder_eq hplace, hdb'.readingOrder_eq (h.placeOf hplace), chapterPlaces,
    hnewer, List.filterMap_append, hold, rank_append]

end Database.Extends

/-! ## What the topology reads -/

/-- The node of each manuscript. -/
def Database.manuscriptNodes (db : Database Fp) : List (Option String) :=
  (db.documents.filter fun document => document.documentKind = .manuscript).map (·.storyNodeId)

theorem mapM_eq_some {α β : Type} (f : α → Option β) (xs : List α) (ys : List β) :
    xs.mapM f = some ys ↔ xs.map f = ys.map some := by
  induction xs generalizing ys with
  | nil => cases ys <;> simp
  | cons x rest ih =>
    cases hx : f x with
    | none => cases ys <;> simp [hx]
    | some y =>
      cases ys with
      | nil => simp [hx, Option.bind_eq_some_iff]
      | cons z zs => simp [hx, ih, Option.bind_eq_some_iff, and_comm]

/-- Above a node stands one of the kind above. -/
def StoryNode.Placed (nodes : List StoryNode) (node : StoryNode) : Prop :=
  ∃ expected, node.kind.parentKind = .ok expected ∧
    node.parentId.map (fun parent => (Table.lookup StoryNode.nodeId parent nodes).map (·.kind)) =
      expected.map some

/-- What the topology check asks for, with the walks to the book left out. -/
structure Database.Topology (db : Database Fp) : Prop where
  ordinals : ∀ node ∈ db.storyNodes, 0 < node.ordinal
  positions : (db.storyNodes.map fun node => (node.parentId, node.kind, node.ordinal)).Nodup
  placed : ∀ node ∈ db.storyNodes, node.Placed db.storyNodes
  book : (db.storyNodes.filter fun node => node.kind = .book).length = 1
  chapters : db.chapterIds ≠ []
  manuscripts : ∀ node ∈ db.manuscriptNodes, ∃ chapterId ∈ db.chapterIds, node = some chapterId
  owned : ∀ chapterId ∈ db.chapterIds, some chapterId ∈ db.manuscriptNodes

/-- How far a kind is from the book. -/
def StoryKind.level : StoryKind → ℕ
  | .book => 0
  | .volume => 1
  | .unit => 2
  | .chapter => 3
  | .scene => 4
  | .arc => 5

theorem StoryKind.level_parent {kind parent : StoryKind}
    (h : kind.parentKind = .ok (some parent)) : parent.level < kind.level := by
  cases kind <;> simp [parentKind] at h
  all_goals
    subst h
    decide

theorem StoryNode.Placed.parent {nodes : List StoryNode} {node : StoryNode} {parentId : String}
    (h : node.Placed nodes) (hparent : node.parentId = some parentId) :
    ∃ parent, Table.lookup StoryNode.nodeId parentId nodes = some parent ∧
      node.kind.parentKind = .ok (some parent.kind) := by
  obtain ⟨expected, hexpected, hkind⟩ := h
  rw [hparent, Option.map_some] at hkind
  cases hlookup : Table.lookup StoryNode.nodeId parentId nodes with
  | none =>
    rw [hlookup] at hkind
    cases expected <;> simp at hkind
  | some parent =>
    rw [hlookup] at hkind
    cases expected with
    | none => simp at hkind
    | some kind =>
      simp only [Option.map_some, Option.some.injEq] at hkind
      exact ⟨parent, rfl, hkind ▸ hexpected⟩

/-- The walk to the book meets nodes of higher and higher kinds, each once. -/
theorem validateAncestry_eq_ok {nodes : List StoryNode} (hids : (nodes.map (·.nodeId)).Nodup)
    (hplaced : ∀ node ∈ nodes, node.Placed nodes) {steps : ℕ} {seen : List String}
    {node : StoryNode} (hnode : node ∈ nodes) (hseen : seen.Nodup)
    (hknown : ∀ nodeId ∈ seen, ∃ below ∈ nodes, below.nodeId = nodeId ∧
      node.kind.level ≤ below.kind.level)
    (hsteps : steps + seen.length = nodes.length + 1) :
    validateAncestry nodes steps seen node.parentId = .ok () := by
  induction steps generalizing seen node with
  | zero =>
    -- more nodes seen than there are
    have hsubset : seen ⊆ nodes.map (·.nodeId) := by
      intro nodeId hmem
      obtain ⟨below, hbelow, hid, -⟩ := hknown nodeId hmem
      exact List.mem_map.mpr ⟨below, hbelow, hid⟩
    have hlength := (hseen.subperm hsubset).length_le
    rw [List.length_map] at hlength
    omega
  | succ steps ih =>
    cases hparent : node.parentId with
    | none => rfl
    | some parentId =>
      obtain ⟨parent, hlookup, hkind⟩ := (hplaced node hnode).parent hparent
      have hmem := Table.lookup_mem hlookup
      have hid := Table.lookup_key hlookup
      have hlevel := StoryKind.level_parent hkind
      have hnew : parentId ∉ seen := by
        intro hold
        obtain ⟨below, hbelow, hbelowId, hle⟩ := hknown parentId hold
        have hsame := Table.eq_of_key_eq hids hbelow hmem (hbelowId.trans hid.symm)
        rw [hsame] at hle
        omega
      simp only [validateAncestry, bind_eq_ok, require_eq_ok, exists_const, fetch_eq_ok]
      refine ⟨hnew, parent, hlookup, ih hmem (List.nodup_cons.mpr ⟨hnew, hseen⟩) ?_ ?_⟩
      · intro nodeId hold
        rcases List.mem_cons.mp hold with rfl | hold
        · exact ⟨parent, hmem, hid, le_rfl⟩
        · obtain ⟨below, hbelow, hbelowId, hle⟩ := hknown nodeId hold
          exact ⟨below, hbelow, hbelowId, by omega⟩
      · rw [List.length_cons]
        omega

theorem Database.topology_iff {db : Database Fp} (hids : (db.storyNodes.map (·.nodeId)).Nodup) :
    db.validateNovelTopology = .ok () ↔ db.Topology := by
  simp only [validateNovelTopology, validateStoryNode, bind_eq_ok, require_eq_ok, exists_const,
    forEach_unit_eq_ok, fetch_eq_ok, mapM_eq_some]
  constructor
  · rintro ⟨-, ⟨hordinals, hpositions⟩, hnodes, ⟨hbook, hchapters⟩, manuscripts, hmanuscripts,
      hsubset, howned⟩
    refine ⟨hordinals, hpositions, fun node hnode => ?_, hbook, hchapters, fun node hnode => ?_,
      fun chapterId hchapter => ?_⟩
    · obtain ⟨expected, hexpected, hkind, -⟩ := hnodes node hnode
      exact ⟨expected, hexpected, hkind⟩
    · rw [manuscriptNodes, hmanuscripts] at hnode
      obtain ⟨chapterId, hchapter, rfl⟩ := List.mem_map.mp hnode
      exact ⟨chapterId, hsubset hchapter, rfl⟩
    · rw [manuscriptNodes, hmanuscripts]
      exact List.mem_map.mpr ⟨chapterId, howned hchapter, rfl⟩
  · intro h
    obtain ⟨manuscripts, hmanuscripts⟩ : db.manuscriptNodes ∈ Set.range (List.map some) := by
      rw [Set.range_list_map]
      intro node hnode
      obtain ⟨chapterId, -, rfl⟩ := h.manuscripts node hnode
      exact ⟨chapterId, rfl⟩
    have hmem : ∀ chapterId, some chapterId ∈ db.manuscriptNodes ↔ chapterId ∈ manuscripts := by
      simp [← hmanuscripts]
    refine ⟨?_, ⟨h.ordinals, h.positions⟩, fun node hnode => ?_, ⟨h.book, h.chapters⟩,
      manuscripts, hmanuscripts.symm, fun chapterId hchapter => ?_, fun chapterId hchapter => ?_⟩
    · rintro hnil
      have hbook := h.book
      simp [hnil] at hbook
    · obtain ⟨expected, hexpected, hkind⟩ := h.placed node hnode
      refine ⟨expected, hexpected, hkind, validateAncestry_eq_ok hids h.placed hnode
        (List.nodup_singleton _) ?_ rfl⟩
      intro nodeId hmem
      exact ⟨node, hnode, (List.mem_singleton.mp hmem).symm, le_rfl⟩
    · obtain ⟨other, hother, he⟩ := h.manuscripts _ ((hmem chapterId).mpr hchapter)
      rw [Option.some.inj he]
      exact hother
    · exact (hmem chapterId).mp (h.owned chapterId hchapter)

theorem Database.Shaped.tree {db : Database Fp} (h : db.Shaped) : db.Topology :=
  (topology_iff h.nodeIds).mp h.topology

theorem Database.Shaped.congr {db db' : Database Fp} (h : db.Shaped)
    (hnodes : db'.storyNodes = db.storyNodes)
    (hmanuscripts : db'.manuscriptNodes = db.manuscriptNodes) : db'.Shaped := by
  have hids : (db'.storyNodes.map (·.nodeId)).Nodup := hnodes ▸ h.nodeIds
  refine ⟨hids, (topology_iff hids).mpr ?_⟩
  have htree := h.tree
  have hchapters : db'.chapterIds = db.chapterIds := by rw [chapterIds, hnodes, chapterIds]
  constructor
  · exact hnodes ▸ htree.ordinals
  · exact hnodes ▸ htree.positions
  · exact hnodes ▸ htree.placed
  · exact hnodes ▸ htree.book
  · exact hchapters ▸ htree.chapters
  · exact hmanuscripts ▸ hchapters ▸ htree.manuscripts
  · exact hmanuscripts ▸ hchapters ▸ htree.owned

theorem Database.manuscriptNodes_archive (db : Database Fp) :
    db.manuscriptNodes = (db.archive.documents.filter fun document =>
      document.2.2 = .manuscript).map (·.2.1) := by
  simp only [manuscriptNodes, archive, List.filter_map, List.map_map]
  rfl

/-! ## The calls -/

theorem initialProject_shaped [Sha256 Fp] (projectId title createdAt : String) :
    (initialProject projectId title createdAt : Database Fp).Shaped := by
  refine ⟨by simp [initialProject], rfl⟩

section Calls

variable {db db' : Database Fp}

/-- Every chapter has its manuscript, so other documents are of another kind. -/
theorem documentCreate_kind (h : db.Shaped) {projectId documentId title : String}
    {kind : DocumentKind} {storyNodeId : Option String} {createdAt : String}
    (hcreate : documentCreate projectId documentId title kind storyNodeId createdAt db = .ok db') :
    kind ≠ .manuscript ∧ documentId ∉ db.documents.map (·.documentId) ∧
    db' = { db with
      documents := db.documents ++ [⟨documentId, storyNodeId, kind, title, createdAt⟩] } := by
  simp only [documentCreate, insertDocument, bind_eq_ok, require_eq_ok, exists_const,
    pure_eq_ok] at hcreate
  obtain ⟨_, -, _, -, _, -, hsome, hchapter, hfresh, hmanuscript, -, rfl⟩ := hcreate
  refine ⟨?_, hfresh, rfl⟩
  rintro rfl
  obtain ⟨node, rfl⟩ := Option.ne_none_iff_exists'.mp fun hnone => hsome ⟨rfl, hnone⟩
  have hkind : (Table.lookup StoryNode.nodeId node db.storyNodes).map (·.kind) = some .chapter := by
    by_contra hother
    exact hchapter node rfl ⟨hother, rfl⟩
  obtain ⟨chapter, hlookup, hchapterKind⟩ := Option.map_eq_some_iff.mp hkind
  have hmem : node ∈ db.chapterIds :=
    mem_chapterIds.mpr ⟨chapter, Table.lookup_mem hlookup, hchapterKind, Table.lookup_key hlookup⟩
  obtain ⟨document, hdocument, hnode⟩ := List.mem_map.mp (h.tree.owned node hmem)
  obtain ⟨hdocument, hdocumentKind⟩ := List.mem_filter.mp hdocument
  refine hmanuscript node (by simp [manuscriptNode]) (List.mem_map.mpr ⟨document, hdocument, ?_⟩)
  simp only [decide_eq_true_eq] at hdocumentKind
  rw [manuscriptNode, if_pos hdocumentKind, hnode]

theorem Database.Shaped.titles (h : db.Shaped) (seed : BookStructureSeed) :
    (db.setFirstTitles seed).Shaped ∧ db.Extends (db.setFirstTitles seed) := by
  obtain ⟨f, hf, hnodes⟩ := @setFirstTitles_storyNodes Fp db seed
  refine ⟨⟨?_, setFirstTitles_topology h.topology⟩, f, [], hf, by rw [hnodes, List.append_nil]⟩
  rw [hnodes, List.map_map, show StoryNode.nodeId ∘ f = StoryNode.nodeId from funext hf.nodeId]
  exact h.nodeIds

theorem Database.Shaped.append (h : db.Shaped) {node : StoryNode}
    (hfresh : node.nodeId ∉ db.storyNodes.map (·.nodeId))
    (hnodes : db'.storyNodes = db.storyNodes ++ [node])
    (hvalid : db'.validateNovelTopology = .ok ()) : db'.Shaped ∧ db.Extends db' := by
  refine ⟨⟨?_, hvalid⟩, .of_append hnodes⟩
  rw [hnodes]
  refine Table.nodup_append_singleton h.nodeIds fun other hother he => hfresh ?_
  exact List.mem_map.mpr ⟨other, hother, he⟩

end Calls

section Steps

variable [Sha256 Fp] [DecidableEq Fp] [Documents Fp]

/-- Calls on a run leave the tree and the documents alone. -/
theorem RunOp.outline_of_exec {op : RunOp Fp} {db db' : Database Fp} (h : op.exec db = .ok db') :
    db'.storyNodes = db.storyNodes ∧ db'.documents = db.documents := by
  cases op with
  | dispatch =>
    obtain ⟨callId, h⟩ := snd_map_eq_ok h
    obtain ⟨-, ⟨_, -, -, -, -, -, rfl⟩ | ⟨_, -, -, -, -, -, -, -, -, -, rfl⟩⟩ :=
      dispatchStage_eq_ok h
    all_goals exact ⟨rfl, rfl⟩
  | confirm =>
    obtain ⟨_, h⟩ := snd_map_eq_ok h
    obtain ⟨calls, receipts, rfl⟩ := confirmStage_frame h
    exact ⟨rfl, rfl⟩
  | confirmDerived =>
    obtain ⟨_, h⟩ := snd_map_eq_ok h
    obtain ⟨calls, checkpoints, events, rfl⟩ := confirmDerivedStage_frame h
    exact ⟨rfl, rfl⟩
  | markUnconfirmed =>
    obtain ⟨_, h⟩ := snd_map_eq_ok h
    obtain ⟨calls, rfl⟩ := markStageUnconfirmed_frame h
    exact ⟨rfl, rfl⟩
  | setStatus =>
    obtain ⟨_, h⟩ := snd_map_eq_ok h
    obtain rfl := setRunStatus_eq_ok h
    exact ⟨rfl, rfl⟩
  | failedGate =>
    obtain ⟨_, h⟩ := snd_map_eq_ok h
    obtain ⟨checkpoints, events, rfl⟩ := recordFailedGate_eq_ok h
    exact ⟨rfl, rfl⟩
  | freezeContext =>
    obtain ⟨_, h⟩ := snd_map_eq_ok h
    obtain ⟨-, selections, freezes, dependencies, -, rfl⟩ := persistWriterContextFreeze_eq_ok h
    exact ⟨rfl, rfl⟩
  | commit =>
    obtain ⟨_, h⟩ := snd_map_eq_ok h
    obtain ⟨-, -, bounded, receipt, checkpoint, event, -, -, -, rfl⟩ :=
      commitReleasedCandidate_eq_ok h
    exact ⟨rfl, rfl⟩
  | cancel =>
    obtain ⟨answer, h⟩ := snd_map_eq_ok h
    obtain ⟨rfl, -⟩ | ⟨-, -, event, receipt, count, -, -, rfl⟩ := cancelProduction_eq_ok h
    all_goals exact ⟨rfl, rfl⟩

variable [SerdeJson Fp]

theorem WorkStep.shaped {db db' : Database Fp} (h : WorkStep db db') (hdb : db.Shaped) :
    db'.Shaped ∧ db.Extends db' := by
  have hkept : db'.storyNodes = db.storyNodes → db'.manuscriptNodes = db.manuscriptNodes →
      db'.Shaped ∧ db.Extends db' := fun hnodes hmanuscripts =>
    ⟨hdb.congr hnodes hmanuscripts, .of_eq hnodes⟩
  cases h with
  | freezePack _ _ _ _ h =>
    obtain ⟨-, -, rfl | ⟨row, -, -, -, -, rfl⟩⟩ := freezeWriterPackForChapter_eq_ok h
    all_goals exact hkept rfl rfl
  | start _ _ h =>
    obtain rfl | ⟨_, _, _, _, -, -, -, -, -, -, -, -, -, -, -, rfl⟩ := startProduction_eq_ok h
    all_goals exact hkept rfl rfl
  | run op h =>
    obtain ⟨hnodes, hdocuments⟩ := op.outline_of_exec h
    exact hkept hnodes (by rw [manuscriptNodes, hdocuments, manuscriptNodes])
  | accept _ _ h =>
    obtain rfl | ⟨_, _, -, -, rfl⟩ := acceptCandidate_eq_ok h
    all_goals exact hkept rfl rfl
  | settle _ _ _ h =>
    obtain ⟨-, ⟨_, _, -, -, -, -, rfl⟩ | ⟨-, -, plan, -, hcommit⟩⟩ := applySettlement_eq_ok h
    · exact hkept rfl rfl
    · obtain ⟨tables, hnarrated⟩ := commitSettlement_narrated hcommit
      refine hkept hnarrated.storyNodes ?_
      rw [manuscriptNodes_archive, hnarrated.archive, manuscriptNodes_archive]
  | chapter _ _ _ _ _ _ _ _ h =>
    obtain rfl | ⟨_, _, _, hfresh, -, -, -, -, hdb', hvalid⟩ := createChapter_eq_ok h
    · exact hkept rfl rfl
    · exact hdb.append hfresh (by rw [hdb']) hvalid
  | container _ _ _ _ _ _ _ _ h =>
    obtain rfl | ⟨_, _, _, hfresh, -, hdb', hvalid⟩ := createStoryContainer_eq_ok h
    · exact hkept rfl rfl
    · exact hdb.append hfresh (by rw [hdb']) hvalid
  | document _ _ _ _ _ _ h =>
    obtain ⟨hkind, -, rfl⟩ := documentCreate_kind hdb h
    exact hkept rfl (by simp [manuscriptNodes, hkind])
  | revision _ _ h =>
    obtain rfl | ⟨_, -, -, -, -, rfl⟩ := documentRevisionSave_eq_ok h
    all_goals exact hkept rfl rfl
  | titles seed => exact hdb.titles seed
  | aside h =>
    obtain ⟨_, _, _, _, _, _, rfl⟩ := h
    exact hkept rfl rfl

end Steps

end Quillframe
