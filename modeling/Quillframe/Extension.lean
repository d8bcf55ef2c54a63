import Quillframe.StoryRuns

/-!
# Extending the book

New chapters and containers take the number after the largest of their kind. Node ids are always
free then, but the id of the new manuscript is free only while no other document took it.
-/
namespace Quillframe

open Database

variable {Fp : Type}

/-! ## Parents that are there -/

section Parents

variable {db : Database Fp}

theorem Database.Shaped.exists_chapter (h : db.Shaped) : ∃ chapter unit volume,
    db.node? chapter.nodeId = some chapter ∧ chapter.parentId.bind db.node? = some unit ∧
      unit.kind = .unit ∧ unit.parentId.bind db.node? = some volume ∧ volume.kind = .volume := by
  obtain ⟨chapterId, hchapter⟩ := List.exists_mem_of_ne_nil _ h.tree.chapters
  obtain ⟨chapter, unit, volume, hnode, -, hunit, hunitKind, hvolume, hvolumeKind, -⟩ :=
    h.placed hchapter
  have hid : chapter.nodeId = chapterId := Table.lookup_key hnode
  exact ⟨chapter, unit, volume, hid ▸ hnode, hunit, hunitKind, hvolume, hvolumeKind⟩

theorem Database.mem_of_parent {node parent : StoryNode}
    (h : node.parentId.bind db.node? = some parent) : parent ∈ db.storyNodes := by
  obtain ⟨_, -, hlookup⟩ := Option.bind_eq_some_iff.mp h
  exact Table.lookup_mem hlookup

theorem head?_insertionSort {α : Type} {r : α → α → Prop} [DecidableRel r] {xs : List α}
    (h : xs ≠ []) : ∃ x ∈ xs, (xs.insertionSort r).head? = some x := by
  have hperm := List.perm_insertionSort r xs
  cases hsorted : xs.insertionSort r with
  | nil =>
    rw [hsorted] at hperm
    exact absurd hperm.symm.eq_nil h
  | cons x rest =>
    rw [hsorted] at hperm
    exact ⟨x, hperm.mem_iff.mp List.mem_cons_self, rfl⟩

/-- There is a last unit. -/
theorem Database.Shaped.lastUnit (h : db.Shaped) :
    ∃ unit ∈ db.storyNodes, unit.kind = .unit ∧ db.lastUnit = some unit := by
  obtain ⟨chapter, unit, volume, -, hunit, hunitKind, hvolume, hvolumeKind⟩ := h.exists_chapter
  rw [Database.lastUnit]
  set placed := db.storyNodes.filterMap fun unit =>
    if unit.kind = .unit then (db.volumeOf unit).map fun volume => (unit, volume) else none
    with hplaced
  have hne : placed ≠ [] := by
    refine List.ne_nil_of_mem (a := (unit, volume)) ?_
    refine List.mem_filterMap.mpr ⟨unit, mem_of_parent hunit, ?_⟩
    rw [if_pos hunitKind, volumeOf, show (unit.parentId.bind fun parent =>
      Table.lookup StoryNode.nodeId parent db.storyNodes) = some volume from hvolume]
    simp [hvolumeKind]
  obtain ⟨⟨last, lastVolume⟩, hmem, hhead⟩ := head?_insertionSort
    (r := fun a b : StoryNode × StoryNode => toLex (b.2.ordinal, toLex (b.1.ordinal, b.1.nodeId)) ≤
      toLex (a.2.ordinal, toLex (a.1.ordinal, a.1.nodeId))) hne
  obtain ⟨other, hother, hsome⟩ := List.mem_filterMap.mp hmem
  split_ifs at hsome with hkind
  obtain ⟨_, -, he⟩ := Option.map_eq_some_iff.mp hsome
  obtain ⟨rfl, rfl⟩ := Prod.mk.inj he
  exact ⟨other, hother, hkind, by rw [hhead]; rfl⟩

/-- There is a book, and a last volume. -/
theorem Database.Shaped.defaultParent (h : db.Shaped) {request : ContainerRequest}
    (hkind : request.kind = .volume ∨ request.kind = .unit) :
    ∃ parent ∈ db.storyNodes, request.kind.expectedParent = some parent.kind ∧
      db.defaultParent request.container = some parent := by
  rcases hkind with hkind | hkind
  · obtain ⟨book, hbook⟩ := List.length_eq_one_iff.mp h.tree.book
    have hmem : book ∈ db.storyNodes.filter fun node => node.kind = .book := by simp [hbook]
    cases hfind : db.storyNodes.find? fun node => node.kind = .book with
    | none =>
      obtain ⟨hnode, hbookKind⟩ := List.mem_filter.mp hmem
      exact absurd hbookKind (List.find?_eq_none.mp hfind book hnode)
    | some found =>
      have hfound : found.kind = .book := by simpa using List.find?_some hfind
      refine ⟨found, List.mem_of_find?_eq_some hfind, ?_, ?_⟩
      · rw [hkind, hfound]
        rfl
      · simp only [Database.defaultParent, ContainerRequest.container, hkind]
        exact hfind
  · obtain ⟨-, unit, volume, -, -, -, hvolume, hvolumeKind⟩ := h.exists_chapter
    have hne : db.storyNodes.filter (fun node => node.kind = .volume) ≠ [] :=
      List.ne_nil_of_mem (List.mem_filter.mpr ⟨mem_of_parent hvolume, by simpa using hvolumeKind⟩)
    obtain ⟨last, hlast, hhead⟩ := head?_insertionSort (r := fun a b : StoryNode =>
      toLex (b.ordinal, b.nodeId) ≤ toLex (a.ordinal, a.nodeId)) hne
    obtain ⟨hnode, hlastKind⟩ := List.mem_filter.mp hlast
    refine ⟨last, hnode, ?_, ?_⟩
    · rw [hkind, of_decide_eq_true hlastKind]
      rfl
    · simp only [Database.defaultParent, ContainerRequest.container, hkind]
      exact hhead

theorem Database.Shaped.node?_of_mem (h : db.Shaped) {node : StoryNode}
    (hnode : node ∈ db.storyNodes) : db.node? node.nodeId = some node :=
  Table.lookup_of_mem h.nodeIds hnode

/-- A chapter goes to the requested unit, or to the last one. -/
theorem Database.Shaped.chapterUnit (h : db.Shaped) {requested : Option String}
    (hrequested : ∀ unitId ∈ requested, ∃ unit, db.node? unitId = some unit ∧ unit.kind = .unit) :
    ∃ unit ∈ db.storyNodes, unit.kind = .unit ∧ db.chapterUnit requested = .ok unit.nodeId := by
  cases requested with
  | none =>
    obtain ⟨unit, hunit, hkind, hlast⟩ := h.lastUnit
    exact ⟨unit, hunit, hkind, by simp only [Database.chapterUnit, hlast]; rfl⟩
  | some unitId =>
    obtain ⟨unit, hlookup, hkind⟩ := hrequested unitId rfl
    refine ⟨unit, Table.lookup_mem hlookup, hkind, ?_⟩
    simp only [Database.chapterUnit, bind_eq_ok, require_eq_ok, exists_const, pure_eq_ok]
    refine ⟨?_, (Table.lookup_key hlookup).symm⟩
    rw [show Table.lookup StoryNode.nodeId unitId db.storyNodes = some unit from hlookup,
      Option.map_some, hkind]

/-- A container goes to the requested parent, or to the default one. -/
theorem Database.Shaped.containerParent (h : db.Shaped) {request : ContainerRequest}
    (hkind : request.kind = .volume ∨ request.kind = .unit)
    (hrequested : ∀ parentId ∈ request.parentId, ∃ parent, db.node? parentId = some parent ∧
      request.kind.expectedParent = some parent.kind) :
    ∃ parent ∈ db.storyNodes, request.kind.expectedParent = some parent.kind ∧
      db.containerParent request.container request.parentId = .ok parent.nodeId := by
  cases hparent : request.parentId with
  | none =>
    obtain ⟨parent, hmem, hparentKind, hdefault⟩ := h.defaultParent hkind
    exact ⟨parent, hmem, hparentKind, by simp only [Database.containerParent, hdefault]; rfl⟩
  | some parentId =>
    obtain ⟨parent, hlookup, hparentKind⟩ := hrequested parentId hparent
    refine ⟨parent, Table.lookup_mem hlookup, hparentKind, ?_⟩
    simp only [Database.containerParent, bind_eq_ok, require_eq_ok, exists_const, pure_eq_ok]
    refine ⟨?_, (Table.lookup_key hlookup).symm⟩
    rw [show Table.lookup StoryNode.nodeId parentId db.storyNodes = some parent from hlookup,
      ContainerRequest.container, hparentKind]
    rfl

end Parents

/-! ## Next nodes -/

/-- The id of the manuscript of a numbered chapter. -/
def manuscriptId (number : ℕ) : String := "DOC-" ++ paddedId "CH" number

section Next

variable [Sha256 Fp] {s : StoryProject Fp}

omit [Sha256 Fp] in
theorem Database.ordinalsUnder_nonneg {db : Database Fp} (h : db.Topology) (kind : StoryKind)
    (parentId : String) : ∀ value ∈ db.ordinalsUnder kind parentId, 0 ≤ value := by
  intro value hvalue
  obtain ⟨node, hnode, rfl⟩ := List.mem_map.mp hvalue
  exact (h.ordinals node (List.mem_filter.mp hnode).1).le

omit [Sha256 Fp] in
theorem StoryNode.placed_under {nodes : List StoryNode} {node parent : StoryNode}
    (hlookup : Table.lookup StoryNode.nodeId parent.nodeId nodes = some parent)
    (hparent : node.parentId = some parent.nodeId)
    (hkind : node.kind.parentKind = .ok (some parent.kind)) : node.Placed nodes := by
  refine ⟨_, hkind, ?_⟩
  rw [hparent, Option.map_some, hlookup]
  rfl

/-- The tree takes the next node of a kind under any parent of the kind above. -/
theorem StoryProject.Inv.topology_next (h : s.Inv) {kind : StoryKind} (hkind : kind.numbered)
    {parent : StoryNode} (hparent : parent ∈ s.project.storyNodes)
    (hparentKind : kind.parentKind = .ok (some parent.kind)) {number ordinal : ℕ} {title : String}
    (hnumber : (number : ℤ) = nextAfter (s.project.numbers kind))
    (hordinal : (ordinal : ℤ) = nextAfter (s.project.ordinalsUnder kind parent.nodeId))
    {db' : Database Fp} (hnodes : db'.storyNodes = s.project.storyNodes ++
      [⟨paddedId kind.stem number, some parent.nodeId, kind, ordinal, title⟩])
    (hmanuscripts : db'.manuscriptNodes = s.project.manuscriptNodes ++
      if kind = .chapter then [some (paddedId kind.stem number)] else []) :
    db'.validateNovelTopology = .ok () := by
  have hfresh := s.project.paddedId_next_fresh h.named hkind hnumber
  have hpos := nextAfter_pos (ordinalsUnder_nonneg h.shaped.tree kind parent.nodeId)
  have hids : (db'.storyNodes.map (·.nodeId)).Nodup := by
    rw [hnodes]
    refine Table.nodup_append_singleton h.shaped.nodeIds fun other hother he => hfresh ?_
    exact List.mem_map.mpr ⟨other, hother, he⟩
  refine (topology_iff hids).mpr (h.shaped.tree.append hnodes ?_ (position_next_fresh hordinal)
    (StoryNode.placed_under (h.shaped.node?_of_mem hparent) rfl hparentKind) ?_ hmanuscripts)
  · simp only
    omega
  · rintro rfl
    simp [StoryKind.numbered] at hkind

/-- The next chapter of a unit meets every constraint but one: its manuscript needs a free id. -/
theorem StoryProject.Inv.admits_chapter (h : s.Inv) {request : ChapterRequest} {unit : StoryNode}
    (hunit : unit ∈ s.project.storyNodes) (hkind : unit.kind = .unit) {number ordinal : ℕ}
    (hnumber : (number : ℤ) = nextAfter (s.project.numbers .chapter))
    (hordinal : (ordinal : ℤ) = nextAfter (s.project.ordinalsUnder .chapter unit.nodeId)) :
    s.Admits (request.row unit.nodeId number ordinal) ↔
      manuscriptId number ∉ s.project.documents.map (·.documentId) := by
  refine ⟨fun hadmits => hadmits.documentId, fun hdocument => ?_⟩
  have hfresh : paddedId "CH" number ∉ s.project.storyNodes.map (·.nodeId) :=
    s.project.paddedId_next_fresh h.named (show StoryKind.chapter.numbered from rfl) hnumber
  have hposition := position_next_fresh hordinal
  have hpos := nextAfter_pos (ordinalsUnder_nonneg h.shaped.tree .chapter unit.nodeId)
  refine ⟨hfresh, hposition, List.mem_map.mpr ⟨unit, hunit, rfl⟩, hdocument, ?_, ?_, ?_, ?_, ?_,
    ?_⟩
  · -- manuscripts belong to chapters
    intro hmem
    obtain ⟨document, hmem, hnode⟩ := List.mem_map.mp hmem
    rw [manuscriptNode] at hnode
    split_ifs at hnode with hmanuscript
    have howned : some (paddedId "CH" number) ∈ s.project.manuscriptNodes :=
      List.mem_map.mpr ⟨document, List.mem_filter.mpr ⟨hmem, by simpa using hmanuscript⟩, hnode⟩
    obtain ⟨chapterId, hchapter, hid⟩ := h.shaped.tree.manuscripts _ howned
    obtain ⟨node, hnode, -, hnodeId⟩ := mem_chapterIds.mp hchapter
    exact hfresh (List.mem_map.mpr ⟨node, hnode, hnodeId.trans (Option.some.inj hid).symm⟩)
  · intro hmem
    obtain ⟨row, hrow, hid⟩ := List.mem_map.mp hmem
    obtain ⟨node, hnode, hnodeId, -⟩ := (h.chapters row hrow).node
    exact hfresh (List.mem_map.mpr ⟨node, hnode, hnodeId.trans hid⟩)
  · intro hmem
    obtain ⟨row, hrow, hid⟩ := List.mem_map.mp hmem
    have hold := (h.chapters row hrow).document
    rw [hid] at hold
    exact hdocument hold
  · intro hmem
    obtain ⟨row, hrow, he⟩ := List.mem_map.mp hmem
    obtain ⟨hrowUnit, hrowOrdinal⟩ := Prod.mk.inj he
    obtain ⟨node, hnode, -, hparent, hnodeKind, hnodeOrdinal⟩ := (h.chapters row hrow).node
    refine hposition (List.mem_map.mpr ⟨node, hnode, ?_⟩)
    rw [hparent, hnodeKind, hnodeOrdinal, hrowUnit, hrowOrdinal]
    rfl
  · simp only [ChapterRequest.row]
    omega
  · refine h.topology_next (show StoryKind.chapter.numbered from rfl) hunit ?_ hnumber hordinal
      rfl ?_
    · rw [hkind]
      rfl
    · simp [manuscriptNodes, withChapter, ChapterRequest.row, StoryKind.stem]

/-- The next container meets every constraint, with a receipt of a new id. -/
theorem StoryProject.Inv.admits_container (h : s.Inv) {request : ContainerRequest}
    (hkind : request.kind = .volume ∨ request.kind = .unit) {parent : StoryNode}
    (hparent : parent ∈ s.project.storyNodes)
    (hparentKind : request.kind.expectedParent = some parent.kind) {number ordinal : ℕ}
    (hnumber : (number : ℤ) = nextAfter (s.project.numbers request.kind))
    (hordinal : (ordinal : ℤ) = nextAfter (s.project.ordinalsUnder request.kind parent.nodeId))
    (hreceipt : "receipt-" ++ request.uuid ∉ s.project.receipts.map (·.receiptId)) :
    s.project.Admits (request.node parent.nodeId number ordinal) parent.nodeId
      (request.row parent.nodeId number ordinal) := by
  have hnumbered : request.kind.numbered := by
    rcases hkind with hkind | hkind <;> rw [hkind] <;> rfl
  refine ⟨s.project.paddedId_next_fresh h.named hnumbered hnumber, position_next_fresh hordinal,
    List.mem_map.mpr ⟨parent, hparent, rfl⟩, hreceipt, ?_⟩
  refine h.topology_next hnumbered hparent ?_ hnumber hordinal rfl ?_
  · rcases hkind with hkind | hkind
    all_goals
      rw [hkind] at hparentKind ⊢
      simpa [StoryKind.expectedParent, StoryKind.parentKind] using hparentKind
  · rcases hkind with hkind | hkind <;> simp [manuscriptNodes, withContainer, hkind]

variable [DecidableEq Fp]

omit [Sha256 Fp] [DecidableEq Fp] in
theorem exists_nat_eq_nextAfter {values : List ℤ} (h : ∀ value ∈ values, 0 ≤ value) :
    ∃ number : ℕ, (number : ℤ) = nextAfter values :=
  ⟨(nextAfter values).toNat, Int.toNat_of_nonneg (nextAfter_pos h).le⟩

/-- A chapter is created exactly when its number fits and the id of its manuscript is free. -/
theorem StoryProject.Inv.creates_chapter (h : s.Inv) {request : ChapterRequest}
    (hvalid : request.Valid s.project)
    (hunit : ∀ unitId ∈ request.unitId, ∃ unit, s.project.node? unitId = some unit ∧
      unit.kind = .unit)
    (hnew : Table.lookup ChapterReceiptRow.idempotencyKey request.idempotencyKey s.chapters =
      none) :
    (∃ receipt s', s.createChapter request = .ok (receipt, s')) ↔
      ∃ number : ℕ, (number : ℤ) = nextAfter (s.project.numbers .chapter) ∧ number < 2 ^ 32 ∧
        manuscriptId number ∉ s.project.documents.map (·.documentId) := by
  obtain ⟨unit, hmem, hkind, hplace⟩ := h.shaped.chapterUnit hunit
  constructor
  · rintro ⟨receipt, s', hcreate⟩
    obtain ⟨unitId, number, ordinal, -, ⟨hnumber, hbound⟩, -, hadmits, -⟩ :=
      (createChapter_new hvalid hnew).mp hcreate
    exact ⟨number, hnumber, by omega, hadmits.documentId⟩
  · rintro ⟨number, hnumber, hbound, hdocument⟩
    obtain ⟨ordinal, hordinal⟩ := exists_nat_eq_nextAfter
      (ordinalsUnder_nonneg h.shaped.tree .chapter unit.nodeId)
    have hle := s.project.nextOrdinal_le h.named .chapter (by decide) unit.nodeId
    exact ⟨_, _, (createChapter_new hvalid hnew).mpr ⟨unit.nodeId, number, ordinal, hplace,
      ⟨hnumber, by omega⟩, ⟨hordinal, by omega⟩,
      (h.admits_chapter hmem hkind hnumber hordinal).mpr hdocument, rfl, rfl⟩⟩

/-- A container is created exactly when its number fits. -/
theorem StoryProject.Inv.creates_container (h : s.Inv) {request : ContainerRequest}
    (hvalid : request.Valid s.project)
    (hparent : ∀ parentId ∈ request.parentId, ∃ parent, s.project.node? parentId = some parent ∧
      request.kind.expectedParent = some parent.kind)
    (hnew : s.project.receipt? request.idempotencyKey = none)
    (hreceipt : "receipt-" ++ request.uuid ∉ s.project.receipts.map (·.receiptId)) :
    (∃ answer s', s.createContainer request = .ok (answer, s')) ↔
      ∃ number : ℕ, (number : ℤ) = nextAfter (s.project.numbers request.kind) ∧
        number < 2 ^ 32 := by
  obtain ⟨parent, hmem, hkind, hplace⟩ := h.shaped.containerParent hvalid.kind hparent
  constructor
  · rintro ⟨answer, s', hcreate⟩
    obtain ⟨parentId, number, ordinal, -, ⟨hnumber, hbound⟩, -⟩ :=
      (createContainer_new hvalid hnew).mp hcreate
    exact ⟨number, hnumber, by omega⟩
  · rintro ⟨number, hnumber, hbound⟩
    obtain ⟨ordinal, hordinal⟩ := exists_nat_eq_nextAfter
      (ordinalsUnder_nonneg h.shaped.tree request.kind parent.nodeId)
    have hne : request.kind ≠ .book := by
      rcases hvalid.kind with hkind | hkind <;> simp [hkind]
    have hle := s.project.nextOrdinal_le h.named request.kind hne parent.nodeId
    exact ⟨_, _, (createContainer_new hvalid hnew).mpr ⟨parent.nodeId, number, ordinal, hplace,
      ⟨hnumber, by omega⟩, ⟨hordinal, by omega⟩,
      h.admits_container hvalid.kind hmem hkind hnumber hordinal hreceipt, rfl, rfl⟩⟩

end Next

/-! ## Runs that leave the ids of manuscripts alone -/

section Runs

variable [Sha256 Fp] [DecidableEq Fp] [PrettyJson Fp] {s s' : StoryProject Fp}

/-- A call that names no document like the manuscript of a chapter. -/
def StoryCall.LeavesManuscripts : StoryCall Fp → Prop
  | document _ documentId .. => ∀ number, documentId ≠ manuscriptId number
  | _ => True

/-- Documents with the id of a manuscript are those of numbers in use, which stay below the
number of nodes. -/
structure StoryProject.Open (s : StoryProject Fp) : Prop where
  manuscripts : ∀ number : ℕ, manuscriptId number ∈ s.project.documents.map (·.documentId) →
    (number : ℤ) ∈ s.project.numbers .chapter
  numbers : ∀ kind, ∀ number ∈ s.project.numbers kind, number < s.project.storyNodes.length

omit [Sha256 Fp] [DecidableEq Fp] [PrettyJson Fp] in
theorem manuscriptId_injective : Function.Injective manuscriptId := by
  intro m n h
  have htexts : paddedId "CH" m = paddedId "CH" n := by
    have hlists := congrArg String.toList h
    simp only [manuscriptId, String.toList_append] at hlists
    exact String.toList_inj.mp (List.append_cancel_left hlists)
  exact paddedId_injective "CH" htexts

omit [Sha256 Fp] [DecidableEq Fp] [PrettyJson Fp] in
/-- The numbers with those of one more node. -/
theorem Database.numbers_append {db db' : Database Fp} {kind : StoryKind} {number : ℕ}
    {node : StoryNode} (hnodes : db'.storyNodes = db.storyNodes ++ [node])
    (hkind : node.kind = kind) (hid : node.nodeId = paddedId kind.stem number) (other : StoryKind) :
    db'.numbers other = db.numbers other ++ if other = kind then [(number : ℤ)] else [] := by
  rw [Database.numbers, hnodes, List.filter_append, List.filterMap_append, Database.numbers]
  by_cases hsame : other = kind
  · simp [hsame, hkind, hid]
  · simp [hsame, hkind, Ne.symm hsame]

omit [Sha256 Fp] [DecidableEq Fp] [PrettyJson Fp] in
theorem Database.numbers_map {db db' : Database Fp} {f : StoryNode → StoryNode} (hf : KeepsPlace f)
    (hnodes : db'.storyNodes = db.storyNodes.map f) (kind : StoryKind) :
    db'.numbers kind = db.numbers kind := by
  rw [Database.numbers, hnodes, List.filter_map, List.filterMap_map, Database.numbers]
  have hkinds : ((fun node : StoryNode => decide (node.kind = kind)) ∘ f) =
      fun node : StoryNode => decide (node.kind = kind) := by
    funext node
    simp only [Function.comp_apply, hf.kind]
  rw [hkinds]
  refine List.filterMap_congr fun node _ => ?_
  simp only [Function.comp_apply, hf.nodeId]

omit [Sha256 Fp] [DecidableEq Fp] [PrettyJson Fp] in
/-- One more node, with its manuscript when it is a chapter. -/
theorem StoryProject.Open.append (h : s.Open) {kind : StoryKind} {number : ℕ} {node : StoryNode}
    (hnumber : (number : ℤ) = nextAfter (s.project.numbers kind))
    (hnonempty : s.project.storyNodes ≠ [])
    (hnodes : s'.project.storyNodes = s.project.storyNodes ++ [node]) (hkind : node.kind = kind)
    (hid : node.nodeId = paddedId kind.stem number)
    (hdocuments : s'.project.documents.map (·.documentId) =
      s.project.documents.map (·.documentId) ++
        if kind = .chapter then [manuscriptId number] else []) : s'.Open := by
  have hle : nextAfter (s.project.numbers kind) ≤ s.project.storyNodes.length :=
    nextAfter_le (by exact_mod_cast List.length_pos_of_ne_nil hnonempty) (h.numbers kind)
  have happend := numbers_append hnodes hkind hid
  constructor
  · intro other hother
    rw [hdocuments, List.mem_append] at hother
    rw [happend, List.mem_append]
    rcases hother with hold | hnew
    · exact .inl (h.manuscripts other hold)
    · right
      split_ifs at hnew with hchapter
      · rw [if_pos hchapter.symm, manuscriptId_injective (List.mem_singleton.mp hnew)]
        exact List.mem_singleton_self _
      · exact absurd hnew List.not_mem_nil
  · intro other value hvalue
    rw [happend, List.mem_append] at hvalue
    rw [hnodes, List.length_append, List.length_singleton]
    push_cast
    rcases hvalue with hold | hnew
    · have hlt := h.numbers other value hold
      omega
    · split_ifs at hnew
      · rw [List.mem_singleton.mp hnew]
        omega
      · exact absurd hnew List.not_mem_nil

/-- One call: at most one node is added, and the ids of manuscripts stay with the chapters. -/
theorem StoryCall.exec_open {call : StoryCall Fp} (hexec : call.exec s = .ok s') (hinv : s.Inv)
    (hcall : call.LeavesManuscripts) (h : s.Open) :
    s'.Open ∧ s'.project.storyNodes.length ≤ s.project.storyNodes.length + 1 := by
  have hnonempty : s.project.storyNodes ≠ [] := by
    intro hnil
    have hbook := hinv.shaped.tree.book
    rw [hnil] at hbook
    simp at hbook
  cases call with
  | chapter request =>
    obtain ⟨receipt, hcreate⟩ := snd_map_eq_ok hexec
    have hvalid := StoryProject.createChapter_valid hcreate
    cases hlookup : Table.lookup ChapterReceiptRow.idempotencyKey request.idempotencyKey
        s.chapters with
    | some stored =>
      obtain ⟨-, -, rfl⟩ := (StoryProject.createChapter_replay hvalid hlookup).mp hcreate
      exact ⟨h, Nat.le_succ _⟩
    | none =>
      obtain ⟨unitId, number, ordinal, -, ⟨hnumber, -⟩, -, -, -, rfl⟩ :=
        (StoryProject.createChapter_new hvalid hlookup).mp hcreate
      refine ⟨@StoryProject.Open.append _ _ _ h .chapter _ _ hnumber hnonempty rfl rfl rfl ?_, ?_⟩
      · simp [StoryProject.withProject, StoryProject.project, withChapter, ChapterRequest.row,
          manuscriptId]
      · simp [StoryProject.withProject, StoryProject.project, withChapter]
  | container request =>
    obtain ⟨receipt, hcreate⟩ := snd_map_eq_ok hexec
    have hvalid := StoryProject.createContainer_valid hcreate
    cases hlookup : s.project.receipt? request.idempotencyKey with
    | some stored =>
      obtain ⟨first, parentId, number, ordinal, hordinal, rfl⟩ :=
        hinv.containers stored (Table.lookup_mem hlookup)
      obtain ⟨-, -, rfl⟩ :=
        (StoryProject.createContainer_replay hvalid hordinal hlookup).mp hcreate
      exact ⟨h, Nat.le_succ _⟩
    | none =>
      obtain ⟨parentId, number, ordinal, -, ⟨hnumber, -⟩, -, -, -, rfl⟩ :=
        (StoryProject.createContainer_new hvalid hlookup).mp hcreate
      refine ⟨h.append hnumber hnonempty rfl rfl rfl ?_, ?_⟩
      · rcases hvalid.kind with hkind | hkind <;> simp [withContainer, hkind]
      · simp [withContainer]
  | document projectId documentId title kind storyNodeId createdAt =>
    simp only [exec, bind_eq_ok, pure_eq_ok] at hexec
    obtain ⟨project, hcreate, rfl⟩ := hexec
    obtain ⟨-, -, rfl⟩ := documentCreate_kind hinv.shaped hcreate
    refine ⟨⟨fun number hnumber => ?_, h.numbers⟩, Nat.le_succ _⟩
    simp only [StoryProject.project_withProject, List.map_append, List.mem_append] at hnumber
    rcases hnumber with hold | hnew
    · exact h.manuscripts number hold
    · exact absurd (List.mem_singleton.mp hnew).symm (hcall number)
  | setup call =>
    simp only [exec, bind_eq_ok, pure_eq_ok] at hexec
    obtain ⟨plans, hexec, rfl⟩ := hexec
    obtain hsame | ⟨seed, hsame⟩ := SetupCall.exec_project hexec
    · refine ⟨⟨?_, ?_⟩, ?_⟩
      all_goals
        simp only [StoryProject.project, hsame]
      · exact h.manuscripts
      · exact h.numbers
      · exact Nat.le_succ _
    · obtain ⟨f, hf, hnodes⟩ := @setFirstTitles_storyNodes Fp s.project seed
      have hids := setFirstTitles_documentIds s.project seed
      have hnumbers := numbers_map hf hnodes
      have hlength : (s.project.setFirstTitles seed).storyNodes.length =
          s.project.storyNodes.length := by rw [hnodes, List.length_map]
      refine ⟨⟨?_, ?_⟩, ?_⟩
      all_goals
        simp only [StoryProject.project, hsame] at *
      · rw [hids, hnumbers]
        exact h.manuscripts
      · simp only [hnumbers, hlength]
        exact h.numbers
      · omega

theorem StoryProject.Open.run (h : s.Open) (hinv : s.Inv) {calls : List (StoryCall Fp)}
    (hcalls : ∀ call ∈ calls, call.LeavesManuscripts) :
    (s.run calls).Open ∧
      (s.run calls).project.storyNodes.length ≤ s.project.storyNodes.length + calls.length := by
  induction calls generalizing s with
  | nil => exact ⟨h, le_rfl⟩
  | cons call rest ih =>
    obtain ⟨hcall, hrest⟩ := List.forall_mem_cons.mp hcalls
    have hstep : (call.apply s).Open ∧ (call.apply s).Inv ∧
        (call.apply s).project.storyNodes.length ≤ s.project.storyNodes.length + 1 := by
      rw [StoryCall.apply]
      cases hexec : call.exec s with
      | ok next =>
        obtain ⟨hopen, hlength⟩ := StoryCall.exec_open hexec hinv hcall h
        exact ⟨hopen, (StoryCall.exec_inv hexec hinv).1, hlength⟩
      | error _ => exact ⟨h, hinv, Nat.le_succ _⟩
    obtain ⟨hopen, hlength⟩ := ih hstep.1 hstep.2.1 hrest
    refine ⟨hopen, ?_⟩
    have hle := hstep.2.2
    rw [List.length_cons]
    exact hlength.trans (by omega)

omit [DecidableEq Fp] [PrettyJson Fp] in
theorem createProject_open {manifest : ProjectManifest} {createdAt : String} {start : Database Fp}
    (h : createProject manifest createdAt = .ok start) :
    (StoryProject.new start).Open ∧ start.storyNodes.length = 4 := by
  simp only [createProject, bind_eq_ok] at h
  obtain ⟨_, -, _, -, h⟩ := h
  obtain ⟨-, rfl⟩ := createReserved_eq_ok h
  have hnumbers : ∀ kind, ∀ number ∈ (initialProject manifest.id manifest.title createdAt :
      Database Fp).numbers kind, number = 1 := by
    intro kind
    cases kind <;> simp [numbers, initialProject] <;> decide
  refine ⟨⟨fun number hnumber => ?_, fun kind number hnumber => ?_⟩, rfl⟩
  · have hone : number = 1 := manuscriptId_injective (List.mem_singleton.mp hnumber)
    have hchapter : (initialProject manifest.id manifest.title createdAt :
        Database Fp).numbers .chapter = [1] := by
      have hfirst : idNumber StoryKind.chapter.stem "CH001" = some 1 := by decide
      simp [numbers, initialProject, hfirst]
    rw [hone, StoryProject.project_new, hchapter]
    exact List.mem_singleton_self _
  · rw [hnumbers kind number hnumber]
    simp [initialProject]

end Runs

/-! ### A note with the id of the next manuscript -/

namespace Sample

/-- A note that is named like the manuscript of the second chapter. -/
def note : StoryCall Digest := .document "novel" "DOC-CH002" "Tides" .note none "t1"

theorem note_blocks : (((StoryProject.new project).run [note]).createChapter secondChapter).map
    (fun _ => ()) = .error (uniqueFailed "documents.document_id") := by
  decide +kernel

theorem secondChapter_valid :
    secondChapter.Valid ((StoryProject.new project).run [note]).project ∧
    ((StoryProject.new project).run [note]).chapters = [] ∧
    (((StoryProject.new project).run [note]).project.node? "UNIT001").map (·.kind) =
      some .unit := by
  refine ⟨⟨by decide +kernel, by decide +kernel, by decide +kernel, by decide +kernel⟩,
    by decide +kernel, by decide +kernel⟩

end Sample

end Quillframe
