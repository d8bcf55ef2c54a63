import Quillframe.NarrativeRuns
import Quillframe.Ranking
import Quillframe.SetupRuns

/-!
# Reading order

The rank that settlements and publications compute is the position of a chapter in the order of
the ordinals of its volume, its unit and itself. Chapters keep their place; new ones come between.
-/
namespace Quillframe

open Relation Database

variable {Fp : Type}

namespace Database

def chapterIds (db : Database Fp) : List String :=
  (db.storyNodes.filter fun node => node.kind = .chapter).map (·.nodeId)

def node? (db : Database Fp) (nodeId : String) : Option StoryNode :=
  Table.lookup StoryNode.nodeId nodeId db.storyNodes

/-- The place of a node with a parent and a grandparent. -/
def placeOf (db : Database Fp) (nodeId : String) : Option Place := do
  let chapter ← db.node? nodeId
  let unit ← chapter.parentId.bind db.node?
  let volume ← unit.parentId.bind db.node?
  return toLex (volume.ordinal, toLex (unit.ordinal, toLex (chapter.ordinal, chapter.nodeId)))

/-- The places of the chapters. -/
def chapterPlaces (db : Database Fp) : List Place := db.chapterIds.filterMap db.placeOf

/-- The topology of the story nodes. -/
structure Shaped (db : Database Fp) : Prop where
  nodeIds : (db.storyNodes.map (·.nodeId)).Nodup
  topology : db.validateNovelTopology = .ok ()

end Database

/-! ## The rank -/

section Rank

variable {db : Database Fp}

theorem filter_paired (p : StoryNode → Bool) (f : StoryNode → Option Place)
    (nodes : List StoryNode) :
    (nodes.filterMap fun node => (f node).map (node, ·)).filter (fun placed => p placed.1) =
      (nodes.filter p).filterMap fun node => (f node).map (node, ·) := by
  induction nodes with
  | nil => rfl
  | cons node rest ih =>
    cases hp : p node <;> cases hf : f node <;> simp [hp, hf, ih]

theorem countP_paired (p : StoryNode → Bool) (q : Place → Bool) (f : StoryNode → Option Place)
    (nodes : List StoryNode) :
    (nodes.filterMap fun node => (f node).map (node, ·)).countP
        (fun placed => p placed.1 && q placed.2) =
      ((nodes.filter p).filterMap f).countP q := by
  induction nodes with
  | nil => rfl
  | cons node rest ih =>
    cases hp : p node <;> cases hf : f node <;> simp [hp, hf, List.countP_cons, ih]

theorem Database.parents_eq (hids : (db.storyNodes.map (·.nodeId)).Nodup)
    (parentId : Option String) :
    (db.storyNodes.filter fun node => parentId = some node.nodeId) =
      (parentId.bind db.node?).toList := by
  cases parentId with
  | none => simp
  | some id =>
    rw [Option.bind_some, node?, ← Table.filter_key hids]
    refine List.filter_congr fun node _ => ?_
    simp [eq_comm]

theorem Database.places_eq (hids : (db.storyNodes.map (·.nodeId)).Nodup) :
    db.places = db.storyNodes.filterMap fun node =>
      (db.placeOf node.nodeId).map fun place => (node, place) := by
  rw [places, List.filterMap_eq_flatMap_toList]
  refine List.flatMap_congr fun node hnode => ?_
  have hfound : db.node? node.nodeId = some node := Table.lookup_of_mem hids hnode
  rw [parents_eq hids, placeOf, hfound]
  cases hunit : node.parentId.bind db.node? with
  | none => simp [hunit]
  | some unit =>
    rw [Option.toList_some, List.flatMap_singleton, parents_eq hids]
    cases hvolume : unit.parentId.bind db.node? <;> simp [hunit, hvolume]

/-- A chapter stands in a unit of a volume. -/
theorem Database.Shaped.parents (h : db.Shaped) {node : StoryNode} (hnode : node ∈ db.storyNodes)
    (kind : StoryKind) (hkind : node.kind.parentKind = .ok (some kind)) :
    ∃ parent, node.parentId.bind db.node? = some parent ∧ parent ∈ db.storyNodes ∧
      parent.kind = kind := by
  have htopology := h.topology
  simp only [validateNovelTopology, bind_eq_ok, require_eq_ok, exists_const,
    forEach_unit_eq_ok] at htopology
  obtain ⟨-, -, hnodes, -⟩ := htopology
  have hvalid := hnodes node hnode
  simp only [validateStoryNode, bind_eq_ok, require_eq_ok, exists_const] at hvalid
  obtain ⟨expected, hexpected, hparent, -⟩ := hvalid
  rw [hkind, Except.ok.injEq] at hexpected
  rw [← hexpected, Option.map_some] at hparent
  obtain ⟨parentId, hparentId, hlookup⟩ := Option.map_eq_some_iff.mp hparent
  obtain ⟨parent, hfound, hparentKind⟩ := Option.map_eq_some_iff.mp hlookup
  exact ⟨parent, by rw [hparentId]; exact hfound, Table.lookup_mem hfound, hparentKind⟩

theorem Database.mem_chapterIds {nodeId : String} :
    nodeId ∈ db.chapterIds ↔ ∃ node ∈ db.storyNodes, node.kind = .chapter ∧
      node.nodeId = nodeId := by
  simp [chapterIds, and_assoc]

/-- The nodes above a chapter, and its place. -/
theorem Database.Shaped.placed (h : db.Shaped) {chapterId : String}
    (hchapter : chapterId ∈ db.chapterIds) :
    ∃ chapter unit volume, db.node? chapterId = some chapter ∧ chapter.kind = .chapter ∧
      chapter.parentId.bind db.node? = some unit ∧ unit.kind = .unit ∧
      unit.parentId.bind db.node? = some volume ∧ volume.kind = .volume ∧
      db.placeOf chapterId = some (toLex (volume.ordinal, toLex (unit.ordinal,
        toLex (chapter.ordinal, chapterId)))) := by
  obtain ⟨chapter, hmem, hkind, rfl⟩ := mem_chapterIds.mp hchapter
  have hfound : db.node? chapter.nodeId = some chapter := Table.lookup_of_mem h.nodeIds hmem
  obtain ⟨unit, hunit, hunitMem, hunitKind⟩ := h.parents hmem .unit (by rw [hkind]; rfl)
  obtain ⟨volume, hvolume, -, hvolumeKind⟩ :=
    h.parents hunitMem .volume (by rw [hunitKind]; rfl)
  refine ⟨chapter, unit, volume, hfound, hkind, hunit, hunitKind, hvolume, hvolumeKind, ?_⟩
  simp [placeOf, hfound, hunit, hvolume]

theorem Database.placeOf_inj {a b : String} {place : Place} (ha : db.placeOf a = some place)
    (hb : db.placeOf b = some place) : a = b := by
  simp only [placeOf, Option.bind_eq_bind, Option.bind_eq_some_iff, Option.pure_def,
    Option.some.injEq] at ha hb
  obtain ⟨chapter, hchapter, unit, -, volume, -, rfl⟩ := ha
  obtain ⟨chapter', hchapter', unit', -, volume', -, hplace⟩ := hb
  have hid : chapter'.nodeId = chapter.nodeId := by
    have hlast := congrArg (fun place : Place => (ofLex (ofLex (ofLex place).2).2).2) hplace
    exact hlast
  rw [← Table.lookup_key hchapter, ← Table.lookup_key hchapter']
  exact hid.symm

theorem Database.Shaped.chapterIds_nodup (h : db.Shaped) : db.chapterIds.Nodup :=
  h.nodeIds.sublist (List.filter_sublist.map _)

theorem Database.Shaped.chapterPlaces_nodup (h : db.Shaped) : db.chapterPlaces.Nodup :=
  h.chapterIds_nodup.filterMap fun _ _ _ ha hb => placeOf_inj ha hb

theorem Database.Shaped.chapterPlaces_length (h : db.Shaped) :
    db.chapterPlaces.length = db.chapterIds.length := by
  rw [chapterPlaces, List.length_filterMap_eq_countP, List.countP_eq_length]
  intro chapterId hchapter
  obtain ⟨_, _, _, -, -, -, -, -, -, hplace⟩ := h.placed hchapter
  simp [hplace]

theorem Database.mem_chapterPlaces {place : Place} :
    place ∈ db.chapterPlaces ↔ ∃ chapterId ∈ db.chapterIds, db.placeOf chapterId = some place :=
  List.mem_filterMap

/-- The SQL rank of a chapter is the rank of its place. -/
theorem Database.Shaped.readingOrder_eq (h : db.Shaped) {chapterId : String} {place : Place}
    (hplace : db.placeOf chapterId = some place) :
    db.readingOrder chapterId = rank db.chapterPlaces place := by
  obtain ⟨node, hnode⟩ : ∃ node, db.node? chapterId = some node := by
    cases hnode : db.node? chapterId with
    | none => simp [placeOf, hnode] at hplace
    | some node => exact ⟨node, rfl⟩
  have hid := Table.lookup_key hnode
  have hself : db.places.filter (fun placed => placed.1.nodeId = chapterId) = [(node, place)] := by
    rw [places_eq h.nodeIds, filter_paired fun other => decide (other.nodeId = chapterId),
      Table.filter_key h.nodeIds, show Table.lookup _ _ _ = some node from hnode]
    simp [hid, hplace]
  have hcount := countP_paired (fun node => decide (node.kind = .chapter))
    (fun other => decide (other ≤ place)) (fun node => db.placeOf node.nodeId) db.storyNodes
  simp only [← Bool.decide_and] at hcount
  rw [readingOrder, hself, List.map_singleton, List.sum_singleton, places_eq h.nodeIds]
  refine hcount.trans ?_
  rw [rank, chapterPlaces, chapterIds, List.filterMap_map]
  rfl

end Rank

end Quillframe
