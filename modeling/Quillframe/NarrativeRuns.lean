import Quillframe.Workspace

/-!
# Narrative state over runs

Each delta writes one row, so the narrative tables are a map in which the last write wins. A
source row is current until its chapter is settled again.
-/
namespace Quillframe

open Json (str int fp obj arr)
open Relation Database

variable {Fp : Type}

/-! ## What deltas write -/

/-- The rows of the narrative tables under their ids. -/
@[ext] structure NarrativeView (Fp : Type) where
  character : String → Option (CharacterRow Fp)
  world : String → Option (WorldEntityRow Fp)
  relationship : String → Option (RelationshipRow Fp)
  knowledge : String → Option (CharacterKnowledgeRow Fp)
  timeline : String → Option TimelineEventRow
  source : NarrativeEntityType × String → Option (NarrativeSourceRow Fp)

namespace NarrativeView

def empty : NarrativeView Fp :=
  ⟨fun _ => none, fun _ => none, fun _ => none, fun _ => none, fun _ => none, fun _ => none⟩

/-- The rows of one view, and those of another where it has none. -/
def above (new old : NarrativeView Fp) : NarrativeView Fp where
  character id := (new.character id).or (old.character id)
  world id := (new.world id).or (old.world id)
  relationship id := (new.relationship id).or (old.relationship id)
  knowledge id := (new.knowledge id).or (old.knowledge id)
  timeline id := (new.timeline id).or (old.timeline id)
  source key := (new.source key).or (old.source key)

theorem above_assoc (a b c : NarrativeView Fp) : (a.above b).above c = a.above (b.above c) := by
  ext : 1 <;> funext id <;> exact Option.or_assoc

@[simp] theorem empty_above (v : NarrativeView Fp) : empty.above v = v := by
  ext : 1 <;> funext id <;> exact Option.none_or

@[simp] theorem above_empty (v : NarrativeView Fp) : v.above empty = v := by
  ext : 1 <;> funext id <;> exact Option.or_none

/-- Later views stand over earlier ones. -/
def stack (views : List (NarrativeView Fp)) (base : NarrativeView Fp) : NarrativeView Fp :=
  views.foldl (fun v w => w.above v) base

theorem stack_eq_above (views : List (NarrativeView Fp)) (base : NarrativeView Fp) :
    stack views base = (stack views empty).above base := by
  induction views generalizing base with
  | nil => exact (empty_above base).symm
  | cons v rest ih =>
    calc stack (v :: rest) base = stack rest (v.above base) := rfl
      _ = (stack rest empty).above (v.above base) := ih _
      _ = ((stack rest empty).above v).above base := (above_assoc _ _ _).symm
      _ = (stack rest (v.above empty)).above base := by rw [ih (v.above empty), above_empty]

/-- The rows of entities, without their sources. -/
def entities (v : NarrativeView Fp) : NarrativeView Fp := { v with source := fun _ => none }

theorem entities_above (new old : NarrativeView Fp) :
    (new.above old).entities = new.entities.above old.entities := rfl

end NarrativeView

def NarrativeTables.view (tables : NarrativeTables Fp) : NarrativeView Fp where
  character id := Table.lookup CharacterRow.characterId id tables.characters
  world id := Table.lookup WorldEntityRow.entityId id tables.worldEntities
  relationship id := Table.lookup RelationshipRow.relationshipId id tables.relationships
  knowledge id := Table.lookup CharacterKnowledgeRow.knowledgeId id tables.characterKnowledge
  timeline id := Table.lookup TimelineEventRow.eventId id tables.timelineEvents
  source key := Table.lookup NarrativeSourceRow.key key tables.narrativeStateSources

/-- A row under one id. -/
def only {Key Row : Type} [DecidableEq Key] (key : Key) (row : Row) (k : Key) : Option Row :=
  if k = key then some row else none

/-- The source row that a delta writes. -/
def DeltaSource.view (source : DeltaSource Fp) (entityType : NarrativeEntityType)
    (entityId : String) : NarrativeView Fp :=
  { NarrativeView.empty with
    source := only (entityType, entityId) (source.row entityType entityId) }

def NarrativeEntityDelta.view (source : DeltaSource Fp) (delta : NarrativeEntityDelta Fp) :
    NarrativeView Fp :=
  match delta.entityKind with
  | .character =>
    { source.view .character delta.entityId with
      character := only delta.entityId
        { characterId := delta.entityId, name := delta.displayName, agenda := none,
          voiceNotes := none, state := delta.state, updatedAt := source.createdAt } }
  | .world =>
    { source.view .world delta.entityId with
      world := only delta.entityId
        { entityId := delta.entityId, entityType := "narrative", name := delta.displayName,
          truth := delta.state, updatedAt := source.createdAt } }

def RelationshipStateDelta.view (source : DeltaSource Fp) (delta : RelationshipStateDelta Fp) :
    NarrativeView Fp :=
  { source.view .relationship delta.relationshipId with
    relationship := only delta.relationshipId
      { relationshipId := delta.relationshipId, participantA := delta.participantA,
        participantB := delta.participantB, relationshipType := delta.relationshipType,
        state := delta.state, updatedAt := source.createdAt } }

def CharacterKnowledgeDelta.view (source : DeltaSource Fp) (delta : CharacterKnowledgeDelta Fp) :
    NarrativeView Fp :=
  { source.view .knowledge delta.knowledgeId with
    knowledge := only delta.knowledgeId
      { knowledgeId := delta.knowledgeId, characterId := delta.characterId, claimRef := none,
        fact := delta.fact, availableFromStoryOrder := source.readingOrder,
        evidenceRef := source.acceptanceId, confidence := delta.confidence } }

def TimelineEventDelta.view (source : DeltaSource Fp) (delta : TimelineEventDelta) :
    NarrativeView Fp :=
  { source.view .timeline delta.eventId with
    timeline := only delta.eventId
      { eventId := delta.eventId, storyOrder := source.readingOrder, title := delta.title,
        description := some delta.description, authorityClass := "accepted",
        sourceRef := some source.acceptanceId } }

def ReaderExpectationDelta.view (source : DeltaSource Fp) (delta : ReaderExpectationDelta) :
    NarrativeView Fp :=
  source.view .expectation delta.expectationId

/-- What each delta of a proposal writes, in the order of writing. -/
def ChapterTrackingProposal.writes (proposal : ChapterTrackingProposal Fp)
    (source : DeltaSource Fp) : List (NarrativeView Fp) :=
  proposal.entityDeltas.map (·.view source) ++ proposal.relationshipDeltas.map (·.view source) ++
    proposal.knowledgeDeltas.map (·.view source) ++ proposal.timelineDeltas.map (·.view source) ++
    proposal.expectationDeltas.map (·.view source)

/-- The rows that a settled proposal determines. -/
def ChapterTrackingProposal.view (proposal : ChapterTrackingProposal Fp)
    (source : DeltaSource Fp) : NarrativeView Fp :=
  .stack (proposal.writes source) .empty

/-- Columns that no delta writes hold what every insert leaves in them. -/
structure NarrativeTables.Plain (tables : NarrativeTables Fp) : Prop where
  relationshipIds : (tables.relationships.map (·.relationshipId)).Nodup
  knowledgeIds : (tables.characterKnowledge.map (·.knowledgeId)).Nodup
  characters : ∀ row ∈ tables.characters, row.agenda = none ∧ row.voiceNotes = none
  worldEntities : ∀ row ∈ tables.worldEntities, row.entityType = "narrative"
  knowledge : ∀ row ∈ tables.characterKnowledge, row.claimRef = none

section Deltas

variable {db : Database Fp} {source : DeltaSource Fp} {tables tables' : NarrativeTables Fp}

theorem only_or {Key Row : Type} [DecidableEq Key] (key : Key) (row : Row) (k : Key)
    (old : Option Row) : (only key row k).or old = if k = key then some row else old := by
  by_cases h : k = key <;> simp [only, h]

/-- The source rows after a delta. -/
theorem lookup_upsert_source (entityType : NarrativeEntityType) (entityId : String)
    (rows : List (NarrativeSourceRow Fp)) (key : NarrativeEntityType × String) :
    Table.lookup NarrativeSourceRow.key key (Table.upsert NarrativeSourceRow.key
        (source.row entityType entityId) (fun _ => source.row entityType entityId) rows) =
      ((source.view entityType entityId).source key).or
        (Table.lookup NarrativeSourceRow.key key rows) := by
  rw [Table.lookup_upsert_eq key fun _ _ _ => rfl, DeltaSource.view, only_or]
  rfl

theorem applyEntityDelta_view {delta : NarrativeEntityDelta Fp} (hplain : tables.Plain)
    (h : applyEntityDelta db source tables delta = .ok tables') :
    tables'.view = (delta.view source).above tables.view ∧ tables'.Plain := by
  simp only [applyEntityDelta] at h
  split at h <;> rename_i hkind
  · obtain ⟨-, rfl⟩ := upsertNarrativeSource_eq_ok.mp h
    refine ⟨?_, { hplain with characters := ?_ }⟩
    · simp only [NarrativeEntityDelta.view, hkind]
      ext : 1
      · funext id
        refine (Table.lookup_upsert_eq id fun old hold hid => ?_).trans (only_or _ _ _ _).symm
        obtain ⟨hagenda, hvoice⟩ := hplain.characters old hold
        cases old
        simp_all
      all_goals first | rfl | exact funext (lookup_upsert_source _ _ _)
    · exact Table.forall_upsert ⟨rfl, rfl⟩ (fun old hold => hplain.characters old hold)
        hplain.characters
  · obtain ⟨-, rfl⟩ := upsertNarrativeSource_eq_ok.mp h
    refine ⟨?_, { hplain with worldEntities := ?_ }⟩
    · simp only [NarrativeEntityDelta.view, hkind]
      ext : 1
      · rfl
      · funext id
        refine (Table.lookup_upsert_eq id fun old hold hid => ?_).trans (only_or _ _ _ _).symm
        have htype := hplain.worldEntities old hold
        cases old
        simp_all
      all_goals first | rfl | exact funext (lookup_upsert_source _ _ _)
    · exact Table.forall_upsert rfl (fun old hold => hplain.worldEntities old hold)
        hplain.worldEntities

theorem applyRelationshipDelta_view {delta : RelationshipStateDelta Fp} (hplain : tables.Plain)
    (h : applyRelationshipDelta db source tables delta = .ok tables') :
    tables'.view = (delta.view source).above tables.view ∧ tables'.Plain := by
  obtain ⟨hsame, -, -, -, rfl⟩ := applyRelationshipDelta_eq_ok.mp h
  refine ⟨?_, { hplain with relationshipIds := ?_ }⟩
  · ext : 1
    case relationship =>
      funext id
      refine (Table.lookup_upsert_eq id fun old hold hid => ?_).trans (only_or _ _ _ _).symm
      have hid : old.relationshipId = delta.relationshipId := hid
      obtain ⟨ha, hb⟩ := hsame old (hid ▸ Table.lookup_of_mem hplain.relationshipIds hold)
      cases old
      simp_all
    all_goals first | rfl | exact funext (lookup_upsert_source _ _ _)
  · exact Table.nodup_upsert (fun _ => rfl) hplain.relationshipIds

theorem applyKnowledgeDelta_view {delta : CharacterKnowledgeDelta Fp} (hplain : tables.Plain)
    (h : applyKnowledgeDelta db source tables delta = .ok tables') :
    tables'.view = (delta.view source).above tables.view ∧ tables'.Plain := by
  obtain ⟨hsame, -, -, rfl⟩ := applyKnowledgeDelta_eq_ok.mp h
  refine ⟨?_, { hplain with knowledgeIds := ?_, knowledge := ?_ }⟩
  · ext : 1
    case knowledge =>
      funext id
      refine (Table.lookup_upsert_eq id fun old hold hid => ?_).trans (only_or _ _ _ _).symm
      have hid : old.knowledgeId = delta.knowledgeId := hid
      have howner := hsame old (hid ▸ Table.lookup_of_mem hplain.knowledgeIds hold)
      have hclaim := hplain.knowledge old hold
      cases old
      simp_all
    all_goals first | rfl | exact funext (lookup_upsert_source _ _ _)
  · exact Table.nodup_upsert (fun _ => rfl) hplain.knowledgeIds
  · exact Table.forall_upsert rfl (fun old hold => hplain.knowledge old hold) hplain.knowledge

theorem applyTimelineDelta_view {delta : TimelineEventDelta} (hplain : tables.Plain)
    (h : applyTimelineDelta db source tables delta = .ok tables') :
    tables'.view = (delta.view source).above tables.view ∧ tables'.Plain := by
  obtain ⟨-, rfl⟩ := upsertNarrativeSource_eq_ok.mp h
  refine ⟨?_, { hplain with }⟩
  ext : 1
  case timeline =>
    exact funext fun id =>
      (Table.lookup_upsert_eq id fun _ _ _ => rfl).trans (only_or _ _ _ _).symm
  all_goals first | rfl | exact funext (lookup_upsert_source _ _ _)

theorem applyExpectationDelta_view {delta : ReaderExpectationDelta} (hplain : tables.Plain)
    (h : applyExpectationDelta db source tables delta = .ok tables') :
    tables'.view = (delta.view source).above tables.view ∧ tables'.Plain := by
  obtain ⟨-, -, -, rfl⟩ := applyExpectationDelta_eq_ok.mp h
  refine ⟨?_, { hplain with }⟩
  ext : 1
  all_goals first | rfl | exact funext (lookup_upsert_source _ _ _)

/-- A loop of deltas stacks what they write. -/
theorem forEach_view {Delta : Type}
    {apply : NarrativeTables Fp → Delta → CoreResult (NarrativeTables Fp)}
    {view : Delta → NarrativeView Fp} {deltas : List Delta} (hplain : tables.Plain)
    (h : forEach apply deltas tables = .ok tables')
    (hstep : ∀ delta s t, s.Plain → apply s delta = .ok t →
      t.view = (view delta).above s.view ∧ t.Plain) :
    tables'.view = .stack (deltas.map view) tables.view ∧ tables'.Plain := by
  induction deltas generalizing tables with
  | nil =>
    simp only [forEach, Except.ok.injEq] at h
    exact h ▸ ⟨rfl, hplain⟩
  | cons delta rest ih =>
    obtain ⟨mid, hmid, h⟩ := bind_eq_ok.mp h
    obtain ⟨hview, hplain⟩ := hstep delta tables mid hplain hmid
    obtain ⟨hrest, hplain⟩ := ih hplain h
    refine ⟨?_, hplain⟩
    rw [hrest, hview]
    rfl

/-- A settled proposal stands over the rows that were there. -/
theorem applyNarrativeDeltas_view {proposal : ChapterTrackingProposal Fp}
    (hplain : db.narrative.Plain)
    (h : applyNarrativeDeltas proposal source db = .ok (db.withNarrative tables)) :
    tables.view = (proposal.view source).above db.narrative.view ∧ tables.Plain := by
  simp only [applyNarrativeDeltas, bind_eq_ok, pure_eq_ok] at h
  obtain ⟨entities, hentities, related, hrelated, known, hknown, timed, htimed, final, hfinal,
    hdb⟩ := h
  obtain rfl : final = tables := congrArg Database.narrative hdb
  obtain ⟨h₁, hplain⟩ := forEach_view hplain hentities fun _ _ _ => applyEntityDelta_view
  obtain ⟨h₂, hplain⟩ := forEach_view hplain hrelated fun _ _ _ => applyRelationshipDelta_view
  obtain ⟨h₃, hplain⟩ := forEach_view hplain hknown fun _ _ _ => applyKnowledgeDelta_view
  obtain ⟨h₄, hplain⟩ := forEach_view hplain htimed fun _ _ _ => applyTimelineDelta_view
  obtain ⟨h₅, hplain⟩ := forEach_view hplain hfinal fun _ _ _ => applyExpectationDelta_view
  refine ⟨?_, hplain⟩
  rw [ChapterTrackingProposal.view, ← NarrativeView.stack_eq_above, h₅, h₄, h₃, h₂, h₁]
  simp only [NarrativeView.stack, ChapterTrackingProposal.writes, List.foldl_append]

/-! ### The entities a proposal names -/

def NarrativeEntityDelta.key (delta : NarrativeEntityDelta Fp) : NarrativeEntityType × String :=
  match delta.entityKind with
  | .character => (.character, delta.entityId)
  | .world => (.world, delta.entityId)

/-- The entities that the deltas of a proposal are about. -/
def ChapterTrackingProposal.names (proposal : ChapterTrackingProposal Fp) :
    List (NarrativeEntityType × String) :=
  proposal.entityDeltas.map (·.key) ++
    proposal.relationshipDeltas.map (fun delta => (.relationship, delta.relationshipId)) ++
    proposal.knowledgeDeltas.map (fun delta => (.knowledge, delta.knowledgeId)) ++
    proposal.timelineDeltas.map (fun delta => (.timeline, delta.eventId)) ++
    proposal.expectationDeltas.map (fun delta => (.expectation, delta.expectationId))

theorem NarrativeView.stack_source {views : List (NarrativeView Fp)}
    {keys : List (NarrativeEntityType × String)}
    (h : views.map (·.source) = keys.map fun key => only key (source.row key.1 key.2))
    (base : NarrativeView Fp) (key : NarrativeEntityType × String) :
    (stack views base).source key =
      if key ∈ keys then some (source.row key.1 key.2) else base.source key := by
  induction views generalizing keys base with
  | nil =>
    obtain rfl : keys = [] := by simpa using h.symm
    simp [stack]
  | cons v rest ih =>
    cases keys with
    | nil => simp at h
    | cons k others =>
      obtain ⟨hv, hrest⟩ := List.cons.inj h
      refine (ih hrest (v.above base)).trans ?_
      have habove : (v.above base).source key =
          if key = k then some (source.row k.1 k.2) else base.source key := by
        have hv : v.source = only k (source.row k.1 k.2) := hv
        change (v.source key).or (base.source key) = _
        rw [hv, only_or]
      rw [habove]
      by_cases hmem : key ∈ others
      · simp [hmem]
      · by_cases hk : key = k
        · simp [hk]
        · simp [hmem, hk]

theorem ChapterTrackingProposal.view_source (proposal : ChapterTrackingProposal Fp)
    (key : NarrativeEntityType × String) :
    (proposal.view source).source key =
      if key ∈ proposal.names then some (source.row key.1 key.2) else none := by
  refine NarrativeView.stack_source ?_ .empty key
  have hentity : ∀ delta : NarrativeEntityDelta Fp, (delta.view source).source =
      only delta.key (source.row delta.key.1 delta.key.2) := by
    intro delta
    cases hkind : delta.entityKind <;>
      simp [NarrativeEntityDelta.view, NarrativeEntityDelta.key, hkind, DeltaSource.view]
  simp only [writes, names, List.map_append, List.map_map, Function.comp_def, hentity]
  rfl

end Deltas

/-! ## Runs -/

section Runs

variable [Sha256 Fp] [DecidableEq Fp] [Documents Fp] [SerdeJson Fp]

/-- An applied settlement, with what it read. -/
structure Settles (authorization : SettlementAuthorization Fp) (ids : SettlementIds)
    (plan : SettlementPlan Fp) (db db' : Database Fp) : Prop where
  validated : authorization.validate = .ok ()
  fresh : db.receipt? authorization.idempotencyKey = none
  prepared : db.prepareSettlement authorization ids.preflight = .ok plan
  committed : db.commitSettlement authorization ids plan = .ok db'

omit [Documents Fp] in
theorem Settles.apply {authorization : SettlementAuthorization Fp} {ids : SettlementIds}
    {plan : SettlementPlan Fp} {db db' : Database Fp}
    (h : Settles authorization ids plan db db') :
    applySettlement authorization ids db = .ok (authorization.settlementId, db') := by
  simp [applySettlement, h.validated, h.fresh, h.prepared, h.committed]

omit [Documents Fp] in
/-- A settlement stands over the entities that were there. -/
theorem Settles.narrative {authorization : SettlementAuthorization Fp} {ids : SettlementIds}
    {plan : SettlementPlan Fp} {db db' : Database Fp}
    (h : Settles authorization ids plan db db') (hplain : db.narrative.Plain) :
    db'.narrative.view.entities =
        ((plan.proposal.view (plan.source authorization.createdAt)).above
          db.narrative.view).entities ∧
      db'.narrative.Plain := by
  obtain ⟨tables, hnarrated⟩ := commitSettlement_narrated h.committed
  obtain ⟨hview, hplain⟩ := applyNarrativeDeltas_view hplain hnarrated.deltas
  rw [hnarrated.narrative, ← hview]
  exact ⟨rfl, { hplain with }⟩

/-- A call is beside the story or an applied settlement. -/
theorem WorkStep.settles {db db' : Database Fp} (h : WorkStep db db') (hinv : db.archive.Inv) :
    db.SameStory db' ∨ ∃ authorization ids plan, Settles authorization ids plan db db' := by
  obtain hsame | ⟨authorization, ids, settlementId, h⟩ := h.story hinv
  · exact .inl hsame
  · obtain ⟨hvalid, ⟨_, _, -, -, -, -, rfl⟩ | ⟨hfresh, -, plan, hplan, hcommit⟩⟩ :=
      applySettlement_eq_ok h
    · exact .inl (.refl _)
    · exact .inr ⟨authorization, ids, plan, hvalid, hfresh, hplan, hcommit⟩

/-- What every reachable workspace keeps. -/
structure WorkInv (db : Database Fp) : Prop where
  ledger : db.ledger.Inv
  archive : db.archive.Inv
  plain : db.narrative.Plain

theorem WorkStep.inv [CollisionFree Fp] {db db' : Database Fp} (h : WorkStep db db')
    (hinv : WorkInv db) : WorkInv db' where
  ledger := (h.ledger hinv.ledger).inv hinv.ledger
  archive := (h.archive hinv.archive).inv hinv.archive
  plain := by
    obtain hsame | ⟨authorization, ids, plan, hsettles⟩ := h.settles hinv.archive
    · rw [hsame.narrative]
      exact hinv.plain
    · exact (hsettles.narrative hinv.plain).2

omit [DecidableEq Fp] [Documents Fp] [SerdeJson Fp] in
theorem initialProject_workInv (projectId title createdAt : String) :
    WorkInv (initialProject projectId title createdAt : Database Fp) where
  ledger := initialProject_ledger projectId title createdAt
  archive := initialProject_archive projectId title createdAt
  plain := by constructor <;> simp [Database.narrative, initialProject]

variable [CollisionFree Fp] {projectId title createdAt : String} {start db db' : Database Fp}

theorem WorkStep.run_workInv (hstart : createReserved projectId title createdAt = .ok start)
    (hrun : ReflTransGen WorkStep start db) : WorkInv db := by
  obtain ⟨-, rfl⟩ := createReserved_eq_ok hstart
  exact invariant_of_step (P := WorkInv) (fun _ _ hstep => hstep.inv) hrun
    (initialProject_workInv projectId title createdAt)

/-! ### Sources -/

variable {authorization : SettlementAuthorization Fp} {ids : SettlementIds}
  {plan : SettlementPlan Fp}

/-- An applied settlement is the first of its acceptance. -/
theorem Settles.acceptance_new (h : Settles authorization ids plan db db') (hinv : WorkInv db) :
    plan.preflight.acceptanceId ∉ db.settlements.map (·.acceptanceId) := by
  have hstep := WorkStep.settle authorization ids authorization.settlementId h.apply
  have honce := (hstep.inv hinv).ledger.once
  obtain ⟨tables, hnarrated⟩ := commitSettlement_narrated h.committed
  have hsettlements : db'.settlements = db.settlements ++ [plan.settlementRow authorization] :=
    congrArg Archive.settlements hnarrated.archive
  change (db'.settlements.map (·.acceptanceId)).Nodup at honce
  rw [hsettlements, List.map_append, List.nodup_append] at honce
  exact fun hmem => honce.2.2 _ hmem _ (List.mem_singleton_self _) rfl

omit [Documents Fp] [CollisionFree Fp] in
/-- The head of the chapter before a settlement, as it was settled. -/
theorem Settles.prior (h : Settles authorization ids plan db db') (hinv : WorkInv db)
    {head : CanonRow Fp}
    (hhead : Table.lookup CanonRow.stateKey plan.preflight.targetRef db.canonState = some head) :
    ∃ earlier : SettlementPlan Fp, db.archive.Backs earlier ∧
      earlier.chapterId = plan.chapterId ∧ head.value = earlier.stateValue ∧
      head.contentFingerprint = earlier.afterHead ∧
      earlier.preflight.acceptanceId ∈ db.settlements.map (·.acceptanceId) ∧
      plan.priorCandidate = some earlier.preflight.candidateFingerprint := by
  obtain ⟨hbacks, hprior⟩ := prepareSettlement_backs hinv.archive h.prepared
  obtain ⟨earlier, hearlier, hkey, hvalue, hfp, hsettled⟩ :=
    hinv.archive.canon head (Table.lookup_mem hhead)
  have hchapter : earlier.chapterId = plan.chapterId := by
    refine chapterRef_injective ?_
    rw [← hearlier.target, ← hbacks.target, ← hkey]
    exact Table.lookup_key hhead
  refine ⟨earlier, hearlier, hchapter, hvalue, hfp, hsettled, ?_⟩
  have hread : head.candidateFingerprint = .ok (some earlier.preflight.candidateFingerprint) := by
    rw [CanonRow.candidateFingerprint, hvalue]
    rfl
  rw [priorCandidate, hhead] at hprior
  exact Except.ok.inj (hprior.symm.trans hread)

/-- The text of a chapter's head is never settled again. -/
theorem Settles.priorCandidate_ne (h : Settles authorization ids plan db db')
    (hinv : WorkInv db) : plan.priorCandidate ≠ some plan.preflight.candidateFingerprint := by
  intro hsame
  obtain ⟨hbacks, hprior⟩ := prepareSettlement_backs hinv.archive h.prepared
  cases hhead : Table.lookup CanonRow.stateKey plan.preflight.targetRef db.canonState with
  | none =>
    rw [priorCandidate, hhead, pure_eq_ok] at hprior
    rw [hsame] at hprior
    cases hprior
  | some head =>
    obtain ⟨earlier, hearlier, hchapter, -, -, hsettled, hcandidate⟩ := h.prior hinv hhead
    have hfp := Option.some.inj (hcandidate.symm.trans hsame)
    refine h.acceptance_new hinv ?_
    rwa [← hinv.archive.acceptance_eq hearlier hbacks hchapter hfp]

/-- A settlement over a head changes it. -/
theorem Settles.changesHead (h : Settles authorization ids plan db db') (hinv : WorkInv db)
    {head : CanonRow Fp}
    (hhead : Table.lookup CanonRow.stateKey plan.preflight.targetRef db.canonState = some head) :
    plan.ChangesHead := by
  obtain ⟨earlier, -, -, -, hfp, hsettled, -⟩ := h.prior hinv hhead
  have hbefore : plan.preflight.beforeFingerprint = earlier.afterHead := by
    rw [(prepareSettlement_eq_ok h.prepared).before, canonHead, hhead, ← hfp]
    rfl
  refine ⟨?_, fun hsame => h.acceptance_new hinv ?_⟩
  · rw [hbefore]
    exact CollisionFree.ofJson_ne_empty _
  · -- two heads with one acceptance
    have hvalue : earlier.stateValue = plan.stateValue :=
      CollisionFree.ofJson_injective (hbefore.symm.trans hsame)
    have hid : earlier.preflight.acceptanceId = plan.preflight.acceptanceId := by
      have hmember := congrArg (Json.get? · "acceptance_id") hvalue
      simpa [SettlementPlan.stateValue, Json.get?] using hmember
    rwa [← hid]

/-- The source row of an entity. -/
def Database.sourceOf (db : Database Fp) (entity : NarrativeEntityType × String) :
    Option (NarrativeSourceRow Fp) :=
  Table.lookup NarrativeSourceRow.key entity db.narrativeStateSources

/-- The source rows around a settlement: every entity it names cites it, what cited the replaced
head of its chapter is stale, and what cited another chapter is as before. -/
structure FreshSources (plan : SettlementPlan Fp) (db db' : Database Fp) : Prop where
  named : ∀ entity ∈ plan.proposal.names, ∃ row, db'.sourceOf entity = some row ∧
    row.state = .current ∧ row.chapterId = plan.chapterId ∧
    row.acceptanceId = plan.preflight.acceptanceId ∧
    row.sourceFingerprint = plan.preflight.candidateFingerprint
  replaced : ∀ entity row head, entity ∉ plan.proposal.names → db.sourceOf entity = some row →
    Table.lookup CanonRow.stateKey (chapterRef plan.chapterId) db.canonState = some head →
    row.chapterId = plan.chapterId →
    head.value.get? "content_fingerprint" = some (.fp row.sourceFingerprint) →
    ∃ row', db'.sourceOf entity = some row' ∧ row'.state = .stale
  others : ∀ entity row, entity ∉ plan.proposal.names → db.sourceOf entity = some row →
    row.chapterId ≠ plan.chapterId → db'.sourceOf entity = some row

omit [Documents Fp] [CollisionFree Fp] in
/-- The source of an entity after a settlement. -/
theorem Settles.sourceOf (h : Settles authorization ids plan db db') (hinv : WorkInv db)
    (entity : NarrativeEntityType × String) :
    db'.sourceOf entity =
      (if entity ∈ plan.proposal.names then
        some ((plan.source authorization.createdAt).row entity.1 entity.2)
      else db.sourceOf entity).map fun source =>
        if plan.ChangesHead ∧ source.chapterId = plan.chapterId ∧
          plan.priorCandidate = some source.sourceFingerprint ∧ source.state = .current then
          { source with state := .stale, updatedAt := authorization.createdAt }
        else source := by
  obtain ⟨tables, hnarrated⟩ := commitSettlement_narrated h.committed
  obtain ⟨hview, -⟩ := applyNarrativeDeltas_view hinv.plain hnarrated.deltas
  have hwritten : Table.lookup NarrativeSourceRow.key entity tables.narrativeStateSources =
      if entity ∈ plan.proposal.names then
        some ((plan.source authorization.createdAt).row entity.1 entity.2)
      else db.sourceOf entity := by
    refine (congrArg (NarrativeView.source · entity) hview).trans ?_
    change ((plan.proposal.view _).source entity).or (db.sourceOf entity) = _
    rw [ChapterTrackingProposal.view_source]
    split_ifs <;> rfl
  have hsources := congrArg NarrativeTables.narrativeStateSources hnarrated.narrative
  change db'.narrativeStateSources = _ at hsources
  rw [Database.sourceOf, hsources, Table.lookup_updateWhere, hwritten]
  · simp only [decide_eq_true_eq]
  · exact fun _ => rfl

/-- After every settlement that is not a replay of an earlier one, in every reachable state, the
source rows are fresh. -/
theorem settlement_sources_fresh (hstart : createReserved projectId title createdAt = .ok start)
    (hrun : ReflTransGen WorkStep start db) {settlementId : String}
    (h : applySettlement authorization ids db = .ok (settlementId, db')) :
    (db' = db ∧ ∃ row ∈ db.settlements, row.settlementId = settlementId ∧
      row.receipt.fingerprint = authorization.fingerprint) ∨
    ∃ plan, db.prepareSettlement authorization ids.preflight = .ok plan ∧
      authorization.targetRef = chapterRef plan.chapterId ∧
      plan.preflight.acceptanceId = authorization.acceptanceId ∧
      FreshSources plan db db' := by
  have hinv := WorkStep.run_workInv hstart hrun
  obtain ⟨hvalid, ⟨receipt, prior, hreceipt, hpayload, hfp, rfl, rfl⟩ | ⟨hfresh, rfl, plan, hplan,
    hcommit⟩⟩ := applySettlement_eq_ok h
  · have hprior : prior ∈ db'.ledger.receipts := by
      refine List.mem_filterMap.mpr ⟨receipt, Table.lookup_mem hreceipt, ?_⟩
      rw [hpayload]
      rfl
    obtain ⟨row, hrow, rfl, hid⟩ := hinv.ledger.receipts prior hprior
    exact .inl ⟨rfl, row, hrow, hid, hfp⟩
  · have hsettles : Settles authorization ids plan db db' := ⟨hvalid, hfresh, hplan, hcommit⟩
    have hprepared := prepareSettlement_eq_ok hplan
    refine .inr ⟨plan, hplan, hprepared.targetRef.symm.trans hprepared.target,
      hprepared.acceptanceId, ?_, ?_, ?_⟩
    · intro entity hentity
      refine ⟨(plan.source authorization.createdAt).row entity.1 entity.2, ?_, rfl, rfl, rfl, rfl⟩
      rw [hsettles.sourceOf hinv, if_pos hentity, Option.map_some, if_neg]
      -- the update looks for the replaced text, and this row has the new one
      exact fun hstale => hsettles.priorCandidate_ne hinv hstale.2.2.1
    · intro entity row head hunnamed hrow hhead hchapter hcited
      rw [← hprepared.target] at hhead
      obtain ⟨earlier, -, -, hvalue, -, -, hprior⟩ := hsettles.prior hinv hhead
      have hfp : earlier.preflight.candidateFingerprint = row.sourceFingerprint := by
        rw [hvalue] at hcited
        simpa [SettlementPlan.stateValue, Json.get?] using hcited
      rw [hfp] at hprior
      rw [hsettles.sourceOf hinv, if_neg hunnamed, hrow, Option.map_some]
      refine ⟨_, rfl, ?_⟩
      cases hstate : row.state with
      | current =>
        rw [if_pos ⟨hsettles.changesHead hinv hhead, hchapter, hprior, rfl⟩]
      | stale =>
        rw [if_neg (by simp)]
        exact hstate
    · intro entity row hunnamed hrow hchapter
      rw [hsettles.sourceOf hinv, if_neg hunnamed, hrow, Option.map_some, if_neg]
      exact fun hstale => hchapter hstale.2.1

/-! ### Entities -/

/-- A run, with the source and the proposal of each settlement, the last one first. -/
inductive SettledRun (start : Database Fp) :
    List (DeltaSource Fp × ChapterTrackingProposal Fp) → Database Fp → Prop
  | start : SettledRun start [] start
  | call {log db db'} (hrun : SettledRun start log db) (hstep : WorkStep db db')
      (hsame : db.SameStory db') : SettledRun start log db'
  | settle {log db db'} (authorization ids plan) (hrun : SettledRun start log db)
      (hsettles : Settles authorization ids plan db db') :
      SettledRun start ((plan.source authorization.createdAt, plan.proposal) :: log) db'

omit [CollisionFree Fp] in
theorem SettledRun.steps {log : List (DeltaSource Fp × ChapterTrackingProposal Fp)}
    (h : SettledRun start log db) : ReflTransGen WorkStep start db := by
  induction h with
  | start => exact .refl
  | call _ hstep _ ih => exact ih.tail hstep
  | settle authorization ids plan _ hsettles ih =>
    exact ih.tail (.settle authorization ids _ hsettles.apply)

/-- Every run has its settlements. -/
theorem exists_settledRun (hstart : createReserved projectId title createdAt = .ok start)
    (hrun : ReflTransGen WorkStep start db) : ∃ log, SettledRun start log db := by
  induction hrun with
  | refl => exact ⟨[], .start⟩
  | tail hrun hstep ih =>
    obtain ⟨log, hlog⟩ := ih
    obtain hsame | ⟨authorization, ids, plan, hsettles⟩ :=
      hstep.settles (WorkStep.run_workInv hstart hrun).archive
    · exact ⟨log, .call hlog hstep hsame⟩
    · exact ⟨_, .settle authorization ids plan hlog hsettles⟩

/-- The entities of a run are the stacked entities of its settlements. -/
theorem SettledRun.entities (hstart : createReserved projectId title createdAt = .ok start)
    {log : List (DeltaSource Fp × ChapterTrackingProposal Fp)} (h : SettledRun start log db) :
    db.narrative.view.entities =
      log.foldr (fun settled older => (settled.2.view settled.1).entities.above older) .empty := by
  induction h with
  | start =>
    obtain ⟨-, rfl⟩ := createReserved_eq_ok hstart
    rfl
  | call _ _ hsame ih => rw [hsame.narrative, ih]
  | settle authorization ids plan hrun hsettles ih =>
    have hplain := (WorkStep.run_workInv hstart hrun.steps).plain
    rw [(hsettles.narrative hplain).1, NarrativeView.entities_above, ih, List.foldr_cons]

omit [Sha256 Fp] [DecidableEq Fp] [Documents Fp] [SerdeJson Fp] [CollisionFree Fp] in
/-- In a stack the last row of an id is found. -/
theorem NarrativeView.foldr_above {Row : Type} (field : NarrativeView Fp → Option Row)
    (habove : ∀ new old : NarrativeView Fp, field (new.above old) = (field new).or (field old))
    (hempty : field .empty = none)
    (log : List (DeltaSource Fp × ChapterTrackingProposal Fp)) :
    field (log.foldr (fun settled older => (settled.2.view settled.1).entities.above older)
        .empty) =
      log.findSome? fun settled => field (settled.2.view settled.1).entities := by
  induction log with
  | nil => exact hempty
  | cons settled rest ih =>
    rw [List.foldr_cons, habove, ih, List.findSome?_cons]
    cases field (settled.2.view settled.1).entities <;> rfl

/-- The row of every entity is the one that the last settlement naming it determines. -/
theorem entities_last_settled (hstart : createReserved projectId title createdAt = .ok start)
    {log : List (DeltaSource Fp × ChapterTrackingProposal Fp)} (h : SettledRun start log db)
    (id : String) :
    Table.lookup CharacterRow.characterId id db.characters =
        log.findSome? (fun settled => (settled.2.view settled.1).character id) ∧
    Table.lookup WorldEntityRow.entityId id db.worldEntities =
        log.findSome? (fun settled => (settled.2.view settled.1).world id) ∧
    Table.lookup RelationshipRow.relationshipId id db.relationships =
        log.findSome? (fun settled => (settled.2.view settled.1).relationship id) ∧
    Table.lookup CharacterKnowledgeRow.knowledgeId id db.characterKnowledge =
        log.findSome? (fun settled => (settled.2.view settled.1).knowledge id) ∧
    Table.lookup TimelineEventRow.eventId id db.timelineEvents =
        log.findSome? (fun settled => (settled.2.view settled.1).timeline id) := by
  have hrows : ∀ {Row : Type} (field : NarrativeView Fp → Option Row), _ →
      field .empty = none → field db.narrative.view.entities =
        log.findSome? fun settled => field (settled.2.view settled.1).entities :=
    fun field habove hempty =>
      (congrArg field (h.entities hstart)).trans
        (NarrativeView.foldr_above field habove hempty log)
  exact ⟨hrows (·.character id) (fun _ _ => rfl) rfl, hrows (·.world id) (fun _ _ => rfl) rfl,
    hrows (·.relationship id) (fun _ _ => rfl) rfl, hrows (·.knowledge id) (fun _ _ => rfl) rfl,
    hrows (·.timeline id) (fun _ _ => rfl) rfl⟩

end Runs

/-! ## Sample rounds -/

namespace Sample

/-- A chapter that is drafted, released, accepted and settled. -/
structure Round where
  chapterId : String
  documentId : String
  /-- Makes the ids of the round its own. -/
  tag : String
  text : String
  manuscript : String
  settledAt : String

namespace Round

def planLock (r : Round) : Json Digest :=
  obj [("node_id", str r.chapterId), ("fingerprint", fp (.tag 1)), ("scenes", arr [scene.toJson])]

def view (r : Round) : PlanningView Digest := { Sample.view with planLock := .ok r.planLock }

def runId (r : Round) : String := "run-" ++ r.tag

def request (r : Round) (pack : WriterPack Digest) : ProductionRequest Digest :=
  let body : ProductionRequest Digest :=
    { Sample.request with
      runId := r.runId, targetRef := r.documentId, writerPackFingerprint := pack.fingerprint,
      fingerprint := .tag 0 }
  { body with fingerprint := body.computeFingerprint }

def candidate (r : Round) (pack : WriterPack Digest) : CandidateArtifact Digest where
  schema := "quillframe_candidate_artifact_v1"
  candidateId := "CAND" ++ r.tag
  chapterId := r.chapterId
  writerPackFingerprint := pack.fingerprint
  parentCandidateFingerprint := none
  revision := 1
  manuscript := r.manuscript
  fingerprint := Sha256.ofText r.manuscript

def report (r : Round) : ReviewReport Digest :=
  let body : ReviewReport Digest :=
    { Sample.report with candidateFingerprint := Sha256.ofText r.manuscript, fingerprint := .tag 0 }
  { body with fingerprint := body.computeFingerprint }

def stageReceipts (r : Round) : OrderedMap String Digest :=
  (Sample.stageReceipts r.text).insert "context_freeze"
    (Sha256.ofLink (.inl r.runId) contextFreeze.fingerprint)

def release (r : Round) (pack : WriterPack Digest) : ProductionRelease Digest :=
  let body : ProductionRelease Digest :=
    { Sample.release r.text with
      releaseId := "REL" ++ r.tag, candidateId := "CAND" ++ r.tag,
      candidateFingerprint := Sha256.ofText r.manuscript,
      writerPackFingerprint := pack.fingerprint, trackingFingerprint := pack.trackingFingerprint,
      reviewReportFingerprint := r.report.fingerprint,
      stageReceiptFingerprints := r.stageReceipts, fingerprint := .tag 0 }
  { body with fingerprint := body.computeFingerprint }

def runOps (r : Round) (pack : WriterPack Digest) : List (RunOp Digest) :=
  (stages.flatMap fun stage =>
    [.dispatch r.runId (job stage.1) "o" 9 "t3" (r.tag ++ stage.2),
      .confirm ("call-" ++ (r.tag ++ stage.2)) (stageAnswer r.text stage.1) "t4"]) ++
  [.freezeContext r.runId .draft ⟨[], []⟩ [] ⟨[]⟩ contextFreeze "t4" ("u1" ++ r.tag)
      ("u2" ++ r.tag),
    .commit r.runId r.documentId .draft (r.candidate pack) r.report (r.release pack)
      (.error noRows) "t5" ⟨"r" ++ r.tag, "c" ++ r.tag, "e" ++ r.tag⟩]

def accepted (r : Round) (db : Database Digest) : CoreResult (Database Digest) := do
  let (pack, frozen) ← freezeWriterPackForChapter r.view r.chapterId "t1" db
  let (_, started) ← startProduction (r.request pack) "t2" frozen
  let released ← forEach (fun db op => RunOp.exec op db) (r.runOps pack) started
  let decision ← AcceptanceDecision.create ("ACC" ++ r.tag) ("CAND" ++ r.tag)
    (Sha256.ofText r.manuscript) r.report.fingerprint "author" ("k1" ++ r.tag) "t6"
  Prod.snd <$> acceptCandidate decision released

def authorization (r : Round) (db : Database Digest) :
    CoreResult (SettlementAuthorization Digest) := do
  let preflight ← settlementPreflight db ("ACC" ++ r.tag) (chapterRef r.chapterId) "t7" "p1"
  SettlementAuthorization.create preflight ("SET" ++ r.tag) "author" ("k2" ++ r.tag) r.settledAt

def ids (r : Round) : SettlementIds :=
  ⟨"p2", fun _ => "i" ++ r.tag, "f" ++ r.tag, "s" ++ r.tag⟩

/-- The whole round, with what it settled. -/
def settled (r : Round) (db : Database Digest) :
    CoreResult ((DeltaSource Digest × ChapterTrackingProposal Digest) × Database Digest) := do
  let db ← r.accepted db
  let authorization ← r.authorization db
  authorization.validate
  require (db.receipt? authorization.idempotencyKey = none) foreignReceipt
  let plan ← db.prepareSettlement authorization r.ids.preflight
  let db ← db.commitSettlement authorization r.ids plan
  return ((plan.source authorization.createdAt, plan.proposal), db)

variable {r : Round} {start db db' : Database Digest}
  {log : List (DeltaSource Digest × ChapterTrackingProposal Digest)}

theorem runOps_settledRun {ops : List (RunOp Digest)} (hrun : SettledRun start log db)
    (h : forEach (fun db op => RunOp.exec op db) ops db = .ok db') :
    SettledRun start log db' := by
  refine forEach_invariant (P := SettledRun start log) ?_ h hrun
  exact fun op _ s t hst hs => hs.call (.run op hst) (op.sameStory hst)

theorem accepted_settledRun (hrun : SettledRun start log db) (h : r.accepted db = .ok db') :
    SettledRun start log db' := by
  simp only [accepted, bind_eq_ok, Prod.exists] at h
  obtain ⟨pack, frozen, hfrozen, u, started, hstarted, released, hreleased, decision, -,
    haccepted⟩ := h
  obtain ⟨acceptanceId, haccepted⟩ := snd_map_eq_ok haccepted
  have hfreeze : db.SameStory frozen := by
    obtain ⟨-, -, rfl | ⟨row, -, -, -, -, rfl⟩⟩ := freezeWriterPackForChapter_eq_ok hfrozen
    · exact .refl _
    · exact ⟨rfl, rfl, rfl, rfl, rfl, rfl, rfl, rfl, rfl⟩
  have hstart : frozen.SameStory started := by
    obtain rfl | ⟨_, _, _, _, -, -, -, -, -, -, -, -, -, -, -, rfl⟩ :=
      startProduction_eq_ok hstarted
    · exact .refl _
    · exact ⟨rfl, rfl, rfl, rfl, rfl, rfl, rfl, rfl, rfl⟩
  have hrun := (hrun.call (.freezePack _ _ _ _ hfrozen) hfreeze).call (.start _ _ hstarted) hstart
  exact (runOps_settledRun hrun hreleased).call (.accept _ _ haccepted)
    (acceptCandidate_sameStory haccepted)

/-- The settlement that ends a round. -/
theorem settled_settles {settlement : DeltaSource Digest × ChapterTrackingProposal Digest}
    (hrun : SettledRun start log db) (h : r.settled db = .ok (settlement, db')) :
    ∃ before authorization plan, SettledRun start log before ∧
      Settles authorization r.ids plan before db' ∧
      settlement = (plan.source authorization.createdAt, plan.proposal) := by
  simp only [settled, bind_eq_ok, require_eq_ok, exists_const, pure_eq_ok, Prod.mk.injEq] at h
  obtain ⟨before, hbefore, authorization, -, ⟨⟩, hvalid, hfresh, plan, hplan, final, hfinal, rfl,
    rfl⟩ := h
  exact ⟨before, authorization, plan, accepted_settledRun hrun hbefore,
    ⟨hvalid, hfresh, hplan, hfinal⟩, rfl⟩

theorem settled_settledRun {settlement : DeltaSource Digest × ChapterTrackingProposal Digest}
    (hrun : SettledRun start log db) (h : r.settled db = .ok (settlement, db')) :
    SettledRun start (settlement :: log) db' := by
  obtain ⟨before, authorization, plan, hbefore, hsettles, rfl⟩ := settled_settles hrun h
  exact .settle authorization r.ids plan hbefore hsettles

end Round

/-- A second volume with one chapter. -/
def secondVolume : CoreResult (Database Digest) := do
  let (_, db) ← createStoryContainer "novel" .volume none "Two" "kv" "t0" "v" project
  let (_, db) ← createStoryContainer "novel" .unit (some "VOL002") "Two" "ku" "t0" "u" db
  let (_, _, db) ← createChapter "novel" (some "UNIT002") "Two" "kc" "t0" ([], db)
  return db

def lateRound : Round :=
  ⟨"CH002", "DOC-CH002", "2", soundingText, "Lin met Mei again.", "t8"⟩

def earlyRound : Round := ⟨"CH001", "DOC-CH001", "1", retoldText, "Lin met Mei.", "t9"⟩

/-- The second chapter is settled before the first one. -/
def backwards : CoreResult (List (DeltaSource Digest × ChapterTrackingProposal Digest) ×
    Database Digest) := do
  let db ← secondVolume
  let (late, db) ← lateRound.settled db
  let (early, db) ← earlyRound.settled db
  return ([early, late], db)

theorem secondVolume_settledRun {db : Database Digest} (h : secondVolume = .ok db) :
    SettledRun project [] db := by
  simp only [secondVolume, bind_eq_ok, pure_eq_ok, Prod.exists] at h
  obtain ⟨_, volume, hvolume, _, unit, hunit, _, _, chapter, hchapter, rfl⟩ := h
  have hcontainers := (SettledRun.start.call (.container _ _ _ _ _ _ _ _ hvolume)
    (createStoryContainer_sameStory hvolume)).call (.container _ _ _ _ _ _ _ _ hunit)
    (createStoryContainer_sameStory hunit)
  have hinv := WorkStep.run_workInv create_project hcontainers.steps
  exact hcontainers.call (.chapter _ _ _ _ _ _ _ _ hchapter)
    (createChapter_sameStory hinv.archive hchapter)

/-- What the second chapter was settled with, and what it is afterwards. -/
def backwardsFacts (log : List (DeltaSource Digest × ChapterTrackingProposal Digest))
    (db : Database Digest) : Prop :=
  (log.map fun settled => (settled.1.chapterId, settled.1.readingOrder)) =
    [("CH001", 1), ("CH002", 2)] ∧
  (log.map fun settled => (decide ((.world, "S") ∈ settled.2.names),
      ((settled.2.view settled.1).world "S").map (·.name))) =
    [(true, some "bay"), (true, some "sea")] ∧
  (Table.lookup WorldEntityRow.entityId "S" db.worldEntities).map (·.name) = some "bay" ∧
  -- neither chapter can be produced again, and the first one continues the second
  (freezeWriterPackForChapter earlyRound.view "CH001" "t10" db =
    .error (.contextBoundary
      "Writer Pack continuity entries must be unique settled prior chapters")) ∧
  (db.writerPackFreezes.map fun row => (row.chapterId,
      row.payload.continuityContext.map fun entry => entry.record.chapterId)) =
    [("CH002", []), ("CH001", ["CH002"])] ∧
  -- a new chapter of the first volume moves the second one
  ((createChapter "novel" (some "UNIT001") "Three" "k3" "t0" ([], db)).map fun created =>
      (created.2.2.readingOrder "CH002", created.2.2.canonState.map fun row =>
        (row.stateKey, row.value.get? "reading_order"))) =
    .ok (3, [("chapter:CH002", some (int 2)), ("chapter:CH001", some (int 1))])

instance (log : List (DeltaSource Digest × ChapterTrackingProposal Digest))
    (db : Database Digest) : Decidable (backwardsFacts log db) :=
  inferInstanceAs (Decidable (_ ∧ _))

theorem backwards_checked :
    (backwards.map fun run => decide (backwardsFacts run.1 run.2)) = .ok true := by
  decide +kernel

/-- The run up to its last settlement, and the settlement, with their facts. -/
theorem exists_backwards : ∃ late before authorization ids plan db,
    SettledRun project [late] before ∧ Settles authorization ids plan before db ∧
    backwardsFacts [(plan.source authorization.createdAt, plan.proposal), late] db := by
  obtain ⟨⟨log, db⟩, h, hfacts⟩ := map_eq_ok.mp backwards_checked
  simp only [backwards, bind_eq_ok, pure_eq_ok, Prod.mk.injEq] at h
  obtain ⟨volume, hvolume, ⟨late, middle⟩, hlate, ⟨early, final⟩, hearly, rfl, rfl⟩ := h
  obtain ⟨before, authorization, plan, hbefore, hsettles, rfl⟩ := Round.settled_settles
    (Round.settled_settledRun (secondVolume_settledRun hvolume) hlate) hearly
  exact ⟨late, before, authorization, _, plan, _, hbefore, hsettles, of_decide_eq_true hfacts⟩

end Sample

/-- The second chapter, settled first, has lost its state of the sea to the first one. -/
theorem entities_not_by_reading_order :
    ∃ (early late : DeltaSource Digest × ChapterTrackingProposal Digest) (db : Database Digest),
      createReserved "novel" "Harbour" "t0" = .ok Sample.project ∧
      SettledRun Sample.project [early, late] db ∧ early.1.chapterId ≠ late.1.chapterId ∧
      early.1.readingOrder < late.1.readingOrder ∧ (.world, "S") ∈ late.2.names ∧
      Table.lookup WorldEntityRow.entityId "S" db.worldEntities ≠
        (late.2.view late.1).world "S" := by
  obtain ⟨late, before, authorization, ids, plan, db, hbefore, hsettles, hplaces, hrows, hrow,
    -⟩ := Sample.exists_backwards
  simp only [List.map_cons, List.map_nil, List.cons.injEq, Prod.mk.injEq, and_true,
    decide_eq_true_eq] at hplaces hrows
  obtain ⟨⟨hearly, hearlyOrder⟩, hlate, hlateOrder⟩ := hplaces
  obtain ⟨-, hnamed, hlateRow⟩ := hrows
  refine ⟨_, late, db, Sample.create_project, .settle authorization ids plan hbefore hsettles,
    by simp [hearly, hlate], hearlyOrder.trans_lt (by rw [hlateOrder]; decide), hnamed,
    fun hsame => ?_⟩
  rw [hsame, hlateRow] at hrow
  simp at hrow

theorem entities_last_settled_sample :
    ∃ (log : List (DeltaSource Digest × ChapterTrackingProposal Digest)) (db : Database Digest),
      SettledRun Sample.project log db ∧ log.length = 2 ∧
      Table.lookup WorldEntityRow.entityId "S" db.worldEntities =
        log.findSome? fun settled => (settled.2.view settled.1).world "S" := by
  obtain ⟨late, before, authorization, ids, plan, db, hbefore, hsettles, -⟩ :=
    Sample.exists_backwards
  have hrun := hbefore.settle authorization ids plan hsettles
  exact ⟨_, db, hrun, rfl, (entities_last_settled Sample.create_project hrun "S").2.1⟩

theorem settlement_sources_fresh_sample :
    ∃ (db db' : Database Digest) (plan : SettlementPlan Digest),
      ReflTransGen WorkStep Sample.project db ∧ plan.proposal.names ≠ [] ∧
      FreshSources plan db db' := by
  obtain ⟨late, before, authorization, ids, plan, db, hbefore, hsettles, -, hrows, -⟩ :=
    Sample.exists_backwards
  simp only [List.map_cons, List.cons.injEq, Prod.mk.injEq, decide_eq_true_eq] at hrows
  obtain ⟨rfl, -⟩ | ⟨plan', hplan', -, -, hfresh⟩ :=
    settlement_sources_fresh Sample.create_project hbefore.steps hsettles.apply
  · -- an applied settlement adds a row
    obtain ⟨tables, hnarrated⟩ := commitSettlement_narrated hsettles.committed
    have hlength := congrArg (fun a => a.settlements.length) hnarrated.archive
    simp at hlength
  · obtain rfl : plan = plan' := Except.ok.inj (hsettles.prepared.symm.trans hplan')
    exact ⟨before, db, plan, hbefore.steps, List.ne_nil_of_mem hrows.1.1, hfresh⟩

end Quillframe
