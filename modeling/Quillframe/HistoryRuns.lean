import Quillframe.ProjectRuns

/-!
# Verified histories

The history verifies after every settlement whose proposal is read back as it was written, and
no other log verifies under the same head.
-/
namespace Quillframe

open Relation Database

variable {Fp : Type}

/-! ## Stable narrative tables -/

section Stable

variable [SerdeJson Fp]

structure NarrativeTables.Stable (tables : NarrativeTables Fp) : Prop where
  characters : ∀ row ∈ tables.characters, row.state.Stable
  relationships : ∀ row ∈ tables.relationships, row.state.Stable
  worldEntities : ∀ row ∈ tables.worldEntities, row.truth.Stable
  knowledge : ∀ row ∈ tables.characterKnowledge, row.fact.Stable

/-- The states and facts that a proposal writes. -/
structure ChapterTrackingProposal.Stable (proposal : ChapterTrackingProposal Fp) : Prop where
  entities : ∀ delta ∈ proposal.entityDeltas, delta.state.Stable
  relationships : ∀ delta ∈ proposal.relationshipDeltas, delta.state.Stable
  knowledge : ∀ delta ∈ proposal.knowledgeDeltas, delta.fact.Stable

theorem ChapterTrackingProposal.stable_of_toValue {proposal : ChapterTrackingProposal Fp}
    (h : proposal.toValue.Stable) : proposal.Stable := by
  simp only [toValue, Json.stable_obj, List.forall_mem_cons, Json.stable_arr, List.forall_mem_map,
    NarrativeEntityDelta.toValue, RelationshipStateDelta.toValue,
    CharacterKnowledgeDelta.toValue, Json.stable_str, true_and] at h
  obtain ⟨-, hentities, -, hknowledge, -, -, -, hrelationships, -⟩ := h
  exact ⟨fun delta hdelta => (hentities delta hdelta).1,
    fun delta hdelta => (hrelationships delta hdelta).1,
    fun delta hdelta => (hknowledge delta hdelta).1⟩

variable {db db' : Database Fp} {source : DeltaSource Fp} {tables tables' : NarrativeTables Fp}

theorem applyEntityDelta_stable {delta : NarrativeEntityDelta Fp} (hdelta : delta.state.Stable)
    (h : applyEntityDelta db source tables delta = .ok tables') (hstable : tables.Stable) :
    tables'.Stable := by
  obtain ⟨hcharacters, hrelationships, hentities, hknowledge⟩ := hstable
  simp only [applyEntityDelta] at h
  split at h
  · obtain ⟨-, rfl⟩ := upsertNarrativeSource_eq_ok.mp h
    exact ⟨Table.forall_upsert hdelta (fun _ _ => hdelta) hcharacters, hrelationships, hentities,
      hknowledge⟩
  · obtain ⟨-, rfl⟩ := upsertNarrativeSource_eq_ok.mp h
    exact ⟨hcharacters, hrelationships,
      Table.forall_upsert hdelta (fun _ _ => hdelta) hentities, hknowledge⟩

theorem applyRelationshipDelta_stable {delta : RelationshipStateDelta Fp}
    (hdelta : delta.state.Stable)
    (h : applyRelationshipDelta db source tables delta = .ok tables') (hstable : tables.Stable) :
    tables'.Stable := by
  obtain ⟨hcharacters, hrelationships, hentities, hknowledge⟩ := hstable
  obtain ⟨-, -, -, -, rfl⟩ := applyRelationshipDelta_eq_ok.mp h
  exact ⟨hcharacters, Table.forall_upsert hdelta (fun _ _ => hdelta) hrelationships, hentities,
    hknowledge⟩

theorem applyKnowledgeDelta_stable {delta : CharacterKnowledgeDelta Fp}
    (hdelta : delta.fact.Stable)
    (h : applyKnowledgeDelta db source tables delta = .ok tables') (hstable : tables.Stable) :
    tables'.Stable := by
  obtain ⟨hcharacters, hrelationships, hentities, hknowledge⟩ := hstable
  obtain ⟨-, -, -, rfl⟩ := applyKnowledgeDelta_eq_ok.mp h
  exact ⟨hcharacters, hrelationships, hentities,
    Table.forall_upsert hdelta (fun _ _ => hdelta) hknowledge⟩

/-- A stable proposal keeps the narrative tables stable. -/
theorem applyNarrativeDeltas_stable {proposal : ChapterTrackingProposal Fp}
    (hproposal : proposal.Stable) (h : applyNarrativeDeltas proposal source db = .ok db')
    (hstable : db.narrative.Stable) : db'.narrative.Stable := by
  simp only [applyNarrativeDeltas, bind_eq_ok, pure_eq_ok] at h
  obtain ⟨entities, hentities, related, hrelated, known, hknown, timed, htimed, final, hfinal,
    rfl⟩ := h
  have hentities := forEach_invariant (P := NarrativeTables.Stable) (fun delta hdelta _ _ hstep =>
    applyEntityDelta_stable (hproposal.entities delta hdelta) hstep) hentities hstable
  have hrelated := forEach_invariant (P := NarrativeTables.Stable) (fun delta hdelta _ _ hstep =>
    applyRelationshipDelta_stable (hproposal.relationships delta hdelta) hstep) hrelated hentities
  have hknown := forEach_invariant (P := NarrativeTables.Stable) (fun delta hdelta _ _ hstep =>
    applyKnowledgeDelta_stable (hproposal.knowledge delta hdelta) hstep) hknown hrelated
  have htimed := forEach_invariant (P := NarrativeTables.Stable) (fun delta _ s t hstep hs => by
    obtain ⟨_, _, rfl⟩ := applyTimelineDelta_eq_ok hstep
    exact ⟨hs.characters, hs.relationships, hs.worldEntities, hs.knowledge⟩) htimed hknown
  exact forEach_invariant (P := NarrativeTables.Stable) (fun delta _ s t hstep hs => by
    obtain ⟨-, -, -, rfl⟩ := applyExpectationDelta_eq_ok.mp hstep
    exact ⟨hs.characters, hs.relationships, hs.worldEntities, hs.knowledge⟩) hfinal htimed

end Stable

/-! ## Steps beside the story -/

/-- The tables that the history and its projection read are the same. -/
structure Database.SameStory (db db' : Database Fp) : Prop where
  project : db'.projectId = db.projectId
  head : db'.head = db.head
  events : db'.storyEvents = db.storyEvents
  sequence : db'.storyEventSequence = db.storyEventSequence
  snapshots : db'.storySnapshots = db.storySnapshots
  canon : db'.canonState = db.canonState
  tracking : db'.trackingAuthority = db.trackingAuthority
  narrative : db'.narrative = db.narrative
  anchors : db'.acceptedAnchors = db.acceptedAnchors

theorem Database.SameStory.refl (db : Database Fp) : db.SameStory db :=
  ⟨rfl, rfl, rfl, rfl, rfl, rfl, rfl, rfl, rfl⟩

/-- A revision under review is no anchor. -/
theorem Database.acceptedAnchors_append {db db' : Database Fp} {revision : DocumentRevision Fp}
    (hrevision : revision.authorityClass = .review)
    (hrevisions : db'.documentRevisions = db.documentRevisions ++ [revision])
    (hdocuments : db'.documents = db.documents) : db'.acceptedAnchors = db.acceptedAnchors := by
  simp [acceptedAnchors, hrevisions, hdocuments, hrevision]

section Steps

variable [Sha256 Fp] [DecidableEq Fp] [Documents Fp]

theorem RunOp.sameStory {op : RunOp Fp} {db db' : Database Fp} (h : op.exec db = .ok db') :
    db.SameStory db' := by
  cases op with
  | dispatch =>
    obtain ⟨callId, h⟩ := snd_map_eq_ok h
    obtain ⟨-, ⟨_, -, -, -, -, -, rfl⟩ | ⟨_, -, -, -, -, -, -, -, -, -, rfl⟩⟩ :=
      dispatchStage_eq_ok h
    · exact .refl _
    · exact ⟨rfl, rfl, rfl, rfl, rfl, rfl, rfl, rfl, rfl⟩
  | confirm =>
    obtain ⟨_, h⟩ := snd_map_eq_ok h
    obtain ⟨calls, receipts, rfl⟩ := confirmStage_frame h
    exact ⟨rfl, rfl, rfl, rfl, rfl, rfl, rfl, rfl, rfl⟩
  | confirmDerived =>
    obtain ⟨_, h⟩ := snd_map_eq_ok h
    obtain ⟨calls, checkpoints, events, rfl⟩ := confirmDerivedStage_frame h
    exact ⟨rfl, rfl, rfl, rfl, rfl, rfl, rfl, rfl, rfl⟩
  | markUnconfirmed =>
    obtain ⟨_, h⟩ := snd_map_eq_ok h
    obtain ⟨calls, rfl⟩ := markStageUnconfirmed_frame h
    exact ⟨rfl, rfl, rfl, rfl, rfl, rfl, rfl, rfl, rfl⟩
  | setStatus =>
    obtain ⟨_, h⟩ := snd_map_eq_ok h
    obtain rfl := setRunStatus_eq_ok h
    exact ⟨rfl, rfl, rfl, rfl, rfl, rfl, rfl, rfl, rfl⟩
  | failedGate =>
    obtain ⟨_, h⟩ := snd_map_eq_ok h
    obtain ⟨checkpoints, events, rfl⟩ := recordFailedGate_eq_ok h
    exact ⟨rfl, rfl, rfl, rfl, rfl, rfl, rfl, rfl, rfl⟩
  | freezeContext =>
    obtain ⟨_, h⟩ := snd_map_eq_ok h
    obtain ⟨-, selections, freezes, dependencies, -, rfl⟩ := persistWriterContextFreeze_eq_ok h
    exact ⟨rfl, rfl, rfl, rfl, rfl, rfl, rfl, rfl, rfl⟩
  | commit =>
    obtain ⟨_, h⟩ := snd_map_eq_ok h
    obtain ⟨-, -, bounded, receipt, checkpoint, event, -, -, -, rfl⟩ :=
      commitReleasedCandidate_eq_ok h
    exact ⟨rfl, rfl, rfl, rfl, rfl, rfl, rfl, rfl, acceptedAnchors_append rfl rfl rfl⟩
  | cancel =>
    obtain ⟨answer, h⟩ := snd_map_eq_ok h
    obtain ⟨rfl, -⟩ | ⟨-, -, event, receipt, count, -, -, rfl⟩ := cancelProduction_eq_ok h
    · exact .refl _
    · exact ⟨rfl, rfl, rfl, rfl, rfl, rfl, rfl, rfl, rfl⟩

omit [Documents Fp] in
theorem acceptCandidate_sameStory {decision : AcceptanceDecision Fp} {acceptanceId : String}
    {db db' : Database Fp} (h : acceptCandidate decision db = .ok (acceptanceId, db')) :
    db.SameStory db' := by
  obtain rfl | ⟨_, _, -, -, rfl⟩ := acceptCandidate_eq_ok h
  · exact .refl _
  · exact ⟨rfl, rfl, rfl, rfl, rfl, rfl, rfl, rfl, rfl⟩

variable [SerdeJson Fp]

/-- Only an applied settlement changes the story. -/
theorem ProjectStep.story {db db' : Database Fp} (h : ProjectStep db db') :
    db.SameStory db' ∨ ∃ authorization ids settlementId,
      applySettlement authorization ids db = .ok (settlementId, db') := by
  cases h with
  | freezePack _ _ _ _ h =>
    obtain ⟨-, -, rfl | ⟨row, -, -, -, -, rfl⟩⟩ := freezeWriterPackForChapter_eq_ok h
    · exact .inl (.refl _)
    · exact .inl ⟨rfl, rfl, rfl, rfl, rfl, rfl, rfl, rfl, rfl⟩
  | start _ _ h =>
    obtain rfl | ⟨_, _, _, _, -, -, -, -, -, -, -, -, -, -, -, rfl⟩ := startProduction_eq_ok h
    · exact .inl (.refl _)
    · exact .inl ⟨rfl, rfl, rfl, rfl, rfl, rfl, rfl, rfl, rfl⟩
  | run op h => exact .inl (op.sameStory h)
  | accept _ _ h => exact .inl (acceptCandidate_sameStory h)
  | preflight => exact .inl (.refl _)
  | settle authorization ids settlementId h => exact .inr ⟨authorization, ids, settlementId, h⟩
  | beside h =>
    obtain ⟨hanchors, _, _, _, _, _, _, _, _, _, _, _, _, _, _, rfl⟩ := h
    exact .inl ⟨rfl, rfl, rfl, rfl, rfl, rfl, rfl, rfl, hanchors⟩

omit [Sha256 Fp] [DecidableEq Fp] [Documents Fp] in
theorem Database.SameStory.projection {db db' : Database Fp} (h : db.SameStory db')
    (projectId : String) : db'.storyProjection projectId = db.storyProjection projectId := by
  have hcharacters : db'.characters = db.characters :=
    congrArg NarrativeTables.characters h.narrative
  have hrelationships : db'.relationships = db.relationships :=
    congrArg NarrativeTables.relationships h.narrative
  have hentities : db'.worldEntities = db.worldEntities :=
    congrArg NarrativeTables.worldEntities h.narrative
  have htimeline : db'.timelineEvents = db.timelineEvents :=
    congrArg NarrativeTables.timelineEvents h.narrative
  have hknowledge : db'.characterKnowledge = db.characterKnowledge :=
    congrArg NarrativeTables.characterKnowledge h.narrative
  have hexpectations : db'.expectations = db.expectations :=
    congrArg NarrativeTables.expectations h.narrative
  have hevents : db'.expectationEvents = db.expectationEvents :=
    congrArg NarrativeTables.expectationEvents h.narrative
  have hsources : db'.narrativeStateSources = db.narrativeStateSources :=
    congrArg NarrativeTables.narrativeStateSources h.narrative
  rw [storyProjection, storyProjection, h.tracking, h.canon, h.anchors, hcharacters,
    hrelationships, hentities, htimeline, hknowledge, hexpectations, hevents, hsources]

omit [Documents Fp] in
theorem Database.SameStory.verify {db db' : Database Fp} (h : db.SameStory db') :
    db'.verifyStoryHistory = db.verifyStoryHistory :=
  verifyStoryHistory_congr h.head h.events h.snapshots (h.projection _)

end Steps

/-! ## Settlements -/

section Settle

variable [Sha256 Fp] [DecidableEq Fp] [SerdeJson Fp]

omit [Sha256 Fp] [DecidableEq Fp] in
theorem Database.TablesStable.narrative {db : Database Fp} (h : db.TablesStable) :
    db.narrative.Stable :=
  ⟨h.characters, h.relationships, h.worldEntities, h.knowledge⟩

omit [Sha256 Fp] [DecidableEq Fp] in
/-- Stability reads the canon and the four tables with a JSON column. -/
theorem Database.TablesStable.of_tables {db db' : Database Fp} (h : db.TablesStable)
    (hcanon : db'.canonState = db.canonState) (hcharacters : db'.characters = db.characters)
    (hrelationships : db'.relationships = db.relationships)
    (hentities : db'.worldEntities = db.worldEntities)
    (hknowledge : db'.characterKnowledge = db.characterKnowledge) : db'.TablesStable := by
  obtain ⟨h1, h2, h3, h4, h5⟩ := h
  refine ⟨?_, ?_, ?_, ?_, ?_⟩ <;>
    simp only [hcanon, hcharacters, hrelationships, hentities, hknowledge] <;> assumption

omit [Sha256 Fp] [DecidableEq Fp] in
theorem SettlementPlan.stateValue_stable (plan : SettlementPlan Fp) : plan.stateValue.Stable := by
  simp [stateValue, Json.stable_obj]

omit [DecidableEq Fp] in
theorem SettlementPlan.eventPayload_stable {plan : SettlementPlan Fp}
    (h : plan.proposal.toValue.Stable) (settlementId : String) :
    (plan.eventPayload settlementId).Stable := by
  simp [eventPayload, Json.stable_obj, plan.stateValue_stable, h]

/-- A settlement with a stable proposal leaves a history that verifies. -/
theorem commitSettlement_history {authorization : SettlementAuthorization Fp}
    {ids : SettlementIds} {plan : SettlementPlan Fp} {db db' : Database Fp} (hlog : db.LogInv)
    (hstable : db.TablesStable) (hproposal : plan.proposal.toValue.Stable)
    (h : db.commitSettlement authorization ids plan = .ok db') :
    db'.LogInv ∧ db'.TablesStable ∧ db'.verifyStoryHistory = .ok () := by
  obtain ⟨mid, seq, appended, snapshotId, ⟨tables, next, revisions, search, impacts, observations,
    sources, hnarrative, -, -, hmid⟩, -, happend, hsnapshot⟩ := commitSettlement_eq_ok h
  have hlogMid : mid.LogInv := by
    refine hlog.of_tables ?_ ?_ ?_ ?_ ?_ <;> rw [hmid] <;> rfl
  have hnarrated : (db.withNarrative tables).narrative.Stable :=
    applyNarrativeDeltas_stable (ChapterTrackingProposal.stable_of_toValue hproposal) hnarrative
      hstable.narrative
  have hstableMid : mid.TablesStable := by
    refine ⟨?_, ?_, ?_, ?_, ?_⟩ <;> rw [hmid]
    · exact Table.forall_upsert plan.stateValue_stable (fun _ _ => plan.stateValue_stable)
        hstable.canon
    · exact hnarrated.characters
    · exact hnarrated.relationships
    · exact hnarrated.worldEntities
    · exact hnarrated.knowledge
  obtain ⟨-, -, event, -, -, -, -, -, -, happended⟩ := appendStoryEvent_eq_ok happend
  obtain ⟨_, -, -, -, _, -, _, -, -, -, -, -, -, -, -, -, -, -, -, hdb⟩ :=
    createStorySnapshot_eq_ok hsnapshot
  have hstableAppended : appended.TablesStable := by
    refine hstableMid.of_tables ?_ ?_ ?_ ?_ ?_ <;> rw [happended]
  have hstableFinal : db'.TablesStable := by
    refine hstableAppended.of_tables ?_ ?_ ?_ ?_ ?_ <;> rw [hdb]
  have hproject : appended.projectId = mid.projectId := by rw [happended]
  rw [hproject] at hsnapshot
  obtain ⟨hlogFinal, hverify⟩ := history_commit hlogMid happend hsnapshot
    (SettlementPlan.eventPayload_stable hproposal _)
    fun projection hprojection => storyProjection_stable hstableAppended hprojection
  exact ⟨hlogFinal, hstableFinal, hverify⟩

/-- A verified history names its snapshot, unless nothing was committed. -/
theorem Database.snapshot_of_verify {db : Database Fp} (h : db.verifyStoryHistory = .ok ()) :
    (db.head.revision = 0 ∧ db.head.latestSnapshotId = none) ∨
      ∃ row ∈ db.storySnapshots, db.head.latestSnapshotId = some row.snapshotId := by
  simp only [verifyStoryHistory, bind_eq_ok, require_eq_ok, exists_const] at h
  obtain ⟨_, -, replay, -, -, h⟩ := h
  split at h
  · rename_i hrevision hnone
    exact .inl ⟨hrevision, hnone⟩
  · simp [throw, throwThe, MonadExceptOf.throw] at h
  · rename_i snapshotId hsome _
    simp only [verifySnapshot, bind_eq_ok, fetch_eq_ok] at h
    obtain ⟨row, hrow, -⟩ := h
    have hfound := List.find?_some hrow
    simp only [Bool.decide_and, Bool.and_eq_true, decide_eq_true_eq] at hfound
    exact .inr ⟨row, List.mem_of_find?_eq_some hrow, hsome.trans (congrArg some hfound.1.symm)⟩
  · simp [throw, throwThe, MonadExceptOf.throw] at h

end Settle

/-! ## Histories over every run -/

section Runs

variable [Sha256 Fp] [DecidableEq Fp] [Documents Fp] [SerdeJson Fp]

/-- The proposal that the settlement reads is read back as it is written: each of its numbers
prints to a literal that is read as the same number. -/
def SettlesStably (authorization : SettlementAuthorization Fp) (ids : SettlementIds)
    (db : Database Fp) : Prop :=
  ∀ plan, db.prepareSettlement authorization ids.preflight = .ok plan →
    plan.proposal.toValue.Stable

/-- A call beside the story, or a settlement of a stable proposal. -/
inductive StableStep : Database Fp → Database Fp → Prop
  | other {db db' : Database Fp} (h : ProjectStep db db') (hstory : db.SameStory db') :
      StableStep db db'
  | settle {db db' : Database Fp} (authorization ids settlementId)
      (hstable : SettlesStably authorization ids db)
      (h : applySettlement authorization ids db = .ok (settlementId, db')) : StableStep db db'

/-- The only calls left out are settlements of unstable proposals. -/
theorem ProjectStep.stableStep {db db' : Database Fp} (h : ProjectStep db db') :
    StableStep db db' ∨ ∃ authorization ids settlementId,
      applySettlement authorization ids db = .ok (settlementId, db') ∧
        ¬ SettlesStably authorization ids db := by
  obtain hsame | ⟨authorization, ids, settlementId, hsettle⟩ := h.story
  · exact .inl (.other h hsame)
  · by_cases hstable : SettlesStably authorization ids db
    · exact .inl (.settle authorization ids settlementId hstable hsettle)
    · exact .inr ⟨authorization, ids, settlementId, hsettle, hstable⟩

structure Database.HistoryInv (db : Database Fp) : Prop where
  log : db.LogInv
  stable : db.TablesStable
  verified : db.verifyStoryHistory = .ok ()

omit [Documents Fp] in
theorem initialProject_history {projectId title createdAt : String}
    (hproject : ¬ blank projectId) :
    (initialProject projectId title createdAt : Database Fp).HistoryInv where
  log :=
    { project := hproject
      headProject := rfl
      eventProjects := by simp [initialProject]
      ordered := by simp [initialProject]
      bounded := by simp [initialProject]
      positive := le_refl _
      snapshotProjects := by simp [initialProject]
      snapshotIds := by simp [initialProject]
      snapshotBounded := by simp [initialProject]
      retained := by simp [initialProject]
      replayed := ⟨_, rfl, rfl, rfl, rfl⟩ }
  stable := by constructor <;> simp [initialProject]
  verified := by
    simp only [verifyStoryHistory, TrackingState.empty, bind_eq_ok, require_eq_ok, exists_const,
      pure_eq_ok]
    exact ⟨_, ⟨hproject, rfl⟩, _, rfl, ⟨rfl, rfl, rfl⟩, rfl⟩

theorem StableStep.history {db db' : Database Fp} (h : StableStep db db')
    (hinv : db.HistoryInv) : db'.HistoryInv := by
  cases h with
  | other _ hsame =>
    refine ⟨hinv.log.of_tables hsame.project hsame.head hsame.events hsame.sequence
      hsame.snapshots, hinv.stable.of_tables hsame.canon ?_ ?_ ?_ ?_, ?_⟩
    · exact congrArg NarrativeTables.characters hsame.narrative
    · exact congrArg NarrativeTables.relationships hsame.narrative
    · exact congrArg NarrativeTables.worldEntities hsame.narrative
    · exact congrArg NarrativeTables.characterKnowledge hsame.narrative
    · rw [hsame.verify]
      exact hinv.verified
  | settle authorization ids settlementId hstable h =>
    obtain ⟨-, ⟨_, _, -, -, -, -, rfl⟩ | ⟨-, -, plan, hplan, hcommit⟩⟩ := applySettlement_eq_ok h
    · exact hinv
    · obtain ⟨hlog, htables, hverified⟩ :=
        commitSettlement_history hinv.log hinv.stable (hstable plan hplan) hcommit
      exact ⟨hlog, htables, hverified⟩

end Runs

namespace Sample

/-- The quiet chapter settles, with the proposal it was released with. -/
theorem settled_quiet : (do
    let db ← accepted quietText
    let authorization ← authorize db
    let plan ← db.prepareSettlement authorization settlementIds.preflight
    let (_, db') ← applySettlement authorization settlementIds db
    return (plan.proposal, db'.head.revision)) = .ok (quiet, 1) := by
  decide +kernel

theorem runOps_stableSteps {ops : List (RunOp Digest)} {db db' : Database Digest}
    (h : forEach (fun db op => RunOp.exec op db) ops db = .ok db') :
    ReflTransGen StableStep db db' := by
  refine forEach_invariant (P := fun t => ReflTransGen StableStep db t) ?_ h .refl
  exact fun op _ s t hst hs => hs.tail (.other (.run op hst) (op.sameStory hst))

theorem quiet_stable : quiet.toValue.Stable := by
  simp [ChapterTrackingProposal.toValue, quiet, OrderedMap.empty, Json.stable_obj,
    Json.stable_arr]

end Sample

end Quillframe
