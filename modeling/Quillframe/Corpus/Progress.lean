import Quillframe.Blocks
import Quillframe.Digest
import Quillframe.Error
import Quillframe.Mutation
import Quillframe.OrderedMap
import Quillframe.StringOrder

/-!
# The progress of a corpus analysis

A work is analysed stage by stage under a checkpoint, the fingerprint of the whole progress. Every
call refreshes the checkpoint when it succeeds, and a call that fails keeps the progress, but for
one: an artifact under an id in use replaces the stored one before the call is refused.
-/
namespace Quillframe.Corpus

variable {Fp : Type}

/-! ## Records -/

inductive AnalyzeStage where
  | boundaryIndex
  | goldenThree
  | chapterExtraction
  | aggregateMechanisms
  | storyEntities
  | report
  | styleProfile
  deriving DecidableEq, Repr

namespace AnalyzeStage

def ordinal : AnalyzeStage → ℕ
  | boundaryIndex => 0
  | goldenThree => 1
  | chapterExtraction => 2
  | aggregateMechanisms => 3
  | storyEntities => 4
  | report => 5
  | styleProfile => 6

def next : AnalyzeStage → Option AnalyzeStage
  | boundaryIndex => some goldenThree
  | goldenThree => some chapterExtraction
  | chapterExtraction => some aggregateMechanisms
  | aggregateMechanisms => some storyEntities
  | storyEntities => some report
  | report => some styleProfile
  | styleProfile => none

def name : AnalyzeStage → String
  | boundaryIndex => "boundary_index"
  | goldenThree => "golden_three"
  | chapterExtraction => "chapter_extraction"
  | aggregateMechanisms => "aggregate_mechanisms"
  | storyEntities => "story_entities"
  | report => "report"
  | styleProfile => "style_profile"

/-- The stages in their order. -/
def order : List AnalyzeStage :=
  [boundaryIndex, goldenThree, chapterExtraction, aggregateMechanisms, storyEntities, report,
    styleProfile]

theorem ordinal_injective : Function.Injective ordinal := by
  intro a b h
  cases a <;> cases b <;> simp_all [ordinal]

instance : LinearOrder AnalyzeStage := .lift' ordinal ordinal_injective

theorem lt_iff {a b : AnalyzeStage} : a < b ↔ a.ordinal < b.ordinal := Iff.rfl

theorem le_iff {a b : AnalyzeStage} : a ≤ b ↔ a.ordinal ≤ b.ordinal := Iff.rfl

theorem sorted_order : order.Pairwise (· < ·) := by decide

theorem mem_order (stage : AnalyzeStage) : stage ∈ order := by cases stage <;> decide

theorem ordinal_next {stage later : AnalyzeStage} (h : stage.next = some later) :
    later.ordinal = stage.ordinal + 1 := by
  cases stage <;> simp only [next, Option.some.injEq, reduceCtorEq] at h <;> subst h <;> rfl

theorem le_of_next_eq_none {stage other : AnalyzeStage} (h : stage.next = none) :
    other ≤ stage := by
  cases stage <;> simp only [next, reduceCtorEq] at h
  cases other <;> decide

end AnalyzeStage

structure ChapterBoundary (Fp : Type) where
  chapter : ℕ
  title : String
  startByte : ℕ
  endByte : ℕ
  sourceFingerprint : Fp
  deriving DecidableEq

structure EvidenceAnchor (Fp : Type) where
  workId : String
  chapter : ℕ
  startByte : ℕ
  endByte : ℕ
  excerptFingerprint : Fp
  deriving DecidableEq

structure CorpusArtifact (Fp : Type) where
  artifactId : String
  stage : AnalyzeStage
  kind : String
  contentFingerprint : Fp
  evidence : List (EvidenceAnchor Fp)
  complete : Bool
  deriving DecidableEq

/-- The checkpoint is `none` where the source clears its text. -/
structure CorpusProgress (Fp : Type) where
  schema : String
  sourceId : String
  sourceFingerprint : Fp
  currentStage : AnalyzeStage
  pausedAfterGoldenThree : Bool
  completedStages : OrderedSet AnalyzeStage
  failedWorkItems : OrderedMap String String
  boundaries : List (ChapterBoundary Fp)
  artifacts : OrderedMap String (CorpusArtifact Fp)
  checkpointFingerprint : Option Fp

def ChapterBoundary.toJson (b : ChapterBoundary Fp) : Json Fp :=
  .obj [("chapter", .int b.chapter), ("title", .str b.title), ("start_byte", .int b.startByte),
    ("end_byte", .int b.endByte), ("source_fingerprint", .fp b.sourceFingerprint)]

def EvidenceAnchor.toJson (a : EvidenceAnchor Fp) : Json Fp :=
  .obj [("work_id", .str a.workId), ("chapter", .int a.chapter), ("start_byte", .int a.startByte),
    ("end_byte", .int a.endByte), ("excerpt_fingerprint", .fp a.excerptFingerprint)]

def CorpusArtifact.toJson (a : CorpusArtifact Fp) : Json Fp :=
  .obj [("artifact_id", .str a.artifactId), ("stage", .str a.stage.name), ("kind", .str a.kind),
    ("content_fingerprint", .fp a.contentFingerprint),
    ("evidence", .arr (a.evidence.map EvidenceAnchor.toJson)), ("complete", .bool a.complete)]

def CorpusProgress.toJson (p : CorpusProgress Fp) : Json Fp :=
  .obj [("schema", .str p.schema), ("source_id", .str p.sourceId),
    ("source_fingerprint", .fp p.sourceFingerprint),
    ("current_stage", .str p.currentStage.name),
    ("paused_after_golden_three", .bool p.pausedAfterGoldenThree),
    ("completed_stages", .strings (p.completedStages.keys.map AnalyzeStage.name)),
    ("failed_work_items",
      .obj (p.failedWorkItems.entries.map fun entry => (entry.1, .str entry.2))),
    ("boundaries", .arr (p.boundaries.map ChapterBoundary.toJson)),
    ("artifacts", .obj (p.artifacts.entries.map fun entry => (entry.1, entry.2.toJson))),
    ("checkpoint_fingerprint",
      match p.checkpointFingerprint with
      | some checkpoint => .fp checkpoint
      | none => .str "")]

/-! ## Calls -/

section Calls

variable [Sha256 Fp] [FingerprintText Fp] [DecidableEq Fp]

def requireFingerprint (value : Fp) : CoreResult Unit :=
  require (FingerprintText.canonical value) (.invalidProject "fingerprint must be canonical sha256")

namespace CorpusProgress

/-- What the checkpoint is the fingerprint of: the progress without it. -/
def checkpoint (p : CorpusProgress Fp) : Fp :=
  Sha256.ofJson { p with checkpointFingerprint := none }.toJson

def refreshCheckpoint (p : CorpusProgress Fp) : CorpusProgress Fp :=
  { p with checkpointFingerprint := some p.checkpoint }

/-- The boundary at a position; `before` are the boundaries in front of it. -/
def checkBoundary (sourceFingerprint : Fp) (before : List (ChapterBoundary Fp))
    (b : ChapterBoundary Fp) : CoreResult (List (ChapterBoundary Fp)) := do
  require (¬ (b.chapter ≠ before.length + 1 ∨ blank b.title ∨ b.startByte ≥ b.endByte ∨
      b.sourceFingerprint ≠ sourceFingerprint ∨
      ∃ previous ∈ before.getLast?, previous.endByte > b.startByte))
    (.invalidProject "chapter boundaries are not one contiguous source authority")
  pure (before ++ [b])

def validateBoundaries (p : CorpusProgress Fp) : CoreResult Unit := do
  requireFingerprint p.sourceFingerprint
  require (p.boundaries ≠ []) (.invalidProject "Stage 0 chapter boundary authority is required")
  let _ ← forEach (checkBoundary p.sourceFingerprint) p.boundaries []
  pure ()

def start (sourceId : String) (sourceFingerprint : Fp) (boundaries : List (ChapterBoundary Fp)) :
    CoreResult (CorpusProgress Fp) := do
  let value : CorpusProgress Fp := {
    schema := "quillframe_corpus_progress_v1"
    sourceId
    sourceFingerprint
    currentStage := .boundaryIndex
    pausedAfterGoldenThree := false
    completedStages := .empty
    failedWorkItems := .empty
    boundaries
    artifacts := .empty
    checkpointFingerprint := none }
  value.validateBoundaries
  pure value.refreshCheckpoint

def validateCheckpoint (p : CorpusProgress Fp) : CoreResult Unit := do
  require (p.checkpointFingerprint = some p.checkpoint)
    (.authorityConflict "corpus checkpoint fingerprint changed")
  p.validateBoundaries

/-- `self.artifacts.insert(..)`: the artifact that was stored under the id. -/
def insertArtifact (artifact : CorpusArtifact Fp) :
    Mutation CoreError (CorpusProgress Fp) (Option (CorpusArtifact Fp)) := fun p =>
  .ok (p.artifacts.get? artifact.artifactId)
    { p with artifacts := p.artifacts.insert artifact.artifactId artifact }

def recordArtifact (artifact : CorpusArtifact Fp) :
    Mutation CoreError (CorpusProgress Fp) Unit := do
  let p ← get
  Mutation.check (require (¬ (artifact.stage ≠ p.currentStage ∨ artifact.complete = false))
    (.authorityConflict "artifact must be complete and belong to the active analyze stage"))
  Mutation.check (requireFingerprint artifact.contentFingerprint)
  Mutation.check (require (¬ (artifact.stage ≠ .boundaryIndex ∧ artifact.evidence = []))
    (.invalidProject "analyze artifact lacks source evidence"))
  -- the stored artifact is gone before the refusal
  let stored ← insertArtifact artifact
  Mutation.check (require (stored = none) (.authorityConflict "corpus artifact id already exists"))
  modify refreshCheckpoint

/-- Some complete artifact of the stage is stored. -/
def HasComplete (p : CorpusProgress Fp) (stage : AnalyzeStage) : Prop :=
  ∃ artifact ∈ p.artifacts.values, artifact.stage = stage ∧ artifact.complete = true

instance (p : CorpusProgress Fp) (stage : AnalyzeStage) : Decidable (p.HasComplete stage) :=
  inferInstanceAs (Decidable (∃ artifact ∈ p.artifacts.values, _))

def completeStage : Mutation CoreError (CorpusProgress Fp) Unit := do
  let p ← get
  Mutation.check (require (p.HasComplete p.currentStage)
    (.authorityConflict "analyze stage has no complete artifact"))
  modify fun p => { p with completedStages := p.completedStages.insert p.currentStage () }
  modify fun p =>
    if p.currentStage = .goldenThree then { p with pausedAfterGoldenThree := true }
    else { p with currentStage := p.currentStage.next.getD p.currentStage }
  modify refreshCheckpoint

def continueAfterPreview : Mutation CoreError (CorpusProgress Fp) Unit := do
  let p ← get
  Mutation.check (require
    (¬ (p.pausedAfterGoldenThree = false ∨ .goldenThree ∉ p.completedStages))
    (.authorityConflict "golden-three preview is not paused"))
  modify fun p => { p with pausedAfterGoldenThree := false, currentStage := .chapterExtraction }
  modify refreshCheckpoint

end CorpusProgress

inductive ProgressCall (Fp : Type) where
  | recordArtifact (artifact : CorpusArtifact Fp)
  | completeStage
  | continueAfterPreview

def ProgressCall.run : ProgressCall Fp → Mutation CoreError (CorpusProgress Fp) Unit
  | recordArtifact artifact => CorpusProgress.recordArtifact artifact
  | completeStage => CorpusProgress.completeStage
  | continueAfterPreview => CorpusProgress.continueAfterPreview

/-- The progress after a sequence of calls, refused ones included. -/
def CorpusProgress.afterCalls (p : CorpusProgress Fp) (calls : List (ProgressCall Fp)) :
    CorpusProgress Fp :=
  calls.foldl (fun p call => call.run.after p) p

/-! ## What each call does -/

namespace CorpusProgress

variable {p next : CorpusProgress Fp} {artifact : CorpusArtifact Fp}

/-- What an artifact is checked for before its id. -/
structure Admits (p : CorpusProgress Fp) (artifact : CorpusArtifact Fp) : Prop where
  stage : artifact.stage = p.currentStage
  complete : artifact.complete = true
  canonical : FingerprintText.canonical artifact.contentFingerprint = true
  evidence : artifact.stage ≠ .boundaryIndex → artifact.evidence ≠ []

/-- The progress with an artifact under its id. -/
def withArtifact (p : CorpusProgress Fp) (artifact : CorpusArtifact Fp) : CorpusProgress Fp :=
  { p with artifacts := p.artifacts.insert artifact.artifactId artifact }

/-- The progress with its current stage closed. -/
def withStageClosed (p : CorpusProgress Fp) : CorpusProgress Fp :=
  if p.currentStage = .goldenThree then
    { p with
      completedStages := p.completedStages.insert p.currentStage ()
      pausedAfterGoldenThree := true }
  else
    { p with
      completedStages := p.completedStages.insert p.currentStage ()
      currentStage := p.currentStage.next.getD p.currentStage }

omit [DecidableEq Fp] in
/-- An artifact under an id in use takes the place of the stored one although it is refused. -/
theorem recordArtifact_cases (p : CorpusProgress Fp) (artifact : CorpusArtifact Fp) :
    (¬ p.Admits artifact ∧ ∃ e, recordArtifact artifact p = .error e p) ∨
      (p.Admits artifact ∧ p.artifacts.get? artifact.artifactId = none ∧
        recordArtifact artifact p = .ok () (p.withArtifact artifact).refreshCheckpoint) ∨
      p.Admits artifact ∧ ∃ stored e, p.artifacts.get? artifact.artifactId = some stored ∧
        recordArtifact artifact p = .error e (p.withArtifact artifact) := by
  have hget : ∀ rest : CorpusProgress Fp → Mutation CoreError (CorpusProgress Fp) Unit,
      (get >>= rest) p = rest p p := fun _ => rfl
  simp only [recordArtifact, hget, Mutation.check_bind]
  by_cases hactive : artifact.stage ≠ p.currentStage ∨ artifact.complete = false
  · left
    constructor
    · intro hadmits
      simp [hadmits.stage, hadmits.complete] at hactive
    · simp [require, hactive]
  by_cases hcanonical : FingerprintText.canonical artifact.contentFingerprint = true
  · by_cases hevidence : artifact.stage ≠ .boundaryIndex ∧ artifact.evidence = []
    · left
      constructor
      · intro hadmits
        exact hadmits.evidence hevidence.1 hevidence.2
      · simp [require, requireFingerprint, hactive, hcanonical, hevidence]
    · right
      have hadmits : p.Admits artifact := by
        simp only [not_or, not_not, Bool.not_eq_false, not_and] at hactive hevidence
        exact ⟨hactive.1, hactive.2, hcanonical, hevidence⟩
      cases hstored : p.artifacts.get? artifact.artifactId with
      | none =>
        left
        refine ⟨hadmits, rfl, ?_⟩
        simp [require, requireFingerprint, hactive, hcanonical, hevidence, insertArtifact, hstored,
          withArtifact]
      | some stored =>
        right
        refine ⟨hadmits, stored, .authorityConflict "corpus artifact id already exists", rfl, ?_⟩
        simp [require, requireFingerprint, hactive, hcanonical, hevidence, insertArtifact, hstored,
          withArtifact]
  · left
    constructor
    · intro hadmits
      exact hcanonical hadmits.canonical
    · simp [require, requireFingerprint, hactive, hcanonical]

omit [FingerprintText Fp] [DecidableEq Fp] in
theorem completeStage_cases (p : CorpusProgress Fp) :
    (∃ e, completeStage p = .error e p) ∨
      p.HasComplete p.currentStage ∧
        completeStage p = .ok () p.withStageClosed.refreshCheckpoint := by
  have hget : ∀ rest : CorpusProgress Fp → Mutation CoreError (CorpusProgress Fp) Unit,
      (get >>= rest) p = rest p p := fun _ => rfl
  simp only [completeStage, hget, Mutation.check_bind]
  by_cases hcomplete : p.HasComplete p.currentStage
  · right
    refine ⟨hcomplete, ?_⟩
    simp only [require, if_pos hcomplete]
    by_cases hgolden : p.currentStage = .goldenThree <;> simp [withStageClosed, hgolden]
  · left
    simp [require, hcomplete]

omit [FingerprintText Fp] [DecidableEq Fp] in
theorem continueAfterPreview_cases (p : CorpusProgress Fp) :
    (∃ e, continueAfterPreview p = .error e p) ∨
      p.pausedAfterGoldenThree = true ∧ .goldenThree ∈ p.completedStages ∧
        continueAfterPreview p = .ok ()
          (refreshCheckpoint { p with
            pausedAfterGoldenThree := false, currentStage := .chapterExtraction }) := by
  have hget : ∀ rest : CorpusProgress Fp → Mutation CoreError (CorpusProgress Fp) Unit,
      (get >>= rest) p = rest p p := fun _ => rfl
  simp only [continueAfterPreview, hget, Mutation.check_bind]
  by_cases hpaused : p.pausedAfterGoldenThree = false ∨ .goldenThree ∉ p.completedStages
  · left
    simp [require, hpaused]
  · right
    simp only [not_or, Bool.not_eq_false, not_not] at hpaused
    refine ⟨hpaused.1, hpaused.2, ?_⟩
    simp [require, hpaused]

/-! ## The order of the stages -/

/-- What holds of a progress between the calls; `continued` says that the preview was passed. -/
structure Orderly (p : CorpusProgress Fp) (continued : Prop) : Prop where
  boundaries : p.validateBoundaries = .ok ()
  checkpoint : p.checkpointFingerprint = some p.checkpoint
  behind : ∀ stage < p.currentStage, stage ∈ p.completedStages
  reached : ∀ stage ∈ p.completedStages, stage ≤ p.currentStage
  paused : p.pausedAfterGoldenThree = true ↔
    p.currentStage = .goldenThree ∧ .goldenThree ∈ p.completedStages
  artifacts : ∀ stage ∈ p.completedStages, p.HasComplete stage
  preview : ¬ continued → p.currentStage ≤ .goldenThree

variable {continued : Prop}

/-- The completed stages are the first ones. -/
theorem Orderly.isPrefix (h : p.Orderly continued) :
    p.completedStages.keys <+: AnalyzeStage.order := by
  have hcut : AnalyzeStage.order.filter (· ∈ p.completedStages) ++
      AnalyzeStage.order.filter (fun stage => !decide (stage ∈ p.completedStages)) =
        AnalyzeStage.order := by
    apply Blocks.filter_append_filter_not
    apply AnalyzeStage.sorted_order.imp
    intro a b hlt hb
    simp only [decide_eq_true_eq] at hb ⊢
    exact h.behind a (hlt.trans_le (h.reached b hb))
  have hkeys : p.completedStages.keys = AnalyzeStage.order.filter (· ∈ p.completedStages) := by
    have hsorted : p.completedStages.keys.Pairwise (· < ·) :=
      List.pairwise_map.mpr p.completedStages.sorted
    apply hsorted.eq_of_mem_iff (AnalyzeStage.sorted_order.filter _)
    intro stage
    simp [AnalyzeStage.mem_order, OrderedMap.mem_iff]
  rw [hkeys]
  exact ⟨_, hcut⟩

theorem Orderly.validateCheckpoint (h : p.Orderly continued) : p.validateCheckpoint = .ok () := by
  simp [CorpusProgress.validateCheckpoint, h.checkpoint, h.boundaries, bind_eq_ok]

theorem Orderly.mono {continued later : Prop} (h : p.Orderly continued)
    (hlater : continued → later) : p.Orderly later :=
  { h with preview := fun hnot => h.preview fun hcontinued => hnot (hlater hcontinued) }

theorem Orderly.start {sourceId : String} {sourceFingerprint : Fp}
    {boundaries : List (ChapterBoundary Fp)}
    (h : CorpusProgress.start sourceId sourceFingerprint boundaries = .ok p) :
    p.Orderly False := by
  simp only [CorpusProgress.start, bind_eq_ok, pure_eq_ok] at h
  obtain ⟨_, hboundaries, rfl⟩ := h
  have hnone : ∀ stage, stage ∉ (OrderedMap.empty : OrderedSet AnalyzeStage) :=
    OrderedMap.not_mem_empty
  constructor
  · exact hboundaries
  · rfl
  · intro stage hlt
    have hlow := AnalyzeStage.lt_iff.mp hlt
    simp [refreshCheckpoint, AnalyzeStage.ordinal] at hlow
  · intro stage hmem
    exact absurd hmem (hnone stage)
  · simp [refreshCheckpoint]
  · intro stage hmem
    exact absurd hmem (hnone stage)
  · intro _
    exact AnalyzeStage.le_iff.mpr (by simp [refreshCheckpoint, AnalyzeStage.ordinal])

omit [Sha256 Fp] [FingerprintText Fp] [DecidableEq Fp] in
theorem hasComplete_iff {stage : AnalyzeStage} :
    p.HasComplete stage ↔ ∃ id artifact, p.artifacts.get? id = some artifact ∧
      artifact.stage = stage ∧ artifact.complete = true := by
  constructor
  · intro h
    obtain ⟨artifact, hmem, hartifact⟩ := h
    obtain ⟨entry, hentry, rfl⟩ := List.mem_map.mp hmem
    exact ⟨entry.1, entry.2, OrderedMap.mem_entries.mp hentry, hartifact⟩
  · intro h
    obtain ⟨id, artifact, hget, hartifact⟩ := h
    exact ⟨artifact, List.mem_map.mpr ⟨(id, artifact), OrderedMap.mem_entries.mpr hget, rfl⟩,
      hartifact⟩

omit [Sha256 Fp] [FingerprintText Fp] [DecidableEq Fp] in
/-- An artifact under a new id takes none away. -/
theorem HasComplete.withArtifact {stage : AnalyzeStage} (h : p.HasComplete stage)
    (hnew : p.artifacts.get? artifact.artifactId = none) :
    (p.withArtifact artifact).HasComplete stage := by
  obtain ⟨id, stored, hget, hstored⟩ := hasComplete_iff.mp h
  have hne : id ≠ artifact.artifactId := by
    intro he
    rw [he, hnew] at hget
    cases hget
  apply hasComplete_iff.mpr
  refine ⟨id, stored, ?_, hstored⟩
  rw [CorpusProgress.withArtifact, OrderedMap.get?_insert_of_ne _ hne]
  exact hget

theorem Orderly.withArtifact (h : p.Orderly continued)
    (hnew : p.artifacts.get? artifact.artifactId = none) :
    (p.withArtifact artifact).refreshCheckpoint.Orderly continued where
  boundaries := h.boundaries
  checkpoint := rfl
  behind := h.behind
  reached := h.reached
  paused := h.paused
  artifacts stage hstage := (h.artifacts stage hstage).withArtifact hnew
  preview := h.preview

theorem Orderly.withStageClosed (h : p.Orderly continued)
    (hcomplete : p.HasComplete p.currentStage) :
    p.withStageClosed.refreshCheckpoint.Orderly continued := by
  have hartifacts : ∀ stage, stage = p.currentStage ∨ stage ∈ p.completedStages →
      p.HasComplete stage := by
    intro stage hstage
    rcases hstage with rfl | hstage
    · exact hcomplete
    · exact h.artifacts stage hstage
  by_cases hgolden : p.currentStage = .goldenThree
  · rw [CorpusProgress.withStageClosed, if_pos hgolden]
    constructor
    · exact h.boundaries
    · rfl
    · intro stage hlt
      exact OrderedMap.mem_insert.mpr (.inr (h.behind stage hlt))
    · intro stage hmem
      rcases OrderedMap.mem_insert.mp hmem with he | hold
      · exact he.le
      · exact h.reached stage hold
    · simp [refreshCheckpoint, hgolden]
    · intro stage hmem
      exact hartifacts stage (OrderedMap.mem_insert.mp hmem)
    · exact h.preview
  · rw [CorpusProgress.withStageClosed, if_neg hgolden]
    have hpaused : ¬ p.pausedAfterGoldenThree = true := fun hp => hgolden (h.paused.mp hp).1
    cases hnext : p.currentStage.next with
    | none =>
      constructor
      · exact h.boundaries
      · rfl
      · intro stage hlt
        exact OrderedMap.mem_insert.mpr (.inr (h.behind stage hlt))
      · intro stage _
        exact AnalyzeStage.le_of_next_eq_none hnext
      · simp [refreshCheckpoint, hgolden, hpaused]
      · intro stage hmem
        exact hartifacts stage (OrderedMap.mem_insert.mp hmem)
      · exact h.preview
    | some later =>
      have hordinal := AnalyzeStage.ordinal_next hnext
      have hup : p.currentStage ≤ later := AnalyzeStage.le_iff.mpr (by omega)
      constructor
      · exact h.boundaries
      · rfl
      · intro stage hlt
        have hle : stage ≤ p.currentStage := by
          have hlow : stage.ordinal < later.ordinal := AnalyzeStage.lt_iff.mp hlt
          exact AnalyzeStage.le_iff.mpr (by omega)
        apply OrderedMap.mem_insert.mpr
        rcases hle.eq_or_lt with he | hbefore
        · exact .inl he
        · exact .inr (h.behind stage hbefore)
      · intro stage hmem
        rcases OrderedMap.mem_insert.mp hmem with he | hold
        · exact he.le.trans hup
        · exact (h.reached stage hold).trans hup
      · constructor
        · intro hp
          exact absurd hp hpaused
        · intro hentered
          obtain ⟨hlater, hmem⟩ := hentered
          have hle : .goldenThree ≤ p.currentStage := by
            rcases OrderedMap.mem_insert.mp hmem with he | hold
            · exact he.le
            · exact h.reached _ hold
          have hlater : later = .goldenThree := hlater
          have hlow := AnalyzeStage.le_iff.mp hle
          rw [hlater] at hordinal
          omega
      · intro stage hmem
        exact hartifacts stage (OrderedMap.mem_insert.mp hmem)
      · intro hnot
        have hlt := AnalyzeStage.lt_iff.mp ((h.preview hnot).lt_of_ne hgolden)
        have hle : later ≤ .goldenThree := AnalyzeStage.le_iff.mpr (by omega)
        exact hle

theorem Orderly.resumed (h : p.Orderly continued) (hpaused : p.pausedAfterGoldenThree = true) :
    (refreshCheckpoint { p with
      pausedAfterGoldenThree := false, currentStage := .chapterExtraction }).Orderly True := by
  obtain ⟨hcurrent, hgolden⟩ := h.paused.mp hpaused
  constructor
  · exact h.boundaries
  · rfl
  · intro stage hlt
    have hle : stage ≤ .goldenThree := by
      have hlow : stage.ordinal < AnalyzeStage.chapterExtraction.ordinal := hlt
      exact AnalyzeStage.le_iff.mpr (Nat.le_of_lt_succ hlow)
    rcases hle.eq_or_lt with rfl | hbefore
    · exact hgolden
    · exact h.behind stage (hcurrent ▸ hbefore)
  · intro stage hmem
    have hle : stage ≤ .goldenThree := hcurrent ▸ h.reached stage hmem
    have hup : AnalyzeStage.goldenThree ≤ .chapterExtraction := by decide
    exact hle.trans hup
  · simp [refreshCheckpoint]
  · exact h.artifacts
  · intro hnot
    exact absurd trivial hnot

/-- The call replaces a stored artifact by another one. -/
def Overwrites (p : CorpusProgress Fp) : ProgressCall Fp → Prop
  | .recordArtifact artifact => p.Admits artifact ∧
      ∃ stored, p.artifacts.get? artifact.artifactId = some stored ∧ stored ≠ artifact
  | .completeStage | .continueAfterPreview => False

/-- The call passes the preview. -/
def Passes (p : CorpusProgress Fp) (call : ProgressCall Fp) : Prop :=
  call = .continueAfterPreview ∧ ∃ next, continueAfterPreview p = .ok () next

/-- A call that overwrites no artifact keeps the order, and the whole progress when it fails. -/
theorem Orderly.after (h : p.Orderly continued) {call : ProgressCall Fp}
    (hkeeps : ¬ p.Overwrites call) :
    (call.run.after p).Orderly (continued ∨ p.Passes call) ∧
      ∀ e next, call.run p = .error e next → next = p := by
  -- a refused call that leaves the progress alone leaves nothing to show
  have hrefused : ∀ e, call.run p = .error e p →
      (call.run.after p).Orderly (continued ∨ p.Passes call) ∧
        ∀ e next, call.run p = .error e next → next = p := by
    intro e hcall
    constructor
    · rw [Mutation.after_of_error hcall]
      exact h.mono .inl
    · intro other next hother
      rw [hcall, EStateM.Result.error.injEq] at hother
      exact hother.2.symm
  have hanswered : ∀ later, call.run p = .ok () later → later.Orderly (continued ∨ p.Passes call) →
      (call.run.after p).Orderly (continued ∨ p.Passes call) ∧
        ∀ e next, call.run p = .error e next → next = p := by
    intro later hcall horderly
    constructor
    · rw [Mutation.after_of_ok hcall]
      exact horderly
    · intro e next hother
      rw [hcall] at hother
      cases hother
  cases call with
  | recordArtifact artifact =>
    rcases recordArtifact_cases p artifact with ⟨-, e, hcall⟩ | ⟨-, hnew, hcall⟩ | hduplicate
    · exact hrefused e hcall
    · exact hanswered _ hcall ((h.withArtifact hnew).mono .inl)
    · obtain ⟨hadmits, stored, e, hstored, hcall⟩ := hduplicate
      have hsame : stored = artifact := by
        by_contra hne
        exact hkeeps ⟨hadmits, stored, hstored, hne⟩
      have hunchanged : p.withArtifact artifact = p := by
        rw [CorpusProgress.withArtifact, OrderedMap.insert_of_get? (hsame ▸ hstored)]
      rw [hunchanged] at hcall
      exact hrefused e hcall
  | completeStage =>
    rcases completeStage_cases p with ⟨e, hcall⟩ | ⟨hcomplete, hcall⟩
    · exact hrefused e hcall
    · exact hanswered _ hcall ((h.withStageClosed hcomplete).mono .inl)
  | continueAfterPreview =>
    rcases continueAfterPreview_cases p with ⟨e, hcall⟩ | ⟨hpaused, -, hcall⟩
    · exact hrefused e hcall
    · exact hanswered _ hcall ((h.resumed hpaused).mono fun _ => .inr ⟨rfl, _, hcall⟩)

/-! ## Runs -/

/-- Some call among them passed the preview. -/
def Continued (p : CorpusProgress Fp) (calls : List (ProgressCall Fp)) : Prop :=
  ∃ front call rest, calls = front ++ call :: rest ∧ (p.afterCalls front).Passes call

/-- What is promised of a call after others. -/
structure KeepsOrder (p : CorpusProgress Fp) (front : List (ProgressCall Fp))
    (call : ProgressCall Fp) : Prop where
  checkpoint : (p.afterCalls (front ++ [call])).validateCheckpoint = .ok ()
  refused : ∀ e next, call.run (p.afterCalls front) = .error e next → next = p.afterCalls front
  completed : (p.afterCalls (front ++ [call])).completedStages.keys <+: AnalyzeStage.order
  artifacts : ∀ stage ∈ (p.afterCalls (front ++ [call])).completedStages,
    (p.afterCalls (front ++ [call])).HasComplete stage
  preview : ¬ p.Continued (front ++ [call]) →
    (p.afterCalls (front ++ [call])).currentStage ≤ .goldenThree ∧
      ∀ stage ∈ (p.afterCalls (front ++ [call])).completedStages, stage ≤ .goldenThree

omit [DecidableEq Fp] in
theorem afterCalls_concat (p : CorpusProgress Fp) (front : List (ProgressCall Fp))
    (call : ProgressCall Fp) :
    p.afterCalls (front ++ [call]) = call.run.after (p.afterCalls front) := by
  simp [afterCalls]

omit [DecidableEq Fp] in
theorem Continued.of_concat {front : List (ProgressCall Fp)} {call : ProgressCall Fp}
    (h : p.Continued front ∨ (p.afterCalls front).Passes call) :
    p.Continued (front ++ [call]) := by
  rcases h with ⟨earlier, passing, rest, rfl, hpasses⟩ | hpasses
  · exact ⟨earlier, passing, rest ++ [call], by simp, hpasses⟩
  · exact ⟨front, call, [], rfl, hpasses⟩

theorem Orderly.afterCalls {calls : List (ProgressCall Fp)} (hstart : p.Orderly False)
    (h : ∀ front call rest, calls = front ++ call :: rest →
      ¬ (p.afterCalls front).Overwrites call) :
    (p.afterCalls calls).Orderly (p.Continued calls) := by
  induction calls using List.reverseRecOn with
  | nil => exact hstart.mono False.elim
  | append_singleton front call ih =>
    have hfront : (p.afterCalls front).Orderly (p.Continued front) := by
      apply ih
      intro earlier other rest hsplit
      exact h earlier other (rest ++ [call]) (by simp [hsplit])
    have hafter := (hfront.after (h front call [] rfl)).1
    rw [afterCalls_concat]
    exact hafter.mono Continued.of_concat

/-- Every call of a run keeps the order exactly when none replaces a stored artifact. -/
theorem keepsOrder_iff {sourceId : String} {sourceFingerprint : Fp}
    {boundaries : List (ChapterBoundary Fp)} {p : CorpusProgress Fp}
    (hstart : start sourceId sourceFingerprint boundaries = .ok p)
    (calls : List (ProgressCall Fp)) :
    (∀ front call rest, calls = front ++ call :: rest → p.KeepsOrder front call) ↔
      ∀ front call rest, calls = front ++ call :: rest →
        ¬ (p.afterCalls front).Overwrites call := by
  constructor
  · intro hkeeps front call rest hsplit hoverwrites
    have hrefused := (hkeeps front call rest hsplit).refused
    cases call with
    | recordArtifact artifact =>
      obtain ⟨hadmits, stored, hstored, hne⟩ := hoverwrites
      rcases recordArtifact_cases (p.afterCalls front) artifact with
        ⟨hnot, -⟩ | ⟨-, hnew, -⟩ | ⟨-, _, e, -, hcall⟩
      · exact hnot hadmits
      · simp [hnew] at hstored
      · have hsame := congrArg (fun q => q.artifacts.get? artifact.artifactId) (hrefused e _ hcall)
        simp only [withArtifact, OrderedMap.get?_insert_self, hstored, Option.some.injEq] at hsame
        exact hne hsame.symm
    | completeStage => exact hoverwrites
    | continueAfterPreview => exact hoverwrites
  · intro h front call rest hsplit
    have hfront : (p.afterCalls front).Orderly (p.Continued front) := by
      apply (Orderly.start hstart).afterCalls
      intro earlier other behind hearlier
      exact h earlier other (behind ++ call :: rest) (by simp [hsplit, hearlier])
    have hlast : (p.afterCalls (front ++ [call])).Orderly (p.Continued (front ++ [call])) := by
      rw [afterCalls_concat]
      exact (hfront.after (h front call rest hsplit)).1.mono Continued.of_concat
    constructor
    · exact hlast.validateCheckpoint
    · intro e next hcall
      exact (hfront.after (h front call rest hsplit)).2 e next hcall
    · exact hlast.isPrefix
    · exact hlast.artifacts
    · intro hnot
      have hpreview := hlast.preview hnot
      exact ⟨hpreview, fun stage hstage => (hlast.reached stage hstage).trans hpreview⟩

end CorpusProgress

end Calls

/-! ## A study of one chapter -/

namespace Sample

def boundary : ChapterBoundary Digest := ⟨1, "第一章", 0, 100, .tag 0⟩

def boundaryArtifact : CorpusArtifact Digest :=
  ⟨"boundaries", .boundaryIndex, "chapter_boundaries", .tag 0, [], true⟩

def previewArtifact (id : String) : CorpusArtifact Digest :=
  ⟨id, .goldenThree, "preview", .tag 0, [⟨"WORK001", 1, 0, 50, .tag 0⟩], true⟩

def started : CorpusProgress Digest :=
  CorpusProgress.refreshCheckpoint {
    schema := "quillframe_corpus_progress_v1"
    sourceId := "source-1"
    sourceFingerprint := .tag 0
    currentStage := .boundaryIndex
    pausedAfterGoldenThree := false
    completedStages := .empty
    failedWorkItems := .empty
    boundaries := [boundary]
    artifacts := .empty
    checkpointFingerprint := none }

theorem start_eq : CorpusProgress.start "source-1" (.tag 0) [boundary] = .ok started := by
  rfl

/-- The preview under an id of its own. -/
def analysed : List (ProgressCall Digest) :=
  [.recordArtifact boundaryArtifact, .completeStage, .recordArtifact (previewArtifact "preview"),
    .completeStage, .continueAfterPreview]

/-- The preview under the id of the artifact of the boundary index. -/
def reused : List (ProgressCall Digest) :=
  [.recordArtifact boundaryArtifact, .completeStage, .recordArtifact (previewArtifact "boundaries")]

end Sample

open CorpusProgress in
theorem analysed_overwrites_nothing {front rest : List (ProgressCall Digest)}
    {call : ProgressCall Digest} (hsplit : Sample.analysed = front ++ call :: rest) :
    ¬ (Sample.started.afterCalls front).Overwrites call := by
  intro hoverwrites
  have hfront : front = Sample.analysed.take front.length := by simp [hsplit]
  have hcall : Sample.analysed[front.length]? = some call := by simp [hsplit]
  rw [hfront] at hoverwrites
  -- only the first and the third call record an artifact
  match front.length, hcall, hoverwrites with
  | 0, hcall, hoverwrites =>
    obtain rfl : .recordArtifact Sample.boundaryArtifact = call := by
      simpa [Sample.analysed] using hcall
    obtain ⟨-, stored, hstored, -⟩ := hoverwrites
    cases hstored
  | 2, hcall, hoverwrites =>
    obtain rfl : .recordArtifact (Sample.previewArtifact "preview") = call := by
      simpa [Sample.analysed] using hcall
    obtain ⟨-, stored, hstored, -⟩ := hoverwrites
    cases hstored
  | 1, hcall, hoverwrites | 3, hcall, hoverwrites =>
    obtain rfl : .completeStage = call := by simpa [Sample.analysed] using hcall
    exact hoverwrites
  | 4, hcall, hoverwrites =>
    obtain rfl : .continueAfterPreview = call := by simpa [Sample.analysed] using hcall
    exact hoverwrites
  | n + 5, hcall, _ => simp [Sample.analysed] at hcall

open CorpusProgress in
theorem keepsOrder_iff_sample :
    CorpusProgress.start "source-1" (.tag 0) [Sample.boundary] = .ok Sample.started ∧
      Sample.started.KeepsOrder (Sample.analysed.take 4) .continueAfterPreview := by
  have hkeeps := (keepsOrder_iff Sample.start_eq Sample.analysed).mpr
    fun _ _ _ => analysed_overwrites_nothing
  exact ⟨Sample.start_eq, hkeeps (Sample.analysed.take 4) .continueAfterPreview [] rfl⟩

/-- A refused artifact takes the place of the one that a completed stage rests on. -/
theorem refused_artifact_replaces :
    CorpusProgress.start "source-1" (.tag 0) [Sample.boundary] = .ok Sample.started ∧
      (∃ e next, CorpusProgress.recordArtifact (Sample.previewArtifact "boundaries")
        (Sample.started.afterCalls (Sample.reused.take 2)) = .error e next) ∧
      (Sample.started.afterCalls Sample.reused).validateCheckpoint ≠ .ok () ∧
      .boundaryIndex ∈ (Sample.started.afterCalls Sample.reused).completedStages ∧
      ¬ (Sample.started.afterCalls Sample.reused).HasComplete .boundaryIndex ∧
      ¬ ∀ front call rest, Sample.reused = front ++ call :: rest →
        Sample.started.KeepsOrder front call := by
  have hcheckpoint : (Sample.started.afterCalls Sample.reused).validateCheckpoint =
      .error (.authorityConflict "corpus checkpoint fingerprint changed") := by
    rfl
  have hlost : ¬ (Sample.started.afterCalls Sample.reused).HasComplete .boundaryIndex := by
    decide +kernel
  refine ⟨Sample.start_eq, ⟨_, _, rfl⟩, ?_, ?_, hlost, ?_⟩
  · simp [hcheckpoint]
  · decide +kernel
  · intro hkeeps
    have hlast := (hkeeps (Sample.reused.take 2) _ [] rfl).checkpoint
    have hcalls : Sample.reused.take 2 ++
        [.recordArtifact (Sample.previewArtifact "boundaries")] = Sample.reused := rfl
    rw [hcalls, hcheckpoint] at hlast
    cases hlast

end Quillframe.Corpus
