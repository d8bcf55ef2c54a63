import Quillframe.Calls
import Quillframe.ReviewReports
import Quillframe.Runs

/-!
# The production pipeline

One Writer Pack, its candidates and their reviews. Every public call is a mutation of the pipeline
that answers, fails or panics.
-/
namespace Quillframe

open Relation

variable {Fp : Type}

inductive ProductionState where
  | ready | writerPackFrozen | drafted | awaitingReview | revisionRequired | accepted
  | infrastructureFailed
  deriving DecidableEq, Repr

/-- `candidates` holds one candidate for each fingerprint. -/
structure ProductionPipeline (Fp : Type) where
  state : ProductionState
  writerPack : Option (WriterPack Fp)
  candidates : List (CandidateArtifact Fp)
  currentCandidateFingerprint : Option Fp
  openFindings : List String
  deriving DecidableEq

/-- A call on the pipeline. -/
abbrev PipelineCall (Fp α : Type) := Mutation Abort (ProductionPipeline Fp) α

/-- `revision + 1` on `u32`. -/
def nextRevision (revision : ℕ) : Outcome ℕ :=
  if revision + 1 < 2 ^ 32 then .ok (revision + 1) else .error .panicked

namespace CandidateArtifact

variable [Sha256 Fp]

/-- `CandidateArtifact::new`; a parent fingerprint is canonical by its type. -/
def new (candidateId : String) (writerPack : WriterPack Fp)
    (parentCandidateFingerprint : Option Fp) (revision : ℕ) (manuscript : String) :
    CoreResult (CandidateArtifact Fp) := do
  require (¬ (blank manuscript ∨ revision = 0))
    (.invalidProject "candidate manuscript and revision are required")
  return { schema := "quillframe_candidate_artifact_v1", candidateId,
           chapterId := writerPack.chapterId, writerPackFingerprint := writerPack.fingerprint,
           parentCandidateFingerprint, revision, manuscript,
           fingerprint := Sha256.ofText manuscript }

/-- The map of candidates after an insertion under the fingerprint. -/
def insertInto [DecidableEq Fp] (candidate : CandidateArtifact Fp)
    (candidates : List (CandidateArtifact Fp)) : List (CandidateArtifact Fp) :=
  candidates.filter (fun other => other.fingerprint ≠ candidate.fingerprint) ++ [candidate]

omit [Sha256 Fp] in
theorem mem_insertInto [DecidableEq Fp] {candidate other : CandidateArtifact Fp}
    {candidates : List (CandidateArtifact Fp)} :
    other ∈ candidate.insertInto candidates ↔
      other ∈ candidates ∧ other.fingerprint ≠ candidate.fingerprint ∨ other = candidate := by
  simp [insertInto]

omit [Sha256 Fp] in
theorem nodup_insertInto [DecidableEq Fp] {candidate : CandidateArtifact Fp}
    {candidates : List (CandidateArtifact Fp)}
    (h : (candidates.map (·.fingerprint)).Nodup) :
    ((candidate.insertInto candidates).map (·.fingerprint)).Nodup := by
  refine Table.nodup_append_singleton (h.sublist (List.filter_sublist.map _)) fun other hother => ?_
  simp only [List.mem_filter, decide_eq_true_eq] at hother
  exact hother.2

end CandidateArtifact

namespace ProductionPipeline

/-- `ProductionPipeline::default()`. -/
def initial : ProductionPipeline Fp where
  state := .ready
  writerPack := none
  candidates := []
  currentCandidateFingerprint := none
  openFindings := []

variable [DecidableEq Fp]

def beginReview : PipelineCall Fp Fp := do
  let p ← get
  attempt (require (p.state = .drafted)
    (.authorityConflict "review requires a complete draft candidate"))
  modify fun p => { p with state := .awaitingReview }
  let p ← get
  unwrap p.currentCandidateFingerprint

variable [Sha256 Fp]

def recordDraft (candidate : CandidateArtifact Fp) : PipelineCall Fp Unit := do
  let p ← get
  attempt (require (p.state = .writerPackFrozen ∨ p.state = .revisionRequired)
    (.authorityConflict "candidate cannot enter the current production state"))
  attempt candidate.validate
  let pack ← attempt (fetch p.writerPack
    (.authorityConflict "production has no frozen Writer Pack"))
  attempt (require (candidate.writerPackFingerprint = pack.fingerprint)
    (.authorityConflict "candidate was generated from a different Writer Pack"))
  attempt (require (¬ (p.state = .revisionRequired ∧
      candidate.parentCandidateFingerprint ≠ p.currentCandidateFingerprint))
    (.authorityConflict "revision does not bind the rejected candidate"))
  modify fun p => { p with currentCandidateFingerprint := some candidate.fingerprint }
  modify fun p => { p with candidates := candidate.insertInto p.candidates }
  modify fun p => { p with state := .drafted }

def applyReview (report : ReviewReport Fp) : PipelineCall Fp Unit := do
  let p ← get
  attempt (require (p.state = .awaitingReview)
    (.authorityConflict "review result arrived outside review state"))
  let current ← unwrap p.currentCandidateFingerprint
  attempt (report.validate current)
  modify fun p => { p with openFindings := report.findings.map (·.findingId) }
  modify fun p => { p with
    state := match report.decision with
      | .accept => .accepted
      | .revise => .revisionRequired
      | .infrastructureFailed => .infrastructureFailed }

def revise (candidateId manuscript : String) : PipelineCall Fp (CandidateArtifact Fp) := do
  let p ← get
  attempt (require (p.state = .revisionRequired)
    (.authorityConflict "revision requires a rejected candidate"))
  let parent ← unwrap p.currentCandidateFingerprint
  let prior ← unwrap (Table.lookup CandidateArtifact.fingerprint parent p.candidates)
  let pack ← unwrap p.writerPack
  let revision ← Mutation.check (nextRevision prior.revision)
  attempt (CandidateArtifact.new candidateId pack (some parent) revision manuscript)

variable [Documents Fp]

def freezeWriterPack (pack : WriterPack Fp) : PipelineCall Fp Unit := do
  let p ← get
  attempt (require (p.state = .ready)
    (.authorityConflict "Writer Pack may only freeze from ready state"))
  attempt pack.validate
  modify fun p => { p with writerPack := some pack }
  modify fun p => { p with state := .writerPackFrozen }

/-! ## What each call does -/

omit [Documents Fp] in
theorem recordDraft_ok {candidate : CandidateArtifact Fp} {p q : ProductionPipeline Fp} {u : Unit}
    (h : recordDraft candidate p = .ok u q) :
    (p.state = .writerPackFrozen ∨ p.state = .revisionRequired) ∧
      (p.state = .revisionRequired →
        candidate.parentCandidateFingerprint = p.currentCandidateFingerprint) ∧
      candidate.validate = .ok () ∧
      q = { p with
        currentCandidateFingerprint := some candidate.fingerprint
        candidates := candidate.insertInto p.candidates
        state := .drafted } := by
  simp only [recordDraft, Mutation.bind_ok, Mutation.get_ok, attempt_ok, Mutation.modify_ok,
    require_eq_ok, fetch_eq_ok] at h
  obtain ⟨_, _, ⟨rfl, rfl⟩, _, _, ⟨hstate, rfl⟩, _, _, ⟨hvalid, rfl⟩, pack, _, ⟨-, rfl⟩, _, _,
    ⟨-, rfl⟩, _, _, ⟨hparent, rfl⟩, _, _, rfl, _, _, rfl, rfl⟩ := h
  refine ⟨hstate, fun hrejected => ?_, hvalid, rfl⟩
  by_contra hother
  exact hparent ⟨hrejected, hother⟩

omit [Sha256 Fp] [DecidableEq Fp] [Documents Fp] in
theorem beginReview_ok {p q : ProductionPipeline Fp} {current : Fp}
    (h : beginReview p = .ok current q) :
    p.state = .drafted ∧ p.currentCandidateFingerprint = some current ∧
      q = { p with state := .awaitingReview } := by
  simp only [beginReview, Mutation.bind_ok, Mutation.get_ok, attempt_ok, Mutation.modify_ok,
    require_eq_ok, unwrap_ok] at h
  obtain ⟨_, _, ⟨rfl, rfl⟩, _, _, ⟨hstate, rfl⟩, _, _, rfl, _, _, ⟨rfl, rfl⟩, hcurrent, rfl⟩ := h
  exact ⟨hstate, hcurrent, rfl⟩

omit [Documents Fp] in
theorem applyReview_ok {report : ReviewReport Fp} {p q : ProductionPipeline Fp} {u : Unit}
    (h : applyReview report p = .ok u q) :
    p.state = .awaitingReview ∧
      (∃ current, p.currentCandidateFingerprint = some current ∧
        report.validate current = .ok ()) ∧
      q = { p with
        openFindings := report.findings.map (·.findingId)
        state := match report.decision with
          | .accept => .accepted
          | .revise => .revisionRequired
          | .infrastructureFailed => .infrastructureFailed } := by
  simp only [applyReview, Mutation.bind_ok, Mutation.get_ok, attempt_ok, Mutation.modify_ok,
    require_eq_ok, unwrap_ok] at h
  obtain ⟨_, _, ⟨rfl, rfl⟩, _, _, ⟨hstate, rfl⟩, current, _, ⟨hcurrent, rfl⟩, _, _, ⟨hvalid, rfl⟩,
    _, _, rfl, rfl⟩ := h
  exact ⟨hstate, ⟨current, hcurrent, hvalid⟩, rfl⟩

omit [Documents Fp] in
theorem revise_ok {candidateId manuscript : String} {p q : ProductionPipeline Fp}
    {candidate : CandidateArtifact Fp} (h : revise candidateId manuscript p = .ok candidate q) :
    q = p := by
  simp only [revise, Mutation.bind_ok, Mutation.get_ok, attempt_ok, Mutation.check_ok,
    require_eq_ok, unwrap_ok] at h
  obtain ⟨_, _, ⟨rfl, rfl⟩, _, _, ⟨-, rfl⟩, _, _, ⟨-, rfl⟩, _, _, ⟨-, rfl⟩, _, _, ⟨-, rfl⟩, _, _,
    ⟨-, rfl⟩, -, rfl⟩ := h
  rfl

theorem freezeWriterPack_ok {pack : WriterPack Fp} {p q : ProductionPipeline Fp} {u : Unit}
    (h : freezeWriterPack pack p = .ok u q) :
    p.state = .ready ∧ q = { p with writerPack := some pack, state := .writerPackFrozen } := by
  simp only [freezeWriterPack, Mutation.bind_ok, Mutation.get_ok, attempt_ok, Mutation.modify_ok,
    require_eq_ok] at h
  obtain ⟨_, _, ⟨rfl, rfl⟩, _, _, ⟨hstate, rfl⟩, _, _, ⟨-, rfl⟩, _, _, rfl, rfl⟩ := h
  exact ⟨hstate, rfl⟩

/-! ## Calls that fail or panic -/

omit [Documents Fp] in
theorem keeps_recordDraft (candidate : CandidateArtifact Fp) :
    Mutation.Keeps (recordDraft candidate) := by
  refine Mutation.reads_get.keeps_bind Mutation.keeps_get fun p => ?_
  refine (reads_attempt _).keeps_bind (keeps_attempt _) fun _ => ?_
  refine (reads_attempt _).keeps_bind (keeps_attempt _) fun _ => ?_
  refine (reads_attempt _).keeps_bind (keeps_attempt _) fun pack => ?_
  refine (reads_attempt _).keeps_bind (keeps_attempt _) fun _ => ?_
  refine (reads_attempt _).keeps_bind (keeps_attempt _) fun _ => ?_
  refine Mutation.keeps_bind_of_total (Mutation.keeps_modify _) fun _ s e t => ?_
  simp

omit [Documents Fp] in
theorem keeps_applyReview (report : ReviewReport Fp) : Mutation.Keeps (applyReview report) := by
  refine Mutation.reads_get.keeps_bind Mutation.keeps_get fun p => ?_
  refine (reads_attempt _).keeps_bind (keeps_attempt _) fun _ => ?_
  refine (Mutation.reads_check _).keeps_bind (Mutation.keeps_check _) fun current => ?_
  refine (reads_attempt _).keeps_bind (keeps_attempt _) fun _ => ?_
  refine Mutation.keeps_bind_of_total (Mutation.keeps_modify _) fun _ s e t => ?_
  simp

omit [Documents Fp] in
theorem keeps_revise (candidateId manuscript : String) :
    Mutation.Keeps (revise candidateId manuscript : PipelineCall Fp (CandidateArtifact Fp)) := by
  refine Mutation.reads_get.keeps_bind Mutation.keeps_get fun p => ?_
  refine (reads_attempt _).keeps_bind (keeps_attempt _) fun _ => ?_
  refine (Mutation.reads_check _).keeps_bind (Mutation.keeps_check _) fun parent => ?_
  refine (Mutation.reads_check _).keeps_bind (Mutation.keeps_check _) fun prior => ?_
  refine (Mutation.reads_check _).keeps_bind (Mutation.keeps_check _) fun pack => ?_
  refine (Mutation.reads_check _).keeps_bind (Mutation.keeps_check _) fun revision => ?_
  exact keeps_attempt _

theorem keeps_freezeWriterPack (pack : WriterPack Fp) : Mutation.Keeps (freezeWriterPack pack) := by
  refine Mutation.reads_get.keeps_bind Mutation.keeps_get fun p => ?_
  refine (reads_attempt _).keeps_bind (keeps_attempt _) fun _ => ?_
  refine (reads_attempt _).keeps_bind (keeps_attempt _) fun _ => ?_
  refine Mutation.keeps_bind_of_total (Mutation.keeps_modify _) fun _ s e t => ?_
  simp

omit [Sha256 Fp] [DecidableEq Fp] [Documents Fp] in
/-- `begin_review` assigns before its `unwrap`, and fails only before. -/
theorem beginReview_failed {p q : ProductionPipeline Fp} {e : CoreError}
    (h : beginReview p = .error (.failed e) q) : q = p := by
  simp only [beginReview, Mutation.bind_error, Mutation.get_error, Mutation.get_ok,
    Mutation.modify_error, unwrap_failed, false_or, and_false, exists_false, or_false] at h
  obtain ⟨_, _, ⟨rfl, rfl⟩, h⟩ := h
  exact keeps_attempt _ _ _ _ h

end ProductionPipeline

/-! ## Runs -/

/-- A public call with its arguments. -/
inductive PipelineOp (Fp : Type) where
  | freezeWriterPack (pack : WriterPack Fp)
  | recordDraft (candidate : CandidateArtifact Fp)
  | beginReview
  | applyReview (report : ReviewReport Fp)
  | revise (candidateId manuscript : String)

/-- The pipeline with the last report that it applied and the candidates that it recorded after a
rejection. -/
structure PipelineTrace (Fp : Type) where
  pipeline : ProductionPipeline Fp
  lastReport : Option (ReviewReport Fp)
  revised : List (CandidateArtifact Fp)

def PipelineTrace.initial : PipelineTrace Fp where
  pipeline := .initial
  lastReport := none
  revised := []

/-- The trace after an answered call. -/
def PipelineTrace.after (trace : PipelineTrace Fp) (p : ProductionPipeline Fp) :
    PipelineOp Fp → PipelineTrace Fp
  | .recordDraft candidate =>
    { trace with
      pipeline := p
      revised := if trace.pipeline.state = .revisionRequired then trace.revised ++ [candidate]
        else trace.revised }
  | .applyReview report => { trace with pipeline := p, lastReport := some report }
  | _ => { trace with pipeline := p }

section

variable [Sha256 Fp] [DecidableEq Fp] [Documents Fp]

def PipelineOp.exec : PipelineOp Fp → PipelineCall Fp Unit
  | .freezeWriterPack pack => ProductionPipeline.freezeWriterPack pack
  | .recordDraft candidate => ProductionPipeline.recordDraft candidate
  | .beginReview => do
    let _ ← ProductionPipeline.beginReview
    return ()
  | .applyReview report => ProductionPipeline.applyReview report
  | .revise candidateId manuscript => do
    let _ ← ProductionPipeline.revise candidateId manuscript
    return ()

/-- A call that returns, with an answer or an error. -/
inductive PipelineStep : PipelineTrace Fp → PipelineOp Fp → PipelineTrace Fp → Prop
  | answered {trace : PipelineTrace Fp} {op : PipelineOp Fp} {p : ProductionPipeline Fp}
      (h : op.exec trace.pipeline = .ok () p) : PipelineStep trace op (trace.after p op)
  | failed {trace : PipelineTrace Fp} {op : PipelineOp Fp} {p : ProductionPipeline Fp}
      {error : CoreError} (h : op.exec trace.pipeline = .error (.failed error) p) :
      PipelineStep trace op { trace with pipeline := p }

/-- A failed call leaves the pipeline unchanged. -/
theorem PipelineOp.exec_failed {op : PipelineOp Fp} {p q : ProductionPipeline Fp} {e : CoreError}
    (h : op.exec p = .error (.failed e) q) : q = p := by
  cases op with
  | freezeWriterPack pack => exact ProductionPipeline.keeps_freezeWriterPack pack _ _ _ h
  | recordDraft candidate => exact ProductionPipeline.keeps_recordDraft candidate _ _ _ h
  | beginReview =>
    simp only [exec, Mutation.bind_error, Mutation.pure_error, and_false, exists_false,
      or_false] at h
    exact ProductionPipeline.beginReview_failed h
  | applyReview report => exact ProductionPipeline.keeps_applyReview report _ _ _ h
  | revise candidateId manuscript =>
    simp only [exec, Mutation.bind_error, Mutation.pure_error, and_false, exists_false,
      or_false] at h
    exact ProductionPipeline.keeps_revise candidateId manuscript _ _ _ h

/-! ## What holds in every run -/

/-- The pack and the current candidate are there from the states on that unwrap them. -/
structure ProductionPipeline.Sound (p : ProductionPipeline Fp) : Prop where
  pack : p.state ≠ .ready → p.writerPack.isSome
  current : p.state ≠ .ready → p.state ≠ .writerPackFrozen →
    ∃ candidate ∈ p.candidates, p.currentCandidateFingerprint = some candidate.fingerprint
  fresh : p.state = .ready ∨ p.state = .writerPackFrozen → p.candidates = []
  distinct : (p.candidates.map (·.fingerprint)).Nodup

/-- An accepted candidate is the one that the last report accepts. -/
structure PipelineTrace.Sound (trace : PipelineTrace Fp) : Prop where
  pipeline : trace.pipeline.Sound
  accepted : trace.pipeline.state = .accepted → ∃ report, trace.lastReport = some report ∧
    report.decision = .accept ∧
    trace.pipeline.currentCandidateFingerprint = some report.candidateFingerprint

omit [Sha256 Fp] [DecidableEq Fp] [Documents Fp] in
theorem PipelineTrace.sound_initial : (initial : PipelineTrace Fp).Sound where
  pipeline :=
    { pack := fun h => absurd rfl h
      current := fun h => absurd rfl h
      fresh := fun _ => rfl
      distinct := List.nodup_nil }
  accepted := fun h => by cases h

theorem PipelineStep.sound {trace next : PipelineTrace Fp} {op : PipelineOp Fp}
    (h : PipelineStep trace op next) (hsound : trace.Sound) : next.Sound := by
  cases h with
  | failed h => exact PipelineOp.exec_failed h ▸ hsound
  | @answered p h =>
    have hp := hsound.pipeline
    cases op with
    | freezeWriterPack pack =>
      obtain ⟨hstate, rfl⟩ := ProductionPipeline.freezeWriterPack_ok h
      refine ⟨⟨fun _ => rfl, fun _ hnot => absurd rfl hnot, fun _ => ?_, hp.distinct⟩, ?_⟩
      · exact hp.fresh (.inl hstate)
      · intro haccepted
        cases haccepted
    | recordDraft candidate =>
      obtain ⟨hstate, -, -, rfl⟩ := ProductionPipeline.recordDraft_ok h
      have hready : trace.pipeline.state ≠ .ready := by
        rcases hstate with hstate | hstate <;> simp [hstate]
      refine ⟨⟨fun _ => hp.pack hready, fun _ _ => ?_, ?_, ?_⟩, ?_⟩
      · exact ⟨candidate, CandidateArtifact.mem_insertInto.mpr (.inr rfl), rfl⟩
      · intro hstart
        rcases hstart with hstart | hstart <;> cases hstart
      · exact CandidateArtifact.nodup_insertInto hp.distinct
      · intro haccepted
        cases haccepted
    | beginReview =>
      simp only [PipelineOp.exec, Mutation.bind_ok, Mutation.pure_ok] at h
      obtain ⟨current, _, h, -, rfl⟩ := h
      obtain ⟨hstate, hcurrent, rfl⟩ := ProductionPipeline.beginReview_ok h
      have hready : trace.pipeline.state ≠ .ready := by simp [hstate]
      have hfrozen : trace.pipeline.state ≠ .writerPackFrozen := by simp [hstate]
      refine ⟨⟨fun _ => hp.pack hready, fun _ _ => hp.current hready hfrozen, ?_, hp.distinct⟩, ?_⟩
      · intro hstart
        rcases hstart with hstart | hstart <;> cases hstart
      · intro haccepted
        cases haccepted
    | applyReview report =>
      obtain ⟨hstate, ⟨current, hcurrent, hvalid⟩, rfl⟩ := ProductionPipeline.applyReview_ok h
      have hready : trace.pipeline.state ≠ .ready := by simp [hstate]
      have hfrozen : trace.pipeline.state ≠ .writerPackFrozen := by simp [hstate]
      refine ⟨⟨fun _ => hp.pack hready, fun _ _ => hp.current hready hfrozen, ?_, hp.distinct⟩, ?_⟩
      · intro hstart
        cases hdecision : report.decision <;> simp [PipelineTrace.after, hdecision] at hstart
      · intro haccepted
        have hdecision : report.decision = .accept := by
          cases hdecision : report.decision <;>
            simp [PipelineTrace.after, hdecision] at haccepted ⊢
        simp only [ReviewReport.validate, bind_eq_ok, require_eq_ok, exists_const] at hvalid
        refine ⟨report, rfl, hdecision, ?_⟩
        rw [hvalid.1]
        exact hcurrent
    | revise candidateId manuscript =>
      simp only [PipelineOp.exec, Mutation.bind_ok, Mutation.pure_ok] at h
      obtain ⟨candidate, _, h, -, rfl⟩ := h
      obtain rfl := ProductionPipeline.revise_ok h
      exact hsound

/-- The only panic of a sound pipeline is the counter of a revision. -/
theorem PipelineOp.exec_panicked {op : PipelineOp Fp} {p q : ProductionPipeline Fp}
    (hsound : p.Sound) (h : op.exec p = .error .panicked q) :
    (∃ candidateId manuscript, op = .revise candidateId manuscript) ∧
      p.state = .revisionRequired ∧ ∃ candidate ∈ p.candidates,
        p.currentCandidateFingerprint = some candidate.fingerprint ∧
        2 ^ 32 ≤ candidate.revision + 1 := by
  cases op with
  | freezeWriterPack pack => simp [exec, ProductionPipeline.freezeWriterPack] at h
  | recordDraft candidate => simp [exec, ProductionPipeline.recordDraft] at h
  | beginReview =>
    simp only [exec, ProductionPipeline.beginReview, Mutation.bind_error, Mutation.get_error,
      Mutation.get_ok, Mutation.modify_error, Mutation.modify_ok, attempt_panicked, attempt_ok,
      require_eq_ok, unwrap_panicked, Mutation.pure_error, false_or, and_false, exists_false,
      or_false] at h
    obtain ⟨_, _, ⟨rfl, rfl⟩, _, _, ⟨hstate, rfl⟩, _, _, rfl, _, _, ⟨rfl, rfl⟩, hnone, -⟩ := h
    obtain ⟨candidate, -, hcurrent⟩ := hsound.current (by simp [hstate]) (by simp [hstate])
    have hnone : p.currentCandidateFingerprint = none := hnone
    rw [hcurrent] at hnone
    cases hnone
  | applyReview report =>
    simp only [exec, ProductionPipeline.applyReview, Mutation.bind_error, Mutation.get_error,
      Mutation.get_ok, Mutation.modify_error, attempt_panicked, attempt_ok, require_eq_ok,
      unwrap_panicked, false_or, and_false, exists_false, or_false] at h
    obtain ⟨_, _, ⟨rfl, rfl⟩, _, _, ⟨hstate, rfl⟩, hnone, -⟩ := h
    obtain ⟨candidate, -, hcurrent⟩ := hsound.current (by simp [hstate]) (by simp [hstate])
    rw [hcurrent] at hnone
    cases hnone
  | revise candidateId manuscript =>
    refine ⟨⟨candidateId, manuscript, rfl⟩, ?_⟩
    simp only [exec, ProductionPipeline.revise, Mutation.bind_error, Mutation.get_error,
      Mutation.get_ok, Mutation.check_error, attempt_panicked, attempt_ok, require_eq_ok,
      unwrap_panicked, unwrap_ok, Mutation.pure_error, false_or, and_false, exists_false,
      or_false] at h
    obtain ⟨_, _, ⟨rfl, rfl⟩, _, _, ⟨hstate, rfl⟩, h⟩ := h
    obtain ⟨candidate, hmem, hcurrent⟩ := hsound.current (by simp [hstate]) (by simp [hstate])
    have hlookup := Table.lookup_of_mem hsound.distinct hmem
    obtain ⟨pack, hpack⟩ := Option.isSome_iff_exists.mp (hsound.pack (by simp [hstate]))
    simp only [hcurrent, reduceCtorEq, false_and, false_or, Option.some.injEq] at h
    obtain ⟨_, _, ⟨rfl, rfl⟩, h⟩ := h
    simp only [hlookup, hpack, reduceCtorEq, false_and, false_or, Option.some.injEq] at h
    obtain ⟨_, _, ⟨rfl, rfl⟩, _, _, ⟨rfl, rfl⟩, hcounter, -⟩ := h
    refine ⟨hstate, candidate, hmem, hcurrent, ?_⟩
    by_contra hsmall
    rw [nextRevision, if_pos (not_le.mp hsmall)] at hcounter
    cases hcounter

/-! ## The chain of candidates -/

omit [Sha256 Fp] [DecidableEq Fp] [Documents Fp] in
/-- One recorded candidate names another as its parent. -/
def ParentOf (candidates : List (CandidateArtifact Fp)) (child parent : CandidateArtifact Fp) :
    Prop :=
  child ∈ candidates ∧ parent ∈ candidates ∧
    child.parentCandidateFingerprint = some parent.fingerprint

/-- Revision numbers never grow towards a parent, and fall by one where the candidate was recorded
after a rejection. -/
structure Lineage (candidates revised : List (CandidateArtifact Fp)) : Prop where
  ordered : ∀ child parent, ParentOf candidates child parent → parent.revision ≤ child.revision
  revised : ∀ child ∈ revised, ∃ parent, ParentOf candidates child parent ∧
    child.revision = parent.revision + 1

omit [Sha256 Fp] [DecidableEq Fp] [Documents Fp] in
theorem Lineage.revision_le {candidates revised : List (CandidateArtifact Fp)}
    (h : Lineage candidates revised) {child ancestor : CandidateArtifact Fp}
    (hpath : ReflTransGen (ParentOf candidates) child ancestor) :
    ancestor.revision ≤ child.revision := by
  induction hpath with
  | refl => exact le_rfl
  | tail _ hstep ih => exact (h.ordered _ _ hstep).trans ih

omit [Sha256 Fp] [Documents Fp] in
theorem Lineage.not_own_ancestor {candidates revised : List (CandidateArtifact Fp)}
    (h : Lineage candidates revised) (hdistinct : (candidates.map (·.fingerprint)).Nodup)
    {child : CandidateArtifact Fp} (hchild : child ∈ revised) :
    ¬ TransGen (ParentOf candidates) child child := by
  intro hcycle
  obtain ⟨parent, hparent, hrevision⟩ := h.revised child hchild
  obtain ⟨next, hnext, hback⟩ := TransGen.head'_iff.mp hcycle
  have hsame : next = parent := by
    refine Table.eq_of_key_eq hdistinct hnext.2.1 hparent.2.1 ?_
    have hnamed := hnext.2.2.symm.trans hparent.2.2
    simpa using hnamed
  have hfalls : child.revision ≤ next.revision := h.revision_le hback
  rw [hsame] at hfalls
  omega

/-- The condition on a call: a revision continues the rejected candidate with a manuscript that no
candidate has or names, an accepting report has no findings, and a revision counter has room. -/
def PipelineOp.Regular (p : ProductionPipeline Fp) : PipelineOp Fp → Prop
  | .recordDraft candidate => p.state = .revisionRequired →
    (∀ rejected ∈ p.candidates, p.currentCandidateFingerprint = some rejected.fingerprint →
      candidate.revision = rejected.revision + 1) ∧
    ∀ other ∈ p.candidates, other.fingerprint ≠ candidate.fingerprint ∧
      other.parentCandidateFingerprint ≠ some candidate.fingerprint
  | .applyReview report => report.decision = .accept → report.findings = []
  | .revise _ _ => p.state = .revisionRequired → ∀ rejected ∈ p.candidates,
    p.currentCandidateFingerprint = some rejected.fingerprint → rejected.revision + 1 < 2 ^ 32
  | _ => True

omit [Sha256 Fp] [Documents Fp] in
/-- A revision with a new manuscript extends the chain. -/
theorem Lineage.insertInto {candidates revised : List (CandidateArtifact Fp)}
    (h : Lineage candidates revised) {candidate rejected : CandidateArtifact Fp}
    (hrejected : rejected ∈ candidates)
    (hparent : candidate.parentCandidateFingerprint = some rejected.fingerprint)
    (hrevision : candidate.revision = rejected.revision + 1)
    (hdistinct : (candidates.map (·.fingerprint)).Nodup)
    (hnew : ∀ other ∈ candidates, other.fingerprint ≠ candidate.fingerprint ∧
      other.parentCandidateFingerprint ≠ some candidate.fingerprint) :
    Lineage (candidate.insertInto candidates) (revised ++ [candidate]) := by
  have hmem : ∀ other, other ∈ candidate.insertInto candidates ↔
      other ∈ candidates ∨ other = candidate := by
    intro other
    rw [CandidateArtifact.mem_insertInto]
    constructor
    · exact Or.imp And.left id
    · exact Or.imp (fun hother => ⟨hother, (hnew other hother).1⟩) id
  have hkept : ∀ child parent, ParentOf candidates child parent →
      ParentOf (candidate.insertInto candidates) child parent := fun child parent hedge =>
    ⟨(hmem _).mpr (.inl hedge.1), (hmem _).mpr (.inl hedge.2.1), hedge.2.2⟩
  constructor
  · rintro child parent ⟨hchild, hfound, hnamed⟩
    cases (hmem child).mp hchild with
    | inl hold =>
      cases (hmem parent).mp hfound with
      | inl hfound => exact h.ordered child parent ⟨hold, hfound, hnamed⟩
      | inr hself =>
        rw [hself] at hnamed
        exact absurd hnamed (hnew child hold).2
    | inr hself =>
      rw [hself, hparent, Option.some.injEq] at hnamed
      have hsame : parent = rejected := by
        cases (hmem parent).mp hfound with
        | inl hfound => exact Table.eq_of_key_eq hdistinct hfound hrejected hnamed.symm
        | inr hown => exact absurd (hown ▸ hnamed) (hnew rejected hrejected).1
      rw [hself, hsame, hrevision]
      exact Nat.le_succ _
  · intro child hchild
    cases List.mem_append.mp hchild with
    | inl hold =>
      obtain ⟨parent, hedge, hfalls⟩ := h.revised child hold
      exact ⟨parent, hkept child parent hedge, hfalls⟩
    | inr hself =>
      rw [List.mem_singleton.mp hself]
      exact ⟨rejected, ⟨(hmem _).mpr (.inr rfl), (hmem _).mpr (.inl hrejected), hparent⟩,
        hrevision⟩

/-- What regular calls add to a sound trace. -/
structure PipelineTrace.Regular (trace : PipelineTrace Fp) : Prop where
  sound : trace.Sound
  lineage : Lineage trace.pipeline.candidates trace.revised
  accepted : trace.pipeline.state = .accepted → ∃ report, trace.lastReport = some report ∧
    report.findings = []

omit [Sha256 Fp] [DecidableEq Fp] [Documents Fp] in
theorem PipelineTrace.regular_initial : (initial : PipelineTrace Fp).Regular where
  sound := sound_initial
  lineage :=
    { ordered := fun _ _ hedge => by cases hedge.1
      revised := fun _ hchild => by cases hchild }
  accepted := fun h => by cases h

theorem PipelineStep.regular {trace next : PipelineTrace Fp} {op : PipelineOp Fp}
    (h : PipelineStep trace op next) (hop : op.Regular trace.pipeline)
    (hregular : trace.Regular) : next.Regular := by
  have hsound := h.sound hregular.sound
  cases h with
  | failed h => exact PipelineOp.exec_failed h ▸ hregular
  | @answered p h =>
    cases op with
    | freezeWriterPack pack =>
      obtain ⟨-, rfl⟩ := ProductionPipeline.freezeWriterPack_ok h
      refine ⟨hsound, hregular.lineage, fun haccepted => ?_⟩
      cases haccepted
    | recordDraft candidate =>
      obtain ⟨hstate, hparent, -, rfl⟩ := ProductionPipeline.recordDraft_ok h
      refine ⟨hsound, ?_, fun haccepted => by cases haccepted⟩
      have hp := hregular.sound.pipeline
      cases hstate with
      | inl hfrozen =>
        have hempty : trace.pipeline.candidates = [] := hp.fresh (.inr hfrozen)
        have hnone : trace.revised = [] := by
          rw [List.eq_nil_iff_forall_not_mem]
          intro child hchild
          obtain ⟨parent, hedge, -⟩ := hregular.lineage.revised child hchild
          rw [hempty] at hedge
          cases hedge.1
        have hfirst : trace.pipeline.state ≠ .revisionRequired := by simp [hfrozen]
        simp only [PipelineTrace.after, hfirst, if_false, hempty, hnone]
        constructor
        · rintro child parent ⟨hchild, hfound, -⟩
          simp only [CandidateArtifact.insertInto, List.filter_nil, List.nil_append,
            List.mem_singleton] at hchild hfound
          rw [hchild, hfound]
        · intro child hchild
          cases hchild
      | inr hrejection =>
        obtain ⟨rejected, hmem, hcurrent⟩ :=
          hp.current (by simp [hrejection]) (by simp [hrejection])
        obtain ⟨hrevision, hnew⟩ := hop hrejection
        have hnamed := (hparent hrejection).trans hcurrent
        simp only [PipelineTrace.after, hrejection, if_true]
        exact hregular.lineage.insertInto hmem hnamed (hrevision rejected hmem hcurrent)
          hp.distinct hnew
    | beginReview =>
      simp only [PipelineOp.exec, Mutation.bind_ok, Mutation.pure_ok] at h
      obtain ⟨current, _, h, -, rfl⟩ := h
      obtain ⟨-, -, rfl⟩ := ProductionPipeline.beginReview_ok h
      refine ⟨hsound, hregular.lineage, fun haccepted => ?_⟩
      cases haccepted
    | applyReview report =>
      obtain ⟨-, -, rfl⟩ := ProductionPipeline.applyReview_ok h
      refine ⟨hsound, hregular.lineage, fun haccepted => ⟨report, rfl, hop ?_⟩⟩
      cases hdecision : report.decision <;> simp [PipelineTrace.after, hdecision] at haccepted ⊢
    | revise candidateId manuscript =>
      simp only [PipelineOp.exec, Mutation.bind_ok, Mutation.pure_ok] at h
      obtain ⟨candidate, _, h, -, rfl⟩ := h
      obtain rfl := ProductionPipeline.revise_ok h
      exact hregular

/-- Over every run no call but a revision at the end of its counter panics, a failed call changes
nothing and an accepted candidate is bound to an accepting report. Over runs of regular calls
nothing panics, the report has no findings, and the candidates recorded after a rejection form a
chain. -/
theorem pipeline_runs :
    (∀ trace : PipelineTrace Fp,
      ReflTransGen (fun s t => ∃ op, PipelineStep s op t) .initial trace →
      (∀ op p e, PipelineOp.exec op trace.pipeline = .error (.failed e) p → p = trace.pipeline) ∧
      (∀ op p, PipelineOp.exec op trace.pipeline = .error .panicked p →
        (∃ candidateId manuscript, op = .revise candidateId manuscript) ∧
        ∃ candidate ∈ trace.pipeline.candidates, 2 ^ 32 ≤ candidate.revision + 1) ∧
      (trace.pipeline.state = .accepted → ∃ report, trace.lastReport = some report ∧
        report.decision = .accept ∧
        trace.pipeline.currentCandidateFingerprint = some report.candidateFingerprint)) ∧
    ∀ trace : PipelineTrace Fp,
      ReflTransGen (fun s t => ∃ op, PipelineOp.Regular s.pipeline op ∧ PipelineStep s op t)
        .initial trace →
      (∀ op p, PipelineOp.Regular trace.pipeline op →
        PipelineOp.exec op trace.pipeline ≠ .error .panicked p) ∧
      (trace.pipeline.state = .accepted → ∃ report, trace.lastReport = some report ∧
        report.decision = .accept ∧ report.findings = [] ∧
        trace.pipeline.currentCandidateFingerprint = some report.candidateFingerprint) ∧
      ∀ child ∈ trace.revised,
        (∃ parent, ParentOf trace.pipeline.candidates child parent ∧
          child.revision = parent.revision + 1) ∧
        ¬ TransGen (ParentOf trace.pipeline.candidates) child child := by
  constructor
  · intro trace hrun
    have hsound : trace.Sound := invariant_of_step (P := PipelineTrace.Sound)
      (fun _ _ ⟨_, hstep⟩ hs => hstep.sound hs) hrun PipelineTrace.sound_initial
    refine ⟨fun op p e h => PipelineOp.exec_failed h, fun op p h => ?_, hsound.accepted⟩
    obtain ⟨hop, -, candidate, hmem, -, hfull⟩ := PipelineOp.exec_panicked hsound.pipeline h
    exact ⟨hop, candidate, hmem, hfull⟩
  · intro trace hrun
    have hregular : trace.Regular := invariant_of_step (P := PipelineTrace.Regular)
      (fun _ _ ⟨_, hop, hstep⟩ hs => hstep.regular hop hs) hrun PipelineTrace.regular_initial
    refine ⟨fun op p hop h => ?_, fun haccepted => ?_, fun child hchild => ?_⟩
    · obtain ⟨⟨candidateId, manuscript, rfl⟩, hstate, candidate, hmem, hcurrent, hfull⟩ :=
        PipelineOp.exec_panicked hregular.sound.pipeline h
      exact absurd (hop hstate candidate hmem hcurrent) (not_lt.mpr hfull)
    · obtain ⟨report, hlast, hdecision, hbound⟩ := hregular.sound.accepted haccepted
      obtain ⟨other, hother, hfindings⟩ := hregular.accepted haccepted
      have hsame : report = other := by
        rw [hlast, Option.some.injEq] at hother
        exact hother
      exact ⟨report, hlast, hdecision, hsame ▸ hfindings, hbound⟩
    · exact ⟨hregular.lineage.revised child hchild,
        hregular.lineage.not_own_ancestor hregular.sound.pipeline.distinct hchild⟩

end

namespace Sample

/-- The pipeline that a call leaves when it answers. -/
def answeredBy (op : PipelineOp Digest) (p : ProductionPipeline Digest) :
    Option (ProductionPipeline Digest) :=
  match op.exec p with
  | .ok _ q => some q
  | .error _ _ => none

theorem exec_of_answeredBy {op : PipelineOp Digest} {p q : ProductionPipeline Digest}
    (h : answeredBy op p = some q) : op.exec p = .ok () q := by
  rw [answeredBy] at h
  split at h
  · rename_i q' hexec
    rw [hexec, Option.some.inj h]
  · cases h

/-- A candidate of the sample pack. -/
def draftOf (candidateId manuscript : String) (parent : Option Digest) (revision : ℕ) :
    CandidateArtifact Digest where
  schema := "quillframe_candidate_artifact_v1"
  candidateId := candidateId
  chapterId := "CH001"
  writerPackFingerprint := pack.fingerprint
  parentCandidateFingerprint := parent
  revision := revision
  manuscript := manuscript
  fingerprint := Sha256.ofText manuscript

def firstDraft : CandidateArtifact Digest := draftOf "C1" "The pier." none 1

/-- A review of a candidate by one reader. -/
def reviewOf (candidate : CandidateArtifact Digest) (findings : List ReviewFinding)
    (decision : ReviewDecision) : ReviewReport Digest :=
  let body := { soloReview findings decision with candidateFingerprint := candidate.fingerprint }
  { body with fingerprint := body.computeFingerprint }

/-- The pipeline around the review of the first draft. -/
def reviewedPipeline (state : ProductionState) (openFindings : List String) :
    ProductionPipeline Digest where
  state := state
  writerPack := some pack
  candidates := [firstDraft]
  currentCandidateFingerprint := some firstDraft.fingerprint
  openFindings := openFindings

def packedPipeline : ProductionPipeline Digest :=
  { ProductionPipeline.initial with state := .writerPackFrozen, writerPack := some pack }

def revisedDraft : CandidateArtifact Digest :=
  draftOf "C2" "The pier at dusk." (some firstDraft.fingerprint) 2

def revisedPipeline : ProductionPipeline Digest where
  state := .drafted
  writerPack := some pack
  candidates := [firstDraft, revisedDraft]
  currentCandidateFingerprint := some revisedDraft.fingerprint
  openFindings := ["F-001"]

theorem answered :
    answeredBy (.freezeWriterPack pack) .initial = some packedPipeline ∧
    answeredBy (.recordDraft firstDraft) packedPipeline = some (reviewedPipeline .drafted []) ∧
    answeredBy .beginReview (reviewedPipeline .drafted []) =
      some (reviewedPipeline .awaitingReview []) ∧
    answeredBy (.applyReview (reviewOf firstDraft [causalGap] .revise))
      (reviewedPipeline .awaitingReview []) = some (reviewedPipeline .revisionRequired ["F-001"]) ∧
    answeredBy (.recordDraft revisedDraft) (reviewedPipeline .revisionRequired ["F-001"]) =
      some revisedPipeline ∧
    answeredBy (.applyReview (reviewOf firstDraft [causalGap] .accept))
      (reviewedPipeline .awaitingReview []) = some (reviewedPipeline .accepted ["F-001"]) := by
  decide +kernel

theorem exec_freeze : PipelineOp.exec (.freezeWriterPack pack) .initial = .ok () packedPipeline :=
  exec_of_answeredBy answered.1

theorem exec_draft : PipelineOp.exec (.recordDraft firstDraft) packedPipeline =
    .ok () (reviewedPipeline .drafted []) :=
  exec_of_answeredBy answered.2.1

theorem exec_review : PipelineOp.exec .beginReview (reviewedPipeline .drafted []) =
    .ok () (reviewedPipeline .awaitingReview []) :=
  exec_of_answeredBy answered.2.2.1

theorem exec_reject :
    PipelineOp.exec (.applyReview (reviewOf firstDraft [causalGap] .revise))
      (reviewedPipeline .awaitingReview []) =
        .ok () (reviewedPipeline .revisionRequired ["F-001"]) :=
  exec_of_answeredBy answered.2.2.2.1

theorem exec_revision :
    PipelineOp.exec (.recordDraft revisedDraft) (reviewedPipeline .revisionRequired ["F-001"]) =
      .ok () revisedPipeline :=
  exec_of_answeredBy answered.2.2.2.2.1

theorem exec_accept :
    PipelineOp.exec (.applyReview (reviewOf firstDraft [causalGap] .accept))
      (reviewedPipeline .awaitingReview []) =
        .ok () (reviewedPipeline .accepted ["F-001"]) :=
  exec_of_answeredBy answered.2.2.2.2.2

def RegularStep (s t : PipelineTrace Digest) : Prop :=
  ∃ op, PipelineOp.Regular s.pipeline op ∧ PipelineStep s op t

theorem regularStep_of {trace : PipelineTrace Digest} {op : PipelineOp Digest}
    {p : ProductionPipeline Digest} (h : op.exec trace.pipeline = .ok () p)
    (hop : op.Regular trace.pipeline) : RegularStep trace (trace.after p op) :=
  ⟨op, hop, .answered h⟩

def packedTrace : PipelineTrace Digest :=
  PipelineTrace.initial.after packedPipeline (.freezeWriterPack pack)

def draftedTrace : PipelineTrace Digest :=
  packedTrace.after (reviewedPipeline .drafted []) (.recordDraft firstDraft)

/-- A first draft under review. -/
def reviewTrace : PipelineTrace Digest :=
  draftedTrace.after (reviewedPipeline .awaitingReview []) .beginReview

theorem reviewTrace_run : ReflTransGen RegularStep .initial reviewTrace := by
  have hfreeze : RegularStep .initial packedTrace := regularStep_of exec_freeze trivial
  have hdraft : RegularStep packedTrace draftedTrace :=
    regularStep_of exec_draft fun h => by cases h
  have hreview : RegularStep draftedTrace reviewTrace := regularStep_of exec_review trivial
  exact ((ReflTransGen.single hfreeze).tail hdraft).tail hreview

def rejectedTrace : PipelineTrace Digest :=
  reviewTrace.after (reviewedPipeline .revisionRequired ["F-001"])
    (.applyReview (reviewOf firstDraft [causalGap] .revise))

def revisedTrace : PipelineTrace Digest :=
  rejectedTrace.after revisedPipeline (.recordDraft revisedDraft)

theorem revisedTrace_run : ReflTransGen RegularStep .initial revisedTrace := by
  have hreject : RegularStep reviewTrace rejectedTrace :=
    regularStep_of exec_reject fun h => by cases h
  have hrevision : RegularStep rejectedTrace revisedTrace := by
    refine regularStep_of exec_revision fun _ => ⟨fun rejected hmem _ => ?_, fun other hmem => ?_⟩
    · rw [List.mem_singleton.mp hmem]
      rfl
    · rw [List.mem_singleton.mp hmem]
      decide +kernel
  exact (reviewTrace_run.tail hreject).tail hrevision

end Sample

/-- A report that accepts with a finding moves the pipeline to `accepted`. -/
theorem pipeline_accepts_with_findings :
    ¬ ∀ trace : PipelineTrace Digest,
      ReflTransGen (fun s t => ∃ op, PipelineStep s op t) .initial trace →
      trace.pipeline.state = .accepted → ∃ report, trace.lastReport = some report ∧
        report.decision = .accept ∧ report.findings = [] ∧
        trace.pipeline.currentCandidateFingerprint = some report.candidateFingerprint := by
  intro hall
  have hstep : ∀ s t, Sample.RegularStep s t → ∃ op, PipelineStep s op t :=
    fun _ _ ⟨op, _, hstep⟩ => ⟨op, hstep⟩
  have hreview := ReflTransGen.mono hstep _ _ Sample.reviewTrace_run
  have hrun := hreview.tail ⟨_, .answered Sample.exec_accept⟩
  obtain ⟨report, hlast, -, hfindings, -⟩ := hall _ hrun rfl
  rw [← Option.some.inj hlast] at hfindings
  cases hfindings

theorem pipeline_runs_sample :
    (∃ parent, ParentOf Sample.revisedPipeline.candidates Sample.revisedDraft parent ∧
      Sample.revisedDraft.revision = parent.revision + 1) ∧
    ¬ TransGen (ParentOf Sample.revisedPipeline.candidates) Sample.revisedDraft
      Sample.revisedDraft :=
  (pipeline_runs.2 _ Sample.revisedTrace_run).2.2 Sample.revisedDraft (List.mem_singleton_self _)

end Quillframe
