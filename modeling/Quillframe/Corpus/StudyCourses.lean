import Quillframe.Corpus.Studies

/-!
# Commits of the studies

Every commit of a call on the studies is a step of the course of one study, and the courses of the
others stay. What holds of the courses therefore holds of the tables between any two commits, and
every confirmed call has its artifact.
-/
namespace Quillframe.Corpus

open Prompt (JsonMap)

variable {Fp : Type}

/-- What a dispatch may go on to do. -/
def DispatchPlan.Due (c : Course) (studyId : String) : DispatchPlan Fp → Prop
  | .nothing => True
  | .advance stage => stage ≠ .chapterExtraction ∧ c.stage = some stage ∧
    (∀ u ∈ c.units stage, c.Has stage u .confirmed) ∧
    ((stage = .goldenThree ∧ c.status = some .confirmed) ∨
      (.goldenThree < stage ∧ c.status = some .running))
  | .send call _ => call.studyId = studyId ∧ call.state = .dispatched ∧
    Course.Step c (c.dispatch call.stageKey call.unitKey)

namespace StudyTables

/-- The course of a study. -/
def course (tables : StudyTables Fp) (studyId : String) : Course where
  status := (tables.proposal? studyId).map (·.status)
  works := ((tables.proposal? studyId).map fun row => row.selection.map (·.workId)).getD []
  stage := (tables.study? studyId).map (·.currentStage)
  queue := ((tables.study? studyId).map fun row => extractionQueue row.progress).getD []
  calls := (tables.calls.filter fun call => call.studyId = studyId).map fun call =>
    ⟨call.stageKey, call.unitKey, call.state⟩
  authorized := tables.authorizations.any fun row => row.studyId = studyId
  packed := tables.packs.any fun row => row.studyId = studyId

/-- An artifact keeps the answer of a call and names the evidence that the call was sent with. -/
structure Answers [Sha256 Fp] (artifact : StageArtifact Fp) (call : StageCall Fp) : Prop where
  studyId : artifact.studyId = call.studyId
  stageKey : artifact.stageKey = call.stageKey
  unitKey : artifact.unitKey = call.unitKey
  payload : ∃ result, call.result = some result ∧ artifact.payload = result.content ∧
    call.requestId = result.requestId
  artifactFingerprint : artifact.artifactFingerprint = Sha256.ofText artifact.payload
  evidence : call.job.evidence ≠ [] ∧ artifact.evidenceBundleFingerprint =
    Sha256.ofJson (.arr (call.job.evidence.map EvidenceAnchor.toJson))

/-- Every confirmed call has one artifact, and there are no other artifacts. -/
structure Recorded [Sha256 Fp] (tables : StudyTables Fp) : Prop where
  distinct : (tables.artifacts.map fun row => (row.studyId, row.stageKey, row.unitKey)).Nodup
  answered : ∀ call ∈ tables.calls, call.state = .confirmed →
    ∃ artifact ∈ tables.artifacts, Answers artifact call
  confirmed : ∀ artifact ∈ tables.artifacts,
    ∃ call ∈ tables.calls, call.state = .confirmed ∧ Answers artifact call

/-- What holds of the tables between two commits. -/
structure Kept [Sha256 Fp] (tables : StudyTables Fp) : Prop where
  versions : tables.scans.versions.Pairwise VersionRow.Apart
  proposals : (tables.proposals.map (·.studyId)).Nodup
  studies : (tables.studies.map (·.studyId)).Nodup
  calls : (tables.calls.map (·.callId)).Nodup
  recorded : tables.Recorded
  courses : ∀ studyId, (tables.course studyId).Sound

/-- A commit: a study takes a step, or none, and the others stay as they are. -/
structure Next [Sha256 Fp] (studyId : String) (tables tables' : StudyTables Fp) : Prop where
  kept : tables'.Kept
  others : ∀ other, other ≠ studyId → tables'.course other = tables.course other
  step : tables'.course studyId = tables.course studyId ∨
    Course.Step (tables.course studyId) (tables'.course studyId)

/-! ## Updates of the two rows of a study -/

section Updates

variable {tables : StudyTables Fp} {studyId : String}
  {f : SelectionProposal Fp → SelectionProposal Fp} {g : Study Fp → Study Fp}

theorem proposal?_updateProposal (hf : ∀ row, (f row).studyId = row.studyId) (other : String) :
    (tables.updateProposal studyId f).proposal? other =
      if other = studyId then (tables.proposal? other).map f else tables.proposal? other := by
  rw [proposal?, updateProposal, Table.lookup_updateWhere _ _ hf, proposal?]
  cases hrow : Table.lookup (·.studyId) other tables.proposals with
  | none => simp
  | some row =>
    have hkey := Table.lookup_key hrow
    by_cases hid : other = studyId <;> simp [hkey, hid]

theorem study?_updateStudy (hg : ∀ row, (g row).studyId = row.studyId) (other : String) :
    (tables.updateStudy studyId g).study? other =
      if other = studyId then (tables.study? other).map g else tables.study? other := by
  rw [study?, updateStudy, Table.lookup_updateWhere _ _ hg, study?]
  cases hrow : Table.lookup (·.studyId) other tables.studies with
  | none => simp
  | some row =>
    have hkey := Table.lookup_key hrow
    by_cases hid : other = studyId <;> simp [hkey, hid]

/-- The row of a proposal moves on, its selection apart. -/
theorem course_updateProposal (hf : ∀ row, (f row).studyId = row.studyId)
    (hselection : ∀ row, (f row).selection = row.selection) (other : String) :
    (tables.updateProposal studyId f).course other =
      if other = studyId then
        { tables.course other with
          status := (tables.proposal? other).map fun row => (f row).status }
      else tables.course other := by
  have hproposal := @proposal?_updateProposal _ tables studyId f hf other
  by_cases hid : other = studyId
  · rw [if_pos hid] at hproposal ⊢
    simp only [course, hproposal, Option.map_map, Function.comp_def, hselection]
    rfl
  · rw [if_neg hid] at hproposal ⊢
    simp only [course, hproposal]
    rfl

theorem course_setStatus {status : StudyStatus} {updatedAt : String} (other : String) :
    (tables.setStatus studyId status updatedAt).course other =
      if other = studyId then
        { tables.course other with status := (tables.proposal? other).map fun _ => status }
      else tables.course other := by
  rw [setStatus, course_updateProposal]
  · exact fun _ => rfl
  · exact fun _ => rfl

theorem course_updateStudy_row (hg : ∀ row, (g row).studyId = row.studyId) (other : String) :
    (tables.updateStudy studyId g).course other =
      if other = studyId then
        { tables.course other with
          stage := (tables.study? other).map fun row => (g row).currentStage
          queue := ((tables.study? other).map fun row => extractionQueue (g row).progress).getD [] }
      else tables.course other := by
  have hstudy := @study?_updateStudy _ tables studyId g hg other
  by_cases hid : other = studyId
  · rw [if_pos hid] at hstudy ⊢
    simp only [course, hstudy, Option.map_map]
    rfl
  · rw [if_neg hid] at hstudy ⊢
    simp only [course, hstudy]
    rfl

/-- The row of a study moves on, its progress apart. -/
theorem course_updateStudy (hg : ∀ row, (g row).studyId = row.studyId)
    (hprogress : ∀ row, (g row).progress = row.progress) (other : String) :
    (tables.updateStudy studyId g).course other =
      if other = studyId then
        { tables.course other with
          stage := (tables.study? other).map fun row => (g row).currentStage }
      else tables.course other := by
  rw [course_updateStudy_row hg]
  simp only [hprogress]
  rfl

theorem course_updateStudy_same (hg : ∀ row, (g row).studyId = row.studyId)
    (hprogress : ∀ row, (g row).progress = row.progress)
    (hstage : ∀ row, (g row).currentStage = row.currentStage) (other : String) :
    (tables.updateStudy studyId g).course other = tables.course other := by
  rw [course_updateStudy hg hprogress]
  simp only [hstage]
  by_cases hid : other = studyId
  · rw [if_pos hid]
    rfl
  · rw [if_neg hid]

theorem course_moveTo {stage : AnalyzeStage} {checkpoint : Fp} {updatedAt : String}
    (other : String) :
    (tables.moveTo studyId stage checkpoint updatedAt).course other =
      if other = studyId then
        { tables.course other with stage := (tables.study? other).map fun _ => stage }
      else tables.course other := by
  rw [moveTo, course_updateStudy]
  · exact fun _ => rfl
  · exact fun _ => rfl

theorem course_addPack (row : PackCandidate Fp) (other : String) :
    ({ tables with packs := tables.packs ++ [row] } : StudyTables Fp).course other =
      { tables.course other with
        packed := (tables.course other).packed || decide (row.studyId = other) } := by
  simp only [course, List.any_append, List.any_cons, List.any_nil, Bool.or_false]
  rfl

theorem course_addAuthorization (row : ContinueAuthorization Fp) (other : String) :
    ({ tables with authorizations := tables.authorizations ++ [row] } : StudyTables Fp).course
        other =
      { tables.course other with
        authorized := (tables.course other).authorized || decide (row.studyId = other) } := by
  simp only [course, List.any_append, List.any_cons, List.any_nil, Bool.or_false]
  rfl

/-- A study has its proposal. -/
theorem exists_proposal (h : (tables.course studyId).Sound)
    {stage : AnalyzeStage} (hstage : (tables.course studyId).stage = some stage) :
    ∃ row, tables.proposal? studyId = some row := by
  have hstatus : (tables.course studyId).status = (tables.proposal? studyId).map (·.status) := rfl
  cases hrow : tables.proposal? studyId with
  | some row => exact ⟨row, rfl⟩
  | none =>
    rw [hrow, Option.map_none] at hstatus
    by_cases hgolden : stage = .goldenThree
    · have hphase := (h.phased.previewing (hgolden ▸ hstage)).2
      simp [hstatus] at hphase
    · have hphase := (h.phased.continued stage hstage hgolden).2.2
      simp [hstatus] at hphase

section Inserts

variable {added : StudyTables Fp}

theorem insertCall_eq_ok {row : StageCall Fp} : tables.insertCall row = .ok added ↔
    (tables.study? row.studyId).isSome ∧
      (∀ other ∈ tables.calls, other.callId ≠ row.callId) ∧
      (∀ other ∈ tables.calls, other.requestId ≠ row.requestId) ∧
      (∀ other ∈ tables.calls, ¬ (other.studyId = row.studyId ∧
        other.stageKey = row.stageKey ∧ other.unitKey = row.unitKey)) ∧
      { tables with calls := tables.calls ++ [row] } = added := by
  simp only [insertCall, requireStudy, bind_eq_ok, require_eq_ok, exists_const, pure_eq_ok]

theorem insertArtifact_eq_ok {row : StageArtifact Fp} : tables.insertArtifact row = .ok added ↔
    (tables.study? row.studyId).isSome ∧
      (∀ other ∈ tables.artifacts, other.artifactId ≠ row.artifactId) ∧
      (∀ other ∈ tables.artifacts, ¬ (other.studyId = row.studyId ∧
        other.stageKey = row.stageKey ∧ other.unitKey = row.unitKey)) ∧
      { tables with artifacts := tables.artifacts ++ [row] } = added := by
  simp only [insertArtifact, requireStudy, bind_eq_ok, require_eq_ok, exists_const, pure_eq_ok]

variable [DecidableEq Fp]

theorem insertPack_eq_ok {row : PackCandidate Fp} : tables.insertPack row = .ok added ↔
    (tables.study? row.studyId).isSome ∧
      (∀ other ∈ tables.packs, other.pack.fingerprint ≠ row.pack.fingerprint) ∧
      (∀ other ∈ tables.packs, other.studyId ≠ row.studyId) ∧
      { tables with packs := tables.packs ++ [row] } = added := by
  simp only [insertPack, requireStudy, bind_eq_ok, require_eq_ok, exists_const, pure_eq_ok]

theorem insertAuthorization_eq_ok {row : ContinueAuthorization Fp} :
    tables.insertAuthorization row = .ok added ↔
      (tables.study? row.studyId).isSome ∧
        (∀ other ∈ tables.authorizations, other.authorizationId ≠ row.authorizationId) ∧
        (∀ other ∈ tables.authorizations, other.studyId ≠ row.studyId) ∧
        (∀ other ∈ tables.authorizations,
          other.authorizationFingerprint ≠ row.authorizationFingerprint) ∧
        { tables with authorizations := tables.authorizations ++ [row] } = added := by
  simp only [insertAuthorization, requireStudy, bind_eq_ok, require_eq_ok, exists_const, pure_eq_ok]

end Inserts

end Updates

section Next

variable [Sha256 Fp] {tables tables' : StudyTables Fp} {studyId : String}

theorem kept_empty : (empty : StudyTables Fp).Kept where
  versions := List.Pairwise.nil
  proposals := List.nodup_nil
  studies := List.nodup_nil
  calls := List.nodup_nil
  recorded := by
    constructor
    · exact List.nodup_nil
    · intro call hcall
      cases hcall
    · intro artifact hartifact
      cases hartifact
  courses _ := Course.sound_unknown

/-- A commit that one study takes a step with. -/
theorem Kept.next (h : tables.Kept) (studyId : String)
    (hversions : tables'.scans.versions.Pairwise VersionRow.Apart)
    (hproposals : (tables'.proposals.map (·.studyId)).Nodup)
    (hstudies : (tables'.studies.map (·.studyId)).Nodup)
    (hcalls : (tables'.calls.map (·.callId)).Nodup) (hrecorded : tables'.Recorded)
    (hother : ∀ other, other ≠ studyId → tables'.course other = tables.course other)
    (hstep : tables'.course studyId = tables.course studyId ∨
      Course.Step (tables.course studyId) (tables'.course studyId)) :
    Next studyId tables tables' := by
  refine ⟨⟨hversions, hproposals, hstudies, hcalls, hrecorded, ?_⟩, hother, hstep⟩
  intro other
  by_cases hid : other = studyId
  · rw [hid]
    rcases hstep with hsame | hstep
    · rw [hsame]
      exact h.courses studyId
    · exact (h.courses studyId).step hstep
  · rw [hother other hid]
    exact h.courses other

/-- A commit that leaves the calls and their artifacts alone. -/
theorem Kept.moved (h : tables.Kept) (studyId : String) (hscans : tables'.scans = tables.scans)
    (hproposals : (tables'.proposals.map (·.studyId)).Nodup)
    (hstudies : (tables'.studies.map (·.studyId)).Nodup) (hcalls : tables'.calls = tables.calls)
    (hartifacts : tables'.artifacts = tables.artifacts)
    (hother : ∀ other, other ≠ studyId → tables'.course other = tables.course other)
    (hstep : tables'.course studyId = tables.course studyId ∨
      Course.Step (tables.course studyId) (tables'.course studyId)) :
    Next studyId tables tables' := by
  refine h.next studyId ?_ hproposals hstudies ?_ ?_ hother hstep
  · rw [hscans]
    exact h.versions
  · rw [hcalls]
    exact h.calls
  · constructor
    · rw [hartifacts]
      exact h.recorded.distinct
    · rw [hartifacts, hcalls]
      exact h.recorded.answered
    · rw [hartifacts, hcalls]
      exact h.recorded.confirmed

/-! ### Advancing -/

section Advance

variable {g : Study Fp → Study Fp}

theorem nodup_updateProposal {f : SelectionProposal Fp → SelectionProposal Fp} (h : tables.Kept)
    (hf : ∀ row, (f row).studyId = row.studyId) :
    ((tables.updateProposal studyId f).proposals.map (·.studyId)).Nodup :=
  Table.nodup_updateWhere hf h.proposals

theorem nodup_updateStudy (h : tables.Kept) (hg : ∀ row, (g row).studyId = row.studyId) :
    ((tables.updateStudy studyId g).studies.map (·.studyId)).Nodup :=
  Table.nodup_updateWhere hg h.studies

theorem Kept.setStatus {status : StudyStatus} {updatedAt : String} (h : tables.Kept)
    (hstep : ∀ old, (tables.course studyId).status = some old →
      Course.Step (tables.course studyId) { tables.course studyId with status := some status }) :
    Next studyId tables (tables.setStatus studyId status updatedAt) := by
  have hstatus : (tables.course studyId).status = (tables.proposal? studyId).map (·.status) := rfl
  refine h.moved studyId rfl (nodup_updateProposal h fun _ => rfl) h.studies rfl rfl
    ?_ ?_
  · intro other hid
    rw [course_setStatus, if_neg hid]
  · rw [course_setStatus, if_pos rfl]
    cases hrow : tables.proposal? studyId with
    | none =>
      rw [hrow, Option.map_none] at hstatus
      exact .inl (by rw [Option.map_none, ← hstatus])
    | some row =>
      rw [hrow] at hstatus
      exact .inr (hstep row.status hstatus)

/-- A study goes on to another stage. -/
theorem Kept.moveTo {stage : AnalyzeStage} {checkpoint : Fp} {updatedAt : String}
    (h : tables.Kept)
    (hstep : ∀ old, (tables.course studyId).stage = some old →
      Course.Step (tables.course studyId) { tables.course studyId with stage := some stage }) :
    Next studyId tables (tables.moveTo studyId stage checkpoint updatedAt) := by
  have hcourse : (tables.course studyId).stage = (tables.study? studyId).map (·.currentStage) := rfl
  refine h.moved studyId rfl h.proposals (nodup_updateStudy h fun _ => rfl) rfl rfl ?_ ?_
  · intro other hid
    rw [course_moveTo, if_neg hid]
  · rw [course_moveTo, if_pos rfl]
    cases hrow : tables.study? studyId with
    | none =>
      rw [hrow, Option.map_none] at hcourse
      exact .inl (by rw [Option.map_none, ← hcourse])
    | some row =>
      rw [hrow] at hcourse
      exact .inr (hstep row.currentStage hcourse)

theorem Kept.paused {updatedAt : String} (h : tables.Kept)
    (hg : ∀ row, (g row).studyId = row.studyId) (hprogress : ∀ row, (g row).progress = row.progress)
    (hstage : ∀ row, (g row).currentStage = row.currentStage)
    (hopen : (tables.course studyId).status = some .confirmed)
    (hdone : (tables.course studyId).works.length ≤
      (tables.course studyId).confirmedCount .goldenThree) :
    Next studyId tables
      ((tables.updateStudy studyId g).setStatus studyId .pausedGoldenThree updatedAt) := by
  have hsame := @course_updateStudy_same _ tables studyId g hg hprogress hstage
  have hupdated : Next studyId tables (tables.updateStudy studyId g) :=
    h.moved studyId rfl h.proposals (nodup_updateStudy h hg) rfl rfl
      (fun other _ => hsame other) (.inl (hsame studyId))
  have hpaused : Next studyId (tables.updateStudy studyId g)
      ((tables.updateStudy studyId g).setStatus studyId .pausedGoldenThree updatedAt) := by
    apply hupdated.kept.setStatus
    intro _ _
    rw [hsame]
    exact .paused hopen hdone
  refine ⟨hpaused.kept, ?_, ?_⟩
  · intro other hid
    rw [hpaused.others other hid, hsame]
  · have hstep := hpaused.step
    rwa [hsame] at hstep

theorem Kept.finished [DecidableEq Fp] {row : PackCandidate Fp} {createdAt : String}
    (h : tables.Kept) (hrow : row.studyId = studyId)
    (hstage : (tables.course studyId).stage = some .styleProfile)
    (hdone : (tables.course studyId).Done .styleProfile)
    (hbody : (do
      let tables ← tables.insertPack row
      return tables.setStatus studyId .complete createdAt : CoreResult (StudyTables Fp)) =
        .ok tables') : Next studyId tables tables' := by
  obtain ⟨added, hadded, hfinal⟩ := bind_eq_ok.mp hbody
  obtain ⟨-, -, -, hpacks⟩ := insertPack_eq_ok.mp hadded
  rw [pure_eq_ok] at hfinal
  subst hpacks hfinal
  obtain ⟨proposal, hproposal⟩ := exists_proposal (h.courses studyId) hstage
  refine h.moved studyId rfl (Table.nodup_updateWhere (fun _ => rfl) h.proposals) h.studies rfl rfl
    ?_ ?_
  · intro other hid
    rw [course_setStatus, if_neg hid, course_addPack, hrow]
    simp [Ne.symm hid]
  · refine .inr ?_
    have hcourse : (({ tables with packs := tables.packs ++ [row] } : StudyTables Fp).setStatus
        studyId .complete createdAt).course studyId =
        { tables.course studyId with status := some .complete, packed := true } := by
      rw [course_setStatus, if_pos rfl, course_addPack, hrow]
      have hsame : ({ tables with packs := tables.packs ++ [row] } : StudyTables Fp).proposal?
          studyId = some proposal := hproposal
      simp [hsame]
    rw [hcourse]
    exact .finished hstage hdone

variable {json : StudyJson Fp} {stage : AnalyzeStage} {updatedAt : String}

theorem buildPack_studyId {row : PackCandidate Fp}
    (h : tables.buildPack json studyId updatedAt = .ok row) : row.studyId = studyId := by
  simp only [buildPack, bind_eq_ok, pure_eq_ok] at h
  obtain ⟨_, -, _, -, _, -, _, -, _, -, rfl⟩ := h
  rfl

variable [DecidableEq Fp]

open Commits in
/-- A study that is through with a stage goes on. -/
theorem Kept.advanceStage (h : tables.Kept)
    (hgolden : stage = .goldenThree → (tables.course studyId).status = some .confirmed ∧
      (tables.course studyId).works.length ≤ (tables.course studyId).confirmedCount .goldenThree)
    (hlater : stage ≠ .goldenThree → (tables.course studyId).stage = some stage ∧
      .goldenThree < stage ∧ (tables.course studyId).Done stage ∧
      (tables.course studyId).status ≠ some .complete) :
    Holds (Next studyId) (advanceStage json studyId stage updatedAt) tables fun _ _ => True := by
  unfold Corpus.advanceStage
  by_cases hs : stage = .goldenThree
  · rw [if_pos hs]
    obtain ⟨hopen, hdone⟩ := hgolden hs
    apply Holds.commit
    intro t ht
    cases ht
    exact ⟨h.paused (fun _ => rfl) (fun _ => rfl) (fun _ => rfl) hopen hdone, trivial⟩
  · rw [if_neg hs]
    obtain ⟨hstage, hlt, hdone, hopen⟩ := hlater hs
    cases hnext : stage.next with
    | some next =>
      apply Holds.commit_bind
      intro t ht
      cases ht
      have hentered : Next studyId tables (tables.moveTo studyId next
          (checkpointFor studyId next.name (.str updatedAt)) updatedAt) :=
        h.moveTo fun _ _ => .entered hopen hstage hlt hnext hdone
      refine ⟨hentered, ?_⟩
      apply Holds.commit
      intro t ht
      cases ht
      refine ⟨hentered.kept.setStatus ?_, trivial⟩
      intro _ _
      have hlate : .chapterExtraction < next := by
        rw [AnalyzeStage.lt_iff] at hlt ⊢
        rw [AnalyzeStage.ordinal_next hnext]
        exact Nat.lt_succ_of_le hlt
      obtain ⟨row, hrow, -⟩ := Option.map_eq_some_iff.mp hstage
      have hnow := @course_moveTo _ tables studyId next
        (checkpointFor studyId next.name (.str updatedAt)) updatedAt studyId
      rw [if_pos rfl, hrow, Option.map_some] at hnow
      rw [hnow]
      exact .resumed hopen rfl hlate
    | none =>
      have hstyle : stage = .styleProfile := by
        cases stage <;> simp_all [AnalyzeStage.next]
      subst hstyle
      apply Holds.read_bind
      intro row hrow
      apply Holds.commit
      intro t ht
      have hstudy := buildPack_studyId (raise_eq_ok.mp hrow)
      exact ⟨h.finished hstudy hstage hdone (raise_eq_ok.mp ht), trivial⟩

end Advance

/-! ### Selecting -/

section Select

variable [DecidableEq Fp]

theorem Kept.insertProposal {row : SelectionProposal Fp} (h : tables.Kept)
    (hstatus : row.status = .proposed) (hworks : (row.selection.map (·.workId)).Nodup)
    (hbody : tables.insertProposal row = .ok tables') : Next row.studyId tables tables' ∧
      ((tables.course row.studyId).status ≠ none →
        tables'.course row.studyId = tables.course row.studyId) := by
  rw [StudyTables.insertProposal] at hbody
  cases hrow : tables.proposal? row.studyId with
  | some stored =>
    rw [hrow, Option.isSome_some, if_pos rfl, Except.ok.injEq] at hbody
    subst hbody
    exact ⟨⟨h, fun _ _ => rfl, .inl rfl⟩, fun _ => rfl⟩
  | none =>
    rw [hrow, Option.isSome_none, if_neg (by decide)] at hbody
    obtain ⟨-, -, hbody⟩ := bind_eq_ok.mp hbody
    rw [pure_eq_ok] at hbody
    subst hbody
    have hlookup : ∀ other, ({ tables with proposals := tables.proposals ++ [row] } :
        StudyTables Fp).proposal? other =
          (tables.proposal? other).or (if row.studyId = other then some row else none) :=
      fun other => Table.lookup_append_singleton _ other _ row
    have hnew : (tables.course row.studyId).status = none := by
      simp only [course, hrow, Option.map_none]
    refine ⟨?_, fun hknown => absurd hnew hknown⟩
    refine h.moved row.studyId rfl ?_ h.studies rfl rfl ?_ ?_
    · exact Table.nodup_append_singleton h.proposals (Table.lookup_eq_none.mp hrow)
    · intro other hid
      simp only [course, hlookup, if_neg (Ne.symm hid), Option.or_none]
      rfl
    · have hcourse : ({ tables with proposals := tables.proposals ++ [row] } :
          StudyTables Fp).course row.studyId =
            { tables.course row.studyId with
              status := some .proposed, works := row.selection.map (·.workId) } := by
        simp only [course, hlookup, hrow, if_true, Option.none_or, Option.map_some,
          Option.getD_some, hstatus]
        rfl
      rw [hcourse]
      exact .inr (.proposed hnew hworks)

omit [Sha256 Fp] [DecidableEq Fp] in
theorem extractionQueue_of_get?_eq_none {progress : JsonMap Fp}
    (h : progress.get? "chapter_extraction_queue" = none) : extractionQueue progress = [] := by
  rw [extractionQueue, h]
  rfl

theorem checkSelection_eq_ok {workIds : List String} {fingerprint : Fp} {profile : String}
    {selection : ConfirmedSelection Fp}
    (h : tables.checkSelection studyId workIds fingerprint profile = .ok selection) :
    ∃ stored, tables.proposal? studyId = some stored ∧
      (stored.status = .proposed ∨ stored.status = .confirmed) ∧
      selection.confirmed = stored.selection.filter (fun item => item.workId ∈ workIds) ∧
      extractionQueue selection.progress = [] := by
  simp only [checkSelection, bind_eq_ok, require_eq_ok, fetch_eq_ok, pure_eq_ok,
    exists_const] at h
  obtain ⟨-, stored, hstored, hopen, -, rfl⟩ := h
  refine ⟨stored, hstored, ?_, rfl, extractionQueue_of_get?_eq_none ?_⟩
  · tauto
  · have hselected : "chapter_extraction_queue" ≠ "selected_work_ids" := by decide
    have hcompleted : "chapter_extraction_queue" ≠ "completed_stages" := by decide
    change (((OrderedMap.empty.insert _ _).insert _ _).get? "chapter_extraction_queue") = none
    rw [OrderedMap.get?_insert_of_ne _ hselected, OrderedMap.get?_insert_of_ne _ hcompleted]
    rfl

omit [Sha256 Fp] [DecidableEq Fp] in
theorem study?_insertStudy (row : Study Fp) (other : String) :
    (tables.insertStudy row).study? other =
      (tables.study? other).or (if row.studyId = other then some row else none) := by
  rw [insertStudy]
  by_cases hsome : (tables.study? row.studyId).isSome
  · rw [if_pos hsome]
    by_cases hid : row.studyId = other
    · rw [hid] at hsome
      rw [Option.or_of_isSome hsome]
    · rw [if_neg hid, Option.or_none]
  · rw [if_neg hsome]
    exact Table.lookup_append_singleton _ other _ row

omit [Sha256 Fp] [DecidableEq Fp] in
theorem nodup_insertStudy (h : (tables.studies.map (·.studyId)).Nodup) (row : Study Fp) :
    ((tables.insertStudy row).studies.map (·.studyId)).Nodup := by
  rw [insertStudy]
  split_ifs with hsome
  · exact h
  · rw [Bool.not_eq_true, Option.isSome_eq_false_iff, Option.isNone_iff_eq_none] at hsome
    exact Table.nodup_append_singleton h (Table.lookup_eq_none.mp hsome)

omit [Sha256 Fp] [DecidableEq Fp] in
/-- Only the studies change. -/
theorem insertStudy_eq (row : Study Fp) :
    tables.insertStudy row = { tables with studies := (tables.insertStudy row).studies } := by
  rw [insertStudy]
  split_ifs <;> rfl

omit [Sha256 Fp] [DecidableEq Fp] in
theorem indexed_studyId (createdAt : String) (row : Study Fp) :
    (row.indexed createdAt).studyId = row.studyId := by
  rw [Study.indexed]
  split_ifs <;> rfl

omit [Sha256 Fp] [DecidableEq Fp] in
theorem indexed_progress (createdAt : String) (row : Study Fp) :
    (row.indexed createdAt).progress = row.progress := by
  rw [Study.indexed]
  split_ifs <;> rfl

theorem Kept.storeSelection {workIds : List String} {fingerprint : Fp}
    {profile createdAt : String} {selection : ConfirmedSelection Fp} (h : tables.Kept)
    (hselection : tables.checkSelection studyId workIds fingerprint profile = .ok selection) :
    Next studyId tables (tables.storeSelection studyId selection createdAt) := by
  obtain ⟨stored, hstored, hopen, hconfirmed, hqueue⟩ := checkSelection_eq_ok hselection
  set row : Study Fp :=
    { studyId, currentStage := .boundaryIndex, checkpointFingerprint := selection.checkpoint
      progress := selection.progress, cancelRequested := false, createdAt
      updatedAt := createdAt } with hrow
  set chosen := tables.updateProposal studyId fun row =>
    { row with selection := selection.confirmed, status := .confirmed, updatedAt := createdAt }
    with hchosen
  have hresult : tables.storeSelection studyId selection createdAt =
      { chosen with studies := ((chosen.insertStudy row).updateStudy studyId
        (Study.indexed createdAt)).studies } := by
    rw [StudyTables.storeSelection, updateStudy, insertStudy_eq]
  have hproposal : ∀ other, chosen.proposal? other =
      if other = studyId then (tables.proposal? other).map fun row =>
        { row with selection := selection.confirmed, status := .confirmed, updatedAt := createdAt }
      else tables.proposal? other := proposal?_updateProposal fun _ => rfl
  have hstudy : ∀ other, ((chosen.insertStudy row).updateStudy studyId
      (Study.indexed createdAt)).study? other =
        if other = studyId then ((tables.study? other).or (some row)).map (Study.indexed createdAt)
        else tables.study? other := by
    intro other
    rw [study?_updateStudy (indexed_studyId createdAt), study?_insertStudy]
    by_cases hid : other = studyId
    · rw [if_pos hid, if_pos hid, if_pos hid.symm]
      rfl
    · rw [if_neg hid, if_neg hid, if_neg (Ne.symm hid), Option.or_none]
      rfl
  have hcourse : ∀ other, (tables.storeSelection studyId selection createdAt).course other =
      { tables.course other with
        status := (chosen.proposal? other).map (·.status)
        works := ((chosen.proposal? other).map fun row => row.selection.map (·.workId)).getD []
        stage := (((chosen.insertStudy row).updateStudy studyId
          (Study.indexed createdAt)).study? other).map (·.currentStage)
        queue := ((((chosen.insertStudy row).updateStudy studyId
          (Study.indexed createdAt)).study? other).map fun row =>
            extractionQueue row.progress).getD [] } := by
    intro other
    rw [hresult]
    rfl
  rw [hresult] at hcourse ⊢
  refine h.moved studyId rfl (nodup_updateProposal h fun _ => rfl) ?_ rfl rfl ?_ ?_
  · have hchosenStudies : (chosen.studies.map (·.studyId)).Nodup := h.studies
    exact Table.nodup_updateWhere (indexed_studyId createdAt)
      (nodup_insertStudy hchosenStudies row)
  · intro other hid
    rw [hcourse, hproposal, hstudy, if_neg hid, if_neg hid]
    rfl
  · refine .inr ?_
    rw [hcourse, hproposal, hstudy, if_pos rfl, if_pos rfl, hstored]
    have hstatus : (tables.course studyId).status = some .proposed ∨
        (tables.course studyId).status = some .confirmed := by
      have hsame : (tables.course studyId).status = some stored.status := by
        simp only [course, hstored, Option.map_some]
      rcases hopen with ho | ho
      · exact .inl (hsame.trans (congrArg some ho))
      · exact .inr (hsame.trans (congrArg some ho))
    have hworks : (selection.confirmed.map (·.workId)).Sublist (tables.course studyId).works := by
      simp only [course, hstored, Option.map_some, Option.getD_some, hconfirmed]
      exact List.filter_sublist.map _
    have hstep := Course.Step.selected hstatus hworks
    have hnext : (((tables.study? studyId).or (some row)).map (Study.indexed createdAt)).map
          (·.currentStage) = some ((tables.course studyId).stage.getD .goldenThree) ∧
        ((((tables.study? studyId).or (some row)).map (Study.indexed createdAt)).map fun row =>
          extractionQueue row.progress).getD [] = (tables.course studyId).queue := by
      cases hstored : tables.study? studyId with
      | none =>
        simp only [course, hstored, Option.none_or, Option.map_some, Option.map_none,
          Option.getD_none, Option.getD_some, indexed_progress]
        exact ⟨rfl, hqueue⟩
      | some study =>
        have hstage : (tables.course studyId).stage = some study.currentStage := by
          simp only [course, hstored, Option.map_some]
        have hindexed : study.indexed createdAt = study := by
          rw [Study.indexed, if_neg]
          intro hboundary
          have hlt :=
            ((h.courses studyId).phased.continued _ hstage (by rw [hboundary]; decide)).2.1
          rw [hboundary] at hlt
          exact absurd hlt (by decide)
        rw [Option.some_or, Option.map_some, hindexed, hstage]
        refine ⟨rfl, ?_⟩
        simp only [course, hstored]
    rw [hnext.1, hnext.2]
    exact hstep

end Select

/-! ### Calls -/

section Calls

omit [Sha256 Fp] in
theorem mem_course_calls {call : CourseCall} : call ∈ (tables.course studyId).calls ↔
    ∃ row ∈ tables.calls, row.studyId = studyId ∧
      call = ⟨row.stageKey, row.unitKey, row.state⟩ := by
  simp only [course, List.mem_map, List.mem_filter, decide_eq_true_eq]
  constructor
  · intro h
    obtain ⟨row, ⟨hrow, hid⟩, hcall⟩ := h
    exact ⟨row, hrow, hid, hcall.symm⟩
  · intro h
    obtain ⟨row, hrow, hid, hcall⟩ := h
    exact ⟨row, ⟨hrow, hid⟩, hcall.symm⟩

omit [Sha256 Fp] in
theorem has_course {s : AnalyzeStage} {u : String} {state : StageCallState} :
    (tables.course studyId).Has s u state ↔ ∃ row ∈ tables.calls, row.studyId = studyId ∧
      row.stageKey = s ∧ row.unitKey = u ∧ row.state = state := by
  rw [Course.Has, mem_course_calls]
  constructor
  · intro h
    obtain ⟨row, hrow, hid, hcall⟩ := h
    cases hcall
    exact ⟨row, hrow, hid, rfl, rfl, rfl⟩
  · intro h
    obtain ⟨row, hrow, hid, rfl, rfl, rfl⟩ := h
    exact ⟨row, hrow, hid, rfl⟩

/-- Two calls of one unit are one call. -/
theorem Kept.call_unique (h : tables.Kept) {first second : StageCall Fp}
    (hfirst : first ∈ tables.calls) (hsecond : second ∈ tables.calls)
    (hstudy : first.studyId = second.studyId) (hstage : first.stageKey = second.stageKey)
    (hunit : first.unitKey = second.unitKey) : first = second := by
  have hdistinct := (h.courses first.studyId).distinct
  simp only [course, List.map_map] at hdistinct
  apply List.inj_on_of_nodup_map hdistinct
  · simp [hfirst]
  · simp [hsecond, hstudy]
  · simp [hstage, hunit]

theorem Kept.insertCall {row : StageCall Fp} (h : tables.Kept) (hstate : row.state = .dispatched)
    (hbody : tables.insertCall row = .ok tables')
    (hstep : Course.Step (tables.course row.studyId)
      ((tables.course row.studyId).dispatch row.stageKey row.unitKey)) :
    Next row.studyId tables tables' := by
  obtain ⟨-, hid, -, hfresh, rfl⟩ := insertCall_eq_ok.mp hbody
  have hcourse : ∀ other, ({ tables with calls := tables.calls ++ [row] } :
      StudyTables Fp).course other =
        if other = row.studyId then (tables.course other).dispatch row.stageKey row.unitKey
        else tables.course other := by
    intro other
    have hcalls : ({ tables with calls := tables.calls ++ [row] } : StudyTables Fp).course other =
        { tables.course other with
          calls := ((tables.calls ++ [row]).filter fun call => call.studyId = other).map
            fun call => ⟨call.stageKey, call.unitKey, call.state⟩ } := rfl
    rw [hcalls, List.filter_append, List.map_append]
    by_cases hother : other = row.studyId
    · rw [if_pos hother, List.filter_cons_of_pos (by simp [hother]), List.map_cons, hstate]
      rfl
    · rw [if_neg hother, List.filter_cons_of_neg (by simp [Ne.symm hother])]
      simp only [List.filter_nil, List.map_nil, List.append_nil]
      rfl
  refine h.next row.studyId h.versions h.proposals h.studies ?_ ?_ ?_ ?_
  · exact Table.nodup_append_singleton h.calls hid
  · constructor
    · exact h.recorded.distinct
    · intro call hcall hconfirmed
      rcases List.mem_append.mp hcall with hold | hnew
      · exact h.recorded.answered call hold hconfirmed
      · rw [List.mem_singleton.mp hnew, hstate] at hconfirmed
        cases hconfirmed
    · intro artifact hartifact
      obtain ⟨call, hcall, hanswers⟩ := h.recorded.confirmed artifact hartifact
      exact ⟨call, List.mem_append_left _ hcall, hanswers⟩
  · intro other hother
    rw [hcourse, if_neg hother]
  · rw [hcourse, if_pos rfl]
    exact .inr hstep

/-- The rows of a call that takes a state. -/
theorem Kept.course_settle {call : StageCall Fp} {f : StageCall Fp → StageCall Fp}
    {p : StageCall Fp → Bool} {state : StageCallState} (h : tables.Kept)
    (hcall : call ∈ tables.calls) (hp : ∀ row ∈ tables.calls, p row ↔ row = call)
    (hf : ∀ row, (f row).studyId = row.studyId ∧ (f row).stageKey = row.stageKey ∧
      (f row).unitKey = row.unitKey ∧ (f row).state = state) (other : String) :
    ((Table.updateWhere p f tables.calls).filter fun row => row.studyId = other).map
        (fun row => (⟨row.stageKey, row.unitKey, row.state⟩ : CourseCall)) =
      if other = call.studyId then
        settle call.stageKey call.unitKey state (tables.course other).calls
      else (tables.course other).calls := by
  have hfilter := @Table.filter_updateWhere _ p (fun row => decide (row.studyId = other)) f
    tables.calls fun row => by rw [(hf row).1]
  rw [hfilter, Table.updateWhere, List.map_map]
  by_cases hother : other = call.studyId
  · rw [if_pos hother, settle, course, List.map_map]
    apply List.map_congr_left
    intro row hrow
    obtain ⟨hmem, hid⟩ := List.mem_filter.mp hrow
    rw [decide_eq_true_eq] at hid
    obtain ⟨-, hstage, hunit, hstate⟩ := hf row
    by_cases hsame : row = call
    · subst hsame
      simp only [Function.comp_apply, if_pos ((hp row hmem).mpr rfl), hstage, hunit, hstate,
        and_self, if_true]
    · have hkey : ¬ (row.stageKey = call.stageKey ∧ row.unitKey = call.unitKey) := fun hkey =>
        hsame (h.call_unique hmem hcall (hid.trans hother) hkey.1 hkey.2)
      simp only [Function.comp_apply, if_neg fun hrow => hsame ((hp row hmem).mp hrow),
        if_neg hkey]
  · rw [if_neg hother, course]
    apply List.map_congr_left
    intro row hrow
    obtain ⟨hmem, hid⟩ := List.mem_filter.mp hrow
    rw [decide_eq_true_eq] at hid
    have hne : ¬ p row = true := by
      intro hpr
      rw [(hp row hmem).mp hpr] at hid
      exact hother hid.symm
    simp only [Function.comp_apply, if_neg hne]

end Calls

/-! ### Answering -/

section Answering

omit [Sha256 Fp] in
theorem extractionQueue_record (control : ExtractionControl) (progress : JsonMap Fp) :
    extractionQueue (control.record progress) = control.nextUnitKeys := by
  have hreason : "chapter_extraction_queue" ≠ "chapter_extraction_stop_reason" := by decide
  have hqueue : (control.record progress).get? "chapter_extraction_queue" =
      some (.strings control.nextUnitKeys) := by
    rw [ExtractionControl.record, OrderedMap.get?_insert_of_ne _ hreason,
      OrderedMap.get?_insert_self]
  rw [extractionQueue, hqueue]
  simp [Json.asItems, Json.strings, Json.asStr, Function.comp_def]

/-- Only an analysis of the extraction asks for units, and a saturated one asks for none. -/
theorem control?_of_fits {stage : AnalyzeStage} {analysis : CorpusStageAnalysis}
    (h : analysis.fits stage = true) :
    (stage ≠ .chapterExtraction ∧ analysis.control? = none) ∨
      (stage = .chapterExtraction ∧ ∃ control, analysis.control? = some control ∧
        (control.coverageState = "saturated" → control.nextUnitKeys = [])) := by
  cases stage <;> cases analysis <;>
    simp_all [CorpusStageAnalysis.fits, CorpusStageAnalysis.control?]
  intro hsaturated
  simp_all

/-- What a planned answer goes by. -/
structure Confirms (tables : StudyTables Fp) (studyId callId : String) (result : ModelResult Fp)
    (confirmation : Confirmation Fp) : Prop where
  mem : confirmation.call ∈ tables.calls
  call : confirmation.call.callId = callId ∧ confirmation.call.studyId = studyId ∧
    confirmation.call.state = .dispatched
  answers : Answers confirmation.artifact { confirmation.call with result := some result }
  control :
    (confirmation.call.stageKey ≠ .chapterExtraction ∧ confirmation.control = none) ∨
    (confirmation.call.stageKey = .chapterExtraction ∧
      ∃ control, confirmation.control = some control ∧
        (control.coverageState = "saturated" → control.nextUnitKeys = []) ∧
        ∀ next ∈ control.nextUnitKeys, next ≠ confirmation.call.unitKey ∧
          ¬ (tables.course studyId).Has .chapterExtraction next .confirmed)

variable [DecidableEq Fp] {hex : Fp → String} {json : StudyJson Fp}
  {files : String → CoreResult ByteArray} {callId updatedAt : String} {result : ModelResult Fp}
  {confirmation : Confirmation Fp}

omit [Sha256 Fp] [DecidableEq Fp] in
theorem checkControl_eq_ok {unitKey : String} {stage : AnalyzeStage} {control : ExtractionControl}
    {u : Unit} (h : tables.checkControl files studyId unitKey stage control = .ok u) :
    ∀ next ∈ control.nextUnitKeys, next ≠ unitKey ∧
      ¬ (tables.course studyId).Has .chapterExtraction next .confirmed := by
  simp only [checkControl, bind_eq_ok, raise_eq_ok, require_eq_ok] at h
  obtain ⟨known, -, hunits⟩ := h
  intro next hnext
  constructor
  · intro hsame
    exact hunits (.inr ⟨next, hnext, .inl hsame⟩)
  · intro hconfirmed
    obtain ⟨row, hrow, hid, hstage, hunit, hstate⟩ := has_course.mp hconfirmed
    exact hunits (.inr ⟨next, hnext, .inr (.inr ⟨row, hrow, hid, hstage, hstate, hunit⟩)⟩)

theorem confirms_of_planConfirmation
    (h : tables.planConfirmation hex json files studyId callId result updatedAt =
      .ok confirmation) : Confirms tables studyId callId result confirmation := by
  unfold planConfirmation at h
  simp only [bind_eq_ok, raise_eq_ok, require_eq_ok, fetch_eq_ok, exists_const] at h
  obtain ⟨_, -, call, hcall, hopen, output, -, _, hvalid, hplan⟩ := h
  have hfound := List.find?_some hcall
  simp only [decide_eq_true_eq] at hfound
  have hdispatched : call.state = .dispatched ∧ call.requestId = result.requestId := by tauto
  simp only [CorpusStageOutput.validateFor, bind_eq_ok, require_eq_ok, exists_const] at hvalid
  rcases control?_of_fits hvalid.2 with ⟨hstage, hnone⟩ | ⟨hstage, control, hsome, hsaturated⟩
  · simp only [hnone, bind_eq_ok, raise_eq_ok, require_eq_ok, pure_eq_ok, exists_const] at hplan
    obtain ⟨hevidence, rfl⟩ := hplan
    refine ⟨List.mem_of_find?_eq_some hcall, ⟨hfound.1, hfound.2, hdispatched.1⟩, ?_,
      .inl ⟨hstage, rfl⟩⟩
    exact ⟨hfound.2.symm, rfl, rfl, ⟨result, rfl, rfl, hdispatched.2⟩, rfl, hevidence, rfl⟩
  · simp only [hsome, bind_eq_ok, raise_eq_ok, require_eq_ok, pure_eq_ok, exists_const] at hplan
    obtain ⟨_, hunits, hevidence, rfl⟩ := hplan
    refine ⟨List.mem_of_find?_eq_some hcall, ⟨hfound.1, hfound.2, hdispatched.1⟩, ?_,
      .inr ⟨hstage, control, rfl, hsaturated, checkControl_eq_ok hunits⟩⟩
    exact ⟨hfound.2.symm, rfl, rfl, ⟨result, rfl, rfl, hdispatched.2⟩, rfl, hevidence, rfl⟩

/-- The transaction of an answer settles its call. -/
structure Stored (tables : StudyTables Fp) (confirmation : Confirmation Fp)
    (studyId callId : String) (result : ModelResult Fp) (updatedAt : String)
    (tables' : StudyTables Fp) : Prop where
  scans : tables'.scans = tables.scans
  proposals : tables'.proposals = tables.proposals
  studies : tables'.studies.map (·.studyId) = tables.studies.map (·.studyId)
  calls : tables'.calls = Table.updateWhere
    (fun call => call.callId = callId ∧ call.state = .dispatched)
    (fun call => { call with
      state := .confirmed, result := some result, resultFingerprint := some result.fingerprint
      updatedAt }) tables.calls
  artifacts : tables'.artifacts = tables.artifacts ++ [confirmation.artifact]
  fresh : ∀ other ∈ tables.artifacts, ¬ (other.studyId = confirmation.artifact.studyId ∧
    other.stageKey = confirmation.artifact.stageKey ∧
    other.unitKey = confirmation.artifact.unitKey)
  course : ∀ other, tables'.course other = { tables.course other with
    queue := if other = studyId then
      (confirmation.control.map (·.nextUnitKeys)).getD (tables.course other).queue
      else (tables.course other).queue
    calls := (tables'.calls.filter fun call => call.studyId = other).map fun call =>
      ⟨call.stageKey, call.unitKey, call.state⟩ }

omit [Sha256 Fp] [DecidableEq Fp] in
theorem stored_of_storeAnswer
    (h : tables.storeAnswer confirmation studyId callId result updatedAt = .ok tables') :
    Stored tables confirmation studyId callId result updatedAt tables' := by
  unfold storeAnswer at h
  simp only [bind_eq_ok, require_eq_ok, exists_const] at h
  obtain ⟨added, hadded, -, hfinal⟩ := h
  obtain ⟨hstudy, -, hfresh, rfl⟩ := insertArtifact_eq_ok.mp hadded
  cases hcontrol : confirmation.control with
  | none =>
    simp only [hcontrol, pure_eq_ok] at hfinal
    subst hfinal
    refine ⟨rfl, rfl, rfl, rfl, rfl, hfresh, ?_⟩
    intro other
    simp only [hcontrol, Option.map_none, Option.getD_none, ite_self]
    rfl
  | some control =>
    simp only [hcontrol, bind_eq_ok, fetch_eq_ok, pure_eq_ok] at hfinal
    obtain ⟨study, hrow, rfl⟩ := hfinal
    refine ⟨rfl, rfl, ?_, rfl, rfl, hfresh, ?_⟩
    · exact Table.map_updateWhere _ fun _ => rfl
    · intro other
      rw [course_updateStudy_row]
      · by_cases hid : other = studyId
        · have hother : tables.study? other = some study := hid ▸ hrow
          have hstage : (tables.course other).stage = some study.currentStage := by
            simp only [course, hother, Option.map_some]
          simp only [study?] at hother
          simp only [study?, if_pos hid, hcontrol, Option.map_some, Option.getD_some,
            extractionQueue_record, hother, hstage]
          rfl
        · simp only [if_neg hid]
          rfl
      · exact fun _ => rfl

omit [DecidableEq Fp] in
theorem Confirms.sole (hconfirms : Confirms tables studyId callId result confirmation)
    (h : tables.Kept) : ∀ row ∈ tables.calls,
      decide (row.callId = callId ∧ row.state = .dispatched) = true ↔ row = confirmation.call := by
  obtain ⟨hid, -, hdispatched⟩ := hconfirms.call
  intro row hrow
  rw [decide_eq_true_eq]
  constructor
  · intro hrow'
    exact List.inj_on_of_nodup_map h.calls hrow hconfirms.mem (hrow'.1.trans hid.symm)
  · intro hsame
    rw [hsame]
    exact ⟨hid, hdispatched⟩

omit [DecidableEq Fp] in
/-- The call of an answer and its artifact. -/
theorem Stored.recorded (h : tables.Kept)
    (hconfirms : Confirms tables studyId callId result confirmation)
    (hstored : Stored tables confirmation studyId callId result updatedAt tables') :
    tables'.Recorded := by
  have hsole := hconfirms.sole h
  have hanswers := hconfirms.answers
  obtain ⟨-, hstudy, hdispatched⟩ := hconfirms.call
  constructor
  · rw [hstored.artifacts, List.map_append, List.map_singleton]
    refine List.Nodup.append h.recorded.distinct (List.nodup_singleton _) ?_
    rw [List.disjoint_singleton, List.mem_map]
    intro hold
    obtain ⟨other, hother, hkey⟩ := hold
    simp only [Prod.mk.injEq] at hkey
    exact hstored.fresh other hother hkey
  · intro row hrow hstate
    rw [hstored.calls, Table.mem_updateWhere] at hrow
    obtain ⟨old, hold, rfl⟩ := hrow
    rw [hstored.artifacts]
    by_cases hsame : old = confirmation.call
    · rw [if_pos ((hsole old hold).mpr hsame), hsame]
      exact ⟨confirmation.artifact, List.mem_append_right _ (List.mem_singleton_self _),
        hanswers.studyId, hanswers.stageKey, hanswers.unitKey, hanswers.payload,
        hanswers.artifactFingerprint, hanswers.evidence⟩
    · rw [if_neg fun hp => hsame ((hsole old hold).mp hp)] at hstate ⊢
      obtain ⟨artifact, hartifact, hanswer⟩ := h.recorded.answered old hold hstate
      exact ⟨artifact, List.mem_append_left _ hartifact, hanswer⟩
  · intro artifact hartifact
    rw [hstored.artifacts] at hartifact
    rw [hstored.calls]
    rcases List.mem_append.mp hartifact with hold | hnew
    · obtain ⟨call, hcall, hstate, hanswer⟩ := h.recorded.confirmed artifact hold
      refine ⟨call, Table.mem_updateWhere.mpr ⟨call, hcall, ?_⟩, hstate, hanswer⟩
      rw [if_neg]
      intro hp
      rw [(hsole call hcall).mp hp, hdispatched] at hstate
      cases hstate
    · rw [List.mem_singleton.mp hnew]
      refine ⟨_, Table.mem_updateWhere.mpr ⟨_, hconfirms.mem, rfl⟩, ?_⟩
      rw [if_pos ((hsole _ hconfirms.mem).mpr rfl)]
      exact ⟨rfl, hanswers.studyId, hanswers.stageKey, hanswers.unitKey, hanswers.payload,
        hanswers.artifactFingerprint, hanswers.evidence⟩

omit [DecidableEq Fp] in
theorem Stored.course_eq (h : tables.Kept)
    (hconfirms : Confirms tables studyId callId result confirmation)
    (hstored : Stored tables confirmation studyId callId result updatedAt tables')
    (other : String) : tables'.course other = if other = studyId then
      (tables.course studyId).settled confirmation.call.stageKey confirmation.call.unitKey
        .confirmed ((confirmation.control.map (·.nextUnitKeys)).getD (tables.course studyId).queue)
      else tables.course other := by
  obtain ⟨-, hstudy, -⟩ := hconfirms.call
  rw [hstored.course, hstored.calls, h.course_settle hconfirms.mem (hconfirms.sole h), hstudy]
  · by_cases hid : other = studyId
    · simp only [hid]
      rfl
    · simp only [if_neg hid]
  · exact fun _ => ⟨rfl, rfl, rfl, rfl⟩

omit [DecidableEq Fp] in
theorem Kept.storeAnswer (h : tables.Kept)
    (hconfirms : Confirms tables studyId callId result confirmation)
    (hbody : tables.storeAnswer confirmation studyId callId result updatedAt = .ok tables') :
    Next studyId tables tables' := by
  have hstored := stored_of_storeAnswer hbody
  have hcourse := hstored.course_eq h hconfirms
  obtain ⟨-, hstudy, hdispatched⟩ := hconfirms.call
  refine h.next studyId ?_ ?_ ?_ ?_ (hstored.recorded h hconfirms) ?_ ?_
  · rw [hstored.scans]
    exact h.versions
  · rw [hstored.proposals]
    exact h.proposals
  · rw [hstored.studies]
    exact h.studies
  · rw [hstored.calls]
    exact Table.nodup_updateWhere (fun _ => rfl) h.calls
  · intro other hid
    rw [hcourse, if_neg hid]
  · rw [hcourse, if_pos rfl]
    refine .inr (.answered ?_ ?_)
    · exact has_course.mpr ⟨_, hconfirms.mem, hstudy, rfl, rfl, hdispatched⟩
    · rcases hconfirms.control with ⟨hstage, hnone⟩ | ⟨hstage, control, hsome, -, hunits⟩
      · rw [if_neg hstage, hnone]
        rfl
      · rw [if_pos hstage, hsome, hstage]
        exact hunits

end Answering
/-! ### The other calls -/

section Other

open Commits

variable {callId errorCode updatedAt createdAt : String}

/-- A call is given up. -/
theorem Kept.markStageUnconfirmed (h : tables.Kept) :
    Holds (Next studyId) (markStageUnconfirmed studyId callId errorCode updatedAt) tables
      fun _ _ => True := by
  unfold Corpus.markStageUnconfirmed
  apply Holds.commit
  intro t ht
  simp only [raise_eq_ok, bind_eq_ok, require_eq_ok, exists_const, pure_eq_ok] at ht
  obtain ⟨hone, rfl⟩ := ht
  refine ⟨?_, trivial⟩
  obtain ⟨call, hcalls⟩ := List.length_eq_one_iff.mp hone
  have hfound : call ∈ tables.calls.filter fun call =>
      decide (call.studyId = studyId ∧ call.callId = callId ∧ call.state = .dispatched) := by
    rw [hcalls]
    exact List.mem_singleton_self _
  obtain ⟨hcall, hopen⟩ := List.mem_filter.mp hfound
  rw [decide_eq_true_eq] at hopen
  obtain ⟨hstudy, hid, hdispatched⟩ := hopen
  have hsole : ∀ row ∈ tables.calls,
      decide (row.studyId = studyId ∧ row.callId = callId ∧ row.state = .dispatched) = true ↔
        row = call := by
    intro row hrow
    rw [decide_eq_true_eq]
    constructor
    · intro hsame
      exact List.inj_on_of_nodup_map h.calls hrow hcall (hsame.2.1.trans hid.symm)
    · intro hsame
      rw [hsame]
      exact ⟨hstudy, hid, hdispatched⟩
  set calls := Table.updateWhere
    (fun row => decide (row.studyId = studyId ∧ row.callId = callId ∧ row.state = .dispatched))
    (fun row => { row with state := .unconfirmed, errorCode := some errorCode, updatedAt })
    tables.calls with hupdated
  have hcourse : ∀ other, ({ tables with calls } : StudyTables Fp).course other =
      if other = studyId then
        (tables.course studyId).settled call.stageKey call.unitKey .unconfirmed
          (tables.course studyId).queue
      else tables.course other := by
    intro other
    have hfields : ({ tables with calls } : StudyTables Fp).course other =
        { tables.course other with
          calls := (calls.filter fun row => row.studyId = other).map fun row =>
            ⟨row.stageKey, row.unitKey, row.state⟩ } := rfl
    rw [hfields, hupdated, h.course_settle hcall hsole, hstudy]
    · by_cases hsame : other = studyId
      · simp only [hsame]
        rfl
      · simp only [if_neg hsame]
    · exact fun _ => ⟨rfl, rfl, rfl, rfl⟩
  have hconfirmed : ∀ row, row.state = .confirmed → (row ∈ calls ↔ row ∈ tables.calls) := by
    intro row hstate
    rw [hupdated, Table.mem_updateWhere]
    constructor
    · intro hnew
      obtain ⟨old, hold, rfl⟩ := hnew
      by_cases hsame : old = call
      · rw [if_pos ((hsole old hold).mpr hsame)] at hstate
        cases hstate
      · rwa [if_neg fun hp => hsame ((hsole old hold).mp hp)]
    · intro hold
      refine ⟨row, hold, ?_⟩
      rw [if_neg]
      intro hp
      rw [(hsole row hold).mp hp, hdispatched] at hstate
      cases hstate
  refine h.next studyId h.versions h.proposals h.studies ?_ ?_ ?_ ?_
  · exact Table.nodup_updateWhere (fun _ => rfl) h.calls
  · constructor
    · exact h.recorded.distinct
    · intro row hrow hstate
      exact h.recorded.answered row ((hconfirmed row hstate).mp hrow) hstate
    · intro artifact hartifact
      obtain ⟨row, hrow, hstate, hanswers⟩ := h.recorded.confirmed artifact hartifact
      exact ⟨row, (hconfirmed row hstate).mpr hrow, hstate, hanswers⟩
  · intro other hother
    rw [hcourse, if_neg hother]
  · rw [hcourse, if_pos rfl]
    exact .inr (.unconfirmed (has_course.mpr ⟨call, hcall, hstudy, rfl, rfl, hdispatched⟩))

theorem Kept.scan {scans : ScanTables Fp} (h : tables.Kept)
    (hversions : scans.versions.Pairwise VersionRow.Apart) :
    ({ tables with scans } : StudyTables Fp).Kept :=
  ⟨hversions, h.proposals, h.studies, h.calls,
    ⟨h.recorded.distinct, h.recorded.answered, h.recorded.confirmed⟩, h.courses⟩

variable [DecidableEq Fp]

theorem apart_of_storeScan {hex : Fp → String} {scans scans' : ScanTables Fp}
    {collection : Collection} {works : List (ScannedWork Fp)}
    (h : scans.versions.Pairwise VersionRow.Apart)
    (hstore : storeScan hex scans collection works createdAt = .ok scans') :
    scans'.versions.Pairwise VersionRow.Apart := by
  simp only [storeScan] at hstore
  split_ifs at hstore
  · simp only [bind_eq_ok, pure_eq_ok] at hstore
    obtain ⟨collections, -, versions, hversions, rfl⟩ := hstore
    apply forEach_invariant _ hversions h
    intro row _ before after hinsert hbefore
    obtain ⟨-, hapart, rfl⟩ := (insertVersion_eq_ok before row after).mp hinsert
    rw [List.pairwise_append]
    refine ⟨hbefore, List.pairwise_singleton _ _, ?_⟩
    intro other hother added hadded
    rw [List.mem_singleton.mp hadded]
    exact hapart other hother
  · rw [pure_eq_ok] at hstore
    exact hstore ▸ h

/-- A scan leaves the studies as they are. -/
theorem Kept.scanCollection {hex : Fp → String} {sha256 : ByteArray → Fp}
    {collection : Collection} (h : tables.Kept) :
    Holds (fun tables tables' => tables'.Kept ∧ tables'.course = tables.course)
      (Commits.commit fun tables => raise do
        let (scans, _) ← Corpus.scanCollection hex sha256 tables.scans collection createdAt
        return { tables with scans }) tables fun _ _ => True := by
  apply Holds.commit
  intro t ht
  simp only [raise_eq_ok, bind_eq_ok, pure_eq_ok] at ht
  obtain ⟨⟨scans, report⟩, hscan, rfl⟩ := ht
  obtain ⟨found, -, hstore, -⟩ := scanCollection_eq_ok hscan
  exact ⟨⟨h.scan (apart_of_storeScan h.versions hstore), rfl⟩, trivial⟩

omit [Sha256 Fp] [DecidableEq Fp] in
theorem joined_eq_ok {proposal : SelectionProposal Fp} {study : Study Fp} :
    tables.joined studyId = .ok (proposal, study) ↔
      tables.proposal? studyId = some proposal ∧ tables.study? studyId = some study := by
  simp only [joined, bind_eq_ok, fetch_eq_ok, pure_eq_ok, Prod.mk.injEq]
  constructor
  · intro h
    obtain ⟨study, hstudy, proposal, hproposal, rfl, rfl⟩ := h
    exact ⟨hproposal, hstudy⟩
  · intro h
    exact ⟨study, h.2, proposal, h.1, rfl, rfl⟩

omit [Sha256 Fp] [DecidableEq Fp] in
/-- What the rows of a study say of its course. -/
theorem course_of_joined {proposal : SelectionProposal Fp} {study : Study Fp}
    (h : tables.joined studyId = .ok (proposal, study)) :
    (tables.course studyId).status = some proposal.status ∧
      (tables.course studyId).stage = some study.currentStage ∧
      (tables.course studyId).queue = extractionQueue study.progress := by
  obtain ⟨hproposal, hstudy⟩ := joined_eq_ok.mp h
  simp only [course, hproposal, hstudy, Option.map_some, Option.getD_some, and_self]

omit [DecidableEq Fp] in
/-- The author lets a paused study continue. -/
theorem Kept.authorized {row : ContinueAuthorization Fp} {checkpoint : Fp}
    {proposal : SelectionProposal Fp} {study : Study Fp} (h : tables.Kept)
    (hrow : row.studyId = studyId) (hjoined : tables.joined studyId = .ok (proposal, study))
    (hpaused : proposal.status = .pausedGoldenThree) :
    Next studyId tables ((({ tables with authorizations := tables.authorizations ++ [row] } :
      StudyTables Fp).moveTo studyId .chapterExtraction checkpoint createdAt).setStatus studyId
        .running createdAt) := by
  obtain ⟨hproposal, hstudy⟩ := joined_eq_ok.mp hjoined
  obtain ⟨hstatus, -, -⟩ := course_of_joined hjoined
  set added : StudyTables Fp := { tables with authorizations := tables.authorizations ++ [row] }
  have hadded : ∀ other, added.course other = { tables.course other with
      authorized := (tables.course other).authorized || decide (row.studyId = other) } :=
    course_addAuthorization row
  have hmoved : (added.moveTo studyId .chapterExtraction checkpoint createdAt).proposal? studyId =
      some proposal := hproposal
  have hstored : added.study? studyId = some study := hstudy
  refine h.moved studyId rfl (Table.nodup_updateWhere (fun _ => rfl) h.proposals)
    (Table.nodup_updateWhere (fun _ => rfl) h.studies) rfl rfl ?_ ?_
  · intro other hid
    rw [course_setStatus, if_neg hid, course_moveTo, if_neg hid, hadded, hrow]
    simp [Ne.symm hid]
  · rw [course_setStatus, if_pos rfl, course_moveTo, if_pos rfl, hadded, hrow, hmoved, hstored]
    simp only [Option.map_some, decide_true, Bool.or_true]
    exact .inr (.continued (hstatus.trans (congrArg some hpaused)))

theorem Kept.continueAfterGoldenThree {expectedCheckpoint : Fp} {authorization uuid : String}
    (h : tables.Kept) :
    Holds (Next studyId)
      (continueAfterGoldenThree studyId expectedCheckpoint authorization uuid createdAt) tables
      fun _ _ => True := by
  unfold Corpus.continueAfterGoldenThree
  apply Holds.read_bind
  intro checkpoint hcheckpoint
  simp only [checkContinuation, raise_eq_ok, bind_eq_ok, require_eq_ok, exists_const,
    pure_eq_ok] at hcheckpoint
  obtain ⟨-, ⟨proposal, study⟩, hjoined, hopen, -⟩ := hcheckpoint
  have hpaused : proposal.status = .pausedGoldenThree := by tauto
  apply Holds.commit
  intro t ht
  simp only [raise_eq_ok, bind_eq_ok, pure_eq_ok] at ht
  obtain ⟨added, hadded, rfl⟩ := ht
  obtain ⟨-, -, -, -, rfl⟩ := insertAuthorization_eq_ok.mp hadded
  exact ⟨h.authorized rfl hjoined hpaused, trivial⟩

omit [Sha256 Fp] [DecidableEq Fp] in
theorem withdrawn_studyId (row : SelectionProposal Fp) :
    (row.withdrawn updatedAt).studyId = row.studyId := by
  unfold SelectionProposal.withdrawn
  split_ifs <;> rfl

omit [Sha256 Fp] [DecidableEq Fp] in
theorem withdrawn_selection (row : SelectionProposal Fp) :
    (row.withdrawn updatedAt).selection = row.selection := by
  unfold SelectionProposal.withdrawn
  split_ifs <;> rfl

omit [Sha256 Fp] [DecidableEq Fp] in
theorem course_withdrawn (other : String) :
    (tables.updateProposal studyId (SelectionProposal.withdrawn updatedAt)).course other =
        tables.course other ∨
      (other = studyId ∧ (tables.course other).status ≠ none ∧
        (tables.course other).status ≠ some .complete ∧
        (tables.updateProposal studyId (SelectionProposal.withdrawn updatedAt)).course other =
          { tables.course other with status := some .cancelled }) := by
  have hcourse := @course_updateProposal _ tables studyId (SelectionProposal.withdrawn updatedAt)
    withdrawn_studyId withdrawn_selection other
  have hstatus : (tables.course other).status = (tables.proposal? other).map (·.status) := rfl
  by_cases hid : other = studyId
  · rw [if_pos hid] at hcourse
    rw [hcourse]
    cases hrow : tables.proposal? other with
    | none =>
      rw [hrow, Option.map_none] at hstatus
      exact .inl (by rw [Option.map_none, ← hstatus])
    | some row =>
      rw [hrow, Option.map_some] at hstatus
      rw [Option.map_some, SelectionProposal.withdrawn]
      split_ifs with hclosed
      · exact .inl (by rw [← hstatus])
      · refine .inr ⟨hid, by simp [hstatus], ?_, rfl⟩
        intro hcomplete
        rw [hstatus, Option.some.injEq] at hcomplete
        exact hclosed (.inl hcomplete)
  · rw [if_neg hid] at hcourse
    exact .inl hcourse

omit [DecidableEq Fp] in
theorem Kept.withdrawn (h : tables.Kept) : Next studyId tables
    (tables.updateProposal studyId (SelectionProposal.withdrawn updatedAt)) := by
  refine h.moved studyId rfl (nodup_updateProposal h withdrawn_studyId) h.studies rfl rfl ?_ ?_
  · intro other hother
    rcases course_withdrawn other with hsame | ⟨hid, -⟩
    · exact hsame
    · exact absurd hid hother
  · rcases course_withdrawn studyId with hsame | ⟨-, hknown, hopen, hcourse⟩
    · exact .inl hsame
    · rw [hcourse]
      exact .inr (.cancelled hknown hopen)

omit [DecidableEq Fp] in
theorem Kept.cancelStudy (h : tables.Kept) :
    Holds (fun tables tables' => Next studyId tables tables' ∧
        (tables.course studyId).Rests (tables'.course studyId))
      (cancelStudy studyId updatedAt) tables fun _ _ => True := by
  unfold Corpus.cancelStudy
  apply Holds.commit_bind
  intro t ht
  cases ht
  have hcancelled : Next studyId tables
      (tables.updateProposal studyId (SelectionProposal.withdrawn updatedAt)) := h.withdrawn
  refine ⟨⟨hcancelled, ?_⟩, ?_⟩
  · rcases course_withdrawn studyId with hsame | ⟨-, -, hopen, hcourse⟩
    · exact .inl hsame
    · exact .inr ⟨hopen, hcourse⟩
  · apply Holds.commit
    intro t ht
    cases ht
    have hsame : ∀ other, ((tables.updateProposal studyId
        (SelectionProposal.withdrawn updatedAt)).updateStudy studyId fun row =>
          { row with cancelRequested := true, updatedAt }).course other =
            (tables.updateProposal studyId (SelectionProposal.withdrawn updatedAt)).course other :=
      course_updateStudy_same (fun _ => rfl) (fun _ => rfl) fun _ => rfl
    refine ⟨⟨?_, .inl (hsame studyId)⟩, trivial⟩
    exact hcancelled.kept.moved studyId rfl hcancelled.kept.proposals
      (Table.nodup_updateWhere (fun _ => rfl) hcancelled.kept.studies) rfl rfl
      (fun other _ => hsame other) (.inl (hsame studyId))

end Other
/-! ### Proposing -/

section Proposing

open Commits Selection

variable [DecidableEq Fp] {hex : Fp → String} {collectionId profile createdAt : String}
  {limit : Option ℕ}

omit [DecidableEq Fp] in
theorem nodup_pool (h : tables.Kept) (collectionId : String) :
    ((tables.scans.pool collectionId).map workId).Nodup := by
  have hsame : (workId ∘ poolItem : VersionRow Fp → String) = fun row => row.publicWorkId := rfl
  rw [ScanTables.pool, List.map_map, hsame]
  have hperm := (tables.scans.eligible collectionId).perm_insertionSort
    fun a b => a.publicWorkId ≤ b.publicWorkId
  rw [(hperm.map _).nodup_iff, List.Nodup, List.pairwise_map]
  have heligible := h.versions.filter
    fun row => decide (row.collectionId = collectionId ∧ row.state = "eligible")
  apply heligible.imp_of_mem
  intro row other hrow hother hapart hsame
  rw [List.mem_filter, decide_eq_true_eq] at hrow hother
  exact hapart.2.2 ⟨hrow.2.1.trans hother.2.1.symm, hsame⟩

/-- The studies that are known stay as they are. -/
theorem Kept.proposeSelection (h : tables.Kept) :
    Holds (fun tables tables' => ∃ studyId, Next studyId tables tables' ∧
        ((tables.course studyId).status ≠ none →
          tables'.course studyId = tables.course studyId))
      (proposeSelection hex collectionId profile limit createdAt) tables fun _ _ => True := by
  unfold Corpus.proposeSelection
  apply Holds.read_bind
  intro projection hprojection
  simp only [proposeItems, bind_eq_ok, raise_eq_ok, require_eq_ok, fetch_eq_ok, exists_const,
    pure_eq_ok] at hprojection
  obtain ⟨-, -, -, items, hitems, rfl⟩ := hprojection
  apply Holds.commit_bind
  intro t ht
  rw [raise_eq_ok] at ht
  have hids := nodup_selection (nodup_pool h collectionId) hitems
  exact ⟨⟨_, h.insertProposal rfl hids ht⟩, Holds.pure trivial⟩

theorem Kept.confirmSelection {workIds : List String} {fingerprint : Fp} (h : tables.Kept) :
    Holds (Next studyId) (confirmSelection studyId workIds fingerprint profile createdAt) tables
      fun _ _ => True := by
  unfold Corpus.confirmSelection
  apply Holds.read_bind
  intro selection hselection
  apply Holds.commit_bind
  intro t ht
  cases ht
  refine ⟨h.storeSelection (raise_eq_ok.mp hselection), ?_⟩
  apply Holds.read_bind
  intro available _
  exact Holds.pure trivial

end Proposing
/-! ### Units and their calls -/

section Pending

omit [Sha256 Fp] in
theorem has_of_call? {stage : AnalyzeStage} {unit : String} {state : StageCallState}
    (h : (tables.call? studyId stage unit).map (·.state) = some state) :
    (tables.course studyId).Has stage unit state := by
  obtain ⟨row, hrow, hstate⟩ := Option.map_eq_some_iff.mp h
  have hkey := List.find?_some hrow
  rw [decide_eq_true_eq] at hkey
  exact has_course.mpr ⟨row, List.mem_of_find?_eq_some hrow, hkey.1, hkey.2.1, hkey.2.2, hstate⟩

omit [Sha256 Fp] in
theorem not_called_of_call? {stage : AnalyzeStage} {unit : String}
    (h : (tables.call? studyId stage unit).map (·.state) = none) :
    ¬ (tables.course studyId).Called stage unit := by
  rw [Option.map_eq_none_iff, call?, List.find?_eq_none] at h
  intro hcalled
  obtain ⟨state, hhas⟩ := hcalled
  obtain ⟨row, hrow, hid, hstage, hunit, -⟩ := has_course.mp hhas
  exact h row hrow (decide_eq_true ⟨hid, hstage, hunit⟩)

theorem pendingUnit_eq_some {state : String → Option StageCallState} {units : List String}
    {u : String} (h : pendingUnit state units = .ok (some u)) :
    state u = none ∧ ∃ front back, units = front ++ u :: back ∧
      ∀ v ∈ front, state v = some .confirmed := by
  induction units with
  | nil => simp [pendingUnit] at h
  | cons v rest ih =>
    unfold pendingUnit at h
    cases hv : state v with
    | none =>
      simp only [hv, Except.ok.injEq, Option.some.injEq] at h
      subst h
      exact ⟨hv, [], rest, rfl, by simp⟩
    | some found =>
      cases found with
      | confirmed =>
        simp only [hv] at h
        obtain ⟨hu, front, back, hunits, hfront⟩ := ih h
        refine ⟨hu, v :: front, back, by rw [hunits]; rfl, ?_⟩
        intro w hw
        rcases List.mem_cons.mp hw with rfl | hw
        · exact hv
        · exact hfront w hw
      | dispatched | unconfirmed | cancelled | invalid => simp [hv] at h

theorem pendingUnit_eq_none {state : String → Option StageCallState} {units : List String}
    (h : pendingUnit state units = .ok none) : ∀ v ∈ units, state v = some .confirmed := by
  induction units with
  | nil => simp
  | cons v rest ih =>
    unfold pendingUnit at h
    cases hv : state v with
    | none => simp [hv] at h
    | some found =>
      cases found with
      | confirmed =>
        simp only [hv] at h
        intro w hw
        rcases List.mem_cons.mp hw with rfl | hw
        · exact hv
        · exact ih h w hw
      | dispatched | unconfirmed | cancelled | invalid => simp [hv] at h

omit [Sha256 Fp] in
/-- The units of a stage are those of the course, the extraction apart. -/
theorem units_of_stageUnits {files : String → CoreResult ByteArray} {stage : AnalyzeStage}
    {units : List String} (hstage : stage ≠ .chapterExtraction)
    (h : (tables.view files studyId).stageUnits stage = .ok units) :
    units = (tables.course studyId).units stage ∧
      (stage = .goldenThree → ∃ status, (tables.course studyId).status = some status ∧
        status.selected) := by
  unfold CorpusView.stageUnits at h
  by_cases hall : stage ≠ .goldenThree ∧ stage ≠ .chapterExtraction ∧ stage ≠ .storyEntities
  · rw [if_pos hall, pure_eq_ok] at h
    subst h
    cases stage <;> simp_all [Course.units]
  · rw [if_neg hall] at h
    simp only [bind_eq_ok, raise_eq_ok, if_pos hstage, pure_eq_ok] at h
    obtain ⟨items, hitems, rfl⟩ := h
    simp only [view, map_eq_ok, confirmedSelection, bind_eq_ok, fetch_eq_ok, require_eq_ok,
      exists_const, pure_eq_ok] at hitems
    obtain ⟨-, ⟨row, hrow, hselected, rfl⟩, rfl⟩ := hitems
    have hstatus : (tables.course studyId).status = some row.status := by
      simp only [course, hrow, Option.map_some]
    have hworks : (tables.course studyId).works = row.selection.map (·.workId) := by
      simp only [course, hrow, Option.map_some, Option.getD_some]
    refine ⟨?_, fun _ => ⟨row.status, hstatus, hselected⟩⟩
    rw [← hworks]
    cases stage <;> simp_all [Course.units]

end Pending
/-! ### Dispatching -/

section Dispatching

open Commits

/-- The first chapters are through when every work has a confirmed call. -/
theorem length_le_confirmedCount {c : Course} {s : AnalyzeStage} {units : List String}
    (hunits : units.Nodup) (hconfirmed : ∀ u ∈ units, c.Has s u .confirmed) :
    units.length ≤ c.confirmedCount s := by
  have hnodup : (units.map fun u => (⟨s, u, .confirmed⟩ : CourseCall)).Nodup := by
    apply hunits.map
    intro u v huv
    exact congrArg CourseCall.unit huv
  have hsub : ∀ call ∈ units.map (fun u => (⟨s, u, .confirmed⟩ : CourseCall)),
      call ∈ c.calls.filter fun call => call.stage = s ∧ call.state = .confirmed := by
    intro call hcall
    obtain ⟨u, hu, rfl⟩ := List.mem_map.mp hcall
    exact List.mem_filter.mpr ⟨hconfirmed u hu, by simp⟩
  have hle := (hnodup.subperm hsub).length_le
  rwa [List.length_map, ← List.countP_eq_length_filter] at hle

/-- A study of which a call can be dispatched. -/
theorem open_of_joined {proposal : SelectionProposal Fp} {study : Study Fp} (h : tables.Kept)
    (hjoined : tables.joined studyId = .ok (proposal, study))
    (hpaused : proposal.status ≠ .pausedGoldenThree)
    (hover : ¬ (proposal.status = .complete ∨ proposal.status = .cancelled)) :
    (study.currentStage = .goldenThree ∧ (tables.course studyId).status = some .confirmed) ∨
      (.goldenThree < study.currentStage ∧ (tables.course studyId).status = some .running) := by
  obtain ⟨hstatus, hstage, -⟩ := course_of_joined hjoined
  by_cases hgolden : study.currentStage = .goldenThree
  · have hphase := ((h.courses studyId).phased.previewing (hgolden ▸ hstage)).2
    simp only [hstatus, Option.some.injEq] at hphase ⊢
    refine .inl ⟨hgolden, ?_⟩
    tauto
  · obtain ⟨-, hlt, hphase⟩ := (h.courses studyId).phased.continued _ hstage hgolden
    simp only [hstatus, Option.some.injEq] at hphase ⊢
    refine .inr ⟨hlt, ?_⟩
    tauto

variable [DecidableEq Fp] {hex : Fp → String} {json : StudyJson Fp} {sha256 : ByteArray → Fp}
  {files : String → CoreResult ByteArray} {model callUuid createdAt : String}

theorem prepareCall_eq_ok {study : Study Fp} {unitKey : String} {call : StageCall Fp}
    {dispatch : StageDispatch Fp}
    (h : tables.prepareCall hex json sha256 files study unitKey model callUuid createdAt =
      .ok (call, dispatch)) :
    call.studyId = study.studyId ∧ call.stageKey = study.currentStage ∧ call.unitKey = unitKey ∧
      call.state = .dispatched ∧ call.callId = "call_" ++ callUuid := by
  simp only [prepareCall, bind_eq_ok, pure_eq_ok, Prod.mk.injEq] at h
  obtain ⟨_, -, _, -, _, -, rfl, -⟩ := h
  exact ⟨rfl, rfl, rfl, rfl, rfl⟩

omit [Sha256 Fp] [DecidableEq Fp] in
/-- The units that are gone through: those of the course, or the queue of the extraction. -/
theorem requestedUnits_eq_ok {study : Study Fp} {units : List String}
    (hstudy : tables.study? studyId = some study)
    (h : tables.requestedUnits files study = .ok units) :
    (study.currentStage ≠ .chapterExtraction →
      units = (tables.course studyId).units study.currentStage) ∧
    (study.currentStage = .chapterExtraction →
      (∀ v, ¬ (tables.course studyId).Called .chapterExtraction v) ∨
        units = (tables.course studyId).queue) := by
  have hid : study.studyId = studyId := Table.lookup_key hstudy
  have hqueue : (tables.course studyId).queue = extractionQueue study.progress := by
    simp only [course, hstudy, Option.map_some, Option.getD_some]
  simp only [requestedUnits, bind_eq_ok, hid] at h
  obtain ⟨all, hall, hunits⟩ := h
  constructor
  · intro hstage
    rw [if_neg hstage, pure_eq_ok] at hunits
    rw [← hunits]
    exact (units_of_stageUnits hstage hall).1
  · intro hstage
    rw [if_pos hstage] at hunits
    split_ifs at hunits with hprior
    · refine .inl ?_
      rw [List.countP_eq_zero] at hprior
      intro v hcalled
      obtain ⟨state, hhas⟩ := hcalled
      obtain ⟨row, hrow, hrowId, hrowStage, -, -⟩ := has_course.mp hhas
      exact hprior row hrow (decide_eq_true ⟨hrowId, hrowStage⟩)
    · rw [pure_eq_ok] at hunits
      exact .inr (hunits.symm.trans hqueue.symm)

theorem due_of_planDispatch {plan : DispatchPlan Fp} (h : tables.Kept)
    (hplan : tables.planDispatch hex json sha256 files studyId model callUuid createdAt =
      .ok plan) : plan.Due (tables.course studyId) studyId := by
  simp only [planDispatch, bind_eq_ok, raise_eq_ok, require_eq_ok, exists_const] at hplan
  obtain ⟨-, ⟨proposal, study⟩, hjoined, hpaused, hplan⟩ := hplan
  obtain ⟨hproposal, hstudy⟩ := joined_eq_ok.mp hjoined
  obtain ⟨hstatus, hstage, hqueue⟩ := course_of_joined hjoined
  have hid : study.studyId = studyId := Table.lookup_key hstudy
  by_cases hover : proposal.status = .complete ∨ proposal.status = .cancelled
  · rw [if_pos hover, pure_eq_ok] at hplan
    subst hplan
    exact trivial
  rw [if_neg hover] at hplan
  have hopen := open_of_joined h hjoined hpaused hover
  simp only [bind_eq_ok, raise_eq_ok] at hplan
  obtain ⟨units, hunits, pending, hpending, hplan⟩ := hplan
  obtain ⟨hunitsOf, hextraction⟩ := requestedUnits_eq_ok hstudy hunits
  cases pending with
  | none =>
    simp only [pure_eq_ok] at hplan
    subst hplan
    split_ifs with hs
    · exact trivial
    · refine ⟨hs, hstage, ?_, hopen⟩
      intro u hu
      rw [← hunitsOf hs] at hu
      exact has_of_call? (pendingUnit_eq_none hpending u hu)
  | some unitKey =>
    simp only [bind_eq_ok, pure_eq_ok] at hplan
    obtain ⟨⟨call, dispatch⟩, hcall, hplan⟩ := hplan
    obtain ⟨hcallStudy, hcallStage, hcallUnit, hcallState, -⟩ := prepareCall_eq_ok hcall
    subst hplan
    obtain ⟨hfresh, front, back, hlist, hfront⟩ := pendingUnit_eq_some hpending
    refine ⟨hcallStudy.trans hid, hcallState, ?_⟩
    rw [hcallStage, hcallUnit]
    have hfirst : (tables.course studyId).First study.currentStage units unitKey :=
      ⟨front, back, hlist, fun v hv => has_of_call? (hfront v hv)⟩
    refine .dispatched ?_ hstage (not_called_of_call? hfresh) ?_
    · exact hopen.imp And.right And.right
    · rw [Course.Turn]
      by_cases hs : study.currentStage = .chapterExtraction
      · rw [if_pos hs]
        rcases hextraction hs with hnone | hunits
        · exact .inl (hs ▸ hnone)
        · exact .inr (hunits ▸ hfirst)
      · rw [if_neg hs, ← hunitsOf hs]
        exact hfirst

theorem Kept.dispatchNextStage (h : tables.Kept) :
    Holds (Next studyId)
      (dispatchNextStage hex json sha256 files studyId model callUuid createdAt) tables
      fun _ _ => True := by
  unfold Corpus.dispatchNextStage
  apply Holds.read_bind
  intro plan hplan
  have hdue := due_of_planDispatch h hplan
  cases plan with
  | nothing => exact Holds.pure trivial
  | advance stage =>
    obtain ⟨hs, hstage, hconfirmed, hopen⟩ := hdue
    have hadvance : Holds (Next studyId) (Corpus.advanceStage json studyId stage createdAt) tables
        fun _ _ => True := by
      apply h.advanceStage
      · intro hgolden
        subst hgolden
        refine ⟨?_, length_le_confirmedCount (h.courses studyId).works hconfirmed⟩
        rcases hopen with ⟨-, hstatus⟩ | ⟨hlt, -⟩
        · exact hstatus
        · exact absurd hlt (lt_irrefl _)
      · intro hne
        rcases hopen with ⟨hgolden, -⟩ | ⟨hlt, hstatus⟩
        · exact absurd hgolden hne
        · refine ⟨hstage, hlt, ?_, by simp [hstatus]⟩
          rw [Course.Done, if_neg hs]
          exact hconfirmed
    exact hadvance.bind fun _ _ _ => Holds.pure trivial
  | send call dispatch =>
    obtain ⟨hid, hstate, hstep⟩ := hdue
    apply Holds.commit_bind
    intro t ht
    rw [raise_eq_ok] at ht
    have hnext : Next call.studyId tables t := h.insertCall hstate ht (hid ▸ hstep)
    rw [hid] at hnext
    exact ⟨hnext, Holds.pure trivial⟩

end Dispatching
/-! ### Confirming -/

section Confirming

open Commits

variable {c : Course} {s : AnalyzeStage} {u : String}

/-- An answer of the extraction leaves no open call of it. -/
theorem done_extraction {queue : List String} (h : c.Sound)
    (hcall : c.Has .chapterExtraction u .dispatched) :
    (c.settled .chapterExtraction u .confirmed queue).Done .chapterExtraction := by
  rw [Course.Done, if_pos rfl]
  constructor
  · exact ⟨u, (Course.has_settled hcall).mpr (by simp)⟩
  · intro v state hhas
    rw [Course.has_settled hcall] at hhas
    by_cases hv : v = u
    · simpa [hv] using hhas
    · rw [if_neg fun hkey => hv hkey.2] at hhas
      by_contra hopen
      exact hv (h.alone hcall (by decide) hhas hopen)

/-- A stage is through when as many calls are confirmed as there are units. -/
theorem done_of_count (h : c.Sound) (hs : .chapterExtraction < s)
    (hcount : c.confirmedCount s = (c.units s).length) : c.Done s := by
  rw [Course.Done, if_neg (ne_of_gt hs)]
  set calls := c.calls.filter fun call => call.stage = s ∧ call.state = .confirmed with hcalls
  have hstage : ∀ call ∈ calls, call ∈ c.calls ∧ call.stage = s ∧ call.state = .confirmed := by
    intro call hcall
    have hmem := List.mem_filter.mp hcall
    rwa [decide_eq_true_eq] at hmem
  have hnodup : (calls.map (·.unit)).Nodup := by
    have hkeys := List.Nodup.of_map _ h.distinct
    apply List.Nodup.map_on _ (hkeys.filter _)
    intro call hcall other hother hunit
    obtain ⟨hmem, hcallStage, -⟩ := hstage call hcall
    obtain ⟨hmem', hotherStage, -⟩ := hstage other hother
    exact List.inj_on_of_nodup_map h.distinct hmem hmem'
      (by rw [hcallStage, hotherStage, hunit])
  have hsub : (calls.map (·.unit)).Subperm (c.units s) := by
    apply hnodup.subperm
    intro unit hunit
    obtain ⟨call, hcall, rfl⟩ := List.mem_map.mp hunit
    obtain ⟨hmem, hcallStage, -⟩ := hstage call hcall
    have hin := h.units call hmem (by rw [hcallStage]; exact hs)
    rwa [hcallStage] at hin
  have hperm : (calls.map (·.unit)).Perm (c.units s) := by
    apply hsub.perm_of_length_le
    rw [← hcount, List.length_map, hcalls, Course.confirmedCount, List.countP_eq_length_filter]
  intro unit hunit
  obtain ⟨call, hcall, rfl⟩ := List.mem_map.mp (hperm.mem_iff.mpr hunit)
  obtain ⟨hmem, hcallStage, hcallState⟩ := hstage call hcall
  rw [Course.Has, ← hcallStage, ← hcallState]
  exact hmem

/-- The last answer of the first chapters finds the selection confirmed. -/
theorem status_of_last_golden (h : c.Sound) (hcall : c.Has .goldenThree u .dispatched)
    (hselected : ∃ status, c.status = some status ∧ status.selected)
    (hcount : c.confirmedCount .goldenThree < c.works.length) : c.status = some .confirmed := by
  obtain ⟨current, hcurrent, -, -⟩ := h.reached _ hcall
  have hpreview : ¬ (c.status = some .pausedGoldenThree ∨
      ∃ s, c.stage = some s ∧ .goldenThree < s) :=
    fun hp => absurd (h.preview hp) (not_le.mpr hcount)
  have hgolden : current = .goldenThree := by
    by_contra hne
    exact absurd (.inr ⟨current, hcurrent, (h.phased.continued current hcurrent hne).2.1⟩) hpreview
  obtain ⟨-, hstatus⟩ := h.phased.previewing (hgolden ▸ hcurrent)
  obtain ⟨status, hsome, hstudy⟩ := hselected
  rcases hstatus with hc | hp | hx
  · exact hc
  · exact absurd (.inl hp) hpreview
  · rw [hsome, Option.some.injEq] at hx
    rw [hx] at hstudy
    simp [StudyStatus.selected] at hstudy

omit [Sha256 Fp] in
theorem confirmedUnits_eq (stage : AnalyzeStage) :
    tables.confirmedUnits studyId stage = (tables.course studyId).confirmedCount stage := by
  rw [confirmedUnits, Course.confirmedCount, course, List.countP_map, List.countP_filter]
  congr 1
  funext call
  rw [Bool.eq_iff_iff]
  simp only [Function.comp_apply, decide_eq_true_eq, Bool.and_eq_true]
  tauto

variable [DecidableEq Fp] {hex : Fp → String} {json : StudyJson Fp}
  {files : String → CoreResult ByteArray} {callId updatedAt : String} {result : ModelResult Fp}
  {confirmation : Confirmation Fp}

omit [DecidableEq Fp] in
/-- The stage of an answer that goes on is through. -/
theorem advance_of_answer {units : List String} (h : tables.Kept)
    (hconfirms : Confirms tables studyId callId result confirmation)
    (hstored : Stored tables confirmation studyId callId result updatedAt tables')
    (hkept : tables'.Kept)
    (hunits : (tables'.view files studyId).stageUnits confirmation.call.stageKey = .ok units)
    (hgoes : (confirmation.control.any fun control => control.coverageState = "saturated") = true ∨
      tables'.confirmedUnits studyId confirmation.call.stageKey = units.length) :
    (confirmation.call.stageKey = .goldenThree →
      (tables'.course studyId).status = some .confirmed ∧
        (tables'.course studyId).works.length ≤
          (tables'.course studyId).confirmedCount .goldenThree) ∧
    (confirmation.call.stageKey ≠ .goldenThree →
      (tables'.course studyId).stage = some confirmation.call.stageKey ∧
        .goldenThree < confirmation.call.stageKey ∧
        (tables'.course studyId).Done confirmation.call.stageKey ∧
        (tables'.course studyId).status ≠ some .complete) := by
  obtain ⟨-, hstudy, hdispatched⟩ := hconfirms.call
  have hsound := h.courses studyId
  have hcall : (tables.course studyId).Has confirmation.call.stageKey confirmation.call.unitKey
      .dispatched := has_course.mpr ⟨_, hconfirms.mem, hstudy, rfl, rfl, hdispatched⟩
  have hcourse := hstored.course_eq h hconfirms studyId
  rw [if_pos rfl] at hcourse
  -- without a queue the answer goes on because all units are confirmed
  have hall : confirmation.call.stageKey ≠ .chapterExtraction →
      (tables'.course studyId).confirmedCount confirmation.call.stageKey =
        ((tables'.course studyId).units confirmation.call.stageKey).length ∧
      (confirmation.call.stageKey = .goldenThree → ∃ status,
        (tables'.course studyId).status = some status ∧ status.selected) := by
    intro hs
    obtain ⟨hlist, hselected⟩ := units_of_stageUnits hs hunits
    rcases hconfirms.control with ⟨-, hnone⟩ | ⟨hstage, -⟩
    · rw [hnone, Option.any_none, confirmedUnits_eq, hlist] at hgoes
      exact ⟨hgoes.resolve_left Bool.false_ne_true, hselected⟩
    · exact absurd hstage hs
  constructor
  · intro hs
    rw [hs] at hcall hcourse hall
    obtain ⟨hcount, hselected⟩ := hall (by decide)
    have hnext : (tables'.course studyId).confirmedCount .goldenThree =
        (tables.course studyId).confirmedCount .goldenThree + 1 := by
      rw [hcourse]
      exact countP_settle hsound.distinct hcall
    have hworks : ((tables'.course studyId).units .goldenThree).length =
        (tables.course studyId).works.length := by
      rw [hcourse]
      rfl
    have hstatus : (tables'.course studyId).status = (tables.course studyId).status := by
      rw [hcourse]
      rfl
    rw [hstatus] at hselected ⊢
    refine ⟨status_of_last_golden hsound hcall (hselected rfl) ?_, le_of_eq hcount.symm⟩
    rw [← hworks, ← hcount, hnext]
    exact Nat.lt_succ_self _
  · intro hs
    obtain ⟨_, -, hlow, -⟩ := hsound.reached _ hcall
    have hlt : .goldenThree < confirmation.call.stageKey := lt_of_le_of_ne hlow (Ne.symm hs)
    obtain ⟨hstage, hopen⟩ := hsound.stage_of_open hlt hcall (by decide)
    refine ⟨?_, hlt, ?_, ?_⟩
    · rw [hcourse]
      exact hstage
    · by_cases hextraction : confirmation.call.stageKey = .chapterExtraction
      · rw [hextraction] at hcall hcourse ⊢
        rw [hcourse]
        exact done_extraction hsound hcall
      · have hlater : .chapterExtraction < confirmation.call.stageKey := by
          apply lt_of_le_of_ne _ (Ne.symm hextraction)
          rw [AnalyzeStage.lt_iff] at hlt
          exact AnalyzeStage.le_iff.mpr hlt
        exact done_of_count (hkept.courses studyId) hlater (hall hextraction).1
    · rw [hcourse]
      exact hopen

theorem Kept.confirmStage (h : tables.Kept) :
    Holds (Next studyId) (confirmStage hex json files studyId callId result updatedAt) tables
      fun _ _ => True := by
  unfold Corpus.confirmStage
  apply Holds.read_bind
  intro confirmation hconfirmation
  have hconfirms := confirms_of_planConfirmation hconfirmation
  apply Holds.commit_bind
  intro t ht
  rw [raise_eq_ok] at ht
  have hnext : Next studyId tables t := h.storeAnswer hconfirms ht
  refine ⟨hnext, ?_⟩
  apply Holds.read_bind
  intro units hunits
  apply Holds.read_bind
  intro confirmed hconfirmed
  cases hconfirmed
  by_cases hgoes : (confirmation.control.any fun control =>
      control.coverageState = "saturated") = true ∨
      t.confirmedUnits studyId confirmation.call.stageKey = units.length
  · rw [if_pos hgoes]
    obtain ⟨hgolden, hlater⟩ := advance_of_answer h hconfirms (stored_of_storeAnswer ht) hnext.kept
      hunits hgoes
    exact (hnext.kept.advanceStage hgolden hlater).bind fun _ _ _ => Holds.pure trivial
  · rw [if_neg hgoes]
    exact Holds.pure trivial

end Confirming

end Next

end StudyTables

end Quillframe.Corpus
