import Quillframe.Corpus.StudyCourses

/-!
# Runs of corpus studies

The calls on the studies may come in any order, with any files and answers, and each may be stopped
behind any of its commits. Whatever the run, a study takes the steps of its course.
-/
namespace Quillframe.Corpus

variable {Fp : Type}

/-! ## Runs -/

/-- A call on the database, with the files and the identifiers that it comes upon. -/
inductive StudyOperation (Fp : Type) where
  | scanCollection (collection : Collection) (createdAt : String)
  | proposeSelection (collectionId profile : String) (limit : Option ℕ) (createdAt : String)
  | confirmSelection (studyId : String) (workIds : List String) (fingerprint : Fp)
    (profile createdAt : String)
  | dispatchNextStage (files : String → CoreResult ByteArray)
    (studyId model callUuid createdAt : String)
  | confirmStage (files : String → CoreResult ByteArray) (studyId callId : String)
    (result : ModelResult Fp) (updatedAt : String)
  | markStageUnconfirmed (studyId callId errorCode updatedAt : String)
  | continueAfterGoldenThree (studyId : String) (expectedCheckpoint : Fp)
    (authorization uuid createdAt : String)
  | cancelStudy (studyId updatedAt : String)

section Run

variable [Sha256 Fp] [DecidableEq Fp] (hex : Fp → String) (json : StudyJson Fp)
  (sha256 : ByteArray → Fp)

def StudyOperation.perform : StudyOperation Fp → Commits Abort (StudyTables Fp) Unit
  | .scanCollection collection createdAt => .commit fun tables => raise do
    let (scans, _) ← Corpus.scanCollection hex sha256 tables.scans collection createdAt
    return { tables with scans }
  | .proposeSelection collectionId profile limit createdAt => do
    let _ ← Corpus.proposeSelection hex collectionId profile limit createdAt
  | .confirmSelection studyId workIds fingerprint profile createdAt => do
    let _ ← Corpus.confirmSelection studyId workIds fingerprint profile createdAt
  | .dispatchNextStage files studyId model callUuid createdAt => do
    let _ ← Corpus.dispatchNextStage hex json sha256 files studyId model callUuid createdAt
  | .confirmStage files studyId callId result updatedAt => do
    let _ ← Corpus.confirmStage hex json files studyId callId result updatedAt
  | .markStageUnconfirmed studyId callId errorCode updatedAt =>
    Corpus.markStageUnconfirmed studyId callId errorCode updatedAt
  | .continueAfterGoldenThree studyId expectedCheckpoint authorization uuid createdAt =>
    Corpus.continueAfterGoldenThree studyId expectedCheckpoint authorization uuid createdAt
  | .cancelStudy studyId updatedAt => Corpus.cancelStudy studyId updatedAt

/-- Calls one after the other, each stopped behind some of its commits, or not at all. -/
def StudyTables.run (tables : StudyTables Fp) : List (StudyOperation Fp × ℕ) → StudyTables Fp
  | [] => tables
  | (operation, count) :: rest =>
    StudyTables.run ((operation.perform hex json sha256).stopped count tables) rest

end Run

namespace StudyTables

section Next

variable [Sha256 Fp] {tables tables' : StudyTables Fp} {studyId : String}

/-! ## Any order of calls -/

section Runs

open Commits

/-- A commit of some study. -/
def Changes (tables tables' : StudyTables Fp) : Prop :=
  ∃ studyId, Next studyId tables tables'

variable [DecidableEq Fp] {hex : Fp → String} {json : StudyJson Fp} {sha256 : ByteArray → Fp}

theorem Kept.perform (h : tables.Kept) (operation : StudyOperation Fp) :
    Holds Changes (operation.perform hex json sha256) tables fun _ _ => True := by
  have hsome : ∀ {studyId : String} (s t : StudyTables Fp), Next studyId s t → Changes s t :=
    fun _ _ hnext => ⟨_, hnext⟩
  have hdone : ∀ {α : Type} {x : Commits Abort (StudyTables Fp) α},
      Holds Changes x tables (fun _ _ => True) →
        Holds Changes (do let _ ← x) tables fun _ _ => True :=
    fun hx => hx.bind fun _ _ _ => Holds.pure trivial
  cases operation with
  | scanCollection collection createdAt =>
    apply h.scanCollection.imp
    intro s t hkept
    exact ⟨"", hkept.1, fun _ _ => congrFun hkept.2 _, .inl (congrFun hkept.2 _)⟩
  | proposeSelection collectionId profile limit createdAt =>
    apply hdone
    apply h.proposeSelection.imp
    intro s t hproposed
    exact hproposed.imp fun _ hnext => hnext.1
  | confirmSelection studyId workIds fingerprint profile createdAt =>
    exact hdone (h.confirmSelection.imp hsome)
  | dispatchNextStage files studyId model callUuid createdAt =>
    exact hdone (h.dispatchNextStage.imp hsome)
  | confirmStage files studyId callId result updatedAt => exact hdone (h.confirmStage.imp hsome)
  | markStageUnconfirmed studyId callId errorCode updatedAt =>
    exact h.markStageUnconfirmed.imp hsome
  | continueAfterGoldenThree studyId expectedCheckpoint authorization uuid createdAt =>
    exact h.continueAfterGoldenThree.imp hsome
  | cancelStudy studyId updatedAt =>
    apply h.cancelStudy.imp
    intro s t hcancelled
    exact ⟨studyId, hcancelled.1⟩

omit [DecidableEq Fp] in
theorem Kept.of_steps (h : tables.Kept) (hsteps : Relation.ReflTransGen Changes tables tables') :
    tables'.Kept := by
  induction hsteps with
  | refl => exact h
  | tail _ hstep _ => exact hstep.choose_spec.kept

/-- Calls are steps, wherever they are stopped. -/
theorem Kept.run (h : tables.Kept) (calls : List (StudyOperation Fp × ℕ)) :
    Relation.ReflTransGen Changes tables (tables.run hex json sha256 calls) := by
  induction calls generalizing tables with
  | nil => exact .refl
  | cons call rest ih =>
    have hcall : Relation.ReflTransGen Changes tables
        ((call.1.perform hex json sha256).stopped call.2 tables) :=
      (h.perform call.1).stopped call.2
    exact hcall.trans (ih (h.of_steps hcall))

omit [DecidableEq Fp] in
theorem courses_of_steps (hsteps : Relation.ReflTransGen Changes tables tables')
    (studyId : String) :
    Relation.ReflTransGen Course.Step (tables.course studyId) (tables'.course studyId) := by
  induction hsteps with
  | refl => exact .refl
  | tail _ hstep ih =>
    obtain ⟨owner, hnext⟩ := hstep
    by_cases hid : studyId = owner
    · subst hid
      rcases hnext.step with hsame | hstep
      · rwa [hsame]
      · exact ih.tail hstep
    · rwa [hnext.others studyId hid]

theorem run_append (tables : StudyTables Fp) (calls more : List (StudyOperation Fp × ℕ)) :
    tables.run hex json sha256 (calls ++ more) =
      (tables.run hex json sha256 calls).run hex json sha256 more := by
  induction calls generalizing tables with
  | nil => rfl
  | cons call rest ih => exact ih _

end Runs
/-! ## Studies at rest -/

section Rest

open Commits

/-- A commit that leaves a study at rest. -/
def Stays (studyId : String) (c : Course) (tables tables' : StudyTables Fp) : Prop :=
  tables'.Kept ∧ (c.Rests (tables.course studyId) → c.Rests (tables'.course studyId))

theorem Next.stays {owner : String} {c : Course} (h : Next owner tables tables')
    (hid : studyId ≠ owner) : Stays studyId c tables tables' := by
  refine ⟨h.kept, ?_⟩
  rw [h.others studyId hid]
  exact id

variable [DecidableEq Fp] {hex : Fp → String} {json : StudyJson Fp} {sha256 : ByteArray → Fp}
  {files : String → CoreResult ByteArray} {model callUuid createdAt callId updatedAt : String}
  {result : ModelResult Fp}

theorem plan_of_idle {plan : DispatchPlan Fp} (hidle : (tables.course studyId).Idle)
    (hplan : tables.planDispatch hex json sha256 files studyId model callUuid createdAt =
      .ok plan) : plan = .nothing := by
  simp only [planDispatch, bind_eq_ok, raise_eq_ok, require_eq_ok, exists_const] at hplan
  obtain ⟨-, ⟨proposal, study⟩, hjoined, -, hplan⟩ := hplan
  obtain ⟨hstatus, hstage, -⟩ := course_of_joined hjoined
  by_cases hover : proposal.status = .complete ∨ proposal.status = .cancelled
  · rw [if_pos hover, pure_eq_ok] at hplan
    exact hplan.symm
  rw [if_neg hover] at hplan
  have hstill := hidle.still
  simp only [hstatus, hstage, Option.some.injEq] at hstill
  have hrunning : study.currentStage = .chapterExtraction ∧ (tables.course studyId).queue = [] ∧
      ∃ u, (tables.course studyId).Called .chapterExtraction u := by tauto
  obtain ⟨hextraction, hqueue, u, hcalled⟩ := hrunning
  simp only [bind_eq_ok, raise_eq_ok] at hplan
  obtain ⟨units, hunits, pending, hpending, hplan⟩ := hplan
  obtain ⟨-, hunitsOf⟩ := requestedUnits_eq_ok (joined_eq_ok.mp hjoined).2 hunits
  have hnone : units = [] := by
    rcases hunitsOf hextraction with hnone | hsame
    · exact absurd hcalled (hnone u)
    · rw [hsame, hqueue]
  rw [hnone, pendingUnit, Except.ok.injEq] at hpending
  subst hpending
  rw [pure_eq_ok, if_pos hextraction] at hplan
  exact hplan.symm

theorem Kept.perform_idle (h : tables.Kept) (hidle : (tables.course studyId).Idle)
    (operation : StudyOperation Fp) :
    Holds (Stays studyId (tables.course studyId)) (operation.perform hex json sha256) tables
      fun _ _ => True := by
  have hdone : ∀ {α : Type} {x : Commits Abort (StudyTables Fp) α},
      Holds (Stays studyId (tables.course studyId)) x tables (fun _ _ => True) →
        Holds (Stays studyId (tables.course studyId)) (do let _ ← x) tables fun _ _ => True :=
    fun hx => hx.bind fun _ _ _ => Holds.pure trivial
  have hother : ∀ {owner : String}, studyId ≠ owner → ∀ s t : StudyTables Fp, Next owner s t →
      Stays studyId (tables.course studyId) s t := fun hid _ _ hnext => hnext.stays hid
  cases operation with
  | scanCollection collection createdAt =>
    apply h.scanCollection.imp
    intro s t hkept
    refine ⟨hkept.1, ?_⟩
    rw [hkept.2]
    exact id
  | proposeSelection collectionId profile limit createdAt =>
    apply hdone
    apply h.proposeSelection.imp
    intro s t hproposed
    obtain ⟨owner, hnext, hsame⟩ := hproposed
    refine ⟨hnext.kept, ?_⟩
    intro hrests
    have hknown : (s.course studyId).status ≠ none := by
      intro hnone
      have hstill := (hidle.rests hrests).still
      simp [hnone] at hstill
    by_cases hid : studyId = owner
    · rw [hid, hsame (hid ▸ hknown), ← hid]
      exact hrests
    · rwa [hnext.others studyId hid]
  | confirmSelection owner workIds fingerprint profile createdAt =>
    by_cases hid : studyId = owner
    · subst hid
      apply hdone
      unfold Corpus.confirmSelection
      apply Holds.read_bind
      intro selection hselection
      obtain ⟨stored, hstored, hopen, -⟩ := checkSelection_eq_ok (raise_eq_ok.mp hselection)
      have hstatus : (tables.course studyId).status = some stored.status := by
        simp only [course, hstored, Option.map_some]
      have hstill := hidle.still
      rcases hopen with ho | ho <;> simp [hstatus, ho] at hstill
    · exact hdone (h.confirmSelection.imp (hother hid))
  | dispatchNextStage files owner model callUuid createdAt =>
    by_cases hid : studyId = owner
    · subst hid
      apply hdone
      unfold Corpus.dispatchNextStage
      apply Holds.read_bind
      intro plan hplan
      rw [plan_of_idle hidle hplan]
      exact Holds.pure trivial
    · exact hdone (h.dispatchNextStage.imp (hother hid))
  | confirmStage files owner callId result updatedAt =>
    by_cases hid : studyId = owner
    · subst hid
      apply hdone
      unfold Corpus.confirmStage
      apply Holds.read_bind
      intro confirmation hconfirmation
      have hconfirms := confirms_of_planConfirmation hconfirmation
      obtain ⟨-, hstudy, hdispatched⟩ := hconfirms.call
      have hcall := mem_course_calls.mpr ⟨_, hconfirms.mem, hstudy, rfl⟩
      exact absurd hdispatched (hidle.answered _ hcall)
    · exact hdone (h.confirmStage.imp (hother hid))
  | markStageUnconfirmed owner callId errorCode updatedAt =>
    by_cases hid : studyId = owner
    · subst hid
      apply Holds.commit
      intro t ht
      simp only [raise_eq_ok, bind_eq_ok, require_eq_ok, exists_const] at ht
      obtain ⟨call, hcalls⟩ := List.length_eq_one_iff.mp ht.1
      have hfound := List.mem_filter.mp (hcalls ▸ List.mem_singleton_self call)
      rw [decide_eq_true_eq] at hfound
      obtain ⟨hrow, hstudy, -, hdispatched⟩ := hfound
      exact absurd hdispatched (hidle.answered _ (mem_course_calls.mpr ⟨call, hrow, hstudy, rfl⟩))
    · exact h.markStageUnconfirmed.imp (hother hid)
  | continueAfterGoldenThree owner expectedCheckpoint authorization uuid createdAt =>
    by_cases hid : studyId = owner
    · subst hid
      apply Holds.read_bind
      intro checkpoint hcheckpoint
      simp only [checkContinuation, raise_eq_ok, bind_eq_ok, require_eq_ok,
        exists_const] at hcheckpoint
      obtain ⟨-, ⟨proposal, study⟩, hjoined, hopen, -⟩ := hcheckpoint
      have hpaused : proposal.status = .pausedGoldenThree := by tauto
      have hstill := hidle.still
      simp [(course_of_joined hjoined).1, hpaused] at hstill
    · exact h.continueAfterGoldenThree.imp (hother hid)
  | cancelStudy owner updatedAt =>
    apply h.cancelStudy.imp
    intro s t hcancelled
    by_cases hid : studyId = owner
    · subst hid
      exact ⟨hcancelled.1.kept, fun hrests => hrests.trans hcancelled.2⟩
    · exact hcancelled.1.stays hid

omit [DecidableEq Fp] in
theorem stays_of_steps {c : Course} (h : tables.Kept)
    (hsteps : Relation.ReflTransGen (Stays studyId c) tables tables')
    (hrests : c.Rests (tables.course studyId)) :
    tables'.Kept ∧ c.Rests (tables'.course studyId) := by
  induction hsteps with
  | refl => exact ⟨h, hrests⟩
  | tail _ hstep ih => exact ⟨hstep.1, hstep.2 ih.2⟩

/-- A study at rest stays so, whatever is called. -/
theorem Kept.rests (h : tables.Kept) (hidle : (tables.course studyId).Idle)
    (calls : List (StudyOperation Fp × ℕ)) : (tables.course studyId).Rests
      ((tables.run hex json sha256 calls).course studyId) := by
  induction calls generalizing tables with
  | nil => exact .inl rfl
  | cons call rest ih =>
    have hsteps : Relation.ReflTransGen (Stays studyId (tables.course studyId)) tables
        ((call.1.perform hex json sha256).stopped call.2 tables) :=
      (h.perform_idle hidle call.1).stopped call.2
    obtain ⟨hkept, hrests⟩ := stays_of_steps h hsteps (.inl rfl)
    exact hrests.trans (ih hkept (hidle.rests hrests))

end Rest
end Next

/-! ## Every run of the calls -/

section Reachable

variable [Sha256 Fp] [DecidableEq Fp] (hex : Fp → String) (json : StudyJson Fp)
  (sha256 : ByteArray → Fp)

theorem kept_run (calls : List (StudyOperation Fp × ℕ)) :
    (empty.run hex json sha256 calls : StudyTables Fp).Kept :=
  kept_empty.of_steps (kept_empty.run calls)

/-- Whatever is called in whichever order, and wherever a call is stopped, each study takes the
steps of its course. -/
theorem course_run (calls : List (StudyOperation Fp × ℕ)) (studyId : String) :
    Relation.ReflTransGen Course.Step Course.unknown
      ((empty.run hex json sha256 calls : StudyTables Fp).course studyId) :=
  courses_of_steps (kept_empty.run calls) studyId

/-- No unit is called twice, and exactly the confirmed calls have artifacts, which keep their
answers and name their evidence. -/
theorem answers_recorded (calls : List (StudyOperation Fp × ℕ)) :
    ((empty.run hex json sha256 calls : StudyTables Fp).calls.map fun call =>
        (call.studyId, call.stageKey, call.unitKey)).Nodup ∧
      (empty.run hex json sha256 calls : StudyTables Fp).Recorded := by
  have hkept := kept_run hex json sha256 calls
  refine ⟨?_, hkept.recorded⟩
  apply List.Nodup.map_on _ hkept.calls.of_map
  intro call hcall other hother hkey
  simp only [Prod.mk.injEq] at hkey
  exact hkept.call_unique hcall hother hkey.1 hkey.2.1 hkey.2.2

theorem stages_in_order (calls : List (StudyOperation Fp × ℕ)) (studyId : String) :
    ((empty.run hex json sha256 calls : StudyTables Fp).course studyId).InOrder :=
  ((kept_run hex json sha256 calls).courses studyId).inOrder

/-- Nothing of a study is undone by further calls. -/
theorem course_later (calls more : List (StudyOperation Fp × ℕ)) (studyId : String) :
    ((empty.run hex json sha256 calls : StudyTables Fp).course studyId).Later
      ((empty.run hex json sha256 (calls ++ more)).course studyId) := by
  have hkept := kept_run hex json sha256 calls
  rw [run_append]
  exact (hkept.courses studyId).later (courses_of_steps (hkept.run more) studyId)

/-- Further calls leave a study at rest, and only cancel it. -/
theorem course_rests (calls more : List (StudyOperation Fp × ℕ)) (studyId : String)
    (hidle : ((empty.run hex json sha256 calls : StudyTables Fp).course studyId).Idle) :
    ((empty.run hex json sha256 calls : StudyTables Fp).course studyId).Rests
      ((empty.run hex json sha256 (calls ++ more)).course studyId) := by
  rw [run_append]
  exact (kept_run hex json sha256 calls).rests hidle more

end Reachable

namespace Sample

open Commits Corpus.Sample

/-- Nothing of the run below is written or read as JSON. -/
def studyJson : StudyJson Digest := ⟨fun _ => "", fun _ => .error "", fun _ => .error ""⟩

section Cancelled

variable [Sha256 Fp] [DecidableEq Fp] {hex : Fp → String} {json : StudyJson Fp}
  {sha256 : ByteArray → Fp} {tables : StudyTables Fp}

theorem stopped_scan {collection : Collection} {createdAt : String} {scans : ScanTables Fp}
    {report : Json Fp}
    (h : scanCollection hex sha256 tables.scans collection createdAt = .ok (scans, report)) :
    ((StudyOperation.scanCollection collection createdAt).perform hex json sha256).stopped 1
      tables = { tables with scans } := by
  unfold StudyOperation.perform Commits.stopped Commits.commit
  simp only [h]
  rfl

theorem stopped_propose {collectionId profile createdAt : String} {limit : Option ℕ}
    {projection : CorpusSelectionProjection Fp}
    (h : tables.proposeItems hex collectionId profile limit = .ok projection)
    (hnone : tables.proposals = []) :
    ∃ row : SelectionProposal Fp, row.studyId = projection.studyId ∧ row.status = .proposed ∧
      ((StudyOperation.proposeSelection collectionId profile limit createdAt).perform hex json
        sha256).stopped 1 tables = { tables with proposals := [row] } := by
  set row : SelectionProposal Fp :=
    { studyId := projection.studyId, collectionId, profile
      proposalFingerprint := projection.proposalFingerprint, selection := projection.items
      status := .proposed, createdAt, updatedAt := createdAt }
  have hread : (Commits.read fun tables : StudyTables Fp =>
      tables.proposeItems hex collectionId profile limit) tables = ([], .ok projection) := by
    rw [Commits.read, h]
  have hinsert : tables.insertProposal row = .ok { tables with proposals := [row] } := by
    simp only [insertProposal, proposal?, Table.lookup, hnone, List.find?_nil, Option.isSome_none]
    rfl
  have hcommit : (Commits.commit fun tables => raise (tables.insertProposal row)) tables =
      ([{ tables with proposals := [row] }], .ok ()) := by
    rw [Commits.commit, hinsert]
    rfl
  have hpropose : Corpus.proposeSelection hex collectionId profile limit createdAt tables =
      ([{ tables with proposals := [row] }], .ok projection) := by
    rw [Corpus.proposeSelection, bind_of_ok hread, last, bind_of_ok hcommit]
    rfl
  refine ⟨row, rfl, rfl, ?_⟩
  rw [StudyOperation.perform, Commits.stopped, bind_of_ok hpropose]
  rfl

theorem status_cancelled {studyId updatedAt : String} {row : SelectionProposal Fp}
    (hproposals : tables.proposals = [row]) (hrow : row.studyId = studyId)
    (hopen : row.status = .proposed) :
    ((((StudyOperation.cancelStudy studyId updatedAt).perform hex json sha256).stopped 2
      tables).course studyId).status = some .cancelled := by
  have hstopped : ((StudyOperation.cancelStudy studyId updatedAt).perform hex json sha256).stopped
      2 tables = (tables.updateProposal studyId
        (SelectionProposal.withdrawn updatedAt)).updateStudy studyId fun row =>
          { row with cancelRequested := true, updatedAt } := rfl
  have hfound : tables.proposal? studyId = some row := by
    simp [proposal?, Table.lookup, hproposals, hrow]
  rw [hstopped, course_updateStudy_same, course_updateProposal withdrawn_studyId
    withdrawn_selection, if_pos rfl, hfound]
  · simp [SelectionProposal.withdrawn, hopen]
  · exact fun _ => rfl
  · exact fun _ => rfl
  · exact fun _ => rfl

omit [DecidableEq Fp] in
/-- The works of a scan are all proposed while there are few of them. -/
theorem exists_items {collectionId : String} (hcollection : ∃ row ∈ tables.scans.collections,
      row.collectionId = collectionId) (hblank : blank collectionId = false)
    (hfew : tables.scans.versions.length ≤ 24) :
    ∃ projection, tables.proposeItems hex collectionId "general" none = .ok projection := by
  have havailable : (tables.scans.eligible collectionId).length ≤ 24 :=
    (List.length_filter_le _ _).trans hfew
  have hpool : (tables.scans.pool collectionId).length =
      (tables.scans.eligible collectionId).length := by
    rw [ScanTables.pool, List.length_map, List.length_insertionSort]
  have hselection : coverageStratifiedSelection (tables.scans.pool collectionId)
      (proposalSize none (tables.scans.eligible collectionId).length) =
        some ((tables.scans.pool collectionId).map (·.1)) := by
    rw [coverageStratifiedSelection, if_pos]
    rw [hpool, proposalSize, Option.getD_none, defaultProposalLimit]
    omega
  simp only [proposeItems, bind_eq_ok, raise_eq_ok, require_eq_ok, fetch_eq_ok, exists_const,
    pure_eq_ok]
  exact ⟨_, .inl trivial, by simp [hblank], hcollection, _, hselection, rfl⟩

end Cancelled

theorem length_works :
    (sortWorks ((pairCollection "one" "two").found Digest.ofBytes)).length = 2 := by
  rw [(perm_sortWorks _).length_eq, distinct_eligible.length_found]
  decide +kernel

/-- A study that is proposed and cancelled is at rest. -/
theorem exists_idle : ∃ (calls : List (StudyOperation Digest × ℕ)) (studyId : String),
    ((empty.run Digest.hex studyJson Digest.ofBytes calls).course studyId).Idle := by
  have hnew : ∀ scan, ¬ Known Digest.hex (ScanTables.empty : ScanTables Digest) scan := by
    intro scan hknown
    obtain ⟨row, hrow, -⟩ := hknown
    cases hrow
  obtain ⟨scans, report, hscan⟩ := (derived_empty.scans_iff Digest.ofBytes_injective
    Digest.hex_injective distinct_eligible "now").mpr
      ⟨by decide +kernel, roomy_of_length_le (by decide)⟩
  obtain ⟨-, hstored, -⟩ := (scanCollection_of_eligible distinct_eligible report).mp hscan
  obtain ⟨-, -, hscans⟩ := (storeScan_of_new derived_empty Digest.hex_injective (hnew _)).mp hstored
  set collectionId := Corpus.collectionId Digest.hex
    (scanFingerprint (pairCollection "one" "two").identity
      (sortWorks ((pairCollection "one" "two").found Digest.ofBytes))) with hid
  have hscanned : ((StudyOperation.scanCollection (pairCollection "one" "two") "now").perform
      Digest.hex studyJson Digest.ofBytes).stopped 1 empty = { empty with scans } :=
    stopped_scan hscan
  have hprefix : "collection_".toList.all isWhitespace = false := by decide
  have hblank : blank collectionId = false := by
    rw [hid, Corpus.collectionId, blank, String.toList_append, List.all_append, hprefix,
      Bool.false_and]
  have hfew : scans.versions.length ≤ 24 := by
    simp [hscans, ScanTables.withScan, ScanTables.empty, length_works]
  have hcollection : ∃ row ∈ scans.collections, row.collectionId = collectionId := by
    rw [hscans]
    exact ⟨_, List.mem_append_right _ (List.mem_singleton_self _), rfl⟩
  obtain ⟨projection, hprojection⟩ : ∃ projection,
      ({ empty with scans } : StudyTables Digest).proposeItems Digest.hex collectionId "general"
        none = .ok projection := exists_items hcollection hblank hfew
  obtain ⟨row, hrow, hopen, hproposed⟩ : ∃ row : SelectionProposal Digest,
      row.studyId = projection.studyId ∧ row.status = .proposed ∧
        ((StudyOperation.proposeSelection collectionId "general" none "now").perform Digest.hex
          studyJson Digest.ofBytes).stopped 1 { empty with scans } =
            { ({ empty with scans } : StudyTables Digest) with proposals := [row] } :=
    stopped_propose hprojection rfl
  refine ⟨[(.scanCollection (pairCollection "one" "two") "now", 1),
    (.proposeSelection collectionId "general" none "now", 1),
    (.cancelStudy projection.studyId "now", 2)], projection.studyId, ?_⟩
  rw [StudyTables.run, StudyTables.run, StudyTables.run, StudyTables.run, hscanned, hproposed]
  constructor
  · intro call hcall
    cases hcall
  · exact .inr (.inl (status_cancelled rfl hrow hopen))

end Sample

theorem course_rests_sample : ∃ (calls : List (StudyOperation Digest × ℕ)) (studyId : String),
    ((empty.run Digest.hex Sample.studyJson Digest.ofBytes calls).course studyId).Idle ∧
      ∀ more : List (StudyOperation Digest × ℕ),
        ((empty.run Digest.hex Sample.studyJson Digest.ofBytes calls).course studyId).Rests
          ((empty.run Digest.hex Sample.studyJson Digest.ofBytes (calls ++ more)).course
            studyId) := by
  obtain ⟨calls, studyId, hidle⟩ := Sample.exists_idle
  exact ⟨calls, studyId, hidle, fun more => course_rests _ _ _ calls more studyId hidle⟩

end StudyTables

end Quillframe.Corpus
