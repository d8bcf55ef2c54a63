import Quillframe.ProjectRuns
import Quillframe.ReviewReports

/-!
# Review evidence

The calls that write review reports and releases, and what the reports behind accepted candidates
say.
-/
namespace Quillframe

open Json (str fp obj)
open Relation Database

variable {Fp : Type}

/-! ## The calls -/

section Calls

variable [Sha256 Fp]

variable [DecidableEq Fp]

def saveReviewReport (report : ReviewReport Fp) (createdAt : String) (db : Database Fp) :
    CoreResult (Database Fp) := do
  report.validate report.candidateFingerprint
  requireTimestamp createdAt
  require (report.fingerprint ∉ db.reviewReports.map (·.reportFingerprint))
    (uniqueFailed "structured_review_reports.report_fingerprint")
  return { db with
    reviewReports := db.reviewReports ++
      [{ reportFingerprint := report.fingerprint
         candidateFingerprint := report.candidateFingerprint, mode := report.mode
         decision := report.decision, independentContext := report.independentContext
         payload := report, createdAt }] }

def saveProductionRelease (release : ProductionRelease Fp) (db : Database Fp) :
    CoreResult (Database Fp) := do
  release.validate
  let candidate ← fetch (db.candidate? release.candidateId) noRows
  let documentId ← fetch candidate.documentId (nullColumn "document_id")
  let revisionId ← fetch candidate.revisionId (nullColumn "revision_id")
  require (candidate.status = .reviewDraft ∧
      candidate.contentFingerprint = release.candidateFingerprint)
    (.authorityConflict "production release candidate is stale or not reviewable")
  let revision ← fetch (Table.lookup DocumentRevision.revisionId revisionId db.documentRevisions)
    noRows
  require (revision.documentId = documentId ∧
      revision.contentFingerprint = release.candidateFingerprint ∧
      Sha256.ofText revision.content = revision.contentFingerprint)
    (.authorityConflict "production release bytes are not bound to the candidate")
  require ((db.reviewReports.filter fun report =>
      report.reportFingerprint = release.reviewReportFingerprint ∧
        report.candidateFingerprint = release.candidateFingerprint ∧
        report.decision = .accept ∧ report.independentContext = true).length = 1)
    (.authorityConflict "production release requires its exact independent accept report")
  require ((db.writerPackFreezes.filter fun pack =>
      pack.writerPackFingerprint = release.writerPackFingerprint ∧
        pack.trackingFingerprint = release.trackingFingerprint).length = 1)
    (.authorityConflict "production release requires its exact Writer Pack and tracking freeze")
  require (release.releaseId ∉ db.productionReleases.map (·.releaseId))
    (uniqueFailed "production_releases.release_id")
  require ((release.candidateId, release.candidateFingerprint) ∉
      db.productionReleases.map fun other => (other.candidateId, other.candidateFingerprint))
    (uniqueFailed "production_releases.candidate_id, production_releases.candidate_fingerprint")
  require (release.fingerprint ∉ db.productionReleases.map (·.releaseFingerprint))
    (uniqueFailed "production_releases.release_fingerprint")
  return { db with
    productionReleases := db.productionReleases ++
      [{ releaseId := release.releaseId, candidateId := release.candidateId
         candidateFingerprint := release.candidateFingerprint
         writerPackFingerprint := release.writerPackFingerprint
         trackingFingerprint := release.trackingFingerprint
         reviewReportFingerprint := release.reviewReportFingerprint
         stageReceiptFingerprints := release.stageReceiptFingerprints, payload := release
         releaseFingerprint := release.fingerprint, releasedAt := release.releasedAt }] }

end Calls

/-- The report that a call writes. -/
inductive WrittenReport (Fp : Type) where
  | nothing
  | saved (report : ReviewReport Fp)
  | released (report : ReviewReport Fp)

/-- A saved report that accepts in an independent context has no findings. A released one, whose
row says so whatever the report says, has no findings and an independent context. -/
def WrittenReport.Honest : WrittenReport Fp → Prop
  | .nothing => True
  | .saved report =>
    report.decision = .accept → report.independentContext = true → report.findings = []
  | .released report => report.independentContext = true ∧ report.findings = []

section Steps

variable [Sha256 Fp] [DecidableEq Fp] [Documents Fp] [SerdeJson Fp]

/-- One call. The other calls of the program leave the reports and the candidates alone. -/
inductive ReviewStep : WrittenReport Fp → Database Fp → Database Fp → Prop
  | saveReport {db db' : Database Fp} (report createdAt)
      (h : saveReviewReport report createdAt db = .ok db') : ReviewStep (.saved report) db db'
  | saveRelease {db db' : Database Fp} (release)
      (h : saveProductionRelease release db = .ok db') : ReviewStep .nothing db db'
  | release {db db' : Database Fp} (runId documentId taskMode candidate report release
      boundedEvidence createdAt ids answer)
      (h : commitReleasedCandidate runId documentId taskMode candidate report release
        boundedEvidence createdAt ids db = .ok (answer, db')) :
      ReviewStep (.released report) db db'
  | accept {db db' : Database Fp} (decision acceptanceId)
      (h : acceptCandidate decision db = .ok (acceptanceId, db')) : ReviewStep .nothing db db'
  | others {db db' : Database Fp} (h : ReflTransGen ProjectStep db db')
      (reports : db'.reviewReports = db.reviewReports)
      (candidates : db'.candidates = db.candidates) : ReviewStep .nothing db db'

/-- A call whose report is honest. -/
def HonestStep (db db' : Database Fp) : Prop := ∃ written, ReviewStep written db db' ∧ written.Honest

/-! ## Genuine evidence -/

end Steps

/-- The report of a row accepts its candidate in an independent context, without findings. -/
structure ReviewReportRow.Genuine (row : ReviewReportRow Fp) : Prop where
  decision : row.payload.decision = .accept
  independent : row.payload.independentContext = true
  findings : row.payload.findings = []
  candidate : row.payload.candidateFingerprint = row.candidateFingerprint

/-- The row counts for the gate of an acceptance. -/
def ReviewReportRow.counts (row : ReviewReportRow Fp) : Prop :=
  row.decision = .accept ∧ row.independentContext = true

structure Database.Reviewed (db : Database Fp) : Prop where
  candidateIds : (db.candidates.map (·.candidateId)).Nodup
  genuine : ∀ row ∈ db.reviewReports, row.counts → row.Genuine
  accepted : ∀ candidate ∈ db.candidates, candidate.status = .accepted →
    ∃ row ∈ db.reviewReports, row.candidateFingerprint = candidate.contentFingerprint ∧
      row.counts

section Evidence

variable [Sha256 Fp] [DecidableEq Fp]

omit [DecidableEq Fp] in
/-- A report that is created accepts only without findings, so it is honest where it is saved. -/
theorem ReviewReport.create_honest {input : ReviewReportInput Fp} {report : ReviewReport Fp}
    (h : ReviewReport.create input = .ok report) : (WrittenReport.saved report).Honest := by
  intro haccept _
  simp only [ReviewReport.create, bind_eq_ok, pure_eq_ok] at h
  obtain ⟨_, -, _, -, rfl⟩ := h
  by_contra hfindings
  have hinput : input.findings ≠ [] := hfindings
  simp only [hinput, if_false] at haccept
  split_ifs at haccept

theorem saveReviewReport_reviewed {report : ReviewReport Fp} {createdAt : String}
    {db db' : Database Fp} (hdb : db.Reviewed)
    (h : saveReviewReport report createdAt db = .ok db')
    (hhonest : (WrittenReport.saved report).Honest) : db'.Reviewed := by
  simp only [saveReviewReport, bind_eq_ok, pure_eq_ok] at h
  obtain ⟨_, -, _, -, _, -, rfl⟩ := h
  refine ⟨hdb.candidateIds, fun row hrow hcounts => ?_, fun candidate hcandidate haccepted => ?_⟩
  · rcases List.mem_append.mp hrow with hrow | hrow
    · exact hdb.genuine row hrow hcounts
    · obtain rfl := List.mem_singleton.mp hrow
      exact ⟨hcounts.1, hcounts.2, hhonest hcounts.1 hcounts.2, rfl⟩
  · obtain ⟨row, hrow, hbound, hcounts⟩ := hdb.accepted candidate hcandidate haccepted
    exact ⟨row, List.mem_append_left _ hrow, hbound, hcounts⟩

theorem saveProductionRelease_frame {release : ProductionRelease Fp} {db db' : Database Fp}
    (h : saveProductionRelease release db = .ok db') :
    db'.reviewReports = db.reviewReports ∧ db'.candidates = db.candidates := by
  simp only [saveProductionRelease, bind_eq_ok, pure_eq_ok] at h
  obtain ⟨_, -, _, -, _, -, _, -, _, -, _, -, _, -, _, -, _, -, _, -, _, -, _, -, rfl⟩ := h
  exact ⟨rfl, rfl⟩

omit [Sha256 Fp] [DecidableEq Fp] in
theorem Database.Reviewed.append {db db' : Database Fp} (hdb : db.Reviewed)
    {row : ReviewReportRow Fp} {candidate : CandidateRow Fp} (hrow : row.counts → row.Genuine)
    (hfresh : candidate.candidateId ∉ db.candidates.map (·.candidateId))
    (hstatus : candidate.status ≠ .accepted)
    (hreports : db'.reviewReports = db.reviewReports ++ [row])
    (hcandidates : db'.candidates = db.candidates ++ [candidate]) : db'.Reviewed := by
  refine ⟨?_, fun other hother hcounts => ?_, fun other hother haccepted => ?_⟩
  · rw [hcandidates]
    refine Table.nodup_append_singleton hdb.candidateIds fun other hother he => hfresh ?_
    exact List.mem_map.mpr ⟨other, hother, he⟩
  · rw [hreports] at hother
    rcases List.mem_append.mp hother with hother | hother
    · exact hdb.genuine other hother hcounts
    · obtain rfl := List.mem_singleton.mp hother
      exact hrow hcounts
  · rw [hcandidates] at hother
    rcases List.mem_append.mp hother with hother | hother
    · obtain ⟨found, hfound, hbound, hcounts⟩ := hdb.accepted other hother haccepted
      exact ⟨found, hreports ▸ List.mem_append_left _ hfound, hbound, hcounts⟩
    · obtain rfl := List.mem_singleton.mp hother
      exact absurd haccepted hstatus

variable [Documents Fp]

/-- The report of a release accepts and is bound to the candidate. -/
theorem commitReleasedCandidate_report {runId documentId : String} {taskMode : ProductionTaskMode}
    {candidate : CandidateArtifact Fp} {report : ReviewReport Fp} {release : ProductionRelease Fp}
    {boundedEvidence : CoreResult (String × OrderedMap String Fp)} {createdAt : String}
    {ids : ReleaseIds} {answer : String × String} {db db' : Database Fp}
    (h : commitReleasedCandidate runId documentId taskMode candidate report release
      boundedEvidence createdAt ids db = .ok (answer, db')) :
    report.decision = .accept ∧ report.candidateFingerprint = candidate.fingerprint := by
  simp only [commitReleasedCandidate, bind_eq_ok, require_eq_ok, exists_const] at h
  obtain ⟨_, -, _, -, _, hreport, _, -, ⟨hdecision, -⟩, -⟩ := h
  simp only [ReviewReport.validate, bind_eq_ok, require_eq_ok, exists_const] at hreport
  exact ⟨hdecision, hreport.1⟩

theorem commitReleasedCandidate_reviewed {runId documentId : String}
    {taskMode : ProductionTaskMode} {candidate : CandidateArtifact Fp} {report : ReviewReport Fp}
    {release : ProductionRelease Fp}
    {boundedEvidence : CoreResult (String × OrderedMap String Fp)} {createdAt : String}
    {ids : ReleaseIds} {answer : String × String} {db db' : Database Fp} (hdb : db.Reviewed)
    (h : commitReleasedCandidate runId documentId taskMode candidate report release
      boundedEvidence createdAt ids db = .ok (answer, db'))
    (hhonest : (WrittenReport.released report).Honest) : db'.Reviewed := by
  obtain ⟨haccept, hbound⟩ := commitReleasedCandidate_report h
  obtain ⟨-, -, -, -, -, -, -, hfresh, -, rfl⟩ := commitReleasedCandidate_eq_ok h
  refine hdb.append (fun _ => ⟨haccept, hhonest.1, hhonest.2, hbound⟩) hfresh ?_ rfl rfl
  simp [releaseRows]

omit [Sha256 Fp] [Documents Fp] in
/-- The gate of an acceptance: a report that counts for the fingerprint of the candidate. -/
theorem Database.checkAcceptance_report {decision : AcceptanceDecision Fp} {db : Database Fp}
    (h : db.checkAcceptance decision = .ok ()) :
    ∃ candidate, db.candidate? decision.candidateId = some candidate ∧
      ∃ row ∈ db.reviewReports, row.candidateFingerprint = candidate.contentFingerprint ∧
        row.counts := by
  simp only [checkAcceptance, bind_eq_ok, require_eq_ok, exists_const, fetch_eq_ok] at h
  obtain ⟨candidate, hcandidate, ⟨-, hfingerprint⟩, -, hreports, -⟩ := h
  obtain ⟨row, hrow⟩ := List.exists_mem_of_length_pos (by rw [hreports]; exact one_pos)
  simp only [List.mem_filter, decide_eq_true_eq] at hrow
  obtain ⟨hmem, -, hbound, hdecision, hindependent⟩ := hrow
  exact ⟨candidate, hcandidate, row, hmem, hbound.trans hfingerprint.symm, hdecision, hindependent⟩

omit [Documents Fp] in
theorem acceptCandidate_reviewed {decision : AcceptanceDecision Fp} {acceptanceId : String}
    {db db' : Database Fp} (hdb : db.Reviewed)
    (h : acceptCandidate decision db = .ok (acceptanceId, db')) : db'.Reviewed := by
  obtain ⟨-, ⟨_, _, -, -, -, rfl⟩ | ⟨-, hgate, -, rfl⟩⟩ := acceptCandidate_cases h
  · exact hdb
  obtain ⟨candidate, hcandidate, report, hreport, hbound, hcounts⟩ := checkAcceptance_report hgate
  refine ⟨Table.nodup_updateWhere (fun _ => rfl) hdb.candidateIds, hdb.genuine,
    fun accepted haccepted hstatus => ?_⟩
  obtain ⟨old, hold, rfl⟩ := Table.mem_updateWhere.mp haccepted
  by_cases hid : old.candidateId = decision.candidateId
  · have hsame : old = candidate := Table.eq_of_key_eq hdb.candidateIds hold
      (Table.lookup_mem hcandidate) (hid.trans (Table.lookup_key hcandidate).symm)
    subst hsame
    refine ⟨report, hreport, ?_, hcounts⟩
    simp [hid, hbound]
  · simp only [hid, decide_false, if_false, Bool.false_eq_true] at hstatus ⊢
    exact hdb.accepted old hold hstatus

variable [SerdeJson Fp]

/-- An honest call keeps the evidence genuine. -/
theorem HonestStep.reviewed {db db' : Database Fp} (h : HonestStep db db') (hdb : db.Reviewed) :
    db'.Reviewed := by
  obtain ⟨written, hstep, hhonest⟩ := h
  cases hstep with
  | saveReport report createdAt h => exact saveReviewReport_reviewed hdb h hhonest
  | saveRelease release h =>
    obtain ⟨hreports, hcandidates⟩ := saveProductionRelease_frame h
    exact ⟨hcandidates ▸ hdb.candidateIds, hreports ▸ hdb.genuine,
      hreports ▸ hcandidates ▸ hdb.accepted⟩
  | release _ _ _ _ _ _ _ _ _ _ h => exact commitReleasedCandidate_reviewed hdb h hhonest
  | accept decision acceptanceId h => exact acceptCandidate_reviewed hdb h
  | others _ hreports hcandidates =>
    exact ⟨hcandidates ▸ hdb.candidateIds, hreports ▸ hdb.genuine,
      hreports ▸ hcandidates ▸ hdb.accepted⟩

/-- In every run of honest calls, the rows that the gates count hold reports that accept, in an
independent context and without findings, and every accepted candidate has one of its own. -/
theorem review_evidence_genuine {projectId title createdAt : String} {start db : Database Fp}
    (hstart : createReserved projectId title createdAt = .ok start)
    (hrun : ReflTransGen HonestStep start db) :
    (∀ row ∈ db.reviewReports, row.decision = .accept → row.independentContext = true →
      row.payload.decision = .accept ∧ row.payload.independentContext = true ∧
        row.payload.findings = []) ∧
    (∀ candidate ∈ db.candidates, candidate.status = .accepted →
      ∃ row ∈ db.reviewReports, row.candidateFingerprint = candidate.contentFingerprint ∧
        row.payload.candidateFingerprint = candidate.contentFingerprint ∧
        row.payload.decision = .accept ∧ row.payload.independentContext = true ∧
        row.payload.findings = []) := by
  have hreviewed : db.Reviewed := by
    refine invariant_of_step (fun _ _ hstep => hstep.reviewed) hrun ?_
    obtain ⟨-, rfl⟩ := createReserved_eq_ok hstart
    exact ⟨List.nodup_nil, fun _ h => (nomatch h), fun _ h => (nomatch h)⟩
  refine ⟨fun row hrow haccept hindependent => ?_, fun candidate hcandidate haccepted => ?_⟩
  · have hgenuine := hreviewed.genuine row hrow ⟨haccept, hindependent⟩
    exact ⟨hgenuine.decision, hgenuine.independent, hgenuine.findings⟩
  · obtain ⟨row, hrow, hbound, hcounts⟩ := hreviewed.accepted candidate hcandidate haccepted
    have hgenuine := hreviewed.genuine row hrow hcounts
    exact ⟨row, hrow, hbound, hgenuine.candidate.trans hbound, hgenuine.decision,
      hgenuine.independent, hgenuine.findings⟩

end Evidence

/-! ## A sample run -/

namespace Sample

/-- A report of one reviewer who shares the writer's context, without findings. -/
def sharedInput : ReviewReportInput Digest where
  candidateFingerprint := candidate.fingerprint
  mode := .solo
  reviewerSessions := OrderedMap.empty.insert "s1" ()
  independentContext := false
  deterministicPrechecks := []
  findings := []
  disagreements := []
  infrastructureFailed := false

def releaseOf (report : ReviewReport Digest) : ProductionRelease Digest :=
  let body := { release quietText with reviewReportFingerprint := report.fingerprint }
  { body with fingerprint := body.computeFingerprint }

/-- The run of the sample up to its release. -/
def drafted : CoreResult (Database Digest) :=
  forEach (fun db op => RunOp.exec op db) ((runOps quietText).take 31) started

/-- The candidate is released with the report and accepted. -/
def acceptedWith (report : ReviewReport Digest) : CoreResult (Database Digest) := do
  let db ← drafted
  let (_, db) ← commitReleasedCandidate "run-1" "DOC-CH001" .draft candidate report
    (releaseOf report) (.error noRows) "t5" ⟨"r1", "c1", "e1"⟩ db
  let decision ← AcceptanceDecision.create "ACC1" "CAND1" candidate.fingerprint
    report.fingerprint "author" "k1" "t6"
  Prod.snd <$> acceptCandidate decision db

/-- The candidates, and beside the columns of each report what the report itself says. -/
def evidence (db : Database Digest) :
    List CandidateStatus × List (ReviewDecision × Bool × Bool) :=
  (db.candidates.map (·.status), db.reviewReports.map fun row =>
    (row.decision, row.independentContext, row.payload.independentContext))

/-- The report that shares the context, as it is created. -/
def sharedReport : ReviewReport Digest :=
  let body : ReviewReport Digest := { report with independentContext := false }
  { body with fingerprint := body.computeFingerprint }

theorem create_sharedReport : ReviewReport.create sharedInput = .ok sharedReport := by
  decide +kernel

theorem drafted_empty :
    drafted.map (fun db => (db.reviewReports, db.candidates)) = .ok ([], []) := by
  decide +kernel

/-- Both reports lead to an accepted candidate; the columns of their rows are the same. -/
theorem acceptedWith_evidence :
    (acceptedWith report).map evidence = .ok ([.accepted], [(.accept, true, true)]) ∧
    (acceptedWith sharedReport).map evidence = .ok ([.accepted], [(.accept, true, false)]) := by
  decide +kernel

/-- The calls of the sample. -/
theorem acceptedWith_steps {report : ReviewReport Digest} {db : Database Digest}
    (h : acceptedWith report = .ok db) :
    ReflTransGen (fun db db' => ∃ written, ReviewStep written db db' ∧
      (written = .nothing ∨ written = .released report)) project db := by
  simp only [acceptedWith, bind_eq_ok] at h
  obtain ⟨before, hbefore, ⟨answer, released⟩, hreleased, decision, -, haccepted⟩ := h
  obtain ⟨acceptanceId, haccepted⟩ := snd_map_eq_ok haccepted
  have hcalls : ReflTransGen ProjectStep project before :=
    (ReflTransGen.tail (.single (.freezePack _ _ _ _ freeze_project))
      (.start _ _ start_frozen)).trans (runOps_steps hbefore)
  obtain ⟨drafted', hdrafted, hframe⟩ := map_eq_ok.mp drafted_empty
  obtain rfl : drafted' = before := by
    rw [hdrafted] at hbefore
    exact Except.ok.inj hbefore
  obtain ⟨hreports, hcandidates⟩ := Prod.mk.inj hframe
  exact .tail (.tail (.single ⟨_, .others hcalls hreports hcandidates, .inl rfl⟩)
    ⟨_, .release _ _ _ _ _ _ _ _ _ _ hreleased, .inr rfl⟩) ⟨_, .accept _ _ haccepted, .inl rfl⟩

/-- One candidate, which is accepted, and one report. -/
theorem evidence_rows {db : Database Digest} {own : Bool}
    (h : evidence db = ([.accepted], [(.accept, true, own)])) :
    (∃ accepted ∈ db.candidates, accepted.status = .accepted) ∧
    ∃ row, db.reviewReports = [row] ∧ row.decision = .accept ∧ row.independentContext = true ∧
      row.payload.independentContext = own := by
  obtain ⟨hcandidates, hreports⟩ := Prod.mk.inj h
  refine ⟨?_, ?_⟩
  · have hmem : CandidateStatus.accepted ∈ db.candidates.map (·.status) := by
      rw [hcandidates]
      exact List.mem_singleton_self _
    obtain ⟨accepted, hmem, hstatus⟩ := List.mem_map.mp hmem
    exact ⟨accepted, hmem, hstatus⟩
  · obtain ⟨row, hrows, hrow⟩ := List.map_eq_singleton_iff.mp hreports
    simp only [Prod.mk.injEq] at hrow
    exact ⟨row, hrows, hrow⟩

end Sample

open Sample in
theorem review_evidence_genuine_sample :
    ∃ db : Database Digest, ReflTransGen HonestStep project db ∧
      ∃ accepted ∈ db.candidates, accepted.status = .accepted ∧
        ∃ row ∈ db.reviewReports, row.payload.candidateFingerprint = accepted.contentFingerprint ∧
          row.payload.independentContext = true := by
  obtain ⟨db, hdb, hevidence⟩ := map_eq_ok.mp acceptedWith_evidence.1
  have hrun : ReflTransGen HonestStep project db := by
    refine (acceptedWith_steps hdb).lift id fun _ _ h => ?_
    obtain ⟨written, hstep, rfl | rfl⟩ := h
    · exact ⟨_, hstep, trivial⟩
    · exact ⟨_, hstep, rfl, rfl⟩
  obtain ⟨accepted, hmem, haccepted⟩ := (evidence_rows hevidence).1
  obtain ⟨row, hrow, -, hbound, -, hindependent, -⟩ :=
    (review_evidence_genuine create_project hrun).2 accepted hmem haccepted
  exact ⟨db, hrun, accepted, hmem, haccepted, row, hrow, hbound, hindependent⟩

open Sample in
/-- A candidate is accepted on a report that was not made in an independent context. -/
theorem review_evidence_shared :
    ReviewReport.create sharedInput = .ok sharedReport ∧ ∃ db : Database Digest,
      ReflTransGen (fun db db' => ∃ written, ReviewStep written db db') project db ∧
      (∃ row ∈ db.reviewReports, row.decision = .accept ∧ row.independentContext = true ∧
        row.payload.independentContext = false) ∧
      ∃ accepted ∈ db.candidates, accepted.status = .accepted ∧
        ¬ ∃ row ∈ db.reviewReports, row.payload.independentContext = true := by
  obtain ⟨db, hdb, hevidence⟩ := map_eq_ok.mp acceptedWith_evidence.2
  have hrun : ReflTransGen (fun db db' => ∃ written, ReviewStep written db db') project db :=
    (acceptedWith_steps hdb).lift id fun _ _ ⟨written, hstep, _⟩ => ⟨written, hstep⟩
  obtain ⟨⟨accepted, hmem, haccepted⟩, row, hrows, haccept, hcolumn, hown⟩ :=
    evidence_rows hevidence
  have hrow : row ∈ db.reviewReports := hrows ▸ List.mem_singleton_self row
  refine ⟨create_sharedReport, db, hrun, ⟨row, hrow, haccept, hcolumn, hown⟩, accepted, hmem,
    haccepted, ?_⟩
  rintro ⟨other, hother, hindependent⟩
  rw [hrows, List.mem_singleton] at hother
  rw [hother, hown] at hindependent
  cases hindependent

end Quillframe
