import Quillframe.Review

/-!
# Created and validated review reports

`create` derives the decision of a report from checked findings; `validate` reads the stored
report.
-/
namespace Quillframe

variable {Fp : Type}

def ReviewFinding.validate (finding : ReviewFinding) : CoreResult Unit :=
  forEach (fun _ field => require (¬ blank field.2)
      (.invalidProject ("review finding " ++ field.1 ++ " is empty")))
    [("finding_id", finding.findingId), ("reviewer_role", finding.reviewerRole),
      ("location", finding.location), ("evidence", finding.evidence), ("issue", finding.issue),
      ("fix_direction", finding.fixDirection)] ()

structure ReviewReportInput (Fp : Type) where
  candidateFingerprint : Fp
  mode : ReviewMode
  reviewerSessions : OrderedSet String
  independentContext : Bool
  deterministicPrechecks : List String
  findings : List ReviewFinding
  disagreements : List String
  infrastructureFailed : Bool

namespace ReviewReport

variable [Sha256 Fp]

/-- `ReviewReport::create` under a fingerprint that is canonical by its type. -/
def create (input : ReviewReportInput Fp) : CoreResult (ReviewReport Fp) := do
  let _ ← forEach (fun _ finding => ReviewFinding.validate finding) input.findings ()
  let value : ReviewReport Fp :=
    { schema := "quillframe_review_report_v1"
      candidateFingerprint := input.candidateFingerprint, mode := input.mode
      reviewerSessions := input.reviewerSessions, independentContext := input.independentContext
      deterministicPrechecks := input.deterministicPrechecks, findings := input.findings
      disagreements := input.disagreements
      decision :=
        if input.infrastructureFailed then .infrastructureFailed
        else if input.findings = [] then .accept else .revise
      fingerprint := input.candidateFingerprint }
  value.validateReviewers
  return { value with fingerprint := value.computeFingerprint }

variable [FingerprintText Fp]

/-- `ReviewReport::create` under any text as the candidate fingerprint. -/
def createChecked (input : ReviewReportInput Fp) : CoreResult (ReviewReport Fp) := do
  let _ ← forEach (fun _ finding => ReviewFinding.validate finding) input.findings ()
  require (FingerprintText.canonical input.candidateFingerprint)
    (.invalidProject "review candidate fingerprint is not canonical")
  create input

/-- What `create` makes sure of and `validate` does not look at. -/
structure Derived (report : ReviewReport Fp) : Prop where
  schema : report.schema = "quillframe_review_report_v1"
  canonical : FingerprintText.canonical report.candidateFingerprint = true
  findings : ∀ finding ∈ report.findings, finding.validate = .ok ()
  decision : report.decision = .infrastructureFailed ∨
    report.decision = if report.findings = [] then .accept else .revise

/-- The input that a report was created from, if it was. -/
def toInput (report : ReviewReport Fp) : ReviewReportInput Fp where
  candidateFingerprint := report.candidateFingerprint
  mode := report.mode
  reviewerSessions := report.reviewerSessions
  independentContext := report.independentContext
  deterministicPrechecks := report.deterministicPrechecks
  findings := report.findings
  disagreements := report.disagreements
  infrastructureFailed := report.decision = .infrastructureFailed

omit [Sha256 Fp] [FingerprintText Fp] in
/-- The reviewers are checked apart from schema, decision and fingerprint. -/
theorem validateReviewers_congr {r s : ReviewReport Fp} (hmode : r.mode = s.mode)
    (hsessions : r.reviewerSessions = s.reviewerSessions)
    (hcontext : r.independentContext = s.independentContext) :
    r.validateReviewers = s.validateReviewers := by
  simp only [validateReviewers, hmode, hsessions, hcontext]

theorem createChecked_eq_ok {input : ReviewReportInput Fp} {report : ReviewReport Fp} :
    createChecked input = .ok report ↔
      FingerprintText.canonical input.candidateFingerprint = true ∧
        create input = .ok report := by
  simp only [createChecked, bind_eq_ok, require_eq_ok, exists_const]
  constructor
  · rintro ⟨_, -, hcanonical, hcreate⟩
    exact ⟨hcanonical, hcreate⟩
  · rintro ⟨hcanonical, hcreate⟩
    have hfindings := hcreate
    simp only [create, bind_eq_ok] at hfindings
    obtain ⟨checked, hfindings, -⟩ := hfindings
    exact ⟨checked, hfindings, hcanonical, hcreate⟩

theorem createChecked_derived {input : ReviewReportInput Fp} {report : ReviewReport Fp}
    (h : createChecked input = .ok report) : report.Derived := by
  obtain ⟨hcanonical, hcreate⟩ := createChecked_eq_ok.mp h
  simp only [create, bind_eq_ok, forEach_unit_eq_ok, exists_const, pure_eq_ok] at hcreate
  obtain ⟨hfindings, _, -, rfl⟩ := hcreate
  refine ⟨rfl, hcanonical, hfindings, ?_⟩
  cases hfailed : input.infrastructureFailed with
  | true => exact .inl rfl
  | false => exact .inr rfl

variable [DecidableEq Fp]

/-- A report that validates could have been created exactly when it is as `create` derives. -/
theorem validated_created_iff {report : ReviewReport Fp} {current : Fp}
    (h : report.validate current = .ok ()) :
    (∃ input, createChecked input = .ok report) ↔ report.Derived := by
  constructor
  · rintro ⟨input, hcreate⟩
    exact createChecked_derived hcreate
  · intro hderived
    simp only [validate, bind_eq_ok, require_eq_ok, exists_const] at h
    obtain ⟨-, reviewed, hreviewers, hfingerprint⟩ := h
    have hdecision : (if report.toInput.infrastructureFailed then .infrastructureFailed
        else if report.findings = [] then .accept else .revise) = report.decision := by
      cases hderived.decision with
      | inl hfailed => simp [toInput, hfailed]
      | inr hmade =>
        have hran : report.decision ≠ .infrastructureFailed := by
          rw [hmade]
          split_ifs <;> simp
        simp only [toInput, hran, decide_false, Bool.false_eq_true, if_false]
        exact hmade.symm
    have hvalue : ({ report with
        schema := "quillframe_review_report_v1"
        decision := if report.toInput.infrastructureFailed then .infrastructureFailed
          else if report.findings = [] then .accept else .revise
        fingerprint := report.candidateFingerprint } : ReviewReport Fp) =
          { report with fingerprint := report.candidateFingerprint } := by
      rw [hdecision, ← hderived.schema]
    have hsealed : ({ report with fingerprint := report.computeFingerprint } : ReviewReport Fp) =
        report := by
      rw [← hfingerprint]
    refine ⟨report.toInput, createChecked_eq_ok.mpr ⟨hderived.canonical, ?_⟩⟩
    simp only [create, bind_eq_ok, forEach_unit_eq_ok, exists_const, pure_eq_ok]
    refine ⟨hderived.findings, reviewed, ?_, ?_⟩
    · rw [← hreviewers]
      exact validateReviewers_congr rfl rfl rfl
    · exact (congrArg (fun value : ReviewReport Fp =>
        { value with fingerprint := value.computeFingerprint }) hvalue).trans hsealed

end ReviewReport

namespace Sample

/-- A review by one reader of one candidate. -/
def soloReview (findings : List ReviewFinding) (decision : ReviewDecision) : ReviewReport Digest :=
  let body : ReviewReport Digest :=
    { schema := "quillframe_review_report_v1", candidateFingerprint := .tag 1, mode := .solo,
      reviewerSessions := ⟨[("reader", ())], List.pairwise_singleton _ _⟩,
      independentContext := false, deterministicPrechecks := [], findings, disagreements := [],
      decision, fingerprint := .tag 0 }
  { body with fingerprint := body.computeFingerprint }

def causalGap : ReviewFinding where
  findingId := "F-001"
  reviewerRole := "architect"
  severity := .s2
  category := .causal
  location := "scene:2"
  evidence := "the choice has no cause"
  issue := "causal gap"
  fixDirection := "show the cause"
  inheritedFrom := none

theorem soloReviews_validate : ∀ decision ∈ [.accept, .revise],
    (soloReview [causalGap] decision).validate (.tag 1) = .ok () := by
  decide +kernel

theorem soloReview_validate :
    (soloReview [causalGap] .accept).validate (.tag 1) = .ok () :=
  soloReviews_validate .accept (by decide)

theorem revisedReview_validate :
    (soloReview [causalGap] .revise).validate (.tag 1) = .ok () :=
  soloReviews_validate .revise (by decide)

end Sample

/-- A report that accepts a candidate with an open finding validates. -/
theorem validated_not_created :
    ¬ ∀ (report : ReviewReport Digest) (current : Digest), report.validate current = .ok () →
      ∃ input, ReviewReport.createChecked input = .ok report := by
  intro hall
  obtain ⟨input, hcreate⟩ := hall _ _ Sample.soloReview_validate
  have hdecision := (ReviewReport.createChecked_derived hcreate).decision
  revert hdecision
  decide +kernel

theorem validated_created_iff_sample :
    ∃ input, ReviewReport.createChecked input = .ok (Sample.soloReview [Sample.causalGap] .revise) :=
  (ReviewReport.validated_created_iff Sample.revisedReview_validate).mpr
    ⟨by decide +kernel, by decide +kernel, by decide +kernel, by decide +kernel⟩

end Quillframe
