import Quillframe.Digest
import Quillframe.Error
import Quillframe.OrderedMap
import Quillframe.StringOrder

/-! Structured review reports. -/
namespace Quillframe

open Json (str fp obj arr ofOption strings)

variable {Fp : Type}

inductive Severity where
  | s1 | s2 | s3 | s4
  deriving DecidableEq, Repr

inductive FindingCategory where
  | structural | character | prose | consistency | platform | factual | format | causal
  | ruleBoundary
  deriving DecidableEq, Repr

inductive ReviewMode where
  | full | lean | solo
  deriving DecidableEq, Repr

inductive ReviewDecision where
  | accept | revise | infrastructureFailed
  deriving DecidableEq, Repr

def Severity.name : Severity → String
  | .s1 => "s1" | .s2 => "s2" | .s3 => "s3" | .s4 => "s4"

def FindingCategory.name : FindingCategory → String
  | .structural => "structure" | .character => "character" | .prose => "prose"
  | .consistency => "consistency" | .platform => "platform" | .factual => "factual"
  | .format => "format" | .causal => "causal" | .ruleBoundary => "rule_boundary"

def ReviewMode.name : ReviewMode → String
  | .full => "full" | .lean => "lean" | .solo => "solo"

def ReviewDecision.name : ReviewDecision → String
  | .accept => "accept" | .revise => "revise" | .infrastructureFailed => "infrastructure_failed"

structure ReviewFinding where
  findingId : String
  reviewerRole : String
  severity : Severity
  category : FindingCategory
  location : String
  evidence : String
  issue : String
  fixDirection : String
  inheritedFrom : Option String
  deriving DecidableEq, Repr

def ReviewFinding.toJson (f : ReviewFinding) : Json Fp :=
  obj [("finding_id", str f.findingId), ("reviewer_role", str f.reviewerRole),
    ("severity", str f.severity.name), ("category", str f.category.name),
    ("location", str f.location), ("evidence", str f.evidence), ("issue", str f.issue),
    ("fix_direction", str f.fixDirection), ("inherited_from", ofOption str f.inheritedFrom)]

structure ReviewReport (Fp : Type) where
  schema : String
  candidateFingerprint : Fp
  mode : ReviewMode
  reviewerSessions : OrderedSet String
  independentContext : Bool
  deterministicPrechecks : List String
  findings : List ReviewFinding
  disagreements : List String
  decision : ReviewDecision
  fingerprint : Fp
  deriving DecidableEq

namespace ReviewReport

def toJsonWith (r : ReviewReport Fp) (fingerprint : Json Fp) : Json Fp :=
  obj [("schema", str r.schema), ("candidate_fingerprint", fp r.candidateFingerprint),
    ("mode", str r.mode.name), ("reviewer_sessions", strings r.reviewerSessions.keys),
    ("independent_context", .bool r.independentContext),
    ("deterministic_prechecks", strings r.deterministicPrechecks),
    ("findings", arr (r.findings.map ReviewFinding.toJson)),
    ("disagreements", strings r.disagreements), ("decision", str r.decision.name),
    ("fingerprint", fingerprint)]

def requiredReviewers : ReviewMode → ℕ
  | .full => 4
  | .lean => 2
  | .solo => 1

def validateReviewers (r : ReviewReport Fp) : CoreResult Unit := do
  require (requiredReviewers r.mode ≤ r.reviewerSessions.entries.length)
    (.contextBoundary "review mode does not have enough distinct reviewer sessions")
  require (r.mode = .solo ∨ r.independentContext)
    (.contextBoundary "multi-review mode requires genuinely independent contexts")

variable [Sha256 Fp] [DecidableEq Fp]

def computeFingerprint (r : ReviewReport Fp) : Fp := Sha256.ofJson (r.toJsonWith (str ""))

def validate (r : ReviewReport Fp) (currentCandidateFingerprint : Fp) : CoreResult Unit := do
  require (r.candidateFingerprint = currentCandidateFingerprint)
    (.authorityConflict "review is stale for the current candidate")
  r.validateReviewers
  require (r.fingerprint = r.computeFingerprint)
    (.authorityConflict "review report fingerprint changed")

end ReviewReport

end Quillframe
