import Quillframe.Digest
import Quillframe.Error

/-! Author decisions: revision requests, acceptances, settlement preflights and settlement
authorizations. -/
namespace Quillframe

open Json (str fp obj)

variable {Fp : Type}

/-- `required`: every field of an author decision is non-blank. -/
def requiredFields (values : List String) : CoreResult Unit :=
  require (∀ value ∈ values, ¬ blank value)
    (.authorityConflict "author decision fields must be non-empty")

def exactFingerprint [DecidableEq Fp] (actual expected : Fp) (label : String) : CoreResult Unit :=
  require (actual = expected) (.authorityConflict (label ++ " fingerprint changed"))

structure RevisionRequest (Fp : Type) where
  schema : String
  requestId : String
  candidateId : String
  candidateFingerprint : Fp
  requestedBy : String
  reason : String
  idempotencyKey : String
  createdAt : String
  fingerprint : Fp
  deriving DecidableEq

namespace RevisionRequest

def toJsonWith (r : RevisionRequest Fp) (fingerprint : Json Fp) : Json Fp :=
  obj [("schema", str r.schema), ("request_id", str r.requestId),
    ("candidate_id", str r.candidateId), ("candidate_fingerprint", fp r.candidateFingerprint),
    ("requested_by", str r.requestedBy), ("reason", str r.reason),
    ("idempotency_key", str r.idempotencyKey), ("created_at", str r.createdAt),
    ("fingerprint", fingerprint)]

variable [Sha256 Fp] [DecidableEq Fp]

def fingerprintOf (r : RevisionRequest Fp) : Fp := Sha256.ofJson (r.toJsonWith (str ""))

def required (r : RevisionRequest Fp) : List String :=
  [r.candidateId, r.requestedBy, r.reason, r.idempotencyKey, r.createdAt]

/-- `RevisionRequest::create`, with the generated id as an argument. -/
def create (requestId candidateId : String) (candidateFingerprint : Fp)
    (requestedBy reason idempotencyKey createdAt : String) : CoreResult (RevisionRequest Fp) := do
  let value : RevisionRequest Fp :=
    { schema := "quillframe_revision_request_v1", requestId, candidateId, candidateFingerprint,
      requestedBy, reason, idempotencyKey, createdAt, fingerprint := candidateFingerprint }
  requiredFields value.required
  return { value with fingerprint := value.fingerprintOf }

def validate (r : RevisionRequest Fp) : CoreResult Unit := do
  requiredFields r.required
  exactFingerprint r.fingerprint r.fingerprintOf "revision request"

end RevisionRequest

structure AcceptanceDecision (Fp : Type) where
  schema : String
  acceptanceId : String
  candidateId : String
  candidateFingerprint : Fp
  reviewReportFingerprint : Fp
  authorizedBy : String
  idempotencyKey : String
  createdAt : String
  fingerprint : Fp
  deriving DecidableEq

namespace AcceptanceDecision

def toJsonWith (d : AcceptanceDecision Fp) (fingerprint : Json Fp) : Json Fp :=
  obj [("schema", str d.schema), ("acceptance_id", str d.acceptanceId),
    ("candidate_id", str d.candidateId), ("candidate_fingerprint", fp d.candidateFingerprint),
    ("review_report_fingerprint", fp d.reviewReportFingerprint),
    ("authorized_by", str d.authorizedBy), ("idempotency_key", str d.idempotencyKey),
    ("created_at", str d.createdAt), ("fingerprint", fingerprint)]

variable [Sha256 Fp] [DecidableEq Fp]

def fingerprintOf (d : AcceptanceDecision Fp) : Fp := Sha256.ofJson (d.toJsonWith (str ""))

def required (d : AcceptanceDecision Fp) : List String :=
  [d.candidateId, d.authorizedBy, d.idempotencyKey, d.createdAt]

/-- `AcceptanceDecision::create`, with the generated id as an argument. -/
def create (acceptanceId candidateId : String) (candidateFingerprint reviewReportFingerprint : Fp)
    (authorizedBy idempotencyKey createdAt : String) : CoreResult (AcceptanceDecision Fp) := do
  let value : AcceptanceDecision Fp :=
    { schema := "quillframe_acceptance_decision_v1", acceptanceId, candidateId,
      candidateFingerprint, reviewReportFingerprint, authorizedBy, idempotencyKey, createdAt,
      fingerprint := candidateFingerprint }
  requiredFields value.required
  return { value with fingerprint := value.fingerprintOf }

def validate (d : AcceptanceDecision Fp) : CoreResult Unit := do
  requiredFields d.required
  exactFingerprint d.fingerprint d.fingerprintOf "acceptance"

/-- Valid decisions with one fingerprint are the same decision. -/
theorem eq_of_validate [CollisionFree Fp] {a b : AcceptanceDecision Fp}
    (ha : a.validate = .ok ()) (hb : b.validate = .ok ())
    (h : a.fingerprint = b.fingerprint) : a = b := by
  simp only [validate, exactFingerprint, bind_eq_ok, require_eq_ok] at ha hb
  obtain ⟨_, -, ha⟩ := ha
  obtain ⟨_, -, hb⟩ := hb
  have hbody := CollisionFree.ofJson_injective (ha.symm.trans (h.trans hb))
  cases a
  cases b
  simp only [toJsonWith, obj.injEq, List.cons.injEq, Prod.mk.injEq, true_and, str.injEq,
    fp.injEq, and_true] at hbody
  simp only [AcceptanceDecision.mk.injEq]
  tauto

end AcceptanceDecision

def nilUuid : String := "00000000-0000-0000-0000-000000000000"

structure SettlementPreflight (Fp : Type) where
  schema : String
  preflightId : String
  acceptanceId : String
  candidateId : String
  candidateFingerprint : Fp
  revisionId : String
  targetRef : String
  beforeFingerprint : Fp
  createdAt : String
  fingerprint : Fp
  deriving DecidableEq

namespace SettlementPreflight

/-- A preflight is a read-only view, so its fingerprint leaves out its id and time. -/
def projection (p : SettlementPreflight Fp) : Json Fp :=
  obj [("schema", str p.schema), ("preflight_id", str nilUuid),
    ("acceptance_id", str p.acceptanceId), ("candidate_id", str p.candidateId),
    ("candidate_fingerprint", fp p.candidateFingerprint), ("revision_id", str p.revisionId),
    ("target_ref", str p.targetRef), ("before_fingerprint", fp p.beforeFingerprint),
    ("created_at", str ""), ("fingerprint", str "")]

variable [Sha256 Fp] [DecidableEq Fp]

def fingerprintOf (p : SettlementPreflight Fp) : Fp := Sha256.ofJson p.projection

/-- `SettlementPreflight::seal`. -/
def sealed (p : SettlementPreflight Fp) : SettlementPreflight Fp :=
  { p with fingerprint := p.fingerprintOf }

def validate (p : SettlementPreflight Fp) : CoreResult Unit := do
  requiredFields [p.acceptanceId, p.candidateId, p.revisionId, p.targetRef, p.createdAt]
  exactFingerprint p.fingerprint p.fingerprintOf "settlement preflight"

end SettlementPreflight

structure SettlementAuthorization (Fp : Type) where
  schema : String
  settlementId : String
  acceptanceId : String
  targetRef : String
  preflightFingerprint : Fp
  expectedBeforeFingerprint : Fp
  authorizedBy : String
  idempotencyKey : String
  createdAt : String
  fingerprint : Fp
  deriving DecidableEq

namespace SettlementAuthorization

def toJsonWith (a : SettlementAuthorization Fp) (fingerprint : Json Fp) : Json Fp :=
  obj [("schema", str a.schema), ("settlement_id", str a.settlementId),
    ("acceptance_id", str a.acceptanceId), ("target_ref", str a.targetRef),
    ("preflight_fingerprint", fp a.preflightFingerprint),
    ("expected_before_fingerprint", fp a.expectedBeforeFingerprint),
    ("authorized_by", str a.authorizedBy), ("idempotency_key", str a.idempotencyKey),
    ("created_at", str a.createdAt), ("fingerprint", fingerprint)]

variable [Sha256 Fp] [DecidableEq Fp]

def fingerprintOf (a : SettlementAuthorization Fp) : Fp := Sha256.ofJson (a.toJsonWith (str ""))

def required (a : SettlementAuthorization Fp) : List String :=
  [a.acceptanceId, a.targetRef, a.authorizedBy, a.idempotencyKey, a.createdAt]

/-- `SettlementAuthorization::create`, with the generated id as an argument. -/
def create (preflight : SettlementPreflight Fp)
    (settlementId authorizedBy idempotencyKey createdAt : String) :
    CoreResult (SettlementAuthorization Fp) := do
  preflight.validate
  let value : SettlementAuthorization Fp :=
    { schema := "quillframe_settlement_authorization_v1", settlementId,
      acceptanceId := preflight.acceptanceId, targetRef := preflight.targetRef,
      preflightFingerprint := preflight.fingerprint,
      expectedBeforeFingerprint := preflight.beforeFingerprint,
      authorizedBy, idempotencyKey, createdAt, fingerprint := preflight.fingerprint }
  requiredFields value.required
  return { value with fingerprint := value.fingerprintOf }

def validate (a : SettlementAuthorization Fp) : CoreResult Unit := do
  requiredFields a.required
  exactFingerprint a.fingerprint a.fingerprintOf "settlement authorization"

/-- Valid authorizations with one fingerprint are the same authorization. -/
theorem eq_of_validate [CollisionFree Fp] {a b : SettlementAuthorization Fp}
    (ha : a.validate = .ok ()) (hb : b.validate = .ok ())
    (h : a.fingerprint = b.fingerprint) : a = b := by
  simp only [validate, exactFingerprint, bind_eq_ok, require_eq_ok] at ha hb
  obtain ⟨_, -, ha⟩ := ha
  obtain ⟨_, -, hb⟩ := hb
  have hbody := CollisionFree.ofJson_injective (ha.symm.trans (h.trans hb))
  cases a
  cases b
  simp only [toJsonWith, obj.injEq, List.cons.injEq, Prod.mk.injEq, true_and, str.injEq,
    fp.injEq, and_true] at hbody
  simp only [SettlementAuthorization.mk.injEq]
  tauto

end SettlementAuthorization

end Quillframe
