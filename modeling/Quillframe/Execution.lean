import Quillframe.Documents

/-! Frozen production requests and stage jobs. -/
namespace Quillframe

open Json (str int fp obj arr ofOption strings)

variable {Fp : Type}

inductive ProductionTaskMode where
  | draft
  | revise
  deriving DecidableEq, Repr

def productionTaskMode : ProductionTaskMode → String
  | .draft => "DRAFT"
  | .revise => "REVISE"

structure BoundRuleMaterial where
  id : String
  authority : String
  statement : String
  deriving DecidableEq, Repr

structure RepairBinding (Fp : Type) where
  sourceRunId : String
  sourceCheckpointId : String
  expectedCandidateFingerprint : Fp
  deriving DecidableEq

structure ProductionIntent (Fp : Type) where
  instruction : String
  readerGrip : String
  authorProfile : String
  ruleMaterial : List BoundRuleMaterial
  selectedPreferenceIds : List String
  repairSource : Option (RepairBinding Fp)
  guidanceSnapshot : Option (Json Fp)
  deriving DecidableEq

namespace ProductionIntent

def toJson (i : ProductionIntent Fp) : Json Fp :=
  obj ([("instruction", str i.instruction), ("reader_grip", str i.readerGrip),
    ("author_profile", str i.authorProfile),
    ("rule_material", arr (i.ruleMaterial.map fun rule => obj [("id", str rule.id),
      ("authority", str rule.authority), ("statement", str rule.statement)])),
    ("selected_preference_ids", strings i.selectedPreferenceIds),
    ("repair_source", ofOption (fun b => obj [("source_run_id", str b.sourceRunId),
      ("source_checkpoint_id", str b.sourceCheckpointId),
      ("expected_candidate_fingerprint", fp b.expectedCandidateFingerprint)]) i.repairSource)] ++
    -- the snapshot is left out of the text when it is absent
    i.guidanceSnapshot.toList.map fun snapshot => ("guidance_snapshot", snapshot))

end ProductionIntent

structure ProductionRequest (Fp : Type) where
  schema : String
  runId : String
  taskMode : ProductionTaskMode
  targetRef : String
  intent : ProductionIntent Fp
  writerPackFingerprint : Fp
  frameworkBuildFingerprint : Fp
  routePolicy : String
  modelCallBudget : Option ℕ
  fingerprint : Fp
  deriving DecidableEq

namespace ProductionRequest

def toJsonWith (r : ProductionRequest Fp) (fingerprint : Json Fp) : Json Fp :=
  obj [("schema", str r.schema), ("run_id", str r.runId),
    ("task_mode", str (productionTaskMode r.taskMode)), ("target_ref", str r.targetRef),
    ("intent", r.intent.toJson), ("writer_pack_fingerprint", fp r.writerPackFingerprint),
    ("framework_build_fingerprint", fp r.frameworkBuildFingerprint),
    ("route_policy", str r.routePolicy),
    ("model_call_budget", ofOption (fun n : ℕ => int n) r.modelCallBudget),
    ("fingerprint", fingerprint)]

variable [Documents Fp]

def validateFields (r : ProductionRequest Fp) : CoreResult Unit := do
  require (¬ (r.schema ≠ "quillframe_production_request_v1" ∨ blank r.runId ∨ blank r.targetRef ∨
      blank r.routePolicy))
    (.invalidProject "production request is incomplete")
  require (¬ (blank r.intent.instruction ∨
      (∃ snapshot ∈ r.intent.guidanceSnapshot, Documents.guidanceValidate snapshot ≠ .ok ()) ∨
      r.intent.readerGrip ∉ ["low", "medium", "high", "very_high"] ∨
      blank r.intent.authorProfile ∨
      (∃ rule ∈ r.intent.ruleMaterial,
        blank rule.id ∨ blank rule.authority ∨ blank rule.statement) ∨
      ∃ value ∈ r.intent.selectedPreferenceIds, blank value))
    (.invalidProject "production intent is incomplete")
  match r.taskMode, r.intent.repairSource with
  | .draft, none => pure ()
  | .revise, some binding =>
    require (¬ blank binding.sourceRunId ∧ ¬ blank binding.sourceCheckpointId)
      (.invalidProject "DRAFT cannot bind repair evidence and REVISE requires it")
  | _, _ => throw (.invalidProject "DRAFT cannot bind repair evidence and REVISE requires it")
  require (r.modelCallBudget ≠ some 0) (.invalidProject "model call budget cannot be zero")

variable [Sha256 Fp] [DecidableEq Fp]

def computeFingerprint (r : ProductionRequest Fp) : Fp := Sha256.ofJson (r.toJsonWith (str ""))

def validate (r : ProductionRequest Fp) : CoreResult Unit := do
  r.validateFields
  require (r.fingerprint = r.computeFingerprint)
    (.authorityConflict "production request fingerprint changed")

end ProductionRequest

structure StageJob (Fp : Type) where
  schema : String
  stageKey : String
  runtimeRole : String
  modelRequest : ModelRequest
  inputFingerprint : Fp
  fingerprint : Fp
  deriving DecidableEq

namespace StageJob

def toJsonWith (j : StageJob Fp) (fingerprint : Json Fp) : Json Fp :=
  obj [("schema", str j.schema), ("stage_key", str j.stageKey),
    ("runtime_role", str j.runtimeRole), ("model_request", j.modelRequest.toJson),
    ("input_fingerprint", fp j.inputFingerprint), ("fingerprint", fingerprint)]

def validateFields (j : StageJob Fp) : CoreResult Unit :=
  require (¬ (j.schema ≠ "quillframe_stage_job_v1" ∨ blank j.stageKey ∨ blank j.runtimeRole))
    (.invalidProject "stage job is incomplete")

variable [Sha256 Fp] [DecidableEq Fp]

def computeFingerprint (j : StageJob Fp) : Fp := Sha256.ofJson (j.toJsonWith (str ""))

def freeze (stageKey runtimeRole : String) (modelRequest : ModelRequest) (inputFingerprint : Fp) :
    CoreResult (StageJob Fp) := do
  let value : StageJob Fp :=
    { schema := "quillframe_stage_job_v1", stageKey, runtimeRole, modelRequest, inputFingerprint,
      fingerprint := inputFingerprint }
  value.validateFields
  return { value with fingerprint := value.computeFingerprint }

def validate (j : StageJob Fp) : CoreResult Unit := do
  j.validateFields
  require (j.fingerprint = j.computeFingerprint)
    (.authorityConflict "stage job fingerprint changed")

end StageJob

inductive StageCallState where
  | dispatched
  | confirmed
  | unconfirmed
  | cancelled
  deriving DecidableEq, Repr

end Quillframe
