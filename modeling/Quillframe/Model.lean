import Quillframe.Digest
import Quillframe.Error

/-! Requests to a model service, its recorded results, and the JSON library the core is built
against. -/
namespace Quillframe

open Json (str int fp obj ofOption)

variable {Fp : Type}

structure ModelRequest where
  requestId : String
  model : String
  system : String
  user : String
  temperature : Option Decimal
  maxOutputTokens : Option ℕ
  absoluteDeadlineMs : ℕ
  deriving DecidableEq, Repr

namespace ModelRequest

def toJson (r : ModelRequest) : Json Fp :=
  obj [("request_id", str r.requestId), ("model", str r.model), ("system", str r.system),
    ("user", str r.user), ("temperature", ofOption Json.float r.temperature),
    ("max_output_tokens", ofOption (fun n : ℕ => int n) r.maxOutputTokens),
    ("absolute_deadline_ms", int r.absoluteDeadlineMs)]

end ModelRequest

structure ModelUsage where
  inputTokens : Option ℕ
  outputTokens : Option ℕ
  totalTokens : Option ℕ
  costMicros : Option ℕ
  deriving DecidableEq, Repr

namespace ModelUsage

def toJson (u : ModelUsage) : Json Fp :=
  let count (n : Option ℕ) : Json Fp := ofOption (fun n : ℕ => int n) n
  obj [("input_tokens", count u.inputTokens), ("output_tokens", count u.outputTokens),
    ("total_tokens", count u.totalTokens), ("cost_micros", count u.costMicros)]

end ModelUsage

structure ModelResult (Fp : Type) where
  schema : String
  requestId : String
  serviceId : String
  model : String
  content : String
  providerResponseId : Option String
  usage : ModelUsage
  fingerprint : Fp
  deriving DecidableEq

namespace ModelResult

def toJsonWith (r : ModelResult Fp) (fingerprint : Json Fp) : Json Fp :=
  obj [("schema", str r.schema), ("request_id", str r.requestId),
    ("service_id", str r.serviceId), ("model", str r.model), ("content", str r.content),
    ("provider_response_id", ofOption str r.providerResponseId), ("usage", r.usage.toJson),
    ("fingerprint", fingerprint)]

variable [Sha256 Fp] [DecidableEq Fp]

def computeFingerprint (r : ModelResult Fp) : Fp := Sha256.ofJson (r.toJsonWith (str ""))

def validate (r : ModelResult Fp) : CoreResult Unit := do
  require (¬ (r.schema ≠ "quillframe_model_result_v1" ∨ blank r.requestId ∨ blank r.serviceId ∨
      blank r.model ∨ blank r.content))
    (.modelRuntime "model result is incomplete")
  require (r.computeFingerprint = r.fingerprint) (.modelRuntime "model result fingerprint changed")

/-- `ModelResult::record`. -/
def record (requestId serviceId model content : String) (providerResponseId : Option String)
    (usage : ModelUsage) : CoreResult (ModelResult Fp) := do
  let value : ModelResult Fp :=
    { schema := "quillframe_model_result_v1", requestId, serviceId, model, content,
      providerResponseId, usage, fingerprint := Sha256.ofText "" }
  let value := { value with fingerprint := value.computeFingerprint }
  value.validate
  return value

end ModelResult

end Quillframe
