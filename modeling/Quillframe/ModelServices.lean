import Mathlib.Data.List.Sort
import Quillframe.Endpoint
import Quillframe.Digest
import Quillframe.OrderedMap

/-!
# Model services

The model services of the global database, the secrets that the operating system keeps for them,
and the requests that change both. A request is a task of several steps; between two of them any
other task may take steps of its own.
-/
namespace Quillframe

open Json (str obj arr)

variable {Fp : Type}

structure ModelDescriptor where
  modelId : String
  displayName : String
  deriving DecidableEq, Repr

structure ModelCatalog (Fp : Type) where
  schema : String
  serviceId : String
  models : List ModelDescriptor
  fingerprint : Fp
  deriving DecidableEq, Repr

structure ModelServiceRecord (Fp : Type) where
  endpoint : ServiceEndpoint
  enabled : Bool
  discoveryState : String
  catalog : Option (ModelCatalog Fp)
  lastCheckedAt : Option String
  version : ℕ
  createdAt : String
  updatedAt : String
  deriving DecidableEq, Repr

/-! ## Catalogs -/

/-- `dedup_by` on the model ids: of equal neighbours the first stays. -/
def dedupById : List ModelDescriptor → List ModelDescriptor
  | [] => []
  | first :: rest =>
    match dedupById rest with
    | [] => [first]
    | second :: more =>
      if first.modelId = second.modelId then first :: more else first :: second :: more

/-- The order of model ids. -/
def byId (left right : ModelDescriptor) : Prop := left.modelId ≤ right.modelId

instance : DecidableRel byId := fun left right =>
  inferInstanceAs (Decidable (left.modelId ≤ right.modelId))

instance : Std.Total byId := ⟨fun left right => le_total left.modelId right.modelId⟩

instance : IsTrans ModelDescriptor byId := ⟨fun _ _ _ => le_trans⟩

namespace ModelCatalog

variable [Sha256 Fp]

def usable (models : List ModelDescriptor) : Prop :=
  models ≠ [] ∧ ∀ model ∈ models, ¬ blank model.modelId ∧ ¬ blank model.displayName

instance (models : List ModelDescriptor) : Decidable (usable models) :=
  inferInstanceAs (Decidable (_ ∧ _))

/-- The fingerprint of a catalog whose own fingerprint is cleared. -/
def computeFingerprint (schema serviceId : String) (models : List ModelDescriptor) : Fp :=
  Sha256.ofJson (obj [("schema", str schema), ("service_id", str serviceId),
    ("models", arr (models.map fun model =>
      obj [("model_id", str model.modelId), ("display_name", str model.displayName)])),
    ("fingerprint", str "")])

def create (serviceId : String) (models : List ModelDescriptor) : CoreResult (ModelCatalog Fp) := do
  let models := dedupById (models.insertionSort byId)
  require (usable models) (.modelRuntime "model discovery returned no usable models")
  let schema := "quillframe_model_catalog_v1"
  return ⟨schema, serviceId, models, computeFingerprint schema serviceId models⟩

/-- The models that a response lists under `data`; an entry without an id is left out. -/
def readModels (value : Json Fp) : CoreResult (List ModelDescriptor) := do
  let items ← fetch ((value.get? "data").bind Json.asItems)
    (.modelRuntime "model discovery response has no data array")
  return items.filterMap fun item => do
    let id := trim (← (← item.get? "id").asStr)
    guard (id ≠ "")
    let name := ((item.get? "display_name").bind Json.asStr).filter fun name => ¬ blank name
    return ⟨id, name.getD id⟩

variable [DecidableEq Fp]

def validate (catalog : ModelCatalog Fp) : CoreResult Unit := do
  require (catalog.schema = "quillframe_model_catalog_v1" ∧ ¬ blank catalog.serviceId ∧
      usable catalog.models)
    (.modelRuntime "model catalog is incomplete")
  require (computeFingerprint catalog.schema catalog.serviceId catalog.models =
      catalog.fingerprint)
    (.modelRuntime "model catalog fingerprint changed")

omit [Sha256 Fp] [DecidableEq Fp]

theorem mem_of_mem_dedupById {model : ModelDescriptor} {models : List ModelDescriptor}
    (h : model ∈ dedupById models) : model ∈ models := by
  induction models with
  | nil => exact h
  | cons first rest ih =>
    unfold dedupById at h
    split at h
    · exact List.mem_cons.mpr (.inl (List.mem_singleton.mp h))
    · next second more hrest =>
      rw [hrest] at ih
      split at h
      · rcases List.mem_cons.mp h with rfl | h
        · exact List.mem_cons_self
        · exact List.mem_cons_of_mem _ (ih (List.mem_cons_of_mem _ h))
      · rcases List.mem_cons.mp h with rfl | h
        · exact List.mem_cons_self
        · exact List.mem_cons_of_mem _ (ih h)

/-- Of models sorted by their ids, those that `dedup_by` leaves have increasing ids. -/
theorem dedupById_increasing {models : List ModelDescriptor}
    (hsorted : models.Pairwise fun a b => a.modelId ≤ b.modelId) :
    (dedupById models).Pairwise fun a b => a.modelId < b.modelId := by
  induction models with
  | nil => exact List.Pairwise.nil
  | cons first rest ih =>
    obtain ⟨hfirst, hrest⟩ := List.pairwise_cons.mp hsorted
    have hincreasing := ih hrest
    unfold dedupById
    split
    · exact List.pairwise_singleton _ _
    · next second more hdedup =>
      rw [hdedup] at hincreasing
      obtain ⟨hsecond, hmore⟩ := List.pairwise_cons.mp hincreasing
      have hmem : second ∈ rest := mem_of_mem_dedupById (hdedup ▸ List.mem_cons_self)
      split
      · next hsame =>
        refine List.pairwise_cons.mpr ⟨fun model hmodel => ?_, hmore⟩
        rw [hsame]
        exact hsecond model hmodel
      · next hdiffers =>
        have hless : first.modelId < second.modelId :=
          lt_of_le_of_ne (hfirst second hmem) hdiffers
        refine List.pairwise_cons.mpr ⟨fun model hmodel => ?_, hincreasing⟩
        rcases List.mem_cons.mp hmodel with rfl | hmodel
        · exact hless
        · exact hless.trans (hsecond model hmodel)

/-- Of models sorted by their ids, `dedup_by` leaves the first of each id. -/
theorem mem_dedupById {model : ModelDescriptor} {models : List ModelDescriptor}
    (hsorted : models.Pairwise fun a b => a.modelId ≤ b.modelId) :
    model ∈ dedupById models ↔
      models.find? (fun other => other.modelId = model.modelId) = some model := by
  induction models with
  | nil => simp [dedupById]
  | cons first rest ih =>
    obtain ⟨hfirst, hrest⟩ := List.pairwise_cons.mp hsorted
    have hrestMem := ih hrest
    have hincreasing := dedupById_increasing hrest
    rw [List.find?_cons]
    by_cases hid : first.modelId = model.modelId
    · -- the first model with this id, whatever the rest holds
      have hothers : ∀ other ∈ dedupById rest, first.modelId ≤ other.modelId :=
        fun other hother => hfirst other (mem_of_mem_dedupById hother)
      simp only [hid, decide_true, Option.some.injEq]
      unfold dedupById
      cases hdedup : dedupById rest with
      | nil => simp [eq_comm]
      | cons second more =>
        rw [hdedup] at hothers hincreasing
        have hmore : ∀ other ∈ more, second.modelId < other.modelId :=
          (List.pairwise_cons.mp hincreasing).1
        have hsecond := hothers second List.mem_cons_self
        have hnot : model ∉ more := fun h =>
          absurd (hid ▸ lt_of_le_of_lt hsecond (hmore model h)) (lt_irrefl _)
        by_cases hsame : first.modelId = second.modelId
        · simp [hsame, hnot, eq_comm]
        · have hne : model ≠ second := fun h => hsame (hid.trans (congrArg _ h))
          simp [hsame, hnot, hne, eq_comm]
    · have hne : model ≠ first := fun h => hid (congrArg _ h.symm)
      simp only [hid, decide_false]
      rw [← hrestMem, dedupById]
      cases hdedup : dedupById rest with
      | nil => simp [hne]
      | cons second more =>
        by_cases hsame : first.modelId = second.modelId
        · have hother : model ≠ second := fun h => hid (hsame.trans (congrArg _ h.symm))
          simp [hsame, hne, hother]
        · simp [hsame, hne]

/-- A stable sort keeps the first model of each id first. -/
theorem find?_insertionSort (models : List ModelDescriptor) (id : String) :
    (models.insertionSort byId).find? (fun model => model.modelId = id) =
      models.find? fun model => model.modelId = id := by
  let named : ModelDescriptor → Bool := fun model => model.modelId = id
  have hequal : (models.filter named).Pairwise byId := by
    refine List.pairwise_of_forall_mem_list fun a ha b hb => ?_
    have ha' := of_decide_eq_true (List.mem_filter.mp ha).2
    have hb' := of_decide_eq_true (List.mem_filter.mp hb).2
    exact le_of_eq (ha'.trans hb'.symm)
  have hsublist := (List.sublist_insertionSort hequal List.filter_sublist).filter named
  have hperm := (List.perm_insertionSort byId models).filter named
  rw [List.filter_filter] at hsublist
  simp only [Bool.and_self] at hsublist
  have heq := hsublist.eq_of_length hperm.length_eq.symm
  rw [← List.head?_filter, ← List.head?_filter]
  exact congrArg List.head? heq.symm

theorem create_eq_ok [Sha256 Fp] {serviceId : String} {models : List ModelDescriptor}
    {catalog : ModelCatalog Fp} : create serviceId models = .ok catalog ↔
      usable catalog.models ∧ catalog.schema = "quillframe_model_catalog_v1" ∧
      catalog.serviceId = serviceId ∧
      catalog.fingerprint = computeFingerprint catalog.schema serviceId catalog.models ∧
      catalog.models = dedupById (models.insertionSort byId) := by
  obtain ⟨schema, id, listed, fingerprint⟩ := catalog
  simp only [create, bind_eq_ok, require_eq_ok, exists_const, pure_eq_ok, mk.injEq]
  constructor
  · rintro ⟨husable, rfl, rfl, rfl, rfl⟩
    exact ⟨husable, rfl, rfl, rfl, rfl⟩
  · rintro ⟨husable, rfl, rfl, rfl, rfl⟩
    exact ⟨husable, rfl, rfl, rfl, rfl⟩

/-- A catalog lists the first model of each id that the service answered with, by increasing id,
and passes its own check. -/
theorem create_lists [Sha256 Fp] [DecidableEq Fp] {serviceId : String}
    {models : List ModelDescriptor} {catalog : ModelCatalog Fp} (hid : ¬ blank serviceId)
    (h : create serviceId models = .ok catalog) :
    catalog.validate = .ok () ∧
      (catalog.models.Pairwise fun a b => a.modelId < b.modelId) ∧
      ∀ model, model ∈ catalog.models ↔
        models.find? (fun other => other.modelId = model.modelId) = some model := by
  obtain ⟨husable, hschema, hservice, hfingerprint, hmodels⟩ := create_eq_ok.mp h
  have hsorted : (models.insertionSort byId).Pairwise fun a b => a.modelId ≤ b.modelId :=
    List.pairwise_insertionSort byId models
  refine ⟨?_, ?_, fun model => ?_⟩
  · simp only [validate, bind_eq_ok, require_eq_ok, exists_const]
    rw [hservice, hfingerprint]
    exact ⟨⟨hschema, hid, husable⟩, rfl⟩
  · rw [hmodels]
    exact dedupById_increasing hsorted
  · rw [hmodels, mem_dedupById hsorted, find?_insertionSort]

end ModelCatalog

/-! ## The global database -/

/-- A call of a store that the machine may refuse. -/
def mayFail (failure : Option CoreError) : CoreResult Unit :=
  match failure with
  | none => .ok ()
  | some error => .error error

abbrev ModelServices (Fp : Type) := OrderedMap String (ModelServiceRecord Fp)

namespace ModelServices

def timestamp (value : String) : CoreResult Unit :=
  require (¬ blank value ∧ value = trim value) (.storage "timestamp is required")

/-- `model_service_by_endpoint`; no two rows have one endpoint. -/
def byEndpoint (services : ModelServices Fp) (endpoint : String) :
    Option (ModelServiceRecord Fp) :=
  services.values.find? fun row => row.endpoint.endpoint = endpoint

/-- The version that a row is saved under. -/
def nextVersion (current : Option (ModelServiceRecord Fp)) (expectedVersion : ℕ) :
    CoreResult ℕ :=
  match current with
  | none =>
    if expectedVersion = 0 then .ok 1
    else .error (.authorityConflict "model service version changed")
  | some row =>
    if row.version = expectedVersion then .ok (row.version + 1)
    else .error (.authorityConflict "model service version changed")

/-- What `INSERT … ON CONFLICT(service_id) DO UPDATE` leaves in the row. -/
def savedRow (current : Option (ModelServiceRecord Fp)) (endpoint : ServiceEndpoint)
    (version : ℕ) (updatedAt : String) : ModelServiceRecord Fp where
  endpoint := endpoint
  enabled := current.elim true fun row => row.enabled
  discoveryState := "unknown"
  catalog := none
  lastCheckedAt := none
  version := version
  createdAt := current.elim updatedAt fun row => row.createdAt
  updatedAt := updatedAt

def saveModelService (parse : String → Option Url) (endpoint : ServiceEndpoint)
    (expectedVersion : ℕ) (updatedAt : String) (failure : Option CoreError)
    (services : ModelServices Fp) : CoreResult (ModelServices Fp) := do
  let _ ← endpoint.validateUrl parse
  timestamp updatedAt
  mayFail failure
  let current := services.get? endpoint.serviceId
  let version ← nextVersion current expectedVersion
  require (∀ entry ∈ services.entries,
      entry.1 ≠ endpoint.serviceId → entry.2.endpoint.endpoint ≠ endpoint.endpoint)
    (.storage "UNIQUE constraint failed: model_services.endpoint")
  return services.insert endpoint.serviceId (savedRow current endpoint version updatedAt)

def deleteModelService (serviceId : String) (failure : Option CoreError)
    (services : ModelServices Fp) : CoreResult (ModelServices Fp) := do
  mayFail failure
  return services.erase serviceId

variable [Sha256 Fp] [DecidableEq Fp]

def recordModelCatalog (serviceId : String) (catalog : ModelCatalog Fp) (checkedAt : String)
    (failure : Option CoreError) (services : ModelServices Fp) :
    CoreResult (ModelServices Fp) := do
  timestamp checkedAt
  catalog.validate
  require (catalog.serviceId = serviceId)
    (.authorityConflict "model catalog service binding changed")
  mayFail failure
  let row ← fetch ((services.get? serviceId).filter (·.enabled))
    (.authorityConflict "model service is unavailable for discovery")
  return services.insert serviceId { row with
    discoveryState := "connected", catalog := some catalog, lastCheckedAt := some checkedAt }

end ModelServices

/-! ## The secret store -/

/-- The passwords of the operating system, by their account. -/
abbrev Secrets := OrderedMap String String

namespace Secrets

def entryPrefix : String := "keyring:qf:"

/-- The references that name an account of the store. -/
def canonicalReference (reference : String) : Bool :=
  let account := reference.toList.drop entryPrefix.length
  startsWith entryPrefix reference && account ≠ [] && account.length ≤ 128 &&
    account.all fun c => c.isAlphanum || c = '-' || c = '_'

def entry (reference : String) (failure : Option CoreError) : CoreResult Unit := do
  require (canonicalReference reference)
    (.modelRuntime "credential reference is not a Quillframe keyring ref")
  mayFail failure

def readSecret (reference : String) (failure : Option CoreError) (secrets : Secrets) :
    CoreResult (Option String) := do
  entry reference failure
  return secrets.get? reference

def writeSecret (reference secret : String) (failure : Option CoreError) (secrets : Secrets) :
    CoreResult Secrets := do
  require (secret ≠ "") (.modelRuntime "secret cannot be empty")
  entry reference failure
  return secrets.insert reference secret

/-- Deleting a password that is not there is no error. -/
def deleteSecret (reference : String) (failure : Option CoreError) (secrets : Secrets) :
    CoreResult Secrets := do
  entry reference failure
  return secrets.erase reference

end Secrets

/-! ## Requests -/

structure ServiceStorage (Fp : Type) where
  services : ModelServices Fp
  secrets : Secrets

/-- A request with its arguments and the uuids that it draws. -/
inductive ServiceRequest where
  | add (endpoint : String) (accessToken authStyle protocolFamily : Option String)
      (allowLoopbackHttp : Bool) (serviceUuid referenceUuid : String)
  | replaceToken (serviceId accessToken referenceUuid : String)
  | removeToken (serviceId : String)
  | delete (serviceId : String)
  | discover (serviceId : String)
  deriving DecidableEq, Repr

/-- What a request does next. -/
inductive ServiceTask (Fp : Type) where
  | requested (request : ServiceRequest)
  | writing (reference secret : String) (endpoint : ServiceEndpoint)
      (existing : Option (ModelServiceRecord Fp)) (old : Option String)
  | saving (endpoint : ServiceEndpoint) (existing : Option (ModelServiceRecord Fp))
      (old : Option String)
  | undoing (reference : String) (error : CoreError)
  | cleaning (reference : String)
  | forgetting (serviceId reference : String)
  | deleting (serviceId : String)
  | fetching (service : ModelServiceRecord Fp)
  | recording (service : ModelServiceRecord Fp) (catalog : ModelCatalog Fp)
  | refreshing (serviceId : String)
  | finished (outcome : CoreResult Unit)

/-- What a step meets: the failures of the two stores, the answer of the network and the time. -/
structure Turn (Fp : Type) where
  database : Option CoreError
  keyring : Option CoreError
  answer : CoreResult (Json Fp)
  now : String

namespace ServiceRequest

def stringArg (name value : String) : CoreResult Unit :=
  require (¬ blank value) (.invalidProject (name ++ " must be a non-empty string"))

def parseAuthStyle (value : Option String) (hasToken : Bool) : CoreResult AuthStyle :=
  match value, hasToken with
  | none, true => .ok .bearer
  | none, false => .ok .none
  | some "bearer", true => .ok .bearer
  | some "x_api_key", true => .ok .xApiKey
  | some "none", false => .ok .none
  | _, _ => .error (.modelRuntime
      "model authentication style does not match the supplied credential")

def parseProtocolFamily (value : Option String) : CoreResult ProtocolFamily :=
  match value.getD "openai_chat_completions" with
  | "openai_chat_completions" => .ok .openaiChatCompletions
  | "openai_responses" => .ok .openaiResponses
  | "anthropic_messages" => .ok .anthropicMessages
  | _ => .error (.modelRuntime "model protocol family is unsupported")

def serviceName (uuid : String) : String := "svc-" ++ uuid

def referenceName (uuid : String) : String := Secrets.entryPrefix ++ uuid

/-- The service that a request names, as the global database has it. -/
def current (serviceId : String) (failure : Option CoreError) (services : ModelServices Fp) :
    CoreResult (ModelServiceRecord Fp) := do
  stringArg "service_id" serviceId
  mayFail failure
  fetch (services.get? serviceId) (.invalidProject "model service does not exist")

/-- The token of `model_service_add`; an empty one counts as none. -/
def suppliedToken (accessToken : Option String) : Option String := accessToken.filter (· ≠ "")

/-- The endpoint that `model_service_add` saves. -/
def addedEndpoint (url : String) (token : Option String) (style : AuthStyle)
    (family : ProtocolFamily) (allowLoopbackHttp : Bool) (serviceUuid referenceUuid : String)
    (existing : Option (ModelServiceRecord Fp)) : ServiceEndpoint where
  serviceId := existing.elim (serviceName serviceUuid) fun row => row.endpoint.serviceId
  endpoint := url
  credentialRef := token.map fun _ => referenceName referenceUuid
  authStyle := style
  protocolFamily := family
  allowLoopbackHttp := allowLoopbackHttp

def replacedEndpoint (row : ModelServiceRecord Fp) (reference : String) : ServiceEndpoint :=
  { row.endpoint with
    credentialRef := some reference
    authStyle := if row.endpoint.authStyle = .none then .bearer else row.endpoint.authStyle }

/-- What a request does up to its first write or call of the network. -/
def start (failure : Option CoreError) (services : ModelServices Fp) :
    ServiceRequest → CoreResult (ServiceTask Fp)
  | add url accessToken authStyle protocolFamily allowLoopbackHttp serviceUuid referenceUuid => do
    stringArg "endpoint" url
    mayFail failure
    let existing := services.byEndpoint url
    let token := suppliedToken accessToken
    let style ← parseAuthStyle authStyle token.isSome
    let family ← parseProtocolFamily protocolFamily
    let endpoint := addedEndpoint url token style family allowLoopbackHttp serviceUuid
      referenceUuid existing
    let old := (existing.bind fun row => row.endpoint.credentialRef).filter fun old =>
      some old ≠ endpoint.credentialRef
    match token with
    | some secret => return .writing (referenceName referenceUuid) secret endpoint existing old
    | none => return .saving endpoint existing old
  | replaceToken serviceId accessToken referenceUuid => do
    stringArg "service_id" serviceId
    stringArg "access_token" accessToken
    let row ← current serviceId failure services
    let reference := referenceName referenceUuid
    return .writing reference accessToken (replacedEndpoint row reference) (some row)
      row.endpoint.credentialRef
  | removeToken serviceId => do
    let row ← current serviceId failure services
    let endpoint := { row.endpoint with credentialRef := none, authStyle := .none }
    return .saving endpoint (some row) row.endpoint.credentialRef
  | delete serviceId => do
    stringArg "service_id" serviceId
    mayFail failure
    match (services.get? serviceId).bind fun row => row.endpoint.credentialRef with
    | some reference => return .forgetting serviceId reference
    | none => return .deleting serviceId
  | discover serviceId => do
    let row ← current serviceId failure services
    require row.enabled (.invalidProject "model service is disabled")
    return .fetching row

/-- The uuids that a request draws. -/
def uuids : ServiceRequest → List String
  | add _ _ _ _ _ serviceUuid referenceUuid => [serviceUuid, referenceUuid]
  | replaceToken _ _ referenceUuid => [referenceUuid]
  | _ => []

end ServiceRequest

namespace ServiceTask

variable [Sha256 Fp] [DecidableEq Fp]

/-- The secret of the service is read before its models are asked for. -/
def readCredential (failure : Option CoreError) (endpoint : ServiceEndpoint) (secrets : Secrets) :
    CoreResult String :=
  match endpoint.credentialRef with
  | none => .ok ""
  | some reference => do
    fetch (← secrets.readSecret reference failure)
      (.modelRuntime "credential reference is unavailable")

/-- `discover_models`, where the network answers with a JSON value. -/
def discoverModels (parse : String → Option Url) (turn : Turn Fp) (endpoint : ServiceEndpoint)
    (secrets : Secrets) : CoreResult (ModelCatalog Fp) := do
  let _ ← endpoint.validateUrl parse
  let _ ← readCredential turn.keyring endpoint secrets
  let value ← turn.answer
  let models ← ModelCatalog.readModels value
  ModelCatalog.create endpoint.serviceId models

/-- One step of a task. -/
def advance (parse : String → Option Url) (turn : Turn Fp) (storage : ServiceStorage Fp) :
    ServiceTask Fp → ServiceTask Fp × ServiceStorage Fp
  | requested request =>
    match request.start turn.database storage.services with
    | .ok task => (task, storage)
    | .error error => (finished (.error error), storage)
  | writing reference secret endpoint existing old =>
    match storage.secrets.writeSecret reference secret turn.keyring with
    | .ok secrets => (saving endpoint existing old, { storage with secrets })
    | .error error => (finished (.error error), storage)
  | saving endpoint existing old =>
    match storage.services.saveModelService parse endpoint (existing.elim 0 (·.version)) turn.now
      turn.database with
    | .ok services => (old.elim (finished (.ok ())) cleaning, { storage with services })
    | .error error =>
      (endpoint.credentialRef.elim (finished (.error error)) (undoing · error), storage)
  | undoing reference error =>
    match storage.secrets.deleteSecret reference turn.keyring with
    | .ok secrets => (finished (.error error), { storage with secrets })
    | .error _ => (finished (.error error), storage)
  | cleaning reference =>
    match storage.secrets.deleteSecret reference turn.keyring with
    | .ok secrets => (finished (.ok ()), { storage with secrets })
    | .error error => (finished (.error error), storage)
  | forgetting serviceId reference =>
    match storage.secrets.deleteSecret reference turn.keyring with
    | .ok secrets => (deleting serviceId, { storage with secrets })
    | .error error => (finished (.error error), storage)
  | deleting serviceId =>
    match storage.services.deleteModelService serviceId turn.database with
    | .ok services => (finished (.ok ()), { storage with services })
    | .error error => (finished (.error error), storage)
  | fetching service =>
    match discoverModels parse turn service.endpoint storage.secrets with
    | .ok catalog => (recording service catalog, storage)
    | .error error => (finished (.error error), storage)
  | recording service catalog =>
    match storage.services.recordModelCatalog service.endpoint.serviceId catalog turn.now
      turn.database with
    | .ok services => (refreshing service.endpoint.serviceId, { storage with services })
    | .error error => (finished (.error error), storage)
  | refreshing serviceId =>
    match (mayFail turn.database).bind fun _ => fetch (storage.services.get? serviceId)
      (.invalidProject "model service disappeared") with
    | .ok _ => (finished (.ok ()), storage)
    | .error error => (finished (.error error), storage)
  | finished outcome => (finished outcome, storage)

end ServiceTask

/-! ## Interleavings -/

/-- The storage and every request, of which any number may be under way. -/
structure ServiceState (Fp : Type) where
  storage : ServiceStorage Fp
  tasks : ℕ → ServiceTask Fp

namespace ServiceState

def initial (requests : ℕ → ServiceRequest) : ServiceState Fp :=
  ⟨⟨.empty, .empty⟩, fun i => .requested (requests i)⟩

variable [Sha256 Fp] [DecidableEq Fp]

/-- The task that has its turn takes a step. -/
def step (parse : String → Option Url) (s : ServiceState Fp) (turn : ℕ × Turn Fp) :
    ServiceState Fp :=
  let next := (s.tasks turn.1).advance parse turn.2 s.storage
  ⟨next.2, Function.update s.tasks turn.1 next.1⟩

def run (parse : String → Option Url) (s : ServiceState Fp) (turns : List (ℕ × Turn Fp)) :
    ServiceState Fp :=
  turns.foldl (step parse) s

end ServiceState

end Quillframe
