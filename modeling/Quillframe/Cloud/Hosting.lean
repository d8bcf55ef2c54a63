import Quillframe.Cloud.PointerRuns

/-!
# Hosted projects

The upload, collection and deletion requests of one workspace, as they interleave. Each request
takes one step at a time: a transaction of the coordinator or an operation on the bucket. A request
that fails, or whose worker stops, takes no further step.
-/
namespace Quillframe.Cloud

/-- The digests of the service and the sizes of its bundles. -/
structure Digests (Bundle : Type) where
  /-- Of a text, in base64url. -/
  sha256 : Json String → String
  /-- Of a text, in hexadecimal. -/
  sha256Hex : String → String
  /-- `sha256:` and the digest of the canonical JSON of a value. -/
  canonical : Json String → String
  /-- `sha256:` and the digest of the bytes of a bundle. -/
  bundle : Bundle → String
  byteSize : Bundle → ℤ

/-- The coordinator of a workspace and the bucket of its objects. -/
structure Service (Bundle : Type) where
  storage : Storage
  bucket : String → Option Bundle

/-- A request and what it knows before its next step. -/
inductive Request (Bundle : Type) where
  | upload (operationId projectId : String) (bundle : Bundle)
  | placing (operationId projectId : String) (bundle : Bundle) (expectedPointerVersion : ℤ)
  | preparing (operationId projectId : String) (bundle : Bundle) (expectedPointerVersion : ℤ)
  | moving (operationId projectId : String) (bundle : Bundle) (expectedPointerVersion : ℤ)
  | gc (operationId projectId versionId : String)
  | beginning (operationId projectId versionId : String) (retentionBefore : ℤ)
  | erasing (operationId projectId versionId : String) (receipt : ProjectVersionGcReceipt)
  | finishing (operationId projectId versionId : String) (deleted : Bool)
  | delete (operationId projectId : String)
  | resolving (operationId projectId : String) (current : Option ProjectPointer)
  | tombstoning (operationId projectId : String) (captured : ProjectPointer)
  | removing (projectId : String) (captured : ProjectPointer)

/-- How a bucket operation ends: done, refused, or done with its answer lost. -/
inductive BucketAnswer where
  | done | refused | lost
  deriving DecidableEq, Repr

/-! ## Reading the coordinator -/

def checkBinding (binding : Option WorkspaceBinding) : Coordinator Unit :=
  match binding with
  | none => .ok ()
  | some binding => assertWorkspaceBinding binding none

def readProjectPointer (projectId : String) (storage : Storage) :
    Coordinator (Option ProjectPointer) := do
  assertProjectId projectId
  match (storage.projects projectId).pointer with
  | some pointer => do
    assertPointer pointer projectId
    let _ ← requireWorkspaceBinding storage.binding (some pointer.workspaceId)
    return some pointer
  | none => do
    checkBinding storage.binding
    return none

/-- The retention boundary of a collection that has begun. -/
def readProjectVersionGcOperation (projectId operationId : String) (storage : Storage) :
    Coordinator (Option ℤ) := do
  require (boundedProjectId projectId ∧ boundedId operationId)
    (failure "project_gc_invalid" "project garbage-collection operation is invalid")
  match (storage.projects projectId).gcOperations.get? operationId with
  | none => return none
  | some operation => do
    assertProjectVersionGcOperation operation projectId operationId
    return some operation.retentionBefore

def readProjectTombstoneOperation (projectId operationId : String) (storage : Storage) :
    Coordinator (Option ProjectPointer) := do
  assertProjectId projectId
  require (boundedId operationId)
    (failure "project_tombstone_invalid" "project tombstone operation is invalid")
  match (storage.projects projectId).tombstoneOperations.get? operationId with
  | none => return none
  | some operation => do
    assertProjectTombstoneOperation operation projectId operationId
    let _ ← requireWorkspaceBinding storage.binding (some operation.receiptSnapshot.workspaceId)
    return some operation.receiptSnapshot

/-! ## Requests -/

section Requests

variable {Bundle : Type} [DecidableEq Bundle] (digests : Digests Bundle)
  (localeCompare : String → String → Ordering) (workspaceId : String)

def objectKey (projectId versionId : String) : String :=
  "v2/" ++ digests.sha256Hex workspaceId ++ "/" ++ projectId ++ "/versions/" ++ versionId ++
    ".qfbundle"

/-- The pointer version that an upload expects. A repeated upload expects what the first did. -/
def uploadExpects (pointer : Option ProjectPointer) (versionId : String) : ℤ :=
  match pointer with
  | none => 0
  | some pointer =>
    if pointer.state = .active ∧ pointer.versionId = some versionId ∧ 0 < pointer.pointerVersion
    then pointer.pointerVersion - 1 else pointer.pointerVersion

def preparationInput (operationId projectId : String) (bundle : Bundle) (expected : ℤ) :
    ProjectVersionPreparationInput :=
  let versionId := digests.bundle bundle
  let key := objectKey digests workspaceId projectId versionId
  { operationId, workspaceId, projectId, expectedPointerVersion := expected, versionId
    objectKey := key, plaintextFingerprint := versionId, byteSize := digests.byteSize bundle
    inputFingerprint := digests.canonical (.obj [("action", .str "project.upload"),
      ("byte_size", .int (digests.byteSize bundle)), ("expected_pointer_version", .int expected),
      ("object_key", .str key), ("operation_id", .str operationId),
      ("plaintext_fingerprint", .str versionId), ("project_id", .str projectId),
      ("version_id", .str versionId), ("workspace_id", .str workspaceId)]) }

def casInput (projectId : String) (bundle : Bundle) (expected : ℤ) : ProjectPointerCasInput :=
  let versionId := digests.bundle bundle
  { projectId, expectedPointerVersion := expected
    next := { workspaceId, projectId := some projectId, state := .active, versionId
              objectKey := objectKey digests workspaceId projectId versionId
              plaintextFingerprint := versionId } }

/-- What `uploadVerified` checks before it writes the object. -/
def uploadable (projectId : String) (bundle : Bundle) : Bool :=
  boundedId workspaceId && boundedProjectId projectId && validByteSize (digests.byteSize bundle)

/-- What `deleteGcObject` checks. -/
def erasable (projectId : String) (receipt : ProjectVersionGcReceipt) : Bool :=
  boundedId workspaceId && boundedProjectId projectId && receipt.projectId = projectId &&
    receipt.workspaceId = workspaceId && versionFingerprint receipt.versionId &&
    versionFingerprint receipt.plaintextFingerprint && receipt.status = .pending &&
    validByteSize receipt.byteSize &&
    receipt.objectKey = objectKey digests workspaceId projectId receipt.versionId

/-- What `deleteVerified` checks of the pointer, and the object it names. -/
def removable (projectId : String) (pointer : ProjectPointer) : Option String :=
  match pointer.versionId, pointer.objectKey, pointer.plaintextFingerprint with
  | some versionId, some key, some fingerprint =>
    if boundedId workspaceId ∧ boundedProjectId projectId ∧ pointer.workspaceId = workspaceId ∧
        pointer.projectId = projectId ∧ versionFingerprint versionId ∧
        versionFingerprint fingerprint ∧ key ≠ "" ∧ utf16Length (utf8 key) ≤ 512 ∧
        key = objectKey digests workspaceId projectId versionId
    then some key else none
  | _, _, _ => none

/-- The pointer that a deletion has captured, with all its references. -/
def captures (projectId : String) (pointer : ProjectPointer) : Bool :=
  pointer.workspaceId = workspaceId && pointer.projectId = projectId &&
    pointer.references.all fun reference => reference ≠ none && reference ≠ some ""

/-- A deletion that is repeated names the tombstone that is there. -/
def sameTombstone (current previous : ProjectPointer) : Bool :=
  current.state = .deleted && current.pointerVersion = previous.pointerVersion &&
    current.objectKey = previous.objectKey && current.versionId = previous.versionId &&
    current.plaintextFingerprint = previous.plaintextFingerprint

/-- The step of a deletion after its two reads. -/
def resolveDelete (operationId projectId : String) (current previous : Option ProjectPointer) :
    Option (Request Bundle) :=
  match previous with
  | some previous =>
    if captures workspaceId projectId previous ∧ current.any (sameTombstone · previous)
    then some (.removing projectId previous) else none
  | none =>
    match current with
    | none => none
    | some current =>
      if captures workspaceId projectId current ∧ current.state = .active
      then some (.tombstoning operationId projectId current) else none

/-- The next request after a transaction that succeeded, none after one that failed. -/
def proceed {α : Type} (outcome : Except WorkspaceCoordinatorError α)
    (next : α → Option (Request Bundle)) : Option (Request Bundle) :=
  match outcome with
  | .ok value => next value
  | .error _ => none

/-- The conditional put keeps an object that is there. -/
def Service.put (service : Service Bundle) (key : String) (bundle : Bundle) : Service Bundle :=
  { service with
    bucket := Function.update service.bucket key (some ((service.bucket key).getD bundle)) }

def Service.erase (service : Service Bundle) (key : String) : Service Bundle :=
  { service with bucket := Function.update service.bucket key none }

/-- The bucket deletes an object unless it refuses. -/
def Service.eraseUnless (service : Service Bundle) (key : String) (answer : BucketAnswer) :
    Service Bundle :=
  if answer = .refused then service else service.erase key

/-- One step of a request: what it goes on with, and the service after it. -/
def Request.advance (request : Request Bundle) (now : ℤ) (answer : BucketAnswer)
    (service : Service Bundle) : Option (Request Bundle) × Service Bundle :=
  match request with
  | .upload operationId projectId bundle =>
    match readProjectPointer projectId service.storage with
    | .error _ => (none, service)
    | .ok pointer =>
      if pointer.all fun pointer => pointer.workspaceId = workspaceId ∧
          pointer.projectId = projectId
      then (some (.placing operationId projectId bundle
        (uploadExpects pointer (digests.bundle bundle))), service)
      else (none, service)
  | .placing operationId projectId bundle expected =>
    let key := objectKey digests workspaceId projectId (digests.bundle bundle)
    if ¬ uploadable digests workspaceId projectId bundle ∨ answer = .refused then (none, service)
    else
      let placed := service.bucket key = none ∨ service.bucket key = some bundle
      (if answer = .done ∧ placed then some (.preparing operationId projectId bundle expected)
        else none, service.put key bundle)
  | .preparing operationId projectId bundle expected =>
    let input := preparationInput digests workspaceId operationId projectId bundle expected
    let (outcome, storage) :=
      (prepareProjectVersion input now service.storage).run service.storage
    (proceed outcome fun _ => some (.moving operationId projectId bundle expected),
      { service with storage })
  | .moving _ projectId bundle expected =>
    let input := casInput digests workspaceId projectId bundle expected
    (none, { service with
      storage := ((casProjectPointer input now service.storage).run service.storage).2 })
  | .gc operationId projectId versionId =>
    match readProjectVersionGcOperation projectId operationId service.storage with
    | .error _ => (none, service)
    | .ok prior => (some (.beginning operationId projectId versionId
        (prior.getD (now - 60 * 60 * 1000))), service)
  | .beginning operationId projectId versionId retentionBefore =>
    let input := ⟨projectId, versionId, operationId, retentionBefore⟩
    let (outcome, storage) :=
      (beginProjectVersionGc localeCompare input now service.storage).run service.storage
    (proceed outcome fun receipt => if receipt.status = .completed then none
      else some (.erasing operationId projectId versionId receipt), { service with storage })
  | .erasing operationId projectId versionId receipt =>
    if erasable digests workspaceId projectId receipt then
      (some (.finishing operationId projectId versionId (answer = .done)),
        service.eraseUnless receipt.objectKey answer)
    else (some (.finishing operationId projectId versionId false), service)
  | .finishing operationId projectId versionId deleted =>
    let input := ⟨projectId, versionId, operationId, deleted⟩
    (none, { service with
      storage := ((finishProjectVersionGc input now service.storage).run service.storage).2 })
  | .delete operationId projectId =>
    match readProjectPointer projectId service.storage with
    | .error _ => (none, service)
    | .ok current => (some (.resolving operationId projectId current), service)
  | .resolving operationId projectId current =>
    match readProjectTombstoneOperation projectId operationId service.storage with
    | .error _ => (none, service)
    | .ok previous => (resolveDelete workspaceId operationId projectId current previous, service)
  | .tombstoning operationId projectId captured =>
    let input := ⟨projectId, captured.pointerVersion, "explicit_project_delete", operationId⟩
    let (outcome, storage) :=
      (casProjectTombstone digests.sha256 input now service.storage).run service.storage
    (proceed outcome fun _ => some (.removing projectId captured), { service with storage })
  | .removing projectId captured =>
    match removable digests workspaceId projectId captured with
    | none => (none, service)
    | some key => (none, service.eraseUnless key answer)

end Requests

/-! ## Runs -/

/-- The service and the requests in flight. -/
structure Hosted (Bundle : Type) where
  service : Service Bundle
  requests : List (Request Bundle)

def Hosted.empty {Bundle : Type} : Hosted Bundle := ⟨⟨.empty, fun _ => none⟩, []⟩

/-- What may happen next: a session binds the workspace, a request comes in, one of those in flight
takes its next step, or stops for good. -/
inductive HostedAction (Bundle : Type) where
  | session (now : ℤ)
  | upload (operationId projectId : String) (bundle : Bundle)
  | gc (operationId projectId versionId : String)
  | delete (operationId projectId : String)
  | advance (index : ℕ) (now : ℤ) (answer : BucketAnswer)
  | stop (index : ℕ)

section HostedRuns

variable {Bundle : Type} [DecidableEq Bundle] (digests : Digests Bundle)
  (localeCompare : String → String → Ordering) (workspaceId : String)

def Hosted.arrive (hosted : Hosted Bundle) (request : Request Bundle) : Hosted Bundle :=
  { hosted with requests := hosted.requests ++ [request] }

def HostedAction.act (action : HostedAction Bundle) (hosted : Hosted Bundle) : Hosted Bundle :=
  match action with
  | .session now => { hosted with service := { hosted.service with
      storage := (CoordinatorCall.bind workspaceId).apply digests.sha256 localeCompare now
        hosted.service.storage } }
  | .upload operationId projectId bundle => hosted.arrive (.upload operationId projectId bundle)
  | .gc operationId projectId versionId => hosted.arrive (.gc operationId projectId versionId)
  | .delete operationId projectId => hosted.arrive (.delete operationId projectId)
  | .advance index now answer =>
    match hosted.requests[index]? with
    | none => hosted
    | some request =>
      let (next, service) :=
        request.advance digests localeCompare workspaceId now answer hosted.service
      { service, requests := match next with
          | none => hosted.requests.eraseIdx index
          | some next => hosted.requests.set index next }
  | .stop index => { hosted with requests := hosted.requests.eraseIdx index }

def hostedAfter (actions : List (HostedAction Bundle)) : Hosted Bundle :=
  actions.foldl (fun hosted action => action.act digests localeCompare workspaceId hosted) .empty

/-! ## The objects of active versions -/

/-- The object that an upload has placed and not yet made the active version. -/
def Request.places : Request Bundle → Option (String × Bundle)
  | .preparing _ projectId bundle _ =>
    some (objectKey digests workspaceId projectId (digests.bundle bundle), bundle)
  | .moving _ projectId bundle _ =>
    some (objectKey digests workspaceId projectId (digests.bundle bundle), bundle)
  | _ => none

/-- The object that the next step of a request deletes. -/
def Request.erases : Request Bundle → Option String
  | .erasing _ projectId _ receipt =>
    if erasable digests workspaceId projectId receipt then some receipt.objectKey else none
  | .removing projectId captured => removable digests workspaceId projectId captured
  | _ => none

/-- No active version has its object under the key. -/
def Storage.Unused (storage : Storage) (key : String) : Prop :=
  ∀ projectId versionId version, (storage.projects projectId).versions.get? versionId =
    some version → version.status = .active → version.objectKey ≠ key

/-- An object is deleted only while no upload that has placed it is on its way to the pointer and no
active version uses it. -/
def HostedAction.Calm (action : HostedAction Bundle) (hosted : Hosted Bundle) : Prop :=
  match action with
  | .advance index _ _ => ∀ request ∈ hosted.requests[index]?,
    ∀ key ∈ request.erases digests workspaceId,
      (∀ other ∈ hosted.requests, ∀ placed ∈ other.places digests workspaceId, placed.1 ≠ key) ∧
      hosted.service.storage.Unused key
  | _ => True

/-- The bucket holds the object of every active version. -/
def Service.Holds (service : Service Bundle) : Prop :=
  ∀ projectId pointer, (service.storage.projects projectId).pointer = some pointer →
    pointer.state = .active → ∃ key bundle, pointer.objectKey = some key ∧
      service.bucket key = some bundle ∧ pointer.versionId = some (digests.bundle bundle)

variable {digests localeCompare workspaceId}

theorem ProjectEffect.active_pointer {call : CoordinatorCall} {before after : ProjectStorage}
    (h : ProjectEffect call before after) {pointer : ProjectPointer}
    (hpointer : after.pointer = some pointer) (hactive : pointer.state = .active) :
    before.pointer = some pointer ∨ ∃ input, call = .cas input ∧
      pointer.objectKey = some input.next.objectKey ∧
      pointer.versionId = some input.next.versionId := by
  cases h with
  | idle same _ => exact .inl (same ▸ hpointer)
  | prepared _ _ same _ => exact .inl (same ▸ hpointer)
  | stale _ _ _ _ same _ => exact .inl (same ▸ hpointer)
  | moved _ _ _ _ moved _ _ =>
    rw [moved, Option.some.injEq] at hpointer
    exact .inr ⟨_, rfl, by simp [← hpointer, nextPointer], by simp [← hpointer, nextPointer]⟩
  | deleted _ _ _ moved _ =>
    rw [moved, Option.some.injEq] at hpointer
    rw [← hpointer] at hactive
    cases hactive
  | collecting _ _ _ same _ => exact .inl (same ▸ hpointer)
  | collected _ _ _ same _ => exact .inl (same ▸ hpointer)

/-- What holds of the service between the steps of requests. -/
structure Service.Safe (digests : Digests Bundle) (service : Service Bundle) : Prop where
  pointed : ∀ projectId, (service.storage.projects projectId).Pointed
  holds : service.Holds digests

omit [DecidableEq Bundle] in
/-- A coordinator call keeps the service safe when the object of the version that it would activate
is in the bucket. -/
theorem Service.Safe.apply {service : Service Bundle} (h : service.Safe digests)
    {call : CoordinatorCall} {storage : Storage} (hcall : call.Changes service.storage storage)
    (hcas : ∀ input, call = .cas input → ∃ bundle,
      service.bucket input.next.objectKey = some bundle ∧
        input.next.versionId = digests.bundle bundle) :
    Service.Safe digests { service with storage } := by
  have hprojects : ∀ projectId, storage.projects projectId = service.storage.projects projectId ∨
      ProjectEffect call (service.storage.projects projectId) (storage.projects projectId) := by
    intro projectId
    by_cases hid : projectId = call.projectId
    · exact .inr (hid ▸ hcall.effect)
    · exact .inl (hcall.others projectId hid)
  refine ⟨fun projectId => ?_, fun projectId pointer hpointer hactive => ?_⟩
  · rcases hprojects projectId with hsame | heffect
    · exact hsame ▸ h.pointed projectId
    · exact heffect.pointed (h.pointed projectId)
  · rcases hprojects projectId with hsame | heffect
    · exact h.holds projectId pointer (hsame ▸ hpointer) hactive
    · rcases heffect.active_pointer hpointer hactive with hbefore | ⟨input, hinput, hkey, hversion⟩
      · exact h.holds projectId pointer hbefore hactive
      · obtain ⟨bundle, hbundle, hfingerprint⟩ := hcas input hinput
        exact ⟨_, bundle, hkey, hbundle, hfingerprint ▸ hversion⟩

omit [DecidableEq Bundle] in
/-- More objects in the bucket keep the service safe. -/
theorem Service.Safe.grow {service : Service Bundle} (h : service.Safe digests)
    {bucket : String → Option Bundle}
    (hbucket : ∀ key bundle, service.bucket key = some bundle → bucket key = some bundle) :
    Service.Safe digests { service with bucket } := by
  refine ⟨h.pointed, fun projectId pointer hpointer hactive => ?_⟩
  obtain ⟨key, bundle, hkey, hbundle, hversion⟩ := h.holds projectId pointer hpointer hactive
  exact ⟨key, bundle, hkey, hbucket key bundle hbundle, hversion⟩

omit [DecidableEq Bundle] in
theorem erase_bucket {service : Service Bundle} {key other : String} {bundle : Bundle}
    (hne : other ≠ key) (h : service.bucket other = some bundle) :
    (service.erase key).bucket other = some bundle :=
  (Function.update_of_ne hne _ _).trans h

omit [DecidableEq Bundle] in
/-- Deleting an object that no active version uses keeps the service safe. -/
theorem Service.Safe.erase {service : Service Bundle} (h : service.Safe digests) {key : String}
    (hunused : service.storage.Unused key) : (service.erase key).Safe digests := by
  refine ⟨h.pointed, fun projectId pointer hpointer hactive => ?_⟩
  obtain ⟨other, bundle, hkey, hbundle, hversion⟩ := h.holds projectId pointer hpointer hactive
  obtain ⟨versionId, version, -, hrecord, hstatus, -, hobject, -⟩ :=
    (h.pointed projectId).target pointer hpointer hactive
  have hne : other ≠ key := by
    rw [hkey, Option.some.injEq] at hobject
    exact hobject ▸ hunused projectId versionId version hrecord hstatus
  exact ⟨other, bundle, hkey, erase_bucket hne hbundle, hversion⟩

omit [DecidableEq Bundle] in
theorem Service.Safe.eraseUnless {service : Service Bundle} (h : service.Safe digests)
    {key : String} (hunused : service.storage.Unused key) (answer : BucketAnswer) :
    (service.eraseUnless key answer).Safe digests := by
  rw [Service.eraseUnless]
  split_ifs
  · exact h
  · exact h.erase hunused

omit [DecidableEq Bundle] in
theorem eraseUnless_bucket {service : Service Bundle} {key other : String} {bundle : Bundle}
    {answer : BucketAnswer} (hne : other ≠ key) (h : service.bucket other = some bundle) :
    (service.eraseUnless key answer).bucket other = some bundle := by
  rw [Service.eraseUnless]
  split_ifs
  · exact h
  · exact erase_bucket hne h

omit [DecidableEq Bundle] in
theorem put_bucket {service : Service Bundle} {key other : String} {bundle placed : Bundle}
    (h : service.bucket other = some bundle) :
    (service.put key placed).bucket other = some bundle := by
  by_cases hkey : other = key
  · subst hkey
    simp [Service.put, h]
  · exact (Function.update_of_ne hkey _ _).trans h

omit [DecidableEq Bundle] in
theorem mem_proceed {α : Type} {outcome : Except WorkspaceCoordinatorError α}
    {next : α → Option (Request Bundle)} {request : Request Bundle}
    (h : request ∈ proceed outcome next) : ∃ value, next value = some request := by
  cases outcome with
  | error error => cases h
  | ok value => exact ⟨value, h⟩

omit [DecidableEq Bundle] in
theorem resolveDelete_places {operationId projectId : String}
    {current previous : Option ProjectPointer} {request : Request Bundle}
    (h : request ∈ resolveDelete workspaceId operationId projectId current previous) :
    request.places digests workspaceId = none := by
  unfold resolveDelete at h
  repeat' split at h
  all_goals cases h
  all_goals rfl

/-- The result of a step that leaves the service safe: the objects that are placed stay. -/
structure Request.Steps (digests : Digests Bundle) (workspaceId : String)
    (request : Request Bundle) (service : Service Bundle)
    (result : Option (Request Bundle) × Service Bundle) : Prop where
  safe : result.2.Safe digests
  placed : ∀ next ∈ result.1, ∀ placed ∈ next.places digests workspaceId,
    result.2.bucket placed.1 = some placed.2
  kept : ∀ key bundle, service.bucket key = some bundle →
    request.erases digests workspaceId ≠ some key → result.2.bucket key = some bundle

theorem Request.advance_steps {request : Request Bundle} (now : ℤ) (answer : BucketAnswer)
    {service : Service Bundle} (hsafe : service.Safe digests)
    (hplaced : ∀ placed ∈ request.places digests workspaceId,
      service.bucket placed.1 = some placed.2)
    (hunused : ∀ key ∈ request.erases digests workspaceId, service.storage.Unused key) :
    request.Steps digests workspaceId service
      (request.advance digests localeCompare workspaceId now answer service) := by
  have hread : ∀ next : Option (Request Bundle),
      (∀ other ∈ next, other.places digests workspaceId = none) →
      request.Steps digests workspaceId service (next, service) := by
    intro next hnext
    refine ⟨hsafe, fun other hother placed hmem => ?_, fun _ _ h _ => h⟩
    rw [hnext other hother] at hmem
    cases hmem
  have hidle : request.Steps digests workspaceId service (none, service) :=
    hread none fun _ h => nomatch h
  have hgoOn : ∀ next : Request Bundle, next.places digests workspaceId = none →
      request.Steps digests workspaceId service (some next, service) :=
    fun next hnext => hread _ fun other hother => Option.some.inj hother ▸ hnext
  have hcall : ∀ (next : Option (Request Bundle)) {call : CoordinatorCall} {storage : Storage},
      call.Changes service.storage storage →
      (∀ input, call = .cas input → ∃ bundle, service.bucket input.next.objectKey = some bundle ∧
        input.next.versionId = digests.bundle bundle) →
      (∀ other ∈ next, ∀ placed ∈ other.places digests workspaceId,
        placed ∈ request.places digests workspaceId) →
      request.Steps digests workspaceId service (next, { service with storage }) := by
    intro next call storage hchanges hcas hnext
    exact ⟨hsafe.apply hchanges hcas,
      fun other hother placed hmem => hplaced placed (hnext other hother placed hmem),
      fun _ _ h _ => h⟩
  cases request with
  | upload operationId projectId bundle =>
    simp only [advance]
    split
    · exact hidle
    · split_ifs
      · exact hgoOn _ rfl
      · exact hidle
  | placing operationId projectId bundle expected =>
    simp only [advance]
    split_ifs with hrefused hdone
    · exact hidle
    · refine ⟨hsafe.grow fun _ _ => put_bucket, fun next hnext placed hmem => ?_,
        fun _ _ h _ => put_bucket h⟩
      rw [← Option.some.inj hnext] at hmem
      rw [← Option.some.inj hmem]
      rcases hdone.2 with habsent | hpresent
      · simp [Service.put, habsent]
      · exact put_bucket hpresent
    · exact ⟨hsafe.grow fun _ _ => put_bucket, fun _ h => (nomatch h), fun _ _ h _ => put_bucket h⟩
  | preparing operationId projectId bundle expected =>
    refine hcall _ ((prepareProjectVersion_post _ now).run .same) (fun _ h => (nomatch h)) ?_
    intro other hother placed hmem
    obtain ⟨_, hvalue⟩ := mem_proceed hother
    rw [← Option.some.inj hvalue] at hmem
    exact hmem
  | moving operationId projectId bundle expected =>
    refine hcall none ((casProjectPointer_post _ now).run .same) ?_ fun _ h => (nomatch h)
    intro input hinput
    cases hinput
    exact ⟨bundle, hplaced _ rfl, rfl⟩
  | gc operationId projectId versionId =>
    simp only [advance]
    split
    · exact hidle
    · exact hgoOn _ rfl
  | beginning operationId projectId versionId retentionBefore =>
    refine hcall _ ((CoordinatorCall.beginGc _).apply_changes digests.sha256 localeCompare now _)
      (fun _ h => (nomatch h)) ?_
    intro other hother placed hmem
    obtain ⟨_, hvalue⟩ := mem_proceed hother
    split_ifs at hvalue
    rw [← Option.some.inj hvalue] at hmem
    cases hmem
  | erasing operationId projectId versionId receipt =>
    simp only [advance]
    by_cases herasable : erasable digests workspaceId projectId receipt
    · have herases : (Request.erasing operationId projectId versionId receipt :
          Request Bundle).erases digests workspaceId = some receipt.objectKey := by
        simp [Request.erases, herasable]
      rw [if_pos herasable]
      refine ⟨hsafe.eraseUnless (hunused _ herases) answer, fun next hnext placed hmem => ?_,
        fun key bundle hbundle hne => eraseUnless_bucket ?_ hbundle⟩
      · rw [← Option.some.inj hnext] at hmem
        cases hmem
      · rw [herases] at hne
        exact fun he => hne (congrArg some he.symm)
    · rw [if_neg herasable]
      exact hgoOn _ rfl
  | finishing operationId projectId versionId deleted =>
    exact hcall none ((CoordinatorCall.finishGc _).apply_changes digests.sha256 localeCompare now _)
      (fun _ h => (nomatch h)) fun _ h => (nomatch h)
  | delete operationId projectId =>
    simp only [advance]
    split
    · exact hidle
    · exact hgoOn _ rfl
  | resolving operationId projectId current =>
    simp only [advance]
    split
    · exact hidle
    · exact hread _ fun _ => resolveDelete_places
  | tombstoning operationId projectId captured =>
    refine hcall _ ((CoordinatorCall.tombstone _).apply_changes digests.sha256 localeCompare now _)
      (fun _ h => (nomatch h)) ?_
    intro other hother placed hmem
    obtain ⟨_, hvalue⟩ := mem_proceed hother
    rw [← Option.some.inj hvalue] at hmem
    cases hmem
  | removing projectId captured =>
    simp only [advance]
    cases hremovable : removable digests workspaceId projectId captured with
    | none => exact hidle
    | some key =>
      have herases : (Request.removing projectId captured : Request Bundle).erases digests
          workspaceId = some key := hremovable
      refine ⟨hsafe.eraseUnless (hunused _ herases) answer, fun _ h => (nomatch h),
        fun other bundle hbundle hne => eraseUnless_bucket ?_ hbundle⟩
      rw [herases] at hne
      exact fun he => hne (congrArg some he.symm)

/-- What holds of the service and the requests in flight after every calm action. -/
structure Hosted.Safe (digests : Digests Bundle) (workspaceId : String)
    (hosted : Hosted Bundle) : Prop where
  service : hosted.service.Safe digests
  placed : ∀ request ∈ hosted.requests, ∀ placed ∈ request.places digests workspaceId,
    hosted.service.bucket placed.1 = some placed.2

omit [DecidableEq Bundle] in
theorem Hosted.Safe.arrive {hosted : Hosted Bundle} (h : hosted.Safe digests workspaceId)
    {request : Request Bundle} (hrequest : request.places digests workspaceId = none) :
    (hosted.arrive request).Safe digests workspaceId := by
  refine ⟨h.service, fun other hother placed hmem => ?_⟩
  rcases List.mem_append.mp hother with hother | hother
  · exact h.placed other hother placed hmem
  · rw [List.mem_singleton.mp hother, hrequest] at hmem
    cases hmem

theorem HostedAction.act_safe {action : HostedAction Bundle} {hosted : Hosted Bundle}
    (h : hosted.Safe digests workspaceId) (hcalm : action.Calm digests workspaceId hosted) :
    (action.act digests localeCompare workspaceId hosted).Safe digests workspaceId := by
  cases action with
  | session now =>
    exact ⟨h.service.apply
      ((CoordinatorCall.bind workspaceId).apply_changes digests.sha256 localeCompare now _)
      fun _ hcas => (nomatch hcas), h.placed⟩
  | upload operationId projectId bundle => exact h.arrive rfl
  | gc operationId projectId versionId => exact h.arrive rfl
  | delete operationId projectId => exact h.arrive rfl
  | stop index =>
    exact ⟨h.service, fun request hrequest => h.placed request (List.mem_of_mem_eraseIdx hrequest)⟩
  | advance index now answer =>
    simp only [act]
    cases hrequest : hosted.requests[index]? with
    | none => exact h
    | some request =>
      have hmem : request ∈ hosted.requests := List.mem_of_getElem? hrequest
      have hsteps : request.Steps digests workspaceId hosted.service
          (request.advance digests localeCompare workspaceId now answer hosted.service) :=
        Request.advance_steps now answer h.service (h.placed request hmem)
          fun key hkey => (hcalm request hrequest key hkey).2
      have hothers : ∀ other ∈ hosted.requests, ∀ placed ∈ other.places digests workspaceId,
          (request.advance digests localeCompare workspaceId now answer hosted.service).2.bucket
            placed.1 = some placed.2 := by
        intro other hother placed hplaced
        refine hsteps.kept placed.1 placed.2 (h.placed other hother placed hplaced) fun herases => ?_
        exact (hcalm request hrequest placed.1 herases).1 other hother placed hplaced rfl
      refine ⟨hsteps.safe, fun other hother => ?_⟩
      cases hnext : (request.advance digests localeCompare workspaceId now answer
          hosted.service).1 with
      | none =>
        simp only [hnext] at hother
        exact hothers other (List.mem_of_mem_eraseIdx hother)
      | some next =>
        simp only [hnext] at hother
        rcases List.mem_or_eq_of_mem_set hother with hother | rfl
        · exact hothers other hother
        · exact hsteps.placed _ hnext

/-- Every action of the run is calm when it comes. -/
def CalmRun (digests : Digests Bundle) (localeCompare : String → String → Ordering)
    (workspaceId : String) (actions : List (HostedAction Bundle)) : Prop :=
  ∀ before action after, actions = before ++ action :: after →
    action.Calm digests workspaceId (hostedAfter digests localeCompare workspaceId before)

theorem hostedAfter_safe {actions : List (HostedAction Bundle)}
    (hcalm : CalmRun digests localeCompare workspaceId actions) :
    (hostedAfter digests localeCompare workspaceId actions).Safe digests workspaceId := by
  induction actions using List.reverseRecOn with
  | nil =>
    exact ⟨⟨fun _ => .empty, fun _ _ hpointer => (nomatch hpointer)⟩, fun _ h => (nomatch h)⟩
  | append_singleton actions action ih =>
    have hbefore : CalmRun digests localeCompare workspaceId actions := by
      rintro before other after rfl
      exact hcalm before other (after ++ [action]) (by simp)
    have hact : (action.act digests localeCompare workspaceId
        (hostedAfter digests localeCompare workspaceId actions)).Safe digests workspaceId :=
      HostedAction.act_safe (ih hbefore) (hcalm actions action [] rfl)
    simpa [hostedAfter] using hact

/-- An action that deletes nothing. -/
def HostedAction.quiet (digests : Digests Bundle) (workspaceId : String)
    (action : HostedAction Bundle) (hosted : Hosted Bundle) : Bool :=
  match action with
  | .advance index _ _ =>
    hosted.requests[index]?.all fun request => (request.erases digests workspaceId).isNone
  | _ => true

theorem calmRun_of_quiet {actions : List (HostedAction Bundle)}
    (h : ∀ n < actions.length, actions[n]?.all fun action => action.quiet digests workspaceId
      (hostedAfter digests localeCompare workspaceId (actions.take n))) :
    CalmRun digests localeCompare workspaceId actions := by
  rintro before action after rfl
  have hquiet := h before.length (by simp)
  simp only [List.getElem?_append_right le_rfl, Nat.sub_self, List.getElem?_cons_zero,
    Option.all_some, List.take_left'] at hquiet
  cases action with
  | advance index now answer =>
    intro request hrequest key hkey
    rw [HostedAction.quiet, hrequest, Option.all_some, hkey] at hquiet
    cases hquiet
  | _ => trivial

end HostedRuns

namespace Sample

def workspaceId : String := "workspace_527dbc36b5d6b2b8c7d4832d"

def versionOne : String :=
  "sha256:7692c3ad3540bb803c020b3aee66cd8887123234ea0c6e7143c0add73ff431ed"

def versionTwo : String :=
  "sha256:3fc4ccfe745870e2c0d99f71f30ff0656c8dedd41cc1d7d3d376b0dbe685e2f3"

/-- The digests of the bundles `one` and `two` and of their uploads `up-1`, `up-2` and `up-3`. -/
def digests : Digests String where
  sha256 _ := ""
  sha256Hex _ := "30240dce9a3d9d4e2fe2b03ad424b449c8f6728c03c9a794daba33d5b4ea8656"
  canonical value :=
    if value.get? "operation_id" = some (.str "up-1") then
      "sha256:cd3fcca4e430922b6434ff990001d9785a9da638b8fcd5b30709b29be47d7828"
    else if value.get? "operation_id" = some (.str "up-2") then
      "sha256:eeb2790b94e91cf6ee9c1b0efe0afb5688bb3268f283e43c58762d84df0a4d43"
    else "sha256:347c2881bafb5c5d26d975b5a6bccbd690896ea02518b15364e0107ff1232d7d"
  bundle bundle := if bundle = "one" then versionOne else versionTwo
  byteSize bundle := bundle.utf8ByteSize

def steps (count : ℕ) (index : ℕ) (now : ℤ) : List (HostedAction String) :=
  List.replicate count (.advance index now .done)

def uploaded : List (HostedAction String) :=
  .session 0 :: .upload "up-1" "P1" "one" :: steps 4 0 1

/-- The first bundle is uploaded again while its version is collected: the object that the upload
found is deleted before its version is prepared anew. -/
def race : List (HostedAction String) :=
  uploaded ++ [.upload "up-2" "P1" "two"] ++ steps 4 0 2 ++
    [.upload "up-3" "P1" "one"] ++ steps 2 0 4000000 ++
    [.gc "gc-1" "P1" versionOne] ++ steps 4 1 4000001 ++ steps 2 0 4000002

end Sample

/-- The pointer of a project is active at a version whose object is not in the bucket. -/
def Service.loses {Bundle : Type} (service : Service Bundle) (projectId versionId : String) :
    Bool :=
  (service.storage.projects projectId).pointer.any fun pointer =>
    pointer.state = .active && pointer.versionId = some versionId &&
      pointer.objectKey.any fun key => (service.bucket key).isNone

theorem Service.loses_iff {Bundle : Type} {service : Service Bundle}
    {projectId versionId : String} :
    service.loses projectId versionId ↔ ∃ pointer key,
      (service.storage.projects projectId).pointer = some pointer ∧ pointer.state = .active ∧
      pointer.versionId = some versionId ∧ pointer.objectKey = some key ∧
      service.bucket key = none := by
  cases hpointer : (service.storage.projects projectId).pointer with
  | none => simp [loses, hpointer]
  | some pointer => cases hkey : pointer.objectKey <;> simp [loses, hpointer, hkey, and_assoc]

end Quillframe.Cloud
