import Quillframe.Cloud.Formats
import Quillframe.Json
import Quillframe.OrderedMap
import Quillframe.StringOrder

/-!
# The workspace coordinator

The records a coordinator keeps of the hosted versions of its projects, and the transactions that
prepare a version, move the project pointer, delete a project and collect a version. A project's
keys `project:`, `project-version:`, `project-version-operation:`, `project-version-gc-operation:`
and `project-tombstone-operation:` are the fields of its storage.
-/
namespace Quillframe.Cloud

/-! ## Records -/

structure WorkspaceBinding where
  workspaceId : String
  boundAt : ℤ
  deriving DecidableEq, Repr

inductive PointerState where
  | active | deleted
  deriving DecidableEq, Repr

structure ProjectPointer where
  workspaceId : String
  projectId : String
  pointerVersion : ℤ
  state : PointerState
  versionId : Option String
  objectKey : Option String
  plaintextFingerprint : Option String
  updatedAt : ℤ
  deriving DecidableEq, Repr

structure ProjectPointerNext where
  workspaceId : String
  projectId : Option String
  state : PointerState
  versionId : String
  objectKey : String
  plaintextFingerprint : String
  deriving DecidableEq, Repr

structure ProjectPointerCasInput where
  projectId : String
  expectedPointerVersion : ℤ
  next : ProjectPointerNext
  deriving DecidableEq, Repr

structure ProjectTombstoneInput where
  projectId : String
  expectedPointerVersion : ℤ
  reason : String
  operationId : String
  deriving DecidableEq, Repr

structure ProjectVersionPreparationInput where
  operationId : String
  inputFingerprint : String
  workspaceId : String
  projectId : String
  expectedPointerVersion : ℤ
  versionId : String
  objectKey : String
  plaintextFingerprint : String
  byteSize : ℤ
  deriving DecidableEq, Repr

inductive PreparationStatus where
  | prepared | replayed
  deriving DecidableEq, Repr

structure ProjectVersionPreparationReceipt extends ProjectVersionPreparationInput where
  status : PreparationStatus
  deriving DecidableEq, Repr

inductive VersionStatus where
  | prepared | active | orphan | gcPending
  deriving DecidableEq, Repr

structure ProjectVersionRecord extends ProjectVersionPreparationInput where
  status : VersionStatus
  createdAt : ℤ
  pointerVersion : ℤ
  deriving DecidableEq, Repr

structure ProjectVersionOperation where
  operationId : String
  inputFingerprint : String
  receiptSnapshot : ProjectVersionPreparationReceipt
  createdAt : ℤ
  deriving DecidableEq, Repr

structure ProjectVersionGcInput where
  projectId : String
  versionId : String
  operationId : String
  retentionBefore : ℤ
  deriving DecidableEq, Repr

structure ProjectVersionGcFinishInput where
  projectId : String
  versionId : String
  operationId : String
  deleted : Bool
  deriving DecidableEq, Repr

inductive GcStatus where
  | pending | completed
  deriving DecidableEq, Repr

structure ProjectVersionGcReceipt where
  operationId : String
  projectId : String
  versionId : String
  workspaceId : String
  objectKey : String
  plaintextFingerprint : String
  byteSize : ℤ
  pointerVersion : ℤ
  status : GcStatus
  deriving DecidableEq, Repr

structure ProjectVersionGcOperation where
  operationId : String
  projectId : String
  versionId : String
  retentionBefore : ℤ
  receiptSnapshot : ProjectVersionGcReceipt
  createdAt : ℤ
  deriving DecidableEq, Repr

structure ProjectTombstoneOperation where
  operationId : String
  inputFingerprint : String
  receiptSnapshot : ProjectPointer
  reason : String
  createdAt : ℤ
  deriving DecidableEq, Repr

structure ProjectStorage where
  pointer : Option ProjectPointer
  versions : OrderedMap String ProjectVersionRecord
  versionOperations : OrderedMap String ProjectVersionOperation
  gcOperations : OrderedMap String ProjectVersionGcOperation
  tombstoneOperations : OrderedMap String ProjectTombstoneOperation

def ProjectStorage.empty : ProjectStorage := ⟨none, .empty, .empty, .empty, .empty⟩

structure Storage where
  binding : Option WorkspaceBinding
  projects : String → ProjectStorage

def Storage.empty : Storage := ⟨none, fun _ => .empty⟩

def Storage.setProject (storage : Storage) (projectId : String) (project : ProjectStorage) :
    Storage :=
  { storage with projects := Function.update storage.projects projectId project }

/-! ## Checks -/

abbrev Coordinator (α : Type) := StorageTransaction Storage α

def natural (n : ℤ) : Bool := isSafeInteger n && 0 ≤ n

def maxVersionBytes : ℤ := 128 * 1024 * 1024

def validByteSize (n : ℤ) : Bool := isSafeInteger n && 0 < n && n ≤ maxVersionBytes

def ProjectVersionPreparationInput.valid (input : ProjectVersionPreparationInput) : Bool :=
  boundedId input.operationId && versionFingerprint input.inputFingerprint &&
    boundedId input.workspaceId && boundedProjectId input.projectId &&
    natural input.expectedPointerVersion && versionFingerprint input.versionId &&
    boundedPointerRef input.objectKey && versionFingerprint input.plaintextFingerprint &&
    validByteSize input.byteSize

def assertProjectVersionInput (input : ProjectVersionPreparationInput) : Coordinator Unit :=
  require input.valid (failure "project_version_invalid" "project version input is invalid")

def assertProjectVersionReceipt (receipt : ProjectVersionPreparationReceipt)
    (operationId : String) : Coordinator Unit :=
  require (receipt.operationId = operationId ∧ receipt.valid)
    (failure "project_version_record_invalid" "project version receipt is invalid")

def assertProjectVersionRecord (record : ProjectVersionRecord) (projectId versionId : String) :
    Coordinator Unit := do
  require (record.projectId = projectId ∧ record.versionId = versionId ∧
      natural record.createdAt ∧ natural record.pointerVersion)
    (failure "project_version_record_invalid" "project version index record is invalid")
  assertProjectVersionReceipt ⟨record.toProjectVersionPreparationInput, .prepared⟩
    record.operationId

def assertProjectVersionOperation (operation : ProjectVersionOperation)
    (projectId operationId : String) : Coordinator Unit := do
  require (operation.operationId = operationId ∧ natural operation.createdAt)
    (failure "project_version_record_invalid" "project version operation record is invalid")
  assertProjectVersionReceipt operation.receiptSnapshot operationId
  require (operation.receiptSnapshot.projectId = projectId ∧
      operation.inputFingerprint = operation.receiptSnapshot.inputFingerprint)
    (failure "project_version_record_invalid" "project version operation binding is invalid")

def ProjectVersionGcReceipt.valid (receipt : ProjectVersionGcReceipt)
    (projectId versionId operationId : String) : Bool :=
  receipt.operationId = operationId && boundedProjectId receipt.projectId &&
    receipt.projectId = projectId && versionFingerprint receipt.versionId &&
    receipt.versionId = versionId && boundedId receipt.operationId &&
    boundedId receipt.workspaceId && boundedPointerRef receipt.objectKey &&
    versionFingerprint receipt.plaintextFingerprint && validByteSize receipt.byteSize &&
    natural receipt.pointerVersion

def assertProjectVersionGcReceipt (receipt : ProjectVersionGcReceipt)
    (projectId versionId operationId : String) : Coordinator Unit :=
  require (receipt.valid projectId versionId operationId)
    (failure "project_gc_record_invalid" "project garbage-collection record is invalid")

def assertProjectVersionGcOperation (operation : ProjectVersionGcOperation)
    (projectId operationId : String) : Coordinator Unit := do
  require (operation.operationId = operationId ∧ boundedProjectId operation.projectId ∧
      operation.projectId = projectId ∧ versionFingerprint operation.versionId ∧
      natural operation.retentionBefore ∧ natural operation.createdAt)
    (failure "project_gc_record_invalid" "project garbage-collection operation is invalid")
  assertProjectVersionGcReceipt operation.receiptSnapshot projectId operation.versionId operationId

def ProjectPointer.references (pointer : ProjectPointer) : List (Option String) :=
  [pointer.versionId, pointer.objectKey, pointer.plaintextFingerprint]

def assertPointer (pointer : ProjectPointer) (projectId : String) : Coordinator Unit := do
  require (boundedId pointer.workspaceId ∧ pointer.projectId = projectId ∧
      isSafeInteger pointer.pointerVersion ∧ 1 ≤ pointer.pointerVersion ∧
      natural pointer.updatedAt)
    (failure "project_pointer_invalid" "stored project pointer is invalid")
  require (∀ reference ∈ pointer.references, reference.all boundedPointerRef)
    (failure "project_pointer_invalid" "stored project pointer reference is invalid")
  require (pointer.state = .active → ∀ reference ∈ pointer.references,
      reference ≠ none ∧ reference ≠ some "")
    (failure "project_pointer_invalid" "stored active project pointer is incomplete")

def assertStoredPointer (project : ProjectStorage) (projectId : String) : Coordinator Unit :=
  match project.pointer with
  | none => .ok ()
  | some pointer => assertPointer pointer projectId

def assertProjectTombstoneOperation (operation : ProjectTombstoneOperation)
    (projectId operationId : String) : Coordinator Unit := do
  require (operation.operationId = operationId ∧ boundedId operation.operationId ∧
      base64UrlText 43 43 operation.inputFingerprint ∧
      boundedReason operation.reason ∧ natural operation.createdAt)
    (failure "project_tombstone_operation_invalid"
      "stored project tombstone operation is invalid")
  assertPointer operation.receiptSnapshot projectId

def assertWorkspaceBinding (binding : WorkspaceBinding) (expected : Option String) :
    Coordinator Unit := do
  require (boundedId binding.workspaceId ∧ natural binding.boundAt)
    (failure "workspace_binding_invalid" "workspace binding is invalid")
  require (∀ workspaceId ∈ expected, binding.workspaceId = workspaceId)
    (failure "workspace_binding_conflict" "workspace binding does not match")

def requireWorkspaceBinding (binding : Option WorkspaceBinding) (expected : Option String) :
    Coordinator WorkspaceBinding := do
  let binding ← fetch binding (failure "workspace_binding_missing" "workspace binding is missing")
  assertWorkspaceBinding binding expected
  return binding

/-- `ensureWorkspaceBindingTx`. -/
def ensureWorkspaceBinding (storage : Storage) (workspaceId : String) (now : ℤ) :
    Coordinator Storage :=
  match storage.binding with
  | some binding => do
    let _ ← requireWorkspaceBinding (some binding) (some workspaceId)
    return storage
  | none => .ok { storage with binding := some ⟨workspaceId, now⟩ }

def assertProjectId (projectId : String) : Coordinator Unit :=
  require (boundedProjectId projectId)
    (failure "project_identity_invalid" "project identity is invalid")

def assertExpectedVersion (version : ℤ) : Coordinator Unit :=
  require (natural version ∧ version ≤ 2 ^ 31)
    (failure "project_pointer_invalid" "project pointer version is invalid")

def assertNextPointer (next : ProjectPointerNext) (projectId : String) : Coordinator Unit :=
  require (next.state = .active ∧ boundedId next.workspaceId ∧
      (∀ named ∈ next.projectId, named = projectId) ∧ boundedPointerRef next.versionId ∧
      boundedPointerRef next.objectKey ∧ boundedPointerRef next.plaintextFingerprint)
    (failure "project_pointer_invalid" "project pointer input is invalid")

/-! ## Preparing a version -/

/-- The fields that bind a version to an upload. -/
def ProjectVersionPreparationInput.sameIdentity (stored input : ProjectVersionPreparationInput) :
    Bool :=
  stored.workspaceId = input.workspaceId && stored.projectId = input.projectId &&
    stored.expectedPointerVersion = input.expectedPointerVersion &&
    stored.versionId = input.versionId && stored.objectKey = input.objectKey &&
    stored.plaintextFingerprint = input.plaintextFingerprint && stored.byteSize = input.byteSize

def checkVersions (project : ProjectStorage) (projectId : String) : Coordinator Unit :=
  forEach (fun _ entry => do
    require (entry.1 ≠ "")
      (failure "project_version_record_invalid" "project version index key is invalid")
    assertProjectVersionRecord entry.2 projectId entry.1) project.versions.entries ()

def checkVersionOperations (project : ProjectStorage) (projectId : String) : Coordinator Unit :=
  forEach (fun _ entry => do
    require (entry.1 ≠ "")
      (failure "project_version_record_invalid" "project version operation key is invalid")
    assertProjectVersionOperation entry.2 projectId entry.1) project.versionOperations.entries ()

def versionCapacity : Failure WorkspaceCoordinatorError Storage :=
  failure "project_version_capacity" "project version history is bounded"

def pointerStale : WorkspaceCoordinatorError :=
  ⟨"project_pointer_conflict", "project pointer version is stale"⟩

/-- Writes the operation of a preparation. -/
def ProjectStorage.recordOperation (project : ProjectStorage)
    (receipt : ProjectVersionPreparationReceipt) (now : ℤ) : ProjectStorage :=
  { project with
    versionOperations := project.versionOperations.insert receipt.operationId
      ⟨receipt.operationId, receipt.inputFingerprint, receipt, now⟩ }

/-- Writes the record of a new version. -/
def ProjectStorage.recordVersion (project : ProjectStorage)
    (input : ProjectVersionPreparationInput) (status : VersionStatus) (now pointerVersion : ℤ) :
    ProjectStorage :=
  { project with
    versions := project.versions.insert input.versionId ⟨input, status, now, pointerVersion⟩ }

def prepareExisting (input : ProjectVersionPreparationInput) (existing : ProjectVersionRecord)
    (now : ℤ) (storage : Storage) :
    Coordinator (ProjectVersionPreparationReceipt × Storage) := do
  let project := storage.projects input.projectId
  assertProjectVersionRecord existing input.projectId input.versionId
  require (existing.status ≠ .gcPending)
    (failure "project_version_gc_pending" "project version is pending garbage collection")
  require (existing.sameIdentity input)
    (failure "project_version_conflict" "project version identity conflicts")
  checkVersionOperations project input.projectId
  require (project.versionOperations.entries.length < 256) versionCapacity
  let replayed := existing.status = .active ∨
    project.pointer.bind (·.versionId) = some input.versionId
  let receipt : ProjectVersionPreparationReceipt :=
    ⟨input, if replayed then .replayed else .prepared⟩
  return (receipt, storage.setProject input.projectId (project.recordOperation receipt now))

def prepareNew (input : ProjectVersionPreparationInput) (now : ℤ) (storage : Storage) :
    Coordinator (ProjectVersionPreparationReceipt × Storage) := do
  let project := storage.projects input.projectId
  checkVersions project input.projectId
  checkVersionOperations project input.projectId
  require (project.versions.entries.length < 256 ∧
    project.versionOperations.entries.length < 256) versionCapacity
  let receipt : ProjectVersionPreparationReceipt := ⟨input, .prepared⟩
  let written (status : VersionStatus) (pointerVersion : ℤ) : Storage :=
    storage.setProject input.projectId
      ((project.recordVersion input status now pointerVersion).recordOperation receipt now)
  match project.pointer with
  | some pointer =>
    -- An upload that comes too late leaves its version as an orphan.
    if pointer.pointerVersion ≠ input.expectedPointerVersion then
      .error ⟨pointerStale, some (written .orphan pointer.pointerVersion)⟩
    else return (receipt, written .prepared input.expectedPointerVersion)
  | none => return (receipt, written .prepared input.expectedPointerVersion)

def checkPreparedPointer (input : ProjectVersionPreparationInput) (project : ProjectStorage) :
    Coordinator Unit :=
  match project.pointer with
  | some pointer => do
    assertPointer pointer input.projectId
    require (pointer.workspaceId = input.workspaceId)
      (failure "workspace_binding_conflict" "project workspace binding does not match")
  | none => require (input.expectedPointerVersion = 0)
      (failure "project_pointer_conflict" "absent project pointer requires version zero")

def prepareProjectVersion (input : ProjectVersionPreparationInput) (now : ℤ)
    (storage : Storage) : Coordinator (ProjectVersionPreparationReceipt × Storage) := do
  assertProjectVersionInput input
  let project := storage.projects input.projectId
  match project.versionOperations.get? input.operationId with
  | some prior => do
    assertProjectVersionOperation prior input.projectId input.operationId
    require (prior.inputFingerprint = input.inputFingerprint ∧
        prior.receiptSnapshot.sameIdentity input)
      (failure "project_version_operation_conflict" "project version operation input conflicts")
    return (prior.receiptSnapshot, storage)
  | none => do
    let _ ← requireWorkspaceBinding storage.binding (some input.workspaceId)
    checkPreparedPointer input project
    match project.versions.get? input.versionId with
    | some existing => prepareExisting input existing now storage
    | none => prepareNew input now storage

/-! ## Collecting a version -/

section Gc

variable (localeCompare : String → String → Ordering)

def checkGcOperations (project : ProjectStorage) (projectId : String) : Coordinator Unit :=
  forEach (fun _ entry => do
    require (entry.1 ≠ "")
      (failure "project_gc_record_invalid" "project garbage-collection key is invalid")
    assertProjectVersionGcOperation entry.2 projectId entry.1) project.gcOperations.entries ()

/-- Room for one more operation: the oldest completed ones are removed. -/
def pruneGcOperations (operations : OrderedMap String ProjectVersionGcOperation) :
    Coordinator (OrderedMap String ProjectVersionGcOperation) :=
  let size := operations.entries.length
  if size < 256 then .ok operations
  else do
    let prunable := (operations.entries.filter fun entry =>
      entry.2.receiptSnapshot.status = .completed).mergeSort fun left right =>
        left.2.createdAt < right.2.createdAt ||
          (left.2.createdAt = right.2.createdAt && localeCompare left.1 right.1 ≠ .gt)
    let needed := size - 255
    require (needed ≤ prunable.length)
      (failure "project_gc_capacity" "project garbage-collection history is bounded")
    return (prunable.take needed).foldl (fun left entry => left.erase entry.1) operations

def checkGcEligible (input : ProjectVersionGcInput) (binding : WorkspaceBinding)
    (version : ProjectVersionRecord) (project : ProjectStorage) : Coordinator Unit := do
  assertProjectVersionRecord version input.projectId input.versionId
  require (version.workspaceId = binding.workspaceId)
    (failure "workspace_binding_conflict" "project workspace binding does not match")
  require (version.status = .orphan)
    (failure "project_gc_not_eligible" "project version is not an orphan")
  require (version.createdAt ≤ input.retentionBefore)
    (failure "project_gc_retention" "project version is younger than the retention boundary")
  match project.pointer with
  | none => .ok ()
  | some pointer => do
    assertPointer pointer input.projectId
    let _ ← requireWorkspaceBinding (some binding) (some pointer.workspaceId)
    require (pointer.versionId ≠ some input.versionId)
      (failure "project_gc_not_eligible" "project version is still referenced")

def gcReceipt (input : ProjectVersionGcInput) (version : ProjectVersionRecord) :
    ProjectVersionGcReceipt where
  operationId := input.operationId
  projectId := input.projectId
  versionId := input.versionId
  workspaceId := version.workspaceId
  objectKey := version.objectKey
  plaintextFingerprint := version.plaintextFingerprint
  byteSize := version.byteSize
  pointerVersion := version.pointerVersion
  status := .pending

def beginProjectVersionGc (input : ProjectVersionGcInput) (now : ℤ) (storage : Storage) :
    Coordinator (ProjectVersionGcReceipt × Storage) := do
  require (boundedProjectId input.projectId ∧ versionFingerprint input.versionId ∧
      boundedId input.operationId ∧ natural input.retentionBefore)
    (failure "project_gc_invalid" "project garbage-collection input is invalid")
  let project := storage.projects input.projectId
  match project.gcOperations.get? input.operationId with
  | some prior => do
    assertProjectVersionGcOperation prior input.projectId input.operationId
    require (prior.versionId = input.versionId ∧ prior.retentionBefore = input.retentionBefore)
      (failure "project_gc_operation_conflict"
        "project garbage-collection operation input conflicts")
    return (prior.receiptSnapshot, storage)
  | none => do
    let binding ← requireWorkspaceBinding storage.binding none
    let version ← fetch (project.versions.get? input.versionId)
      (failure "project_gc_not_found" "project version was not found")
    checkGcEligible input binding version project
    checkGcOperations project input.projectId
    let operations ← pruneGcOperations localeCompare project.gcOperations
    let receipt := gcReceipt input version
    return (receipt, storage.setProject input.projectId { project with
      versions := project.versions.insert input.versionId { version with status := .gcPending }
      gcOperations := operations.insert input.operationId
        ⟨input.operationId, input.projectId, input.versionId, input.retentionBefore, receipt,
          now⟩ })

end Gc

def checkUnreferenced (input : ProjectVersionGcFinishInput) (project : ProjectStorage) :
    Coordinator Unit :=
  match project.pointer with
  | none => .ok ()
  | some pointer => do
    assertPointer pointer input.projectId
    require (pointer.versionId ≠ some input.versionId)
      (failure "project_gc_reference_conflict" "project version became referenced")

def checkPreparation (input : ProjectVersionGcFinishInput) (version : ProjectVersionRecord)
    (project : ProjectStorage) : Coordinator Unit :=
  match project.versionOperations.get? version.operationId with
  | none => .ok ()
  | some preparation =>
    assertProjectVersionOperation preparation input.projectId version.operationId

/-- Removes the record of a collected version and of its preparation. -/
def removeCollected (input : ProjectVersionGcFinishInput) (project : ProjectStorage) :
    Coordinator ProjectStorage :=
  match project.versions.get? input.versionId with
  | none => .ok project
  | some version => do
    assertProjectVersionRecord version input.projectId input.versionId
    require (version.status = .gcPending)
      (failure "project_gc_reference_conflict"
        "project version is no longer pending garbage collection")
    checkUnreferenced input project
    checkPreparation input version project
    return { project with
      versions := project.versions.erase input.versionId
      versionOperations := project.versionOperations.erase version.operationId }

def finishProjectVersionGc (input : ProjectVersionGcFinishInput) (now : ℤ) (storage : Storage) :
    Coordinator (ProjectVersionGcReceipt × Storage) := do
  require (boundedProjectId input.projectId ∧ versionFingerprint input.versionId ∧
      boundedId input.operationId)
    (failure "project_gc_invalid" "project garbage-collection input is invalid")
  let project := storage.projects input.projectId
  let operation ← fetch (project.gcOperations.get? input.operationId)
    (failure "project_gc_operation_missing" "project garbage-collection operation was not found")
  assertProjectVersionGcOperation operation input.projectId input.operationId
  require (operation.versionId = input.versionId)
    (failure "project_gc_operation_conflict"
      "project garbage-collection operation input conflicts")
  if input.deleted = false then return (operation.receiptSnapshot, storage)
  else do
    let project ← removeCollected input project
    let completed := { operation.receiptSnapshot with status := .completed }
    assertProjectVersionGcReceipt completed input.projectId input.versionId input.operationId
    let createdAt := if operation.createdAt = 0 then now else operation.createdAt
    return (completed, storage.setProject input.projectId { project with
      gcOperations := project.gcOperations.insert input.operationId
        { operation with receiptSnapshot := completed, createdAt } })

/-! ## Moving the pointer -/

/-- The current pointer is the one the call asks for. -/
def replaysPointer (input : ProjectPointerCasInput) (current : ProjectPointer) : Bool :=
  current.state = .active &&
    (current.pointerVersion = input.expectedPointerVersion ||
      current.pointerVersion = input.expectedPointerVersion + 1) &&
    current.versionId = some input.next.versionId &&
    current.objectKey = some input.next.objectKey &&
    current.plaintextFingerprint = some input.next.plaintextFingerprint &&
    current.workspaceId = input.next.workspaceId

def ProjectStorage.setStatus (project : ProjectStorage) (versionId : String)
    (version : ProjectVersionRecord) (status : VersionStatus) : ProjectStorage :=
  { project with versions := project.versions.insert versionId { version with status } }

/-- The version that the pointer leaves becomes an orphan. -/
def orphanPrevious (projectId : String) (next : ProjectPointerNext) (project : ProjectStorage) :
    Coordinator ProjectStorage :=
  match project.pointer with
  | none => .ok project
  | some current =>
    match current.versionId with
    | none => .ok project
    | some versionId =>
      if versionId = "" ∨ versionId = next.versionId then .ok project
      else do
        let previous ← fetch (project.versions.get? versionId)
          (failure "project_version_record_invalid" "current project version record is missing")
        assertProjectVersionRecord previous projectId versionId
        require (previous.workspaceId = current.workspaceId ∧
            current.objectKey = some previous.objectKey ∧
            current.plaintextFingerprint = some previous.plaintextFingerprint)
          (failure "project_version_record_invalid" "current project version identity conflicts")
        require (previous.status ≠ .gcPending)
          (failure "project_version_gc_pending"
            "current project version is pending garbage collection")
        return project.setStatus versionId previous .orphan

/-- The workspace that owns the pointer. -/
def bindPointerOwner (input : ProjectPointerCasInput) (now : ℤ) (storage : Storage) :
    Coordinator Storage :=
  match (storage.projects input.projectId).pointer with
  | none =>
    match storage.binding with
    | some binding => do
      assertWorkspaceBinding binding (some input.next.workspaceId)
      return storage
    | none => ensureWorkspaceBinding storage input.next.workspaceId now
  | some current => do
    let owner ← requireWorkspaceBinding storage.binding (some current.workspaceId)
    require (input.next.workspaceId = owner.workspaceId)
      (failure "workspace_binding_conflict" "project workspace binding does not match")
    return storage

def ProjectStorage.currentVersion (project : ProjectStorage) : ℤ :=
  (project.pointer.map (·.pointerVersion)).getD 0

def nextPointer (input : ProjectPointerCasInput) (currentVersion now : ℤ) : ProjectPointer where
  workspaceId := input.next.workspaceId
  projectId := input.projectId
  pointerVersion := currentVersion + 1
  state := input.next.state
  versionId := some input.next.versionId
  objectKey := some input.next.objectKey
  plaintextFingerprint := some input.next.plaintextFingerprint
  updatedAt := now

def movePointer (input : ProjectPointerCasInput) (version : ProjectVersionRecord) (now : ℤ)
    (storage : Storage) : Coordinator (ProjectPointer × Storage) := do
  let storage ← bindPointerOwner input now storage
  let project := storage.projects input.projectId
  let next := nextPointer input project.currentVersion now
  assertPointer next input.projectId
  let project ← orphanPrevious input.projectId input.next project
  return (next, storage.setProject input.projectId { project with
    pointer := some next
    versions := project.versions.insert input.next.versionId
      { version with status := .active, pointerVersion := next.pointerVersion } })

/-- The version that a call asks for, prepared for this very move. -/
def checkCasVersion (input : ProjectPointerCasInput) (version : ProjectVersionRecord) :
    Coordinator Unit := do
  assertProjectVersionRecord version input.projectId input.next.versionId
  require (version.status ≠ .gcPending)
    (failure "project_version_gc_pending" "project version is pending garbage collection")
  require (version.workspaceId = input.next.workspaceId ∧
      version.expectedPointerVersion = input.expectedPointerVersion ∧
      version.versionId = input.next.versionId ∧ version.objectKey = input.next.objectKey ∧
      version.plaintextFingerprint = input.next.plaintextFingerprint ∧ 0 < version.byteSize)
    (failure "project_version_conflict" "project version pointer identity conflicts")

/-- A call that comes too late leaves its version as an orphan. -/
def staleCas (input : ProjectPointerCasInput) (version : ProjectVersionRecord)
    (storage : Storage) : Failure WorkspaceCoordinatorError Storage :=
  if version.workspaceId = input.next.workspaceId ∧ version.objectKey = input.next.objectKey ∧
      version.plaintextFingerprint = input.next.plaintextFingerprint then
    ⟨pointerStale, some (storage.setProject input.projectId
      ((storage.projects input.projectId).setStatus input.next.versionId version .orphan))⟩
  else ⟨pointerStale, none⟩

def casProjectPointer (input : ProjectPointerCasInput) (now : ℤ) (storage : Storage) :
    Coordinator (ProjectPointer × Storage) := do
  assertProjectId input.projectId
  assertExpectedVersion input.expectedPointerVersion
  assertNextPointer input.next input.projectId
  let project := storage.projects input.projectId
  assertStoredPointer project input.projectId
  let version ← fetch (project.versions.get? input.next.versionId)
    (failure "project_version_required" "project version must be prepared before pointer CAS")
  checkCasVersion input version
  match project.pointer.filter (replaysPointer input) with
  | some current => return (current, storage)
  | none => do
    require (project.currentVersion = input.expectedPointerVersion)
      (staleCas input version storage)
    movePointer input version now storage

/-! ## Deleting a project -/

section Tombstone

variable (sha256 : Json String → String)

/-- The fields of a deletion in the order of their keys. -/
def tombstoneFingerprint (input : ProjectTombstoneInput) : String :=
  sha256 (.obj [("expected_pointer_version", .int input.expectedPointerVersion),
    ("operation_id", .str input.operationId), ("project_id", .str input.projectId),
    ("reason", .str input.reason)])

/-- The version of a deleted pointer becomes an orphan. -/
def orphanCurrent (projectId : String) (current : ProjectPointer) (project : ProjectStorage) :
    Coordinator ProjectStorage :=
  match current.versionId with
  | none => .ok project
  | some versionId =>
    if versionId = "" then .ok project
    else match project.versions.get? versionId with
      | none => .ok project
      | some version => do
        assertProjectVersionRecord version projectId versionId
        return project.setStatus versionId version .orphan

def casProjectTombstone (input : ProjectTombstoneInput) (now : ℤ) (storage : Storage) :
    Coordinator (ProjectPointer × Storage) := do
  assertProjectId input.projectId
  assertExpectedVersion input.expectedPointerVersion
  require (boundedReason input.reason ∧ boundedId input.operationId)
    (failure "project_tombstone_invalid" "project tombstone input is invalid")
  let inputFingerprint := tombstoneFingerprint sha256 input
  let project := storage.projects input.projectId
  match project.tombstoneOperations.get? input.operationId with
  | some previous => do
    assertProjectTombstoneOperation previous input.projectId input.operationId
    require (previous.inputFingerprint = inputFingerprint ∧ previous.reason = input.reason ∧
        previous.receiptSnapshot.pointerVersion = input.expectedPointerVersion + 1 ∧
        previous.createdAt = previous.receiptSnapshot.updatedAt)
      (failure "project_tombstone_operation_conflict"
        "project tombstone operation input conflicts")
    let _ ← requireWorkspaceBinding storage.binding (some previous.receiptSnapshot.workspaceId)
    return (previous.receiptSnapshot, storage)
  | none => do
    let current ← fetch project.pointer ⟨pointerStale, none⟩
    assertPointer current input.projectId
    let _ ← requireWorkspaceBinding storage.binding (some current.workspaceId)
    require (current.pointerVersion = input.expectedPointerVersion ∧ current.state = .active)
      ⟨pointerStale, none⟩
    let next := { current with
      state := .deleted, pointerVersion := current.pointerVersion + 1, updatedAt := now }
    let project ← orphanCurrent input.projectId current { project with pointer := some next }
    return (next, storage.setProject input.projectId { project with
      tombstoneOperations := project.tombstoneOperations.insert input.operationId
        ⟨input.operationId, inputFingerprint, next, input.reason, now⟩ })

end Tombstone

end Quillframe.Cloud
