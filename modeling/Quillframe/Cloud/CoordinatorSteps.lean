import Quillframe.Cloud.Coordinator

/-!
# One call to the coordinator

Everything that a call can do to the storage, with what it checked before. A call that fails does
nothing, apart from an upload or a move of the pointer that comes too late.
-/
namespace Quillframe.Cloud

open Transaction

/-! ## Failures without writes -/

section Rolls

variable (projectId versionId operationId : String) (project : ProjectStorage)

@[simp] theorem failure_kept {σ : Type} (code message : String) :
    (failure code message : Failure WorkspaceCoordinatorError σ).kept = none := rfl

@[simp] theorem rolls_assertProjectVersionInput (input : ProjectVersionPreparationInput) :
    Rolls (assertProjectVersionInput input) := by
  simp [assertProjectVersionInput]

@[simp] theorem rolls_assertProjectVersionRecord (record : ProjectVersionRecord) :
    Rolls (assertProjectVersionRecord record projectId versionId) := by
  simp [assertProjectVersionRecord, assertProjectVersionReceipt]

@[simp] theorem rolls_assertProjectVersionOperation (operation : ProjectVersionOperation) :
    Rolls (assertProjectVersionOperation operation projectId operationId) := by
  simp [assertProjectVersionOperation, assertProjectVersionReceipt]

@[simp] theorem rolls_assertProjectVersionGcReceipt (receipt : ProjectVersionGcReceipt) :
    Rolls (assertProjectVersionGcReceipt receipt projectId versionId operationId) := by
  simp [assertProjectVersionGcReceipt]

@[simp] theorem rolls_assertProjectVersionGcOperation (operation : ProjectVersionGcOperation) :
    Rolls (assertProjectVersionGcOperation operation projectId operationId) := by
  simp [assertProjectVersionGcOperation]

@[simp] theorem rolls_assertPointer (pointer : ProjectPointer) :
    Rolls (assertPointer pointer projectId) := by
  simp [assertPointer]

@[simp] theorem rolls_assertStoredPointer : Rolls (assertStoredPointer project projectId) := by
  rw [assertStoredPointer]
  split <;> simp

@[simp] theorem rolls_requireWorkspaceBinding (binding : Option WorkspaceBinding)
    (expected : Option String) : Rolls (requireWorkspaceBinding binding expected) := by
  simp [requireWorkspaceBinding, assertWorkspaceBinding]

@[simp] theorem rolls_checkVersions : Rolls (checkVersions project projectId) := by
  exact rolls_forEach fun _ _ => by simp

@[simp] theorem rolls_checkVersionOperations :
    Rolls (checkVersionOperations project projectId) := by
  exact rolls_forEach fun _ _ => by simp

@[simp] theorem rolls_checkGcOperations : Rolls (checkGcOperations project projectId) := by
  exact rolls_forEach fun _ _ => by simp

end Rolls

/-! ## Steps -/

inductive CoordinatorCall where
  | bind (workspaceId : String)
  | prepare (input : ProjectVersionPreparationInput)
  | cas (input : ProjectPointerCasInput)
  | tombstone (input : ProjectTombstoneInput)
  | beginGc (input : ProjectVersionGcInput)
  | finishGc (input : ProjectVersionGcFinishInput)

def CoordinatorCall.projectId : CoordinatorCall → String
  | .bind _ => ""
  | .prepare input => input.projectId
  | .cas input => input.projectId
  | .tombstone input => input.projectId
  | .beginGc input => input.projectId
  | .finishGc input => input.projectId

/-- The version that the pointer names, of an active or a deleted project. -/
def ProjectStorage.pointed (project : ProjectStorage) : Option String :=
  project.pointer.bind (·.versionId)

/-- The version record that a move of the pointer asks for. -/
structure ProjectPointerCasInput.Asks (input : ProjectPointerCasInput)
    (version : ProjectVersionRecord) : Prop where
  pending : version.status ≠ .gcPending
  expected : version.expectedPointerVersion = input.expectedPointerVersion
  workspace : version.workspaceId = input.next.workspaceId
  object : version.objectKey = input.next.objectKey
  fingerprint : version.plaintextFingerprint = input.next.plaintextFingerprint

/-- A collection that has finished. -/
def ProjectVersionGcOperation.completed (operation : ProjectVersionGcOperation) (now : ℤ) :
    ProjectVersionGcOperation :=
  { operation with
    receiptSnapshot := { operation.receiptSnapshot with status := .completed }
    createdAt := if operation.createdAt = 0 then now else operation.createdAt }

/-- What a call does to its project in a workspace, and what holds of the project when it does. -/
inductive ProjectStep (binding : Option WorkspaceBinding) (now : ℤ) :
    CoordinatorCall → ProjectStorage → ProjectStorage → Prop where
  | same {call : CoordinatorCall} {project : ProjectStorage} :
      ProjectStep binding now call project project
  | reprepared {input : ProjectVersionPreparationInput} {project : ProjectStorage}
      {existing : ProjectVersionRecord} {receipt : ProjectVersionPreparationReceipt}
      (valid : input.valid) (fresh : project.versionOperations.get? input.operationId = none)
      (found : project.versions.get? input.versionId = some existing)
      (pending : existing.status ≠ .gcPending) (identity : existing.sameIdentity input)
      (room : project.versionOperations.entries.length < 256)
      (receives : receipt.toProjectVersionPreparationInput = input) :
      ProjectStep binding now (.prepare input) project (project.recordOperation receipt now)
  | prepared {input : ProjectVersionPreparationInput} {project : ProjectStorage}
      {status : VersionStatus} {pointerVersion : ℤ} {receipt : ProjectVersionPreparationReceipt}
      (valid : input.valid) (owner : binding.map (·.workspaceId) = some input.workspaceId)
      (fresh : project.versionOperations.get? input.operationId = none)
      (new : project.versions.get? input.versionId = none)
      (room : project.versions.entries.length < 256 ∧
        project.versionOperations.entries.length < 256)
      (state : status = .prepared ∧ pointerVersion = input.expectedPointerVersion ∨
        status = .orphan ∧ natural pointerVersion)
      (receives : receipt.toProjectVersionPreparationInput = input) :
      ProjectStep binding now (.prepare input) project
        ((project.recordVersion input status now pointerVersion).recordOperation receipt now)
  | stale {input : ProjectPointerCasInput} {project : ProjectStorage}
      {version : ProjectVersionRecord}
      (found : project.versions.get? input.next.versionId = some version)
      (asks : input.Asks version) (late : project.currentVersion ≠ input.expectedPointerVersion)
      (fresh : ∀ current, project.pointer = some current → replaysPointer input current = false) :
      ProjectStep binding now (.cas input) project
        (project.setStatus input.next.versionId version .orphan)
  | moved {input : ProjectPointerCasInput} {project released : ProjectStorage}
      {version : ProjectVersionRecord} (state : input.next.state = .active)
      (named : project.pointed ≠ some "")
      (found : project.versions.get? input.next.versionId = some version)
      (asks : input.Asks version) (current : project.currentVersion = input.expectedPointerVersion)
      (next : assertPointer (nextPointer input project.currentVersion now) input.projectId = .ok ())
      (release : orphanPrevious input.projectId input.next project = .ok released) :
      ProjectStep binding now (.cas input) project { released with
        pointer := some (nextPointer input project.currentVersion now)
        versions := released.versions.insert input.next.versionId
          { version with status := .active, pointerVersion := project.currentVersion + 1 } }
  | deleted {input : ProjectTombstoneInput} {project released : ProjectStorage}
      {current : ProjectPointer} {fingerprint : String} (found : project.pointer = some current)
      (checked : assertPointer current input.projectId = .ok ())
      (version : current.pointerVersion = input.expectedPointerVersion)
      (bounded : input.expectedPointerVersion ≤ 2 ^ 31) (active : current.state = .active)
      (release : orphanCurrent input.projectId current { project with
        pointer := some { current with
          state := .deleted, pointerVersion := current.pointerVersion + 1, updatedAt := now } } =
            .ok released) :
      ProjectStep binding now (.tombstone input) project { released with
        tombstoneOperations := released.tombstoneOperations.insert input.operationId
          ⟨input.operationId, fingerprint, { current with
            state := .deleted, pointerVersion := current.pointerVersion + 1, updatedAt := now },
            input.reason, now⟩ }
  | collecting {input : ProjectVersionGcInput} {project : ProjectStorage}
      {version : ProjectVersionRecord} {localeCompare : String → String → Ordering}
      {operations : OrderedMap String ProjectVersionGcOperation}
      (bounded : versionFingerprint input.versionId ∧ boundedId input.operationId ∧
        natural input.retentionBefore)
      (fresh : project.gcOperations.get? input.operationId = none)
      (found : project.versions.get? input.versionId = some version)
      (orphan : version.status = .orphan) (unpointed : project.pointed ≠ some input.versionId)
      (room : pruneGcOperations localeCompare project.gcOperations = .ok operations) :
      ProjectStep binding now (.beginGc input) project { project with
        versions := project.versions.insert input.versionId { version with status := .gcPending }
        gcOperations := operations.insert input.operationId
          ⟨input.operationId, input.projectId, input.versionId, input.retentionBefore,
            gcReceipt input version, now⟩ }
  | finished {input : ProjectVersionGcFinishInput} {project : ProjectStorage}
      {operation : ProjectVersionGcOperation} (deleted : input.deleted = true)
      (found : project.gcOperations.get? input.operationId = some operation)
      (named : operation.versionId = input.versionId)
      (gone : project.versions.get? input.versionId = none) :
      ProjectStep binding now (.finishGc input) project { project with
        gcOperations := project.gcOperations.insert input.operationId (operation.completed now) }
  | collected {input : ProjectVersionGcFinishInput} {project : ProjectStorage}
      {operation : ProjectVersionGcOperation} {version : ProjectVersionRecord}
      (deleted : input.deleted = true)
      (found : project.gcOperations.get? input.operationId = some operation)
      (named : operation.versionId = input.versionId)
      (stored : project.versions.get? input.versionId = some version)
      (pending : version.status = .gcPending) (unpointed : project.pointed ≠ some input.versionId) :
      ProjectStep binding now (.finishGc input) project { project with
        versions := project.versions.erase input.versionId
        versionOperations := project.versionOperations.erase version.operationId
        gcOperations := project.gcOperations.insert input.operationId (operation.completed now) }

/-- What a call does to the storage. -/
structure CoordinatorCall.Takes (call : CoordinatorCall) (now : ℤ) (before after : Storage) :
    Prop where
  step : ProjectStep before.binding now call (before.projects call.projectId)
    (after.projects call.projectId)
  others : ∀ projectId, projectId ≠ call.projectId →
    after.projects projectId = before.projects projectId
  binding : after.binding = before.binding ∨ before.binding = none ∧
    ∃ workspaceId, (call = .bind workspaceId ∨ boundedId workspaceId) ∧
      after.binding = some ⟨workspaceId, now⟩

variable {storage storage' : Storage} {call : CoordinatorCall} {now : ℤ}

theorem CoordinatorCall.Takes.same : call.Takes now storage storage :=
  ⟨.same, fun _ _ => rfl, .inl rfl⟩

theorem CoordinatorCall.Takes.of_setProject {projectId : String} (hid : call.projectId = projectId)
    {project : ProjectStorage}
    (h : ProjectStep storage.binding now call (storage.projects projectId) project) :
    call.Takes now storage (storage.setProject projectId project) := by
  subst hid
  refine ⟨?_, fun other hother => ?_, .inl rfl⟩
  · simpa [Storage.setProject] using h
  · simp [Storage.setProject, Function.update_of_ne hother]

/-! ## Preparing -/

/-- The pointer of a project that passes its check names no empty version. -/
theorem assertPointer_versionId {pointer : ProjectPointer} {projectId : String}
    (h : assertPointer pointer projectId = .ok ()) : pointer.versionId ≠ some "" := by
  simp only [assertPointer, bind_eq_ok, require_eq_ok, exists_const] at h
  obtain ⟨-, hreferences, -⟩ := h
  intro hempty
  have hbounded := hreferences pointer.versionId (by simp [ProjectPointer.references])
  rw [hempty] at hbounded
  revert hbounded
  decide

theorem requireWorkspaceBinding_eq_ok {binding : Option WorkspaceBinding} {workspaceId : String}
    {owner : WorkspaceBinding}
    (h : requireWorkspaceBinding binding (some workspaceId) = .ok owner) :
    binding.map (·.workspaceId) = some workspaceId := by
  simp only [requireWorkspaceBinding, bind_eq_ok, fetch_eq_ok, assertWorkspaceBinding,
    require_eq_ok, exists_const] at h
  obtain ⟨bound, rfl, ⟨-, hsame⟩, -⟩ := h
  exact congrArg some (hsame workspaceId rfl)

theorem natural_of_assertPointer {pointer : ProjectPointer} {projectId : String}
    (h : assertPointer pointer projectId = .ok ()) : natural pointer.pointerVersion := by
  simp only [assertPointer, bind_eq_ok, require_eq_ok, exists_const] at h
  obtain ⟨⟨-, -, hsafe, hone, -⟩, -⟩ := h
  simp only [natural, Bool.and_eq_true, decide_eq_true_eq]
  exact ⟨hsafe, by omega⟩

theorem prepareProjectVersion_takes (input : ProjectVersionPreparationInput) (now : ℤ) :
    Post ((CoordinatorCall.prepare input).Takes now storage)
      (fun result => (CoordinatorCall.prepare input).Takes now storage result.2)
      (prepareProjectVersion input now storage) := by
  refine Post.bind (Post.of_rolls (by simp)) fun _ hinput => ?_
  have hvalid : input.valid := require_eq_ok.mp hinput
  dsimp only
  cases hprior : (storage.projects input.projectId).versionOperations.get? input.operationId with
  | some prior =>
    refine Post.bind (Post.of_rolls (by simp)) fun _ _ => ?_
    exact Post.bind (Post.of_rolls (by simp)) fun _ _ => Post.pure .same
  | none =>
    refine Post.bind (Post.of_rolls (by simp)) fun _ howner => ?_
    have hpointer : Rolls (checkPreparedPointer input (storage.projects input.projectId)) := by
      rw [checkPreparedPointer]
      split <;> simp
    refine Post.bind (Post.of_rolls hpointer) fun _ hchecked => ?_
    cases hexisting : (storage.projects input.projectId).versions.get? input.versionId with
    | some existing =>
      simp only [prepareExisting]
      refine Post.bind (Post.of_rolls (by simp)) fun _ _ => ?_
      refine Post.bind (Post.of_rolls (by simp)) fun _ hpending => ?_
      refine Post.bind (Post.of_rolls (by simp)) fun _ hidentity => ?_
      refine Post.bind (Post.of_rolls (by simp)) fun _ _ => ?_
      refine Post.bind (Post.of_rolls (by simp [versionCapacity])) fun _ hroom => ?_
      exact Post.pure (.of_setProject rfl (.reprepared hvalid hprior hexisting
        (require_eq_ok.mp hpending) (require_eq_ok.mp hidentity) (require_eq_ok.mp hroom) rfl))
    | none =>
      simp only [prepareNew]
      refine Post.bind (Post.of_rolls (by simp)) fun _ _ => ?_
      refine Post.bind (Post.of_rolls (by simp)) fun _ _ => ?_
      refine Post.bind (Post.of_rolls (by simp [versionCapacity])) fun _ hroom => ?_
      have hwritten : ∀ status pointerVersion,
          (status = .prepared ∧ pointerVersion = input.expectedPointerVersion ∨
            status = .orphan ∧ natural pointerVersion) →
          (CoordinatorCall.prepare input).Takes now storage (storage.setProject input.projectId
            (((storage.projects input.projectId).recordVersion input status now
              pointerVersion).recordOperation ⟨input, .prepared⟩ now)) :=
        fun status pointerVersion hstatus => .of_setProject rfl (.prepared hvalid
          (requireWorkspaceBinding_eq_ok howner) hprior hexisting (require_eq_ok.mp hroom)
          hstatus rfl)
      cases hcurrent : (storage.projects input.projectId).pointer with
      | none => exact Post.pure (hwritten _ _ (.inl ⟨rfl, rfl⟩))
      | some pointer =>
        simp only [checkPreparedPointer, hcurrent, bind_eq_ok] at hchecked
        obtain ⟨_, hassert, -⟩ := hchecked
        dsimp only
        split_ifs
        · refine Post.error fun kept hkept => ?_
          rw [← Option.some.inj hkept]
          exact hwritten _ _ (.inr ⟨rfl, natural_of_assertPointer hassert⟩)
        · exact Post.pure (hwritten _ _ (.inl ⟨rfl, rfl⟩))

/-! ## Moving the pointer -/

theorem checkCasVersion_eq_ok {input : ProjectPointerCasInput} {version : ProjectVersionRecord}
    (h : checkCasVersion input version = .ok ()) : input.Asks version := by
  simp only [checkCasVersion, bind_eq_ok, require_eq_ok, exists_const] at h
  obtain ⟨-, -, hpending, hworkspace, hexpected, -, hobject, hfingerprint, -⟩ := h
  exact ⟨hpending, hexpected, hworkspace, hobject, hfingerprint⟩

theorem bindPointerOwner_rolls (input : ProjectPointerCasInput) (now : ℤ) :
    Rolls (bindPointerOwner input now storage) := by
  rw [bindPointerOwner]
  split
  · split
    · simp [assertWorkspaceBinding]
    · rw [ensureWorkspaceBinding]
      split <;> simp
  · simp

/-- Binding the workspace changes no project. -/
theorem bindPointerOwner_projects {input : ProjectPointerCasInput} {now : ℤ} {storage' : Storage}
    (h : bindPointerOwner input now storage = .ok storage') :
    storage'.projects = storage.projects := by
  rw [bindPointerOwner] at h
  split at h
  · split at h
    · simp only [bind_eq_ok, pure_eq_ok] at h
      obtain ⟨-, -, rfl⟩ := h
      rfl
    · rw [ensureWorkspaceBinding] at h
      split at h
      · simp only [bind_eq_ok, pure_eq_ok] at h
        obtain ⟨-, -, rfl⟩ := h
        rfl
      · cases h
        rfl
  · simp only [bind_eq_ok, pure_eq_ok] at h
    obtain ⟨-, -, -, -, rfl⟩ := h
    rfl

theorem orphanPrevious_rolls (projectId : String) (next : ProjectPointerNext)
    (project : ProjectStorage) : Rolls (orphanPrevious projectId next project) := by
  rw [orphanPrevious]
  split
  · simp
  · split
    · simp
    · split_ifs <;> simp

theorem movePointer_rolls (input : ProjectPointerCasInput) (version : ProjectVersionRecord)
    (now : ℤ) : Rolls (movePointer input version now storage) := by
  simp [movePointer, bindPointerOwner_rolls, orphanPrevious_rolls]

theorem assertStoredPointer_named {project : ProjectStorage} {projectId : String}
    (h : assertStoredPointer project projectId = .ok ()) : project.pointed ≠ some "" := by
  rw [assertStoredPointer] at h
  cases hpointer : project.pointer with
  | none => simp [ProjectStorage.pointed, hpointer]
  | some pointer =>
    rw [hpointer] at h
    simpa [ProjectStorage.pointed, hpointer] using assertPointer_versionId h

/-- The workspace of the storage that the owner is bound in. -/
theorem bindPointerOwner_binding {input : ProjectPointerCasInput}
    (h : bindPointerOwner input now storage = .ok storage') :
    storage'.binding = storage.binding ∨
      storage.binding = none ∧ storage'.binding = some ⟨input.next.workspaceId, now⟩ := by
  rw [bindPointerOwner] at h
  split at h
  · split at h
    · simp only [bind_eq_ok, pure_eq_ok] at h
      obtain ⟨-, -, rfl⟩ := h
      exact .inl rfl
    · rename_i hbinding
      rw [ensureWorkspaceBinding, hbinding] at h
      cases h
      exact .inr ⟨hbinding, rfl⟩
  · simp only [bind_eq_ok, pure_eq_ok] at h
    obtain ⟨-, -, -, -, rfl⟩ := h
    exact .inl rfl

theorem movePointer_takes {input : ProjectPointerCasInput} {version : ProjectVersionRecord}
    {pointer : ProjectPointer} (hstate : input.next.state = .active)
    (hworkspace : boundedId input.next.workspaceId)
    (hnamed : (storage.projects input.projectId).pointed ≠ some "")
    (hfound : (storage.projects input.projectId).versions.get? input.next.versionId = some version)
    (hasks : input.Asks version)
    (hcurrent : (storage.projects input.projectId).currentVersion = input.expectedPointerVersion)
    (h : movePointer input version now storage = .ok (pointer, storage')) :
    (CoordinatorCall.cas input).Takes now storage storage' := by
  simp only [movePointer, bind_eq_ok, pure_eq_ok, Prod.mk.injEq] at h
  obtain ⟨bound, hbound, _, hnext, project, hproject, -, rfl⟩ := h
  have hprojects := bindPointerOwner_projects hbound
  rw [hprojects] at hproject hnext ⊢
  refine ⟨?_, fun other hother => ?_, ?_⟩
  · simp only [CoordinatorCall.projectId, Storage.setProject, Function.update_self]
    exact .moved hstate hnamed hfound hasks hcurrent hnext hproject
  · rw [Storage.setProject, hprojects]
    exact Function.update_of_ne hother _ _
  · exact (bindPointerOwner_binding hbound).imp_right fun hnew =>
      ⟨hnew.1, _, .inr hworkspace, hnew.2⟩

theorem casProjectPointer_takes (input : ProjectPointerCasInput) (now : ℤ) :
    Post ((CoordinatorCall.cas input).Takes now storage)
      (fun result => (CoordinatorCall.cas input).Takes now storage result.2)
      (casProjectPointer input now storage) := by
  simp only [casProjectPointer]
  refine Post.bind (Post.of_rolls (by simp [assertProjectId])) fun _ _ => ?_
  refine Post.bind (Post.of_rolls (by simp [assertExpectedVersion])) fun _ _ => ?_
  refine Post.bind (Post.of_rolls (by simp [assertNextPointer])) fun _ hnext => ?_
  refine Post.bind (Post.of_rolls (by simp)) fun _ hstored => ?_
  refine Post.bind (Post.of_rolls (by simp)) fun version hversion => ?_
  refine Post.bind (Post.of_rolls (by simp [checkCasVersion])) fun _ hcheck => ?_
  obtain ⟨hstate, hworkspace, -⟩ := require_eq_ok.mp hnext
  have hfound := fetch_eq_ok.mp hversion
  have hasks := checkCasVersion_eq_ok hcheck
  cases hreplay : (storage.projects input.projectId).pointer.filter (replaysPointer input) with
  | some current => exact Post.pure .same
  | none =>
    have hfresh : ∀ current, (storage.projects input.projectId).pointer = some current →
        replaysPointer input current = false := by
      intro current hcurrent
      simpa [hcurrent] using hreplay
    by_cases hcurrent :
        (storage.projects input.projectId).currentVersion = input.expectedPointerVersion
    · refine Post.bind (Post.of_rolls (by simp [hcurrent])) fun _ _ => ?_
      refine (Post.of_rolls (movePointer_rolls input version now)).mono fun result hresult => ?_
      exact movePointer_takes hstate hworkspace (assertStoredPointer_named hstored) hfound hasks
        hcurrent hresult
    · refine Post.bind (Post.require fun kept hkept => ?_) fun _ h => absurd h hcurrent
      rw [staleCas] at hkept
      split_ifs at hkept
      · rw [← Option.some.inj hkept]
        exact .of_setProject rfl (.stale hfound hasks hcurrent hfresh)

/-! ## Deleting -/

theorem orphanCurrent_rolls (projectId : String) (current : ProjectPointer)
    (project : ProjectStorage) : Rolls (orphanCurrent projectId current project) := by
  rw [orphanCurrent]
  split
  · simp
  · split_ifs
    · simp
    · split <;> simp

theorem casProjectTombstone_rolls (sha256 : Json String → String) (input : ProjectTombstoneInput)
    (now : ℤ) : Rolls (casProjectTombstone sha256 input now storage) := by
  have hoperation : ∀ operation, Rolls
      (assertProjectTombstoneOperation operation input.projectId input.operationId) := by
    simp [assertProjectTombstoneOperation]
  simp only [casProjectTombstone]
  split <;> simp [assertProjectId, assertExpectedVersion, hoperation, orphanCurrent_rolls]

theorem casProjectTombstone_takes {sha256 : Json String → String}
    {input : ProjectTombstoneInput} {pointer : ProjectPointer}
    (h : casProjectTombstone sha256 input now storage = .ok (pointer, storage')) :
    (CoordinatorCall.tombstone input).Takes now storage storage' := by
  simp only [casProjectTombstone] at h
  split at h
  · simp only [bind_eq_ok, pure_eq_ok, Prod.mk.injEq] at h
    obtain ⟨-, -, -, -, -, -, -, -, -, -, -, -, -, rfl⟩ := h
    exact .same
  · simp only [bind_eq_ok, pure_eq_ok, Prod.mk.injEq, fetch_eq_ok, require_eq_ok,
      exists_const, assertExpectedVersion] at h
    obtain ⟨-, -, ⟨-, hbounded⟩, -, current, hfound, _, hpointer, -, -, ⟨hversion, hactive⟩,
      project, hproject, -, rfl⟩ := h
    exact .of_setProject rfl (.deleted hfound hpointer hversion hbounded hactive hproject)

/-! ## Collecting -/

theorem beginProjectVersionGc_rolls (localeCompare : String → String → Ordering)
    (input : ProjectVersionGcInput) (now : ℤ) :
    Rolls (beginProjectVersionGc localeCompare input now storage) := by
  have hprune : ∀ operations, Rolls (pruneGcOperations localeCompare operations) := by
    intro operations
    rw [pruneGcOperations]
    dsimp only
    split_ifs <;> simp
  have heligible : ∀ binding version project,
      Rolls (checkGcEligible input binding version project) := by
    intro binding version project
    simp only [checkGcEligible]
    split <;> simp
  simp only [beginProjectVersionGc]
  split <;> simp [hprune, heligible]

theorem checkGcEligible_eq_ok {input : ProjectVersionGcInput} {binding : WorkspaceBinding}
    {version : ProjectVersionRecord} {project : ProjectStorage}
    (h : checkGcEligible input binding version project = .ok ()) :
    version.status = .orphan ∧ project.pointed ≠ some input.versionId := by
  simp only [checkGcEligible, bind_eq_ok, require_eq_ok, exists_const] at h
  obtain ⟨-, -, -, horphan, -, hpointer⟩ := h
  refine ⟨horphan, ?_⟩
  cases hfound : project.pointer with
  | none => simp [ProjectStorage.pointed, hfound]
  | some pointer =>
    simp only [hfound, bind_eq_ok, require_eq_ok] at hpointer
    obtain ⟨-, -, -, -, hpointed⟩ := hpointer
    simpa [ProjectStorage.pointed, hfound] using hpointed

theorem beginProjectVersionGc_takes {localeCompare : String → String → Ordering}
    {input : ProjectVersionGcInput} {receipt : ProjectVersionGcReceipt}
    (h : beginProjectVersionGc localeCompare input now storage = .ok (receipt, storage')) :
    (CoordinatorCall.beginGc input).Takes now storage storage' := by
  simp only [beginProjectVersionGc] at h
  split at h
  · simp only [bind_eq_ok, pure_eq_ok, Prod.mk.injEq, require_eq_ok, exists_const] at h
    obtain ⟨-, -, -, -, -, rfl⟩ := h
    exact .same
  · rename_i hfresh
    simp only [bind_eq_ok, pure_eq_ok, Prod.mk.injEq, fetch_eq_ok, require_eq_ok,
      exists_const] at h
    obtain ⟨hinput, binding, -, version, hfound, _, heligible, -, -, operations, hroom, -, rfl⟩ := h
    obtain ⟨horphan, hpointed⟩ := checkGcEligible_eq_ok heligible
    exact .of_setProject rfl (.collecting hinput.2 hfresh hfound horphan hpointed hroom)

theorem removeCollected_rolls (input : ProjectVersionGcFinishInput) (project : ProjectStorage) :
    Rolls (removeCollected input project) := by
  have hpointer : Rolls (checkUnreferenced input project) := by
    rw [checkUnreferenced]
    split <;> simp
  have hpreparation : ∀ version, Rolls (checkPreparation input version project) := by
    intro version
    rw [checkPreparation]
    split <;> simp
  rw [removeCollected]
  split <;> simp [hpointer, hpreparation]

theorem finishProjectVersionGc_rolls (input : ProjectVersionGcFinishInput) (now : ℤ) :
    Rolls (finishProjectVersionGc input now storage) := by
  simp only [finishProjectVersionGc]
  split_ifs <;> simp [removeCollected_rolls]

theorem checkUnreferenced_eq_ok {input : ProjectVersionGcFinishInput} {project : ProjectStorage}
    (h : checkUnreferenced input project = .ok ()) : project.pointed ≠ some input.versionId := by
  rw [checkUnreferenced] at h
  cases hcurrent : project.pointer with
  | none => simp [ProjectStorage.pointed, hcurrent]
  | some pointer =>
    simp only [hcurrent, bind_eq_ok, require_eq_ok] at h
    obtain ⟨-, -, hpointed⟩ := h
    simpa [ProjectStorage.pointed, hcurrent] using hpointed

theorem finishProjectVersionGc_takes {input : ProjectVersionGcFinishInput}
    {receipt : ProjectVersionGcReceipt}
    (h : finishProjectVersionGc input now storage = .ok (receipt, storage')) :
    (CoordinatorCall.finishGc input).Takes now storage storage' := by
  simp only [finishProjectVersionGc, bind_eq_ok, fetch_eq_ok, require_eq_ok, exists_const] at h
  obtain ⟨-, operation, hfound, -, -, hnamed, h⟩ := h
  by_cases hdeleted : input.deleted = false
  · rw [if_pos hdeleted] at h
    simp only [pure_eq_ok, Prod.mk.injEq] at h
    obtain ⟨-, rfl⟩ := h
    exact .same
  · rw [if_neg hdeleted] at h
    simp only [Bool.not_eq_false] at hdeleted
    simp only [bind_eq_ok, pure_eq_ok, Prod.mk.injEq] at h
    obtain ⟨project, hproject, -, -, -, rfl⟩ := h
    refine .of_setProject rfl ?_
    rw [removeCollected] at hproject
    cases hstored : (storage.projects input.projectId).versions.get? input.versionId with
    | none =>
      simp only [hstored, Except.ok.injEq] at hproject
      subst hproject
      exact .finished hdeleted hfound hnamed hstored
    | some version =>
      simp only [hstored, bind_eq_ok, require_eq_ok, pure_eq_ok, exists_const] at hproject
      obtain ⟨-, -, hpending, _, hpointer, -, -, rfl⟩ := hproject
      exact .collected hdeleted hfound hnamed hstored hpending (checkUnreferenced_eq_ok hpointer)

/-! ## Any call -/

section Apply

variable (sha256 : Json String → String) (localeCompare : String → String → Ordering)

/-- The storage after a call, whether it succeeds or fails. -/
def CoordinatorCall.apply (call : CoordinatorCall) (now : ℤ) (storage : Storage) : Storage :=
  match call with
  | .bind workspaceId => (Transaction.run storage
      (do return ((), ← ensureWorkspaceBinding storage workspaceId now))).2
  | .prepare input => ((prepareProjectVersion input now storage).run storage).2
  | .cas input => ((casProjectPointer input now storage).run storage).2
  | .tombstone input => ((casProjectTombstone sha256 input now storage).run storage).2
  | .beginGc input => ((beginProjectVersionGc localeCompare input now storage).run storage).2
  | .finishGc input => ((finishProjectVersionGc input now storage).run storage).2

theorem ensureWorkspaceBinding_takes {workspaceId : String}
    (h : ensureWorkspaceBinding storage workspaceId now = .ok storage') :
    (CoordinatorCall.bind workspaceId).Takes now storage storage' := by
  rw [ensureWorkspaceBinding] at h
  split at h
  · simp only [bind_eq_ok, pure_eq_ok] at h
    obtain ⟨-, -, rfl⟩ := h
    exact .same
  · rename_i hunbound
    cases h
    exact ⟨.same, fun _ _ => rfl, .inr ⟨hunbound, workspaceId, .inl rfl, rfl⟩⟩

theorem CoordinatorCall.apply_takes (call : CoordinatorCall) (now : ℤ) (storage : Storage) :
    call.Takes now storage (call.apply sha256 localeCompare now storage) := by
  cases call with
  | bind workspaceId =>
    have hrolls : Rolls (ensureWorkspaceBinding storage workspaceId now) := by
      rw [ensureWorkspaceBinding]
      split <;> simp
    rw [apply]
    rcases (rolls_bind.mpr ⟨hrolls, fun _ _ => rolls_pure _⟩ :
      Rolls (do return ((), ← ensureWorkspaceBinding storage workspaceId now))).run_cases storage
      with ⟨value, h⟩ | h
    · simp only [bind_eq_ok, pure_eq_ok, Prod.mk.injEq] at h
      obtain ⟨storage', hstorage, -, h⟩ := h
      rw [← h]
      exact ensureWorkspaceBinding_takes hstorage
    · rw [h]
      exact .same
  | prepare input => exact (prepareProjectVersion_takes input now).run .same
  | cas input => exact (casProjectPointer_takes input now).run .same
  | tombstone input =>
    rcases (casProjectTombstone_rolls sha256 input now).run_cases storage with ⟨_, h⟩ | h
    · exact casProjectTombstone_takes h
    · exact (congrArg ((CoordinatorCall.tombstone input).Takes now storage) h).mpr .same
  | beginGc input =>
    rcases (beginProjectVersionGc_rolls localeCompare input now).run_cases storage with ⟨_, h⟩ | h
    · exact beginProjectVersionGc_takes h
    · exact (congrArg ((CoordinatorCall.beginGc input).Takes now storage) h).mpr .same
  | finishGc input =>
    rcases (finishProjectVersionGc_rolls input now).run_cases storage with ⟨_, h⟩ | h
    · exact finishProjectVersionGc_takes h
    · exact (congrArg ((CoordinatorCall.finishGc input).Takes now storage) h).mpr .same

end Apply

end Quillframe.Cloud
