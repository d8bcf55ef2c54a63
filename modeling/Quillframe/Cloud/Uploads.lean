import Quillframe.Cloud.StorageChecks

/-!
# Uploading a version

When the preparation of a version and the move of the pointer that follows it succeed, in a storage
whose records pass their checks.
-/
namespace Quillframe.Cloud

open Transaction

variable {storage : Storage} {project : ProjectStorage} {owner : Option String} {projectId : String}
  {now : ℤ}

/-! ## Checks that pass -/

theorem Storage.Checked.requireBinding (h : storage.Checked) {workspaceId : String}
    (howner : storage.binding.map (·.workspaceId) = some workspaceId) :
    ∃ binding, requireWorkspaceBinding storage.binding (some workspaceId) = .ok binding ∧
      binding.workspaceId = workspaceId := by
  obtain ⟨binding, hbinding, rfl⟩ := Option.map_eq_some_iff.mp howner
  refine ⟨binding, ?_, rfl⟩
  simp only [requireWorkspaceBinding, assertWorkspaceBinding, bind_eq_ok, fetch_eq_ok,
    require_eq_ok, pure_eq_ok, exists_const]
  exact ⟨binding, hbinding, ⟨h.binding binding hbinding, fun _ he => Option.some.inj he⟩, rfl⟩

theorem ProjectStorage.Checked.checkVersions (h : project.Checked owner projectId) :
    checkVersions project projectId = .ok () := by
  rw [Cloud.checkVersions, forEach_unit_eq_ok]
  rintro ⟨versionId, record⟩ hentry
  obtain ⟨hchecked, -⟩ := h.versions versionId record (OrderedMap.mem_entries.mp hentry)
  obtain ⟨⟨-, hid, -⟩, hvalid⟩ := assertProjectVersionRecord_eq_ok.mp hchecked
  have hversion := (ProjectVersionPreparationInput.valid_iff.mp hvalid).versionId
  rw [hid] at hversion
  simp [versionFingerprint_ne_empty hversion, hchecked]

theorem ProjectStorage.Checked.checkVersionOperations (h : project.Checked owner projectId) :
    checkVersionOperations project projectId = .ok () := by
  rw [Cloud.checkVersionOperations, forEach_unit_eq_ok]
  rintro ⟨operationId, operation⟩ hentry
  have hchecked := h.operations operationId operation (OrderedMap.mem_entries.mp hentry)
  obtain ⟨-, ⟨hid, hvalid⟩, -⟩ := assertProjectVersionOperation_eq_ok.mp hchecked
  have hbounded := (ProjectVersionPreparationInput.valid_iff.mp hvalid).operationId
  rw [hid] at hbounded
  simp [boundedId_ne_empty hbounded, hchecked]

theorem ProjectStorage.Checked.checkPreparedPointer {input : ProjectVersionPreparationInput}
    (h : project.Checked (some input.workspaceId) input.projectId)
    (hexpected : input.expectedPointerVersion = project.currentVersion) :
    checkPreparedPointer input project = .ok () := by
  rw [Cloud.checkPreparedPointer]
  cases hpointer : project.pointer with
  | none =>
    rw [hexpected]
    simp [ProjectStorage.currentVersion, hpointer]
  | some pointer =>
    obtain ⟨hchecked, howner⟩ := h.pointer pointer hpointer
    simp [hchecked, (Option.some.inj howner).symm]

theorem ProjectStorage.Checked.assertStoredPointer (h : project.Checked owner projectId) :
    assertStoredPointer project projectId = .ok () := by
  rw [Cloud.assertStoredPointer]
  cases hpointer : project.pointer with
  | none => rfl
  | some pointer => exact (h.pointer pointer hpointer).1

theorem ProjectStorage.Checked.currentVersion_nonneg (h : project.Checked owner projectId) :
    0 ≤ project.currentVersion := by
  rw [ProjectStorage.currentVersion]
  cases hpointer : project.pointer with
  | none => simp
  | some pointer =>
    have hone := (assertPointer_eq_ok.mp (h.pointer pointer hpointer).1).1.2.2.2.1
    simp only [Option.map_some, Option.getD_some]
    omega

/-- The version that the pointer leaves can be released. -/
theorem ProjectStorage.Checked.orphanPrevious (h : project.Checked owner projectId)
    (next : ProjectPointerNext) :
    ∃ released, orphanPrevious projectId next project = .ok released := by
  cases hpointer : project.pointer with
  | none => exact ⟨project, by rw [Cloud.orphanPrevious, hpointer]⟩
  | some current =>
    cases hversion : current.versionId with
    | none => exact ⟨project, by simp only [Cloud.orphanPrevious, hpointer, hversion]⟩
    | some versionId =>
      simp only [Cloud.orphanPrevious, hpointer, hversion]
      split_ifs with hsame
      · exact ⟨project, rfl⟩
      · obtain ⟨record, hrecord, hmarked, hobject, hfingerprint⟩ :=
          h.target current versionId hpointer hversion
        obtain ⟨hchecked, howner⟩ := h.versions versionId record hrecord
        have hworkspace : record.workspaceId = current.workspaceId :=
          Option.some.inj (howner.symm.trans (h.pointer current hpointer).2)
        refine ⟨project.setStatus versionId record .orphan, ?_⟩
        simp only [bind_eq_ok, fetch_eq_ok, require_eq_ok, pure_eq_ok, exists_const]
        exact ⟨record, hrecord, (), hchecked, ⟨hworkspace, hobject, hfingerprint⟩, hmarked, rfl⟩

/-! ## Preparing a version -/

section Prepare

variable {input : ProjectVersionPreparationInput}

/-- The preparation of a stored version under a fresh operation comes to its record. -/
theorem prepareProjectVersion_eq_existing (h : storage.Checked) (hvalid : input.Valid)
    (howner : storage.binding.map (·.workspaceId) = some input.workspaceId)
    (hfresh : (storage.projects input.projectId).versionOperations.get? input.operationId = none)
    (hexpected : input.expectedPointerVersion = (storage.projects input.projectId).currentVersion)
    {existing : ProjectVersionRecord}
    (hfound : (storage.projects input.projectId).versions.get? input.versionId = some existing) :
    prepareProjectVersion input now storage = prepareExisting input existing now storage := by
  obtain ⟨binding, hbinding, -⟩ := h.requireBinding howner
  have hpointer := (howner ▸ h.projects input.projectId).checkPreparedPointer hexpected
  have hinput : assertProjectVersionInput input = .ok () :=
    require_eq_ok.mpr (ProjectVersionPreparationInput.valid_iff.mpr hvalid)
  simp only [prepareProjectVersion, hinput, hfresh, hbinding, hpointer, hfound]
  rfl

theorem prepareProjectVersion_eq_new (h : storage.Checked) (hvalid : input.Valid)
    (howner : storage.binding.map (·.workspaceId) = some input.workspaceId)
    (hfresh : (storage.projects input.projectId).versionOperations.get? input.operationId = none)
    (hexpected : input.expectedPointerVersion = (storage.projects input.projectId).currentVersion)
    (hnew : (storage.projects input.projectId).versions.get? input.versionId = none) :
    prepareProjectVersion input now storage = prepareNew input now storage := by
  obtain ⟨binding, hbinding, -⟩ := h.requireBinding howner
  have hpointer := (howner ▸ h.projects input.projectId).checkPreparedPointer hexpected
  have hinput : assertProjectVersionInput input = .ok () :=
    require_eq_ok.mpr (ProjectVersionPreparationInput.valid_iff.mpr hvalid)
  simp only [prepareProjectVersion, hinput, hfresh, hbinding, hpointer, hnew]
  rfl

theorem prepareExisting_ok (now : ℤ) {existing : ProjectVersionRecord}
    (h : (storage.projects input.projectId).Checked owner input.projectId)
    (hfound : (storage.projects input.projectId).versions.get? input.versionId = some existing)
    (hmarked : existing.status ≠ .gcPending) (hsame : existing.sameIdentity input)
    (hroom : (storage.projects input.projectId).versionOperations.entries.length < 256) :
    ∃ receipt, receipt.toProjectVersionPreparationInput = input ∧
      prepareExisting input existing now storage = .ok (receipt, storage.setProject input.projectId
        ((storage.projects input.projectId).recordOperation receipt now)) := by
  have hchecked := (h.versions _ existing hfound).1
  refine ⟨⟨input, if existing.status = .active ∨ (storage.projects input.projectId).pointer.bind
    (·.versionId) = some input.versionId then .replayed else .prepared⟩, rfl, ?_⟩
  simp only [prepareExisting, bind_eq_ok, require_eq_ok, pure_eq_ok, exists_const]
  exact ⟨(), hchecked, hmarked, hsame, (), h.checkVersionOperations, hroom, trivial⟩

theorem prepareExisting_conflict {existing : ProjectVersionRecord}
    (h : (storage.projects input.projectId).Checked owner input.projectId)
    (hfound : (storage.projects input.projectId).versions.get? input.versionId = some existing)
    (hmarked : existing.status ≠ .gcPending) (hsame : ¬ existing.sameIdentity input) :
    prepareExisting input existing now storage =
      .error (failure "project_version_conflict" "project version identity conflicts") := by
  have hchecked := (h.versions _ existing hfound).1
  simp [prepareExisting, hchecked, require, hmarked, hsame, bind, Except.bind]

theorem prepareNew_ok (now : ℤ)
    (h : (storage.projects input.projectId).Checked owner input.projectId)
    (hexpected : input.expectedPointerVersion = (storage.projects input.projectId).currentVersion)
    (hversions : (storage.projects input.projectId).versions.entries.length < 256)
    (hoperations : (storage.projects input.projectId).versionOperations.entries.length < 256) :
    prepareNew input now storage = .ok (⟨input, .prepared⟩, storage.setProject input.projectId
      (((storage.projects input.projectId).recordVersion input .prepared now
        input.expectedPointerVersion).recordOperation ⟨input, .prepared⟩ now)) := by
  simp only [prepareNew, bind_eq_ok, require_eq_ok, exists_const]
  refine ⟨(), h.checkVersions, (), h.checkVersionOperations, ⟨hversions, hoperations⟩, ?_⟩
  cases hpointer : (storage.projects input.projectId).pointer with
  | none => rfl
  | some pointer =>
    have hsame : pointer.pointerVersion = input.expectedPointerVersion := by
      rw [hexpected, ProjectStorage.currentVersion, hpointer]
      rfl
    simp [hsame]

end Prepare

/-! ## Moving the pointer -/

/-- The move of the pointer that follows a preparation. -/
def ProjectVersionPreparationInput.cas (input : ProjectVersionPreparationInput) :
    ProjectPointerCasInput where
  projectId := input.projectId
  expectedPointerVersion := input.expectedPointerVersion
  next := ⟨input.workspaceId, some input.projectId, .active, input.versionId, input.objectKey,
    input.plaintextFingerprint⟩

section Move

variable {input : ProjectVersionPreparationInput}

theorem assertPointer_next (hvalid : input.Valid) {currentVersion : ℤ} (hleast : 0 ≤ currentVersion)
    (hmost : currentVersion ≤ 2 ^ 31) (hnow : natural now) :
    assertPointer (nextPointer input.cas currentVersion now) input.projectId = .ok () := by
  have hsafe : natural (currentVersion + 1) := natural_of_le (by omega) (by omega)
  simp only [natural, Bool.and_eq_true] at hsafe
  have hversion := boundedPointerRef_of_versionFingerprint hvalid.versionId
  have hfingerprint := boundedPointerRef_of_versionFingerprint hvalid.plaintextFingerprint
  have hobject : input.objectKey ≠ "" := by
    intro he
    have hbounded := hvalid.objectKey
    rw [he] at hbounded
    revert hbounded
    decide
  rw [assertPointer_eq_ok]
  refine ⟨⟨hvalid.workspaceId, rfl, hsafe.1, ?_, hnow⟩, ?_, fun _ => ?_⟩
  · simp only [nextPointer]
    omega
  · simp [ProjectPointer.references, nextPointer, ProjectVersionPreparationInput.cas, hversion,
      hfingerprint, hvalid.objectKey]
  · simp [ProjectPointer.references, nextPointer, ProjectVersionPreparationInput.cas,
      hobject, versionFingerprint_ne_empty hvalid.versionId,
      versionFingerprint_ne_empty hvalid.plaintextFingerprint]

/-- The workspace of a bound storage owns the pointer. -/
theorem bindPointerOwner_of_bound (h : storage.Checked)
    (howner : storage.binding.map (·.workspaceId) = some input.workspaceId) :
    bindPointerOwner input.cas now storage = .ok storage := by
  rw [bindPointerOwner]
  cases hpointer : (storage.projects input.cas.projectId).pointer with
  | none =>
    obtain ⟨binding, hbinding, hworkspace⟩ := Option.map_eq_some_iff.mp howner
    simp only [hbinding, assertWorkspaceBinding, bind_eq_ok, require_eq_ok, pure_eq_ok, exists_const]
    exact ⟨⟨h.binding binding hbinding, fun _ he => hworkspace.trans (Option.some.inj he)⟩, trivial⟩
  | some current =>
    have hcurrent := ((h.projects input.cas.projectId).pointer current hpointer).2
    obtain ⟨binding, hbinding, hworkspace⟩ := h.requireBinding hcurrent
    have hsame := Option.some.inj (howner.symm.trans hcurrent)
    simp only [bind_eq_ok, require_eq_ok, pure_eq_ok, exists_const]
    exact ⟨binding, hbinding, hsame.trans hworkspace.symm, trivial⟩

theorem checkCasVersion_cas {version : ProjectVersionRecord}
    (hchecked : assertProjectVersionRecord version input.projectId input.versionId = .ok ())
    (hmarked : version.status ≠ .gcPending) (hsame : version.sameIdentity input) :
    checkCasVersion input.cas version = .ok () := by
  obtain ⟨-, hvalid⟩ := assertProjectVersionRecord_eq_ok.mp hchecked
  have hsize := (ProjectVersionPreparationInput.valid_iff.mp hvalid).byteSize
  simp only [validByteSize, Bool.and_eq_true, decide_eq_true_eq] at hsize
  simp only [ProjectVersionPreparationInput.sameIdentity, Bool.and_eq_true, decide_eq_true_eq]
    at hsame
  obtain ⟨⟨⟨⟨⟨⟨hworkspace, -⟩, hexpected⟩, hversion⟩, hobject⟩, hfingerprint⟩, -⟩ := hsame
  simp only [checkCasVersion, bind_eq_ok, require_eq_ok, exists_const]
  exact ⟨(), hchecked, hmarked, hworkspace, hexpected, hversion, hobject, hfingerprint, hsize.1.2⟩

/-- A move of the pointer of a checked project comes to the record it asks for. -/
theorem casProjectPointer_eq_found (h : storage.Checked) (hvalid : input.Valid)
    {version : ProjectVersionRecord}
    (hfound : (storage.projects input.projectId).versions.get? input.versionId = some version)
    (hbounded : input.expectedPointerVersion ≤ 2 ^ 31) :
    casProjectPointer input.cas now storage = (do
      checkCasVersion input.cas version
      match (storage.projects input.projectId).pointer.filter (replaysPointer input.cas) with
      | some current => return (current, storage)
      | none => do
        require ((storage.projects input.projectId).currentVersion = input.expectedPointerVersion)
          (staleCas input.cas version storage)
        movePointer input.cas version now storage) := by
  have hid : assertProjectId input.projectId = .ok () := require_eq_ok.mpr hvalid.projectId
  have hversion : assertExpectedVersion input.expectedPointerVersion = .ok () :=
    require_eq_ok.mpr ⟨hvalid.expectedPointerVersion, hbounded⟩
  have hnext : assertNextPointer input.cas.next input.projectId = .ok () :=
    require_eq_ok.mpr ⟨rfl, hvalid.workspaceId, by simp [ProjectVersionPreparationInput.cas],
      boundedPointerRef_of_versionFingerprint hvalid.versionId, hvalid.objectKey,
      boundedPointerRef_of_versionFingerprint hvalid.plaintextFingerprint⟩
  have hstored := (h.projects input.projectId).assertStoredPointer
  rw [ProjectVersionPreparationInput.cas] at hnext ⊢
  simp only [casProjectPointer, hid, hversion, hnext, hstored, hfound]
  rfl

/-- A prepared version becomes active when the pointer is where its upload expects it. -/
theorem casProjectPointer_ok (h : storage.Checked) (hvalid : input.Valid) (hnow : natural now)
    (howner : storage.binding.map (·.workspaceId) = some input.workspaceId)
    {version : ProjectVersionRecord}
    (hfound : (storage.projects input.projectId).versions.get? input.versionId = some version)
    (hmarked : version.status ≠ .gcPending) (hsame : version.sameIdentity input)
    (hunpointed : (storage.projects input.projectId).pointed ≠ some input.versionId)
    (hexpected : input.expectedPointerVersion = (storage.projects input.projectId).currentVersion)
    (hbounded : (storage.projects input.projectId).currentVersion ≤ 2 ^ 31) :
    ∃ pointer storage', casProjectPointer input.cas now storage = .ok (pointer, storage') ∧
      pointer.state = .active ∧ pointer.versionId = some input.versionId ∧
      (storage'.projects input.projectId).pointer = some pointer ∧
      ∃ active, (storage'.projects input.projectId).versions.get? input.versionId = some active ∧
        active.status = .active := by
  have hproject := h.projects input.projectId
  have hleast := hproject.currentVersion_nonneg
  have hchecked := (hproject.versions _ version hfound).1
  obtain ⟨released, hreleased⟩ := hproject.orphanPrevious input.cas.next
  have hfresh : (storage.projects input.projectId).pointer.filter (replaysPointer input.cas) =
      none := by
    rw [Option.filter_eq_none_iff]
    intro current hcurrent hreplay
    simp only [replaysPointer, Bool.and_eq_true, decide_eq_true_eq] at hreplay
    refine hunpointed ?_
    rw [ProjectStorage.pointed, hcurrent]
    exact hreplay.1.1.1.2
  refine ⟨nextPointer input.cas (storage.projects input.projectId).currentVersion now,
    storage.setProject input.projectId { released with
      pointer := some (nextPointer input.cas (storage.projects input.projectId).currentVersion now)
      versions := released.versions.insert input.versionId { version with
        status := .active
        pointerVersion := (storage.projects input.projectId).currentVersion + 1 } },
    ?_, rfl, rfl, ?_, ?_⟩
  · rw [casProjectPointer_eq_found h hvalid hfound (hexpected ▸ hbounded), hfresh]
    simp only [bind_eq_ok, require_eq_ok, exists_const]
    refine ⟨(), checkCasVersion_cas hchecked hmarked hsame, hexpected.symm, ?_⟩
    simp only [movePointer, bind_eq_ok, pure_eq_ok]
    exact ⟨storage, bindPointerOwner_of_bound h howner, (),
      assertPointer_next hvalid hleast hbounded hnow, released, hreleased, rfl⟩
  · simp [Storage.setProject]
  · exact ⟨_, by simp [Storage.setProject]; rfl, rfl⟩

end Move

/-! ## Uploads -/

/-- The upload is prepared, the pointer moves to it, and its version is the active one. -/
def Activates (storage : Storage) (input : ProjectVersionPreparationInput) (prepared moved : ℤ) :
    Prop :=
  ∃ receipt storage₁ pointer storage₂,
    prepareProjectVersion input prepared storage = .ok (receipt, storage₁) ∧
    casProjectPointer input.cas moved storage₁ = .ok (pointer, storage₂) ∧
    pointer.state = .active ∧ pointer.versionId = some input.versionId ∧
    (storage₂.projects input.projectId).pointer = some pointer ∧
    ∃ version, (storage₂.projects input.projectId).versions.get? input.versionId = some version ∧
      version.status = .active

section Upload

variable {input : ProjectVersionPreparationInput} {prepared moved : ℤ}

/-- What a successful preparation leaves is where the pointer can move from. -/
theorem activates_of_prepared (h : storage.Checked) (hvalid : input.Valid)
    (hprepared : natural prepared) (hmoved : natural moved)
    (howner : storage.binding.map (·.workspaceId) = some input.workspaceId)
    {receipt : ProjectVersionPreparationReceipt} {project : ProjectStorage}
    (hprepare : prepareProjectVersion input prepared storage =
      .ok (receipt, storage.setProject input.projectId project))
    {version : ProjectVersionRecord}
    (hfound : project.versions.get? input.versionId = some version)
    (hmarked : version.status ≠ .gcPending) (hsame : version.sameIdentity input)
    (hpointer : project.pointer = (storage.projects input.projectId).pointer)
    (hunpointed : (storage.projects input.projectId).pointed ≠ some input.versionId)
    (hexpected : input.expectedPointerVersion = (storage.projects input.projectId).currentVersion)
    (hbounded : (storage.projects input.projectId).currentVersion ≤ 2 ^ 31) :
    Activates storage input prepared moved := by
  have hchecked : (storage.setProject input.projectId project).Checked :=
    ((prepareProjectVersion_takes input prepared).returned _ hprepare).checked h hprepared
      (fun _ hbind => nomatch hbind)
  have hproject : (storage.setProject input.projectId project).projects input.projectId = project :=
    Function.update_self _ _ _
  rw [ProjectStorage.pointed, ← hpointer] at hunpointed
  rw [ProjectStorage.currentVersion, ← hpointer] at hexpected hbounded
  rw [← hproject] at hfound hunpointed hexpected hbounded
  obtain ⟨pointer, storage₂, hcas, hrest⟩ := casProjectPointer_ok hchecked hvalid hmoved howner
    hfound hmarked hsame hunpointed hexpected hbounded
  exact ⟨receipt, _, pointer, storage₂, hprepare, hcas, hrest⟩

theorem activates_existing (h : storage.Checked) (hvalid : input.Valid)
    (hprepared : natural prepared) (hmoved : natural moved)
    (howner : storage.binding.map (·.workspaceId) = some input.workspaceId)
    (hfresh : (storage.projects input.projectId).versionOperations.get? input.operationId = none)
    (hroom : (storage.projects input.projectId).versionOperations.entries.length < 256)
    {existing : ProjectVersionRecord}
    (hfound : (storage.projects input.projectId).versions.get? input.versionId = some existing)
    (hmarked : existing.status ≠ .gcPending) (hsame : existing.sameIdentity input)
    (hunpointed : (storage.projects input.projectId).pointed ≠ some input.versionId)
    (hexpected : input.expectedPointerVersion = (storage.projects input.projectId).currentVersion)
    (hbounded : (storage.projects input.projectId).currentVersion ≤ 2 ^ 31) :
    Activates storage input prepared moved := by
  obtain ⟨receipt, -, hprepare⟩ := prepareExisting_ok prepared
    (h.projects input.projectId) hfound hmarked hsame hroom
  rw [← prepareProjectVersion_eq_existing h hvalid howner hfresh hexpected hfound] at hprepare
  exact activates_of_prepared h hvalid hprepared hmoved howner hprepare hfound hmarked hsame rfl
    hunpointed hexpected hbounded

theorem activates_new (h : storage.Checked) (hvalid : input.Valid)
    (hprepared : natural prepared) (hmoved : natural moved)
    (howner : storage.binding.map (·.workspaceId) = some input.workspaceId)
    (hfresh : (storage.projects input.projectId).versionOperations.get? input.operationId = none)
    (hnew : (storage.projects input.projectId).versions.get? input.versionId = none)
    (hversions : (storage.projects input.projectId).versions.entries.length < 256)
    (hoperations : (storage.projects input.projectId).versionOperations.entries.length < 256)
    (hexpected : input.expectedPointerVersion = (storage.projects input.projectId).currentVersion)
    (hbounded : (storage.projects input.projectId).currentVersion ≤ 2 ^ 31) :
    Activates storage input prepared moved := by
  have hproject := h.projects input.projectId
  have hprepare := prepareNew_ok prepared hproject hexpected hversions hoperations
  rw [← prepareProjectVersion_eq_new h hvalid howner hfresh hexpected hnew] at hprepare
  refine activates_of_prepared h hvalid hprepared hmoved howner hprepare
    (OrderedMap.get?_insert_self _ _ _) (by simp) ?_ rfl (fun hpointed => ?_) hexpected hbounded
  · simp [ProjectVersionPreparationInput.sameIdentity]
  · -- The version that a pointer names has a record.
    obtain ⟨pointer, hpointer, hnamed⟩ := Option.bind_eq_some_iff.mp hpointed
    obtain ⟨record, hrecord, -⟩ := hproject.target pointer input.versionId hpointer hnamed
    rw [hnew] at hrecord
    cases hrecord

end Upload

/-- The upload of a stored version under another operation. -/
def ProjectVersionRecord.upload (record : ProjectVersionRecord)
    (operationId inputFingerprint : String) (expectedPointerVersion : ℤ) :
    ProjectVersionPreparationInput :=
  { record.toProjectVersionPreparationInput with
    operationId, inputFingerprint, expectedPointerVersion }

section KnownVersion

variable {sha256 : Json String → String} {localeCompare : String → String → Ordering}
  {calls : List TimedCall} {projectId versionId : String} {record : ProjectVersionRecord}

/-- A version that is stored, unmarked and unpointed becomes active again when it was first prepared
at the current version of the pointer, and is refused at any other. -/
theorem known_version_uploads_again (operationId inputFingerprint : String) (prepared moved : ℤ)
    (hcalls : ∀ timed ∈ calls, timed.Proper) (hprepared : natural prepared)
    (hmoved : natural moved)
    (hrecord : (projectAfter sha256 localeCompare projectId calls).versions.get? versionId =
      some record) (hmarked : record.status ≠ .gcPending)
    (hunpointed : (projectAfter sha256 localeCompare projectId calls).pointed ≠ some versionId)
    (hoperation : boundedId operationId) (hfingerprint : versionFingerprint inputFingerprint)
    (hfresh : (projectAfter sha256 localeCompare projectId calls).versionOperations.get?
      operationId = none)
    (hroom : (projectAfter sha256 localeCompare projectId
      calls).versionOperations.entries.length < 256)
    (hbounded : (projectAfter sha256 localeCompare projectId calls).currentVersion ≤ 2 ^ 31) :
    let storage := runCalls sha256 localeCompare calls
    let current := (projectAfter sha256 localeCompare projectId calls).currentVersion
    let input := record.upload operationId inputFingerprint current
    (record.expectedPointerVersion = current → Activates storage input prepared moved) ∧
    (record.expectedPointerVersion ≠ current →
      prepareProjectVersion input prepared storage =
        .error (failure "project_version_conflict" "project version identity conflicts") ∧
      casProjectPointer input.cas moved storage =
        .error (failure "project_version_conflict"
          "project version pointer identity conflicts")) := by
  intro storage current input
  have hchecked : storage.Checked := runCalls_checked hcalls
  have hproject := hchecked.projects projectId
  obtain ⟨hrecordChecked, howner⟩ := hproject.versions versionId record hrecord
  obtain ⟨⟨rfl, rfl, -⟩, hvalid⟩ := assertProjectVersionRecord_eq_ok.mp hrecordChecked
  have hleast : 0 ≤ current := hproject.currentVersion_nonneg
  have hnatural : natural current := natural_of_le hleast (hbounded.trans (by decide))
  have hinput : input.Valid :=
    { ProjectVersionPreparationInput.valid_iff.mp hvalid with
      operationId := hoperation, inputFingerprint := hfingerprint
      expectedPointerVersion := hnatural }
  have hsame : record.sameIdentity input ↔ record.expectedPointerVersion = current := by
    simp [ProjectVersionPreparationInput.sameIdentity, input, ProjectVersionRecord.upload]
  refine ⟨fun hcurrent => ?_, fun hcurrent => ⟨?_, ?_⟩⟩
  · exact activates_existing hchecked hinput hprepared hmoved howner hfresh hroom hrecord hmarked
      (hsame.mpr hcurrent) hunpointed rfl hbounded
  · rw [prepareProjectVersion_eq_existing hchecked hinput howner hfresh rfl hrecord]
    exact prepareExisting_conflict hproject hrecord hmarked fun h => hcurrent (hsame.mp h)
  · have hcheck : checkCasVersion input.cas record =
        .error (failure "project_version_conflict"
          "project version pointer identity conflicts") := by
      have hconflict : record.expectedPointerVersion ≠ input.cas.expectedPointerVersion := hcurrent
      have hstored : assertProjectVersionRecord record input.cas.projectId
          input.cas.next.versionId = .ok () := hrecordChecked
      simp [checkCasVersion, require, hmarked, hconflict, hstored, bind, Except.bind]
    rw [casProjectPointer_eq_found hchecked hinput hrecord hbounded, hcheck]
    rfl

end KnownVersion

open Sample in
theorem known_version_uploads_again_sample :
    ∃ record, (projectAfter (fun _ => "") compare "novel" preparedOnly).versions.get?
        firstVersion = some record ∧
      Activates (runCalls (fun _ => "") compare preparedOnly)
        (record.upload "upload-2" firstVersion 0) 3 4 := by
  let project := projectAfter (fun _ => "") compare "novel" preparedOnly
  have hproper : ∀ timed ∈ preparedOnly, timed.Proper := by
    simp [preparedOnly, TimedCall.Proper]
    decide
  obtain ⟨⟨hstatus, hcurrent, hexpected⟩, hunpointed, hfresh, hroom⟩ :
      ((project.versions.get? firstVersion).map (·.status) = some .prepared ∧
        project.currentVersion = 0 ∧
        (project.versions.get? firstVersion).map (·.expectedPointerVersion) = some 0) ∧
      project.pointed ≠ some firstVersion ∧
      (project.versionOperations.get? "upload-2").isNone ∧
      project.versionOperations.entries.length < 256 := by decide +kernel
  obtain ⟨record, hrecord, hprepared⟩ := Option.map_eq_some_iff.mp hstatus
  rw [hrecord] at hexpected
  refine ⟨record, hrecord, ?_⟩
  have hactivates := (known_version_uploads_again "upload-2" firstVersion 3 4 hproper (by decide)
    (by decide) hrecord (by simp [hprepared]) hunpointed (by decide +kernel) (by decide +kernel)
    (Option.isNone_iff_eq_none.mp hfresh) hroom (hcurrent ▸ by decide)).1
      ((Option.some.inj hexpected).trans hcurrent.symm)
  exact hcurrent ▸ hactivates

open Sample in
/-- An orphan that was prepared at version 0 is stored, unmarked and unpointed, and cannot be
uploaded at version 1. -/
theorem known_version_refused :
    ∃ record, (projectAfter (fun _ => "") compare "novel" lateUpload).versions.get? lateVersion =
        some record ∧ record.status = .orphan ∧
      (projectAfter (fun _ => "") compare "novel" lateUpload).pointed ≠ some lateVersion ∧
      (projectAfter (fun _ => "") compare "novel" lateUpload).versionOperations.get? "upload-3" =
        none ∧
      (projectAfter (fun _ => "") compare "novel" lateUpload).currentVersion = 1 ∧
      ¬ Activates (runCalls (fun _ => "") compare lateUpload) (record.upload "upload-3" lateVersion 1)
        5 6 := by
  let record : ProjectVersionRecord := ⟨upload "upload-2" lateVersion, .orphan, 4, 1⟩
  obtain ⟨hrecord, hunpointed, hfresh, hcurrent, hrefused⟩ :
      (projectAfter (fun _ => "") compare "novel" lateUpload).versions.get? lateVersion =
        some record ∧
      (projectAfter (fun _ => "") compare "novel" lateUpload).pointed ≠ some lateVersion ∧
      ((projectAfter (fun _ => "") compare "novel" lateUpload).versionOperations.get?
        "upload-3").isNone ∧
      (projectAfter (fun _ => "") compare "novel" lateUpload).currentVersion = 1 ∧
      (prepareProjectVersion (record.upload "upload-3" lateVersion 1) 5
        (runCalls (fun _ => "") compare lateUpload)).isOk = false := by decide +kernel
  refine ⟨record, hrecord, rfl, hunpointed, Option.isNone_iff_eq_none.mp hfresh, hcurrent, ?_⟩
  rintro ⟨receipt, storage₁, -, -, hprepare, -⟩
  rw [hprepare] at hrefused
  cases hrefused

end Quillframe.Cloud
