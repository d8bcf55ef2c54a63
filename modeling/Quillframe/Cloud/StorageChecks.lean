import Quillframe.Cloud.Collections

/-!
# Stored records pass their checks

Every record that the coordinator writes passes the checks that it makes when it reads it back, as
long as the clock reads a natural number and the sessions bind a bounded workspace.
-/
namespace Quillframe.Cloud

open Transaction

/-! ## What the checks ask for -/

section Checks

variable {projectId versionId operationId : String}

theorem assertProjectVersionRecord_eq_ok {record : ProjectVersionRecord} :
    assertProjectVersionRecord record projectId versionId = .ok () ↔
      (record.projectId = projectId ∧ record.versionId = versionId ∧ natural record.createdAt ∧
        natural record.pointerVersion) ∧ record.toProjectVersionPreparationInput.valid := by
  simp [assertProjectVersionRecord, assertProjectVersionReceipt]

theorem assertProjectVersionOperation_eq_ok {operation : ProjectVersionOperation} :
    assertProjectVersionOperation operation projectId operationId = .ok () ↔
      (operation.operationId = operationId ∧ natural operation.createdAt) ∧
      (operation.receiptSnapshot.operationId = operationId ∧ operation.receiptSnapshot.valid) ∧
      operation.receiptSnapshot.projectId = projectId ∧
        operation.inputFingerprint = operation.receiptSnapshot.inputFingerprint := by
  simp [assertProjectVersionOperation, assertProjectVersionReceipt]

theorem assertProjectVersionGcOperation_eq_ok {operation : ProjectVersionGcOperation} :
    assertProjectVersionGcOperation operation projectId operationId = .ok () ↔
      (operation.operationId = operationId ∧ boundedProjectId operation.projectId ∧
        operation.projectId = projectId ∧ versionFingerprint operation.versionId ∧
        natural operation.retentionBefore ∧ natural operation.createdAt) ∧
      operation.receiptSnapshot.valid projectId operation.versionId operationId := by
  simp [assertProjectVersionGcOperation, assertProjectVersionGcReceipt]

theorem assertPointer_eq_ok {pointer : ProjectPointer} :
    assertPointer pointer projectId = .ok () ↔
      (boundedId pointer.workspaceId ∧ pointer.projectId = projectId ∧
        isSafeInteger pointer.pointerVersion ∧ 1 ≤ pointer.pointerVersion ∧
        natural pointer.updatedAt) ∧
      (∀ reference ∈ pointer.references, reference.all boundedPointerRef) ∧
      (pointer.state = .active → ∀ reference ∈ pointer.references,
        reference ≠ none ∧ reference ≠ some "") := by
  simp [assertPointer]

/-- The conjuncts of a valid version input. -/
structure ProjectVersionPreparationInput.Valid (input : ProjectVersionPreparationInput) : Prop where
  operationId : boundedId input.operationId
  inputFingerprint : versionFingerprint input.inputFingerprint
  workspaceId : boundedId input.workspaceId
  projectId : boundedProjectId input.projectId
  expectedPointerVersion : natural input.expectedPointerVersion
  versionId : versionFingerprint input.versionId
  objectKey : boundedPointerRef input.objectKey
  plaintextFingerprint : versionFingerprint input.plaintextFingerprint
  byteSize : validByteSize input.byteSize

theorem ProjectVersionPreparationInput.valid_iff {input : ProjectVersionPreparationInput} :
    input.valid ↔ input.Valid := by
  simp only [valid, Bool.and_eq_true]
  constructor
  · rintro ⟨⟨⟨⟨⟨⟨⟨⟨h₁, h₂⟩, h₃⟩, h₄⟩, h₅⟩, h₆⟩, h₇⟩, h₈⟩, h₉⟩
    exact ⟨h₁, h₂, h₃, h₄, h₅, h₆, h₇, h₈, h₉⟩
  · rintro ⟨h₁, h₂, h₃, h₄, h₅, h₆, h₇, h₈, h₉⟩
    exact ⟨⟨⟨⟨⟨⟨⟨⟨h₁, h₂⟩, h₃⟩, h₄⟩, h₅⟩, h₆⟩, h₇⟩, h₈⟩, h₉⟩

theorem gcReceipt_valid {input : ProjectVersionGcInput} {version : ProjectVersionRecord}
    (hid : boundedId input.operationId)
    (h : assertProjectVersionRecord version input.projectId input.versionId = .ok ()) :
    (gcReceipt input version).valid input.projectId input.versionId input.operationId := by
  obtain ⟨⟨hproject, hversion, -, hpointer⟩, hvalid⟩ := assertProjectVersionRecord_eq_ok.mp h
  obtain ⟨-, -, hworkspace, hbounded, -, hnamed, hobject, hplaintext, hsize⟩ :=
    ProjectVersionPreparationInput.valid_iff.mp hvalid
  rw [hproject] at hbounded
  rw [hversion] at hnamed
  simp [ProjectVersionGcReceipt.valid, gcReceipt, hid, hpointer, hworkspace, hbounded, hnamed,
    hobject, hplaintext, hsize]

theorem gcCompleted_valid {receipt : ProjectVersionGcReceipt} {status : GcStatus} :
    ({ receipt with status } : ProjectVersionGcReceipt).valid projectId versionId operationId =
      receipt.valid projectId versionId operationId := rfl

theorem versionFingerprint_ne_empty (h : versionFingerprint versionId) : versionId ≠ "" := by
  rintro rfl
  revert h
  decide

theorem boundedId_ne_empty (h : boundedId operationId) : operationId ≠ "" := by
  rintro rfl
  revert h
  decide

end Checks

/-! ## Fingerprints as references -/

theorem hasControl_of_printable {bytes : List ℕ} (h : ∀ byte ∈ bytes, 0x20 ≤ byte ∧ byte < 0x7f) :
    hasControl bytes = false := by
  induction bytes with
  | nil => rfl
  | cons byte rest ih =>
    obtain ⟨hleast, hmost⟩ := h byte List.mem_cons_self
    have hrest := ih fun other hother => h other (List.mem_cons_of_mem _ hother)
    have h₁ : ¬ byte ≤ 0x1f := by omega
    have h₂ : byte ≠ 0x7f := by omega
    have h₃ : byte ≠ 0xc2 := by omega
    simp [hasControl, hrest, h₁, h₂, h₃]

theorem utf16Length_of_printable {bytes : List ℕ}
    (h : ∀ byte ∈ bytes, 0x20 ≤ byte ∧ byte < 0x7f) : utf16Length bytes = bytes.length := by
  have hone : bytes.countP (fun byte => byte < 0x80 || 0xc0 ≤ byte) = bytes.length :=
    List.countP_eq_length.mpr fun byte hbyte => by
      have := h byte hbyte
      simp
      omega
  have hfour : bytes.countP (fun byte => decide (0xf0 ≤ byte)) = 0 :=
    List.countP_eq_zero.mpr fun byte hbyte => by
      have := h byte hbyte
      simp
      omega
  rw [utf16Length, hone, hfour, Nat.add_zero]

theorem boundedPointerRef_of_versionFingerprint {versionId : String}
    (h : versionFingerprint versionId) : boundedPointerRef versionId := by
  simp only [versionFingerprint, Bool.and_eq_true, decide_eq_true_eq, List.all_eq_true] at h
  obtain ⟨⟨hlength, htake⟩, hdrop⟩ := h
  have hhex : ∀ byte < 256, lowerHex (Char.ofNat byte) → 0x20 ≤ byte ∧ byte < 0x7f := by
    decide +kernel
  have hsmall : ∀ byte ∈ utf8 versionId, byte < 256 := by
    intro byte hbyte
    obtain ⟨raw, -, rfl⟩ := List.mem_map.mp hbyte
    exact raw.toNat_lt
  have hprintable : ∀ byte ∈ utf8 versionId, 0x20 ≤ byte ∧ byte < 0x7f := by
    intro byte hbyte
    rw [← List.take_append_drop 7 (utf8 versionId), List.mem_append] at hbyte
    rcases hbyte with hbyte | hbyte
    · rw [htake] at hbyte
      revert byte
      decide
    · exact hhex byte (hsmall byte (List.mem_of_mem_drop hbyte)) (hdrop byte hbyte)
  have hsome : utf8 versionId ≠ [] := fun he => by simp [he] at hlength
  simp [boundedPointerRef, boundedText, hasControl_of_printable hprintable,
    utf16Length_of_printable hprintable, hlength, hsome]

/-! ## The invariant -/

/-- The records of a project pass their checks in the workspace that owns it, and the pointer names
a record that can be released. -/
structure ProjectStorage.Checked (owner : Option String) (projectId : String)
    (project : ProjectStorage) : Prop where
  versions : ∀ versionId record, project.versions.get? versionId = some record →
    assertProjectVersionRecord record projectId versionId = .ok () ∧
      owner = some record.workspaceId
  operations : ∀ operationId operation,
    project.versionOperations.get? operationId = some operation →
    assertProjectVersionOperation operation projectId operationId = .ok ()
  collections : ∀ operationId operation,
    project.gcOperations.get? operationId = some operation →
    assertProjectVersionGcOperation operation projectId operationId = .ok ()
  pointer : ∀ pointer, project.pointer = some pointer →
    assertPointer pointer projectId = .ok () ∧ owner = some pointer.workspaceId
  target : ∀ pointer versionId, project.pointer = some pointer →
    pointer.versionId = some versionId → ∃ record,
      project.versions.get? versionId = some record ∧ record.status ≠ .gcPending ∧
      pointer.objectKey = some record.objectKey ∧
      pointer.plaintextFingerprint = some record.plaintextFingerprint

/-- The stored binding passes its check, and so do the records of every project. -/
structure Storage.Checked (storage : Storage) : Prop where
  binding : ∀ binding, storage.binding = some binding →
    boundedId binding.workspaceId ∧ natural binding.boundAt
  projects : ∀ projectId, (storage.projects projectId).Checked
    (storage.binding.map (·.workspaceId)) projectId

section Steps

variable {binding : Option WorkspaceBinding} {owner : Option String} {projectId : String}
  {call : CoordinatorCall} {now : ℤ} {before after : ProjectStorage}

theorem ProjectStorage.Checked.empty : ProjectStorage.empty.Checked owner projectId :=
  ⟨fun _ _ h => (nomatch h), fun _ _ h => (nomatch h), fun _ _ h => (nomatch h),
    fun _ h => (nomatch h), fun _ _ h => (nomatch h)⟩

/-- A project of an unbound workspace has neither versions nor a pointer. -/
theorem ProjectStorage.Checked.bind (h : before.Checked none projectId) :
    before.Checked owner projectId where
  versions versionId record hrecord := nomatch (h.versions versionId record hrecord).2
  operations := h.operations
  collections := h.collections
  pointer pointer hpointer := nomatch (h.pointer pointer hpointer).2
  target := h.target

theorem natural_of_le {n : ℤ} (hleast : 0 ≤ n) (hmost : n ≤ 2 ^ 31 + 1) : natural n := by
  simp only [natural, isSafeInteger, Bool.and_eq_true, decide_eq_true_eq]
  omega

/-- A record whose status is rewritten passes its check. -/
theorem assertProjectVersionRecord_status {record : ProjectVersionRecord} {versionId : String}
    {status : VersionStatus} {pointerVersion : ℤ} (hpointer : natural pointerVersion)
    (h : assertProjectVersionRecord record projectId versionId = .ok ()) :
    assertProjectVersionRecord { record with status, pointerVersion } projectId versionId =
      .ok () := by
  rw [assertProjectVersionRecord_eq_ok] at h ⊢
  exact ⟨⟨h.1.1, h.1.2.1, h.1.2.2.1, hpointer⟩, h.2⟩

theorem ProjectStep.checkedVersions (h : ProjectStep binding now call before after)
    (hbefore : before.Checked (binding.map (·.workspaceId)) call.projectId) (hnow : natural now)
    {versionId : String} {record : ProjectVersionRecord}
    (hrecord : after.versions.get? versionId = some record) :
    assertProjectVersionRecord record call.projectId versionId = .ok () ∧
      binding.map (·.workspaceId) = some record.workspaceId := by
  -- A record that is written is checked, and the others are what they were.
  have hstatus : ∀ {other : String} {found : ProjectVersionRecord} {status : VersionStatus},
      before.versions.get? other = some found →
      (before.versions.insert other { found with status }).get? versionId = some record →
      assertProjectVersionRecord record call.projectId versionId = .ok () ∧
        binding.map (·.workspaceId) = some record.workspaceId := by
    intro other found status hfound hafter
    by_cases hsame : versionId = other
    · subst hsame
      rw [OrderedMap.get?_insert_self, Option.some.injEq] at hafter
      obtain ⟨hchecked, howner⟩ := hbefore.versions versionId found hfound
      rw [← hafter]
      exact ⟨assertProjectVersionRecord_status
        (assertProjectVersionRecord_eq_ok.mp hchecked).1.2.2.2 hchecked, howner⟩
    · rw [OrderedMap.get?_insert_of_ne _ hsame] at hafter
      exact hbefore.versions versionId record hafter
  have hreleased : ∀ {pointed : Option String}, (if pointed = some versionId
      then (before.versions.get? versionId).map orphaned
      else before.versions.get? versionId) = some record →
      assertProjectVersionRecord record call.projectId versionId = .ok () ∧
        binding.map (·.workspaceId) = some record.workspaceId := by
    intro pointed hafter
    split_ifs at hafter
    · obtain ⟨found, hfound, rfl⟩ := Option.map_eq_some_iff.mp hafter
      exact hstatus hfound (OrderedMap.get?_insert_self _ _ _)
    · exact hbefore.versions versionId record hafter
  cases h with
  | same => exact hbefore.versions versionId record hrecord
  | reprepared => exact hbefore.versions versionId record hrecord
  | @prepared input _ status pointerVersion _ valid owner _ _ _ state _ =>
    by_cases hsame : versionId = input.versionId
    · subst hsame
      have hpointer : natural pointerVersion := by
        rcases state with ⟨-, rfl⟩ | ⟨-, hpointer⟩
        · exact (ProjectVersionPreparationInput.valid_iff.mp valid).expectedPointerVersion
        · exact hpointer
      have hwritten : (⟨input, status, now, pointerVersion⟩ : ProjectVersionRecord) = record := by
        simpa [ProjectStorage.recordVersion, ProjectStorage.recordOperation] using hrecord
      rw [← hwritten, assertProjectVersionRecord_eq_ok]
      exact ⟨⟨⟨rfl, rfl, hnow, hpointer⟩, valid⟩, owner⟩
    · refine hbefore.versions versionId record ?_
      rwa [← OrderedMap.get?_insert_of_ne before.versions hsame]
  | stale found => exact hstatus found hrecord
  | @moved input _ released version _ named found _ current next release =>
    by_cases hsame : versionId = input.next.versionId
    · subst hsame
      rw [OrderedMap.get?_insert_self, Option.some.injEq] at hrecord
      obtain ⟨hchecked, howner⟩ := hbefore.versions _ version found
      rw [← hrecord]
      exact ⟨assertProjectVersionRecord_status (natural_of_assertPointer next) hchecked, howner⟩
    · rw [OrderedMap.get?_insert_of_ne _ hsame, orphanPrevious_versions named release hsame]
        at hrecord
      exact hreleased hrecord
  | deleted _ checked _ _ _ release =>
    rw [(orphanCurrent_versions (assertPointer_versionId checked) release).2 versionId] at hrecord
    exact hreleased hrecord
  | collecting _ _ found _ _ _ => exact hstatus found hrecord
  | finished => exact hbefore.versions versionId record hrecord
  | @collected input _ _ _ _ _ _ _ _ _ =>
    refine hbefore.versions versionId record ?_
    rwa [← OrderedMap.get?_erase_of_ne before.versions (k := input.versionId) fun he => by
      rw [he, OrderedMap.get?_erase_self] at hrecord
      cases hrecord]

theorem ProjectStep.checkedOperations (h : ProjectStep binding now call before after)
    (hbefore : before.Checked owner call.projectId) (hnow : natural now) {operationId : String}
    {operation : ProjectVersionOperation}
    (hfound : after.versionOperations.get? operationId = some operation) :
    assertProjectVersionOperation operation call.projectId operationId = .ok () := by
  have hwritten : ∀ {input : ProjectVersionPreparationInput}
      {receipt : ProjectVersionPreparationReceipt}, input.projectId = call.projectId →
      input.valid → receipt.toProjectVersionPreparationInput = input →
      (before.versionOperations.insert receipt.operationId
        ⟨receipt.operationId, receipt.inputFingerprint, receipt, now⟩).get? operationId =
          some operation →
      assertProjectVersionOperation operation call.projectId operationId = .ok () := by
    rintro input receipt hproject hvalid rfl hafter
    by_cases hsame : operationId = receipt.operationId
    · rw [hsame, OrderedMap.get?_insert_self, Option.some.injEq] at hafter
      rw [← hafter, hsame, assertProjectVersionOperation_eq_ok]
      exact ⟨⟨rfl, hnow⟩, ⟨rfl, hvalid⟩, hproject, rfl⟩
    · rw [OrderedMap.get?_insert_of_ne _ hsame] at hafter
      exact hbefore.operations operationId operation hafter
  have hold := hbefore.operations operationId operation
  cases h with
  | same => exact hold hfound
  | reprepared valid _ _ _ _ _ receives => exact hwritten rfl valid receives hfound
  | prepared valid _ _ _ _ _ receives => exact hwritten rfl valid receives hfound
  | stale => exact hold hfound
  | moved _ _ _ _ _ _ release => exact hold ((orphanPrevious_frame release).1 ▸ hfound)
  | deleted _ _ _ _ _ release => exact hold ((orphanCurrent_frame release).1 ▸ hfound)
  | collecting => exact hold hfound
  | finished => exact hold hfound
  | @collected _ _ _ version _ _ _ _ _ _ =>
    refine hold ?_
    rwa [← OrderedMap.get?_erase_of_ne before.versionOperations (k := version.operationId)
      fun he => by
        rw [he, OrderedMap.get?_erase_self] at hfound
        cases hfound]

/-- A collection that has finished passes its check. -/
theorem assertProjectVersionGcOperation_completed {operation : ProjectVersionGcOperation}
    {operationId : String} (hnow : natural now)
    (h : assertProjectVersionGcOperation operation projectId operationId = .ok ()) :
    assertProjectVersionGcOperation (operation.completed now) projectId operationId = .ok () := by
  rw [assertProjectVersionGcOperation_eq_ok] at h ⊢
  obtain ⟨⟨hid, hbounded, hproject, hversion, hretention, hcreated⟩, hreceipt⟩ := h
  refine ⟨⟨hid, hbounded, hproject, hversion, hretention, ?_⟩, hreceipt⟩
  rw [ProjectVersionGcOperation.completed]
  split_ifs
  · exact hnow
  · exact hcreated

theorem ProjectStep.checkedCollections (h : ProjectStep binding now call before after)
    (hbefore : before.Checked owner call.projectId) (hnow : natural now) {operationId : String}
    {operation : ProjectVersionGcOperation}
    (hfound : after.gcOperations.get? operationId = some operation) :
    assertProjectVersionGcOperation operation call.projectId operationId = .ok () := by
  rcases h.gc_cases hfound with hold | ⟨begun, hbegun, rfl⟩ |
    ⟨input, version, rfl, rfl, hbounded, hrecord, rfl, -⟩
  · exact hbefore.collections operationId operation hold
  · exact assertProjectVersionGcOperation_completed hnow
      (hbefore.collections operationId begun hbegun)
  · have hversion := (hbefore.versions _ version hrecord).1
    obtain ⟨⟨hproject, -⟩, hvalid⟩ := assertProjectVersionRecord_eq_ok.mp hversion
    have hid := (ProjectVersionPreparationInput.valid_iff.mp hvalid).projectId
    rw [hproject] at hid
    rw [assertProjectVersionGcOperation_eq_ok]
    exact ⟨⟨rfl, hid, rfl, hbounded.1, hbounded.2.2, hnow⟩, gcReceipt_valid hbounded.2.1 hversion⟩

theorem ProjectStep.checkedPointer (h : ProjectStep binding now call before after)
    (hbefore : before.Checked owner call.projectId) (hnow : natural now)
    {pointer : ProjectPointer} (hpointer : after.pointer = some pointer) :
    assertPointer pointer call.projectId = .ok () ∧ owner = some pointer.workspaceId := by
  have hold := hbefore.pointer pointer
  cases h with
  | same => exact hold hpointer
  | reprepared => exact hold hpointer
  | prepared => exact hold hpointer
  | stale => exact hold hpointer
  | @moved input _ _ version _ _ found asks _ next _ =>
    cases hpointer
    exact ⟨next, (hbefore.versions _ version found).2.trans (congrArg some asks.workspace)⟩
  | @deleted input _ _ current _ found checked version bounded _ release =>
    obtain ⟨hsame, -⟩ := orphanCurrent_versions (assertPointer_versionId checked) release
    obtain rfl := Option.some.inj (hsame.symm.trans hpointer)
    refine ⟨?_, (hbefore.pointer current found).2⟩
    rw [assertPointer_eq_ok] at checked ⊢
    obtain ⟨⟨hworkspace, hproject, -, hone, -⟩, hreferences, -⟩ := checked
    have hnext : natural (current.pointerVersion + 1) := natural_of_le (by omega) (by omega)
    simp only [natural, Bool.and_eq_true] at hnext
    exact ⟨⟨hworkspace, hproject, hnext.1, by simp; omega, hnow⟩, hreferences,
      fun hactive => by cases hactive⟩
  | collecting => exact hold hpointer
  | finished => exact hold hpointer
  | collected => exact hold hpointer

/-- The record that the pointer names is never marked, and names the same content. -/
theorem ProjectStep.checkedTarget (h : ProjectStep binding now call before after)
    (hbefore : before.Checked owner call.projectId) {pointer : ProjectPointer}
    {versionId : String} (hpointer : after.pointer = some pointer)
    (hnamed : pointer.versionId = some versionId) : ∃ record,
      after.versions.get? versionId = some record ∧ record.status ≠ .gcPending ∧
      pointer.objectKey = some record.objectKey ∧
      pointer.plaintextFingerprint = some record.plaintextFingerprint := by
  have hpointed : ∀ {current : ProjectPointer}, before.pointer = some current →
      current.versionId = some versionId → before.pointed = some versionId := by
    intro current hcurrent hversion
    rw [ProjectStorage.pointed, hcurrent]
    exact hversion
  -- A record that is written keeps its content.
  have hwritten : ∀ {other : String} {found : ProjectVersionRecord} {status : VersionStatus},
      before.versions.get? other = some found → status ≠ .gcPending →
      before.pointer = some pointer → ∃ record,
        (before.versions.insert other { found with status }).get? versionId = some record ∧
        record.status ≠ .gcPending ∧ pointer.objectKey = some record.objectKey ∧
        pointer.plaintextFingerprint = some record.plaintextFingerprint := by
    intro other found status hfound hstatus hcurrent
    obtain ⟨record, hrecord, hunmarked, hobject, hfingerprint⟩ :=
      hbefore.target pointer versionId hcurrent hnamed
    by_cases hsame : versionId = other
    · subst hsame
      obtain rfl : found = record := Option.some.inj (hfound.symm.trans hrecord)
      exact ⟨_, OrderedMap.get?_insert_self _ _ _, hstatus, hobject, hfingerprint⟩
    · exact ⟨record, by rwa [OrderedMap.get?_insert_of_ne _ hsame], hunmarked, hobject,
        hfingerprint⟩
  have hold := hbefore.target pointer versionId
  cases h with
  | same => exact hold hpointer hnamed
  | reprepared => exact hold hpointer hnamed
  | @prepared input _ status pointerVersion _ _ _ _ new _ _ _ =>
    obtain ⟨record, hrecord, hrest⟩ := hold hpointer hnamed
    refine ⟨record, ?_, hrest⟩
    refine (OrderedMap.get?_insert_of_ne _ (fun he => ?_) _).trans hrecord
    rw [he, new] at hrecord
    cases hrecord
  | stale found => exact hwritten found (by simp) hpointer
  | @moved input _ _ version _ _ found asks _ _ _ =>
    cases hpointer
    obtain rfl : input.next.versionId = versionId := Option.some.inj hnamed
    exact ⟨_, OrderedMap.get?_insert_self _ _ _, by simp, congrArg some asks.object.symm,
      congrArg some asks.fingerprint.symm⟩
  | @deleted input _ _ current _ found checked _ _ _ release =>
    obtain ⟨hsame, hversions⟩ := orphanCurrent_versions (assertPointer_versionId checked) release
    obtain rfl := Option.some.inj (hsame.symm.trans hpointer)
    obtain ⟨record, hrecord, -, hobject, hfingerprint⟩ :=
      hbefore.target current versionId found hnamed
    refine ⟨orphaned record, ?_, by simp [orphaned], hobject, hfingerprint⟩
    rw [hversions, if_pos hnamed]
    exact congrArg (Option.map orphaned) hrecord
  | @collecting input _ _ _ _ _ _ found _ unpointed _ =>
    obtain ⟨record, hrecord, hrest⟩ := hold hpointer hnamed
    refine ⟨record, ?_, hrest⟩
    refine (OrderedMap.get?_insert_of_ne _ (fun he => unpointed ?_) _).trans hrecord
    exact he ▸ hpointed hpointer hnamed
  | finished => exact hold hpointer hnamed
  | @collected input _ _ _ _ _ _ _ _ unpointed =>
    obtain ⟨record, hrecord, hrest⟩ := hold hpointer hnamed
    refine ⟨record, ?_, hrest⟩
    refine (OrderedMap.get?_erase_of_ne _ fun he => unpointed ?_).trans hrecord
    exact he ▸ hpointed hpointer hnamed

theorem ProjectStep.checked (h : ProjectStep binding now call before after)
    (hbefore : before.Checked (binding.map (·.workspaceId)) call.projectId) (hnow : natural now) :
    after.Checked (binding.map (·.workspaceId)) call.projectId where
  versions _ _ hrecord := h.checkedVersions hbefore hnow hrecord
  operations _ _ hfound := h.checkedOperations hbefore hnow hfound
  collections _ _ hfound := h.checkedCollections hbefore hnow hfound
  pointer _ hpointer := h.checkedPointer hbefore hnow hpointer
  target _ _ hpointer hnamed := h.checkedTarget hbefore hpointer hnamed

end Steps

/-! ## Runs -/

/-- The clock reads a natural number, and a session binds a bounded workspace. -/
def TimedCall.Proper (timed : TimedCall) : Prop :=
  natural timed.now ∧ ∀ workspaceId, timed.call = .bind workspaceId → boundedId workspaceId

theorem CoordinatorCall.Takes.checked {call : CoordinatorCall} {now : ℤ}
    {storage storage' : Storage} (h : call.Takes now storage storage') (hbefore : storage.Checked)
    (hnow : natural now) (hbind : ∀ workspaceId, call = .bind workspaceId → boundedId workspaceId) :
    storage'.Checked := by
  have hprojects : ∀ projectId, (storage'.projects projectId).Checked
      (storage.binding.map (·.workspaceId)) projectId := by
    intro projectId
    by_cases hproject : projectId = call.projectId
    · subst hproject
      exact h.step.checked (hbefore.projects call.projectId) hnow
    · exact h.others projectId hproject ▸ hbefore.projects projectId
  rcases h.binding with hsame | ⟨hunbound, workspaceId, hnamed, hbound⟩
  · rw [← hsame] at hprojects
    exact ⟨fun binding hbinding => hbefore.binding binding (hsame ▸ hbinding), hprojects⟩
  · rw [hunbound] at hprojects
    refine ⟨fun binding hbinding => ?_, fun projectId => (hprojects projectId).bind⟩
    obtain rfl := Option.some.inj (hbound.symm.trans hbinding)
    exact ⟨hnamed.elim (hbind workspaceId) id, hnow⟩

theorem runCalls_checked {sha256 : Json String → String}
    {localeCompare : String → String → Ordering} {calls : List TimedCall}
    (h : ∀ timed ∈ calls, timed.Proper) : (runCalls sha256 localeCompare calls).Checked := by
  induction calls using List.reverseRecOn with
  | nil => exact ⟨nofun, fun _ => .empty⟩
  | append_singleton calls timed ih =>
    obtain ⟨hnow, hbind⟩ := h timed (by simp)
    rw [runCalls_concat]
    exact (timed.call.apply_takes sha256 localeCompare timed.now _).checked
      (ih fun other hother => h other (by simp [hother])) hnow hbind

end Quillframe.Cloud
