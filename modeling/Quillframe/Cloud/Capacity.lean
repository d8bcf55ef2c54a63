import Quillframe.Cloud.Uploads

/-!
# Room for one more version

A project keeps a bounded number of versions and of preparations. What a collection can free are the
orphans that no pointer names and the versions that are marked, each with the preparation of its own
record. A project can be written again when the others leave room.
-/
namespace Quillframe.Cloud

open Transaction

variable {binding : Option WorkspaceBinding} {now : ℤ} {call : CoordinatorCall}
  {before after project : ProjectStorage}

/-! ## What a collection can free -/

/-- The version is marked, or it can be. -/
def ProjectStorage.Collectable (project : ProjectStorage) (entry : String × ProjectVersionRecord) :
    Prop :=
  entry.2.status = .gcPending ∨ entry.2.status = .orphan ∧ project.pointed ≠ some entry.1

instance (project : ProjectStorage) (entry : String × ProjectVersionRecord) :
    Decidable (project.Collectable entry) :=
  inferInstanceAs (Decidable (_ ∨ _))

/-- The versions that no collection can free. -/
def ProjectStorage.keptVersions (project : ProjectStorage) : List (String × ProjectVersionRecord) :=
  project.versions.entries.filter fun entry => ¬ project.Collectable entry

/-- The preparations that no collection can free. -/
def ProjectStorage.keptOperations (project : ProjectStorage) :
    List (String × ProjectVersionOperation) :=
  project.versionOperations.entries.filter fun operation =>
    ∀ entry ∈ project.versions.entries, project.Collectable entry →
      entry.2.operationId ≠ operation.1

/-- What no collection can free leaves room, and the pointer can still move. -/
structure ProjectStorage.Roomy (project : ProjectStorage) : Prop where
  versions : project.keptVersions.length < 256
  operations : project.keptOperations.length < 256
  pointer : project.currentVersion ≤ 2 ^ 31

def collectableVersions (project : ProjectStorage) : List (String × ProjectVersionRecord) :=
  project.versions.entries.filter fun entry => project.Collectable entry

theorem mem_keptVersions {entry : String × ProjectVersionRecord} :
    entry ∈ project.keptVersions ↔ entry ∈ project.versions.entries ∧ ¬ project.Collectable entry := by
  simp [ProjectStorage.keptVersions]

theorem mem_keptOperations {operation : String × ProjectVersionOperation} :
    operation ∈ project.keptOperations ↔ operation ∈ project.versionOperations.entries ∧
      ∀ entry ∈ project.versions.entries, project.Collectable entry →
        entry.2.operationId ≠ operation.1 := by
  simp only [ProjectStorage.keptOperations, List.mem_filter, decide_eq_true_eq]

/-! ## Collections -/

/-- Collections of a project that succeed, one after the other. -/
inductive Collects (localeCompare : String → String → Ordering) (projectId : String) :
    Storage → Storage → Prop where
  | done {storage : Storage} : Collects localeCompare projectId storage storage
  | begun {input : ProjectVersionGcInput} {now : ℤ} {receipt : ProjectVersionGcReceipt}
      {storage storage₁ storage₂ : Storage} (clock : natural now)
      (project : input.projectId = projectId)
      (result : beginProjectVersionGc localeCompare input now storage = .ok (receipt, storage₁))
      (rest : Collects localeCompare projectId storage₁ storage₂) :
      Collects localeCompare projectId storage storage₂
  | finished {input : ProjectVersionGcFinishInput} {now : ℤ} {receipt : ProjectVersionGcReceipt}
      {storage storage₁ storage₂ : Storage} (clock : natural now)
      (project : input.projectId = projectId)
      (result : finishProjectVersionGc input now storage = .ok (receipt, storage₁))
      (rest : Collects localeCompare projectId storage₁ storage₂) :
      Collects localeCompare projectId storage storage₂

theorem Collects.trans {localeCompare : String → String → Ordering} {projectId : String}
    {storage₁ storage₂ storage₃ : Storage} (h : Collects localeCompare projectId storage₁ storage₂)
    (h' : Collects localeCompare projectId storage₂ storage₃) :
    Collects localeCompare projectId storage₁ storage₃ := by
  induction h with
  | done => exact h'
  | begun clock project result _ ih => exact .begun clock project result (ih h')
  | finished clock project result _ ih => exact .finished clock project result (ih h')

/-- What a collection leaves alone. -/
structure Frees (before after : ProjectStorage) : Prop where
  pointer : after.pointer = before.pointer
  versions : ∀ entry ∈ before.versions.entries, ¬ before.Collectable entry →
    entry ∈ after.versions.entries ∧ ¬ after.Collectable entry
  operations : ∀ operation ∈ before.versionOperations.entries,
    (∀ entry ∈ before.versions.entries, before.Collectable entry →
      entry.2.operationId ≠ operation.1) →
    operation ∈ after.versionOperations.entries ∧
      ∀ entry ∈ after.versions.entries, after.Collectable entry →
        entry.2.operationId ≠ operation.1
  versionIds : ∀ versionId, before.versions.get? versionId = none →
    after.versions.get? versionId = none
  operationIds : ∀ operationId, before.versionOperations.get? operationId = none →
    after.versionOperations.get? operationId = none

theorem Frees.refl : Frees project project :=
  ⟨rfl, fun _ hentry hkept => ⟨hentry, hkept⟩, fun _ hoperation hkept => ⟨hoperation, hkept⟩,
    fun _ h => h, fun _ h => h⟩

theorem Frees.trans {last : ProjectStorage} (h : Frees before after) (h' : Frees after last) :
    Frees before last where
  pointer := h'.pointer.trans h.pointer
  versions entry hentry hkept := by
    obtain ⟨hafter, hfree⟩ := h.versions entry hentry hkept
    exact h'.versions entry hafter hfree
  operations operation hoperation hkept := by
    obtain ⟨hafter, hfree⟩ := h.operations operation hoperation hkept
    exact h'.operations operation hafter hfree
  versionIds versionId hnone := h'.versionIds versionId (h.versionIds versionId hnone)
  operationIds operationId hnone := h'.operationIds operationId (h.operationIds operationId hnone)

/-- Marking an orphan frees nothing yet. -/
theorem frees_marked {versionId : String} {version : ProjectVersionRecord}
    (hfound : project.versions.get? versionId = some version)
    (hcollectable : project.Collectable (versionId, version))
    {gcOperations : OrderedMap String ProjectVersionGcOperation} :
    Frees project { project with
      versions := project.versions.insert versionId { version with status := .gcPending }
      gcOperations } where
  pointer := rfl
  versions := by
    rintro ⟨other, record⟩ hentry hkept
    have hne : other ≠ versionId := by
      rintro rfl
      rw [OrderedMap.mem_entries, hfound, Option.some.injEq] at hentry
      exact hkept (hentry ▸ hcollectable)
    refine ⟨?_, hkept⟩
    rwa [OrderedMap.mem_entries, OrderedMap.get?_insert_of_ne _ hne, ← OrderedMap.mem_entries]
  operations := by
    rintro operation hoperation hkept
    refine ⟨hoperation, ?_⟩
    rintro ⟨other, record⟩ hentry hfree
    by_cases hsame : other = versionId
    · subst hsame
      rw [OrderedMap.mem_entries, OrderedMap.get?_insert_self, Option.some.injEq] at hentry
      exact hentry ▸ hkept (other, version) (OrderedMap.mem_entries.mpr hfound) hcollectable
    · rw [OrderedMap.mem_entries, OrderedMap.get?_insert_of_ne _ hsame, ← OrderedMap.mem_entries]
        at hentry
      exact hkept (other, record) hentry hfree
  versionIds other hnone := by
    have hne : other ≠ versionId := by
      rintro rfl
      rw [hfound] at hnone
      cases hnone
    rwa [OrderedMap.get?_insert_of_ne _ hne]
  operationIds _ hnone := hnone

/-- Removing a marked record frees it and its preparation. -/
theorem frees_erased {versionId : String} {version : ProjectVersionRecord}
    (hfound : project.versions.get? versionId = some version)
    (hcollectable : project.Collectable (versionId, version))
    {gcOperations : OrderedMap String ProjectVersionGcOperation} :
    Frees project { project with
      versions := project.versions.erase versionId
      versionOperations := project.versionOperations.erase version.operationId
      gcOperations } where
  pointer := rfl
  versions := by
    rintro ⟨other, record⟩ hentry hkept
    have hne : other ≠ versionId := by
      rintro rfl
      rw [OrderedMap.mem_entries, hfound, Option.some.injEq] at hentry
      exact hkept (hentry ▸ hcollectable)
    refine ⟨?_, hkept⟩
    rwa [OrderedMap.mem_entries, OrderedMap.get?_erase_of_ne _ hne, ← OrderedMap.mem_entries]
  operations := by
    rintro ⟨operationId, operation⟩ hoperation hkept
    have hne : operationId ≠ version.operationId :=
      (hkept (versionId, version) (OrderedMap.mem_entries.mpr hfound) hcollectable).symm
    refine ⟨?_, fun entry hentry hfree => hkept entry (List.mem_of_mem_filter hentry) hfree⟩
    rwa [OrderedMap.mem_entries, OrderedMap.get?_erase_of_ne _ hne, ← OrderedMap.mem_entries]
  versionIds other hnone := by
    by_cases hsame : other = versionId
    · rw [hsame, OrderedMap.get?_erase_self]
    · rwa [OrderedMap.get?_erase_of_ne _ hsame]
  operationIds other hnone := by
    by_cases hsame : other = version.operationId
    · rw [hsame, OrderedMap.get?_erase_self]
    · rwa [OrderedMap.get?_erase_of_ne _ hsame]

theorem ProjectStep.frees (h : ProjectStep binding now call before after)
    (hcall : (∃ input, call = .beginGc input) ∨ ∃ input, call = .finishGc input) :
    Frees before after := by
  cases h with
  | same => exact .refl
  | reprepared => simp at hcall
  | prepared => simp at hcall
  | stale => simp at hcall
  | moved => simp at hcall
  | deleted => simp at hcall
  | collecting _ _ found orphan unpointed _ => exact frees_marked found (.inr ⟨orphan, unpointed⟩)
  | finished => exact ⟨rfl, fun _ hentry hkept => ⟨hentry, hkept⟩,
      fun _ hoperation hkept => ⟨hoperation, hkept⟩, fun _ h => h, fun _ h => h⟩
  | collected _ _ _ stored pending _ => exact frees_erased stored (.inl pending)

theorem Collects.frees {localeCompare : String → String → Ordering} {projectId : String}
    {storage storage' : Storage} (h : Collects localeCompare projectId storage storage') :
    Frees (storage.projects projectId) (storage'.projects projectId) := by
  induction h with
  | done => exact .refl
  | begun _ project result _ ih =>
    subst project
    exact ((beginProjectVersionGc_takes result).step.frees (.inl ⟨_, rfl⟩)).trans ih
  | finished _ project result _ ih =>
    subst project
    exact ((finishProjectVersionGc_takes result).step.frees (.inr ⟨_, rfl⟩)).trans ih

/-! ## A full project -/

theorem Frees.keptVersions_length (h : Frees before after) :
    before.keptVersions.length ≤ after.versions.entries.length :=
  OrderedMap.length_le_of_mem (before.versions.nodup_entries.filter _) fun entry hentry => by
    obtain ⟨hbefore, hkept⟩ := mem_keptVersions.mp hentry
    exact (h.versions entry hbefore hkept).1

theorem Frees.keptOperations_length (h : Frees before after) :
    before.keptOperations.length ≤ after.versionOperations.entries.length :=
  OrderedMap.length_le_of_mem (before.versionOperations.nodup_entries.filter _)
    fun operation hoperation => by
      obtain ⟨hbefore, hkept⟩ := mem_keptOperations.mp hoperation
      exact (h.operations operation hbefore hkept).1

theorem Frees.currentVersion (h : Frees before after) :
    after.currentVersion = before.currentVersion := by
  rw [ProjectStorage.currentVersion, h.pointer]
  rfl

/-- New content needs room among the versions and among the preparations. -/
theorem Activates.room {storage : Storage} {input : ProjectVersionPreparationInput}
    {prepared moved : ℤ} (h : Activates storage input prepared moved)
    (hversion : (storage.projects input.projectId).versions.get? input.versionId = none)
    (hoperation : (storage.projects input.projectId).versionOperations.get? input.operationId =
      none) :
    (storage.projects input.projectId).versions.entries.length < 256 ∧
      (storage.projects input.projectId).versionOperations.entries.length < 256 ∧
      input.expectedPointerVersion ≤ 2 ^ 31 := by
  obtain ⟨receipt, storage₁, pointer, storage₂, hprepare, hcas, -⟩ := h
  simp only [prepareProjectVersion, hoperation, hversion, prepareNew, bind_eq_ok, require_eq_ok,
    exists_const] at hprepare
  obtain ⟨-, -, -, -, -, -, -, -, -, -, ⟨hversions, hoperations⟩, -⟩ := hprepare
  simp only [casProjectPointer, assertExpectedVersion, bind_eq_ok, require_eq_ok, exists_const]
    at hcas
  obtain ⟨_, -, ⟨-, hbounded⟩, -⟩ := hcas
  exact ⟨hversions, hoperations, hbounded⟩

/-! ## Collections that can finish -/

/-- Every marked version has a pending collection, and there is always one to finish when the
history of collections is full. -/
structure ProjectStorage.Finishing (project : ProjectStorage) : Prop where
  unpointed : project.Unpointed
  marked : ∀ versionId record, project.versions.get? versionId = some record →
    record.status = .gcPending → ∃ operationId operation,
      project.gcOperations.get? operationId = some operation ∧
      operation.versionId = versionId ∧ operation.receiptSnapshot.status = .pending
  bounded : project.gcOperations.entries.length ≤ 256
  prunable : project.gcOperations.entries.length < 256 ∨
    (∃ operationId operation, project.gcOperations.get? operationId = some operation ∧
      operation.receiptSnapshot.status = .completed) ∨
    ∃ versionId record, project.versions.get? versionId = some record ∧
      record.status = .gcPending

theorem ProjectStorage.Finishing.empty : ProjectStorage.empty.Finishing :=
  ⟨fun _ _ h => (nomatch h), fun _ _ h => (nomatch h), by decide, .inl (by decide)⟩

/-- Pruning a history of at most 256 collections makes room for one more. -/
theorem pruneGcOperations_length {localeCompare : String → String → Ordering}
    {operations kept : OrderedMap String ProjectVersionGcOperation}
    (h : pruneGcOperations localeCompare operations = .ok kept) :
    kept.entries.length ≤ 255 := by
  rw [pruneGcOperations] at h
  dsimp only at h
  split_ifs at h with hsize
  · rw [← Except.ok.inj h]
    omega
  · simp only [bind_eq_ok, require_eq_ok, pure_eq_ok] at h
    obtain ⟨-, hneeded, rfl⟩ := h
    have hperm := List.mergeSort_perm (operations.entries.filter fun entry =>
      entry.2.receiptSnapshot.status = .completed) fun left right =>
        left.2.createdAt < right.2.createdAt ||
          (left.2.createdAt = right.2.createdAt && localeCompare left.1 right.1 ≠ .gt)
    have hnodup := hperm.nodup_iff.mpr (operations.nodup_entries.filter _)
    have hlength := OrderedMap.length_eraseAll (m := operations)
      (hnodup.sublist (List.take_sublist (operations.entries.length - 255) _)) fun entry hentry =>
        List.mem_of_mem_filter (hperm.mem_iff.mp (List.mem_of_mem_take hentry))
    rw [List.length_take, min_eq_left hneeded] at hlength
    omega

theorem ProjectStep.finishing (h : ProjectStep binding now call before after)
    (hbefore : before.Finishing) : after.Finishing where
  unpointed := h.unpointed hbefore.unpointed
  marked versionId record hrecord hmarked := by
    rcases h.marked hrecord hmarked with hold | ⟨input, hcall, rfl, _, operation, -, -, -, -, -,
      hfound, hnamed, hpending⟩
    · obtain ⟨operationId, operation, hfound, rfl, hpending⟩ :=
        hbefore.marked versionId record hold hmarked
      rcases h.gc_kept hfound hpending with hkept | hgone
      · exact ⟨operationId, operation, hkept, rfl, hpending⟩
      · rw [hgone] at hrecord
        cases hrecord
    · exact ⟨input.operationId, operation, hfound, hnamed, hpending⟩
  bounded := by
    rcases h.gc_effect with hsame | ⟨_, _, _, operations, -, -, -, -, -, -, -, hroom, hafter⟩ |
      ⟨_, _, -, -, hfound, -, hafter⟩
    · exact hsame ▸ hbefore.bounded
    · rw [hafter]
      have hle := pruneGcOperations_length hroom
      exact (OrderedMap.length_insertEntry_le _ _ _).trans (by omega)
    · rw [hafter]
      exact (OrderedMap.length_insert_of_get? hfound).trans hbefore.bounded
  prunable := by
    rcases h.gc_effect with hsame | ⟨input, version, _, _, -, -, -, -, -, hmarked, -⟩ |
      ⟨input, finished, -, -, -, -, hafter⟩
    · rcases hbefore.prunable with hroom | hcompleted | ⟨versionId, record, hrecord, hmarked⟩
      · exact .inl (hsame ▸ hroom)
      · exact .inr (.inl (hsame ▸ hcompleted))
      · rcases h.stays hrecord hmarked (hbefore.unpointed _ _ hrecord hmarked)
          with hkept | ⟨-, -, -, hgone⟩
        · exact .inr (.inr ⟨versionId, record, hkept, hmarked⟩)
        · obtain ⟨input, operation, -, -, -, -, -, -, hcompleted, -⟩ := h.removes hrecord hgone
          exact .inr (.inl ⟨input.operationId, _, hcompleted, rfl⟩)
    · exact .inr (.inr ⟨_, _, hmarked, rfl⟩)
    · exact .inr (.inl ⟨input.operationId, _, by rw [hafter, OrderedMap.get?_insert_self], rfl⟩)

section Collecting

variable {storage : Storage} {owner : Option String} {projectId versionId operationId : String}
  {record : ProjectVersionRecord} {localeCompare : String → String → Ordering}

/-- The project without a collected version. -/
def ProjectStorage.collected (project : ProjectStorage) (versionId : String)
    (record : ProjectVersionRecord) (gcOperations : OrderedMap String ProjectVersionGcOperation) :
    ProjectStorage :=
  { project with
    versions := project.versions.erase versionId
    versionOperations := project.versionOperations.erase record.operationId
    gcOperations }

theorem finishProjectVersionGc_ok (now : ℤ)
    (h : (storage.projects projectId).Checked owner projectId)
    (hfound : (storage.projects projectId).versions.get? versionId = some record)
    (hmarked : record.status = .gcPending)
    (hunpointed : (storage.projects projectId).pointed ≠ some versionId)
    {operation : ProjectVersionGcOperation}
    (hoperation : (storage.projects projectId).gcOperations.get? operationId = some operation)
    (hnamed : operation.versionId = versionId) :
    ∃ receipt, finishProjectVersionGc ⟨projectId, versionId, operationId, true⟩ now storage =
      .ok (receipt, storage.setProject projectId ((storage.projects projectId).collected versionId
        record ((storage.projects projectId).gcOperations.insert operationId
          (operation.completed now)))) := by
  have hchecked := h.collections operationId operation hoperation
  obtain ⟨⟨-, hbounded, hproject, hversion, -⟩, hreceipt⟩ :=
    assertProjectVersionGcOperation_eq_ok.mp hchecked
  rw [hproject] at hbounded
  rw [hnamed] at hversion hreceipt
  have hid : boundedId operationId := by
    simp only [ProjectVersionGcReceipt.valid, Bool.and_eq_true, decide_eq_true_eq] at hreceipt
    exact hreceipt.1.1.1.1.1.1.1.1.1.1 ▸ hreceipt.1.1.1.1.1.2
  have hunreferenced : checkUnreferenced ⟨projectId, versionId, operationId, true⟩
      (storage.projects projectId) = .ok () := by
    rw [checkUnreferenced]
    cases hpointer : (storage.projects projectId).pointer with
    | none => rfl
    | some pointer =>
      rw [ProjectStorage.pointed, hpointer] at hunpointed
      simp only [bind_eq_ok, require_eq_ok]
      exact ⟨(), (h.pointer pointer hpointer).1, hunpointed⟩
  have hpreparation : checkPreparation ⟨projectId, versionId, operationId, true⟩ record
      (storage.projects projectId) = .ok () := by
    rw [checkPreparation]
    cases hprepared : (storage.projects projectId).versionOperations.get? record.operationId with
    | none => rfl
    | some preparation => exact h.operations _ preparation hprepared
  have hremoved : removeCollected ⟨projectId, versionId, operationId, true⟩
      (storage.projects projectId) = .ok ((storage.projects projectId).collected versionId record
        (storage.projects projectId).gcOperations) := by
    simp only [removeCollected, hfound, bind_eq_ok, require_eq_ok, pure_eq_ok, exists_const]
    exact ⟨(), (h.versions versionId record hfound).1, hmarked, (), hunreferenced, (),
      hpreparation, rfl⟩
  refine ⟨{ operation.receiptSnapshot with status := .completed }, ?_⟩
  simp only [finishProjectVersionGc, bind_eq_ok, fetch_eq_ok, require_eq_ok, exists_const,
    Bool.true_eq_false, if_false, pure_eq_ok]
  exact ⟨⟨hbounded, hversion, hid⟩, operation, hoperation, (), hchecked, hnamed, _, hremoved,
    (), require_eq_ok.mpr hreceipt, rfl⟩

theorem pruneGcOperations_ok {operations : OrderedMap String ProjectVersionGcOperation}
    (hbounded : operations.entries.length ≤ 256)
    (h : operations.entries.length < 256 ∨ ∃ operationId operation,
      operations.get? operationId = some operation ∧
      operation.receiptSnapshot.status = .completed) :
    ∃ kept, pruneGcOperations localeCompare operations = .ok kept := by
  rw [pruneGcOperations]
  dsimp only
  split_ifs with hsize
  · exact ⟨operations, rfl⟩
  · obtain ⟨operationId, operation, hfound, hcompleted⟩ := h.resolve_left hsize
    have hmem : (operationId, operation) ∈ operations.entries.filter fun entry =>
        entry.2.receiptSnapshot.status = .completed :=
      List.mem_filter.mpr ⟨OrderedMap.mem_entries.mpr hfound, by simpa using hcompleted⟩
    simp only [bind_eq_ok, require_eq_ok, pure_eq_ok]
    refine ⟨_, (), ?_, rfl⟩
    rw [List.length_mergeSort]
    have hpos := List.length_pos_of_mem hmem
    omega

theorem ProjectStorage.Checked.checkGcOperations (h : project.Checked owner projectId) :
    checkGcOperations project projectId = .ok () := by
  rw [Cloud.checkGcOperations, forEach_unit_eq_ok]
  rintro ⟨operationId, operation⟩ hentry
  have hchecked := h.collections operationId operation (OrderedMap.mem_entries.mp hentry)
  obtain ⟨-, hreceipt⟩ := assertProjectVersionGcOperation_eq_ok.mp hchecked
  simp only [ProjectVersionGcReceipt.valid, Bool.and_eq_true, decide_eq_true_eq] at hreceipt
  have hid : boundedId operationId := hreceipt.1.1.1.1.1.1.1.1.1.1 ▸ hreceipt.1.1.1.1.1.2
  simp [boundedId_ne_empty hid, hchecked]

theorem beginProjectVersionGc_ok (localeCompare : String → String → Ordering) (now : ℤ)
    (h : storage.Checked)
    (hfound : (storage.projects projectId).versions.get? versionId = some record)
    (horphan : record.status = .orphan)
    (hunpointed : (storage.projects projectId).pointed ≠ some versionId)
    (hid : boundedId operationId)
    (hfresh : (storage.projects projectId).gcOperations.get? operationId = none)
    (hroom : ∃ kept, pruneGcOperations localeCompare (storage.projects projectId).gcOperations =
      .ok kept) :
    ∃ receipt operations operation, operation.versionId = versionId ∧
      beginProjectVersionGc localeCompare ⟨projectId, versionId, operationId, record.createdAt⟩ now
        storage = .ok (receipt, storage.setProject projectId { storage.projects projectId with
          versions := (storage.projects projectId).versions.insert versionId
            { record with status := .gcPending }
          gcOperations := OrderedMap.insert operations operationId operation }) := by
  obtain ⟨kept, hkept⟩ := hroom
  have hproject := h.projects projectId
  obtain ⟨hchecked, howner⟩ := hproject.versions versionId record hfound
  obtain ⟨binding, hbinding, hworkspace⟩ := Option.map_eq_some_iff.mp howner
  obtain ⟨⟨hnamed, hversion, hcreated, -⟩, hvalid⟩ := assertProjectVersionRecord_eq_ok.mp hchecked
  obtain ⟨-, -, -, hbounded, -, hfingerprint, -⟩ :=
    ProjectVersionPreparationInput.valid_iff.mp hvalid
  rw [hnamed] at hbounded
  rw [hversion] at hfingerprint
  have hbound : requireWorkspaceBinding storage.binding none = .ok binding := by
    simp only [requireWorkspaceBinding, assertWorkspaceBinding, bind_eq_ok, fetch_eq_ok,
      require_eq_ok, pure_eq_ok, exists_const]
    exact ⟨binding, hbinding, ⟨h.binding binding hbinding, fun _ hnone => by cases hnone⟩, rfl⟩
  have heligible : checkGcEligible ⟨projectId, versionId, operationId, record.createdAt⟩ binding
      record (storage.projects projectId) = .ok () := by
    simp only [checkGcEligible, bind_eq_ok, require_eq_ok, exists_const]
    refine ⟨(), hchecked, hworkspace.symm, horphan, le_rfl, ?_⟩
    cases hpointer : (storage.projects projectId).pointer with
    | none => rfl
    | some pointer =>
      obtain ⟨hpointerChecked, hpointerOwner⟩ := hproject.pointer pointer hpointer
      obtain ⟨owner, hrequired, -⟩ := h.requireBinding hpointerOwner
      rw [ProjectStorage.pointed, hpointer] at hunpointed
      simp only [bind_eq_ok, require_eq_ok]
      exact ⟨(), hpointerChecked, owner, hbinding ▸ hrequired, hunpointed⟩
  let receipt := gcReceipt ⟨projectId, versionId, operationId, record.createdAt⟩ record
  refine ⟨receipt, kept, ⟨operationId, projectId, versionId, record.createdAt, receipt, now⟩, rfl, ?_⟩
  simp only [beginProjectVersionGc, hfresh, bind_eq_ok, fetch_eq_ok, require_eq_ok, pure_eq_ok,
    exists_const]
  exact ⟨⟨hbounded, hfingerprint, hid, hcreated⟩, binding, hbound, record, hfound, (),
    heligible, (), hproject.checkGcOperations, kept, hkept, rfl⟩

/-- Names for collections, more of them than a history holds. -/
def spareId (n : ℕ) : String :=
  String.ofList [Char.ofNat (97 + n / 26), Char.ofNat (97 + n % 26)]

theorem spareId_inj {m n : ℕ} (hm : m < 300) (hn : n < 300) (h : spareId m = spareId n) :
    m = n := by
  have hchar : ∀ k < 300, (Char.ofNat k).toNat = k := by
    intro k hk
    rw [Char.ofNat, dif_pos (Or.inl (by omega))]
    rfl
  have hchars := String.ofList_injective h
  simp only [List.cons.injEq, and_true] at hchars
  have hfirst := congrArg Char.toNat hchars.1
  have hlast := congrArg Char.toNat hchars.2
  rw [hchar _ (by omega), hchar _ (by omega)] at hfirst hlast
  omega

theorem nodup_spareIds {count : ℕ} (h : count ≤ 300) : ((List.range count).map spareId).Nodup :=
  List.nodup_range.map_on fun _ hm _ hn hsame =>
    spareId_inj ((List.mem_range.mp hm).trans_le h) ((List.mem_range.mp hn).trans_le h) hsame

theorem spareId_spec : ∀ n < 300,
    boundedId (spareId n) ∧ spareId n ≠ "upload-1" ∧ spareId n ≠ "upload-2" := by
  decide +kernel

theorem boundedId_spareId : ∀ n < 300, boundedId (spareId n) := fun n hn => (spareId_spec n hn).1

theorem spareId_ne_upload : ∀ n < 300, spareId n ≠ "upload-1" :=
  fun n hn => (spareId_spec n hn).2.1

theorem spareId_ne_other : ∀ n < 300, spareId n ≠ "upload-2" :=
  fun n hn => (spareId_spec n hn).2.2

theorem exists_fresh_id {operations : OrderedMap String ProjectVersionGcOperation}
    (h : operations.entries.length ≤ 256) :
    ∃ operationId, boundedId operationId ∧ operations.get? operationId = none := by
  by_contra hall
  push Not at hall
  have hsubset : (List.range 300).map spareId ⊆ operations.keys := fun operationId hid => by
    obtain ⟨n, hn, rfl⟩ := List.mem_map.mp hid
    have hsome := hall _ (boundedId_spareId n (List.mem_range.mp hn))
    exact OrderedMap.mem_iff.mp (OrderedMap.mem_iff_get?.mpr (Option.isSome_iff_ne_none.mpr hsome))
  have hle := ((nodup_spareIds le_rfl).subperm hsubset).length_le
  simp only [List.length_map, List.length_range, OrderedMap.keys] at hle
  omega

theorem Storage.setProject_self {project : ProjectStorage} :
    (storage.setProject projectId project).projects projectId = project :=
  Function.update_self _ _ _

theorem natural_zero : natural 0 := by decide

/-- A version that is collectable is collected, unless the history is full of other versions. -/
theorem collects_one (localeCompare : String → String → Ordering) (h : storage.Checked)
    (hfinishing : (storage.projects projectId).Finishing)
    (hfound : (storage.projects projectId).versions.get? versionId = some record)
    (hcollectable : (storage.projects projectId).Collectable (versionId, record))
    (hready : record.status = .gcPending ∨ ∀ other marked,
      (storage.projects projectId).versions.get? other = some marked → marked.status ≠ .gcPending) :
    ∃ storage' gcOperations, Collects localeCompare projectId storage storage' ∧
      storage'.Checked ∧ (storage'.projects projectId).Finishing ∧
      storage'.binding = storage.binding ∧ storage'.projects projectId =
        (storage.projects projectId).collected versionId record gcOperations := by
  by_cases hmarked : record.status = .gcPending
  · obtain ⟨operationId, operation, hoperation, hnamed, -⟩ :=
      hfinishing.marked versionId record hfound hmarked
    obtain ⟨receipt, hresult⟩ := finishProjectVersionGc_ok 0 (h.projects projectId) hfound
      hmarked (hfinishing.unpointed versionId record hfound hmarked) hoperation hnamed
    have htakes := finishProjectVersionGc_takes hresult
    exact ⟨_, _, .finished natural_zero rfl hresult .done,
      htakes.checked h natural_zero nofun, htakes.step.finishing hfinishing, rfl,
      Storage.setProject_self⟩
  · obtain ⟨horphan, hunpointed⟩ := hcollectable.resolve_left hmarked
    have hprunable := hfinishing.prunable.imp_right fun hor => hor.resolve_right
      fun ⟨other, marked, hother, hpending⟩ => hready.resolve_left hmarked other marked hother hpending
    obtain ⟨operationId, hid, hfresh⟩ := exists_fresh_id hfinishing.bounded
    obtain ⟨receipt, operations, operation, hnamed, hbegun⟩ :=
      beginProjectVersionGc_ok localeCompare 0 h hfound horphan hunpointed hid hfresh
        (pruneGcOperations_ok hfinishing.bounded hprunable)
    have hbegunTakes := beginProjectVersionGc_takes hbegun
    have hchecked := hbegunTakes.checked h natural_zero nofun
    have hmiddle := hbegunTakes.step.finishing hfinishing
    -- The collection that began finishes.
    obtain ⟨receipt', hfinished⟩ := @finishProjectVersionGc_ok _ _ projectId versionId operationId
      { record with status := .gcPending } 0 (hchecked.projects projectId)
      (by rw [Storage.setProject_self, OrderedMap.get?_insert_self]) rfl
      (by rw [Storage.setProject_self]; exact hunpointed) operation
      (by rw [Storage.setProject_self, OrderedMap.get?_insert_self]) hnamed
    have hfinishedTakes := finishProjectVersionGc_takes hfinished
    refine ⟨_, (operations.insert operationId operation).insert operationId
        (operation.completed 0), .begun natural_zero rfl hbegun (.finished natural_zero rfl hfinished .done),
      hfinishedTakes.checked hchecked natural_zero nofun, hfinishedTakes.step.finishing hmiddle,
      rfl, ?_⟩
    rw [Storage.setProject_self, Storage.setProject_self]
    simp only [ProjectStorage.collected, OrderedMap.erase_insert_self]

end Collecting

/-! ## Collecting everything that can be collected -/

theorem collected_keptVersions {versionId : String} {record : ProjectVersionRecord}
    {gcOperations : OrderedMap String ProjectVersionGcOperation} :
    (project.collected versionId record gcOperations).keptVersions ⊆ project.keptVersions := by
  intro entry hentry
  obtain ⟨hmem, hkept⟩ := mem_keptVersions.mp hentry
  exact mem_keptVersions.mpr ⟨List.mem_of_mem_filter hmem, hkept⟩

theorem collected_keptOperations {versionId : String} {record : ProjectVersionRecord}
    (hfound : project.versions.get? versionId = some record)
    {gcOperations : OrderedMap String ProjectVersionGcOperation} :
    (project.collected versionId record gcOperations).keptOperations ⊆ project.keptOperations := by
  intro operation hoperation
  obtain ⟨hmem, hkept⟩ := mem_keptOperations.mp hoperation
  obtain ⟨hold, hne⟩ := List.mem_filter.mp hmem
  refine mem_keptOperations.mpr ⟨hold, fun entry hentry hcollectable => ?_⟩
  by_cases hsame : entry.1 = versionId
  · have hrecord : entry.2 = record := by
      have hget : project.versions.get? entry.1 = some entry.2 := OrderedMap.mem_entries.mp hentry
      rw [hsame, hfound, Option.some.injEq] at hget
      exact hget.symm
    rw [hrecord]
    simpa using Ne.symm (of_decide_eq_true hne)
  · exact hkept entry (List.mem_filter.mpr ⟨hentry, by simpa using hsame⟩) hcollectable

theorem collected_collectableVersions {versionId : String} {record : ProjectVersionRecord}
    (gcOperations : OrderedMap String ProjectVersionGcOperation)
    (hfound : project.versions.get? versionId = some record)
    (hcollectable : project.Collectable (versionId, record)) :
    (collectableVersions (project.collected versionId record gcOperations)).length <
      (collectableVersions project).length := by
  have hfilter : collectableVersions (project.collected versionId record gcOperations) =
      (collectableVersions project).filter fun entry => entry.1 ≠ versionId := by
    simp only [collectableVersions, ProjectStorage.collected, OrderedMap.erase, List.filter_filter]
    refine List.filter_congr fun entry _ => ?_
    rw [Bool.and_comm]
    rfl
  rw [hfilter, List.length_filter_lt_length_iff_exists]
  exact ⟨(versionId, record), List.mem_filter.mpr ⟨OrderedMap.mem_entries.mpr hfound,
    decide_eq_true hcollectable⟩, by simp⟩

/-- Every version that can be collected is. -/
theorem collects_all (localeCompare : String → String → Ordering) (projectId : String) (n : ℕ) :
    ∀ storage : Storage, storage.Checked → (storage.projects projectId).Finishing →
      (collectableVersions (storage.projects projectId)).length ≤ n →
      ∃ storage', Collects localeCompare projectId storage storage' ∧ storage'.Checked ∧
        storage'.binding = storage.binding ∧
        collectableVersions (storage'.projects projectId) = [] ∧
        (storage'.projects projectId).keptVersions ⊆ (storage.projects projectId).keptVersions ∧
        (storage'.projects projectId).keptOperations ⊆
          (storage.projects projectId).keptOperations := by
  induction n with
  | zero =>
    intro storage h hfinishing hlength
    exact ⟨storage, .done, h, rfl, List.eq_nil_of_length_eq_zero (by omega), fun _ he => he,
      fun _ he => he⟩
  | succ n ih =>
    intro storage h hfinishing hlength
    by_cases hempty : collectableVersions (storage.projects projectId) = []
    · exact ⟨storage, .done, h, rfl, hempty, fun _ he => he, fun _ he => he⟩
    · -- A marked version is collected first: its collection can always finish.
      obtain ⟨versionId, record, hfound, hcollectable, hready⟩ : ∃ versionId record,
          (storage.projects projectId).versions.get? versionId = some record ∧
          (storage.projects projectId).Collectable (versionId, record) ∧
          (record.status = .gcPending ∨ ∀ other marked,
            (storage.projects projectId).versions.get? other = some marked →
            marked.status ≠ .gcPending) := by
        by_cases hmarked : ∃ versionId record,
            (storage.projects projectId).versions.get? versionId = some record ∧
            record.status = .gcPending
        · obtain ⟨versionId, record, hfound, hpending⟩ := hmarked
          exact ⟨versionId, record, hfound, .inl hpending, .inl hpending⟩
        · push Not at hmarked
          obtain ⟨⟨versionId, record⟩, hentry⟩ := List.exists_mem_of_ne_nil _ hempty
          obtain ⟨hmem, hcollectable⟩ := List.mem_filter.mp hentry
          exact ⟨versionId, record, OrderedMap.mem_entries.mp hmem,
            of_decide_eq_true hcollectable, .inr hmarked⟩
      obtain ⟨storage₁, gcOperations, hcollects, h₁, hfinishing₁, hbinding₁, hproject₁⟩ :=
        collects_one localeCompare h hfinishing hfound hcollectable hready
      have hless := collected_collectableVersions gcOperations hfound hcollectable
      rw [← hproject₁] at hless
      obtain ⟨storage₂, hcollects₂, h₂, hbinding₂, hempty₂, hversions₂, hoperations₂⟩ :=
        ih storage₁ h₁ hfinishing₁ (by omega)
      rw [hproject₁] at hversions₂ hoperations₂
      exact ⟨storage₂, hcollects.trans hcollects₂, h₂, hbinding₂.trans hbinding₁, hempty₂,
        fun _ he => collected_keptVersions (hversions₂ he),
        fun _ he => collected_keptOperations hfound (hoperations₂ he)⟩

/-! ## Writing a project again -/

section Writing

variable {sha256 : Json String → String} {localeCompare : String → String → Ordering}
  {calls : List TimedCall} {input : ProjectVersionPreparationInput} {prepared moved : ℤ}

theorem runCalls_finishing (calls : List TimedCall) (projectId : String) :
    (projectAfter sha256 localeCompare projectId calls).Finishing := by
  induction calls using List.reverseRecOn with
  | nil => exact .empty
  | append_singleton calls timed ih =>
    rcases projectAfter_step sha256 localeCompare projectId calls timed
      with ⟨-, _, hstep⟩ | ⟨-, hsame⟩
    · exact hstep.finishing ih
    · exact hsame ▸ ih

/-- Collections make room for new content only where what they cannot free leaves some. -/
theorem roomy_of_activates {storage storage' : Storage}
    (hcollects : Collects localeCompare input.projectId storage storage')
    (hactivates : Activates storage' input prepared moved)
    (hnew : (storage.projects input.projectId).versions.get? input.versionId = none)
    (hfresh : (storage.projects input.projectId).versionOperations.get? input.operationId = none)
    (hexpected : input.expectedPointerVersion =
      (storage.projects input.projectId).currentVersion) :
    (storage.projects input.projectId).Roomy := by
  have hfrees := hcollects.frees
  obtain ⟨hversions, hoperations, hbounded⟩ := hactivates.room
    (hfrees.versionIds _ hnew) (hfrees.operationIds _ hfresh)
  exact ⟨hfrees.keptVersions_length.trans_lt hversions,
    hfrees.keptOperations_length.trans_lt hoperations, hexpected ▸ hbounded⟩

/-- When nothing is left to collect, everything that is stored is kept. -/
theorem length_of_collected {project : ProjectStorage} (h : collectableVersions project = []) :
    project.versions.entries.length = project.keptVersions.length ∧
      project.versionOperations.entries.length = project.keptOperations.length := by
  have hnone : ∀ entry ∈ project.versions.entries, ¬ project.Collectable entry := by
    intro entry hentry hcollectable
    have hmem : entry ∈ collectableVersions project :=
      List.mem_filter.mpr ⟨hentry, decide_eq_true hcollectable⟩
    rw [h] at hmem
    cases hmem
  constructor
  · rw [ProjectStorage.keptVersions, List.filter_eq_self.mpr fun entry hentry =>
      decide_eq_true (hnone entry hentry)]
  · rw [ProjectStorage.keptOperations, List.filter_eq_self.mpr fun operation _ =>
      decide_eq_true fun entry hentry hcollectable => absurd hcollectable (hnone entry hentry)]

/-- New content can be written at the current version of the pointer, after some collections,
exactly when the versions and the preparations that no collection can free leave room. -/
theorem project_writable_iff (hcalls : ∀ timed ∈ calls, timed.Proper) (hvalid : input.valid)
    (hprepared : natural prepared) (hmoved : natural moved)
    (howner : (runCalls sha256 localeCompare calls).binding.map (·.workspaceId) =
      some input.workspaceId)
    (hnew : (projectAfter sha256 localeCompare input.projectId calls).versions.get?
      input.versionId = none)
    (hfresh : (projectAfter sha256 localeCompare input.projectId calls).versionOperations.get?
      input.operationId = none)
    (hexpected : input.expectedPointerVersion =
      (projectAfter sha256 localeCompare input.projectId calls).currentVersion) :
    (∃ storage, Collects localeCompare input.projectId (runCalls sha256 localeCompare calls)
        storage ∧ Activates storage input prepared moved) ↔
      (projectAfter sha256 localeCompare input.projectId calls).Roomy := by
  constructor
  · rintro ⟨storage, hcollects, hactivates⟩
    exact roomy_of_activates hcollects hactivates hnew hfresh hexpected
  · intro hroomy
    obtain ⟨storage, hcollects, hchecked, hbinding, hempty, hversions, hoperations⟩ :=
      collects_all localeCompare input.projectId _ _ (runCalls_checked hcalls)
        (runCalls_finishing calls input.projectId) le_rfl
    have hfrees := hcollects.frees
    obtain ⟨hversionsLength, hoperationsLength⟩ := length_of_collected hempty
    have hkeptVersions := ((storage.projects input.projectId).versions.nodup_entries.filter _
      |>.subperm hversions).length_le
    have hkeptOperations := ((storage.projects
      input.projectId).versionOperations.nodup_entries.filter _ |>.subperm hoperations).length_le
    refine ⟨storage, hcollects, activates_new hchecked
      (ProjectVersionPreparationInput.valid_iff.mp hvalid) hprepared hmoved (hbinding ▸ howner)
      (hfrees.operationIds _ hfresh) (hfrees.versionIds _ hnew) ?_ ?_ ?_ ?_⟩
    · rw [hversionsLength]
      exact hkeptVersions.trans_lt hroomy.versions
    · rw [hoperationsLength]
      exact hkeptOperations.trans_lt hroomy.operations
    · exact hexpected.trans hfrees.currentVersion.symm
    · exact hfrees.currentVersion ▸ hroomy.pointer

end Writing

/-! ## A full history of preparations -/

namespace Sample

/-- The first version is prepared again and again. -/
def repeated (count : ℕ) : List TimedCall :=
  preparedOnly ++ (List.range count).map fun n => ⟨.prepare (upload (spareId n) firstVersion), 3⟩

end Sample

open Sample in
theorem project_writable_iff_sample :
    ∃ storage, Collects compare "novel" (runCalls (fun _ => "") compare preparedOnly) storage ∧
      Activates storage (upload "upload-2" lateVersion) 3 4 := by
  have hproper : ∀ timed ∈ preparedOnly, timed.Proper := by
    simp [preparedOnly, TimedCall.Proper]
    decide
  obtain ⟨howner, hnew, hfresh, hcurrent, hversions, hoperations⟩ :
      (runCalls (fun _ => "") compare preparedOnly).binding.map (·.workspaceId) = some "studio" ∧
      ((projectAfter (fun _ => "") compare "novel" preparedOnly).versions.get?
        lateVersion).isNone ∧
      ((projectAfter (fun _ => "") compare "novel" preparedOnly).versionOperations.get?
        "upload-2").isNone ∧
      (0 = (projectAfter (fun _ => "") compare "novel" preparedOnly).currentVersion) ∧
      (projectAfter (fun _ => "") compare "novel" preparedOnly).keptVersions.length < 256 ∧
      (projectAfter (fun _ => "") compare "novel" preparedOnly).keptOperations.length < 256 := by
    decide +kernel
  have hvalid : (upload "upload-2" lateVersion).valid := by decide +kernel
  exact (project_writable_iff hproper hvalid (by decide) (by decide) howner
    (Option.isNone_iff_eq_none.mp hnew) (Option.isNone_iff_eq_none.mp hfresh) hcurrent).mpr
      ⟨hversions, hoperations, hcurrent ▸ by decide⟩

open Sample in
theorem upload_valid {operationId : String} (h : boundedId operationId) :
    (upload operationId firstVersion).Valid := by
  have hversion : versionFingerprint firstVersion := by decide +kernel
  exact ⟨h, hversion, (by decide : boundedId "studio"), (by decide : boundedProjectId "novel"),
    (by decide : natural 0), hversion, boundedPointerRef_of_versionFingerprint hversion, hversion,
    (by decide : validByteSize 1)⟩

open Sample in
theorem repeated_proper (count : ℕ) : ∀ timed ∈ repeated count, timed.Proper := by
  have hfirst : ∀ timed ∈ preparedOnly, timed.Proper := by
    simp [preparedOnly, TimedCall.Proper]
    decide
  intro timed htimed
  rcases List.mem_append.mp htimed with hbefore | hagain
  · exact hfirst timed hbefore
  · obtain ⟨n, -, rfl⟩ := List.mem_map.mp hagain
    exact ⟨(by decide : natural 3), fun _ hcall => by cases hcall⟩

open Sample in
/-- Every preparation of a known version takes a place. -/
theorem repeated_operations (count : ℕ) (hcount : count ≤ 255) :
    let project := projectAfter (fun _ => "") compare "novel" (repeated count)
    project.pointer = none ∧
      project.versions.entries = [(firstVersion, ⟨upload "upload-1" firstVersion, .prepared, 2, 0⟩)] ∧
      project.versionOperations.entries.length ≤ count + 1 ∧
      ∀ operationId, operationId ∈ project.versionOperations ↔
        operationId = "upload-1" ∨ ∃ n < count, operationId = spareId n := by
  induction count with
  | zero =>
    obtain ⟨hpointer, hversions, hkeys⟩ :
        (projectAfter (fun _ => "") compare "novel" preparedOnly).pointer = none ∧
        (projectAfter (fun _ => "") compare "novel" preparedOnly).versions.entries =
          [(firstVersion, ⟨upload "upload-1" firstVersion, .prepared, 2, 0⟩)] ∧
        (projectAfter (fun _ => "") compare "novel" preparedOnly).versionOperations.keys =
          ["upload-1"] := by decide +kernel
    have hzero : repeated 0 = preparedOnly := List.append_nil _
    rw [hzero]
    refine ⟨hpointer, hversions, ?_, fun operationId => ?_⟩
    · have hlength := congrArg List.length hkeys
      rw [OrderedMap.keys, List.length_map] at hlength
      rw [hlength]
      rfl
    · simp [OrderedMap.mem_iff, hkeys]
  | succ count ih =>
    obtain ⟨hpointer, hversions, hlength, hnames⟩ := ih (by omega)
    have hlist : repeated (count + 1) = repeated count ++
        [⟨.prepare (upload (spareId count) firstVersion), 3⟩] := by
      simp [repeated, List.range_succ]
    have hchecked := @runCalls_checked (fun _ => "") compare _ (repeated_proper count)
    have hproject := hchecked.projects "novel"
    have hfound : (projectAfter (fun _ => "") compare "novel" (repeated count)).versions.get?
        firstVersion = some ⟨upload "upload-1" firstVersion, .prepared, 2, 0⟩ := by
      rw [← OrderedMap.mem_entries, hversions]
      exact List.mem_singleton_self _
    have hfresh : (projectAfter (fun _ => "") compare "novel"
        (repeated count)).versionOperations.get? (spareId count) = none := by
      have hnot : spareId count ∉ (projectAfter (fun _ => "") compare "novel"
          (repeated count)).versionOperations := by
        rw [hnames]
        rintro (hsame | ⟨n, hn, hsame⟩)
        · exact spareId_ne_upload count (by omega) hsame
        · have hn' := spareId_inj (by omega) (by omega) hsame
          omega
      rwa [OrderedMap.mem_iff_get?, Bool.not_eq_true, Option.isSome_eq_false_iff,
        Option.isNone_iff_eq_none] at hnot
    have hcurrent : (0 : ℤ) = (projectAfter (fun _ => "") compare "novel"
        (repeated count)).currentVersion := by
      rw [ProjectStorage.currentVersion, hpointer]
      rfl
    have hroom : (projectAfter (fun _ => "") compare "novel"
        (repeated count)).versionOperations.entries.length < 256 := by omega
    obtain ⟨receipt, hreceives, hprepare⟩ := @prepareExisting_ok _ _
      (upload (spareId count) firstVersion) 3 _ hproject hfound (by decide)
      (by simp [ProjectVersionPreparationInput.sameIdentity, upload]) hroom
    rw [← prepareProjectVersion_eq_existing hchecked
      (upload_valid (boundedId_spareId count (by omega))) (hproject.versions _ _ hfound).2 hfresh
      hcurrent hfound] at hprepare
    have hafter : projectAfter (fun _ => "") compare "novel" (repeated (count + 1)) =
        (projectAfter (fun _ => "") compare "novel" (repeated count)).recordOperation receipt 3 := by
      rw [hlist, projectAfter, runCalls_concat, CoordinatorCall.apply, hprepare]
      exact Storage.setProject_self
    have hname : receipt.operationId = spareId count :=
      congrArg ProjectVersionPreparationInput.operationId hreceives
    rw [hafter]
    refine ⟨hpointer, hversions, ?_, fun operationId => ?_⟩
    · exact (OrderedMap.length_insertEntry_le _ _ _).trans (by omega)
    · simp only [ProjectStorage.recordOperation, OrderedMap.mem_insert, hnames, hname,
        Nat.lt_succ_iff_lt_or_eq]
      constructor
      · rintro (rfl | rfl | ⟨n, hn, rfl⟩)
        · exact .inr ⟨count, .inr rfl, rfl⟩
        · exact .inl rfl
        · exact .inr ⟨n, .inl hn, rfl⟩
      · rintro (rfl | ⟨n, hn | rfl, rfl⟩)
        · exact .inr (.inl rfl)
        · exact .inr (.inr ⟨n, hn, rfl⟩)
        · exact .inl rfl

open Sample in
/-- With 256 preparations of one version there is no room for another. -/
theorem not_activates_of_full {calls : List TimedCall}
    (hpointer : (projectAfter (fun _ => "") compare "novel" calls).pointer = none)
    (hversions : (projectAfter (fun _ => "") compare "novel" calls).versions.entries =
      [(firstVersion, ⟨upload "upload-1" firstVersion, .prepared, 2, 0⟩)])
    (hnames : ∀ operationId, operationId ∈
        (projectAfter (fun _ => "") compare "novel" calls).versionOperations ↔
      operationId = "upload-1" ∨ ∃ n < 255, operationId = spareId n) {storage : Storage}
    {prepared moved : ℤ}
    (hcollects : Collects compare "novel" (runCalls (fun _ => "") compare calls) storage) :
    ¬ Activates storage (upload "upload-2" lateVersion) prepared moved := by
  intro hactivates
  have hempty : collectableVersions (projectAfter (fun _ => "") compare "novel" calls) =
      [] := by
    simp [collectableVersions, hversions, ProjectStorage.Collectable]
  have hnew : (projectAfter (fun _ => "") compare "novel" calls).versions.get?
      lateVersion = none := by
    rw [OrderedMap.get?, hversions]
    decide
  have hfresh : (projectAfter (fun _ => "") compare "novel"
      calls).versionOperations.get? "upload-2" = none := by
    have hnot : "upload-2" ∉ (projectAfter (fun _ => "") compare "novel"
        calls).versionOperations := by
      rw [hnames]
      rintro (hsame | ⟨n, hn, hsame⟩)
      · exact absurd hsame (by decide)
      · exact spareId_ne_other n (by omega) hsame.symm
    rwa [OrderedMap.mem_iff_get?, Bool.not_eq_true, Option.isSome_eq_false_iff,
      Option.isNone_iff_eq_none] at hnot
  have hcurrent : (upload "upload-2" lateVersion).expectedPointerVersion =
      (projectAfter (fun _ => "") compare "novel" calls).currentVersion := by
    rw [ProjectStorage.currentVersion, hpointer]
    rfl
  have hroomy : (projectAfter (fun _ => "") compare "novel" calls).Roomy :=
    roomy_of_activates hcollects hactivates hnew hfresh hcurrent
  -- All 256 preparations are kept.
  have hsubset : "upload-1" :: (List.range 255).map spareId ⊆
      (projectAfter (fun _ => "") compare "novel" calls).versionOperations.keys := by
    intro operationId hid
    refine OrderedMap.mem_iff.mp ((hnames operationId).mpr ?_)
    rcases List.mem_cons.mp hid with rfl | hid
    · exact .inl rfl
    · obtain ⟨n, hn, rfl⟩ := List.mem_map.mp hid
      exact .inr ⟨n, List.mem_range.mp hn, rfl⟩
  have hnodup : ("upload-1" :: (List.range 255).map spareId).Nodup := by
    refine List.nodup_cons.mpr ⟨fun hid => ?_, nodup_spareIds (by omega)⟩
    obtain ⟨n, hn, hsame⟩ := List.mem_map.mp hid
    exact spareId_ne_upload n ((List.mem_range.mp hn).trans (by omega)) hsame
  have hle := (hnodup.subperm hsubset).length_le
  have hkept := (length_of_collected hempty).2
  have hless := hroomy.operations
  rw [OrderedMap.keys, List.length_map, hkept] at hle
  simp only [List.length_cons, List.length_map, List.length_range] at hle
  omega

open Sample in
/-- A version that is prepared 256 times locks its project. -/
theorem project_locked :
    ¬ ∃ storage prepared moved,
      Collects compare "novel" (runCalls (fun _ => "") compare (repeated 255)) storage ∧
      Activates storage (upload "upload-2" lateVersion) prepared moved := by
  rintro ⟨storage, prepared, moved, hcollects, hactivates⟩
  obtain ⟨hpointer, hversions, -, hnames⟩ := repeated_operations 255 le_rfl
  exact not_activates_of_full hpointer hversions hnames hcollects hactivates

end Quillframe.Cloud
