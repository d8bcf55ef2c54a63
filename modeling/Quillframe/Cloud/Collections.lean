import Quillframe.Cloud.PointerRuns

/-!
# Collections

Which collection marked a version record, and which one removes it. A record that is marked stays
as it is until a collection finishes. The record that a collection removes is the one it marked as
long as no completed collection is replayed on a record that another one marked.
-/
namespace Quillframe.Cloud

open Transaction

variable {binding : Option WorkspaceBinding} {now : ℤ} {call : CoordinatorCall}
  {before after project : ProjectStorage} {versionId : String} {record : ProjectVersionRecord}

/-! ## Marked records -/

/-- A marked record stays until it is removed. -/
theorem ProjectStep.stays (h : ProjectStep binding now call before after)
    (hrecord : before.versions.get? versionId = some record) (hmarked : record.status = .gcPending)
    (hunpointed : before.pointed ≠ some versionId) :
    after.versions.get? versionId = some record ∨
      ∃ input, call = .finishGc input ∧ input.versionId = versionId ∧
        after.versions.get? versionId = none := by
  have hother : ∀ other found, before.versions.get? other = some found →
      found.status ≠ .gcPending → versionId ≠ other := by
    rintro other found hfound hstatus rfl
    rw [hrecord, Option.some.injEq] at hfound
    exact hstatus (hfound ▸ hmarked)
  cases h.effect with
  | idle _ versions => exact .inl (versions ▸ hrecord)
  | @prepared input _ _ _ _ _ _ new _ versions =>
    have hne : versionId ≠ input.versionId := fun he => by
      rw [← he, hrecord] at new
      cases new
    rw [versions, OrderedMap.get?_insert_of_ne _ hne]
    exact .inl hrecord
  | stale found asks _ _ _ versions =>
    rw [versions, OrderedMap.get?_insert_of_ne _ (hother _ _ found asks.pending)]
    exact .inl hrecord
  | moved _ found asks _ _ _ versions =>
    rw [versions versionId (hother _ _ found asks.pending), if_neg hunpointed]
    exact .inl hrecord
  | deleted _ _ _ _ versions =>
    rw [versions versionId, if_neg hunpointed]
    exact .inl hrecord
  | collecting found orphan _ _ versions =>
    rw [versions, OrderedMap.get?_insert_of_ne _ (hother _ _ found (by simp [orphan]))]
    exact .inl hrecord
  | @collected input _ _ version found pending unpointed pointer versions =>
    by_cases hsame : versionId = input.versionId
    · exact .inr ⟨input, rfl, hsame.symm, by rw [versions, hsame, OrderedMap.get?_erase_self]⟩
    · rw [versions, OrderedMap.get?_erase_of_ne _ hsame]
      exact .inl hrecord

/-- The step marks a record for a collection. -/
def Marks (input : ProjectVersionGcInput) (before after : ProjectStorage) : Prop :=
  ∃ version operation, before.versions.get? input.versionId = some version ∧
    version.status = .orphan ∧ before.pointed ≠ some input.versionId ∧
    after.versions.get? input.versionId = some { version with status := .gcPending } ∧
    before.gcOperations.get? input.operationId = none ∧
    after.gcOperations.get? input.operationId = some operation ∧
    operation.versionId = input.versionId ∧ operation.receiptSnapshot.status = .pending

/-- A record is marked by the collection that begins, or was marked before. -/
theorem ProjectStep.marked (h : ProjectStep binding now call before after)
    (hrecord : after.versions.get? versionId = some record) (hmarked : record.status = .gcPending) :
    before.versions.get? versionId = some record ∨
      ∃ input, call = .beginGc input ∧ input.versionId = versionId ∧ Marks input before after := by
  have hwritten : ∀ {versions : OrderedMap String ProjectVersionRecord} {other written},
      written.status ≠ VersionStatus.gcPending →
      (versions.insert other written).get? versionId = some record →
      versions.get? versionId = some record := by
    intro versions other written hstatus hfound
    by_cases hsame : versionId = other
    · rw [hsame, OrderedMap.get?_insert_self, Option.some.injEq] at hfound
      exact absurd (hfound ▸ hmarked) hstatus
    · rwa [OrderedMap.get?_insert_of_ne _ hsame] at hfound
  have hreleased : ∀ {pointed : Option String} {versions : OrderedMap String ProjectVersionRecord},
      (if pointed = some versionId then (versions.get? versionId).map orphaned
        else versions.get? versionId) = some record → versions.get? versionId = some record := by
    intro pointed versions hfound
    split_ifs at hfound
    · obtain ⟨old, -, rfl⟩ := Option.map_eq_some_iff.mp hfound
      cases hmarked
    · exact hfound
  cases h with
  | same => exact .inl hrecord
  | reprepared => exact .inl hrecord
  | prepared _ _ _ _ _ state _ =>
    refine .inl (hwritten ?_ hrecord)
    rcases state with ⟨rfl, -⟩ | ⟨rfl, -⟩ <;> simp
  | stale => exact .inl (hwritten (by simp) hrecord)
  | @moved input _ released version state named found asks current next release =>
    have hfound := hwritten (by simp) hrecord
    by_cases htarget : versionId = input.next.versionId
    · subst htarget
      rw [OrderedMap.get?_insert_self, Option.some.injEq] at hrecord
      rw [← hrecord] at hmarked
      cases hmarked
    · rw [orphanPrevious_versions named release htarget] at hfound
      exact .inl (hreleased hfound)
  | deleted found checked _ _ _ release =>
    rw [(orphanCurrent_versions (assertPointer_versionId checked) release).2 versionId] at hrecord
    exact .inl (hreleased hrecord)
  | @collecting input _ version _ operations bounded fresh found orphan unpointed room =>
    by_cases hsame : versionId = input.versionId
    · exact .inr ⟨input, rfl, hsame.symm, version, _, found, orphan, unpointed, by simp, fresh,
        OrderedMap.get?_insert_self _ _ _, rfl, rfl⟩
    · rw [OrderedMap.get?_insert_of_ne _ hsame] at hrecord
      exact .inl hrecord
  | finished => exact .inl hrecord
  | @collected input _ _ _ _ _ _ _ _ _ =>
    refine .inl ?_
    have hne : versionId ≠ input.versionId := fun he => by
      rw [he, OrderedMap.get?_erase_self] at hrecord
      cases hrecord
    rwa [OrderedMap.get?_erase_of_ne _ hne] at hrecord

/-- No marked record is the one of the pointer. -/
def ProjectStorage.Unpointed (project : ProjectStorage) : Prop :=
  ∀ versionId record, project.versions.get? versionId = some record →
    record.status = .gcPending → project.pointed ≠ some versionId

theorem ProjectStep.unpointed (h : ProjectStep binding now call before after)
    (hbefore : before.Unpointed) : after.Unpointed := by
  intro versionId record hrecord hmarked
  have hold : before.pointed ≠ some versionId := by
    rcases h.marked hrecord hmarked with hsame | ⟨input, -, rfl, _, _, -, -, hunpointed, -⟩
    · exact hbefore versionId record hsame hmarked
    · exact hunpointed
  have hsame : after.pointer = before.pointer → after.pointed ≠ some versionId := fun hpointer =>
    by rwa [ProjectStorage.pointed, hpointer]
  cases h.effect with
  | idle pointer _ => exact hsame pointer
  | prepared _ _ pointer _ => exact hsame pointer
  | stale _ _ _ _ pointer _ => exact hsame pointer
  | @moved input _ _ version _ _ found asks _ pointer target _ =>
    rw [ProjectStorage.pointed, pointer]
    intro hpointed
    obtain rfl : input.next.versionId = versionId := Option.some.inj hpointed
    rw [target, Option.some.injEq] at hrecord
    rw [← hrecord] at hmarked
    cases hmarked
  | @deleted input _ _ current _ found _ _ pointer _ =>
    rw [ProjectStorage.pointed, pointer]
    simpa [ProjectStorage.pointed, found] using hold
  | collecting _ _ _ pointer _ => exact hsame pointer
  | collected _ _ _ pointer _ => exact hsame pointer

/-! ## Operations -/

/-- Releasing the current version touches only the version records. -/
theorem orphanPrevious_frame {projectId : String} {next : ProjectPointerNext}
    {released : ProjectStorage} (h : orphanPrevious projectId next project = .ok released) :
    released.versionOperations = project.versionOperations ∧
      released.gcOperations = project.gcOperations := by
  rw [orphanPrevious] at h
  split at h
  · cases h
    exact ⟨rfl, rfl⟩
  · split at h
    · cases h
      exact ⟨rfl, rfl⟩
    · split_ifs at h
      · cases h
        exact ⟨rfl, rfl⟩
      · simp only [bind_eq_ok, pure_eq_ok] at h
        obtain ⟨_, -, -, -, -, -, -, -, rfl⟩ := h
        exact ⟨rfl, rfl⟩

theorem orphanCurrent_frame {projectId : String} {current : ProjectPointer}
    {released : ProjectStorage} (h : orphanCurrent projectId current project = .ok released) :
    released.versionOperations = project.versionOperations ∧
      released.gcOperations = project.gcOperations := by
  rw [orphanCurrent] at h
  split at h
  · cases h
    exact ⟨rfl, rfl⟩
  · split_ifs at h
    · cases h
      exact ⟨rfl, rfl⟩
    · split at h
      · cases h
        exact ⟨rfl, rfl⟩
      · simp only [bind_eq_ok, pure_eq_ok] at h
        obtain ⟨_, -, rfl⟩ := h
        exact ⟨rfl, rfl⟩

/-- Making room removes only collections that have completed. -/
theorem pruneGcOperations_get? {localeCompare : String → String → Ordering}
    {operations kept : OrderedMap String ProjectVersionGcOperation}
    (h : pruneGcOperations localeCompare operations = .ok kept) (operationId : String) :
    kept.get? operationId = operations.get? operationId ∨
      (kept.get? operationId = none ∧ ∃ operation, operations.get? operationId = some operation ∧
        operation.receiptSnapshot.status = .completed) := by
  rw [pruneGcOperations] at h
  dsimp only at h
  split_ifs at h
  · exact .inl (Except.ok.inj h ▸ rfl)
  · simp only [bind_eq_ok, pure_eq_ok] at h
    obtain ⟨-, -, rfl⟩ := h
    rw [OrderedMap.get?_eraseAll]
    split_ifs with hremoved
    · obtain ⟨⟨key, operation⟩, hmem, rfl⟩ := List.mem_map.mp hremoved
      have hentry := List.mem_mergeSort.mp (List.mem_of_mem_take hmem)
      rw [List.mem_filter, decide_eq_true_eq] at hentry
      exact .inr ⟨rfl, operation, OrderedMap.mem_entries.mp hentry.1, hentry.2⟩
    · exact .inl rfl

/-- What a step does to the collections of a project. -/
theorem ProjectStep.gc_effect (h : ProjectStep binding now call before after) :
    after.gcOperations = before.gcOperations ∨
      (∃ input version localeCompare operations, call = .beginGc input ∧
        (versionFingerprint input.versionId ∧ boundedId input.operationId ∧
          natural input.retentionBefore) ∧
        before.versions.get? input.versionId = some version ∧ version.status = .orphan ∧
        before.pointed ≠ some input.versionId ∧
        after.versions.get? input.versionId = some { version with status := .gcPending } ∧
        before.gcOperations.get? input.operationId = none ∧
        pruneGcOperations localeCompare before.gcOperations = .ok operations ∧
        after.gcOperations = operations.insert input.operationId ⟨input.operationId,
          input.projectId, input.versionId, input.retentionBefore, gcReceipt input version, now⟩) ∨
      ∃ input operation, call = .finishGc input ∧ operation.versionId = input.versionId ∧
        before.gcOperations.get? input.operationId = some operation ∧
        after.versions.get? input.versionId = none ∧
        after.gcOperations =
          before.gcOperations.insert input.operationId (operation.completed now) := by
  cases h with
  | same => exact .inl rfl
  | reprepared => exact .inl rfl
  | prepared => exact .inl rfl
  | stale => exact .inl rfl
  | moved _ _ _ _ _ _ release => exact .inl (orphanPrevious_frame release).2
  | deleted _ _ _ _ _ release => exact .inl (orphanCurrent_frame release).2
  | collecting bounded fresh found orphan unpointed room =>
    exact .inr (.inl ⟨_, _, _, _, rfl, bounded, found, orphan, unpointed,
      OrderedMap.get?_insert_self _ _ _, fresh, room, rfl⟩)
  | finished _ found named gone => exact .inr (.inr ⟨_, _, rfl, named, found, gone, rfl⟩)
  | collected _ found named _ _ _ =>
    exact .inr (.inr ⟨_, _, rfl, named, found, OrderedMap.get?_erase_self _ _, rfl⟩)

/-- A pending collection stays until it finishes, with its record gone. -/
theorem ProjectStep.gc_kept (h : ProjectStep binding now call before after) {operationId : String}
    {operation : ProjectVersionGcOperation}
    (hfound : before.gcOperations.get? operationId = some operation)
    (hpending : operation.receiptSnapshot.status = .pending) :
    after.gcOperations.get? operationId = some operation ∨
      after.versions.get? operation.versionId = none := by
  rcases h.gc_effect with hsame | ⟨input, _, _, operations, -, -, -, -, -, -, hfresh, hroom, hafter⟩ |
    ⟨input, finished, -, hnamed, hfinished, hgone, hafter⟩
  · exact .inl (hsame ▸ hfound)
  · have hne : operationId ≠ input.operationId := by
      rintro rfl
      rw [hfresh] at hfound
      cases hfound
    refine .inl ?_
    rw [hafter, OrderedMap.get?_insert_of_ne _ hne]
    rcases pruneGcOperations_get? hroom operationId with hkept | ⟨-, other, hother, hdone⟩
    · exact hkept.trans hfound
    · rw [hfound, Option.some.injEq] at hother
      rw [← hother, hpending] at hdone
      cases hdone
  · by_cases hsame : operationId = input.operationId
    · subst hsame
      obtain rfl : operation = finished := Option.some.inj (hfound.symm.trans hfinished)
      exact .inr (hnamed ▸ hgone)
    · exact .inl (by rw [hafter, OrderedMap.get?_insert_of_ne _ hsame, hfound])

/-- Where a stored collection comes from. -/
theorem ProjectStep.gc_cases (h : ProjectStep binding now call before after) {operationId : String}
    {operation : ProjectVersionGcOperation}
    (hfound : after.gcOperations.get? operationId = some operation) :
    before.gcOperations.get? operationId = some operation ∨
      (∃ begun, before.gcOperations.get? operationId = some begun ∧
        operation = begun.completed now) ∨
      ∃ input version, call = .beginGc input ∧ input.operationId = operationId ∧
        (versionFingerprint input.versionId ∧ boundedId input.operationId ∧
          natural input.retentionBefore) ∧
        before.versions.get? input.versionId = some version ∧
        operation = ⟨operationId, input.projectId, input.versionId, input.retentionBefore,
          gcReceipt input version, now⟩ ∧ Marks input before after := by
  rcases h.gc_effect with hsame | ⟨input, version, _, operations, hcall, hbounded, hrecord, horphan,
      hunpointed, hmarked, hfresh, hroom, hafter⟩ | ⟨input, finished, -, -, hfinished, -, hafter⟩
  · exact .inl (hsame ▸ hfound)
  · rw [hafter] at hfound
    by_cases hsame : operationId = input.operationId
    · subst hsame
      rw [OrderedMap.get?_insert_self, Option.some.injEq] at hfound
      exact .inr (.inr ⟨input, version, hcall, rfl, hbounded, hrecord, hfound.symm, version, _,
        hrecord, horphan, hunpointed, hmarked, hfresh,
        by rw [hafter, OrderedMap.get?_insert_self], rfl, rfl⟩)
    · rw [OrderedMap.get?_insert_of_ne _ hsame] at hfound
      rcases pruneGcOperations_get? hroom operationId with hkept | ⟨hnone, -⟩
      · exact .inl (hkept ▸ hfound)
      · rw [hnone] at hfound
        cases hfound
  · rw [hafter] at hfound
    by_cases hsame : operationId = input.operationId
    · subst hsame
      rw [OrderedMap.get?_insert_self, Option.some.injEq] at hfound
      exact .inr (.inl ⟨finished, hfinished, hfound.symm⟩)
    · rw [OrderedMap.get?_insert_of_ne _ hsame] at hfound
      exact .inl hfound

/-- A pending collection was pending before, or it begins and marks its record. -/
theorem ProjectStep.gc_new (h : ProjectStep binding now call before after) {operationId : String}
    {operation : ProjectVersionGcOperation}
    (hfound : after.gcOperations.get? operationId = some operation)
    (hpending : operation.receiptSnapshot.status = .pending) :
    before.gcOperations.get? operationId = some operation ∨
      ∃ input, call = .beginGc input ∧ input.operationId = operationId ∧
        operation.versionId = input.versionId ∧ Marks input before after := by
  rcases h.gc_cases hfound with hsame | ⟨begun, -, rfl⟩ | ⟨input, _, hcall, hid, -, -, rfl, hmarks⟩
  · exact .inl hsame
  · cases hpending
  · exact .inr ⟨input, hcall, hid, rfl, hmarks⟩

/-- A record is removed by a collection of its version, together with one preparation. -/
theorem ProjectStep.removes (h : ProjectStep binding now call before after)
    (hrecord : before.versions.get? versionId = some record)
    (hgone : after.versions.get? versionId = none) :
    ∃ input operation, call = .finishGc input ∧ input.deleted = true ∧
      input.versionId = versionId ∧
      before.gcOperations.get? input.operationId = some operation ∧
      operation.versionId = versionId ∧ record.status = .gcPending ∧
      after.gcOperations.get? input.operationId = some (operation.completed now) ∧
      after.versionOperations = before.versionOperations.erase record.operationId := by
  have hinsert : ∀ {versions : OrderedMap String ProjectVersionRecord} {other written},
      versions.get? versionId ≠ none → (versions.insert other written).get? versionId ≠ none := by
    intro versions other written hsome
    by_cases hsame : versionId = other
    · simp [hsame]
    · rwa [OrderedMap.get?_insert_of_ne _ hsame]
  have hsome : before.versions.get? versionId ≠ none := by simp [hrecord]
  have hreleased : ∀ {pointed : Option String}, (if pointed = some versionId
      then (before.versions.get? versionId).map orphaned
      else before.versions.get? versionId) ≠ none := by
    intro pointed
    split_ifs <;> simp [hrecord]
  cases h with
  | same => exact absurd hgone hsome
  | reprepared => exact absurd hgone hsome
  | prepared => exact absurd hgone (hinsert hsome)
  | stale => exact absurd hgone (hinsert hsome)
  | @moved input _ released version _ named _ _ _ _ release =>
    by_cases htarget : versionId = input.next.versionId
    · rw [htarget, OrderedMap.get?_insert_self] at hgone
      cases hgone
    · rw [OrderedMap.get?_insert_of_ne _ htarget, orphanPrevious_versions named release htarget]
        at hgone
      exact absurd hgone hreleased
  | deleted _ checked _ _ _ release =>
    have hversions := (orphanCurrent_versions (assertPointer_versionId checked) release).2 versionId
    exact absurd (hversions.symm.trans hgone) hreleased
  | collecting => exact absurd hgone (hinsert hsome)
  | finished => exact absurd hgone hsome
  | @collected input _ operation version deleted found named stored pending _ =>
    obtain rfl : versionId = input.versionId := by
      by_contra hne
      rw [OrderedMap.get?_erase_of_ne _ hne] at hgone
      exact hsome hgone
    obtain rfl : version = record := Option.some.inj (stored.symm.trans hrecord)
    exact ⟨input, operation, rfl, deleted, rfl, found, named, pending,
      OrderedMap.get?_insert_self _ _ _, rfl⟩

/-- A stored preparation was stored before, or its version is prepared now. -/
theorem ProjectStep.preparations (h : ProjectStep binding now call before after)
    {operationId : String} {preparation : ProjectVersionOperation}
    (hfound : after.versionOperations.get? operationId = some preparation) :
    before.versionOperations.get? operationId = some preparation ∨
      ∃ version, after.versions.get? preparation.receiptSnapshot.versionId = some version := by
  have hwritten : ∀ {input : ProjectVersionPreparationInput}
      {receipt : ProjectVersionPreparationReceipt} {version : ProjectVersionRecord}
      {written : ProjectStorage}, receipt.toProjectVersionPreparationInput = input →
      written.versionOperations = before.versionOperations →
      written.versions.get? input.versionId = some version →
      (written.recordOperation receipt now).versionOperations.get? operationId =
        some preparation →
      before.versionOperations.get? operationId = some preparation ∨
        ∃ version, written.versions.get? preparation.receiptSnapshot.versionId = some version := by
    intro input receipt version written hreceives hsame hversion hafter
    rw [ProjectStorage.recordOperation] at hafter
    by_cases hid : operationId = receipt.operationId
    · rw [hid, OrderedMap.get?_insert_self, Option.some.injEq] at hafter
      refine .inr ⟨version, ?_⟩
      rw [← hafter, ← hversion, ← hreceives]
    · rw [OrderedMap.get?_insert_of_ne _ hid, hsame] at hafter
      exact .inl hafter
  cases h with
  | same => exact .inl hfound
  | reprepared _ _ found _ _ _ receives => exact @hwritten _ _ _ before receives rfl found hfound
  | @prepared input _ status pointerVersion receipt _ _ _ _ _ _ receives =>
    exact @hwritten _ _ _ (before.recordVersion input status now pointerVersion) receives rfl
      (OrderedMap.get?_insert_self _ _ _) hfound
  | stale => exact .inl hfound
  | moved _ _ _ _ _ _ release => exact .inl ((orphanPrevious_frame release).1 ▸ hfound)
  | deleted _ _ _ _ _ release => exact .inl ((orphanCurrent_frame release).1 ▸ hfound)
  | collecting => exact .inl hfound
  | finished => exact .inl hfound
  | @collected _ _ _ version _ _ _ _ _ _ =>
    have hne : operationId ≠ version.operationId := fun he => by
      rw [he, OrderedMap.get?_erase_self] at hfound
      cases hfound
    rw [OrderedMap.get?_erase_of_ne _ hne] at hfound
    exact .inl hfound

/-! ## One collection for a record -/

/-- A collection that finishes is still pending, and the record it removes has no other
preparation. -/
def CoordinatorCall.Tidy (call : CoordinatorCall) (project : ProjectStorage) : Prop :=
  ∀ input, call = .finishGc input → input.deleted = true →
    ∀ operation record, project.gcOperations.get? input.operationId = some operation →
      operation.versionId = input.versionId →
      project.versions.get? input.versionId = some record → record.status = .gcPending →
      operation.receiptSnapshot.status = .pending ∧
        ∀ operationId preparation, project.versionOperations.get? operationId = some preparation →
          preparation.receiptSnapshot.versionId = input.versionId →
          operationId = record.operationId

/-- Every pending collection has its own record. -/
structure ProjectStorage.Collecting (project : ProjectStorage) : Prop where
  unpointed : project.Unpointed
  marked : ∀ operationId operation, project.gcOperations.get? operationId = some operation →
    operation.receiptSnapshot.status = .pending →
    ∃ record, project.versions.get? operation.versionId = some record ∧ record.status = .gcPending
  single : ∀ first second operation other, project.gcOperations.get? first = some operation →
    project.gcOperations.get? second = some other →
    operation.receiptSnapshot.status = .pending → other.receiptSnapshot.status = .pending →
    operation.versionId = other.versionId → first = second
  backed : ∀ operationId preparation,
    project.versionOperations.get? operationId = some preparation →
    ∃ record, project.versions.get? preparation.receiptSnapshot.versionId = some record
  dated : ∀ operationId operation, project.gcOperations.get? operationId = some operation →
    operation.createdAt ≠ 0

theorem ProjectStorage.Collecting.empty : ProjectStorage.empty.Collecting :=
  ⟨fun _ _ h => (nomatch h), fun _ _ h => (nomatch h), fun _ _ _ _ h => (nomatch h),
    fun _ _ h => (nomatch h), fun _ _ h => (nomatch h)⟩

/-- The record of a collection that stays pending stays. -/
theorem ProjectStep.record_kept (h : ProjectStep binding now call before after)
    (hbefore : before.Collecting) (htidy : call.Tidy before) {operationId : String}
    {operation : ProjectVersionGcOperation}
    (hfound : before.gcOperations.get? operationId = some operation)
    (hkept : after.gcOperations.get? operationId = some operation)
    (hpending : operation.receiptSnapshot.status = .pending)
    (hrecord : before.versions.get? operation.versionId = some record)
    (hmarked : record.status = .gcPending) :
    after.versions.get? operation.versionId = some record := by
  rcases h.stays hrecord hmarked (hbefore.unpointed _ _ hrecord hmarked)
    with hsame | ⟨-, -, -, hgone⟩
  · exact hsame
  -- The record is removed by a pending collection of its version, so by this one.
  obtain ⟨input, finished, hcall, hdeleted, hversion, hfinished, hnamed, -, hcompleted, -⟩ :=
    h.removes hrecord hgone
  have hstill := (htidy input hcall hdeleted finished record hfinished
    (hnamed.trans hversion.symm) (hversion ▸ hrecord) hmarked).1
  have hid := hbefore.single _ _ _ _ hfound hfinished hpending hstill hnamed.symm
  rw [hid, hcompleted, Option.some.injEq] at hkept
  rw [← hkept] at hpending
  cases hpending

theorem ProjectStep.keepsCollecting (h : ProjectStep binding now call before after)
    (hbefore : before.Collecting) (htidy : call.Tidy before) (hnow : now ≠ 0) :
    after.Collecting where
  unpointed := h.unpointed hbefore.unpointed
  marked operationId operation hfound hpending := by
    rcases h.gc_new hfound hpending with hold | ⟨input, -, -, hversion, version, _, -, -, -, hrecord, -⟩
    · obtain ⟨record, hrecord, hmarked⟩ := hbefore.marked operationId operation hold hpending
      exact ⟨record, h.record_kept hbefore htidy hold hfound hpending hrecord hmarked, hmarked⟩
    · exact ⟨_, hversion ▸ hrecord, rfl⟩
  single first second operation other hfirst hsecond hpending hpending' hversion := by
    -- The record of a collection that begins was an orphan, so no other collection has it.
    have hnone : ∀ {input : ProjectVersionGcInput} {operationId : String}
        {operation : ProjectVersionGcOperation}, Marks input before after →
        before.gcOperations.get? operationId = some operation →
        operation.receiptSnapshot.status = .pending → operation.versionId ≠ input.versionId := by
      rintro input operationId operation ⟨version, -, hrecord, horphan, -⟩ hold hpending hsame
      obtain ⟨record, hfound, hmarked⟩ := hbefore.marked operationId operation hold hpending
      rw [hsame, hrecord, Option.some.injEq] at hfound
      rw [← hfound, horphan] at hmarked
      cases hmarked
    rcases h.gc_new hfirst hpending with hold | ⟨input, hcall, hid, hnamed, hmarks⟩
    · rcases h.gc_new hsecond hpending' with hold' | ⟨input, -, -, hnamed, hmarks⟩
      · exact hbefore.single _ _ _ _ hold hold' hpending hpending' hversion
      · exact absurd (hversion.trans hnamed) (hnone hmarks hold hpending)
    · rcases h.gc_new hsecond hpending' with hold' | ⟨input', hcall', hid', -, -⟩
      · exact absurd (hversion.symm.trans hnamed) (hnone hmarks hold' hpending')
      · rw [hcall, CoordinatorCall.beginGc.injEq] at hcall'
        rw [← hid, hcall', hid']
  backed operationId preparation hfound := by
    rcases h.preparations hfound with hold | hnew
    · obtain ⟨record, hrecord⟩ := hbefore.backed operationId preparation hold
      by_contra hgone
      obtain ⟨input, finished, hcall, hdeleted, hversion, hfinished, hnamed, hmarked, -, herased⟩ :=
        h.removes hrecord (Option.eq_none_iff_forall_not_mem.mpr fun version hafter =>
          hgone ⟨version, hafter⟩)
      have hid := (htidy input hcall hdeleted finished record hfinished
        (hnamed.trans hversion.symm) (hversion ▸ hrecord) hmarked).2 operationId preparation hold
        hversion.symm
      rw [herased, hid, OrderedMap.get?_erase_self] at hfound
      cases hfound
    · exact hnew
  dated operationId operation hfound := by
    rcases h.gc_cases hfound with hold | ⟨begun, hbegun, rfl⟩ | ⟨_, _, -, -, -, -, rfl, -⟩
    · exact hbefore.dated operationId operation hold
    · have hdated := hbefore.dated operationId begun hbegun
      simp [ProjectVersionGcOperation.completed, hdated]
    · exact hnow

/-- Finishing a completed collection again does nothing. -/
theorem ProjectStep.replayed {input : ProjectVersionGcFinishInput}
    {operation : ProjectVersionGcOperation}
    (h : ProjectStep binding now (.finishGc input) before after) (hbefore : before.Collecting)
    (htidy : CoordinatorCall.Tidy (.finishGc input) before)
    (hfound : before.gcOperations.get? input.operationId = some operation)
    (hcompleted : operation.receiptSnapshot.status = .completed) : after = before := by
  cases h with
  | same => rfl
  | @finished _ _ finished _ found _ _ =>
    obtain rfl : operation = finished := Option.some.inj (hfound.symm.trans found)
    have hsame : operation.completed now = operation := by
      rw [ProjectVersionGcOperation.completed, if_neg (hbefore.dated _ _ hfound), ← hcompleted]
    rw [hsame, OrderedMap.insert_of_get? hfound]
  | @collected _ _ finished version deleted found named stored pending _ =>
    have hpending := (htidy input rfl deleted finished version found named stored pending).1
    obtain rfl : operation = finished := Option.some.inj (hfound.symm.trans found)
    rw [hcompleted] at hpending
    cases hpending

/-! ## Runs -/

section Runs

variable (sha256 : Json String → String) (localeCompare : String → String → Ordering)
  (projectId : String) (calls : List TimedCall)

/-- The project after the calls. -/
def projectAfter : ProjectStorage := (runCalls sha256 localeCompare calls).projects projectId

/-- A call is a step of its own project and leaves another as it is. -/
theorem projectAfter_step (timed : TimedCall) :
    (timed.call.projectId = projectId ∧ ∃ binding, ProjectStep binding timed.now timed.call
      (projectAfter sha256 localeCompare projectId calls)
      (projectAfter sha256 localeCompare projectId (calls ++ [timed]))) ∨
    (timed.call.projectId ≠ projectId ∧
      projectAfter sha256 localeCompare projectId (calls ++ [timed]) =
        projectAfter sha256 localeCompare projectId calls) := by
  have htakes := timed.call.apply_takes sha256 localeCompare timed.now
    (runCalls sha256 localeCompare calls)
  rw [projectAfter, projectAfter, runCalls_concat]
  by_cases hproject : timed.call.projectId = projectId
  · exact .inl ⟨hproject, _, hproject ▸ htakes.step⟩
  · exact .inr ⟨hproject, htakes.others projectId (Ne.symm hproject)⟩

/-- In the run no collection of the project finishes again on a record that another one marked, no
record is removed that has a second preparation, and the clock is past its epoch. -/
def TidyRun : Prop :=
  ∀ before timed after, calls = before ++ timed :: after →
    timed.now ≠ 0 ∧ (timed.call.projectId = projectId →
      timed.call.Tidy (projectAfter sha256 localeCompare projectId before))

/-- The collection began in the run, with this very record. -/
def Began (operationId versionId : String) (record : ProjectVersionRecord) : Prop :=
  ∃ first begun between input, calls = first ++ begun :: between ∧
    begun.call = .beginGc input ∧ input.projectId = projectId ∧
    input.operationId = operationId ∧ input.versionId = versionId ∧
    Marks input (projectAfter sha256 localeCompare projectId first)
      (projectAfter sha256 localeCompare projectId (first ++ [begun])) ∧
    ∀ middle, middle <+: between →
      (projectAfter sha256 localeCompare projectId (first ++ begun :: middle)).versions.get?
        versionId = some record

/-- A record is removed only by the collection that marked it, which is then completed. -/
def RemovesOwn : Prop :=
  ∀ before timed after versionId record, calls = before ++ timed :: after →
    (projectAfter sha256 localeCompare projectId before).versions.get? versionId = some record →
    (projectAfter sha256 localeCompare projectId (before ++ [timed])).versions.get? versionId =
      none →
    ∃ input operation, timed.call = .finishGc input ∧ input.versionId = versionId ∧
      (projectAfter sha256 localeCompare projectId before).gcOperations.get? input.operationId =
        some operation ∧ operation.receiptSnapshot.status = .pending ∧
      Began sha256 localeCompare projectId before input.operationId versionId record ∧
      (projectAfter sha256 localeCompare projectId (before ++ [timed])).gcOperations.get?
        input.operationId = some (operation.completed timed.now)

/-- Finishing a completed collection again changes nothing. -/
def ReplaysNothing : Prop :=
  ∀ before timed after input operation, calls = before ++ timed :: after →
    timed.call = .finishGc input → input.projectId = projectId →
    (projectAfter sha256 localeCompare projectId before).gcOperations.get? input.operationId =
      some operation → operation.receiptSnapshot.status = .completed →
    projectAfter sha256 localeCompare projectId (before ++ [timed]) =
      projectAfter sha256 localeCompare projectId before

/-- Every stored preparation names a version that has a record. -/
def PreparationsBacked : Prop :=
  ∀ operationId preparation, (projectAfter sha256 localeCompare projectId
      calls).versionOperations.get? operationId = some preparation →
    ∃ record, (projectAfter sha256 localeCompare projectId calls).versions.get?
      preparation.receiptSnapshot.versionId = some record

variable {sha256 localeCompare projectId calls}

theorem TidyRun.of_append {rest : List TimedCall}
    (h : TidyRun sha256 localeCompare projectId (calls ++ rest)) :
    TidyRun sha256 localeCompare projectId calls := fun before timed after hcalls =>
  h before timed (after ++ rest) (by rw [hcalls, List.append_assoc, List.cons_append])

theorem TidyRun.last {timed : TimedCall}
    (h : TidyRun sha256 localeCompare projectId (calls ++ [timed])) :
    timed.now ≠ 0 ∧ (timed.call.projectId = projectId →
      timed.call.Tidy (projectAfter sha256 localeCompare projectId calls)) :=
  h calls timed [] rfl

theorem collecting_of_tidyRun (h : TidyRun sha256 localeCompare projectId calls) :
    (projectAfter sha256 localeCompare projectId calls).Collecting := by
  induction calls using List.reverseRecOn with
  | nil => exact .empty
  | append_singleton calls timed ih =>
    have hbefore := ih h.of_append
    obtain ⟨hnow, htidy⟩ := h.last
    rcases projectAfter_step sha256 localeCompare projectId calls timed
      with ⟨hproject, _, hstep⟩ | ⟨-, hsame⟩
    · exact hstep.keepsCollecting hbefore (htidy hproject) hnow
    · exact hsame ▸ hbefore

/-- A collection that stays pending keeps its record through one more call. -/
theorem Began.concat {operationId versionId : String} {record : ProjectVersionRecord}
    {timed : TimedCall} (h : Began sha256 localeCompare projectId calls operationId versionId record)
    (hrecord : (projectAfter sha256 localeCompare projectId (calls ++ [timed])).versions.get?
      versionId = some record) :
    Began sha256 localeCompare projectId (calls ++ [timed]) operationId versionId record := by
  obtain ⟨first, begun, between, input, rfl, hcall, hproject, hid, hversion, hmarks, hkept⟩ := h
  refine ⟨first, begun, between ++ [timed], input, by simp, hcall, hproject, hid, hversion, hmarks,
    fun middle hmiddle => ?_⟩
  rcases List.prefix_concat_iff.mp hmiddle with rfl | hprefix
  · simpa using hrecord
  · exact hkept middle hprefix

theorem began_of_pending (h : TidyRun sha256 localeCompare projectId calls)
    {operationId : String} {operation : ProjectVersionGcOperation} {record : ProjectVersionRecord}
    (hfound : (projectAfter sha256 localeCompare projectId calls).gcOperations.get? operationId =
      some operation) (hpending : operation.receiptSnapshot.status = .pending)
    (hrecord : (projectAfter sha256 localeCompare projectId calls).versions.get?
      operation.versionId = some record) :
    Began sha256 localeCompare projectId calls operationId operation.versionId record := by
  induction calls using List.reverseRecOn with
  | nil => cases hfound
  | append_singleton calls timed ih =>
    have hbefore := collecting_of_tidyRun h.of_append
    rcases projectAfter_step sha256 localeCompare projectId calls timed
      with ⟨hproject, _, hstep⟩ | ⟨-, hsame⟩
    · rcases hstep.gc_new hfound hpending with hold | ⟨input, hcall, hid, hversion, hmarks⟩
      · obtain ⟨stored, hstored, hmarked⟩ := hbefore.marked operationId operation hold hpending
        have hkept := hstep.record_kept hbefore (h.last.2 hproject) hold hfound hpending hstored
          hmarked
        obtain rfl : stored = record := Option.some.inj (hkept.symm.trans hrecord)
        exact (ih h.of_append hold hstored).concat hrecord
      · refine ⟨calls, timed, [], input, rfl, hcall, ?_, hid, hversion.symm, hmarks,
          fun middle hmiddle => ?_⟩
        · rw [← hproject, hcall]
          rfl
        · rw [List.prefix_nil.mp hmiddle]
          exact hrecord
    · rw [hsame] at hfound hrecord
      exact (ih h.of_append hfound hrecord).concat (by rw [hsame, hrecord])

/-- As long as no collection finishes again on a record that another one marked, and no record is
removed that has a second preparation, each record is removed by the collection that marked it,
once, and every stored preparation has its record. -/
theorem collections_own_record (h : TidyRun sha256 localeCompare projectId calls) :
    RemovesOwn sha256 localeCompare projectId calls ∧
      ReplaysNothing sha256 localeCompare projectId calls ∧
      PreparationsBacked sha256 localeCompare projectId calls := by
  have hsplit : ∀ {before timed after}, calls = before ++ timed :: after →
      TidyRun sha256 localeCompare projectId (before ++ [timed]) := by
    rintro before timed after rfl
    exact TidyRun.of_append (by simpa using h)
  refine ⟨?_, ?_, (collecting_of_tidyRun h).backed⟩
  · intro before timed after versionId record hcalls hrecord hgone
    have htidy := hsplit hcalls
    rcases projectAfter_step sha256 localeCompare projectId before timed
      with ⟨hproject, _, hstep⟩ | ⟨-, hsame⟩
    · obtain ⟨input, operation, hcall, hdeleted, rfl, hfound, hnamed, hmarked, hcompleted, -⟩ :=
        hstep.removes hrecord hgone
      have hpending := (htidy.last.2 hproject input hcall hdeleted operation record hfound hnamed
        hrecord hmarked).1
      have hbegan := began_of_pending htidy.of_append hfound hpending (hnamed ▸ hrecord)
      exact ⟨input, operation, hcall, rfl, hfound, hpending, hnamed ▸ hbegan, hcompleted⟩
    · rw [hsame, hrecord] at hgone
      cases hgone
  · intro before timed after input operation hcalls hcall hid hfound hcompleted
    have htidy := hsplit hcalls
    rcases projectAfter_step sha256 localeCompare projectId before timed
      with ⟨hproject, _, hstep⟩ | ⟨-, hsame⟩
    · rw [hcall] at hstep
      exact hstep.replayed (collecting_of_tidyRun htidy.of_append)
        (hcall ▸ htidy.last.2 hproject) hfound hcompleted
    · exact hsame

end Runs

/-! ## A version that comes back -/

namespace Sample

/-- An upload at the first pointer version. -/
def upload (operationId versionId : String) : ProjectVersionPreparationInput where
  operationId := operationId
  inputFingerprint := versionId
  workspaceId := "studio"
  projectId := "novel"
  expectedPointerVersion := 0
  versionId := versionId
  objectKey := versionId
  plaintextFingerprint := versionId
  byteSize := 1

def firstVersion : String :=
  "sha256:1111111111111111111111111111111111111111111111111111111111111111"

def lateVersion : String :=
  "sha256:2222222222222222222222222222222222222222222222222222222222222222"

def activate : ProjectPointerCasInput where
  projectId := "novel"
  expectedPointerVersion := 0
  next := ⟨"studio", none, .active, firstVersion, firstVersion, firstVersion⟩

def preparedOnly : List TimedCall :=
  [⟨.bind "studio", 1⟩, ⟨.prepare (upload "upload-1" firstVersion), 2⟩]

/-- A second version is uploaded too late and becomes an orphan. -/
def lateUpload : List TimedCall :=
  preparedOnly ++ [⟨.cas activate, 3⟩, ⟨.prepare (upload "upload-2" lateVersion), 4⟩]

def collect (operationId : String) (now : ℤ) : TimedCall :=
  ⟨.beginGc ⟨"novel", lateVersion, operationId, 100⟩, now⟩

def collectedCall (operationId : String) : CoordinatorCall :=
  .finishGc ⟨"novel", lateVersion, operationId, true⟩

/-- The collected version is uploaded and marked again. -/
def markedAgain : List TimedCall :=
  lateUpload ++ [collect "gc-1" 5, ⟨collectedCall "gc-1", 6⟩,
    ⟨.prepare (upload "upload-3" lateVersion), 7⟩, collect "gc-2" 8]

/-- The orphan is uploaded again before it is collected. -/
def uploadedAgain : List TimedCall :=
  lateUpload ++ [⟨.prepare (upload "upload-3" lateVersion), 5⟩, collect "gc-1" 6]

end Sample

section Samples

variable (sha256 : Json String → String) (localeCompare : String → String → Ordering)

theorem TidyRun.concat {projectId : String} {calls : List TimedCall} {timed : TimedCall}
    (h : TidyRun sha256 localeCompare projectId calls) (hnow : timed.now ≠ 0)
    (htidy : timed.call.projectId = projectId →
      timed.call.Tidy (projectAfter sha256 localeCompare projectId calls)) :
    TidyRun sha256 localeCompare projectId (calls ++ [timed]) := by
  intro before other after hcalls
  rcases List.eq_nil_or_concat after with rfl | ⟨rest, last, rfl⟩
  · obtain ⟨rfl, hlast⟩ := List.append_inj' hcalls rfl
    obtain rfl := List.singleton_inj.mp hlast
    exact ⟨hnow, htidy⟩
  · refine h before other rest ?_
    have hlists : calls ++ [timed] = (before ++ other :: rest) ++ [last] := by simpa using hcalls
    exact (List.append_inj' hlists rfl).1

/-- Only a collection that finishes can be untidy. -/
theorem tidyRun_of_no_finish {projectId : String} {calls : List TimedCall}
    (h : ∀ timed ∈ calls, timed.now ≠ 0 ∧ ∀ input, timed.call ≠ .finishGc input) :
    TidyRun sha256 localeCompare projectId calls := by
  rintro before timed after rfl
  obtain ⟨hnow, hcall⟩ := h timed (by simp)
  exact ⟨hnow, fun _ input hinput => absurd hinput (hcall input)⟩

end Samples

open Sample in
theorem collections_own_record_sample :
    ∃ record, Began (fun _ => "") compare "novel" (lateUpload ++ [collect "gc-1" 5]) "gc-1"
      lateVersion record := by
  have hbefore : TidyRun (fun _ => "") compare "novel" (lateUpload ++ [collect "gc-1" 5]) :=
    tidyRun_of_no_finish _ _ (by simp [preparedOnly, lateUpload, collect])
  let project := projectAfter (fun _ => "") compare "novel" (lateUpload ++ [collect "gc-1" 5])
  obtain ⟨hpending, hupload, hpreparations⟩ :
      (project.gcOperations.get? "gc-1").map (·.receiptSnapshot.status) = some .pending ∧
      (project.versions.get? lateVersion).map (·.operationId) = some "upload-2" ∧
      ∀ entry ∈ project.versionOperations.entries,
        entry.2.receiptSnapshot.versionId = lateVersion → entry.1 = "upload-2" := by
    decide +kernel
  have htidy : (collectedCall "gc-1").Tidy project := by
    rintro input hinput - operation record hoperation - hrecord -
    rw [collectedCall, CoordinatorCall.finishGc.injEq] at hinput
    subst hinput
    rw [hoperation] at hpending
    rw [hrecord] at hupload
    refine ⟨Option.some.inj hpending, fun operationId preparation hfound hversion => ?_⟩
    have hid : record.operationId = "upload-2" := Option.some.inj hupload
    rw [hid]
    exact hpreparations _ (OrderedMap.mem_entries.mpr hfound) hversion
  obtain ⟨record, hrecord, -⟩ := Option.map_eq_some_iff.mp hupload
  obtain ⟨input, operation, hcall, -, -, -, hbegan, -⟩ :=
    (collections_own_record (TidyRun.concat _ _ hbefore (by decide) fun _ => htidy)).1 _ ⟨collectedCall "gc-1", 6⟩ [] lateVersion record rfl hrecord
      (by decide +kernel)
  obtain rfl := CoordinatorCall.finishGc.inj hcall
  exact ⟨record, hbegan⟩

open Sample in
/-- A completed collection that is finished again removes the record that another one marked, and
a version that was uploaded twice leaves a preparation without its record. -/
theorem collections_foreign_record :
    ¬ RemovesOwn (fun _ => "") compare "novel" (markedAgain ++ [⟨collectedCall "gc-1", 9⟩]) ∧
    ¬ ReplaysNothing (fun _ => "") compare "novel" (markedAgain ++ [⟨collectedCall "gc-1", 9⟩]) ∧
    ¬ PreparationsBacked (fun _ => "") compare "novel"
      (uploadedAgain ++ [⟨collectedCall "gc-1", 7⟩]) := by
  let project := projectAfter (fun _ => "") compare "novel" markedAgain
  obtain ⟨hcompleted, hmarked⟩ :
      (project.gcOperations.get? "gc-1").map (·.receiptSnapshot.status) = some .completed ∧
      (project.versions.get? lateVersion).isSome := by decide +kernel
  have hgone : (projectAfter (fun _ => "") compare "novel"
      (markedAgain ++ [⟨collectedCall "gc-1", 9⟩])).versions.get? lateVersion = none := by
    decide +kernel
  obtain ⟨record, hrecord⟩ := Option.isSome_iff_exists.mp hmarked
  obtain ⟨operation, hoperation, hstatus⟩ := Option.map_eq_some_iff.mp hcompleted
  refine ⟨fun h => ?_, fun h => ?_, fun h => ?_⟩
  · obtain ⟨input, other, hcall, -, hfound, hpending, -⟩ :=
      h _ _ [] lateVersion record rfl hrecord hgone
    obtain rfl := CoordinatorCall.finishGc.inj hcall
    rw [Option.some.inj (hoperation.symm.trans hfound), hpending] at hstatus
    cases hstatus
  · have hsame := h _ _ [] _ operation rfl rfl rfl hoperation hstatus
    rw [hsame, hrecord] at hgone
    cases hgone
  · let left := projectAfter (fun _ => "") compare "novel"
      (uploadedAgain ++ [⟨collectedCall "gc-1", 7⟩])
    obtain ⟨hleft, hmissing⟩ :
        (left.versionOperations.get? "upload-3").map (·.receiptSnapshot.versionId) =
          some lateVersion ∧ left.versions.get? lateVersion = none := by decide +kernel
    obtain ⟨preparation, hpreparation, hversion⟩ := Option.map_eq_some_iff.mp hleft
    obtain ⟨record, hfound⟩ := h "upload-3" preparation hpreparation
    rw [hversion] at hfound
    cases hmissing.symm.trans hfound

end Quillframe.Cloud
