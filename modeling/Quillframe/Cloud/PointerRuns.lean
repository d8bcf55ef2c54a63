import Quillframe.Cloud.CoordinatorSteps

/-!
# The project pointer

What each transaction does to the pointer and the version records of a project, and what holds of
them after every run.
-/
namespace Quillframe.Cloud

open Transaction

/-! ## Effects -/

def orphaned (version : ProjectVersionRecord) : ProjectVersionRecord :=
  { version with status := .orphan }

/-- What a call does to the pointer and the versions of its project. -/
inductive ProjectEffect : CoordinatorCall → ProjectStorage → ProjectStorage → Prop where
  | idle {call : CoordinatorCall} {before after : ProjectStorage}
      (pointer : after.pointer = before.pointer) (versions : after.versions = before.versions) :
      ProjectEffect call before after
  | prepared {input : ProjectVersionPreparationInput} {before after : ProjectStorage}
      {status : VersionStatus} {now pointerVersion : ℤ} (inactive : status ≠ .active)
      (new : before.versions.get? input.versionId = none)
      (pointer : after.pointer = before.pointer)
      (versions : after.versions =
        before.versions.insert input.versionId ⟨input, status, now, pointerVersion⟩) :
      ProjectEffect (.prepare input) before after
  | stale {input : ProjectPointerCasInput} {before after : ProjectStorage}
      {version : ProjectVersionRecord}
      (found : before.versions.get? input.next.versionId = some version)
      (asks : input.Asks version) (late : before.currentVersion ≠ input.expectedPointerVersion)
      (fresh : ∀ current, before.pointer = some current → replaysPointer input current = false)
      (pointer : after.pointer = before.pointer)
      (versions : after.versions =
        before.versions.insert input.next.versionId (orphaned version)) :
      ProjectEffect (.cas input) before after
  | moved {input : ProjectPointerCasInput} {before after : ProjectStorage}
      {version : ProjectVersionRecord} {now : ℤ} (state : input.next.state = .active)
      (found : before.versions.get? input.next.versionId = some version)
      (asks : input.Asks version)
      (current : before.currentVersion = input.expectedPointerVersion)
      (pointer : after.pointer = some (nextPointer input before.currentVersion now))
      (target : after.versions.get? input.next.versionId = some
        { version with status := .active, pointerVersion := before.currentVersion + 1 })
      (versions : ∀ versionId, versionId ≠ input.next.versionId →
        after.versions.get? versionId = if before.pointed = some versionId
          then (before.versions.get? versionId).map orphaned
          else before.versions.get? versionId) :
      ProjectEffect (.cas input) before after
  | deleted {input : ProjectTombstoneInput} {before after : ProjectStorage}
      {current : ProjectPointer} {now : ℤ} (found : before.pointer = some current)
      (version : current.pointerVersion = input.expectedPointerVersion)
      (active : current.state = .active)
      (pointer : after.pointer = some { current with
        state := .deleted, pointerVersion := current.pointerVersion + 1, updatedAt := now })
      (versions : ∀ versionId,
        after.versions.get? versionId = if before.pointed = some versionId
          then (before.versions.get? versionId).map orphaned
          else before.versions.get? versionId) :
      ProjectEffect (.tombstone input) before after
  | collecting {input : ProjectVersionGcInput} {before after : ProjectStorage}
      {version : ProjectVersionRecord}
      (found : before.versions.get? input.versionId = some version)
      (orphan : version.status = .orphan) (unpointed : before.pointed ≠ some input.versionId)
      (pointer : after.pointer = before.pointer)
      (versions : after.versions =
        before.versions.insert input.versionId { version with status := .gcPending }) :
      ProjectEffect (.beginGc input) before after
  | collected {input : ProjectVersionGcFinishInput} {before after : ProjectStorage}
      {version : ProjectVersionRecord}
      (found : before.versions.get? input.versionId = some version)
      (pending : version.status = .gcPending) (unpointed : before.pointed ≠ some input.versionId)
      (pointer : after.pointer = before.pointer)
      (versions : after.versions = before.versions.erase input.versionId) :
      ProjectEffect (.finishGc input) before after

/-- What a call does to the storage. -/
structure CoordinatorCall.Changes (call : CoordinatorCall) (before after : Storage) : Prop where
  effect : ProjectEffect call (before.projects call.projectId) (after.projects call.projectId)
  others : ∀ projectId, projectId ≠ call.projectId →
    after.projects projectId = before.projects projectId

section Effects

variable {storage storage' : Storage} {call : CoordinatorCall} {now : ℤ}

theorem CoordinatorCall.Changes.same : call.Changes storage storage :=
  ⟨.idle rfl rfl, fun _ _ => rfl⟩

/-- The records of the other versions after a version is marked as an orphan. -/
theorem get?_setStatus {project : ProjectStorage} {versionId : String}
    {version : ProjectVersionRecord} (hfound : project.versions.get? versionId = some version)
    (other : String) :
    (project.setStatus versionId version .orphan).versions.get? other =
      if some versionId = some other then (project.versions.get? other).map orphaned
      else project.versions.get? other := by
  by_cases hother : other = versionId
  · subst hother
    simp [ProjectStorage.setStatus, hfound, orphaned]
  · have hne : versionId ≠ other := Ne.symm hother
    simp [ProjectStorage.setStatus, OrderedMap.get?_insert_of_ne _ hother, hne]

theorem orphanPrevious_versions {projectId : String} {next : ProjectPointerNext}
    {project project' : ProjectStorage} (hnamed : project.pointed ≠ some "")
    (h : orphanPrevious projectId next project = .ok project') {versionId : String}
    (hother : versionId ≠ next.versionId) :
    project'.versions.get? versionId = if project.pointed = some versionId
      then (project.versions.get? versionId).map orphaned
      else project.versions.get? versionId := by
  cases hpointer : project.pointer with
  | none =>
    simp only [orphanPrevious, hpointer, Except.ok.injEq] at h
    simp [← h, ProjectStorage.pointed, hpointer]
  | some current =>
    have hpointed : project.pointed = current.versionId := by
      simp [ProjectStorage.pointed, hpointer]
    simp only [orphanPrevious, hpointer] at h
    cases hversion : current.versionId with
    | none =>
      simp only [hversion, Except.ok.injEq] at h
      simp [← h, hpointed, hversion]
    | some previousId =>
      rw [hpointed, hversion] at hnamed
      have hempty : previousId ≠ "" := fun he => hnamed (congrArg some he)
      simp only [hversion, hempty, false_or] at h
      rw [hpointed, hversion]
      by_cases hsame : previousId = next.versionId
      · simp only [hsame, if_true, Except.ok.injEq] at h
        rw [← h, if_neg]
        simpa [hsame] using Ne.symm hother
      · simp only [hsame, if_false, bind_eq_ok, fetch_eq_ok, require_eq_ok, pure_eq_ok,
          exists_const] at h
        obtain ⟨previous, hfound, -, -, -, -, rfl⟩ := h
        exact get?_setStatus hfound versionId

theorem orphanCurrent_versions {projectId : String} {current : ProjectPointer}
    {project project' : ProjectStorage} (hnamed : current.versionId ≠ some "")
    (h : orphanCurrent projectId current project = .ok project') :
    project'.pointer = project.pointer ∧ ∀ versionId,
      project'.versions.get? versionId = if current.versionId = some versionId
        then (project.versions.get? versionId).map orphaned
        else project.versions.get? versionId := by
  rw [orphanCurrent] at h
  cases hversion : current.versionId with
  | none =>
    simp only [hversion, Except.ok.injEq] at h
    simp [← h]
  | some currentId =>
    rw [hversion] at hnamed
    have hempty : currentId ≠ "" := fun he => hnamed (congrArg some he)
    simp only [hversion, hempty, if_false] at h
    cases hfound : project.versions.get? currentId with
    | none =>
      simp only [hfound, Except.ok.injEq] at h
      subst h
      refine ⟨rfl, fun versionId => ?_⟩
      by_cases hother : currentId = versionId
      · simp [← hother, hfound]
      · simp [hother]
    | some version =>
      simp only [hfound, bind_eq_ok, pure_eq_ok] at h
      obtain ⟨-, -, rfl⟩ := h
      exact ⟨rfl, fun versionId => get?_setStatus hfound versionId⟩

/-- Every step has its effect. -/
theorem ProjectStep.effect {binding : Option WorkspaceBinding} {before after : ProjectStorage}
    (h : ProjectStep binding now call before after) : ProjectEffect call before after := by
  cases h with
  | same => exact .idle rfl rfl
  | reprepared => exact .idle rfl rfl
  | prepared _ _ _ new _ state _ =>
    refine .prepared ?_ new rfl rfl
    rcases state with ⟨rfl, -⟩ | ⟨rfl, -⟩ <;> simp
  | stale found asks late fresh => exact .stale found asks late fresh rfl rfl
  | moved state named found asks current _ release =>
    refine .moved state found asks current rfl (by simp) fun versionId hversion => ?_
    rw [OrderedMap.get?_insert_of_ne _ hversion]
    exact orphanPrevious_versions named release hversion
  | deleted found checked version _ active release =>
    obtain ⟨hpointer, hversions⟩ := orphanCurrent_versions (assertPointer_versionId checked) release
    refine .deleted found version active hpointer fun versionId => ?_
    rw [ProjectStorage.pointed, found]
    exact hversions versionId
  | collecting _ _ found orphan unpointed _ => exact .collecting found orphan unpointed rfl rfl
  | finished => exact .idle rfl rfl
  | collected _ _ _ stored pending unpointed => exact .collected stored pending unpointed rfl rfl

theorem CoordinatorCall.Takes.changes (h : call.Takes now storage storage') :
    call.Changes storage storage' := ⟨h.step.effect, h.others⟩

theorem prepareProjectVersion_post (input : ProjectVersionPreparationInput) (now : ℤ) :
    Post ((CoordinatorCall.prepare input).Changes storage)
      (fun result => (CoordinatorCall.prepare input).Changes storage result.2)
      (prepareProjectVersion input now storage) :=
  (prepareProjectVersion_takes input now).imp (fun _ h => h.changes) fun _ h => h.changes

theorem casProjectPointer_post (input : ProjectPointerCasInput) (now : ℤ) :
    Post ((CoordinatorCall.cas input).Changes storage)
      (fun result => (CoordinatorCall.cas input).Changes storage result.2)
      (casProjectPointer input now storage) :=
  (casProjectPointer_takes input now).imp (fun _ h => h.changes) fun _ h => h.changes

theorem CoordinatorCall.apply_changes (sha256 : Json String → String)
    (localeCompare : String → String → Ordering) (call : CoordinatorCall) (now : ℤ)
    (storage : Storage) : call.Changes storage (call.apply sha256 localeCompare now storage) :=
  (call.apply_takes sha256 localeCompare now storage).changes

end Effects

/-! ## The invariant -/

/-- The active pointer and the active version record name each other. -/
structure ProjectStorage.Pointed (project : ProjectStorage) : Prop where
  active : ∀ versionId version, project.versions.get? versionId = some version →
    version.status = .active → ∃ pointer, project.pointer = some pointer ∧
      pointer.state = .active ∧ pointer.versionId = some versionId
  target : ∀ pointer, project.pointer = some pointer → pointer.state = .active →
    ∃ versionId version, pointer.versionId = some versionId ∧
      project.versions.get? versionId = some version ∧ version.status = .active ∧
      pointer.workspaceId = version.workspaceId ∧ pointer.objectKey = some version.objectKey ∧
      pointer.plaintextFingerprint = some version.plaintextFingerprint ∧
      pointer.pointerVersion = version.expectedPointerVersion + 1

section Invariant

variable {call : CoordinatorCall} {before after : ProjectStorage}

theorem ProjectStorage.Pointed.empty : ProjectStorage.empty.Pointed :=
  ⟨fun _ _ h => (nomatch h), fun _ h => (nomatch h)⟩

/-- Rewriting the record of a version that the active pointer does not name keeps the invariant. -/
theorem ProjectStorage.Pointed.rewrite {versionId : String}
    (h : before.Pointed) (hpointer : after.pointer = before.pointer)
    (hversions : ∀ other, other ≠ versionId →
      after.versions.get? other = before.versions.get? other)
    (hwritten : ∀ record, after.versions.get? versionId = some record → record.status ≠ .active)
    (hread : ∀ record, before.versions.get? versionId = some record → record.status ≠ .active) :
    after.Pointed := by
  refine ⟨fun other record hrecord hactive => ?_, fun pointer hcurrent hstate => ?_⟩
  · have hother : other ≠ versionId := by
      rintro rfl
      exact hwritten record hrecord hactive
    rw [hpointer]
    exact h.active other record (hversions other hother ▸ hrecord) hactive
  · obtain ⟨other, record, hnamed, hrecord, hactive, hrest⟩ :=
      h.target pointer (hpointer ▸ hcurrent) hstate
    have hother : other ≠ versionId := by
      rintro rfl
      exact hread record hrecord hactive
    exact ⟨other, record, hnamed, (hversions other hother).trans hrecord, hactive, hrest⟩

/-- A stale move never hits the version of the active pointer. -/
theorem not_active_of_stale {input : ProjectPointerCasInput} {version : ProjectVersionRecord}
    (h : before.Pointed) (hfound : before.versions.get? input.next.versionId = some version)
    (hasks : input.Asks version)
    (hfresh : ∀ current, before.pointer = some current → replaysPointer input current = false) :
    version.status ≠ .active := by
  intro hactive
  obtain ⟨pointer, hpointer, hstate, hnamed⟩ := h.active _ version hfound hactive
  obtain ⟨versionId, record, hversion, hrecord, -, hworkspace, hobject, hfingerprint, hnext⟩ :=
    h.target pointer hpointer hstate
  obtain rfl : versionId = input.next.versionId := by
    rw [hversion, Option.some.injEq] at hnamed
    exact hnamed
  obtain rfl : version = record := by
    rw [hfound, Option.some.injEq] at hrecord
    exact hrecord
  -- The pointer is where the call wants it, so the call is a replay.
  have hreplay := hfresh pointer hpointer
  simp [replaysPointer, hstate, hversion, hobject, hfingerprint, hworkspace, hnext,
    hasks.expected, hasks.workspace, hasks.object, hasks.fingerprint] at hreplay

theorem ProjectEffect.pointed (h : ProjectEffect call before after) (hbefore : before.Pointed) :
    after.Pointed := by
  cases h with
  | idle pointer versions =>
    exact ⟨versions ▸ pointer ▸ hbefore.active, versions ▸ pointer ▸ hbefore.target⟩
  | @prepared input _ _ status now pointerVersion inactive new pointer versions =>
    refine hbefore.rewrite pointer
      (fun other hother => by rw [versions, OrderedMap.get?_insert_of_ne _ hother])
      (fun record hrecord => ?_) (fun record hrecord => nomatch new.symm.trans hrecord)
    rw [versions, OrderedMap.get?_insert_self, Option.some.injEq] at hrecord
    exact hrecord ▸ inactive
  | @stale input _ _ version found asks late fresh pointer versions =>
    refine hbefore.rewrite pointer
      (fun other hother => by rw [versions, OrderedMap.get?_insert_of_ne _ hother])
      (fun record hrecord => ?_) (fun record hrecord => ?_)
    rotate_left
    · rw [found, Option.some.injEq] at hrecord
      exact hrecord ▸ not_active_of_stale hbefore found asks fresh
    rw [versions, OrderedMap.get?_insert_self, Option.some.injEq] at hrecord
    rw [← hrecord, orphaned]
    simp
  | @moved input _ _ version now state found asks current pointer target versions =>
    refine ⟨fun versionId record hrecord hactive => ?_, fun moved hmoved _ => ?_⟩
    · refine ⟨_, pointer, state, ?_⟩
      by_cases hversion : versionId = input.next.versionId
      · simp [nextPointer, hversion]
      · exfalso
        rw [versions versionId hversion] at hrecord
        split_ifs at hrecord with hpointed
        · obtain ⟨old, -, rfl⟩ := Option.map_eq_some_iff.mp hrecord
          cases hactive
        · obtain ⟨old, hold, -, hnamed⟩ := hbefore.active versionId record hrecord hactive
          exact hpointed (by simp [ProjectStorage.pointed, hold, hnamed])
    · rw [pointer, Option.some.injEq] at hmoved
      subst hmoved
      exact ⟨_, _, rfl, target, rfl, asks.workspace.symm, congrArg some asks.object.symm,
        congrArg some asks.fingerprint.symm, by simp [nextPointer, current, asks.expected]⟩
  | @deleted input _ _ current now found version active pointer versions =>
    refine ⟨fun versionId record hrecord hactive => ?_, fun moved hmoved hstate => ?_⟩
    · exfalso
      rw [versions versionId] at hrecord
      split_ifs at hrecord with hpointed
      · obtain ⟨old, -, rfl⟩ := Option.map_eq_some_iff.mp hrecord
        cases hactive
      · obtain ⟨old, hold, -, hnamed⟩ := hbefore.active versionId record hrecord hactive
        exact hpointed (by simp [ProjectStorage.pointed, hold, hnamed])
    · rw [pointer, Option.some.injEq] at hmoved
      subst hmoved
      cases hstate
  | @collecting input _ _ version found orphan unpointed pointer versions =>
    refine hbefore.rewrite pointer
      (fun other hother => by rw [versions, OrderedMap.get?_insert_of_ne _ hother])
      (fun record hrecord => ?_) (fun record hrecord => ?_)
    rotate_left
    · rw [found, Option.some.injEq] at hrecord
      simp [← hrecord, orphan]
    rw [versions, OrderedMap.get?_insert_self, Option.some.injEq] at hrecord
    simp [← hrecord]
  | @collected input _ _ version found pending unpointed pointer versions =>
    refine hbefore.rewrite pointer
      (fun other hother => by rw [versions, OrderedMap.get?_erase_of_ne _ hother])
      (fun record hrecord => ?_) (fun record hrecord => ?_)
    rotate_left
    · rw [found, Option.some.injEq] at hrecord
      simp [← hrecord, pending]
    rw [versions, OrderedMap.get?_erase_self] at hrecord
    cases hrecord

/-- A pointer that changes counts one more. -/
theorem ProjectEffect.pointer_cases (h : ProjectEffect call before after) :
    after.pointer = before.pointer ∨ ∃ pointer, after.pointer = some pointer ∧
      pointer.pointerVersion = before.currentVersion + 1 := by
  cases h with
  | idle pointer _ => exact .inl pointer
  | prepared _ _ pointer _ => exact .inl pointer
  | stale _ _ _ _ pointer _ => exact .inl pointer
  | moved _ _ _ _ pointer _ _ => exact .inr ⟨_, pointer, rfl⟩
  | deleted found _ _ pointer _ =>
    exact .inr ⟨_, pointer, by simp [ProjectStorage.currentVersion, found]⟩
  | collecting _ _ _ pointer _ => exact .inl pointer
  | collected _ _ _ pointer _ => exact .inl pointer

theorem ProjectEffect.currentVersion_le (h : ProjectEffect call before after) :
    before.currentVersion ≤ after.currentVersion := by
  rcases h.pointer_cases with hpointer | ⟨pointer, hpointer, hversion⟩
  · simp [ProjectStorage.currentVersion, hpointer]
  · have hafter : after.currentVersion = before.currentVersion + 1 := by
      simp [ProjectStorage.currentVersion, hpointer, hversion]
    omega

/-- Only a call that expects the current version moves the pointer. -/
theorem ProjectEffect.cas_moves {input : ProjectPointerCasInput}
    (h : ProjectEffect (.cas input) before after) (hmoves : after.pointer ≠ before.pointer) :
    before.currentVersion = input.expectedPointerVersion ∧
      after.currentVersion = input.expectedPointerVersion + 1 := by
  cases h with
  | idle pointer _ => exact absurd pointer hmoves
  | stale _ _ _ _ pointer _ => exact absurd pointer hmoves
  | moved _ _ _ current pointer _ _ =>
    refine ⟨current, ?_⟩
    rw [← current, ProjectStorage.currentVersion, pointer]
    rfl

end Invariant

structure TimedCall where
  call : CoordinatorCall
  now : ℤ

section CallRuns

variable (sha256 : Json String → String) (localeCompare : String → String → Ordering)

/-- The storage after the calls, each one transaction. -/
def runCalls (calls : List TimedCall) : Storage :=
  calls.foldl (fun storage timed => timed.call.apply sha256 localeCompare timed.now storage) .empty

/-- The pointer of the project changes when the call is made after the calls before it. -/
def movesPointer (before : List TimedCall) (timed : TimedCall) (projectId : String) : Prop :=
  ((runCalls sha256 localeCompare (before ++ [timed])).projects projectId).pointer ≠
    ((runCalls sha256 localeCompare before).projects projectId).pointer

theorem runCalls_concat (calls : List TimedCall) (timed : TimedCall) :
    runCalls sha256 localeCompare (calls ++ [timed]) =
      timed.call.apply sha256 localeCompare timed.now (runCalls sha256 localeCompare calls) := by
  simp [runCalls]

/-- A call has its effect on its own project and none on another. -/
theorem runCalls_effect (calls : List TimedCall) (timed : TimedCall) (projectId : String) :
    (timed.call.projectId = projectId ∧ ProjectEffect timed.call
      ((runCalls sha256 localeCompare calls).projects projectId)
      ((runCalls sha256 localeCompare (calls ++ [timed])).projects projectId)) ∨
    (timed.call.projectId ≠ projectId ∧
      (runCalls sha256 localeCompare (calls ++ [timed])).projects projectId =
        (runCalls sha256 localeCompare calls).projects projectId) := by
  rw [runCalls_concat]
  have hchanges := timed.call.apply_changes sha256 localeCompare timed.now
    (runCalls sha256 localeCompare calls)
  by_cases hproject : timed.call.projectId = projectId
  · exact .inl ⟨hproject, hproject ▸ hchanges.effect⟩
  · exact .inr ⟨hproject, hchanges.others projectId (Ne.symm hproject)⟩

theorem runCalls_pointed (calls : List TimedCall) (projectId : String) :
    ((runCalls sha256 localeCompare calls).projects projectId).Pointed := by
  induction calls using List.reverseRecOn with
  | nil => exact .empty
  | append_singleton calls timed ih =>
    rcases runCalls_effect sha256 localeCompare calls timed projectId with ⟨-, h⟩ | ⟨-, h⟩
    · exact h.pointed ih
    · exact h ▸ ih

theorem runCalls_currentVersion_le (before after : List TimedCall) (projectId : String) :
    ((runCalls sha256 localeCompare before).projects projectId).currentVersion ≤
      ((runCalls sha256 localeCompare (before ++ after)).projects projectId).currentVersion := by
  induction after using List.reverseRecOn with
  | nil => simp
  | append_singleton after timed ih =>
    rw [← List.append_assoc]
    rcases runCalls_effect sha256 localeCompare (before ++ after) timed projectId
      with ⟨-, h⟩ | ⟨-, h⟩
    · exact ih.trans h.currentVersion_le
    · exact h ▸ ih

variable {sha256 localeCompare}

theorem movesPointer_cas {before : List TimedCall} {timed : TimedCall} {projectId : String}
    {input : ProjectPointerCasInput} (hcall : timed.call = .cas input)
    (h : movesPointer sha256 localeCompare before timed projectId) :
    ((runCalls sha256 localeCompare before).projects projectId).currentVersion =
      input.expectedPointerVersion ∧
    ((runCalls sha256 localeCompare (before ++ [timed])).projects projectId).currentVersion =
      input.expectedPointerVersion + 1 := by
  rcases runCalls_effect sha256 localeCompare before timed projectId
    with ⟨-, heffect⟩ | ⟨-, hsame⟩
  · exact (hcall ▸ heffect).cas_moves h
  · exact absurd (congrArg ProjectStorage.pointer hsame) h

/-- The pointer of a project after every run of coordinator calls: one active version, which the
active pointer names; a count of its changes; and no two moves from one expected version. -/
theorem project_pointer_invariant (calls : List TimedCall) (projectId : String) :
    let project := (runCalls sha256 localeCompare calls).projects projectId
    (∀ first second version other, project.versions.get? first = some version →
      project.versions.get? second = some other → version.status = .active →
      other.status = .active → first = second) ∧
    (∀ pointer, project.pointer = some pointer → pointer.state = .active →
      ∃ versionId version, pointer.versionId = some versionId ∧
        project.versions.get? versionId = some version ∧ version.status = .active ∧
        pointer.objectKey = some version.objectKey ∧
        pointer.plaintextFingerprint = some version.plaintextFingerprint) ∧
    (∀ pointer versionId, project.pointer = some pointer → pointer.state = .active →
      pointer.versionId = some versionId → ∃ version,
        project.versions.get? versionId = some version ∧ version.status ≠ .gcPending) ∧
    (∀ timed, movesPointer sha256 localeCompare calls timed projectId →
      ∃ pointer, ((runCalls sha256 localeCompare (calls ++ [timed])).projects projectId).pointer =
          some pointer ∧ pointer.pointerVersion = project.currentVersion + 1) ∧
    (∀ before first between second after input other,
      calls = before ++ first :: between ++ second :: after →
      first.call = .cas input → second.call = .cas other →
      input.expectedPointerVersion = other.expectedPointerVersion →
      input.next.versionId ≠ other.next.versionId →
      ¬ (movesPointer sha256 localeCompare before first projectId ∧
        movesPointer sha256 localeCompare (before ++ first :: between) second projectId)) := by
  have hpointed := runCalls_pointed sha256 localeCompare calls projectId
  refine ⟨?_, ?_, ?_, ?_, ?_⟩
  · intro first second version other hfirst hsecond hversion hother
    obtain ⟨pointer, hpointer, -, hnamed⟩ := hpointed.active first version hfirst hversion
    obtain ⟨pointer', hpointer', -, hnamed'⟩ := hpointed.active second other hsecond hother
    rw [hpointer, Option.some.injEq] at hpointer'
    rw [← hpointer', hnamed] at hnamed'
    exact Option.some.inj hnamed'
  · intro pointer hpointer hstate
    obtain ⟨versionId, version, hnamed, hversion, hactive, -, hobject, hfingerprint, -⟩ :=
      hpointed.target pointer hpointer hstate
    exact ⟨versionId, version, hnamed, hversion, hactive, hobject, hfingerprint⟩
  · intro pointer versionId hpointer hstate hnamed
    obtain ⟨target, version, htarget, hversion, hactive, -⟩ :=
      hpointed.target pointer hpointer hstate
    rw [hnamed, Option.some.injEq] at htarget
    exact ⟨version, htarget ▸ hversion, by simp [hactive]⟩
  · intro timed hmoves
    rcases runCalls_effect sha256 localeCompare calls timed projectId with ⟨-, h⟩ | ⟨-, h⟩
    · exact h.pointer_cases.resolve_left hmoves
    · exact absurd (congrArg ProjectStorage.pointer h) hmoves
  · rintro before first between second after input other - hfirst hsecond hexpected - ⟨hmoves, hmoves'⟩
    obtain ⟨-, hafter⟩ := movesPointer_cas hfirst hmoves
    obtain ⟨hbefore, -⟩ := movesPointer_cas hsecond hmoves'
    have hle := runCalls_currentVersion_le sha256 localeCompare (before ++ [first]) between projectId
    rw [List.append_assoc, List.singleton_append] at hle
    omega

end CallRuns

end Quillframe.Cloud
