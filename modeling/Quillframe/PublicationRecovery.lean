import Quillframe.PublicationRuns

/-!
# Builds that are taken up again

A build that runs alone from what a crash left: it ends in a committed build, unless the stage
file was not written to its end.
-/
namespace Quillframe

open Procedure (look transact raise Succeeds)

variable {Fp : Type} [Sha256 Fp] [DecidableEq Fp]

/-! ## Files that are read -/

section Read

variable {s : PublicationStore Fp} {path : ArtifactRef Fp} {file maximumBytes : ℕ}
  {content : List UInt8}

/-- The handle of a file that has a name. -/
def FileGuard.held (s : PublicationStore Fp) (path : ArtifactRef Fp) (file : ℕ) : FileGuard Fp :=
  ⟨path, s.exports.identity file⟩

omit [Sha256 Fp] in
theorem linkCount_eq_one (hs : s.exports.Sound) (hfind : s.exports.find? path = some file) :
    (s.exports.identity file).linkCount = 1 := by
  rw [hs.identity_eq hfind]

omit [Sha256 Fp] in
theorem ofFile_succeeds (hs : s.exports.Sound) (hfind : s.exports.find? path = some file) :
    Succeeds (fun guard t => t = s ∧ guard = FileGuard.held s path file)
      (FileGuard.ofFile path file) s := by
  unfold FileGuard.ofFile
  apply Succeeds.look_bind rfl
  apply Succeeds.require_bind (linkCount_eq_one hs hfind)
  exact Succeeds.pure ⟨rfl, rfl⟩

omit [Sha256 Fp] in
theorem openRead_succeeds (hs : s.exports.Sound) (hfind : s.exports.find? path = some file) :
    Succeeds (fun guard t => t = s ∧ guard = FileGuard.held s path file)
      (FileGuard.openRead path) s := by
  unfold FileGuard.openRead
  apply Succeeds.look_bind (a := file)
  · exact Directory.openAt_eq_ok.mpr hfind
  exact ofFile_succeeds hs hfind

omit [Sha256 Fp] in
theorem revalidate_succeeds (hs : s.exports.Sound) (hfind : s.exports.find? path = some file)
    {guard : FileGuard Fp} (hguard : guard.Of path file s.exports.volumeId) :
    Succeeds (fun identity t => t = s ∧ identity = s.exports.identity file) guard.revalidate s := by
  obtain ⟨rfl, hvolume, hfile, hhigh⟩ := hguard
  have hguarded : guard.file = file := hfile
  have hsame : (s.exports.identity file).SameObject guard.identity :=
    ⟨hvolume.symm, hfile.symm, hhigh.symm⟩
  unfold FileGuard.revalidate
  rw [hguarded]
  apply Succeeds.look_bind rfl
  apply Succeeds.require_bind ⟨hsame, linkCount_eq_one hs hfind⟩
  apply (openRead_succeeds hs hfind).bind
  rintro reopened t ⟨rfl, rfl⟩
  apply Succeeds.require_bind ⟨rfl, rfl, rfl⟩
  exact Succeeds.pure ⟨rfl, rfl⟩

omit [Sha256 Fp] in
theorem readGuardedFile_succeeds (hs : s.exports.Sound)
    (hfind : s.exports.find? path = some file)
    (hcontent : s.exports.files[file]? = some content) (hsize : content.length ≤ maximumBytes) :
    Succeeds (fun result t => t = s ∧ result = (content, s.exports.identity file))
      (readGuardedFile path maximumBytes) s := by
  have hidentity : (s.exports.identity file).byteSize = content.length := by
    rw [hs.identity_eq hfind, List.getD_eq_getElem?_getD, hcontent, Option.getD_some]
  unfold readGuardedFile
  apply (openRead_succeeds hs hfind).bind
  rintro guard t ⟨rfl, rfl⟩
  apply (revalidate_succeeds hs hfind ⟨rfl, rfl, rfl, rfl⟩).bind
  rintro before u ⟨rfl, rfl⟩
  apply Succeeds.require_bind (hidentity.trans_le hsize)
  apply Succeeds.require_bind (hidentity.trans_le hsize)
  apply Succeeds.look_bind (a := content)
  · have hwhole : content.take (maximumBytes + 1) = content :=
      List.take_of_length_le (by omega)
    have hfile : (FileGuard.held u path file).file = file := rfl
    rw [hfile, List.getD_eq_getElem?_getD, hcontent, Option.getD_some, hwhole]
  apply Succeeds.require_bind hsize
  apply (revalidate_succeeds hs hfind ⟨rfl, rfl, rfl, rfl⟩).bind
  rintro after v ⟨rfl, rfl⟩
  apply Succeeds.require_bind ⟨⟨rfl, rfl, rfl⟩, hidentity.symm⟩
  exact Succeeds.pure ⟨rfl, rfl⟩

omit [Sha256 Fp] in
theorem identity_eq_stamp {plan : PublicationPlan Fp} (hs : s.exports.Sound)
    (hfind : s.exports.find? path = some file)
    (hwhole : s.exports.files[file]? = some plan.bytes) :
    s.exports.identity file = plan.stamp s.exports file := by
  rw [hs.identity_eq hfind, List.getD_eq_getElem?_getD, hwhole, Option.getD_some]
  rfl

end Read

/-! ## Files that are written -/

section Write

open PublicationStore

variable [CollisionFree Fp] {s : PublicationStore Fp} {plan : PublicationPlan Fp}
  {row : AttemptRow Fp} {c : Bool} {file : ℕ} {guard : FileGuard Fp}

theorem writeAll_succeeds (hplan : plan.Genuine) (hrow : row ∈ (s.tables c).attempts)
    (hid : row.buildId = plan.buildId) (hguard : guard.file = file) (hs : s.Sound)
    (hfind : s.exports.find? row.stageRef = some file) {bytes content : List UInt8}
    (hcontent : s.exports.files[file]? = some content) (hbytes : content ++ bytes = plan.bytes) :
    Succeeds (fun _ t => ∃ exports, t = { s with exports } ∧ t.Sound ∧
        exports.volumeId = s.exports.volumeId ∧
        (∀ name, exports.find? name = s.exports.find? name) ∧
        exports.files[file]? = some plan.bytes)
      (guard.writeAll bytes content.length) s := by
  induction bytes generalizing s content with
  | nil =>
    rw [List.append_nil] at hbytes
    exact Succeeds.pure ⟨s.exports, rfl, hs, rfl, fun _ => rfl, hbytes ▸ hcontent⟩
  | cons byte rest ih =>
    have hbyte : plan.bytes[content.length]? = some byte := by
      rw [← hbytes, List.getElem?_append_right le_rfl, Nat.sub_self, List.getElem?_cons_zero]
    obtain ⟨hsound, -⟩ := hs.write hplan hrow hid (.inl hfind) hcontent le_rfl hbyte
    have hwritten : writeAt content content.length byte = content ++ [byte] := by
      unfold writeAt
      rw [List.take_length, List.drop_eq_nil_of_le (Nat.le_succ _)]
    have hcontent' : (s.exports.write file content.length byte).files[file]? =
        some (content ++ [byte]) := by
      rw [Directory.files_write, if_pos rfl, hcontent, Option.map_some, hwritten]
    unfold FileGuard.writeAll
    rw [hguard]
    apply Succeeds.transact_bind rfl
    have hrest := ih (s := { s with exports := s.exports.write file content.length byte })
      hrow hsound hfind hcontent' (by rw [List.append_assoc]; exact hbytes)
    rw [List.length_append, List.length_singleton] at hrest
    exact hrest

/-- The stage file of an attempt: whole, and not published. -/
structure StagesWhole (s : PublicationStore Fp) (plan : PublicationPlan Fp) (row : AttemptRow Fp)
    (file : ℕ) : Prop where
  stage : s.exports.find? row.stageRef = some file
  absent : s.exports.find? row.finalRef = none
  whole : s.exports.files[file]? = some plan.bytes

theorem writeStageNew_succeeds (hplan : plan.Genuine) (hrow : row ∈ (s.tables c).attempts)
    (hid : row.buildId = plan.buildId) (hs : s.Sound)
    (hstage : s.exports.find? row.stageRef = none)
    (hfinal : s.exports.find? row.finalRef = none) :
    Succeeds (fun guard t => ∃ exports file, t = { s with exports } ∧ t.Sound ∧
        guard.Of row.stageRef file t.exports.volumeId ∧ StagesWhole t plan row file ∧
        exports.volumeId = s.exports.volumeId)
      (writeStageNew row.stageRef plan.bytes) s := by
  obtain ⟨file, exports, hcreate⟩ : ∃ file exports,
      s.exports.create row.stageRef = .ok (file, exports) := by
    simp only [Directory.create, bind_eq_ok, require_eq_ok, pure_eq_ok, Prod.mk.injEq]
    exact ⟨_, _, (), hstage, rfl, rfl⟩
  have hsound := hs.create hrow hcreate
  have hfind : exports.find? row.stageRef = some file := by
    rw [Directory.find?_create hcreate, if_pos rfl]
  have hempty : exports.files[file]? = some [] := by
    rw [Directory.files_create hcreate, if_pos rfl]
  have habsent : exports.find? row.finalRef = none := by
    have hplaced := (hs.placed_of_buildId hplan hrow hid).2
    rw [Directory.find?_create hcreate, if_neg hplaced.refs_ne]
    exact hfinal
  have hcreated : Succeeds (fun guard t => t = { s with exports } ∧
      guard = FileGuard.held { s with exports } row.stageRef file)
      (FileGuard.createStage row.stageRef) s := by
    unfold FileGuard.createStage
    apply Succeeds.transact_bind (a := file) (t := { s with exports })
    · rw [hcreate]
      rfl
    · exact ofFile_succeeds hsound.exports hfind
  have hrow' : row ∈ (({ s with exports } : PublicationStore Fp).tables c).attempts := hrow
  have hguard : (FileGuard.held { s with exports } row.stageRef file).file = file := rfl
  unfold writeStageNew
  apply hcreated.bind
  rintro guard t ⟨rfl, rfl⟩
  apply (writeAll_succeeds hplan hrow' hid hguard hsound hfind hempty (List.nil_append _)).bind
  rintro _ t ⟨written, rfl, hwritten, hvolume, hnames, hwhole⟩
  have hstage' : written.find? row.stageRef = some file := (hnames _).trans hfind
  have hof : (FileGuard.held { s with exports } row.stageRef file).Of row.stageRef file
      written.volumeId := ⟨rfl, hvolume.symm, rfl, rfl⟩
  apply (revalidate_succeeds hwritten.exports hstage' hof).bind
  rintro identity t ⟨rfl, rfl⟩
  apply Succeeds.require_bind
  · rw [identity_eq_stamp hwritten.exports hstage' hwhole]
    rfl
  exact Succeeds.pure ⟨written, file, rfl, hwritten, hof,
    ⟨hstage', (hnames _).trans habsent, hwhole⟩,
    hvolume.trans (by rw [(Directory.create_eq_ok hcreate).2.2])⟩

omit [DecidableEq Fp] [CollisionFree Fp] in
theorem bytes_length_le (hplan : plan.Genuine) : plan.bytes.length ≤ maxArtifactBytes := by
  obtain ⟨sources, hmake, -, -⟩ := hplan
  obtain ⟨-, -, -, -, -, -, -, hsize⟩ := makePlan_fields hmake
  exact hsize

omit [CollisionFree Fp] in
theorem readPlan_succeeds (hplan : plan.Genuine) (hs : s.Sound) {path : ArtifactRef Fp}
    (hfind : s.exports.find? path = some file)
    (hwhole : s.exports.files[file]? = some plan.bytes) :
    Succeeds (fun result t => t = s ∧ result = (plan.bytes, plan.stamp s.exports file))
      (readGuardedFile path maxArtifactBytes) s := by
  rw [← identity_eq_stamp hs.exports hfind hwhole]
  exact readGuardedFile_succeeds hs.exports hfind hwhole (bytes_length_le hplan)

theorem validateArtifactBytes_plan (hplan : plan.Genuine) :
    validateArtifactBytes plan.bytes plan.artifactFingerprint plan.byteSize = .ok () :=
  (validateArtifactBytes_eq_ok hplan).mpr rfl

omit [Sha256 Fp] [DecidableEq Fp] [CollisionFree Fp] in
theorem requireIdentity_stamp (plan : PublicationPlan Fp) (exports : Directory (ArtifactRef Fp))
    (file : ℕ) :
    requireIdentity (plan.stamp exports file) (plan.stamp exports file) = .ok () :=
  require_eq_ok.mpr ⟨⟨rfl, rfl, rfl⟩, rfl, rfl⟩

/-- A stage file that a crash left is not torn. -/
def Mendable (s : PublicationStore Fp) (plan : PublicationPlan Fp) (row : AttemptRow Fp) : Prop :=
  s.exports.find? row.finalRef = none → ∀ file, s.exports.find? row.stageRef = some file →
    s.exports.files[file]? = some plan.bytes

theorem stageIdentity_succeeds (hplan : plan.Genuine) (hrow : row ∈ (s.tables c).attempts)
    (hid : row.buildId = plan.buildId) (hs : s.Sound)
    (hfinal : s.exports.find? row.finalRef = none) (hmend : Mendable s plan row) :
    Succeeds (fun identity t => ∃ exports file, t = { s with exports } ∧ t.Sound ∧
        identity = plan.stamp t.exports file ∧ StagesWhole t plan row file ∧
        exports.volumeId = s.exports.volumeId)
      (stageIdentity plan row) s := by
  have hplaced := (hs.placed_of_buildId hplan hrow hid).2
  unfold stageIdentity pathExists
  apply Succeeds.look_bind rfl
  cases hstage : s.exports.find? row.stageRef with
  | some file =>
    have hwhole := hmend hfinal file hstage
    apply (readPlan_succeeds hplan hs hstage hwhole).bind
    rintro result t ⟨rfl, rfl⟩
    apply Succeeds.raise_bind (validateArtifactBytes_plan hplan)
    apply Succeeds.raise_bind (a := ())
    · rcases hplaced.progress with hbegun | ⟨other, -, hrecorded, hstaged | hmoved⟩
      · rw [hbegun.stage]
      · obtain rfl := Option.some.inj (hstaged.named.symm.trans hstage)
        rw [hrecorded]
        exact requireIdentity_stamp plan _ _
      · cases hfinal.symm.trans hmoved.named
    exact Succeeds.pure ⟨t.exports, file, rfl, hs, rfl, ⟨hstage, hfinal, hwhole⟩, rfl⟩
  | none =>
    have hnone : row.stageIdentity = none := by
      rcases hplaced.progress with hbegun | ⟨other, -, -, hstaged | hmoved⟩
      · exact hbegun.stage
      · cases hstage.symm.trans hstaged.named
      · cases hfinal.symm.trans hmoved.named
    apply Succeeds.require_bind hnone
    apply (writeStageNew_succeeds hplan hrow hid hs hstage hfinal).bind
    rintro guard t ⟨exports, file, rfl, hsound, hof, hwhole, hvolume⟩
    obtain ⟨identity, u, halone, rfl, rfl⟩ := revalidate_succeeds hsound.exports hwhole.stage hof
    exact ⟨_, _, halone, exports, file, rfl, hsound,
      identity_eq_stamp hsound.exports hwhole.stage hwhole.whole, hwhole, hvolume⟩

/-! ## Rows that advance -/

variable {hit : AttemptRow Fp → Bool} {change : AttemptRow Fp → AttemptRow Fp}
  {error : CoreError} {updatedAt : String}

omit [Sha256 Fp] [CollisionFree Fp] in
/-- The update hits the row of the attempt. -/
theorem updateAttempt_succeeds (hkeys : ((s.tables plan.collection).attempts.map (·.buildId)).Nodup)
    (hrow : row ∈ (s.tables plan.collection).attempts) (hid : row.buildId = plan.buildId)
    (hhit : hit row = true) (hchange : ∀ row, (change row).buildId = row.buildId) :
    s.updateAttempt plan hit change error = .ok (s.withTables plan.collection
      ((s.tables plan.collection).advance (change row) [])) := by
  have hsame : ∀ other ∈ (s.tables plan.collection).attempts,
      (decide (other.buildId = plan.buildId) && hit other) =
        decide (other.buildId = plan.buildId) := by
    intro other hother
    by_cases hid' : other.buildId = plan.buildId
    · obtain rfl := Table.eq_of_key_eq hkeys hother hrow (hid'.trans hid.symm)
      simp [hid', hhit]
    · simp [hid']
  have hcount : (s.tables plan.collection).attempts.countP
      (fun other => decide (other.buildId = plan.buildId) && hit other) = 1 := by
    rw [List.countP_eq_length_filter, List.filter_congr hsame,
      Table.filter_key hkeys, ← hid, Table.lookup_of_mem hkeys hrow]
    rfl
  obtain ⟨t, ht⟩ : ∃ t, s.updateAttempt plan hit change error = .ok t := by
    simp only [updateAttempt, bind_eq_ok, require_eq_ok, pure_eq_ok]
    exact ⟨_, (), hcount, rfl⟩
  obtain ⟨other, hother, hid', -, rfl⟩ := updateAttempt_eq_ok ht hkeys hchange
  obtain rfl := Table.eq_of_key_eq hkeys hother hrow (hid'.trans hid.symm)
  exact ht

/-- The attempt of a plan in a store, and what builds leave alone until they commit. -/
structure Stands (s : PublicationStore Fp) (plan : PublicationPlan Fp) (row : AttemptRow Fp)
    (project : Database Fp) (builds : List (BuildRow Fp)) : Prop where
  sound : s.Sound
  mem : row ∈ (s.tables plan.collection).attempts
  id : row.buildId = plan.buildId
  project : s.project = project
  builds : (s.tables plan.collection).builds = builds

variable {row' : AttemptRow Fp} {project : Database Fp} {builds : List (BuildRow Fp)}
  {t : PublicationStore Fp}

omit [CollisionFree Fp] in
theorem Stands.withExports (h : Stands s plan row project builds)
    {exports : Directory (ArtifactRef Fp)}
    (hsound : ({ s with exports } : PublicationStore Fp).Sound) :
    Stands { s with exports } plan row project builds :=
  ⟨hsound, h.mem, h.id, h.project, h.builds⟩

omit [CollisionFree Fp] in
theorem Stands.advance (h : Stands s plan row project builds) (hadvance : row.Advance row')
    (hsound : (s.withTables plan.collection
      ((s.tables plan.collection).advance row' [])).Sound) :
    Stands (s.withTables plan.collection ((s.tables plan.collection).advance row' [])) plan row'
      project builds := by
  refine ⟨hsound, ?_, hadvance.refs.1.trans h.id, ?_, ?_⟩
  · rw [tables_withTables, if_pos rfl]
    exact mem_advance.mpr ⟨row, h.mem, by rw [if_pos hadvance.refs.1.symm]⟩
  · rw [project_withTables]
    exact h.project
  · rw [tables_withTables, if_pos rfl, BuildTables.advance, List.append_nil]
    exact h.builds

omit [CollisionFree Fp] in
theorem Stands.loadAttempt (h : Stands s plan row project builds) :
    s.loadAttempt plan = .ok row := by
  unfold PublicationStore.loadAttempt
  rw [← h.id, Table.lookup_of_mem (h.sound.attempts plan.collection) h.mem]
  rfl

theorem Stands.placed (h : Stands s plan row project builds) (hplan : plan.Genuine) :
    row.Placed plan s.exports :=
  (h.sound.placed_of_buildId hplan h.mem h.id).2

/-! ## Attempts that are driven -/

omit [CollisionFree Fp] in
theorem recordStage_eq (h : Stands s plan row project builds) (hstate : row.state = .staged)
    (hnone : row.stageIdentity = none) (identity : FileIdentity) (updatedAt : String) :
    s.recordStage plan row identity updatedAt =
      .ok ((), s.withTables plan.collection ((s.tables plan.collection).advance { row with
        stageIdentity := some identity, stateVersion := row.stateVersion + 1, updatedAt } [])) := by
  unfold PublicationStore.recordStage
  rw [updateAttempt_succeeds (h.sound.attempts _) h.mem h.id]
  · rfl
  · simp [hstate, hnone]
  · exact fun _ => rfl

omit [CollisionFree Fp] in
theorem updatePublished_eq (h : Stands s plan row project builds) (hstate : row.state = .staged)
    (identity : FileIdentity) (updatedAt : String) :
    s.updatePublished plan row identity updatedAt =
      .ok ((), s.withTables plan.collection ((s.tables plan.collection).advance { row with
        state := .published, finalIdentity := some identity, durability := some linuxDurability
        stateVersion := row.stateVersion + 1, updatedAt } [])) := by
  unfold PublicationStore.updatePublished
  rw [updateAttempt_succeeds (h.sound.attempts _) h.mem h.id]
  · rfl
  · simp [hstate]
  · exact fun _ => rfl

theorem recordedAttempt_succeeds (hplan : plan.Genuine) (h : Stands s plan row project builds)
    (hstage : StagesWhole s plan row file) (hstate : row.state = .staged) :
    Succeeds (fun attempt t => Stands t plan attempt project builds ∧
        StagesWhole t plan attempt file ∧ attempt.state = .staged ∧
        attempt.stageIdentity = some (plan.stamp t.exports file) ∧
        attempt.stageRef = row.stageRef ∧ attempt.finalRef = row.finalRef ∧
        t.exports.volumeId = s.exports.volumeId)
      (recordedAttempt plan row (plan.stamp s.exports file) updatedAt) s := by
  unfold recordedAttempt
  split
  · next hnone =>
    have hrecord := recordStage_eq h hstate hnone (plan.stamp s.exports file) updatedAt
    have hsound := h.sound.recordStage hplan (fun other hother hid _ => by
      obtain rfl := h.sound.eq_of_buildId hother h.mem (hid.trans h.id.symm)
      exact hstage.stage) hstage.whole rfl hrecord
    have hstands := h.advance (.record (plan.stamp s.exports file) updatedAt hstate hnone) hsound.1
    apply Succeeds.transact_bind hrecord
    apply Succeeds.look
    · exact hstands.loadAttempt
    refine ⟨hstands, ?_, hstate, ?_, rfl, rfl, ?_⟩
    · constructor <;> rw [exports_withTables]
      · exact hstage.stage
      · exact hstage.absent
      · exact hstage.whole
    · rw [exports_withTables]
    · rw [exports_withTables]
  · next hsome =>
    refine Succeeds.pure ⟨h, hstage, hstate, ?_, rfl, rfl, rfl⟩
    rcases (h.placed hplan).progress with hbegun | ⟨other, -, hrecorded, hstaged | hmoved⟩
    · exact absurd hbegun.stage hsome
    · obtain rfl := Option.some.inj (hstaged.named.symm.trans hstage.stage)
      exact hrecorded
    · cases hstage.absent.symm.trans hmoved.named

/-- The final file goes on record. -/
theorem updatePublished_succeeds (hplan : plan.Genuine) (h : Stands s plan row project builds)
    (hfinal : s.exports.find? row.finalRef = some file) (hstate : row.state = .staged) :
    Succeeds (fun _ t => ∃ row', Stands t plan row' project builds ∧ row'.state = .published)
      (transact fun store =>
        store.updatePublished plan row (plan.stamp s.exports file) updatedAt) s := by
  have hpublish := updatePublished_eq h hstate (plan.stamp s.exports file) updatedAt
  rw [(h.placed hplan).finalRef] at hfinal
  have hsound := h.sound.updatePublished hplan hfinal rfl hpublish
  apply Succeeds.transact hpublish
  exact ⟨_, h.advance (.publish (plan.stamp s.exports file) updatedAt hstate) hsound.1, rfl⟩

theorem adoptFinal_succeeds (hplan : plan.Genuine) (h : Stands s plan row project builds)
    (hfinal : s.exports.find? row.finalRef = some file) (hopen : row.state ≠ .committed) :
    Succeeds (fun _ t => ∃ row', Stands t plan row' project builds ∧ row'.state = .published)
      (adoptFinal plan row updatedAt) s := by
  obtain ⟨hwhole, hrecorded, hreceipts⟩ := (h.placed hplan).of_final hfinal
  unfold adoptFinal
  apply Succeeds.raise_bind (fetch_eq_ok.mpr hrecorded)
  apply (readPlan_succeeds hplan h.sound hfinal hwhole).bind
  rintro result t ⟨rfl, rfl⟩
  apply Succeeds.raise_bind (validateArtifactBytes_plan hplan)
  apply Succeeds.raise_bind (requireIdentity_stamp plan _ _)
  split
  · next hstate => exact updatePublished_succeeds hplan h hfinal hstate
  · next hstate =>
    refine Succeeds.pure ⟨row, h, ?_⟩
    rcases hreceipts with ⟨hstaged, -⟩ | ⟨-, -, ⟨hpublished, -⟩ | ⟨hcommitted, -⟩⟩
    · exact absurd hstaged hstate
    · exact hpublished
    · exact absurd hcommitted hopen

theorem publishStagedNoreplace_succeeds (h : Stands s plan row project builds)
    (hstage : StagesWhole s plan row file)
    (hrecorded : row.stageIdentity = some (plan.stamp s.exports file)) :
    Succeeds (fun guard t => Stands t plan row project builds ∧
        guard.Of row.finalRef file t.exports.volumeId ∧
        t.exports.find? row.finalRef = some file ∧ t.exports.volumeId = s.exports.volumeId)
      (publishStagedNoreplace row.stageRef row.finalRef (plan.stamp s.exports file)) s := by
  have hidentity := identity_eq_stamp h.sound.exports hstage.stage hstage.whole
  obtain ⟨exports, hrename⟩ : ∃ exports,
      s.exports.rename row.stageRef row.finalRef = .ok exports := by
    simp only [Directory.rename, bind_eq_ok, fetch_eq_ok, require_eq_ok, pure_eq_ok]
    exact ⟨_, file, hstage.stage, (), hstage.absent, rfl⟩
  obtain ⟨hsound, -⟩ := h.sound.rename h.mem (by simp [hrecorded]) hrename
  have hfinal : exports.find? row.finalRef = some file := by
    rw [Directory.find?_rename hrename, if_pos rfl]
    exact hstage.stage
  have hvolume : exports.volumeId = s.exports.volumeId := by
    rw [(Directory.rename_eq_ok hrename).2.2]
  have hwhole : exports.files[file]? = some plan.bytes := by
    rw [(Directory.rename_eq_ok hrename).2.2]
    exact hstage.whole
  have hidentity' := identity_eq_stamp (s := { s with exports }) hsound.exports hfinal hwhole
  unfold publishStagedNoreplace
  apply (openRead_succeeds h.sound.exports hstage.stage).bind
  rintro guard t ⟨rfl, rfl⟩
  apply (revalidate_succeeds h.sound.exports hstage.stage ⟨rfl, rfl, rfl, rfl⟩).bind
  rintro staged t ⟨rfl, rfl⟩
  apply Succeeds.require_bind (by rw [hidentity]; exact ⟨⟨rfl, rfl, rfl⟩, rfl⟩)
  apply Succeeds.transact_bind (a := ()) (t := { t with exports })
  · rw [hrename]
    rfl
  apply (openRead_succeeds (s := { t with exports }) hsound.exports hfinal).bind
  rintro published u ⟨rfl, rfl⟩
  apply (revalidate_succeeds hsound.exports hfinal ⟨rfl, rfl, rfl, rfl⟩).bind
  rintro identity u ⟨rfl, rfl⟩
  apply Succeeds.require_bind
  · rw [hidentity']
    exact ⟨⟨hvolume, rfl, rfl⟩, rfl⟩
  exact Succeeds.pure ⟨h.withExports hsound, ⟨rfl, rfl, rfl, rfl⟩, hfinal, hvolume⟩

theorem publishStage_succeeds {initial : AttemptRow Fp} (hplan : plan.Genuine)
    (h : Stands s plan row project builds) (hstage : StagesWhole s plan row file)
    (hstate : row.state = .staged)
    (hrecorded : row.stageIdentity = some (plan.stamp s.exports file))
    (hstageRef : initial.stageRef = row.stageRef) (hfinalRef : initial.finalRef = row.finalRef) :
    Succeeds (fun _ t => ∃ row', Stands t plan row' project builds ∧ row'.state = .published)
      (publishStage plan initial row (plan.stamp s.exports file) updatedAt) s := by
  unfold publishStage
  rw [hstageRef, hfinalRef]
  apply Succeeds.raise_bind (fetch_eq_ok.mpr hrecorded)
  apply Succeeds.raise_bind (requireIdentity_stamp plan _ _)
  apply (publishStagedNoreplace_succeeds h hstage hrecorded).bind
  rintro published t ⟨hstands, hof, hfinal, -⟩
  obtain ⟨hwhole, -, -⟩ := (hstands.placed hplan).of_final hfinal
  have hidentity := identity_eq_stamp hstands.sound.exports hfinal hwhole
  apply (revalidate_succeeds hstands.sound.exports hfinal hof).bind
  rintro identity u ⟨rfl, rfl⟩
  apply (readPlan_succeeds hplan hstands.sound hfinal hwhole).bind
  rintro result v ⟨rfl, rfl⟩
  apply Succeeds.raise_bind (validateArtifactBytes_plan hplan)
  rw [hidentity]
  apply Succeeds.raise_bind (requireIdentity_stamp plan _ _)
  exact updatePublished_succeeds hplan hstands hfinal hstate

theorem stageAndPublish_succeeds (hplan : plan.Genuine) (h : Stands s plan row project builds)
    (hfinal : s.exports.find? row.finalRef = none) (hstate : row.state = .staged)
    (hmend : Mendable s plan row) :
    Succeeds (fun _ t => ∃ row', Stands t plan row' project builds ∧ row'.state = .published)
      (stageAndPublish plan row updatedAt) s := by
  unfold stageAndPublish
  apply Succeeds.require_bind (by simp [hstate])
  apply (stageIdentity_succeeds hplan h.mem h.id h.sound hfinal hmend).bind
  rintro identity t ⟨exports, file, rfl, hsound, rfl, hstage, -⟩
  have hstands := h.withExports hsound
  apply (recordedAttempt_succeeds hplan hstands hstage hstate).bind
  rintro attempt u ⟨hstands', hstage', hstate', hrecorded, hstageRef, hfinalRef, hvolume⟩
  have hstamp : plan.stamp exports file = plan.stamp u.exports file := by
    rw [PublicationPlan.stamp, PublicationPlan.stamp, hvolume]
  rw [show plan.stamp ({ s with exports } : PublicationStore Fp).exports file =
    plan.stamp u.exports file from hstamp]
  exact publishStage_succeeds hplan hstands' hstage' hstate' hrecorded hstageRef.symm
    hfinalRef.symm

omit [Sha256 Fp] [CollisionFree Fp] in
theorem bothExist_succeeds (hcalm : s.exports.find? row.finalRef = none ∨
      s.exports.find? row.stageRef = none) :
    Succeeds (fun both t => t = s ∧ both = false) (bothExist row) s := by
  unfold bothExist pathExists
  apply Succeeds.look_bind rfl
  cases hstage : s.exports.find? row.stageRef with
  | none => exact Succeeds.pure ⟨rfl, rfl⟩
  | some file =>
    have hfinal := hcalm.resolve_right (by simp [hstage])
    exact Succeeds.look rfl ⟨rfl, by rw [hfinal]; rfl⟩

theorem drivePublicationFiles_succeeds (hplan : plan.Genuine)
    (h : Stands s plan row project builds) (hcalm : s.Calm) (htoken : row.ownerToken ≠ "")
    (hopen : row.state ≠ .committed) (hmend : Mendable s plan row) :
    Succeeds (fun _ t => ∃ row', Stands t plan row' project builds ∧ row'.state = .published)
      (drivePublicationFiles plan row updatedAt) s := by
  have hplaced := h.placed hplan
  have hfailed : row.state ≠ .failed := by
    rcases hplaced.progress with hbegun | ⟨file, -, -, hstaged | hmoved⟩
    · simp [hbegun.state]
    · simp [hstaged.state]
    · rcases hmoved.receipts with ⟨hstate, -⟩ | ⟨-, -, ⟨hstate, -⟩ | ⟨hstate, -⟩⟩ <;> simp [hstate]
  have hone : s.exports.find? row.finalRef = none ∨ s.exports.find? row.stageRef = none := by
    cases hfinal : s.exports.find? row.finalRef with
    | none => exact .inl rfl
    | some file => exact .inr (hcalm _ row h.mem file hfinal)
  unfold drivePublicationFiles
  apply Succeeds.require_bind hfailed
  rw [if_neg hopen]
  apply Succeeds.require_bind
  · refine ⟨htoken, hplaced.finalRef, ?_⟩
    rw [hplaced.stageRef]
  apply (bothExist_succeeds hone).bind
  rintro both t ⟨rfl, rfl⟩
  apply Succeeds.require_bind (by simp)
  unfold pathExists
  apply Succeeds.look_bind rfl
  cases hfinal : t.exports.find? row.finalRef with
  | some file => exact adoptFinal_succeeds hplan h hfinal hopen
  | none =>
    refine stageAndPublish_succeeds hplan h hfinal ?_ hmend
    rcases hplaced.progress with hbegun | ⟨file, -, -, hstaged | hmoved⟩
    · exact hbegun.state
    · exact hstaged.state
    · cases hfinal.symm.trans hmoved.named

/-! ## Attempts that are committed -/

/-- No other build of the same sources is committed. -/
def Unrivalled (builds : List (BuildRow Fp)) (plan : PublicationPlan Fp) : Prop :=
  ∀ build ∈ builds, ¬ (build.sourceAcceptanceIds = plan.sourceAcceptanceIds ∧
    build.format = plan.format ∧ build.sourceFingerprint = plan.sourceFingerprint ∧
    build.compilerContract = plan.compiler)

/-- The build of the plan is committed. -/
def PublicationStore.Built (s : PublicationStore Fp) (plan : PublicationPlan Fp) : Prop :=
  ∃ build ∈ (s.tables plan.collection).builds, build.buildId = plan.buildId

omit [CollisionFree Fp] in
theorem commitBuild_succeeds (h : Stands s plan row project builds)
    (hstate : row.state = .published) (hrebuilt : project.rebuildPlan plan = .ok plan)
    (hrival : Unrivalled builds plan)
    (hfresh : ∀ build ∈ builds, build.buildId ≠ plan.buildId) (identity : FileIdentity)
    (durability : Json Fp) (updatedAt : String) :
    ∃ t, s.commitBuild plan row identity durability updatedAt = .ok ((), t) ∧
      t.Built plan := by
  have hattempts : ∀ builds, ((s.withTables plan.collection
      { s.tables plan.collection with builds }).tables plan.collection).attempts =
        (s.tables plan.collection).attempts := by
    intro builds
    rw [tables_withTables, if_pos rfl]
  refine ⟨(s.withTables plan.collection { s.tables plan.collection with
      builds := builds ++ [plan.build identity durability updatedAt] }).withTables plan.collection
        (((s.withTables plan.collection { s.tables plan.collection with
          builds := builds ++ [plan.build identity durability updatedAt] }).tables
            plan.collection).advance { row with
              state := .committed, stateVersion := row.stateVersion + 1, updatedAt } []), ?_, ?_⟩
  · simp only [PublicationStore.commitBuild, bind_eq_ok, require_eq_ok, pure_eq_ok, h.project,
      h.builds]
    refine ⟨plan, hrebuilt, (), ⟨rfl, rfl⟩, (), hfresh, (), hrival, _,
      updateAttempt_succeeds ?_ ?_ h.id ?_ fun _ => rfl, rfl⟩
    · rw [hattempts]
      exact h.sound.attempts _
    · rw [hattempts]
      exact h.mem
    · simp [hstate]
  · refine ⟨plan.build identity durability updatedAt, ?_, rfl⟩
    simp [BuildTables.advance]

theorem finalizeBuild_succeeds (hplan : plan.Genuine) (h : Stands s plan row project builds)
    (hstate : row.state = .published) (hrebuilt : project.rebuildPlan plan = .ok plan)
    (hrival : Unrivalled builds plan) :
    Succeeds (fun _ t => t.Built plan) (finalizeBuild plan updatedAt) s := by
  obtain ⟨file, hfinal, hidentity, hdurability⟩ :=
    published_receipts h.sound hplan h.loadAttempt hstate
  have hwhole := ((h.placed hplan).of_final ((h.placed hplan).finalRef ▸ hfinal)).1
  have hfresh : ∀ build ∈ builds, build.buildId ≠ plan.buildId := by
    intro build hbuild hid
    rw [← h.builds] at hbuild
    obtain ⟨other, identity, createdAt, -, -, rfl, committed, hmem, hid', hcommitted, -⟩ :=
      h.sound.built _ build hbuild
    have hsame := h.sound.eq_of_buildId hmem h.mem (hid'.trans (Eq.trans hid h.id.symm))
    rw [hsame, hstate] at hcommitted
    cases hcommitted
  unfold finalizeBuild
  apply Succeeds.look_bind (a := row)
  · exact h.loadAttempt
  rw [if_neg (by simp [hstate])]
  apply Succeeds.require_bind hstate
  unfold finalizePublished
  apply Succeeds.look_bind (a := plan)
  · rw [h.project]
    exact hrebuilt
  apply Succeeds.require_bind ⟨rfl, rfl, rfl⟩
  apply (readPlan_succeeds hplan h.sound hfinal hwhole).bind
  rintro result t ⟨rfl, rfl⟩
  apply Succeeds.raise_bind (validateArtifactBytes_plan hplan)
  apply Succeeds.raise_bind (fetch_eq_ok.mpr hidentity)
  apply Succeeds.raise_bind (requireIdentity_stamp plan _ _)
  apply Succeeds.raise_bind (fetch_eq_ok.mpr hdurability)
  obtain ⟨u, hcommit, hcommitted⟩ := commitBuild_succeeds h hstate hrebuilt hrival hfresh
    (plan.stamp t.exports file) linuxDurability updatedAt
  exact Succeeds.transact hcommit hcommitted

/-- A build that is taken up alone ends in a committed build when its stage file is not torn. -/
theorem commitPlan_succeeds (hplan : plan.Genuine) (h : Stands s plan row project builds)
    (hcalm : s.Calm) (htoken : row.ownerToken ≠ "") (hmend : Mendable s plan row)
    (hrebuilt : project.rebuildPlan plan = .ok plan) (hrival : Unrivalled builds plan)
    (hopen : row.state ≠ .committed) (updatedAt : String) :
    Succeeds (fun _ t => t.Built plan) (commitPlan plan updatedAt) s := by
  unfold commitPlan
  apply Succeeds.look_bind (a := row)
  · exact h.loadAttempt
  rw [if_neg hopen]
  apply (drivePublicationFiles_succeeds hplan h hcalm htoken hopen hmend).bind
  rintro _ t ⟨row', hstands, hstate⟩
  exact finalizeBuild_succeeds hplan hstands hstate hrebuilt hrival

/-- A torn stage file is refused, and nothing changes. -/
theorem commitPlan_refused (hplan : plan.Genuine) (h : Stands s plan row project builds)
    (htoken : row.ownerToken ≠ "") (hfinal : s.exports.find? row.finalRef = none)
    (hstage : s.exports.find? row.stageRef = some file)
    (htorn : s.exports.files[file]? ≠ some plan.bytes) :
    (commitPlan plan updatedAt).alone s =
      (s, .error (.authorityConflict "publication artifact bytes are invalid")) := by
  have hplaced := h.placed hplan
  obtain ⟨content, hcontent, hfront⟩ := hplaced.pieces file hstage
  have hstate : row.state = .staged := by
    rcases hplaced.progress with hbegun | ⟨other, -, -, hstaged | hmoved⟩
    · exact hbegun.state
    · exact hstaged.state
    · cases hfinal.symm.trans hmoved.named
  have hinvalid : validateArtifactBytes content plan.artifactFingerprint plan.byteSize =
      .error (.authorityConflict "publication artifact bytes are invalid") := by
    have hrefused : ∀ u, validateArtifactBytes content plan.artifactFingerprint plan.byteSize ≠
        .ok u := by
      intro u hvalid
      rw [validateArtifactBytes_eq_ok hplan] at hvalid
      exact htorn (hvalid ▸ hcontent)
    unfold validateArtifactBytes require at hrefused ⊢
    split at hrefused
    · split_ifs at hrefused ⊢
      · exact absurd rfl (hrefused ())
      · rfl
    · rfl
  have hidentified : (stageIdentity plan row).alone s =
      (s, .error (.authorityConflict "publication artifact bytes are invalid")) := by
    obtain ⟨result, t, halone, rfl, rfl⟩ := readGuardedFile_succeeds h.sound.exports hstage
      hcontent (hfront.length_le.trans (bytes_length_le hplan))
    unfold stageIdentity pathExists
    rw [Procedure.alone_look_bind (a := true)]
    · rw [if_pos rfl, Procedure.alone_bind_of_ok halone]
      dsimp only
      rw [hinvalid]
      rfl
    · rw [hstage]
      rfl
  have hdriven : (drivePublicationFiles plan row updatedAt).alone s =
      (s, .error (.authorityConflict "publication artifact bytes are invalid")) := by
    unfold drivePublicationFiles
    rw [Procedure.alone_raise_bind (a := ()) (require_eq_ok.mpr (by simp [hstate])),
      if_neg (by simp [hstate]), Procedure.alone_raise_bind (a := ())]
    · have hone : s.exports.find? row.finalRef = none ∨
          s.exports.find? row.stageRef = none := .inl hfinal
      obtain ⟨both, t, halone, rfl, rfl⟩ := bothExist_succeeds hone
      rw [Procedure.alone_bind_of_ok halone,
        Procedure.alone_raise_bind (a := ()) (require_eq_ok.mpr (by simp))]
      unfold pathExists stageAndPublish
      rw [Procedure.alone_look_bind (a := false)]
      · rw [if_neg (by simp), Procedure.alone_raise_bind (a := ())]
        · exact Procedure.alone_bind_of_error hidentified
        · exact require_eq_ok.mpr (by simp [hstate])
      · rw [hfinal]
        rfl
    · exact require_eq_ok.mpr ⟨htoken, hplaced.finalRef, hplaced.stageRef⟩
  unfold commitPlan
  rw [Procedure.alone_look_bind (a := row)]
  · rw [if_neg (by simp [hstate])]
    exact Procedure.alone_bind_of_error hdriven
  · exact h.loadAttempt

end Write

/-! ## What a crash left -/

section Crash

open PublicationStore

variable [CollisionFree Fp] {p : Ensemble CoreError (PublicationStore Fp)} {c : Bool}
  {row : AttemptRow Fp}

namespace Sample

def inkSource : PublicationSource Digest where
  binding := {
    acceptanceId := "A1", candidateId := "C1", chapterId := "CH001"
    contentFingerprint := Sha256.ofText "Ink", documentId := "D1", headFingerprint := none
    readingOrder := none, revisionId := "R1", runId := none, settlementId := none }
  content := "Ink"

/-- The plan of the accepted chapter. -/
def inkPlan : PublicationPlan Digest where
  projectId := "novel"
  sourceAcceptanceIds := ["A1"]
  sourceBinding := inkSource.binding.toJson
  sourceBindingFingerprint := Sha256.ofJson inkSource.binding.toJson
  format := .md
  content := "Ink"
  sourceFingerprint := Sha256.ofText "Ink"
  identityFingerprint := Sha256.ofJson (publicationIdentity false .md "novel" ["A1"]
    (Sha256.ofJson inkSource.binding.toJson))
  artifactFingerprint := Sha256.ofText "Ink"
  collection := false

/-- A crash behind the first of three bytes. -/
def torn : Ensemble CoreError (PublicationStore Digest) :=
  ⟨((publishing .md).after 9 unpublished).1, []⟩

theorem run_torn : BuildRun true torn :=
  ⟨unpublished, ⟨rfl, rfl, rfl⟩,
    .head (.begin ⟨.single _ _ _ _ _, fun _ => rfl⟩) (Ensemble.moves_after 9 _ unpublished)⟩

theorem inkPlan_genuine : inkPlan.Genuine :=
  ⟨[inkSource], by decide +kernel, fun _ => rfl, by simp [PublicationSource.Intact, inkSource]⟩

/-- The attempt has one of the three bytes in its stage file. -/
theorem exists_torn : ∃ row, (torn.storage.tables false).attempts = [row] ∧
    row.ownerToken = "T1" ∧ row.buildId = inkPlan.buildId ∧
      ¬ Mendable torn.storage inkPlan row := by
  obtain ⟨row, hrows, hcolumns⟩ := List.map_eq_singleton_iff.mp
    (show (torn.storage.tables false).attempts.map (fun row =>
      (row.ownerToken, row.buildId, row.stageRef, row.finalRef)) =
        [("T1", inkPlan.buildId, .stage inkPlan.buildId "T1", inkPlan.finalRef)] by
      decide +kernel)
  obtain ⟨hfinal, hstage, htorn⟩ : torn.storage.exports.find? inkPlan.finalRef = none ∧
      torn.storage.exports.find? (.stage inkPlan.buildId "T1") = some 0 ∧
      torn.storage.exports.files[0]? ≠ some inkPlan.bytes := by decide +kernel
  simp only [Prod.mk.injEq] at hcolumns
  obtain ⟨htoken, hid, hstageRef, hfinalRef⟩ := hcolumns
  refine ⟨row, hrows, htoken, hid, ?_⟩
  intro hmend
  rw [Mendable, hfinalRef, hstageRef] at hmend
  exact htorn (hmend hfinal 0 hstage)

end Sample

/-- An attempt that a crash left while builds did not overlap, with an owner, sources that still
derive its plan, and no other build of the same sources: a build alone commits it exactly when
its stage file is not torn, and refuses it else, with nothing changed. -/
theorem crash_mends (h : BuildRun true p) (updatedAt : String)
    (hrow : row ∈ (p.storage.tables c).attempts) (htoken : row.ownerToken ≠ "")
    (hrival : row.state = .committed ∨ ∀ build ∈ (p.storage.tables c).builds,
      ¬ (build.sourceAcceptanceIds = row.sourceAcceptanceIds ∧ build.format = row.format ∧
        build.sourceFingerprint = row.sourceFingerprint ∧
        build.compilerContract = row.compilerContract)) :
    ∃ plan : PublicationPlan Fp, plan.Genuine ∧ plan.collection = c ∧ plan.Binds row ∧
      (p.storage.project.rebuildPlan plan = .ok plan →
        (Mendable p.storage plan row ↔
          ∃ t, (commitPlan plan updatedAt).alone p.storage = (t, .ok ()) ∧ t.Built plan) ∧
        (¬ Mendable p.storage plan row → (commitPlan plan updatedAt).alone p.storage =
          (p.storage, .error (.authorityConflict "publication artifact bytes are invalid")))) := by
  obtain ⟨hsound, hcalm⟩ := (kept_of_run h).invariant
  obtain ⟨plan, hplan, rfl, hplaced⟩ := hsound.placed c row hrow
  have hstands : Stands p.storage plan row p.storage.project
      (p.storage.tables plan.collection).builds := ⟨hsound, hrow, hplaced.buildId, rfl, rfl⟩
  refine ⟨plan, hplan, rfl, hplaced.binds, fun hrebuilt => ?_⟩
  have hrefused : ¬ Mendable p.storage plan row → (commitPlan plan updatedAt).alone p.storage =
      (p.storage, .error (.authorityConflict "publication artifact bytes are invalid")) := by
    intro htorn
    simp only [Mendable, not_forall] at htorn
    obtain ⟨hfinal, file, hstage, htorn⟩ := htorn
    exact commitPlan_refused hplan hstands htoken hfinal hstage htorn
  refine ⟨⟨?_, ?_⟩, hrefused⟩
  · intro hmend
    by_cases hcommitted : row.state = .committed
    · refine ⟨p.storage, ?_, ?_⟩
      · unfold commitPlan
        rw [Procedure.alone_look_bind (a := row)]
        · rw [if_pos hcommitted]
          rfl
        · exact hstands.loadAttempt
      · obtain ⟨build, hbuild, hid⟩ := hsound.committed _ row hrow hcommitted
        exact ⟨build, hbuild, hid.trans hplaced.buildId⟩
    · have hunrivalled : Unrivalled (p.storage.tables plan.collection).builds plan := by
        obtain ⟨-, -, -, hids, hformat, hcompiler, hsource, -⟩ := hplaced.binds
        intro build hbuild
        rw [← hids, ← hformat, ← hsource, ← hcompiler]
        exact hrival.resolve_left hcommitted build hbuild
      obtain ⟨_, t, halone, hbuilt⟩ := commitPlan_succeeds hplan hstands (hcalm rfl) htoken
        hmend hrebuilt hunrivalled hcommitted updatedAt
      exact ⟨t, halone, hbuilt⟩
  · intro hdone
    obtain ⟨t, halone, -⟩ := hdone
    by_contra htorn
    rw [hrefused htorn] at halone
    cases congrArg Prod.snd halone

theorem crash_mends_sample : ∃ row, (Sample.torn.storage.tables false).attempts = [row] ∧
    ¬ Mendable Sample.torn.storage Sample.inkPlan row ∧
      (commitPlan Sample.inkPlan "t2").alone Sample.torn.storage =
        (Sample.torn.storage,
          .error (.authorityConflict "publication artifact bytes are invalid")) := by
  obtain ⟨row, hrows, htoken, hid, htorn⟩ := Sample.exists_torn
  have hrow : row ∈ (Sample.torn.storage.tables false).attempts := by simp [hrows]
  have hbuilds : (Sample.torn.storage.tables false).builds = [] := by decide +kernel
  obtain ⟨plan, hplan, -, hbinds, hmends⟩ := crash_mends Sample.run_torn "t2" hrow
    (by simp [htoken]) (by simp [hbuilds])
  obtain rfl := hplan.eq Sample.inkPlan_genuine (hbinds.1.symm.trans hid)
  obtain ⟨-, hrefused⟩ := hmends (by decide +kernel)
  exact ⟨row, hrows, htorn, hrefused htorn⟩

end Crash

end Quillframe
