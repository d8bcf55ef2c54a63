import Quillframe.PublicationStores

/-!
# Runs of builds

Builds run side by side with each other and with what else changes the project, and any of them
may stop anywhere. A build that runs alone among changes of the project leaves its directory calm.
-/
namespace Quillframe

open Procedure (look transact raise)

variable {Fp : Type} [Sha256 Fp] [DecidableEq Fp]

/-- What builds keep to; other builds act in between unless one runs alone. -/
def publicationTerms (alone : Bool) : Terms (PublicationStore Fp) where
  invariant s := s.Sound ∧ (alone = true → s.Calm)
  rely s t := s.Step t ∧ (alone = true → ∃ project, t = { s with project })
  guarantee s t := s.Step t

namespace PublicationStore

/-! ## Facts that stay -/

section Facts

variable {alone : Bool} {s t : PublicationStore Fp} {plan : PublicationPlan Fp} {file : ℕ}
  {p q : AttemptRow Fp → Directory (ArtifactRef Fp) → Prop}

/-- A fact of the attempt of a plan. -/
def Has (store : PublicationStore Fp) (plan : PublicationPlan Fp)
    (p : AttemptRow Fp → Directory (ArtifactRef Fp) → Prop) : Prop :=
  ∃ row ∈ (store.tables plan.collection).attempts, row.buildId = plan.buildId ∧
    p row store.exports

theorem Step.has (h : s.Step t)
    (hp : ∀ row ∈ (s.tables plan.collection).attempts, ∀ row',
      row' = row ∨ row.Advance row' → p row s.exports → q row' t.exports)
    (hs : s.Has plan p) : t.Has plan q := by
  obtain ⟨row, hrow, hid, hfact⟩ := hs
  obtain ⟨row', hrow', hstep⟩ := h.attempts plan.collection row hrow
  refine ⟨row', hrow', ?_, hp row hrow row' hstep hfact⟩
  rcases hstep with rfl | hadvance
  · exact hid
  · rw [hadvance.refs.1, hid]

omit [Sha256 Fp] [DecidableEq Fp] in
theorem refs_of_step {row row' : AttemptRow Fp} (h : row' = row ∨ row.Advance row') :
    row'.stageRef = row.stageRef ∧ row'.finalRef = row.finalRef := by
  rcases h with rfl | hadvance
  · exact ⟨rfl, rfl⟩
  · exact ⟨hadvance.refs.2.1, hadvance.refs.2.2.1⟩

/-- The names of the attempt, and what is on record of its stage. -/
def Tracks (attempt row : AttemptRow Fp) (_ : Directory (ArtifactRef Fp)) : Prop :=
  row.stageRef = attempt.stageRef ∧ row.finalRef = attempt.finalRef ∧
    ∀ identity, attempt.stageIdentity = some identity → row.stageIdentity = some identity

/-- The file has one of the two names. -/
def Named (file : ℕ) (row : AttemptRow Fp) (exports : Directory (ArtifactRef Fp)) : Prop :=
  exports.find? row.stageRef = some file ∨ exports.find? row.finalRef = some file

/-- The file is the stage of an attempt that has published nothing. -/
def Opened (file : ℕ) (row : AttemptRow Fp) (exports : Directory (ArtifactRef Fp)) : Prop :=
  exports.find? row.finalRef = none → exports.find? row.stageRef = some file

/-- The file holds these bytes, and perhaps more. -/
def Holds (store : PublicationStore Fp) (file : ℕ) (bytes : List UInt8) : Prop :=
  ∃ content, store.exports.files[file]? = some content ∧ bytes <+: content

def Absent (alone : Bool) (name : ArtifactRef Fp) (store : PublicationStore Fp) : Prop :=
  alone = true → store.exports.find? name = none

theorem Step.tracks {attempt : AttemptRow Fp} (h : s.Step t) (hs : s.Has plan (Tracks attempt)) :
    t.Has plan (Tracks attempt) := by
  apply h.has _ hs
  intro row _ row' hstep hfact
  obtain ⟨hstage, hfinal, hrecorded⟩ := hfact
  obtain ⟨hstage', hfinal'⟩ := refs_of_step hstep
  refine ⟨hstage'.trans hstage, hfinal'.trans hfinal, ?_⟩
  intro identity hidentity
  rcases hstep with rfl | hadvance
  · exact hrecorded identity hidentity
  · exact hadvance.stageIdentity (hrecorded identity hidentity)

theorem Step.final (hs : s.Sound) (h : s.Step t) {c : Bool} {row : AttemptRow Fp}
    (hrow : row ∈ (s.tables c).attempts) (hfinal : s.exports.find? row.finalRef = some file) :
    t.exports.find? row.finalRef = some file := by
  obtain ⟨plan, -, -, hplaced⟩ := hs.placed c row hrow
  rw [hplaced.finalRef] at hfinal ⊢
  exact h.finals _ _ file hfinal

theorem Step.named (hs : s.Sound) (h : s.Step t) (hnamed : s.Has plan (Named file)) :
    t.Has plan (Named file) := by
  apply h.has _ hnamed
  intro row hrow row' hstep hfact
  obtain ⟨hstage', hfinal'⟩ := refs_of_step hstep
  unfold Named
  rw [hstage', hfinal']
  rcases hfact with hstage | hfinal
  · exact h.stages _ row hrow file hstage
  · exact .inr (h.final hs hrow hfinal)

theorem Step.opened (hs : s.Sound) (h : s.Step t) (hopened : s.Has plan (Opened file)) :
    t.Has plan (Opened file) := by
  apply h.has _ hopened
  intro row hrow row' hstep hfact habsent
  obtain ⟨hstage', hfinal'⟩ := refs_of_step hstep
  rw [hfinal'] at habsent
  rw [hstage']
  have hbefore : s.exports.find? row.finalRef = none := by
    cases hfinal : s.exports.find? row.finalRef with
    | none => rfl
    | some other => cases habsent.symm.trans (h.final hs hrow hfinal)
  rcases h.stages _ row hrow file (hfact hbefore) with hstage | hfinal
  · exact hstage
  · cases habsent.symm.trans hfinal

theorem Step.holds {bytes : List UInt8} (h : s.Step t) (hs : s.Holds file bytes) :
    t.Holds file bytes := by
  obtain ⟨content, hcontent, hfront⟩ := hs
  obtain ⟨more, hmore, hgrown⟩ := h.files file content hcontent
  exact ⟨more, hmore, hfront.trans hgrown⟩

/-- A fact that every step keeps. -/
theorem follows_keeps {fact : PublicationStore Fp → Prop}
    (hfact : ∀ s t : PublicationStore Fp, s.Sound → s.Step t → fact s → fact t)
    (hs : (publicationTerms alone).invariant s) (h : (publicationTerms alone).Follows s t)
    (hbefore : fact s) : fact t := by
  apply h.keeps _ hs hbefore
  intro s t hs hstep
  rcases hstep with hrely | hguarantee
  · exact hfact s t hs.1 hrely.1
  · exact hfact s t hs.1 hguarantee

theorem later_absent {name : ArtifactRef Fp} (hs : (publicationTerms alone).invariant s)
    (h : (publicationTerms alone).Later s t) (habsent : s.Absent alone name) :
    t.Absent alone name := by
  apply h.keeps _ hs habsent
  intro s t _ hrely hbefore halone
  obtain ⟨project, rfl⟩ := hrely.2 halone
  exact hbefore halone

/-- A file under one of the names, in which the whole artifact is, holds nothing else. -/
theorem Sound.whole [CollisionFree Fp] (hs : s.Sound) (hplan : plan.Genuine)
    (hnamed : s.Has plan (Named file)) (hholds : s.Holds file plan.bytes) :
    s.exports.files[file]? = some plan.bytes := by
  obtain ⟨row, hrow, hid, hnamed⟩ := hnamed
  obtain ⟨content, hcontent, hfront⟩ := hholds
  have hplaced := (hs.placed_of_buildId hplan hrow hid).2
  obtain ⟨found, hfound, hpiece⟩ := hplaced.piece hnamed
  obtain rfl := Option.some.inj (hcontent.symm.trans hfound)
  rw [hcontent, hpiece.eq_of_length_le hfront.length_le]

end Facts

end PublicationStore

/-! ## Files that are read -/

section Read

open PublicationStore

variable {alone : Bool} {s t : PublicationStore Fp} {path : ArtifactRef Fp} {file : ℕ}
  {guard : FileGuard Fp}

/-- The handle of a file. -/
def FileGuard.Of (guard : FileGuard Fp) (path : ArtifactRef Fp) (file volume : ℕ) : Prop :=
  guard.path = path ∧ guard.identity.volumeId = volume ∧ guard.identity.fileIdLow = file ∧
    guard.identity.fileIdHigh = 0

theorem volume_of_follows (hs : (publicationTerms alone).invariant s)
    (h : (publicationTerms alone).Follows s t) :
    t.exports.volumeId = s.exports.volumeId := by
  have hkept : ∀ t u : PublicationStore Fp, t.Sound → t.Step u →
      t.exports.volumeId = s.exports.volumeId → u.exports.volumeId = s.exports.volumeId :=
    fun _ _ _ hstep hvolume => hstep.volume.trans hvolume
  exact follows_keeps hkept hs h rfl

theorem ofFile_safe (hs : (publicationTerms alone).invariant s) :
    (publicationTerms alone).Safe
      (fun guard _ => guard.Of path file s.exports.volumeId) (FileGuard.ofFile path file) s := by
  unfold FileGuard.ofFile
  apply Terms.Safe.look_bind hs
  intro t token hlater ht htoken
  apply Terms.Safe.raise_bind
  intro _ _
  apply Terms.Safe.pure
  intro u _
  obtain rfl := Except.ok.inj htoken
  exact ⟨rfl, volume_of_follows hs hlater.follows, rfl, rfl⟩

theorem openRead_safe (hs : (publicationTerms alone).invariant s) :
    (publicationTerms alone).Safe
      (fun guard u => ∃ file, guard.Of path file s.exports.volumeId ∧
        (publicationTerms alone).Seen s (fun t => t.exports.find? path = some file) u)
      (FileGuard.openRead path) s := by
  unfold FileGuard.openRead
  apply Terms.Safe.look_bind hs
  intro t file hlater ht hopen
  refine (ofFile_safe ht).followed.imp ?_
  intro guard u hguard
  obtain ⟨hfollows, hguard⟩ := hguard
  refine ⟨file, ?_, t, hlater.follows, ht, hfollows, Directory.openAt_eq_ok.mp hopen⟩
  rw [← volume_of_follows hs hlater.follows]
  exact hguard

/-- A handle that is valid again: its file had the name, and told its identity. -/
theorem revalidate_safe (hs : (publicationTerms alone).invariant s)
    (hguard : guard.Of path file s.exports.volumeId) :
    (publicationTerms alone).Safe
      (fun identity u => identity.linkCount = 1 ∧
        (publicationTerms alone).Seen s (fun t => identity = t.exports.identity file) u ∧
        (publicationTerms alone).Seen s (fun t => t.exports.find? path = some file) u)
      guard.revalidate s := by
  obtain ⟨hpath, hvolume, hlow, hhigh⟩ := hguard
  unfold FileGuard.revalidate
  apply Terms.Safe.look_bind hs
  intro t current hlater ht hcurrent
  obtain rfl := Except.ok.inj hcurrent
  apply Terms.Safe.raise_bind
  intro _ hlink
  rw [require_eq_ok] at hlink
  apply Terms.Safe.bind ht (openRead_safe ht)
  intro reopened u hu hfollows hreopened
  obtain ⟨found, hof, hseen⟩ := hreopened
  apply Terms.Safe.raise_bind
  intro _ hsame
  rw [require_eq_ok] at hsame
  apply Terms.Safe.pure
  intro v hv
  have hfile : guard.file = file := hlow
  have hfound : found = file := by
    rw [← hof.2.2.1, ← hfile]
    exact hsame.2.1.symm
  rw [hfile] at hlink ⊢
  rw [hfound, hpath] at hseen
  exact ⟨hlink.2, ⟨t, hlater.follows, ht, hfollows.trans hv.follows, rfl⟩,
    (hseen.follows hv.follows).after hlater.follows⟩

theorem holds_of_find? (ht : t.Sound) (hfind : t.exports.find? path = some file) :
    t.Holds file [] := by
  have hlt := ht.exports.lt_of_find? hfind
  exact ⟨_, List.getElem?_eq_getElem hlt, List.nil_prefix⟩

/-- What is read of a file is the beginning of it, and its size is that of the identity. -/
theorem readGuardedFile_safe {maximumBytes : ℕ} (hs : (publicationTerms alone).invariant s) :
    (publicationTerms alone).Safe
      (fun result u => ∃ file,
        result.2 = ⟨s.exports.volumeId, file, 0, 1, result.1.length⟩ ∧
        (publicationTerms alone).Seen s (fun t => t.exports.find? path = some file) u ∧
        u.Holds file result.1)
      (readGuardedFile path maximumBytes) s := by
  unfold readGuardedFile
  apply Terms.Safe.bind hs (openRead_safe hs)
  intro guard t ht hst hguard
  obtain ⟨file, hof, hseen⟩ := hguard
  have hguard : guard.Of path file t.exports.volumeId := by
    rw [volume_of_follows hs hst]
    exact hof
  apply Terms.Safe.bind ht (revalidate_safe ht hguard)
  intro before u hu htu _
  apply Terms.Safe.raise_bind
  intro _ _
  apply Terms.Safe.raise_bind
  intro _ _
  apply Terms.Safe.look_bind hu
  intro v bytes huv hv hbytes
  apply Terms.Safe.raise_bind
  intro _ _
  have hguard' : guard.Of path file v.exports.volumeId := by
    rw [volume_of_follows ht (htu.trans huv.follows)]
    exact hguard
  apply Terms.Safe.bind hv (revalidate_safe hv hguard')
  intro after w hw hvw hafter
  obtain ⟨hlink, ⟨r, hvr, hr, hrw, hidentity⟩, -⟩ := hafter
  apply Terms.Safe.raise_bind
  intro _ hsize
  rw [require_eq_ok] at hsize
  apply Terms.Safe.pure
  intro x hx
  refine ⟨file, ?_, hseen.follows ((htu.trans huv.follows).trans (hvw.trans hx.follows)), ?_⟩
  · have hvolume : r.exports.volumeId = s.exports.volumeId :=
      volume_of_follows hs (((hst.trans htu).trans huv.follows).trans hvr)
    have hlength := hsize.2
    rw [hlength]
    rw [hidentity] at hlink ⊢
    simp only [Directory.identity] at hlink ⊢
    rw [hvolume, hlink]
  · obtain ⟨m, hsm, hm, hmt, hfind⟩ := hseen
    have hholds : v.Holds file [] :=
      follows_keeps (fun s t _ hstep => hstep.holds) hm (hmt.trans (htu.trans huv.follows))
        (holds_of_find? hm.1 hfind)
    have hread : v.Holds file bytes := by
      obtain ⟨content, hcontent, -⟩ := hholds
      refine ⟨content, hcontent, ?_⟩
      have hfile : guard.file = file := hof.2.2.1
      rw [← Except.ok.inj hbytes, hfile, List.getD_eq_getElem?_getD, hcontent, Option.getD_some]
      exact List.take_prefix _ _
    exact follows_keeps (fun s t _ hstep => hstep.holds) hv (hvw.trans hx.follows) hread

end Read

/-! ## Files that are written -/

section Write

open PublicationStore

variable [CollisionFree Fp] {alone : Bool} {s t : PublicationStore Fp}
  {plan : PublicationPlan Fp} {attempt : AttemptRow Fp} {file : ℕ} {guard : FileGuard Fp}

omit [CollisionFree Fp] in
theorem has_of_follows {p : AttemptRow Fp → Directory (ArtifactRef Fp) → Prop}
    (hp : ∀ s t : PublicationStore Fp, s.Sound → s.Step t → s.Has plan p → t.Has plan p)
    (hs : (publicationTerms alone).invariant s) (h : (publicationTerms alone).Follows s t)
    (hbefore : s.Has plan p) : t.Has plan p :=
  follows_keeps hp hs h hbefore

/-- The bytes go to the file of the handle, each to its place. -/
theorem writeAll_safe (hplan : plan.Genuine) (hfile : guard.file = file)
    (hs : (publicationTerms alone).invariant s) (hnamed : s.Has plan (Named file))
    {bytes : List UInt8} {offset : ℕ} (hbytes : bytes = plan.bytes.drop offset)
    (hholds : s.Holds file (plan.bytes.take offset)) :
    (publicationTerms alone).Safe (fun _ u => u.Holds file plan.bytes)
      (guard.writeAll bytes offset) s := by
  induction bytes generalizing offset s with
  | nil =>
    apply Terms.Safe.pure
    intro t hlater
    have hlength : plan.bytes.length ≤ offset := List.drop_eq_nil_iff.mp hbytes.symm
    rw [List.take_of_length_le hlength] at hholds
    exact follows_keeps (fun s t _ hstep => hstep.holds) hs hlater.follows hholds
  | cons byte rest ih =>
    unfold FileGuard.writeAll
    apply Terms.Safe.transact_bind hs
    intro t _ u hlater ht hwrite
    have hnamed' := has_of_follows (fun _ _ hs hstep => hstep.named hs) hs hlater.follows hnamed
    have hholds' := follows_keeps (fun s t _ hstep => hstep.holds) hs hlater.follows hholds
    obtain ⟨row, hrow, hid, hname⟩ := hnamed'
    obtain ⟨content, hcontent, hfront⟩ := hholds'
    have hbyte : plan.bytes[offset]? = some byte := by
      rw [← List.head?_drop, ← hbytes, List.head?_cons]
    have hlt : offset < plan.bytes.length := (List.getElem?_eq_some_iff.mp hbyte).1
    have hoffset : offset ≤ content.length := by
      have hlength := hfront.length_le
      rw [List.length_take, Nat.min_eq_left hlt.le] at hlength
      exact hlength
    obtain ⟨hsound, hstep⟩ := ht.1.write hplan hrow hid hname hcontent hoffset hbyte
    obtain rfl := congrArg Prod.snd (Except.ok.inj hwrite)
    rw [hfile]
    have hinvariant : (publicationTerms alone).invariant
        { t with exports := t.exports.write file offset byte } := by
      refine ⟨hsound, fun halone => (ht.2 halone).of_find? ?_ fun _ => rfl⟩
      exact fun c row' hrow' => ⟨row', hrow', rfl, rfl⟩
    refine ⟨hinvariant, .inr hstep, ?_⟩
    apply ih hinvariant
    · exact hstep.named ht.1 ⟨row, hrow, hid, hname⟩
    · rw [← List.tail_drop, ← hbytes, List.tail_cons]
    · refine ⟨writeAt content offset byte, ?_, ?_⟩
      · change (t.exports.write file offset byte).files[file]? = _
        rw [Directory.files_write, if_pos rfl, hcontent, Option.map_some]
      · have hplaced := (ht.1.placed_of_buildId hplan hrow hid).2
        obtain ⟨found, hfound, hpiece⟩ := hplaced.piece hname
        obtain rfl := Option.some.inj (hcontent.symm.trans hfound)
        obtain ⟨-, hwritten, hlength⟩ := Directory.writeAt_prefix hpiece hoffset hbyte
        exact List.prefix_of_prefix_length_le (List.take_prefix _ _) hwritten
          (by rw [List.length_take]; omega)

/-- The stage file of an attempt is created where there is none. -/
theorem createStage_safe (hs : (publicationTerms alone).invariant s)
    (htracks : s.Has plan (Tracks attempt)) (habsent : s.Absent alone attempt.finalRef) :
    (publicationTerms alone).Safe
      (fun guard u => ∃ file, guard.Of attempt.stageRef file u.exports.volumeId ∧
        u.Has plan (Named file) ∧ u.Has plan (Opened file) ∧ u.Holds file [])
      (FileGuard.createStage attempt.stageRef) s := by
  unfold FileGuard.createStage
  apply Terms.Safe.transact_bind hs
  intro t file u hlater ht hbody
  have htracks' := has_of_follows (fun _ _ _ hstep => hstep.tracks) hs hlater.follows htracks
  have habsent' := later_absent hs hlater habsent
  obtain ⟨row, hrow, hid, hstage, hfinal, -⟩ := htracks'
  obtain ⟨created, hcreate, hresult⟩ := map_eq_ok.mp hbody
  obtain ⟨rfl, rfl⟩ := Prod.mk.injEq _ _ _ _ ▸ hresult
  rw [← hstage] at hcreate
  rw [← hfinal] at habsent'
  have hsound := ht.1.create hrow hcreate
  have hstep := step_create hcreate
  have hfind : created.2.find? row.stageRef = some created.1 := by
    rw [Directory.find?_create hcreate, if_pos rfl]
  have hinvariant : (publicationTerms alone).invariant { t with exports := created.2 } :=
    ⟨hsound, fun halone => (ht.2 halone).create ht.1 hrow (habsent' halone) hcreate⟩
  refine ⟨hinvariant, .inr hstep, (ofFile_safe hinvariant).followed.imp ?_⟩
  intro guard v hguard
  obtain ⟨hfollows, hof⟩ := hguard
  refine ⟨created.1, ?_, ?_, ?_, ?_⟩
  · rw [volume_of_follows hinvariant hfollows]
    exact hof
  · apply has_of_follows (fun _ _ hs hstep => hstep.named hs) hinvariant hfollows
    exact ⟨row, hrow, hid, .inl hfind⟩
  · apply has_of_follows (fun _ _ hs hstep => hstep.opened hs) hinvariant hfollows
    exact ⟨row, hrow, hid, fun _ => hfind⟩
  · apply follows_keeps (fun _ _ _ hstep => hstep.holds) hinvariant hfollows
    exact holds_of_find? hsound hfind

theorem writeStageNew_safe (hplan : plan.Genuine) (hs : (publicationTerms alone).invariant s)
    (htracks : s.Has plan (Tracks attempt)) (habsent : s.Absent alone attempt.finalRef) :
    (publicationTerms alone).Safe
      (fun guard u => ∃ file, guard.Of attempt.stageRef file u.exports.volumeId ∧
        u.Has plan (Named file) ∧ u.Has plan (Opened file) ∧ u.Holds file plan.bytes)
      (writeStageNew attempt.stageRef plan.bytes) s := by
  unfold writeStageNew
  apply Terms.Safe.bind hs (createStage_safe hs htracks habsent)
  intro guard t ht _ hguard
  obtain ⟨file, hof, hnamed, hopened, hholds⟩ := hguard
  have hstart : t.Holds file (plan.bytes.take 0) := hholds
  apply Terms.Safe.bind ht
    (writeAll_safe hplan hof.2.2.1 ht hnamed List.drop_zero.symm hstart)
  intro _ u hu htu hwritten
  have hof' : guard.Of attempt.stageRef file u.exports.volumeId := by
    rw [volume_of_follows ht htu]
    exact hof
  apply Terms.Safe.bind hu (revalidate_safe hu hof')
  intro identity v hv huv _
  apply Terms.Safe.raise_bind
  intro _ _
  apply Terms.Safe.pure
  intro w hvw
  have huw := huv.trans hvw.follows
  refine ⟨file, ?_, ?_, ?_, ?_⟩
  · rw [volume_of_follows hu huw]
    exact hof'
  · exact has_of_follows (fun _ _ hs hstep => hstep.named hs) ht (htu.trans huw) hnamed
  · exact has_of_follows (fun _ _ hs hstep => hstep.opened hs) ht (htu.trans huw) hopened
  · exact follows_keeps (fun _ _ _ hstep => hstep.holds) hu huw hwritten

/-- The file is the whole artifact, under one of the names of the attempt. -/
def Stages (store : PublicationStore Fp) (plan : PublicationPlan Fp) (identity : FileIdentity) :
    Prop :=
  ∃ file, identity = plan.stamp store.exports file ∧ store.Has plan (Named file) ∧
    store.Has plan (Opened file) ∧ store.Holds file plan.bytes

omit [CollisionFree Fp] in
theorem stages_of_follows {identity : FileIdentity} (hs : (publicationTerms alone).invariant s)
    (h : (publicationTerms alone).Follows s t) (hbefore : Stages s plan identity) :
    Stages t plan identity := by
  obtain ⟨file, hidentity, hnamed, hopened, hholds⟩ := hbefore
  refine ⟨file, ?_, has_of_follows (fun _ _ hs hstep => hstep.named hs) hs h hnamed,
    has_of_follows (fun _ _ hs hstep => hstep.opened hs) hs h hopened,
    follows_keeps (fun _ _ _ hstep => hstep.holds) hs h hholds⟩
  rw [hidentity, PublicationPlan.stamp, PublicationPlan.stamp, volume_of_follows hs h]

theorem stageIdentity_safe (hplan : plan.Genuine) (hs : (publicationTerms alone).invariant s)
    (htracks : s.Has plan (Tracks attempt)) (habsent : s.Absent alone attempt.finalRef) :
    (publicationTerms alone).Safe (fun identity u => Stages u plan identity)
      (stageIdentity plan attempt) s := by
  unfold stageIdentity pathExists
  apply Terms.Safe.look_bind hs
  intro t found hst ht _
  have htracks' := has_of_follows (fun _ _ _ hstep => hstep.tracks) hs hst.follows htracks
  have habsent' := later_absent hs hst habsent
  split
  · apply Terms.Safe.bind ht (readGuardedFile_safe ht)
    intro result u hu htu hresult
    obtain ⟨file, hidentity, ⟨m, htm, hm, hmu, hfind⟩, hholds⟩ := hresult
    apply Terms.Safe.raise_bind
    intro _ hvalid
    rw [validateArtifactBytes_eq_ok hplan] at hvalid
    apply Terms.Safe.raise_bind
    intro _ _
    apply Terms.Safe.pure
    intro v huv
    obtain ⟨row, hrow, hid, hstage, -, -⟩ :=
      has_of_follows (fun _ _ _ hstep => hstep.tracks) ht htm htracks'
    rw [← hstage] at hfind
    rw [hvalid] at hidentity hholds
    have hmv := hmu.trans huv.follows
    refine ⟨file, ?_, ?_, ?_, ?_⟩
    · rw [hidentity, PublicationPlan.stamp, volume_of_follows ht (htu.trans huv.follows)]
      rfl
    · apply has_of_follows (fun _ _ hs hstep => hstep.named hs) hm hmv
      exact ⟨row, hrow, hid, .inl hfind⟩
    · apply has_of_follows (fun _ _ hs hstep => hstep.opened hs) hm hmv
      exact ⟨row, hrow, hid, fun _ => hfind⟩
    · exact follows_keeps (fun _ _ _ hstep => hstep.holds) hu huv.follows hholds
  · apply Terms.Safe.raise_bind
    intro _ _
    apply Terms.Safe.bind ht (writeStageNew_safe hplan ht htracks' habsent')
    intro guard u hu htu hguard
    obtain ⟨file, hof, hnamed, hopened, hholds⟩ := hguard
    refine (revalidate_safe hu hof).followed.imp ?_
    intro identity v hv
    obtain ⟨huv, hlink, ⟨m, hum, hm, hmv, hidentity⟩, -⟩ := hv
    have hnamed' := has_of_follows (fun _ _ hs hstep => hstep.named hs) hu hum hnamed
    have hholds' := follows_keeps (fun _ _ _ hstep => hstep.holds) hu hum hholds
    have hwhole := hm.1.whole hplan hnamed' hholds'
    have hstages : Stages m plan identity := by
      refine ⟨file, ?_, hnamed',
        has_of_follows (fun _ _ hs hstep => hstep.opened hs) hu hum hopened, hholds'⟩
      rw [hidentity] at hlink ⊢
      simp only [Directory.identity] at hlink ⊢
      rw [hlink, List.getD_eq_getElem?_getD, hwhole, Option.getD_some]
      rfl
    exact stages_of_follows hm hmv hstages

end Write

/-! ## Attempts that are driven -/

section Drive

open PublicationStore

variable [CollisionFree Fp] {alone : Bool} {s t : PublicationStore Fp}
  {plan : PublicationPlan Fp} {initial attempt : AttemptRow Fp} {stage : FileIdentity}
  {updatedAt createdAt : String}

omit [CollisionFree Fp] in
/-- What an update keeps to. -/
theorem kept_of_sound (hs : (publicationTerms alone).invariant s)
    (h : t.Sound ∧ s.Step t ∧ (s.Calm → t.Calm)) :
    (publicationTerms alone).invariant t ∧ (t = s ∨ (publicationTerms alone).guarantee s t) :=
  ⟨⟨h.1, fun halone => h.2.2 (hs.2 halone)⟩, .inr h.2.1⟩

theorem tracks_of_loadAttempt (hs : s.Sound) (hplan : plan.Genuine)
    (h : s.loadAttempt plan = .ok attempt) :
    attempt ∈ (s.tables plan.collection).attempts ∧ attempt.Placed plan s.exports ∧
      s.Has plan (Tracks attempt) := by
  have hlookup := fetch_eq_ok.mp h
  have hrow := Table.lookup_mem hlookup
  have hid := Table.lookup_key hlookup
  exact ⟨hrow, (hs.placed_of_buildId hplan hrow hid).2, attempt, hrow, hid, rfl, rfl,
    fun _ hidentity => hidentity⟩

theorem finalRef_of_tracks (hs : s.Sound) (hplan : plan.Genuine)
    (h : s.Has plan (Tracks attempt)) : attempt.finalRef = plan.finalRef := by
  obtain ⟨row, hrow, hid, -, hfinal, -⟩ := h
  rw [← hfinal]
  exact (hs.placed_of_buildId hplan hrow hid).2.finalRef

omit [CollisionFree Fp] in
theorem final_of_follows {file : ℕ} (hs : (publicationTerms alone).invariant s)
    (h : (publicationTerms alone).Follows s t)
    (hfinal : s.exports.find? plan.finalRef = some file) :
    t.exports.find? plan.finalRef = some file := by
  have hkept : ∀ s t : PublicationStore Fp, s.Sound → s.Step t →
      s.exports.find? plan.finalRef = some file → t.exports.find? plan.finalRef = some file :=
    fun _ _ _ hstep hbefore => hstep.finals _ _ _ hbefore
  exact follows_keeps hkept hs h hfinal

theorem recordedAttempt_safe (hplan : plan.Genuine) (hs : (publicationTerms alone).invariant s)
    (htracks : s.Has plan (Tracks initial)) (hstages : Stages s plan stage) :
    (publicationTerms alone).Safe (fun attempt u => u.Has plan (Tracks attempt))
      (recordedAttempt plan initial stage updatedAt) s := by
  unfold recordedAttempt
  split
  · apply Terms.Safe.transact_bind hs
    intro t _ u hst ht hrecord
    obtain ⟨file, hidentity, hnamed, hopened, hholds⟩ := stages_of_follows hs hst.follows hstages
    have hwhole := ht.1.whole hplan hnamed hholds
    obtain ⟨row, hrow, hid, hopen⟩ := hopened
    have hsound := ht.1.recordStage hplan (fun other hother hid' => by
      obtain rfl := ht.1.eq_of_buildId hrow hother (hid.trans hid'.symm)
      exact hopen) hwhole hidentity hrecord
    obtain ⟨hinvariant, hguarantee⟩ := kept_of_sound ht hsound
    refine ⟨hinvariant, hguarantee, ?_⟩
    apply Terms.Safe.look hinvariant
    intro v attempt _ hv hload w hvw
    obtain ⟨-, -, htracks'⟩ := tracks_of_loadAttempt hv.1 hplan hload
    exact has_of_follows (fun _ _ _ hstep => hstep.tracks) hv hvw.follows htracks'
  · apply Terms.Safe.pure
    intro t hst
    exact has_of_follows (fun _ _ _ hstep => hstep.tracks) hs hst.follows htracks

/-- The final file that is read is the artifact, when its bytes pass. -/
theorem readFinal_safe (hplan : plan.Genuine) (hs : (publicationTerms alone).invariant s)
    {maximumBytes : ℕ} :
    (publicationTerms alone).Safe
      (fun result u => ∀ v, validateArtifactBytes result.1 plan.artifactFingerprint
        plan.byteSize = .ok v → ∃ file, u.exports.find? plan.finalRef = some file ∧
          result.2 = plan.stamp u.exports file)
      (readGuardedFile plan.finalRef maximumBytes) s := by
  refine (readGuardedFile_safe hs).followed.imp ?_
  intro result u hresult v hvalid
  obtain ⟨hsu, file, hidentity, ⟨m, hsm, hm, hmu, hfind⟩, -⟩ := hresult
  rw [validateArtifactBytes_eq_ok hplan] at hvalid
  refine ⟨file, final_of_follows hm hmu hfind, ?_⟩
  rw [hidentity, hvalid, PublicationPlan.stamp, volume_of_follows hs hsu]
  rfl

theorem updatePublished_safe (hplan : plan.Genuine) (hs : (publicationTerms alone).invariant s)
    {file : ℕ} (hfinal : s.exports.find? plan.finalRef = some file)
    (hidentity : stage = plan.stamp s.exports file) :
    (publicationTerms alone).Safe (fun _ _ => True)
      (transact fun store => store.updatePublished plan attempt stage updatedAt) s := by
  apply Terms.Safe.transact hs
  intro t _ u hst ht hpublish
  have hidentity' : stage = plan.stamp t.exports file := by
    rw [hidentity, PublicationPlan.stamp, PublicationPlan.stamp, volume_of_follows hs hst.follows]
  have hsound := ht.1.updatePublished hplan (final_of_follows hs hst.follows hfinal) hidentity'
    hpublish
  obtain ⟨hinvariant, hguarantee⟩ := kept_of_sound ht hsound
  exact ⟨hinvariant, hguarantee, fun _ _ => trivial⟩

theorem adoptFinal_safe (hplan : plan.Genuine) (hs : (publicationTerms alone).invariant s)
    (htracks : s.Has plan (Tracks initial)) :
    (publicationTerms alone).Safe (fun _ _ => True) (adoptFinal plan initial updatedAt) s := by
  unfold adoptFinal
  rw [finalRef_of_tracks hs.1 hplan htracks]
  apply Terms.Safe.raise_bind
  intro expected _
  apply Terms.Safe.bind hs (readFinal_safe hplan hs)
  intro result t ht _ hresult
  apply Terms.Safe.raise_bind
  intro _ hvalid
  apply Terms.Safe.raise_bind
  intro _ _
  obtain ⟨file, hfinal, hidentity⟩ := hresult _ hvalid
  split
  · exact updatePublished_safe hplan ht hfinal hidentity
  · exact Terms.Safe.pure fun _ _ => trivial

/-- The stage file on record becomes the final one. -/
theorem publishStagedNoreplace_safe (hs : (publicationTerms alone).invariant s)
    (hinitial : s.Has plan (Tracks initial)) (hattempt : s.Has plan (Tracks attempt))
    (hrecorded : attempt.stageIdentity = some stage) :
    (publicationTerms alone).Safe
      (fun guard u => ∃ file, guard.Of initial.finalRef file u.exports.volumeId)
      (publishStagedNoreplace initial.stageRef initial.finalRef stage) s := by
  unfold publishStagedNoreplace
  apply Terms.Safe.bind hs (openRead_safe hs)
  intro guard t ht hst hguard
  obtain ⟨file, hof, -⟩ := hguard
  have hof' : guard.Of initial.stageRef file t.exports.volumeId := by
    rw [volume_of_follows hs hst]
    exact hof
  apply Terms.Safe.bind ht (revalidate_safe ht hof')
  intro staged u hu htu _
  apply Terms.Safe.raise_bind
  intro _ _
  apply Terms.Safe.transact_bind hu
  intro v _ w huv hv hbody
  obtain ⟨exports, hrename, hresult⟩ := map_eq_ok.mp hbody
  obtain rfl := congrArg Prod.snd hresult
  have hsv := (hst.trans htu).trans huv.follows
  have hkept : ∀ attempt, s.Has plan (Tracks attempt) → v.Has plan (Tracks attempt) :=
    fun _ => has_of_follows (fun _ _ _ hstep => hstep.tracks) hs hsv
  obtain ⟨row, hrow, hid, hstage, hfinal, -⟩ := hkept initial hinitial
  obtain ⟨other, hother, hid', -, -, hidentity⟩ := hkept attempt hattempt
  obtain rfl := hv.1.eq_of_buildId hrow hother (hid.trans hid'.symm)
  have hpresent : row.stageIdentity ≠ none := by
    simp [hidentity stage hrecorded]
  rw [← hstage, ← hfinal] at hrename
  obtain ⟨hsound, hstep⟩ := hv.1.rename hrow hpresent hrename
  have hinvariant : (publicationTerms alone).invariant { v with exports } :=
    ⟨hsound, fun halone => (hv.2 halone).rename hv.1 hrow hrename⟩
  refine ⟨hinvariant, .inr hstep, ?_⟩
  apply Terms.Safe.bind hinvariant (openRead_safe hinvariant)
  intro published x hx hwx hpublished
  obtain ⟨final, hof, -⟩ := hpublished
  have hof' : published.Of initial.finalRef final x.exports.volumeId := by
    rw [volume_of_follows hinvariant hwx]
    exact hof
  apply Terms.Safe.bind hx (revalidate_safe hx hof')
  intro identity y hy hxy _
  apply Terms.Safe.raise_bind
  intro _ _
  apply Terms.Safe.pure
  intro z hyz
  refine ⟨final, ?_⟩
  rw [volume_of_follows hx (hxy.trans hyz.follows)]
  exact hof'

theorem publishStage_safe (hplan : plan.Genuine) (hs : (publicationTerms alone).invariant s)
    (hinitial : s.Has plan (Tracks initial)) (hattempt : s.Has plan (Tracks attempt)) :
    (publicationTerms alone).Safe (fun _ _ => True)
      (publishStage plan initial attempt stage updatedAt) s := by
  unfold publishStage
  apply Terms.Safe.raise_bind
  intro recorded hrecorded
  rw [fetch_eq_ok] at hrecorded
  apply Terms.Safe.raise_bind
  intro _ _
  apply Terms.Safe.bind hs (publishStagedNoreplace_safe hs hinitial hattempt hrecorded)
  intro published t ht _ hpublished
  obtain ⟨final, hof⟩ := hpublished
  apply Terms.Safe.bind ht (revalidate_safe ht hof)
  intro finalIdentity u hu _ _
  rw [finalRef_of_tracks hs.1 hplan hinitial]
  apply Terms.Safe.bind hu (readFinal_safe hplan hu)
  intro result v hv _ hresult
  apply Terms.Safe.raise_bind
  intro _ hvalid
  apply Terms.Safe.raise_bind
  intro _ _
  obtain ⟨file, hfinal, hidentity⟩ := hresult _ hvalid
  exact updatePublished_safe hplan hv hfinal hidentity

theorem stageAndPublish_safe (hplan : plan.Genuine) (hs : (publicationTerms alone).invariant s)
    (htracks : s.Has plan (Tracks initial)) (habsent : s.Absent alone initial.finalRef) :
    (publicationTerms alone).Safe (fun _ _ => True) (stageAndPublish plan initial updatedAt) s := by
  unfold stageAndPublish
  apply Terms.Safe.raise_bind
  intro _ _
  apply Terms.Safe.bind hs (stageIdentity_safe hplan hs htracks habsent)
  intro stage t ht hst hstages
  have htracks' := has_of_follows (fun _ _ _ hstep => hstep.tracks) hs hst htracks
  apply Terms.Safe.bind ht (recordedAttempt_safe hplan ht htracks' hstages)
  intro attempt u hu htu hattempt
  have hinitial := has_of_follows (fun _ _ _ hstep => hstep.tracks) ht htu htracks'
  exact publishStage_safe hplan hu hinitial hattempt

omit [CollisionFree Fp] in
/-- A path that was not there is not there for a procedure that runs alone. -/
theorem pathExists_safe (hs : (publicationTerms alone).invariant s) (path : ArtifactRef Fp) :
    (publicationTerms alone).Safe (fun found u => found = false → u.Absent alone path)
      (pathExists path) s := by
  unfold pathExists
  apply Terms.Safe.look hs
  intro t found _ ht hfound u htu hnone
  apply later_absent ht htu
  intro _
  rw [← Except.ok.inj hfound, Option.isSome_eq_false_iff, Option.isNone_iff_eq_none] at hnone
  exact hnone

theorem drivePublicationFiles_safe (hplan : plan.Genuine)
    (hs : (publicationTerms alone).invariant s) (htracks : s.Has plan (Tracks initial)) :
    (publicationTerms alone).Safe (fun _ _ => True)
      (drivePublicationFiles plan initial updatedAt) s := by
  have hboth : (publicationTerms alone).Safe (fun _ _ => True) (bothExist initial) s := by
    unfold bothExist
    apply Terms.Safe.bind hs (pathExists_safe hs _)
    intro found t ht _ _
    split
    · exact (pathExists_safe ht _).imp fun _ _ _ => trivial
    · exact Terms.Safe.pure fun _ _ => trivial
  unfold drivePublicationFiles
  apply Terms.Safe.raise_bind
  intro _ _
  split
  · exact Terms.Safe.pure fun _ _ => trivial
  · apply Terms.Safe.raise_bind
    intro _ _
    apply Terms.Safe.bind hs hboth
    intro both t ht hst _
    apply Terms.Safe.raise_bind
    intro _ _
    apply Terms.Safe.bind ht (pathExists_safe ht _)
    intro found u hu htu habsent
    have htracks' := has_of_follows (fun _ _ _ hstep => hstep.tracks) hs (hst.trans htu) htracks
    split
    · exact adoptFinal_safe hplan hu htracks'
    · next hfound =>
      exact stageAndPublish_safe hplan hu htracks' (habsent (Bool.eq_false_of_not_eq_true hfound))

/-- An attempt that is published has told of the final file. -/
theorem published_receipts (hs : s.Sound) (hplan : plan.Genuine)
    (hload : s.loadAttempt plan = .ok attempt) (hpublished : attempt.state = .published) :
    ∃ file, s.exports.find? plan.finalRef = some file ∧
      attempt.finalIdentity = some (plan.stamp s.exports file) ∧
      attempt.durability = some linuxDurability := by
  obtain ⟨-, hplaced, -⟩ := tracks_of_loadAttempt hs hplan hload
  rcases hplaced.progress with hbegun | ⟨file, -, -, hstaged | hmoved⟩
  · cases hpublished.symm.trans hbegun.state
  · cases hpublished.symm.trans hstaged.state
  · refine ⟨file, hplaced.finalRef ▸ hmoved.named, ?_⟩
    rcases hmoved.receipts with ⟨hstate, -⟩ | ⟨hidentity, hdurability, -⟩
    · cases hpublished.symm.trans hstate
    · exact ⟨hidentity, hdurability⟩

theorem finalizeBuild_safe (hplan : plan.Genuine) (hs : (publicationTerms alone).invariant s) :
    (publicationTerms alone).Safe (fun _ _ => True) (finalizeBuild plan createdAt) s := by
  unfold finalizeBuild
  apply Terms.Safe.look_bind hs
  intro t attempt _ ht hload
  split
  · exact Terms.Safe.pure fun _ _ => trivial
  · apply Terms.Safe.raise_bind
    intro _ hpublished
    rw [require_eq_ok] at hpublished
    obtain ⟨file, hfinal, hidentity, hdurable⟩ := published_receipts ht.1 hplan hload hpublished
    unfold finalizePublished
    apply Terms.Safe.look_bind ht
    intro u current htu hu _
    apply Terms.Safe.raise_bind
    intro _ _
    apply Terms.Safe.bind hu (readGuardedFile_safe hu)
    intro result v hv huv _
    apply Terms.Safe.raise_bind
    intro _ _
    apply Terms.Safe.raise_bind
    intro expected hexpected
    rw [fetch_eq_ok, hidentity, Option.some.injEq] at hexpected
    apply Terms.Safe.raise_bind
    intro _ _
    apply Terms.Safe.raise_bind
    intro durability hdurability
    rw [fetch_eq_ok, hdurable, Option.some.injEq] at hdurability
    apply Terms.Safe.transact hv
    intro w _ x hvw hw hcommit
    have htw := (htu.follows.trans huv).trans hvw.follows
    have hidentity' : expected = plan.stamp w.exports file := by
      rw [← hexpected, PublicationPlan.stamp, PublicationPlan.stamp, volume_of_follows ht htw]
    subst hdurability
    have hsound := hw.1.commitBuild hplan (final_of_follows ht htw hfinal) hidentity' hcommit
    obtain ⟨hinvariant, hguarantee⟩ := kept_of_sound hw hsound
    exact ⟨hinvariant, hguarantee, fun _ _ => trivial⟩

theorem commitPlan_safe (hplan : plan.Genuine) (hs : (publicationTerms alone).invariant s) :
    (publicationTerms alone).Safe (fun _ _ => True) (commitPlan plan createdAt) s := by
  unfold commitPlan
  apply Terms.Safe.look_bind hs
  intro t attempt _ ht hload
  obtain ⟨-, -, htracks⟩ := tracks_of_loadAttempt ht.1 hplan hload
  split
  · exact Terms.Safe.pure fun _ _ => trivial
  · apply Terms.Safe.bind ht (drivePublicationFiles_safe hplan ht htracks)
    intro _ u hu _ _
    exact finalizeBuild_safe hplan hu

end Drive

/-! ## Calls -/

section Calls

open PublicationStore

variable [CollisionFree Fp] {alone : Bool} {s t : PublicationStore Fp}
  {plan : PublicationPlan Fp} {projectId acceptanceId token createdAt idempotencyKey : String}
  {format : PublicationFormat} {userAuthorized : Bool}

omit [CollisionFree Fp] in
theorem loadBuild_safe (hs : (publicationTerms alone).invariant s) (projectId : String)
    (buildId : Fp) :
    (publicationTerms alone).Safe (fun _ _ => True) (loadBuild projectId buildId) s := by
  have hrows : (publicationTerms alone).Safe (fun _ _ => True)
      (committedRows projectId buildId) s := by
    unfold committedRows
    apply Terms.Safe.look_bind hs
    intro t rows _ ht _
    split
    · exact Terms.Safe.pure fun _ _ => trivial
    · exact Terms.Safe.look ht fun _ _ _ _ _ _ _ => trivial
  unfold loadBuild
  apply Terms.Safe.bind hs hrows
  intro rows t ht _ _
  apply Terms.Safe.raise_bind
  intro finalIdentity _
  apply Terms.Safe.bind ht (readGuardedFile_safe ht)
  intro result u _ _ _
  apply Terms.Safe.raise_bind
  intro _ _
  apply Terms.Safe.raise_bind
  intro _ _
  exact Terms.Safe.pure fun _ _ => trivial

theorem buildPlan_safe (hplan : plan.Genuine) (hs : (publicationTerms alone).invariant s)
    (key : Option String) :
    (publicationTerms alone).Safe (fun _ _ => True) (buildPlan plan key token createdAt) s := by
  unfold buildPlan
  apply Terms.Safe.raise_bind
  intro _ _
  apply Terms.Safe.transact_bind hs
  intro t _ u _ ht hprepare
  obtain ⟨hsound, hstep, hcalm, -⟩ := ht.1.prepare hplan hprepare
  obtain ⟨hinvariant, hguarantee⟩ := kept_of_sound ht ⟨hsound, hstep, hcalm⟩
  refine ⟨hinvariant, hguarantee, ?_⟩
  apply Terms.Safe.bind hinvariant (commitPlan_safe hplan hinvariant)
  intro _ v hv _ _
  apply Terms.Safe.bind hv (loadBuild_safe hv _ _)
  intro build w hw _ _
  apply Terms.Safe.bind hw (readGuardedFile_safe hw)
  intro result x _ _ _
  apply Terms.Safe.raise_bind
  intro _ _
  exact Terms.Safe.pure fun _ _ => trivial

omit [DecidableEq Fp] [CollisionFree Fp] in
theorem genuine_of_makePlan {sources : List (PublicationSource Fp)} {collection : Bool}
    (hmake : makePlan projectId sources format collection = .ok plan)
    (hlength : collection = false → sources.length = 1)
    (hintact : ∀ source ∈ sources, source.Intact) : plan.Genuine := by
  obtain ⟨rfl, rfl, rfl, -⟩ := makePlan_fields hmake
  exact ⟨sources, hmake, hlength, hintact⟩

theorem buildPublication_safe (hs : (publicationTerms alone).invariant s) :
    (publicationTerms alone).Safe (fun _ _ => True)
      (buildPublication projectId acceptanceId format token createdAt) s := by
  unfold buildPublication
  apply Terms.Safe.look_bind hs
  intro t source _ ht hsource
  apply Terms.Safe.raise_bind
  intro plan hmake
  have hgenuine : plan.Genuine := by
    apply genuine_of_makePlan hmake
    · simp
    · simpa using loadAcceptedSource_intact hsource
  exact buildPlan_safe hgenuine ht none

omit [CollisionFree Fp] in
theorem loadCurrentSources_safe (hs : (publicationTerms alone).invariant s)
    (acceptanceIds : List String) :
    (publicationTerms alone).Safe (fun sources _ => ∀ source ∈ sources, source.Intact)
      (loadCurrentSources acceptanceIds) s := by
  induction acceptanceIds generalizing s with
  | nil =>
    apply Terms.Safe.pure
    simp
  | cons acceptanceId rest ih =>
    unfold loadCurrentSources
    apply Terms.Safe.look_bind hs
    intro t source _ ht hsource
    apply Terms.Safe.bind ht (ih ht)
    intro sources u _ _ hsources
    apply Terms.Safe.pure
    intro v _
    have hintact := loadCurrentSource_intact hsource
    simpa using ⟨hintact, hsources⟩

theorem buildPublicationCollection_safe (hs : (publicationTerms alone).invariant s)
    (acceptanceIds : List String) :
    (publicationTerms alone).Safe (fun _ _ => True)
      (buildPublicationCollection projectId acceptanceIds format idempotencyKey userAuthorized
        token createdAt) s := by
  unfold buildPublicationCollection
  apply Terms.Safe.raise_bind
  intro _ _
  apply Terms.Safe.raise_bind
  intro _ _
  apply Terms.Safe.raise_bind
  intro _ _
  apply Terms.Safe.bind hs (loadCurrentSources_safe hs acceptanceIds)
  intro sources t ht _ hintact
  apply Terms.Safe.raise_bind
  intro _ _
  apply Terms.Safe.raise_bind
  intro plan hmake
  have hgenuine := genuine_of_makePlan hmake (by simp) hintact
  exact buildPlan_safe hgenuine ht (some idempotencyKey)

end Calls

/-! ## Builds side by side -/

/-- A build, whose result goes to its caller. -/
inductive Building : PublicationProcedure Fp Unit → Prop where
  | single (projectId acceptanceId : String) (format : PublicationFormat)
      (token createdAt : String) :
      Building (do
        let _ ← buildPublication projectId acceptanceId format token createdAt
        pure ())
  | collection (projectId : String) (acceptanceIds : List String) (format : PublicationFormat)
      (idempotencyKey : String) (userAuthorized : Bool) (token createdAt : String) :
      Building (do
        let _ ← buildPublicationCollection projectId acceptanceIds format idempotencyKey
          userAuthorized token createdAt
        pure ())

/-- What may happen: the project changes, a build begins, acts or ends; where builds run alone,
none begins before the last one ended. -/
def BuildMove (alone : Bool) :
    Ensemble CoreError (PublicationStore Fp) → Ensemble CoreError (PublicationStore Fp) → Prop :=
  Ensemble.Move (fun running _ x => Building x ∧ (alone = true → running = []))
    fun s t => ∃ project, t = { s with project }

/-- Nothing was published yet. -/
structure PublicationStore.Blank (store : PublicationStore Fp) : Prop where
  singles : store.singles = ⟨[], [], [], []⟩
  collections : store.collections = ⟨[], [], [], []⟩
  names : store.exports.names = []

/-- A run of builds from a project without publications. -/
structure BuildRun (alone : Bool) (p : Ensemble CoreError (PublicationStore Fp)) : Prop where
  blank : ∃ store : PublicationStore Fp, store.Blank ∧
    Relation.ReflTransGen (BuildMove alone) ⟨store, []⟩ p

section Runs

open PublicationStore

variable {alone : Bool} {s t : PublicationStore Fp}
  {p q : Ensemble CoreError (PublicationStore Fp)}

omit [Sha256 Fp] [DecidableEq Fp] in
theorem PublicationStore.Blank.tables (h : s.Blank) (c : Bool) : s.tables c = ⟨[], [], [], []⟩ := by
  cases c
  · exact h.singles
  · exact h.collections

theorem PublicationStore.Blank.sound (h : s.Blank) : s.Sound := by
  refine ⟨⟨?_, ?_, ?_⟩, ?_, ?_, ?_, ?_, ?_, ?_⟩ <;> simp [h.tables, h.names]

omit [Sha256 Fp] in
theorem PublicationStore.Blank.calm (h : s.Blank) : s.Calm := by
  simp [Calm, h.tables]

/-- Builds are no matter of the rest of the project. -/
theorem outside_rely (h : ∃ project, t = { s with project })
    (hs : (publicationTerms alone).invariant s) :
    (publicationTerms alone).rely s t ∧ (publicationTerms alone).invariant t := by
  obtain ⟨project, rfl⟩ := h
  have hstep : s.Step { s with project } :=
    step_of_rows rfl (fun _ _ hrow => hrow) fun _ => rfl
  refine ⟨⟨hstep, fun _ => ⟨project, rfl⟩⟩, hs.1.of_rows rfl (fun _ => rfl) fun _ => rfl, ?_⟩
  intro halone
  exact (hs.2 halone).of_find? (fun c row hrow => ⟨row, hrow, rfl, rfl⟩) fun _ => rfl

variable [CollisionFree Fp]

theorem Building.safe {x : PublicationProcedure Fp Unit} (h : Building x)
    (hs : (publicationTerms alone).invariant s) :
    (publicationTerms alone).Safe (fun _ _ => True) x s := by
  cases h with
  | single projectId acceptanceId format token createdAt =>
    apply Terms.Safe.bind hs (buildPublication_safe hs)
    exact fun _ _ _ _ _ => Terms.Safe.pure fun _ _ => trivial
  | collection projectId acceptanceIds format idempotencyKey userAuthorized token createdAt =>
    apply Terms.Safe.bind hs (buildPublicationCollection_safe hs acceptanceIds)
    exact fun _ _ _ _ _ => Terms.Safe.pure fun _ _ => trivial

theorem building_begins {running : List (PublicationProcedure Fp Unit)}
    {x : PublicationProcedure Fp Unit} (h : Building x ∧ (alone = true → running = []))
    (hs : (publicationTerms alone).invariant s) :
    (publicationTerms alone).Safe (fun _ _ => True) x s ∧ (running = [] ∨
      ∀ s t : PublicationStore Fp, (publicationTerms alone).guarantee s t →
        (publicationTerms alone).rely s t) := by
  refine ⟨h.1.safe hs, ?_⟩
  cases alone with
  | true => exact .inl (h.2 rfl)
  | false => exact .inr fun _ _ hstep => ⟨hstep, fun hfalse => by cases hfalse⟩

theorem kept_of_run (h : BuildRun alone p) : Ensemble.Kept (publicationTerms alone) p := by
  obtain ⟨store, hblank, hmoves⟩ := h
  have hinvariant : (publicationTerms alone).invariant store :=
    ⟨hblank.sound, fun _ => hblank.calm⟩
  have hstart : Ensemble.Kept (ε := CoreError) (publicationTerms alone) ⟨store, []⟩ := by
    refine ⟨hinvariant, ?_, .inl (Nat.zero_le _)⟩
    intro x hx
    cases hx
  exact (hstart.moves (fun _ _ _ => building_begins) (fun _ _ => outside_rely) hmoves).1

theorem follows_of_moves (h : BuildRun alone p)
    (hmoves : Relation.ReflTransGen (BuildMove alone) p q) :
    (publicationTerms alone).Follows p.storage q.storage :=
  ((kept_of_run h).moves (fun _ _ _ => building_begins) (fun _ _ => outside_rely) hmoves).2

theorem step_of_move (h : BuildRun alone p) (hmove : BuildMove alone p q) :
    p.storage.Step q.storage := by
  have hkept := kept_of_run h
  obtain ⟨-, hsame | houtside | hstep⟩ :=
    hkept.move (fun _ _ _ => building_begins) (fun _ _ => outside_rely) hmove
  · rw [hsame]
    exact step_of_rows rfl (fun _ _ hrow => hrow) fun _ => rfl
  · exact (outside_rely houtside hkept.invariant).1.1
  · exact hstep

end Runs

/-! ## A sample run -/

namespace Sample

/-- A project with one accepted chapter. -/
def unpublished : PublicationStore Digest where
  project := { initialProject "novel" "Harbour" "t0" with
    storyNodes := [⟨"CH001", none, .chapter, 1, "Harbour"⟩]
    documents := [⟨"D1", some "CH001", .manuscript, "Harbour", "t0"⟩]
    documentRevisions := [⟨"R1", "D1", none, "Ink", Sha256.ofText "Ink", "t0", "candidate",
      .accepted, .null⟩]
    candidates := [⟨"C1", some "D1", some "R1", none, .draft, "chapter", .accepted,
      Sha256.ofText "Ink", "open", "t0"⟩]
    acceptanceEvidence := [⟨"A1", "C1", Sha256.ofText "Ink", "author",
      ⟨"", "A1", "C1", Sha256.ofText "Ink", Sha256.ofText "", "author", "K1", "t0",
        Sha256.ofText ""⟩, "t0"⟩] }
  singles := ⟨[], [], [], []⟩
  collections := ⟨[], [], [], []⟩
  exports := ⟨7, [], []⟩

def publishing (format : PublicationFormat) : PublicationProcedure Digest Unit := do
  let _ ← buildPublication "novel" "A1" format "T1" "t1"
  pure ()

def published : Ensemble CoreError (PublicationStore Digest) :=
  ⟨((publishing .md).alone unpublished).1, []⟩

def publishedTwice : Ensemble CoreError (PublicationStore Digest) :=
  ⟨((publishing .txt).alone published.storage).1, []⟩

theorem publishing_moves (alone : Bool) (format : PublicationFormat)
    (s : PublicationStore Digest) :
    Relation.ReflTransGen (BuildMove alone) ⟨s, []⟩ ⟨((publishing format).alone s).1, []⟩ :=
  .head (.begin ⟨.single _ _ _ _ _, fun _ => rfl⟩) (Ensemble.moves_alone _ s)

theorem run_published (alone : Bool) : BuildRun alone published :=
  ⟨unpublished, ⟨rfl, rfl, rfl⟩, publishing_moves alone .md unpublished⟩

theorem published_moves (alone : Bool) :
    Relation.ReflTransGen (BuildMove alone) published publishedTwice := by
  have hidle : published = ⟨published.storage, []⟩ := by
    unfold published
    dsimp only
  rw [hidle]
  exact publishing_moves alone .txt published.storage

/-- The first build is committed. -/
theorem exists_build : ∃ build, (published.storage.tables false).builds = [build] :=
  List.length_eq_one_iff.mp (by decide +kernel)

theorem exists_attempt : ∃ row, (published.storage.tables false).attempts = [row] ∧
    row.state = .committed :=
  List.map_eq_singleton_iff.mp
    (show (published.storage.tables false).attempts.map AttemptRow.state = [.committed] by
      decide +kernel)

end Sample

/-! ## Committed builds -/

section Results

open PublicationStore

variable {alone : Bool} {s t : PublicationStore Fp} {c : Bool} {build : BuildRow Fp}
  {p q : Ensemble CoreError (PublicationStore Fp)}

/-- A build that holds: its row tells of the plan, its attempt is committed, and the file is whole
and on record. -/
structure BuildRow.Held (build : BuildRow Fp) (store : PublicationStore Fp) (c : Bool)
    (plan : PublicationPlan Fp) (file : ℕ) : Prop where
  genuine : plan.Genuine
  collection : plan.collection = c
  columns : ∃ createdAt,
    build = plan.build (plan.stamp store.exports file) linuxDurability createdAt
  attempt : ∃ row ∈ (store.tables c).attempts, plan.Binds row ∧ row.state = .committed ∧
    row.stateVersion = 4 ∧ row.stageIdentity = some (plan.stamp store.exports file) ∧
    row.finalIdentity = some (plan.stamp store.exports file) ∧
    row.durability = some linuxDurability
  named : store.exports.find? build.outputRef = some file
  whole : store.exports.files[file]? = some plan.bytes

variable [CollisionFree Fp]

omit [CollisionFree Fp] in
/-- A final name stands for the whole artifact of its build. -/
theorem PublicationStore.Sound.final_whole (hs : s.Sound) {buildId : Fp}
    {format : PublicationFormat} {file : ℕ}
    (hfinal : s.exports.find? (.final buildId format) = some file) :
    ∃ plan : PublicationPlan Fp, plan.Genuine ∧ buildId = plan.buildId ∧
      s.exports.files[file]? = some plan.bytes := by
  obtain ⟨c, row, hrow, hname⟩ := hs.owned _ (Directory.mem_of_find? hfinal)
  obtain ⟨plan, hplan, -, hplaced⟩ := hs.placed c row hrow
  refine ⟨plan, hplan, ?_⟩
  rcases hname with hstage | hname
  · cases hstage.trans hplaced.stageRef
  · have hid := congrArg ArtifactRef.buildId hname
    rw [hplaced.final_buildId, hplaced.buildId] at hid
    have hnamed : s.exports.find? row.finalRef = some file := hname ▸ hfinal
    exact ⟨hid, (hplaced.of_final hnamed).1⟩

theorem PublicationStore.Sound.held (hs : s.Sound) (hbuild : build ∈ (s.tables c).builds) :
    ∃ plan file, build.Held s c plan file := by
  obtain ⟨plan, identity, createdAt, hplan, hcollection, hcolumns, row, hrow, hid, hcommitted,
    hidentity⟩ := hs.built c build hbuild
  have hplaced := (hs.placed_of_buildId hplan hrow hid).2
  rcases hplaced.progress with hbegun | ⟨file, hwhole, hrecorded, hstaged | hmoved⟩
  · cases hcommitted.symm.trans hbegun.state
  · cases hcommitted.symm.trans hstaged.state
  · refine ⟨plan, file, ?_⟩
    rcases hmoved.receipts with ⟨hstate, -⟩ | ⟨hfinal, hdurability, ⟨hstate, -⟩ | ⟨-, hversion⟩⟩
    · cases hcommitted.symm.trans hstate
    · cases hcommitted.symm.trans hstate
    · obtain rfl := Option.some.inj (hidentity.symm.trans hfinal)
      have hnamed : s.exports.find? build.outputRef = some file := by
        rw [show build.outputRef = plan.finalRef by rw [hcolumns]; rfl, ← hplaced.finalRef]
        exact hmoved.named
      exact ⟨hplan, hcollection, ⟨createdAt, hcolumns⟩,
        ⟨row, hrow, hplaced.binds, hcommitted, hversion, hrecorded, hfinal, hdurability⟩, hnamed,
        hwhole⟩

/-- A build that holds does so at every later time, with the same file. -/
theorem BuildRow.Held.follows {plan : PublicationPlan Fp} {file : ℕ}
    (hs : (publicationTerms alone).invariant s) (h : (publicationTerms alone).Follows s t)
    (hbuild : build ∈ (s.tables c).builds) (hheld : build.Held s c plan file) :
    build ∈ (t.tables c).builds ∧ build.Held t c plan file := by
  have hkept : ∀ s t : PublicationStore Fp, s.Sound → s.Step t →
      build ∈ (s.tables c).builds → build ∈ (t.tables c).builds :=
    fun _ _ _ hstep hbefore => hstep.builds c build hbefore
  have hlater := follows_keeps hkept hs h hbuild
  refine ⟨hlater, ?_⟩
  obtain ⟨other, later, hheld'⟩ := (h.invariant hs).1.held hlater
  obtain ⟨createdAt, hcolumns⟩ := hheld.columns
  obtain ⟨createdAt', hcolumns'⟩ := hheld'.columns
  have hid : other.buildId = plan.buildId :=
    congrArg BuildRow.buildId (hcolumns'.symm.trans hcolumns)
  obtain rfl := hheld'.genuine.eq hheld.genuine hid
  have hfinal : s.exports.find? other.finalRef = some file := by
    rw [show other.finalRef = build.outputRef by rw [hcolumns]; rfl]
    exact hheld.named
  have hfinal' := final_of_follows hs h hfinal
  have hnamed : t.exports.find? other.finalRef = some later := by
    rw [show other.finalRef = build.outputRef by rw [hcolumns]; rfl]
    exact hheld'.named
  obtain rfl := Option.some.inj (hnamed.symm.trans hfinal')
  exact hheld'

/-- Whatever builds run side by side, and wherever they end, each committed build holds, and no
build id is committed twice. -/
theorem builds_held (h : BuildRun false p) (c : Bool) :
    ((p.storage.tables c).builds.map (·.buildId)).Nodup ∧
      ∀ build ∈ (p.storage.tables c).builds, ∃ plan file, build.Held p.storage c plan file := by
  have hsound := (kept_of_run h).invariant.1
  exact ⟨hsound.builds c, fun build hbuild => hsound.held hbuild⟩

theorem builds_held_sample : ∃ build plan file,
    (Sample.published.storage.tables false).builds = [build] ∧
      build.Held Sample.published.storage false plan file := by
  obtain ⟨build, hbuilds⟩ := Sample.exists_build
  obtain ⟨-, hheld⟩ := builds_held (Sample.run_published false) false
  obtain ⟨plan, file, hbuild⟩ := hheld build (by simp [hbuilds])
  exact ⟨build, plan, file, hbuilds, hbuild⟩

/-- A file that has a final name is never overwritten, and neither is what tells of it. -/
theorem builds_last (h : BuildRun false p)
    (hmoves : Relation.ReflTransGen (BuildMove false) p q) :
    (∀ buildId format file, p.storage.exports.find? (.final buildId format) = some file →
      q.storage.exports.find? (.final buildId format) = some file ∧
        q.storage.exports.files[file]? = p.storage.exports.files[file]?) ∧
    ∀ c, ∀ build ∈ (p.storage.tables c).builds, ∀ plan file, build.Held p.storage c plan file →
      build ∈ (q.storage.tables c).builds ∧ build.Held q.storage c plan file := by
  have hkept := kept_of_run h
  have hfollows := follows_of_moves h hmoves
  constructor
  · intro buildId format file hfinal
    have hlater : q.storage.exports.find? (.final buildId format) = some file := by
      have hstays : ∀ s t : PublicationStore Fp, s.Sound → s.Step t →
          s.exports.find? (.final buildId format) = some file →
          t.exports.find? (.final buildId format) = some file :=
        fun _ _ _ hstep hbefore => hstep.finals _ _ _ hbefore
      exact follows_keeps hstays hkept.invariant hfollows hfinal
    refine ⟨hlater, ?_⟩
    obtain ⟨plan, hplan, hid, hwhole⟩ := hkept.invariant.1.final_whole hfinal
    obtain ⟨plan', hplan', hid', hwhole'⟩ :=
      (hfollows.invariant hkept.invariant).1.final_whole hlater
    rw [hwhole, hwhole', hplan.eq hplan' (hid.symm.trans hid')]
  · intro c build hbuild plan file hheld
    exact hheld.follows hkept.invariant hfollows hbuild

theorem builds_last_sample : ∃ build plan file,
    (Sample.published.storage.tables false).builds = [build] ∧
      (Sample.publishedTwice.storage.tables false).builds.length = 2 ∧
      build ∈ (Sample.publishedTwice.storage.tables false).builds ∧
      build.Held Sample.publishedTwice.storage false plan file := by
  obtain ⟨build, hbuilds⟩ := Sample.exists_build
  have hbuild : build ∈ (Sample.published.storage.tables false).builds := by simp [hbuilds]
  have hrun := Sample.run_published false
  obtain ⟨plan, file, hheld⟩ := (kept_of_run hrun).invariant.1.held hbuild
  obtain ⟨-, hlast⟩ := builds_last hrun (Sample.published_moves false)
  obtain ⟨hlater, hheld'⟩ := hlast false build hbuild plan file hheld
  exact ⟨build, plan, file, hbuilds, by decide +kernel, hlater, hheld'⟩

/-- A build is committed by a move that finds that the sources still derive its plan, with the
whole artifact under the final name. -/
theorem builds_rederived (h : BuildRun false q) (hbuild : build ∈ (q.storage.tables c).builds) :
    ∃ before after : Ensemble CoreError (PublicationStore Fp), ∃ plan file,
      BuildRun false before ∧ BuildMove false before after ∧
      Relation.ReflTransGen (BuildMove false) after q ∧
      build ∉ (before.storage.tables c).builds ∧
      before.storage.project.rebuildPlan plan = .ok plan ∧
      build.Held after.storage c plan file ∧ build.Held q.storage c plan file := by
  obtain ⟨store, hblank, hmoves⟩ := h
  induction hmoves with
  | refl =>
    rw [hblank.tables] at hbuild
    cases hbuild
  | @tail mid last hmoves hmove ih =>
    have hmid : BuildRun false mid := ⟨store, hblank, hmoves⟩
    have hlast : BuildRun false last := ⟨store, hblank, hmoves.tail hmove⟩
    by_cases hold : build ∈ (mid.storage.tables c).builds
    · obtain ⟨before, after, plan, file, hbefore, hfirst, hlater, hnew, hplan, hafter, hheld⟩ :=
        ih hold
      refine ⟨before, after, plan, file, hbefore, hfirst, hlater.tail hmove, hnew, hplan, hafter,
        ?_⟩
      exact (hheld.follows (kept_of_run hmid).invariant
        (follows_of_moves hmid (.single hmove)) hold).2
    · obtain ⟨plan, file, hheld⟩ := (kept_of_run hlast).invariant.1.held hbuild
      rcases (step_of_move hmid hmove).rebuilt c build hbuild with
        hbefore | ⟨other, hother, -, hid, hrebuilt⟩
      · exact absurd hbefore hold
      · obtain ⟨createdAt, hcolumns⟩ := hheld.columns
        have hid' : plan.buildId = other.buildId := by
          rw [← hid, hcolumns]
          rfl
        obtain rfl := hheld.genuine.eq hother hid'
        exact ⟨mid, last, plan, file, hmid, hmove, .refl, hold, hrebuilt, hheld, hheld⟩

theorem builds_rederived_sample : ∃ build plan, ∃ before : Ensemble CoreError _,
    (Sample.published.storage.tables false).builds = [build] ∧ BuildRun false before ∧
      build ∉ (before.storage.tables false).builds ∧
      before.storage.project.rebuildPlan plan = .ok plan := by
  obtain ⟨build, hbuilds⟩ := Sample.exists_build
  have hbuild : build ∈ (Sample.published.storage.tables false).builds := by simp [hbuilds]
  obtain ⟨before, -, plan, -, hbefore, -, -, hnew, hplan, -, -⟩ :=
    builds_rederived (Sample.run_published false) hbuild
  exact ⟨build, plan, before, hbuilds, hbefore, hnew, hplan⟩

/-- Attempts only advance: the stage file goes on record, then the final file, then the build, and
the version counts these changes. -/
theorem attempts_in_order (h : BuildRun false p)
    (hmoves : Relation.ReflTransGen (BuildMove false) p q) (c : Bool) :
    (∀ row ∈ (p.storage.tables c).attempts, ∃ row' ∈ (q.storage.tables c).attempts,
      row'.buildId = row.buildId ∧ Relation.ReflTransGen AttemptRow.Advance row row') ∧
    (∀ row ∈ (p.storage.tables c).attempts,
      (row.state = .staged ∧ row.stateVersion = 1 ∧ row.stageIdentity = none) ∨
        (row.stageIdentity ≠ none ∧ ((row.state = .staged ∧ row.stateVersion = 2) ∨
          (row.finalIdentity = row.stageIdentity ∧
            ((row.state = .published ∧ row.stateVersion = 3) ∨
              (row.state = .committed ∧ row.stateVersion = 4)))))) := by
  have hkept := kept_of_run h
  constructor
  · intro row hrow
    have hchain : ∀ s t : PublicationStore Fp, s.Sound → s.Step t →
        (∃ row' ∈ (s.tables c).attempts, row'.buildId = row.buildId ∧
          Relation.ReflTransGen AttemptRow.Advance row row') →
        ∃ row' ∈ (t.tables c).attempts, row'.buildId = row.buildId ∧
          Relation.ReflTransGen AttemptRow.Advance row row' := by
      intro s t _ hstep hbefore
      obtain ⟨row', hrow', hid, hrun⟩ := hbefore
      obtain ⟨next, hnext, rfl | hadvance⟩ := hstep.attempts c row' hrow'
      · exact ⟨next, hnext, hid, hrun⟩
      · exact ⟨next, hnext, hadvance.refs.1.trans hid, hrun.tail hadvance⟩
    exact follows_keeps hchain hkept.invariant (follows_of_moves h hmoves) ⟨row, hrow, rfl, .refl⟩
  · intro row hrow
    obtain ⟨plan, -, -, hplaced⟩ := hkept.invariant.1.placed c row hrow
    rcases hplaced.progress with hbegun | ⟨file, -, hrecorded, hstaged | hmoved⟩
    · exact .inl ⟨hbegun.state, hbegun.version, hbegun.stage⟩
    · exact .inr ⟨by simp [hrecorded], .inl ⟨hstaged.state, hstaged.version⟩⟩
    · refine .inr ⟨by simp [hrecorded], ?_⟩
      rcases hmoved.receipts with hstaged | ⟨hfinal, -, hstate⟩
      · exact .inl hstaged
      · exact .inr ⟨hfinal.trans hrecorded.symm, hstate⟩

theorem attempts_in_order_sample : ∃ row, ∃ row' ∈ (Sample.publishedTwice.storage.tables
      false).attempts, (Sample.published.storage.tables false).attempts = [row] ∧
    row.state = .committed ∧ row'.buildId = row.buildId ∧
      Relation.ReflTransGen AttemptRow.Advance row row' := by
  obtain ⟨row, hrows, hcommitted⟩ := Sample.exists_attempt
  obtain ⟨hlater, -⟩ := attempts_in_order (Sample.run_published false)
    (Sample.published_moves false) false
  obtain ⟨row', hrow', hid, hchain⟩ := hlater row (by simp [hrows])
  exact ⟨row, row', hrow', hrows, hcommitted, hid, hchain⟩

/-- What a crash can leave of an attempt where builds do not overlap: no file, a stage file with
the beginning of the artifact, or the final file with all of it; never two files, and nothing
is on record of a stage file that is not whole. -/
theorem crash_leaves (h : BuildRun true p) (c : Bool) :
    ∀ row ∈ (p.storage.tables c).attempts, ∃ plan : PublicationPlan Fp,
      plan.Genuine ∧ plan.Binds row ∧
      ((p.storage.exports.find? row.finalRef = none ∧ row.state = .staged ∧
          ((p.storage.exports.find? row.stageRef = none ∧ row.stageIdentity = none) ∨
            ∃ file content, p.storage.exports.find? row.stageRef = some file ∧
              p.storage.exports.files[file]? = some content ∧ content <+: plan.bytes ∧
              (row.stageIdentity = none ∨ content = plan.bytes))) ∨
        ∃ file, p.storage.exports.find? row.finalRef = some file ∧
          p.storage.exports.find? row.stageRef = none ∧
          p.storage.exports.files[file]? = some plan.bytes ∧
          row.stageIdentity = some (plan.stamp p.storage.exports file)) := by
  intro row hrow
  obtain ⟨hsound, hcalm⟩ := (kept_of_run h).invariant
  obtain ⟨plan, hplan, -, hplaced⟩ := hsound.placed c row hrow
  refine ⟨plan, hplan, hplaced.binds, ?_⟩
  cases hfinal : p.storage.exports.find? row.finalRef with
  | some file =>
    obtain ⟨hwhole, hrecorded, -⟩ := hplaced.of_final hfinal
    exact .inr ⟨file, rfl, hcalm rfl c row hrow file hfinal, hwhole, hrecorded⟩
  | none =>
    rcases hplaced.progress with hbegun | ⟨file, hwhole, hrecorded, hstaged | hmoved⟩
    · refine .inl ⟨rfl, hbegun.state, ?_⟩
      cases hstage : p.storage.exports.find? row.stageRef with
      | none => exact .inl ⟨rfl, hbegun.stage⟩
      | some file =>
        obtain ⟨content, hcontent, hfront⟩ := hplaced.pieces file hstage
        exact .inr ⟨file, content, rfl, hcontent, hfront, .inl hbegun.stage⟩
    · exact .inl ⟨rfl, hstaged.state,
        .inr ⟨file, plan.bytes, hstaged.named, hwhole, List.prefix_rfl, .inr rfl⟩⟩
    · cases hfinal.symm.trans hmoved.named

theorem crash_leaves_sample : ∃ row, ∃ plan : PublicationPlan Digest,
    (Sample.published.storage.tables false).attempts = [row] ∧ plan.Genuine ∧ plan.Binds row ∧
      ∃ file, Sample.published.storage.exports.find? row.finalRef = some file ∧
        Sample.published.storage.exports.files[file]? = some plan.bytes := by
  obtain ⟨row, hrows, hcommitted⟩ := Sample.exists_attempt
  obtain ⟨plan, hplan, hbinds, ⟨-, hstaged, -⟩ | ⟨file, hfinal, -, hwhole, -⟩⟩ :=
    crash_leaves (Sample.run_published true) false row (by simp [hrows])
  · cases hcommitted.symm.trans hstaged
  · exact ⟨row, plan, hrows, hplan, hbinds, file, hfinal, hwhole⟩

end Results

end Quillframe
