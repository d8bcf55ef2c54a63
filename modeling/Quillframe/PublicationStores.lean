import Quillframe.PublicationBuilds

/-!
# Stores that builds leave

What holds of the rows of publications and of the files in `exports/` before and after every
action, and what an action may change of them.
-/
namespace Quillframe

open Json (str fp arr obj strings)

variable {Fp : Type}

/-! ## Plans -/

section Plans

variable [Sha256 Fp] {plan other : PublicationPlan Fp} {sources : List (PublicationSource Fp)}
  {source : PublicationSource Fp} {projectId acceptanceId : String} {format : PublicationFormat}
  {collection : Bool}

/-- The content is the one that the binding names. -/
def PublicationSource.Intact (source : PublicationSource Fp) : Prop :=
  source.binding.contentFingerprint = Sha256.ofText source.content

/-- The plan is made from intact sources. -/
def PublicationPlan.Genuine (plan : PublicationPlan Fp) : Prop :=
  ∃ sources, makePlan plan.projectId sources plan.format plan.collection = .ok plan ∧
    (plan.collection = false → sources.length = 1) ∧ ∀ source ∈ sources, source.Intact

theorem makePlan_fields (h : makePlan projectId sources format collection = .ok plan) :
    plan.projectId = projectId ∧ plan.format = format ∧ plan.collection = collection ∧
      plan.sourceAcceptanceIds = sources.map (·.binding.acceptanceId) ∧
      plan.sourceBindingFingerprint = Sha256.ofJson plan.sourceBinding ∧
      plan.identityFingerprint = Sha256.ofJson (publicationIdentity collection format projectId
        plan.sourceAcceptanceIds plan.sourceBindingFingerprint) ∧
      plan.artifactFingerprint = Sha256.ofText plan.content ∧
      plan.content.utf8ByteSize ≤ maxArtifactBytes := by
  simp only [makePlan, bind_eq_ok, fetch_eq_ok, require_eq_ok, pure_eq_ok] at h
  obtain ⟨first, -, _, hsize, rfl⟩ := h
  exact ⟨rfl, rfl, rfl, rfl, rfl, rfl, rfl, hsize⟩

/-- The binding of a collection is that of all its sources, the one of a single build is that of
its only source. -/
theorem makePlan_sourceBinding
    (h : makePlan projectId sources format collection = .ok plan)
    (hlength : collection = false → sources.length = 1) :
    arr (sources.map (·.binding.toJson)) =
      if collection then plan.sourceBinding else arr [plan.sourceBinding] := by
  simp only [makePlan, bind_eq_ok, fetch_eq_ok, require_eq_ok, pure_eq_ok] at h
  obtain ⟨first, hfirst, _, -, rfl⟩ := h
  cases collection with
  | true => rfl
  | false =>
    obtain ⟨only, rfl⟩ := List.length_eq_one_iff.mp (hlength rfl)
    simp only [List.head?_cons, Option.some.injEq] at hfirst
    subst hfirst
    rfl

omit [Sha256 Fp] in
theorem ofOption_injective {α : Type} {f : α → Json Fp} (hf : Function.Injective f)
    (hnull : ∀ a, f a ≠ .null) : Function.Injective (Json.ofOption f) := by
  intro a b h
  cases a with
  | none =>
    cases b with
    | none => rfl
    | some b => exact absurd h.symm (hnull b)
  | some a =>
    cases b with
    | none => exact absurd h (hnull a)
    | some b => exact congrArg some (hf h)

omit [Sha256 Fp] in
theorem SourceBinding.toJson_injective :
    Function.Injective (SourceBinding.toJson : SourceBinding Fp → Json Fp) := by
  have hstr : Function.Injective (Json.ofOption (Json.str : String → Json Fp)) :=
    ofOption_injective (fun _ _ h => Json.str.inj h) (fun _ h => by cases h)
  have hfp : Function.Injective (Json.ofOption (Json.fp : Fp → Json Fp)) :=
    ofOption_injective (fun _ _ h => Json.fp.inj h) (fun _ h => by cases h)
  have hint : Function.Injective (Json.ofOption fun order : ℕ => (Json.int order : Json Fp)) :=
    ofOption_injective (fun _ _ h => Int.ofNat.inj (Json.int.inj h)) (fun _ h => by cases h)
  intro a b h
  simp only [SourceBinding.toJson, obj.injEq, List.cons.injEq, Prod.mk.injEq, str.injEq,
    fp.injEq, true_and, and_true, hstr.eq_iff, hfp.eq_iff, hint.eq_iff] at h
  obtain ⟨h1, h2, h3, h4, h5, h6, h7, h8, h9, h10⟩ := h
  cases a
  cases b
  simp_all

variable [CollisionFree Fp]

theorem sources_eq {others : List (PublicationSource Fp)}
    (hsources : ∀ source ∈ sources, source.Intact) (hothers : ∀ source ∈ others, source.Intact)
    (h : sources.map (·.binding.toJson) = others.map (·.binding.toJson)) : sources = others := by
  induction sources generalizing others with
  | nil => exact (List.map_eq_nil_iff.mp h.symm).symm
  | cons source rest ih =>
    cases others with
    | nil => cases h
    | cons other more =>
      simp only [List.map_cons, List.cons.injEq] at h
      have hbinding := SourceBinding.toJson_injective h.1
      have hcontent : source.content = other.content := by
        apply @CollisionFree.ofText_injective Fp
        have hintact : source.binding.contentFingerprint = _ := hsources source List.mem_cons_self
        rw [← hintact, hbinding]
        exact hothers other List.mem_cons_self
      have hrest := ih (fun s hs => hsources s (List.mem_cons_of_mem _ hs))
        (fun s hs => hothers s (List.mem_cons_of_mem _ hs)) h.2
      cases source
      cases other
      simp_all

/-- A build id binds its whole plan. -/
theorem PublicationPlan.Genuine.eq (hplan : plan.Genuine) (hother : other.Genuine)
    (h : plan.buildId = other.buildId) : plan = other := by
  obtain ⟨sources, hmake, hlength, hintact⟩ := hplan
  obtain ⟨others, hmake', hlength', hintact'⟩ := hother
  obtain ⟨-, -, -, hids, hbinding, hidentity, -, -⟩ := makePlan_fields hmake
  obtain ⟨-, -, -, hids', hbinding', hidentity', -, -⟩ := makePlan_fields hmake'
  have hjson : publicationIdentity plan.collection plan.format plan.projectId
        plan.sourceAcceptanceIds plan.sourceBindingFingerprint =
      publicationIdentity other.collection other.format other.projectId
        other.sourceAcceptanceIds other.sourceBindingFingerprint := by
    apply CollisionFree.ofJson_injective
    rw [← hidentity, ← hidentity']
    exact h
  simp only [publicationIdentity, obj.injEq, List.cons.injEq, Prod.mk.injEq, str.injEq, fp.injEq,
    true_and, and_true] at hjson
  obtain ⟨hcompiler, hformat, hproject, -, hfingerprint⟩ := hjson
  have hcollection : plan.collection = other.collection := by
    revert hcompiler
    cases plan.collection <;> cases other.collection <;> simp [compilerContract]
  have hformat' : plan.format = other.format := by
    revert hformat
    cases plan.format <;> cases other.format <;> simp [PublicationFormat.asStr]
  have hsame : plan.sourceBinding = other.sourceBinding := by
    apply CollisionFree.ofJson_injective
    rw [← hbinding, ← hbinding', hfingerprint]
  have hsources : sources = others := by
    apply sources_eq hintact hintact'
    have hplan := makePlan_sourceBinding hmake hlength
    have hother := makePlan_sourceBinding hmake' hlength'
    rw [hcollection, hsame, ← hother] at hplan
    exact Json.arr.inj hplan
  rw [hcollection, hformat', hproject, hsources, hmake'] at hmake
  exact (Except.ok.inj hmake).symm

/-- The bytes that pass are those of the plan. -/
theorem validateArtifactBytes_eq_ok [DecidableEq Fp] (hplan : plan.Genuine) {bytes : List UInt8}
    {u : Unit} :
    validateArtifactBytes bytes plan.artifactFingerprint plan.byteSize = .ok u ↔
      bytes = plan.bytes := by
  obtain ⟨sources, hmake, -, -⟩ := hplan
  obtain ⟨-, -, -, -, -, -, hartifact, -⟩ := makePlan_fields hmake
  have hrefused : bytes = plan.bytes →
      String.fromUTF8? ⟨bytes.toArray⟩ = some plan.content := by
    rintro rfl
    have hbytes : (⟨plan.bytes.toArray⟩ : ByteArray) = plan.content.toByteArray := by
      simp only [PublicationPlan.bytes, String.toUTF8, Array.toArray_toList]
    rw [hbytes]
    exact dif_pos plan.content.isValidUTF8
  unfold validateArtifactBytes
  cases htext : String.fromUTF8? ⟨bytes.toArray⟩ with
  | none =>
    constructor
    · intro h
      cases h
    · intro h
      cases htext.symm.trans (hrefused h)
  | some text =>
    simp only [require_eq_ok]
    constructor
    · rintro ⟨-, hsame⟩
      rw [hartifact] at hsame
      obtain rfl := CollisionFree.ofText_injective hsame
      rw [String.fromUTF8?] at htext
      split_ifs at htext with hvalid
      have hcontent := congrArg String.toByteArray (Option.some.inj htext)
      have hbytes : (⟨bytes.toArray⟩ : ByteArray) = plan.content.toByteArray := hcontent
      simp only [PublicationPlan.bytes, String.toUTF8, ← hbytes]
    · intro h
      obtain rfl := Option.some.inj (htext.symm.trans (hrefused h))
      exact ⟨by rw [h]; rfl, hartifact.symm⟩

end Plans

/-! ## Sources -/

section Sources

variable [Sha256 Fp] [DecidableEq Fp] {db : Database Fp} {plan current : PublicationPlan Fp}
  {source : PublicationSource Fp} {acceptanceId : String}

theorem loadAcceptedSource_intact (h : db.loadAcceptedSource acceptanceId = .ok source) :
    source.Intact := by
  simp only [Database.loadAcceptedSource, bind_eq_ok, fetch_eq_ok, require_eq_ok, pure_eq_ok] at h
  obtain ⟨_, -, acceptance, -, candidate, -, revision, -, document, -, node, -, _, hchecked,
    rfl⟩ := h
  exact hchecked.2.2.2.1

theorem loadCurrentSource_intact (h : db.loadCurrentSource acceptanceId = .ok source) :
    source.Intact := by
  simp only [Database.loadCurrentSource, bind_eq_ok, fetch_eq_ok, require_eq_ok,
    pure_eq_ok] at h
  obtain ⟨accepted, haccepted, row, -, _, -, order, -, _, -, settlement, -, _, -, _, -, rfl⟩ := h
  have hintact : accepted.Intact := loadAcceptedSource_intact haccepted
  exact hintact

omit [DecidableEq Fp] in
theorem mapM_sources {load : String → CoreResult (PublicationSource Fp)} {ids : List String}
    {sources : List (PublicationSource Fp)} (h : ids.mapM load = .ok sources)
    (hload : ∀ id source, load id = .ok source → source.Intact) :
    sources.length = ids.length ∧ ∀ source ∈ sources, source.Intact := by
  induction ids generalizing sources with
  | nil =>
    simp only [List.mapM_nil, pure_eq_ok] at h
    simp [← h]
  | cons id rest ih =>
    simp only [List.mapM_cons, bind_eq_ok, pure_eq_ok] at h
    obtain ⟨source, hsource, more, hmore, rfl⟩ := h
    obtain ⟨hlength, hintact⟩ := ih hmore
    refine ⟨by simp [hlength], ?_⟩
    intro other hother
    rcases List.mem_cons.mp hother with rfl | hother
    · exact hload id _ hsource
    · exact hintact other hother

omit [DecidableEq Fp] in
theorem PublicationPlan.Genuine.ids_length (h : plan.Genuine) (hsingle : plan.collection = false) :
    plan.sourceAcceptanceIds.length = 1 := by
  obtain ⟨sources, hmake, hlength, -⟩ := h
  obtain ⟨-, -, -, hids, -⟩ := makePlan_fields hmake
  rw [hids, List.length_map]
  exact hlength hsingle

theorem rebuildPlan_genuine (hplan : plan.Genuine) (h : db.rebuildPlan plan = .ok current) :
    current.Genuine := by
  simp only [Database.rebuildPlan, bind_eq_ok, require_eq_ok] at h
  obtain ⟨sources, hsources, _, -, hmake⟩ := h
  obtain ⟨hproject, hformat, hcollection, -⟩ := makePlan_fields hmake
  have hload : ∀ id source, (if plan.collection then db.loadCurrentSource
      else db.loadAcceptedSource) id = .ok source → source.Intact := by
    intro id source hsource
    split at hsource
    · exact loadCurrentSource_intact hsource
    · exact loadAcceptedSource_intact hsource
  obtain ⟨hlength, hintact⟩ := mapM_sources hsources hload
  refine ⟨sources, by rw [hproject, hformat, hcollection]; exact hmake, ?_, hintact⟩
  intro hsingle
  rw [hlength]
  exact hplan.ids_length (hcollection ▸ hsingle)

/-- A plan that is made again under the same build id is the same. -/
theorem rebuildPlan_eq [CollisionFree Fp] (hplan : plan.Genuine)
    (h : db.rebuildPlan plan = .ok current) (hid : current.buildId = plan.buildId) :
    current = plan :=
  (rebuildPlan_genuine hplan h).eq hplan hid

end Sources

/-! ## Rows and files -/

namespace PublicationPlan

/-- The identity that a file of the plan has. -/
def stamp (plan : PublicationPlan Fp) (exports : Directory (ArtifactRef Fp)) (file : ℕ) :
    FileIdentity :=
  ⟨exports.volumeId, file, 0, 1, plan.byteSize⟩

end PublicationPlan

namespace AttemptRow

variable [DecidableEq Fp]

/-- Nothing of the attempt is on record, and nothing is published. -/
structure Begun (row : AttemptRow Fp) (exports : Directory (ArtifactRef Fp)) : Prop where
  state : row.state = .staged
  version : row.stateVersion = 1
  stage : row.stageIdentity = none
  absent : exports.find? row.finalRef = none

/-- The stage file is on record. -/
structure Staged (row : AttemptRow Fp) (exports : Directory (ArtifactRef Fp)) (file : ℕ) :
    Prop where
  state : row.state = .staged
  version : row.stateVersion = 2
  named : exports.find? row.stageRef = some file
  absent : exports.find? row.finalRef = none

omit [DecidableEq Fp] in
/-- What the row tells of a final file that is there. -/
def Receipts (row : AttemptRow Fp) (identity : FileIdentity) : Prop :=
  (row.state = .staged ∧ row.stateVersion = 2) ∨
    (row.finalIdentity = some identity ∧ row.durability = some linuxDurability ∧
      ((row.state = .published ∧ row.stateVersion = 3) ∨
        (row.state = .committed ∧ row.stateVersion = 4)))

/-- The final file is there. -/
structure Moved (row : AttemptRow Fp) (plan : PublicationPlan Fp)
    (exports : Directory (ArtifactRef Fp)) (file : ℕ) : Prop where
  named : exports.find? row.finalRef = some file
  receipts : row.Receipts (plan.stamp exports file)

/-- How far the attempt of a plan has come. -/
structure Placed (row : AttemptRow Fp) (plan : PublicationPlan Fp)
    (exports : Directory (ArtifactRef Fp)) : Prop where
  binds : plan.Binds row
  stageRef : row.stageRef = .stage plan.buildId row.ownerToken
  pieces : ∀ file, exports.find? row.stageRef = some file →
    ∃ content, exports.files[file]? = some content ∧ content <+: plan.bytes
  progress : row.Begun exports ∨
    ∃ file, exports.files[file]? = some plan.bytes ∧
      row.stageIdentity = some (plan.stamp exports file) ∧
      (row.Staged exports file ∨ row.Moved plan exports file)

/-- One of the three changes of an attempt. -/
inductive Advance (row : AttemptRow Fp) : AttemptRow Fp → Prop where
  | record (identity : FileIdentity) (updatedAt : String) (h : row.state = .staged)
      (hnone : row.stageIdentity = none) :
      Advance row { row with
        stageIdentity := some identity, stateVersion := row.stateVersion + 1, updatedAt }
  | publish (identity : FileIdentity) (updatedAt : String) (h : row.state = .staged) :
      Advance row { row with
        state := .published, finalIdentity := some identity
        durability := some linuxDurability, stateVersion := row.stateVersion + 1, updatedAt }
  | commit (updatedAt : String) (h : row.state = .published) :
      Advance row { row with
        state := .committed, stateVersion := row.stateVersion + 1, updatedAt }

end AttemptRow

namespace PublicationStore

variable [Sha256 Fp] [DecidableEq Fp]

/-- The invariant of every action. -/
structure Sound (store : PublicationStore Fp) : Prop where
  exports : store.exports.Sound
  attempts : ∀ c, ((store.tables c).attempts.map (·.buildId)).Nodup
  placed : ∀ c, ∀ row ∈ (store.tables c).attempts, ∃ plan : PublicationPlan Fp,
    plan.Genuine ∧ plan.collection = c ∧ row.Placed plan store.exports
  owned : ∀ entry ∈ store.exports.names, ∃ c, ∃ row ∈ (store.tables c).attempts,
    entry.1 = row.stageRef ∨ entry.1 = row.finalRef
  builds : ∀ c, ((store.tables c).builds.map (·.buildId)).Nodup
  built : ∀ c, ∀ build ∈ (store.tables c).builds, ∃ plan : PublicationPlan Fp,
    ∃ identity createdAt, plan.Genuine ∧ plan.collection = c ∧
      build = plan.build identity linuxDurability createdAt ∧
      ∃ row ∈ (store.tables c).attempts, row.buildId = plan.buildId ∧
        row.state = .committed ∧ row.finalIdentity = some identity
  committed : ∀ c, ∀ row ∈ (store.tables c).attempts, row.state = .committed →
    ∃ build ∈ (store.tables c).builds, build.buildId = row.buildId

/-- No attempt has both of its files. -/
def Calm (store : PublicationStore Fp) : Prop :=
  ∀ c, ∀ row ∈ (store.tables c).attempts, ∀ file, store.exports.find? row.finalRef = some file →
    store.exports.find? row.stageRef = none

/-- What an action may change. -/
structure Step (s t : PublicationStore Fp) : Prop where
  volume : t.exports.volumeId = s.exports.volumeId
  attempts : ∀ c, ∀ row ∈ (s.tables c).attempts, ∃ row' ∈ (t.tables c).attempts,
    row' = row ∨ row.Advance row'
  files : ∀ (file : ℕ) (content : List UInt8), s.exports.files[file]? = some content →
    ∃ more, t.exports.files[file]? = some more ∧ content <+: more
  finals : ∀ buildId format file, s.exports.find? (.final buildId format) = some file →
    t.exports.find? (.final buildId format) = some file
  stages : ∀ c, ∀ row ∈ (s.tables c).attempts, ∀ file,
    s.exports.find? row.stageRef = some file →
      t.exports.find? row.stageRef = some file ∨ t.exports.find? row.finalRef = some file
  builds : ∀ c, ∀ build ∈ (s.tables c).builds, build ∈ (t.tables c).builds
  rebuilt : ∀ c, ∀ build ∈ (t.tables c).builds, build ∈ (s.tables c).builds ∨
    ∃ plan : PublicationPlan Fp, plan.Genuine ∧ plan.collection = c ∧
      build.buildId = plan.buildId ∧ s.project.rebuildPlan plan = .ok plan

section Tables

variable {store : PublicationStore Fp}

omit [Sha256 Fp] [DecidableEq Fp] in
@[simp] theorem tables_withTables (store : PublicationStore Fp) (c c' : Bool)
    (tables : BuildTables Fp) :
    (store.withTables c tables).tables c' = if c' = c then tables else store.tables c' := by
  cases c <;> cases c' <;> rfl

omit [Sha256 Fp] [DecidableEq Fp] in
@[simp] theorem exports_withTables (store : PublicationStore Fp) (c : Bool)
    (tables : BuildTables Fp) : (store.withTables c tables).exports = store.exports := by
  cases c <;> rfl

omit [Sha256 Fp] [DecidableEq Fp] in
@[simp] theorem project_withTables (store : PublicationStore Fp) (c : Bool)
    (tables : BuildTables Fp) : (store.withTables c tables).project = store.project := by
  cases c <;> rfl

end Tables

/-! ## Rows of one build -/

end PublicationStore

def ArtifactRef.buildId : ArtifactRef Fp → Fp
  | stage buildId _ => buildId
  | final buildId _ => buildId

namespace AttemptRow.Placed

variable [DecidableEq Fp] {row : AttemptRow Fp} {plan : PublicationPlan Fp}
  {exports exports' : Directory (ArtifactRef Fp)} {file : ℕ} {name : ArtifactRef Fp}

theorem buildId (h : row.Placed plan exports) : row.buildId = plan.buildId := h.binds.1

theorem finalRef (h : row.Placed plan exports) : row.finalRef = plan.finalRef :=
  h.binds.2.2.2.2.2.2.2.2.2.1

theorem stage_buildId (h : row.Placed plan exports) : row.stageRef.buildId = row.buildId := by
  rw [h.stageRef, h.buildId]
  rfl

theorem final_buildId (h : row.Placed plan exports) : row.finalRef.buildId = row.buildId := by
  rw [h.finalRef, h.buildId]
  rfl

theorem refs_ne (h : row.Placed plan exports) : row.finalRef ≠ row.stageRef := by
  rw [h.finalRef, h.stageRef]
  intro heq
  cases heq

/-- A row cares only for its own two names and their files. -/
theorem congr (h : row.Placed plan exports) (hvolume : exports'.volumeId = exports.volumeId)
    (hstage : exports'.find? row.stageRef = exports.find? row.stageRef)
    (hfinal : exports'.find? row.finalRef = exports.find? row.finalRef)
    (hfiles : ∀ file, exports.find? row.stageRef = some file ∨
      exports.find? row.finalRef = some file → exports'.files[file]? = exports.files[file]?) :
    row.Placed plan exports' := by
  have hstamp : ∀ file, plan.stamp exports' file = plan.stamp exports file := by
    intro file
    simp only [PublicationPlan.stamp, hvolume]
  refine ⟨h.binds, h.stageRef, ?_, ?_⟩
  · intro file hfile
    rw [hstage] at hfile
    rw [hfiles file (.inl hfile)]
    exact h.pieces file hfile
  · rcases h.progress with hbegun | ⟨file, hwhole, hrecorded, hstaged | hmoved⟩
    · exact .inl ⟨hbegun.state, hbegun.version, hbegun.stage, hfinal.trans hbegun.absent⟩
    · refine .inr ⟨file, ?_, by rw [hstamp]; exact hrecorded, .inl ⟨hstaged.state,
        hstaged.version, hstage.trans hstaged.named, hfinal.trans hstaged.absent⟩⟩
      rw [hfiles file (.inl hstaged.named)]
      exact hwhole
    · refine .inr ⟨file, ?_, by rw [hstamp]; exact hrecorded,
        .inr ⟨hfinal.trans hmoved.named, by rw [hstamp]; exact hmoved.receipts⟩⟩
      rw [hfiles file (.inr hmoved.named)]
      exact hwhole

/-- A final file is whole and on record. -/
theorem of_final (h : row.Placed plan exports) (hfinal : exports.find? row.finalRef = some file) :
    exports.files[file]? = some plan.bytes ∧
      row.stageIdentity = some (plan.stamp exports file) ∧
      row.Receipts (plan.stamp exports file) := by
  rcases h.progress with hbegun | ⟨other, hwhole, hrecorded, hstaged | hmoved⟩
  · cases hbegun.absent.symm.trans hfinal
  · cases hstaged.absent.symm.trans hfinal
  · obtain rfl := Option.some.inj (hmoved.named.symm.trans hfinal)
    exact ⟨hwhole, hrecorded, hmoved.receipts⟩

/-- A file under one of the two names holds a piece of the artifact. -/
theorem piece (h : row.Placed plan exports)
    (hfile : exports.find? row.stageRef = some file ∨ exports.find? row.finalRef = some file) :
    ∃ content, exports.files[file]? = some content ∧ content <+: plan.bytes := by
  rcases hfile with hstage | hfinal
  · exact h.pieces file hstage
  · exact ⟨_, (h.of_final hfinal).1, List.prefix_rfl⟩

end AttemptRow.Placed

namespace PublicationStore

variable [Sha256 Fp] [DecidableEq Fp] [CollisionFree Fp] {store : PublicationStore Fp}
  {c c' : Bool} {row other : AttemptRow Fp} {plan : PublicationPlan Fp}

omit [CollisionFree Fp] in
theorem Sound.eq_of_buildId (h : store.Sound) (hrow : row ∈ (store.tables c).attempts)
    (hother : other ∈ (store.tables c).attempts) (hid : row.buildId = other.buildId) :
    row = other :=
  Table.eq_of_key_eq (h.attempts c) hrow hother hid

/-- The row of a plan that some row is placed for. -/
theorem Sound.placed_of_buildId (h : store.Sound) (hplan : plan.Genuine)
    (hrow : row ∈ (store.tables c).attempts) (hid : row.buildId = plan.buildId) :
    c = plan.collection ∧ row.Placed plan store.exports := by
  obtain ⟨owner, howner, hcollection, hplaced⟩ := h.placed c row hrow
  obtain rfl := howner.eq hplan (hplaced.buildId.symm.trans hid)
  exact ⟨hcollection.symm, hplaced⟩

/-- Rows of one build are one row. -/
theorem Sound.row_unique (h : store.Sound) (hrow : row ∈ (store.tables c).attempts)
    (hother : other ∈ (store.tables c').attempts) (hid : row.buildId = other.buildId) :
    c = c' ∧ row = other := by
  obtain ⟨plan, hplan, hcollection, hplaced⟩ := h.placed c' other hother
  have hc := (h.placed_of_buildId hplan hrow (hid.trans hplaced.buildId)).1
  rw [hcollection] at hc
  subst hc
  exact ⟨rfl, h.eq_of_buildId hrow hother hid⟩

/-! ## What system calls do -/

variable {exports : Directory (ArtifactRef Fp)} {file : ℕ}

/-- A name of one row is no name of another. -/
theorem Sound.ref_ne (h : store.Sound) (hrow : row ∈ (store.tables c).attempts)
    (hother : other ∈ (store.tables c').attempts) (hne : other ≠ row) :
    other.stageRef ≠ row.stageRef ∧ other.stageRef ≠ row.finalRef ∧
      other.finalRef ≠ row.stageRef ∧ other.finalRef ≠ row.finalRef := by
  obtain ⟨plan, -, -, hplaced⟩ := h.placed c row hrow
  obtain ⟨plan', -, -, hplaced'⟩ := h.placed c' other hother
  have hid : other.buildId ≠ row.buildId := fun hid => hne (h.row_unique hother hrow hid).2
  refine ⟨?_, ?_, ?_, ?_⟩ <;> intro heq <;> apply hid
  · rw [← hplaced'.stage_buildId, heq, hplaced.stage_buildId]
  · rw [← hplaced'.stage_buildId, heq, hplaced.final_buildId]
  · rw [← hplaced'.final_buildId, heq, hplaced.stage_buildId]
  · rw [← hplaced'.final_buildId, heq, hplaced.final_buildId]

/-- A system call for one row leaves the files of all others alone. -/
theorem Sound.withExports (h : store.Sound) (hrow : row ∈ (store.tables c).attempts)
    (hsound : exports.Sound) (hvolume : exports.volumeId = store.exports.volumeId)
    (hfind : ∀ name, name ≠ row.stageRef → name ≠ row.finalRef →
      exports.find? name = store.exports.find? name)
    (hfiles : ∀ name file, name ≠ row.stageRef → name ≠ row.finalRef →
      store.exports.find? name = some file → exports.files[file]? = store.exports.files[file]?)
    (hplaced : ∀ plan : PublicationPlan Fp, plan.Genuine → row.Placed plan store.exports →
      row.Placed plan exports) :
    ({ store with exports } : PublicationStore Fp).Sound := by
  refine ⟨hsound, h.attempts, ?_, ?_, h.builds, h.built, h.committed⟩
  · intro c' other hother
    obtain ⟨plan, hplan, hcollection, hbefore⟩ := h.placed c' other hother
    refine ⟨plan, hplan, hcollection, ?_⟩
    by_cases hsame : other = row
    · subst hsame
      exact hplaced plan hplan hbefore
    · obtain ⟨h1, h2, h3, h4⟩ := h.ref_ne hrow hother hsame
      refine hbefore.congr hvolume (hfind _ h1 h2) (hfind _ h3 h4) ?_
      rintro file (hfile | hfile)
      · exact hfiles _ file h1 h2 hfile
      · exact hfiles _ file h3 h4 hfile
  · intro entry hentry
    by_cases hstage : entry.1 = row.stageRef
    · exact ⟨c, row, hrow, .inl hstage⟩
    · by_cases hfinal : entry.1 = row.finalRef
      · exact ⟨c, row, hrow, .inr hfinal⟩
      · have hnew : exports.find? entry.1 = some entry.2 := hsound.find?_of_mem hentry
        rw [hfind _ hstage hfinal] at hnew
        exact h.owned _ (Directory.mem_of_find? hnew)

theorem Sound.create (h : store.Sound) (hrow : row ∈ (store.tables c).attempts)
    (hcreate : store.exports.create row.stageRef = .ok (file, exports)) :
    ({ store with exports } : PublicationStore Fp).Sound := by
  obtain ⟨hnone, hfile, hexports⟩ := Directory.create_eq_ok hcreate
  have hfind := Directory.find?_create hcreate
  have hfiles : ∀ name other, store.exports.find? name = some other →
      exports.files[other]? = store.exports.files[other]? := by
    intro name other hother
    have hlt := h.exports.lt_of_find? hother
    rw [Directory.files_create hcreate, if_neg (by omega)]
  have hvolume : exports.volumeId = store.exports.volumeId := by rw [hexports]
  apply h.withExports hrow (h.exports.create hcreate) hvolume
  · intro name hstage _
    rw [hfind, if_neg hstage]
  · intro name other _ _ hother
    exact hfiles name other hother
  · intro plan _ hplaced
    have hfinal : exports.find? row.finalRef = store.exports.find? row.finalRef := by
      rw [hfind, if_neg hplaced.refs_ne]
    refine ⟨hplaced.binds, hplaced.stageRef, ?_, ?_⟩
    · intro other hother
      rw [hfind, if_pos rfl, Option.some.injEq] at hother
      subst hother
      refine ⟨[], ?_, List.nil_prefix⟩
      rw [Directory.files_create hcreate, if_pos rfl]
    · rcases hplaced.progress with hbegun | ⟨other, hwhole, hrecorded, hstaged | hmoved⟩
      · exact .inl ⟨hbegun.state, hbegun.version, hbegun.stage, hfinal.trans hbegun.absent⟩
      · cases hnone.symm.trans hstaged.named
      · refine .inr ⟨other, (hfiles _ _ hmoved.named).trans hwhole, ?_,
          .inr ⟨hfinal.trans hmoved.named, ?_⟩⟩
        · rw [hrecorded, PublicationPlan.stamp, PublicationPlan.stamp, hvolume]
        · rw [PublicationPlan.stamp, hvolume]
          exact hmoved.receipts

omit [CollisionFree Fp] in
theorem step_create (hcreate : store.exports.create row.stageRef = .ok (file, exports)) :
    store.Step { store with exports } := by
  obtain ⟨hnone, hfile, hexports⟩ := Directory.create_eq_ok hcreate
  have hkept : ∀ name other, store.exports.find? name = some other →
      exports.find? name = some other := by
    intro name other hother
    rw [Directory.find?_create hcreate, if_neg ?_]
    · exact hother
    · intro heq
      cases (heq ▸ hnone).symm.trans hother
  refine ⟨by rw [hexports], fun _ row hrow => ⟨row, hrow, .inl rfl⟩, ?_, ?_, ?_,
    fun _ _ hbuild => hbuild, fun _ _ hbuild => .inl hbuild⟩
  · intro other content hcontent
    refine ⟨content, ?_, List.prefix_rfl⟩
    have hlt : other < store.exports.files.length :=
      (List.getElem?_eq_some_iff.mp hcontent).1
    rw [Directory.files_create hcreate, if_neg (by omega)]
    exact hcontent
  · exact fun buildId format other hother => hkept _ _ hother
  · exact fun _ _ _ other hother => .inl (hkept _ _ hother)

/-- A byte of the artifact goes to its place, or to the end. -/
theorem Sound.write (h : store.Sound) (hplan : plan.Genuine)
    (hrow : row ∈ (store.tables c).attempts) (hid : row.buildId = plan.buildId)
    (hfile : store.exports.find? row.stageRef = some file ∨
      store.exports.find? row.finalRef = some file) {content : List UInt8}
    (hcontent : store.exports.files[file]? = some content) {offset : ℕ} {byte : UInt8}
    (hoffset : offset ≤ content.length) (hbyte : plan.bytes[offset]? = some byte) :
    ({ store with exports := store.exports.write file offset byte } : PublicationStore Fp).Sound ∧
      store.Step { store with exports := store.exports.write file offset byte } := by
  have hplaced := (h.placed_of_buildId hplan hrow hid).2
  obtain ⟨found, hfound, hfront⟩ := hplaced.piece hfile
  obtain rfl : content = found := Option.some.inj (hcontent.symm.trans hfound)
  obtain ⟨hmore, hpiece, -⟩ := Directory.writeAt_prefix hfront hoffset hbyte
  have hfiles := Directory.files_write store.exports file offset byte
  constructor
  · apply h.withExports hrow h.exports.write rfl (fun _ _ _ => rfl)
    · intro name other hstage hfinal hother
      rw [hfiles, if_neg]
      rintro rfl
      rcases hfile with hfile | hfile
      · exact hstage (h.exports.name_unique hother hfile)
      · exact hfinal (h.exports.name_unique hother hfile)
    · intro owner howner hown
      obtain rfl := howner.eq hplan (hown.buildId.symm.trans hid)
      have hwhole : ∀ other : ℕ, store.exports.files[other]? = some owner.bytes →
          (store.exports.write file offset byte).files[other]? = some owner.bytes := by
        intro other hother
        rw [hfiles]
        split
        · next heq =>
          subst heq
          obtain rfl : content = owner.bytes := Option.some.inj (hcontent.symm.trans hother)
          rw [hcontent, Option.map_some, hpiece.eq_of_length_le hmore.length_le]
        · exact hother
      refine ⟨hown.binds, hown.stageRef, ?_, ?_⟩
      · intro other hother
        obtain ⟨old, hold, holdfront⟩ := hown.pieces other hother
        rw [hfiles]
        split
        · next heq =>
          subst heq
          rw [hcontent]
          exact ⟨_, rfl, hpiece⟩
        · exact ⟨old, hold, holdfront⟩
      · rcases hown.progress with hbegun | ⟨other, hother, hrecorded, hstaged | hmoved⟩
        · exact .inl ⟨hbegun.state, hbegun.version, hbegun.stage, hbegun.absent⟩
        · exact .inr ⟨other, hwhole other hother, hrecorded,
            .inl ⟨hstaged.state, hstaged.version, hstaged.named, hstaged.absent⟩⟩
        · exact .inr ⟨other, hwhole other hother, hrecorded,
            .inr ⟨hmoved.named, hmoved.receipts⟩⟩
  · refine ⟨rfl, fun _ row hrow => ⟨row, hrow, .inl rfl⟩, ?_, fun _ _ _ hother => hother,
      fun _ _ _ _ hother => .inl hother, fun _ _ hbuild => hbuild,
      fun _ _ hbuild => .inl hbuild⟩
    intro other old hold
    rw [hfiles]
    split
    · next heq =>
      subst heq
      obtain rfl : content = old := Option.some.inj (hcontent.symm.trans hold)
      rw [hcontent]
      exact ⟨_, rfl, hmore⟩
    · exact ⟨old, hold, List.prefix_rfl⟩

/-- A stage file on record is renamed. -/
theorem Sound.rename (h : store.Sound) (hrow : row ∈ (store.tables c).attempts)
    (hrecorded : row.stageIdentity ≠ none)
    (hrename : store.exports.rename row.stageRef row.finalRef = .ok exports) :
    ({ store with exports } : PublicationStore Fp).Sound ∧ store.Step { store with exports } := by
  obtain ⟨-, hnone, hexports⟩ := Directory.rename_eq_ok hrename
  have hfind := Directory.find?_rename hrename
  have hfiles : exports.files = store.exports.files := by rw [hexports]
  have hvolume : exports.volumeId = store.exports.volumeId := by rw [hexports]
  constructor
  · apply h.withExports hrow (h.exports.rename hrename) hvolume
    · intro name hstage hfinal
      rw [hfind, if_neg hfinal, if_neg hstage]
    · intro name other _ _ _
      rw [hfiles]
    · intro plan _ hplaced
      refine ⟨hplaced.binds, hplaced.stageRef, ?_, ?_⟩
      · intro other hother
        rw [hfind, if_neg hplaced.refs_ne.symm, if_pos rfl] at hother
        cases hother
      · rcases hplaced.progress with hbegun | ⟨other, hwhole, hstamp, hstaged | hmoved⟩
        · exact absurd hbegun.stage hrecorded
        · refine .inr ⟨other, by rw [hfiles]; exact hwhole, ?_, .inr ⟨?_, ?_⟩⟩
          · rw [hstamp, PublicationPlan.stamp, PublicationPlan.stamp, hvolume]
          · rw [hfind, if_pos rfl]
            exact hstaged.named
          · exact .inl ⟨hstaged.state, hstaged.version⟩
        · cases hnone.symm.trans hmoved.named
  · have hkept : ∀ name other, name ≠ row.stageRef → store.exports.find? name = some other →
        exports.find? name = some other := by
      intro name other hne hother
      rw [hfind, if_neg ?_, if_neg hne]
      · exact hother
      · rintro rfl
        cases hnone.symm.trans hother
    obtain ⟨plan, -, -, hplaced⟩ := h.placed c row hrow
    refine ⟨hvolume, fun _ row hrow => ⟨row, hrow, .inl rfl⟩, ?_, ?_, ?_,
      fun _ _ hbuild => hbuild, fun _ _ hbuild => .inl hbuild⟩
    · intro other content hcontent
      exact ⟨content, by rw [hfiles]; exact hcontent, List.prefix_rfl⟩
    · intro buildId format other hother
      apply hkept _ _ _ hother
      rw [hplaced.stageRef]
      intro heq
      cases heq
    · intro c' other hother file hfile
      by_cases hsame : other = row
      · subst hsame
        right
        rw [hfind, if_pos rfl]
        exact hfile
      · exact .inl (hkept _ _ (h.ref_ne hrow hother hsame).1 hfile)

/-! ### Calm stores -/

omit [Sha256 Fp] [CollisionFree Fp] in
theorem Calm.of_find? {t : PublicationStore Fp} (hcalm : store.Calm)
    (hattempts : ∀ c, ∀ row' ∈ (t.tables c).attempts, ∃ row ∈ (store.tables c).attempts,
      row'.stageRef = row.stageRef ∧ row'.finalRef = row.finalRef)
    (hfind : ∀ name, t.exports.find? name = store.exports.find? name) : t.Calm := by
  intro c row' hrow' file hfile
  obtain ⟨row, hrow, hstage, hfinal⟩ := hattempts c row' hrow'
  rw [hfind, hstage]
  rw [hfind, hfinal] at hfile
  exact hcalm c row hrow file hfile

theorem Calm.create (hcalm : store.Calm) (h : store.Sound)
    (hrow : row ∈ (store.tables c).attempts) (habsent : store.exports.find? row.finalRef = none)
    (hcreate : store.exports.create row.stageRef = .ok (file, exports)) :
    ({ store with exports } : PublicationStore Fp).Calm := by
  have hfind := Directory.find?_create hcreate
  intro c' other hother found hfound
  by_cases hsame : other = row
  · subst hsame
    obtain ⟨plan, -, -, hplaced⟩ := h.placed c other hrow
    rw [hfind, if_neg hplaced.refs_ne, habsent] at hfound
    cases hfound
  · obtain ⟨h1, -, h3, -⟩ := h.ref_ne hrow hother hsame
    rw [hfind, if_neg h3] at hfound
    rw [hfind, if_neg h1]
    exact hcalm c' other hother found hfound

theorem Calm.rename (hcalm : store.Calm) (h : store.Sound)
    (hrow : row ∈ (store.tables c).attempts)
    (hrename : store.exports.rename row.stageRef row.finalRef = .ok exports) :
    ({ store with exports } : PublicationStore Fp).Calm := by
  have hfind := Directory.find?_rename hrename
  intro c' other hother found hfound
  by_cases hsame : other = row
  · subst hsame
    obtain ⟨plan, -, -, hplaced⟩ := h.placed c other hrow
    rw [hfind, if_neg hplaced.refs_ne.symm, if_pos rfl]
  · obtain ⟨h1, h2, h3, h4⟩ := h.ref_ne hrow hother hsame
    rw [hfind, if_neg h4, if_neg h3] at hfound
    rw [hfind, if_neg h2, if_neg h1]
    exact hcalm c' other hother found hfound

end PublicationStore

/-! ## What updates do -/

/-- The tables in which a row is another, and which have new builds. -/
def BuildTables.advance [DecidableEq Fp] (tables : BuildTables Fp) (row' : AttemptRow Fp)
    (builds : List (BuildRow Fp)) : BuildTables Fp :=
  { tables with
    attempts := Table.updateWhere (fun other => other.buildId = row'.buildId) (fun _ => row')
      tables.attempts
    builds := tables.builds ++ builds }

namespace AttemptRow.Advance

variable {row row' : AttemptRow Fp}

theorem refs (h : row.Advance row') : row'.buildId = row.buildId ∧
    row'.stageRef = row.stageRef ∧ row'.finalRef = row.finalRef ∧
    row'.ownerToken = row.ownerToken := by
  cases h <;> exact ⟨rfl, rfl, rfl, rfl⟩

theorem binds (h : row.Advance row') {plan : PublicationPlan Fp} (hbinds : plan.Binds row) :
    plan.Binds row' := by
  cases h <;> exact hbinds

theorem open_before (h : row.Advance row') : row.state ≠ .committed := by
  cases h with
  | record _ _ h | publish _ _ h | commit _ h => simp [h]

/-- What is on record of the stage file stays. -/
theorem stageIdentity (h : row.Advance row') {identity : FileIdentity}
    (hrecorded : row.stageIdentity = some identity) : row'.stageIdentity = some identity := by
  cases h with
  | record _ _ _ hnone => cases hnone.symm.trans hrecorded
  | publish | commit => exact hrecorded

end AttemptRow.Advance

namespace PublicationStore

variable [Sha256 Fp] [DecidableEq Fp] [CollisionFree Fp] {store : PublicationStore Fp}
  {c c' : Bool} {row row' other : AttemptRow Fp} {plan : PublicationPlan Fp}
  {builds : List (BuildRow Fp)}

omit [Sha256 Fp] [CollisionFree Fp] in
/-- An update hits one row, the one of the plan. -/
theorem updateAttempt_eq_ok {hit : AttemptRow Fp → Bool} {change : AttemptRow Fp → AttemptRow Fp}
    {error : CoreError} {t : PublicationStore Fp}
    (h : store.updateAttempt plan hit change error = .ok t)
    (hkeys : ((store.tables plan.collection).attempts.map (·.buildId)).Nodup)
    (hchange : ∀ row, (change row).buildId = row.buildId) :
    ∃ row ∈ (store.tables plan.collection).attempts, row.buildId = plan.buildId ∧
      hit row = true ∧ t = store.withTables plan.collection
        ((store.tables plan.collection).advance (change row) []) := by
  simp only [updateAttempt, bind_eq_ok, require_eq_ok, pure_eq_ok] at h
  obtain ⟨_, hcount, rfl⟩ := h
  obtain ⟨row, hrow, hhits⟩ := List.countP_pos_iff.mp (Nat.lt_of_sub_eq_succ hcount)
  rw [Bool.and_eq_true, decide_eq_true_eq] at hhits
  refine ⟨row, hrow, hhits.1, hhits.2, ?_⟩
  unfold BuildTables.advance
  rw [List.append_nil]
  congr 2
  apply List.map_congr_left
  intro other hother
  by_cases hid : other.buildId = row.buildId
  · obtain rfl := Table.eq_of_key_eq hkeys hother hrow hid
    simp [hhits.1, hhits.2, hchange]
  · have hne : other.buildId ≠ plan.buildId := fun heq => hid (heq.trans hhits.1.symm)
    simp [hid, hne, hchange]

omit [Sha256 Fp] [CollisionFree Fp] in
theorem mem_advance {tables : BuildTables Fp} :
    other ∈ (tables.advance row' builds).attempts ↔
      ∃ old ∈ tables.attempts, other = if old.buildId = row'.buildId then row' else old := by
  simp only [BuildTables.advance, Table.mem_updateWhere, decide_eq_true_eq]

/-- The builds that come with a row: none, or the one of the plan when it is committed. -/
def Brings (store : PublicationStore Fp) (plan : PublicationPlan Fp) (row' : AttemptRow Fp)
    (builds : List (BuildRow Fp)) : Prop :=
  (builds = [] ∧ row'.state ≠ .committed) ∨
    ∃ identity createdAt, builds = [plan.build identity linuxDurability createdAt] ∧
      row'.state = .committed ∧ row'.finalIdentity = some identity ∧
      (∀ build ∈ (store.tables plan.collection).builds, build.buildId ≠ plan.buildId) ∧
      store.project.rebuildPlan plan = .ok plan

omit [CollisionFree Fp] in
theorem brings_id (h : store.Brings plan row' builds) :
    ∀ build ∈ builds, build.buildId = plan.buildId := by
  intro build hbuild
  rcases h with ⟨rfl, -⟩ | ⟨identity, createdAt, rfl, -⟩
  · cases hbuild
  · rw [List.mem_singleton.mp hbuild]
    rfl

omit [CollisionFree Fp] in
/-- Every row stays, or is the one that advances. -/
theorem attempts_advance (builds : List (BuildRow Fp)) (h : store.Sound)
    (hrow : row ∈ (store.tables c).attempts) (hadvance : row.Advance row')
    (hother : other ∈ (store.tables c').attempts) :
    ∃ new ∈ ((store.withTables c ((store.tables c).advance row' builds)).tables c').attempts,
      new = other ∨ other.Advance new := by
  rw [tables_withTables]
  split
  · next hc =>
    subst hc
    by_cases hid : other.buildId = row'.buildId
    · obtain rfl := h.eq_of_buildId hother hrow (hid.trans hadvance.refs.1)
      exact ⟨row', mem_advance.mpr ⟨other, hother, by rw [if_pos hid]⟩, .inr hadvance⟩
    · exact ⟨other, mem_advance.mpr ⟨other, hother, by rw [if_neg hid]⟩, .inl rfl⟩
  · exact ⟨other, hother, .inl rfl⟩

omit [CollisionFree Fp] in
/-- A row that is committed stays as it is. -/
theorem committed_advance (h : store.Sound) (hrow : row ∈ (store.tables c).attempts)
    (hadvance : row.Advance row') (hother : other ∈ (store.tables c').attempts)
    (hcommitted : other.state = .committed) :
    other ∈ ((store.withTables c ((store.tables c).advance row' builds)).tables c').attempts := by
  rw [tables_withTables]
  split
  · next hc =>
    subst hc
    refine mem_advance.mpr ⟨other, hother, ?_⟩
    rw [if_neg]
    intro hid
    obtain rfl := h.eq_of_buildId hother hrow (hid.trans hadvance.refs.1)
    exact hadvance.open_before hcommitted
  · exact hother

omit [Sha256 Fp] [CollisionFree Fp] in
theorem nodup_advance {tables : BuildTables Fp}
    (hkeys : (tables.attempts.map (·.buildId)).Nodup) :
    ((tables.advance row' builds).attempts.map (·.buildId)).Nodup := by
  have hsame : (tables.advance row' builds).attempts.map (·.buildId) =
      tables.attempts.map (·.buildId) := by
    rw [BuildTables.advance, Table.updateWhere, List.map_map]
    apply List.map_congr_left
    intro old _
    by_cases hid : old.buildId = row'.buildId <;> simp [hid]
  rw [hsame]
  exact hkeys

omit [CollisionFree Fp] in
theorem Sound.advance (h : store.Sound) (hrow : row ∈ (store.tables c).attempts)
    (hadvance : row.Advance row') (hplan : plan.Genuine) (hcollection : plan.collection = c)
    (hplaced : row'.Placed plan store.exports) (hbrings : store.Brings plan row' builds) :
    (store.withTables c ((store.tables c).advance row' builds)).Sound := by
  have hrow' : row' ∈
      ((store.withTables c ((store.tables c).advance row' builds)).tables c).attempts := by
    rw [tables_withTables, if_pos rfl]
    exact mem_advance.mpr ⟨row, hrow, by rw [if_pos hadvance.refs.1.symm]⟩
  refine ⟨by rw [exports_withTables]; exact h.exports, ?_, ?_, ?_, ?_, ?_, ?_⟩
  · intro c'
    rw [tables_withTables]
    split
    · next hc => exact nodup_advance (hc ▸ h.attempts c')
    · exact h.attempts c'
  · intro c' other hother
    rw [exports_withTables]
    rw [tables_withTables] at hother
    split at hother
    · next hc =>
      subst hc
      obtain ⟨old, hold, rfl⟩ := mem_advance.mp hother
      split
      · exact ⟨plan, hplan, hcollection, hplaced⟩
      · exact h.placed c' old hold
    · exact h.placed c' other hother
  · intro entry hentry
    rw [exports_withTables] at hentry
    obtain ⟨c', other, hother, hname⟩ := h.owned entry hentry
    obtain ⟨new, hnew, rfl | hstep⟩ := attempts_advance builds h hrow hadvance hother
    · exact ⟨c', new, hnew, hname⟩
    · refine ⟨c', new, hnew, ?_⟩
      rw [hstep.refs.2.1, hstep.refs.2.2.1]
      exact hname
  · intro c'
    rw [tables_withTables]
    split
    · next hc =>
      subst hc
      rcases hbrings with ⟨rfl, -⟩ | ⟨identity, createdAt, rfl, -, -, hfresh, -⟩
      · rw [BuildTables.advance, List.append_nil]
        exact h.builds c'
      · apply Table.nodup_append_singleton (h.builds c')
        exact hcollection ▸ hfresh
    · exact h.builds c'
  · intro c' build hbuild
    have hold : build ∈ (store.tables c').builds ∨ c' = c ∧ build ∈ builds := by
      rw [tables_withTables] at hbuild
      split at hbuild
      · next hc =>
        subst hc
        exact (List.mem_append.mp hbuild).imp_right fun hnew => ⟨rfl, hnew⟩
      · exact .inl hbuild
    rcases hold with hold | ⟨rfl, hnew⟩
    · obtain ⟨owner, identity, createdAt, howner, hc, heq, other, hother, hid, hcommitted,
        hidentity⟩ := h.built c' build hold
      exact ⟨owner, identity, createdAt, howner, hc, heq, other,
        committed_advance h hrow hadvance hother hcommitted, hid, hcommitted, hidentity⟩
    · rcases hbrings with ⟨rfl, -⟩ | ⟨identity, createdAt, rfl, hcommitted, hidentity, -⟩
      · cases hnew
      · exact ⟨plan, identity, createdAt, hplan, hcollection, List.mem_singleton.mp hnew, row',
          hrow', hplaced.buildId, hcommitted, hidentity⟩
  · intro c' other hother hcommitted
    rw [tables_withTables] at hother ⊢
    split at hother
    · next hc =>
      subst hc
      rw [if_pos rfl]
      obtain ⟨old, hold, rfl⟩ := mem_advance.mp hother
      split at hcommitted
      · next hid =>
        rw [if_pos hid]
        rcases hbrings with ⟨-, hopen⟩ | ⟨identity, createdAt, rfl, -⟩
        · exact absurd hcommitted hopen
        · exact ⟨_, List.mem_append_right _ (List.mem_singleton_self _), hplaced.buildId.symm⟩
      · next hid =>
        rw [if_neg hid]
        obtain ⟨build, hbuild, heq⟩ := h.committed c' old hold hcommitted
        exact ⟨build, List.mem_append_left _ hbuild, heq⟩
    · next hc =>
      rw [if_neg hc]
      exact h.committed c' other hother hcommitted

omit [CollisionFree Fp] in
theorem step_advance (h : store.Sound) (hrow : row ∈ (store.tables c).attempts)
    (hadvance : row.Advance row') (hplan : plan.Genuine) (hcollection : plan.collection = c)
    (hbrings : store.Brings plan row' builds) :
    store.Step (store.withTables c ((store.tables c).advance row' builds)) := by
  refine ⟨by rw [exports_withTables],
    fun c' other hother => attempts_advance builds h hrow hadvance hother, ?_, ?_, ?_, ?_, ?_⟩
  · intro file content hcontent
    rw [exports_withTables]
    exact ⟨content, hcontent, List.prefix_rfl⟩
  · intro buildId format file hfile
    rw [exports_withTables]
    exact hfile
  · intro c' other _ file hfile
    rw [exports_withTables]
    exact .inl hfile
  · intro c' build hbuild
    rw [tables_withTables]
    split
    · next hc => exact List.mem_append_left _ (hc ▸ hbuild)
    · exact hbuild
  · intro c' build hbuild
    rw [tables_withTables] at hbuild
    split at hbuild
    · next hc =>
      subst hc
      rcases List.mem_append.mp hbuild with hold | hnew
      · exact .inl hold
      · refine .inr ⟨plan, hplan, hcollection, brings_id hbrings build hnew, ?_⟩
        rcases hbrings with ⟨rfl, -⟩ | ⟨-, -, -, -, -, -, hrebuilt⟩
        · cases hnew
        · exact hrebuilt
    · exact .inl hbuild

omit [CollisionFree Fp] in
theorem Calm.advance (hcalm : store.Calm) (h : store.Sound)
    (hrow : row ∈ (store.tables c).attempts) (hadvance : row.Advance row') :
    (store.withTables c ((store.tables c).advance row' builds)).Calm := by
  apply hcalm.of_find?
  · intro c' other hother
    rw [tables_withTables] at hother
    split at hother
    · next hc =>
      subst hc
      obtain ⟨old, hold, rfl⟩ := mem_advance.mp hother
      refine ⟨old, hold, ?_⟩
      split
      · next hid =>
        obtain rfl := h.eq_of_buildId hold hrow (hid.trans hadvance.refs.1)
        exact ⟨hadvance.refs.2.1, hadvance.refs.2.2.1⟩
      · exact ⟨rfl, rfl⟩
    · exact ⟨other, hother, rfl, rfl⟩
  · intro name
    rw [exports_withTables]

section Updates

variable {t : PublicationStore Fp} {attempt : AttemptRow Fp} {identity : FileIdentity}
  {updatedAt : String} {file : ℕ}

/-- The stage file of an attempt that has published nothing goes on record. -/
theorem Sound.recordStage (h : store.Sound) (hplan : plan.Genuine)
    (hstage : ∀ row ∈ (store.tables plan.collection).attempts, row.buildId = plan.buildId →
      store.exports.find? row.finalRef = none → store.exports.find? row.stageRef = some file)
    (hwhole : store.exports.files[file]? = some plan.bytes)
    (hidentity : identity = plan.stamp store.exports file)
    (hrecord : store.recordStage plan attempt identity updatedAt = .ok ((), t)) :
    t.Sound ∧ store.Step t ∧ (store.Calm → t.Calm) := by
  simp only [PublicationStore.recordStage, bind_eq_ok, pure_eq_ok] at hrecord
  obtain ⟨recorded, hupdate, hresult⟩ := hrecord
  obtain rfl : recorded = t := congrArg Prod.snd hresult
  obtain ⟨row, hrow, hid, hhit, rfl⟩ := updateAttempt_eq_ok hupdate (h.attempts _) (fun _ => rfl)
  simp only [decide_eq_true_eq] at hhit
  obtain ⟨hstate, -, hnone⟩ := hhit
  have hadvance := AttemptRow.Advance.record identity updatedAt hstate hnone
  have hplaced := (h.placed_of_buildId hplan hrow hid).2
  rcases hplaced.progress with hbegun | ⟨_, -, hsome, -⟩
  · have hnew : AttemptRow.Placed { row with
        stageIdentity := some identity, stateVersion := row.stateVersion + 1, updatedAt }
        plan store.exports := by
      refine ⟨hadvance.binds hplaced.binds, hplaced.stageRef, hplaced.pieces, .inr ⟨file, hwhole,
        congrArg some hidentity, .inl ⟨hstate, ?_, hstage row hrow hid hbegun.absent,
          hbegun.absent⟩⟩⟩
      simp only [hbegun.version]
    have hbrings : store.Brings plan { row with
        stageIdentity := some identity, stateVersion := row.stateVersion + 1, updatedAt } [] :=
      .inl ⟨rfl, by simp [hstate]⟩
    exact ⟨h.advance hrow hadvance hplan rfl hnew hbrings,
      step_advance h hrow hadvance hplan rfl hbrings, fun hcalm => hcalm.advance h hrow hadvance⟩
  · cases hnone.symm.trans hsome

/-- The final file goes on record. -/
theorem Sound.updatePublished (h : store.Sound) (hplan : plan.Genuine)
    (hfinal : store.exports.find? plan.finalRef = some file)
    (hidentity : identity = plan.stamp store.exports file)
    (hpublish : store.updatePublished plan attempt identity updatedAt = .ok ((), t)) :
    t.Sound ∧ store.Step t ∧ (store.Calm → t.Calm) := by
  simp only [PublicationStore.updatePublished, bind_eq_ok, pure_eq_ok] at hpublish
  obtain ⟨published, hupdate, hresult⟩ := hpublish
  obtain rfl : published = t := congrArg Prod.snd hresult
  obtain ⟨row, hrow, hid, hhit, rfl⟩ := updateAttempt_eq_ok hupdate (h.attempts _) (fun _ => rfl)
  simp only [decide_eq_true_eq] at hhit
  obtain ⟨hstate, -⟩ := hhit
  have hadvance := AttemptRow.Advance.publish identity updatedAt hstate
  have hplaced := (h.placed_of_buildId hplan hrow hid).2
  rw [← hplaced.finalRef] at hfinal
  obtain ⟨hwhole, hrecorded, hreceipts⟩ := hplaced.of_final hfinal
  rcases hreceipts with ⟨-, hversion⟩ | ⟨-, -, ⟨hpublished, -⟩ | ⟨hcommitted, -⟩⟩
  · have hnew : AttemptRow.Placed { row with
        state := .published, finalIdentity := some identity, durability := some linuxDurability
        stateVersion := row.stateVersion + 1, updatedAt } plan store.exports := by
      refine ⟨hadvance.binds hplaced.binds, hplaced.stageRef, hplaced.pieces, .inr ⟨file, hwhole,
        hrecorded, .inr ⟨hfinal, .inr ⟨congrArg some hidentity, rfl, .inl ⟨rfl, ?_⟩⟩⟩⟩⟩
      simp only [hversion]
    have hbrings : store.Brings plan { row with
        state := .published, finalIdentity := some identity, durability := some linuxDurability
        stateVersion := row.stateVersion + 1, updatedAt } [] :=
      .inl ⟨rfl, by simp⟩
    exact ⟨h.advance hrow hadvance hplan rfl hnew hbrings,
      step_advance h hrow hadvance hplan rfl hbrings, fun hcalm => hcalm.advance h hrow hadvance⟩
  · cases hstate.symm.trans hpublished
  · cases hstate.symm.trans hcommitted

/-- The build is committed as the plan that is made again. -/
theorem Sound.commitBuild (h : store.Sound) (hplan : plan.Genuine)
    (hfinal : store.exports.find? plan.finalRef = some file)
    (hidentity : identity = plan.stamp store.exports file)
    (hcommit : store.commitBuild plan attempt identity linuxDurability updatedAt = .ok ((), t)) :
    t.Sound ∧ store.Step t ∧ (store.Calm → t.Calm) := by
  simp only [PublicationStore.commitBuild, bind_eq_ok, require_eq_ok, pure_eq_ok] at hcommit
  obtain ⟨current, hrebuild, _, hcurrent, _, hfresh, _, -, committed, hupdate, hresult⟩ := hcommit
  obtain rfl : committed = t := congrArg Prod.snd hresult
  obtain rfl := rebuildPlan_eq hplan hrebuild hcurrent.1
  obtain ⟨row, hrow, hid, hhit, ht⟩ := updateAttempt_eq_ok hupdate
    (by rw [tables_withTables, if_pos rfl]; exact h.attempts _) (fun _ => rfl)
  simp only [decide_eq_true_eq] at hhit
  obtain ⟨hstate, -⟩ := hhit
  rw [tables_withTables, if_pos rfl] at hrow ht
  have ht' : committed = store.withTables current.collection
      ((store.tables current.collection).advance { row with
        state := .committed, stateVersion := row.stateVersion + 1, updatedAt }
        [current.build identity linuxDurability updatedAt]) := by
    rw [ht]
    unfold BuildTables.advance withTables
    rw [List.append_nil]
    cases current.collection <;> rfl
  have hadvance := AttemptRow.Advance.commit updatedAt hstate
  have hplaced := (h.placed_of_buildId hplan hrow hid).2
  rw [← hplaced.finalRef] at hfinal
  obtain ⟨hwhole, hrecorded, hreceipts⟩ := hplaced.of_final hfinal
  rcases hreceipts with ⟨hstaged, -⟩ | ⟨hfinalIdentity, hdurability,
    ⟨-, hversion⟩ | ⟨hcommitted, -⟩⟩
  · cases hstate.symm.trans hstaged
  · have hnew : AttemptRow.Placed { row with
        state := .committed, stateVersion := row.stateVersion + 1, updatedAt }
        current store.exports := by
      refine ⟨hadvance.binds hplaced.binds, hplaced.stageRef, hplaced.pieces, .inr ⟨file, hwhole,
        hrecorded, .inr ⟨hfinal, .inr ⟨hfinalIdentity, hdurability, .inr ⟨rfl, ?_⟩⟩⟩⟩⟩
      simp only [hversion]
    have hbrings : store.Brings current { row with
        state := .committed, stateVersion := row.stateVersion + 1, updatedAt }
        [current.build identity linuxDurability updatedAt] :=
      .inr ⟨identity, updatedAt, rfl, rfl, hfinalIdentity.trans (congrArg some hidentity.symm),
        hfresh, hrebuild⟩
    rw [ht']
    exact ⟨h.advance hrow hadvance hplan rfl hnew hbrings,
      step_advance h hrow hadvance hplan rfl hbrings, fun hcalm => hcalm.advance h hrow hadvance⟩
  · cases hstate.symm.trans hcommitted

end Updates

/-! ## What a new attempt does -/

section Prepare

variable {t : PublicationStore Fp} {idempotencyKey : Option String} {token createdAt : String}
  {key : RequestKey Fp}

omit [CollisionFree Fp] in
/-- Requests are no matter of the invariant. -/
theorem Sound.of_rows (h : store.Sound) (hexports : t.exports = store.exports)
    (hattempts : ∀ c, (t.tables c).attempts = (store.tables c).attempts)
    (hbuilds : ∀ c, (t.tables c).builds = (store.tables c).builds) : t.Sound := by
  constructor
  · rw [hexports]
    exact h.exports
  · simpa only [hattempts] using h.attempts
  · simpa only [hattempts, hexports] using h.placed
  · simpa only [hattempts, hexports] using h.owned
  · simpa only [hbuilds] using h.builds
  · simpa only [hattempts, hbuilds] using h.built
  · simpa only [hattempts, hbuilds] using h.committed

omit [CollisionFree Fp] in
theorem step_of_rows (hexports : t.exports = store.exports)
    (hattempts : ∀ c, ∀ row ∈ (store.tables c).attempts, row ∈ (t.tables c).attempts)
    (hbuilds : ∀ c, (t.tables c).builds = (store.tables c).builds) : store.Step t := by
  refine ⟨by rw [hexports], fun c row hrow => ⟨row, hattempts c row hrow, .inl rfl⟩, ?_, ?_, ?_,
    ?_, ?_⟩
  · intro file content hcontent
    rw [hexports]
    exact ⟨content, hcontent, List.prefix_rfl⟩
  · intro buildId format file hfile
    rw [hexports]
    exact hfile
  · intro c row _ file hfile
    rw [hexports]
    exact .inl hfile
  · intro c build hbuild
    rw [hbuilds]
    exact hbuild
  · intro c build hbuild
    rw [hbuilds] at hbuild
    exact .inl hbuild

omit [CollisionFree Fp] in
theorem bindRequest_eq_ok (h : store.bindRequest plan key createdAt = .ok t) :
    t.exports = store.exports ∧ t.project = store.project ∧
      ∀ c, (t.tables c).attempts = (store.tables c).attempts ∧
        (t.tables c).builds = (store.tables c).builds := by
  unfold bindRequest at h
  cases hprior : Table.lookup BuildRequestRow.idempotencyKey key
      (store.tables plan.collection).requests with
  | some prior =>
    simp only [hprior, bind_eq_ok, require_eq_ok, pure_eq_ok] at h
    obtain ⟨_, -, rfl⟩ := h
    exact ⟨rfl, rfl, fun _ => ⟨rfl, rfl⟩⟩
  | none =>
    simp only [hprior, pure_eq_ok] at h
    subst h
    refine ⟨exports_withTables _ _ _, project_withTables _ _ _, ?_⟩
    intro c
    rw [tables_withTables]
    split
    · next hc =>
      rw [hc]
      exact ⟨rfl, rfl⟩
    · exact ⟨rfl, rfl⟩

/-- No name of a build is there before its attempt. -/
theorem Sound.find?_of_new (h : store.Sound) (hplan : plan.Genuine)
    (hnew : ∀ row ∈ (store.tables plan.collection).attempts, row.buildId ≠ plan.buildId)
    (name : ArtifactRef Fp) (hname : name.buildId = plan.buildId) :
    store.exports.find? name = none := by
  cases hfind : store.exports.find? name with
  | none => rfl
  | some file =>
    obtain ⟨c, row, hrow, hnamed⟩ := h.owned _ (Directory.mem_of_find? hfind)
    obtain ⟨owner, -, -, hplaced⟩ := h.placed c row hrow
    have hid : row.buildId = plan.buildId := by
      rw [← hname]
      rcases hnamed with hstage | hfinal
      · exact (congrArg ArtifactRef.buildId hstage).trans hplaced.stage_buildId |>.symm
      · exact (congrArg ArtifactRef.buildId hfinal).trans hplaced.final_buildId |>.symm
    obtain ⟨rfl, -⟩ := h.placed_of_buildId hplan hrow hid
    exact absurd hid (hnew row hrow)

theorem Sound.insert (h : store.Sound) (hplan : plan.Genuine)
    (hnew : ∀ row ∈ (store.tables plan.collection).attempts, row.buildId ≠ plan.buildId)
    (token createdAt : String) (members : List (MemberRow Fp)) :
    (store.withTables plan.collection { store.tables plan.collection with
      attempts := (store.tables plan.collection).attempts ++ [plan.attempt token createdAt]
      members }).Sound := by
  have hfind := h.find?_of_new hplan hnew
  refine ⟨by rw [exports_withTables]; exact h.exports, ?_, ?_, ?_, ?_, ?_, ?_⟩
  · intro c
    rw [tables_withTables]
    split
    · next hc =>
      subst hc
      exact Table.nodup_append_singleton (h.attempts plan.collection) hnew
    · exact h.attempts c
  · intro c row hrow
    rw [exports_withTables]
    rw [tables_withTables] at hrow
    split at hrow
    · next hc =>
      subst hc
      rcases List.mem_append.mp hrow with hold | hrow
      · exact h.placed _ row hold
      · rw [List.mem_singleton.mp hrow]
        refine ⟨plan, hplan, rfl, ⟨rfl, rfl, rfl, rfl, rfl, rfl, rfl, rfl, rfl, rfl, rfl, rfl⟩,
          rfl, ?_, .inl ⟨rfl, rfl, rfl, hfind _ rfl⟩⟩
        intro file hfile
        cases (hfind (.stage plan.buildId token) rfl).symm.trans hfile
    · exact h.placed c row hrow
  · intro entry hentry
    rw [exports_withTables] at hentry
    obtain ⟨c, row, hrow, hname⟩ := h.owned entry hentry
    refine ⟨c, row, ?_, hname⟩
    rw [tables_withTables]
    split
    · next hc =>
      subst hc
      exact List.mem_append_left _ hrow
    · exact hrow
  · intro c
    rw [tables_withTables]
    split
    · next hc =>
      subst hc
      exact h.builds plan.collection
    · exact h.builds c
  · intro c build hbuild
    rw [tables_withTables] at hbuild ⊢
    split at hbuild
    · next hc =>
      subst hc
      obtain ⟨owner, identity, at', howner, hc, heq, row, hrow, hrest⟩ :=
        h.built plan.collection build hbuild
      rw [if_pos rfl]
      exact ⟨owner, identity, at', howner, hc, heq, row, List.mem_append_left _ hrow, hrest⟩
    · next hc =>
      rw [if_neg hc]
      exact h.built c build hbuild
  · intro c row hrow hcommitted
    rw [tables_withTables] at hrow ⊢
    split at hrow
    · next hc =>
      subst hc
      rw [if_pos rfl]
      rcases List.mem_append.mp hrow with hold | hrow
      · exact h.committed _ row hold hcommitted
      · rw [List.mem_singleton.mp hrow] at hcommitted
        cases hcommitted
    · next hc =>
      rw [if_neg hc]
      exact h.committed c row hrow hcommitted

omit [Sha256 Fp] [CollisionFree Fp] in
theorem insertAttempt_eq_ok (h : store.insertAttempt plan token createdAt = .ok t) :
    t = store.withTables plan.collection { store.tables plan.collection with
      attempts := (store.tables plan.collection).attempts ++ [plan.attempt token createdAt]
      members := (store.tables plan.collection).members ++ plan.members } := by
  simp only [insertAttempt, bind_eq_ok, require_eq_ok, pure_eq_ok] at h
  obtain ⟨_, -, _, -, _, -, rfl⟩ := h
  rfl

/-- The attempt of the plan is there. -/
def Attempted (store : PublicationStore Fp) (plan : PublicationPlan Fp) : Prop :=
  ∃ row ∈ (store.tables plan.collection).attempts, row.buildId = plan.buildId

/-- What `prepare_attempt` does. -/
theorem Sound.prepare (h : store.Sound) (hplan : plan.Genuine)
    (hprepare : store.prepare plan idempotencyKey token createdAt = .ok ((), t)) :
    t.Sound ∧ store.Step t ∧ (store.Calm → t.Calm) ∧ t.Attempted plan := by
  simp only [PublicationStore.prepare, bind_eq_ok, require_eq_ok, pure_eq_ok] at hprepare
  obtain ⟨_, -, prepared, hprepared, key, -, bound, hbound, hresult⟩ := hprepare
  obtain rfl : bound = t := congrArg Prod.snd hresult
  unfold withAttempt at hprepared
  obtain ⟨hexports, -, hrows⟩ := bindRequest_eq_ok hbound
  have hbuilds : ∀ c, (bound.tables c).builds = (prepared.tables c).builds :=
    fun c => (hrows c).2
  have hattempts : ∀ c, (bound.tables c).attempts = (prepared.tables c).attempts :=
    fun c => (hrows c).1
  split at hprepared
  · next row hlookup =>
    obtain ⟨_, -, rfl⟩ := map_eq_ok.mp hprepared
    refine ⟨h.of_rows hexports hattempts hbuilds,
      step_of_rows hexports (fun c row hrow => by rw [hattempts]; exact hrow) hbuilds, ?_,
      row, by rw [hattempts]; exact Table.lookup_mem hlookup, Table.lookup_key hlookup⟩
    intro hcalm
    apply hcalm.of_find?
    · intro c row' hrow'
      rw [hattempts] at hrow'
      exact ⟨row', hrow', rfl, rfl⟩
    · intro name
      rw [hexports]
  · next hlookup =>
    have hnew := Table.lookup_eq_none.mp hlookup
    obtain rfl := insertAttempt_eq_ok hprepared
    have hsound := h.insert hplan hnew token createdAt
      ((store.tables plan.collection).members ++ plan.members)
    rw [exports_withTables] at hexports
    have hmem : ∀ c row, row ∈ (bound.tables c).attempts ↔ row ∈ (store.tables c).attempts ∨
        c = plan.collection ∧ row = plan.attempt token createdAt := by
      intro c row
      rw [hattempts, tables_withTables]
      split
      · next hc => simp [hc]
      · next hc => simp [hc]
    refine ⟨hsound.of_rows (by rw [exports_withTables]; exact hexports) hattempts hbuilds,
      step_of_rows hexports (fun c row hrow => (hmem c row).mpr (.inl hrow)) ?_, ?_,
      _, (hmem _ _).mpr (.inr ⟨rfl, rfl⟩), rfl⟩
    · intro c
      rw [hbuilds, tables_withTables]
      split
      · next hc => rw [hc]
      · rfl
    · intro hcalm c row hrow file hfile
      rw [hexports] at hfile ⊢
      rcases (hmem c row).mp hrow with hold | ⟨rfl, rfl⟩
      · exact hcalm c row hold file hfile
      · cases (h.find?_of_new hplan hnew plan.finalRef rfl).symm.trans hfile

end Prepare

end PublicationStore

end Quillframe
