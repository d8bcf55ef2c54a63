import Quillframe.NativeFiles
import Quillframe.Procedures
import Quillframe.Publication

/-!
# Building a publication

`build_plan` moves the row of an attempt and the file of its artifact in turns. Each transaction,
each query, each system call and each byte that is written is an action of its own, so that other
builds may come between any two of them.
-/
namespace Quillframe

open Json (str fp arr obj strings)
open Procedure (look transact raise)

variable {Fp : Type}

/-! ## Tables -/

/-- A name in `exports/`: `.{build_id}.{token}.stage` or `{build_id}.{format}`. -/
inductive ArtifactRef (Fp : Type) where
  | stage (buildId : Fp) (token : String)
  | final (buildId : Fp) (format : PublicationFormat)
  deriving DecidableEq

/-- The two forms of the text are told apart by their ends. -/
def ArtifactRef.toJson : ArtifactRef Fp → Json Fp
  | stage buildId token => arr [str "exports", fp buildId, str token, str "stage"]
  | final buildId format => arr [str "exports", fp buildId, str format.asStr]

inductive AttemptState where
  | staged | published | committed | failed
  deriving DecidableEq, Repr

/-- A row of `publication_build_attempts` or of `publication_collection_attempts`. The owner token
stands without its `qfpub:`. -/
structure AttemptRow (Fp : Type) where
  buildId : Fp
  identityFingerprint : Fp
  projectId : String
  sourceAcceptanceIds : List String
  format : PublicationFormat
  compilerContract : String
  sourceFingerprint : Fp
  artifactFingerprint : Fp
  byteSize : ℕ
  stageRef : ArtifactRef Fp
  finalRef : ArtifactRef Fp
  ownerToken : String
  state : AttemptState
  createdAt : String
  updatedAt : String
  sourceBinding : Json Fp
  sourceBindingFingerprint : Fp
  stateVersion : ℕ
  stageIdentity : Option FileIdentity
  finalIdentity : Option FileIdentity
  durability : Option (Json Fp)
  deriving DecidableEq

/-- A row of `publication_collection_members`. -/
structure MemberRow (Fp : Type) where
  buildId : Fp
  ordinal : ℕ
  acceptanceId : String
  deriving DecidableEq

/-- The idempotency key of a single build names its identity: `single:{identity_fingerprint}`. -/
inductive RequestKey (Fp : Type) where
  | single (identityFingerprint : Fp)
  | given (key : String)
  deriving DecidableEq

/-- A row of `publication_build_requests` or of `publication_collection_requests`. -/
structure BuildRequestRow (Fp : Type) where
  idempotencyKey : RequestKey Fp
  requestFingerprint : Fp
  buildId : Fp
  createdAt : String
  deriving DecidableEq

/-- A row of `publication_builds` or of `publication_collection_builds`. -/
structure BuildRow (Fp : Type) where
  buildId : Fp
  sourceAcceptanceIds : List String
  format : PublicationFormat
  compilerContract : String
  outputRef : ArtifactRef Fp
  sourceFingerprint : Fp
  createdAt : String
  sourceBinding : Json Fp
  sourceBindingFingerprint : Fp
  artifactFingerprint : Fp
  byteSize : ℕ
  artifactManifest : Json Fp
  artifactManifestFingerprint : Fp
  deriving DecidableEq

/-- The tables of the single builds or of the collections; single builds have no members. -/
structure BuildTables (Fp : Type) where
  attempts : List (AttemptRow Fp)
  members : List (MemberRow Fp)
  requests : List (BuildRequestRow Fp)
  builds : List (BuildRow Fp)
  deriving DecidableEq

/-- A project with its publications and its directory `exports/`. -/
structure PublicationStore (Fp : Type) where
  project : Database Fp
  singles : BuildTables Fp
  collections : BuildTables Fp
  exports : Directory (ArtifactRef Fp)
  deriving DecidableEq

namespace PublicationStore

def tables (store : PublicationStore Fp) (collection : Bool) : BuildTables Fp :=
  if collection then store.collections else store.singles

def withTables (store : PublicationStore Fp) (collection : Bool) (tables : BuildTables Fp) :
    PublicationStore Fp :=
  if collection then { store with collections := tables } else { store with singles := tables }

end PublicationStore

abbrev PublicationProcedure (Fp : Type) := Procedure CoreError (PublicationStore Fp)

namespace PublicationPlan

def finalRef (plan : PublicationPlan Fp) : ArtifactRef Fp := .final plan.buildId plan.format

/-- The columns of an attempt that its build id must bind. -/
def Binds (plan : PublicationPlan Fp) (row : AttemptRow Fp) : Prop :=
  row.buildId = plan.buildId ∧ row.identityFingerprint = plan.identityFingerprint ∧
    row.projectId = plan.projectId ∧ row.sourceAcceptanceIds = plan.sourceAcceptanceIds ∧
    row.format = plan.format ∧ row.compilerContract = plan.compiler ∧
    row.sourceFingerprint = plan.sourceFingerprint ∧
    row.artifactFingerprint = plan.artifactFingerprint ∧ row.byteSize = plan.byteSize ∧
    row.finalRef = plan.finalRef ∧ row.sourceBinding = plan.sourceBinding ∧
    row.sourceBindingFingerprint = plan.sourceBindingFingerprint

instance [DecidableEq Fp] (plan : PublicationPlan Fp) (row : AttemptRow Fp) :
    Decidable (plan.Binds row) :=
  inferInstanceAs (Decidable (_ ∧ _))

/-- The row of an attempt that begins. -/
def attempt (plan : PublicationPlan Fp) (token createdAt : String) : AttemptRow Fp where
  buildId := plan.buildId
  identityFingerprint := plan.identityFingerprint
  projectId := plan.projectId
  sourceAcceptanceIds := plan.sourceAcceptanceIds
  format := plan.format
  compilerContract := plan.compiler
  sourceFingerprint := plan.sourceFingerprint
  artifactFingerprint := plan.artifactFingerprint
  byteSize := plan.byteSize
  stageRef := .stage plan.buildId token
  finalRef := plan.finalRef
  ownerToken := token
  state := .staged
  createdAt
  updatedAt := createdAt
  sourceBinding := plan.sourceBinding
  sourceBindingFingerprint := plan.sourceBindingFingerprint
  stateVersion := 1
  stageIdentity := none
  finalIdentity := none
  durability := none

def members (plan : PublicationPlan Fp) : List (MemberRow Fp) :=
  if plan.collection then
    plan.sourceAcceptanceIds.zipIdx.map fun member => ⟨plan.buildId, member.2, member.1⟩
  else []

def requestFingerprint [Sha256 Fp] (plan : PublicationPlan Fp) : Fp :=
  Sha256.ofJson (obj [("format", str plan.format.asStr),
    ("operation", str (if plan.collection then "publication.collection.build"
      else "publication.build")),
    ("project_id", str plan.projectId),
    ("source_acceptance_ids", strings plan.sourceAcceptanceIds)])

def requestKey (plan : PublicationPlan Fp) (idempotencyKey : Option String) :
    CoreResult (RequestKey Fp) :=
  if plan.collection then
    (fetch idempotencyKey (.invalidProject "collection idempotency key is required")).map .given
  else .ok (.single plan.identityFingerprint)

end PublicationPlan

section Builds

variable [Sha256 Fp] [DecidableEq Fp]

namespace PublicationStore

variable (store : PublicationStore Fp) (plan : PublicationPlan Fp)

omit [Sha256 Fp] in
/-- `load_attempt`. -/
def loadAttempt : CoreResult (AttemptRow Fp) :=
  fetch (Table.lookup AttemptRow.buildId plan.buildId (store.tables plan.collection).attempts)
    noRows

omit [Sha256 Fp] in
/-- The ids of the members, by their ordinals. -/
def memberIds : List String :=
  (((store.tables plan.collection).members.filter fun member =>
      member.buildId = plan.buildId).insertionSort fun a b => a.ordinal ≤ b.ordinal).map
    MemberRow.acceptanceId

omit [Sha256 Fp] in
/-- A new attempt; the sources of a single build have at most one attempt for each format. -/
def insertAttempt (token createdAt : String) : CoreResult (PublicationStore Fp) := do
  let tables := store.tables plan.collection
  require (¬ plan.collection → ∀ row ∈ tables.attempts,
      ¬ (row.sourceAcceptanceIds = plan.sourceAcceptanceIds ∧ row.format = plan.format ∧
        row.sourceFingerprint = plan.sourceFingerprint ∧ row.compilerContract = plan.compiler))
    (uniqueFailed "publication_build_attempts_source_identity_uq")
  require (∀ id ∈ plan.sourceAcceptanceIds,
      id ∈ store.project.acceptanceEvidence.map (·.acceptanceId)) foreignKeyFailed
  require plan.sourceAcceptanceIds.Nodup
    (uniqueFailed "publication_collection_members.build_id, acceptance_id")
  return store.withTables plan.collection { tables with
    attempts := tables.attempts ++ [plan.attempt token createdAt]
    members := tables.members ++ plan.members }

omit [Sha256 Fp] in
/-- An attempt that is there must be the one of the plan. -/
def checkAttempt (row : AttemptRow Fp) : CoreResult Unit := do
  require (plan.Binds row)
    (.authorityConflict "publication identity conflicts with its durable attempt")
  require (plan.collection → store.memberIds plan = plan.sourceAcceptanceIds)
    (.authorityConflict "publication collection membership changed")

/-- The request of a plan is recorded under its idempotency key. -/
def bindRequest (key : RequestKey Fp) (createdAt : String) :
    CoreResult (PublicationStore Fp) := do
  let tables := store.tables plan.collection
  match Table.lookup BuildRequestRow.idempotencyKey key tables.requests with
  | some prior =>
    require (prior.requestFingerprint = plan.requestFingerprint ∧ prior.buildId = plan.buildId)
      (.authorityConflict (if plan.collection then
        "publication idempotency key binds another request"
        else "publication request identity conflicts"))
    return store
  | none =>
    return store.withTables plan.collection { tables with
      requests := tables.requests ++ [⟨key, plan.requestFingerprint, plan.buildId, createdAt⟩] }

omit [Sha256 Fp] in
/-- The store with the attempt of the plan. -/
def withAttempt (token createdAt : String) : CoreResult (PublicationStore Fp) :=
  match Table.lookup AttemptRow.buildId plan.buildId (store.tables plan.collection).attempts with
  | some row => (store.checkAttempt plan row).map fun _ => store
  | none => store.insertAttempt plan token createdAt

/-- The transaction of `prepare_attempt`. -/
def prepare (idempotencyKey : Option String) (token createdAt : String) :
    CoreResult (Unit × PublicationStore Fp) := do
  require (store.project.projectId = plan.projectId)
    (.authorityConflict "publication project does not match the opened Project")
  let prepared ← store.withAttempt plan token createdAt
  let key ← plan.requestKey idempotencyKey
  let bound ← prepared.bindRequest plan key createdAt
  return ((), bound)

omit [Sha256 Fp] in
/-- `UPDATE .. WHERE build_id=.. AND ..`, which must hit the row. -/
def updateAttempt (hit : AttemptRow Fp → Bool) (change : AttemptRow Fp → AttemptRow Fp)
    (error : CoreError) : CoreResult (PublicationStore Fp) := do
  let tables := store.tables plan.collection
  let hits := fun row : AttemptRow Fp => decide (row.buildId = plan.buildId) && hit row
  require (tables.attempts.countP hits = 1) error
  return store.withTables plan.collection
    { tables with attempts := Table.updateWhere hits change tables.attempts }

omit [Sha256 Fp] in
def recordStage (attempt : AttemptRow Fp) (identity : FileIdentity) (updatedAt : String) :
    CoreResult (Unit × PublicationStore Fp) := do
  let recorded ← store.updateAttempt plan
    (fun row => row.state = .staged ∧ row.stateVersion = attempt.stateVersion ∧
      row.stageIdentity = none)
    (fun row => { row with
      stageIdentity := some identity, stateVersion := row.stateVersion + 1, updatedAt })
    (.authorityConflict "publication stage state changed concurrently")
  return ((), recorded)

end PublicationStore

omit [Sha256 Fp] [DecidableEq Fp] in
def linuxDurability : Json Fp :=
  obj [("contract", str "file_and_directory_synced"), ("platform", str "linux")]

namespace PublicationStore

variable (store : PublicationStore Fp) (plan : PublicationPlan Fp)

omit [Sha256 Fp] in
/-- `update_published`. -/
def updatePublished (attempt : AttemptRow Fp) (identity : FileIdentity) (updatedAt : String) :
    CoreResult (Unit × PublicationStore Fp) := do
  let published ← store.updateAttempt plan
    (fun row => row.state = .staged ∧ row.stateVersion = attempt.stateVersion)
    (fun row => { row with
      state := .published, finalIdentity := some identity, durability := some linuxDurability
      stateVersion := row.stateVersion + 1, updatedAt })
    (.authorityConflict "publication publish state changed concurrently")
  return ((), published)

end PublicationStore

omit [Sha256 Fp] [DecidableEq Fp] in
def FileIdentity.toJson (identity : FileIdentity) : Json Fp :=
  obj [("byte_size", .int identity.byteSize), ("file_id_high", .int identity.fileIdHigh),
    ("file_id_low", .int identity.fileIdLow), ("link_count", .int identity.linkCount),
    ("volume_id", .int identity.volumeId)]

namespace BuildRow

omit [Sha256 Fp] [DecidableEq Fp] in
/-- The manifest that goes with the columns of a build and of its attempt. -/
def manifest (build : BuildRow Fp) (identityFingerprint : Fp) (finalIdentity : FileIdentity)
    (durability : Json Fp) : Json Fp :=
  obj [("artifact_fingerprint", fp build.artifactFingerprint), ("build_id", fp build.buildId),
    ("byte_size", .int build.byteSize), ("compiler_contract", str build.compilerContract),
    ("durability", durability), ("final_identity", finalIdentity.toJson),
    ("format", str build.format.asStr), ("identity_fingerprint", fp identityFingerprint),
    ("output_ref", build.outputRef.toJson),
    ("source_acceptance_ids", strings build.sourceAcceptanceIds),
    ("source_binding", build.sourceBinding),
    ("source_binding_fingerprint", fp build.sourceBindingFingerprint),
    ("source_fingerprint", fp build.sourceFingerprint)]

end BuildRow

/-- The row of a build that is committed. -/
def PublicationPlan.build (plan : PublicationPlan Fp) (finalIdentity : FileIdentity)
    (durability : Json Fp) (createdAt : String) : BuildRow Fp :=
  let build : BuildRow Fp := {
    buildId := plan.buildId, sourceAcceptanceIds := plan.sourceAcceptanceIds
    format := plan.format, compilerContract := plan.compiler, outputRef := plan.finalRef
    sourceFingerprint := plan.sourceFingerprint, createdAt
    sourceBinding := plan.sourceBinding
    sourceBindingFingerprint := plan.sourceBindingFingerprint
    artifactFingerprint := plan.artifactFingerprint, byteSize := plan.byteSize
    artifactManifest := .null, artifactManifestFingerprint := Sha256.ofJson .null }
  let manifest := build.manifest plan.identityFingerprint finalIdentity durability
  { build with
    artifactManifest := manifest, artifactManifestFingerprint := Sha256.ofJson manifest }

/-- The transaction of `finalize_build`. -/
def PublicationStore.commitBuild (store : PublicationStore Fp) (plan : PublicationPlan Fp)
    (attempt : AttemptRow Fp) (finalIdentity : FileIdentity) (durability : Json Fp)
    (createdAt : String) : CoreResult (Unit × PublicationStore Fp) := do
  let current ← store.project.rebuildPlan plan
  require (current.buildId = plan.buildId ∧ current.sourceBinding = plan.sourceBinding)
    (.authorityConflict "publication source changed during commit")
  let tables := store.tables plan.collection
  require (∀ build ∈ tables.builds, build.buildId ≠ plan.buildId)
    (uniqueFailed "publication_builds.build_id")
  require (∀ build ∈ tables.builds,
      ¬ (build.sourceAcceptanceIds = plan.sourceAcceptanceIds ∧ build.format = plan.format ∧
        build.sourceFingerprint = plan.sourceFingerprint ∧
        build.compilerContract = plan.compiler))
    (uniqueFailed "publication_builds_source_identity_uq")
  let built := store.withTables plan.collection
    { tables with builds := tables.builds ++ [plan.build finalIdentity durability createdAt] }
  let committed ← built.updateAttempt plan
    (fun row => row.state = .published ∧ row.stateVersion = attempt.stateVersion)
    (fun row => { row with
      state := .committed, stateVersion := row.stateVersion + 1, updatedAt := createdAt })
    (.authorityConflict (if plan.collection then "publication collection commit raced"
      else "publication commit raced"))
  return ((), committed)

/-! ## Files -/

/-- A file that was opened, with what the handle told then. -/
structure FileGuard (Fp : Type) where
  path : ArtifactRef Fp
  identity : FileIdentity

namespace FileGuard

omit [Sha256 Fp] [DecidableEq Fp] in
/-- The number of the file that the handle holds. -/
def file (guard : FileGuard Fp) : ℕ := guard.identity.fileIdLow

omit [Sha256 Fp] [DecidableEq Fp] in
/-- The end of `guard_file`, which requires a single link. -/
def ofFile (path : ArtifactRef Fp) (file : ℕ) : PublicationProcedure Fp (FileGuard Fp) := do
  let token ← look fun store => .ok (store.exports.identity file)
  raise (require (token.linkCount = 1)
    (nativeError 6 "native file must have exactly one hard link"))
  return ⟨path, token⟩

omit [Sha256 Fp] in
/-- `guard_file` of a file that is there. -/
def openRead (path : ArtifactRef Fp) : PublicationProcedure Fp (FileGuard Fp) := do
  let file ← look fun store => store.exports.openAt path
  ofFile path file

omit [Sha256 Fp] in
/-- `guard_file` of a file that is not there yet. -/
def createStage (path : ArtifactRef Fp) : PublicationProcedure Fp (FileGuard Fp) := do
  let file ← transact fun store =>
    (store.exports.create path).map fun created => (created.1, { store with exports := created.2 })
  ofFile path file

omit [Sha256 Fp] in
def revalidate (guard : FileGuard Fp) : PublicationProcedure Fp FileIdentity := do
  let current ← look fun store => .ok (store.exports.identity guard.file)
  raise (require (current.SameObject guard.identity ∧ current.linkCount = 1)
    (nativeError 6 "guarded object identity changed while open"))
  let reopened ← openRead guard.path
  raise (require (current.SameObject reopened.identity)
    (nativeError 6 "guarded path no longer names the opened object"))
  return current

omit [Sha256 Fp] [DecidableEq Fp] in
/-- `write_all` behind some offset. -/
def writeAll (guard : FileGuard Fp) : List UInt8 → ℕ → PublicationProcedure Fp Unit
  | [], _ => pure ()
  | byte :: rest, offset => do
    transact fun store =>
      .ok ((), { store with exports := store.exports.write guard.file offset byte })
    writeAll guard rest (offset + 1)

end FileGuard

omit [Sha256 Fp] in
def writeStageNew (path : ArtifactRef Fp) (bytes : List UInt8) :
    PublicationProcedure Fp (FileGuard Fp) := do
  let guard ← FileGuard.createStage path
  guard.writeAll bytes 0
  let identity ← guard.revalidate
  raise (require (identity.byteSize = bytes.length)
    (nativeError 6 "staged file size does not match the flushed bytes"))
  return guard

omit [Sha256 Fp] in
def publishStagedNoreplace (stagePath finalPath : ArtifactRef Fp) (expected : FileIdentity) :
    PublicationProcedure Fp (FileGuard Fp) := do
  let stage ← FileGuard.openRead stagePath
  let staged ← stage.revalidate
  raise (require (staged.SameObject expected ∧ staged.byteSize = expected.byteSize)
    (nativeError 6 "publication stage identity changed before publish"))
  transact fun store =>
    (store.exports.rename stagePath finalPath).map fun exports => ((), { store with exports })
  let published ← FileGuard.openRead finalPath
  let identity ← published.revalidate
  raise (require (identity.SameObject expected ∧ identity.byteSize = expected.byteSize)
    (nativeError 6 "published target does not name the staged object"))
  return published

omit [Sha256 Fp] in
def readGuardedFile (path : ArtifactRef Fp) (maximumBytes : ℕ) :
    PublicationProcedure Fp (List UInt8 × FileIdentity) := do
  let guard ← FileGuard.openRead path
  let before ← guard.revalidate
  raise (require (before.byteSize ≤ maximumBytes)
    (nativeError 1 "guarded file exceeds the configured byte limit"))
  raise (require (guard.identity.byteSize ≤ maximumBytes)
    (nativeError 1 "guarded read exceeds the byte limit"))
  let bytes ← look fun store =>
    .ok ((store.exports.files.getD guard.file []).take (maximumBytes + 1))
  raise (require (bytes.length ≤ maximumBytes)
    (nativeError 1 "guarded read exceeds the byte limit"))
  let after ← guard.revalidate
  raise (require (before.SameObject after ∧ bytes.length = after.byteSize)
    (nativeError 6 "guarded file changed while it was read"))
  return (bytes, after)

/-- Bytes that are not UTF-8 have no text to compare. -/
def validateArtifactBytes (bytes : List UInt8) (fingerprint : Fp) (byteSize : ℕ) :
    CoreResult Unit :=
  match String.fromUTF8? ⟨bytes.toArray⟩ with
  | some text =>
    require (bytes.length = byteSize ∧ Sha256.ofText text = fingerprint)
      (.authorityConflict "publication artifact bytes are invalid")
  | none => .error (.authorityConflict "publication artifact bytes are invalid")

omit [Sha256 Fp] [DecidableEq Fp] in
def requireIdentity (expected actual : FileIdentity) : CoreResult Unit :=
  require (expected.SameObject actual ∧ expected.byteSize = actual.byteSize ∧
      actual.linkCount = 1)
    (.authorityConflict "publication file identity changed")

/-! ## The files of a build -/

section Drive

variable (plan : PublicationPlan Fp)

omit [Sha256 Fp] in
def pathExists (path : ArtifactRef Fp) : PublicationProcedure Fp Bool :=
  look fun store => .ok (store.exports.find? path).isSome

omit [Sha256 Fp] in
def validateAttemptRefs (attempt : AttemptRow Fp) : CoreResult Unit :=
  require (attempt.ownerToken ≠ "" ∧ attempt.finalRef = plan.finalRef ∧
      attempt.stageRef = .stage plan.buildId attempt.ownerToken)
    (.authorityConflict "publication attempt paths or ownership are invalid")

/-- The final file is there: it must be the file that was staged. -/
def adoptFinal (attempt : AttemptRow Fp) (updatedAt : String) : PublicationProcedure Fp Unit := do
  let expected ← raise (fetch attempt.stageIdentity
    (.authorityConflict "publication final exists without a recorded staged identity"))
  let (bytes, actual) ← readGuardedFile attempt.finalRef maxArtifactBytes
  raise (validateArtifactBytes bytes plan.artifactFingerprint plan.byteSize)
  raise (requireIdentity expected actual)
  if attempt.state = .staged then
    transact fun store => store.updatePublished plan attempt actual updatedAt
  else pure ()

/-- A stage file that is there must hold the artifact; else it is written. -/
def stageIdentity (attempt : AttemptRow Fp) : PublicationProcedure Fp FileIdentity := do
  if ← pathExists attempt.stageRef then
    let (bytes, actual) ← readGuardedFile attempt.stageRef maxArtifactBytes
    raise (validateArtifactBytes bytes plan.artifactFingerprint plan.byteSize)
    raise (match attempt.stageIdentity with
      | some expected => requireIdentity expected actual
      | none => .ok ())
    return actual
  else
    raise (require (attempt.stageIdentity = none)
      (.authorityConflict "owned publication stage is missing"))
    let guard ← writeStageNew attempt.stageRef plan.bytes
    guard.revalidate

omit [Sha256 Fp] in
/-- The attempt with the identity of the stage file on record. -/
def recordedAttempt (attempt : AttemptRow Fp) (identity : FileIdentity) (updatedAt : String) :
    PublicationProcedure Fp (AttemptRow Fp) :=
  if attempt.stageIdentity = none then do
    transact fun store => store.recordStage plan attempt identity updatedAt
    look fun store => store.loadAttempt plan
  else pure attempt

/-- The stage file becomes the final one. -/
def publishStage (initial attempt : AttemptRow Fp) (stage : FileIdentity) (updatedAt : String) :
    PublicationProcedure Fp Unit := do
  let recorded ← raise (fetch attempt.stageIdentity (.storage "stage identity was not persisted"))
  raise (requireIdentity recorded stage)
  let published ← publishStagedNoreplace initial.stageRef initial.finalRef recorded
  let finalIdentity ← published.revalidate
  let (bytes, reopened) ← readGuardedFile initial.finalRef maxArtifactBytes
  raise (validateArtifactBytes bytes plan.artifactFingerprint plan.byteSize)
  raise (requireIdentity finalIdentity reopened)
  transact fun store => store.updatePublished plan attempt reopened updatedAt

/-- The part of `drive_publication_files` that stages and publishes. -/
def stageAndPublish (initial : AttemptRow Fp) (updatedAt : String) :
    PublicationProcedure Fp Unit := do
  raise (require (initial.state ≠ .published)
    (.authorityConflict "published artifact is missing"))
  let stage ← stageIdentity plan initial
  let attempt ← recordedAttempt plan initial stage updatedAt
  publishStage plan initial attempt stage updatedAt

/-- `stage_path.exists() && final_path.exists()`. -/
def bothExist (attempt : AttemptRow Fp) : PublicationProcedure Fp Bool := do
  if ← pathExists attempt.stageRef then pathExists attempt.finalRef else pure false

def drivePublicationFiles (initial : AttemptRow Fp) (updatedAt : String) :
    PublicationProcedure Fp Unit := do
  raise (require (initial.state ≠ .failed)
    (.authorityConflict "failed publication attempts require an explicit retry"))
  if initial.state = .committed then pure ()
  else
    raise (validateAttemptRefs plan initial)
    let both ← bothExist initial
    raise (require (¬ both)
      (.authorityConflict "publication stage and final both exist; ownership is ambiguous"))
    if ← pathExists initial.finalRef then adoptFinal plan initial updatedAt
    else stageAndPublish plan initial updatedAt

end Drive

/-! ## Builds -/

/-- `finalize_build` of an attempt that is published. -/
def finalizePublished (plan : PublicationPlan Fp) (attempt : AttemptRow Fp)
    (createdAt : String) : PublicationProcedure Fp Unit := do
  let current ← look fun store => store.project.rebuildPlan plan
  raise (require (current.buildId = plan.buildId ∧ current.sourceBinding = plan.sourceBinding ∧
      current.artifactFingerprint = plan.artifactFingerprint)
    (.authorityConflict "publication source changed before commit"))
  let (bytes, identity) ← readGuardedFile plan.finalRef maxArtifactBytes
  raise (validateArtifactBytes bytes plan.artifactFingerprint plan.byteSize)
  let expected ← raise (fetch attempt.finalIdentity
    (.storage "published attempt has no final identity"))
  raise (requireIdentity expected identity)
  let durability ← raise (fetch attempt.durability
    (.storage "published attempt has no native durability receipt"))
  transact fun store => store.commitBuild plan attempt expected durability createdAt

def finalizeBuild (plan : PublicationPlan Fp) (createdAt : String) :
    PublicationProcedure Fp Unit := do
  let attempt ← look fun store => store.loadAttempt plan
  if attempt.state = .committed then pure ()
  else
    raise (require (attempt.state = .published)
      (.authorityConflict "publication is not durably published"))
    finalizePublished plan attempt createdAt

structure PublicationBuild (Fp : Type) where
  projectId : String
  buildId : Fp
  sourceAcceptanceIds : List String
  format : PublicationFormat
  compilerContract : String
  sourceFingerprint : Fp
  outputRef : ArtifactRef Fp
  identityFingerprint : Fp
  artifactFingerprint : Fp
  byteSize : ℕ
  deriving DecidableEq

omit [Sha256 Fp] in
/-- The row of a build, joined with its attempt when that is committed. -/
def BuildTables.committed? (tables : BuildTables Fp) (projectId : String) (buildId : Fp) :
    Option (BuildRow Fp × AttemptRow Fp) := do
  let build ← Table.lookup BuildRow.buildId buildId tables.builds
  let attempt ← Table.lookup AttemptRow.buildId buildId tables.attempts
  guard (attempt.projectId = projectId ∧ attempt.state = .committed)
  return (build, attempt)

/-- What `load_build` checks of the two rows before it reads the file. -/
def BuildRow.checkManifest (build : BuildRow Fp) (attempt : AttemptRow Fp) :
    CoreResult FileIdentity := do
  let finalIdentity ← fetch attempt.finalIdentity
    (.storage "Invalid column type Null at index: 12, name: final_identity_json")
  let durability ← fetch attempt.durability
    (.storage "Invalid column type Null at index: 13, name: durability_json")
  require (Sha256.ofJson build.artifactManifest = build.artifactManifestFingerprint ∧
      Sha256.ofJson build.sourceBinding = build.sourceBindingFingerprint)
    (.authorityConflict "publication artifact manifest fingerprint is invalid")
  require (build.artifactManifest =
      build.manifest attempt.identityFingerprint finalIdentity durability)
    (.authorityConflict "publication artifact manifest is inconsistent")
  return finalIdentity

omit [Sha256 Fp] in
/-- The rows of a single build, else of a collection. -/
def committedRows (projectId : String) (buildId : Fp) :
    PublicationProcedure Fp (BuildRow Fp × AttemptRow Fp) := do
  match ← look fun store => .ok (store.singles.committed? projectId buildId) with
  | some rows => pure rows
  | none => look fun store => fetch (store.collections.committed? projectId buildId) noRows

def loadBuild (projectId : String) (buildId : Fp) :
    PublicationProcedure Fp (PublicationBuild Fp) := do
  let (build, attempt) ← committedRows projectId buildId
  let finalIdentity ← raise (build.checkManifest attempt)
  let (bytes, actual) ← readGuardedFile build.outputRef maxArtifactBytes
  raise (validateArtifactBytes bytes build.artifactFingerprint build.byteSize)
  raise (requireIdentity finalIdentity actual)
  return {
    projectId, buildId, sourceAcceptanceIds := build.sourceAcceptanceIds
    format := build.format, compilerContract := build.compilerContract
    sourceFingerprint := build.sourceFingerprint, outputRef := build.outputRef
    identityFingerprint := attempt.identityFingerprint
    artifactFingerprint := build.artifactFingerprint, byteSize := build.byteSize }

/-- `drive_publication_files` and `finalize_build`, unless the attempt is committed. -/
def commitPlan (plan : PublicationPlan Fp) (createdAt : String) : PublicationProcedure Fp Unit := do
  let attempt ← look fun store => store.loadAttempt plan
  if attempt.state = .committed then pure ()
  else
    drivePublicationFiles plan attempt createdAt
    finalizeBuild plan createdAt

/-- `build_plan`; an attempt that begins is named by the token. -/
def buildPlan (plan : PublicationPlan Fp) (idempotencyKey : Option String)
    (token createdAt : String) : PublicationProcedure Fp (PublicationBuild Fp) := do
  raise (require (¬ blank createdAt) (.invalidProject "publication timestamp is required"))
  transact fun store => store.prepare plan idempotencyKey token createdAt
  commitPlan plan createdAt
  let build ← loadBuild plan.projectId plan.buildId
  let (bytes, _) ← readGuardedFile build.outputRef maxArtifactBytes
  raise (validateArtifactBytes bytes build.artifactFingerprint build.byteSize)
  return build

def buildPublication (projectId acceptanceId : String) (format : PublicationFormat)
    (token createdAt : String) : PublicationProcedure Fp (PublicationBuild Fp) := do
  let source ← look fun store => store.project.loadAcceptedSource acceptanceId
  let plan ← raise (makePlan projectId [source] format false)
  buildPlan plan none token createdAt

/-- The sources of a collection, one query behind the other. -/
def loadCurrentSources : List String → PublicationProcedure Fp (List (PublicationSource Fp))
  | [] => pure []
  | acceptanceId :: rest => do
    let source ← look fun store => store.project.loadCurrentSource acceptanceId
    let sources ← loadCurrentSources rest
    return source :: sources

def maxCollectionChapters : ℕ := 10000

def buildPublicationCollection (projectId : String) (acceptanceIds : List String)
    (format : PublicationFormat) (idempotencyKey : String) (userAuthorized : Bool)
    (token createdAt : String) : PublicationProcedure Fp (PublicationBuild Fp) := do
  raise (require userAuthorized
    (.authorityConflict "publication collection requires explicit author authorization"))
  raise (require (¬ blank idempotencyKey ∧ idempotencyKey.utf8ByteSize ≤ 256)
    (.invalidProject "publication collection requires a bounded idempotency key"))
  raise (require (acceptanceIds ≠ [] ∧ acceptanceIds.length ≤ maxCollectionChapters ∧
      (∀ id ∈ acceptanceIds, ¬ blank id) ∧ acceptanceIds.Nodup)
    (.invalidProject "publication collection source list is invalid"))
  let sources ← loadCurrentSources acceptanceIds
  raise (require (ReadingOrdered sources)
    (.authorityConflict "publication collection must follow current novel reading order"))
  let plan ← raise (makePlan projectId sources format true)
  buildPlan plan (some idempotencyKey) token createdAt

end Builds

end Quillframe
