import Quillframe.Digest
import Quillframe.Error
import Quillframe.OrderedMap
import Quillframe.StringOrder

/-! The tracking state of a story and the compare-and-swap ledger that is its only writer. -/
namespace Quillframe

open Json (str int fp obj strings)

variable {Fp : Type}

def chapterRecordMaxBytes : ℕ := 3072
def characterSnapshotMaxBytes : ℕ := 8192

structure ChapterTrackingRecord (Fp : Type) where
  chapterId : String
  readingOrder : ℕ
  netChange : String
  openExpectations : List String
  paidExpectations : List String
  relationshipChanges : List String
  stateChanges : List String
  nextPull : String
  sourceCandidateFingerprint : Fp
  deriving DecidableEq

namespace ChapterTrackingRecord

def toJson (r : ChapterTrackingRecord Fp) : Json Fp :=
  obj [("chapter_id", str r.chapterId), ("reading_order", int r.readingOrder),
    ("net_change", str r.netChange), ("open_expectations", strings r.openExpectations),
    ("paid_expectations", strings r.paidExpectations),
    ("relationship_changes", strings r.relationshipChanges),
    ("state_changes", strings r.stateChanges), ("next_pull", str r.nextPull),
    ("source_candidate_fingerprint", fp r.sourceCandidateFingerprint)]

def encodedSize (r : ChapterTrackingRecord Fp) : ℕ := r.toJson.encodedSize

def validate (r : ChapterTrackingRecord Fp) : CoreResult Unit := do
  require (¬ (blank r.chapterId ∨ r.readingOrder = 0 ∨ blank r.netChange ∨ blank r.nextPull))
    (.invalidProject "chapter tracking record is incomplete")
  require (r.encodedSize ≤ chapterRecordMaxBytes)
    (.contextBoundary "chapter tracking record exceeds 3072 bytes")

end ChapterTrackingRecord

theorem strings_injective : Function.Injective (strings : List String → Json Fp) := by
  intro xs ys h
  simp only [strings, Json.arr.injEq] at h
  exact List.map_injective_iff.mpr (fun _ _ h => by simpa using h) h

theorem ChapterTrackingRecord.toJson_injective :
    Function.Injective (toJson : ChapterTrackingRecord Fp → Json Fp) := by
  rintro ⟨⟩ ⟨⟩ h
  simp only [toJson, obj.injEq, List.cons.injEq, Prod.mk.injEq, true_and, str.injEq, int.injEq,
    Nat.cast_inj, fp.injEq, and_true, strings_injective.eq_iff] at h
  simp only [ChapterTrackingRecord.mk.injEq]
  exact h

structure TrackingState (Fp : Type) where
  schema : String
  projectId : String
  version : ℕ
  chapters : OrderedMap String (ChapterTrackingRecord Fp)
  characterSnapshots : OrderedMap String String
  invalidatedChapters : OrderedSet String
  fingerprint : Fp
  deriving DecidableEq

namespace TrackingState

/-- The serialised state with its `fingerprint` member given. -/
def toJsonWith (s : TrackingState Fp) (fingerprint : Json Fp) : Json Fp :=
  obj [("schema", str s.schema), ("project_id", str s.projectId), ("version", int s.version),
    ("chapters", obj (s.chapters.entries.map fun entry => (entry.1, entry.2.toJson))),
    ("character_snapshots",
      obj (s.characterSnapshots.entries.map fun entry => (entry.1, str entry.2))),
    ("invalidated_chapters", strings s.invalidatedChapters.keys),
    ("fingerprint", fingerprint)]

def toJson (s : TrackingState Fp) : Json Fp := s.toJsonWith (fp s.fingerprint)

section

variable [Sha256 Fp]

def computeFingerprint (s : TrackingState Fp) : Fp := Sha256.ofJson (s.toJsonWith (str ""))

def refreshFingerprint (s : TrackingState Fp) : TrackingState Fp :=
  { s with fingerprint := s.computeFingerprint }

/-- The state of a new project, before its project id is checked. -/
def genesis (projectId : String) : TrackingState Fp :=
  refreshFingerprint
    { schema := "quillframe_tracking_state_v1", projectId, version := 0,
      chapters := .empty, characterSnapshots := .empty, invalidatedChapters := .empty,
      fingerprint := Sha256.ofText "" }

def empty (projectId : String) : CoreResult (TrackingState Fp) := do
  require (¬ blank projectId) (.invalidProject "tracking project id is empty")
  return genesis projectId

variable [DecidableEq Fp]

def validate (s : TrackingState Fp) : CoreResult Unit := do
  forEach (fun _ record => record.validate) s.chapters.values ()
  require (∀ snapshot ∈ s.characterSnapshots.values,
      snapshot.utf8ByteSize ≤ characterSnapshotMaxBytes)
    (.contextBoundary "character snapshot exceeds 8192 bytes")
  require (s.fingerprint = s.computeFingerprint)
    (.authorityConflict "tracking state fingerprint changed")

end

end TrackingState

/-- `TrackingLedger::transact`: checks the expected head, mutates, bumps the version, reseals. -/
def TrackingLedger.transact [Sha256 Fp] [DecidableEq Fp] (current : TrackingState Fp)
    (expectedVersion : ℕ) (expectedFingerprint : Fp)
    (mutate : TrackingState Fp → TrackingState Fp) : CoreResult (TrackingState Fp) := do
  require (current.version = expectedVersion ∧ current.fingerprint = expectedFingerprint)
    (.authorityConflict "tracking state compare-and-swap conflict")
  let changed := mutate current
  let next := TrackingState.refreshFingerprint { changed with version := changed.version + 1 }
  next.validate
  return next

namespace TrackingState

/-! ## Sealed states -/

/-- The fingerprint is that of the rest of the state. -/
def Sealed [Sha256 Fp] (s : TrackingState Fp) : Prop := s.fingerprint = s.computeFingerprint

theorem toJsonWith_inj {s t : TrackingState Fp} {v w : Json Fp}
    (h : s.toJsonWith v = t.toJsonWith w) :
    s.schema = t.schema ∧ s.projectId = t.projectId ∧ s.version = t.version ∧
      s.chapters = t.chapters ∧ s.characterSnapshots = t.characterSnapshots ∧
      s.invalidatedChapters = t.invalidatedChapters := by
  simp only [toJsonWith, obj.injEq, List.cons.injEq, Prod.mk.injEq, true_and, str.injEq,
    int.injEq, Nat.cast_inj, strings_injective.eq_iff] at h
  obtain ⟨hschema, hproject, hversion, hchapters, hsnapshots, hinvalidated, -⟩ := h
  refine ⟨hschema, hproject, hversion, OrderedMap.ext ?_, OrderedMap.ext ?_, OrderedMap.ext ?_⟩
  · refine List.map_injective_iff.mpr ?_ hchapters
    rintro ⟨k, a⟩ ⟨l, b⟩ hab
    simpa [ChapterTrackingRecord.toJson_injective.eq_iff] using hab
  · refine List.map_injective_iff.mpr ?_ hsnapshots
    rintro ⟨k, a⟩ ⟨l, b⟩ hab
    simpa using hab
  · refine List.map_injective_iff.mpr ?_ hinvalidated
    rintro ⟨k, ⟨⟩⟩ ⟨l, ⟨⟩⟩ hab
    simpa using hab

/-- Two sealed states with one fingerprint are the same state. -/
theorem Sealed.eq_of_fingerprint_eq [Sha256 Fp] [CollisionFree Fp] {s t : TrackingState Fp}
    (hs : s.Sealed) (ht : t.Sealed) (h : s.fingerprint = t.fingerprint) : s = t := by
  have hbody := CollisionFree.ofJson_injective (hs.symm.trans (h.trans ht))
  obtain ⟨h1, h2, h3, h4, h5, h6⟩ := toJsonWith_inj hbody
  cases s
  cases t
  simp_all

theorem refreshFingerprint_sealed [Sha256 Fp] (s : TrackingState Fp) :
    s.refreshFingerprint.Sealed := rfl

theorem genesis_sealed [Sha256 Fp] (projectId : String) :
    (genesis projectId : TrackingState Fp).Sealed := rfl

theorem validate_sealed [Sha256 Fp] [DecidableEq Fp] {s : TrackingState Fp} {u : Unit}
    (h : s.validate = .ok u) : s.Sealed := by
  simp only [validate, bind_eq_ok, require_eq_ok, exists_const] at h
  obtain ⟨_, -, -, hseal⟩ := h
  exact hseal

end TrackingState

theorem TrackingLedger.transact_eq_ok [Sha256 Fp] [DecidableEq Fp]
    {current next : TrackingState Fp} {version : ℕ} {fingerprint : Fp}
    {mutate : TrackingState Fp → TrackingState Fp}
    (h : transact current version fingerprint mutate = .ok next) :
    current.version = version ∧ current.fingerprint = fingerprint ∧
      next = TrackingState.refreshFingerprint
        { mutate current with version := (mutate current).version + 1 } ∧
      next.validate = .ok () := by
  simp only [transact, bind_eq_ok, require_eq_ok, exists_const, pure_eq_ok] at h
  obtain ⟨⟨hv, hf⟩, _, hvalid, rfl⟩ := h
  exact ⟨hv, hf, rfl, hvalid⟩

end Quillframe
