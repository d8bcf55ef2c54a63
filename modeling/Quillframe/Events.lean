import Quillframe.Digest
import Quillframe.Error

/-! Story events and the snapshots taken after them. -/
namespace Quillframe

open Json (str int fp obj ofOption)

variable {Fp : Type}

def saturatingSucc (n : ℕ) : ℕ := min (n + 1) (2 ^ 64 - 1)

structure StoryEvent (Fp : Type) where
  schema : String
  eventId : String
  projectId : String
  runId : Option String
  chapterId : Option String
  aggregateKind : String
  aggregateId : String
  eventKind : String
  baseRevision : ℕ
  commitRevision : ℕ
  payload : Json Fp
  payloadFingerprint : Fp
  createdAt : String
  fingerprint : Fp
  deriving DecidableEq

namespace StoryEvent

def toJsonWith (e : StoryEvent Fp) (fingerprint : Json Fp) : Json Fp :=
  obj [("schema", str e.schema), ("event_id", str e.eventId), ("project_id", str e.projectId),
    ("run_id", ofOption str e.runId), ("chapter_id", ofOption str e.chapterId),
    ("aggregate_kind", str e.aggregateKind), ("aggregate_id", str e.aggregateId),
    ("event_kind", str e.eventKind), ("base_revision", int e.baseRevision),
    ("commit_revision", int e.commitRevision), ("payload", e.payload),
    ("payload_fingerprint", fp e.payloadFingerprint), ("created_at", str e.createdAt),
    ("fingerprint", fingerprint)]

def validateFields (e : StoryEvent Fp) : CoreResult Unit :=
  require (¬ (e.schema ≠ "quillframe_story_event_v1" ∨ blank e.projectId ∨
      blank e.aggregateKind ∨ blank e.aggregateId ∨ blank e.eventKind ∨ blank e.createdAt ∨
      e.payload.isObject = false ∨ e.commitRevision ≠ saturatingSucc e.baseRevision))
    (.authorityConflict "story event identity or revision is invalid")

variable [Sha256 Fp] [DecidableEq Fp]

def computeFingerprint (e : StoryEvent Fp) : Fp := Sha256.ofJson (e.toJsonWith (str ""))

/-- `StoryEvent::create`, with the generated id as an argument. -/
def create (eventId projectId : String) (runId chapterId : Option String)
    (aggregateKind aggregateId eventKind : String) (baseRevision : ℕ) (payload : Json Fp)
    (createdAt : String) : CoreResult (StoryEvent Fp) := do
  let payloadFingerprint : Fp := Sha256.ofJson payload
  let value : StoryEvent Fp :=
    { schema := "quillframe_story_event_v1", eventId, projectId, runId, chapterId, aggregateKind,
      aggregateId, eventKind, baseRevision, commitRevision := saturatingSucc baseRevision,
      payload, payloadFingerprint, createdAt, fingerprint := payloadFingerprint }
  value.validateFields
  return { value with fingerprint := value.computeFingerprint }

def validate (e : StoryEvent Fp) : CoreResult Unit := do
  e.validateFields
  require (e.payloadFingerprint = Sha256.ofJson e.payload ∧
      e.fingerprint = e.computeFingerprint)
    (.authorityConflict "story event fingerprint changed")

omit [DecidableEq Fp] in
/-- Sealed events with one fingerprint are the same event. -/
theorem eq_of_fingerprint_eq [CollisionFree Fp] {d e : StoryEvent Fp}
    (hd : d.fingerprint = d.computeFingerprint) (he : e.fingerprint = e.computeFingerprint)
    (h : d.fingerprint = e.fingerprint) : d = e := by
  have hbody := CollisionFree.ofJson_injective (hd.symm.trans (h.trans he))
  have hoption : Function.Injective (ofOption str : Option String → Json Fp) := by
    rintro (_ | a) (_ | b) hab <;> simp_all [ofOption]
  cases d
  cases e
  simp only [toJsonWith, obj.injEq, List.cons.injEq, Prod.mk.injEq, true_and, str.injEq,
    int.injEq, Nat.cast_inj, fp.injEq, hoption.eq_iff, and_true] at hbody
  simp only [StoryEvent.mk.injEq]
  tauto

omit [DecidableEq Fp] in
theorem list_eq_of_fingerprints [CollisionFree Fp] {ds es : List (StoryEvent Fp)}
    (hds : ∀ d ∈ ds, d.fingerprint = d.computeFingerprint)
    (hes : ∀ e ∈ es, e.fingerprint = e.computeFingerprint)
    (h : ds.map (·.fingerprint) = es.map (·.fingerprint)) : ds = es := by
  induction ds generalizing es with
  | nil =>
    cases es with
    | nil => rfl
    | cons e es => simp at h
  | cons d ds ih =>
    cases es with
    | nil => simp at h
    | cons e es =>
      simp only [List.map_cons, List.cons.injEq] at h
      rw [eq_of_fingerprint_eq (hds d List.mem_cons_self) (hes e List.mem_cons_self) h.1,
        ih (fun d hd => hds d (List.mem_cons_of_mem _ hd))
          (fun e he => hes e (List.mem_cons_of_mem _ he)) h.2]

end StoryEvent

structure StoryStateSnapshot (Fp : Type) where
  schema : String
  snapshotId : String
  projectId : String
  throughRevision : ℕ
  throughEventSeq : ℤ
  throughEventFingerprint : Fp
  eventChainFingerprint : Fp
  projection : Json Fp
  projectionFingerprint : Fp
  reason : String
  createdAt : String
  fingerprint : Fp
  deriving DecidableEq

namespace StoryStateSnapshot

def toJsonWith (s : StoryStateSnapshot Fp) (fingerprint : Json Fp) : Json Fp :=
  obj [("schema", str s.schema), ("snapshot_id", str s.snapshotId),
    ("project_id", str s.projectId), ("through_revision", int s.throughRevision),
    ("through_event_seq", int s.throughEventSeq),
    ("through_event_fingerprint", fp s.throughEventFingerprint),
    ("event_chain_fingerprint", fp s.eventChainFingerprint), ("projection", s.projection),
    ("projection_fingerprint", fp s.projectionFingerprint), ("reason", str s.reason),
    ("created_at", str s.createdAt), ("fingerprint", fingerprint)]

def validateFields (s : StoryStateSnapshot Fp) : CoreResult Unit :=
  require (¬ (s.schema ≠ "quillframe_story_state_snapshot_v1" ∨ blank s.projectId ∨
      s.throughRevision = 0 ∨ s.throughEventSeq ≤ 0 ∨ blank s.reason ∨ blank s.createdAt ∨
      s.projection.isObject = false))
    (.authorityConflict "story state snapshot is incomplete")

variable [Sha256 Fp] [DecidableEq Fp]

def computeFingerprint (s : StoryStateSnapshot Fp) : Fp := Sha256.ofJson (s.toJsonWith (str ""))

/-- `StoryStateSnapshot::create`, with the generated id as an argument. -/
def create (snapshotId projectId : String) (throughRevision : ℕ) (throughEventSeq : ℤ)
    (throughEventFingerprint eventChainFingerprint : Fp) (projection : Json Fp)
    (reason createdAt : String) : CoreResult (StoryStateSnapshot Fp) := do
  let projectionFingerprint : Fp := Sha256.ofJson projection
  let value : StoryStateSnapshot Fp :=
    { schema := "quillframe_story_state_snapshot_v1", snapshotId, projectId, throughRevision,
      throughEventSeq, throughEventFingerprint, eventChainFingerprint, projection,
      projectionFingerprint, reason, createdAt, fingerprint := projectionFingerprint }
  value.validateFields
  return { value with fingerprint := value.computeFingerprint }

def validate (s : StoryStateSnapshot Fp) : CoreResult Unit := do
  s.validateFields
  require (Sha256.ofJson s.projection = s.projectionFingerprint ∧
      s.computeFingerprint = s.fingerprint)
    (.authorityConflict "story state snapshot fingerprint changed")

end StoryStateSnapshot

end Quillframe
