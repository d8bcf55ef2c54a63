import Quillframe.Corpus.Progress
import Quillframe.WriterPacks

/-!
# Source-free packs

The pack that a study ends with. Its fingerprint leaves the evidence out, and so does the
projection that a writer reads: packs that differ in their evidence only are one to the writer.
-/
namespace Quillframe.Corpus

open Json (str fp obj arr strings)

variable {Fp : Type}

structure CorpusMechanism (Fp : Type) where
  mechanismId : String
  readerNeed : String
  emotionChain : List String
  dramaticFunction : String
  replaceableSlots : List String
  forbiddenCopyElements : List String
  rhythmRefs : List String
  evidence : List (EvidenceAnchor Fp)

structure SourceFreeCorpusPack (Fp : Type) where
  schema : String
  genre : String
  mechanisms : List (CorpusMechanism Fp)
  rhythmSummary : String
  styleGuidance : List String
  sourceIdentitiesRemoved : Bool
  fingerprint : Fp

def requireText (value field : String) : CoreResult Unit :=
  require (¬ blank value) (.invalidProject (field ++ " must be non-empty"))

namespace CorpusMechanism

def validate (m : CorpusMechanism Fp) : CoreResult Unit := do
  requireText m.mechanismId "mechanism_id"
  requireText m.readerNeed "reader_need"
  requireText m.dramaticFunction "dramatic_function"
  require (¬ (m.emotionChain.length < 3 ∨ m.replaceableSlots.length < 3)) (.invalidProject
    "corpus mechanism needs an emotion chain and replaceable function slots")
  require (¬ (m.forbiddenCopyElements.isEmpty ∨ m.evidence.isEmpty)) (.invalidProject
    "corpus mechanism must carry copying boundaries and source evidence")

def toJson (m : CorpusMechanism Fp) : Json Fp :=
  obj [("mechanism_id", str m.mechanismId), ("reader_need", str m.readerNeed),
    ("emotion_chain", strings m.emotionChain), ("dramatic_function", str m.dramaticFunction),
    ("replaceable_slots", strings m.replaceableSlots),
    ("forbidden_copy_elements", strings m.forbiddenCopyElements),
    ("rhythm_refs", strings m.rhythmRefs),
    ("evidence", arr (m.evidence.map EvidenceAnchor.toJson))]

def writerMechanism (m : CorpusMechanism Fp) : WriterCorpusMechanism where
  mechanismId := m.mechanismId
  readerNeed := m.readerNeed
  emotionChain := m.emotionChain
  dramaticFunction := m.dramaticFunction
  replaceableSlots := m.replaceableSlots
  forbiddenCopyElements := m.forbiddenCopyElements
  rhythmRefs := m.rhythmRefs

end CorpusMechanism

namespace SourceFreeCorpusPack

def toJsonWith (p : SourceFreeCorpusPack Fp) (fingerprint : Json Fp) : Json Fp :=
  obj [("schema", str p.schema), ("genre", str p.genre),
    ("mechanisms", arr (p.mechanisms.map CorpusMechanism.toJson)),
    ("rhythm_summary", str p.rhythmSummary), ("style_guidance", strings p.styleGuidance),
    ("source_identities_removed", .bool p.sourceIdentitiesRemoved), ("fingerprint", fingerprint)]

def toJson (p : SourceFreeCorpusPack Fp) : Json Fp := p.toJsonWith (fp p.fingerprint)

/-- The pack without its evidence. -/
def cleared (p : SourceFreeCorpusPack Fp) : SourceFreeCorpusPack Fp :=
  { p with mechanisms := p.mechanisms.map fun m => { m with evidence := [] } }

variable [Sha256 Fp]

def computeFingerprint (p : SourceFreeCorpusPack Fp) : Fp :=
  Sha256.ofJson (p.cleared.toJsonWith (str ""))

def build (genre : String) (mechanisms : List (CorpusMechanism Fp)) (rhythmSummary : String)
    (styleGuidance : List String) : CoreResult (SourceFreeCorpusPack Fp) := do
  let _ ← forEach (fun _ m => CorpusMechanism.validate m) mechanisms ()
  require (¬ mechanisms.isEmpty)
    (.invalidProject "source-free corpus pack requires mechanisms")
  let value : SourceFreeCorpusPack Fp :=
    { schema := "quillframe_source_free_corpus_pack_v1", genre, mechanisms, rhythmSummary
      styleGuidance, sourceIdentitiesRemoved := true, fingerprint := Sha256.ofText "" }
  requireText value.genre "genre"
  requireText value.rhythmSummary "rhythm_summary"
  return { value with fingerprint := value.computeFingerprint }

variable [DecidableEq Fp]

def validate (p : SourceFreeCorpusPack Fp) : CoreResult Unit := do
  require (¬ (¬ p.sourceIdentitiesRemoved ∨ p.fingerprint ≠ p.computeFingerprint))
    (.contextBoundary "corpus pack is not source-free or its fingerprint changed")
  forEach (fun _ m => CorpusMechanism.validate m) p.mechanisms ()

def writerProjection (p : SourceFreeCorpusPack Fp) : CoreResult (WriterCorpusProjection Fp) := do
  p.validate
  let projection : WriterCorpusProjection Fp :=
    { schema := "quillframe_writer_corpus_projection_v1", genre := p.genre
      mechanisms := p.mechanisms.map CorpusMechanism.writerMechanism
      rhythmSummary := p.rhythmSummary, styleGuidance := p.styleGuidance
      sourceFreePackFingerprint := p.fingerprint, evidenceAbsent := true
      fingerprint := Sha256.ofText "" }
  return { projection with fingerprint := projection.computeFingerprint }

end SourceFreeCorpusPack

end Quillframe.Corpus
