import Quillframe.BookSetup
import Quillframe.Continuity
import Quillframe.Planning

/-!
# Writer Packs with their documents

A Writer Pack whose plan lock and corpus projections are the typed documents, any of whose
fingerprint members may be an arbitrary text. `freeze` builds packs and `validate` reads stored
ones.
-/
namespace Quillframe

open Json (str int fp obj arr strings)

variable {Fp : Type}

/-! ## Checked documents -/

structure WriterCorpusMechanism where
  mechanismId : String
  readerNeed : String
  emotionChain : List String
  dramaticFunction : String
  replaceableSlots : List String
  forbiddenCopyElements : List String
  rhythmRefs : List String
  deriving DecidableEq, Repr

def WriterCorpusMechanism.toJson (m : WriterCorpusMechanism) : Json Fp :=
  obj [("mechanism_id", str m.mechanismId), ("reader_need", str m.readerNeed),
    ("emotion_chain", strings m.emotionChain), ("dramatic_function", str m.dramaticFunction),
    ("replaceable_slots", strings m.replaceableSlots),
    ("forbidden_copy_elements", strings m.forbiddenCopyElements),
    ("rhythm_refs", strings m.rhythmRefs)]

structure WriterCorpusProjection (Fp : Type) where
  schema : String
  genre : String
  mechanisms : List WriterCorpusMechanism
  rhythmSummary : String
  styleGuidance : List String
  sourceFreePackFingerprint : Fp
  evidenceAbsent : Bool
  fingerprint : Fp
  deriving DecidableEq

def WriterCorpusProjection.toJsonWith (p : WriterCorpusProjection Fp) (fingerprint : Json Fp) :
    Json Fp :=
  obj [("schema", str p.schema), ("genre", str p.genre),
    ("mechanisms", arr (p.mechanisms.map WriterCorpusMechanism.toJson)),
    ("rhythm_summary", str p.rhythmSummary), ("style_guidance", strings p.styleGuidance),
    ("source_free_pack_fingerprint", fp p.sourceFreePackFingerprint),
    ("evidence_absent", .bool p.evidenceAbsent), ("fingerprint", fingerprint)]

section Checks

variable [FingerprintText Fp]

def requireFingerprint (value : Fp) : CoreResult Unit :=
  require (FingerprintText.canonical value)
    (.invalidProject "fingerprint must be canonical sha256")

/-- `ChapterTrackingRecord::validate` of a record whose fingerprint may be any text. -/
def ChapterTrackingRecord.validateText (r : ChapterTrackingRecord Fp) : CoreResult Unit := do
  require (FingerprintText.canonical r.sourceCandidateFingerprint)
    (.invalidProject "chapter tracking record is incomplete")
  r.validate

/-- One layer of a plan lock whose fingerprints may be any texts. -/
def HierarchicalPlanLock.checkLayerText (above : Option String)
    (item : FrozenPlanLayer Fp × StoryKind) : CoreResult (Option String) := do
  require (FingerprintText.canonical item.1.proposalFingerprint)
    (.invalidPlan "frozen plan layer is incomplete or mismatched")
  checkLayer above item

variable [Sha256 Fp] [DecidableEq Fp]

def WriterCorpusProjection.computeFingerprint (p : WriterCorpusProjection Fp) : Fp :=
  Sha256.ofJson (p.toJsonWith (str ""))

def WriterCorpusProjection.validate (p : WriterCorpusProjection Fp) : CoreResult Unit := do
  requireFingerprint p.sourceFreePackFingerprint
  require (¬ (p.schema ≠ "quillframe_writer_corpus_projection_v1" ∨ ¬ p.evidenceAbsent ∨
      blank p.genre ∨ p.mechanisms = [] ∨ p.fingerprint ≠ p.computeFingerprint))
    (.contextBoundary "Writer corpus projection is incomplete or contains evidence")

namespace HierarchicalPlanLock

/-- `HierarchicalPlanLock::validate` of a lock whose fingerprints may be any texts. -/
def validateText (l : HierarchicalPlanLock Fp) : CoreResult Unit := do
  require (¬ (l.schema ≠ "quillframe_hierarchical_plan_lock_v2" ∨ l.layers.length ≠ 4))
    (.invalidPlan "hierarchical plan lock requires exactly book, volume, unit and chapter")
  let _ ← forEach checkLayerText (l.layers.zip levels) none
  require (l.fingerprint = l.computeFingerprint)
    (.authorityConflict "hierarchical plan lock fingerprint changed")

def chapterPlanText (l : HierarchicalPlanLock Fp) (chapterId : String) :
    CoreResult ChapterPlan := do
  l.validateText
  l.chapterPlan chapterId

end HierarchicalPlanLock

end Checks

/-! ## The pack -/

structure WriterPackValue (Fp : Type) where
  schema : String
  chapterId : String
  planLock : HierarchicalPlanLock Fp
  activePlanFingerprint : Fp
  bookSetupFingerprint : Fp
  contextFreezeFingerprint : Fp
  trackingFingerprint : Fp
  readerPressure : String
  scenes : List SceneWritingBrief
  continuityContext : List (WriterContinuityEntry Fp)
  corpusMechanisms : List (WriterCorpusProjection Fp)
  privateStateAbsent : Bool
  fingerprint : Fp
  deriving DecidableEq

namespace WriterPackValue

/-- The pack as it is stored, its documents serialised. -/
def stored (p : WriterPackValue Fp) : WriterPack Fp where
  schema := p.schema
  chapterId := p.chapterId
  planLock := p.planLock.toJson
  activePlanFingerprint := p.activePlanFingerprint
  bookSetupFingerprint := p.bookSetupFingerprint
  contextFreezeFingerprint := p.contextFreezeFingerprint
  trackingFingerprint := p.trackingFingerprint
  readerPressure := p.readerPressure
  scenes := p.scenes
  continuityContext := p.continuityContext
  corpusMechanisms := p.corpusMechanisms.map fun pack => pack.toJsonWith (fp pack.fingerprint)
  privateStateAbsent := p.privateStateAbsent
  fingerprint := p.fingerprint

variable [Sha256 Fp]

def computeFingerprint (p : WriterPackValue Fp) : Fp := p.stored.computeFingerprint

variable [FingerprintText Fp]

/-- One pass over the continuity entries: chapters seen and bytes used. -/
def checkContinuity (chapterId : String) (acc : List String × ℕ)
    (entry : WriterContinuityEntry Fp) : CoreResult (List String × ℕ) := do
  entry.record.validateText
  requireFingerprint entry.canonHeadFingerprint
  require (¬ (entry.record.chapterId = chapterId ∨ entry.record.chapterId ∈ acc.1))
    (.contextBoundary "Writer Pack continuity entries must be unique settled prior chapters")
  return (entry.record.chapterId :: acc.1, acc.2 + entry.toJson.encodedSize)

variable [DecidableEq Fp]

def freeze (chapterId : String) (planLock : HierarchicalPlanLock Fp)
    (bookSetupFingerprint contextFreezeFingerprint trackingFingerprint : Fp)
    (readerPressure : String) (continuityContext : List (WriterContinuityEntry Fp))
    (corpusMechanisms : List (WriterCorpusProjection Fp)) :
    CoreResult (WriterPackValue Fp) := do
  require (corpusMechanisms.length ≤ 4)
    (.contextBoundary "Writer Pack accepts zero to four source-free corpus packs")
  forEach (fun _ pack => pack.validate) corpusMechanisms ()
  require (continuityContext.length ≤ 12)
    (.contextBoundary "Writer Pack accepts at most twelve settled continuity entries")
  planLock.validateText
  let chapterPlan ← planLock.chapterPlanText chapterId
  let scenes := chapterPlan.scenes
  require (scenes ≠ []) (.invalidPlan "Writer Pack requires ordered scene briefs")
  let _ ← forEach WriterPack.checkScene scenes 1
  let layer ← fetch planLock.layers.getLast? (.invalidPlan "Writer Pack plan lock is empty")
  let value : WriterPackValue Fp :=
    { schema := "quillframe_writer_pack_v5", chapterId, planLock,
      activePlanFingerprint := layer.proposalFingerprint, bookSetupFingerprint,
      contextFreezeFingerprint, trackingFingerprint, readerPressure, scenes, continuityContext,
      corpusMechanisms, privateStateAbsent := true, fingerprint := trackingFingerprint }
  requireFingerprint value.activePlanFingerprint
  requireFingerprint value.bookSetupFingerprint
  requireFingerprint value.contextFreezeFingerprint
  requireFingerprint value.trackingFingerprint
  require (¬ (blank value.chapterId ∨ blank value.readerPressure))
    (.invalidPlan "Writer Pack lacks chapter identity or Reader Pressure")
  let (_, bytes) ← forEach (checkContinuity chapterId) continuityContext ([], 0)
  require (bytes ≤ 12 * 1024) (.contextBoundary "Writer Pack continuity context exceeds 12 KiB")
  return { value with fingerprint := value.computeFingerprint }

def validate (p : WriterPackValue Fp) : CoreResult Unit := do
  p.planLock.validateText
  let layer ← fetch p.planLock.layers.getLast?
    (.contextBoundary "Writer Pack plan lock has no chapter layer")
  let chapterPlan ← p.planLock.chapterPlanText p.chapterId
  require (¬ (p.schema ≠ "quillframe_writer_pack_v5" ∨ layer.target.nodeId ≠ p.chapterId ∨
      layer.proposalFingerprint ≠ p.activePlanFingerprint ∨
      ¬ FingerprintText.canonical p.bookSetupFingerprint ∨ p.scenes ≠ chapterPlan.scenes ∨
      ¬ p.privateStateAbsent ∨ p.fingerprint ≠ p.computeFingerprint))
    (.contextBoundary "Writer Pack contains private state or changed after freeze")

end WriterPackValue

/-! ## What a valid plan lock implies -/

section PlanLocks

variable [Sha256 Fp] [FingerprintText Fp] [DecidableEq Fp]

/-- Every item of a finished loop passed its step. -/
theorem forEach_each {ε α σ : Type} {step : σ → α → Except ε σ} {items : List α} {s t : σ}
    (h : forEach step items s = .ok t) : ∀ a ∈ items, ∃ u v, step u a = .ok v := by
  induction items generalizing s with
  | nil => simp
  | cons a rest ih =>
    obtain ⟨u, hu, hrest⟩ := bind_eq_ok.mp h
    intro b hb
    cases List.mem_cons.mp hb with
    | inl hhead => exact ⟨s, u, hhead ▸ hu⟩
    | inr htail => exact ih hrest b htail

theorem HierarchicalPlanLock.validateText_layers {l : HierarchicalPlanLock Fp} {u : Unit}
    (h : l.validateText = .ok u) : ∀ layer ∈ l.layers,
      FingerprintText.canonical layer.proposalFingerprint = true ∧ layer.validate = .ok () := by
  simp only [validateText, bind_eq_ok, require_eq_ok, exists_const, not_or, not_not] at h
  obtain ⟨⟨-, hlength⟩, last, hlayers, -⟩ := h
  intro layer hlayer
  have hzip : layer ∈ (l.layers.zip levels).map Prod.fst := by
    rw [List.map_fst_zip (by rw [hlength]; decide)]
    exact hlayer
  obtain ⟨item, hitem, rfl⟩ := List.mem_map.mp hzip
  obtain ⟨above, below, hcheck⟩ := forEach_each hlayers item hitem
  simp only [checkLayerText, checkLayer, bind_eq_ok, require_eq_ok, exists_const] at hcheck
  obtain ⟨hcanonical, checked, hvalid, -⟩ := hcheck
  exact ⟨hcanonical, hvalid⟩

theorem HierarchicalPlanLock.chapterPlanText_eq_ok {l : HierarchicalPlanLock Fp}
    {chapterId : String} {plan : ChapterPlan} (h : l.chapterPlanText chapterId = .ok plan) :
    l.validateText = .ok () ∧ ∃ layer, l.layers.getLast? = some layer ∧
      layer.target.nodeId = chapterId ∧ layer.body = .chapter plan := by
  simp only [chapterPlanText, chapterPlan, bind_eq_ok, require_eq_ok, fetch_eq_ok,
    exists_const] at h
  obtain ⟨checked, hvalid, _, -, layer, hlast, hnode, hbody⟩ := h
  refine ⟨hvalid, layer, hlast, hnode, ?_⟩
  split at hbody
  · rename_i body hchapter
    rw [hchapter, pure_eq_ok.mp hbody]
  · cases hbody

/-- Scene objectives that pass the plan's check pass the pack's. -/
theorem checkScene_of_checkObjective {scenes : List SceneWritingBrief} {n : ℕ}
    {seen : List String} {result : ℕ × List String}
    (h : forEach ChapterPlan.checkObjective scenes (n, seen) = .ok result) :
    forEach WriterPack.checkScene scenes n = .ok result.1 := by
  induction scenes generalizing n seen with
  | nil =>
    simp only [forEach, Except.ok.injEq] at h
    rw [← h, forEach]
  | cons scene rest ih =>
    obtain ⟨next, hnext, hrest⟩ := bind_eq_ok.mp h
    simp only [ChapterPlan.checkObjective, requireTexts, bind_eq_ok, require_eq_ok, exists_const,
      pure_eq_ok] at hnext
    obtain ⟨hordinal, htexts, -, rfl⟩ := hnext
    refine bind_eq_ok.mpr ⟨n + 1, ?_, ih hrest⟩
    simp only [WriterPack.checkScene, bind_eq_ok, require_eq_ok, exists_const, pure_eq_ok,
      and_true]
    rintro (hother | hblank | ⟨text, htext, hblank⟩)
    · exact hother hordinal
    · exact htexts ⟨scene.sceneId, List.mem_cons_self, hblank⟩
    · exact htexts ⟨text.2, List.mem_cons_of_mem _ (List.mem_map_of_mem htext), hblank⟩

theorem ChapterPlan.validate_scenes {plan : ChapterPlan} {u : Unit}
    (h : plan.validate = .ok u) :
    plan.scenes ≠ [] ∧ ∃ n, forEach WriterPack.checkScene plan.scenes 1 = .ok n := by
  simp only [validate, bind_eq_ok, require_eq_ok, exists_const] at h
  obtain ⟨_, -, _, -, _, -, hscenes, result, hloop, -⟩ := h
  exact ⟨hscenes, result.1, checkScene_of_checkObjective hloop⟩

end PlanLocks

/-! ## What each check accepts -/

namespace WriterPackValue

section Continuity

variable [FingerprintText Fp]

/-- The entries are complete, of distinct earlier chapters. -/
structure Settled (chapterId : String) (seen : List String)
    (continuity : List (WriterContinuityEntry Fp)) : Prop where
  entries : ∀ entry ∈ continuity, entry.record.validateText = .ok () ∧
    FingerprintText.canonical entry.canonHeadFingerprint = true
  distinct : (continuity.map (·.record.chapterId)).Nodup
  other : ∀ entry ∈ continuity, entry.record.chapterId ≠ chapterId ∧
    entry.record.chapterId ∉ seen

theorem checkContinuity_eq_ok {chapterId : String} {seen : List String} {bytes : ℕ}
    {entry : WriterContinuityEntry Fp} {result : List String × ℕ} :
    checkContinuity chapterId (seen, bytes) entry = .ok result ↔
      (entry.record.validateText = .ok () ∧
        FingerprintText.canonical entry.canonHeadFingerprint = true) ∧
      (entry.record.chapterId ≠ chapterId ∧ entry.record.chapterId ∉ seen) ∧
      result = (entry.record.chapterId :: seen, bytes + entry.toJson.encodedSize) := by
  simp only [checkContinuity, requireFingerprint, bind_eq_ok, require_eq_ok, exists_const,
    pure_eq_ok, not_or]
  constructor
  · rintro ⟨_, hrecord, hcanonical, hother, rfl⟩
    exact ⟨⟨hrecord, hcanonical⟩, hother, rfl⟩
  · rintro ⟨⟨hrecord, hcanonical⟩, hother, rfl⟩
    exact ⟨(), hrecord, hcanonical, hother, rfl⟩

/-- The pass over the entries succeeds on settled entries, and counts their bytes. -/
theorem checkContinuity_loop {chapterId : String} {seen : List String} {bytes total : ℕ}
    {continuity : List (WriterContinuityEntry Fp)} :
    (∃ chapters, forEach (checkContinuity chapterId) continuity (seen, bytes) =
      .ok (chapters, total)) ↔
      Settled chapterId seen continuity ∧ total = bytes + continuityBytes continuity := by
  induction continuity generalizing seen bytes with
  | nil =>
    have hnone : Settled chapterId seen ([] : List (WriterContinuityEntry Fp)) :=
      ⟨by simp, by simp, by simp⟩
    simp only [forEach, Except.ok.injEq, Prod.mk.injEq, hnone, true_and]
    constructor
    · rintro ⟨chapters, -, htotal⟩
      exact htotal.symm
    · intro htotal
      exact ⟨seen, rfl, htotal.symm⟩
  | cons entry rest ih =>
    have hsize : continuityBytes (entry :: rest) =
        entry.toJson.encodedSize + continuityBytes rest := by
      rw [continuityBytes, continuityBytes, Packing.total_cons]
    rw [hsize]
    constructor
    · rintro ⟨chapters, hloop⟩
      obtain ⟨next, hnext, hrest⟩ := bind_eq_ok.mp hloop
      obtain ⟨hentry, hother, rfl⟩ := checkContinuity_eq_ok.mp hnext
      obtain ⟨hsettled, htotal⟩ := ih.mp ⟨chapters, hrest⟩
      refine ⟨⟨?_, ?_, ?_⟩, by omega⟩
      · exact List.forall_mem_cons.mpr ⟨hentry, hsettled.entries⟩
      · refine List.nodup_cons.mpr ⟨fun hmem => ?_, hsettled.distinct⟩
        obtain ⟨later, hlater, hsame⟩ := List.mem_map.mp hmem
        exact (hsettled.other later hlater).2 (by simp [hsame])
      · refine List.forall_mem_cons.mpr ⟨hother, fun later hlater => ?_⟩
        obtain ⟨hchapter, hunseen⟩ := hsettled.other later hlater
        exact ⟨hchapter, fun hseen => hunseen (List.mem_cons_of_mem _ hseen)⟩
    · rintro ⟨hsettled, htotal⟩
      obtain ⟨hentry, hentries⟩ := List.forall_mem_cons.mp hsettled.entries
      obtain ⟨hfresh, hdistinct⟩ := List.nodup_cons.mp hsettled.distinct
      obtain ⟨hother, hothers⟩ := List.forall_mem_cons.mp hsettled.other
      have hrest : Settled chapterId (entry.record.chapterId :: seen) rest := by
        refine ⟨hentries, hdistinct, fun later hlater => ⟨(hothers later hlater).1, ?_⟩⟩
        rw [List.mem_cons, not_or]
        refine ⟨fun hsame => hfresh ?_, (hothers later hlater).2⟩
        exact List.mem_map.mpr ⟨later, hlater, hsame⟩
      have htail : total = bytes + entry.toJson.encodedSize + continuityBytes rest := by omega
      obtain ⟨chapters, hloop⟩ := ih.mpr ⟨hrest, htail⟩
      exact ⟨chapters, bind_eq_ok.mpr
        ⟨_, checkContinuity_eq_ok.mpr ⟨hentry, hother, rfl⟩, hloop⟩⟩

end Continuity

variable [Sha256 Fp] [FingerprintText Fp] [DecidableEq Fp]

/-- What `validate` makes sure of, and the chapter plan it reads. -/
structure Valid (p : WriterPackValue Fp) (layer : FrozenPlanLayer Fp) (plan : ChapterPlan) :
    Prop where
  planLock : p.planLock.validateText = .ok ()
  last : p.planLock.layers.getLast? = some layer
  chapterPlan : p.planLock.chapterPlanText p.chapterId = .ok plan
  schema : p.schema = "quillframe_writer_pack_v5"
  node : layer.target.nodeId = p.chapterId
  active : layer.proposalFingerprint = p.activePlanFingerprint
  setup : FingerprintText.canonical p.bookSetupFingerprint = true
  scenes : p.scenes = plan.scenes
  privateState : p.privateStateAbsent = true
  fingerprint : p.fingerprint = p.computeFingerprint

theorem validate_eq_ok {p : WriterPackValue Fp} :
    p.validate = .ok () ↔ ∃ layer plan, p.Valid layer plan := by
  simp only [validate, bind_eq_ok, require_eq_ok, fetch_eq_ok, not_or, not_not]
  constructor
  · rintro ⟨_, hlock, layer, hlast, plan, hplan, hschema, hnode, hactive, hsetup, hscenes,
      hprivate, hfingerprint⟩
    exact ⟨layer, plan, hlock, hlast, hplan, hschema, hnode, hactive, hsetup, hscenes, hprivate,
      hfingerprint⟩
  · rintro ⟨layer, plan, h⟩
    exact ⟨(), h.planLock, layer, h.last, plan, h.chapterPlan, h.schema, h.node, h.active, h.setup,
      h.scenes, h.privateState, h.fingerprint⟩

/-- What `freeze` makes sure of beyond `validate`. -/
structure WithinLimits (p : WriterPackValue Fp) : Prop where
  corpusCount : p.corpusMechanisms.length ≤ 4
  corpus : ∀ pack ∈ p.corpusMechanisms, pack.validate = .ok ()
  continuityCount : p.continuityContext.length ≤ 12
  continuity : Settled p.chapterId [] p.continuityContext
  bytes : continuityBytes p.continuityContext ≤ 12 * 1024
  context : FingerprintText.canonical p.contextFreezeFingerprint = true
  tracking : FingerprintText.canonical p.trackingFingerprint = true
  readerPressure : ¬ blank p.readerPressure

/-- `freeze` of a pack's own members. -/
def refreeze (p : WriterPackValue Fp) : CoreResult (WriterPackValue Fp) :=
  freeze p.chapterId p.planLock p.bookSetupFingerprint p.contextFreezeFingerprint
    p.trackingFingerprint p.readerPressure p.continuityContext p.corpusMechanisms

theorem freeze_eq_ok {chapterId : String} {planLock : HierarchicalPlanLock Fp}
    {setup context tracking : Fp} {readerPressure : String}
    {continuity : List (WriterContinuityEntry Fp)} {corpus : List (WriterCorpusProjection Fp)}
    {p : WriterPackValue Fp}
    (h : freeze chapterId planLock setup context tracking readerPressure continuity corpus =
      .ok p) :
    p.refreeze = .ok p ∧ p.WithinLimits ∧ ∃ layer plan, p.Valid layer plan := by
  have hfreeze := h
  simp only [freeze, requireFingerprint, bind_eq_ok, require_eq_ok, fetch_eq_ok, exists_const,
    Prod.exists, pure_eq_ok, forEach_unit_eq_ok, not_or] at h
  obtain ⟨hcorpusCount, hcorpus, hcount, checked, hlock, plan, hplan, hscenes, ordinal, hordered,
    layer, hlast, hactive, hsetup, hcontext, htracking, ⟨hchapter, hpressure⟩, chapters, bytes,
    hloop, hbytes, rfl⟩ := h
  obtain ⟨hsettled, htotal⟩ := checkContinuity_loop.mp ⟨chapters, hloop⟩
  obtain ⟨-, named, hnamed, hnode, -⟩ := HierarchicalPlanLock.chapterPlanText_eq_ok hplan
  have hsame : layer = named := by
    rw [hlast, Option.some.injEq] at hnamed
    exact hnamed
  refine ⟨hfreeze, ⟨hcorpusCount, hcorpus, hcount, hsettled, ?_, hcontext, htracking, hpressure⟩,
    layer, plan, ⟨hlock, hlast, hplan, rfl, ?_, rfl, hsetup, rfl, rfl, rfl⟩⟩
  · show continuityBytes continuity ≤ 12 * 1024
    omega
  · rw [hsame]
    exact hnode

/-- A valid pack is frozen again exactly when it stays inside the limits of a freeze. -/
theorem refreeze_iff {p : WriterPackValue Fp} {layer : FrozenPlanLayer Fp} {plan : ChapterPlan}
    (h : p.Valid layer plan) : p.refreeze = .ok p ↔ p.WithinLimits := by
  constructor
  · intro hfreeze
    exact (freeze_eq_ok hfreeze).2.1
  · intro hlimits
    have hlayer := List.mem_of_getLast? h.last
    obtain ⟨hcanonical, hvalid⟩ := HierarchicalPlanLock.validateText_layers h.planLock layer hlayer
    obtain ⟨-, named, hnamed, -, hbody⟩ := HierarchicalPlanLock.chapterPlanText_eq_ok h.chapterPlan
    have hsame : named = layer := by
      rw [h.last, Option.some.injEq] at hnamed
      exact hnamed.symm
    simp only [FrozenPlanLayer.validate, bind_eq_ok, require_eq_ok, exists_const, not_or] at hvalid
    obtain ⟨⟨-, -, -, hnode⟩, hplanned⟩ := hvalid
    rw [← hsame, hbody] at hplanned
    obtain ⟨hscenes, ordinal, hordered⟩ := ChapterPlan.validate_scenes hplanned
    have hvalue : ({ p with
        schema := "quillframe_writer_pack_v5"
        activePlanFingerprint := layer.proposalFingerprint
        scenes := plan.scenes
        privateStateAbsent := true
        fingerprint := p.trackingFingerprint } : WriterPackValue Fp) =
          { p with fingerprint := p.trackingFingerprint } := by
      rw [← h.schema, h.active, ← h.scenes, ← h.privateState]
    have hsealed : ({ p with fingerprint := p.computeFingerprint } : WriterPackValue Fp) = p := by
      rw [← h.fingerprint]
    have hchapter : ¬ blank p.chapterId := by
      rw [← h.node]
      exact hnode
    obtain ⟨chapters, hloop⟩ := checkContinuity_loop.mpr
      ⟨hlimits.continuity, (Nat.zero_add _).symm⟩
    simp only [refreeze, freeze, requireFingerprint, bind_eq_ok, require_eq_ok, fetch_eq_ok,
      exists_const, Prod.exists, pure_eq_ok, forEach_unit_eq_ok, not_or]
    refine ⟨hlimits.corpusCount, hlimits.corpus, hlimits.continuityCount, (), h.planLock, plan,
      h.chapterPlan, hscenes, ordinal, hordered, layer, h.last, hcanonical, h.setup,
      hlimits.context, hlimits.tracking, ⟨hchapter, hlimits.readerPressure⟩, chapters, _, hloop,
      hlimits.bytes, ?_⟩
    exact (congrArg (fun value : WriterPackValue Fp =>
      { value with fingerprint := value.computeFingerprint }) hvalue).trans hsealed

/-- Every frozen pack validates, and a pack that validates freezes to itself exactly when it is
within the limits of a freeze. -/
theorem validated_frozen_iff :
    (∀ p : WriterPackValue Fp, p.validate = .ok () → (p.refreeze = .ok p ↔ p.WithinLimits)) ∧
    ∀ (chapterId : String) (planLock : HierarchicalPlanLock Fp) (setup context tracking : Fp)
      (readerPressure : String) (continuity : List (WriterContinuityEntry Fp))
      (corpus : List (WriterCorpusProjection Fp)) (p : WriterPackValue Fp),
      freeze chapterId planLock setup context tracking readerPressure continuity corpus = .ok p →
        p.validate = .ok () := by
  constructor
  · intro p hvalidate
    obtain ⟨layer, plan, hvalid⟩ := validate_eq_ok.mp hvalidate
    exact refreeze_iff hvalid
  · intro chapterId planLock setup context tracking readerPressure continuity corpus p hfreeze
    exact validate_eq_ok.mpr (freeze_eq_ok hfreeze).2.2

end WriterPackValue

namespace Sample

def sceneBrief : SceneWritingBrief :=
  ⟨"s1", 1, "Lin", "gate", "in", "pass", "guard", "lie", "stay", "caught", "fear", "name", "out",
    "dread", "doubt"⟩

def chapterPlan : ChapterPlan where
  contract := ⟨"open", "Lin", "in", "out", ⟨"q", "r", "c", "k", "n", "next"⟩,
    ⟨⟨1, none, .words⟩, [], [], [], "gate", "next"⟩⟩
  scenes := [sceneBrief]

/-- A lock of the four levels above one chapter. -/
def typedPlanLock : HierarchicalPlanLock Digest :=
  let value : HierarchicalPlanLock Digest :=
    { schema := "quillframe_hierarchical_plan_lock_v2"
      layers := [⟨⟨"book:BOOK", "BOOK", .book⟩, "p1", 1, .tag 1, .book bookPlan⟩,
        ⟨⟨"volume:VOL001", "VOL001", .volume⟩, "p2", 1, .tag 2,
          .volume ⟨"v", "n", "o", [], "c", []⟩⟩,
        ⟨⟨"unit:UNIT001", "UNIT001", .unit⟩, "p3", 1, .tag 3,
          .unit ⟨"q", [], "r", "a", [], [], [], []⟩⟩,
        ⟨⟨"chapter:CH001", "CH001", .chapter⟩, "p4", 1, .tag 4, .chapter chapterPlan⟩]
      fingerprint := .tag 0 }
  { value with fingerprint := value.computeFingerprint }

/-- A sealed pack without continuity or corpus, under some reader pressure. -/
def pressedPack (readerPressure : String) : WriterPackValue Digest :=
  let value : WriterPackValue Digest :=
    { schema := "quillframe_writer_pack_v5", chapterId := "CH001", planLock := typedPlanLock,
      activePlanFingerprint := .tag 4, bookSetupFingerprint := .tag 5,
      contextFreezeFingerprint := .tag 6, trackingFingerprint := .tag 7, readerPressure,
      scenes := chapterPlan.scenes, continuityContext := [], corpusMechanisms := [],
      privateStateAbsent := true, fingerprint := .tag 0 }
  { value with fingerprint := value.computeFingerprint }

theorem pressedPack_validate :
    (pressedPack " ").validate = .ok () ∧ (pressedPack "more").validate = .ok () := by
  decide +kernel

end Sample

/-- A stored pack with a blank reader pressure validates, and no freeze returns it. -/
theorem validated_not_frozen :
    ¬ ∀ p : WriterPackValue Digest, p.validate = .ok () → p.refreeze = .ok p := by
  intro hall
  have hfreeze := hall _ Sample.pressedPack_validate.1
  revert hfreeze
  decide +kernel

theorem validated_frozen_iff_sample :
    (Sample.pressedPack "more").refreeze = .ok (Sample.pressedPack "more") ∧
      (Sample.pressedPack "more").validate = .ok () := by
  obtain ⟨hiff, hfrozen⟩ := @WriterPackValue.validated_frozen_iff Digest _ _ _
  have hrefreeze := (hiff _ Sample.pressedPack_validate.2).mpr
    ⟨by decide, by simp [Sample.pressedPack], by decide, ⟨by simp [Sample.pressedPack], by decide,
      by simp [Sample.pressedPack]⟩, by decide, by decide, by decide, by decide +kernel⟩
  exact ⟨hrefreeze, hfrozen _ _ _ _ _ _ _ _ _ hrefreeze⟩

end Quillframe
