import Quillframe.Packing
import Quillframe.Runs

/-!
# Context freezes

What a freeze keeps of a manifest, of a selection from it, and of the context that a Writer Pack
binds.
-/
namespace Quillframe

open Packing

variable {Fp : Type}

/-! ## Manifests -/

/-- The blind stages. -/
def ContextStage.Blind (stage : ContextStage) : Prop :=
  stage = .blindReader ∨ stage = .independentReview

/-- The bytes of its summary. -/
def ContextEntry.summaryBytes (entry : ContextEntry Fp) : ℕ := entry.summary.utf8ByteSize

/-- What the privacy rules of a stage allow. -/
structure ContextEntry.Admissible (stage : ContextStage) (entry : ContextEntry Fp) : Prop where
  noPrivateState : stage = .writer ∨ stage.Blind → entry.containsPrivateState = false
  noCorpusIdentity : stage.Blind → entry.containsCorpusIdentity = false

namespace ContextManifest

/-- The manifests that calls of `select` build; a refused entry leaves the manifest alone. -/
inductive Built : List (ContextEntry Fp) → Prop where
  | empty : Built []
  | select {entries next : List (ContextEntry Fp)} (entry : ContextEntry Fp) (h : Built entries)
      (hselect : ContextManifest.select entries entry = .ok next) : Built next

theorem select_eq_ok {entries next : List (ContextEntry Fp)} {entry : ContextEntry Fp}
    (h : select entries entry = .ok next) :
    next = entries ++ [entry] ∧ entry.byteSize = entry.summaryBytes ∧
      entry.reference ∉ entries.map (·.reference) := by
  simp only [select, bind_eq_ok, require_eq_ok, exists_const, pure_eq_ok, not_or, not_not] at h
  obtain ⟨⟨-, -, hsize, -⟩, hfresh, rfl⟩ := h
  exact ⟨rfl, hsize, hfresh⟩

/-- Sizes are exact and references are distinct. -/
theorem Built.exact {entries : List (ContextEntry Fp)} (h : Built entries) :
    (∀ entry ∈ entries, entry.byteSize = entry.summaryBytes) ∧
      (entries.map (·.reference)).Nodup := by
  induction h with
  | empty => simp
  | select entry _ hselect ih =>
    have hnext := select_eq_ok hselect
    rw [hnext.1]
    constructor
    · intro other hother
      cases List.mem_append.mp hother with
      | inl hold => exact ih.1 other hold
      | inr hnew =>
        rw [List.mem_singleton.mp hnew]
        exact hnext.2.1
    · rw [List.map_append, List.nodup_append]
      refine ⟨ih.2, by simp, ?_⟩
      intro a ha b hb hab
      rw [List.map_singleton, List.mem_singleton] at hb
      rw [hab, hb] at ha
      exact hnext.2.2 ha

/-! ## The loop -/

/-- The entries a stage may receive, in manifest order. -/
def allowed (stage : ContextStage) (entries : List (ContextEntry Fp)) : List (ContextEntry Fp) :=
  entries.filter fun entry => stage ∈ entry.allowedStages

theorem mem_allowed {stage : ContextStage} {entries : List (ContextEntry Fp)}
    {entry : ContextEntry Fp} :
    entry ∈ allowed stage entries ↔ entry ∈ entries ∧ stage ∈ entry.allowedStages := by
  simp [allowed]

/-- The loop adds the greedy cut of the allowed entries to what it has taken. -/
theorem freezeLoop_eq_ok {stage : ContextStage} {maxItems maxBytes : ℕ}
    {entries taken result : List (ContextEntry Fp)} {bytes totalBytes : ℕ}
    (h : freezeLoop stage maxItems maxBytes entries taken bytes = .ok (result, totalBytes))
    (hitems : taken.length ≤ maxItems) (hbytes : bytes ≤ maxBytes) :
    ∃ kept, kept = pack ContextEntry.byteSize (maxItems - taken.length) (maxBytes - bytes)
        (allowed stage entries) ∧
      result = taken ++ kept ∧ totalBytes = bytes + total ContextEntry.byteSize kept ∧
      ∀ entry ∈ kept, entry.Admissible stage := by
  induction entries generalizing taken bytes with
  | nil =>
    simp only [freezeLoop, pure_eq_ok, Prod.mk.injEq] at h
    refine ⟨[], ?_, by simp [h.1], by simp [h.2], by simp⟩
    simp [allowed, pack]
  | cons entry rest ih =>
    unfold freezeLoop at h
    by_cases hstage : stage ∉ entry.allowedStages
    · rw [if_pos hstage] at h
      have hallowed : allowed stage (entry :: rest) = allowed stage rest := by
        simp [allowed, hstage]
      rw [hallowed]
      exact ih h hitems hbytes
    · rw [if_neg hstage] at h
      split_ifs at h with hblind hwriter hfull
      · -- the loop breaks at the first entry over a budget
        simp only [pure_eq_ok, Prod.mk.injEq] at h
        refine ⟨[], ?_, by simp [h.1], by simp [h.2], by simp⟩
        have hallowed : allowed stage (entry :: rest) = entry :: allowed stage rest := by
          simp [allowed, not_not.mp hstage]
        rw [hallowed]
        cases hleft : maxItems - taken.length with
        | zero => rfl
        | succ left =>
          have hlarge : maxBytes - bytes < entry.byteSize := by omega
          simp [pack, hlarge]
      · have hroom : taken.length < maxItems := by omega
        have htaken : (taken ++ [entry]).length ≤ maxItems := by simp; omega
        have hkept : bytes + entry.byteSize ≤ maxBytes := by omega
        obtain ⟨kept, hpack, hresult, htotal, hprivate⟩ := ih h htaken hkept
        refine ⟨entry :: kept, ?_, by simp [hresult], by simp [htotal]; omega, ?_⟩
        · have hallowed : allowed stage (entry :: rest) = entry :: allowed stage rest := by
            simp [allowed, not_not.mp hstage]
          have hleft : maxItems - taken.length = (maxItems - (taken ++ [entry]).length) + 1 := by
            simp
            omega
          have hsize : ¬ maxBytes - bytes < entry.byteSize := by omega
          rw [hallowed, hleft, pack, if_neg hsize, hpack, Nat.sub_add_eq]
        · intro other hother
          cases List.mem_cons.mp hother with
          | inl hsame =>
            rw [hsame]
            constructor
            · rintro (hstage | hstage)
              · simpa [hstage] using hwriter
              · unfold ContextStage.Blind at hstage
                simp only [hstage, true_and, not_or] at hblind
                simpa using hblind.1
            · intro hstage
              unfold ContextStage.Blind at hstage
              simp only [hstage, true_and, not_or] at hblind
              simpa using hblind.2
          | inr hrest => exact hprivate other hrest

variable [Sha256 Fp] {entries : List (ContextEntry Fp)} {stage : ContextStage}
  {maxItems maxBytes : ℕ} {freeze : ContextFreeze Fp}

/-- A freeze of exact entries. -/
theorem freeze_eq_ok
    (hexact : ∀ entry ∈ entries, entry.byteSize = entry.summaryBytes)
    (h : ContextManifest.freeze entries stage maxItems maxBytes = .ok freeze) :
    IsPacked ContextEntry.summaryBytes maxItems maxBytes (allowed stage entries)
        freeze.entries ∧
      freeze.totalBytes = total ContextEntry.summaryBytes freeze.entries ∧
      ∀ entry ∈ freeze.entries, entry.Admissible stage := by
  simp only [ContextManifest.freeze, bind_eq_ok, require_eq_ok, exists_const, pure_eq_ok,
    Prod.exists] at h
  obtain ⟨-, taken, bytes, hloop, rfl⟩ := h
  obtain ⟨kept, hpack, hresult, htotal, hadmissible⟩ :=
    freezeLoop_eq_ok hloop (Nat.zero_le _) (Nat.zero_le _)
  have hallowed : ∀ entry ∈ allowed stage entries, entry.byteSize = entry.summaryBytes :=
    fun entry hentry => hexact entry (mem_allowed.mp hentry).1
  have hpacked : IsPacked ContextEntry.byteSize maxItems maxBytes (allowed stage entries) kept := by
    rw [hpack]
    exact isPacked_pack _ _ _
  have htaken : taken = kept := by simpa using hresult
  refine ⟨?_, ?_, ?_⟩
  · rw [htaken]
    exact hpacked.congr hallowed
  · have hsizes := total_congr fun entry hentry =>
      hallowed entry (hpacked.initial.subset hentry)
    simp only [htaken, htotal, hsizes, Nat.zero_add]
  · rw [htaken]
    exact hadmissible

end ContextManifest

section

variable [Sha256 Fp] {entries : List (ContextEntry Fp)} {stage : ContextStage}
  {maxItems maxBytes : ℕ} {freeze : ContextFreeze Fp}

/-- A freeze is the longest run of allowed entries that fits both budgets, each once and none
against the privacy rules of its stage. -/
theorem freeze_packs_allowed (hbuilt : ContextManifest.Built entries)
    (h : ContextManifest.freeze entries stage maxItems maxBytes = .ok freeze) :
    IsPacked ContextEntry.summaryBytes maxItems maxBytes (ContextManifest.allowed stage entries)
        freeze.entries ∧
      freeze.totalBytes = total ContextEntry.summaryBytes freeze.entries ∧
      (freeze.entries.map (·.reference)).Nodup ∧
      ∀ entry ∈ freeze.entries, entry.Admissible stage := by
  have hexact := hbuilt.exact
  have hfreeze := ContextManifest.freeze_eq_ok hexact.1 h
  have hsub : freeze.entries.Sublist entries :=
    hfreeze.1.initial.sublist.trans List.filter_sublist
  exact ⟨hfreeze.1, hfreeze.2.1, hexact.2.sublist (hsub.map _), hfreeze.2.2⟩

end

namespace Sample

/-- A ledger line for some stages. -/
def ledgerEntry (reference summary : String) (stages : List ContextStage) : ContextEntry Digest where
  reference := reference
  tier := .settledLedger
  fingerprint := .tag 7
  summary := summary
  byteSize := summary.utf8ByteSize
  sourceChapterId := none
  sourceHeadFingerprint := none
  allowedStages := stages
  containsManuscriptBody := false
  containsPrivateState := false
  containsCorpusIdentity := false

def firstEntry : ContextEntry Digest := ledgerEntry "ledger:one" "ab" [.writer, .continuity]

def plannedEntry : ContextEntry Digest := ledgerEntry "ledger:two" "x" [.planning]

def lastEntry : ContextEntry Digest := ledgerEntry "ledger:three" "cde" [.writer]

def ledgerManifest : List (ContextEntry Digest) := [firstEntry, plannedEntry, lastEntry]

theorem ledgerManifest_built : ContextManifest.Built ledgerManifest := by
  have hone : ContextManifest.Built [firstEntry] := .select firstEntry .empty (by decide +kernel)
  have htwo : ContextManifest.Built [firstEntry, plannedEntry] :=
    .select plannedEntry hone (by decide +kernel)
  exact .select lastEntry htwo (by decide +kernel)

end Sample

theorem freeze_packs_allowed_sample : ∃ freeze,
    ContextManifest.freeze Sample.ledgerManifest .writer 4 4 = .ok freeze ∧
      freeze.entries = [Sample.firstEntry] ∧
      IsPacked ContextEntry.summaryBytes 4 4
        (ContextManifest.allowed .writer Sample.ledgerManifest) freeze.entries := by
  refine ⟨_, rfl, by decide +kernel, ?_⟩
  exact (freeze_packs_allowed Sample.ledgerManifest_built rfl).1

/-! ## Selections -/

namespace ContextManifest

/-- One selected reference: new, known, and admitted to the manifest of the selection. -/
def selectReference (entries : List (ContextEntry Fp))
    (acc : List String × List (ContextEntry Fp)) (reference : String) :
    CoreResult (List String × List (ContextEntry Fp)) := do
  require (reference ∉ acc.1)
    (.contextBoundary "semantic context selected a reference twice")
  let entry ← fetch (entries.find? fun entry => entry.reference = reference)
    (.contextBoundary ("semantic context selected unknown reference " ++ reference))
  let manifest ← select acc.2 entry
  return (reference :: acc.1, manifest)

def freezeSelected [Sha256 Fp] (entries : List (ContextEntry Fp)) (stage : ContextStage)
    (selectedReferences : List String) (maxItems maxBytes : ℕ) :
    CoreResult (ContextFreeze Fp) := do
  if selectedReferences.isEmpty then
    require entries.isEmpty (.contextBoundary
      "semantic context selection is empty for a non-empty candidate set")
    ContextManifest.freeze entries stage maxItems maxBytes
  else
    let (_, manifest) ← forEach (selectReference entries) selectedReferences ([], [])
    ContextManifest.freeze manifest stage maxItems maxBytes

/-- A selection is a manifest of its own, in selection order. -/
theorem selectReference_loop {entries : List (ContextEntry Fp)} {references : List String}
    {acc result : List String × List (ContextEntry Fp)}
    (h : forEach (selectReference entries) references acc = .ok result)
    (hbuilt : Built acc.2) (hknown : ∀ entry ∈ acc.2, entry ∈ entries) :
    Built result.2 ∧ (∀ entry ∈ result.2, entry ∈ entries) ∧
      result.2.map (·.reference) = acc.2.map (·.reference) ++ references := by
  induction references generalizing acc with
  | nil =>
    simp only [forEach, Except.ok.injEq] at h
    rw [← h]
    exact ⟨hbuilt, hknown, by simp⟩
  | cons reference rest ih =>
    obtain ⟨next, hnext, hrest⟩ := bind_eq_ok.mp h
    simp only [selectReference, bind_eq_ok, require_eq_ok, fetch_eq_ok, exists_const,
      pure_eq_ok] at hnext
    obtain ⟨-, entry, hentry, manifest, hselect, rfl⟩ := hnext
    have hmanifest := select_eq_ok hselect
    have hreference : entry.reference = reference := by
      simpa using List.find?_some hentry
    have hmem : entry ∈ entries := List.mem_of_find?_eq_some hentry
    have hall : ∀ other ∈ manifest, other ∈ entries := by
      intro other hother
      rw [hmanifest.1] at hother
      cases List.mem_append.mp hother with
      | inl hold => exact hknown other hold
      | inr hnew =>
        rw [List.mem_singleton.mp hnew]
        exact hmem
    have hfinal := ih hrest (.select entry hbuilt hselect) hall
    refine ⟨hfinal.1, hfinal.2.1, ?_⟩
    rw [hfinal.2.2, hmanifest.1]
    simp [hreference]

/-- Nothing is left out of a packed selection exactly when all of it is allowed and fits. -/
theorem packed_complete_iff {stage : ContextStage} {maxItems maxBytes : ℕ}
    {chosen kept : List (ContextEntry Fp)}
    (h : IsPacked ContextEntry.summaryBytes maxItems maxBytes (allowed stage chosen) kept) :
    kept = chosen ↔ (∀ entry ∈ chosen, stage ∈ entry.allowedStages) ∧
      Fits ContextEntry.summaryBytes maxItems maxBytes chosen := by
  constructor
  · intro heq
    rw [heq] at h
    refine ⟨fun entry hentry => ?_, h.fits⟩
    exact (mem_allowed.mp (h.initial.subset hentry)).2
  · intro hall
    have hallowed : allowed stage chosen = chosen :=
      List.filter_eq_self.mpr fun entry hentry => by simpa using hall.1 entry hentry
    rw [hallowed] at h
    exact h.eq_iff.mpr hall.2

end ContextManifest

section

variable [Sha256 Fp] {entries : List (ContextEntry Fp)} {stage : ContextStage}
  {references : List String} {maxItems maxBytes : ℕ} {freeze : ContextFreeze Fp}

/-- The freeze of a selection packs the entries that the references name. -/
theorem freezeSelected_eq_ok (h : ContextManifest.freezeSelected entries stage references maxItems
      maxBytes = .ok freeze) :
    ∃ chosen, ContextManifest.Built chosen ∧ chosen.map (·.reference) = references ∧
      (∀ entry ∈ chosen, entry ∈ entries) ∧
      ContextManifest.freeze chosen stage maxItems maxBytes = .ok freeze := by
  unfold ContextManifest.freezeSelected at h
  by_cases hempty : references.isEmpty
  · rw [if_pos hempty] at h
    simp only [bind_eq_ok, require_eq_ok, exists_const, List.isEmpty_iff] at h hempty
    obtain ⟨rfl, hfreeze⟩ := h
    exact ⟨[], .empty, by simp [hempty], by simp, hfreeze⟩
  · rw [if_neg hempty] at h
    simp only [bind_eq_ok, Prod.exists] at h
    obtain ⟨seen, manifest, hloop, hfreeze⟩ := h
    have hselected := ContextManifest.selectReference_loop hloop .empty (by simp)
    exact ⟨manifest, hselected.1, by simpa using hselected.2.2, hselected.2.1, hfreeze⟩

/-- Every selected reference is in the freeze exactly when all selected entries are allowed at
the stage and fit the budgets. -/
theorem freezeSelected_complete_iff (h : ContextManifest.freezeSelected entries stage references
      maxItems maxBytes = .ok freeze) :
    ∃ chosen, chosen.map (·.reference) = references ∧ (∀ entry ∈ chosen, entry ∈ entries) ∧
      IsPacked ContextEntry.summaryBytes maxItems maxBytes
        (ContextManifest.allowed stage chosen) freeze.entries ∧
      (freeze.entries.map (·.reference) = references ↔
        (∀ entry ∈ chosen, stage ∈ entry.allowedStages) ∧
          Fits ContextEntry.summaryBytes maxItems maxBytes chosen) := by
  obtain ⟨chosen, hbuilt, hreferences, hknown, hfreeze⟩ := freezeSelected_eq_ok h
  have hpacked := (ContextManifest.freeze_eq_ok hbuilt.exact.1 hfreeze).1
  refine ⟨chosen, hreferences, hknown, hpacked, ?_⟩
  rw [← ContextManifest.packed_complete_iff hpacked, ← hreferences]
  constructor
  · intro hsame
    have hsub : freeze.entries.Sublist chosen :=
      hpacked.initial.sublist.trans List.filter_sublist
    have hlength := congrArg List.length hsame
    simp only [List.length_map] at hlength
    exact hsub.eq_of_length hlength
  · intro hsame
    rw [hsame]

end

/-! ## The context of a Writer Pack -/

section

variable [Sha256 Fp] [DecidableEq Fp] [Documents Fp]

/-- What a Writer Pack is meant to see: the plan chain, then every continuity record. -/
@[grind =] def packContext (view : PlanningView Fp) (lock : Json Fp) (pack : WriterPack Fp) :
    List (ContextEntry Fp) :=
  planContextEntry pack.chapterId view lock ::
    pack.continuityContext.map continuityContextEntry

omit [Sha256 Fp] [DecidableEq Fp] in
theorem packContext_writer {view : PlanningView Fp} {lock : Json Fp} {pack : WriterPack Fp} :
    ∀ entry ∈ packContext view lock pack, ContextStage.writer ∈ entry.allowedStages := by
  intro entry hentry
  rw [packContext, List.mem_cons, List.mem_map] at hentry
  obtain rfl | ⟨record, -, rfl⟩ := hentry
  · exact List.mem_singleton_self _
  · exact List.mem_singleton_self _

omit [Sha256 Fp] in
/-- The loop over the records selects one context entry for each continuity entry. -/
theorem Database.freezeRecord_loop {db : Database Fp} {tracking : TrackingState Fp}
    {records : List (ChapterTrackingRecord Fp)}
    {acc result : List (ContextEntry Fp) × List (WriterContinuityEntry Fp)}
    (h : forEach (db.freezeRecord tracking) records acc = .ok result)
    {plan : ContextEntry Fp} (hbuilt : ContextManifest.Built acc.1)
    (hacc : acc.1 = plan :: acc.2.map continuityContextEntry) :
    ContextManifest.Built result.1 ∧ result.1 = plan :: result.2.map continuityContextEntry ∧
      result.2.map (·.record) = acc.2.map (·.record) ++ records := by
  induction records generalizing acc with
  | nil =>
    simp only [forEach, Except.ok.injEq] at h
    rw [← h]
    exact ⟨hbuilt, hacc, by simp⟩
  | cons record rest ih =>
    obtain ⟨next, hnext, hrest⟩ := bind_eq_ok.mp h
    simp only [Database.freezeRecord, bind_eq_ok, pure_eq_ok] at hnext
    obtain ⟨entry, hentry, context, hselect, rfl⟩ := hnext
    have hrecord : entry.record = record := by
      simp only [Database.continuityEntry, bind_eq_ok, require_eq_ok, exists_const, fetch_eq_ok,
        pure_eq_ok] at hentry
      obtain ⟨-, canon, -, -, rfl⟩ := hentry
      rfl
    have hcontext := ContextManifest.select_eq_ok hselect
    have hfinal := ih hrest (.select _ hbuilt hselect) (by simp [hcontext.1, hacc])
    refine ⟨hfinal.1, hfinal.2.1, ?_⟩
    rw [hfinal.2.2]
    simp [hrecord]

omit [DecidableEq Fp] in
theorem WriterPack.freeze_context {chapterId : String} {planLock : Json Fp}
    {setup context tracking : Fp} {readerPressure : String}
    {continuity : List (WriterContinuityEntry Fp)} {corpus : List (Json Fp)}
    {pack : WriterPack Fp}
    (h : WriterPack.freeze chapterId planLock setup context tracking readerPressure continuity
      corpus = .ok pack) :
    pack.contextFreezeFingerprint = context := by
  simp only [WriterPack.freeze, bind_eq_ok, pure_eq_ok] at h
  obtain ⟨_, -, _, -, _, -, _, -, _, -, _, -, _, -, _, -, _, -, _, -, _, -, rfl⟩ := h
  rfl

/-- The freeze that a pack binds, and the manifest it was taken from. -/
theorem freezeWriterPackForChapter_context {view : PlanningView Fp} {chapterId createdAt : String}
    {pack : WriterPack Fp} {db db' : Database Fp}
    (h : freezeWriterPackForChapter view chapterId createdAt db = .ok (pack, db')) :
    ∃ lock freeze, view.planLock = .ok lock ∧
      ContextManifest.Built (packContext view lock pack) ∧ pack.continuityContext.length ≤ 12 ∧
      ContextManifest.freeze (packContext view lock pack) .writer 16 (12 * 1024) = .ok freeze ∧
      pack.contextFreezeFingerprint = freeze.fingerprint := by
  simp only [freezeWriterPackForChapter, bind_eq_ok, fetch_eq_ok, pure_eq_ok, Prod.exists,
    Prod.mk.injEq] at h
  obtain ⟨_, -, lock, hlock, setup, -, loaded, -, tracking, -, context, hcontext, selected,
    continuity, hcontinuity, freeze, hfreeze, frozen, hpack, _, saved, -, rfl, rfl⟩ := h
  have hplan := ContextManifest.select_eq_ok hcontext
  have hacc : context = planContextEntry chapterId view lock ::
      ([] : List (WriterContinuityEntry Fp)).map continuityContextEntry := by simp [hplan.1]
  have hloop := Database.freezeRecord_loop hcontinuity (.select _ .empty hcontext) hacc
  have hfields := WriterPack.freeze_eq_ok hpack
  have hmanifest : selected = packContext view lock frozen := by
    have hselected : selected = planContextEntry chapterId view lock ::
        continuity.map continuityContextEntry := hloop.2.1
    rw [hselected, packContext, hfields.1, hfields.2.2]
  rw [hmanifest] at hloop hfreeze
  have hlength := congrArg List.length hloop.2.2
  have hwindow : tracking.continuityWindow.length ≤ 12 := List.length_take_le _ _
  simp only [List.map_nil, List.nil_append, List.length_map, ← hfields.2.2] at hlength
  exact ⟨lock, freeze, hlock, hloop.1, by omega, hfreeze, WriterPack.freeze_context hpack⟩

omit [Sha256 Fp] [DecidableEq Fp] in
/-- At most thirteen entries: only the bytes of the texts can leave one out. -/
theorem fits_packContext {view : PlanningView Fp} {lock : Json Fp} {pack : WriterPack Fp}
    (h : pack.continuityContext.length ≤ 12) :
    Fits ContextEntry.summaryBytes 16 (12 * 1024) (packContext view lock pack) ↔
      (Documents.render lock).utf8ByteSize + total (fun entry : WriterContinuityEntry Fp =>
        (Documents.render entry.record.toJson).utf8ByteSize) pack.continuityContext ≤
          12 * 1024 := by
  have hlength : (packContext view lock pack).length ≤ 16 := by
    simp only [packContext, List.length_cons, List.length_map]
    omega
  have htotal : total ContextEntry.summaryBytes (packContext view lock pack) =
      (Documents.render lock).utf8ByteSize + total (fun entry : WriterContinuityEntry Fp =>
        (Documents.render entry.record.toJson).utf8ByteSize) pack.continuityContext := by
    have hrecords : (pack.continuityContext.map continuityContextEntry).map
        ContextEntry.summaryBytes = pack.continuityContext.map
          fun entry => (Documents.render entry.record.toJson).utf8ByteSize := by
      rw [List.map_map]
      rfl
    rw [packContext, total, List.map_cons, List.sum_cons, hrecords]
    rfl
  rw [Fits, htotal]
  exact and_iff_right hlength

/-- A selection, and the context of a pack, are cut to the longest prefix that fits. Nothing is
left out exactly when everything is allowed at the stage and stays inside the budgets. -/
theorem selected_context_complete_iff :
    (∀ (entries : List (ContextEntry Fp)) (stage : ContextStage) (references : List String)
        (maxItems maxBytes : ℕ) (freeze : ContextFreeze Fp),
      ContextManifest.freezeSelected entries stage references maxItems maxBytes = .ok freeze →
      ∃ chosen, chosen.map (·.reference) = references ∧ (∀ entry ∈ chosen, entry ∈ entries) ∧
        IsPacked ContextEntry.summaryBytes maxItems maxBytes
          (ContextManifest.allowed stage chosen) freeze.entries ∧
        (freeze.entries.map (·.reference) = references ↔
          (∀ entry ∈ chosen, stage ∈ entry.allowedStages) ∧
            Fits ContextEntry.summaryBytes maxItems maxBytes chosen)) ∧
    ∀ (view : PlanningView Fp) (chapterId createdAt : String) (db db' : Database Fp)
        (pack : WriterPack Fp),
      freezeWriterPackForChapter view chapterId createdAt db = .ok (pack, db') →
      ∃ lock freeze, view.planLock = .ok lock ∧
        ContextManifest.freeze (packContext view lock pack) .writer 16 (12 * 1024) = .ok freeze ∧
        pack.contextFreezeFingerprint = freeze.fingerprint ∧
        IsPacked ContextEntry.summaryBytes 16 (12 * 1024) (packContext view lock pack)
          freeze.entries ∧
        (freeze.entries = packContext view lock pack ↔
          (Documents.render lock).utf8ByteSize + total (fun entry : WriterContinuityEntry Fp =>
            (Documents.render entry.record.toJson).utf8ByteSize) pack.continuityContext ≤
              12 * 1024) := by
  constructor
  · intro entries stage references maxItems maxBytes freeze h
    exact freezeSelected_complete_iff h
  · intro view chapterId createdAt db db' pack h
    obtain ⟨lock, freeze, hlock, hbuilt, hlength, hfreeze, hbound⟩ :=
      freezeWriterPackForChapter_context h
    have hallowed : ContextManifest.allowed .writer (packContext view lock pack) =
        packContext view lock pack :=
      List.filter_eq_self.mpr fun entry hentry => by simpa using packContext_writer entry hentry
    have hpacked := (ContextManifest.freeze_eq_ok hbuilt.exact.1 hfreeze).1
    rw [hallowed] at hpacked
    have hcomplete := hpacked.eq_iff.trans (fits_packContext hlength)
    exact ⟨lock, freeze, hlock, hfreeze, hbound, hpacked, hcomplete⟩

end

/-- Two selected lines of five bytes, a budget of four: the second one is gone. -/
theorem selected_reference_dropped :
    ¬ ∀ (entries : List (ContextEntry Digest)) (stage : ContextStage) (references : List String)
      (maxItems maxBytes : ℕ) (freeze : ContextFreeze Digest),
      ContextManifest.freezeSelected entries stage references maxItems maxBytes = .ok freeze →
      freeze.entries.map (·.reference) = references := by
  intro hall
  have hdropped := hall Sample.ledgerManifest .writer ["ledger:one", "ledger:three"] 4 4 _ rfl
  revert hdropped
  decide +kernel

theorem selected_context_complete_iff_sample :
    (∃ freeze : ContextFreeze Digest,
      ContextManifest.freezeSelected Sample.ledgerManifest .writer
        ["ledger:three", "ledger:one"] 4 8 = .ok freeze ∧
      freeze.entries.map (·.reference) = ["ledger:three", "ledger:one"] ∧
      ∃ chosen : List (ContextEntry Digest),
        chosen.map (·.reference) = ["ledger:three", "ledger:one"] ∧
        IsPacked ContextEntry.summaryBytes 4 8 (ContextManifest.allowed .writer chosen)
          freeze.entries) ∧
    ∃ (lock : Json Digest) (freeze : ContextFreeze Digest), Sample.view.planLock = .ok lock ∧
      Sample.pack.contextFreezeFingerprint = freeze.fingerprint ∧
      IsPacked ContextEntry.summaryBytes 16 (12 * 1024)
        (packContext Sample.view lock Sample.pack) freeze.entries := by
  constructor
  · refine ⟨_, rfl, by decide +kernel, ?_⟩
    obtain ⟨chosen, hreferences, -, hpacked, -⟩ :=
      selected_context_complete_iff.1 Sample.ledgerManifest .writer
        ["ledger:three", "ledger:one"] 4 8 _ rfl
    exact ⟨chosen, hreferences, hpacked⟩
  · obtain ⟨lock, freeze, hlock, -, hbound, hpacked, -⟩ :=
      selected_context_complete_iff.2 _ _ _ _ _ _ Sample.freeze_project
    exact ⟨lock, freeze, hlock, hbound, hpacked⟩

end Quillframe
