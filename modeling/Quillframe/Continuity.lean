import Quillframe.ContextFreezes

/-!
# The continuity of a Writer Pack

A record may take 3072 bytes, a pack takes twelve records, and the entries of a pack together
may take 12 KiB.
-/
namespace Quillframe

open Packing
open Json (str int fp obj arr strings)

variable {Fp : Type}

/-- Each entry of a pack adds 110 bytes to the text of its record. -/
theorem WriterContinuityEntry.encodedSize_toJson (entry : WriterContinuityEntry Fp) :
    entry.toJson.encodedSize = entry.record.encodedSize + 110 := by
  have hrecord : Json.stringSize "record" = 8 := by decide
  have hhead : Json.stringSize "canon_head_fingerprint" = 24 := by decide
  simp only [toJson, Json.encodedSize, Json.membersSize, ChapterTrackingRecord.encodedSize,
    List.length_cons, List.length_nil, hrecord, hhead]
  omega

/-- The bytes of the entries of a pack. -/
def continuityBytes (continuity : List (WriterContinuityEntry Fp)) : ℕ :=
  total (fun entry : WriterContinuityEntry Fp => entry.toJson.encodedSize) continuity

theorem continuityBytes_eq (continuity : List (WriterContinuityEntry Fp)) :
    continuityBytes continuity =
      total ChapterTrackingRecord.encodedSize (continuity.map (·.record)) +
        110 * continuity.length := by
  induction continuity with
  | nil => rfl
  | cons entry rest ih =>
    rw [continuityBytes] at ih ⊢
    rw [total_cons, ih, entry.encodedSize_toJson, List.map_cons, total_cons, List.length_cons]
    omega

/-- The records of the window, with what each adds as an entry, stay inside the limit. -/
def TrackingState.WindowFits (tracking : TrackingState Fp) : Prop :=
  total ChapterTrackingRecord.encodedSize tracking.continuityWindow +
    110 * tracking.continuityWindow.length ≤ 12 * 1024

section

variable [DecidableEq Fp]

theorem continuityEntry_record {db : Database Fp} {tracking : TrackingState Fp}
    {record : ChapterTrackingRecord Fp} {entry : WriterContinuityEntry Fp}
    (h : db.continuityEntry tracking record = .ok entry) : entry.record = record := by
  simp only [Database.continuityEntry, bind_eq_ok, require_eq_ok, exists_const, fetch_eq_ok,
    pure_eq_ok] at h
  obtain ⟨-, canon, -, -, rfl⟩ := h
  rfl

section

variable [Documents Fp]

/-- Settled records of distinct chapters are all assembled. -/
theorem freezeRecord_loop_isOk {db : Database Fp} {tracking : TrackingState Fp}
    {records : List (ChapterTrackingRecord Fp)}
    {acc : List (ContextEntry Fp) × List (WriterContinuityEntry Fp)}
    (hsettled : ∀ record ∈ records, ∃ entry, db.continuityEntry tracking record = .ok entry)
    (hvisible : ∀ record ∈ records, ¬ blank (Documents.render record.toJson))
    (hdistinct : (acc.1.map (·.reference) ++
      records.map fun record => "tracking:" ++ record.chapterId).Nodup) :
    ∃ result, forEach (db.freezeRecord tracking) records acc = .ok result := by
  induction records generalizing acc with
  | nil => exact ⟨acc, rfl⟩
  | cons record rest ih =>
    obtain ⟨entry, hentry⟩ := hsettled record List.mem_cons_self
    have hrecord : entry.record = record := continuityEntry_record hentry
    have hreference : (continuityContextEntry entry).reference = "tracking:" ++ record.chapterId := by
      rw [← hrecord]
      rfl
    have hselect : ContextManifest.select acc.1 (continuityContextEntry entry) =
        .ok (acc.1 ++ [continuityContextEntry entry]) := by
      simp only [ContextManifest.select, bind_eq_ok, require_eq_ok, exists_const, pure_eq_ok,
        and_true]
      constructor
      · have hshown := hvisible record List.mem_cons_self
        rw [← hrecord] at hshown
        have hnamed : ¬ blank (continuityContextEntry entry).reference := by
          rw [hreference]
          simp [blank, isWhitespace]
        rintro (hblank | hblank | hblank | hblank)
        · exact hnamed hblank
        · exact hshown hblank
        · exact hblank rfl
        · exact hblank rfl
      · rw [hreference]
        rw [List.map_cons, List.nodup_append] at hdistinct
        intro hmem
        exact hdistinct.2.2 _ hmem _ List.mem_cons_self rfl
    have hstep : db.freezeRecord tracking acc record =
        .ok (acc.1 ++ [continuityContextEntry entry], acc.2 ++ [entry]) := by
      simp only [Database.freezeRecord, bind_eq_ok, pure_eq_ok]
      exact ⟨entry, hentry, _, hselect, rfl⟩
    obtain ⟨result, hresult⟩ : ∃ result, forEach (db.freezeRecord tracking) rest
        (acc.1 ++ [continuityContextEntry entry], acc.2 ++ [entry]) = .ok result :=
      ih (fun other hother => hsettled other (List.mem_cons_of_mem _ hother))
      (fun other hother => hvisible other (List.mem_cons_of_mem _ hother))
      (by simpa [hreference] using hdistinct)
    exact ⟨result, bind_eq_ok.mpr ⟨_, hstep, hresult⟩⟩

/-- The bytes of the entries that a freeze assembles. -/
theorem assembled_continuityBytes {view : PlanningView Fp} {chapterId : String} {lock : Json Fp}
    {db : Database Fp} {tracking : TrackingState Fp} {context selected : List (ContextEntry Fp)}
    {continuity : List (WriterContinuityEntry Fp)}
    (hplan : ContextManifest.select [] (planContextEntry chapterId view lock) = .ok context)
    (h : forEach (db.freezeRecord tracking) tracking.continuityWindow (context, []) =
      .ok (selected, continuity)) :
    continuityBytes continuity =
      total ChapterTrackingRecord.encodedSize tracking.continuityWindow +
        110 * tracking.continuityWindow.length := by
  have hfirst : context = [planContextEntry chapterId view lock] :=
    (ContextManifest.select_eq_ok hplan).1
  have hacc : context = planContextEntry chapterId view lock ::
      ([] : List (WriterContinuityEntry Fp)).map continuityContextEntry := by simp [hfirst]
  have hloop := Database.freezeRecord_loop h (.select _ .empty hplan) hacc
  have hrecords : continuity.map (·.record) = tracking.continuityWindow := by
    simpa using hloop.2.2
  have hlength : continuity.length = tracking.continuityWindow.length := by
    rw [← hrecords, List.length_map]
  rw [continuityBytes_eq, hrecords, hlength]

/-- The entries that a freeze assembles fit exactly when the records of the window do. -/
theorem assembled_continuity_fits_iff {view : PlanningView Fp} {chapterId : String}
    {lock : Json Fp} {db : Database Fp} {tracking : TrackingState Fp}
    {context selected : List (ContextEntry Fp)} {continuity : List (WriterContinuityEntry Fp)}
    (hplan : ContextManifest.select [] (planContextEntry chapterId view lock) = .ok context)
    (h : forEach (db.freezeRecord tracking) tracking.continuityWindow (context, []) =
      .ok (selected, continuity)) :
    continuityBytes continuity ≤ 12 * 1024 ↔ tracking.WindowFits := by
  rw [assembled_continuityBytes hplan h, TrackingState.WindowFits]

omit [DecidableEq Fp] [Documents Fp] in
/-- The pass over the entries of a pack counts their bytes. -/
theorem WriterPack.checkContinuity_loop {chapterId : String} {acc result : List String × ℕ}
    {continuity : List (WriterContinuityEntry Fp)}
    (h : forEach (WriterPack.checkContinuity chapterId) continuity acc = .ok result) :
    result.2 = acc.2 + continuityBytes continuity := by
  induction continuity generalizing acc with
  | nil =>
    simp only [forEach, Except.ok.injEq] at h
    rw [← h]
    rfl
  | cons entry rest ih =>
    obtain ⟨next, hnext, hrest⟩ := bind_eq_ok.mp h
    simp only [WriterPack.checkContinuity, bind_eq_ok, pure_eq_ok] at hnext
    obtain ⟨_, -, _, -, rfl⟩ := hnext
    rw [ih hrest, continuityBytes, continuityBytes, total_cons]
    omega

omit [DecidableEq Fp] in
theorem WriterPack.freeze_continuityBytes [Sha256 Fp] {chapterId : String} {planLock : Json Fp}
    {setup context tracking : Fp} {readerPressure : String}
    {continuity : List (WriterContinuityEntry Fp)} {corpus : List (Json Fp)}
    {pack : WriterPack Fp}
    (h : WriterPack.freeze chapterId planLock setup context tracking readerPressure continuity
      corpus = .ok pack) :
    continuityBytes continuity ≤ 12 * 1024 := by
  simp only [WriterPack.freeze, bind_eq_ok, require_eq_ok, Prod.exists] at h
  obtain ⟨_, -, _, -, _, -, _, -, _, -, _, -, _, -, _, _, -, _, -, chapters, bytes, hloop, _,
    hbytes, -⟩ := h
  have hcount := WriterPack.checkContinuity_loop hloop
  simp only [zero_add] at hcount
  rw [← hcount]
  exact hbytes

/-- No pack is frozen over a window that does not fit. -/
theorem freezeWriterPackForChapter_windowFits [Sha256 Fp] {view : PlanningView Fp}
    {chapterId createdAt : String} {db db' : Database Fp} {pack : WriterPack Fp}
    (h : freezeWriterPackForChapter view chapterId createdAt db = .ok (pack, db')) :
    ∃ tracking, db.loadTrackingState = .ok (some tracking) ∧ tracking.WindowFits := by
  simp only [freezeWriterPackForChapter, bind_eq_ok, fetch_eq_ok, Prod.exists] at h
  obtain ⟨_, -, lock, -, setup, -, loaded, hloaded, tracking, rfl, context, hplan, selected,
    continuity, hloop, freeze, -, frozen, hpack, -⟩ := h
  have hbytes := WriterPack.freeze_continuityBytes hpack
  rw [assembled_continuityBytes hplan hloop] at hbytes
  exact ⟨tracking, hloaded, hbytes⟩

end

end

/-! ## Records that do not fit together -/

namespace Sample

/-- A settled chapter whose net change is the given text. -/
def wideRecord (text chapterId : String) (readingOrder : ℕ) : ChapterTrackingRecord Digest where
  chapterId := chapterId
  readingOrder := readingOrder
  netChange := text
  openExpectations := []
  paidExpectations := []
  relationshipChanges := []
  stateChanges := []
  nextPull := "on"
  sourceCandidateFingerprint := .tag 1

theorem wideRecord_size (text chapterId : String) (readingOrder : ℕ) :
    (wideRecord text chapterId readingOrder).encodedSize =
      Json.stringSize text + Json.stringSize chapterId + Json.intSize readingOrder + 259 := by
  have hmembers : Json.membersSize
      [("open_expectations", strings []), ("paid_expectations", strings []),
        ("relationship_changes", strings []), ("state_changes", strings []),
        ("next_pull", str "on"), ("source_candidate_fingerprint", fp (Digest.tag 1))] = 207 := by
    decide
  have hid : Json.stringSize "chapter_id" = 12 := by decide
  have horder : Json.stringSize "reading_order" = 15 := by decide
  have hchange : Json.stringSize "net_change" = 12 := by decide
  simp only [ChapterTrackingRecord.encodedSize, ChapterTrackingRecord.toJson, wideRecord]
  rw [Json.encodedSize, Json.membersSize, Json.membersSize, Json.membersSize, hmembers, hid,
    horder, hchange]
  simp only [Json.encodedSize, List.length_cons, List.length_nil]
  omega

/-- The canon head that the record of a chapter was settled with. -/
def wideCanon (chapterId : String) : CanonRow Digest where
  stateKey := chapterRef chapterId
  value := obj [("content_fingerprint", fp (.tag 1))]
  authorityClass := "settled"
  evidenceRef := "settlement"
  contentFingerprint := .tag 1
  updatedAt := "t1"

def wideChapters : List String := ["CH005", "CH004", "CH003", "CH002", "CH001"]

def wideDatabase : Database Digest := { project with canonState := wideChapters.map wideCanon }

/-- Five settled chapters with the same net change. -/
def wideTracking (text : String) : TrackingState Digest :=
  TrackingState.refreshFingerprint
    { schema := "quillframe_tracking_state_v1", projectId := "novel", version := 5,
      chapters :=
        { entries := [("CH001", wideRecord text "CH001" 1), ("CH002", wideRecord text "CH002" 2),
            ("CH003", wideRecord text "CH003" 3), ("CH004", wideRecord text "CH004" 4),
            ("CH005", wideRecord text "CH005" 5)],
          sorted := (List.pairwise_map (f := Prod.fst) (R := (· < ·))).mp (show List.Pairwise (· < ·)
            ["CH001", "CH002", "CH003", "CH004", "CH005"] by decide +kernel) },
      characterSnapshots := .empty, invalidatedChapters := .empty, fingerprint := .tag 0 }

theorem wideTracking_window (text : String) : (wideTracking text).continuityWindow =
    [wideRecord text "CH005" 5, wideRecord text "CH004" 4, wideRecord text "CH003" 3,
      wideRecord text "CH002" 2, wideRecord text "CH001" 1] := by
  rfl

theorem wideRecord_validate {text chapterId : String} {readingOrder : ℕ}
    (hvisible : ¬ blank text) (hid : ¬ blank chapterId) (horder : readingOrder ≠ 0)
    (hsize : Json.stringSize text + Json.stringSize chapterId + Json.intSize readingOrder ≤ 2813) :
    (wideRecord text chapterId readingOrder).validate = .ok () := by
  simp only [ChapterTrackingRecord.validate, bind_eq_ok, require_eq_ok, exists_const]
  have hpull : ¬ blank "on" := by decide
  constructor
  · rintro (hblank | hblank | hblank | hblank)
    · exact hid hblank
    · exact horder hblank
    · exact hvisible hblank
    · exact hpull hblank
  · rw [wideRecord_size]
    exact Nat.add_le_add_right hsize 259

theorem wideTracking_validate {text : String} (hvisible : ¬ blank text)
    (hsize : Json.stringSize text ≤ 2800) : (wideTracking text).validate = .ok () := by
  simp only [TrackingState.validate, bind_eq_ok, require_eq_ok, exists_const,
    forEach_unit_eq_ok]
  refine ⟨?_, ?_, rfl⟩
  · have hrecord : ∀ chapterId ∈ wideChapters, ∀ order ∈ [1, 2, 3, 4, 5],
        (wideRecord text chapterId order).validate = .ok () := by
      intro chapterId hchapter order horder
      have hid : ¬ blank chapterId ∧ Json.stringSize chapterId = 7 := by
        revert chapterId
        decide +kernel
      have hnumber : order ≠ 0 ∧ Json.intSize order = 1 := by
        revert order
        decide +kernel
      exact wideRecord_validate hvisible hid.1 hnumber.1 (by omega)
    intro record hmem
    simp only [wideTracking, TrackingState.refreshFingerprint, OrderedMap.values, List.map_cons,
      List.map_nil, List.mem_cons, List.not_mem_nil, or_false] at hmem
    rcases hmem with rfl | rfl | rfl | rfl | rfl <;>
      exact hrecord _ (by decide +kernel) _ (by decide)
  · intro snapshot hsnapshot
    cases hsnapshot

theorem wideDatabase_settled (text : String) : ∀ record ∈ (wideTracking text).continuityWindow,
    ∃ entry, wideDatabase.continuityEntry (wideTracking text) record = .ok entry := by
  rw [wideTracking_window]
  intro record hrecord
  fin_cases hrecord
  · exact ⟨_, rfl⟩
  · exact ⟨_, rfl⟩
  · exact ⟨_, rfl⟩
  · exact ⟨_, rfl⟩
  · exact ⟨_, rfl⟩


/-- A text of `n + 1` letters. -/
def letters (n : ℕ) : String := String.ofList (List.replicate (n + 1) 'a')

theorem letters_size (n : ℕ) : Json.stringSize (letters n) = n + 3 := by
  have hletter : Json.charSize 'a' = 1 := by decide
  rw [Json.stringSize, letters, String.toList_ofList, List.map_replicate, List.sum_replicate,
    hletter]
  simp only [smul_eq_mul]
  omega

theorem letters_visible (n : ℕ) : ¬ blank (letters n) := by
  have hletter : isWhitespace 'a' = false := by decide
  rw [blank, letters, String.toList_ofList, List.replicate_succ, List.all_cons, hletter]
  simp

theorem wide_size (text : String) :
    total ChapterTrackingRecord.encodedSize (wideTracking text).continuityWindow =
      5 * Json.stringSize text + 1335 := by
  have hrecord : ∀ chapterId ∈ wideChapters, ∀ order ∈ [1, 2, 3, 4, 5],
      (wideRecord text chapterId order).encodedSize = Json.stringSize text + 267 := by
    intro chapterId hchapter order horder
    have hid : Json.stringSize chapterId = 7 := by
      revert chapterId
      decide +kernel
    have hnumber : Json.intSize order = 1 := by
      revert order
      decide +kernel
    rw [wideRecord_size, hid, hnumber]
  have hall : ∀ record ∈ (wideTracking text).continuityWindow,
      record.encodedSize = Json.stringSize text + 267 := by
    rw [wideTracking_window]
    intro record hmem
    fin_cases hmem <;> exact hrecord _ (by decide +kernel) _ (by decide)
  rw [total, List.map_congr_left hall, List.map_const', List.sum_replicate, wideTracking_window]
  simp only [List.length_cons, List.length_nil, smul_eq_mul]
  omega

theorem record_visible (record : ChapterTrackingRecord Digest) :
    ¬ blank (Documents.render record.toJson) := by
  obtain ⟨rest, hrest⟩ : ∃ rest, Documents.render record.toJson = "\x7b" ++ rest :=
    ⟨_, String.append_assoc⟩
  rw [hrest, blank, String.toList_append, List.all_append]
  have hstart : "\x7b".toList.all isWhitespace = false := by decide
  rw [hstart]
  simp

/-- The five entries are assembled for a sixth chapter. -/
theorem wide_assembled (text : String) : ∃ (context selected : List (ContextEntry Digest))
    (continuity : List (WriterContinuityEntry Digest)),
    ContextManifest.select [] (planContextEntry "CH006" view planLock) = .ok context ∧
    forEach (wideDatabase.freezeRecord (wideTracking text)) (wideTracking text).continuityWindow
      (context, []) = .ok (selected, continuity) := by
  have hplan : ContextManifest.select [] (planContextEntry "CH006" view planLock) =
      .ok [planContextEntry "CH006" view planLock] := by decide +kernel
  have hdistinct : (["active-plan-chain:" ++ "CH006"] ++ ["tracking:" ++ "CH005",
      "tracking:" ++ "CH004", "tracking:" ++ "CH003", "tracking:" ++ "CH002",
      "tracking:" ++ "CH001"]).Nodup := by decide +kernel
  obtain ⟨⟨selected, continuity⟩, hloop⟩ : ∃ result, forEach
      (wideDatabase.freezeRecord (wideTracking text)) (wideTracking text).continuityWindow
      ([planContextEntry "CH006" view planLock], []) = .ok result := freezeRecord_loop_isOk
    (wideDatabase_settled text) (fun record _ => record_visible record) (by
      rw [wideTracking_window]
      exact hdistinct)
  exact ⟨_, selected, continuity, hplan, hloop⟩

end Sample

theorem assembled_continuity_too_large :
    ¬ ∀ (view : PlanningView Digest) (chapterId : String) (lock : Json Digest)
      (db : Database Digest) (tracking : TrackingState Digest)
      (context selected : List (ContextEntry Digest))
      (continuity : List (WriterContinuityEntry Digest)),
      tracking.validate = .ok () →
      ContextManifest.select [] (planContextEntry chapterId view lock) = .ok context →
      forEach (db.freezeRecord tracking) tracking.continuityWindow (context, []) =
        .ok (selected, continuity) →
      continuityBytes continuity ≤ 12 * 1024 := by
  intro hall
  obtain ⟨context, selected, continuity, hplan, hloop⟩ :=
    Sample.wide_assembled (Sample.letters 2599)
  have hvalid := Sample.wideTracking_validate (Sample.letters_visible 2599)
    (by rw [Sample.letters_size]; omega)
  have hbytes := hall _ _ _ _ _ _ _ _ hvalid hplan hloop
  rw [assembled_continuityBytes hplan hloop, Sample.wide_size, Sample.letters_size,
    Sample.wideTracking_window] at hbytes
  revert hbytes
  decide

/-- The same five records with shorter texts fit. -/
theorem assembled_continuity_fits_iff_sample : ∃ (context selected : List (ContextEntry Digest))
    (continuity : List (WriterContinuityEntry Digest)),
    ContextManifest.select [] (planContextEntry "CH006" Sample.view Sample.planLock) =
      .ok context ∧
    forEach (Sample.wideDatabase.freezeRecord (Sample.wideTracking "on"))
      (Sample.wideTracking "on").continuityWindow (context, []) = .ok (selected, continuity) ∧
    continuityBytes continuity ≤ 12 * 1024 := by
  obtain ⟨context, selected, continuity, hplan, hloop⟩ := Sample.wide_assembled "on"
  refine ⟨context, selected, continuity, hplan, hloop, ?_⟩
  rw [assembled_continuity_fits_iff hplan hloop, TrackingState.WindowFits, Sample.wide_size,
    Sample.wideTracking_window]
  decide

end Quillframe
