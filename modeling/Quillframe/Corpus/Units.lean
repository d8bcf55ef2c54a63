import Quillframe.Corpus.Chapters
import Quillframe.Corpus.Selection
import Quillframe.Repair

/-!
# Extraction units

The chapters of a work are handed out in units of at most 192 KiB. A unit is named by a key that
the input of its stage is read back from.
-/
namespace Quillframe.Corpus

open Utf8

variable {Fp : Type}

/-! ## Stage units -/

/-- The inner loop: the end of a unit, over the chapters from the end so far on. -/
def unitEnd (startByte : ℕ) : ℕ → List (ChapterBoundary Fp) → ℕ
  | stop, [] => stop
  | stop, boundary :: rest =>
    if boundary.endByte - startByte ≤ 192 * 1024 then unitEnd startByte (stop + 1) rest else stop

/-- The outer loop; `none` is a loop that has not ended. -/
def unitRanges (boundaries : List (ChapterBoundary Fp)) : ℕ → ℕ → Option (List (ℕ × ℕ))
  | fuel, start =>
    match boundaries[start]? with
    | none => some []
    | some first =>
      match fuel with
      | 0 => none
      | fuel + 1 =>
        let stop := unitEnd first.startByte (start + 1) (boundaries.drop (start + 1))
        (unitRanges boundaries fuel stop).map ((start, stop) :: ·)

def unitKey (workId : String) (range : ℕ × ℕ) : String :=
  workId ++ ":" ++ toString range.1 ++ ":" ++ toString range.2

/-- A row of a scanned work. -/
structure WorkVersion (Fp : Type) where
  relativeRef : String
  sourceFingerprint : Fp
  boundaries : List (ChapterBoundary Fp)

/-- What the stages read of the database and the collection on disk. -/
structure CorpusView (Fp : Type) where
  confirmedSelection : CoreResult (List CorpusWorkProjection)
  version : String → CoreResult (WorkVersion Fp)
  file : String → CoreResult ByteArray
  called : String → Bool

def workUnits (workId : String) (boundaries : List (ChapterBoundary Fp)) : Option (List String) :=
  (unitRanges boundaries boundaries.length 0).map (·.map (unitKey workId))

def CorpusView.pushUnits (view : CorpusView Fp) (units : List String)
    (item : CorpusWorkProjection) : Outcome (List String) := do
  let version ← raise (view.version item.workId)
  let more ← fetch (workUnits item.workId version.boundaries) .panicked
  return units ++ more

def CorpusView.stageUnits (view : CorpusView Fp) (stage : AnalyzeStage) :
    Outcome (List String) := do
  if stage ≠ .goldenThree ∧ stage ≠ .chapterExtraction ∧ stage ≠ .storyEntities then
    return ["all"]
  else
    let items ← raise view.confirmedSelection
    if stage ≠ .chapterExtraction then return items.map (·.workId)
    else forEach view.pushUnits items []

/-! ## Stage input -/

/-- The parts of a text in front of and behind the last occurrence of a character. -/
def rsplitOnce (c : Char) : List Char → Option (List Char × List Char)
  | [] => none
  | d :: rest =>
    match rsplitOnce c rest with
    | some (front, last) => some (d :: front, last)
    | none => if d = c then some ([], rest) else none

/-- `text.rsplitn(3, ':')`. -/
def rsplitn3 (text : List Char) : List (List Char) :=
  match rsplitOnce ':' text with
  | none => [text]
  | some (front, last) =>
    match rsplitOnce ':' front with
    | none => [last, front]
    | some (rest, middle) => [last, middle, rest]

/-- The digits of a number behind its sign. -/
def unsigned : List Char → List Char
  | '+' :: rest => rest
  | text => text

/-- `text.parse::<usize>()`. -/
def parseUsize (text : List Char) : Option ℕ :=
  let digits := unsigned text
  if digits ≠ [] ∧ digits.all Char.isDigit ∧ Nat.ofDigitChars 10 digits 0 < 2 ^ 64 then
    some (Nat.ofDigitChars 10 digits 0)
  else none

def parseUnit (unit : String) : CoreResult (ℕ × ℕ) :=
  match rsplitn3 unit.toList with
  | [stop, start, _] => do
    let startIndex ← fetch (parseUsize start) (.storage "invalid chapter start")
    let endIndex ← fetch (parseUsize stop) (.storage "invalid chapter end")
    pure (startIndex, endIndex)
  | _ => .error (.storage "invalid chapter extraction unit")

/-- `&bytes[start..stop]`. -/
def byteSlice (bytes : ByteArray) (start stop : ℕ) : Option ByteArray :=
  if start ≤ stop ∧ stop ≤ bytes.size then some (bytes.extract start stop) else none

/-- `raw.strip_prefix(&[0xef, 0xbb, 0xbf]).unwrap_or(&raw)`. -/
def stripMark (raw : ByteArray) : ByteArray :=
  if raw.data.toList.take 3 = [0xef, 0xbb, 0xbf] then raw.extract 3 raw.size else raw

structure UnitInput (Fp : Type) where
  anonymousWorkId : String
  chapters : String
  remainingUnitKeys : List String
  evidence : List (EvidenceAnchor Fp)

/-- The first part of a unit in front of a colon. -/
def unitWork (unit : String) : String := String.ofList (unit.toList.takeWhile (· ≠ ':'))

section Input

variable [DecidableEq Fp] (sha256 : ByteArray → Fp)

/-- The anchor of a chapter. -/
def chapterAnchor (workId : String) (bytes : ByteArray) (boundary : ChapterBoundary Fp) :
    Outcome (EvidenceAnchor Fp) := do
  let excerpt ← fetch (byteSlice bytes boundary.startByte boundary.endByte) .panicked
  return {
    workId
    chapter := boundary.chapter
    startByte := boundary.startByte
    endByte := boundary.endByte
    excerptFingerprint := sha256 excerpt }

/-- The excerpt of the chapters of a range, with their anchors. -/
def readChapters (workId : String) (bytes : ByteArray) (boundaries : List (ChapterBoundary Fp))
    (range : ℕ × ℕ) : Outcome (String × List (EvidenceAnchor Fp)) := do
  let chosen ← fetch (subslice boundaries range) .panicked
  let first ← fetch chosen.head? .panicked
  let last ← fetch chosen.getLast? .panicked
  let window ← fetch (byteSlice bytes first.startByte last.endByte) .panicked
  let excerpt ← fetch (String.fromUTF8? window)
    (.failed (.storage "Corpus excerpt lost UTF-8 boundaries"))
  let evidence ← chosen.mapM (chapterAnchor sha256 workId bytes)
  return (excerpt, evidence)

/-- The branch of `stage_input` for the stages that read chapters. -/
def CorpusView.chapterInput (view : CorpusView Fp) (stage : AnalyzeStage) (unit : String) :
    Outcome (UnitInput Fp) := do
  let items ← raise view.confirmedSelection
  let workId := unitWork unit
  raise (require (∃ item ∈ items, item.workId = workId)
    (.authorityConflict "Corpus stage unit is outside the confirmed selection"))
  let version ← raise (view.version workId)
  let raw ← raise (view.file version.relativeRef)
  let bytes := stripMark raw
  raise (require (sha256 bytes = version.sourceFingerprint)
    (.authorityConflict "Corpus source changed after scan"))
  let range ← if stage = .goldenThree then pure (0, min version.boundaries.length 3)
    else raise (parseUnit unit)
  let (chapters, evidence) ← readChapters sha256 workId bytes version.boundaries range
  let remainingUnitKeys ←
    if stage = .chapterExtraction then do
      let units ← view.stageUnits stage
      pure (((units.filter (· ≠ unit)).filter fun candidate => ¬ view.called candidate).take 64)
    else pure []
  return { anonymousWorkId := workId, chapters, remainingUnitKeys, evidence }

end Input

/-! ## Units tile the chapters -/

section Tiling

variable {boundaries : List (ChapterBoundary Fp)}

/-- A unit of several chapters keeps the budget. -/
def FitsUnit (boundaries : List (ChapterBoundary Fp)) (range : ℕ × ℕ) : Prop :=
  range.2 = range.1 + 1 ∨ ∃ first last, boundaries[range.1]? = some first ∧
    boundaries[range.2 - 1]? = some last ∧ last.endByte - first.startByte ≤ 192 * 1024

theorem unitEnd_spec (startByte stop : ℕ) (rest : List (ChapterBoundary Fp)) :
    stop ≤ unitEnd startByte stop rest ∧ unitEnd startByte stop rest ≤ stop + rest.length ∧
      (unitEnd startByte stop rest = stop ∨ ∃ last,
        rest[unitEnd startByte stop rest - stop - 1]? = some last ∧
          last.endByte - startByte ≤ 192 * 1024) := by
  induction rest generalizing stop with
  | nil => simp [unitEnd]
  | cons boundary rest ih =>
    rw [unitEnd]
    split_ifs with hfits
    · obtain ⟨hlow, hhigh, hlast⟩ := ih (stop + 1)
      refine ⟨by omega, by rw [List.length_cons]; omega, .inr ?_⟩
      by_cases hend : unitEnd startByte (stop + 1) rest = stop + 1
      · exact ⟨boundary, by simp [hend], hfits⟩
      · obtain ⟨last, hlast, hbytes⟩ := hlast.resolve_left hend
        refine ⟨last, ?_, hbytes⟩
        have hindex : unitEnd startByte (stop + 1) rest - stop - 1 =
            (unitEnd startByte (stop + 1) rest - (stop + 1) - 1) + 1 := by omega
        rw [hindex, List.getElem?_cons_succ]
        exact hlast
    · simp

theorem unitRanges_spec (boundaries : List (ChapterBoundary Fp)) {fuel start : ℕ}
    (hstart : start ≤ boundaries.length) (hfuel : boundaries.length ≤ start + fuel) :
    ∃ ranges, unitRanges boundaries fuel start = some ranges ∧
      Spans Prod.fst Prod.snd start ranges boundaries.length ∧
      ∀ range ∈ ranges, FitsUnit boundaries range := by
  induction fuel generalizing start with
  | zero =>
    have hend : start = boundaries.length := by omega
    subst hend
    refine ⟨[], ?_, .nil _, by simp⟩
    rw [unitRanges, List.getElem?_eq_none le_rfl]
  | succ fuel ih =>
    rw [unitRanges]
    cases hfirst : boundaries[start]? with
    | none =>
      have hend : start = boundaries.length := by
        have hlong := List.getElem?_eq_none_iff.mp hfirst
        omega
      subst hend
      exact ⟨[], rfl, .nil _, by simp⟩
    | some first =>
      have hlt : start < boundaries.length := (List.getElem?_eq_some_iff.mp hfirst).1
      obtain ⟨hlow, hhigh, hlast⟩ :=
        unitEnd_spec first.startByte (start + 1) (boundaries.drop (start + 1))
      set stop := unitEnd first.startByte (start + 1) (boundaries.drop (start + 1)) with hstop
      rw [List.length_drop] at hhigh
      have hmore : boundaries.length ≤ stop + fuel := by omega
      obtain ⟨ranges, hranges, hspans, hfit⟩ := ih (by omega) hmore
      refine ⟨(start, stop) :: ranges, ?_, ?_, ?_⟩
      · simp only [← hstop, hranges, Option.map_some]
      · exact .cons_of_eq rfl rfl hlow hspans
      · refine List.forall_mem_cons.mpr ⟨?_, hfit⟩
        rcases hlast with hsingle | ⟨last, hlast, hbytes⟩
        · exact .inl hsingle
        · by_cases hsingle : stop = start + 1
          · exact .inl hsingle
          · refine .inr ⟨first, last, hfirst, ?_, hbytes⟩
            rw [List.getElem?_drop] at hlast
            have hindex : start + 1 + (stop - (start + 1) - 1) = stop - 1 := by omega
            rw [hindex] at hlast
            exact hlast

end Tiling

/-! ## Keys are read back -/

section Keys

theorem rsplitOnce_append {c : Char} {last : List Char} (hlast : c ∉ last) (front : List Char) :
    rsplitOnce c (front ++ c :: last) = some (front, last) := by
  have hnone : ∀ text : List Char, c ∉ text → rsplitOnce c text = none := by
    intro text
    induction text with
    | nil => intro _; rfl
    | cons d rest ih =>
      intro hnot
      have hd : d ≠ c := fun he => hnot (by simp [he])
      rw [rsplitOnce, ih fun hmem => hnot (List.mem_cons_of_mem _ hmem)]
      simp [hd]
  induction front with
  | nil => simp [rsplitOnce, hnone last hlast]
  | cons d front ih => simp [rsplitOnce, ih]

theorem colon_notMem_toDigits (n : ℕ) : ':' ∉ Nat.toDigits 10 n := by
  intro h
  have hdigit := Nat.isDigit_of_mem_toDigits (by decide) (by decide) h
  exact absurd hdigit (by decide)

theorem parseUsize_toDigits {n : ℕ} (hn : n < 2 ^ 64) : parseUsize (Nat.toDigits 10 n) = some n := by
  have hdigits : ∀ c ∈ Nat.toDigits 10 n, c.isDigit = true := fun c hc =>
    Nat.isDigit_of_mem_toDigits (by decide) (by decide) hc
  have hvalue : Nat.ofDigitChars 10 (Nat.toDigits 10 n) 0 = n := Nat.ofDigitChars_ten_toDigits
  have hunsigned : unsigned (Nat.toDigits 10 n) = Nat.toDigits 10 n := by
    rw [unsigned]
    intro rest hplus
    have hbad := hdigits '+' (by simp [hplus])
    exact absurd hbad (by decide)
  rw [parseUsize, hunsigned]
  simp only [hvalue]
  rw [if_pos]
  refine ⟨Nat.toDigits_ne_nil, ?_, hn⟩
  exact List.all_eq_true.mpr hdigits

theorem unitKey_toList (workId : String) (range : ℕ × ℕ) :
    (unitKey workId range).toList = (workId.toList ++ ':' :: Nat.toDigits 10 range.1) ++
      ':' :: Nat.toDigits 10 range.2 := by
  simp [unitKey, Nat.toString_eq_repr, Nat.repr]

/-- A key is read back to its range, whatever the id of the work. -/
theorem parseUnit_unitKey (workId : String) {range : ℕ × ℕ} (hstart : range.1 < 2 ^ 64)
    (hstop : range.2 < 2 ^ 64) : parseUnit (unitKey workId range) = .ok range := by
  have hsplit : rsplitn3 (unitKey workId range).toList =
      [Nat.toDigits 10 range.2, Nat.toDigits 10 range.1, workId.toList] := by
    rw [rsplitn3, unitKey_toList, rsplitOnce_append (colon_notMem_toDigits _)]
    simp only [rsplitOnce_append (colon_notMem_toDigits _)]
  rw [parseUnit, hsplit]
  simp only [parseUsize_toDigits hstart, parseUsize_toDigits hstop]
  rfl

theorem unitWork_unitKey {workId : String} (hcolon : ':' ∉ workId.toList) (range : ℕ × ℕ) :
    unitWork (unitKey workId range) = workId := by
  have hfront : (unitKey workId range).toList.takeWhile (· ≠ ':') = workId.toList := by
    rw [unitKey_toList, List.append_assoc, List.cons_append, List.takeWhile_append_of_pos]
    · simp
    · intro c hc
      have hne : c ≠ ':' := fun he => hcolon (he ▸ hc)
      simpa using hne
  rw [unitWork, hfront, String.ofList_toList]

end Keys

/-! ## Reading a unit -/

section Reading

variable {text : List Char} {boundaries : List (ChapterBoundary Fp)} {range : ℕ × ℕ}

theorem size_utf8Encode (text : List Char) : text.utf8Encode.size = byteLength text := by
  induction text with
  | nil => rfl
  | cons c rest ih =>
    rw [List.utf8Encode_cons, ByteArray.size_append, ih, byteLength_cons, List.utf8Encode_singleton]
    simp

/-- What stands between two characters is read as text. -/
theorem byteSlice_utf8Encode {start stop : ℕ} (hstart : AtCharacter text start)
    (hstop : AtCharacter text stop) (hle : start ≤ stop) :
    ∃ piece : List Char, byteSlice text.utf8Encode start stop = some piece.utf8Encode := by
  obtain ⟨front, behind, htext, rfl⟩ := hstart
  obtain ⟨front', rest, htext', rfl⟩ := hstop
  have hpre : front <+: text := ⟨behind, htext.symm⟩
  have hpre' : front' <+: text := ⟨rest, htext'.symm⟩
  have hshort : front.length ≤ front'.length := by
    by_contra hlong
    have hlt := byteLength_lt hpre' hpre (not_le.mp hlong)
    omega
  obtain ⟨piece, rfl⟩ := List.prefix_of_prefix_length_le hpre hpre' hshort
  refine ⟨piece, ?_⟩
  have hsize : byteLength (front ++ piece) ≤ text.utf8Encode.size := by
    rw [size_utf8Encode, htext', byteLength_append (front ++ piece)]
    omega
  rw [byteSlice, if_pos ⟨hle, hsize⟩, htext', List.append_assoc, List.utf8Encode_append,
    List.utf8Encode_append, byteLength_append]
  have hslice : (front.utf8Encode ++ (piece.utf8Encode ++ rest.utf8Encode)).extract
      (byteLength front + 0) (byteLength front + byteLength piece) =
        (piece.utf8Encode ++ rest.utf8Encode).extract 0 (byteLength piece) :=
    ByteArray.extract_append_size_add' (size_utf8Encode front).symm
  rw [Nat.add_zero] at hslice
  rw [hslice, ByteArray.extract_append_eq_left (size_utf8Encode piece).symm]

theorem fromUTF8?_utf8Encode (piece : List Char) :
    ∃ excerpt, String.fromUTF8? piece.utf8Encode = some excerpt ∧
      excerpt.toByteArray = piece.utf8Encode := by
  refine ⟨_, dif_pos ByteArray.isValidUTF8_utf8Encode, rfl⟩

theorem mapM_eq_ok {α β ε : Type} {f : α → Except ε β} {g : α → β} {items : List α}
    (h : ∀ a ∈ items, f a = .ok (g a)) : items.mapM f = .ok (items.map g) := by
  induction items with
  | nil => rfl
  | cons a rest ih =>
    have hrest := ih fun b hb => h b (List.mem_cons_of_mem _ hb)
    simp [List.mapM_cons, h a List.mem_cons_self, hrest, bind, Except.bind, pure, Except.pure]

variable (sha256 : ByteArray → Fp)

/-- The anchor of a chapter of a text. -/
def anchorOf (workId : String) (bytes : ByteArray) (b : ChapterBoundary Fp) : EvidenceAnchor Fp :=
  ⟨workId, b.chapter, b.startByte, b.endByte, sha256 (bytes.extract b.startByte b.endByte)⟩

/-- The chapters of a range are read without a panic. -/
theorem readChapters_eq_ok (workId : String) (htiles : Tiles text boundaries)
    (hnonempty : range.1 < range.2) (hinside : range.2 ≤ boundaries.length) :
    ∃ excerpt first last, readChapters sha256 workId text.utf8Encode boundaries range =
        .ok (excerpt, ((boundaries.take range.2).drop range.1).map
          (anchorOf sha256 workId text.utf8Encode)) ∧
      boundaries[range.1]? = some first ∧ boundaries[range.2 - 1]? = some last ∧
      excerpt.toByteArray = text.utf8Encode.extract first.startByte last.endByte := by
  obtain ⟨begin, -, hspans⟩ := htiles.covers
  set chosen := (boundaries.take range.2).drop range.1 with hchosen
  have hsub : subslice boundaries range = some chosen := if_pos ⟨hnonempty.le, hinside⟩
  have hmem : ∀ b ∈ chosen, b ∈ boundaries := fun b hb =>
    List.mem_of_mem_take (List.mem_of_mem_drop hb)
  have hlength : chosen.length = range.2 - range.1 := by
    rw [hchosen, List.length_drop, List.length_take]
    omega
  -- the first and the last chapter of the range
  obtain ⟨first, hfirst⟩ : ∃ first, chosen.head? = some first := by
    cases hnil : chosen with
    | nil =>
      rw [hnil, List.length_nil] at hlength
      omega
    | cons first _ => exact ⟨first, rfl⟩
  obtain ⟨last, hlast⟩ : ∃ last, chosen.getLast? = some last := by
    have hne : chosen ≠ [] := fun hnil => by simp [hnil] at hfirst
    exact ⟨_, List.getLast?_eq_some_getLast hne⟩
  have hfirstmem := hmem first (List.mem_of_mem_head? hfirst)
  have hlastmem := hmem last (List.mem_of_getLast? hlast)
  have hordered : first.startByte ≤ last.endByte := by
    rw [← List.take_append_drop range.2 boundaries] at hspans
    obtain ⟨_, htaken, -⟩ := hspans.of_append
    rw [← List.take_append_drop range.1 (boundaries.take range.2)] at htaken
    obtain ⟨_, -, hrange⟩ := htaken.of_append
    rw [hrange.start_eq hfirst, hrange.stop_eq hlast]
    exact hrange.le
  obtain ⟨piece, hpiece⟩ := byteSlice_utf8Encode (htiles.aligned first hfirstmem).1
    (htiles.aligned last hlastmem).2 hordered
  obtain ⟨excerpt, hexcerpt, hbytes⟩ := fromUTF8?_utf8Encode piece
  have hanchors : chosen.mapM (chapterAnchor sha256 workId text.utf8Encode) =
      .ok (chosen.map (anchorOf sha256 workId text.utf8Encode)) := by
    apply mapM_eq_ok
    intro b hb
    have hbounds := hspans.bounds (hmem b hb)
    have hslice : byteSlice text.utf8Encode b.startByte b.endByte =
        some (text.utf8Encode.extract b.startByte b.endByte) := by
      apply if_pos
      rw [size_utf8Encode]
      omega
    simp [chapterAnchor, hslice, fetch, anchorOf, bind, Except.bind, pure, Except.pure]
  refine ⟨excerpt, first, last, ?_, ?_, ?_, ?_⟩
  · simp [readChapters, hsub, hfirst, hlast, hpiece, hexcerpt, hanchors, fetch, bind, Except.bind,
      pure, Except.pure]
  · rw [List.head?_drop, List.getElem?_take_of_lt hnonempty] at hfirst
    exact hfirst
  · have hindex : range.1 + (range.2 - range.1 - 1) = range.2 - 1 := by omega
    rw [List.getLast?_eq_getElem?, hlength, hchosen, List.getElem?_drop, hindex,
      List.getElem?_take_of_lt (by omega)] at hlast
    exact hlast
  · rw [byteSlice] at hpiece
    split_ifs at hpiece
    rw [hbytes, Option.some.inj hpiece]

end Reading

/-! ## Units of scanned works -/

section Scanned

variable {sha256 : ByteArray → Fp} {view : CorpusView Fp} {items : List CorpusWorkProjection}

/-- A work as its scan stored it, under an id of `work_` and hexadecimal digits, with a file that
still holds the text. -/
structure CorpusView.Holds (sha256 : ByteArray → Fp) (view : CorpusView Fp) (workId : String)
    (version : WorkVersion Fp) (text : List Char) : Prop where
  plain : ':' ∉ workId.toList
  visible : ¬ text.all isWhitespace = true
  small : byteLength text ≤ maxWorkBytes
  stored : view.version workId = .ok version
  fingerprint : version.sourceFingerprint = sha256 text.utf8Encode
  boundaries : chapterBoundaries text version.sourceFingerprint = .ok version.boundaries
  file : ∃ raw, view.file version.relativeRef = .ok raw ∧ stripMark raw = text.utf8Encode

variable {workId : String} {version : WorkVersion Fp} {text : List Char}

theorem CorpusView.Holds.tiles (h : view.Holds sha256 workId version text) :
    Tiles text version.boundaries := by
  obtain ⟨boundaries, hcut, htiles⟩ :=
    exists_chapterBoundaries h.visible h.small version.sourceFingerprint
  rw [h.boundaries, Except.ok.injEq] at hcut
  exact hcut ▸ htiles

theorem CorpusView.Holds.length_lt (h : view.Holds sha256 workId version text) :
    version.boundaries.length < 2 ^ 64 := by
  obtain ⟨_, -, hspans⟩ := h.tiles.covers
  have hlength := hspans.length_le
  have hsmall := h.small
  rw [maxWorkBytes] at hsmall
  omega

theorem exists_workUnits (workId : String) (boundaries : List (ChapterBoundary Fp)) :
    ∃ ranges, workUnits workId boundaries = some (ranges.map (unitKey workId)) ∧
      Spans Prod.fst Prod.snd 0 ranges boundaries.length ∧
      ∀ range ∈ ranges, FitsUnit boundaries range := by
  have hfuel : boundaries.length ≤ 0 + boundaries.length := by omega
  obtain ⟨ranges, hranges, hspans, hfit⟩ :=
    unitRanges_spec boundaries (Nat.zero_le _) hfuel
  exact ⟨ranges, by rw [workUnits, hranges, Option.map_some], hspans, hfit⟩

/-- A unit of a selected work with its range. -/
def IsUnit (sha256 : ByteArray → Fp) (view : CorpusView Fp) (items : List CorpusWorkProjection)
    (unit : String) : Prop :=
  ∃ item ∈ items, ∃ version text range, view.Holds sha256 item.workId version text ∧
    unit = unitKey item.workId range ∧ range.1 < range.2 ∧ range.2 ≤ version.boundaries.length

theorem exists_stageUnits (hselection : view.confirmedSelection = .ok items)
    (hworks : ∀ item ∈ items, ∃ version text, view.Holds sha256 item.workId version text) :
    ∃ units, view.stageUnits .chapterExtraction = .ok units ∧
      ∀ unit ∈ units, IsUnit sha256 view items unit := by
  have hloop : ∃ units, forEach view.pushUnits items [] = .ok units ∧
      ∀ unit ∈ units, IsUnit sha256 view items unit := by
    refine forEach_succeeds ?_ (by simp)
    intro item hitem units hunits
    obtain ⟨version, text, hholds⟩ := hworks item hitem
    obtain ⟨ranges, hranges, hspans, -⟩ := exists_workUnits item.workId version.boundaries
    refine ⟨units ++ ranges.map (unitKey item.workId), ?_, ?_⟩
    · simp [CorpusView.pushUnits, hholds.stored, hranges, fetch]
    · intro unit hunit
      rcases List.mem_append.mp hunit with hold | hnew
      · exact hunits unit hold
      · obtain ⟨range, hrange, rfl⟩ := List.mem_map.mp hnew
        have hbounds := hspans.bounds hrange
        exact ⟨item, hitem, version, text, range, hholds, rfl, hbounds.2.1, hbounds.2.2⟩
  obtain ⟨units, hunits, hall⟩ := hloop
  exact ⟨units, by simp [CorpusView.stageUnits, hselection, hunits], hall⟩

variable [DecidableEq Fp]

/-- The input of a unit is read from the chapters that its key names. -/
theorem exists_chapterInput (hselection : view.confirmedSelection = .ok items)
    (hworks : ∀ item ∈ items, ∃ version text, view.Holds sha256 item.workId version text)
    {item : CorpusWorkProjection} (hitem : item ∈ items)
    (hholds : view.Holds sha256 item.workId version text) {range : ℕ × ℕ}
    (hnonempty : range.1 < range.2) (hinside : range.2 ≤ version.boundaries.length) :
    ∃ input first last, view.chapterInput sha256 .chapterExtraction (unitKey item.workId range) =
        .ok input ∧ input.anonymousWorkId = item.workId ∧
      version.boundaries[range.1]? = some first ∧ version.boundaries[range.2 - 1]? = some last ∧
      input.chapters.toByteArray = text.utf8Encode.extract first.startByte last.endByte ∧
      input.evidence = ((version.boundaries.take range.2).drop range.1).map
        (anchorOf sha256 item.workId text.utf8Encode) := by
  obtain ⟨units, hunits, -⟩ := exists_stageUnits hselection hworks
  obtain ⟨raw, hraw, hstrip⟩ := hholds.file
  obtain ⟨excerpt, first, last, hread, hfirst, hlast, hbytes⟩ :=
    readChapters_eq_ok sha256 item.workId hholds.tiles hnonempty hinside
  have hlength := hholds.length_lt
  have hparse : parseUnit (unitKey item.workId range) = .ok range :=
    parseUnit_unitKey item.workId (by omega) (by omega)
  have hselected : ∃ other ∈ items, other.workId = item.workId := ⟨item, hitem, rfl⟩
  let remaining := ((units.filter (· ≠ unitKey item.workId range)).filter fun candidate =>
    ¬ view.called candidate).take 64
  refine ⟨⟨item.workId, excerpt, remaining, _⟩, first, last, ?_, rfl, hfirst, hlast, hbytes, rfl⟩
  · simp [CorpusView.chapterInput, hselection, unitWork_unitKey hholds.plain, hselected,
      hholds.stored, hraw, hstrip, hholds.fingerprint, hparse, hread, hunits, raise, require, bind,
      Except.bind, pure, Except.pure, remaining]

/-- Chapters tile every text, units tile the chapters of every work, and every key is read back to
the range it was printed from. -/
theorem chapters_and_units (sha256 : ByteArray → Fp) :
    (∀ (text : List Char) (sourceFingerprint : Fp), ¬ text.all isWhitespace = true →
      byteLength text ≤ maxWorkBytes → ∃ boundaries,
        chapterBoundaries text sourceFingerprint = .ok boundaries ∧ Tiles text boundaries) ∧
    (∀ (workId : String) (boundaries : List (ChapterBoundary Fp)), ∃ ranges,
      workUnits workId boundaries = some (ranges.map (unitKey workId)) ∧
      Spans Prod.fst Prod.snd 0 ranges boundaries.length ∧
      (∀ range ∈ ranges, FitsUnit boundaries range) ∧
      (boundaries.length < 2 ^ 64 → ∀ range ∈ ranges,
        parseUnit (unitKey workId range) = .ok range)) ∧
    ∀ (view : CorpusView Fp) (items : List CorpusWorkProjection),
      view.confirmedSelection = .ok items →
      (∀ item ∈ items, ∃ version text, view.Holds sha256 item.workId version text) →
      ∃ units, view.stageUnits .chapterExtraction = .ok units ∧ ∀ unit ∈ units,
        ∃ item ∈ items, ∃ version text range input first last,
          view.Holds sha256 item.workId version text ∧ unit = unitKey item.workId range ∧
          view.chapterInput sha256 .chapterExtraction unit = .ok input ∧
          input.anonymousWorkId = item.workId ∧ version.boundaries[range.1]? = some first ∧
          version.boundaries[range.2 - 1]? = some last ∧
          input.chapters.toByteArray = text.utf8Encode.extract first.startByte last.endByte ∧
          input.evidence = ((version.boundaries.take range.2).drop range.1).map
            (anchorOf sha256 item.workId text.utf8Encode) := by
  refine ⟨?_, ?_, ?_⟩
  · intro text sourceFingerprint hblank hsize
    exact exists_chapterBoundaries hblank hsize sourceFingerprint
  · intro workId boundaries
    obtain ⟨ranges, hranges, hspans, hfit⟩ := exists_workUnits workId boundaries
    refine ⟨ranges, hranges, hspans, hfit, ?_⟩
    intro hlength range hrange
    have hbounds := hspans.bounds hrange
    exact parseUnit_unitKey workId (by omega) (by omega)
  · intro view items hselection hworks
    obtain ⟨units, hunits, hall⟩ := exists_stageUnits hselection hworks
    refine ⟨units, hunits, ?_⟩
    intro unit hunit
    obtain ⟨item, hitem, version, text, range, hholds, rfl, hnonempty, hinside⟩ := hall unit hunit
    obtain ⟨input, first, last, hinput, hid, hfirst, hlast, hbytes, hevidence⟩ :=
      exists_chapterInput hselection hworks hitem hholds hnonempty hinside
    exact ⟨item, hitem, version, text, range, input, first, last, hholds, rfl, hinput, hid, hfirst,
      hlast, hbytes, hevidence⟩

end Scanned

/-! ## A collection of one work -/

namespace Sample

def chapterText : String := "序\n第一章\n开"

def chapterVersion : WorkVersion Digest :=
  ⟨"a.txt", .tag 0, [⟨1, "第一章", 4, 17, .tag 0⟩]⟩

def chapterView : CorpusView Digest where
  confirmedSelection := .ok [⟨"work_a", "a", "private", true⟩]
  version _ := .ok chapterVersion
  file _ := .ok chapterText.toByteArray
  called _ := false

theorem chapterView_holds :
    chapterView.Holds (fun _ => .tag 0) "work_a" chapterVersion chapterText.toList where
  plain := by decide
  visible := by decide
  small := by decide
  stored := rfl
  fingerprint := rfl
  boundaries := rfl
  file := by
    refine ⟨_, rfl, ?_⟩
    rw [String.utf8Encode_toList]
    exact if_neg (by decide +kernel)

end Sample

theorem chapters_and_units_sample : ∃ units,
    Sample.chapterView.stageUnits .chapterExtraction = .ok units ∧
      ∀ unit ∈ units, ∃ input,
        Sample.chapterView.chapterInput (fun _ => .tag 0) .chapterExtraction unit = .ok input := by
  obtain ⟨-, -, hviews⟩ := chapters_and_units (fun _ : ByteArray => Digest.tag 0)
  obtain ⟨units, hunits, hall⟩ := hviews Sample.chapterView [⟨"work_a", "a", "private", true⟩] rfl
    (by simpa using ⟨_, _, Sample.chapterView_holds⟩)
  refine ⟨units, hunits, ?_⟩
  intro unit hunit
  obtain ⟨_, -, _, _, _, input, _, _, -, -, hinput, -⟩ := hall unit hunit
  exact ⟨input, hinput⟩

end Quillframe.Corpus
