import Quillframe.Corpus.Progress
import Quillframe.Spans
import Quillframe.StrictJson
import Quillframe.Utf8

/-!
# The chapters of a work

A text is cut at its chapter headings. The chapters are numbered and tile the text from the first
heading on, or all of it where there is no heading.
-/
namespace Quillframe.Corpus

open Utf8

variable {Fp : Type}

/-! ## The source -/

/-- `text.split_inclusive('\n')`. -/
def splitInclusive : List Char → List (List Char)
  | [] => []
  | c :: rest =>
    if c = '\n' then [c] :: splitInclusive rest
    else
      match splitInclusive rest with
      | [] => [[c]]
      | line :: lines => (c :: line) :: lines

def isChapterHeading (value : List Char) : Bool :=
  let compact := trimChars value
  if byteLength compact > 160 then false
  else
    "chapter ".toList.isPrefixOf (compact.map Char.toLower) ||
      (compact.head? == some '第' &&
        ((compact.drop 1).take 12).any fun character => character ∈ ['章', '回', '卷', '节'])

/-- `line.trim().trim_start_matches('\u{feff}')`. -/
def lineLabel (line : List Char) : List Char :=
  (trimChars line).dropWhile fun c => c = Char.ofNat 0xfeff

/-- The loop over the lines: the starts so far and the offset. -/
def pushStart (found : List (ℕ × String) × ℕ) (line : List Char) : List (ℕ × String) × ℕ :=
  let label := lineLabel line
  (if isChapterHeading label then found.1 ++ [(found.2, String.ofList label)] else found.1,
    found.2 + byteLength line)

def chapterStarts (text : List Char) : List (ℕ × String) :=
  let starts := ((splitInclusive text).foldl pushStart ([], 0)).1
  if starts = [] then [(0, "正文")] else starts

/-- The loop over the starts by index. -/
def pushBoundary (starts : List (ℕ × String)) (total : ℕ) (sourceFingerprint : Fp)
    (boundaries : List (ChapterBoundary Fp)) (entry : (ℕ × String) × ℕ) :
    List (ChapterBoundary Fp) :=
  let stop := (starts[entry.2 + 1]?.map Prod.fst).getD total
  if entry.1.1 ≥ stop then boundaries
  else boundaries ++ [{
    chapter := (boundaries.length + 1) % 2 ^ 32
    title := entry.1.2
    startByte := entry.1.1
    endByte := stop
    sourceFingerprint }]

def chapterBoundaries (text : List Char) (sourceFingerprint : Fp) :
    CoreResult (List (ChapterBoundary Fp)) := do
  let starts := chapterStarts text
  let boundaries := starts.zipIdx.foldl (pushBoundary starts (byteLength text) sourceFingerprint) []
  require (boundaries ≠ []) (.invalidProject "Corpus TXT has no analysable content")
  pure boundaries

/-- `MAX_WORK_BYTES`. -/
def maxWorkBytes : ℕ := 128 * 1024 * 1024

/-! ## Lines -/

section Lines

variable {text : List Char}

theorem flatten_splitInclusive (text : List Char) : (splitInclusive text).flatten = text := by
  induction text with
  | nil => rfl
  | cons c rest ih =>
    rw [splitInclusive]
    split_ifs with hc
    · simp [ih]
    · cases hlines : splitInclusive rest with
      | nil =>
        rw [hlines] at ih
        simp [← ih]
      | cons line lines =>
        rw [hlines] at ih
        simp [← ih]

theorem ne_nil_of_mem_splitInclusive {line : List Char} (h : line ∈ splitInclusive text) :
    line ≠ [] := by
  induction text generalizing line with
  | nil => cases h
  | cons c rest ih =>
    rw [splitInclusive] at h
    split_ifs at h with hc
    · rcases List.mem_cons.mp h with rfl | hlater
      · simp
      · exact ih hlater
    · cases hlines : splitInclusive rest with
      | nil =>
        rw [hlines] at h
        simp [List.mem_singleton.mp h]
      | cons first lines =>
        rw [hlines] at h ih
        rcases List.mem_cons.mp h with rfl | hlater
        · simp
        · exact ih (List.mem_cons_of_mem _ hlater)

theorem byteLength_pos {piece : List Char} (h : piece ≠ []) : 0 < byteLength piece := by
  cases piece with
  | nil => exact absurd rfl h
  | cons c rest =>
    have hc := c.utf8Size_pos
    rw [byteLength_cons]
    omega

/-- The offset is between two characters. -/
def AtCharacter (text : List Char) (offset : ℕ) : Prop :=
  ∃ front rest, text = front ++ rest ∧ byteLength front = offset

/-- The starts from an offset on. -/
def startsFrom : ℕ → List (List Char) → List (ℕ × String)
  | _, [] => []
  | offset, line :: rest =>
    let later := startsFrom (offset + byteLength line) rest
    if isChapterHeading (lineLabel line) then (offset, String.ofList (lineLabel line)) :: later
    else later

theorem foldl_pushStart (lines : List (List Char)) (starts : List (ℕ × String)) (offset : ℕ) :
    (lines.foldl pushStart (starts, offset)).1 = starts ++ startsFrom offset lines := by
  induction lines generalizing starts offset with
  | nil => simp [startsFrom]
  | cons line rest ih =>
    rw [List.foldl_cons, pushStart, startsFrom]
    by_cases hheading : isChapterHeading (lineLabel line) = true
    · simp [hheading, ih]
    · simp [hheading, ih]

/-- Every start stands in front of a line. -/
theorem mem_startsFrom {lines : List (List Char)} {offset : ℕ} {start : ℕ × String}
    (h : start ∈ startsFrom offset lines) : ∃ front line back, lines = front ++ line :: back ∧
      start.1 = offset + byteLength front.flatten ∧ isChapterHeading (lineLabel line) = true := by
  induction lines generalizing offset with
  | nil => cases h
  | cons line rest ih =>
    have hlater : start ∈ startsFrom (offset + byteLength line) rest →
        ∃ front other back, line :: rest = front ++ other :: back ∧
          start.1 = offset + byteLength front.flatten ∧
            isChapterHeading (lineLabel other) = true := by
      intro hmem
      obtain ⟨front, other, back, hrest, hstart, hheading⟩ := ih hmem
      refine ⟨line :: front, other, back, by rw [hrest, List.cons_append], ?_, hheading⟩
      rw [hstart, List.flatten_cons, byteLength_append]
      omega
    rw [startsFrom] at h
    by_cases hheading : isChapterHeading (lineLabel line) = true
    · rw [if_pos hheading] at h
      rcases List.mem_cons.mp h with rfl | hmem
      · exact ⟨[], line, rest, rfl, by simp, hheading⟩
      · exact hlater hmem
    · rw [if_neg hheading] at h
      exact hlater h

theorem le_of_mem_startsFrom {lines : List (List Char)} {offset : ℕ} {start : ℕ × String}
    (h : start ∈ startsFrom offset lines) : offset ≤ start.1 := by
  obtain ⟨front, _, _, _, hstart, _⟩ := mem_startsFrom h
  omega

/-- The starts increase, for no line is empty. -/
theorem pairwise_startsFrom {lines : List (List Char)} (hlines : ∀ line ∈ lines, line ≠ [])
    (offset : ℕ) : (startsFrom offset lines).Pairwise fun a b => a.1 < b.1 := by
  induction lines generalizing offset with
  | nil => exact .nil
  | cons line rest ih =>
    have hrest := ih (fun other hother => hlines other (List.mem_cons_of_mem _ hother))
      (offset + byteLength line)
    have hpos := byteLength_pos (hlines line List.mem_cons_self)
    rw [startsFrom]
    split_ifs
    · apply List.Pairwise.cons _ hrest
      intro start hstart
      have hle := le_of_mem_startsFrom hstart
      change offset < start.1
      omega
    · exact hrest

theorem length_startsFrom_le (lines : List (List Char)) (offset : ℕ) :
    (startsFrom offset lines).length ≤ lines.length := by
  induction lines generalizing offset with
  | nil => simp [startsFrom]
  | cons line rest ih =>
    have hrest := ih (offset + byteLength line)
    rw [startsFrom]
    split_ifs
    · simpa using hrest
    · rw [List.length_cons]
      omega

/-- The first start is in front of the first heading. -/
theorem head_startsFrom {lines : List (List Char)} {offset : ℕ} {start : ℕ × String}
    (h : (startsFrom offset lines).head? = some start) :
    ∃ front line back, lines = front ++ line :: back ∧
      start.1 = offset + byteLength front.flatten ∧ isChapterHeading (lineLabel line) = true ∧
      ∀ other ∈ front, ¬ isChapterHeading (lineLabel other) = true := by
  induction lines generalizing offset with
  | nil => cases h
  | cons line rest ih =>
    rw [startsFrom] at h
    by_cases hheading : isChapterHeading (lineLabel line) = true
    · rw [if_pos hheading, List.head?_cons, Option.some.injEq] at h
      exact ⟨[], line, rest, rfl, by simp [← h], hheading, by simp⟩
    · rw [if_neg hheading] at h
      obtain ⟨front, other, back, hrest, hstart, hother, hnone⟩ := ih h
      refine ⟨line :: front, other, back, by rw [hrest, List.cons_append], ?_, hother, ?_⟩
      · rw [hstart, List.flatten_cons, byteLength_append]
        omega
      · exact List.forall_mem_cons.mpr ⟨hheading, hnone⟩

theorem startsFrom_eq_nil {lines : List (List Char)} {offset : ℕ}
    (h : startsFrom offset lines = []) :
    ∀ line ∈ lines, ¬ isChapterHeading (lineLabel line) = true := by
  induction lines generalizing offset with
  | nil => simp
  | cons line rest ih =>
    rw [startsFrom] at h
    split_ifs at h with hheading
    exact List.forall_mem_cons.mpr ⟨hheading, ih h⟩

/-- Where the chapters begin: at the first heading, or at the start of a text without one. -/
def FirstHeading (text : List Char) (offset : ℕ) : Prop :=
  (∃ front line back, splitInclusive text = front ++ line :: back ∧
    isChapterHeading (lineLabel line) = true ∧
    (∀ other ∈ front, ¬ isChapterHeading (lineLabel other) = true) ∧
    offset = byteLength front.flatten) ∨
  (∀ line ∈ splitInclusive text, ¬ isChapterHeading (lineLabel line) = true) ∧ offset = 0

/-- What the starts of a text are. -/
structure StartsOf (text : List Char) (starts : List (ℕ × String)) : Prop where
  increasing : starts.Pairwise fun a b => a.1 < b.1
  inside : ∀ start ∈ starts, start.1 < byteLength text
  aligned : ∀ start ∈ starts, AtCharacter text start.1
  first : ∃ start, starts.head? = some start ∧ FirstHeading text start.1
  few : starts.length ≤ byteLength text

theorem length_le_byteLength_flatten {lines : List (List Char)}
    (hlines : ∀ line ∈ lines, line ≠ []) : lines.length ≤ byteLength lines.flatten := by
  induction lines with
  | nil => simp
  | cons line rest ih =>
    have hrest := ih fun other hother => hlines other (List.mem_cons_of_mem _ hother)
    have hpos := byteLength_pos (hlines line List.mem_cons_self)
    rw [List.flatten_cons, byteLength_append, List.length_cons]
    omega

theorem startsOf_chapterStarts (h : text ≠ []) : StartsOf text (chapterStarts text) := by
  have hlines : ∀ line ∈ splitInclusive text, line ≠ [] := fun line hline =>
    ne_nil_of_mem_splitInclusive hline
  have htotal := byteLength_pos h
  rw [chapterStarts, foldl_pushStart, List.nil_append]
  by_cases hnone : startsFrom 0 (splitInclusive text) = []
  · rw [if_pos hnone]
    constructor
    · exact List.pairwise_singleton _ _
    · simpa using htotal
    · intro start hstart
      obtain rfl := List.mem_singleton.mp hstart
      exact ⟨[], text, rfl, rfl⟩
    · exact ⟨(0, "正文"), rfl, .inr ⟨startsFrom_eq_nil hnone, rfl⟩⟩
    · exact htotal
  · rw [if_neg hnone]
    have hcut : ∀ start ∈ startsFrom 0 (splitInclusive text), ∃ front rest, rest ≠ [] ∧
        text = front ++ rest ∧ byteLength front = start.1 := by
      intro start hstart
      obtain ⟨front, line, back, hsplit, hoffset, -⟩ := mem_startsFrom hstart
      have hline : line ≠ [] := hlines line (by simp [hsplit])
      refine ⟨front.flatten, (line :: back).flatten, by simp [hline], ?_, by omega⟩
      rw [← List.flatten_append, ← hsplit, flatten_splitInclusive]
    constructor
    · exact pairwise_startsFrom hlines 0
    · intro start hstart
      obtain ⟨front, rest, hrest, htext, hoffset⟩ := hcut start hstart
      have hpos := byteLength_pos hrest
      rw [htext, byteLength_append]
      omega
    · intro start hstart
      obtain ⟨front, rest, -, htext, hoffset⟩ := hcut start hstart
      exact ⟨front, rest, htext, hoffset⟩
    · obtain ⟨start, rest, hstarts⟩ := List.exists_cons_of_ne_nil hnone
      have hhead : (startsFrom 0 (splitInclusive text)).head? = some start := by rw [hstarts]; rfl
      obtain ⟨front, line, back, hsplit, hoffset, hheading, hbefore⟩ := head_startsFrom hhead
      exact ⟨start, hhead, .inl ⟨front, line, back, hsplit, hheading, hbefore, by omega⟩⟩
    · have hfew := length_startsFrom_le (splitInclusive text) 0
      have hbytes := length_le_byteLength_flatten hlines
      rw [flatten_splitInclusive] at hbytes
      omega

end Lines

/-! ## Boundaries -/

section Boundaries

variable {text : List Char} {sourceFingerprint : Fp} {total : ℕ}

/-- The chapters behind a number of others, up to the end of the text. -/
def chaptersFrom (total : ℕ) (sourceFingerprint : Fp) :
    ℕ → List (ℕ × String) → List (ChapterBoundary Fp)
  | _, [] => []
  | number, (start, title) :: rest =>
    { chapter := number + 1
      title
      startByte := start
      endByte := (rest.head?.map Prod.fst).getD total
      sourceFingerprint } :: chaptersFrom total sourceFingerprint (number + 1) rest

theorem length_chaptersFrom (number : ℕ) (starts : List (ℕ × String)) :
    (chaptersFrom total sourceFingerprint number starts).length = starts.length := by
  induction starts generalizing number with
  | nil => rfl
  | cons start rest ih => simp [chaptersFrom, ih]

/-- No start is passed over, and no number wraps around. -/
theorem foldl_pushBoundary {starts todo : List (ℕ × String)} {done : ℕ}
    (htodo : todo = starts.drop done) (hincreasing : todo.Pairwise fun a b => a.1 < b.1)
    (hinside : ∀ start ∈ todo, start.1 < total) {boundaries : List (ChapterBoundary Fp)}
    (hcount : boundaries.length = done) (hfew : done + todo.length < 2 ^ 32) :
    (todo.zipIdx done).foldl (pushBoundary starts total sourceFingerprint) boundaries =
      boundaries ++ chaptersFrom total sourceFingerprint done todo := by
  induction todo generalizing done boundaries with
  | nil => simp [chaptersFrom]
  | cons start rest ih =>
    obtain ⟨hstart, hrest⟩ := List.pairwise_cons.mp hincreasing
    have hbehind : rest = starts.drop (done + 1) := by
      rw [← List.tail_drop, ← htodo, List.tail_cons]
    have hnext : starts[done + 1]? = rest.head? := by
      rw [hbehind, List.head?_drop]
    have hstop : start.1 < (rest.head?.map Prod.fst).getD total := by
      cases rest with
      | nil => exact hinside start List.mem_cons_self
      | cons later _ => exact hstart later List.mem_cons_self
    rw [List.length_cons] at hfew
    have hnumber : (boundaries.length + 1) % 2 ^ 32 = done + 1 := by
      rw [hcount]
      exact Nat.mod_eq_of_lt (by omega)
    rw [List.zipIdx_cons, List.foldl_cons, pushBoundary]
    simp only [hnext, hnumber, if_neg hstop.not_ge]
    rw [ih hbehind hrest (fun other hother => hinside other (List.mem_cons_of_mem _ hother))
      (by simp [hcount]) (by omega)]
    simp [chaptersFrom]

/-- What the chapters of a text are: numbered from one on, on characters, and tiling the text from
the first heading to the end. -/
structure Tiles (text : List Char) (boundaries : List (ChapterBoundary Fp)) : Prop where
  numbered : ∀ index boundary, boundaries[index]? = some boundary → boundary.chapter = index + 1
  aligned : ∀ boundary ∈ boundaries,
    AtCharacter text boundary.startByte ∧ AtCharacter text boundary.endByte
  covers : ∃ first, FirstHeading text first ∧ Spans ChapterBoundary.startByte
    ChapterBoundary.endByte first boundaries (byteLength text)

theorem getElem?_chaptersFrom {starts : List (ℕ × String)} {number index : ℕ}
    {boundary : ChapterBoundary Fp}
    (h : (chaptersFrom total sourceFingerprint number starts)[index]? = some boundary) :
    boundary.chapter = number + index + 1 := by
  induction starts generalizing number index with
  | nil => simp [chaptersFrom] at h
  | cons start rest ih =>
    cases index with
    | zero =>
      simp only [chaptersFrom, List.getElem?_cons_zero, Option.some.injEq] at h
      simp [← h]
    | succ index =>
      simp only [chaptersFrom, List.getElem?_cons_succ] at h
      have hnumber := ih h
      omega

theorem mem_chaptersFrom {starts : List (ℕ × String)} {number : ℕ} {boundary : ChapterBoundary Fp}
    (h : boundary ∈ chaptersFrom total sourceFingerprint number starts) :
    boundary.sourceFingerprint = sourceFingerprint ∧
      (∃ start ∈ starts, start.1 = boundary.startByte ∧ start.2 = boundary.title) ∧
      (boundary.endByte = total ∨ ∃ start ∈ starts, start.1 = boundary.endByte) := by
  induction starts generalizing number with
  | nil => cases h
  | cons start rest ih =>
    rcases List.mem_cons.mp h with rfl | hlater
    · refine ⟨rfl, ⟨start, List.mem_cons_self, rfl, rfl⟩, ?_⟩
      cases rest with
      | nil => exact .inl rfl
      | cons later _ => exact .inr ⟨later, by simp, rfl⟩
    · obtain ⟨hsource, ⟨first, hfirst, hstart⟩, hend⟩ := ih hlater
      refine ⟨hsource, ⟨first, List.mem_cons_of_mem _ hfirst, hstart⟩, ?_⟩
      exact hend.imp id fun ⟨last, hlast, hstop⟩ => ⟨last, List.mem_cons_of_mem _ hlast, hstop⟩

theorem spans_chaptersFrom {starts : List (ℕ × String)} {number : ℕ} {first : ℕ × String}
    (hincreasing : (first :: starts).Pairwise fun a b => a.1 < b.1)
    (hinside : ∀ start ∈ first :: starts, start.1 < total) :
    Spans ChapterBoundary.startByte ChapterBoundary.endByte first.1
      (chaptersFrom total sourceFingerprint number (first :: starts)) total := by
  induction starts generalizing first number with
  | nil =>
    have hlast := hinside first List.mem_cons_self
    exact .cons_of_eq rfl rfl hlast (.nil total)
  | cons next rest ih =>
    obtain ⟨hfirst, hrest⟩ := List.pairwise_cons.mp hincreasing
    have hbehind : Spans ChapterBoundary.startByte ChapterBoundary.endByte next.1
        (chaptersFrom total sourceFingerprint (number + 1) (next :: rest)) total :=
      ih hrest fun start hstart => hinside start (List.mem_cons_of_mem _ hstart)
    exact .cons_of_eq rfl rfl (hfirst next List.mem_cons_self) hbehind

/-- A text that is not blank is cut into chapters that tile it. -/
theorem exists_chapterBoundaries (hblank : ¬ text.all isWhitespace = true)
    (hsize : byteLength text ≤ maxWorkBytes) (sourceFingerprint : Fp) :
    ∃ boundaries, chapterBoundaries text sourceFingerprint = .ok boundaries ∧
      Tiles text boundaries := by
  have hne : text ≠ [] := by
    rintro rfl
    exact hblank rfl
  have hstarts := startsOf_chapterStarts hne
  have hbytes : byteLength text < 2 ^ 32 := by
    rw [maxWorkBytes] at hsize
    omega
  have hnumbers : 0 + (chapterStarts text).length < 2 ^ 32 := by
    have hfew := hstarts.few
    omega
  have hfold : (chapterStarts text).zipIdx.foldl
      (pushBoundary (chapterStarts text) (byteLength text) sourceFingerprint) [] =
        [] ++ chaptersFrom (byteLength text) sourceFingerprint 0 (chapterStarts text) :=
    foldl_pushBoundary List.drop_zero.symm hstarts.increasing hstarts.inside rfl hnumbers
  obtain ⟨first, hhead, hheading⟩ := hstarts.first
  obtain ⟨rest, hsplit⟩ := List.head?_eq_some_iff.mp hhead
  refine ⟨chaptersFrom (byteLength text) sourceFingerprint 0 (chapterStarts text), ?_, ?_⟩
  · rw [List.nil_append] at hfold
    simp only [chapterBoundaries, hfold, bind_eq_ok, require_eq_ok, exists_const, pure_eq_ok,
      and_true]
    rw [hsplit, chaptersFrom]
    exact List.cons_ne_nil _ _
  · constructor
    · intro index boundary hindex
      have hnumber := getElem?_chaptersFrom hindex
      omega
    · intro boundary hboundary
      obtain ⟨-, ⟨start, hstart, hbegin, -⟩, hend⟩ := mem_chaptersFrom hboundary
      refine ⟨hbegin ▸ hstarts.aligned start hstart, ?_⟩
      rcases hend with htotal | ⟨last, hlast, hstop⟩
      · exact ⟨text, [], (List.append_nil text).symm, htotal.symm⟩
      · exact hstop ▸ hstarts.aligned last hlast
    · refine ⟨first.1, hheading, ?_⟩
      have hincreasing := hstarts.increasing
      have hinside := hstarts.inside
      rw [hsplit] at hincreasing hinside ⊢
      exact spans_chaptersFrom hincreasing hinside

end Boundaries

end Quillframe.Corpus
