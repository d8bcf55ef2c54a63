import Quillframe.Repair
import Quillframe.Spans

/-!
# Excerpts of a manuscript

Evidence quotes a window of a text around what was searched for, or the end of the text. Indices
into a text that are out of range are a panic.
-/
namespace Quillframe

open Utf8

/-! ## The source -/

/-- `a.saturating_add(b)`. -/
def saturatingAdd (a b : ℕ) : ℕ := min (a + b) (2 ^ 64 - 1)

/-- `text.char_indices()` from an offset on. -/
def charIndices : ℕ → List Char → List (ℕ × Char)
  | _, [] => []
  | offset, c :: rest => (offset, c) :: charIndices (offset + c.utf8Size) rest

def lastUtf8Chars (value : List Char) (maximum : ℕ) : Option (List Char) :=
  if maximum = 0 then some []
  else
    let start := ((charIndices 0 value).reverse[maximum - 1]?.map Prod.fst).getD 0
    sliceFrom value start

/-- `items.windows(size)` for a positive size. -/
def windows {α : Type*} (size : ℕ) : List α → List (List α)
  | [] => []
  | a :: rest =>
    if size ≤ (a :: rest).length then (a :: rest).take size :: windows size rest else []

/-- The position that the window is put around. -/
def windowPosition (content query : List Char) (maximum : ℕ) : ℕ :=
  if query = [] then content.length - maximum
  else ((windows query.length content).findIdx? (· = query)).getD (content.length - maximum)

def evidenceWindow (content query : List Char) (maximum : ℕ) : Option (List Char) :=
  if content.length ≤ maximum ∨ maximum = 0 then some content
  else
    let start := windowPosition content query maximum - maximum / 3
    let stop := min (saturatingAdd start maximum) content.length
    subslice content (start, stop)

/-! ## The end of a text -/

section Ends

variable {text : List Char}

theorem charIndices_append (offset : ℕ) (front rest : List Char) :
    charIndices offset (front ++ rest) =
      charIndices offset front ++ charIndices (offset + byteLength front) rest := by
  induction front generalizing offset with
  | nil => simp [charIndices]
  | cons c front ih => simp [charIndices, ih, Nat.add_assoc]

@[simp] theorem length_charIndices (offset : ℕ) (text : List Char) :
    (charIndices offset text).length = text.length := by
  induction text generalizing offset with
  | nil => rfl
  | cons c rest ih => simp [charIndices, ih]

/-- The offset of the character that so many characters follow. -/
theorem charIndices_reverse_getElem? (front rest : List Char) (c : Char) :
    (charIndices 0 (front ++ c :: rest)).reverse[rest.length]? = some (byteLength front, c) := by
  rw [charIndices_append, List.reverse_append, charIndices, List.reverse_cons, List.append_assoc,
    List.getElem?_append_right (by simp)]
  simp

theorem lastUtf8Chars_eq_some (text : List Char) (maximum : ℕ) :
    lastUtf8Chars text maximum = some (text.drop (text.length - maximum)) := by
  rw [lastUtf8Chars]
  by_cases hzero : maximum = 0
  · simp [hzero]
  · rw [if_neg hzero]
    by_cases hshort : text.length < maximum
    · have hnone : (charIndices 0 text).reverse[maximum - 1]? = none := by
        apply List.getElem?_eq_none
        simp
        omega
      have hall : text.length - maximum = 0 := by omega
      simp only [hnone, Option.map_none, Option.getD_none, hall, List.drop_zero]
      cases text <;> rfl
    · -- the text splits in front of its last characters
      set front := text.take (text.length - maximum) with hfront
      have hsplit : text = front ++ text.drop (text.length - maximum) :=
        (List.take_append_drop _ _).symm
      have hlength : (text.drop (text.length - maximum)).length = maximum := by
        rw [List.length_drop]
        omega
      cases hlast : text.drop (text.length - maximum) with
      | nil =>
        rw [hlast, List.length_nil] at hlength
        omega
      | cons c rest =>
        rw [hlast] at hsplit hlength
        have hindex : maximum - 1 = rest.length := by
          rw [List.length_cons] at hlength
          omega
        have hlook := charIndices_reverse_getElem? front rest c
        rw [← hsplit] at hlook
        simp only [hindex, hlook, Option.map_some, Option.getD_some]
        conv_lhs => rw [hsplit]
        exact sliceFrom_byteLength front (c :: rest)

/-- The result is the longest suffix of the size. -/
theorem lastUtf8Chars_longest (text : List Char) (maximum : ℕ) :
    ∃ last, lastUtf8Chars text maximum = some last ∧ last <:+ text ∧ last.length ≤ maximum ∧
      ∀ other, other <:+ text → other.length ≤ maximum → other <:+ last := by
  refine ⟨_, lastUtf8Chars_eq_some text maximum, List.drop_suffix _ _, ?_, ?_⟩
  · rw [List.length_drop]
    omega
  · intro other hother hlength
    apply List.suffix_of_suffix_length_le hother (List.drop_suffix _ _)
    have htext := hother.length_le
    rw [List.length_drop]
    omega

end Ends

/-! ## A window of a text -/

section Window

variable {content query : List Char} {maximum : ℕ}

theorem windows_getElem? {α : Type*} {size index : ℕ} (hsize : 0 < size) {items window : List α} :
    (windows size items)[index]? = some window ↔
      index + size ≤ items.length ∧ window = (items.drop index).take size := by
  induction items generalizing index with
  | nil => simp [windows]; omega
  | cons a rest ih =>
    rw [windows]
    split_ifs with hfits
    · cases index with
      | zero =>
        rw [List.getElem?_cons_zero, Option.some.injEq, List.drop_zero, Nat.zero_add]
        exact ⟨fun h => ⟨hfits, h.symm⟩, fun h => h.2.symm⟩
      | succ index =>
        rw [List.getElem?_cons_succ, ih, List.length_cons, List.drop_succ_cons]
        exact and_congr_left' (by omega)
    · rw [List.length_cons] at hfits
      simp
      omega

/-- The windows of a text that occurs are found at its first occurrence. -/
theorem exists_findIdx?_windows (hne : query ≠ []) (h : query <:+: content) :
    ∃ position, (windows query.length content).findIdx? (· = query) = some position ∧
      position + query.length ≤ content.length ∧
      (content.drop position).take query.length = query := by
  have hsize : 0 < query.length := List.length_pos_of_ne_nil hne
  obtain ⟨front, rest, hcontent⟩ := h
  have hwindow : (windows query.length content)[front.length]? = some query := by
    apply (windows_getElem? hsize).mpr
    rw [← hcontent]
    simp
  have hfound : ((windows query.length content).findIdx? (· = query)).isSome := by
    rw [List.findIdx?_isSome]
    apply List.any_eq_true.mpr
    exact ⟨query, List.mem_of_getElem? hwindow, by simp⟩
  obtain ⟨position, hposition⟩ := Option.isSome_iff_exists.mp hfound
  obtain ⟨hlt, hat, -⟩ := List.findIdx?_eq_some_iff_getElem.mp hposition
  have hlook : (windows query.length content)[position]? = some query := by
    rw [List.getElem?_eq_getElem hlt]
    simpa using hat
  obtain ⟨hinside, hsame⟩ := (windows_getElem? hsize).mp hlook
  exact ⟨position, hposition, hinside, hsame.symm⟩

/-- The window begins a third of its size in front of the position. -/
theorem subslice_window {position : ℕ} (hposition : position ≤ content.length)
    (hbounded : content.length < 2 ^ 64) :
    subslice content (position - maximum / 3,
        min (saturatingAdd (position - maximum / 3) maximum) content.length) =
      some ((content.drop (position - maximum / 3)).take maximum) := by
  set start := position - maximum / 3 with hstart
  set stop := min (saturatingAdd start maximum) content.length with hstop
  have hsaturated : saturatingAdd start maximum = min (start + maximum) (2 ^ 64 - 1) := rfl
  have hinside : start ≤ stop ∧ stop ≤ content.length := by omega
  have hcount : min (stop - start) (content.length - start) =
      min maximum (content.length - start) := by omega
  rw [subslice, if_pos hinside, List.drop_take, Option.some.injEq, List.take_eq_take_iff,
    List.length_drop]
  exact hcount

theorem windowPosition_le (content query : List Char) (maximum : ℕ) :
    windowPosition content query maximum ≤ content.length := by
  rw [windowPosition]
  split_ifs with hempty
  · omega
  · cases hfound : (windows query.length content).findIdx? (· = query) with
    | none => simp
    | some position =>
      obtain ⟨hlt, -, -⟩ := List.findIdx?_eq_some_iff_getElem.mp hfound
      have hwindow := List.getElem?_eq_getElem hlt
      have hsize : 0 < query.length := List.length_pos_of_ne_nil hempty
      have hinside := ((windows_getElem? hsize).mp hwindow).1
      simp only [Option.getD_some]
      omega

theorem length_le_byteLength (text : List Char) : text.length ≤ byteLength text := by
  induction text with
  | nil => simp
  | cons c rest ih =>
    have hc := c.utf8Size_pos
    rw [List.length_cons, byteLength_cons]
    omega

theorem evidenceWindow_eq_some (content : SourceText) (query : List Char)
    (hlong : maximum < content.chars.length) (hmaximum : 1 ≤ maximum) :
    evidenceWindow content.chars query maximum = some ((content.chars.drop
      (windowPosition content.chars query maximum - maximum / 3)).take maximum) := by
  have hbounded : content.chars.length < 2 ^ 64 := by
    have hchars := length_le_byteLength content.chars
    have hbytes := content.bounded
    rw [isizeMax] at hbytes
    omega
  rw [evidenceWindow, if_neg (by omega)]
  exact subslice_window (windowPosition_le content.chars query maximum) hbounded

/-- A window that begins less than its spare room in front of a text holds the text. -/
theorem infix_window {start position : ℕ} (hstart : start ≤ position)
    (hroom : position - start + query.length ≤ maximum)
    (hquery : (content.drop position).take query.length = query) :
    query <:+: (content.drop start).take maximum := by
  have hinner : (((content.drop start).take maximum).drop (position - start)).take query.length =
      query := by
    rw [List.drop_take, List.drop_drop, List.take_take]
    have hposition : start + (position - start) = position := by omega
    have hlength : min query.length (maximum - (position - start)) = query.length := by omega
    rw [hposition, hlength, hquery]
  rw [← hinner]
  exact (List.take_prefix _ _).isInfix.trans (List.drop_suffix _ _).isInfix

/-- The quoted window is a part of the text that still shows what was searched for. -/
theorem evidenceWindow_shows (content : SourceText) (query : List Char) (hmaximum : 1 ≤ maximum) :
    ∃ window, evidenceWindow content.chars query maximum = some window ∧
      (content.chars.length ≤ maximum → window = content.chars) ∧
      (maximum < content.chars.length → window <:+: content.chars ∧ window.length ≤ maximum) ∧
      (query ≠ [] → query <:+: content.chars → query.length ≤ maximum - maximum / 3 →
        query <:+: window) := by
  by_cases hlong : maximum < content.chars.length
  · refine ⟨_, evidenceWindow_eq_some content query hlong hmaximum, ?_, ?_, ?_⟩
    · intro hshort
      omega
    · intro _
      refine ⟨(List.take_prefix _ _).isInfix.trans (List.drop_suffix _ _).isInfix, ?_⟩
      exact List.length_take_le _ _
    · intro hne hoccurs hroom
      obtain ⟨position, hposition, -, hquery⟩ := exists_findIdx?_windows hne hoccurs
      have hwhere : windowPosition content.chars query maximum = position := by
        rw [windowPosition, if_neg hne, hposition, Option.getD_some]
      rw [hwhere]
      exact infix_window (by omega) (by omega) hquery
  · refine ⟨content.chars, ?_, fun _ => rfl, fun h => absurd h hlong, fun _ hoccurs _ => hoccurs⟩
    rw [evidenceWindow, if_pos (.inl (not_lt.mp hlong))]

end Window

/-- Excerpts of a text: the window around a query and the end. -/
theorem excerpts_quote (content : SourceText) (query : List Char) {maximum : ℕ}
    (hmaximum : 1 ≤ maximum) :
    (∃ window, evidenceWindow content.chars query maximum = some window ∧
      (content.chars.length ≤ maximum → window = content.chars) ∧
      (maximum < content.chars.length → window <:+: content.chars ∧ window.length ≤ maximum) ∧
      (query ≠ [] → query <:+: content.chars → query.length ≤ maximum - maximum / 3 →
        query <:+: window)) ∧
    ∀ count, ∃ last, lastUtf8Chars content.chars count = some last ∧ last <:+ content.chars ∧
      last.length ≤ count ∧
      ∀ other, other <:+ content.chars → other.length ≤ count → other <:+ last :=
  ⟨evidenceWindow_shows content query hmaximum, lastUtf8Chars_longest content.chars⟩

theorem excerpts_quote_sample : ∃ window,
    evidenceWindow "一二三四五六七八九".toList "七".toList 3 = some window ∧ "七".toList <:+: window := by
  have hbounded : byteLength "一二三四五六七八九".toList ≤ isizeMax := by decide
  have hoccurs : "七".toList <:+: "一二三四五六七八九".toList := by decide
  obtain ⟨⟨window, hwindow, -, -, hshows⟩, -⟩ :=
    excerpts_quote ⟨"一二三四五六七八九".toList, hbounded⟩ "七".toList (show 1 ≤ 3 by decide)
  exact ⟨window, hwindow, hshows (by decide) hoccurs (by decide)⟩

end Quillframe
