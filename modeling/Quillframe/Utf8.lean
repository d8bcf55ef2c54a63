import Quillframe.Fallible
import Quillframe.Windows

/-!
# Texts and byte offsets

Offsets into a text count bytes of UTF-8. A slice exists only between character boundaries, and
searches that go on behind the last window they found always start at one.
-/
namespace Quillframe.Utf8

open Windows

def byteLength : List Char → ℕ
  | [] => 0
  | c :: rest => c.utf8Size + byteLength rest

@[simp] theorem byteLength_nil : byteLength [] = 0 := rfl

@[simp] theorem byteLength_cons (c : Char) (rest : List Char) :
    byteLength (c :: rest) = c.utf8Size + byteLength rest := rfl

@[simp] theorem byteLength_append (front rest : List Char) :
    byteLength (front ++ rest) = byteLength front + byteLength rest := by
  induction front with
  | nil => simp
  | cons c front ih => simp [ih, Nat.add_assoc]

/-- `text[offset..]`, where the offset is a character boundary. -/
def sliceFrom : List Char → ℕ → Option (List Char)
  | text, 0 => some text
  | [], _ + 1 => none
  | c :: rest, n + 1 => if c.utf8Size ≤ n + 1 then sliceFrom rest (n + 1 - c.utf8Size) else none

/-- `text[..offset]`, where the offset is a character boundary. -/
def sliceTo : List Char → ℕ → Option (List Char)
  | _, 0 => some []
  | [], _ + 1 => none
  | c :: rest, n + 1 =>
    if c.utf8Size ≤ n + 1 then (sliceTo rest (n + 1 - c.utf8Size)).map (c :: ·) else none

/-- `text[start..stop]`. -/
def slice (text : List Char) (start stop : ℕ) : Option (List Char) :=
  if start ≤ stop then (sliceFrom text start).bind (sliceTo · (stop - start)) else none

/-- `text.find(window)`. -/
def find (window text : List Char) : Option ℕ :=
  (cut window text).map fun parts => byteLength parts.1

/-- `text.rfind(window)`. -/
def rfind (window : List Char) : List Char → Option ℕ
  | [] => if window = [] then some 0 else none
  | c :: rest =>
    match rfind window rest with
    | some offset => some (c.utf8Size + offset)
    | none => if window <+: c :: rest then some 0 else none

/-- A window with a character that the text lacks is not found. -/
theorem rfind_eq_none {window text : List Char} {c : Char} (hwindow : c ∈ window)
    (htext : c ∉ text) : rfind window text = none := by
  have hne : window ≠ [] := List.ne_nil_of_mem hwindow
  induction text with
  | nil => rw [rfind, if_neg hne]
  | cons d rest ih =>
    have hwhole : ¬ window <+: d :: rest := fun hpre => htext (hpre.subset hwindow)
    rw [rfind, ih fun hrest => htext (List.mem_cons_of_mem d hrest), if_neg hwhole]

/-- What is found in a rest of the text is found further behind. -/
theorem rfind_append {window rest : List Char} {offset : ℕ} (h : rfind window rest = some offset)
    (front : List Char) : rfind window (front ++ rest) = some (byteLength front + offset) := by
  induction front with
  | nil => rw [List.nil_append, h, byteLength_nil, Nat.zero_add]
  | cons c front ih => rw [List.cons_append, rfind, ih, byteLength_cons, Nat.add_assoc]

theorem sliceFrom_byteLength (front rest : List Char) :
    sliceFrom (front ++ rest) (byteLength front) = some rest := by
  induction front with
  | nil => cases rest <;> rfl
  | cons c front ih =>
    obtain ⟨n, hn⟩ := Nat.exists_eq_add_one.mpr c.utf8Size_pos
    rw [List.cons_append, byteLength_cons, hn, Nat.add_right_comm, sliceFrom,
      if_pos (by omega), hn, show n + byteLength front + 1 - (n + 1) = byteLength front by omega, ih]

theorem sliceTo_byteLength (front rest : List Char) :
    sliceTo (front ++ rest) (byteLength front) = some front := by
  induction front with
  | nil => cases rest <;> rfl
  | cons c front ih =>
    obtain ⟨n, hn⟩ := Nat.exists_eq_add_one.mpr c.utf8Size_pos
    rw [List.cons_append, byteLength_cons, hn, Nat.add_right_comm, sliceTo,
      if_pos (by omega), hn, show n + byteLength front + 1 - (n + 1) = byteLength front by omega, ih,
      Option.map_some]

theorem slice_byteLength (front piece rest : List Char) :
    slice (front ++ (piece ++ rest)) (byteLength front) (byteLength front + byteLength piece) =
      some piece := by
  rw [slice, if_pos (Nat.le_add_right _ _), sliceFrom_byteLength, Option.bind_some,
    Nat.add_sub_cancel_left, sliceTo_byteLength]

/-- The slice in front of the leftmost window. -/
theorem slice_cut {text front rest window before behind : List Char} (htext : text = front ++ rest)
    (hcut : cut window rest = some (before, behind)) :
    slice text (byteLength front) (byteLength front + byteLength before) = some before := by
  rw [htext, cut_append hcut]
  exact slice_byteLength front before _

theorem byteLength_lt {front front' text : List Char} (h : front <+: text) (h' : front' <+: text)
    (hlt : front.length < front'.length) : byteLength front < byteLength front' := by
  obtain ⟨rest, rfl⟩ := List.prefix_of_prefix_length_le h h' hlt.le
  cases rest with
  | nil => simp at hlt
  | cons c rest =>
    have hpos := c.utf8Size_pos
    rw [byteLength_append, byteLength_cons]
    omega

/-! ## Loops that search -/

section Loops

variable {α σ τ ε : Type} [DecidableEq α] {step : σ → τ → Except ε σ} {absent : ε}

/-- A loop that looks for the window of each item behind the one before computes the search for all
of them. `R` relates the pieces passed over, each before its item, and the text left to the state
of the loop. -/
theorem forEach_cutAll (window : τ → List α) (R : List (List α × τ) → List α → σ → Prop)
    (hnone : ∀ trail rest s item, R trail rest s → cut (window item) rest = none →
      step s item = .error absent)
    (hsome : ∀ trail rest s item before behind, R trail rest s →
      cut (window item) rest = some (before, behind) →
      ∃ t, step s item = .ok t ∧ R (trail ++ [(before, item)]) behind t)
    (items : List τ) (trail : List (List α × τ)) {rest : List α} {s : σ} (hs : R trail rest s) :
    match cutAll (items.map window) rest with
    | none => forEach step items s = .error absent
    | some found => ∃ pieces last t, found = pieces ++ [last] ∧ pieces.length = items.length ∧
        forEach step items s = .ok t ∧ R (trail ++ pieces.zip items) last t := by
  induction items generalizing trail rest s with
  | nil => exact ⟨[], rest, s, rfl, rfl, rfl, by simpa using hs⟩
  | cons item items ih =>
    rw [List.map_cons, cutAll]
    cases hcut : cut (window item) rest with
    | none => simp [forEach, hnone trail rest s item hs hcut, bind, Except.bind]
    | some parts =>
      obtain ⟨before, behind⟩ := parts
      obtain ⟨t, ht, hR⟩ := hsome trail rest s item before behind hs hcut
      have hrest := ih _ hR
      rw [Option.bind_some]
      cases hall : cutAll (items.map window) behind with
      | none =>
        rw [hall] at hrest
        simpa [forEach, ht, bind, Except.bind] using hrest
      | some found =>
        rw [hall] at hrest
        obtain ⟨pieces, last, u, rfl, hlength, hu, hlast⟩ := hrest
        refine ⟨before :: pieces, last, u, rfl, by simp [hlength], ?_, ?_⟩
        · simpa [forEach, ht, bind, Except.bind] using hu
        · simpa using hlast

/-- A cursor stands in front of the rest of the text. -/
def Passed (text rest : List Char) (cursor : ℕ) : Prop :=
  ∃ front, text = front ++ rest ∧ cursor = byteLength front

theorem Passed.start (text : List Char) : Passed text text 0 := ⟨[], rfl, rfl⟩

end Loops

end Quillframe.Utf8
