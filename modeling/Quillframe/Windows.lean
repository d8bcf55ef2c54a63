import Mathlib.Data.List.Infix
import Mathlib.Tactic

/-!
# Windows in a text

The leftmost occurrence of a window, and the search for several windows one after the other. Each
search starts behind the last window, and it finds all of them whenever they occur in order.
-/
namespace Quillframe.Windows

variable {α : Type*}

/-- A text of pieces with windows between them. -/
def weave : List (List α) → List (List α) → List α
  | [], _ => []
  | piece :: _, [] => piece
  | piece :: pieces, window :: windows => piece ++ (window ++ weave pieces windows)

@[simp] theorem weave_nil (piece : List α) (pieces : List (List α)) :
    weave (piece :: pieces) [] = piece := rfl

@[simp] theorem weave_cons (piece window : List α) (pieces windows : List (List α)) :
    weave (piece :: pieces) (window :: windows) = piece ++ (window ++ weave pieces windows) := rfl

theorem length_weave {pieces windows : List (List α)} (h : pieces.length = windows.length + 1) :
    (weave pieces windows).length = pieces.flatten.length + windows.flatten.length := by
  induction windows generalizing pieces with
  | nil =>
    obtain ⟨piece, rfl⟩ := List.length_eq_one_iff.mp h
    simp
  | cons window windows ih =>
    obtain ⟨piece, rest, rfl⟩ := List.exists_cons_of_length_eq_add_one h
    have hrest := ih (Nat.succ_injective h)
    simp only [weave_cons, List.length_append, List.flatten_cons, hrest]
    omega

/-- A text is written piece by piece, each with the window behind it. -/
theorem weave_append {pieces windows : List (List α)} (h : pieces.length = windows.length)
    (last : List α) :
    weave (pieces ++ [last]) windows = (List.zipWith (· ++ ·) pieces windows).flatten ++ last := by
  induction pieces generalizing windows with
  | nil =>
    obtain rfl : windows = [] := List.length_eq_zero_iff.mp h.symm
    rfl
  | cons piece pieces ih =>
    obtain ⟨window, windows, rfl⟩ := List.exists_cons_of_length_eq_add_one h.symm
    rw [List.cons_append, weave_cons, ih (Nat.succ_injective h)]
    simp

/-- The windows occur in the text one behind the other. -/
def InOrder (windows : List (List α)) (text : List α) : Prop :=
  ∃ pieces, pieces.length = windows.length + 1 ∧ weave pieces windows = text

theorem InOrder.nil (text : List α) : InOrder [] text := ⟨[text], rfl, rfl⟩

theorem InOrder.cons {windows : List (List α)} {text : List α} (h : InOrder windows text)
    (piece window : List α) : InOrder (window :: windows) (piece ++ (window ++ text)) := by
  obtain ⟨pieces, hlength, rfl⟩ := h
  exact ⟨piece :: pieces, by simp [hlength], rfl⟩

theorem InOrder.append {windows : List (List α)} {text : List α} (h : InOrder windows text)
    (front : List (List α)) : InOrder (front ++ windows) (front.flatten ++ text) := by
  induction front with
  | nil => exact h
  | cons window front ih => simpa using ih.cons [] window

/-- Empty windows occur anywhere. -/
theorem InOrder.of_empty {windows : List (List α)} (h : ∀ window ∈ windows, window = [])
    (text : List α) : InOrder windows text := by
  induction windows with
  | nil => exact .nil text
  | cons window windows ih =>
    have hrest := (ih fun other hother => h other (List.mem_cons_of_mem _ hother)).cons [] window
    rw [h window List.mem_cons_self] at hrest ⊢
    exact hrest

/-! ## Pieces that are kept -/

/-- The text is made of the pieces with something between any two of them. -/
def Keeps (first : List α) (middles : List (List α)) (last text : List α) : Prop :=
  ∃ replacements : List (List α), replacements.length = middles.length + 1 ∧
    weave (first :: (middles ++ [last])) replacements = text

theorem Keeps.length_le {first last text : List α} {middles : List (List α)}
    (h : Keeps first middles last text) :
    first.length + middles.flatten.length + last.length ≤ text.length := by
  obtain ⟨replacements, hlength, rfl⟩ := h
  rw [length_weave (by simp [hlength])]
  simp only [List.flatten_cons, List.flatten_append, List.length_append, List.flatten_nil,
    List.append_nil]
  omega

/-- Lets the last piece of a text end with more text. -/
def appendLast : List (List α) → List α → List (List α)
  | [], more => [more]
  | [piece], more => [piece ++ more]
  | piece :: other :: pieces, more => piece :: appendLast (other :: pieces) more

theorem length_appendLast {pieces : List (List α)} (h : pieces ≠ []) (more : List α) :
    (appendLast pieces more).length = pieces.length := by
  induction pieces with
  | nil => exact absurd rfl h
  | cons piece pieces ih =>
    cases pieces with
    | nil => rfl
    | cons other pieces => simpa [appendLast] using ih (by simp)

/-- What stands between the pieces that are kept are the gaps that the pieces leave. -/
theorem weave_kept (first last : List α) {middles replacements : List (List α)}
    (h : replacements.length = middles.length + 1) :
    weave (first :: (middles ++ [last])) replacements =
      first ++ weave (appendLast replacements last) middles := by
  induction middles generalizing first replacements with
  | nil =>
    obtain ⟨replacement, rfl⟩ := List.length_eq_one_iff.mp h
    rfl
  | cons middle middles ih =>
    obtain ⟨replacement, rest, rfl⟩ := List.exists_cons_of_length_eq_add_one h
    have hrest : rest.length = middles.length + 1 := Nat.succ_injective h
    obtain ⟨other, others, rfl⟩ := List.exists_cons_of_length_eq_add_one hrest
    rw [List.cons_append, weave_cons, ih middle hrest]
    rfl

theorem Keeps.head {first last text : List α} {middles : List (List α)}
    (h : Keeps first middles last text) : first <+: text := by
  obtain ⟨replacements, hlength, rfl⟩ := h
  exact ⟨_, (weave_kept first last hlength).symm⟩

theorem Keeps.tail {first last text : List α} {middles : List (List α)}
    (h : Keeps first middles last text) : last <:+ text := by
  obtain ⟨replacements, hlength, rfl⟩ := h
  induction middles generalizing first replacements with
  | nil =>
    obtain ⟨replacement, rfl⟩ := List.length_eq_one_iff.mp hlength
    exact ⟨first ++ replacement, by simp⟩
  | cons middle middles ih =>
    obtain ⟨replacement, rest, rfl⟩ := List.exists_cons_of_length_eq_add_one hlength
    have hrest := @ih middle rest (Nat.succ_injective hlength)
    rw [List.cons_append, weave_cons]
    exact (hrest.trans (List.suffix_append _ _)).trans (List.suffix_append _ _)

theorem Keeps.inOrder {first last text : List α} {middles : List (List α)}
    (h : Keeps first middles last text) : InOrder middles (text.drop first.length) := by
  obtain ⟨replacements, hlength, rfl⟩ := h
  rw [weave_kept first last hlength, List.drop_left]
  refine ⟨appendLast replacements last, ?_, rfl⟩
  rw [length_appendLast (by rintro rfl; simp at hlength), hlength]

/-! ## Pieces that are checked -/

/-- The text begins and ends with the first and the last piece, and the pieces in the middle are
found in order behind the first. -/
structure Guarded (first : List α) (middles : List (List α)) (last text : List α) : Prop where
  head : first <+: text
  tail : last <:+ text
  inOrder : InOrder middles (text.drop first.length)

theorem Keeps.guarded {first last text : List α} {middles : List (List α)}
    (h : Keeps first middles last text) : Guarded first middles last text :=
  ⟨h.head, h.tail, h.inOrder⟩

/-- The last window that is not empty. -/
def lastSolid : List (List α) → Option (List α)
  | [] => none
  | window :: windows =>
    match lastSolid windows with
    | some solid => some solid
    | none => if window.isEmpty then none else some window

theorem lastSolid_eq_none {windows : List (List α)} (h : lastSolid windows = none) :
    ∀ window ∈ windows, window = [] := by
  induction windows with
  | nil => simp
  | cons window windows ih =>
    rw [lastSolid] at h
    cases hrest : lastSolid windows with
    | some solid => simp [hrest] at h
    | none =>
      simp only [hrest] at h
      split_ifs at h with hempty
      rintro other hother
      rcases List.mem_cons.mp hother with rfl | hother
      · exact List.isEmpty_iff.mp hempty
      · exact ih hrest other hother

theorem lastSolid_eq_some {windows : List (List α)} {solid : List α}
    (h : lastSolid windows = some solid) :
    solid ≠ [] ∧ ∃ front behind, windows = front ++ solid :: behind ∧
      ∀ window ∈ behind, window = [] := by
  induction windows with
  | nil => cases h
  | cons window windows ih =>
    rw [lastSolid] at h
    cases hrest : lastSolid windows with
    | some other =>
      simp only [hrest, Option.some.injEq] at h
      subst h
      obtain ⟨hsolid, front, behind, rfl, hbehind⟩ := ih hrest
      exact ⟨hsolid, window :: front, behind, rfl, hbehind⟩
    | none =>
      simp only [hrest] at h
      split_ifs at h with hempty
      cases h
      exact ⟨by simpa using hempty, [], windows, rfl, lastSolid_eq_none hrest⟩

/-- The pieces in front of the last can be found where the last begins: the last of them that is not
empty ends with what the last piece begins with, or it stands in the last piece. -/
def Overlap (first : List α) (middles : List (List α)) (last : List α) : Prop :=
  match lastSolid middles with
  | none => ∃ shared, shared ≠ [] ∧ shared <:+ first ∧ shared <+: last
  | some solid => (∃ shared, shared ≠ [] ∧ shared <:+ solid ∧ shared <+: last) ∨ solid <:+: last

/-- Windows in order need no text behind the last of them that is not empty. -/
theorem InOrder.ends {windows : List (List α)} {text : List α} (h : InOrder windows text) :
    ∃ front rest, text = front ++ rest ∧
      (∀ gap, ∃ gaps, gaps.length = windows.length + 1 ∧
        ∀ more, weave (appendLast gaps more) windows = front ++ (gap ++ more)) ∧
      (lastSolid windows = none → front = []) ∧
      ∀ solid, lastSolid windows = some solid → solid <:+ front := by
  induction windows generalizing text with
  | nil =>
    exact ⟨[], text, rfl, fun gap => ⟨[gap], rfl, fun _ => rfl⟩, fun _ => rfl, by simp [lastSolid]⟩
  | cons window windows ih =>
    obtain ⟨pieces, hlength, rfl⟩ := h
    obtain ⟨piece, others, rfl⟩ := List.exists_cons_of_length_eq_add_one hlength
    obtain ⟨front, rest, htext, hgaps, hnone, hsome⟩ := ih ⟨others, Nat.succ_injective hlength, rfl⟩
    cases hsolid : lastSolid windows with
    | some solid =>
      refine ⟨piece ++ (window ++ front), rest, by simp [htext], fun gap => ?_, ?_, ?_⟩
      · obtain ⟨gaps, hgap, hweave⟩ := hgaps gap
        obtain ⟨other, rest, rfl⟩ := List.exists_cons_of_length_eq_add_one hgap
        exact ⟨piece :: other :: rest, by simp [hgap], fun more => by simp [appendLast, hweave]⟩
      · simp [lastSolid, hsolid]
      · simp only [lastSolid, hsolid, Option.some.injEq]
        rintro _ rfl
        exact ((hsome solid hsolid).trans (List.suffix_append _ _)).trans (List.suffix_append _ _)
    | none =>
      obtain rfl := hnone hsolid
      cases window with
      | nil =>
        -- The gap takes in all the text, since no window in it needs any.
        refine ⟨[], _, rfl, fun gap => ?_, fun _ => rfl, by simp [lastSolid, hsolid]⟩
        obtain ⟨gaps, hgap, hweave⟩ := hgaps gap
        obtain ⟨other, rest, rfl⟩ := List.exists_cons_of_length_eq_add_one hgap
        exact ⟨[] :: other :: rest, by simp [hgap], fun more => by simp [appendLast, hweave]⟩
      | cons a window =>
        refine ⟨piece ++ a :: window, rest, by simp [htext], fun gap => ?_, ?_, ?_⟩
        · obtain ⟨gaps, hgap, hweave⟩ := hgaps gap
          obtain ⟨other, rest, rfl⟩ := List.exists_cons_of_length_eq_add_one hgap
          exact ⟨piece :: other :: rest, by simp [hgap], fun more => by simp [appendLast, hweave]⟩
        · simp [lastSolid, hsolid]
        · simp [lastSolid, hsolid]

/-- Where the last piece is no longer than what the pieces in front of it leave, all are kept. -/
theorem Guarded.keeps {first last text : List α} {middles : List (List α)}
    (hover : ¬ Overlap first middles last) (h : Guarded first middles last text) :
    Keeps first middles last text := by
  obtain ⟨behind, rfl⟩ := h.head
  obtain ⟨front, rest, htext, hgaps, hnone, hsome⟩ := h.inOrder.ends
  rw [List.drop_left] at htext
  subst htext
  have htail : last <:+ (first ++ front) ++ rest := by
    rw [List.append_assoc]
    exact h.tail
  have hlast : last <:+ rest := by
    rcases List.suffix_or_suffix_of_suffix htail (List.suffix_append _ rest) with hlast | hrest
    · exact hlast
    · obtain ⟨shared, rfl⟩ := hrest
      have hshared : shared <:+ first ++ front := by
        obtain ⟨before, hbefore⟩ := htail
        rw [← List.append_assoc, List.append_left_inj] at hbefore
        exact ⟨before, hbefore⟩
      cases shared with
      | nil => exact List.suffix_rfl
      | cons a shared =>
        refine absurd ?_ hover
        rw [Overlap]
        cases hsolid : lastSolid middles with
        | none =>
          obtain rfl := hnone hsolid
          rw [List.append_nil] at hshared
          exact ⟨a :: shared, by simp, hshared, List.prefix_append _ _⟩
        | some solid =>
          have hfront : solid <:+ first ++ front := (hsome solid hsolid).trans (List.suffix_append _ _)
          rcases List.suffix_or_suffix_of_suffix hshared hfront with hshort | hlong
          · exact .inl ⟨a :: shared, by simp, hshort, List.prefix_append _ _⟩
          · exact .inr (hlong.isInfix.trans (List.prefix_append _ _).isInfix)
  obtain ⟨gap, rfl⟩ := hlast
  obtain ⟨gaps, hlength, hweave⟩ := hgaps gap
  exact ⟨gaps, hlength, by rw [weave_kept first last hlength, hweave]⟩

/-- Pieces that overlap are all found in a text that is too short to keep them. -/
theorem Overlap.escapes {first last : List α} {middles : List (List α)}
    (h : Overlap first middles last) :
    ∃ text, Guarded first middles last text ∧ ¬ Keeps first middles last text := by
  rw [Overlap] at h
  cases hsolid : lastSolid middles with
  | none =>
    rw [hsolid] at h
    obtain ⟨shared, hne, ⟨before, rfl⟩, ⟨behind, rfl⟩⟩ := h
    refine ⟨before ++ shared ++ behind, ⟨List.prefix_append _ _, ?_, ?_⟩, fun hkeeps => ?_⟩
    · exact ⟨before, (List.append_assoc _ _ _).symm⟩
    · exact .of_empty (lastSolid_eq_none hsolid) _
    · have hle := hkeeps.length_le
      have hpos := List.length_pos_of_ne_nil hne
      simp only [List.length_append] at hle
      omega
  | some solid =>
    rw [hsolid] at h
    obtain ⟨hne, front, empty, rfl, hempty⟩ := lastSolid_eq_some hsolid
    have hflatten : (front ++ solid :: empty).flatten = front.flatten ++ solid := by
      rw [List.flatten_append, List.flatten_cons, List.flatten_eq_nil_iff.mpr hempty,
        List.append_nil]
    have hrest (text : List α) : InOrder empty text := .of_empty hempty text
    rcases h with ⟨shared, hshared, ⟨before, rfl⟩, ⟨behind, rfl⟩⟩ | ⟨before, behind, rfl⟩
    · refine ⟨first ++ (front.flatten ++ (before ++ shared ++ behind)),
        ⟨List.prefix_append _ _, ?_, ?_⟩, fun hkeeps => ?_⟩
      · exact ⟨first ++ (front.flatten ++ before), by simp⟩
      · rw [List.drop_left]
        refine InOrder.append ?_ front
        simpa using (hrest behind).cons [] (before ++ shared)
      · have hle := hkeeps.length_le
        have hpos := List.length_pos_of_ne_nil hshared
        rw [hflatten] at hle
        simp only [List.length_append] at hle
        omega
    · refine ⟨first ++ (front.flatten ++ (before ++ solid ++ behind)),
        ⟨List.prefix_append _ _, ?_, ?_⟩, fun hkeeps => ?_⟩
      · exact ⟨first ++ front.flatten, by simp⟩
      · rw [List.drop_left]
        refine InOrder.append ?_ front
        simpa using (hrest behind).cons before solid
      · have hle := hkeeps.length_le
        have hpos := List.length_pos_of_ne_nil hne
        rw [hflatten] at hle
        simp only [List.length_append] at hle
        omega

/-- A text can pass the checks without keeping the pieces exactly when they overlap. -/
theorem guarded_keeps_iff {first last : List α} {middles : List (List α)} :
    (∀ text, Guarded first middles last text → Keeps first middles last text) ↔
      ¬ Overlap first middles last := by
  constructor
  · intro hkeeps hover
    obtain ⟨text, hguarded, hlost⟩ := hover.escapes
    exact hlost (hkeeps text hguarded)
  · exact fun hover text => Guarded.keeps hover

/-! ## Occurrences -/

/-- The window occurs once. Occurrences may share text. -/
def OccursOnce (window text : List α) : Prop := ∃! front, front ++ window <+: text

/-- An occurrence of the window begins inside another. -/
def OverlapsItself (window text : List α) : Prop :=
  ∃ front shift, shift ≠ [] ∧ shift.length < window.length ∧ front ++ window <+: text ∧
    front ++ (shift ++ window) <+: text

theorem OccursOnce.not_overlapsItself {window text : List α} (h : OccursOnce window text) :
    ¬ OverlapsItself window text := by
  rintro ⟨front, shift, hne, -, hfront, hshift⟩
  rw [← List.append_assoc] at hshift
  have hsame := h.unique hfront hshift
  exact hne (List.self_eq_append_right.mp hsame)

/-- No occurrences of the windows share text. -/
def Apart (window other text : List α) : Prop :=
  ∀ front front', front ++ window <+: text → front' ++ other <+: text →
    front.length + window.length ≤ front'.length ∨ front'.length + other.length ≤ front.length

theorem Apart.symm {window other text : List α} (h : Apart window other text) :
    Apart other window text :=
  fun front front' hfront hfront' => (h front' front hfront' hfront).symm

/-- Windows stand in order when each ends before the next begins. -/
theorem inOrder_of_pairwise {τ : Type*} (window front : τ → List α) {items : List τ}
    {text skipped rest : List α} (htext : text = skipped ++ rest)
    (hoccurs : ∀ item ∈ items, front item ++ window item <+: text)
    (hskipped : ∀ item ∈ items, skipped.length ≤ (front item).length)
    (hpairwise : items.Pairwise fun a b =>
      (front a).length + (window a).length ≤ (front b).length) :
    InOrder (items.map window) rest := by
  induction items generalizing skipped rest with
  | nil => exact .nil rest
  | cons item items ih =>
    obtain ⟨hhead, hitems⟩ := List.pairwise_cons.mp hpairwise
    obtain ⟨behind, hbehind⟩ := hoccurs item List.mem_cons_self
    have hprefix : skipped <+: front item := by
      refine List.prefix_of_prefix_length_le (show skipped <+: text from ⟨rest, htext.symm⟩) ?_
        (hskipped item List.mem_cons_self)
      exact ⟨window item ++ behind, by rw [← hbehind, List.append_assoc]⟩
    obtain ⟨gap, hgap⟩ := hprefix
    have hrest : rest = gap ++ (window item ++ behind) := by
      have hsame : skipped ++ rest = skipped ++ (gap ++ (window item ++ behind)) := by
        rw [← htext, ← hbehind, ← hgap]
        simp
      exact List.append_cancel_left hsame
    rw [hrest]
    refine (ih hbehind.symm (fun other hother => hoccurs other (List.mem_cons_of_mem _ hother))
      (fun other hother => ?_) hitems).cons gap (window item)
    rw [List.length_append]
    exact hhead other hother

/-- Windows that occur once stand in order only when each ends before the next begins. -/
theorem pairwise_of_inOrder {τ : Type*} (window front : τ → List α) {items : List τ}
    {text skipped rest : List α} (htext : text = skipped ++ rest)
    (honce : ∀ item ∈ items, ∀ other, other ++ window item <+: text → other = front item)
    (horder : InOrder (items.map window) rest) :
    (∀ item ∈ items, skipped.length ≤ (front item).length) ∧
      items.Pairwise fun a b => (front a).length + (window a).length ≤ (front b).length := by
  induction items generalizing skipped rest with
  | nil => simp
  | cons item items ih =>
    obtain ⟨pieces, hlength, rfl⟩ := horder
    obtain ⟨piece, others, rfl⟩ := List.exists_cons_of_length_eq_add_one hlength
    rw [List.map_cons, weave_cons] at htext
    have hfront : skipped ++ piece = front item :=
      honce item List.mem_cons_self _ ⟨weave others (items.map window), by simp [htext]⟩
    have hrest : InOrder (items.map window) (weave others (items.map window)) :=
      ⟨others, Nat.succ_injective hlength, rfl⟩
    obtain ⟨hskipped, hpairwise⟩ := @ih (front item ++ window item) _ (by simp [htext, ← hfront])
      (fun other hother => honce other (List.mem_cons_of_mem _ hother)) hrest
    simp only [List.length_append] at hskipped
    have hhead : skipped.length ≤ (front item).length := by simp [← hfront]
    refine ⟨?_, List.pairwise_cons.mpr ⟨hskipped, hpairwise⟩⟩
    rintro other hother
    rcases List.mem_cons.mp hother with rfl | hother
    · exact hhead
    · have hle := hskipped other hother
      omega

/-! ## The leftmost window -/

variable [DecidableEq α]

/-- The text before and behind the leftmost occurrence of a window. -/
def cut (window : List α) : List α → Option (List α × List α)
  | [] => if window = [] then some ([], []) else none
  | a :: text =>
    if window <+: a :: text then some ([], (a :: text).drop window.length)
    else (cut window text).map fun parts => (a :: parts.1, parts.2)

theorem cut_append {window text before behind : List α} (h : cut window text = some (before, behind)) :
    text = before ++ (window ++ behind) := by
  induction text generalizing before with
  | nil =>
    rw [cut] at h
    split_ifs at h with hempty
    cases h
    simp [hempty]
  | cons a text ih =>
    rw [cut] at h
    split_ifs at h with hprefix
    · obtain ⟨rest, hrest⟩ := hprefix
      cases h
      rw [← hrest]
      simp
    · obtain ⟨⟨before', behind'⟩, hcut, he⟩ := Option.map_eq_some_iff.mp h
      cases he
      rw [ih hcut]
      rfl

/-- No occurrence starts before the leftmost one. -/
theorem cut_leftmost {window text before behind : List α}
    (h : cut window text = some (before, behind)) {front rest : List α}
    (hoccurs : text = front ++ (window ++ rest)) : before.length ≤ front.length := by
  induction text generalizing before front with
  | nil =>
    rw [cut] at h
    split_ifs at h
    cases h
    simp
  | cons a text ih =>
    rw [cut] at h
    split_ifs at h with hprefix
    · cases h
      simp
    · obtain ⟨⟨before', behind'⟩, hcut, he⟩ := Option.map_eq_some_iff.mp h
      cases he
      cases front with
      | nil => exact absurd ⟨rest, hoccurs.symm⟩ hprefix
      | cons c front =>
        rw [List.cons_append, List.cons.injEq] at hoccurs
        have hle := ih hcut hoccurs.2
        simp only [List.length_cons]
        omega

theorem cut_empty (text : List α) : cut [] text = some ([], text) := by
  cases text <;> simp [cut]

theorem cut_eq_none {window text : List α} : cut window text = none ↔ ¬ window <:+: text := by
  induction text with
  | nil => simp [cut]
  | cons a text ih =>
    rw [cut]
    split_ifs with hprefix
    · simpa using hprefix.isInfix
    · simp [ih, List.infix_cons_iff, hprefix]

theorem exists_cut_of_infix {window text : List α} (h : window <:+: text) :
    ∃ before behind, cut window text = some (before, behind) := by
  cases hcut : cut window text with
  | none => exact absurd h (cut_eq_none.mp hcut)
  | some parts => exact ⟨parts.1, parts.2, rfl⟩

/-- The text behind the leftmost occurrence ends with the text behind any other. -/
theorem cut_behind {window text before behind : List α} (h : cut window text = some (before, behind))
    {front rest : List α} (hoccurs : text = front ++ (window ++ rest)) : rest <:+ behind := by
  have hle := cut_leftmost h hoccurs
  have hlength := congrArg List.length ((cut_append h).symm.trans hoccurs)
  refine List.suffix_of_suffix_length_le (show rest <:+ text from ⟨front ++ window, ?_⟩)
    ⟨before ++ window, ?_⟩ ?_
  · rw [hoccurs, List.append_assoc]
  · rw [cut_append h, List.append_assoc]
  · simp only [List.length_append] at hlength
    omega

/-- A window that is found once, and not again behind that place, occurs twice only when it
overlaps itself. -/
theorem occursOnce_of_cut {window text before behind : List α}
    (h : cut window text = some (before, behind)) (hbehind : cut window behind = none)
    (hover : ¬ OverlapsItself window text) : OccursOnce window text := by
  have htext := cut_append h
  have hbefore : before ++ window <+: text := ⟨behind, by rw [htext, List.append_assoc]⟩
  refine ⟨before, hbefore, fun front hfront => ?_⟩
  obtain ⟨rest, hrest⟩ := hfront
  have hle := cut_leftmost h (hrest.symm.trans (List.append_assoc _ _ _))
  have hprefix : before <+: front := List.prefix_of_prefix_length_le
    ((List.prefix_append _ _).trans hbefore) ⟨window ++ rest, by rw [← hrest, List.append_assoc]⟩ hle
  obtain ⟨shift, rfl⟩ := hprefix
  by_contra hne
  have hshift : shift ≠ [] := by
    rintro rfl
    exact hne (List.append_nil _)
  have hsame : window ++ behind = shift ++ (window ++ rest) := by
    have hboth : before ++ (window ++ behind) = before ++ (shift ++ (window ++ rest)) := by
      rw [← htext, ← hrest]
      simp
    exact List.append_cancel_left hboth
  rcases Nat.lt_or_ge shift.length window.length with hshort | hlong
  · exact hover ⟨before, shift, hshift, hshort, hbefore, rest, by rw [← hrest]; simp⟩
  · -- The other occurrence lies behind the first.
    have hwindow : window <+: shift :=
      List.prefix_of_prefix_length_le ⟨behind, rfl⟩ ⟨window ++ rest, hsame.symm⟩ hlong
    obtain ⟨skip, rfl⟩ := hwindow
    rw [List.append_assoc] at hsame
    exact cut_eq_none.mp hbehind ⟨skip, rest, by
      rw [List.append_cancel_left hsame, List.append_assoc]⟩

theorem OccursOnce.cut {window text : List α} (h : OccursOnce window text) (hwindow : window ≠ []) :
    ∃ before behind, cut window text = some (before, behind) ∧ Windows.cut window behind = none := by
  obtain ⟨front, ⟨rest, hrest⟩, honly⟩ := h
  have hinfix : window <:+: text := ⟨front, rest, hrest⟩
  obtain ⟨before, behind, hcut⟩ := exists_cut_of_infix hinfix
  refine ⟨before, behind, hcut, cut_eq_none.mpr ?_⟩
  rintro ⟨skip, last, hlast⟩
  have htext := cut_append hcut
  have hfirst := honly before ⟨behind, by rw [htext, List.append_assoc]⟩
  have hsecond := honly (before ++ (window ++ skip)) ⟨last, by rw [htext, ← hlast]; simp⟩
  have hlength := congrArg List.length (hfirst.trans hsecond.symm)
  have hpos := List.length_pos_of_ne_nil hwindow
  simp only [List.length_append] at hlength
  omega

/-! ## Windows in order -/

/-- The pieces between the windows, each found leftmost behind the last. -/
def cutAll : List (List α) → List α → Option (List (List α))
  | [], text => some [text]
  | window :: windows, text =>
    (cut window text).bind fun parts => (cutAll windows parts.2).map (parts.1 :: ·)

theorem cutAll_cons {window text : List α} {windows pieces : List (List α)} :
    cutAll (window :: windows) text = some pieces ↔ ∃ before behind rest,
      cut window text = some (before, behind) ∧ cutAll windows behind = some rest ∧
      pieces = before :: rest := by
  rw [cutAll, Option.bind_eq_some_iff]
  constructor
  · rintro ⟨⟨before, behind⟩, hcut, hrest⟩
    obtain ⟨rest, hall, rfl⟩ := Option.map_eq_some_iff.mp hrest
    exact ⟨before, behind, rest, hcut, hall, rfl⟩
  · rintro ⟨before, behind, rest, hcut, hall, rfl⟩
    exact ⟨(before, behind), hcut, by rw [hall, Option.map_some]⟩

/-- The pieces and the windows make up the text. -/
theorem weave_of_cutAll {text : List α} {windows pieces : List (List α)}
    (h : cutAll windows text = some pieces) :
    pieces.length = windows.length + 1 ∧ weave pieces windows = text := by
  induction windows generalizing text pieces with
  | nil =>
    cases h
    exact ⟨rfl, rfl⟩
  | cons window windows ih =>
    obtain ⟨before, behind, rest, hcut, hall, rfl⟩ := cutAll_cons.mp h
    obtain ⟨hlength, hweave⟩ := ih hall
    refine ⟨by simp [hlength], ?_⟩
    rw [weave_cons, hweave, cut_append hcut]

/-- The search finds windows that occur in order, with text to spare in front. -/
theorem cutAll_of_inOrder {windows : List (List α)} {text : List α} (h : InOrder windows text)
    (front : List α) : ∃ found, cutAll windows (front ++ text) = some found := by
  obtain ⟨pieces, hlength, rfl⟩ := h
  induction windows generalizing pieces front with
  | nil => exact ⟨_, rfl⟩
  | cons window windows ih =>
    obtain ⟨piece, rest, rfl⟩ := List.exists_cons_of_length_eq_add_one hlength
    have hoccurs : front ++ weave (piece :: rest) (window :: windows) =
        (front ++ piece) ++ (window ++ weave rest windows) := by simp
    have hinfix : window <:+: front ++ weave (piece :: rest) (window :: windows) :=
      ⟨front ++ piece, weave rest windows, (List.append_assoc _ _ _).trans hoccurs.symm⟩
    obtain ⟨before, behind, hcut⟩ := exists_cut_of_infix hinfix
    -- The leftmost window leaves at least the text that the windows behind it need.
    obtain ⟨skipped, hbehind⟩ := cut_behind hcut hoccurs
    obtain ⟨found, hfound⟩ := ih skipped rest (Nat.succ_injective hlength)
    exact ⟨before :: found, cutAll_cons.mpr ⟨before, behind, found, hcut, hbehind ▸ hfound, rfl⟩⟩

theorem exists_cutAll_iff {text : List α} {windows : List (List α)} :
    (∃ found, cutAll windows text = some found) ↔ InOrder windows text := by
  constructor
  · rintro ⟨found, hfound⟩
    exact ⟨found, weave_of_cutAll hfound⟩
  · intro h
    exact cutAll_of_inOrder h []

end Quillframe.Windows
