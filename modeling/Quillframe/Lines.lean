import Mathlib.Tactic

/-!
# Lines of a text

A text is its lines put together with one of three newline conventions. Unifying the newlines and
cutting the text wherever two of them meet leaves the groups of lines between blank lines.
-/
namespace Quillframe

/-! ## Newlines -/

inductive Newline where
  | lf | crlf | cr
  deriving DecidableEq, Repr

def Newline.chars : Newline → List Char
  | lf => ['\n']
  | crlf => ['\r', '\n']
  | cr => ['\r']

/-- `text.replace("\r\n", "\n")`. -/
@[grind =] def replaceCrlf : List Char → List Char
  | '\r' :: '\n' :: rest => '\n' :: replaceCrlf rest
  | c :: rest => c :: replaceCrlf rest
  | [] => []

/-- `text.replace("\r\n", "\n").replace('\r', "\n")`. -/
def unifyNewlines (text : List Char) : List Char :=
  (replaceCrlf text).map fun c => if c = '\r' then '\n' else c

/-- A line holds no newline of any convention. -/
def IsLine (line : List Char) : Prop := '\r' ∉ line ∧ '\n' ∉ line

instance (line : List Char) : Decidable (IsLine line) :=
  inferInstanceAs (Decidable (_ ∧ _))

theorem replaceCrlf_append {line : List Char} (h : '\r' ∉ line) (rest : List Char) :
    replaceCrlf (line ++ rest) = line ++ replaceCrlf rest := by
  induction line with
  | nil => rfl
  | cons c line ih =>
    have hc : c ≠ '\r' := fun hc => h (hc ▸ List.mem_cons_self)
    have hline : '\r' ∉ line := fun hmem => h (List.mem_cons_of_mem _ hmem)
    rw [List.cons_append, replaceCrlf, ih hline, List.cons_append]
    intro rest' hcr
    exact absurd hcr hc

theorem replaceCrlf_return {rest : List Char} (h : rest.head? ≠ some '\n') :
    replaceCrlf ('\r' :: rest) = '\r' :: replaceCrlf rest := by
  rw [replaceCrlf]
  rintro rest' - rfl
  exact h rfl

theorem unifyNewlines_append {line : List Char} (h : '\r' ∉ line) (rest : List Char) :
    unifyNewlines (line ++ rest) = line ++ unifyNewlines rest := by
  have hline : line.map (fun c => if c = '\r' then '\n' else c) = line := by
    refine (List.map_congr_left fun c hc => ?_).trans (List.map_id _)
    have hcr : c ≠ '\r' := fun hcr => h (hcr ▸ hc)
    exact if_neg hcr
  rw [unifyNewlines, replaceCrlf_append h, List.map_append, hline, unifyNewlines]

theorem head?_intercalate_return {lines : List (List Char)} (h : ∀ line ∈ lines, IsLine line) :
    (Newline.cr.chars.intercalate lines).head? ≠ some '\n' := by
  match lines with
  | [] => simp
  | [] :: [] => simp
  | [] :: m :: rest => simp [List.intercalate_cons_cons, Newline.chars]
  | (c :: line) :: rest =>
    have hc : c ≠ '\n' := fun hc => (h _ List.mem_cons_self).2 (hc ▸ List.mem_cons_self)
    cases rest <;> simp [hc, List.intercalate_cons_cons]

/-- The newline convention of a text does not matter. -/
theorem unifyNewlines_intercalate (newline : Newline) {lines : List (List Char)}
    (h : ∀ line ∈ lines, IsLine line) :
    unifyNewlines (newline.chars.intercalate lines) = ['\n'].intercalate lines := by
  induction lines with
  | nil => rfl
  | cons line lines ih =>
    have hline := (h line List.mem_cons_self).1
    have hlines : ∀ m ∈ lines, IsLine m := fun m hm => h m (List.mem_cons_of_mem _ hm)
    cases lines with
    | nil =>
      have hsingle := unifyNewlines_append hline []
      simpa [unifyNewlines, replaceCrlf] using hsingle
    | cons m rest =>
      have hrest := ih hlines
      rw [List.intercalate_cons_cons, List.intercalate_cons_cons, List.append_assoc,
        unifyNewlines_append hline, ← hrest, List.append_assoc]
      congr 1
      cases newline with
      | lf => simp [Newline.chars, unifyNewlines, replaceCrlf]
      | crlf => simp [Newline.chars, unifyNewlines, replaceCrlf]
      | cr =>
        have hreturn := replaceCrlf_return (head?_intercalate_return hlines)
        rw [unifyNewlines, Newline.chars, List.singleton_append]
        rw [Newline.chars] at hreturn
        rw [hreturn]
        simp [unifyNewlines]

/-! ## Blank lines -/

section Split

variable {α β : Type} [DecidableEq α] (c : α)

/-- The pieces between occurrences of two separators in a row. -/
@[grind =] def splitDouble : List α → List (List α)
  | [] => [[]]
  | [a] => [[a]]
  | a :: b :: rest =>
    if a = c ∧ b = c then [] :: splitDouble rest
    else (splitDouble (b :: rest)).modifyHead (a :: ·)

variable {c} {line rest : List α}

theorem splitDouble_cons_of_ne {a : α} (h : a ≠ c) (rest : List α) :
    splitDouble c (a :: rest) = (splitDouble c rest).modifyHead (a :: ·) := by
  cases rest with
  | nil => rfl
  | cons b rest => rw [splitDouble, if_neg fun hboth => h hboth.1]

theorem splitDouble_append (h : c ∉ line) (rest : List α) :
    splitDouble c (line ++ rest) = (splitDouble c rest).modifyHead (line ++ ·) := by
  induction line with
  | nil =>
    rw [List.nil_append]
    cases splitDouble c rest <;> rfl
  | cons a line ih =>
    have ha : a ≠ c := fun ha => h (ha ▸ List.mem_cons_self)
    have hline : c ∉ line := fun hmem => h (List.mem_cons_of_mem _ hmem)
    rw [List.cons_append, splitDouble_cons_of_ne ha, ih hline, List.modifyHead_modifyHead]
    rfl

theorem splitDouble_single (h : rest.head? ≠ some c) :
    splitDouble c (c :: rest) = (splitDouble c rest).modifyHead (c :: ·) := by
  cases rest with
  | nil => rfl
  | cons b rest =>
    rw [splitDouble, if_neg fun hboth => h (by rw [hboth.2]; rfl)]

theorem splitDouble_double (rest : List α) :
    splitDouble c (c :: c :: rest) = [] :: splitDouble c rest := by
  rw [splitDouble, if_pos ⟨rfl, rfl⟩]

omit [DecidableEq α] in
theorem mem_modifyHead_cons {a : α} {piece : List α} {pieces : List (List α)}
    (h : piece ∈ pieces.modifyHead (a :: ·)) :
    piece ∈ pieces ∨ ∃ first ∈ pieces, piece = a :: first := by
  cases pieces with
  | nil => cases h
  | cons first pieces =>
    rcases List.mem_cons.mp h with rfl | h
    · exact .inr ⟨first, List.mem_cons_self, rfl⟩
    · exact .inl (List.mem_cons_of_mem _ h)

theorem mem_of_mem_splitDouble {a : α} : ∀ {text piece : List α},
    piece ∈ splitDouble c text → a ∈ piece → a ∈ text
  | [], piece, hpiece, ha => by simp_all [splitDouble]
  | [b], piece, hpiece, ha => by simp_all [splitDouble]
  | b :: d :: rest, piece, hpiece, ha => by
    rw [splitDouble] at hpiece
    split_ifs at hpiece
    · rcases List.mem_cons.mp hpiece with rfl | hpiece
      · cases ha
      · have hrest := mem_of_mem_splitDouble hpiece ha
        simp [hrest]
    · rcases mem_modifyHead_cons hpiece with hpiece | ⟨first, hfirst, rfl⟩
      · exact List.mem_cons_of_mem _ (mem_of_mem_splitDouble hpiece ha)
      · rcases List.mem_cons.mp ha with rfl | ha
        · exact List.mem_cons_self
        · exact List.mem_cons_of_mem _ (mem_of_mem_splitDouble hfirst ha)

theorem mem_of_mem_splitOn {a : α} {text piece : List α} (hpiece : piece ∈ text.splitOn c)
    (ha : a ∈ piece) : a ∈ text := by
  induction text generalizing piece with
  | nil => simp_all
  | cons b text ih =>
    rw [List.splitOn_cons_eq_if_modifyHead] at hpiece
    split_ifs at hpiece
    · rcases List.mem_cons.mp hpiece with rfl | hpiece
      · cases ha
      · exact List.mem_cons_of_mem _ (ih hpiece ha)
    · rcases mem_modifyHead_cons hpiece with hpiece | ⟨first, hfirst, rfl⟩
      · exact List.mem_cons_of_mem _ (ih hpiece ha)
      · rcases List.mem_cons.mp ha with rfl | ha
        · exact List.mem_cons_self
        · exact List.mem_cons_of_mem _ (ih hfirst ha)

variable (c) in
/-- What is read from the lines of each piece. -/
def sections (read : List α → Option β) (text : List α) : List (List β) :=
  (splitDouble c text).map fun piece => (piece.splitOn c).filterMap read

/-- What is read from the lines between blank lines. -/
@[grind =] def groups (read : List α → Option β) (lines : List (List α)) : List (List β) :=
  (lines.splitOn []).map fun group => group.filterMap read

variable {read : List α → Option β}

theorem groups_nil : groups read ([] : List (List α)) = [[]] := by
  simp [groups]

theorem groups_blank (lines : List (List α)) :
    groups read ([] :: lines) = [] :: groups read lines := by
  simp [groups, List.splitOn_cons_eq_if_modifyHead]

theorem groups_cons (h : line ≠ []) (lines : List (List α)) :
    groups read (line :: lines) = (groups read lines).modifyHead ((read line).toList ++ ·) := by
  have hne : (line == []) = false := by simpa using h
  obtain ⟨head, tail, hsplit⟩ := List.exists_cons_of_ne_nil (List.splitOn_ne_nil [] lines)
  rw [groups, groups, List.splitOn_cons_eq_if_modifyHead, hne, hsplit]
  cases hread : read line <;> simp [hread]

theorem read_line (h : c ∉ line) : (line.splitOn c).filterMap read = (read line).toList := by
  rw [List.splitOn_eq_singleton h]
  cases hread : read line <;> simp [hread]

theorem read_append (h : c ∉ line) (rest : List α) :
    ((line ++ c :: rest).splitOn c).filterMap read =
      (read line).toList ++ (rest.splitOn c).filterMap read := by
  rw [List.splitOn_append_cons_self_of_not_mem h]
  cases hread : read line <;> simp [hread]

/-- The groups that something was read from. -/
def kept (found : List (List β)) : List (List β) := found.filter fun group => !group.isEmpty

theorem kept_cons {found found' : List (List β)} (first : List β) (h : kept found = kept found') :
    kept (first :: found) = kept (first :: found') := by
  simp only [kept] at h ⊢
  rw [List.filter_cons, List.filter_cons, h]

/-- The pieces of a text are the groups of its lines, up to pieces that nothing is read from. The
first piece is the first group unless the text starts with a blank line. -/
theorem sections_intercalate (hread : read [] = none) : ∀ lines : List (List α),
    (∀ line ∈ lines, c ∉ line) →
    kept (sections c read ([c].intercalate lines)) = kept (groups read lines) ∧
      (lines.head? ≠ some [] → ∃ first found found',
        sections c read ([c].intercalate lines) = first :: found ∧
          groups read lines = first :: found' ∧ kept found = kept found')
  | [], _ => by simp [sections, splitDouble, groups_nil, hread, kept]
  | [line], h => by
    have hline : c ∉ line := h line List.mem_cons_self
    have hsections : sections c read line = [(read line).toList] := by
      have hpiece := splitDouble_append hline []
      rw [List.append_nil] at hpiece
      simp [sections, hpiece, splitDouble, read_line hline]
    have htext : [c].intercalate [line] = line := by simp
    rw [htext, hsections]
    cases line with
    | nil => simp [groups_blank, groups_nil, hread, kept]
    | cons a line => simp [groups_cons, groups_nil, kept]
  | [line, []], h => by
    have hline : c ∉ line := h line List.mem_cons_self
    have hsections : sections c read (line ++ [c]) = [(read line).toList] := by
      simp [sections, splitDouble_append hline, splitDouble, read_append hline, hread]
    have htext : [c].intercalate [line, []] = line ++ [c] := by simp [List.intercalate_cons_cons]
    rw [htext, hsections]
    cases line with
    | nil => simp [groups_blank, groups_nil, hread, kept]
    | cons a line =>
      have hgroups : groups read [a :: line, []] = (read (a :: line)).toList :: [[]] := by
        simp [groups_cons, groups_blank, groups_nil]
      rw [hgroups]
      have hkept : kept ([] : List (List β)) = kept [[]] := by simp [kept]
      exact ⟨kept_cons _ hkept, fun _ => ⟨_, _, _, rfl, rfl, hkept⟩⟩
  | line :: [] :: m :: rest, h => by
    have hline : c ∉ line := h line List.mem_cons_self
    have hrest := sections_intercalate hread (m :: rest) fun other hother =>
      h other (List.mem_cons_of_mem _ (List.mem_cons_of_mem _ hother))
    set text := [c].intercalate (m :: rest)
    have htext : [c].intercalate (line :: [] :: m :: rest) = line ++ c :: c :: text := by
      simp [List.intercalate_cons_cons, text]
    have hsections : sections c read (line ++ c :: c :: text) =
        (read line).toList :: sections c read text := by
      simp [sections, splitDouble_append hline, splitDouble_double, read_line hline]
    rw [htext, hsections]
    cases line with
    | nil => simpa [groups_blank, hread, kept] using hrest.1
    | cons a line =>
      have hgroups : groups read ((a :: line) :: [] :: m :: rest) =
          (read (a :: line)).toList :: groups read (m :: rest) := by
        simp [groups_cons, groups_blank]
      rw [hgroups]
      exact ⟨kept_cons _ hrest.1, fun _ => ⟨_, _, _, rfl, rfl, hrest.1⟩⟩
  | line :: (a :: m) :: rest, h => by
    have hline : c ∉ line := h line List.mem_cons_self
    have ha : a ≠ c := fun ha =>
      h (a :: m) (List.mem_cons_of_mem _ List.mem_cons_self) (ha ▸ List.mem_cons_self)
    have hrest := sections_intercalate hread ((a :: m) :: rest) fun other hother =>
      h other (List.mem_cons_of_mem _ hother)
    set text := [c].intercalate ((a :: m) :: rest) with htext
    have hhead : text.head? ≠ some c := by
      cases rest <;> simp [htext, List.intercalate_cons_cons, ha]
    have hjoin : [c].intercalate (line :: (a :: m) :: rest) = line ++ c :: text := by
      simp [List.intercalate_cons_cons, text]
    obtain ⟨first, found, found', hfirst, hgroups, hfound⟩ := hrest.2 (by simp)
    obtain ⟨piece, pieces, hsplit⟩ : ∃ piece pieces, splitDouble c text = piece :: pieces := by
      cases hsplit : splitDouble c text with
      | nil => simp [sections, hsplit] at hfirst
      | cons piece pieces => exact ⟨piece, pieces, rfl⟩
    have hsections : sections c read (line ++ c :: text) =
        ((read line).toList ++ first) :: found := by
      rw [sections, hsplit, List.map_cons, List.cons.injEq] at hfirst
      rw [sections, splitDouble_append hline, splitDouble_single hhead, hsplit]
      simp [read_append hline, hfirst.1, ← hfirst.2]
    rw [hjoin, hsections]
    cases line with
    | nil =>
      have hkept := hrest.1
      rw [hfirst] at hkept
      simpa [groups_blank, hread, kept] using hkept
    | cons b line =>
      have hcons : groups read ((b :: line) :: (a :: m) :: rest) =
          ((read (b :: line)).toList ++ first) :: found' := by
        rw [groups_cons (by simp), hgroups, List.modifyHead_cons]
      rw [hcons]
      exact ⟨kept_cons _ hfound, fun _ => ⟨_, _, _, rfl, rfl, hfound⟩⟩

end Split

end Quillframe
