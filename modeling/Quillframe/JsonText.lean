import Mathlib.Data.List.Infix
import Quillframe.Brackets

/-!
# JSON texts as characters

The grammar of JSON over lists of characters, and a scanner that follows strings and open
brackets. A text of the grammar leaves the scanner where it was.
-/
namespace Quillframe.JsonText

open Brackets (Token Balanced)

/-! ## The grammar -/

def isSpace (c : Char) : Bool := c = ' ' || c = '\t' || c = '\n' || c = '\r'

/-- The characters of literals and numbers. -/
def isBare (c : Char) : Bool := c.isAlphanum || c = '+' || c = '-' || c = '.'

def isHex (c : Char) : Bool :=
  c.isDigit || ('a' ≤ c && c ≤ 'f') || ('A' ≤ c && c ≤ 'F')

def Space (s : List Char) : Prop := ∀ c ∈ s, isSpace c = true

def Digits (s : List Char) : Prop := s ≠ [] ∧ ∀ c ∈ s, c.isDigit = true

/-- A number: a sign, an integer without leading zeros, a fraction and an exponent. -/
def NumberText (s : List Char) : Prop :=
  ∃ sign whole fraction power, s = sign ++ (whole ++ (fraction ++ power)) ∧
    (sign = [] ∨ sign = ['-']) ∧
    (Digits whole ∧ (whole.head? = some '0' → whole = ['0'])) ∧
    (fraction = [] ∨ ∃ digits, Digits digits ∧ fraction = '.' :: digits) ∧
    (power = [] ∨ ∃ mark plus digits, (mark = 'e' ∨ mark = 'E') ∧
      (plus = [] ∨ plus = ['+'] ∨ plus = ['-']) ∧ Digits digits ∧
      power = mark :: (plus ++ digits))

/-- What stands between the quotes of a string. -/
inductive StringBody : List Char → Prop
  | nil : StringBody []
  | char {c : Char} {s : List Char} : 0x20 ≤ c.toNat → c ≠ '"' → c ≠ '\\' →
    StringBody s → StringBody (c :: s)
  | escape {c : Char} {s : List Char} : c ∈ ['"', '\\', '/', 'b', 'f', 'n', 'r', 't'] →
    StringBody s → StringBody ('\\' :: c :: s)
  | unicode {a b c d : Char} {s : List Char} : isHex a = true → isHex b = true →
    isHex c = true → isHex d = true → StringBody s →
    StringBody ('\\' :: 'u' :: a :: b :: c :: d :: s)

def StringText (s : List Char) : Prop := ∃ body, StringBody body ∧ s = '"' :: (body ++ ['"'])

inductive Nonterminal where
  | value | element | elements | member | members
  deriving DecidableEq, Repr

inductive Derives : Nonterminal → List Char → Prop
  | word {s : List Char} : s ∈ ["true".toList, "false".toList, "null".toList] → Derives .value s
  | number {s : List Char} : NumberText s → Derives .value s
  | string {s : List Char} : StringText s → Derives .value s
  | emptyArray {s : List Char} : Space s → Derives .value ('[' :: (s ++ [']']))
  | array {s : List Char} : Derives .elements s → Derives .value ('[' :: (s ++ [']']))
  | emptyObject {s : List Char} : Space s → Derives .value ('\x7b' :: (s ++ ['\x7d']))
  | object {s : List Char} : Derives .members s → Derives .value ('\x7b' :: (s ++ ['\x7d']))
  | element {a s b : List Char} : Space a → Derives .value s → Space b →
    Derives .element (a ++ (s ++ b))
  | lastElement {s : List Char} : Derives .element s → Derives .elements s
  | moreElements {s rest : List Char} : Derives .element s → Derives .elements rest →
    Derives .elements (s ++ ',' :: rest)
  | member {a key b s : List Char} : Space a → StringText key → Space b → Derives .element s →
    Derives .member (a ++ (key ++ (b ++ ':' :: s)))
  | lastMember {s : List Char} : Derives .member s → Derives .members s
  | moreMembers {s rest : List Char} : Derives .member s → Derives .members rest →
    Derives .members (s ++ ',' :: rest)

/-- A whole text is one value with white space around it. -/
def IsText (s : List Char) : Prop := Derives .element s

/-! ## Characters -/

theorem isBare_of_isDigit {c : Char} (h : c.isDigit = true) : isBare c = true := by
  simp [isBare, Char.isAlphanum, h]

theorem space_le_of_isBare {c : Char} (h : isBare c = true) : 0x20 ≤ c.toNat := by
  change (((((decide (c.val ≥ 'A'.val ∧ c.val ≤ 'Z'.val) || c.val ≥ 'a'.val && c.val ≤ 'z'.val) ||
    c.val ≥ '0'.val && c.val ≤ '9'.val) || c = '+') || c = '-') || c = '.') = true at h
  simp only [Bool.or_eq_true, Bool.and_eq_true, decide_eq_true_eq, ge_iff_le,
    UInt32.le_iff_toNat_le] at h
  rcases h with ((((⟨h, -⟩ | ⟨h, -⟩) | ⟨h, -⟩) | rfl) | rfl) | rfl
  · exact le_trans (by decide) h
  · exact le_trans (by decide) h
  · exact le_trans (by decide) h
  · decide
  · decide
  · decide

theorem Digits.isBare {s : List Char} (h : Digits s) : ∀ c ∈ s, isBare c = true :=
  fun c hc => isBare_of_isDigit (h.2 c hc)

/-- Literals and numbers are words of bare characters. -/
theorem NumberText.isBare {s : List Char} (h : NumberText s) :
    s ≠ [] ∧ ∀ c ∈ s, isBare c = true := by
  obtain ⟨sign, whole, fraction, power, rfl, hsign, ⟨hwhole, -⟩, hfraction, hpower⟩ := h
  have hsigned : ∀ c ∈ sign, JsonText.isBare c = true := by
    rcases hsign with rfl | rfl
    · simp
    · simp; decide
  have hdotted : ∀ c ∈ fraction, JsonText.isBare c = true := by
    rcases hfraction with rfl | ⟨digits, hdigits, rfl⟩
    · simp
    · exact List.forall_mem_cons.mpr ⟨by decide, hdigits.isBare⟩
  have hraised : ∀ c ∈ power, JsonText.isBare c = true := by
    rcases hpower with rfl | ⟨mark, plus, digits, hmark, hplus, hdigits, rfl⟩
    · simp
    · refine List.forall_mem_cons.mpr ⟨by rcases hmark with rfl | rfl <;> decide, ?_⟩
      refine List.forall_mem_append.mpr ⟨?_, hdigits.isBare⟩
      rcases hplus with rfl | rfl | rfl
      · simp
      · simp; decide
      · simp; decide
  constructor
  · simp [hwhole.1]
  · simp only [List.forall_mem_append]
    exact ⟨hsigned, hwhole.isBare, hdotted, hraised⟩

theorem word_isBare {s : List Char}
    (h : s ∈ ["true".toList, "false".toList, "null".toList]) :
    s ≠ [] ∧ ∀ c ∈ s, isBare c = true := by
  revert s
  decide

/-! ## The scanner -/

inductive Bracket where
  | brace | square
  deriving DecidableEq, Repr

def Bracket.closer : Bracket → Char
  | brace => '\x7d'
  | square => ']'

@[grind =] def token : Char → Token Bracket
  | '\x7b' => .opening .brace
  | '[' => .opening .square
  | '\x7d' => .closing .brace
  | ']' => .closing .square
  | _ => .inert

structure Scan where
  stack : List Bracket
  inString : Bool
  escaped : Bool
  deriving DecidableEq, Repr

/-- Between the strings, with some brackets open. -/
def Scan.outside (stack : List Bracket) : Scan := ⟨stack, false, false⟩

def Scan.inside (stack : List Bracket) : Scan := ⟨stack, true, false⟩

@[simp] theorem Scan.outside_stack (stack : List Bracket) : (outside stack).stack = stack := rfl

@[simp] theorem Scan.outside_inString (stack : List Bracket) :
    (outside stack).inString = false := rfl

@[simp] theorem Scan.outside_escaped (stack : List Bracket) :
    (outside stack).escaped = false := rfl

theorem Scan.eq_outside {st : Scan} (hstring : st.inString = false)
    (hescaped : st.escaped = false) : st = outside st.stack := by
  obtain ⟨stack, inString, escaped⟩ := st
  cases hstring
  cases hescaped
  rfl

/-- One character; `bad` names those that are refused inside and outside of strings. -/
@[grind =] def step (bad : Bool → Char → Bool) (st : Scan) (c : Char) : Option Scan :=
  if st.inString then
    if st.escaped then some { st with escaped := false }
    else if c = '\\' then some { st with escaped := true }
    else if c = '"' then some { st with inString := false }
    else if bad true c then none else some st
  else if c = '"' then some { st with inString := true }
  else if token c = .inert ∧ bad false c = true then none
  else (Brackets.pass st.stack (token c)).map fun stack => { st with stack }

@[grind =] def scan (bad : Bool → Char → Bool) (st : Scan) (s : List Char) : Option Scan :=
  s.foldlM (step bad) st

section Scanning

variable {bad : Bool → Char → Bool} {st : Scan} {stack : List Bracket} {c : Char}
  {s front rest : List Char}

@[simp] theorem scan_nil : scan bad st [] = some st := rfl

theorem scan_cons : scan bad st (c :: rest) = (step bad st c).bind fun next =>
    scan bad next rest := rfl

theorem scan_append :
    scan bad st (front ++ rest) = (scan bad st front).bind fun next => scan bad next rest := by
  rw [scan, List.foldlM_append]
  rfl

theorem step_quote : step bad (.outside stack) '"' = some (.inside stack) := rfl

theorem step_unquote : step bad (.inside stack) '"' = some (.outside stack) := rfl

theorem step_escape : step bad (.inside stack) '\\' = some ⟨stack, true, true⟩ := rfl

theorem step_escaped : step bad ⟨stack, true, true⟩ c = some (.inside stack) := rfl

theorem step_inside (hslash : c ≠ '\\') (hquote : c ≠ '"') :
    step bad (.inside stack) c = if bad true c then none else some (.inside stack) := by
  simp [step, Scan.inside, hslash, hquote]

theorem step_outside (hquote : c ≠ '"') (hbad : token c = .inert → bad false c = false) :
    step bad (.outside stack) c = (Brackets.pass stack (token c)).map Scan.outside := by
  have hkept : ¬ (token c = .inert ∧ bad false c = true) := by
    rintro ⟨hinert, hrefused⟩
    rw [hbad hinert] at hrefused
    cases hrefused
  rw [step]
  simp only [Scan.outside, Bool.false_eq_true, if_false, hquote, hkept]
  rfl

/-- A run of characters that are neither quotes nor brackets. -/
theorem scan_plain (h : ∀ c ∈ s, c ≠ '"' ∧ token c = .inert ∧ bad false c = false) :
    scan bad (.outside stack) s = some (.outside stack) := by
  induction s with
  | nil => rfl
  | cons c s ih =>
    obtain ⟨⟨hquote, hinert, hbad⟩, hrest⟩ := List.forall_mem_cons.mp h
    rw [scan_cons, step_outside hquote fun _ => hbad, hinert]
    exact ih hrest

/-- The scanner refuses no character of a text outside of strings, and none that JSON allows
inside of them. -/
def Allows (bad : Bool → Char → Bool) (s : List Char) : Prop :=
  ∀ c ∈ s, bad false c = false ∧ (0x20 ≤ c.toNat → bad true c = false)

theorem allows_append : Allows bad (front ++ rest) ↔ Allows bad front ∧ Allows bad rest :=
  List.forall_mem_append

theorem allows_cons : Allows bad (c :: rest) ↔
    (bad false c = false ∧ (0x20 ≤ c.toNat → bad true c = false)) ∧ Allows bad rest :=
  List.forall_mem_cons

theorem isHex_plain (h : isHex c = true) : c ≠ '\\' ∧ c ≠ '"' ∧ 0x20 ≤ c.toNat := by
  have hlow : 0x20 ≤ c.toNat := by
    simp only [isHex, Char.isDigit, Bool.or_eq_true, Bool.and_eq_true, decide_eq_true_eq,
      ge_iff_le, UInt32.le_iff_toNat_le, Char.le_def] at h
    rcases h with (⟨h, -⟩ | ⟨h, -⟩) | ⟨h, -⟩
    · exact le_trans (by decide) h
    · exact le_trans (by decide) h
    · exact le_trans (by decide) h
  refine ⟨?_, ?_, hlow⟩
  · rintro rfl
    revert h
    decide
  · rintro rfl
    revert h
    decide

theorem scan_inside (hslash : c ≠ '\\') (hquote : c ≠ '"') (hallowed : bad true c = false) :
    scan bad (.inside stack) (c :: rest) = scan bad (.inside stack) rest := by
  rw [scan_cons, step_inside hslash hquote, hallowed]
  rfl

theorem StringBody.scan (h : StringBody s) (hallows : Allows bad s) :
    JsonText.scan bad (.inside stack) s = some (.inside stack) := by
  induction h with
  | nil => rfl
  | char hlow hquote hslash _ ih =>
    obtain ⟨⟨-, hallowed⟩, hrest⟩ := allows_cons.mp hallows
    rw [scan_inside hslash hquote (hallowed hlow)]
    exact ih hrest
  | escape _ _ ih =>
    obtain ⟨-, hescaped⟩ := allows_cons.mp hallows
    rw [scan_cons, step_escape, Option.bind_some, scan_cons, step_escaped]
    exact ih (allows_cons.mp hescaped).2
  | unicode ha hb hc hd _ ih =>
    simp only [allows_cons] at hallows
    obtain ⟨-, -, ⟨-, hallowedA⟩, ⟨-, hallowedB⟩, ⟨-, hallowedC⟩, ⟨-, hallowedD⟩, hrest⟩ := hallows
    obtain ⟨hslashA, hquoteA, hlowA⟩ := isHex_plain ha
    obtain ⟨hslashB, hquoteB, hlowB⟩ := isHex_plain hb
    obtain ⟨hslashC, hquoteC, hlowC⟩ := isHex_plain hc
    obtain ⟨hslashD, hquoteD, hlowD⟩ := isHex_plain hd
    rw [scan_cons, step_escape, Option.bind_some, scan_cons, step_escaped, Option.bind_some,
      scan_inside hslashA hquoteA (hallowedA hlowA), scan_inside hslashB hquoteB (hallowedB hlowB),
      scan_inside hslashC hquoteC (hallowedC hlowC), scan_inside hslashD hquoteD (hallowedD hlowD)]
    exact ih hrest

theorem StringText.scan (h : StringText s) (hallows : Allows bad s) :
    JsonText.scan bad (.outside stack) s = some (.outside stack) := by
  obtain ⟨body, hbody, rfl⟩ := h
  have hinner := (allows_append.mp (allows_cons.mp hallows).2).1
  rw [scan_cons, step_quote, Option.bind_some, scan_append, hbody.scan hinner, Option.bind_some,
    scan_cons, step_unquote]
  rfl

theorem isBare_plain (h : isBare c = true) : c ≠ '"' ∧ token c = .inert := by
  refine ⟨?_, ?_⟩
  · rintro rfl
    revert h
    decide
  · unfold token
    split
    all_goals first | rfl | (revert h; decide)

theorem isSpace_plain (h : isSpace c = true) : c ≠ '"' ∧ token c = .inert := by
  simp only [isSpace, Bool.or_eq_true, decide_eq_true_eq] at h
  rcases h with ((rfl | rfl) | rfl) | rfl <;> decide

theorem scan_bare (h : ∀ c ∈ s, isBare c = true) (hallows : Allows bad s) :
    scan bad (.outside stack) s = some (.outside stack) := by
  refine scan_plain fun c hc => ?_
  obtain ⟨hquote, hinert⟩ := isBare_plain (h c hc)
  exact ⟨hquote, hinert, (hallows c hc).1⟩

theorem Space.scan (h : Space s) (hallows : Allows bad s) :
    JsonText.scan bad (.outside stack) s = some (.outside stack) := by
  refine scan_plain fun c hc => ?_
  obtain ⟨hquote, hinert⟩ := isSpace_plain (h c hc)
  exact ⟨hquote, hinert, (hallows c hc).1⟩

/-- A bracketed text that the scanner passes inside its brackets. -/
theorem scan_group (kind : Bracket) {opener : Char}
    (hopener : token opener = .opening kind) (hcloser : token kind.closer = .closing kind)
    (h : scan bad (.outside (kind :: stack)) s = some (.outside (kind :: stack))) :
    scan bad (.outside stack) (opener :: (s ++ [kind.closer])) = some (.outside stack) := by
  have hquote : opener ≠ '"' := by
    rintro rfl
    cases hopener
  have hunquote : kind.closer ≠ '"' := by cases kind <;> decide
  rw [scan_cons, step_outside hquote (by simp [hopener]), hopener]
  simp only [Brackets.pass, Option.map_some, Option.bind_some]
  rw [scan_append, h, Option.bind_some, scan_cons, step_outside hunquote (by simp [hcloser]),
    hcloser]
  simp [Brackets.pass]

/-- Texts of the grammar leave the scanner where it was. -/
theorem Derives.scan {n : Nonterminal} (h : Derives n s) (hallows : Allows bad s) :
    JsonText.scan bad (.outside stack) s = some (.outside stack) := by
  induction h generalizing stack with
  | word hword => exact scan_bare (word_isBare hword).2 hallows
  | number hnumber => exact scan_bare hnumber.isBare.2 hallows
  | string hstring => exact hstring.scan hallows
  | emptyArray hspace =>
    have hinner := (allows_append.mp (allows_cons.mp hallows).2).1
    exact scan_group .square rfl rfl (hspace.scan hinner)
  | array _ ih =>
    have hinner := (allows_append.mp (allows_cons.mp hallows).2).1
    exact scan_group .square rfl rfl (ih hinner)
  | emptyObject hspace =>
    have hinner := (allows_append.mp (allows_cons.mp hallows).2).1
    exact scan_group .brace rfl rfl (hspace.scan hinner)
  | object _ ih =>
    have hinner := (allows_append.mp (allows_cons.mp hallows).2).1
    exact scan_group .brace rfl rfl (ih hinner)
  | element hbefore _ hafter ih =>
    simp only [allows_append] at hallows
    obtain ⟨hallowsA, hallowsS, hallowsB⟩ := hallows
    rw [scan_append, hbefore.scan hallowsA, Option.bind_some, scan_append, ih hallowsS,
      Option.bind_some, hafter.scan hallowsB]
  | lastElement _ ih => exact ih hallows
  | moreElements _ _ ihFirst ihRest =>
    simp only [allows_append, allows_cons] at hallows
    obtain ⟨hallowsS, hcomma, hallowsR⟩ := hallows
    rw [scan_append, ihFirst hallowsS, Option.bind_some, scan_cons,
      step_outside (by decide) fun _ => hcomma.1]
    exact ihRest hallowsR
  | member hbefore hkey hafter _ ih =>
    simp only [allows_append, allows_cons] at hallows
    obtain ⟨hallowsA, hallowsK, hallowsB, hcolon, hallowsS⟩ := hallows
    rw [scan_append, hbefore.scan hallowsA, Option.bind_some, scan_append, hkey.scan hallowsK,
      Option.bind_some, scan_append, hafter.scan hallowsB, Option.bind_some, scan_cons,
      step_outside (by decide) fun _ => hcolon.1]
    exact ih hallowsS
  | lastMember _ ih => exact ih hallows
  | moreMembers _ _ ihFirst ihRest =>
    simp only [allows_append, allows_cons] at hallows
    obtain ⟨hallowsS, hcomma, hallowsR⟩ := hallows
    rw [scan_append, ihFirst hallowsS, Option.bind_some, scan_cons,
      step_outside (by decide) fun _ => hcomma.1]
    exact ihRest hallowsR

end Scanning

/-! ## What the scanner accepts -/

section Lexing

variable {bad : Bool → Char → Bool} {stack result : List Bracket} {s : List Char}

/-- The inside of a string, up to its closing quote. -/
inductive Quoted (bad : Bool → Char → Bool) : List Char → Prop
  | nil : Quoted bad []
  | char {c : Char} {s : List Char} : c ≠ '\\' → c ≠ '"' → bad true c = false →
    Quoted bad s → Quoted bad (c :: s)
  | escape {c : Char} {s : List Char} : Quoted bad s → Quoted bad ('\\' :: c :: s)

/-- The text is cut into whole strings and the characters between them. -/
inductive Lexes (bad : Bool → Char → Bool) : List Char → List (Token Bracket) → Prop
  | nil : Lexes bad [] []
  | char {c : Char} {s : List Char} {tokens : List (Token Bracket)} : c ≠ '"' →
    (token c = .inert → bad false c = false) → Lexes bad s tokens →
    Lexes bad (c :: s) (token c :: tokens)
  | string {body s : List Char} {tokens : List (Token Bracket)} : Quoted bad body →
    Lexes bad s tokens → Lexes bad ('"' :: (body ++ '"' :: s)) (.inert :: tokens)

theorem Quoted.scan (h : Quoted bad s) :
    JsonText.scan bad (.inside stack) s = some (.inside stack) := by
  induction h with
  | nil => rfl
  | char hslash hquote hallowed _ ih =>
    rw [scan_inside hslash hquote hallowed]
    exact ih
  | escape _ ih =>
    rw [scan_cons, step_escape, Option.bind_some, scan_cons, step_escaped]
    exact ih

/-- The text is cut into tokens that lead from one stack to another. -/
def Reads (bad : Bool → Char → Bool) (stack result : List Bracket) (s : List Char) : Prop :=
  ∃ tokens, Lexes bad s tokens ∧ Brackets.run stack tokens = some result

/-- What is left of a string and the text behind it. -/
def Unquotes (bad : Bool → Char → Bool) (stack result : List Bracket) (s : List Char) : Prop :=
  ∃ body rest, s = body ++ '"' :: rest ∧ Quoted bad body ∧ Reads bad stack result rest

theorem Reads.cons {c : Char} {next : List Bracket} (hquote : c ≠ '"')
    (hbad : token c = .inert → bad false c = false)
    (hpass : Brackets.pass stack (token c) = some next) (h : Reads bad next result s) :
    Reads bad stack result (c :: s) := by
  obtain ⟨tokens, hlexes, hrun⟩ := h
  refine ⟨token c :: tokens, .char hquote hbad hlexes, ?_⟩
  rw [Brackets.run_cons, hpass]
  exact hrun

theorem Unquotes.quote (h : Unquotes bad stack result s) :
    Reads bad stack result ('"' :: s) := by
  obtain ⟨body, rest, rfl, hbody, tokens, hlexes, hrun⟩ := h
  exact ⟨.inert :: tokens, .string hbody hlexes, hrun⟩

/-- From each of the three scanner states, what a run that ends between the strings has read. -/
theorem reads_of_scan (s : List Char) (stack : List Bracket) :
    (scan bad (.outside stack) s = some (.outside result) → Reads bad stack result s) ∧
    (scan bad (.inside stack) s = some (.outside result) → Unquotes bad stack result s) ∧
    (scan bad ⟨stack, true, true⟩ s = some (.outside result) →
      ∃ c rest, s = c :: rest ∧ Unquotes bad stack result rest) := by
  induction s generalizing stack with
  | nil =>
    refine ⟨fun h => ?_, fun h => ?_, fun h => ?_⟩
    · obtain rfl : stack = result := by simpa [Scan.outside] using h
      exact ⟨[], .nil, rfl⟩
    · simp [Scan.inside, Scan.outside] at h
    · simp [Scan.outside] at h
  | cons c s ih =>
    obtain ⟨ihOutside, ihInside, ihEscaped⟩ := forall_and.mp ih |>.imp_right forall_and.mp
    refine ⟨fun h => ?_, fun h => ?_, fun h => ?_⟩
    · rw [scan_cons, Option.bind_eq_some_iff] at h
      obtain ⟨next, hstep, hrest⟩ := h
      by_cases hquote : c = '"'
      · subst hquote
        rw [step_quote, Option.some.injEq] at hstep
        subst hstep
        exact (ihInside stack hrest).quote
      · by_cases hbad : token c = .inert ∧ bad false c = true
        · simp [step, Scan.outside, hquote, hbad] at hstep
        · have hallowed : token c = .inert → bad false c = false := by
            intro hinert
            simpa [hinert] using hbad
          rw [step_outside hquote hallowed, Option.map_eq_some_iff] at hstep
          obtain ⟨below, hpass, rfl⟩ := hstep
          exact (ihOutside below hrest).cons hquote hallowed hpass
    · rw [scan_cons, Option.bind_eq_some_iff] at h
      obtain ⟨next, hstep, hrest⟩ := h
      by_cases hslash : c = '\\'
      · subst hslash
        rw [step_escape, Option.some.injEq] at hstep
        subst hstep
        obtain ⟨escaped, after, rfl, body, rest, rfl, hbody, hreads⟩ := ihEscaped stack hrest
        exact ⟨'\\' :: escaped :: body, rest, rfl, hbody.escape, hreads⟩
      · by_cases hquote : c = '"'
        · subst hquote
          rw [step_unquote, Option.some.injEq] at hstep
          subst hstep
          exact ⟨[], s, rfl, .nil, ihOutside stack hrest⟩
        · rw [step_inside hslash hquote] at hstep
          split at hstep
          · cases hstep
          · rename_i hallowed
            cases hstep
            obtain ⟨body, rest, rfl, hbody, hreads⟩ := ihInside stack hrest
            exact ⟨c :: body, rest, rfl, hbody.char hslash hquote (by simpa using hallowed),
              hreads⟩
    · rw [scan_cons, step_escaped, Option.bind_some] at h
      exact ⟨c, s, rfl, ihInside stack h⟩

theorem Lexes.scan {tokens : List (Token Bracket)} (h : Lexes bad s tokens) :
    JsonText.scan bad (.outside stack) s = (Brackets.run stack tokens).map Scan.outside := by
  induction h generalizing stack with
  | nil => rfl
  | char hquote hbad _ ih =>
    rw [scan_cons, step_outside hquote hbad, Brackets.run_cons]
    cases Brackets.pass stack (token _) with
    | none => rfl
    | some next => exact ih
  | string hbody _ ih =>
    rw [scan_cons, step_quote, Option.bind_some, scan_append, hbody.scan, Option.bind_some,
      scan_cons, step_unquote]
    exact ih

/-- The scanner ends between the strings with some brackets open exactly when the text is cut
into whole strings and characters, and closing these brackets balances it. -/
theorem scan_eq_some_iff :
    scan bad (.outside []) s = some (.outside stack) ↔
      ∃ tokens, Lexes bad s tokens ∧ Balanced (tokens ++ stack.map .closing) := by
  constructor
  · intro h
    obtain ⟨tokens, hlexes, hrun⟩ := (reads_of_scan s []).1 h
    exact ⟨tokens, hlexes, Brackets.run_eq_some_iff.mp hrun⟩
  · rintro ⟨tokens, hlexes, hbalanced⟩
    rw [hlexes.scan, Brackets.run_eq_some_iff.mpr hbalanced]
    rfl

end Lexing

/-! ## The edges of a text -/

section Edges

variable {s front : List Char}

/-- The characters that a text of the grammar begins and ends with. -/
def isEdge (c : Char) : Bool :=
  isSpace c || isBare c || c = '"' || token c ≠ .inert

def Edged (s : List Char) : Prop :=
  (∃ c rest, s = c :: rest ∧ isEdge c = true) ∧ ∃ before c, s = before ++ [c] ∧ isEdge c = true

theorem edged_of_forall (hne : s ≠ []) (h : ∀ c ∈ s, isEdge c = true) : Edged s := by
  constructor
  · obtain ⟨c, rest, rfl⟩ := List.exists_cons_of_ne_nil hne
    exact ⟨c, rest, rfl, h c List.mem_cons_self⟩
  · obtain ⟨before, c, rfl⟩ := List.eq_nil_or_concat' s |>.resolve_left hne
    exact ⟨before, c, rfl, h c (by simp)⟩

theorem edged_of_ends {opener closer : Char} (hopener : isEdge opener = true)
    (hcloser : isEdge closer = true) : Edged (opener :: (s ++ [closer])) :=
  ⟨⟨opener, _, rfl, hopener⟩, ⟨opener :: s, closer, rfl, hcloser⟩⟩

/-- The three kinds of values: words of bare characters, strings, and bracketed texts. -/
theorem Derives.value_cases (h : Derives .value s) :
    (s ≠ [] ∧ ∀ c ∈ s, isBare c = true) ∨ StringText s ∨ (∃ inner, s = '[' :: (inner ++ [']'])) ∨
      ∃ inner, s = '\x7b' :: (inner ++ ['\x7d']) ∧ (Space inner ∨ Derives .members inner) := by
  cases h with
  | word hword => exact .inl (word_isBare hword)
  | number hnumber => exact .inl hnumber.isBare
  | string hstring => exact .inr (.inl hstring)
  | emptyArray _ => exact .inr (.inr (.inl ⟨_, rfl⟩))
  | array _ => exact .inr (.inr (.inl ⟨_, rfl⟩))
  | emptyObject hspace => exact .inr (.inr (.inr ⟨_, rfl, .inl hspace⟩))
  | object hmembers => exact .inr (.inr (.inr ⟨_, rfl, .inr hmembers⟩))

theorem Derives.value_edged (h : Derives .value s) : Edged s := by
  rcases h.value_cases with ⟨hne, hbare⟩ | ⟨body, -, rfl⟩ | ⟨inner, rfl⟩ | ⟨inner, rfl, -⟩
  · exact edged_of_forall hne fun c hc => by simp [isEdge, hbare c hc]
  · exact edged_of_ends rfl rfl
  · exact edged_of_ends rfl rfl
  · exact edged_of_ends rfl rfl

theorem IsText.exists (h : IsText s) : ∃ before value after,
    s = before ++ (value ++ after) ∧ Space before ∧ Derives .value value ∧ Space after := by
  cases h with
  | element hbefore hvalue hafter => exact ⟨_, _, _, rfl, hbefore, hvalue, hafter⟩

theorem IsText.edged (h : IsText s) : Edged s := by
  obtain ⟨before, value, after, rfl, hbefore, hvalue, hafter⟩ := h.exists
  obtain ⟨⟨first, rest, hfirst, hedge⟩, ⟨front, last, hlast, hedge'⟩⟩ := hvalue.value_edged
  constructor
  · cases before with
    | nil => exact ⟨first, rest ++ after, by simp [hfirst], hedge⟩
    | cons c before =>
      have hspace := hbefore c List.mem_cons_self
      exact ⟨c, _, rfl, by simp [isEdge, hspace]⟩
  · rcases List.eq_nil_or_concat' after with rfl | ⟨after, c, rfl⟩
    · exact ⟨before ++ front, last, by simp [hlast], hedge'⟩
    · have hspace := hafter c (by simp)
      exact ⟨before ++ (value ++ after), c, by simp, by simp [isEdge, hspace]⟩

theorem StringBody.quote_escaped (h : StringBody s) :
    ∀ t, s = t ++ ['"'] → ∃ u, t = u ++ ['\\'] := by
  induction h with
  | nil => simp
  | @char c s _ hquote _ _ ih =>
    intro t ht
    cases t with
    | nil => simp_all
    | cons d t =>
      obtain ⟨rfl, rfl⟩ := List.cons.inj ht
      obtain ⟨u, rfl⟩ := ih t rfl
      exact ⟨c :: u, rfl⟩
  | @escape c s _ _ ih =>
    intro t ht
    match t with
    | [] => simp at ht
    | [d] =>
      obtain ⟨rfl, -⟩ := List.cons.inj ht
      exact ⟨[], rfl⟩
    | d :: e :: t =>
      simp only [List.cons_append, List.cons.injEq] at ht
      obtain ⟨rfl, rfl, hrest⟩ := ht
      obtain ⟨u, rfl⟩ := ih t hrest
      exact ⟨'\\' :: c :: u, rfl⟩
  | @unicode a b c d s _ _ _ hd _ ih =>
    intro t ht
    have hlast : d ≠ '"' := (isHex_plain hd).2.1
    match t with
    | [] | [_] | [_, _] | [_, _, _] | [_, _, _, _] => simp at ht
    | [_, _, _, _, _] => simp_all
    | e :: f :: g :: i :: j :: k :: t =>
      simp only [List.cons_append, List.cons.injEq] at ht
      obtain ⟨rfl, rfl, rfl, rfl, rfl, rfl, hrest⟩ := ht
      obtain ⟨u, rfl⟩ := ih t hrest
      exact ⟨'\\' :: 'u' :: a :: b :: c :: d :: u, rfl⟩

/-- A text ends in a comma and an empty string; the characters from the last on. -/
def EndsInEmpty (s : List Char) : Prop := ['"', '"', ','] <+: s.reverse

theorem Derives.element_not_endsInEmpty {e : List Char} (h : Derives .element e)
    (hfront : front.getLast? ≠ some ',') : ¬ EndsInEmpty (front ++ e) := by
  obtain ⟨before, value, after, rfl, hbefore, hvalue, hafter⟩ := IsText.exists h
  intro hends
  have hcomma : ¬ [','] <+: before.reverse ++ front.reverse := by
    cases hcase : before.reverse with
    | nil =>
      rintro ⟨rest, hrest⟩
      apply hfront
      rw [← List.head?_reverse]
      rw [List.nil_append] at hrest
      rw [← hrest]
      rfl
    | cons x rest =>
      intro hcomma
      obtain ⟨rfl, -⟩ := List.cons_prefix_cons.mp hcomma
      have hspace := hbefore ',' (List.mem_reverse.mp (hcase ▸ List.mem_cons_self))
      revert hspace
      decide
  simp only [EndsInEmpty, List.reverse_append, List.append_assoc] at hends
  cases hcase : after.reverse with
  | cons x rest =>
    rw [hcase] at hends
    obtain ⟨rfl, -⟩ := List.cons_prefix_cons.mp hends
    have hspace := hafter '"' (List.mem_reverse.mp (hcase ▸ List.mem_cons_self))
    revert hspace
    decide
  | nil =>
    rw [hcase, List.nil_append] at hends
    rcases hvalue.value_cases with ⟨hne, hbare⟩ | ⟨body, hbody, rfl⟩ | ⟨inner, rfl⟩ | ⟨inner, rfl, -⟩
    · obtain ⟨init, last, rfl⟩ := List.eq_nil_or_concat' value |>.resolve_left hne
      rw [List.reverse_append, List.reverse_singleton] at hends
      obtain ⟨rfl, -⟩ := List.cons_prefix_cons.mp hends
      have hplain := hbare '"' (by simp)
      revert hplain
      decide
    · simp only [List.reverse_cons, List.reverse_append, List.reverse_nil, List.nil_append,
        List.cons_append, List.append_assoc] at hends
      obtain ⟨-, hends⟩ := List.cons_prefix_cons.mp hends
      cases hinner : body.reverse with
      | nil =>
        rw [hinner, List.nil_append] at hends
        exact hcomma (List.cons_prefix_cons.mp hends).2
      | cons x rest =>
        rw [hinner] at hends
        obtain ⟨rfl, htail⟩ := List.cons_prefix_cons.mp hends
        have hsplit : body = rest.reverse ++ ['"'] := by
          rw [← List.reverse_reverse body, hinner, List.reverse_cons]
        obtain ⟨u, hu⟩ := hbody.quote_escaped _ hsplit
        rw [List.reverse_eq_iff, List.reverse_append, List.reverse_singleton] at hu
        rw [hu] at htail
        exact absurd (List.cons_prefix_cons.mp htail).1 (by decide)
    · rw [List.reverse_cons, List.reverse_append, List.reverse_singleton] at hends
      exact absurd (List.cons_prefix_cons.mp hends).1 (by decide)
    · rw [List.reverse_cons, List.reverse_append, List.reverse_singleton] at hends
      exact absurd (List.cons_prefix_cons.mp hends).1 (by decide)

theorem Derives.members_not_endsInEmpty {n : Nonterminal} (h : Derives n s)
    (hn : n = .member ∨ n = .members) (front : List Char) : ¬ EndsInEmpty (front ++ s) := by
  induction h generalizing front with
  | @member a key b e _ _ _ he _ =>
    have hsplit : front ++ (a ++ (key ++ (b ++ ':' :: e))) =
        (front ++ a ++ key ++ b ++ [':']) ++ e := by
      simp
    rw [hsplit]
    exact he.element_not_endsInEmpty (by simp)
  | lastMember _ ih => exact ih (.inl rfl) front
  | @moreMembers m rest _ _ _ ih =>
    have hsplit : front ++ (m ++ ',' :: rest) = (front ++ m ++ [',']) ++ rest := by
      simp
    rw [hsplit]
    exact ih (.inr rfl) _
  | word | number | string | emptyArray | array | emptyObject | object | element | lastElement
  | moreElements => simp at hn

/-- No object ends in a comma and an empty string. -/
theorem Derives.object_not_endsInEmpty {inner : List Char}
    (h : Derives .value ('\x7b' :: (inner ++ ['\x7d']))) : ¬ EndsInEmpty ('\x7b' :: inner) := by
  have hinner : Space inner ∨ Derives .members inner := by
    rcases h.value_cases with ⟨-, hbare⟩ | ⟨body, -, hstring⟩ | ⟨_, harray⟩ | ⟨_, hobject, hinner⟩
    · have hplain := hbare '\x7b' List.mem_cons_self
      exact absurd hplain (by decide)
    · cases hstring
    · cases harray
    · obtain rfl := List.append_cancel_right (List.cons.inj hobject).2
      exact hinner
  rcases hinner with hspace | hmembers
  · intro hends
    cases hcase : inner.reverse with
    | nil =>
      rw [EndsInEmpty, List.reverse_cons, hcase] at hends
      exact absurd (List.cons_prefix_cons.mp hends).1 (by decide)
    | cons x rest =>
      rw [EndsInEmpty, List.reverse_cons, hcase] at hends
      obtain ⟨rfl, -⟩ := List.cons_prefix_cons.mp hends
      have hplain := hspace '"' (List.mem_reverse.mp (hcase ▸ List.mem_cons_self))
      revert hplain
      decide
  · exact hmembers.members_not_endsInEmpty (.inr rfl) ['\x7b']

end Edges

end Quillframe.JsonText
