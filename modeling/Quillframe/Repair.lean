import Quillframe.Error
import Quillframe.StringOrder
import Quillframe.Utf8

/-!
# Bounded repair

A repair specification names windows of a manuscript. A repaired manuscript is accepted when the
pieces around the windows are found in it. The pieces in the middle are searched for behind the
first piece, and nothing keeps them away from the last.
-/
namespace Quillframe

open Utf8 Windows

inductive RepairGenerationMode where
  | localOrBoundedRepair
  | freshRealization
  deriving DecidableEq, Repr

structure RepairTarget where
  location : String
  sourceExcerpt : String
  fix : String
  preserve : List String
  deriving DecidableEq, Repr

structure RepairSpec where
  repairOwner : String
  generationMode : RepairGenerationMode
  objectiveEnvelope : String
  targets : List RepairTarget
  invalidationBoundary : List String
  comparisonRequired : Bool
  deriving DecidableEq, Repr

/-- The largest size of a text in memory. -/
def isizeMax : ℕ := 2 ^ 63 - 1

/-- A text in memory. -/
structure SourceText where
  chars : List Char
  bounded : byteLength chars ≤ isizeMax

/-- Why a call has no result: it fails, or it panics. -/
inductive Abort where
  | failed (error : CoreError)
  | panicked
  deriving DecidableEq, Repr

abbrev Outcome (α : Type) := Except Abort α

def raise {α : Type} : CoreResult α → Outcome α
  | .ok a => .ok a
  | .error error => .error (.failed error)

@[simp] theorem raise_eq_ok {α : Type} {x : CoreResult α} {a : α} : raise x = .ok a ↔ x = .ok a := by
  cases x <;> simp [raise]

@[simp] theorem raise_ne_panicked {α : Type} {x : CoreResult α} : raise x ≠ .error .panicked := by
  cases x <;> simp [raise]

/-- `a.checked_add(b)`. -/
def checkedAdd (a b : ℕ) : Option ℕ := if a + b < 2 ^ 64 then some (a + b) else none

def invalidRepair (message : String) : CoreError := .invalidProject message

/-- `text[cursor..].find(window).ok_or_else(..)?`. -/
def seek (text window : List Char) (absent : CoreError) (cursor : ℕ) : Outcome ℕ := do
  let rest ← fetch (sliceFrom text cursor) .panicked
  fetch (find window rest) (.failed absent)

theorem seek_eq (front rest window : List Char) (absent : CoreError) :
    seek (front ++ rest) window absent (byteLength front) =
      match cut window rest with
      | none => .error (.failed absent)
      | some parts => .ok (byteLength parts.1) := by
  rw [seek, sliceFrom_byteLength]
  change fetch (find window rest) (Abort.failed absent) = _
  rw [find]
  cases cut window rest <;> rfl

/-! ## The specification -/

def RepairTarget.Incomplete (target : RepairTarget) : Prop :=
  blank target.location ∨ blank target.fix ∨ target.sourceExcerpt.isEmpty ∨
    target.preserve = [] ∨ ∃ item ∈ target.preserve, blank item

instance (target : RepairTarget) : Decidable target.Incomplete :=
  inferInstanceAs (Decidable (blank target.location ∨ blank target.fix ∨
    target.sourceExcerpt.isEmpty ∨ target.preserve = [] ∨ ∃ item ∈ target.preserve, blank item))

namespace RepairSpec

def excerpts (spec : RepairSpec) : List (List Char) :=
  spec.targets.map (·.sourceExcerpt.toList)

def validate (spec : RepairSpec) : CoreResult Unit :=
  require (¬ (spec.repairOwner ≠ "prose_writer" ∨ blank spec.objectiveEnvelope ∨ spec.targets = [] ∨
      ¬ spec.comparisonRequired ∨ ∃ target ∈ spec.targets, target.Incomplete))
    (invalidRepair "repair specification is incomplete or routed outside the prose writer")

def excerptAbsent : CoreError :=
  invalidRepair "repair target excerpt is absent or out of order"

def findTarget (source : SourceText) (cursor : ℕ) (target : RepairTarget) : Outcome ℕ := do
  let relative ← seek source.chars target.sourceExcerpt.toList excerptAbsent cursor
  fetch ((checkedAdd cursor relative).bind (checkedAdd · (byteLength target.sourceExcerpt.toList)))
    (.failed (invalidRepair "repair target range overflowed"))

def validateAgainstSource (spec : RepairSpec) (source : SourceText) : Outcome Unit := do
  raise spec.validate
  if spec.generationMode = .freshRealization then
    raise (require (∀ target ∈ spec.targets,
        target.sourceExcerpt = "fresh-realization-whole-candidate")
      (invalidRepair "fresh realization cannot carry incumbent prose windows"))
  else
    let _ ← forEach (findTarget source) spec.targets 0

/-- Keeps the piece in front of the next window of the source. -/
def passTarget (source : SourceText) (found : List (List Char) × ℕ) (target : RepairTarget) :
    Outcome (List (List Char) × ℕ) := do
  let relative ← seek source.chars target.sourceExcerpt.toList
    (invalidRepair "repair target excerpt is absent") found.2
  let start := found.2 + relative
  let piece ← fetch (slice source.chars found.2 start) .panicked
  return (found.1 ++ [piece], start + byteLength target.sourceExcerpt.toList)

/-- The pieces of the source around the windows. -/
def protectedPieces (spec : RepairSpec) (source : SourceText) : Outcome (List (List Char)) := do
  let (invariants, sourceCursor) ← forEach (passTarget source) spec.targets ([], 0)
  let rest ← fetch (sliceFrom source.chars sourceCursor) .panicked
  return invariants ++ [rest]

def findInvariant (output : List Char) (cursor : ℕ) (invariant : List Char) : Outcome ℕ := do
  let relative ← seek output invariant
    (invalidRepair "bounded repair changed protected material") cursor
  return cursor + (relative + byteLength invariant)

/-- Finds the protected pieces in the output. -/
def checkProtected (invariants : List (List Char)) (output : List Char) : Outcome Unit := do
  let first ← fetch invariants.head? .panicked
  let last ← fetch invariants.getLast? .panicked
  raise (require (first <+: output ∧ last <:+ output)
    (invalidRepair "bounded repair changed protected prefix or suffix"))
  let _ ← forEach (findInvariant output) ((invariants.drop 1).take (invariants.length - 2))
    (byteLength first)

def verifyBoundedOutput (spec : RepairSpec) (source : SourceText) (output : String) :
    Outcome Unit := do
  spec.validateAgainstSource source
  if spec.generationMode ≠ .localOrBoundedRepair then
    return ()
  else
    let invariants ← spec.protectedPieces source
    checkProtected invariants output.toList

/-! ## The searches -/

variable {spec : RepairSpec} {source : SourceText}

theorem findTarget_none {rest : List Char} {cursor : ℕ} {target : RepairTarget}
    (h : Passed source.chars rest cursor) (hcut : cut target.sourceExcerpt.toList rest = none) :
    findTarget source cursor target = .error (.failed excerptAbsent) := by
  obtain ⟨front, htext, rfl⟩ := h
  rw [findTarget, htext, seek_eq, hcut]
  rfl

theorem findTarget_some {rest before behind : List Char} {cursor : ℕ} {target : RepairTarget}
    (h : Passed source.chars rest cursor)
    (hcut : cut target.sourceExcerpt.toList rest = some (before, behind)) :
    ∃ next, findTarget source cursor target = .ok next ∧ Passed source.chars behind next := by
  obtain ⟨front, htext, rfl⟩ := h
  have hbound := source.bounded
  rw [htext, cut_append hcut] at hbound
  simp only [byteLength_append, isizeMax] at hbound
  refine ⟨byteLength (front ++ (before ++ target.sourceExcerpt.toList)), ?_,
    front ++ (before ++ target.sourceExcerpt.toList), by simp [htext, cut_append hcut], rfl⟩
  rw [findTarget, htext, seek_eq, hcut]
  change fetch ((checkedAdd (byteLength front) (byteLength before)).bind _) _ = _
  rw [checkedAdd, if_pos (by omega), Option.bind_some, checkedAdd, if_pos (by omega)]
  simp [fetch, Nat.add_assoc]

theorem findTargets_eq (spec : RepairSpec) (source : SourceText) :
    match cutAll spec.excerpts source.chars with
    | none => forEach (findTarget source) spec.targets 0 = .error (.failed excerptAbsent)
    | some _ => ∃ cursor, forEach (findTarget source) spec.targets 0 = .ok cursor := by
  have hloop := forEach_cutAll (fun target : RepairTarget => target.sourceExcerpt.toList)
    (fun _ rest cursor => Passed source.chars rest cursor)
    (fun _ _ _ _ h hcut => findTarget_none h hcut)
    (fun _ _ _ _ _ _ h hcut => findTarget_some h hcut) spec.targets [] (.start source.chars)
  rw [← excerpts] at hloop
  cases hall : cutAll spec.excerpts source.chars with
  | none => simpa [hall] using hloop
  | some found =>
    rw [hall] at hloop
    obtain ⟨_, _, cursor, _, _, hcursor, _⟩ := hloop
    exact ⟨cursor, hcursor⟩

theorem passTarget_none {found : List (List Char) × ℕ} {rest : List Char} {target : RepairTarget}
    (h : Passed source.chars rest found.2) (hcut : cut target.sourceExcerpt.toList rest = none) :
    passTarget source found target =
      .error (.failed (invalidRepair "repair target excerpt is absent")) := by
  obtain ⟨front, htext, hcursor⟩ := h
  rw [passTarget, hcursor, htext, seek_eq, hcut]
  rfl

theorem passTarget_some {found : List (List Char) × ℕ} {rest before behind : List Char}
    {target : RepairTarget} (h : Passed source.chars rest found.2)
    (hcut : cut target.sourceExcerpt.toList rest = some (before, behind)) :
    ∃ next, passTarget source found target = .ok (found.1 ++ [before], next) ∧
      Passed source.chars behind next := by
  obtain ⟨front, htext, hcursor⟩ := h
  refine ⟨byteLength (front ++ (before ++ target.sourceExcerpt.toList)), ?_,
    front ++ (before ++ target.sourceExcerpt.toList), by simp [htext, cut_append hcut], rfl⟩
  rw [passTarget, hcursor]
  nth_rewrite 1 [htext]
  rw [seek_eq, hcut]
  change (fetch (slice source.chars (byteLength front) (byteLength front + byteLength before))
    Abort.panicked >>= _) = _
  rw [slice_cut htext hcut]
  simp [fetch, bind, Except.bind, pure, Except.pure, Nat.add_assoc]

theorem protectedPieces_eq (spec : RepairSpec) (source : SourceText) :
    spec.protectedPieces source =
      match cutAll spec.excerpts source.chars with
      | none => .error (.failed (invalidRepair "repair target excerpt is absent"))
      | some pieces => .ok pieces := by
  have hloop := forEach_cutAll (fun target : RepairTarget => target.sourceExcerpt.toList)
    (fun trail rest found => found.1 = trail.map Prod.fst ∧ Passed source.chars rest found.2)
    (fun _ _ _ _ h hcut => passTarget_none h.2 hcut)
    (fun trail _ found _ before _ h hcut => by
      obtain ⟨next, hok, hpassed⟩ := passTarget_some h.2 hcut
      exact ⟨_, hok, by simp [h.1], hpassed⟩)
    spec.targets [] (s := ([], 0)) ⟨rfl, .start source.chars⟩
  rw [← excerpts] at hloop
  rw [protectedPieces]
  cases hall : cutAll spec.excerpts source.chars with
  | none =>
    rw [hall] at hloop
    rw [hloop]
    rfl
  | some found =>
    rw [hall] at hloop
    obtain ⟨pieces, last, ⟨invariants, cursor⟩, rfl, hlength, hok, hpieces, front, htext, hcursor⟩ :=
      hloop
    rw [List.nil_append, List.map_fst_zip hlength.le] at hpieces
    obtain rfl : invariants = pieces := hpieces
    obtain rfl : cursor = byteLength front := hcursor
    rw [hok]
    change (fetch (sliceFrom source.chars (byteLength front)) Abort.panicked >>= _) = _
    rw [htext, sliceFrom_byteLength]
    rfl

def materialChanged : CoreError :=
  invalidRepair "bounded repair changed protected material"

theorem findInvariant_none {output rest invariant : List Char} {cursor : ℕ}
    (h : Passed output rest cursor) (hcut : cut invariant rest = none) :
    findInvariant output cursor invariant = .error (.failed materialChanged) := by
  obtain ⟨front, htext, rfl⟩ := h
  rw [findInvariant, htext, seek_eq, hcut]
  rfl

theorem findInvariant_some {output rest before behind invariant : List Char} {cursor : ℕ}
    (h : Passed output rest cursor) (hcut : cut invariant rest = some (before, behind)) :
    ∃ next, findInvariant output cursor invariant = .ok next ∧ Passed output behind next := by
  obtain ⟨front, htext, rfl⟩ := h
  refine ⟨byteLength (front ++ (before ++ invariant)), ?_, front ++ (before ++ invariant),
    by simp [htext, cut_append hcut], rfl⟩
  rw [findInvariant, htext, seek_eq, hcut]
  simp [bind, Except.bind, pure, Except.pure]

/-- The pieces in the middle are searched for behind the first piece. -/
theorem findInvariants_eq (first behind : List Char) (middles : List (List Char)) :
    match cutAll middles behind with
    | none => forEach (findInvariant (first ++ behind)) middles (byteLength first) =
        .error (.failed materialChanged)
    | some _ => ∃ cursor,
        forEach (findInvariant (first ++ behind)) middles (byteLength first) = .ok cursor := by
  have hloop := forEach_cutAll id (fun _ rest cursor => Passed (first ++ behind) rest cursor)
    (fun _ _ _ _ h hcut => findInvariant_none h hcut)
    (fun _ _ _ _ _ _ h hcut => findInvariant_some h hcut) middles [] ⟨first, rfl, rfl⟩
  rw [List.map_id] at hloop
  cases hall : cutAll middles behind with
  | none => simpa [hall] using hloop
  | some found =>
    rw [hall] at hloop
    obtain ⟨_, _, cursor, _, _, hcursor, _⟩ := hloop
    exact ⟨cursor, hcursor⟩

theorem checkProtected_pieces (first last : List Char) (middles : List (List Char))
    (output : List Char) :
    checkProtected (first :: (middles ++ [last])) output = (do
      raise (require (first <+: output ∧ last <:+ output)
        (invalidRepair "bounded repair changed protected prefix or suffix"))
      let _ ← forEach (findInvariant output) middles (byteLength first)) := by
  have hlast : (first :: (middles ++ [last])).getLast? = some last := by
    rw [← List.cons_append, List.getLast?_append]
    rfl
  have hmiddles : ((first :: (middles ++ [last])).drop 1).take
      ((first :: (middles ++ [last])).length - 2) = middles := by
    simp
  rw [checkProtected, hlast, hmiddles]
  rfl

theorem checkProtected_eq_ok {first last output : List Char} {middles : List (List Char)} :
    checkProtected (first :: (middles ++ [last])) output = .ok () ↔
      Guarded first middles last output := by
  rw [checkProtected_pieces]
  simp only [bind_eq_ok, raise_eq_ok, require_eq_ok, pure_eq_ok, exists_const]
  constructor
  · rintro ⟨⟨⟨behind, rfl⟩, htail⟩, cursor, hcursor, -⟩
    refine ⟨List.prefix_append _ _, htail, ?_⟩
    rw [List.drop_left, ← exists_cutAll_iff]
    have hloop := findInvariants_eq first behind middles
    cases hall : cutAll middles behind with
    | none => rw [hall] at hloop; rw [hloop] at hcursor; cases hcursor
    | some found => exact ⟨found, rfl⟩
  · rintro ⟨⟨behind, rfl⟩, htail, horder⟩
    rw [List.drop_left, ← exists_cutAll_iff] at horder
    obtain ⟨found, hall⟩ := horder
    have hloop := findInvariants_eq first behind middles
    rw [hall] at hloop
    obtain ⟨cursor, hcursor⟩ := hloop
    exact ⟨⟨List.prefix_append _ _, htail⟩, cursor, hcursor, trivial⟩

theorem checkProtected_ne_panicked {first last output : List Char} {middles : List (List Char)} :
    checkProtected (first :: (middles ++ [last])) output ≠ .error .panicked := by
  rw [checkProtected_pieces]
  by_cases h : first <+: output ∧ last <:+ output
  · obtain ⟨⟨behind, rfl⟩, htail⟩ := h
    have hloop := findInvariants_eq first behind middles
    have hhead : first <+: first ++ behind := List.prefix_append _ _
    cases hall : cutAll middles behind with
    | none =>
      rw [hall] at hloop
      simp [require, raise, hhead, htail, hloop, bind, Except.bind]
    | some found =>
      rw [hall] at hloop
      obtain ⟨cursor, hcursor⟩ := hloop
      simp [require, raise, hhead, htail, hcursor, bind, Except.bind, pure, Except.pure]
  · simp [require, raise, h, bind, Except.bind]

/-! ## What is accepted -/

theorem validate_targets (h : spec.validate = .ok ()) : spec.targets ≠ [] := by
  rw [validate, require_eq_ok] at h
  tauto

theorem length_excerpts (spec : RepairSpec) : spec.excerpts.length = spec.targets.length := by
  simp [excerpts]

theorem validateAgainstSource_eq (hmode : spec.generationMode = .localOrBoundedRepair)
    (hfields : spec.validate = .ok ()) :
    spec.validateAgainstSource source =
      match cutAll spec.excerpts source.chars with
      | none => .error (.failed excerptAbsent)
      | some _ => .ok () := by
  have hloop := findTargets_eq spec source
  have hbounded : spec.generationMode ≠ .freshRealization := by simp [hmode]
  rw [validateAgainstSource, hfields]
  change (if spec.generationMode = .freshRealization then _ else _) = _
  rw [if_neg hbounded]
  cases hall : cutAll spec.excerpts source.chars with
  | none =>
    rw [hall] at hloop
    rw [hloop]
    rfl
  | some found =>
    rw [hall] at hloop
    obtain ⟨cursor, hcursor⟩ := hloop
    rw [hcursor]
    rfl

theorem validateAgainstSource_eq_ok (hmode : spec.generationMode = .localOrBoundedRepair)
    (hfields : spec.validate = .ok ()) :
    spec.validateAgainstSource source = .ok () ↔ InOrder spec.excerpts source.chars := by
  rw [validateAgainstSource_eq hmode hfields, ← exists_cutAll_iff]
  cases cutAll spec.excerpts source.chars <;> simp

/-- The located pieces are one more than the windows, which are at least one. -/
theorem exists_pieces (hfields : spec.validate = .ok ()) {pieces : List (List Char)}
    (h : cutAll spec.excerpts source.chars = some pieces) :
    ∃ first middles last, pieces = first :: (middles ++ [last]) ∧
      spec.targets.length = middles.length + 1 := by
  have hlength := (weave_of_cutAll h).1
  obtain ⟨target, targets, htargets⟩ := List.exists_cons_of_ne_nil (validate_targets hfields)
  rw [length_excerpts, htargets, List.length_cons] at hlength
  obtain ⟨first, rest, rfl⟩ := List.exists_cons_of_length_eq_add_one hlength
  have hrest : rest ≠ [] := by
    rintro rfl
    simp at hlength
  refine ⟨first, rest.dropLast, rest.getLast hrest, by rw [List.dropLast_append_getLast], ?_⟩
  simp only [List.length_cons] at hlength
  simp only [htargets, List.length_cons, List.length_dropLast]
  omega

theorem verifyBoundedOutput_eq (hmode : spec.generationMode = .localOrBoundedRepair)
    (hfields : spec.validate = .ok ()) (output : String) :
    spec.verifyBoundedOutput source output =
      match cutAll spec.excerpts source.chars with
      | none => .error (.failed excerptAbsent)
      | some pieces => checkProtected pieces output.toList := by
  rw [verifyBoundedOutput, validateAgainstSource_eq hmode hfields]
  cases hall : cutAll spec.excerpts source.chars with
  | none => rfl
  | some pieces =>
    change (if spec.generationMode ≠ .localOrBoundedRepair then _ else _) = _
    rw [if_neg (not_not.mpr hmode), protectedPieces_eq, hall]
    rfl

theorem validate_of_verifyBoundedOutput {output : String}
    (h : spec.verifyBoundedOutput source output = .ok ()) : spec.validate = .ok () := by
  obtain ⟨_, hvalidate, _⟩ := bind_eq_ok.mp h
  obtain ⟨_, hfields, _⟩ := bind_eq_ok.mp hvalidate
  exact raise_eq_ok.mp hfields

/-- The output is made of the protected pieces with a replacement between any two of them. -/
def KeptBy (spec : RepairSpec) (source : SourceText) (output : String) : Prop :=
  ∃ pieces replacements, spec.protectedPieces source = .ok pieces ∧
    replacements.length = spec.targets.length ∧ output.toList = weave pieces replacements

/-- The pieces around the windows of the source can be found one on top of the other. -/
def PiecesOverlap (spec : RepairSpec) (source : SourceText) : Prop :=
  spec.validate = .ok () ∧ ∃ first middles last,
    cutAll spec.excerpts source.chars = some (first :: (middles ++ [last])) ∧
      Overlap first middles last

theorem keptBy_iff {first last : List Char} {middles : List (List Char)} {output : String}
    (hall : cutAll spec.excerpts source.chars = some (first :: (middles ++ [last])))
    (hlength : spec.targets.length = middles.length + 1) :
    spec.KeptBy source output ↔ Keeps first middles last output.toList := by
  constructor
  · rintro ⟨pieces, replacements, hpieces, hcount, houtput⟩
    rw [protectedPieces_eq, hall] at hpieces
    cases hpieces
    exact ⟨replacements, hcount.trans hlength, houtput.symm⟩
  · rintro ⟨replacements, hcount, houtput⟩
    exact ⟨_, replacements, by rw [protectedPieces_eq, hall], hcount.trans hlength.symm,
      houtput.symm⟩

/-- A repair of the given windows. -/
def sample (windows : List String) : RepairSpec where
  repairOwner := "prose_writer"
  generationMode := .localOrBoundedRepair
  objectiveEnvelope := "Keep the scene."
  targets := windows.map fun window => ⟨"scene one", window, "shorten", ["the voice"]⟩
  invalidationBoundary := []
  comparisonRequired := true

def sampleSource (text : String) (h : byteLength text.toList ≤ isizeMax) : SourceText :=
  ⟨text.toList, h⟩

/-- Every accepted output keeps the protected pieces exactly when they do not overlap. -/
theorem bounded_output_kept_iff (spec : RepairSpec) (source : SourceText)
    (hmode : spec.generationMode = .localOrBoundedRepair) :
    (∀ output, spec.verifyBoundedOutput source output = .ok () → spec.KeptBy source output) ↔
      ¬ spec.PiecesOverlap source := by
  constructor
  · rintro hkept ⟨hfields, first, middles, last, hall, hover⟩
    obtain ⟨_, _, _, hpieces, hlength⟩ := exists_pieces hfields hall
    obtain ⟨rfl, hsame⟩ := List.cons.inj hpieces
    obtain ⟨rfl, _⟩ := List.append_inj' hsame rfl
    obtain ⟨text, hguarded, hlost⟩ := hover.escapes
    have haccepted : spec.verifyBoundedOutput source (String.ofList text) = .ok () := by
      rw [verifyBoundedOutput_eq hmode hfields, hall]
      exact checkProtected_eq_ok.mpr (by simpa using hguarded)
    have hkeeps := (keptBy_iff hall hlength).mp (hkept _ haccepted)
    exact hlost (by simpa using hkeeps)
  · intro hover output haccepted
    have hfields := validate_of_verifyBoundedOutput haccepted
    rw [verifyBoundedOutput_eq hmode hfields] at haccepted
    cases hall : cutAll spec.excerpts source.chars with
    | none => simp [hall] at haccepted
    | some pieces =>
      rw [hall] at haccepted
      obtain ⟨first, middles, last, rfl, hlength⟩ := exists_pieces hfields hall
      have hguarded := checkProtected_eq_ok.mp haccepted
      exact (keptBy_iff hall hlength).mpr
        (hguarded.keeps fun hoverlap => hover ⟨hfields, first, middles, last, hall, hoverlap⟩)

theorem bounded_output_kept_sample :
    (sample ["x"]).KeptBy (sampleSource "axb" (by decide +kernel)) "ab" := by
  refine (bounded_output_kept_iff (sample ["x"]) _ rfl).mpr ?_ "ab" (by decide +kernel)
  rintro ⟨-, first, middles, last, hall, hover⟩
  have hpieces : some (first :: (middles ++ [last])) = some [['a'], ['b']] :=
    hall.symm.trans (by decide +kernel)
  obtain ⟨rfl, hrest⟩ := List.cons.inj (Option.some.inj hpieces)
  obtain ⟨rfl, hlast⟩ := List.append_inj' (show _ = [] ++ [['b']] from hrest) rfl
  cases hlast
  obtain ⟨shared, hne, hfirst, hlast⟩ := hover
  obtain ⟨c, rest, rfl⟩ := List.exists_cons_of_ne_nil hne
  have hb : c = 'b' := (List.cons_prefix_cons.mp hlast).1
  have ha : c = 'a' := List.mem_singleton.mp (hfirst.subset List.mem_cons_self)
  exact absurd (ha.symm.trans hb) (by decide)

/-- The last letter of the first piece is taken for the last piece. -/
theorem bounded_output_not_kept :
    ¬ ∀ (spec : RepairSpec) (source : SourceText) (output : String),
      spec.generationMode = .localOrBoundedRepair →
      spec.verifyBoundedOutput source output = .ok () → spec.KeptBy source output := by
  intro hkept
  have haccepted : (sample ["x"]).verifyBoundedOutput
      (sampleSource "abxb" (by decide +kernel)) "ab" = .ok () := by decide +kernel
  have hall : cutAll (sample ["x"]).excerpts
      (sampleSource "abxb" (by decide +kernel)).chars = some [['a', 'b'], ['b']] := by
    decide +kernel
  have hkeeps := (@keptBy_iff _ _ ['a', 'b'] ['b'] [] _ hall rfl).mp (hkept _ _ _ rfl haccepted)
  have hle := hkeeps.length_le
  simp at hle

/-- The search finds the windows exactly when they occur in order, never slices off a character
boundary, and replacing what it finds is accepted whatever the replacements are. -/
theorem repair_windows_found_iff (spec : RepairSpec) (source : SourceText)
    (hmode : spec.generationMode = .localOrBoundedRepair) (hfields : spec.validate = .ok ()) :
    (spec.validateAgainstSource source = .ok () ↔ InOrder spec.excerpts source.chars) ∧
      (spec.validateAgainstSource source = .ok () → ∃ pieces,
        spec.protectedPieces source = .ok pieces ∧ pieces.length = spec.targets.length + 1 ∧
        weave pieces spec.excerpts = source.chars ∧
        ∀ replacements output, replacements.length = spec.targets.length →
          output.toList = weave pieces replacements →
          spec.verifyBoundedOutput source output = .ok ()) ∧
      spec.validateAgainstSource source ≠ .error .panicked ∧
      ∀ output, spec.verifyBoundedOutput source output ≠ .error .panicked := by
  refine ⟨validateAgainstSource_eq_ok hmode hfields, fun hvalid => ?_, ?_, fun output => ?_⟩
  · rw [validateAgainstSource_eq_ok hmode hfields, ← exists_cutAll_iff] at hvalid
    obtain ⟨pieces, hall⟩ := hvalid
    have hweave := weave_of_cutAll hall
    rw [length_excerpts] at hweave
    refine ⟨pieces, by rw [protectedPieces_eq, hall], hweave.1, hweave.2, ?_⟩
    intro replacements output hcount houtput
    obtain ⟨first, middles, last, rfl, hlength⟩ := exists_pieces hfields hall
    have hkeeps : Keeps first middles last output.toList :=
      ⟨replacements, hcount.trans hlength, houtput.symm⟩
    rw [verifyBoundedOutput_eq hmode hfields, hall]
    exact checkProtected_eq_ok.mpr hkeeps.guarded
  · rw [validateAgainstSource_eq hmode hfields]
    cases cutAll spec.excerpts source.chars <;> simp
  · rw [verifyBoundedOutput_eq hmode hfields]
    cases hall : cutAll spec.excerpts source.chars with
    | none => simp
    | some pieces =>
      obtain ⟨first, middles, last, rfl, -⟩ := exists_pieces hfields hall
      exact checkProtected_ne_panicked

theorem repair_windows_found_sample :
    (sample ["x", "é"]).validateAgainstSource (sampleSource "axbéx" (by decide +kernel)) =
      .ok () := by
  have h := repair_windows_found_iff (sample ["x", "é"])
    (sampleSource "axbéx" (by decide +kernel)) rfl (by decide +kernel)
  exact h.1.mpr ⟨[['a'], ['b'], ['x']], rfl, by decide +kernel⟩

end RepairSpec

end Quillframe
