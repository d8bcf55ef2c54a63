import Quillframe.OrderedMap
import Quillframe.Repair
import Mathlib.Data.List.Sort

/-!
# Patches for bounded repairs

The targets of a bounded repair are put in the order of their windows in the manuscript, and a patch
replaces the windows. A window counts as unique when the matches that do not share text are one.
-/
namespace Quillframe

open Utf8 Windows

structure BoundedRepairReplacement where
  sourceExcerpt : String
  replacement : String
  deriving DecidableEq, Repr

structure BoundedRepairPatch where
  replacements : List BoundedRepairReplacement
  deriving DecidableEq, Repr

/-- The offsets of `text.match_indices(window)`: the search goes on behind a match. -/
def matchIndices (window : List Char) : List Char → ℕ → ℕ → List ℕ
  | [], offset, _ => if window = [] then [offset] else []
  | c :: rest, offset, skip + 1 => matchIndices window rest (offset + c.utf8Size) skip
  | c :: rest, offset, 0 =>
    if window <+: c :: rest then
      offset :: matchIndices window rest (offset + c.utf8Size) (window.length - 1)
    else matchIndices window rest (offset + c.utf8Size) 0

/-- The position of the only match of the excerpt. -/
def locateTarget (source : SourceText) (target : RepairTarget) : CoreResult (ℕ × RepairTarget) :=
  match matchIndices target.sourceExcerpt.toList source.chars 0 0 with
  | [] => .error (invalidRepair "repair target excerpt is absent")
  | [position] => .ok (position, target)
  | _ => .error (invalidRepair "bounded repair target excerpt is ambiguous")

def normalizeBoundedRepairTargetOrder (spec : RepairSpec) (source : SourceText) :
    CoreResult RepairSpec :=
  if spec.generationMode ≠ .localOrBoundedRepair then .ok spec
  else do
    let targets ← spec.targets.mapM (locateTarget source)
    return { spec with
      targets := (targets.insertionSort fun a b => a.1 ≤ b.1).map Prod.snd }

namespace BoundedRepairPatch

def insertReplacement (replacements : OrderedMap String BoundedRepairReplacement)
    (replacement : BoundedRepairReplacement) :
    CoreResult (OrderedMap String BoundedRepairReplacement) := do
  require (replacement.sourceExcerpt ∉ replacements)
    (invalidRepair "bounded repair replacement identities must be unique")
  return replacements.insert replacement.sourceExcerpt replacement

def identityInvalid : CoreError :=
  invalidRepair "bounded repair replacement identity is invalid"

def removeReplacement
    (found : OrderedMap String BoundedRepairReplacement × List BoundedRepairReplacement)
    (target : RepairTarget) :
    CoreResult (OrderedMap String BoundedRepairReplacement × List BoundedRepairReplacement) := do
  let replacement ← fetch (found.1.get? target.sourceExcerpt) identityInvalid
  return (found.1.erase target.sourceExcerpt, found.2 ++ [replacement])

/-- The replacements in the order of the targets. -/
def ordered (patch : BoundedRepairPatch) (spec : RepairSpec) :
    CoreResult (List BoundedRepairReplacement) := do
  require (¬ (spec.generationMode ≠ .localOrBoundedRepair ∨
      patch.replacements.length ≠ spec.targets.length))
    (invalidRepair "bounded repair replacement count is invalid")
  let replacements ← forEach insertReplacement patch.replacements .empty
  let (left, ordered) ← forEach removeReplacement spec.targets (replacements, [])
  require (left.entries = []) identityInvalid
  return ordered

/-- Writes the text in front of the next window, and the replacement for it. -/
def writeReplacement (source : SourceText) (written : List Char × ℕ)
    (pair : RepairTarget × BoundedRepairReplacement) : Outcome (List Char × ℕ) := do
  let relative ← seek source.chars pair.1.sourceExcerpt.toList
    (invalidRepair "bounded repair source excerpt moved") written.2
  let start := written.2 + relative
  let piece ← fetch (slice source.chars written.2 start) .panicked
  return (written.1 ++ (piece ++ pair.2.replacement.toList),
    start + byteLength pair.1.sourceExcerpt.toList)

def apply (patch : BoundedRepairPatch) (source : SourceText) (spec : RepairSpec) :
    Outcome String := do
  let ordered ← raise (patch.ordered spec)
  let (output, cursor) ← forEach (writeReplacement source) (spec.targets.zip ordered) ([], 0)
  let rest ← fetch (sliceFrom source.chars cursor) .panicked
  let output := String.ofList (output ++ rest)
  spec.verifyBoundedOutput source output
  return output

/-! ## Replacements in order -/

theorem insertReplacement_eq_ok {map next : OrderedMap String BoundedRepairReplacement}
    {replacement : BoundedRepairReplacement} :
    insertReplacement map replacement = .ok next ↔
      replacement.sourceExcerpt ∉ map ∧ map.insert replacement.sourceExcerpt replacement = next := by
  simp only [insertReplacement, bind_eq_ok, require_eq_ok, pure_eq_ok, exists_const]

theorem exists_insertReplacements {replacements : List BoundedRepairReplacement}
    {map : OrderedMap String BoundedRepairReplacement}
    (hnodup : (replacements.map (·.sourceExcerpt)).Nodup)
    (hfresh : ∀ replacement ∈ replacements, replacement.sourceExcerpt ∉ map) :
    ∃ all, forEach insertReplacement replacements map = .ok all := by
  induction replacements generalizing map with
  | nil => exact ⟨map, rfl⟩
  | cons replacement replacements ih =>
    obtain ⟨hhead, hrest⟩ := List.nodup_cons.mp hnodup
    have hstep := insertReplacement_eq_ok.mpr ⟨hfresh replacement List.mem_cons_self, rfl⟩
    obtain ⟨all, hall⟩ := @ih (map.insert replacement.sourceExcerpt replacement) hrest
      fun other hother => by
        rw [OrderedMap.mem_insert, not_or]
        exact ⟨fun hsame => hhead (List.mem_map.mpr ⟨other, hother, hsame⟩),
          hfresh other (List.mem_cons_of_mem _ hother)⟩
    exact ⟨all, bind_eq_ok.mpr ⟨_, hstep, hall⟩⟩

/-- Every replacement is kept under its excerpt. -/
theorem insertReplacements_ok {replacements : List BoundedRepairReplacement}
    {map all : OrderedMap String BoundedRepairReplacement}
    (h : forEach insertReplacement replacements map = .ok all) :
    (replacements.map (·.sourceExcerpt)).Nodup ∧
      (∀ replacement ∈ replacements, replacement.sourceExcerpt ∉ map) ∧
      ∀ key replacement, all.get? key = some replacement ↔
        (replacement ∈ replacements ∧ replacement.sourceExcerpt = key) ∨
          map.get? key = some replacement := by
  induction replacements generalizing map with
  | nil =>
    cases h
    simp
  | cons first replacements ih =>
    obtain ⟨next, hstep, hrest⟩ := bind_eq_ok.mp h
    obtain ⟨hfresh, rfl⟩ := insertReplacement_eq_ok.mp hstep
    obtain ⟨hnodup, hothers, hget⟩ := ih hrest
    simp only [OrderedMap.mem_insert, not_or] at hothers
    refine ⟨List.nodup_cons.mpr ⟨fun hmem => ?_, hnodup⟩, ?_, fun key replacement => ?_⟩
    · obtain ⟨other, hother, hsame⟩ := List.mem_map.mp hmem
      exact (hothers other hother).1 hsame
    · rintro other hother
      rcases List.mem_cons.mp hother with rfl | hother
      · exact hfresh
      · exact (hothers other hother).2
    · rw [hget, List.mem_cons]
      by_cases hkey : key = first.sourceExcerpt
      · have hnone : map.get? key = none := by
          rw [hkey]
          simpa [OrderedMap.mem_iff_get?] using hfresh
        rw [hkey, OrderedMap.get?_insert_self, ← hkey, hnone]
        have hother : ¬ (replacement ∈ replacements ∧ replacement.sourceExcerpt = key) := by
          rintro ⟨hmem, hsame⟩
          exact (hothers replacement hmem).1 (hsame.trans hkey)
        constructor
        · rintro (h | h)
          · exact absurd h hother
          · cases h
            exact .inl ⟨.inl rfl, hkey.symm⟩
        · rintro (⟨rfl | hmem, hsame⟩ | h)
          · exact .inr rfl
          · exact absurd ⟨hmem, hsame⟩ hother
          · cases h
      · rw [OrderedMap.get?_insert_of_ne _ hkey]
        constructor
        · rintro (⟨hmem, hsame⟩ | h)
          · exact .inl ⟨.inr hmem, hsame⟩
          · exact .inr h
        · rintro (⟨rfl | hmem, hsame⟩ | h)
          · exact absurd hsame.symm hkey
          · exact .inl ⟨hmem, hsame⟩
          · exact .inr h

theorem removeReplacement_eq_ok
    {found next : OrderedMap String BoundedRepairReplacement × List BoundedRepairReplacement}
    {target : RepairTarget} :
    removeReplacement found target = .ok next ↔ ∃ replacement,
      found.1.get? target.sourceExcerpt = some replacement ∧
        (found.1.erase target.sourceExcerpt, found.2 ++ [replacement]) = next := by
  simp only [removeReplacement, bind_eq_ok, fetch_eq_ok, pure_eq_ok]

/-- Every target takes the replacement under its excerpt, and no other target takes it again. -/
theorem removeReplacements_ok {targets : List RepairTarget}
    {s t : OrderedMap String BoundedRepairReplacement × List BoundedRepairReplacement}
    (h : forEach removeReplacement targets s = .ok t) :
    ∃ taken, t.2 = s.2 ++ taken ∧ (targets.map (·.sourceExcerpt)).Nodup ∧
      targets.map (fun target => s.1.get? target.sourceExcerpt) = taken.map some ∧
      ∀ key, t.1.get? key = none ↔
        key ∈ targets.map (·.sourceExcerpt) ∨ s.1.get? key = none := by
  induction targets generalizing s with
  | nil =>
    cases h
    exact ⟨[], by simp⟩
  | cons target targets ih =>
    obtain ⟨next, hstep, hrest⟩ := bind_eq_ok.mp h
    obtain ⟨replacement, hget, rfl⟩ := removeReplacement_eq_ok.mp hstep
    obtain ⟨taken, htaken, hnodup, hall, hleft⟩ := ih hrest
    have hne : ∀ other ∈ targets, other.sourceExcerpt ≠ target.sourceExcerpt := by
      intro other hother hsame
      have hmem := List.mem_map_of_mem hother
        (f := fun target' => (s.1.erase target.sourceExcerpt).get? target'.sourceExcerpt)
      rw [hall, hsame, OrderedMap.get?_erase_self] at hmem
      simp at hmem
    refine ⟨replacement :: taken, by simp [htaken], ?_, ?_, fun key => ?_⟩
    · refine List.nodup_cons.mpr ⟨fun hmem => ?_, hnodup⟩
      obtain ⟨other, hother, hsame⟩ := List.mem_map.mp hmem
      exact hne other hother hsame
    · rw [List.map_cons, List.map_cons, hget, ← hall]
      refine congrArg (some replacement :: ·) (List.map_congr_left fun other hother => ?_)
      rw [OrderedMap.get?_erase_of_ne _ (hne other hother)]
    · rw [hleft key, List.map_cons, List.mem_cons]
      by_cases hkey : key = target.sourceExcerpt
      · simp [hkey]
      · simp [hkey, OrderedMap.get?_erase_of_ne _ hkey]

theorem exists_removeReplacements {targets : List RepairTarget}
    {taken : List BoundedRepairReplacement}
    {s : OrderedMap String BoundedRepairReplacement × List BoundedRepairReplacement}
    (hnodup : (targets.map (·.sourceExcerpt)).Nodup)
    (htaken : targets.map (fun target => s.1.get? target.sourceExcerpt) = taken.map some) :
    ∃ left, forEach removeReplacement targets s = .ok (left, s.2 ++ taken) := by
  induction targets generalizing s taken with
  | nil =>
    obtain rfl : taken = [] := by simpa using htaken.symm
    exact ⟨s.1, by simp [forEach]⟩
  | cons target targets ih =>
    cases taken with
    | nil => simp at htaken
    | cons replacement taken =>
      rw [List.map_cons, List.map_cons, List.cons.injEq] at htaken
      obtain ⟨hhead, hrest⟩ := List.nodup_cons.mp hnodup
      have htail : targets.map (fun other =>
          (s.1.erase target.sourceExcerpt).get? other.sourceExcerpt) = taken.map some := by
        rw [← htaken.2]
        refine List.map_congr_left fun other hother => OrderedMap.get?_erase_of_ne _ fun hsame => ?_
        exact hhead (List.mem_map.mpr ⟨other, hother, hsame⟩)
      obtain ⟨left, hleft⟩ :=
        @ih taken (s.1.erase target.sourceExcerpt, s.2 ++ [replacement]) hrest htail
      have hstep := removeReplacement_eq_ok.mpr ⟨replacement, htaken.1, rfl⟩
      exact ⟨left, bind_eq_ok.mpr ⟨_, hstep, by simpa using hleft⟩⟩

theorem entries_eq_nil {K V : Type} [LinearOrder K] {m : OrderedMap K V} :
    m.entries = [] ↔ ∀ key, m.get? key = none := by
  constructor
  · intro h key
    rw [OrderedMap.ext (n := .empty) h, OrderedMap.get?_empty]
  · intro h
    rw [OrderedMap.ext_get? (n := .empty) fun key => (h key).trans (OrderedMap.get?_empty key).symm]
    rfl

/-- The replacements are put in the order of the targets with their excerpts. -/
theorem ordered_eq_ok {patch : BoundedRepairPatch} {spec : RepairSpec}
    {ordered : List BoundedRepairReplacement} :
    patch.ordered spec = .ok ordered ↔ spec.generationMode = .localOrBoundedRepair ∧
      (patch.replacements.map (·.sourceExcerpt)).Nodup ∧ ordered.Perm patch.replacements ∧
      ordered.map (·.sourceExcerpt) = spec.targets.map (·.sourceExcerpt) := by
  constructor
  · intro h
    simp only [BoundedRepairPatch.ordered, bind_eq_ok, require_eq_ok, pure_eq_ok, exists_const,
      not_or, not_not] at h
    obtain ⟨⟨hmode, -⟩, all, hall, ⟨left, taken⟩, htaken, hempty, rfl⟩ := h
    obtain ⟨hnodup, -, hget⟩ := insertReplacements_ok hall
    obtain ⟨_, hsame, htargets, hmap, hleft⟩ := removeReplacements_ok htaken
    obtain rfl : taken = _ := hsame.trans (List.nil_append _)
    replace hempty : left.entries = [] := hempty
    simp only [OrderedMap.get?_empty, reduceCtorEq, or_false] at hget
    have hmem : ∀ replacement, replacement ∈ taken ↔
        ∃ target ∈ spec.targets, all.get? target.sourceExcerpt = some replacement := by
      intro replacement
      rw [← List.mem_map, hmap]
      simp
    have hexcerpts : taken.map (·.sourceExcerpt) = spec.targets.map (·.sourceExcerpt) := by
      have hsome : (taken.map some).map (Option.map BoundedRepairReplacement.sourceExcerpt) =
          (spec.targets.map (·.sourceExcerpt)).map some := by
        rw [← hmap, List.map_map, List.map_map]
        refine List.map_congr_left fun target htarget => ?_
        have htaken : all.get? target.sourceExcerpt ∈ taken.map some :=
          hmap ▸ List.mem_map.mpr ⟨target, htarget, rfl⟩
        obtain ⟨replacement, -, hreplacement⟩ := List.mem_map.mp htaken
        have hkey := ((hget _ _).mp hreplacement.symm).2
        rw [Function.comp_apply, Function.comp_apply, ← hreplacement, Option.map_some, hkey]
      rw [List.map_map] at hsome
      refine List.map_injective_iff.mpr (Option.some_injective _) ?_
      rw [List.map_map]
      exact hsome
    refine ⟨hmode, hnodup, ?_, hexcerpts⟩
    have htakenNodup : (taken.map (·.sourceExcerpt)).Nodup := hexcerpts ▸ htargets
    refine (List.perm_ext_iff_of_nodup htakenNodup.of_map hnodup.of_map).mpr ?_
    intro replacement
    rw [hmem]
    constructor
    · rintro ⟨target, -, hreplacement⟩
      exact ((hget _ _).mp hreplacement).1
    · intro hreplacement
      have hkept := (hget _ _).mpr ⟨hreplacement, rfl⟩
      have hnone := (hleft replacement.sourceExcerpt).mp (entries_eq_nil.mp hempty _)
      rw [hkept] at hnone
      obtain ⟨target, htarget, hkey⟩ := List.mem_map.mp (hnone.resolve_right (by simp))
      exact ⟨target, htarget, by rw [hkey, hkept]⟩
  · rintro ⟨hmode, hnodup, hperm, hsame⟩
    obtain ⟨all, hall⟩ := @exists_insertReplacements patch.replacements .empty hnodup (by simp)
    obtain ⟨-, -, hget⟩ := insertReplacements_ok hall
    simp only [OrderedMap.get?_empty, reduceCtorEq, or_false] at hget
    have hmap : spec.targets.map (fun target => all.get? target.sourceExcerpt) =
        ordered.map some := by
      have hkeys : (spec.targets.map (·.sourceExcerpt)).map all.get? = ordered.map some := by
        rw [← hsame, List.map_map]
        refine List.map_congr_left fun replacement hreplacement => ?_
        exact (hget _ _).mpr ⟨hperm.subset hreplacement, rfl⟩
      rw [← hkeys, List.map_map]
      rfl
    have htargets : (spec.targets.map (·.sourceExcerpt)).Nodup := by
      rw [← hsame]
      exact (hperm.map _).nodup_iff.mpr hnodup
    obtain ⟨left, hleft⟩ := @exists_removeReplacements spec.targets ordered (all, []) htargets hmap
    obtain ⟨_, -, -, -, hnone⟩ := removeReplacements_ok hleft
    have hempty : left.entries = [] := by
      refine entries_eq_nil.mpr fun key => (hnone key).mpr ?_
      cases hkey : all.get? key with
      | none => exact .inr rfl
      | some replacement =>
        obtain ⟨hreplacement, rfl⟩ := (hget _ _).mp hkey
        left
        rw [← hsame]
        exact List.mem_map_of_mem (hperm.mem_iff.mpr hreplacement)
    have hlength : patch.replacements.length = spec.targets.length := by
      have h := congrArg List.length hsame
      simp only [List.length_map] at h
      rw [← hperm.length_eq, h]
    simp only [BoundedRepairPatch.ordered, bind_eq_ok, require_eq_ok, pure_eq_ok, exists_const,
      not_or, not_not]
    exact ⟨⟨hmode, hlength⟩, all, hall, (left, ordered), hleft, hempty, rfl⟩

/-! ## What a patch writes -/

variable {patch : BoundedRepairPatch} {source : SourceText} {spec : RepairSpec}

def excerptMoved : CoreError := invalidRepair "bounded repair source excerpt moved"

theorem writeReplacement_none {written : List Char × ℕ} {rest : List Char}
    {pair : RepairTarget × BoundedRepairReplacement} (h : Passed source.chars rest written.2)
    (hcut : cut pair.1.sourceExcerpt.toList rest = none) :
    writeReplacement source written pair = .error (.failed excerptMoved) := by
  obtain ⟨front, htext, hcursor⟩ := h
  rw [writeReplacement, hcursor, htext, seek_eq, hcut]
  rfl

theorem writeReplacement_some {written : List Char × ℕ} {rest before behind : List Char}
    {pair : RepairTarget × BoundedRepairReplacement} (h : Passed source.chars rest written.2)
    (hcut : cut pair.1.sourceExcerpt.toList rest = some (before, behind)) :
    ∃ next, writeReplacement source written pair =
        .ok (written.1 ++ (before ++ pair.2.replacement.toList), next) ∧
      Passed source.chars behind next := by
  obtain ⟨front, htext, hcursor⟩ := h
  refine ⟨byteLength (front ++ (before ++ pair.1.sourceExcerpt.toList)), ?_,
    front ++ (before ++ pair.1.sourceExcerpt.toList), by simp [htext, cut_append hcut], rfl⟩
  rw [writeReplacement, hcursor]
  nth_rewrite 1 [htext]
  rw [seek_eq, hcut]
  change (fetch (slice source.chars (byteLength front) (byteLength front + byteLength before))
    Abort.panicked >>= _) = _
  rw [slice_cut htext hcut]
  simp [fetch, bind, Except.bind, pure, Except.pure, Nat.add_assoc]

theorem writeReplacements_eq {ordered : List BoundedRepairReplacement}
    (hlength : ordered.length = spec.targets.length) :
    match cutAll spec.excerpts source.chars with
    | none => forEach (writeReplacement source) (spec.targets.zip ordered) ([], 0) =
        .error (.failed excerptMoved)
    | some found => ∃ output cursor rest,
        forEach (writeReplacement source) (spec.targets.zip ordered) ([], 0) =
          .ok (output, cursor) ∧ Passed source.chars rest cursor ∧
        output ++ rest = weave found (ordered.map (·.replacement.toList)) := by
  have hloop := forEach_cutAll
    (fun pair : RepairTarget × BoundedRepairReplacement => pair.1.sourceExcerpt.toList)
    (fun trail rest written => Passed source.chars rest written.2 ∧
      written.1 = (trail.map fun passed => passed.1 ++ passed.2.2.replacement.toList).flatten)
    (fun _ _ _ _ h hcut => writeReplacement_none h.1 hcut)
    (fun trail _ written pair before _ h hcut => by
      obtain ⟨next, hok, hpassed⟩ := writeReplacement_some h.1 hcut
      exact ⟨_, hok, hpassed, by simp [h.2]⟩)
    (spec.targets.zip ordered) [] (s := ([], 0)) ⟨.start source.chars, rfl⟩
  have hwindows : (spec.targets.zip ordered).map
      (fun pair : RepairTarget × BoundedRepairReplacement => pair.1.sourceExcerpt.toList) =
      spec.excerpts := by
    rw [RepairSpec.excerpts]
    conv_rhs => rw [← List.map_fst_zip hlength.ge]
    rw [List.map_map]
    rfl
  rw [hwindows] at hloop
  cases hall : cutAll spec.excerpts source.chars with
  | none => simpa [hall] using hloop
  | some found =>
    rw [hall] at hloop
    obtain ⟨pieces, last, ⟨output, cursor⟩, rfl, hcount, hok, hpassed, houtput⟩ := hloop
    refine ⟨output, cursor, last, hok, hpassed, ?_⟩
    have hreplacements : (spec.targets.zip ordered).map (·.2.replacement.toList) =
        ordered.map (·.replacement.toList) := by
      conv_rhs => rw [← List.map_snd_zip hlength.le]
      rw [List.map_map]
      rfl
    have hwritten : output = (List.zipWith (· ++ ·) pieces
        (ordered.map (·.replacement.toList))).flatten := by
      rw [← hreplacements, List.zipWith_map_right]
      refine Eq.trans houtput ?_
      rw [List.nil_append, List.map_zip_eq_zipWith]
      rfl
    have hsame : pieces.length = (ordered.map (·.replacement.toList)).length := by
      rw [hcount, List.length_zip, List.length_map, hlength, Nat.min_self]
    rw [hwritten, weave_append hsame]

/-- What is written is accepted, since the pieces around the windows are kept. -/
theorem apply_eq_ok {out : String} :
    patch.apply source spec = .ok out ↔ ∃ ordered pieces, patch.ordered spec = .ok ordered ∧
      spec.validate = .ok () ∧ cutAll spec.excerpts source.chars = some pieces ∧
      out = String.ofList (weave pieces (ordered.map (·.replacement.toList))) := by
  have hcount {ordered : List BoundedRepairReplacement} (h : patch.ordered spec = .ok ordered) :
      ordered.length = spec.targets.length := by
    have hlength := congrArg List.length (ordered_eq_ok.mp h).2.2.2
    simpa using hlength
  constructor
  · intro h
    obtain ⟨ordered, hordered, h⟩ := bind_eq_ok.mp h
    rw [raise_eq_ok] at hordered
    obtain ⟨⟨output, cursor⟩, hwrite, h⟩ := bind_eq_ok.mp h
    obtain ⟨rest, hrest, h⟩ := bind_eq_ok.mp h
    obtain ⟨_, hverify, h⟩ := bind_eq_ok.mp h
    cases h
    rw [fetch_eq_ok] at hrest
    have hloop := @writeReplacements_eq source spec ordered (hcount hordered)
    cases hall : cutAll spec.excerpts source.chars with
    | none =>
      rw [hall] at hloop
      rw [hloop] at hwrite
      cases hwrite
    | some pieces =>
      rw [hall] at hloop
      obtain ⟨output', cursor', rest', hok, ⟨front, htext, hcursor⟩, houtput⟩ := hloop
      rw [hok] at hwrite
      cases hwrite
      rw [htext, hcursor, sliceFrom_byteLength] at hrest
      cases hrest
      exact ⟨ordered, pieces, hordered, RepairSpec.validate_of_verifyBoundedOutput hverify, rfl,
        by rw [houtput]⟩
  · rintro ⟨ordered, pieces, hordered, hfields, hall, rfl⟩
    have hloop := @writeReplacements_eq source spec ordered (hcount hordered)
    rw [hall] at hloop
    obtain ⟨output, cursor, rest, hok, ⟨front, htext, hcursor⟩, houtput⟩ := hloop
    have hmode := (ordered_eq_ok.mp hordered).1
    obtain ⟨first, middles, last, rfl, hlength⟩ := RepairSpec.exists_pieces hfields hall
    have hkeeps : Keeps first middles last (output ++ rest) :=
      ⟨_, by rw [List.length_map, hcount hordered, hlength], houtput.symm⟩
    have hverify : spec.verifyBoundedOutput source (String.ofList (output ++ rest)) = .ok () := by
      rw [RepairSpec.verifyBoundedOutput_eq hmode hfields, hall]
      exact RepairSpec.checkProtected_eq_ok.mpr (by simpa using hkeeps.guarded)
    have hslice : sliceFrom source.chars cursor = some rest := by
      rw [htext, hcursor, sliceFrom_byteLength]
    refine bind_eq_ok.mpr ⟨ordered, raise_eq_ok.mpr hordered, bind_eq_ok.mpr ⟨_, hok, ?_⟩⟩
    refine bind_eq_ok.mpr ⟨rest, fetch_eq_ok.mpr hslice, bind_eq_ok.mpr ⟨(), hverify, ?_⟩⟩
    rw [houtput]
    rfl

end BoundedRepairPatch

/-! ## Targets in order -/

theorem matchIndices_skip {window text : List Char} {skip : ℕ} (h : skip ≤ text.length)
    (offset : ℕ) :
    matchIndices window text offset skip =
      matchIndices window (text.drop skip) (offset + byteLength (text.take skip)) 0 := by
  induction skip generalizing text offset with
  | zero => simp
  | succ skip ih =>
    cases text with
    | nil => simp at h
    | cons c rest =>
      rw [matchIndices, ih (Nat.le_of_succ_le_succ h)]
      simp [Nat.add_assoc]

/-- The search for matches goes on behind the leftmost window. -/
theorem matchIndices_eq {window : List Char} (hwindow : window ≠ []) (text : List Char)
    (offset : ℕ) :
    matchIndices window text offset 0 =
      match cut window text with
      | none => []
      | some parts => (offset + byteLength parts.1) ::
          matchIndices window parts.2 (offset + byteLength (parts.1 ++ window)) 0 := by
  induction text generalizing offset with
  | nil => simp [matchIndices, cut, hwindow]
  | cons c rest ih =>
    rw [matchIndices, cut]
    split_ifs with hprefix
    · obtain ⟨behind, hbehind⟩ := hprefix
      obtain ⟨d, tail, rfl⟩ := List.exists_cons_of_ne_nil hwindow
      rw [List.cons_append, List.cons.injEq] at hbehind
      obtain ⟨rfl, rfl⟩ := hbehind
      rw [matchIndices_skip (by simp)]
      simp [Nat.add_assoc]
    · rw [ih]
      cases cut window rest with
      | none => rfl
      | some parts => simp [Nat.add_assoc]

/-- The excerpt is found, and not again behind that place. -/
def Located (source : SourceText) (target : RepairTarget) : Prop :=
  ∃ before behind, cut target.sourceExcerpt.toList source.chars = some (before, behind) ∧
    cut target.sourceExcerpt.toList behind = none

/-- The text in front of the excerpt. -/
def textBefore (source : SourceText) (target : RepairTarget) : List Char :=
  ((cut target.sourceExcerpt.toList source.chars).map Prod.fst).getD []

def windowStart (source : SourceText) (target : RepairTarget) : ℕ :=
  byteLength (textBefore source target)

theorem locateTarget_eq_ok {source : SourceText} {target : RepairTarget}
    (hexcerpt : target.sourceExcerpt.toList ≠ []) {located : ℕ × RepairTarget} :
    locateTarget source target = .ok located ↔
      Located source target ∧ located = (windowStart source target, target) := by
  rw [locateTarget, Located, windowStart, textBefore, matchIndices_eq hexcerpt]
  cases hcut : cut target.sourceExcerpt.toList source.chars with
  | none => simp
  | some parts =>
    obtain ⟨before, behind⟩ := parts
    simp only [matchIndices_eq hexcerpt behind]
    cases hbehind : cut target.sourceExcerpt.toList behind with
    | none => simp [hbehind, eq_comm]
    | some again => simp [hbehind]

theorem mapM_eq_ok {ε α β : Type} {f : α → Except ε β} {P : α → Prop} {g : α → β} {items : List α}
    (hf : ∀ a ∈ items, ∀ b, f a = .ok b ↔ P a ∧ b = g a) {results : List β} :
    items.mapM f = .ok results ↔ (∀ a ∈ items, P a) ∧ results = items.map g := by
  induction items generalizing results with
  | nil => simp [pure, Except.pure, eq_comm]
  | cons a items ih =>
    have hrest := @ih fun b hb => hf b (List.mem_cons_of_mem _ hb)
    simp only [List.mapM_cons, bind_eq_ok, pure_eq_ok, hf a List.mem_cons_self, hrest,
      List.forall_mem_cons, List.map_cons]
    constructor
    · rintro ⟨_, ⟨ha, rfl⟩, _, ⟨hitems, rfl⟩, rfl⟩
      exact ⟨⟨ha, hitems⟩, rfl⟩
    · rintro ⟨⟨ha, hitems⟩, rfl⟩
      exact ⟨_, ⟨ha, rfl⟩, _, ⟨hitems, rfl⟩, rfl⟩

/-- The targets in the order of their excerpts. -/
def sortTargets (source : SourceText) (targets : List RepairTarget) : List RepairTarget :=
  targets.insertionSort fun a b => windowStart source a ≤ windowStart source b

theorem normalize_eq_ok {spec sorted : RepairSpec} {source : SourceText}
    (hmode : spec.generationMode = .localOrBoundedRepair)
    (hexcerpts : ∀ target ∈ spec.targets, target.sourceExcerpt.toList ≠ []) :
    normalizeBoundedRepairTargetOrder spec source = .ok sorted ↔
      (∀ target ∈ spec.targets, Located source target) ∧
        sorted = { spec with targets := sortTargets source spec.targets } := by
  have hmap {targets : List (ℕ × RepairTarget)} :
      spec.targets.mapM (locateTarget source) = .ok targets ↔
        (∀ target ∈ spec.targets, Located source target) ∧
          targets = spec.targets.map fun target => (windowStart source target, target) :=
    mapM_eq_ok fun target htarget _ => locateTarget_eq_ok (hexcerpts target htarget)
  have hsort : ((spec.targets.map fun target => (windowStart source target, target)).insertionSort
      fun a b => a.1 ≤ b.1).map Prod.snd = sortTargets source spec.targets := by
    have hpairs := List.map_insertionSort
      (fun a b => windowStart source a ≤ windowStart source b) (fun a b => a.1 ≤ b.1)
      (fun target => (windowStart source target, target)) spec.targets (by simp)
    rw [sortTargets, ← hpairs, List.map_map]
    exact List.map_id _
  rw [normalizeBoundedRepairTargetOrder, if_neg (not_not.mpr hmode)]
  simp only [bind_eq_ok, pure_eq_ok, hmap]
  constructor
  · rintro ⟨_, ⟨hlocated, rfl⟩, rfl⟩
    exact ⟨hlocated, by rw [hsort]⟩
  · rintro ⟨hlocated, rfl⟩
    exact ⟨_, ⟨hlocated, rfl⟩, by rw [hsort]⟩

theorem perm_sortTargets (source : SourceText) (targets : List RepairTarget) :
    (sortTargets source targets).Perm targets := List.perm_insertionSort _ _

theorem pairwise_sortTargets (source : SourceText) (targets : List RepairTarget) :
    (sortTargets source targets).Pairwise fun a b => windowStart source a ≤ windowStart source b :=
  have : Std.Total fun a b => windowStart source a ≤ windowStart source b :=
    ⟨fun _ _ => Nat.le_total _ _⟩
  have : IsTrans RepairTarget fun a b => windowStart source a ≤ windowStart source b :=
    ⟨fun _ _ _ => Nat.le_trans⟩
  List.pairwise_insertionSort _ _

theorem validate_eq_ok_perm {spec : RepairSpec} {targets : List RepairTarget}
    (hperm : targets.Perm spec.targets) :
    RepairSpec.validate { spec with targets := targets } = .ok () ↔ spec.validate = .ok () := by
  simp only [RepairSpec.validate, require_eq_ok, hperm.mem_iff]
  have hempty : targets = [] ↔ spec.targets = [] := by
    rw [← List.length_eq_zero_iff, ← List.length_eq_zero_iff, hperm.length_eq]
  rw [hempty]

theorem excerpt_ne_nil {spec : RepairSpec} (h : spec.validate = .ok ()) {target : RepairTarget}
    (htarget : target ∈ spec.targets) : target.sourceExcerpt.toList ≠ [] := by
  rw [RepairSpec.validate, require_eq_ok] at h
  intro hempty
  refine h (.inr (.inr (.inr (.inr ⟨target, htarget, .inr (.inr (.inl ?_))⟩))))
  rw [String.toList_eq_nil_iff.mp hempty]
  rfl

theorem locateTarget_target {source : SourceText} {target : RepairTarget} {located : ℕ × RepairTarget}
    (h : locateTarget source target = .ok located) : located.2 = target := by
  rw [locateTarget] at h
  split at h <;> cases h
  rfl

theorem locateTargets_target {source : SourceText} {targets : List RepairTarget}
    {located : List (ℕ × RepairTarget)} (h : targets.mapM (locateTarget source) = .ok located) :
    located.map Prod.snd = targets := by
  induction targets generalizing located with
  | nil =>
    cases h
    rfl
  | cons target targets ih =>
    simp only [List.mapM_cons, bind_eq_ok, pure_eq_ok] at h
    obtain ⟨first, hfirst, rest, hrest, rfl⟩ := h
    rw [List.map_cons, locateTarget_target hfirst, ih hrest]

/-- The targets only change places. -/
theorem normalize_perm {spec sorted : RepairSpec} {source : SourceText}
    (h : normalizeBoundedRepairTargetOrder spec source = .ok sorted) :
    ∃ targets : List RepairTarget, targets.Perm spec.targets ∧
      sorted = { spec with targets := targets } := by
  rw [normalizeBoundedRepairTargetOrder] at h
  split_ifs at h with hmode
  · cases h
    exact ⟨spec.targets, .rfl, rfl⟩
  · simp only [bind_eq_ok, pure_eq_ok] at h
    obtain ⟨located, hlocated, rfl⟩ := h
    refine ⟨_, ?_, rfl⟩
    rw [← locateTargets_target hlocated]
    exact (List.perm_insertionSort _ _).map _

/-! ## Repairs in any order -/

section Located

variable {source : SourceText} {target : RepairTarget}

theorem Located.occurs (h : Located source target) :
    textBefore source target ++ target.sourceExcerpt.toList <+: source.chars := by
  obtain ⟨before, behind, hcut, -⟩ := h
  rw [textBefore, hcut]
  exact ⟨behind, by rw [cut_append hcut]; simp⟩

theorem Located.occursOnce (h : Located source target)
    (hover : ¬ OverlapsItself target.sourceExcerpt.toList source.chars) :
    OccursOnce target.sourceExcerpt.toList source.chars := by
  obtain ⟨before, behind, hcut, hbehind⟩ := h
  exact occursOnce_of_cut hcut hbehind hover

theorem Located.unique (h : Located source target)
    (honce : OccursOnce target.sourceExcerpt.toList source.chars) {front : List Char}
    (hfront : front ++ target.sourceExcerpt.toList <+: source.chars) :
    front = textBefore source target := honce.unique hfront h.occurs

end Located

theorem windowStart_lt {source : SourceText} {a b : RepairTarget} (ha : Located source a)
    (hb : Located source b)
    (hlt : (textBefore source a).length < (textBefore source b).length) :
    windowStart source a < windowStart source b :=
  byteLength_lt ((List.prefix_append _ _).trans ha.occurs)
    ((List.prefix_append _ _).trans hb.occurs) hlt

/-- The out text is the source with the only occurrence of each excerpt replaced, and the targets and
replacements may come in any order. -/
structure RepairedExactly (spec : RepairSpec) (patch : BoundedRepairPatch) (source : SourceText)
    (out : String) : Prop where
  once : ∀ target ∈ spec.targets, OccursOnce target.sourceExcerpt.toList source.chars
  replaced : ∃ (targets : List RepairTarget) (ordered : List BoundedRepairReplacement)
    (pieces : List (List Char)), targets.Perm spec.targets ∧ ordered.Perm patch.replacements ∧
    ordered.map (·.sourceExcerpt) = targets.map (·.sourceExcerpt) ∧
    pieces.length = targets.length + 1 ∧
    weave pieces (targets.map (·.sourceExcerpt.toList)) = source.chars ∧
    weave pieces (ordered.map (·.replacement.toList)) = out.toList
  anyOrder : ∀ (targets : List RepairTarget) (replacements : List BoundedRepairReplacement),
    targets.Perm spec.targets → replacements.Perm patch.replacements → ∃ sorted,
      normalizeBoundedRepairTargetOrder { spec with targets := targets } source = .ok sorted ∧
      BoundedRepairPatch.apply ⟨replacements⟩ source sorted = .ok out

section Orders

variable {spec sorted : RepairSpec} {patch : BoundedRepairPatch} {source : SourceText} {out : String}

/-- A repair that succeeds is bounded, and each of its excerpts is found. -/
theorem repair_located (hnormalize : normalizeBoundedRepairTargetOrder spec source = .ok sorted)
    (happly : patch.apply source sorted = .ok out) :
    spec.generationMode = .localOrBoundedRepair ∧ spec.validate = .ok () ∧
      (∀ target ∈ spec.targets, Located source target) ∧
      sorted = { spec with targets := sortTargets source spec.targets } := by
  obtain ⟨ordered, pieces, hordered, hfields, -, -⟩ := BoundedRepairPatch.apply_eq_ok.mp happly
  obtain ⟨targets, hperm, rfl⟩ := normalize_perm hnormalize
  have hmode : spec.generationMode = .localOrBoundedRepair :=
    (BoundedRepairPatch.ordered_eq_ok.mp hordered).1
  have hvalid := (validate_eq_ok_perm hperm).mp hfields
  have hall := (normalize_eq_ok hmode fun target => excerpt_ne_nil hvalid).mp hnormalize
  exact ⟨hmode, hvalid, hall.1, hall.2⟩

/-- Excerpts that occur once and are found in order are found in the order of their places. -/
theorem windowStart_pairwise {targets : List RepairTarget}
    (hlocated : ∀ target ∈ targets, Located source target)
    (honce : ∀ target ∈ targets, OccursOnce target.sourceExcerpt.toList source.chars)
    (hne : ∀ target ∈ targets, target.sourceExcerpt.toList ≠ [])
    (horder : InOrder (targets.map (·.sourceExcerpt.toList)) source.chars) :
    targets.Pairwise fun a b => windowStart source a < windowStart source b := by
  have hpairwise := (pairwise_of_inOrder (fun target : RepairTarget => target.sourceExcerpt.toList)
    (textBefore source) (List.nil_append source.chars).symm
    (fun target htarget _ => (hlocated target htarget).unique (honce target htarget)) horder).2
  refine hpairwise.imp_of_mem fun {a b} ha hb hle => ?_
  refine windowStart_lt (hlocated a ha) (hlocated b hb) ?_
  have hpos := List.length_pos_of_ne_nil (hne a ha)
  omega

/-- Sorting gives one order. -/
theorem sortTargets_eq_of_perm {targets others : List RepairTarget} (hperm : others.Perm targets)
    (hstrict : (sortTargets source targets).Pairwise
      fun a b => windowStart source a < windowStart source b) :
    sortTargets source others = sortTargets source targets := by
  have hsame : (sortTargets source others).Perm (sortTargets source targets) :=
    ((perm_sortTargets source others).trans hperm).trans (perm_sortTargets source targets).symm
  refine List.Perm.eq_of_pairwise ?_ (pairwise_sortTargets source others)
    (pairwise_sortTargets source targets) hsame
  intro a b ha hb hab hba
  have hnodup : ((sortTargets source targets).map (windowStart source)).Nodup :=
    List.pairwise_map.mpr (hstrict.imp fun h => h.ne)
  exact List.inj_on_of_nodup_map hnodup (hsame.subset ha) hb (le_antisymm hab hba)

theorem repairedExactly_of_not_overlapsItself
    (hnormalize : normalizeBoundedRepairTargetOrder spec source = .ok sorted)
    (happly : patch.apply source sorted = .ok out)
    (hover : ∀ target ∈ spec.targets,
      ¬ OverlapsItself target.sourceExcerpt.toList source.chars) :
    RepairedExactly spec patch source out := by
  obtain ⟨hmode, hvalid, hlocated, rfl⟩ := repair_located hnormalize happly
  obtain ⟨ordered, pieces, hordered, hfields, hall, rfl⟩ :=
    BoundedRepairPatch.apply_eq_ok.mp happly
  obtain ⟨-, hnodup, hperm, hexcerpts⟩ := BoundedRepairPatch.ordered_eq_ok.mp hordered
  have honce := fun target htarget => (hlocated target htarget).occursOnce (hover target htarget)
  have hmem {target : RepairTarget} : target ∈ sortTargets source spec.targets →
      target ∈ spec.targets := fun h => (perm_sortTargets source spec.targets).subset h
  have hweave := weave_of_cutAll hall
  have hstrict := windowStart_pairwise (fun target h => hlocated target (hmem h))
    (fun target h => honce target (hmem h)) (fun target h => excerpt_ne_nil hvalid (hmem h))
    ⟨pieces, hweave⟩
  refine ⟨honce, ?_, fun targets replacements htargets hreplacements => ?_⟩
  · refine ⟨_, ordered, pieces, perm_sortTargets source spec.targets, hperm, hexcerpts, ?_,
      hweave.2, by simp⟩
    rw [hweave.1, RepairSpec.length_excerpts]
  · refine ⟨{ spec with targets := sortTargets source spec.targets }, ?_, ?_⟩
    · have hne : ∀ target ∈ targets, target.sourceExcerpt.toList ≠ [] :=
        fun target htarget => excerpt_ne_nil hvalid (htargets.subset htarget)
      refine (@normalize_eq_ok { spec with targets := targets } _ source hmode hne).mpr
        ⟨fun target htarget => hlocated target (htargets.subset htarget), ?_⟩
      rw [sortTargets_eq_of_perm htargets hstrict]
    · refine BoundedRepairPatch.apply_eq_ok.mpr ⟨ordered, pieces, ?_, hfields, hall, rfl⟩
      exact BoundedRepairPatch.ordered_eq_ok.mpr ⟨hmode,
        ((hreplacements.map _).nodup_iff).mpr hnodup, hperm.trans hreplacements.symm, hexcerpts⟩

theorem located_of_occursOnce {target : RepairTarget} (hne : target.sourceExcerpt.toList ≠ [])
    (h : OccursOnce target.sourceExcerpt.toList source.chars) : Located source target := h.cut hne

/-- A list of the same values is the image of a list of the same items. -/
theorem exists_perm_of_map_perm {α β : Type} {f : α → β} {items : List α} {values : List β}
    (h : (items.map f).Perm values) : ∃ others : List α, others.Perm items ∧ others.map f = values := by
  generalize hmap : items.map f = mapped at h
  induction h generalizing items with
  | nil => exact ⟨items, .rfl, hmap⟩
  | cons value _ ih =>
    cases items with
    | nil => cases hmap
    | cons item items =>
      rw [List.map_cons, List.cons.injEq] at hmap
      obtain ⟨others, hperm, hothers⟩ := ih hmap.2
      exact ⟨item :: others, hperm.cons item, by rw [List.map_cons, hothers, hmap.1]⟩
  | swap first second values =>
    match items, hmap with
    | item :: other :: items, hmap =>
      simp only [List.map_cons, List.cons.injEq] at hmap
      obtain ⟨rfl, rfl, rfl⟩ := hmap
      exact ⟨other :: item :: items, .swap item other items, rfl⟩
  | trans _ _ ih ih' =>
    obtain ⟨others, hperm, hothers⟩ := ih hmap
    obtain ⟨last, hlast, hvalues⟩ := ih' hothers
    exact ⟨last, hlast.trans hperm, hvalues⟩

/-- Windows that occur once and do not share text stand in the order of their places. -/
theorem sortTargets_inOrder {targets : List RepairTarget}
    (hlocated : ∀ target ∈ targets, Located source target)
    (hne : ∀ target ∈ targets, target.sourceExcerpt.toList ≠ [])
    (hapart : targets.Pairwise fun a b =>
      Apart a.sourceExcerpt.toList b.sourceExcerpt.toList source.chars) :
    InOrder ((sortTargets source targets).map (·.sourceExcerpt.toList)) source.chars := by
  have hmem {target : RepairTarget} : target ∈ sortTargets source targets → target ∈ targets :=
    fun h => (perm_sortTargets source targets).subset h
  have hsorted : (sortTargets source targets).Pairwise fun a b =>
      Apart a.sourceExcerpt.toList b.sourceExcerpt.toList source.chars :=
    (List.Perm.pairwise_iff (fun h => h.symm) (perm_sortTargets source targets)).mpr hapart
  refine inOrder_of_pairwise _ (textBefore source) (List.nil_append source.chars).symm
    (fun target htarget => (hlocated target (hmem htarget)).occurs) (by simp) ?_
  refine (hsorted.and (pairwise_sortTargets source targets)).imp_of_mem fun {a b} ha hb h => ?_
  have hplace := hlocated a (hmem ha)
  have hplace' := hlocated b (hmem hb)
  refine (h.1 _ _ hplace.occurs hplace'.occurs).resolve_right fun hback => ?_
  -- The other order would put `b` in front of `a`.
  have hpos := List.length_pos_of_ne_nil (hne b (hmem hb))
  have hlt := windowStart_lt hplace' hplace (by omega)
  exact absurd h.2 (by omega)

/-- Both steps succeed when the excerpts occur once and apart, each with a replacement. -/
theorem repair_succeeds (hmode : spec.generationMode = .localOrBoundedRepair)
    (hvalid : spec.validate = .ok ())
    (honce : ∀ target ∈ spec.targets, OccursOnce target.sourceExcerpt.toList source.chars)
    (hapart : spec.targets.Pairwise fun a b =>
      Apart a.sourceExcerpt.toList b.sourceExcerpt.toList source.chars)
    (hidentities : (patch.replacements.map (·.sourceExcerpt)).Perm
      (spec.targets.map (·.sourceExcerpt))) :
    ∃ sorted out, normalizeBoundedRepairTargetOrder spec source = .ok sorted ∧
      patch.apply source sorted = .ok out := by
  have hne : ∀ target ∈ spec.targets, target.sourceExcerpt.toList ≠ [] :=
    fun target => excerpt_ne_nil hvalid
  have hlocated := fun target htarget =>
    located_of_occursOnce (hne target htarget) (honce target htarget)
  have hperm := perm_sortTargets source spec.targets
  obtain ⟨pieces, hall⟩ := exists_cutAll_iff.mpr (sortTargets_inOrder hlocated hne hapart)
  obtain ⟨ordered, hordered, hexcerpts⟩ :=
    exists_perm_of_map_perm (hidentities.trans (hperm.map (·.sourceExcerpt)).symm)
  have hdistinct : (spec.targets.map (·.sourceExcerpt)).Nodup := by
    refine List.pairwise_map.mpr (hapart.imp_of_mem fun {a b} ha hb h hsame => ?_)
    rw [hsame] at h
    have hoccurs := (hlocated b hb).occurs
    have hpos := List.length_pos_of_ne_nil (hne b hb)
    have hself := h _ _ hoccurs hoccurs
    omega
  refine ⟨_, _, (normalize_eq_ok hmode hne).mpr ⟨hlocated, rfl⟩,
    BoundedRepairPatch.apply_eq_ok.mpr ⟨ordered, pieces, ?_,
      (validate_eq_ok_perm hperm).mpr hvalid, hall, rfl⟩⟩
  exact BoundedRepairPatch.ordered_eq_ok.mpr
    ⟨hmode, hidentities.nodup_iff.mpr hdistinct, hordered, hexcerpts⟩

end Orders

/-- A repair that succeeds replaces the only occurrence of each excerpt, in whatever order the
targets and the replacements come, exactly when no excerpt overlaps itself in the source. A repair
of excerpts that occur once and apart succeeds. -/
theorem bounded_repair_exact_iff (spec : RepairSpec) (patch : BoundedRepairPatch)
    (source : SourceText) :
    (∀ sorted out, normalizeBoundedRepairTargetOrder spec source = .ok sorted →
      patch.apply source sorted = .ok out → (RepairedExactly spec patch source out ↔
        ∀ target ∈ spec.targets, ¬ OverlapsItself target.sourceExcerpt.toList source.chars)) ∧
    (spec.generationMode = .localOrBoundedRepair → spec.validate = .ok () →
      (∀ target ∈ spec.targets, OccursOnce target.sourceExcerpt.toList source.chars) →
      (spec.targets.Pairwise fun a b =>
        Apart a.sourceExcerpt.toList b.sourceExcerpt.toList source.chars) →
      (patch.replacements.map (·.sourceExcerpt)).Perm (spec.targets.map (·.sourceExcerpt)) →
      ∃ sorted out, normalizeBoundedRepairTargetOrder spec source = .ok sorted ∧
        patch.apply source sorted = .ok out) := by
  refine ⟨fun sorted out hnormalize happly => ⟨fun hexact target htarget => ?_, ?_⟩,
    repair_succeeds⟩
  · exact (hexact.once target htarget).not_overlapsItself
  · exact repairedExactly_of_not_overlapsItself hnormalize happly

theorem bounded_repair_exact_sample :
    RepairedExactly (.sample ["x"]) ⟨[⟨"x", "y"⟩]⟩
      (RepairSpec.sampleSource "axb" (by decide)) "ayb" := by
  refine ((bounded_repair_exact_iff (.sample ["x"]) ⟨[⟨"x", "y"⟩]⟩ _).1 (.sample ["x"]) "ayb"
    (by decide +kernel) (by decide +kernel)).mpr ?_
  rintro target htarget ⟨front, shift, hne, hshort, -⟩
  obtain rfl := List.mem_singleton.mp htarget
  have hlength : "x".toList.length = 1 := by decide
  have hpos := List.length_pos_of_ne_nil hne
  rw [hlength] at hshort
  omega

/-- The second match begins inside the first, and is not seen. -/
theorem bounded_repair_not_exact :
    ¬ ∀ (spec sorted : RepairSpec) (patch : BoundedRepairPatch) (source : SourceText) (out : String),
      (∀ target ∈ spec.targets, target.sourceExcerpt ≠ "") →
      normalizeBoundedRepairTargetOrder spec source = .ok sorted →
      patch.apply source sorted = .ok out → RepairedExactly spec patch source out := by
  intro hexact
  have hrepaired := hexact (.sample ["aa"]) (.sample ["aa"]) ⟨[⟨"aa", "b"⟩]⟩
    (RepairSpec.sampleSource "aaa" (by decide +kernel)) "ba" (by decide +kernel)
    (by decide +kernel) (by decide +kernel)
  have honce := hrepaired.once _ List.mem_cons_self
  have hfirst : [] ++ "aa".toList <+: "aaa".toList := by decide +kernel
  have hsecond : ['a'] ++ "aa".toList <+: "aaa".toList := by decide +kernel
  exact absurd (honce.unique hfirst hsecond) (by simp)

end Quillframe
