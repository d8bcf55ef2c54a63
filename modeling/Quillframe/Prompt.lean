import Quillframe.Digest
import Quillframe.Error
import Quillframe.JsonPaths
import Quillframe.OrderedMap
import Quillframe.StringOrder

/-!
# Prompt assembly

A stage's prompt is built from its role and one JSON input. Before the input is frozen into a
block, the legacy upper bounds of prose lengths are taken out of it at every depth.
-/
namespace Quillframe.Prompt

open Json

/-! ## The source -/

def globalFictionFoundation : String :=
  "Quillframe prompt foundation: obey only the frozen project material supplied for this " ++
  "call; never invent canon or claim authority; stay inside the named stage; never reveal " ++
  "private chain-of-thought; return only the requested artifact in the requested language and" ++
  " format. Chapter-length policy has a hard minimum only and no prose-length maximum: never " ++
  "reject, compress, or rewrite a manuscript for exceeding a legacy maximum or target band."

def surfaceNaturalness : String :=
  "Chinese web-novel prose guidance: preserve every approved plot function and causal anchor," ++
  " but realize them through character choices, observable action, consequence, embodied " ++
  "dialogue, spatial continuity, and scene-specific reactions. Let sentence rhythm follow the" ++
  " dramatic beat and retain natural connective tissue. Do not add omniscient explanation, " ++
  "redundant stacks of action/feeling/body description, formulaic symmetry, thematic uplift, " ++
  "or a summary ending. Do not optimize mechanical sentence-length, dialogue-ratio, banned-" ++
  "word, or detector targets. End on live action, dialogue, discovery, or unresolved " ++
  "consequence when the frozen plan calls for chapter pull."

def proseReviewGuidance : String :=
  "Natural-prose review guidance: judge the lived reading effect with exact textual evidence." ++
  " Flag explanatory author commentary, redundant description stacks, disembodied dialogue, " ++
  "broken spatial continuity, formulaic symmetry or uplift, and summary endings only when " ++
  "they damage this manuscript. Preserve useful narrative connective tissue; do not score " ++
  "word bans, sentence-length ratios, dialogue ratios, deliberate errors, or AI-detector " ++
  "proxies."

def causalGuidance : String :=
  "Causal fiction guidance: model character-specific choice, pressure, observable action, " ++
  "reaction, cost, and changed scene state. Do not write finished prose and do not replace " ++
  "evidence with abstract labels."

def repairGuidance : String :=
  "Repair guidance: preserve the frozen creative intent, causal anchors, character voice, " ++
  "spatial continuity, and useful narrative connective tissue. Fix only evidenced defects; " ++
  "never flatten or dehydrate the story to make it look less machine-written, and never use " ++
  "detector proxies or mechanical ratios as repair targets."

structure PromptBlock (Fp : Type) where
  id : String
  channel : String
  content : Json Fp
  fingerprint : Fp

structure PromptAssembly (Fp : Type) where
  schema : String
  stageKey : String
  blocks : List (PromptBlock Fp)
  fingerprint : Fp

section Strip

variable {Fp : Type}

@[grind =] def mapObject (edit : List (String × Json Fp) → List (String × Json Fp)) : Json Fp → Json Fp
  | obj members => obj (edit members)
  | v => v

@[simp] theorem mapObject_id (v : Json Fp) : mapObject id v = v := by
  cases v <;> rfl

/-- `if let Some(Value::Object(value)) = map.get_mut(key)` with an edit of the value. -/
@[grind =] def updateObject (key : String)
    (edit : List (String × Json Fp) → List (String × Json Fp)) (members : List (String × Json Fp)) :
    List (String × Json Fp) :=
  members.map fun member =>
    if member.1 = key then (member.1, mapObject edit member.2) else member

/-- `map.remove(key)`. -/
@[grind =] def removeMember (key : String) (members : List (String × Json Fp)) : List (String × Json Fp) :=
  members.filter fun member => member.1 ≠ key

/-- What `scrub` does to a map before it visits the children. -/
@[grind =] def dropBounds (members : List (String × Json Fp)) : List (String × Json Fp) :=
  updateObject "scene_length_budget" (removeMember "target_max")
    (updateObject "constraint_lock" (updateObject "length" (removeMember "max")) members)

theorem sizeOf_removeMember_le (key : String) (members : List (String × Json Fp)) :
    sizeOf (removeMember key members) ≤ sizeOf members := by
  induction members with
  | nil => simp [removeMember]
  | cons member rest ih =>
    rw [removeMember] at ih ⊢
    rw [List.filter_cons]
    split_ifs
    · simpa using ih
    · simp only [List.cons.sizeOf_spec]
      omega

theorem sizeOf_mapObject_le {edit : List (String × Json Fp) → List (String × Json Fp)}
    (hedit : ∀ members, sizeOf (edit members) ≤ sizeOf members) (v : Json Fp) :
    sizeOf (mapObject edit v) ≤ sizeOf v := by
  cases v with
  | obj members => simpa [mapObject] using hedit members
  | _ => simp [mapObject]

theorem sizeOf_updateObject_le {edit : List (String × Json Fp) → List (String × Json Fp)}
    (hedit : ∀ members, sizeOf (edit members) ≤ sizeOf members) (key : String)
    (members : List (String × Json Fp)) :
    sizeOf (updateObject key edit members) ≤ sizeOf members := by
  induction members with
  | nil => simp [updateObject]
  | cons member rest ih =>
    obtain ⟨name, v⟩ := member
    have hv := sizeOf_mapObject_le hedit v
    rw [updateObject] at ih ⊢
    by_cases hname : name = key
    · simp only [List.map_cons, hname, if_true, List.cons.sizeOf_spec, Prod.mk.sizeOf_spec]
      omega
    · simpa [hname] using ih

theorem sizeOf_dropBounds_le (members : List (String × Json Fp)) :
    sizeOf (dropBounds members) ≤ sizeOf members :=
  (sizeOf_updateObject_le (sizeOf_removeMember_le "target_max") _ _).trans
    (sizeOf_updateObject_le (sizeOf_updateObject_le (sizeOf_removeMember_le "max") _) _ _)

mutual

@[grind =] def scrub (members : List (String × Json Fp)) : List (String × Json Fp) :=
  visitMembers (dropBounds members)
termination_by (sizeOf members, 1)
decreasing_by
  have := sizeOf_dropBounds_le members
  simp only [Prod.lex_def]
  omega

/-- `for child in map.values_mut()`. -/
@[grind =] def visitMembers : List (String × Json Fp) → List (String × Json Fp)
  | [] => []
  | (key, child) :: rest => (key, visit child) :: visitMembers rest
termination_by members => (sizeOf members, 0)

@[grind =] def visit : Json Fp → Json Fp
  | obj members => obj (scrub members)
  | arr values => arr (visitItems values)
  | v => v
termination_by v => (sizeOf v, 0)

def visitItems : List (Json Fp) → List (Json Fp)
  | [] => []
  | child :: rest => visit child :: visitItems rest
termination_by items => (sizeOf items, 0)

end

/-- A JSON object is a map ordered by its keys. -/
abbrev JsonMap (Fp : Type) := OrderedMap String (Json Fp)

theorem keys_updateObject (key : String)
    (edit : List (String × Json Fp) → List (String × Json Fp)) (members : List (String × Json Fp)) :
    (updateObject key edit members).map Prod.fst = members.map Prod.fst := by
  rw [updateObject, List.map_map]
  refine List.map_congr_left fun member _ => ?_
  by_cases hname : member.1 = key <;> simp [hname]

theorem keys_visitMembers (members : List (String × Json Fp)) :
    (visitMembers members).map Prod.fst = members.map Prod.fst := by
  induction members with
  | nil => rw [visitMembers]
  | cons member rest ih =>
    obtain ⟨key, child⟩ := member
    rw [visitMembers, List.map_cons, List.map_cons, ih]

theorem keys_scrub (members : List (String × Json Fp)) :
    (scrub members).map Prod.fst = members.map Prod.fst := by
  rw [scrub, keys_visitMembers, dropBounds, keys_updateObject, keys_updateObject]

def stripLegacyLengthUpperBounds (context : JsonMap Fp) : JsonMap Fp where
  entries := scrub context.entries
  sorted := by
    have hkeys := List.pairwise_map.mpr context.sorted
    rw [← keys_scrub] at hkeys
    exact List.pairwise_map.mp hkeys

/-- The map that a stage's input is read as. -/
def inputMap : Json Fp → JsonMap Fp
  | obj value => OrderedMap.ofList value
  | other => OrderedMap.ofList [("input", other)]

end Strip

def stageGuidance (stageKey : String) : Option String :=
  if "surface_scene_".toList <+: stageKey.toList then some surfaceNaturalness
  else if stageKey ∈ ["surface_realization", "bounded_repair_surface"] then
    some surfaceNaturalness
  else if stageKey ∈ ["surface_hard_rule_audit", "surface_hard_rule_audit_contract_repair",
      "candidate_self_audit", "independent_semantic_gate"] then
    some proseReviewGuidance
  else if stageKey ∈ ["repair_editor", "repair_comparison"] then some repairGuidance
  else if stageKey ∈ ["character_simulation", "scene_resolution"] then some causalGuidance
  else none

section Build

variable {Fp : Type} [Sha256 Fp]

def block (id channel : String) (content : Json Fp) : PromptBlock Fp where
  id := id
  channel := channel
  content := content
  fingerprint := Sha256.ofJson (obj
    [("channel", str channel), ("content", content), ("id", str id)])

def PromptBlock.toJson (block : PromptBlock Fp) : Json Fp :=
  obj [("channel", str block.channel), ("content", block.content),
    ("fingerprint", fp block.fingerprint), ("id", str block.id)]

def assemblyFingerprint (stageKey : String) (blocks : List (PromptBlock Fp)) : Fp :=
  Sha256.ofJson (obj [("blocks", arr (blocks.map PromptBlock.toJson)),
    ("schema", str "quillframe_prompt_assembly_v1"), ("stage_key", str stageKey)])

def PromptAssembly.build (stageKey stageRole : String) (input : Json Fp) :
    CoreResult (PromptAssembly Fp) := do
  require (¬ (blank stageKey ∨ blank stageRole))
    (.invalidProject "prompt stage and role must be non-empty")
  let stripped := stripLegacyLengthUpperBounds (inputMap input)
  let authorDirection := stripped.get? "instruction"
  let context := stripped.erase "instruction"
  let finalContract ← fetch (context.get? "contract")
    (.invalidProject ("prompt stage " ++ stageKey ++ " has no final output contract"))
  let context := context.erase "contract"
  let blocks :=
    [block "global_fiction_foundation" "system" (str globalFictionFoundation),
      block "stage_role" "system" (str stageRole)] ++
    ((stageGuidance stageKey).map fun guidance =>
      block "stage_craft_guidance" "system" (str guidance)).toList ++
    [block "frozen_dynamic_context" "user" (obj context.entries)] ++
    (authorDirection.map (block "current_author_direction" "user")).toList ++
    [block "final_output_contract" "user" finalContract]
  pure
    { schema := "quillframe_prompt_assembly_v1"
      stageKey := stageKey
      blocks := blocks
      fingerprint := assemblyFingerprint stageKey blocks }

end Build

/-! ## The places of the legacy bounds -/

section Places

variable {Fp : Type}

/-- Where a value stands: in a `constraint_lock`, in the `length` of one, in a
`scene_length_budget` or anywhere else. -/
inductive Place where
  | plain
  | lock
  | length
  | budget
  deriving DecidableEq, Repr

def legacyBounds : Pruning Place where
  member place key :=
    if key = "constraint_lock" then .lock
    else if key = "scene_length_budget" then .budget
    else if place = .lock ∧ key = "length" then .length
    else .plain
  item _ := .plain
  drops place key :=
    (place = .length ∧ key = "max") ∨ (place = .budget ∧ key = "target_max")

/-- The edits that the objects around a value make to its members before it is visited. -/
@[grind =] def dropAt : Place → List (String × Json Fp) → List (String × Json Fp)
  | .plain => id
  | .lock => updateObject "length" (removeMember "max")
  | .length => removeMember "max"
  | .budget => removeMember "target_max"

/-- The edits of an object and those around it, one member at a time. -/
theorem dropBounds_dropAt_cons (place : Place) (key : String) (v : Json Fp)
    (rest : List (String × Json Fp)) :
    dropBounds (dropAt place ((key, v) :: rest)) =
      if legacyBounds.drops place key then dropBounds (dropAt place rest)
      else (key, mapObject (dropAt (legacyBounds.member place key)) v) ::
        dropBounds (dropAt place rest) := by
  by_cases hlock : key = "constraint_lock"
  · subst hlock
    cases place <;> simp [dropBounds, dropAt, legacyBounds, updateObject, removeMember]
  · by_cases hbudget : key = "scene_length_budget"
    · subst hbudget
      cases place <;> simp [dropBounds, dropAt, legacyBounds, updateObject, removeMember]
    · cases place with
      | plain => simp [dropBounds, dropAt, legacyBounds, updateObject, hlock, hbudget]
      | lock =>
        by_cases hlength : key = "length" <;>
          simp [dropBounds, dropAt, legacyBounds, updateObject, hlock, hbudget, hlength]
      | length =>
        by_cases hmax : key = "max" <;>
          simp [dropBounds, dropAt, legacyBounds, updateObject, removeMember, hlock, hbudget,
            hmax]
      | budget =>
        by_cases hmax : key = "target_max" <;>
          simp [dropBounds, dropAt, legacyBounds, updateObject, removeMember, hlock, hbudget,
            hmax]

mutual

/-- The visit drops a member when it reaches the place that the member stands at. -/
theorem visit_mapObject : ∀ (place : Place) (v : Json Fp),
    visit (mapObject (dropAt place) v) = legacyBounds.prune place v
  | place, obj members => by
    rw [mapObject, visit, scrub, visitMembers_dropAt place members, Pruning.prune]
  | place, arr items => by
    simp only [mapObject, visit, visitItems_eq_prune items, Pruning.prune]
    rfl
  | _, .null | _, .bool _ | _, .int _ | _, .float _ | _, .str _ | _, .fp _ => by
    simp [mapObject, visit, Pruning.prune]

theorem visitMembers_dropAt : ∀ (place : Place) (members : List (String × Json Fp)),
    visitMembers (dropBounds (dropAt place members)) = legacyBounds.pruneMembers place members
  | place, [] => by
    cases place <;>
      simp [dropBounds, dropAt, updateObject, removeMember, visitMembers, Pruning.pruneMembers]
  | place, (key, v) :: rest => by
    rw [dropBounds_dropAt_cons, Pruning.pruneMembers, ← visitMembers_dropAt place rest]
    split_ifs
    · rfl
    · rw [visitMembers, visit_mapObject (legacyBounds.member place key) v]

theorem visitItems_eq_prune : ∀ items : List (Json Fp),
    visitItems items = legacyBounds.pruneItems .plain items
  | [] => by rw [visitItems, Pruning.pruneItems]
  | v :: rest => by
    have hv : mapObject (dropAt .plain) v = v := mapObject_id v
    rw [visitItems, Pruning.pruneItems, ← visitItems_eq_prune rest, ← visit_mapObject .plain v, hv]

end

/-- A member `max` of a `length` in a `constraint_lock` or a member `target_max` of a
`scene_length_budget`, or something in one. -/
def UnderLegacyBound (path : List PathStep) : Prop :=
  [.key "constraint_lock", .key "length", .key "max"] <:+: path ∨
    [.key "scene_length_budget", .key "target_max"] <:+: path

instance (path : List PathStep) : Decidable (UnderLegacyBound path) :=
  inferInstanceAs (Decidable (_ ∨ _))

/-- What is left of the way to a bound from a place. -/
def Place.ahead : Place → Option (List PathStep)
  | .plain => none
  | .lock => some [.key "length", .key "max"]
  | .length => some [.key "max"]
  | .budget => some [.key "target_max"]

theorem underLegacyBound_cons (step : PathStep) (rest : List PathStep) :
    UnderLegacyBound (step :: rest) ↔
      (.key "constraint_lock" = step ∧ [.key "length", .key "max"] <+: rest) ∨
        (.key "scene_length_budget" = step ∧ [.key "target_max"] <+: rest) ∨
          UnderLegacyBound rest := by
  simp only [UnderLegacyBound, List.infix_cons_iff, List.cons_prefix_cons]
  tauto

theorem cuts_legacyBounds_iff (place : Place) (path : List PathStep) :
    legacyBounds.cuts place path ↔
      (∃ way ∈ place.ahead, way <+: path) ∨ UnderLegacyBound path := by
  induction path generalizing place with
  | nil => cases place <;> simp [Pruning.cuts, Place.ahead, UnderLegacyBound]
  | cons step rest ih =>
    rw [underLegacyBound_cons]
    cases step with
    | index position =>
      rw [Pruning.cuts, ih]
      cases place <;> simp [legacyBounds, List.cons_prefix_cons, Place.ahead]
    | key name =>
      rw [Pruning.cuts, Bool.or_eq_true, ih]
      by_cases hlock : "constraint_lock" = name
      · subst hlock
        cases place <;> simp [legacyBounds, List.cons_prefix_cons, Place.ahead]
      · by_cases hbudget : "scene_length_budget" = name
        · subst hbudget
          cases place <;> simp [legacyBounds, List.cons_prefix_cons, Place.ahead]
        · cases place with
          | plain => simp [legacyBounds, Place.ahead, hlock, hbudget, Ne.symm hlock, Ne.symm hbudget]
          | lock =>
            by_cases hlength : "length" = name
            · subst hlength
              simp [legacyBounds, List.cons_prefix_cons, Place.ahead]
            · simp [legacyBounds, List.cons_prefix_cons, Place.ahead, hlock, hbudget, hlength,
                Ne.symm hlock, Ne.symm hbudget, Ne.symm hlength]
          | length =>
            simp [legacyBounds, List.cons_prefix_cons, Place.ahead, Ne.symm hlock,
              Ne.symm hbudget, eq_comm]
          | budget =>
            simp [legacyBounds, List.cons_prefix_cons, Place.ahead, Ne.symm hlock,
              Ne.symm hbudget, eq_comm]

theorem scrub_eq_prune (members : List (String × Json Fp)) :
    obj (scrub members) = legacyBounds.prune .plain (obj members) := by
  rw [← visit_mapObject, mapObject, dropAt, id, visit]

theorem strip_at? (context : JsonMap Fp) (path : List PathStep) :
    ((obj (stripLegacyLengthUpperBounds context).entries).at? path).map outline =
      if UnderLegacyBound path then none
      else ((obj context.entries).at? path).map outline := by
  have hentries : obj (stripLegacyLengthUpperBounds context).entries =
      legacyBounds.prune .plain (obj context.entries) := scrub_eq_prune context.entries
  have hcuts : legacyBounds.cuts .plain path ↔ UnderLegacyBound path := by
    simp [cuts_legacyBounds_iff, Place.ahead]
  rw [hentries, Pruning.at?_prune]
  simp only [hcuts]

theorem strip_strip (context : JsonMap Fp) :
    stripLegacyLengthUpperBounds (stripLegacyLengthUpperBounds context) =
      stripLegacyLengthUpperBounds context := by
  have hobj : obj (scrub (scrub context.entries)) = obj (scrub context.entries) := by
    rw [scrub_eq_prune (scrub _), scrub_eq_prune context.entries, Pruning.prune_prune]
  exact OrderedMap.ext (obj.inj hobj)

end Places

/-! ## What the blocks hold -/

section Blocks

variable {Fp : Type}

namespace PromptAssembly

def content? (assembly : PromptAssembly Fp) (id : String) : Option (Json Fp) :=
  (assembly.blocks.find? fun block => block.id = id).map PromptBlock.content

/-- The input that an assembly was built from, read off its blocks. -/
def recoverInput (assembly : PromptAssembly Fp) : Option (JsonMap Fp) :=
  match assembly.content? "frozen_dynamic_context", assembly.content? "final_output_contract",
    assembly.content? "current_author_direction" with
  | some (obj context), some contract, none =>
    some ((OrderedMap.ofList context).insert "contract" contract)
  | some (obj context), some contract, some direction =>
    some (((OrderedMap.ofList context).insert "contract" contract).insert "instruction" direction)
  | _, _, _ => none

variable [Sha256 Fp] {stageKey stageRole : String} {input : Json Fp}
  {assembly : PromptAssembly Fp}

theorem fields_of_build (h : build stageKey stageRole input = .ok assembly) :
    assembly.stageKey = stageKey ∧
      assembly.fingerprint = assemblyFingerprint stageKey assembly.blocks := by
  simp only [build, bind_eq_ok, pure_eq_ok] at h
  obtain ⟨-, -, contract, -, rfl⟩ := h
  exact ⟨rfl, rfl⟩

theorem content?_of_build (h : build stageKey stageRole input = .ok assembly) :
    let stripped := stripLegacyLengthUpperBounds (inputMap input)
    assembly.content? "stage_role" = some (str stageRole) ∧
      assembly.content? "frozen_dynamic_context" =
        some (obj ((stripped.erase "instruction").erase "contract").entries) ∧
      assembly.content? "current_author_direction" = stripped.get? "instruction" ∧
      assembly.content? "final_output_contract" = stripped.get? "contract" ∧
      (stripped.get? "contract").isSome := by
  intro stripped
  simp only [build, bind_eq_ok, pure_eq_ok, fetch_eq_ok] at h
  obtain ⟨-, -, contract, hcontract, rfl⟩ := h
  rw [OrderedMap.get?_erase_of_ne _ (by decide)] at hcontract
  rw [hcontract]
  cases hguidance : stageGuidance stageKey <;>
    cases hinstruction : (stripLegacyLengthUpperBounds (inputMap input)).get? "instruction" <;>
    simp [content?, block, stripped]

theorem recoverInput_of_build (h : build stageKey stageRole input = .ok assembly) :
    assembly.recoverInput = some (stripLegacyLengthUpperBounds (inputMap input)) := by
  obtain ⟨-, hcontext, hdirection, hcontract, hsome⟩ := content?_of_build h
  set stripped := stripLegacyLengthUpperBounds (inputMap input)
  obtain ⟨contract, hget⟩ := Option.isSome_iff_exists.mp hsome
  have hkept : (stripped.erase "instruction").get? "contract" = some contract := by
    rw [OrderedMap.get?_erase_of_ne _ (by decide), hget]
  rw [recoverInput, hcontext, hdirection, hcontract, hget]
  cases hinstruction : stripped.get? "instruction" with
  | none => simp [OrderedMap.insert_erase hget, OrderedMap.erase_of_get?_none hinstruction]
  | some direction => simp [OrderedMap.insert_erase hkept, OrderedMap.insert_erase hinstruction]

end PromptAssembly

theorem PromptBlock.toJson_injective :
    Function.Injective (PromptBlock.toJson : PromptBlock Fp → Json Fp) := by
  rintro ⟨id, channel, content, fingerprint⟩ ⟨id', channel', content', fingerprint'⟩ h
  simp only [PromptBlock.toJson, obj.injEq, List.cons.injEq, Prod.mk.injEq, str.injEq, fp.injEq,
    true_and, and_true] at h
  obtain ⟨rfl, rfl, rfl, rfl⟩ := h
  rfl

theorem assemblyFingerprint_inj [Sha256 Fp] [CollisionFree Fp] {key key' : String}
    {blocks blocks' : List (PromptBlock Fp)}
    (h : assemblyFingerprint key blocks = assemblyFingerprint key' blocks') :
    key = key' ∧ blocks = blocks' := by
  have hjson := CollisionFree.ofJson_injective h
  simp only [obj.injEq, List.cons.injEq, Prod.mk.injEq, arr.injEq, str.injEq, true_and,
    and_true] at hjson
  exact ⟨hjson.2, PromptBlock.toJson_injective.list_map hjson.1⟩

/-- Stripping removes the legacy bounds and nothing else, and the rest of what an assembly was
built from is in its blocks and told apart by its fingerprint. -/
theorem PromptAssembly.build_lossless [Sha256 Fp] [CollisionFree Fp] :
    (∀ context : JsonMap Fp,
      (∀ path, ((obj (stripLegacyLengthUpperBounds context).entries).at? path).map outline =
        if UnderLegacyBound path then none
        else ((obj context.entries).at? path).map outline) ∧
      stripLegacyLengthUpperBounds (stripLegacyLengthUpperBounds context) =
        stripLegacyLengthUpperBounds context) ∧
    (∀ stageKey stageRole input (assembly : PromptAssembly Fp),
      build stageKey stageRole input = .ok assembly →
      let stripped := stripLegacyLengthUpperBounds (inputMap input)
      assembly.recoverInput = some stripped ∧
        assembly.content? "stage_role" = some (str stageRole) ∧
        assembly.content? "frozen_dynamic_context" =
          some (obj ((stripped.erase "instruction").erase "contract").entries) ∧
        assembly.content? "current_author_direction" = stripped.get? "instruction" ∧
        assembly.content? "final_output_contract" = stripped.get? "contract") ∧
    (∀ stageKey stageKey' stageRole stageRole' input input' (assembly assembly' : PromptAssembly Fp),
      build stageKey stageRole input = .ok assembly →
      build stageKey' stageRole' input' = .ok assembly' →
      assembly.fingerprint = assembly'.fingerprint →
      stageKey = stageKey' ∧ stageRole = stageRole' ∧
        stripLegacyLengthUpperBounds (inputMap input) =
          stripLegacyLengthUpperBounds (inputMap input')) := by
  refine ⟨fun context => ⟨strip_at? context, strip_strip context⟩, ?_, ?_⟩
  · intro stageKey stageRole input assembly h stripped
    obtain ⟨hrole, hcontext, hdirection, hcontract, -⟩ := content?_of_build h
    exact ⟨recoverInput_of_build h, hrole, hcontext, hdirection, hcontract⟩
  · intro stageKey stageKey' stageRole stageRole' input input' assembly assembly' h h' heq
    have hrole := (content?_of_build h).1
    have hrole' := (content?_of_build h').1
    have hinput := recoverInput_of_build h
    have hinput' := recoverInput_of_build h'
    rw [(fields_of_build h).2, (fields_of_build h').2] at heq
    obtain ⟨hkey, hblocks⟩ := assemblyFingerprint_inj heq
    have hcontent : assembly.content? = assembly'.content? := by
      funext id
      rw [content?, content?, hblocks]
    rw [hcontent, hrole'] at hrole
    rw [recoverInput, hcontent, ← recoverInput, hinput'] at hinput
    exact ⟨hkey, (str.inj (Option.some.inj hrole)).symm, (Option.some.inj hinput).symm⟩

namespace Sample

def lockedInput : Json Digest :=
  obj [("constraint_lock", obj [("length", obj [("max", int 4200), ("min", int 3200)])]),
    ("contract", str "JSON"), ("instruction", str "write now")]

theorem stripped_lockedInput :
    (stripLegacyLengthUpperBounds (inputMap lockedInput)).entries =
      [("constraint_lock", obj [("length", obj [("min", int 3200)])]), ("contract", str "JSON"),
        ("instruction", str "write now")] := by
  have hentries : (inputMap lockedInput).entries =
      [("constraint_lock", obj [("length", obj [("max", int 4200), ("min", int 3200)])]),
        ("contract", str "JSON"), ("instruction", str "write now")] := rfl
  simp [stripLegacyLengthUpperBounds, hentries, scrub, dropBounds, updateObject, mapObject,
    removeMember, visitMembers, visit]

theorem exists_build_lockedInput :
    ∃ assembly, PromptAssembly.build "scene_resolution" "resolver" lockedInput = .ok assembly := by
  have hcontract : ((stripLegacyLengthUpperBounds (inputMap lockedInput)).erase
      "instruction").get? "contract" = some (str "JSON") := by
    simp [OrderedMap.get?, OrderedMap.erase, stripped_lockedInput]
  have hblank : ¬ (blank "scene_resolution" ∨ blank "resolver") := by decide
  simp only [PromptAssembly.build, require, if_pos hblank, fetch, hcontract]
  exact ⟨_, rfl⟩

end Sample

theorem PromptAssembly.build_lossless_sample :
    ((obj (stripLegacyLengthUpperBounds (inputMap Sample.lockedInput)).entries).at?
      [.key "constraint_lock", .key "length", .key "max"]).map outline = none ∧
    ∃ assembly, build "scene_resolution" "resolver" Sample.lockedInput = .ok assembly ∧
      assembly.recoverInput = some (stripLegacyLengthUpperBounds (inputMap Sample.lockedInput)) ∧
      ∀ stageKey stageRole input other, build stageKey stageRole input = .ok other →
        assembly.fingerprint = other.fingerprint → "resolver" = stageRole := by
  obtain ⟨assembly, hbuild⟩ := Sample.exists_build_lockedInput
  obtain ⟨hstrip, hblocks, hsame⟩ := @build_lossless Digest _ _
  refine ⟨?_, assembly, hbuild, (hblocks _ _ _ _ hbuild).1, ?_⟩
  · rw [(hstrip _).1, if_pos (by decide)]
  · intro stageKey stageRole input other hother heq
    exact (hsame _ _ _ _ _ _ _ _ hbuild hother heq).2.1

end Blocks

end Quillframe.Prompt
