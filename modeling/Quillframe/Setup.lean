import Quillframe.Planning

/-!
# Book setup

The setup artifact an author approves: the book plan with its character, relationship and world
bibles, the structure seed and, for a long book, the architecture of its volumes and arcs.
-/
namespace Quillframe

open Json (str int fp obj arr strings)

variable {Fp : Type}

def bookSetupSchema : String := "quillframe_book_setup_v1"

/-! ## Texts -/

/-- `require_text`. -/
def requireText (field value : String) : CoreResult Unit :=
  require (¬ blank value ∧ value = trim value)
    (.invalidPlan ("book setup " ++ field ++ " must be non-empty and trimmed"))

def requireTextFields (fields : List (String × String)) : CoreResult Unit :=
  forEach (fun _ field => requireText field.1 field.2) fields ()

/-- `require_text_list`. -/
def requireTextList (field : String) (values : List String) : CoreResult Unit :=
  require (¬ (values = [] ∨ ∃ value ∈ values, blank value ∨ value ≠ trim value))
    (.invalidPlan ("book setup " ++ field ++ " must contain trimmed text"))

/-- Two lists name the same set. -/
def SameMembers (xs ys : List String) : Prop := (∀ x ∈ xs, x ∈ ys) ∧ ∀ y ∈ ys, y ∈ xs

instance (xs ys : List String) : Decidable (SameMembers xs ys) :=
  inferInstanceAs (Decidable (_ ∧ _))

/-- Adds to a `u64`. -/
def checkedCapacity (total added : ℕ) : CoreResult ℕ := do
  require (total + added < 2 ^ 64) (.invalidPlan "long-form capacity overflow")
  return total + added

/-! ## The long-form architecture -/

structure MacroPartSeed where
  partId : String
  ordinal : ℕ
  title : String
  storyEngine : String
  protagonistRole : String
  entryState : String
  terminalState : String
  terminalClimaxId : String
  minimumCapacityCharacters : ℕ
  deriving DecidableEq, Repr

namespace MacroPartSeed

def toJson (p : MacroPartSeed) : Json Fp :=
  obj [("part_id", str p.partId), ("ordinal", int p.ordinal), ("title", str p.title),
    ("story_engine", str p.storyEngine), ("protagonist_role", str p.protagonistRole),
    ("entry_state", str p.entryState), ("terminal_state", str p.terminalState),
    ("terminal_climax_id", str p.terminalClimaxId),
    ("minimum_capacity_characters", int p.minimumCapacityCharacters)]

/-- One macro part with its index; the ids before it. -/
def check (seen : List String) (item : MacroPartSeed × ℕ) : CoreResult (List String) := do
  let part := item.1
  requireTextFields [("macro part id", part.partId), ("macro part title", part.title),
    ("macro part story engine", part.storyEngine),
    ("macro part protagonist role", part.protagonistRole),
    ("macro part entry state", part.entryState),
    ("macro part terminal state", part.terminalState),
    ("macro part terminal climax", part.terminalClimaxId)]
  require (¬ (part.ordinal ≠ item.2 + 1 ∨ part.minimumCapacityCharacters = 0 ∨
      part.partId ∈ seen))
    (.invalidPlan "macro parts require contiguous ordinals, unique ids and positive capacity")
  return part.partId :: seen

end MacroPartSeed

structure VolumeTurnSeed where
  turnId : String
  phase : String
  event : String
  consequence : String
  advancedArcIds : List String
  deriving DecidableEq, Repr

namespace VolumeTurnSeed

def toJson (t : VolumeTurnSeed) : Json Fp :=
  obj [("turn_id", str t.turnId), ("phase", str t.phase), ("event", str t.event),
    ("consequence", str t.consequence), ("advanced_arc_ids", strings t.advancedArcIds)]

def phases : List String :=
  ["opening", "escalation", "reversal", "crisis", "climax", "aftermath"]

def requiredPhases : List String := ["opening", "reversal", "crisis", "climax", "aftermath"]

def check (seen : List String) (turn : VolumeTurnSeed) : CoreResult (List String) := do
  requireTextFields [("volume turn id", turn.turnId), ("volume turn phase", turn.phase),
    ("volume turn event", turn.event), ("volume turn consequence", turn.consequence)]
  require (¬ (turn.turnId ∈ seen ∨ turn.phase ∉ phases))
    (.invalidPlan "volume turns require unique ids and known dramatic phases")
  requireTextList "volume turn advanced arcs" turn.advancedArcIds
  return turn.turnId :: seen

end VolumeTurnSeed

structure VolumeBlueprintSeed where
  volumeId : String
  ordinal : ℕ
  macroPartId : String
  title : String
  timeScope : String
  dramaticQuestion : String
  entryState : String
  mainPlot : String
  majorTurns : List VolumeTurnSeed
  activeArcIds : List String
  climaxId : String
  irreversibleExitState : String
  nextVolumeHandoff : String
  minimumCapacityCharacters : ℕ
  deriving DecidableEq, Repr

/-- What the loop over the volumes has seen. -/
structure VolumeTally where
  volumeIds : List String
  capacityByPart : OrderedMap String ℕ
  lastPartOrdinal : ℕ
  totalCapacity : ℕ

namespace VolumeBlueprintSeed

def toJson (v : VolumeBlueprintSeed) : Json Fp :=
  obj [("volume_id", str v.volumeId), ("ordinal", int v.ordinal),
    ("macro_part_id", str v.macroPartId), ("title", str v.title), ("time_scope", str v.timeScope),
    ("dramatic_question", str v.dramaticQuestion), ("entry_state", str v.entryState),
    ("main_plot", str v.mainPlot), ("major_turns", arr (v.majorTurns.map VolumeTurnSeed.toJson)),
    ("active_arc_ids", strings v.activeArcIds), ("climax_id", str v.climaxId),
    ("irreversible_exit_state", str v.irreversibleExitState),
    ("next_volume_handoff", str v.nextVolumeHandoff),
    ("minimum_capacity_characters", int v.minimumCapacityCharacters)]

def texts (v : VolumeBlueprintSeed) : List (String × String) :=
  [("volume id", v.volumeId), ("volume title", v.title), ("volume time scope", v.timeScope),
    ("volume dramatic question", v.dramaticQuestion), ("volume entry state", v.entryState),
    ("volume main plot", v.mainPlot), ("volume climax id", v.climaxId),
    ("volume irreversible exit state", v.irreversibleExitState),
    ("volume next handoff", v.nextVolumeHandoff)]

def checkTurns (v : VolumeBlueprintSeed) : CoreResult Unit := do
  require (5 ≤ v.majorTurns.length)
    (.invalidPlan
      "every volume requires a concrete opening, reversal, crisis, climax and aftermath")
  let _ ← forEach VolumeTurnSeed.check v.majorTurns []
  require (∀ phase ∈ VolumeTurnSeed.requiredPhases, phase ∈ v.majorTurns.map (·.phase))
    (.invalidPlan "every volume must contain the required dramatic turn phases")

def check (parts : List MacroPartSeed) (acc : VolumeTally) (item : VolumeBlueprintSeed × ℕ) :
    CoreResult VolumeTally := do
  let volume := item.1
  requireTextFields volume.texts
  let part ← fetch (parts.find? fun part => part.partId = volume.macroPartId)
    (.invalidPlan "every volume must belong to a known macro part")
  require (¬ (volume.ordinal ≠ item.2 + 1 ∨ volume.minimumCapacityCharacters = 0 ∨
      volume.volumeId ∈ acc.volumeIds ∨ part.ordinal < acc.lastPartOrdinal))
    (.invalidPlan ("volumes require contiguous ordinals, unique ids, positive capacity and " ++
      "contiguous macro-part coverage"))
  requireTextList "volume active arcs" volume.activeArcIds
  volume.checkTurns
  let capacity ← checkedCapacity ((acc.capacityByPart.get? volume.macroPartId).getD 0)
    volume.minimumCapacityCharacters
  let totalCapacity ← checkedCapacity acc.totalCapacity volume.minimumCapacityCharacters
  return {
    volumeIds := volume.volumeId :: acc.volumeIds
    capacityByPart := acc.capacityByPart.insert volume.macroPartId capacity
    lastPartOrdinal := part.ordinal
    totalCapacity }

end VolumeBlueprintSeed

structure ArcMilestoneSeed where
  volumeId : String
  change : String
  consequence : String
  deriving DecidableEq, Repr

inductive NarrativeArcKind where
  | mainPlot | subplot | business | political | relationship | romance | character
  deriving DecidableEq, Repr

def NarrativeArcKind.name : NarrativeArcKind → String
  | .mainPlot => "main_plot"
  | .subplot => "subplot"
  | .business => "business"
  | .political => "political"
  | .relationship => "relationship"
  | .romance => "romance"
  | .character => "character"

structure NarrativeArcSeed where
  arcId : String
  kind : NarrativeArcKind
  title : String
  participantIds : List String
  initialState : String
  terminalState : String
  milestones : List ArcMilestoneSeed
  deriving DecidableEq, Repr

namespace NarrativeArcSeed

def toJson (a : NarrativeArcSeed) : Json Fp :=
  obj [("arc_id", str a.arcId), ("kind", str a.kind.name), ("title", str a.title),
    ("participant_ids", strings a.participantIds), ("initial_state", str a.initialState),
    ("terminal_state", str a.terminalState),
    ("milestones", arr (a.milestones.map fun m => obj [("volume_id", str m.volumeId),
      ("change", str m.change), ("consequence", str m.consequence)]))]

/-- One milestone: the ordinal of the volume of the one before. -/
def checkMilestone (volumes : List VolumeBlueprintSeed) (previous : ℕ)
    (milestone : ArcMilestoneSeed) : CoreResult ℕ := do
  requireText "narrative arc milestone change" milestone.change
  requireText "narrative arc milestone consequence" milestone.consequence
  let volume ← fetch (volumes.find? fun volume => volume.volumeId = milestone.volumeId)
    (.invalidPlan "narrative arc milestones must reference known volumes")
  -- an increasing sequence of ordinals visits no volume twice
  require (previous < volume.ordinal)
    (.invalidPlan "narrative arc milestones must follow strict volume order")
  return volume.ordinal

def check (volumes : List VolumeBlueprintSeed) (seen : List String) (a : NarrativeArcSeed) :
    CoreResult (List String) := do
  requireTextFields [("narrative arc id", a.arcId), ("narrative arc title", a.title),
    ("narrative arc initial state", a.initialState),
    ("narrative arc terminal state", a.terminalState)]
  require (¬ (a.arcId ∈ seen ∨ a.milestones = []))
    (.invalidPlan "narrative arcs require unique ids and fixed volume milestones")
  let _ ← forEach (checkMilestone volumes) a.milestones 0
  return a.arcId :: seen

end NarrativeArcSeed

structure ClimaxSeed where
  climaxId : String
  volumeId : String
  escalationTier : ℕ
  convergingArcIds : List String
  decisiveChoiceOrAction : String
  irreversibleConsequence : String
  resultingEquilibrium : String
  deriving DecidableEq, Repr

namespace ClimaxSeed

def toJson (c : ClimaxSeed) : Json Fp :=
  obj [("climax_id", str c.climaxId), ("volume_id", str c.volumeId),
    ("escalation_tier", int c.escalationTier), ("converging_arc_ids", strings c.convergingArcIds),
    ("decisive_choice_or_action", str c.decisiveChoiceOrAction),
    ("irreversible_consequence", str c.irreversibleConsequence),
    ("resulting_equilibrium", str c.resultingEquilibrium)]

/-- One climax after those before it. -/
def check (volumeIds arcIds : List String) (seen : List ClimaxSeed) (c : ClimaxSeed) :
    CoreResult (List ClimaxSeed) := do
  requireTextFields [("climax id", c.climaxId),
    ("climax decisive action", c.decisiveChoiceOrAction),
    ("climax consequence", c.irreversibleConsequence),
    ("climax resulting equilibrium", c.resultingEquilibrium)]
  require (¬ (c.escalationTier = 0 ∨ c.volumeId ∉ volumeIds ∨ c.climaxId ∈ seen.map (·.climaxId) ∨
      c.volumeId ∈ seen.map (·.volumeId)))
    (.invalidPlan "the climax chain requires one unique typed climax for every known volume")
  requireTextList "climax converging arcs" c.convergingArcIds
  require (∀ id ∈ c.convergingArcIds, id ∈ arcIds)
    (.invalidPlan "climaxes may converge only known narrative arcs")
  return c :: seen

end ClimaxSeed

structure FixedEndingSeed where
  centralQuestionAnswer : String
  protagonistFinalChoice : String
  protagonistFinalState : String
  worldFinalState : String
  finalCost : String
  finalImage : String
  finalClimaxId : String
  resolvedArcIds : List String
  intentionallyOpenArcIds : List String
  deriving DecidableEq, Repr

namespace FixedEndingSeed

def toJson (e : FixedEndingSeed) : Json Fp :=
  obj [("central_question_answer", str e.centralQuestionAnswer),
    ("protagonist_final_choice", str e.protagonistFinalChoice),
    ("protagonist_final_state", str e.protagonistFinalState),
    ("world_final_state", str e.worldFinalState), ("final_cost", str e.finalCost),
    ("final_image", str e.finalImage), ("final_climax_id", str e.finalClimaxId),
    ("resolved_arc_ids", strings e.resolvedArcIds),
    ("intentionally_open_arc_ids", strings e.intentionallyOpenArcIds)]

def validate (e : FixedEndingSeed) (arcIds : List String) (lastClimaxId : String) :
    CoreResult Unit := do
  requireTextFields [("ending central answer", e.centralQuestionAnswer),
    ("ending protagonist choice", e.protagonistFinalChoice),
    ("ending protagonist state", e.protagonistFinalState),
    ("ending world state", e.worldFinalState), ("ending cost", e.finalCost),
    ("ending image", e.finalImage), ("ending final climax", e.finalClimaxId)]
  require (e.resolvedArcIds.Nodup ∧ e.intentionallyOpenArcIds.Nodup ∧
      (∀ id ∈ e.resolvedArcIds, id ∉ e.intentionallyOpenArcIds) ∧
      SameMembers (e.resolvedArcIds ++ e.intentionallyOpenArcIds) arcIds ∧
      e.finalClimaxId = lastClimaxId)
    (.invalidPlan
      "the fixed ending must bind the final climax and account for every narrative arc")

end FixedEndingSeed

structure CharacterCharmBeatSeed where
  volumeId : String
  function : String
  visibleBehavior : String
  costOrConsequence : String
  deriving DecidableEq, Repr

structure CharacterCharmArcSeed where
  characterId : String
  coreAppeal : String
  centralContradiction : String
  signatureModes : List String
  vulnerability : String
  terminalTransformation : String
  beats : List CharacterCharmBeatSeed
  deriving DecidableEq, Repr

namespace CharacterCharmArcSeed

def toJson (c : CharacterCharmArcSeed) : Json Fp :=
  obj [("character_id", str c.characterId), ("core_appeal", str c.coreAppeal),
    ("central_contradiction", str c.centralContradiction),
    ("signature_modes", strings c.signatureModes), ("vulnerability", str c.vulnerability),
    ("terminal_transformation", str c.terminalTransformation),
    ("beats", arr (c.beats.map fun b => obj [("volume_id", str b.volumeId),
      ("function", str b.function), ("visible_behavior", str b.visibleBehavior),
      ("cost_or_consequence", str b.costOrConsequence)]))]

def checkBeat (volumeIds : List String) (beat : CharacterCharmBeatSeed) : CoreResult Unit := do
  requireTextFields [("charm beat function", beat.function),
    ("charm beat visible behavior", beat.visibleBehavior),
    ("charm beat consequence", beat.costOrConsequence)]
  require (beat.volumeId ∈ volumeIds)
    (.invalidPlan "character charm beats must reference known volumes")

def check (volumeIds : List String) (seen : List String) (c : CharacterCharmArcSeed) :
    CoreResult (List String) := do
  requireTextFields [("charm character id", c.characterId), ("charm core appeal", c.coreAppeal),
    ("charm central contradiction", c.centralContradiction),
    ("charm vulnerability", c.vulnerability),
    ("charm terminal transformation", c.terminalTransformation)]
  requireTextList "character charm signature modes" c.signatureModes
  require (¬ (c.characterId ∈ seen ∨ c.beats.length < 3))
    (.invalidPlan "character charm arcs require unique characters and at least three fixed beats")
  let _ ← forEach (fun _ beat => checkBeat volumeIds beat) c.beats ()
  require (∀ function ∈ ["showcase", "vulnerability", "payoff"],
      function ∈ c.beats.map (·.function))
    (.invalidPlan "character charm arcs must show appeal, vulnerability and payoff")
  return c.characterId :: seen

end CharacterCharmArcSeed

structure ProgressionLadderSeed where
  ladderId : String
  name : String
  stages : List String
  allowedMovements : List String
  deriving DecidableEq, Repr

def ProgressionLadderSeed.toJson (l : ProgressionLadderSeed) : Json Fp :=
  obj [("ladder_id", str l.ladderId), ("name", str l.name), ("stages", strings l.stages),
    ("allowed_movements", strings l.allowedMovements)]

def ProgressionLadderSeed.check (seen : List String) (l : ProgressionLadderSeed) :
    CoreResult (List String) := do
  requireText "progression ladder id" l.ladderId
  requireText "progression ladder name" l.name
  requireTextList "progression ladder stages" l.stages
  requireTextList "progression ladder movements" l.allowedMovements
  require (¬ (l.stages.length < 2 ∨ l.ladderId ∈ seen))
    (.invalidPlan "progression ladders require unique ids and at least two stages")
  return l.ladderId :: seen

structure RollingOutlinePolicy where
  committedChapters : ℕ
  plannedChapters : ℕ
  directionalChapters : ℕ
  refreshAfterAcceptedChapters : ℕ
  deriving DecidableEq, Repr

structure CastEvolutionPolicy where
  initialCoreTargetMin : ℕ
  initialCoreTargetMax : ℕ
  activeVolumeDriversMin : ℕ
  activeVolumeDriversMax : ℕ
  promotionRule : String
  exitRule : String
  returnRule : String
  deriving DecidableEq, Repr

structure SelectiveContextPolicy where
  recentChapterLimit : ℕ
  evidenceAxes : List String
  contextManifestRequired : Bool
  sourceEvidenceRequired : Bool
  deriving DecidableEq, Repr

structure MacroCanonPolicy where
  mutableScope : String
  revisionRequiresAuthorApproval : Bool
  revisionRequiresNewSetupFingerprint : Bool
  deriving DecidableEq, Repr

structure LongFormArchitecture where
  macroParts : List MacroPartSeed
  volumes : List VolumeBlueprintSeed
  narrativeArcs : List NarrativeArcSeed
  climaxChain : List ClimaxSeed
  fixedEnding : FixedEndingSeed
  characterCharmArcs : List CharacterCharmArcSeed
  progressionLadders : List ProgressionLadderSeed
  rollingOutlinePolicy : RollingOutlinePolicy
  castEvolutionPolicy : CastEvolutionPolicy
  repetitionDimensions : List String
  selectiveContextPolicy : SelectiveContextPolicy
  macroCanonPolicy : MacroCanonPolicy
  deriving DecidableEq, Repr

namespace LongFormArchitecture

def toJson (a : LongFormArchitecture) : Json Fp :=
  obj [("macro_parts", arr (a.macroParts.map MacroPartSeed.toJson)),
    ("volumes", arr (a.volumes.map VolumeBlueprintSeed.toJson)),
    ("narrative_arcs", arr (a.narrativeArcs.map NarrativeArcSeed.toJson)),
    ("climax_chain", arr (a.climaxChain.map ClimaxSeed.toJson)),
    ("fixed_ending", a.fixedEnding.toJson),
    ("character_charm_arcs", arr (a.characterCharmArcs.map CharacterCharmArcSeed.toJson)),
    ("progression_ladders", arr (a.progressionLadders.map ProgressionLadderSeed.toJson)),
    ("rolling_outline_policy",
      obj [("committed_chapters", int a.rollingOutlinePolicy.committedChapters),
        ("planned_chapters", int a.rollingOutlinePolicy.plannedChapters),
        ("directional_chapters", int a.rollingOutlinePolicy.directionalChapters),
        ("refresh_after_accepted_chapters",
          int a.rollingOutlinePolicy.refreshAfterAcceptedChapters)]),
    ("cast_evolution_policy",
      obj [("initial_core_target_min", int a.castEvolutionPolicy.initialCoreTargetMin),
        ("initial_core_target_max", int a.castEvolutionPolicy.initialCoreTargetMax),
        ("active_volume_drivers_min", int a.castEvolutionPolicy.activeVolumeDriversMin),
        ("active_volume_drivers_max", int a.castEvolutionPolicy.activeVolumeDriversMax),
        ("promotion_rule", str a.castEvolutionPolicy.promotionRule),
        ("exit_rule", str a.castEvolutionPolicy.exitRule),
        ("return_rule", str a.castEvolutionPolicy.returnRule)]),
    ("repetition_dimensions", strings a.repetitionDimensions),
    ("selective_context_policy",
      obj [("recent_chapter_limit", int a.selectiveContextPolicy.recentChapterLimit),
        ("evidence_axes", strings a.selectiveContextPolicy.evidenceAxes),
        ("context_manifest_required", .bool a.selectiveContextPolicy.contextManifestRequired),
        ("source_evidence_required", .bool a.selectiveContextPolicy.sourceEvidenceRequired)]),
    ("macro_canon_policy",
      obj [("mutable_scope", str a.macroCanonPolicy.mutableScope),
        ("revision_requires_author_approval",
          .bool a.macroCanonPolicy.revisionRequiresAuthorApproval),
        ("revision_requires_new_setup_fingerprint",
          .bool a.macroCanonPolicy.revisionRequiresNewSetupFingerprint)])]

def volumeIds (a : LongFormArchitecture) : List String := a.volumes.map (·.volumeId)

def arcIds (a : LongFormArchitecture) : List String := a.narrativeArcs.map (·.arcId)

/-- Macro parts and volumes: order, ids and capacities. -/
def validateVolumes (a : LongFormArchitecture) (minimumTotalCharacters : ℕ) :
    CoreResult Unit := do
  require (¬ (a.macroParts.length < 2 ∨ a.volumes.length < 2))
    (.invalidPlan "long-form architecture requires multiple macro parts and operating volumes")
  let _ ← forEach MacroPartSeed.check a.macroParts.zipIdx []
  let tally ← forEach (VolumeBlueprintSeed.check a.macroParts) a.volumes.zipIdx ⟨[], .empty, 0, 0⟩
  require (¬ (tally.totalCapacity < minimumTotalCharacters ∨
      ∃ part ∈ a.macroParts,
        tally.capacityByPart.get? part.partId ≠ some part.minimumCapacityCharacters))
    (.invalidPlan ("explicit volume capacity must cover the declared scale and exactly roll up " ++
      "to every macro part"))

/-- Narrative arcs and the volumes that advance them. -/
def validateArcs (a : LongFormArchitecture) : CoreResult Unit := do
  let _ ← forEach (NarrativeArcSeed.check a.volumes) a.narrativeArcs []
  require (¬ (a.narrativeArcs.length < 3 ∨ (∀ arc ∈ a.narrativeArcs, arc.kind ≠ .mainPlot) ∨
      ∀ arc ∈ a.narrativeArcs, arc.kind ≠ .relationship ∧ arc.kind ≠ .romance))
    (.invalidPlan ("long-form setup requires multiple fixed arcs including a main plot and a " ++
      "relationship arc"))
  require (∀ volume ∈ a.volumes, (∀ id ∈ volume.activeArcIds, id ∈ a.arcIds) ∧
      ∀ turn ∈ volume.majorTurns, ∀ id ∈ turn.advancedArcIds, id ∈ a.arcIds)
    (.invalidPlan "volume plans and turns may advance only known narrative arcs")

/-- The climax of every volume and of every macro part. -/
def validateClimaxes (a : LongFormArchitecture) : CoreResult Unit := do
  let _ ← forEach (ClimaxSeed.check a.volumeIds a.arcIds) a.climaxChain []
  require (SameMembers (a.climaxChain.map (·.volumeId)) a.volumeIds ∧
      (∀ volume ∈ a.volumes, ∃ climax ∈ a.climaxChain,
        climax.climaxId = volume.climaxId ∧ climax.volumeId = volume.volumeId) ∧
      ∀ part ∈ a.macroParts, (∃ climax ∈ a.climaxChain, climax.climaxId = part.terminalClimaxId) ∧
        ∃ volume ∈ a.volumes, volume.macroPartId = part.partId ∧
          volume.climaxId = part.terminalClimaxId)
    (.invalidPlan
      "volume and macro-part terminal climaxes must bind exactly into the full climax chain")

/-- The ending, the charm arcs and the policies. -/
def validatePolicies (a : LongFormArchitecture) (rollingHorizon : ℕ) : CoreResult Unit := do
  a.fixedEnding.validate a.arcIds ((a.volumes.getLast?.map (·.climaxId)).getD "")
  let _ ← forEach (CharacterCharmArcSeed.check a.volumeIds) a.characterCharmArcs []
  let policy := a.macroCanonPolicy
  require (policy.mutableScope = "chapter_execution_only" ∧
      policy.revisionRequiresAuthorApproval ∧ policy.revisionRequiresNewSetupFingerprint)
    (.invalidPlan ("book and volume canon must be fixed; only chapter execution may roll without " ++
      "a new author-approved setup fingerprint"))
  let _ ← forEach ProgressionLadderSeed.check a.progressionLadders []
  require (2 ≤ a.progressionLadders.length)
    (.invalidPlan "long-form architecture requires multiple independent progression ladders")
  let rolling := a.rollingOutlinePolicy
  require (¬ (rolling.committedChapters = 0 ∨ rolling.plannedChapters = 0 ∨
      rolling.directionalChapters = 0 ∨ rolling.committedChapters + rolling.plannedChapters +
        rolling.directionalChapters ≠ rollingHorizon ∨
      rolling.refreshAfterAcceptedChapters = 0 ∨
      rollingHorizon ≤ rolling.refreshAfterAcceptedChapters))
    (.invalidPlan ("rolling outline zones must be non-empty, cover the horizon and refresh " ++
      "before exhaustion"))
  let cast := a.castEvolutionPolicy
  require (¬ (cast.initialCoreTargetMin = 0 ∨ cast.initialCoreTargetMax < cast.initialCoreTargetMin ∨
      cast.activeVolumeDriversMin = 0 ∨ cast.activeVolumeDriversMax < cast.activeVolumeDriversMin))
    (.invalidPlan "cast evolution ranges must be positive and ordered")
  requireTextFields [("cast promotion rule", cast.promotionRule),
    ("cast exit rule", cast.exitRule), ("cast return rule", cast.returnRule)]
  require (8 ≤ a.repetitionDimensions.length)
    (.invalidPlan "long-form repetition ledger requires at least eight semantic dimensions")
  requireTextList "repetition dimensions" a.repetitionDimensions
  require a.repetitionDimensions.Nodup
    (.invalidPlan "long-form repetition dimensions must be unique")
  let context := a.selectiveContextPolicy
  require (¬ (context.recentChapterLimit = 0 ∨ rollingHorizon < context.recentChapterLimit ∨
      ¬ context.contextManifestRequired ∨ ¬ context.sourceEvidenceRequired))
    (.invalidPlan "long-form context must be selective, manifest-bound and source-evidenced")
  requireTextList "selective context evidence axes" context.evidenceAxes

/-- `validate_long_form_architecture`. -/
def validate (a : LongFormArchitecture) (rollingHorizon minimumTotalCharacters : ℕ) :
    CoreResult Unit := do
  a.validateVolumes minimumTotalCharacters
  a.validateArcs
  a.validateClimaxes
  a.validatePolicies rollingHorizon

/-- `validate_long_form_authority_bindings`. -/
def validateAuthorityBindings (a : LongFormArchitecture) (characterIds : List String) :
    CoreResult Unit := do
  require (∀ arc ∈ a.narrativeArcs, ∀ id ∈ arc.participantIds, id ∈ characterIds)
    (.invalidPlan "narrative arc participants must reference setup character bibles")
  require (SameMembers (a.characterCharmArcs.map (·.characterId)) characterIds)
    (.invalidPlan "character charm arcs must exactly cover the setup core cast")

end LongFormArchitecture

/-! ## The artifact -/

structure BookSetupSourceEvidence (Fp : Type) where
  sourceId : String
  sourceKind : String
  sourceUri : String
  sourceRevision : String
  contentFingerprint : Fp
  role : String
  deriving DecidableEq

namespace BookSetupSourceEvidence

def toJson (s : BookSetupSourceEvidence Fp) : Json Fp :=
  obj [("source_id", str s.sourceId), ("source_kind", str s.sourceKind),
    ("source_uri", str s.sourceUri), ("source_revision", str s.sourceRevision),
    ("content_fingerprint", fp s.contentFingerprint), ("role", str s.role)]

def check (s : BookSetupSourceEvidence Fp) : CoreResult Unit :=
  requireTextFields [("source evidence id", s.sourceId), ("source evidence kind", s.sourceKind),
    ("source evidence uri", s.sourceUri), ("source evidence revision", s.sourceRevision),
    ("source evidence role", s.role)]

end BookSetupSourceEvidence

structure CharacterVoiceProfile where
  baseline : String
  withIntimates : String
  withAuthority : String
  underPressure : String
  avoidsSaying : List String
  deriving DecidableEq, Repr

structure CharacterBible where
  characterId : String
  displayName : String
  storyFunction : String
  externalWant : String
  privateNeed : String
  fearOrShame : String
  falseBelief : String
  values : List String
  publicMask : String
  defaultStrategy : String
  pressureLeak : String
  defenseOrHumor : String
  voice : CharacterVoiceProfile
  knowledgeBoundaries : List String
  nonNegotiables : List String
  deriving DecidableEq, Repr

namespace CharacterBible

def toJson (c : CharacterBible) : Json Fp :=
  obj [("character_id", str c.characterId), ("display_name", str c.displayName),
    ("story_function", str c.storyFunction), ("external_want", str c.externalWant),
    ("private_need", str c.privateNeed), ("fear_or_shame", str c.fearOrShame),
    ("false_belief", str c.falseBelief), ("values", strings c.values),
    ("public_mask", str c.publicMask), ("default_strategy", str c.defaultStrategy),
    ("pressure_leak", str c.pressureLeak), ("defense_or_humor", str c.defenseOrHumor),
    ("voice", obj [("baseline", str c.voice.baseline),
      ("with_intimates", str c.voice.withIntimates),
      ("with_authority", str c.voice.withAuthority),
      ("under_pressure", str c.voice.underPressure),
      ("avoids_saying", strings c.voice.avoidsSaying)]),
    ("knowledge_boundaries", strings c.knowledgeBoundaries),
    ("non_negotiables", strings c.nonNegotiables)]

def check (c : CharacterBible) : CoreResult Unit := do
  requireTextFields [("character_id", c.characterId), ("display_name", c.displayName),
    ("story_function", c.storyFunction), ("external_want", c.externalWant),
    ("private_need", c.privateNeed), ("fear_or_shame", c.fearOrShame),
    ("false_belief", c.falseBelief), ("public_mask", c.publicMask),
    ("default_strategy", c.defaultStrategy), ("pressure_leak", c.pressureLeak),
    ("defense_or_humor", c.defenseOrHumor), ("voice.baseline", c.voice.baseline),
    ("voice.with_intimates", c.voice.withIntimates),
    ("voice.with_authority", c.voice.withAuthority),
    ("voice.under_pressure", c.voice.underPressure)]
  requireTextList "character values" c.values
  requireTextList "knowledge boundaries" c.knowledgeBoundaries
  requireTextList "character non-negotiables" c.nonNegotiables
  requireTextList "voice avoids_saying" c.voice.avoidsSaying

end CharacterBible

structure RelationshipBible where
  relationshipId : String
  participantIds : List String
  sharedHistory : String
  currentSurface : String
  hiddenDebt : String
  powerBalance : String
  forbiddenTopic : String
  defaultPattern : String
  participantTactics : OrderedMap String String
  deriving DecidableEq

namespace RelationshipBible

def toJson (r : RelationshipBible) : Json Fp :=
  obj [("relationship_id", str r.relationshipId), ("participant_ids", strings r.participantIds),
    ("shared_history", str r.sharedHistory), ("current_surface", str r.currentSurface),
    ("hidden_debt", str r.hiddenDebt), ("power_balance", str r.powerBalance),
    ("forbidden_topic", str r.forbiddenTopic), ("default_pattern", str r.defaultPattern),
    ("participant_tactics",
      obj (r.participantTactics.entries.map fun entry => (entry.1, str entry.2)))]

/-- One relationship bible against the characters and the arcs of the book plan. -/
def check (characterIds : List String) (arcs : List RelationshipArcPlan) (seen : List String)
    (r : RelationshipBible) : CoreResult (List String) := do
  requireTextFields [("relationship_id", r.relationshipId), ("shared_history", r.sharedHistory),
    ("current_surface", r.currentSurface), ("hidden_debt", r.hiddenDebt),
    ("power_balance", r.powerBalance), ("forbidden_topic", r.forbiddenTopic),
    ("default_pattern", r.defaultPattern)]
  require (r.participantIds.length = 2 ∧ r.participantIds.Nodup ∧
      (∀ id ∈ r.participantIds, id ∈ characterIds) ∧ r.participantTactics.entries.length = 2 ∧
      (∀ entry ∈ r.participantTactics.entries,
        entry.1 ∈ r.participantIds ∧ ¬ blank entry.2) ∧
      r.relationshipId ∉ seen ∧
      ∃ arc ∈ arcs, arc.relationshipId = r.relationshipId ∧
        SameMembers arc.participantIds r.participantIds)
    (.invalidPlan ("relationship bibles require a unique book-plan relationship and tactics for " ++
      "both known participants"))
  return r.relationshipId :: seen

end RelationshipBible

structure WorldSeed where
  seedId : String
  topic : String
  rule : String
  narrativePressure : String
  unknowns : List String
  deriving DecidableEq, Repr

namespace WorldSeed

def toJson (w : WorldSeed) : Json Fp :=
  obj [("seed_id", str w.seedId), ("topic", str w.topic), ("rule", str w.rule),
    ("narrative_pressure", str w.narrativePressure), ("unknowns", strings w.unknowns)]

def check (seen : List String) (w : WorldSeed) : CoreResult (List String) := do
  requireTextFields [("world seed id", w.seedId), ("world seed topic", w.topic),
    ("world seed rule", w.rule), ("world seed narrative pressure", w.narrativePressure)]
  require (w.seedId ∉ seen) (.invalidPlan "world seed ids must be unique")
  if w.unknowns ≠ [] then requireTextList "world seed unknowns" w.unknowns
  return w.seedId :: seen

end WorldSeed

structure BookStructureSeed where
  firstVolumeTitle : String
  firstUnitTitle : String
  firstChapterTitle : String
  rollingOutlineChapters : ℕ
  minimumTotalCharacters : Option ℕ
  longForm : Option LongFormArchitecture
  deriving DecidableEq, Repr

def BookStructureSeed.toJson (s : BookStructureSeed) : Json Fp :=
  obj ([("first_volume_title", str s.firstVolumeTitle), ("first_unit_title", str s.firstUnitTitle),
    ("first_chapter_title", str s.firstChapterTitle),
    ("rolling_outline_chapters", int s.rollingOutlineChapters)] ++
    (s.minimumTotalCharacters.toList.map fun (n : ℕ) => ("minimum_total_characters", int n)) ++
    s.longForm.toList.map fun architecture => ("long_form", architecture.toJson))

structure BookSetupArtifact (Fp : Type) where
  schema : String
  projectId : String
  bookId : String
  bookPlan : BookPlan
  characterBibles : List CharacterBible
  relationshipBibles : List RelationshipBible
  worldSeeds : List WorldSeed
  seed : BookStructureSeed
  sourceEvidenceRefs : List (BookSetupSourceEvidence Fp)
  fingerprint : Fp
  deriving DecidableEq

namespace BookSetupArtifact

/-- The text that is fingerprinted. -/
def projection (a : BookSetupArtifact Fp) : Json Fp :=
  obj [("schema", str a.schema), ("project_id", str a.projectId), ("book_id", str a.bookId),
    ("book_plan", a.bookPlan.toJson),
    ("character_bibles", arr (a.characterBibles.map CharacterBible.toJson)),
    ("relationship_bibles", arr (a.relationshipBibles.map RelationshipBible.toJson)),
    ("world_seeds", arr (a.worldSeeds.map WorldSeed.toJson)),
    ("structure", a.seed.toJson),
    ("source_evidence_refs", arr (a.sourceEvidenceRefs.map BookSetupSourceEvidence.toJson)),
    ("fingerprint", str "")]

/-- The scale of the book and, from five million characters on, its architecture. -/
def validateScale (a : BookSetupArtifact Fp) : CoreResult Unit := do
  let seed := a.seed
  require (¬ (seed.rollingOutlineChapters = 0 ∨ 30 < seed.rollingOutlineChapters ∨
      seed.minimumTotalCharacters = some 0))
    (.invalidPlan ("book setup requires a 1-30 chapter rolling horizon and a positive optional " ++
      "minimum scale"))
  if 5000000 ≤ seed.minimumTotalCharacters.getD 0 then
    require (a.bookPlan.fixedEndingOutcomes ≠ [])
      (.invalidPlan ("book setup at or above five million characters requires concrete fixed " ++
        "ending outcomes"))
    requireTextList "book fixed ending outcomes" a.bookPlan.fixedEndingOutcomes
    let architecture ← fetch seed.longForm
      (.invalidPlan ("book setup at or above five million characters requires a typed long-form " ++
        "architecture"))
    architecture.validate seed.rollingOutlineChapters (seed.minimumTotalCharacters.getD 0)
    require (architecture.castEvolutionPolicy.initialCoreTargetMin ≤ a.characterBibles.length)
      (.invalidPlan "long-form setup must instantiate its declared minimum initial core cast")
  else
    match seed.longForm with
    | some architecture =>
      architecture.validate seed.rollingOutlineChapters (seed.minimumTotalCharacters.getD 1)
    | none => return ()

/-- The bibles against the arcs of the book plan. -/
def validateBibles (a : BookSetupArtifact Fp) : CoreResult Unit := do
  require (a.characterBibles ≠ [])
    (.invalidPlan "book setup requires at least one character bible")
  forDistinct CharacterBible.check CharacterBible.characterId
    (.invalidPlan "book setup character ids must be unique") a.characterBibles []
  let characterIds := a.characterBibles.map (·.characterId)
  require (SameMembers characterIds (a.bookPlan.characterArcs.map (·.characterId)))
    (.invalidPlan "character bibles must exactly cover the book-plan character arcs")
  match a.seed.longForm with
  | some architecture => architecture.validateAuthorityBindings characterIds
  | none => pure ()
  let relationshipIds ← forEach
    (RelationshipBible.check characterIds a.bookPlan.relationshipArcs) a.relationshipBibles []
  require (SameMembers relationshipIds (a.bookPlan.relationshipArcs.map (·.relationshipId)))
    (.invalidPlan "relationship bibles must exactly cover the book-plan relationship arcs")

def validateShape (a : BookSetupArtifact Fp) : CoreResult Unit := do
  require (a.schema = bookSetupSchema ∧ a.bookId = "BOOK")
    (.invalidPlan "book setup schema and book identity must be exact")
  requireText "project_id" a.projectId
  require (a.sourceEvidenceRefs ≠ [])
    (.invalidPlan "book setup requires fingerprint-bound source evidence")
  forDistinct BookSetupSourceEvidence.check BookSetupSourceEvidence.sourceId
    (.invalidPlan "book setup source evidence ids must be unique") a.sourceEvidenceRefs []
  (PlanBody.book a.bookPlan).validate
  a.validateScale
  requireTextFields [("first_volume_title", a.seed.firstVolumeTitle),
    ("first_unit_title", a.seed.firstUnitTitle),
    ("first_chapter_title", a.seed.firstChapterTitle)]
  a.validateBibles
  require (a.worldSeeds ≠ [])
    (.invalidPlan "book setup requires at least one pressure-bearing world seed")
  let _ ← forEach WorldSeed.check a.worldSeeds []

variable [Sha256 Fp] [DecidableEq Fp]

def setupFingerprint (a : BookSetupArtifact Fp) : Fp := Sha256.ofJson a.projection

def validate (a : BookSetupArtifact Fp) : CoreResult Unit := do
  a.validateShape
  require (a.fingerprint = a.setupFingerprint) (.authorityConflict "book setup fingerprint changed")

/-- `seal`, the artifact with its fingerprint. -/
def sealed (a : BookSetupArtifact Fp) : CoreResult (BookSetupArtifact Fp) := do
  let value := { a with schema := bookSetupSchema, bookId := "BOOK" }
  value.validateShape
  return { value with fingerprint := value.setupFingerprint }

end BookSetupArtifact

end Quillframe
