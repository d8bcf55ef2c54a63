import Quillframe.Digest
import Quillframe.Model

/-! What the store only carries: plan locks, corpus projections and guidance snapshots are JSON
documents whose checks belong to the planning, corpus and guidance modules, and model texts are
read by the JSON library. -/
namespace Quillframe

open Json (str int obj)

structure SceneWritingBrief where
  sceneId : String
  ordinal : ℕ
  viewpoint : String
  location : String
  entryState : String
  objective : String
  opposition : String
  turn : String
  choice : String
  consequence : String
  valueShift : String
  informationChange : String
  exitState : String
  emotionTarget : String
  readerEffect : String
  deriving DecidableEq, Repr

namespace SceneWritingBrief

/-- The texts of a brief under their field names, in the order of the record. -/
def texts (b : SceneWritingBrief) : List (String × String) :=
  [("viewpoint", b.viewpoint), ("location", b.location), ("entry_state", b.entryState),
    ("objective", b.objective), ("opposition", b.opposition), ("turn", b.turn),
    ("choice", b.choice), ("consequence", b.consequence), ("value_shift", b.valueShift),
    ("information_change", b.informationChange), ("exit_state", b.exitState),
    ("emotion_target", b.emotionTarget), ("reader_effect", b.readerEffect)]

def toJson {Fp : Type} (b : SceneWritingBrief) : Json Fp :=
  obj (("scene_id", str b.sceneId) :: ("ordinal", int b.ordinal) ::
    b.texts.map fun text => (text.1, str text.2))

end SceneWritingBrief

class Documents (Fp : Type) where
  /-- `serde_json::to_string`. -/
  render : Json Fp → String
  planLockValidate : Json Fp → CoreResult Unit
  /-- Target node and proposal fingerprint of the last layer. -/
  planLockLastLayer : Json Fp → Option (String × Fp)
  /-- The scenes of `chapter_plan(chapter_id)`, field by field. -/
  planLockScenes : Json Fp → String → CoreResult (List SceneWritingBrief)
  corpusProjectionValidate : Json Fp → CoreResult Unit
  guidanceValidate : Json Fp → CoreResult Unit

/-! ## A concrete reading over the symbolic digest -/

namespace Json

mutual

/-- The text of a value without escapes. -/
def spell : Json Digest → String
  | .null => "null"
  | .bool b => toString b
  | .int n => toString n
  | .float d => (if d.negative then "-" else "") ++ toString d.significand ++ "e" ++
      toString d.exponent
  | .str s => "\"" ++ s ++ "\""
  | .fp _ => "\"sha256\""
  | .arr items => "[" ++ spellItems items ++ "]"
  | .obj members => "\x7b" ++ spellMembers members ++ "\x7d"

def spellItems : List (Json Digest) → String
  | [] => ""
  | v :: rest => spell v ++ "," ++ spellItems rest

def spellMembers : List (String × Json Digest) → String
  | [] => ""
  | (key, v) :: rest => "\"" ++ key ++ "\":" ++ spell v ++ "," ++ spellMembers rest

end

def textAt (v : Json Digest) (key : String) : String := ((v.get? key).bind asStr).getD ""

end Json

/-- The scene a plan layer describes. -/
def SceneWritingBrief.ofLayer (v : Json Digest) : SceneWritingBrief where
  sceneId := v.textAt "scene_id"
  ordinal := (((v.get? "ordinal").bind Json.asInt).getD 0).toNat
  viewpoint := v.textAt "viewpoint"
  location := v.textAt "location"
  entryState := v.textAt "entry_state"
  objective := v.textAt "objective"
  opposition := v.textAt "opposition"
  turn := v.textAt "turn"
  choice := v.textAt "choice"
  consequence := v.textAt "consequence"
  valueShift := v.textAt "value_shift"
  informationChange := v.textAt "information_change"
  exitState := v.textAt "exit_state"
  emotionTarget := v.textAt "emotion_target"
  readerEffect := v.textAt "reader_effect"

/-- Plan locks are read by their chapter layer alone, with the checks of the other modules
passing. -/
instance : Documents Digest where
  render := Json.spell
  planLockValidate _ := .ok ()
  planLockLastLayer lock :=
    match (lock.get? "node_id").bind Json.asStr, (lock.get? "fingerprint").bind Json.asFp with
    | some node, some fingerprint => some (node, fingerprint)
    | _, _ => none
  planLockScenes lock _ :=
    .ok ((((lock.get? "scenes").bind Json.asItems).getD []).map SceneWritingBrief.ofLayer)
  corpusProjectionValidate _ := .ok ()
  guidanceValidate _ := .ok ()

end Quillframe
