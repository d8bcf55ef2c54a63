import Quillframe.StrictJson

/-!
# Reading a surface realization

The manuscript of a scene is read from typed JSON, from JSON with raw line breaks inside its
strings, from prose followed by the JSON of the same prose, or from bounded raw prose.
-/
namespace Quillframe

open JsonText (IsText Lexes Scan scan)
open Utf8 (byteLength rfind sliceFrom sliceTo)

variable {Fp : Type}

/-- `serde_json::Value`; the keys of an object are distinct. -/
abbrev Value := Json Empty

structure SurfaceRealization where
  manuscript : String
  deriving DecidableEq, Repr

def SurfaceRealization.validate (s : SurfaceRealization) : CoreResult Unit :=
  require (¬ blank s.manuscript) (.invalidProject "surface realization has no manuscript")

/-- The JSON library at `Value`, with its text for a value that is not of the struct. -/
structure ValueReader extends JsonReader Value where
  mismatch : Value → String

/-! ## Typed values -/

/-- `text.len()`. -/
def textLength (text : String) : ℕ := byteLength text.toList

mutual

def boundedSurfaceMetadata : Value → Bool
  | .null | .bool _ | .int _ | .float _ => true
  | .str text => textLength text ≤ 512
  | .arr items => items.length ≤ 16 && boundedItems items
  | .obj members => members.length ≤ 16 && boundedMembers members

def boundedItems : List Value → Bool
  | [] => true
  | item :: rest => boundedSurfaceMetadata item && boundedItems rest

def boundedMembers : List (String × Value) → Bool
  | [] => true
  | (key, item) :: rest =>
    textLength key ≤ 64 && boundedSurfaceMetadata item && boundedMembers rest

end

namespace Surface

abbrev Members := List (String × Value)

/-- `object.get(key)`. -/
def get (members : Members) (key : String) : Option Value :=
  (members.find? fun member => member.1 == key).map Prod.snd

/-- `object.remove(key)`. -/
def remove (members : Members) (key : String) : Members :=
  members.filter fun member => member.1 ≠ key

def emptyProviderField (value : Value) : Bool := value = .null || value = .str ""

def dropRawContent (members : Members) : CoreResult Members := do
  match get members "raw_content" with
  | none => return members
  | some redundant =>
    let rest := remove members "raw_content"
    require (emptyProviderField redundant ∨ get rest "manuscript" = some redundant)
      (.invalidProject "surface response raw_content alias differs from manuscript")
    return rest

/-- A status line in place of an answer: short on its own and beside the manuscript. -/
def boundedStatusNote (manuscript answer : Option Value) : Bool :=
  match manuscript, answer with
  | some (.str text), some (.str note) =>
    512 ≤ textLength text && !note.toList.any (fun c => c = '\n' || c = '\r') &&
      textLength note ≤ 256 && textLength note * 8 < textLength text
  | _, _ => false

def dropAnswer (members : Members) : CoreResult Members := do
  match get members "answer" with
  | none => return members
  | some answer =>
    let rest := remove members "answer"
    require (emptyProviderField answer ∨ get rest "manuscript" = some answer ∨
        boundedStatusNote (get rest "manuscript") (some answer))
      (.invalidProject ("surface response answer differs from manuscript and is not a bounded " ++
        "status note"))
    return rest

def dropIdentity (members : Members) (field : String × String) : CoreResult Members := do
  match get members field.1 with
  | none => return members
  | some identity =>
    require (identity = .str field.2)
      (.invalidProject ("surface response " ++ field.1 ++ " differs from the frozen scene"))
    return remove members field.1

def dropMetadata (members : Members) : CoreResult Members := do
  let metadata := remove members "manuscript"
  require (metadata = [] ∨ ¬ (8 < metadata.length ∨
      ¬ (metadata.all fun member => boundedSurfaceMetadata member.2) ∨
      2048 < (Json.obj metadata).encodedSize))
    (.invalidProject "surface response metadata is not bounded")
  return members.filter fun member => member.1 = "manuscript"

/-- `serde_json::from_value`: a struct is read from its object and from the array of its fields. -/
def fromValue (reader : ValueReader) : Value → Except String SurfaceRealization
  | .obj [("manuscript", .str manuscript)] => .ok ⟨manuscript⟩
  | .arr [.str manuscript] => .ok ⟨manuscript⟩
  | value => .error (reader.mismatch value)

end Surface

def parseSurfaceRealizationValue (reader : ValueReader) (value : Value)
    (expectedChapterId expectedSceneId : String) : CoreResult SurfaceRealization := do
  let value ← match value with
    | .obj members => do
      let members ← Surface.dropRawContent members
      let members ← Surface.dropAnswer members
      let members ← forEach Surface.dropIdentity
        [("chapter_id", expectedChapterId), ("scene_id", expectedSceneId)] members
      let members ← Surface.dropMetadata members
      pure (Json.obj members)
    | other => pure other
  match Surface.fromValue reader value with
  | .ok output => return output
  | .error error =>
    .error (.invalidProject ("surface stage returned invalid typed JSON: " ++ error))

/-! ## Texts that are not JSON -/

structure Repairing where
  inString : Bool
  escaped : Bool
  repaired : List Char
  deriving DecidableEq, Repr

namespace Repairing

def push (st : Repairing) (text : List Char) : Repairing :=
  { st with repaired := st.repaired ++ text }

def unsafeControl (requestId : String) : CoreError :=
  .invalidProject ("surface stage returned an unsafe JSON control character for " ++ requestId)

def step (requestId : String) (st : Repairing) (c : Char) : CoreResult Repairing :=
  if st.inString then
    if st.escaped then .ok { st.push [c] with escaped := false }
    else if c = '\\' then .ok { st.push [c] with escaped := true }
    else if c = '"' then .ok { st.push [c] with inString := false }
    else if c = '\n' then .ok (st.push ['\\', 'n'])
    else if c = '\r' then .ok (st.push ['\\', 'r'])
    else if c = '\t' then .ok (st.push ['\\', 't'])
    else if isControl c then .error (unsafeControl requestId)
    else .ok (st.push [c])
  else if c = '"' then .ok { st.push [c] with inString := true }
  else if isUnsafe c then .error (unsafeControl requestId)
  else .ok (st.push [c])

end Repairing

/-- The tail `,""}` that is cut off a repaired text. -/
def emptyTail : List Char := [',', '"', '"', '\x7d']

/-- The text that `parse_surface_json_with_unescaped_controls` reads in place of a payload. -/
def repairControls (requestId : String) (payload : List Char) : CoreResult (List Char) := do
  require (payload.head? = some '\x7b' ∧ payload.getLast? = some '\x7d')
    (.invalidProject ("surface stage returned no exact JSON object for " ++ requestId))
  let st ← forEach (Repairing.step requestId) payload ⟨false, false, []⟩
  require (¬ (st.inString ∨ st.escaped))
    (.invalidProject ("surface stage returned an unterminated JSON string for " ++ requestId))
  if emptyTail <:+ st.repaired then
    return st.repaired.take (st.repaired.length - 4) ++ ['\x7d']
  else return st.repaired

def parseSurfaceJsonWithUnescapedControls (reader : ValueReader) (result : ModelResult Fp) :
    CoreResult Value := do
  let repaired ← repairControls result.requestId (trimChars result.content.toList)
  match reader.fromStr repaired with
  | .ok value => return value
  | .error error =>
    .error (.invalidProject ("surface stage returned invalid repaired JSON for " ++
      result.requestId ++ ": " ++ error))

def objectMarkers : List (List Char) :=
  [['\n', '\x7b'], ['\n', '\x60', '\x7b'], ['\n', '\x60', '\x60', '\x7b'],
    ['\n', '\x60', '\x60', '\x60', '\x7b']]

/-- Where the last object after a line break starts. -/
def objectStart (payload : List Char) : Option ℕ :=
  (objectMarkers.filterMap fun marker =>
    (rfind marker payload).map fun index => index + byteLength marker - 1).max?

def parseSurfaceDuplicatePrefixJson (reader : ValueReader) (result : ModelResult Fp) :
    CoreResult Value := do
  let payload := trimChars result.content.toList
  let start ← fetch (objectStart payload)
    (.invalidProject ("surface stage returned no trailing JSON object for " ++ result.requestId))
  -- the marker ends in a bracket of one byte, so both slices exist
  let prosePrefix := trimChars ((sliceTo payload start).getD [])
  let prose := trimEndChars (prosePrefix.rdropWhile (· = '\x60'))
  let jsonPayload := trimChars ((sliceFrom payload start).getD [])
  require (¬ (prose = [] ∨ prose.head?.any fun c => isOpener c || c = '\x60'))
    (.invalidProject ("surface stage returned an invalid duplicate prose prefix for " ++
      result.requestId))
  match reader.fromStr jsonPayload with
  | .error error =>
    .error (.invalidProject ("surface stage returned invalid trailing JSON for " ++
      result.requestId ++ ": " ++ error))
  | .ok value =>
    let manuscript ← fetch ((value.get? "manuscript").bind Json.asStr)
      (.invalidProject ("surface stage trailing JSON omitted manuscript for " ++
        result.requestId))
    require (manuscript.toList = prose)
      (.invalidProject ("surface stage prose prefix differs from trailing JSON for " ++
        result.requestId))
    return value

/-- Prose that is neither a container nor a JSON text with escapes left in it. -/
def boundedProse (manuscript : List Char) : Bool :=
  !(manuscript = [] || 512 * 1024 < byteLength manuscript ||
    manuscript.head?.any (fun c => isOpener c || c = '\x60') ||
    ['\n', '\x7b'] <:+: manuscript || ['\n', '['] <:+: manuscript ||
    ['\\', 'n'] <:+: manuscript || ['\\', '"'] <:+: manuscript ||
    manuscript.any fun c => c = '\x00' || isUnsafe c)

def parseRawSurfaceProse (result : ModelResult Fp) : CoreResult SurfaceRealization := do
  let manuscript := trimChars result.content.toList
  require (boundedProse manuscript)
    (.invalidProject ("surface stage returned neither typed JSON nor bounded raw prose for " ++
      result.requestId))
  let output : SurfaceRealization := ⟨String.ofList manuscript⟩
  output.validate
  return output

def parseSurfaceModelJson (reader : ValueReader) (result : ModelResult Fp)
    (expectedChapterId expectedSceneId : String) : CoreResult SurfaceRealization :=
  match strictModelJson reader.toJsonReader result with
  | .ok value => parseSurfaceRealizationValue reader value expectedChapterId expectedSceneId
  | .error _ =>
    let object := match parseSurfaceJsonWithUnescapedControls reader result with
      | .ok value => .ok value
      | .error _ => parseSurfaceDuplicatePrefixJson reader result
    match object >>= fun value =>
        parseSurfaceRealizationValue reader value expectedChapterId expectedSceneId with
    | .ok output => .ok output
    | .error _ => parseRawSurfaceProse result

end Quillframe
