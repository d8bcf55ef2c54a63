import Quillframe.Endpoint
import Quillframe.Lines
import Quillframe.Repair
import Quillframe.StrictJson

/-!
# Provider answers

Three protocols and an event stream are decoded into one kind of model result. The JSON library
is a parameter where texts are read.
-/
namespace Quillframe

open Json

/-! ## The source -/

section Source

variable {Fp : Type}

/-- The index that a token of a JSON pointer stands for. -/
def arrayIndex (token : List Char) : Option ℕ :=
  if token = [] ∨ (token.head? = some '0' ∧ token.length ≠ 1) ∨ ¬ token.all Char.isDigit then none
  else
    let position := token.foldl (fun n c => 10 * n + (c.toNat - '0'.toNat)) 0
    if position < 2 ^ 64 then some position else none

/-- `value.pointer(..)`, the pointer given by its tokens. -/
def Json.pointer : Json Fp → List String → Option (Json Fp)
  | v, [] => some v
  | obj members, token :: rest => ((obj members).get? token).bind fun child => child.pointer rest
  | arr items, token :: rest =>
    ((arrayIndex token.toList).bind (items[·]?)).bind fun child => child.pointer rest
  | _, _ :: _ => none

/-- `Value::as_u64`. -/
def Json.asU64 : Json Fp → Option ℕ
  | int n => if 0 ≤ n ∧ n < 2 ^ 64 then some n.toNat else none
  | _ => none

def Json.isNull : Json Fp → Bool
  | null => true
  | _ => false

/-- `value.get(key).and_then(Value::as_str)`. -/
def Json.getStr (v : Json Fp) (key : String) : Option String := (v.get? key).bind asStr

def Json.getU64 (v : Json Fp) (key : String) : Option ℕ := (v.get? key).bind asU64

/-- `line.strip_suffix('\r')` where there is one. -/
def stripReturn (line : List Char) : List Char :=
  if line.getLast? = some '\r' then line.dropLast else line

/-- `text.lines()`. -/
def textLines (text : List Char) : List (List Char) :=
  match (text.splitOn '\n').reverse with
  | [] => []
  | last :: terminated =>
    terminated.reverse.map stripReturn ++ if last = [] then [] else [last]

/-- `line.split_once(':')`. -/
def splitOnce (c : Char) (line : List Char) : Option (List Char × List Char) :=
  match line.dropWhile (· ≠ c) with
  | [] => none
  | _ :: rest => some (line.takeWhile (· ≠ c), rest)

/-- The value of a line that is a field `data`. -/
def dataField (line : List Char) : Option (List Char) :=
  if line.head? = some ':' then none
  else
    let (field, value) := (splitOnce ':' line).getD (line, [])
    if field ≠ "data".toList then none
    else some (if value.head? = some ' ' then value.tail else value)

def sseDataEvents (stream : List Char) : List (List Char) :=
  (((splitDouble '\n' (unifyNewlines stream)).map fun event =>
    (textLines event).filterMap dataField).filter fun dataLines => !dataLines.isEmpty).map
      ['\n'].intercalate

def runtime (message : String) : CoreError := .modelRuntime message

structure StreamState where
  content : String
  providerResponseId : Option String
  responseModel : Option String
  usage : ModelUsage
  done : Bool
  finished : Bool
  deriving DecidableEq, Repr

def StreamState.initial : StreamState where
  content := ""
  providerResponseId := none
  responseModel := none
  usage := ⟨none, none, none, none⟩
  done := false
  finished := false

/-- What one streamed value adds. -/
def StreamState.absorb (st : StreamState) (value : Json Fp) : StreamState where
  providerResponseId :=
    if st.providerResponseId.isNone then value.getStr "id" else st.providerResponseId
  responseModel := if st.responseModel.isNone then value.getStr "model" else st.responseModel
  content :=
    match (value.pointer ["choices", "0", "delta", "content"]).bind asStr with
    | some fragment => st.content ++ fragment
    | none => st.content
  finished :=
    st.finished || (value.pointer ["choices", "0", "finish_reason"]).any fun reason =>
      !reason.isNull
  usage :=
    match value.get? "usage" with
    | some valueUsage =>
      { st.usage with
        inputTokens := valueUsage.getU64 "prompt_tokens"
        outputTokens := valueUsage.getU64 "completion_tokens"
        totalTokens := valueUsage.getU64 "total_tokens" }
    | none => st.usage
  done := st.done

def StreamState.event (parse : List Char → Option (Json Fp)) (st : StreamState)
    (data : List Char) : CoreResult StreamState :=
  let data := trimChars data
  if data = "[DONE]".toList then .ok { st with done := true }
  else do
    let value ← fetch (parse data) (runtime "streaming model event is not valid JSON")
    return st.absorb value

variable [Sha256 Fp] [DecidableEq Fp]

def normalizeOpenaiChatStream (parse : List Char → Option (Json Fp)) (service : ServiceEndpoint)
    (request : ModelRequest) (bytes : ByteArray) : CoreResult (ModelResult Fp) := do
  let stream ← fetch (String.fromUTF8? bytes) (runtime "streaming model response is not UTF-8")
  let last ← forEach (StreamState.event parse) (sseDataEvents stream.toList) .initial
  require (¬ (blank last.content ∨ (¬ last.done ∧ ¬ last.finished)))
    (runtime "streaming model response ended without assistant content and a completion marker")
  ModelResult.record request.requestId service.serviceId (last.responseModel.getD request.model)
    last.content last.providerResponseId last.usage

def normalizeOpenaiChat (service : ServiceEndpoint) (request : ModelRequest) (value : Json Fp) :
    CoreResult (ModelResult Fp) := do
  let content ← fetch
    (((value.pointer ["choices", "0", "message", "content"]).bind asStr).filter fun content =>
      ¬ blank content)
    (runtime "model response has no assistant content")
  let usage := (value.get? "usage").getD null
  let result : ModelResult Fp :=
    { schema := "quillframe_model_result_v1"
      requestId := request.requestId
      serviceId := service.serviceId
      model := (value.getStr "model").getD request.model
      content := content
      providerResponseId := value.getStr "id"
      usage :=
        { inputTokens := usage.getU64 "prompt_tokens"
          outputTokens := usage.getU64 "completion_tokens"
          totalTokens := usage.getU64 "total_tokens"
          costMicros := none }
      fingerprint := Sha256.ofText "" }
  let result := { result with fingerprint := result.computeFingerprint }
  result.validate
  return result

def normalizedResult (service : ServiceEndpoint) (request : ModelRequest) (value : Json Fp)
    (content : String) (inputTokens outputTokens totalTokens : Option ℕ) :
    CoreResult (ModelResult Fp) :=
  ModelResult.record request.requestId service.serviceId
    ((value.getStr "model").getD request.model) content (value.getStr "id")
    ⟨inputTokens, outputTokens, totalTokens, none⟩

/-- The texts of the items of one type in an array. -/
def textsOf (kind : String) (items : List (Json Fp)) : List String :=
  (items.filter fun item => item.getStr "type" = some kind).filterMap fun item =>
    item.getStr "text"

def normalizeOpenaiResponses (service : ServiceEndpoint) (request : ModelRequest)
    (value : Json Fp) : CoreResult (ModelResult Fp) := do
  let output := ((value.get? "output").bind asItems).getD []
  let messages := output.filter fun item => item.getStr "type" = some "message"
  let parts := (messages.filterMap fun item => (item.get? "content").bind asItems).flatten
  let content := String.join (textsOf "output_text" parts)
  require (¬ blank content) (runtime "Responses API returned no output_text")
  normalizedResult service request value content
    ((value.pointer ["usage", "input_tokens"]).bind asU64)
    ((value.pointer ["usage", "output_tokens"]).bind asU64)
    ((value.pointer ["usage", "total_tokens"]).bind asU64)

/-- `left + right` on `u64`, in a build with or without overflow checks. -/
def addU64 (overflowChecks : Bool) (left right : ℕ) : Outcome ℕ :=
  if left + right < 2 ^ 64 then .ok (left + right)
  else if overflowChecks then .error .panicked
  else .ok ((left + right) % 2 ^ 64)

def normalizeAnthropic (overflowChecks : Bool) (service : ServiceEndpoint)
    (request : ModelRequest) (value : Json Fp) : Outcome (ModelResult Fp) := do
  let items := ((value.get? "content").bind asItems).getD []
  let content := String.join (textsOf "text" items)
  raise (require (¬ blank content) (runtime "Anthropic Messages returned no text content"))
  let input := (value.pointer ["usage", "input_tokens"]).bind asU64
  let output := (value.pointer ["usage", "output_tokens"]).bind asU64
  let total ← match input, output with
    | some left, some right => some <$> addU64 overflowChecks left right
    | _, _ => .ok none
  raise (normalizedResult service request value content input output total)

end Source

/-! ## The lines of an event stream -/

section Stream

variable {read : List Char → Option (List Char)}

theorem return_not_mem_unifyNewlines (text : List Char) : '\r' ∉ unifyNewlines text := by
  intro h
  obtain ⟨c, -, hc⟩ := List.mem_map.mp h
  split_ifs at hc with hcr
  · simp at hc
  · exact hcr hc

theorem stripReturn_of_not_mem {line : List Char} (h : '\r' ∉ line) : stripReturn line = line :=
  if_neg fun hlast => h (List.mem_of_getLast? hlast)

/-- A text without returns is read line by line. -/
theorem filterMap_textLines (hread : read [] = none) {text : List Char} (h : '\r' ∉ text) :
    (textLines text).filterMap read = (text.splitOn '\n').filterMap read := by
  have hpieces : ∀ piece ∈ text.splitOn '\n', stripReturn piece = piece := fun piece hpiece =>
    stripReturn_of_not_mem fun hmem => h (mem_of_mem_splitOn hpiece hmem)
  rw [textLines]
  cases hlines : (text.splitOn '\n').reverse with
  | nil => simp at hlines
  | cons last terminated =>
    have hsplit : text.splitOn '\n' = terminated.reverse ++ [last] := by
      rw [← List.reverse_reverse (text.splitOn '\n'), hlines, List.reverse_cons]
    have hstrip : terminated.reverse.map stripReturn = terminated.reverse := by
      refine (List.map_congr_left fun piece hpiece => ?_).trans (List.map_id _)
      exact hpieces piece (by simp [hsplit, List.mem_reverse.mp hpiece])
    rw [hsplit]
    by_cases hlast : last = []
    · simp [hlast, hstrip, hread]
    · simp [hlast, hstrip]

theorem sseDataEvents_intercalate (newline : Newline) {lines : List (List Char)}
    (h : ∀ line ∈ lines, IsLine line) :
    sseDataEvents (newline.chars.intercalate lines) =
      (kept (groups dataField lines)).map ['\n'].intercalate := by
  have hread : dataField [] = none := rfl
  have hsections := (sections_intercalate (c := '\n') hread lines fun line hline =>
    (h line hline).2).1
  have hplain : ∀ piece ∈ splitDouble '\n' (['\n'].intercalate lines),
      (textLines piece).filterMap dataField = (piece.splitOn '\n').filterMap dataField := by
    intro piece hpiece
    refine filterMap_textLines hread fun hmem => ?_
    have htext := mem_of_mem_splitDouble hpiece hmem
    rw [← unifyNewlines_intercalate newline h] at htext
    exact return_not_mem_unifyNewlines _ htext
  rw [← hsections, sseDataEvents, unifyNewlines_intercalate newline h,
    List.map_congr_left hplain]
  rfl

/-- A line of an event stream. -/
inductive StreamLine where
  | blank
  | comment (text : List Char)
  | data (spaced : Bool) (value : List Char)
  | other (name value : List Char)
  deriving DecidableEq, Repr

namespace StreamLine

def text : StreamLine → List Char
  | blank => []
  | comment text => ':' :: text
  | data spaced value => "data:".toList ++ (if spaced then [' '] else []) ++ value
  | other name value => name ++ ':' :: value

def data? : StreamLine → Option (List Char)
  | data _ value => some value
  | _ => none

def isBlank : StreamLine → Bool
  | blank => true
  | _ => false

def WellFormed (line : StreamLine) : Prop :=
  IsLine line.text ∧
    match line with
    | blank | comment _ => True
    | data spaced value => spaced ∨ value.head? ≠ some ' '
    | other name _ => name ≠ [] ∧ name ≠ "data".toList ∧ ':' ∉ name

instance : DecidablePred WellFormed
  | blank => inferInstanceAs (Decidable (IsLine _ ∧ True))
  | comment _ => inferInstanceAs (Decidable (IsLine _ ∧ True))
  | data spaced value => inferInstanceAs (Decidable (IsLine _ ∧ (spaced ∨ value.head? ≠ some ' ')))
  | other name _ =>
    inferInstanceAs (Decidable (IsLine _ ∧ name ≠ [] ∧ name ≠ "data".toList ∧ ':' ∉ name))

theorem splitOnce_append {name : List Char} (h : ':' ∉ name) (value : List Char) :
    splitOnce ':' (name ++ ':' :: value) = some (name, value) := by
  have hname : ∀ c ∈ name, decide (c ≠ ':') = true := fun c hc =>
    decide_eq_true fun hcolon => h (hcolon ▸ hc)
  rw [splitOnce, List.dropWhile_append_of_pos hname, List.takeWhile_append_of_pos hname]
  simp

theorem dataField_text {line : StreamLine} (h : line.WellFormed) :
    dataField line.text = line.data? := by
  cases line with
  | blank => rfl
  | comment text => rfl
  | data spaced value =>
    have hcolon : ':' ∉ "data".toList := by decide
    cases spaced with
    | true =>
      have hsplit := splitOnce_append hcolon (' ' :: value)
      have htext : (data true value).text = "data".toList ++ ':' :: ' ' :: value := rfl
      rw [dataField, htext, hsplit]
      rfl
    | false =>
      have hsplit := splitOnce_append hcolon value
      have htext : (data false value).text = "data".toList ++ ':' :: value := rfl
      have hvalue : value.head? ≠ some ' ' := by simpa using h.2
      rw [dataField, htext, hsplit]
      simp [hvalue, data?]
  | other name value =>
    obtain ⟨-, hne, hdata, hcolon⟩ := h
    have hhead : (name ++ ':' :: value).head? ≠ some ':' := by
      cases name with
      | nil => exact absurd rfl hne
      | cons c name =>
        have hc : c ≠ ':' := fun hc => hcolon (hc ▸ List.mem_cons_self)
        simpa using hc
    have htext : (other name value).text = name ++ ':' :: value := rfl
    rw [htext, dataField, if_neg hhead, splitOnce_append hcolon, Option.getD_some]
    exact if_pos hdata

end StreamLine

/-- The data of the events of a stream: the data lines of each run of lines without a blank one. -/
def dispatch (lines : List StreamLine) : List (List Char) :=
  (kept ((lines.splitOnP StreamLine.isBlank).map fun event =>
    event.filterMap StreamLine.data?)).map ['\n'].intercalate

theorem groups_text {lines : List StreamLine} (h : ∀ line ∈ lines, line.WellFormed) :
    groups dataField (lines.map StreamLine.text) =
      (lines.splitOnP StreamLine.isBlank).map fun event => event.filterMap StreamLine.data? := by
  induction lines with
  | nil => simp [groups_nil]
  | cons line lines ih =>
    have hline := StreamLine.dataField_text (h line List.mem_cons_self)
    have hlines := ih fun other hother => h other (List.mem_cons_of_mem _ hother)
    by_cases hblank : line.isBlank
    · cases line with
      | blank =>
        have htext : StreamLine.blank.text = [] := rfl
        rw [List.map_cons, htext, groups_blank, hlines, List.splitOnP_cons_eq_if_modifyHead,
          if_pos hblank]
        rfl
      | _ => cases hblank
    · have htext : line.text ≠ [] := by
        cases line with
        | blank => exact absurd rfl hblank
        | comment text => exact List.cons_ne_nil _ _
        | data spaced value =>
          exact List.append_ne_nil_of_left_ne_nil
            (List.append_ne_nil_of_left_ne_nil (by decide) _) _
        | other name value => exact List.append_ne_nil_of_right_ne_nil _ (List.cons_ne_nil _ _)
      obtain ⟨first, rest, hsplit⟩ :=
        List.exists_cons_of_ne_nil (List.splitOnP_ne_nil StreamLine.isBlank lines)
      rw [List.map_cons, groups_cons htext, hlines, hline, List.splitOnP_cons_eq_if_modifyHead,
        if_neg hblank, hsplit]
      cases hdata : line.data? with
      | none => simp only [List.modifyHead_cons, List.map_cons, List.filterMap_cons, hdata,
          Option.toList_none, List.nil_append]
      | some value => simp only [List.modifyHead_cons, List.map_cons, List.filterMap_cons, hdata,
          Option.toList_some, List.singleton_append]

@[simp] theorem dispatch_nil : dispatch [] = [] := rfl

@[simp] theorem dispatch_blank (lines : List StreamLine) :
    dispatch (.blank :: lines) = dispatch lines := by
  simp [dispatch, StreamLine.isBlank, List.splitOnP_cons_eq_if_modifyHead, kept]

@[simp] theorem dispatch_comment (text : List Char) (lines : List StreamLine) :
    dispatch (.comment text :: lines) = dispatch lines := by
  obtain ⟨first, rest, hsplit⟩ :=
    List.exists_cons_of_ne_nil (List.splitOnP_ne_nil StreamLine.isBlank lines)
  simp [dispatch, StreamLine.isBlank, List.splitOnP_cons_eq_if_modifyHead, hsplit,
    List.filterMap_cons, StreamLine.data?]

/-- An event of one data line. -/
@[simp] theorem dispatch_data (spaced : Bool) (value : List Char) (lines : List StreamLine) :
    dispatch (.data spaced value :: .blank :: lines) = value :: dispatch lines := by
  simp [dispatch, StreamLine.isBlank, List.splitOnP_cons_eq_if_modifyHead, StreamLine.data?,
    kept]

/-- The stream parser finds the data of every event, whatever the newline convention and the
comments and fields around it. -/
theorem sseDataEvents_text (newline : Newline) {lines : List StreamLine}
    (h : ∀ line ∈ lines, line.WellFormed) :
    sseDataEvents (newline.chars.intercalate (lines.map StreamLine.text)) = dispatch lines := by
  have hlines : ∀ line ∈ lines.map StreamLine.text, IsLine line := by
    intro line hline
    obtain ⟨source, hsource, rfl⟩ := List.mem_map.mp hline
    exact (h source hsource).1
  rw [sseDataEvents_intercalate newline hlines, groups_text h, dispatch]

end Stream

/-! ## The events of a stream -/

inductive StreamEvent (Fp : Type) where
  | done
  | chunk (value : Json Fp)

section Events

variable {Fp : Type} (parse : List Char → Option (Json Fp))

/-- The data is read as the event. -/
def StreamEvent.ReadFrom (data : List Char) : StreamEvent Fp → Prop
  | done => trimChars data = "[DONE]".toList
  | chunk value => trimChars data ≠ "[DONE]".toList ∧ parse (trimChars data) = some value

def StreamEvent.chunk? : StreamEvent Fp → Option (Json Fp)
  | done => none
  | chunk value => some value

/-- The values that a run of events streams. -/
def chunks (events : List (StreamEvent Fp)) : List (Json Fp) :=
  events.filterMap StreamEvent.chunk?

def StreamState.advance (st : StreamState) : StreamEvent Fp → StreamState
  | .done => { st with done := true }
  | .chunk value => st.absorb value

/-- The piece of the content that a chunk carries. -/
def fragment? (value : Json Fp) : Option String :=
  (value.pointer ["choices", "0", "delta", "content"]).bind asStr

def finishes (value : Json Fp) : Bool :=
  (value.pointer ["choices", "0", "finish_reason"]).any fun reason => !reason.isNull

def usageOf (value : Json Fp) : ModelUsage where
  inputTokens := value.getU64 "prompt_tokens"
  outputTokens := value.getU64 "completion_tokens"
  totalTokens := value.getU64 "total_tokens"
  costMicros := none

/-- The usage member that comes last. -/
def lastUsage (chunks : List (Json Fp)) : Option (Json Fp) :=
  (chunks.filterMap (·.get? "usage")).getLast?

variable {parse}

theorem forEach_event {data : List (List Char)} {events : List (StreamEvent Fp)}
    (h : List.Forall₂ (StreamEvent.ReadFrom parse) data events) (st : StreamState) :
    forEach (StreamState.event parse) data st = .ok (events.foldl StreamState.advance st) := by
  induction h generalizing st with
  | nil => rfl
  | @cons text event data events hread _ ih =>
    have hstep : StreamState.event parse st text = .ok (st.advance event) := by
      cases event with
      | done =>
        have hdone : trimChars text = "[DONE]".toList := hread
        rw [StreamState.event, if_pos hdone, StreamState.advance]
      | chunk value =>
        rw [StreamState.event, if_neg hread.1, hread.2]
        rfl
    rw [forEach, hstep]
    exact ih _

namespace StreamState

variable (st : StreamState) (value : Json Fp)

theorem absorb_content :
    (st.absorb value).content = st.content ++ String.join (fragment? value).toList := by
  rw [absorb, fragment?]
  cases (value.pointer ["choices", "0", "delta", "content"]).bind asStr <;> simp

theorem absorb_providerResponseId :
    (st.absorb value).providerResponseId = st.providerResponseId.or (value.getStr "id") := by
  rw [absorb]
  cases st.providerResponseId <;> rfl

theorem absorb_responseModel :
    (st.absorb value).responseModel = st.responseModel.or (value.getStr "model") := by
  rw [absorb]
  cases st.responseModel <;> rfl

variable {st} in
theorem absorb_usage (hcost : st.usage.costMicros = none) :
    (st.absorb value).usage = ((value.get? "usage").map usageOf).getD st.usage := by
  rw [absorb]
  cases value.get? "usage" with
  | none => rfl
  | some valueUsage => simp [usageOf, hcost]

end StreamState

/-- What a whole run of events leaves behind. -/
theorem foldl_advance (events : List (StreamEvent Fp)) (st : StreamState)
    (hcost : st.usage.costMicros = none) :
    let last := events.foldl StreamState.advance st
    last.content = st.content ++ String.join ((chunks events).filterMap fragment?) ∧
      last.providerResponseId = st.providerResponseId.or ((chunks events).findSome? (·.getStr "id")) ∧
      last.responseModel = st.responseModel.or ((chunks events).findSome? (·.getStr "model")) ∧
      last.usage = ((lastUsage (chunks events)).map usageOf).getD st.usage ∧
      (last.done = true ↔ st.done = true ∨ .done ∈ events) ∧
      (last.finished = true ↔
        st.finished = true ∨ ∃ value ∈ chunks events, finishes value = true) := by
  induction events generalizing st with
  | nil => simp [lastUsage, chunks]
  | cons event events ih =>
    cases event with
    | done =>
      obtain ⟨hcontent, hid, hmodel, husage, hdone, hfinished⟩ := ih { st with done := true } hcost
      refine ⟨hcontent, hid, hmodel, husage, ?_, hfinished⟩
      simp only [List.foldl_cons, StreamState.advance, hdone]
      simp
    | chunk value =>
      have husage := st.absorb_usage value hcost
      have hcost' : (st.absorb value).usage.costMicros = none := by
        rw [husage]
        cases value.get? "usage" with
        | none => exact hcost
        | some valueUsage => rfl
      obtain ⟨hcontent, hid, hmodel, hlast, hdone, hfinished⟩ := ih (st.absorb value) hcost'
      have hchunks : chunks (.chunk value :: events) = value :: chunks events := rfl
      simp only [hchunks, List.foldl_cons, StreamState.advance]
      refine ⟨?_, ?_, ?_, ?_, ?_, ?_⟩
      · rw [hcontent, st.absorb_content, List.filterMap_cons]
        cases fragment? value <;> simp [String.append_assoc]
      · rw [hid, st.absorb_providerResponseId, Option.or_assoc, List.findSome?_cons]
        cases value.getStr "id" <;> simp
      · rw [hmodel, st.absorb_responseModel, Option.or_assoc, List.findSome?_cons]
        cases value.getStr "model" <;> simp
      · rw [hlast, husage, lastUsage, lastUsage, List.filterMap_cons]
        cases value.get? "usage" with
        | none => rfl
        | some valueUsage =>
          rw [List.getLast?_cons]
          cases ((chunks events).filterMap fun v => v.get? "usage").getLast? <;> rfl
      · rw [hdone]
        simp [StreamState.absorb]
      · rw [hfinished]
        simp [StreamState.absorb, finishes, or_assoc]

end Events

/-! ## One answer in four forms -/

/-- What a provider answers. -/
structure Answer where
  content : String
  id : String
  model : String
  inputTokens : ℕ
  outputTokens : ℕ
  spoken : ¬ blank content
  named : ¬ blank model
  inputFits : inputTokens < 2 ^ 64
  outputFits : outputTokens < 2 ^ 64

namespace Answer

variable {Fp : Type} (answer : Answer)

def usage : ModelUsage :=
  ⟨some answer.inputTokens, some answer.outputTokens,
    some (answer.inputTokens + answer.outputTokens), none⟩

def Names (value : Json Fp) : Prop :=
  value.get? "id" = some (str answer.id) ∧ value.get? "model" = some (str answer.model)

/-- The usage record of the chat protocol. -/
def ChatUsage (usage : Json Fp) : Prop :=
  usage.get? "prompt_tokens" = some (int answer.inputTokens) ∧
    usage.get? "completion_tokens" = some (int answer.outputTokens) ∧
    usage.get? "total_tokens" = some (int (answer.inputTokens + answer.outputTokens))

/-- The counts that both other protocols report. -/
def TokenCounts (usage : Json Fp) : Prop :=
  usage.get? "input_tokens" = some (int answer.inputTokens) ∧
    usage.get? "output_tokens" = some (int answer.outputTokens)

instance [DecidableEq Fp] (value : Json Fp) : Decidable (answer.Names value) :=
  inferInstanceAs (Decidable (_ ∧ _))

instance [DecidableEq Fp] (usage : Json Fp) : Decidable (answer.ChatUsage usage) :=
  inferInstanceAs (Decidable (_ ∧ _ ∧ _))

instance [DecidableEq Fp] (usage : Json Fp) : Decidable (answer.TokenCounts usage) :=
  inferInstanceAs (Decidable (_ ∧ _))

structure ChatBody (value : Json Fp) : Prop where
  names : answer.Names value
  content : value.pointer ["choices", "0", "message", "content"] = some (str answer.content)
  usage : ∃ usage, value.get? "usage" = some usage ∧ answer.ChatUsage usage

end Answer

/-- Items of an array of which those of one type spell a text. -/
inductive Spells {Fp : Type} (kind : String) : List (Json Fp) → String → Prop where
  | nil : Spells kind [] ""
  | piece {item : Json Fp} {items : List (Json Fp)} {piece text : String} :
    item.get? "type" = some (str kind) → item.get? "text" = some (str piece) →
    Spells kind items text → Spells kind (item :: items) (piece ++ text)
  | other {item : Json Fp} {items : List (Json Fp)} {text : String} :
    item.get? "type" ≠ some (str kind) → Spells kind items text → Spells kind (item :: items) text

/-- Output items of which the messages spell a text. -/
inductive MessagesSpell {Fp : Type} : List (Json Fp) → String → Prop where
  | nil : MessagesSpell [] ""
  | message {item : Json Fp} {items parts : List (Json Fp)} {piece text : String} :
    item.get? "type" = some (str "message") → item.get? "content" = some (arr parts) →
    Spells "output_text" parts piece → MessagesSpell items text →
    MessagesSpell (item :: items) (piece ++ text)
  | other {item : Json Fp} {items : List (Json Fp)} {text : String} :
    item.get? "type" ≠ some (str "message") → MessagesSpell items text →
    MessagesSpell (item :: items) text

namespace Answer

variable {Fp : Type} (answer : Answer)

structure ResponsesBody (value : Json Fp) : Prop where
  names : answer.Names value
  content : ∃ output, value.get? "output" = some (arr output) ∧
    MessagesSpell output answer.content
  usage : ∃ usage, value.get? "usage" = some usage ∧ answer.TokenCounts usage ∧
    usage.get? "total_tokens" = some (int (answer.inputTokens + answer.outputTokens))

structure AnthropicBody (value : Json Fp) : Prop where
  names : answer.Names value
  content : ∃ items, value.get? "content" = some (arr items) ∧ Spells "text" items answer.content
  usage : ∃ usage, value.get? "usage" = some usage ∧ answer.TokenCounts usage

/-- A stream of the answer: the lines of its events, each with its own part of the answer, under
one newline convention. -/
structure ChatStream (Fp : Type) (parse : List Char → Option (Json Fp)) where
  newline : Newline
  lines : List StreamLine
  events : List (StreamEvent Fp)
  wellFormed : ∀ line ∈ lines, line.WellFormed
  reads : List.Forall₂ (StreamEvent.ReadFrom parse) (dispatch lines) events
  content : String.join ((chunks events).filterMap fragment?) = answer.content
  ids : ∀ value ∈ chunks events,
    value.getStr "id" = none ∨ value.getStr "id" = some answer.id
  identified : ∃ value ∈ chunks events, value.getStr "id" = some answer.id
  models : ∀ value ∈ chunks events,
    value.getStr "model" = none ∨ value.getStr "model" = some answer.model
  modelled : ∃ value ∈ chunks events,
    value.getStr "model" = some answer.model
  usages : ∀ value ∈ chunks events, ∀ usage, value.get? "usage" = some usage →
    usage = null ∨ answer.ChatUsage usage
  reported : ∃ value ∈ chunks events, ∃ usage,
    value.get? "usage" = some usage ∧ answer.ChatUsage usage
  ended : .done ∈ events ∨ ∃ value ∈ chunks events, finishes value

namespace ChatStream

variable {answer} {parse : List Char → Option (Json Fp)} (stream : answer.ChatStream Fp parse)

def bytes : ByteArray :=
  (String.ofList (stream.newline.chars.intercalate
    (stream.lines.map StreamLine.text))).toByteArray

end ChatStream

end Answer

/-! ## What each decoder makes of the answer -/

section Members

variable {Fp : Type} {v child : Json Fp} {key kind text : String}

theorem Json.getStr_eq_some : v.getStr key = some text ↔ v.get? key = some (str text) := by
  rw [getStr]
  cases v.get? key with
  | none => simp
  | some w => cases w <;> simp [asStr]

theorem Json.pointer_cons (h : v.get? key = some child) (rest : List String) :
    v.pointer (key :: rest) = child.pointer rest := by
  cases v with
  | obj members => rw [pointer, h, Option.bind_some]
  | _ => simp [get?] at h

theorem Json.pointer_get (h : v.get? key = some child) : v.pointer [key] = some child := by
  rw [pointer_cons h, pointer]

theorem Json.asU64_natCast (n : ℕ) :
    (int n : Json Fp).asU64 = if n < 2 ^ 64 then some n else none := by
  have hcast : (0 ≤ (n : ℤ) ∧ (n : ℤ) < 2 ^ 64) ↔ n < 2 ^ 64 := by omega
  rw [asU64, Int.toNat_natCast]
  simp only [hcast]

theorem Json.getU64_natCast {n : ℕ} (h : v.get? key = some (int n)) :
    v.getU64 key = if n < 2 ^ 64 then some n else none := by
  rw [getU64, h, Option.bind_some, asU64_natCast]

theorem Json.pointer_asU64 {outer : String} {n : ℕ} (houter : v.get? outer = some child)
    (h : child.get? key = some (int n)) :
    (v.pointer [outer, key]).bind asU64 = if n < 2 ^ 64 then some n else none := by
  rw [pointer_cons houter, pointer_get h, Option.bind_some, asU64_natCast]

theorem textsOf_append (kind : String) (items others : List (Json Fp)) :
    textsOf kind (items ++ others) = textsOf kind items ++ textsOf kind others := by
  rw [textsOf, List.filter_append, List.filterMap_append, ← textsOf, ← textsOf]

theorem Spells.join {items : List (Json Fp)} (h : Spells kind items text) :
    String.join (textsOf kind items) = text := by
  induction h with
  | nil => rfl
  | piece htype htext _ ih =>
    rw [textsOf] at ih ⊢
    simp [Json.getStr_eq_some.mpr htype, Json.getStr_eq_some.mpr htext, ih]
  | @other item _ _ htype _ ih =>
    have hkind : ¬ item.getStr "type" = some kind := fun h => htype (Json.getStr_eq_some.mp h)
    rw [textsOf] at ih ⊢
    simp [hkind, ih]

theorem MessagesSpell.join {output : List (Json Fp)} (h : MessagesSpell output text) :
    String.join (textsOf "output_text"
      ((output.filter fun item => item.getStr "type" = some "message").filterMap fun item =>
        (item.get? "content").bind asItems).flatten) = text := by
  induction h with
  | nil => rfl
  | message htype hcontent hparts _ ih =>
    simp [Json.getStr_eq_some.mpr htype, hcontent, asItems, textsOf_append, String.join_append,
      hparts.join, ih]
  | @other item _ _ htype _ ih =>
    have hkind : ¬ item.getStr "type" = some "message" := fun h =>
      htype (Json.getStr_eq_some.mp h)
    simpa [hkind] using ih

end Members

namespace Answer

section Usage

variable {Fp : Type} {answer : Answer}

variable (answer) in
/-- The usage that both OpenAI protocols report. -/
def reportedUsage : ModelUsage :=
  ⟨some answer.inputTokens, some answer.outputTokens,
    if answer.inputTokens + answer.outputTokens < 2 ^ 64 then
      some (answer.inputTokens + answer.outputTokens) else none, none⟩

theorem ChatUsage.usageOf_eq {usage : Json Fp} (h : answer.ChatUsage usage) :
    usageOf usage = answer.reportedUsage := by
  obtain ⟨hinput, houtput, htotal⟩ := h
  rw [← Nat.cast_add] at htotal
  rw [usageOf, Json.getU64_natCast hinput, Json.getU64_natCast houtput,
    Json.getU64_natCast htotal, if_pos answer.inputFits, if_pos answer.outputFits, reportedUsage]

theorem reportedUsage_eq (h : answer.inputTokens + answer.outputTokens < 2 ^ 64) :
    answer.reportedUsage = answer.usage := by
  rw [reportedUsage, if_pos h, usage]

end Usage

section Decoders

variable {Fp : Type} [Sha256 Fp] [DecidableEq Fp] (service : ServiceEndpoint)
  (request : ModelRequest) (answer : Answer)

/-- The result that is recorded for an answer with a usage. -/
def recorded (usage : ModelUsage) : ModelResult Fp :=
  let value : ModelResult Fp :=
    { schema := "quillframe_model_result_v1"
      requestId := request.requestId
      serviceId := service.serviceId
      model := answer.model
      content := answer.content
      providerResponseId := some answer.id
      usage := usage
      fingerprint := Sha256.ofText "" }
  { value with fingerprint := value.computeFingerprint }

variable {service request answer} {value : Json Fp}

theorem validate_recorded (hrequest : ¬ blank request.requestId) (hservice : ¬ blank service.serviceId)
    (usage : ModelUsage) :
    (answer.recorded service request usage : ModelResult Fp).validate = .ok () := by
  have hspoken := answer.spoken
  have hnamed := answer.named
  simp only [Bool.not_eq_true] at hrequest hservice hspoken hnamed
  simp [ModelResult.validate, recorded, hrequest, hservice, hspoken, hnamed,
    ModelResult.computeFingerprint, ModelResult.toJsonWith]

theorem record_eq (hrequest : ¬ blank request.requestId) (hservice : ¬ blank service.serviceId)
    (usage : ModelUsage) :
    ModelResult.record request.requestId service.serviceId answer.model answer.content
      (some answer.id) usage = .ok (answer.recorded service request usage : ModelResult Fp) := by
  have hvalidate : (answer.recorded service request usage : ModelResult Fp).validate = .ok () :=
    validate_recorded hrequest hservice usage
  rw [recorded] at hvalidate
  simp only [ModelResult.record, hvalidate]
  rfl

theorem normalizeOpenaiChat_eq (hrequest : ¬ blank request.requestId)
    (hservice : ¬ blank service.serviceId) (body : answer.ChatBody value) :
    normalizeOpenaiChat service request value =
      .ok (answer.recorded service request answer.reportedUsage) := by
  obtain ⟨usage, husage, hcounts⟩ := body.usage
  have hid := Json.getStr_eq_some.mpr body.names.1
  have hmodel := Json.getStr_eq_some.mpr body.names.2
  have hreported := hcounts.usageOf_eq
  have hvalidate : (answer.recorded service request answer.reportedUsage :
      ModelResult Fp).validate = .ok () :=
    validate_recorded hrequest hservice answer.reportedUsage
  rw [usageOf] at hreported
  rw [recorded] at hvalidate
  have hspoken : (some answer.content).filter (fun content => decide ¬ blank content) =
      some answer.content := Option.filter_some_pos (by simpa using answer.spoken)
  simp only [normalizeOpenaiChat, body.content, Option.bind_some, asStr, husage, Option.getD_some,
    hid, hmodel, hreported, hspoken, fetch, bind, Except.bind, hvalidate]
  rfl

theorem normalizedResult_eq (hrequest : ¬ blank request.requestId)
    (hservice : ¬ blank service.serviceId) (names : answer.Names value)
    (input output total : Option ℕ) :
    normalizedResult service request value answer.content input output total =
      .ok (answer.recorded service request ⟨input, output, total, none⟩) := by
  rw [normalizedResult, Json.getStr_eq_some.mpr names.1, Json.getStr_eq_some.mpr names.2,
    Option.getD_some, record_eq hrequest hservice]

theorem normalizeOpenaiResponses_eq (hrequest : ¬ blank request.requestId)
    (hservice : ¬ blank service.serviceId) (body : answer.ResponsesBody value) :
    normalizeOpenaiResponses service request value =
      .ok (answer.recorded service request answer.reportedUsage) := by
  obtain ⟨output, houtput, hspells⟩ := body.content
  obtain ⟨usage, husage, ⟨hinput, hout⟩, htotal⟩ := body.usage
  rw [← Nat.cast_add] at htotal
  have hreadInput := Json.pointer_asU64 husage hinput
  have hreadOutput := Json.pointer_asU64 husage hout
  have hreadTotal := Json.pointer_asU64 husage htotal
  rw [if_pos answer.inputFits] at hreadInput
  rw [if_pos answer.outputFits] at hreadOutput
  have hitems : ((value.get? "output").bind asItems).getD [] = output := by rw [houtput]; rfl
  simp only [normalizeOpenaiResponses, hitems, hspells.join, hreadInput, hreadOutput, hreadTotal,
    normalizedResult_eq hrequest hservice body.names, reportedUsage]
  rw [require, if_pos answer.spoken]
  rfl

theorem normalizeAnthropic_eq (overflowChecks : Bool) (hrequest : ¬ blank request.requestId)
    (hservice : ¬ blank service.serviceId) (body : answer.AnthropicBody value) :
    normalizeAnthropic overflowChecks service request value = do
      let total ← addU64 overflowChecks answer.inputTokens answer.outputTokens
      return answer.recorded service request
        ⟨some answer.inputTokens, some answer.outputTokens, some total, none⟩ := by
  obtain ⟨items, hitems, hspells⟩ := body.content
  obtain ⟨usage, husage, hinput, hout⟩ := body.usage
  have hreadInput := Json.pointer_asU64 husage hinput
  have hreadOutput := Json.pointer_asU64 husage hout
  rw [if_pos answer.inputFits] at hreadInput
  rw [if_pos answer.outputFits] at hreadOutput
  have hread : ((value.get? "content").bind asItems).getD [] = items := by rw [hitems]; rfl
  simp only [normalizeAnthropic, hread, hspells.join, hreadInput, hreadOutput]
  rw [require, if_pos answer.spoken]
  cases addU64 overflowChecks answer.inputTokens answer.outputTokens with
  | error e => rfl
  | ok total =>
    have hrecord : normalizedResult service request value answer.content
        (some answer.inputTokens) (some answer.outputTokens) (some total) =
          (.ok (answer.recorded service request ⟨some answer.inputTokens,
            some answer.outputTokens, some total, none⟩) : CoreResult (ModelResult Fp)) :=
      normalizedResult_eq hrequest hservice body.names _ _ _
    simp only [raise, Functor.map, Except.map, bind, Except.bind, hrecord]
    rfl

omit [Sha256 Fp] [DecidableEq Fp] in
/-- What some chunks say and none contradicts is what is found first. -/
theorem findSome?_eq {found : List (Json Fp)} {key text : String}
    (hall : ∀ value ∈ found, value.getStr key = none ∨ value.getStr key = some text)
    (hsome : ∃ value ∈ found, value.getStr key = some text) :
    found.findSome? (·.getStr key) = some text := by
  obtain ⟨value, hvalue, htext⟩ := hsome
  cases hfound : found.findSome? (·.getStr key) with
  | none =>
    have hnone := List.findSome?_eq_none_iff.mp hfound value hvalue
    rw [htext] at hnone
    cases hnone
  | some other =>
    obtain ⟨first, hfirst, hother⟩ := List.exists_of_findSome?_eq_some hfound
    rcases hall first hfirst with h | h
    · rw [h] at hother
      cases hother
    · rw [← hother, h]

variable {parse : List Char → Option (Json Fp)}

omit [Sha256 Fp] [DecidableEq Fp] in
theorem ChatStream.fromUTF8?_bytes (stream : answer.ChatStream Fp parse) :
    ∃ text, String.fromUTF8? stream.bytes = some text ∧
      sseDataEvents text.toList = dispatch stream.lines := by
  refine ⟨_, dif_pos (String.isValidUTF8 _), ?_⟩
  have hevents := sseDataEvents_text stream.newline stream.wellFormed
  rw [← hevents]
  congr 1
  exact String.toList_ofList

/-- The streamed answer is recorded with the usage member that came last. -/
theorem normalizeOpenaiChatStream_eq (hrequest : ¬ blank request.requestId)
    (hservice : ¬ blank service.serviceId) (stream : answer.ChatStream Fp parse) :
    normalizeOpenaiChatStream parse service request stream.bytes =
      .ok (answer.recorded service request
        (((lastUsage (chunks stream.events)).map usageOf).getD ⟨none, none, none, none⟩)) := by
  obtain ⟨text, htext, hevents⟩ := stream.fromUTF8?_bytes
  have hread := forEach_event stream.reads .initial
  obtain ⟨hcontent, hid, hmodel, husage, hdone, hfinished⟩ :=
    foldl_advance stream.events .initial rfl
  set last := stream.events.foldl StreamState.advance .initial
  have hspoken : last.content = answer.content := by
    rw [hcontent, stream.content, StreamState.initial, String.empty_append]
  have hended : ¬ (blank last.content ∨ (¬ last.done ∧ ¬ last.finished)) := by
    rw [hspoken]
    rintro (hblank | ⟨hnotDone, hnotFinished⟩)
    · exact answer.spoken hblank
    · rcases stream.ended with h | h
      · exact hnotDone (hdone.mpr (.inr h))
      · exact hnotFinished (hfinished.mpr (.inr h))
  have hnamed : last.responseModel.getD request.model = answer.model := by
    rw [hmodel, findSome?_eq stream.models stream.modelled]
    rfl
  have hidentified : last.providerResponseId = some answer.id := by
    rw [hid, findSome?_eq stream.ids stream.identified]
    rfl
  rw [hspoken] at hended
  simp only [normalizeOpenaiChatStream, htext, fetch, hevents, hread, bind, Except.bind, require,
    hnamed, hspoken, hidentified, husage, record_eq hrequest hservice]
  rw [if_pos hended]
  rfl

omit [Sha256 Fp] [DecidableEq Fp] in
/-- Some usage member comes last, and it is null or the report. -/
theorem ChatStream.exists_lastUsage (stream : answer.ChatStream Fp parse) :
    ∃ usage, lastUsage (chunks stream.events) = some usage ∧
      (usage = null ∨ answer.ChatUsage usage) := by
  obtain ⟨value, hvalue, reported, hreported, -⟩ := stream.reported
  have hmember : reported ∈ (chunks stream.events).filterMap (·.get? "usage") :=
    List.mem_filterMap.mpr ⟨value, hvalue, hreported⟩
  cases hlast : lastUsage (chunks stream.events) with
  | none =>
    rw [List.getLast?_eq_none_iff.mp hlast] at hmember
    cases hmember
  | some usage =>
    obtain ⟨source, hsource, husage⟩ := List.mem_filterMap.mp (List.mem_of_getLast? hlast)
    exact ⟨usage, rfl, stream.usages source hsource usage husage⟩

end Decoders

/-- All four decoders succeed with one result, which is the answer's. -/
def NormalisedAlike {Fp : Type} [Sha256 Fp] [DecidableEq Fp] {parse : List Char → Option (Json Fp)}
    (overflowChecks : Bool) (service : ServiceEndpoint) (request : ModelRequest) (answer : Answer)
    (stream : answer.ChatStream Fp parse) (chat responses anthropic : Json Fp) : Prop :=
  ∃ result : ModelResult Fp,
    normalizeOpenaiChatStream parse service request stream.bytes = .ok result ∧
      normalizeOpenaiChat service request chat = .ok result ∧
      normalizeOpenaiResponses service request responses = .ok result ∧
      normalizeAnthropic overflowChecks service request anthropic = .ok result ∧
      result.content = answer.content ∧ result.model = answer.model ∧
      result.providerResponseId = some answer.id ∧ result.usage = answer.usage

section Alike

variable {Fp : Type} [Sha256 Fp] [DecidableEq Fp] {parse : List Char → Option (Json Fp)}
  {service : ServiceEndpoint} {request : ModelRequest} {answer : Answer}
  {stream : answer.ChatStream Fp parse} {chat responses anthropic : Json Fp}
  {overflowChecks : Bool}

theorem not_alike_of_overflow (hrequest : ¬ blank request.requestId)
    (hservice : ¬ blank service.serviceId) (hanthropic : answer.AnthropicBody anthropic)
    (hsum : 2 ^ 64 ≤ answer.inputTokens + answer.outputTokens) :
    ¬ answer.NormalisedAlike overflowChecks service request stream chat responses anthropic := by
  rintro ⟨result, -, -, -, hresult, -, -, -, husage⟩
  rw [normalizeAnthropic_eq overflowChecks hrequest hservice hanthropic, addU64,
    if_neg (not_lt.mpr hsum)] at hresult
  cases overflowChecks with
  | true => cases hresult
  | false =>
    have hrecorded := Except.ok.inj hresult
    rw [← hrecorded] at husage
    have htotal : (answer.inputTokens + answer.outputTokens) % 2 ^ 64 =
        answer.inputTokens + answer.outputTokens :=
      Option.some.inj (congrArg ModelUsage.totalTokens husage)
    have hlt := Nat.mod_lt (answer.inputTokens + answer.outputTokens) (Nat.two_pow_pos 64)
    omega

theorem not_alike_of_null (hrequest : ¬ blank request.requestId)
    (hservice : ¬ blank service.serviceId)
    (hnull : lastUsage (chunks stream.events) = some null) :
    ¬ answer.NormalisedAlike overflowChecks service request stream chat responses anthropic := by
  rintro ⟨result, hresult, -, -, -, -, -, -, husage⟩
  rw [normalizeOpenaiChatStream_eq hrequest hservice stream, hnull] at hresult
  have hrecorded := Except.ok.inj hresult
  rw [← hrecorded] at husage
  have hinput : (usageOf (null : Json Fp)).inputTokens = some answer.inputTokens :=
    congrArg ModelUsage.inputTokens husage
  cases hinput

/-- The four forms of an answer are normalised alike exactly when the sum of the counts fits and
no null usage member comes after the reported one. -/
theorem normalisedAlike_iff (hrequest : ¬ blank request.requestId)
    (hservice : ¬ blank service.serviceId) (hchat : answer.ChatBody chat)
    (hresponses : answer.ResponsesBody responses) (hanthropic : answer.AnthropicBody anthropic) :
    answer.NormalisedAlike overflowChecks service request stream chat responses anthropic ↔
      answer.inputTokens + answer.outputTokens < 2 ^ 64 ∧
        lastUsage (chunks stream.events) ≠ some null := by
  constructor
  · intro halike
    refine ⟨?_, fun hnull => not_alike_of_null hrequest hservice hnull halike⟩
    by_contra hsum
    exact not_alike_of_overflow hrequest hservice hanthropic (not_lt.mp hsum) halike
  · rintro ⟨hsum, hnull⟩
    obtain ⟨last, hlast, hreports⟩ := stream.exists_lastUsage
    have hreported : answer.ChatUsage last := by
      rcases hreports with rfl | hreports
      · exact absurd hlast hnull
      · exact hreports
    have hstream := normalizeOpenaiChatStream_eq hrequest hservice stream
    rw [hlast, Option.map_some, Option.getD_some, hreported.usageOf_eq,
      reportedUsage_eq hsum] at hstream
    have hbody := normalizeOpenaiChat_eq hrequest hservice hchat
    have houtput := normalizeOpenaiResponses_eq hrequest hservice hresponses
    rw [reportedUsage_eq hsum] at hbody houtput
    have hmessage := normalizeAnthropic_eq overflowChecks hrequest hservice hanthropic
    rw [addU64, if_pos hsum] at hmessage
    exact ⟨answer.recorded service request answer.usage, hstream, hbody, houtput, hmessage, rfl,
      rfl, rfl, rfl⟩

end Alike

end Answer

namespace Answer.Sample

def shortAnswer : Answer where
  content := "a"
  id := "r"
  model := "m"
  inputTokens := 2
  outputTokens := 1
  spoken := by decide
  named := by decide
  inputFits := by decide
  outputFits := by decide

def usageText : List Char :=
  "\x7b\"choices\":[],\"usage\":null\x7d".toList

def answerText : List Char :=
  ("\x7b\"id\":\"r\",\"model\":\"m\",\"choices\":[\x7b\"delta\":\x7b\"content\":\"a\"\x7d," ++
    "\"finish_reason\":\"stop\"\x7d],\"usage\":\x7b\"prompt_tokens\":2," ++
    "\"completion_tokens\":1,\"total_tokens\":3\x7d\x7d").toList

def usageChunk : Json Digest := obj [("choices", arr []), ("usage", null)]

def answerUsage : Json Digest :=
  obj [("completion_tokens", int 1), ("prompt_tokens", int 2), ("total_tokens", int 3)]

def answerChunk : Json Digest :=
  obj [("choices", arr [obj [("delta", obj [("content", str "a")]), ("finish_reason", str "stop")]]),
    ("id", str "r"), ("model", str "m"), ("usage", answerUsage)]

/-- The JSON library on the two texts. -/
def parseSample (text : List Char) : Option (Json Digest) :=
  if text = usageText then some usageChunk
  else if text = answerText then some answerChunk
  else none

def doneLine : StreamLine := .data true "[DONE]".toList

theorem texts_trimmed : trimChars usageText = usageText ∧ trimChars answerText = answerText ∧
    trimChars "[DONE]".toList = "[DONE]".toList ∧ usageText ≠ "[DONE]".toList ∧
    answerText ≠ "[DONE]".toList ∧ answerText ≠ usageText := by
  decide +kernel

theorem reads_usage : (StreamEvent.chunk usageChunk).ReadFrom parseSample usageText := by
  obtain ⟨htrim, -, -, hdone, -⟩ := texts_trimmed
  rw [StreamEvent.ReadFrom, htrim]
  exact ⟨hdone, if_pos rfl⟩

theorem reads_answer : (StreamEvent.chunk answerChunk).ReadFrom parseSample answerText := by
  obtain ⟨-, htrim, -, -, hdone, hother⟩ := texts_trimmed
  rw [StreamEvent.ReadFrom, htrim]
  exact ⟨hdone, (if_neg hother).trans (if_pos rfl)⟩

theorem reads_done : StreamEvent.done.ReadFrom parseSample "[DONE]".toList :=
  texts_trimmed.2.2.1

theorem answerUsage_chatUsage : shortAnswer.ChatUsage answerUsage :=
  ⟨rfl, rfl, rfl⟩

theorem usage_answerChunk : answerChunk.get? "usage" = some answerUsage := rfl

theorem usage_usageChunk : usageChunk.get? "usage" = some null := rfl

theorem usages_sample : ∀ value ∈ [answerChunk, usageChunk], ∀ usage,
    value.get? "usage" = some usage → usage = null ∨ shortAnswer.ChatUsage usage := by
  intro value hvalue usage husage
  rcases List.mem_pair.mp hvalue with rfl | rfl
  · rw [usage_answerChunk, Option.some.injEq] at husage
    exact .inr (husage ▸ answerUsage_chatUsage)
  · rw [usage_usageChunk, Option.some.injEq] at husage
    exact .inl husage.symm

/-- The report comes after the null member. -/
def orderedStream : shortAnswer.ChatStream Digest parseSample where
  newline := .crlf
  lines := [.comment " ping".toList, .data true usageText, .blank, .data false answerText, .blank,
    doneLine, .blank, .blank]
  events := [.chunk usageChunk, .chunk answerChunk, .done]
  wellFormed := by decide +kernel
  reads := by
    have hdispatch : dispatch [.comment " ping".toList, .data true usageText, .blank,
        .data false answerText, .blank, doneLine, .blank, .blank] =
      [usageText, answerText, "[DONE]".toList] := by simp only [doneLine, dispatch_comment,
        dispatch_data, dispatch_blank, dispatch_nil]
    rw [hdispatch]
    exact .cons reads_usage (.cons reads_answer (.cons reads_done .nil))
  content := by decide +kernel
  ids := by decide +kernel
  identified := by decide +kernel
  models := by decide +kernel
  modelled := by decide +kernel
  usages := fun value hvalue => usages_sample value (List.mem_pair.mpr (List.mem_pair.mp hvalue).symm)
  reported := ⟨answerChunk, by decide +kernel, answerUsage, usage_answerChunk,
    answerUsage_chatUsage⟩
  ended := .inl (by simp)

/-- A null member comes after the report. -/
def lateNullStream : shortAnswer.ChatStream Digest parseSample where
  newline := .lf
  lines := [.data true answerText, .blank, .data true usageText, .blank, doneLine, .blank]
  events := [.chunk answerChunk, .chunk usageChunk, .done]
  wellFormed := by decide +kernel
  reads := by
    have hdispatch : dispatch [.data true answerText, .blank, .data true usageText, .blank,
        doneLine, .blank] = [answerText, usageText, "[DONE]".toList] := by
      simp only [doneLine, dispatch_data, dispatch_nil]
    rw [hdispatch]
    exact .cons reads_answer (.cons reads_usage (.cons reads_done .nil))
  content := by decide +kernel
  ids := by decide +kernel
  identified := by decide +kernel
  models := by decide +kernel
  modelled := by decide +kernel
  usages := usages_sample
  reported := ⟨answerChunk, by decide +kernel, answerUsage, usage_answerChunk,
    answerUsage_chatUsage⟩
  ended := .inl (by simp)

def chatValue : Json Digest :=
  obj [("choices", arr [obj [("message", obj [("content", str "a")])]]), ("id", str "r"),
    ("model", str "m"), ("usage", answerUsage)]

def countsValue (input output : ℤ) : Json Digest :=
  obj [("input_tokens", int input), ("output_tokens", int output),
    ("total_tokens", int (input + output))]

def textItem (kind : String) : Json Digest := obj [("text", str "a"), ("type", str kind)]

def reasoningItem : Json Digest := obj [("type", str "reasoning")]

def messageItem : Json Digest :=
  obj [("content", arr [textItem "output_text"]), ("type", str "message")]

def responsesValue : Json Digest :=
  obj [("id", str "r"), ("model", str "m"), ("output", arr [reasoningItem, messageItem]),
    ("usage", countsValue 2 1)]

def anthropicValue (input output : ℤ) : Json Digest :=
  obj [("content", arr [textItem "text"]), ("id", str "r"), ("model", str "m"),
    ("usage", countsValue input output)]

theorem spells_textItem (kind : String) : Spells kind [textItem kind] "a" := by
  have h : Spells kind [textItem kind] ("a" ++ "") := .piece rfl rfl .nil
  rwa [String.append_empty] at h

theorem chatBody : shortAnswer.ChatBody chatValue where
  names := ⟨rfl, rfl⟩
  content := rfl
  usage := ⟨answerUsage, rfl, answerUsage_chatUsage⟩

theorem responsesBody : shortAnswer.ResponsesBody responsesValue where
  names := ⟨rfl, rfl⟩
  content := by
    have hreasoning : reasoningItem.get? "type" ≠ some (str "message") := by decide
    exact ⟨[reasoningItem, messageItem], rfl,
      .other hreasoning (.message rfl rfl (spells_textItem "output_text") .nil)⟩
  usage := ⟨countsValue 2 1, rfl, ⟨rfl, rfl⟩, rfl⟩

theorem anthropicBody : shortAnswer.AnthropicBody (anthropicValue 2 1) where
  names := ⟨rfl, rfl⟩
  content := ⟨[textItem "text"], rfl, spells_textItem "text"⟩
  usage := ⟨countsValue 2 1, rfl, rfl, rfl⟩

/-- Counts whose sum takes 65 bits. -/
def longAnswer : Answer where
  content := "a"
  id := "r"
  model := "m"
  inputTokens := 2 ^ 63
  outputTokens := 2 ^ 63
  spoken := by decide
  named := by decide
  inputFits := by decide
  outputFits := by decide

theorem longAnthropicBody : longAnswer.AnthropicBody (anthropicValue (2 ^ 63) (2 ^ 63)) where
  names := ⟨rfl, rfl⟩
  content := ⟨[textItem "text"], rfl, spells_textItem "text"⟩
  usage := ⟨countsValue (2 ^ 63) (2 ^ 63), rfl, rfl, rfl⟩

def service : ServiceEndpoint where
  serviceId := "s"
  endpoint := "https://api.example.com/v1"
  credentialRef := some "key"
  authStyle := .bearer
  protocolFamily := .openaiChatCompletions
  allowLoopbackHttp := false

def request : ModelRequest where
  requestId := "q"
  model := "m"
  system := "system"
  user := "user"
  temperature := none
  maxOutputTokens := none
  absoluteDeadlineMs := 1

end Answer.Sample

namespace Answer

open Answer.Sample

theorem normalisedAlike_iff_sample :
    shortAnswer.NormalisedAlike false service request orderedStream chatValue responsesValue
      (anthropicValue 2 1) :=
  (normalisedAlike_iff (by decide) (by decide) chatBody responsesBody anthropicBody).mpr
    ⟨by decide, by decide +kernel⟩

/-- A null usage member after the report takes the counts away, and counts whose sum does not fit
overflow. -/
theorem usage_lost :
    ¬ shortAnswer.NormalisedAlike false service request lateNullStream chatValue responsesValue
      (anthropicValue 2 1) ∧
    normalizeAnthropic true service request (anthropicValue (2 ^ 63) (2 ^ 63)) =
      .error .panicked := by
  refine ⟨not_alike_of_null (by decide) (by decide) (by decide +kernel), ?_⟩
  rw [normalizeAnthropic_eq true (by decide) (by decide) longAnthropicBody]
  rfl

end Answer

end Quillframe
