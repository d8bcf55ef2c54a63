import Mathlib.Data.List.DropRight
import Quillframe.Error
import Quillframe.JsonText
import Quillframe.Model
import Quillframe.Utf8

/-!
# Reading a model's JSON

The content of a model result is read as one JSON text. A fence around it, a few backticks behind
it, up to two missing closing brackets and a short tail without brackets are tolerated.
-/
namespace Quillframe

open Brackets (Balanced)
open JsonText (Allows Bracket IsText Lexes Scan isEdge scan token)
open Utf8 (byteLength sliceFrom)

variable {T Fp : Type}

/-! ## The JSON library -/

/-- `serde_json` at one target type. -/
structure JsonReader (T : Type) where
  fromStr : List Char → Except String T
  /-- The first item of `Deserializer::from_str(text).into_iter()`, with the byte offset behind
  it. -/
  next : List Char → Option (Except String (T × ℕ))

/-- Only JSON texts are read, and the first item of a stream is what its text is read as. -/
structure JsonReader.Standard (reader : JsonReader T) : Prop where
  isText : ∀ {s : List Char} {v : T}, reader.fromStr s = .ok v → IsText s
  next : ∀ {s : List Char} {v : T} {offset : ℕ}, reader.next s = some (.ok (v, offset)) →
    ∃ front rest, s = front ++ rest ∧ offset = byteLength front ∧ reader.fromStr front = .ok v

/-! ## Texts as characters -/

/-- `value.trim()`. -/
def trimChars (s : List Char) : List Char := (s.dropWhile isWhitespace).rdropWhile isWhitespace

/-- `value.trim_end()`. -/
def trimEndChars (s : List Char) : List Char := s.rdropWhile isWhitespace

/-- `char::is_control`. -/
def isControl (c : Char) : Bool := c.toNat < 0x20 || (0x7f ≤ c.toNat && c.toNat ≤ 0x9f)

/-- A control character other than a newline, a return and a tab. -/
def isUnsafe (c : Char) : Bool := isControl c && !(c = '\n' || c = '\r' || c = '\t')

def isOpener (c : Char) : Bool := c = '\x7b' || c = '['

def startsContainer (s : List Char) : Bool := s.head?.any isOpener

def ticks : List Char := ['\x60', '\x60', '\x60']

def jsonFence : List Char := ticks ++ ['j', 's', 'o', 'n']

/-! ## The reader -/

/-- The text that is read: the trimmed content without its fence or its trailing backticks. -/
def modelPayload (result : ModelResult Fp) : CoreResult (List Char) :=
  let trimmed := trimChars result.content.toList
  match (trimmed.dropPrefix? jsonFence).bind (·.dropSuffix? ticks) with
  | some inner =>
    let inner := trimChars inner
    if ticks <:+: inner then
      .error (.invalidProject
        ("semantic stage returned nested JSON fences for " ++ result.requestId))
    else .ok inner
  | none =>
    if startsContainer trimmed then
      let removedTicks := (trimmed.rtakeWhile (· = '\x60')).length
      if 1 ≤ removedTicks ∧ removedTicks ≤ 3 then
        .ok (trimEndChars (trimmed.take (trimmed.length - removedTicks)))
      else .ok trimmed
    else .ok trimmed

def completeTrailingJsonContainers (payload : List Char) : Option (List Char) :=
  if startsContainer payload then
    match scan (fun _ => isUnsafe) (.outside []) payload with
    | none => none
    | some st =>
      if st.inString ∨ st.escaped ∨ st.stack = [] ∨ 2 < st.stack.length then none
      else some (payload ++ st.stack.map Bracket.closer)
  else none

/-- The text behind the first value is short, and nothing in it opens a container. -/
def safeTrailing (trailing : List Char) : Bool :=
  trailing = [] || (byteLength trailing ≤ 2048 &&
    !trailing.any fun c => c = '\x7b' || c = '[' || c = '\x00' || isUnsafe c)

def strictModelJson (reader : JsonReader T) (result : ModelResult Fp) : CoreResult T := do
  let payload ← modelPayload result
  match reader.fromStr payload with
  | .ok value => return value
  | .error exactError =>
    match (completeTrailingJsonContainers payload).bind
        fun completed => (reader.fromStr completed).toOption with
    | some value => return value
    | none =>
      match reader.next payload with
      | none =>
        .error (.invalidProject ("semantic stage returned no typed JSON for " ++ result.requestId))
      | some (.error _) =>
        .error (.invalidProject ("semantic stage returned invalid typed JSON for " ++
          result.requestId ++ ": " ++ exactError))
      | some (.ok (value, offset)) =>
        -- the offset stands between two characters, so the slice exists
        if safeTrailing (trimChars ((sliceFrom payload offset).getD [])) then return value
        else .error (.invalidProject
          ("semantic stage returned an unsafe trailing payload for " ++ result.requestId))

/-! ## What unwrapping keeps -/

section Unwrapping

variable {s front rest trimmed payload text : List Char}

theorem exists_trimEnd (s : List Char) :
    ∃ blanks, s = trimEndChars s ++ blanks ∧ ∀ c ∈ blanks, isWhitespace c = true :=
  ⟨s.rtakeWhile isWhitespace, List.rdropWhile_append_rtakeWhile.symm,
    fun _ hc => List.mem_rtakeWhile_imp hc⟩

theorem trimChars_eq (s : List Char) : trimChars s = trimEndChars (s.dropWhile isWhitespace) := rfl

theorem exists_trim (s : List Char) :
    ∃ before after, s = before ++ (trimChars s ++ after) ∧
      (∀ c ∈ before, isWhitespace c = true) ∧ ∀ c ∈ after, isWhitespace c = true := by
  obtain ⟨after, hend, hafter⟩ := exists_trimEnd (s.dropWhile isWhitespace)
  refine ⟨s.takeWhile isWhitespace, after, ?_, fun c hc => List.mem_takeWhile_imp hc, hafter⟩
  rw [trimChars_eq, ← hend, List.takeWhile_append_dropWhile]

/-- The brackets of a text that open a container. -/
def openers (s : List Char) : List Char := s.filter isOpener

theorem openers_append : openers (front ++ rest) = openers front ++ openers rest :=
  List.filter_append _ _

theorem openers_eq_nil (h : ∀ c ∈ s, isOpener c = false) : openers s = [] :=
  List.filter_eq_nil_iff.mpr fun c hc => by simp [h c hc]

theorem openers_blanks (h : ∀ c ∈ s, isWhitespace c = true) : openers s = [] := by
  refine openers_eq_nil fun c hc => ?_
  by_contra hopener
  have hspace := h c hc
  simp only [isOpener, Bool.not_eq_false, Bool.or_eq_true, decide_eq_true_eq] at hopener
  rcases hopener with rfl | rfl <;> exact absurd hspace (by decide)

theorem openers_trim (s : List Char) : openers (trimChars s) = openers s := by
  obtain ⟨before, after, hsplit, hbefore, hafter⟩ := exists_trim s
  conv_rhs => rw [hsplit]
  rw [openers_append, openers_append, openers_blanks hbefore, openers_blanks hafter,
    List.nil_append, List.append_nil]

/-- The payload is the trimmed content, without one fence or up to three trailing backticks. -/
inductive Unwrapped (trimmed payload : List Char) : Prop
  | exact : payload = trimmed → Unwrapped trimmed payload
  | fenced {inner : List Char} : trimmed = jsonFence ++ (inner ++ ticks) →
    payload = trimChars inner → ¬ ticks <:+: payload → Unwrapped trimmed payload
  | ticked {blanks : List Char} {n : ℕ} : startsContainer trimmed = true →
    trimmed = payload ++ (blanks ++ List.replicate n '\x60') →
    (∀ c ∈ blanks, isWhitespace c = true) → 1 ≤ n → n ≤ 3 → Unwrapped trimmed payload

theorem Unwrapped.openers (h : Unwrapped trimmed payload) :
    Quillframe.openers payload = Quillframe.openers trimmed := by
  cases h with
  | exact heq => rw [heq]
  | @fenced inner htrimmed hpayload _ =>
    have hfence : Quillframe.openers jsonFence = [] := by decide
    have hticks : Quillframe.openers ticks = [] := by decide
    rw [htrimmed, hpayload, openers_append, openers_append, hfence, hticks, openers_trim,
      List.nil_append, List.append_nil]
  | @ticked blanks n _ htrimmed hblanks _ _ =>
    have hticks : Quillframe.openers (List.replicate n '\x60') = [] := by
      refine openers_eq_nil fun c hc => ?_
      rw [(List.mem_replicate.mp hc).2]
      decide
    rw [htrimmed, openers_append, openers_append, openers_blanks hblanks, hticks,
      List.append_nil, List.append_nil]

/-- A text is what is left of it without its trailing backticks, and these backticks. -/
theorem append_ticks (s : List Char) :
    s = s.take (s.length - (s.rtakeWhile (· = '\x60')).length) ++
      List.replicate (s.rtakeWhile (· = '\x60')).length '\x60' := by
  have hsplit := List.rdropWhile_append_rtakeWhile (p := (· = '\x60')) (l := s)
  have hticks : s.rtakeWhile (· = '\x60') =
      List.replicate (s.rtakeWhile (· = '\x60')).length '\x60' := by
    refine List.eq_replicate_iff.mpr ⟨rfl, fun c hc => ?_⟩
    simpa using List.mem_rtakeWhile_imp hc
  have hlength := congrArg List.length hsplit
  rw [List.length_append] at hlength
  have hkept : s.take (s.length - (s.rtakeWhile (· = '\x60')).length) =
      s.rdropWhile (· = '\x60') := by
    rw [← hlength, Nat.add_sub_cancel]
    exact (List.prefix_iff_eq_take.mp (List.rdropWhile_prefix _ s)).symm
  rw [hkept, ← hticks, hsplit]

theorem modelPayload_eq_ok {result : ModelResult Fp} (h : modelPayload result = .ok payload) :
    Unwrapped (trimChars result.content.toList) payload := by
  unfold modelPayload at h
  dsimp only at h
  split at h
  · rename_i inner hfence
    split at h
    · cases h
    · rename_i hnested
      cases h
      obtain ⟨behind, hbehind, hinner⟩ := Option.bind_eq_some_iff.mp hfence
      obtain ⟨fence, htrimmed, hfence⟩ := List.dropPrefix?_eq_some_iff.mp hbehind
      obtain ⟨closing, hclosing, hticks⟩ := List.dropSuffix?_eq_some_iff.mp hinner
      rw [eq_of_beq hfence] at htrimmed
      rw [eq_of_beq hticks] at hclosing
      exact .fenced (htrimmed.trans (congrArg _ hclosing)) rfl hnested
  · split at h
    · rename_i hcontainer
      split at h
      · rename_i hcount
        cases h
        have hticks := append_ticks (trimChars result.content.toList)
        obtain ⟨blanks, hblanks, hwhite⟩ := exists_trimEnd ((trimChars result.content.toList).take
          ((trimChars result.content.toList).length -
            ((trimChars result.content.toList).rtakeWhile (· = '\x60')).length))
        refine .ticked hcontainer ?_ hwhite hcount.1 hcount.2
        rw [← List.append_assoc, ← hblanks]
        exact hticks
      · cases h
        exact .exact rfl
    · cases h
      exact .exact rfl

/-- A trimmed content that is a JSON text is read as it is. -/
theorem modelPayload_of_isText {result : ModelResult Fp}
    (h : IsText (trimChars result.content.toList)) :
    modelPayload result = .ok (trimChars result.content.toList) := by
  obtain ⟨⟨first, rest, hfirst, hedge⟩, ⟨front, last, hlast, hedge'⟩⟩ := h.edged
  have hfence : (trimChars result.content.toList).dropPrefix? jsonFence = none := by
    rw [Option.eq_none_iff_forall_ne_some]
    intro inner hinner
    obtain ⟨fence, htrimmed, hequal⟩ := List.dropPrefix?_eq_some_iff.mp hinner
    rw [eq_of_beq hequal, hfirst] at htrimmed
    obtain ⟨rfl, -⟩ := List.cons.inj htrimmed
    revert hedge
    decide
  have hnone : ((trimChars result.content.toList).rtakeWhile (· = '\x60')).length = 0 := by
    have hother : last ≠ '\x60' := by
      rintro rfl
      revert hedge'
      decide
    rw [hlast, List.rtakeWhile_concat_neg _ _ _ (by simpa using hother), List.length_nil]
  simp only [modelPayload, hfence, Option.bind_none, hnone]
  split <;> simp

end Unwrapping

/-! ## What completing keeps -/

section Completing

variable {payload completed text : List Char}

/-- The text is cut into whole strings and characters, and the closing brackets of the stack
balance it. -/
def OpenContainers (payload : List Char) (stack : List Bracket) : Prop :=
  ∃ tokens, Lexes (fun _ => isUnsafe) payload tokens ∧ Balanced (tokens ++ stack.map .closing)

/-- Exactly the payloads with one or two open containers are completed, behind their last string. -/
theorem completeTrailing_eq_some :
    completeTrailingJsonContainers payload = some completed ↔
      startsContainer payload = true ∧ ∃ stack, OpenContainers payload stack ∧ stack ≠ [] ∧
        stack.length ≤ 2 ∧ completed = payload ++ stack.map Bracket.closer := by
  unfold completeTrailingJsonContainers
  by_cases hstarts : startsContainer payload = true
  · rw [if_pos hstarts]
    simp only [hstarts, true_and]
    constructor
    · intro h
      split at h
      · cases h
      · rename_i st hscan
        split at h
        · cases h
        · rename_i hclosed
          cases h
          simp only [not_or, Bool.not_eq_true, not_lt] at hclosed
          obtain ⟨hstring, hescaped, hopen, hcount⟩ := hclosed
          rw [Scan.eq_outside hstring hescaped] at hscan
          exact ⟨st.stack, JsonText.scan_eq_some_iff.mp hscan, hopen, hcount, rfl⟩
    · rintro ⟨stack, hcontainers, hopen, hcount, rfl⟩
      rw [JsonText.scan_eq_some_iff.mpr hcontainers]
      simp [hopen, hcount]
  · rw [if_neg hstarts]
    simp [hstarts]

/-- The texts that a payload may be read as. -/
inductive ReadAs (payload text : List Char) : Prop
  | whole : text = payload → ReadAs payload text
  | completed {stack : List Bracket} : OpenContainers payload stack → 1 ≤ stack.length →
    stack.length ≤ 2 → text = payload ++ stack.map Bracket.closer → ReadAs payload text
  | front {rest : List Char} : payload = text ++ rest → (∀ c ∈ rest, isOpener c = false) →
    ReadAs payload text

/-- Nothing that opens a container is left out or added. -/
theorem ReadAs.openers (h : ReadAs payload text) : openers text = openers payload := by
  cases h with
  | whole heq => rw [heq]
  | @completed stack _ _ _ heq =>
    have hclosers : Quillframe.openers (stack.map Bracket.closer) = [] := by
      refine openers_eq_nil fun c hc => ?_
      obtain ⟨kind, -, rfl⟩ := List.mem_map.mp hc
      cases kind <;> decide
    rw [heq, openers_append, hclosers, List.append_nil]
  | front heq hrest => rw [heq, openers_append, openers_eq_nil hrest, List.append_nil]

theorem isOpener_of_safeTrailing {trailing : List Char} (h : safeTrailing trailing = true) :
    ∀ c ∈ trailing, isOpener c = false := by
  intro c hc
  have hne : trailing ≠ [] := List.ne_nil_of_mem hc
  simp only [safeTrailing, hne, decide_false, Bool.false_or, Bool.and_eq_true, Bool.not_eq_true',
    List.any_eq_false] at h
  have hchar := h.2 c hc
  simp only [Bool.or_eq_true, decide_eq_true_eq, not_or] at hchar
  simp [isOpener, hchar.1.1.1, hchar.1.1.2]

end Completing

section Reading

variable {reader : JsonReader T} {result : ModelResult Fp} {value : T}

theorem strictModelJson_of_payload {payload : List Char}
    (hpayload : modelPayload result = .ok payload) (hread : reader.fromStr payload = .ok value) :
    strictModelJson reader result = .ok value := by
  rw [strictModelJson, hpayload]
  simp only [bind, Except.bind, hread]
  rfl

theorem strictModelJson_eq_ok (hstandard : reader.Standard)
    (h : strictModelJson reader result = .ok value) : ∃ payload text,
      Unwrapped (trimChars result.content.toList) payload ∧ ReadAs payload text ∧
        reader.fromStr text = .ok value := by
  obtain ⟨payload, hpayload, h⟩ := bind_eq_ok.mp h
  refine ⟨payload, ?_⟩
  have hunwrapped := modelPayload_eq_ok hpayload
  split at h
  · rename_i hwhole
    cases h
    exact ⟨payload, hunwrapped, .whole rfl, hwhole⟩
  · split at h
    · rename_i hcompleted
      cases h
      obtain ⟨completed, hcomplete, hread⟩ := Option.bind_eq_some_iff.mp hcompleted
      obtain ⟨-, stack, hcontainers, hopen, hcount, htext⟩ := completeTrailing_eq_some.mp hcomplete
      refine ⟨completed, hunwrapped,
        .completed hcontainers (List.length_pos_of_ne_nil hopen) hcount htext, ?_⟩
      cases hresult : reader.fromStr completed with
      | error e => simp [hresult, Except.toOption] at hread
      | ok v => simpa [hresult, Except.toOption] using hread
    · split at h
      · cases h
      · cases h
      · rename_i first offset hnext
        split at h
        · rename_i hsafe
          cases h
          obtain ⟨front, rest, hsplit, hoffset, hread⟩ := hstandard.next hnext
          rw [hsplit, hoffset, Utf8.sliceFrom_byteLength, Option.getD_some] at hsafe
          refine ⟨front, hunwrapped, .front hsplit fun c hc => ?_, hread⟩
          by_contra hopener
          have hmem : c ∈ openers (trimChars rest) := by
            rw [openers_trim]
            exact List.mem_filter.mpr ⟨hc, by simpa using hopener⟩
          obtain ⟨htrailing, hopens⟩ := List.mem_filter.mp hmem
          rw [isOpener_of_safeTrailing hsafe c htrailing] at hopens
          cases hopens
        · cases h

/-- A content that is a JSON text is read as it is. Whatever is read comes from the payload, from
the payload with its one or two open containers closed, or from a front of it that no opening
bracket follows, with every opening bracket of the content. Containers are closed only behind
whole strings. -/
theorem strictModelJson_conservative (reader : JsonReader T) (hstandard : reader.Standard)
    (result : ModelResult Fp) :
    (∀ value, reader.fromStr (trimChars result.content.toList) = .ok value →
      strictModelJson reader result = .ok value) ∧
    (∀ value, strictModelJson reader result = .ok value → ∃ payload text,
      Unwrapped (trimChars result.content.toList) payload ∧ ReadAs payload text ∧
        reader.fromStr text = .ok value ∧ openers text = openers result.content.toList) ∧
    ∀ payload completed, completeTrailingJsonContainers payload = some completed →
      ∃ stack, OpenContainers payload stack ∧ 1 ≤ stack.length ∧ stack.length ≤ 2 ∧
        completed = payload ++ stack.map Bracket.closer := by
  refine ⟨fun value hread => ?_, fun value hread => ?_, fun payload completed hcomplete => ?_⟩
  · exact strictModelJson_of_payload (modelPayload_of_isText (hstandard.isText hread)) hread
  · obtain ⟨payload, text, hunwrapped, hreadAs, htext⟩ := strictModelJson_eq_ok hstandard hread
    refine ⟨payload, text, hunwrapped, hreadAs, htext, ?_⟩
    rw [hreadAs.openers, hunwrapped.openers, openers_trim]
  · obtain ⟨-, stack, hcontainers, hopen, hcount, htext⟩ := completeTrailing_eq_some.mp hcomplete
    exact ⟨stack, hcontainers, List.length_pos_of_ne_nil hopen, hcount, htext⟩

end Reading

namespace Sample

open JsonText

def closedList : List Char := "\x7b\"a\":[1]\x7d".toList

def listValue : Json Digest := .obj [("a", .arr [.int 1])]

/-- The JSON library where one text is read, and its truncations end too early. -/
def listReader : JsonReader (Json Digest) where
  fromStr s := if s = closedList then .ok listValue else .error "EOF while parsing a list"
  next _ := some (.error "EOF while parsing a list")

theorem closedList_isText : IsText closedList := by
  have hspace : Space [] := by simp [Space]
  have hdigit : NumberText ['1'] :=
    ⟨[], ['1'], [], [], rfl, .inl rfl, ⟨⟨by simp, by decide⟩, by decide⟩, .inl rfl, .inl rfl⟩
  have hitem : Derives .element ([] ++ (['1'] ++ [])) := .element hspace (.number hdigit) hspace
  have hlist : Derives .element ([] ++ (('[' :: (([] ++ (['1'] ++ [])) ++ [']'])) ++ [])) :=
    .element hspace (.array (.lastElement hitem)) hspace
  have hkey : StringText ['"', 'a', '"'] :=
    ⟨['a'], .char (by decide) (by decide) (by decide) .nil, rfl⟩
  exact .element hspace (.object (.lastMember (.member hspace hkey hspace hlist))) hspace

theorem listReader_standard : listReader.Standard where
  isText h := by
    simp only [listReader] at h
    split at h
    · rename_i htext
      rw [htext]
      exact closedList_isText
    · cases h
  next h := by simp [listReader] at h

/-- A fenced answer that lacks its two closing brackets. -/
def openAnswer : ModelResult Digest where
  schema := "quillframe_model_result_v1"
  requestId := "REQ"
  serviceId := "SERVICE"
  model := "MODEL"
  content := "\x60\x60\x60json\n\x7b\"a\":[1\n\x60\x60\x60"
  providerResponseId := none
  usage := ⟨none, none, none, none⟩
  fingerprint := .tag 1

end Sample

theorem strictModelJson_conservative_sample :
    strictModelJson Sample.listReader Sample.openAnswer = .ok Sample.listValue ∧
      ∃ payload text, Unwrapped (trimChars Sample.openAnswer.content.toList) payload ∧
        ReadAs payload text ∧ Sample.listReader.fromStr text = .ok Sample.listValue ∧
        openers text = openers Sample.openAnswer.content.toList := by
  have hread : strictModelJson Sample.listReader Sample.openAnswer = .ok Sample.listValue := by
    decide +kernel
  obtain ⟨-, hreads, -⟩ :=
    strictModelJson_conservative Sample.listReader Sample.listReader_standard Sample.openAnswer
  exact ⟨hread, hreads _ hread⟩

end Quillframe
