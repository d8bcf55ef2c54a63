import Quillframe.Fallible
import Quillframe.Js.Value

/-!
# Canonical JSON

The printer of `core-provenance.ts` and its parser. The parser keeps the text it has not read; each
of its loops takes one unit of fuel, which the length of the text always covers.
-/
namespace Quillframe.Cloud

open Js

def maxCoreBody : ℕ := 4 * 1024 * 1024

/-! ## Printing -/

mutual

def validateJsonValue : JsonValue → Except String Unit
  | .null | .bool _ => .ok ()
  | .string value => require (hasLoneSurrogate value = false) "body_json_invalid"
  | .number value => require (value.isFinite ∧ value.isSafeInteger) "body_json_invalid"
  | .array items => validateItems items
  | .object members => validateMembers members

def validateItems : List JsonValue → Except String Unit
  | [] => .ok ()
  | item :: rest => validateJsonValue item >>= fun _ => validateItems rest

def validateMembers : List Member → Except String Unit
  | [] => .ok ()
  | member :: rest =>
    require (Ascii member.1) "body_json_invalid" >>= fun _ =>
      validateJsonValue member.2 >>= fun _ => validateMembers rest

end

def joinComma (pieces : List Text) : Text := [unit ','].intercalate pieces

def memberText (member : Text × Text) : Text := stringifyString member.1 ++ unit ':' :: member.2

mutual

def serializeCanonical : JsonValue → Text
  | .array items => unit '[' :: joinComma (serializeItems items) ++ [unit ']']
  | .object members =>
    unit '{' :: joinComma ((JsonValue.sortByKey (serializeMembers members)).map memberText) ++
      [unit '}']
  | .null => text "null"
  | .bool true => text "true"
  | .bool false => text "false"
  | .number value => stringifyNumber value
  | .string value => stringifyString value

def serializeItems : List JsonValue → List Text
  | [] => []
  | item :: rest => serializeCanonical item :: serializeItems rest

def serializeMembers : List Member → List (Text × Text)
  | [] => []
  | member :: rest => (member.1, serializeCanonical member.2) :: serializeMembers rest

end

def canonicalJson (value : JsonValue) : Except String Text := do
  validateJsonValue value
  return serializeCanonical value

def canonicalJsonBytes (value : JsonValue) : Except String Bytes :=
  (canonicalJson value).map encode

/-! ## Parsing -/

inductive JsonKind where
  | body
  | claims
  deriving DecidableEq

/-- The code under which a failure is reported. -/
def JsonKind.error (kind : JsonKind) (code : String) : String :=
  match kind with
  | .claims => "proof_claims_invalid"
  | .body => code

def IsWhitespace (code : CodeUnit) : Prop :=
  code = unit ' ' ∨ code = unit '\n' ∨ code = unit '\r' ∨ code = unit '\t'

instance : DecidablePred IsWhitespace := fun _ => inferInstanceAs (Decidable (_ ∨ _))

def skipWhitespace (s : Text) : Text := s.dropWhile fun code => decide (IsWhitespace code)

/-- The value of a hexadecimal digit. -/
def hexValue (code : CodeUnit) : Option ℕ :=
  if IsDigit code then some (code.val - 0x30)
  else if 0x61 ≤ code.val ∧ code.val ≤ 0x66 then some (code.val - 0x61 + 10)
  else if 0x41 ≤ code.val ∧ code.val ≤ 0x46 then some (code.val - 0x41 + 10)
  else none

def parseHex (a b c d : CodeUnit) : Option CodeUnit := do
  let a ← hexValue a
  let b ← hexValue b
  let c ← hexValue c
  let d ← hexValue d
  return ⟨(((a * 16 + b) * 16 + c) * 16 + d) % 0x10000, Nat.mod_lt _ (by decide)⟩

/-- The character that a backslash and one unit stand for. -/
def unescape (escaped : CodeUnit) : Option CodeUnit :=
  if escaped = unit '"' ∨ escaped = unit '\\' ∨ escaped = unit '/' then some escaped
  else if escaped = unit 'b' then some ⟨0x08, by decide⟩
  else if escaped = unit 'f' then some ⟨0x0c, by decide⟩
  else if escaped = unit 'n' then some ⟨0x0a, by decide⟩
  else if escaped = unit 'r' then some ⟨0x0d, by decide⟩
  else if escaped = unit 't' then some ⟨0x09, by decide⟩
  else none

section Parser

variable (kind : JsonKind)

def parseLiteral (token : Text) (value : JsonValue) (s : Text) :
    Except String (JsonValue × Text) := do
  require (s.take token.length = token) (kind.error "body_json_invalid")
  return (value, s.drop token.length)

/-- The units of a string after its opening quote. -/
def parseUnits : Text → Except String (Text × Text)
  | [] => .error (kind.error "body_json_invalid")
  | code :: rest =>
    if code = unit '"' then .ok ([], rest)
    else if code = unit '\\' then
      match rest with
      | escaped :: rest =>
        if escaped = unit 'u' then
          match rest with
          | a :: b :: c :: d :: rest => do
            let plain ← fetch (parseHex a b c d) (kind.error "body_json_invalid")
            let (tail, rest) ← parseUnits rest
            return (plain :: tail, rest)
          | _ => .error (kind.error "body_json_invalid")
        else do
          let plain ← fetch (unescape escaped) (kind.error "body_json_invalid")
          let (tail, rest) ← parseUnits rest
          return (plain :: tail, rest)
      | [] => .error (kind.error "body_json_invalid")
    else do
      require (0x20 ≤ code.val) (kind.error "body_json_invalid")
      let (tail, rest) ← parseUnits rest
      return (code :: tail, rest)

def parseString : Text → Except String (Text × Text)
  | [] => .error (kind.error "body_json_invalid")
  | code :: rest => do
    require (code = unit '"') (kind.error "body_json_invalid")
    parseUnits kind rest

def parseNumber (s : Text) : Except String (JsonValue × Text) := do
  let (literal, rest) ← fetch (scanNumber s) (kind.error "body_json_invalid")
  require (literal.toNumber.isFinite ∧ literal.toNumber.isSafeInteger)
    (kind.error "body_json_invalid")
  return (.number literal.toNumber, rest)

/-- The next unit, which must be `expected`. -/
def expect (expected : CodeUnit) : Text → Except String Text
  | [] => .error (kind.error "body_json_invalid")
  | code :: rest => do
    require (code = expected) (kind.error "body_json_invalid")
    return rest

mutual

def parseValue : ℕ → Text → Except String (JsonValue × Text)
  | 0, _ => .error (kind.error "body_json_invalid")
  | fuel + 1, s =>
    match skipWhitespace s with
    | [] => parseNumber kind []
    | code :: rest =>
      if code = unit '\x7b' then parseObject fuel (skipWhitespace rest)
      else if code = unit '[' then parseArray fuel (skipWhitespace rest)
      else if code = unit '"' then
        (parseString kind (code :: rest)).map fun (value, rest) => (.string value, rest)
      else if code = unit 't' then parseLiteral kind (text "true") (.bool true) (code :: rest)
      else if code = unit 'f' then parseLiteral kind (text "false") (.bool false) (code :: rest)
      else if code = unit 'n' then parseLiteral kind (text "null") .null (code :: rest)
      else parseNumber kind (code :: rest)

/-- An object after its opening brace. -/
def parseObject : ℕ → Text → Except String (JsonValue × Text)
  | 0, _ => .error (kind.error "body_json_invalid")
  | fuel + 1, s =>
    if s.head? = some (unit '\x7d') then .ok (.object [], s.tail)
    else (parseMembers fuel [] s).map fun (members, rest) => (.object members, rest)

def parseMembers : ℕ → List Text → Text → Except String (List Member × Text)
  | 0, _, _ => .error (kind.error "body_json_invalid")
  | fuel + 1, seen, s => do
    let (key, s) ← parseString kind (skipWhitespace s)
    require (Ascii key) (kind.error "body_json_invalid")
    require (key ∉ seen) (kind.error "body_duplicate_key")
    let s ← expect kind (unit ':') (skipWhitespace s)
    let (value, s) ← parseValue fuel s
    match skipWhitespace s with
    | [] => .error (kind.error "body_json_invalid")
    | delimiter :: rest =>
      if delimiter = unit '\x7d' then .ok ([(key, value)], rest)
      else if delimiter = unit ',' then
        (parseMembers fuel (key :: seen) rest).map fun (members, rest) =>
          ((key, value) :: members, rest)
      else .error (kind.error "body_json_invalid")

/-- An array after its opening bracket. -/
def parseArray : ℕ → Text → Except String (JsonValue × Text)
  | 0, _ => .error (kind.error "body_json_invalid")
  | fuel + 1, s =>
    if s.head? = some (unit ']') then .ok (.array [], s.tail)
    else (parseItems fuel s).map fun (items, rest) => (.array items, rest)

def parseItems : ℕ → Text → Except String (List JsonValue × Text)
  | 0, _ => .error (kind.error "body_json_invalid")
  | fuel + 1, s => do
    let (value, s) ← parseValue fuel s
    match skipWhitespace s with
    | [] => .error (kind.error "body_json_invalid")
    | delimiter :: rest =>
      if delimiter = unit ']' then .ok ([value], rest)
      else if delimiter = unit ',' then
        (parseItems fuel rest).map fun (items, rest) => (value :: items, rest)
      else .error (kind.error "body_json_invalid")

end

/-- The fuel of a text: an item of an array lies three calls deep. -/
def fuelFor (s : Text) : ℕ := 3 * s.length + 1

def parseText (s : Text) : Except String JsonValue := do
  let (value, rest) ← parseValue kind (fuelFor s) s
  require (skipWhitespace rest = []) (kind.error "body_not_canonical")
  return value

end Parser

/-- Every failure on claims is reported under one code. -/
def parseCanonical (raw : Bytes) (kind : JsonKind) : Except String JsonValue := do
  let s ← fetch (decode raw) (kind.error "body_utf8_invalid")
  let value ← parseText kind s
  let canonical ← (canonicalJsonBytes value).mapError kind.error
  require (canonical = raw) (kind.error "body_not_canonical")
  return value

def parseCanonicalJsonBytes (raw : Bytes) (kind : JsonKind) (limit : ℕ) :
    Except String JsonValue := do
  require (raw.length ≤ limit) (kind.error "body_size_invalid")
  parseCanonical raw kind

end Quillframe.Cloud
