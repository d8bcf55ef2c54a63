import Quillframe.Cloud.CanonicalRoundTrip
import Quillframe.Js.Base64

/-!
# Core proofs

The proof header of `core-provenance.ts`: signed claims as four fields between dots. The digest and
the keyed hash of the platform are parameters that give 32 bytes.
-/
namespace Quillframe.Cloud.CoreProof

open Js

class WebCrypto where
  digest : Bytes → {hash : Bytes // hash.length = 32}
  sign : Bytes → Bytes → {tag : Bytes // tag.length = 32}

def coreProofSkewMs : ℚ := 5000

def coreProofMaxLifetimeMs : ℚ := 30000

def maxId : ℕ := 128

def maxPath : ℕ := 2048

def maxNonce : ℕ := 128

def maxHeader : ℕ := 32768

def coreProofSchema : Text := text "quillframe_core_proof_v1"

def coreProofVersion : Text := text "qfcp1"

def claimNames : List String :=
  ["body_sha256", "expires_at", "issued_at", "key_id", "method", "nonce", "path", "project_id",
    "schema", "scope", "session_id", "workspace_id"]

def claimKeys : List Text := claimNames.map text

/-! ## Claims -/

/-- The property `name` of a value, if it has one. -/
def field (name : String) : JsonValue → Option JsonValue
  | .object members => JsonValue.member? (text name) members
  | _ => none

def onString (check : Text → Bool) : Option JsonValue → Bool
  | some (.string s) => check s
  | _ => false

def isNull : Option JsonValue → Bool
  | some .null => true
  | _ => false

def sortTexts (texts : List Text) : List Text := texts.insertionSort (· ≤ ·)

def exactKeys (value : JsonValue) (expected : List Text) : Bool :=
  match value with
  | .object members =>
    joinComma (sortTexts (members.map Prod.fst)) = joinComma (sortTexts expected)
  | _ => false

def IsIdUnit (code : CodeUnit) : Prop :=
  IsAlphanumeric code ∨ code = unit '.' ∨ code = unit '_' ∨ code = unit ':' ∨ code = unit '-'

def IsProjectUnit (code : CodeUnit) : Prop :=
  IsAlphanumeric code ∨ code = unit '.' ∨ code = unit '_' ∨ code = unit '-'

def IsUpper (code : CodeUnit) : Prop := 0x41 ≤ code.val ∧ code.val ≤ 0x5a

def IsMethodUnit (code : CodeUnit) : Prop := IsUpper code ∨ IsDigit code ∨ code = unit '-'

def IsLowerHex (code : CodeUnit) : Prop := IsDigit code ∨ 0x61 ≤ code.val ∧ code.val ≤ 0x66

/-- `[\u0000-\u001f\u007f-\u009f#]` -/
def IsControlOrHash (code : CodeUnit) : Prop :=
  code.val ≤ 0x1f ∨ 0x7f ≤ code.val ∧ code.val ≤ 0x9f ∨ code = unit '#'

instance : DecidablePred IsIdUnit := fun _ => inferInstanceAs (Decidable (_ ∨ _))

instance : DecidablePred IsProjectUnit := fun _ => inferInstanceAs (Decidable (_ ∨ _))

instance : DecidablePred IsUpper := fun _ => inferInstanceAs (Decidable (_ ∧ _))

instance : DecidablePred IsMethodUnit := fun _ => inferInstanceAs (Decidable (_ ∨ _))

instance : DecidablePred IsLowerHex := fun _ => inferInstanceAs (Decidable (_ ∨ _))

instance : DecidablePred IsControlOrHash := fun _ => inferInstanceAs (Decidable (_ ∨ _))

def boundedId (s : Text) : Bool :=
  0 < s.length ∧ s.length ≤ maxId ∧ s.all fun code => IsIdUnit code

def nativeProjectId : Text → Bool
  | [] => false
  | code :: rest => IsAlphanumeric code ∧ rest.length ≤ 63 ∧ rest.all fun code => IsProjectUnit code

def boundedNonce (s : Text) : Bool :=
  0 < s.length ∧ s.length ≤ maxNonce ∧ s.all fun code => IsUrlDigit code

def boundedMethod : Text → Bool
  | [] => false
  | code :: rest => rest.length ≤ 15 ∧ IsUpper code ∧ rest.all fun code => IsMethodUnit code

def boundedPath (s : Text) : Bool :=
  0 < s.length ∧ s.length ≤ maxPath ∧ s.head? = some (unit '/') ∧
    s.all fun code => ¬ IsControlOrHash code

def hexHash (s : Text) : Bool :=
  s.take 7 = text "sha256:" ∧ s.length = 71 ∧ (s.drop 7).all fun code => IsLowerHex code

def safeTime (x : Number) : Bool := x.isSafeInteger ∧ 0 ≤ x.value ∧ x.value ≤ 10 ^ 14

def onNumber (check : Number → Bool) : Option JsonValue → Bool
  | some (.number x) => check x
  | _ => false

/-- A time of the claims; times are compared once they are known to be safe integers. -/
def time (name : String) (claims : JsonValue) : ℚ :=
  match field name claims with
  | some (.number x) => x.value
  | _ => 0

def string (name : String) (claims : JsonValue) : Text :=
  match field name claims with
  | some (.string s) => s
  | _ => []

def projectId (claims : JsonValue) : Option Text :=
  match field "project_id" claims with
  | some (.string s) => some s
  | _ => none

/-- The checks of the fields, in the order of the source. -/
def validFields (claims : JsonValue) : Bool :=
  onString (· = coreProofSchema) (field "schema" claims) ∧
    onString boundedId (field "key_id" claims) ∧ onString boundedMethod (field "method" claims) ∧
    onString boundedPath (field "path" claims) ∧ onString hexHash (field "body_sha256" claims) ∧
    onString boundedId (field "workspace_id" claims) ∧
    onString boundedId (field "session_id" claims) ∧
    (isNull (field "project_id" claims) ∨ onString nativeProjectId (field "project_id" claims)) ∧
    onString (· = text "novel") (field "scope" claims) ∧
    onNumber safeTime (field "issued_at" claims) ∧ onNumber safeTime (field "expires_at" claims) ∧
    onString boundedNonce (field "nonce" claims)

def validateClaims (claims : JsonValue) : Except String Unit := do
  require (exactKeys claims claimKeys) "proof_claims_invalid"
  require (validFields claims) "proof_claims_invalid"
  require (time "issued_at" claims < time "expires_at" claims ∧
    time "expires_at" claims - time "issued_at" claims ≤ coreProofMaxLifetimeMs)
    "proof_time_invalid"

/-! ## Signing and verifying -/

section Proofs

variable [WebCrypto]

def sha256Hex (bytes : Bytes) : Text :=
  (WebCrypto.digest bytes).1.flatMap fun byte =>
    [hexDigit (byte.toNat / 16), hexDigit (byte.toNat % 16)]

def hmacKey (key : Bytes) : Except String Unit :=
  require (key.length = 32) "proof_key_config_invalid"

def strictBase64Url (value : Text) : Except String Bytes := do
  require (value ≠ [] ∧ value.all fun code => IsUrlDigit code) "proof_invalid"
  let bytes ← fetch (fromBase64 value) "proof_invalid"
  require (base64Url bytes = value) "proof_invalid"
  return bytes

structure VerifyOptions where
  keyMap : Option (Text → Option Bytes)
  keyId : Option Text
  key : Option Bytes
  now : Number
  method : Text
  path : Text
  body : Bytes
  workspaceId : Option Text
  sessionId : Option Text
  projectId : Option (Option Text)

def keyFrom (options : VerifyOptions) (keyId : Text) : Except String Bytes :=
  match options.keyMap with
  | some keys => fetch (keys keyId) "proof_key_unknown"
  | none => do
    require (options.keyId = some keyId) "proof_key_unknown"
    fetch options.key "proof_key_unknown"

def header (keyId claims signature : Text) : Text :=
  coreProofVersion ++ unit '.' :: (keyId ++ unit '.' :: (claims ++ unit '.' :: signature))

def signCoreProof (claims : JsonValue) (key : Bytes) : Except String Text := do
  validateClaims claims
  let claimsBytes ← canonicalJsonBytes claims
  hmacKey key
  return header (string "key_id" claims) (base64Url claimsBytes)
    (base64Url (WebCrypto.sign key claimsBytes).1)

/-- The claims answer the call that is verified. -/
def bound (claims : JsonValue) (keyId : Text) (options : VerifyOptions) : Bool :=
  string "key_id" claims = keyId ∧ string "method" claims = options.method ∧
    string "path" claims = options.path ∧
    options.workspaceId.all (fun id => string "workspace_id" claims = id) ∧
    options.sessionId.all (fun id => string "session_id" claims = id) ∧
    options.projectId.all (fun id => projectId claims = id)

def inTime (claims : JsonValue) (now : Number) : Bool :=
  safeTime now ∧ time "issued_at" claims - coreProofSkewMs ≤ now.value ∧
    now.value ≤ time "expires_at" claims + coreProofSkewMs

/-- The checks after the header has been split. -/
def verifyParts (keyId claimsPart signaturePart : Text) (options : VerifyOptions) :
    Except String JsonValue := do
  let key ← keyFrom options keyId
  let raw ← strictBase64Url claimsPart
  let claims ← parseCanonicalJsonBytes raw .claims maxCoreBody
  validateClaims claims
  require (bound claims keyId options) "proof_binding_invalid"
  require (inTime claims options.now) "proof_time_invalid"
  require (text "sha256:" ++ sha256Hex options.body = string "body_sha256" claims)
    "proof_body_invalid"
  let signature ← strictBase64Url signaturePart
  require (signature.length = 32) "proof_signature_invalid"
  hmacKey key
  let bytes ← canonicalJsonBytes claims
  require (signature = (WebCrypto.sign key bytes).1) "proof_signature_invalid"
  return claims

def verifyCoreProof (value : Text) (options : VerifyOptions) : Except String JsonValue := do
  require (value.length ≤ maxHeader) "proof_invalid"
  match value.splitOn (unit '.') with
  | [version, keyId, claimsPart, signaturePart] => do
    require (version = coreProofVersion ∧ boundedId keyId) "proof_invalid"
    verifyParts keyId claimsPart signaturePart options
  | _ => .error "proof_invalid"

end Proofs

end Quillframe.Cloud.CoreProof
