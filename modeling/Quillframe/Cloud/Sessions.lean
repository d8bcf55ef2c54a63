import Quillframe.Cloud.Coordinator
import Quillframe.Error

/-!
# Sign-in and sessions

The coordinator keeps the authorization transactions that were begun, a mark for each that was
used, the sessions by the hash of their cookie, and a tombstone for each that ended.
-/
namespace Quillframe.Cloud

def idleMs : ℤ := 30 * 60 * 1000

def absoluteMs : ℤ := 8 * 60 * 60 * 1000

def authMs : ℤ := 10 * 60 * 1000

/-! ## Records -/

structure AuthTransaction where
  transactionId : String
  state : String
  codeVerifier : String
  codeChallenge : String
  returnTo : String
  expiresAt : ℤ
  deriving DecidableEq, Repr

structure AuthRecord extends AuthTransaction where
  stateHash : String
  deriving DecidableEq, Repr

structure AuthConsumed where
  transactionId : String
  stateHash : String
  consumedAt : ℤ
  deriving DecidableEq, Repr

structure SessionRecord where
  workspaceId : String
  workspaceHandle : String
  sessionId : String
  cookieHash : String
  csrfHash : String
  workosSessionId : Option String
  createdAt : ℤ
  lastSeenAt : ℤ
  absoluteExpiresAt : ℤ
  epoch : ℤ
  deriving DecidableEq, Repr

inductive TombstoneReason where
  | logout | expired | replaced
  deriving DecidableEq, Repr

structure SessionTombstone where
  cookieHash : String
  workspaceId : String
  sessionId : String
  destroyedAt : ℤ
  reason : TombstoneReason
  epoch : ℤ
  deriving DecidableEq, Repr

/-- The keys `workspace-binding`, `auth:`, `auth-consumed:`, `session:` and `session-tombstone:`. -/
structure SessionStorage where
  binding : Option WorkspaceBinding
  auth : String → Option AuthRecord
  authConsumed : String → Option AuthConsumed
  session : String → Option SessionRecord
  tombstone : String → Option SessionTombstone

def SessionStorage.empty : SessionStorage :=
  ⟨none, fun _ => none, fun _ => none, fun _ => none, fun _ => none⟩

structure SessionCreation where
  workspaceId : String
  workspaceHandle : String
  sessionId : String
  cookieToken : String
  csrfToken : String
  createdAt : ℤ
  idleExpiresAt : ℤ
  absoluteExpiresAt : ℤ
  deriving DecidableEq, Repr

structure SessionProjection where
  workspaceId : String
  workspaceHandle : String
  sessionId : String
  workosSessionId : Option String
  idleExpiresAt : ℤ
  absoluteExpiresAt : ℤ
  deriving DecidableEq, Repr

/-! ## Checks -/

/-- `/%(?:2f|5c)/i`. -/
def encodedSlash : List Char → Bool
  | [] => false
  | c :: rest =>
    (c = '%' && match rest with
      | a :: b :: _ => (a = '2' && b.toLower = 'f') || (a = '5' && b.toLower = 'c')
      | _ => false) || encodedSlash rest

/-- `/^auth_[A-Za-z0-9_-]{1,96}$/`. -/
def validAuthTransactionId (value : String) : Bool :=
  let bytes := utf8 value
  bytes.take 5 = utf8 "auth_" && 6 ≤ bytes.length && bytes.length ≤ 101 &&
    (bytes.drop 5).all fun byte =>
      (Char.ofNat byte).isAlphanum || Char.ofNat byte = '_' || Char.ofNat byte = '-'

def validAuthState : String → Bool := base64UrlText 1 128

/-- A stored text of at most 128 code units. -/
def boundedHash (value : String) : Bool := utf16Length (utf8 value) ≤ 128

abbrev Sessions (α : Type) := StorageTransaction SessionStorage α

def assertAuthConsumed (record : AuthConsumed) (transactionId : String) : Sessions Unit :=
  require (record.transactionId = transactionId ∧ boundedHash record.stateHash ∧
      natural record.consumedAt)
    (failure "auth_record_invalid" "authorization transaction record is invalid")

def assertSessionRecord (record : SessionRecord) (cookieHash : String) : Sessions Unit :=
  require (record.cookieHash = cookieHash ∧ boundedId record.workspaceId ∧
      boundedId record.workspaceHandle ∧ boundedId record.sessionId ∧
      boundedHash record.csrfHash ∧ record.workosSessionId.all boundedId ∧
      isSafeInteger record.createdAt ∧ isSafeInteger record.lastSeenAt ∧
      isSafeInteger record.absoluteExpiresAt ∧ isSafeInteger record.epoch ∧ 1 ≤ record.epoch)
    (failure "session_record_invalid" "session record is invalid")

def assertSessionTombstone (record : SessionTombstone) (cookieHash : String) : Sessions Unit :=
  require (record.cookieHash = cookieHash ∧ boundedId record.workspaceId ∧
      boundedId record.sessionId ∧ natural record.destroyedAt ∧ isSafeInteger record.epoch ∧
      1 ≤ record.epoch)
    (failure "session_record_invalid" "session tombstone is invalid")

/-- A tombstone that is there is valid. -/
def assertTombstone (tombstone : Option SessionTombstone) (cookieHash : String) : Sessions Unit :=
  match tombstone with
  | none => .ok ()
  | some tombstone => assertSessionTombstone tombstone cookieHash

/-- No tombstone of the epoch of the record. -/
def checkOpen (tombstone : Option SessionTombstone) (record : SessionRecord)
    (cookieHash : String) : Sessions Unit := do
  assertTombstone tombstone cookieHash
  require (∀ closed ∈ tombstone, closed.epoch < record.epoch)
    (failure "session_destroyed" "session was destroyed")

/-- `ensureWorkspaceBindingTx` on the binding alone. -/
def ensureSessionBinding (binding : Option WorkspaceBinding) (workspaceId : String) (now : ℤ) :
    Sessions WorkspaceBinding :=
  match binding with
  | some current => do
    require (boundedId current.workspaceId ∧ natural current.boundAt)
      (failure "workspace_binding_invalid" "workspace binding is invalid")
    require (current.workspaceId = workspaceId)
      (failure "workspace_binding_conflict" "workspace binding does not match")
    return current
  | none => .ok ⟨workspaceId, now⟩

/-! ## Operations -/

section Operations

variable (sameOrigin : String → Bool) (sha256 sha256Hex : String → String)

/-- `sameOrigin` tells whether a path that is resolved against the base keeps its origin. -/
def normalizeReturnTo (value : String) : String :=
  let bytes := utf8 value
  let path := value.toList.takeWhile fun c => c ≠ '?' && c ≠ '#'
  if utf16Length bytes ≤ 2048 ∧ startsWith "/" value ∧ ¬ startsWith "//" value ∧
      '\\' ∉ value.toList ∧ ¬ hasControl bytes ∧ ¬ encodedSlash path ∧ sameOrigin value then value
  else "/studio"

def assertPendingAuth (record : AuthRecord) (transactionId : String) : Sessions Unit :=
  require (validAuthTransactionId record.transactionId ∧ record.transactionId = transactionId ∧
      validAuthState record.state ∧ base64UrlText 43 43 record.stateHash ∧
      base64UrlText 1 128 record.codeVerifier ∧ base64UrlText 1 128 record.codeChallenge ∧
      normalizeReturnTo sameOrigin record.returnTo = record.returnTo ∧
      natural record.expiresAt ∧ record.expiresAt ≤ 100000000000000)
    (failure "auth_record_invalid" "authorization transaction record is invalid")

/-- The three tokens of a sign-in. -/
structure AuthTokens where
  transaction : String
  state : String
  codeVerifier : String
  deriving DecidableEq, Repr

def AuthTokens.transactionId (tokens : AuthTokens) : String := "auth_" ++ tokens.transaction

def AuthTokens.record (tokens : AuthTokens) (returnTo : String) (now : ℤ) : AuthRecord where
  transactionId := tokens.transactionId
  state := tokens.state
  stateHash := sha256 tokens.state
  codeVerifier := tokens.codeVerifier
  codeChallenge := sha256 tokens.codeVerifier
  returnTo := normalizeReturnTo sameOrigin returnTo
  expiresAt := now + authMs

def beginAuth (returnTo : String) (tokens : AuthTokens) (now : ℤ) (storage : SessionStorage) :
    Sessions (AuthTransaction × SessionStorage) :=
  let record := tokens.record sameOrigin sha256 returnTo now
  .ok (record.toAuthTransaction,
    { storage with auth := Function.update storage.auth tokens.transactionId (some record) })

/-- The pending transaction is the one that the state belongs to, in time. -/
def AuthRecord.accepts (record : AuthRecord) (transactionId state : String) (now : ℤ) : Bool :=
  record.transactionId = transactionId && record.stateHash = sha256 state &&
    record.state = state && now < record.expiresAt

def authRefused (pending : Option AuthRecord) (now : ℤ) : WorkspaceCoordinatorError :=
  if pending.any fun record => record.expiresAt ≤ now then
    ⟨"auth_transaction_expired", "authorization transaction expired"⟩
  else ⟨"auth_state_invalid", "authorization transaction state does not match"⟩

def consumeAuth (transactionId state : String) (now : ℤ) (storage : SessionStorage) :
    Sessions (AuthTransaction × SessionStorage) := do
  require (validAuthTransactionId transactionId ∧ validAuthState state)
    (failure "auth_state_invalid" "authorization transaction state does not match")
  match storage.authConsumed transactionId with
  | some consumed => do
    assertAuthConsumed consumed transactionId
    .error (failure "auth_already_consumed" "authorization transaction was already consumed")
  | none => do
    let pending := storage.auth transactionId
    match pending with
    | none => .ok ()
    | some record => assertPendingAuth sameOrigin record transactionId
    -- a refused attempt uses the transaction up as well
    let used := { storage with
      authConsumed := Function.update storage.authConsumed transactionId
        (some ⟨transactionId, sha256 state, now⟩)
      auth := Function.update storage.auth transactionId none }
    match pending.filter fun record => record.accepts sha256 transactionId state now with
    | some record => return (record.toAuthTransaction, used)
    | none => .error ⟨authRefused pending now, some used⟩

structure SessionInput where
  identityId : String
  workosSessionId : Option String
  deriving DecidableEq, Repr

/-- The three tokens of a session. -/
structure SessionTokens where
  session : String
  cookie : String
  csrf : String
  deriving DecidableEq, Repr

/-- `workspaceHandleForIdentity`. -/
def workspaceHandle (identityId : String) : String :=
  String.ofList ((sha256Hex ("quillframe-personal-workspace:" ++ identityId)).toList.take 24)

def cookieToken (input : SessionInput) (tokens : SessionTokens) : String :=
  workspaceHandle sha256Hex input.identityId ++ "." ++ tokens.cookie

def sessionRecord (input : SessionInput) (tokens : SessionTokens) (now : ℤ) : SessionRecord where
  workspaceId := "workspace_" ++ workspaceHandle sha256Hex input.identityId
  workspaceHandle := workspaceHandle sha256Hex input.identityId
  sessionId := "session_" ++ tokens.session
  cookieHash := sha256 (cookieToken sha256Hex input tokens)
  csrfHash := sha256 tokens.csrf
  workosSessionId := input.workosSessionId
  createdAt := now
  lastSeenAt := now
  absoluteExpiresAt := now + absoluteMs
  epoch := 1

def createSession (input : SessionInput) (tokens : SessionTokens) (now : ℤ)
    (storage : SessionStorage) : Sessions (SessionCreation × SessionStorage) := do
  require (boundedId input.identityId) (failure "identity_required" "identity_id is required")
  require (input.workosSessionId.all boundedId)
    (failure "session_identity_invalid" "workos session identity is invalid")
  let record := sessionRecord sha256 sha256Hex input tokens now
  let binding ← ensureSessionBinding storage.binding record.workspaceId now
  let creation : SessionCreation :=
    { workspaceId := record.workspaceId, workspaceHandle := record.workspaceHandle
      sessionId := record.sessionId, cookieToken := cookieToken sha256Hex input tokens
      csrfToken := tokens.csrf, createdAt := now, idleExpiresAt := now + idleMs
      absoluteExpiresAt := record.absoluteExpiresAt }
  return (creation, { storage with
    binding := some binding
    session := Function.update storage.session record.cookieHash (some record) })

/-- The tombstone of a session. -/
def SessionRecord.tombstone (record : SessionRecord) (cookieHash : String) (reason : TombstoneReason)
    (now : ℤ) : SessionTombstone where
  cookieHash
  workspaceId := record.workspaceId
  sessionId := record.sessionId
  destroyedAt := now
  reason
  epoch := record.epoch

/-- Writes the tombstone of a session and deletes its record. -/
def SessionStorage.endSession (storage : SessionStorage) (record : SessionRecord)
    (cookieHash : String) (reason : TombstoneReason) (now : ℤ) : SessionStorage :=
  { storage with
    tombstone := Function.update storage.tombstone cookieHash
      (some (record.tombstone cookieHash reason now))
    session := Function.update storage.session cookieHash none }

def sessionExpired : WorkspaceCoordinatorError := ⟨"session_expired", "session expired"⟩

def validateSession (cookie : String) (csrf : Option String) (now : ℤ)
    (storage : SessionStorage) : Sessions (SessionProjection × SessionStorage) := do
  let cookieHash := sha256 cookie
  let record ← fetch ((storage.session cookieHash).filter fun record =>
    record.cookieHash = cookieHash) (failure "session_invalid" "session is invalid")
  assertSessionRecord record cookieHash
  checkOpen (storage.tombstone cookieHash) record cookieHash
  require (∀ token ∈ csrf, sha256 token = record.csrfHash)
    (failure "csrf_invalid" "CSRF token is invalid")
  require (now - record.lastSeenAt ≤ idleMs ∧ now < record.absoluteExpiresAt)
    ⟨sessionExpired, some (storage.endSession record cookieHash .expired now)⟩
  let projection : SessionProjection :=
    { workspaceId := record.workspaceId, workspaceHandle := record.workspaceHandle
      sessionId := record.sessionId, workosSessionId := record.workosSessionId
      idleExpiresAt := now + idleMs, absoluteExpiresAt := record.absoluteExpiresAt }
  return (projection, { storage with
    session := Function.update storage.session cookieHash
      (some { record with lastSeenAt := now }) })

def destroySession (cookie : String) (now : ℤ) (storage : SessionStorage) :
    Sessions (String × SessionStorage) := do
  let cookieHash := sha256 cookie
  assertTombstone (storage.tombstone cookieHash) cookieHash
  let record ← fetch (storage.session cookieHash) (failure "session_invalid" "session is invalid")
  require (storage.tombstone cookieHash = none) (failure "session_invalid" "session is invalid")
  assertSessionRecord record cookieHash
  return (record.sessionId, storage.endSession record cookieHash .logout now)

end Operations

end Quillframe.Cloud
