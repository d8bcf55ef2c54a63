import Quillframe.Cloud.Coordinator
import Quillframe.Cloud.Sessions

/-!
# The session vault

Leases of encrypted secrets. A lease is named by two indexes, one of all leases and one of those
of its session, and an alarm is set for the next lease that expires.
-/
namespace Quillframe.Cloud

structure SessionVaultError where
  code : String
  message : String
  deriving DecidableEq, Repr

def maxIndex : ℕ := 2048

def maxCiphertext : ℕ := 256 * 1024

/-! ## Records -/

inductive SecretPurpose where
  | workosAccess | workosRefresh | modelEndpoint
  deriving DecidableEq, Repr

def SecretPurpose.name : SecretPurpose → String
  | .workosAccess => "workos_access"
  | .workosRefresh => "workos_refresh"
  | .modelEndpoint => "model_endpoint"

/-- What `seal` returns and `open` reads. -/
structure Envelope where
  iv : String
  ciphertext : String
  deriving DecidableEq, Repr

structure LeaseRecord extends Envelope where
  leaseId : String
  workspaceId : String
  sessionId : String
  purpose : SecretPurpose
  createdAt : ℤ
  lastAccessedAt : ℤ
  absoluteExpiresAt : ℤ
  epoch : ℤ
  deriving DecidableEq, Repr

structure VaultTombstone where
  workspaceId : String
  sessionId : String
  destroyedAt : ℤ
  epoch : ℤ
  deriving DecidableEq, Repr

structure VaultSessionBinding where
  workspaceId : String
  sessionId : String
  boundAt : ℤ
  deriving DecidableEq, Repr

structure VaultIdentity where
  workspaceId : String
  sessionId : String
  deriving DecidableEq, Repr

structure SecretLeaseInput extends VaultIdentity where
  purpose : SecretPurpose
  secret : String
  deriving DecidableEq, Repr

structure SecretLeaseReceipt where
  leaseId : String
  workspaceId : String
  sessionId : String
  purpose : SecretPurpose
  idleExpiresAt : ℤ
  absoluteExpiresAt : ℤ
  deriving DecidableEq, Repr

/-- The keys `lease:`, `lease-index`, `session:`, `vault-session-binding:` and `vault-tombstone:`,
and the alarm. -/
structure VaultStorage where
  lease : String → Option LeaseRecord
  leaseIndex : Option (List String)
  sessionIndex : String → Option (List String)
  binding : String → Option VaultSessionBinding
  tombstone : String → Option VaultTombstone
  alarm : Option ℤ

def VaultStorage.empty : VaultStorage :=
  ⟨fun _ => none, none, fun _ => none, fun _ => none, fun _ => none, none⟩

abbrev Vault (α : Type) := Transaction SessionVaultError VaultStorage α

/-- An error that is thrown, or returned before the first write. -/
def vaultFailure (code message : String) : Failure SessionVaultError VaultStorage :=
  ⟨⟨code, message⟩, none⟩

/-! ## Checks -/

/-- `[...new Set(values)]`. -/
def distinct : List String → List String
  | [] => []
  | value :: rest => value :: (distinct rest).filter (· ≠ value)

def readIds (value : Option (List String)) : Vault (List String) :=
  match value with
  | none => .ok []
  | some ids => do
    require (ids.length ≤ maxIndex ∧ ∀ id ∈ ids, boundedId id)
      (vaultFailure "vault_record_invalid" "secret lease index is invalid")
    return distinct ids

def LeaseRecord.valid (record : LeaseRecord) (leaseId : String) : Bool :=
  record.leaseId = leaseId && boundedId record.workspaceId && boundedId record.sessionId &&
    utf16Length (utf8 record.iv) ≤ 256 && utf16Length (utf8 record.ciphertext) ≤ maxCiphertext &&
    isSafeInteger record.createdAt && isSafeInteger record.lastAccessedAt &&
    isSafeInteger record.absoluteExpiresAt && isSafeInteger record.epoch && 0 ≤ record.epoch

def assertLease (record : LeaseRecord) (leaseId : String) : Vault Unit :=
  require (record.valid leaseId)
    (vaultFailure "vault_record_invalid" "secret lease record is invalid")

def assertVaultTombstone (tombstone : VaultTombstone) (sessionId : String) : Vault Unit :=
  require (tombstone.sessionId = sessionId ∧ boundedId tombstone.workspaceId ∧
      isSafeInteger tombstone.destroyedAt ∧ isSafeInteger tombstone.epoch ∧ 1 ≤ tombstone.epoch)
    (vaultFailure "vault_record_invalid" "secret session tombstone is invalid")

def VaultSessionBinding.valid (binding : VaultSessionBinding) (workspaceId sessionId : String) :
    Bool :=
  binding.workspaceId = workspaceId && binding.sessionId = sessionId &&
    boundedId binding.workspaceId && boundedId binding.sessionId && natural binding.boundAt

def assertVaultBinding (binding : VaultSessionBinding) (workspaceId sessionId : String) :
    Vault Unit :=
  require (binding.valid workspaceId sessionId)
    (vaultFailure "vault_binding_invalid" "secret session workspace binding is invalid")

def requireVaultBinding (binding : Option VaultSessionBinding) (workspaceId sessionId : String) :
    Vault Unit := do
  let binding ← fetch binding
    (vaultFailure "vault_binding_missing" "secret session workspace binding is missing")
  assertVaultBinding binding workspaceId sessionId

/-- `ensureVaultBindingTx`. -/
def ensureVaultBinding (workspaceId sessionId : String) (now : ℤ) (storage : VaultStorage) :
    Vault VaultStorage :=
  match storage.binding sessionId with
  | some current => do
    assertVaultBinding current workspaceId sessionId
    return storage
  | none => .ok { storage with
    binding := Function.update storage.binding sessionId (some ⟨workspaceId, sessionId, now⟩) }

def assertIdentity (identity : VaultIdentity) : Vault Unit :=
  require (boundedId identity.workspaceId ∧ boundedId identity.sessionId)
    (vaultFailure "invalid_secret_lease" "workspace and session identity are required")

/-! ## Removing and rescheduling -/

/-- A list that is put, or deleted when it is empty. -/
def putIds (ids : List String) : Option (List String) := if ids = [] then none else some ids

/-- `removeLeaseTx`. -/
def removeLease (record : LeaseRecord) (storage : VaultStorage) : Vault VaultStorage := do
  let storage := { storage with lease := Function.update storage.lease record.leaseId none }
  let sessionIds ← readIds (storage.sessionIndex record.sessionId)
  let storage := { storage with
    sessionIndex := Function.update storage.sessionIndex record.sessionId
      (putIds (sessionIds.filter (· ≠ record.leaseId))) }
  let leaseIds ← readIds storage.leaseIndex
  return { storage with leaseIndex := putIds (leaseIds.filter (· ≠ record.leaseId)) }

def LeaseRecord.expires (record : LeaseRecord) : ℤ :=
  min (record.lastAccessedAt + idleMs) record.absoluteExpiresAt

/-- The tombstone of the session of a lease. -/
def checkLeaseTombstone (record : LeaseRecord) (storage : VaultStorage) : Vault Bool :=
  match storage.tombstone record.sessionId with
  | none => .ok false
  | some tombstone => do
    assertVaultTombstone tombstone record.sessionId
    require (tombstone.workspaceId = record.workspaceId)
      (vaultFailure "vault_record_invalid" "secret session tombstone identity is invalid")
    return true

/-- A lease is removed when its session was destroyed or it has expired. -/
def expireLease (now : ℤ) (record : LeaseRecord) (leaseId : String) (storage : VaultStorage) :
    Vault (Bool × VaultStorage) := do
  assertLease record leaseId
  requireVaultBinding (storage.binding record.sessionId) record.workspaceId record.sessionId
  let destroyed ← checkLeaseTombstone record storage
  if destroyed ∨ record.expires ≤ now then
    let storage ← removeLease record storage
    return (true, storage)
  else return (false, storage)

/-- One turn of the loop over the index, with the next expiry so far. -/
def scheduleEntry (now : ℤ) (state : VaultStorage × Option ℤ) (leaseId : String) :
    Vault (VaultStorage × Option ℤ) :=
  match state.1.lease leaseId with
  | none => .ok state
  | some record => do
    let (removed, storage) ← expireLease now record leaseId state.1
    let next := if removed then state.2
      else some (state.2.elim record.expires (min · record.expires))
    return (storage, next)

/-- `scheduleNextAlarmTx`. -/
def scheduleNextAlarm (now : ℤ) (storage : VaultStorage) : Vault VaultStorage := do
  let leaseIds ← readIds storage.leaseIndex
  let (storage, next) ← forEach (scheduleEntry now) leaseIds (storage, none)
  return { storage with alarm := next }

/-! ## Operations -/

section Operations

variable (sealSecret : String → String → String → Envelope)

/-- The associated data of a lease. -/
def leaseAad (workspaceId sessionId leaseId : String) (purpose : SecretPurpose) : String :=
  workspaceId ++ "\n" ++ sessionId ++ "\n" ++ leaseId ++ "\n" ++ purpose.name

/-- The random values of a lease. -/
structure LeaseTokens where
  lease : String
  iv : String
  deriving DecidableEq, Repr

def LeaseTokens.leaseId (tokens : LeaseTokens) : String := "lease_" ++ tokens.lease

/-- `seal` (here `sealSecret`) takes the random vector, the secret and the associated data. -/
def leaseRecord (input : SecretLeaseInput) (tokens : LeaseTokens) (now : ℤ) : LeaseRecord where
  toEnvelope := sealSecret tokens.iv input.secret
    (leaseAad input.workspaceId input.sessionId tokens.leaseId input.purpose)
  leaseId := tokens.leaseId
  workspaceId := input.workspaceId
  sessionId := input.sessionId
  purpose := input.purpose
  createdAt := now
  lastAccessedAt := now
  absoluteExpiresAt := now + absoluteMs
  epoch := 0

def LeaseRecord.receipt (record : LeaseRecord) : SecretLeaseReceipt where
  leaseId := record.leaseId
  workspaceId := record.workspaceId
  sessionId := record.sessionId
  purpose := record.purpose
  idleExpiresAt := record.lastAccessedAt + idleMs
  absoluteExpiresAt := record.absoluteExpiresAt

def sessionDestroyed : Failure SessionVaultError VaultStorage :=
  vaultFailure "secret_session_destroyed" "secret session was destroyed"

/-- Adds an id that is not there. -/
def addId (ids : List String) (id : String) : List String := if id ∈ ids then ids else ids ++ [id]

/-- Stores a lease in both indexes. -/
def storeLease (record : LeaseRecord) (storage : VaultStorage) : Vault VaultStorage := do
  let sessionIds ← readIds (storage.sessionIndex record.sessionId)
  let leaseIds ← readIds storage.leaseIndex
  return { storage with
    lease := Function.update storage.lease record.leaseId (some record)
    sessionIndex := Function.update storage.sessionIndex record.sessionId
      (some (addId sessionIds record.leaseId))
    leaseIndex := some (addId leaseIds record.leaseId) }

def leaseSecret (input : SecretLeaseInput) (tokens : LeaseTokens) (now : ℤ)
    (storage : VaultStorage) : Vault (SecretLeaseReceipt × VaultStorage) := do
  assertIdentity input.toVaultIdentity
  require (input.secret ≠ "" ∧ utf16Length (utf8 input.secret) ≤ 128 * 1024)
    (vaultFailure "invalid_secret_lease" "workspace, session, and secret are required")
  let record := leaseRecord sealSecret input tokens now
  match storage.tombstone input.sessionId with
  | some tombstone => do
    requireVaultBinding (storage.binding input.sessionId) input.workspaceId input.sessionId
    assertVaultTombstone tombstone input.sessionId
    require (tombstone.workspaceId = input.workspaceId)
      (vaultFailure "secret_lease_forbidden" "secret session identity does not match")
    .error sessionDestroyed
  | none => do
    let storage ← ensureVaultBinding input.workspaceId input.sessionId now storage
    let storage ← storeLease record storage
    let storage ← scheduleNextAlarm now storage
    return (record.receipt, storage)

def leaseForbidden : Failure SessionVaultError VaultStorage :=
  vaultFailure "secret_lease_forbidden" "secret lease identity does not match"

def leaseNotFound : Failure SessionVaultError VaultStorage :=
  vaultFailure "secret_lease_not_found" "secret lease does not exist"

/-- The first transaction of `readSecret`: it finds the lease. -/
def probeSecret (leaseId : String) (identity : VaultIdentity) (now : ℤ)
    (storage : VaultStorage) : Vault (LeaseRecord × VaultStorage) := do
  require (boundedId leaseId) leaseNotFound
  assertIdentity identity
  requireVaultBinding (storage.binding identity.sessionId) identity.workspaceId identity.sessionId
  match storage.tombstone identity.sessionId with
  | some tombstone => do
    assertVaultTombstone tombstone identity.sessionId
    require (tombstone.workspaceId = identity.workspaceId) leaseForbidden
    .error sessionDestroyed
  | none => do
    let record ← fetch (storage.lease leaseId) leaseNotFound
    assertLease record leaseId
    require (record.workspaceId = identity.workspaceId ∧ record.sessionId = identity.sessionId)
      leaseForbidden
    if idleMs < now - record.lastAccessedAt ∨ record.absoluteExpiresAt ≤ now then do
      let storage ← removeLease record storage
      let storage ← scheduleNextAlarm now storage
      .error ⟨⟨"secret_lease_expired", "secret lease expired"⟩, some storage⟩
    else return (record, storage)

/-- The second transaction of `readSecret`: the lease is still the one that was found. -/
def commitSecret (leaseId : String) (identity : VaultIdentity) (probe : LeaseRecord) (now : ℤ)
    (storage : VaultStorage) : Vault (Unit × VaultStorage) := do
  requireVaultBinding (storage.binding identity.sessionId) identity.workspaceId identity.sessionId
  match storage.tombstone identity.sessionId with
  | some tombstone => do
    assertVaultTombstone tombstone identity.sessionId
    .error sessionDestroyed
  | none => do
    let current ← fetch (storage.lease leaseId) leaseNotFound
    assertLease current leaseId
    require (current.workspaceId = identity.workspaceId ∧
        current.sessionId = identity.sessionId ∧ current.epoch = probe.epoch ∧
        current.lastAccessedAt = probe.lastAccessedAt ∧ current.ciphertext = probe.ciphertext)
      (vaultFailure "secret_lease_conflict" "secret lease changed during read")
    let storage := { storage with
      lease := Function.update storage.lease leaseId (some { current with lastAccessedAt := now }) }
    let storage ← scheduleNextAlarm now storage
    return ((), storage)

/-- The leases of a session among the ids of both indexes. -/
def ownedLeases (identity : VaultIdentity) (sessionIds candidateIds : List String)
    (storage : VaultStorage) : Vault (List LeaseRecord) :=
  forEach (fun owned leaseId =>
    match storage.lease leaseId with
    | none => .ok owned
    | some record => do
      assertLease record leaseId
      if record.workspaceId = identity.workspaceId ∧ record.sessionId = identity.sessionId then
        return owned ++ [record]
      else do
        -- the binding that was just written is kept
        require (leaseId ∉ sessionIds)
          ⟨⟨"vault_record_invalid", "secret lease session binding is invalid"⟩, some storage⟩
        return owned) candidateIds []

def destroyVaultSession (identity : VaultIdentity) (now : ℤ) (storage : VaultStorage) :
    Vault (ℕ × VaultStorage) := do
  assertIdentity identity
  match storage.tombstone identity.sessionId with
  | some previous => do
    requireVaultBinding (storage.binding identity.sessionId) identity.workspaceId
      identity.sessionId
    assertVaultTombstone previous identity.sessionId
    require (previous.workspaceId = identity.workspaceId)
      (vaultFailure "secret_lease_forbidden" "secret session identity does not match")
    return (0, storage)
  | none => do
    let storage ← ensureVaultBinding identity.workspaceId identity.sessionId now storage
    let sessionIds ← readIds (storage.sessionIndex identity.sessionId)
    let globalIds ← readIds storage.leaseIndex
    let owned ← ownedLeases identity sessionIds (distinct (sessionIds ++ globalIds)) storage
    let storage ← forEach (fun storage record => removeLease record storage) owned storage
    let storage := { storage with
      tombstone := Function.update storage.tombstone identity.sessionId
        (some ⟨identity.workspaceId, identity.sessionId, now, 1⟩)
      sessionIndex := Function.update storage.sessionIndex identity.sessionId none }
    let storage ← scheduleNextAlarm now storage
    return (owned.length, storage)

/-- One turn of the loop of the alarm. -/
def alarmEntry (now : ℤ) (storage : VaultStorage) (leaseId : String) : Vault VaultStorage :=
  match storage.lease leaseId with
  | none => .ok storage
  | some record => Prod.snd <$> expireLease now record leaseId storage

def alarm (now : ℤ) (storage : VaultStorage) : Vault (Unit × VaultStorage) := do
  let leaseIds ← readIds storage.leaseIndex
  let storage ← forEach (alarmEntry now) leaseIds storage
  let storage ← scheduleNextAlarm now storage
  return ((), storage)

end Operations

end Quillframe.Cloud
