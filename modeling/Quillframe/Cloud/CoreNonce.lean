import Quillframe.Cloud.Formats
import Quillframe.OrderedMap
import Quillframe.StringOrder

/-!
# Core proof nonces

The coordinator records the nonce of every core proof it passes on, and forgets it when the proof
has expired.
-/
namespace Quillframe.Cloud

def coreNonceReplaySkewMs : ℤ := 5 * 1000

/-- The skew of `verifyCoreProof`. -/
def coreProofSkewMs : ℤ := 5000

def coreNonceIndexMax : ℕ := 256

structure CoreNonceInput where
  sessionId : String
  projectId : Option String
  nonce : String
  proofDigest : String
  issuedAt : ℤ
  expiresAt : ℤ
  deriving DecidableEq, Repr

structure CoreNonceRecord where
  sessionId : String
  projectId : Option String
  nonceHash : String
  proofDigest : String
  issuedAt : ℤ
  expiresAt : ℤ
  replayExpiresAt : ℤ
  consumedAt : ℤ
  deriving DecidableEq, Repr

structure CoreNonceIndexEntry where
  nonceHash : String
  sessionId : String
  projectId : Option String
  issuedAt : ℤ
  expiresAt : ℤ
  replayExpiresAt : ℤ
  consumedAt : ℤ
  deriving DecidableEq, Repr

/-- The keys `core-nonce-index` and `core-nonce:`. -/
structure CoreNonceStorage where
  index : Option (List CoreNonceIndexEntry)
  records : OrderedMap String CoreNonceRecord
  deriving DecidableEq

def CoreNonceStorage.empty : CoreNonceStorage := ⟨none, .empty⟩

/-! ## The transaction -/

def CoreNonceIndexEntry.valid (entry : CoreNonceIndexEntry) : Bool :=
  hexDigest entry.nonceHash && boundedId entry.sessionId && entry.projectId.all boundedId &&
    isSafeInteger entry.issuedAt && isSafeInteger entry.expiresAt &&
    isSafeInteger entry.replayExpiresAt && isSafeInteger entry.consumedAt &&
    entry.issuedAt < entry.expiresAt &&
    entry.replayExpiresAt = entry.expiresAt + coreNonceReplaySkewMs && 0 ≤ entry.consumedAt

/-- The record of an index entry. -/
def CoreNonceIndexEntry.names (entry : CoreNonceIndexEntry) (record : CoreNonceRecord) : Bool :=
  record.sessionId = entry.sessionId && record.projectId = entry.projectId &&
    record.nonceHash = entry.nonceHash && versionFingerprint record.proofDigest &&
    record.issuedAt = entry.issuedAt && record.expiresAt = entry.expiresAt &&
    record.replayExpiresAt = entry.replayExpiresAt && record.consumedAt = entry.consumedAt

def CoreNonceRecord.valid (record : CoreNonceRecord) (nonceHash : String) : Bool :=
  record.nonceHash = nonceHash && versionFingerprint record.proofDigest &&
    isSafeInteger record.issuedAt && isSafeInteger record.expiresAt &&
    isSafeInteger record.replayExpiresAt && isSafeInteger record.consumedAt &&
    record.replayExpiresAt = record.expiresAt + coreNonceReplaySkewMs

/-- The loop over the index: the records left, the hashes seen and the entries that are live. -/
structure NonceScan where
  records : OrderedMap String CoreNonceRecord
  seen : List String
  live : List CoreNonceIndexEntry

/-- A failure that keeps the records removed so far. -/
def nonceFailure (storage : CoreNonceStorage) (records : OrderedMap String CoreNonceRecord)
    (code message : String) : Failure WorkspaceCoordinatorError CoreNonceStorage :=
  ⟨⟨code, message⟩, some { storage with records }⟩

def scanEntry (storage : CoreNonceStorage) (now : ℤ) (scan : NonceScan)
    (entry : CoreNonceIndexEntry) : StorageTransaction CoreNonceStorage NonceScan := do
  require (entry.valid ∧ entry.nonceHash ∉ scan.seen)
    (nonceFailure storage scan.records "core_nonce_record_invalid"
      "core proof nonce index is invalid")
  let seen := entry.nonceHash :: scan.seen
  if entry.replayExpiresAt ≤ now then
    return { scan with records := scan.records.erase entry.nonceHash, seen }
  else
    let invalid := nonceFailure storage scan.records "core_nonce_record_invalid"
      "core proof nonce record is invalid"
    let record ← fetch (scan.records.get? entry.nonceHash) invalid
    require (entry.names record) invalid
    return { scan with seen, live := scan.live ++ [entry] }

def loadNonceIndex (storage : CoreNonceStorage) :
    StorageTransaction CoreNonceStorage (List CoreNonceIndexEntry) :=
  match storage.index with
  | some entries => .ok entries
  | none => do
    require (storage.records.entries.length = 0)
      (failure "core_nonce_record_invalid" "core proof nonce index is missing")
    return []

/-- The failure when the nonce was consumed and is remembered. -/
def replayFailure (storage : CoreNonceStorage) (records : OrderedMap String CoreNonceRecord)
    (input : CoreNonceInput) (previous : CoreNonceRecord) :
    Failure WorkspaceCoordinatorError CoreNonceStorage :=
  if previous.sessionId = input.sessionId ∧ previous.projectId = input.projectId ∧
      previous.proofDigest = input.proofDigest then
    nonceFailure storage records "core_nonce_replayed" "core proof nonce was already consumed"
  else
    nonceFailure storage records "core_nonce_digest_conflict" "core proof nonce digest conflicts"

def checkPrevious (storage : CoreNonceStorage) (records : OrderedMap String CoreNonceRecord)
    (nonceHash : String) (input : CoreNonceInput) (now : ℤ) :
    StorageTransaction CoreNonceStorage Unit :=
  match records.get? nonceHash with
  | none => .ok ()
  | some previous => do
    require (previous.valid nonceHash)
      (nonceFailure storage records "core_nonce_record_invalid"
        "core proof nonce record is invalid")
    require (previous.replayExpiresAt ≤ now) (replayFailure storage records input previous)

def consumeCoreNonceTx (nonceHash : String) (input : CoreNonceInput) (now : ℤ)
    (storage : CoreNonceStorage) : StorageTransaction CoreNonceStorage (Unit × CoreNonceStorage) := do
  let index ← loadNonceIndex storage
  let scan ← forEach (scanEntry storage now) index ⟨storage.records, [], []⟩
  require (¬ (coreNonceIndexMax ≤ scan.live.length ∧
      ¬ scan.live.any fun entry => entry.nonceHash = nonceHash))
    (nonceFailure storage scan.records "core_nonce_capacity"
      "core proof nonce capacity is exhausted")
  checkPrevious storage scan.records nonceHash input now
  let replayExpiresAt := input.expiresAt + coreNonceReplaySkewMs
  let record : CoreNonceRecord :=
    { sessionId := input.sessionId, projectId := input.projectId, nonceHash
      proofDigest := input.proofDigest, issuedAt := input.issuedAt, expiresAt := input.expiresAt
      replayExpiresAt, consumedAt := now }
  let nextEntry : CoreNonceIndexEntry :=
    { nonceHash, sessionId := input.sessionId, projectId := input.projectId
      issuedAt := input.issuedAt, expiresAt := input.expiresAt, replayExpiresAt
      consumedAt := now }
  return ((),
    { index := some (scan.live.filter (fun entry => entry.nonceHash ≠ nonceHash) ++ [nextEntry])
      records := scan.records.insert nonceHash record })

/-- The checks before the transaction: the formats, the lifetime and the clock. -/
def checkCoreNonce (input : CoreNonceInput) (now : ℤ) :
    StorageTransaction CoreNonceStorage Unit := do
  require (boundedId input.sessionId ∧ base64UrlText 1 128 input.nonce ∧
      versionFingerprint input.proofDigest)
    (failure "core_nonce_invalid" "core proof nonce is invalid")
  let timing := failure "core_nonce_invalid" "core proof nonce timing is invalid"
  require (input.projectId.all boundedId ∧ isSafeInteger input.issuedAt ∧
      isSafeInteger input.expiresAt ∧ input.issuedAt < input.expiresAt ∧
      input.expiresAt - input.issuedAt ≤ 30000) timing
  let replayExpiresAt := input.expiresAt + coreNonceReplaySkewMs
  require (isSafeInteger replayExpiresAt ∧ input.issuedAt - coreNonceReplaySkewMs ≤ now ∧
      now ≤ replayExpiresAt) timing

def consumeCoreNonce (sha256Hex : String → String) (input : CoreNonceInput) (now : ℤ)
    (storage : CoreNonceStorage) : Except WorkspaceCoordinatorError Unit × CoreNonceStorage :=
  Transaction.run storage do
    checkCoreNonce input now
    consumeCoreNonceTx (sha256Hex input.nonce) input now storage

/-! ## What is remembered -/

/-- An index entry and the record of its nonce expire together. -/
def CoreNonceStorage.Consistent (storage : CoreNonceStorage) : Prop :=
  ∀ entries, storage.index = some entries → ∀ entry ∈ entries, ∀ record,
    storage.records.get? entry.nonceHash = some record →
      record.replayExpiresAt = entry.replayExpiresAt

/-- The records that have not expired. -/
def keepsLive (now : ℤ) (before after : OrderedMap String CoreNonceRecord) : Prop :=
  ∀ nonceHash record, before.get? nonceHash = some record → now < record.replayExpiresAt →
    after.get? nonceHash = some record

def within (part whole : OrderedMap String CoreNonceRecord) : Prop :=
  ∀ nonceHash record, part.get? nonceHash = some record → whole.get? nonceHash = some record

/-- What holds of the storage after a call, whether it succeeds or fails. -/
structure CoreNonceStorage.Follows (storage : CoreNonceStorage) (now : ℤ)
    (storage' : CoreNonceStorage) : Prop where
  consistent : storage'.Consistent
  live : keepsLive now storage.records storage'.records

structure NonceScan.Sound (storage : CoreNonceStorage) (entries : List CoreNonceIndexEntry)
    (now : ℤ) (scan : NonceScan) : Prop where
  live : keepsLive now storage.records scan.records
  within : within scan.records storage.records
  indexed : scan.live ⊆ entries

section Consume

variable {storage : CoreNonceStorage} {entries : List CoreNonceIndexEntry} {now : ℤ}

theorem loadNonceIndex_eq_ok (h : loadNonceIndex storage = .ok entries) :
    storage.index = some entries ∨ entries = [] := by
  rw [loadNonceIndex] at h
  cases hindex : storage.index with
  | some stored =>
    rw [hindex] at h
    exact .inl (congrArg some (Except.ok.inj h))
  | none =>
    simp only [hindex, bind_eq_ok, pure_eq_ok] at h
    obtain ⟨-, -, rfl⟩ := h
    exact .inr rfl

theorem NonceScan.Sound.follows (hstorage : storage.Consistent) {scan : NonceScan}
    (h : scan.Sound storage entries now) :
    storage.Follows now { storage with records := scan.records } := by
  refine ⟨fun stored hstored entry hentry record hrecord => ?_, h.live⟩
  exact hstorage stored hstored entry hentry record (h.within _ _ hrecord)

theorem scanEntry_sound (hstorage : storage.Consistent)
    (hentries : storage.index = some entries ∨ entries = []) {entry : CoreNonceIndexEntry}
    (hentry : entry ∈ entries) {scan : NonceScan} (h : scan.Sound storage entries now) :
    Transaction.Post (storage.Follows now) (NonceScan.Sound storage entries now)
      (scanEntry storage now scan entry) := by
  have hkept : ∀ code message kept,
      (nonceFailure storage scan.records code message).kept = some kept →
        storage.Follows now kept := by
    rintro code message kept hkept
    cases hkept
    exact h.follows hstorage
  have hindex : storage.index = some entries := by
    rcases hentries with hindex | rfl
    · exact hindex
    · cases hentry
  refine Transaction.Post.bind (Transaction.Post.require (hkept _ _)) fun _ _ => ?_
  split_ifs with hexpired
  · refine Transaction.Post.pure ⟨fun nonceHash record hrecord hlive => ?_,
      fun nonceHash record hrecord => ?_, h.indexed⟩
    · -- A live record belongs to no expired entry.
      have hne : nonceHash ≠ entry.nonceHash := by
        rintro rfl
        have hexpires := hstorage entries hindex entry hentry record hrecord
        omega
      rw [OrderedMap.get?_erase_of_ne _ hne]
      exact h.live nonceHash record hrecord hlive
    · have hne : nonceHash ≠ entry.nonceHash := by
        rintro rfl
        simp at hrecord
      rw [OrderedMap.get?_erase_of_ne _ hne] at hrecord
      exact h.within nonceHash record hrecord
  · refine Transaction.Post.bind (Transaction.Post.fetch (hkept _ _)) fun record _ => ?_
    refine Transaction.Post.bind (Transaction.Post.require (hkept _ _)) fun _ _ => ?_
    refine Transaction.Post.pure ⟨h.live, h.within, ?_⟩
    exact List.append_subset.mpr ⟨h.indexed, by simpa using hentry⟩

/-- A nonce whose record is live is refused. -/
theorem checkPrevious_post (hstorage : storage.Consistent) {scan : NonceScan}
    (h : scan.Sound storage entries now) (nonceHash : String) (input : CoreNonceInput) :
    Transaction.Post (storage.Follows now)
      (fun _ => ∀ record, scan.records.get? nonceHash = some record →
        record.replayExpiresAt ≤ now)
      (checkPrevious storage scan.records nonceHash input now) := by
  rw [checkPrevious]
  cases hprevious : scan.records.get? nonceHash with
  | none => exact Transaction.Post.ok fun record hrecord => nomatch hrecord
  | some previous =>
    refine Transaction.Post.bind (Transaction.Post.require fun kept hkept => ?_) fun _ _ => ?_
    · cases hkept
      exact h.follows hstorage
    · refine (Transaction.Post.require fun kept hkept => ?_).mono fun _ hexpired record hrecord => ?_
      · rw [replayFailure] at hkept
        split_ifs at hkept <;>
        · cases hkept
          exact h.follows hstorage
      · exact Option.some.inj hrecord ▸ hexpired

/-- A nonce is consumed when no live record of it is there, and is then recorded. -/
theorem consumeCoreNonceTx_post (hstorage : storage.Consistent) (nonceHash : String)
    (input : CoreNonceInput) :
    Transaction.Post (storage.Follows now)
      (fun result => storage.Follows now result.2 ∧
        (∀ record, storage.records.get? nonceHash = some record → record.replayExpiresAt ≤ now) ∧
        ∃ record, result.2.records.get? nonceHash = some record ∧
          record.replayExpiresAt = input.expiresAt + coreNonceReplaySkewMs)
      (consumeCoreNonceTx nonceHash input now storage) := by
  have hload : Transaction.Post (storage.Follows now)
      (fun entries => storage.index = some entries ∨ entries = []) (loadNonceIndex storage) := by
    refine ⟨fun entries => loadNonceIndex_eq_ok, fun error kept hkept => ?_⟩
    rw [loadNonceIndex] at hkept
    split at hkept
    · cases hkept
    · rw [require] at hkept
      split_ifs at hkept <;> cases hkept
  refine Transaction.Post.bind hload fun entries hentries => ?_
  have hscan : NonceScan.Sound storage entries now ⟨storage.records, [], []⟩ :=
    ⟨fun _ _ hrecord _ => hrecord, fun _ _ hrecord => hrecord, List.nil_subset _⟩
  refine Transaction.Post.bind (Transaction.Post.forEach
    (fun entry hentry scan h => scanEntry_sound hstorage hentries hentry h) hscan)
    fun scan hscan => ?_
  refine Transaction.Post.bind (Transaction.Post.require fun kept hkept => ?_) fun _ _ => ?_
  · cases hkept
    exact hscan.follows hstorage
  refine Transaction.Post.bind (checkPrevious_post hstorage hscan nonceHash input)
    fun _ hprevious => ?_
  refine Transaction.Post.pure ⟨⟨?_, ?_⟩, ?_, ?_⟩
  · rintro stored hstored entry hentry record hrecord
    rw [← Option.some.inj hstored] at hentry
    simp only [List.mem_append, List.mem_filter, decide_eq_true_eq, List.mem_singleton] at hentry
    rcases hentry with ⟨hlive, hne⟩ | rfl
    · rw [OrderedMap.get?_insert_of_ne _ hne] at hrecord
      rcases hentries with hindex | rfl
      · exact hstorage entries hindex entry (hscan.indexed hlive) record
          (hscan.within _ _ hrecord)
      · exact absurd (hscan.indexed hlive) List.not_mem_nil
    · rw [OrderedMap.get?_insert_self, Option.some.injEq] at hrecord
      rw [← hrecord]
  · rintro other record hrecord hlive
    have hkept := hscan.live other record hrecord hlive
    have hne : other ≠ nonceHash := by
      rintro rfl
      have hexpired := hprevious record hkept
      omega
    rw [OrderedMap.get?_insert_of_ne _ hne]
    exact hkept
  · rintro record hrecord
    by_contra hlive
    exact hlive (hprevious record (hscan.live nonceHash record hrecord (by omega)))
  · exact ⟨_, OrderedMap.get?_insert_self _ _ _, rfl⟩

theorem consumeCoreNonce_follows (sha256Hex : String → String) (input : CoreNonceInput) (now : ℤ)
    (hstorage : storage.Consistent) :
    storage.Follows now (consumeCoreNonce sha256Hex input now storage).2 := by
  refine Transaction.Post.run (Transaction.Post.bind (R := fun _ => True) ⟨fun _ _ => trivial, ?_⟩
    fun _ _ => (consumeCoreNonceTx_post hstorage (sha256Hex input.nonce) input).mono
      fun _ h => h.1) ⟨hstorage, fun _ _ hrecord _ => hrecord⟩
  rintro error kept hkept
  simp only [checkCoreNonce, require] at hkept
  split_ifs at hkept <;> cases hkept

/-- A call that succeeds found no live record of its nonce and leaves one. -/
theorem consumeCoreNonce_eq_ok {sha256Hex : String → String} {input : CoreNonceInput}
    (hstorage : storage.Consistent)
    (h : (consumeCoreNonce sha256Hex input now storage).1 = .ok ()) :
    (∀ record, storage.records.get? (sha256Hex input.nonce) = some record →
      record.replayExpiresAt ≤ now) ∧
    ∃ record, (consumeCoreNonce sha256Hex input now storage).2.records.get?
        (sha256Hex input.nonce) = some record ∧
      record.replayExpiresAt = input.expiresAt + coreNonceReplaySkewMs := by
  have hbody := Transaction.run_eq_ok h
  obtain ⟨-, -, hbody⟩ := bind_eq_ok.mp hbody
  exact ((consumeCoreNonceTx_post hstorage _ input).returned _ hbody).2

end Consume

/-! ## Runs -/

/-- A call and the clock reading at which it runs. -/
structure NonceCall where
  now : ℤ
  input : CoreNonceInput

section Runs

variable (sha256Hex : String → String)

/-- The storage after the calls. -/
def storageAfter (calls : List NonceCall) : CoreNonceStorage :=
  calls.foldl (fun storage call => (consumeCoreNonce sha256Hex call.input call.now storage).2) .empty

/-- The call succeeds after the calls before it. -/
def consumes (before : List NonceCall) (call : NonceCall) : Prop :=
  (consumeCoreNonce sha256Hex call.input call.now (storageAfter sha256Hex before)).1 = .ok ()

instance (before : List NonceCall) (call : NonceCall) :
    Decidable (consumes sha256Hex before call) :=
  inferInstanceAs (Decidable (_ = _))

/-- The time window of `verifyCoreProof`. -/
def proofWindow (issuedAt expiresAt now : ℤ) : Bool :=
  isSafeInteger now && 0 ≤ now && now ≤ 100000000000000 && issuedAt - coreProofSkewMs ≤ now &&
    now ≤ expiresAt + coreProofSkewMs

/-- The proof that a nonce belongs to. -/
def CoreNonceInput.sameProof (input other : CoreNonceInput) : Prop :=
  input.nonce = other.nonce ∧ input.issuedAt = other.issuedAt ∧ input.expiresAt = other.expiresAt

/-- The consumption of a nonce is remembered at a clock reading. -/
def CoreNonceStorage.Remembers (storage : CoreNonceStorage) (input : CoreNonceInput) (now : ℤ) :
    Prop :=
  ∃ record, storage.records.get? (sha256Hex input.nonce) = some record ∧
    record.replayExpiresAt = input.expiresAt + coreNonceReplaySkewMs ∧ now < record.replayExpiresAt

theorem storageAfter_concat (calls : List NonceCall) (call : NonceCall) :
    storageAfter sha256Hex (calls ++ [call]) =
      (consumeCoreNonce sha256Hex call.input call.now (storageAfter sha256Hex calls)).2 := by
  simp [storageAfter]

theorem storageAfter_consistent (calls : List NonceCall) :
    (storageAfter sha256Hex calls).Consistent := by
  induction calls using List.reverseRecOn with
  | nil => exact fun _ hindex => nomatch hindex
  | append_singleton calls call ih =>
    rw [storageAfter_concat]
    exact (consumeCoreNonce_follows sha256Hex call.input call.now ih).consistent

variable {sha256Hex}

/-- A consumption is remembered until its proof expires. -/
theorem remembers_of_consumes {before between : List NonceCall} {first : NonceCall} {now : ℤ}
    (hconsumes : consumes sha256Hex before first) (hclock : ∀ call ∈ between, call.now ≤ now)
    (hnow : now < first.input.expiresAt + coreNonceReplaySkewMs) :
    (storageAfter sha256Hex (before ++ first :: between)).Remembers sha256Hex first.input now := by
  induction between using List.reverseRecOn with
  | nil =>
    obtain ⟨-, record, hrecord, hexpires⟩ :=
      consumeCoreNonce_eq_ok (storageAfter_consistent sha256Hex before) hconsumes
    rw [storageAfter_concat]
    exact ⟨record, hrecord, hexpires, by omega⟩
  | append_singleton between call ih =>
    obtain ⟨record, hrecord, hexpires, hlive⟩ :=
      ih fun other hother => hclock other (List.mem_append_left _ hother)
    have hcall : call.now ≤ now := hclock call (by simp)
    have hfollows := consumeCoreNonce_follows sha256Hex call.input call.now
      (storageAfter_consistent sha256Hex (before ++ first :: between))
    refine ⟨record, ?_, hexpires, hlive⟩
    rw [← List.cons_append, ← List.append_assoc, storageAfter_concat]
    exact hfollows.live _ record hrecord (by omega)

theorem not_consumes_of_remembers {before : List NonceCall} {call : NonceCall}
    (h : (storageAfter sha256Hex before).Remembers sha256Hex call.input call.now) :
    ¬ consumes sha256Hex before call := by
  intro hconsumes
  obtain ⟨record, hrecord, -, hlive⟩ := h
  have hexpired := (consumeCoreNonce_eq_ok (storageAfter_consistent sha256Hex before)
    hconsumes).1 record hrecord
  omega

theorem le_of_consumes {before : List NonceCall} {call : NonceCall}
    (h : consumes sha256Hex before call) :
    call.now ≤ call.input.expiresAt + coreNonceReplaySkewMs := by
  have hbody := Transaction.run_eq_ok h
  simp only [bind_eq_ok, checkCoreNonce, require_eq_ok, exists_const] at hbody
  obtain ⟨⟨-, -, -, -, hnow⟩, -⟩ := hbody
  exact hnow

/-- No proof is consumed twice, and its nonce is remembered while the proof is admitted, in every
run where no call comes at the very instant at which its proof expires. -/
theorem coreNonce_consumed_once (calls : List NonceCall)
    (hclock : calls.Pairwise fun earlier later => earlier.now ≤ later.now)
    (hdeadline : ∀ call ∈ calls, call.now ≠ call.input.expiresAt + coreNonceReplaySkewMs) :
    (∀ before first between second after,
      calls = before ++ first :: between ++ second :: after →
      consumes sha256Hex before first → first.input.sameProof second.input →
      ¬ consumes sha256Hex (before ++ first :: between) second) ∧
    (∀ before first between second after,
      calls = before ++ first :: between ++ second :: after →
      consumes sha256Hex before first → first.input.sameProof second.input →
      proofWindow second.input.issuedAt second.input.expiresAt second.now →
      (storageAfter sha256Hex (before ++ first :: between)).Remembers sha256Hex second.input
        second.now) := by
  have hmemory : ∀ before first between second after,
      calls = before ++ first :: between ++ second :: after →
      consumes sha256Hex before first → first.input.sameProof second.input →
      second.now ≤ second.input.expiresAt + coreNonceReplaySkewMs →
      (storageAfter sha256Hex (before ++ first :: between)).Remembers sha256Hex second.input
        second.now := by
    rintro before first between second after rfl hfirst ⟨hnonce, -, hexpires⟩ hnow
    have hsecond := hdeadline second (by simp)
    have hbetween : ∀ call ∈ between, call.now ≤ second.now := by
      intro call hcall
      exact (List.pairwise_append.mp hclock).2.2 call (by simp [hcall]) second (by simp)
    obtain ⟨record, hrecord, hrecordExpires, hlive⟩ :=
      remembers_of_consumes hfirst hbetween (by omega)
    exact ⟨record, hnonce ▸ hrecord, hexpires ▸ hrecordExpires, hlive⟩
  refine ⟨?_, ?_⟩
  · intro before first between second after hcalls hfirst hsame hsecond
    have hremembers :=
      hmemory before first between second after hcalls hfirst hsame (le_of_consumes hsecond)
    exact not_consumes_of_remembers hremembers hsecond
  · intro before first between second after hcalls hfirst hsame hwindow
    simp only [proofWindow, Bool.and_eq_true, decide_eq_true_eq] at hwindow
    exact hmemory before first between second after hcalls hfirst hsame hwindow.2

end Runs

namespace Sample

/-- The SHA-256 of `nonce_skew`. -/
def nonceHash (_ : String) : String :=
  "743ffff584b0f47b858558a311f67520e567c96c89d79d33913069fdffb5fcd3"

def nonceInput : CoreNonceInput where
  sessionId := "session_a"
  projectId := none
  nonce := "nonce_skew"
  proofDigest := "sha256:aaaaaaaaaaaaaaaaaaaaaaaaaaaaaaaaaaaaaaaaaaaaaaaaaaaaaaaaaaaaaaaa"
  issuedAt := 1800000000000
  expiresAt := 1800000001000

def firstCall : NonceCall := ⟨1800000000000, nonceInput⟩

end Sample

open Sample in
theorem coreNonce_consumed_once_sample :
    consumes nonceHash [] firstCall ∧
    ¬ consumes nonceHash [firstCall] ⟨1800000005999, nonceInput⟩ := by
  have hfirst : consumes nonceHash [] firstCall := by decide +kernel
  refine ⟨hfirst, ?_⟩
  exact (coreNonce_consumed_once [firstCall, ⟨1800000005999, nonceInput⟩]
    (by simp [firstCall]) (by simp [firstCall, nonceInput, coreNonceReplaySkewMs])).1 [] firstCall []
    ⟨1800000005999, nonceInput⟩ [] rfl hfirst ⟨rfl, rfl, rfl⟩

open Sample in
/-- The same proof again, at the instant at which it expires. -/
theorem coreNonce_consumed_twice :
    firstCall.now ≤ 1800000006000 ∧
    proofWindow nonceInput.issuedAt nonceInput.expiresAt 1800000006000 ∧
    consumes nonceHash [] firstCall ∧
    consumes nonceHash [firstCall] ⟨1800000006000, nonceInput⟩ ∧
    ¬ (storageAfter nonceHash [firstCall]).Remembers nonceHash nonceInput 1800000006000 := by
  refine ⟨by decide, by decide, by decide +kernel, by decide +kernel, ?_⟩
  rintro ⟨record, -, hexpires, hlive⟩
  rw [hexpires] at hlive
  exact absurd hlive (by decide)

end Quillframe.Cloud
