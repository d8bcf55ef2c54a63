import Quillframe.Cloud.VaultOperations

/-!
# Runs of the vault

Leases, both transactions of each read, destroyed sessions and alarms in any order and at any
clock readings. A read keeps what its first transaction found until its second one.
-/
namespace Quillframe.Cloud

open Transaction

/-- A read between its two transactions, with the clock reading it took. -/
structure PendingRead where
  leaseId : String
  identity : VaultIdentity
  probe : LeaseRecord
  now : ℤ
  deriving DecidableEq, Repr

structure VaultState where
  storage : VaultStorage
  reads : List PendingRead

inductive VaultEvent where
  | lease (input : SecretLeaseInput) (tokens : LeaseTokens) (now : ℤ)
  | probe (leaseId : String) (identity : VaultIdentity) (now : ℤ)
  | finish (index : ℕ)
  | destroy (identity : VaultIdentity) (now : ℤ)
  | alarm (now : ℤ)
  deriving DecidableEq, Repr

inductive VaultAnswer where
  | leased (receipt : SecretLeaseReceipt)
  | found
  | secret (text : String)
  | destroyed (count : ℕ)
  | done
  deriving DecidableEq, Repr

section Events

variable (sealSecret : String → String → String → Envelope)
  (openSecret : Envelope → String → Option String)

/-- The rest of `readSecret`: it opens the lease and confirms it. -/
def PendingRead.finish (read : PendingRead) (storage : VaultStorage) :
    Except SessionVaultError VaultAnswer × VaultStorage :=
  let aad := leaseAad read.probe.workspaceId read.probe.sessionId read.probe.leaseId
    read.probe.purpose
  match openSecret read.probe.toEnvelope aad with
  | none => (.error ⟨"secret_lease_integrity_failed", "secret lease integrity failed"⟩, storage)
  | some text => Prod.map (Except.map fun _ => .secret text) id
    (run storage (commitSecret read.leaseId read.identity read.probe read.now storage))

/-- The answer of an event and the state after it. -/
def VaultEvent.outcome (event : VaultEvent) (state : VaultState) :
    Except SessionVaultError VaultAnswer × VaultState :=
  match event with
  | .lease input tokens now =>
    let (answer, storage) :=
      run state.storage (leaseSecret sealSecret input tokens now state.storage)
    (answer.map .leased, { state with storage })
  | .probe leaseId identity now =>
    match run state.storage (probeSecret leaseId identity now state.storage) with
    | (.ok record, storage) =>
      (.ok .found, ⟨storage, state.reads ++ [⟨leaseId, identity, record, now⟩]⟩)
    | (.error error, storage) => (.error error, { state with storage })
  | .finish index =>
    match state.reads[index]? with
    | none => (.ok .done, state)
    | some read =>
      let (answer, storage) := read.finish openSecret state.storage
      (answer, ⟨storage, state.reads.eraseIdx index⟩)
  | .destroy identity now =>
    let (answer, storage) := run state.storage (destroyVaultSession identity now state.storage)
    (answer.map .destroyed, { state with storage })
  | .alarm now =>
    let (answer, storage) := run state.storage (Cloud.alarm now state.storage)
    (answer.map fun _ => .done, { state with storage })

def runVault (events : List VaultEvent) : VaultState :=
  events.foldl (fun state event => (event.outcome sealSecret openSecret state).2) ⟨.empty, []⟩

theorem runVault_append (events later : List VaultEvent) :
    runVault sealSecret openSecret (events ++ later) = later.foldl
      (fun state event => (event.outcome sealSecret openSecret state).2)
      (runVault sealSecret openSecret events) := List.foldl_append

end Events

/-- The id of the lease that an event makes. -/
def VaultEvent.leaseId? : VaultEvent → Option String
  | .lease _ tokens _ => some tokens.leaseId
  | _ => none

def leaseIds (events : List VaultEvent) : List String := events.filterMap VaultEvent.leaseId?

variable {sealSecret : String → String → String → Envelope}
  {openSecret : Envelope → String → Option String} {storage storage' base : VaultStorage}
  {now : ℤ}

/-! ## What an event does -/

/-- The indexes stay exact, the new leases are known and a tombstone stays. -/
structure VaultEffect (made : Option String) (storage storage' : VaultStorage) : Prop where
  exact : storage'.Exact
  lease : ∀ id, storage'.lease id ≠ none → storage.lease id ≠ none ∨ made = some id
  tombstone : ∀ sessionId, storage.tombstone sessionId ≠ none → storage'.tombstone sessionId ≠ none

theorem VaultEffect.refl (h : storage.Exact) : VaultEffect none storage storage :=
  ⟨h, fun _ hid => .inl hid, fun _ hdead => hdead⟩

theorem VaultStorage.PrunedTo.effect (h : VaultStorage.PrunedTo now base storage')
    {made : Option String}
    (hlease : ∀ id, base.lease id ≠ none → storage.lease id ≠ none ∨ made = some id)
    (htombstone : ∀ sessionId, storage.tombstone sessionId ≠ none →
      base.tombstone sessionId ≠ none) : VaultEffect made storage storage' := by
  refine ⟨h.exact, fun id hid => hlease id fun hnone => hid ?_, fun sessionId hdead => ?_⟩
  · rw [h.lease, hnone]
    rfl
  · rw [h.tombstone]
    exact htombstone sessionId hdead

theorem finish_effect (h : storage.Exact) (read : PendingRead) :
    VaultEffect none storage (read.finish openSecret storage).2 := by
  rw [PendingRead.finish]
  split
  · exact VaultEffect.refl h
  · rcases commitSecret_run h read.now read.leaseId read.identity read.probe with
      ⟨error, hrun, -⟩ | ⟨current, storage', hconfirms, hrun, hpruned⟩
    · rw [hrun]
      exact VaultEffect.refl h
    · rw [hrun]
      refine hpruned.effect (fun id hid => .inl ?_) fun _ hdead => hdead
      rw [VaultStorage.lease_touch] at hid
      split_ifs at hid with he
      · rw [he, hconfirms.stored]
        exact Option.some_ne_none current
      · exact hid

theorem event_effect (sealSecret : String → String → String → Envelope)
    (openSecret : Envelope → String → Option String) (event : VaultEvent) {state : VaultState} (h : state.storage.Exact)
    (hfresh : ∀ id, event.leaseId? = some id → state.storage.lease id = none) :
    VaultEffect event.leaseId? state.storage
      (event.outcome sealSecret openSecret state).2.storage := by
  cases event with
  | lease input tokens now =>
    rcases @leaseSecret_run _ sealSecret h now input tokens (hfresh _ rfl)
      with ⟨error, hrun, -⟩ | ⟨haccepts, storage', hrun, hpruned⟩
    · simp only [VaultEvent.outcome, hrun]
      exact ⟨h, fun _ hid => .inl hid, fun _ hdead => hdead⟩
    · simp only [VaultEvent.outcome, hrun]
      obtain ⟨hlease, -, -, htombstone, -⟩ :=
        @VaultStorage.bind_frame state.storage now ⟨input.workspaceId, input.sessionId⟩
      refine hpruned.effect (fun id hid => ?_) fun sessionId hdead => ?_
      · rw [VaultStorage.leased, VaultStorage.lease_withLease] at hid
        split_ifs at hid with he
        · exact .inr (congrArg some he.symm)
        · exact .inl fun hnone => hid ((congrFun hlease id).trans hnone)
      · exact fun hnone => hdead ((congrFun htombstone sessionId).symm.trans hnone)
  | probe leaseId identity now =>
    rcases probeSecret_run h now leaseId identity with
      ⟨error, hrun, -⟩ | ⟨record, hoffers, hcases⟩
    · simp only [VaultEvent.outcome, hrun]
      exact VaultEffect.refl h
    · split_ifs at hcases
      · obtain ⟨error, storage', hrun, hpruned⟩ := hcases
        simp only [VaultEvent.outcome, hrun]
        exact hpruned.effect (fun _ hid => .inl hid) fun _ hdead => hdead
      · simp only [VaultEvent.outcome, hcases]
        exact VaultEffect.refl h
  | finish index =>
    simp only [VaultEvent.outcome]
    split
    · exact VaultEffect.refl h
    · exact finish_effect h _
  | destroy identity now =>
    simp only [VaultEvent.outcome]
    rcases destroyVaultSession_run h now identity with
      ⟨-, hrun, -⟩ | ⟨halive, -, -, count, storage', hrun, hpruned⟩
    · rw [hrun]
      exact VaultEffect.refl h
    · rw [hrun]
      refine hpruned.effect (fun id hid => .inl fun hnone => hid ?_) fun sessionId hdead => ?_
      · simp [VaultStorage.destroyed, hnone]
      · have hne : sessionId ≠ identity.sessionId := fun he => hdead (he ▸ halive)
        simpa only [VaultStorage.destroyed, Function.update_of_ne hne] using hdead
  | alarm now =>
    obtain ⟨storage', hrun, hpruned⟩ := alarm_run h now
    simp only [VaultEvent.outcome, hrun]
    exact hpruned.effect (fun _ hid => .inl hid) fun _ hdead => hdead

/-- A destroyed session keeps its tombstone. -/
theorem destroy_tombstone (h : storage.Exact) (identity : VaultIdentity)
    (hok : (run storage (destroyVaultSession identity now storage)).1.isOk) :
    (run storage (destroyVaultSession identity now storage)).2.tombstone identity.sessionId ≠
      none := by
  rcases destroyVaultSession_run h now identity with
    ⟨-, hrun, hrefused⟩ | ⟨-, -, -, count, storage', hrun, hpruned⟩
  · rw [hrun]
    exact fun hnone => hrefused hnone hok
  · rw [hrun]
    show storage'.tombstone identity.sessionId ≠ none
    rw [hpruned.tombstone]
    simp [VaultStorage.destroyed]

/-- No read of a destroyed session returns a secret. -/
theorem finish_destroyed (h : storage.Exact) (read : PendingRead)
    (hdead : storage.tombstone read.identity.sessionId ≠ none) :
    ¬ (read.finish openSecret storage).1.isOk := by
  rw [PendingRead.finish]
  split
  · exact fun he => by cases he
  · rcases commitSecret_run h read.now read.leaseId read.identity read.probe with
      ⟨error, hrun, -⟩ | ⟨current, storage', hconfirms, -⟩
    · rw [hrun]
      exact fun he => by cases he
    · exact absurd hconfirms.alive hdead

theorem probe_destroyed (h : storage.Exact) (now : ℤ) (leaseId : String) (identity : VaultIdentity)
    (hdead : storage.tombstone identity.sessionId ≠ none) :
    ¬ (run storage (probeSecret leaseId identity now storage)).1.isOk := by
  rcases probeSecret_run h now leaseId identity with
    ⟨error, hrun, -⟩ | ⟨record, hoffers, -⟩
  · rw [hrun]
    exact fun he => by cases he
  · exact absurd hoffers.alive hdead

/-! ## Runs -/

theorem leaseIds_append (events : List VaultEvent) (event : VaultEvent) :
    leaseIds (events ++ [event]) = leaseIds events ++ event.leaseId?.toList := by
  rw [leaseIds, List.filterMap_append, leaseIds]
  cases h : event.leaseId? <;> simp [h]

/-- After every run the indexes are exact, and every stored lease was made in it. -/
theorem runVault_exact (sealSecret : String → String → String → Envelope)
    (openSecret : Envelope → String → Option String) (events : List VaultEvent) (hfresh : (leaseIds events).Nodup) :
    (runVault sealSecret openSecret events).storage.Exact ∧
      ∀ id, (runVault sealSecret openSecret events).storage.lease id ≠ none →
        id ∈ leaseIds events := by
  induction events using List.reverseRecOn with
  | nil => exact ⟨VaultStorage.exact_empty, fun _ hid => absurd rfl hid⟩
  | append_singleton events event ih =>
    rw [leaseIds_append] at hfresh ⊢
    obtain ⟨hbefore, -, hdisjoint⟩ := List.nodup_append.mp hfresh
    obtain ⟨hexact, hknown⟩ := ih hbefore
    have heffect := event_effect sealSecret openSecret event hexact
      fun id hid => by
        by_contra hstored
        exact hdisjoint id (hknown id hstored) id (by simp [hid]) rfl
    rw [runVault_append]
    refine ⟨heffect.exact, fun id hid => ?_⟩
    rcases heffect.lease id hid with hstored | hmade
    · exact List.mem_append_left _ (hknown id hstored)
    · exact List.mem_append_right _ (by simp [hmade])

/-- A tombstone stays for the rest of a run. -/
theorem runVault_tombstone {events later : List VaultEvent}
    (hfresh : (leaseIds (events ++ later)).Nodup) {sessionId : String}
    (hdead : (runVault sealSecret openSecret events).storage.tombstone sessionId ≠ none) :
    (runVault sealSecret openSecret (events ++ later)).storage.tombstone sessionId ≠ none := by
  induction later using List.reverseRecOn with
  | nil => rwa [List.append_nil]
  | append_singleton later event ih =>
    rw [← List.append_assoc, leaseIds_append] at hfresh
    obtain ⟨hbefore, -, hdisjoint⟩ := List.nodup_append.mp hfresh
    obtain ⟨hexact, hknown⟩ := runVault_exact sealSecret openSecret _ hbefore
    have heffect := event_effect sealSecret openSecret event hexact
      fun id hid => by
        by_contra hstored
        exact hdisjoint id (hknown id hstored) id (by simp [hid]) rfl
    rw [← List.append_assoc, runVault_append]
    exact heffect.tombstone sessionId (ih hbefore)

theorem isOk_map {ε α β : Type} {f : α → β} (answer : Except ε α) :
    (answer.map f).isOk = answer.isOk := by
  cases answer <;> rfl

/-- In every run the indexes name exactly the stored leases, no destroyed session has one, the
alarm is set for the least expiry, and no read of a destroyed session returns its secret. -/
theorem vault_indexed (events : List VaultEvent) (hfresh : (leaseIds events).Nodup) :
    let state := runVault sealSecret openSecret events
    (∀ id, id ∈ state.storage.ids ↔ ∃ record, state.storage.lease id = some record) ∧
    state.storage.ids.Nodup ∧
    (∀ sessionId id, id ∈ state.storage.sessionIds sessionId ↔
      ∃ record, state.storage.lease id = some record ∧ record.sessionId = sessionId) ∧
    (∀ sessionId, (state.storage.sessionIds sessionId).Nodup) ∧
    (∀ id record, state.storage.lease id = some record →
      state.storage.tombstone record.sessionId = none) ∧
    state.storage.ids.length ≤ maxIndex ∧
    state.storage.AlarmSet ∧
    ∀ before identity now later, events = before ++ .destroy identity now :: later →
      ((VaultEvent.destroy identity now).outcome sealSecret openSecret
        (runVault sealSecret openSecret before)).1.isOk →
      (∀ read ∈ state.reads, read.identity.sessionId = identity.sessionId →
        ¬ (read.finish openSecret state.storage).1.isOk) ∧
      ∀ leaseId other now', other.sessionId = identity.sessionId →
        ¬ ((VaultEvent.probe leaseId other now').outcome sealSecret openSecret state).1.isOk := by
  intro state
  obtain ⟨hexact, -⟩ := runVault_exact sealSecret openSecret events hfresh
  refine ⟨hexact.mirrors.indexed, hexact.mirrors.nodup, hexact.mirrors.session,
    hexact.mirrors.sessionNodup, hexact.mirrors.alive, hexact.schedulable.readable.length,
    hexact.alarm, ?_⟩
  rintro before identity now later rfl hdestroyed
  have hdead : state.storage.tombstone identity.sessionId ≠ none := by
    have hsplit : before ++ .destroy identity now :: later =
        (before ++ [.destroy identity now]) ++ later := by simp
    have hbefore : (leaseIds before).Nodup := by
      rw [leaseIds, List.filterMap_append] at hfresh
      exact (List.nodup_append.mp hfresh).1
    rw [hsplit] at hfresh
    show (runVault sealSecret openSecret _).storage.tombstone identity.sessionId ≠ none
    rw [hsplit]
    refine runVault_tombstone hfresh ?_
    rw [runVault_append]
    refine destroy_tombstone (runVault_exact sealSecret openSecret before hbefore).1 identity ?_
    exact (isOk_map _).symm.trans hdestroyed
  refine ⟨fun read _ hsession => finish_destroyed hexact read (hsession ▸ hdead), ?_⟩
  intro leaseId other now' hsession hfound
  have hrefused := probe_destroyed hexact now' leaseId other (hsession ▸ hdead)
  simp only [VaultEvent.outcome] at hfound
  split at hfound
  · rename_i hrun
    rw [hrun] at hrefused
    exact hrefused rfl
  · cases hfound

namespace Sample

def vaultSeal (iv secret aad : String) : Envelope := ⟨iv, secret ++ "|" ++ aad⟩

/-- The text before the associated data, when the ciphertext ends in it. -/
def vaultOpen (envelope : Envelope) (aad : String) : Option String :=
  let text := String.ofList (envelope.ciphertext.toList.takeWhile (· ≠ '|'))
  if envelope.ciphertext = text ++ "|" ++ aad then some text else none

def vaultIdentity : VaultIdentity := ⟨"workspace_a1", "session_b2"⟩

def vaultLease : VaultEvent :=
  .lease ⟨vaultIdentity, .modelEndpoint, "key"⟩ ⟨"bGVhc2U", "aXY"⟩ 1000

/-- A read is begun before its session is destroyed. -/
def vaultEvents : List VaultEvent :=
  [vaultLease, .probe "lease_bGVhc2U" vaultIdentity 2000, .destroy vaultIdentity 3000, .alarm 4000]

end Sample

theorem vault_indexed_sample :
    let state := runVault Sample.vaultSeal Sample.vaultOpen Sample.vaultEvents
    (∀ id, id ∈ state.storage.ids ↔ ∃ record, state.storage.lease id = some record) ∧
      state.reads.map (·.identity) = [Sample.vaultIdentity] ∧
      ∀ read ∈ state.reads, ¬ (read.finish Sample.vaultOpen state.storage).1.isOk := by
  obtain ⟨hindexed, -, -, -, -, -, -, hdestroyed⟩ :=
    @vault_indexed Sample.vaultSeal Sample.vaultOpen Sample.vaultEvents (by decide)
  have hreads : (runVault Sample.vaultSeal Sample.vaultOpen Sample.vaultEvents).reads.map
      (·.identity) = [Sample.vaultIdentity] := by decide +kernel
  refine ⟨hindexed, hreads, fun read hread => ?_⟩
  have hidentity : read.identity ∈ [Sample.vaultIdentity] := hreads ▸ List.mem_map_of_mem hread
  refine (hdestroyed [Sample.vaultLease, .probe "lease_bGVhc2U" Sample.vaultIdentity 2000]
    Sample.vaultIdentity 3000 [.alarm 4000] rfl (by decide +kernel)).1 read hread ?_
  rw [List.mem_singleton.mp hidentity]

end Quillframe.Cloud
