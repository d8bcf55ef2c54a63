import Quillframe.Cloud.VaultIndex

/-!
# The operations of the vault

When each operation succeeds, and the storage that it leaves. In a storage whose indexes are exact
an operation that fails changes nothing, apart from a read that finds its lease expired.
-/
namespace Quillframe.Cloud

open Transaction

/-- What holds after every transaction. -/
structure VaultStorage.Exact (storage : VaultStorage) : Prop where
  mirrors : storage.Mirrors
  schedulable : storage.Schedulable
  alarm : storage.AlarmSet

variable {storage storage' base : VaultStorage} {now : ℤ}

theorem VaultStorage.PrunedTo.exact (h : VaultStorage.PrunedTo now base storage) : storage.Exact :=
  ⟨h.mirrors, h.schedulable, h.alarm⟩

theorem VaultStorage.exact_empty : VaultStorage.empty.Exact := by
  have hids : VaultStorage.empty.ids = [] := rfl
  have hlease : ∀ id, VaultStorage.empty.lease id = none := fun _ => rfl
  refine ⟨⟨?_, List.nodup_nil, ?_, fun _ => List.nodup_nil, ?_, ?_⟩, ⟨⟨?_, ?_⟩, ?_⟩, ?_⟩
  · simp [hids, hlease]
  · simp [VaultStorage.sessionIds, VaultStorage.empty]
  · simp [hlease]
  · simp [hlease]
  · simp [hids]
  · simp [hids]
  · simp [hlease]
  · show VaultStorage.empty.expiries = ∅
    simp [VaultStorage.expiries, hlease]

/-! ## Bindings -/

/-- The session has no binding, or a valid one to the workspace. -/
def VaultStorage.BindingOk (storage : VaultStorage) (identity : VaultIdentity) : Prop :=
  ∀ binding, storage.binding identity.sessionId = some binding →
    binding.valid identity.workspaceId identity.sessionId

/-- The storage with the session bound. -/
def VaultStorage.bind (storage : VaultStorage) (identity : VaultIdentity) (now : ℤ) :
    VaultStorage :=
  match storage.binding identity.sessionId with
  | some _ => storage
  | none => { storage with
    binding := Function.update storage.binding identity.sessionId
      (some ⟨identity.workspaceId, identity.sessionId, now⟩) }

theorem ensureVaultBinding_eq_ok {identity : VaultIdentity} :
    ensureVaultBinding identity.workspaceId identity.sessionId now storage = .ok storage' ↔
      storage.BindingOk identity ∧ storage.bind identity now = storage' := by
  rw [ensureVaultBinding, VaultStorage.BindingOk, VaultStorage.bind]
  cases storage.binding identity.sessionId with
  | none => simp
  | some binding =>
    simp only [assertVaultBinding, bind_eq_ok, require_eq_ok, exists_const, pure_eq_ok,
      Option.some.injEq, forall_eq']

theorem rolls_ensureVaultBinding (workspaceId sessionId : String) :
    Rolls (ensureVaultBinding workspaceId sessionId now storage) := by
  rw [ensureVaultBinding]
  split <;> simp [assertVaultBinding, vaultFailure]

/-- Binding a session changes nothing else. -/
theorem VaultStorage.bind_frame (identity : VaultIdentity) :
    (storage.bind identity now).lease = storage.lease ∧
      (storage.bind identity now).leaseIndex = storage.leaseIndex ∧
      (storage.bind identity now).sessionIndex = storage.sessionIndex ∧
      (storage.bind identity now).tombstone = storage.tombstone ∧
      (storage.bind identity now).alarm = storage.alarm := by
  rw [VaultStorage.bind]
  split <;> exact ⟨rfl, rfl, rfl, rfl, rfl⟩

theorem VaultStorage.binding_bind (identity : VaultIdentity) {sessionId : String}
    {binding : VaultSessionBinding} (h : storage.binding sessionId = some binding) :
    (storage.bind identity now).binding sessionId = some binding := by
  rw [VaultStorage.bind]
  cases hbinding : storage.binding identity.sessionId with
  | some _ => exact h
  | none =>
    have hne : sessionId ≠ identity.sessionId := by
      rintro rfl
      rw [h] at hbinding
      cases hbinding
    simpa [hne] using h

theorem VaultStorage.Schedulable.bind (h : storage.Schedulable) (identity : VaultIdentity) :
    (storage.bind identity now).Schedulable := by
  obtain ⟨hlease, hindex, -⟩ := @VaultStorage.bind_frame storage now identity
  refine ⟨h.readable.congr hindex, fun id record hrecord => ?_⟩
  rw [hlease] at hrecord
  obtain ⟨hvalid, binding, hbinding, hbound⟩ := h.checked id record hrecord
  exact ⟨hvalid, binding, VaultStorage.binding_bind identity hbinding, hbound⟩

theorem VaultStorage.Mirrors.bind (h : storage.Mirrors) (now : ℤ) (identity : VaultIdentity) :
    (storage.bind identity now).Mirrors := by
  obtain ⟨hlease, hindex, hsession, htombstone, -⟩ := @VaultStorage.bind_frame storage now identity
  exact h.congr hlease hindex hsession htombstone

/-! ## Storing a lease -/

/-- The storage with a new lease. -/
def VaultStorage.withLease (storage : VaultStorage) (record : LeaseRecord) : VaultStorage :=
  { storage with
    lease := Function.update storage.lease record.leaseId (some record)
    sessionIndex := Function.update storage.sessionIndex record.sessionId
      (some (storage.sessionIds record.sessionId ++ [record.leaseId]))
    leaseIndex := some (storage.ids ++ [record.leaseId]) }

theorem VaultStorage.lease_withLease (record : LeaseRecord) (id : String) :
    (storage.withLease record).lease id =
      if id = record.leaseId then some record else storage.lease id := by
  simp only [VaultStorage.withLease, Function.update_apply]

theorem VaultStorage.sessionIds_withLease (record : LeaseRecord) (sessionId : String) :
    (storage.withLease record).sessionIds sessionId = if sessionId = record.sessionId
      then storage.sessionIds sessionId ++ [record.leaseId] else storage.sessionIds sessionId := by
  split_ifs with h
  · subst h
    simp [VaultStorage.sessionIds, VaultStorage.withLease]
  · simp [VaultStorage.sessionIds, VaultStorage.withLease, h]

/-- A lease that is not stored is in no index. -/
theorem VaultStorage.Mirrors.fresh (h : storage.Mirrors) {id : String}
    (hfresh : storage.lease id = none) :
    id ∉ storage.ids ∧ ∀ sessionId, id ∉ storage.sessionIds sessionId := by
  refine ⟨fun hid => ?_, fun sessionId hid => ?_⟩
  · obtain ⟨record, hrecord⟩ := (h.indexed id).mp hid
    rw [hfresh] at hrecord
    cases hrecord
  · obtain ⟨record, hrecord, -⟩ := (h.session sessionId id).mp hid
    rw [hfresh] at hrecord
    cases hrecord

theorem VaultStorage.Mirrors.withLease (h : storage.Mirrors) {record : LeaseRecord}
    (hfresh : storage.lease record.leaseId = none)
    (halive : storage.tombstone record.sessionId = none) : (storage.withLease record).Mirrors := by
  obtain ⟨hids, hsessions⟩ := h.fresh hfresh
  have hindex : (storage.withLease record).ids = storage.ids ++ [record.leaseId] := rfl
  refine ⟨fun id => ?_, ?_, fun sessionId id => ?_, fun sessionId => ?_, fun id other hother => ?_,
    fun id other hother => ?_⟩
  · rw [hindex, List.mem_append, List.mem_singleton, h.indexed, VaultStorage.lease_withLease]
    by_cases hid : id = record.leaseId <;> simp [hid]
  · rw [hindex]
    exact h.nodup.append (List.nodup_singleton _) (List.disjoint_singleton.mpr hids)
  · rw [VaultStorage.lease_withLease, VaultStorage.sessionIds_withLease]
    by_cases hid : id = record.leaseId
    · subst hid
      by_cases hsession : sessionId = record.sessionId
      · simp [hsession]
      · have hother : record.sessionId ≠ sessionId := Ne.symm hsession
        simp [hsession, hsessions, hother]
    · by_cases hsession : sessionId = record.sessionId
      · simp [hsession, h.session, hid]
      · simp [hsession, h.session, hid]
  · rw [VaultStorage.sessionIds_withLease]
    split_ifs
    · exact (h.sessionNodup sessionId).append (List.nodup_singleton _)
        (List.disjoint_singleton.mpr (hsessions sessionId))
    · exact h.sessionNodup sessionId
  · rw [VaultStorage.lease_withLease] at hother
    split_ifs at hother with hid
    · exact Option.some.inj hother ▸ hid.symm
    · exact h.named id other hother
  · rw [VaultStorage.lease_withLease] at hother
    split_ifs at hother with hid
    · exact Option.some.inj hother ▸ halive
    · exact h.alive id other hother

theorem storeLease_eq (h : storage.Mirrors) (hread : storage.Readable) (record : LeaseRecord)
    (hfresh : storage.lease record.leaseId = none) :
    storeLease record storage = .ok (storage.withLease record) := by
  obtain ⟨hids, hsessions⟩ := h.fresh hfresh
  have hsession := h.readSessionIds hread record.sessionId
  simp only [storeLease, hsession, h.readIds hread]
  show Except.ok _ = _
  simp [addId, hids, hsessions record.sessionId, VaultStorage.withLease]

/-! ## Leasing -/

variable {sealSecret : String → String → String → Envelope}

/-- The storage that a lease is scheduled in. -/
def VaultStorage.leased (storage : VaultStorage) (record : LeaseRecord) (now : ℤ) : VaultStorage :=
  (storage.bind ⟨record.workspaceId, record.sessionId⟩ now).withLease record

/-- What the vault asks of a new lease. -/
structure VaultStorage.Accepts (storage : VaultStorage) (input : SecretLeaseInput)
    (record : LeaseRecord) (now : ℤ) : Prop where
  bounded : boundedId input.workspaceId ∧ boundedId input.sessionId
  secret : input.secret ≠ "" ∧ utf16Length (utf8 input.secret) ≤ 128 * 1024
  alive : storage.tombstone input.sessionId = none
  bound : storage.BindingOk input.toVaultIdentity
  schedulable : (storage.leased record now).Schedulable

theorem VaultStorage.Mirrors.leased (h : storage.Mirrors) (now : ℤ) (record : LeaseRecord)
    (hfresh : storage.lease record.leaseId = none)
    (halive : storage.tombstone record.sessionId = none) : (storage.leased record now).Mirrors := by
  obtain ⟨hlease, -, -, htombstone, -⟩ := @VaultStorage.bind_frame storage now
    ⟨record.workspaceId, record.sessionId⟩
  exact (h.bind now _).withLease (by rw [hlease, hfresh]) (by rw [htombstone, halive])

/-- A lease is stored and scheduled, or refused. -/
theorem leaseSecret_run (h : storage.Exact) (now : ℤ) (input : SecretLeaseInput)
    (tokens : LeaseTokens) (hfresh : storage.lease tokens.leaseId = none) :
    (∃ error, run storage (leaseSecret sealSecret input tokens now storage) =
        (.error error, storage) ∧
      ¬ storage.Accepts input (leaseRecord sealSecret input tokens now) now) ∨
    (storage.Accepts input (leaseRecord sealSecret input tokens now) now ∧
      ∃ storage', run storage (leaseSecret sealSecret input tokens now storage) =
          (.ok (leaseRecord sealSecret input tokens now).receipt, storage') ∧
        VaultStorage.PrunedTo now (storage.leased (leaseRecord sealSecret input tokens now) now)
          storage') := by
  simp only [leaseSecret, assertIdentity, run_require]
  split_ifs with hbounded hsecret
  · cases htombstone : storage.tombstone input.sessionId with
    | some tombstone =>
      left
      have hdead : ∀ record, ¬ storage.Accepts input record now := fun record haccepts => by
        rw [haccepts.alive] at htombstone
        cases htombstone
      rcases ok_or_error (requireVaultBinding (storage.binding input.sessionId)
        input.workspaceId input.sessionId) with ⟨_, hbinding⟩ | ⟨failed, hbinding⟩
      · simp only [run_bind_ok hbinding, assertVaultTombstone, run_require, run_error,
          vaultFailure, sessionDestroyed, Option.getD_none]
        split_ifs
        all_goals exact ⟨_, rfl, hdead _⟩
      · rw [run_bind_error hbinding (rolls_requireVaultBinding _ _ _)]
        exact ⟨_, rfl, hdead _⟩
    | none =>
      dsimp only
      rcases ok_or_error (ensureVaultBinding input.workspaceId input.sessionId now storage) with
        ⟨bound, hbinding⟩ | ⟨failed, hbinding⟩
      · obtain ⟨hok, rfl⟩ := (@ensureVaultBinding_eq_ok storage _ now input.toVaultIdentity).mp hbinding
        obtain ⟨hlease, hindex, -⟩ := @VaultStorage.bind_frame storage now input.toVaultIdentity
        have hmirrors := h.mirrors.bind now input.toVaultIdentity
        have hstored := storeLease_eq hmirrors (h.schedulable.readable.congr hindex)
          (leaseRecord sealSecret input tokens now) (by rw [hlease]; exact hfresh)
        rw [run_bind_ok hbinding, run_bind_ok hstored]
        have hschedule := h.mirrors.leased now (leaseRecord sealSecret input tokens now) hfresh
          htombstone
        rcases ok_or_error (scheduleNextAlarm now
          (storage.leased (leaseRecord sealSecret input tokens now) now)) with
          ⟨scheduled, hscheduled⟩ | ⟨failed, hscheduled⟩
        · right
          obtain ⟨hchecks, hpruned⟩ := (scheduleNextAlarm_eq_ok hschedule).mp hscheduled
          refine ⟨⟨hbounded, hsecret, htombstone, hok, hchecks⟩, scheduled, ?_, ?_⟩
          · exact run_bind_ok hscheduled _
          · rw [← hpruned]
            exact hschedule.prunedTo hchecks now
        · left
          refine ⟨failed.error, run_bind_error hscheduled rolls_scheduleNextAlarm _, ?_⟩
          intro haccepts
          rw [(scheduleNextAlarm_eq_ok hschedule).mpr ⟨haccepts.schedulable, rfl⟩] at hscheduled
          cases hscheduled
      · left
        rw [run_bind_error hbinding (rolls_ensureVaultBinding _ _)]
        refine ⟨_, rfl, fun haccepts => ?_⟩
        rw [(@ensureVaultBinding_eq_ok storage _ now input.toVaultIdentity).mpr
          ⟨haccepts.bound, rfl⟩] at hbinding
        cases hbinding
  · exact .inl ⟨_, rfl, fun haccepts => hsecret haccepts.secret⟩
  · exact .inl ⟨_, rfl, fun haccepts => hbounded haccepts.bounded⟩

/-! ## Reading -/

theorem requireVaultBinding_eq_ok {identity : VaultIdentity} :
    requireVaultBinding (storage.binding identity.sessionId) identity.workspaceId
        identity.sessionId = .ok () ↔
      ∃ binding, storage.binding identity.sessionId = some binding ∧
        binding.valid identity.workspaceId identity.sessionId := by
  simp only [requireVaultBinding, bind_eq_ok, fetch_eq_ok, assertVaultBinding, require_eq_ok]

/-- The lease is stored for the session, which is not destroyed. -/
structure VaultStorage.Offers (storage : VaultStorage) (leaseId : String)
    (identity : VaultIdentity) (record : LeaseRecord) : Prop where
  bounded : boundedId leaseId ∧ boundedId identity.workspaceId ∧ boundedId identity.sessionId
  bound : ∃ binding, storage.binding identity.sessionId = some binding ∧
    binding.valid identity.workspaceId identity.sessionId
  alive : storage.tombstone identity.sessionId = none
  stored : storage.lease leaseId = some record
  owned : record.workspaceId = identity.workspaceId ∧ record.sessionId = identity.sessionId

/-- What a read takes for expired. -/
def LeaseRecord.Stale (record : LeaseRecord) (now : ℤ) : Prop :=
  idleMs < now - record.lastAccessedAt ∨ record.absoluteExpiresAt ≤ now

instance (record : LeaseRecord) : Decidable (record.Stale now) := by
  unfold LeaseRecord.Stale
  infer_instance

theorem LeaseRecord.Stale.expired {record : LeaseRecord} (h : record.Stale now) :
    record.expires ≤ now := by
  rw [LeaseRecord.expires, min_le_iff]
  rcases h with h | h <;> omega

/-- Rescheduling after an expired lease was removed is rescheduling. -/
theorem VaultStorage.PrunedTo.of_without {record : LeaseRecord}
    (hrecord : base.lease record.leaseId = some record) (hexpired : record.expires ≤ now)
    (h : VaultStorage.PrunedTo now (base.without record) storage) :
    VaultStorage.PrunedTo now base storage := by
  refine ⟨h.mirrors, h.schedulable, h.binding, h.tombstone, fun id => ?_, h.alarm⟩
  rw [h.lease, VaultStorage.lease_without]
  split_ifs with hid
  · rw [hid, hrecord, Option.filter_some, if_neg (by simpa using hexpired)]
    rfl
  · rfl

theorem VaultStorage.Schedulable.without (h : storage.Schedulable) (record : LeaseRecord) :
    (storage.without record).Schedulable := by
  refine ⟨h.readable.without record, fun id other hother => ?_⟩
  rw [VaultStorage.lease_without] at hother
  split_ifs at hother
  exact (h.checked id other hother).congr rfl

/-- The first transaction of a read finds the lease, removes it as expired or is refused. -/
theorem probeSecret_run (h : storage.Exact) (now : ℤ) (leaseId : String) (identity : VaultIdentity) :
    (∃ error, run storage (probeSecret leaseId identity now storage) = (.error error, storage) ∧
      ∀ record, ¬ storage.Offers leaseId identity record) ∨
    ∃ record, storage.Offers leaseId identity record ∧
      if record.Stale now then
        ∃ error storage', run storage (probeSecret leaseId identity now storage) =
          (.error error, storage') ∧ VaultStorage.PrunedTo now storage storage'
      else run storage (probeSecret leaseId identity now storage) = (.ok record, storage) := by
  simp only [probeSecret, assertIdentity, run_require]
  split_ifs with hid hbounded
  · rcases ok_or_error (requireVaultBinding (storage.binding identity.sessionId)
      identity.workspaceId identity.sessionId) with ⟨_, hbinding⟩ | ⟨failed, hbinding⟩
    · have hbound := requireVaultBinding_eq_ok.mp hbinding
      rw [run_bind_ok hbinding]
      cases htombstone : storage.tombstone identity.sessionId with
      | some tombstone =>
        left
        have hdead : ∀ record, ¬ storage.Offers leaseId identity record := fun record hoffers => by
          rw [hoffers.alive] at htombstone
          cases htombstone
        simp only [assertVaultTombstone, run_require, run_error, vaultFailure, leaseForbidden,
          sessionDestroyed, Option.getD_none]
        split_ifs
        all_goals exact ⟨_, rfl, hdead⟩
      | none =>
        simp only [run_fetch, assertLease, run_require]
        cases hrecord : storage.lease leaseId with
        | none =>
          left
          refine ⟨_, rfl, fun record hoffers => ?_⟩
          rw [hoffers.stored] at hrecord
          cases hrecord
        | some record =>
          have hvalid := (h.schedulable.checked leaseId record hrecord).valid
          have hnamed := h.mirrors.named leaseId record hrecord
          simp only [hvalid, if_true]
          by_cases howned : record.workspaceId = identity.workspaceId ∧
            record.sessionId = identity.sessionId
          · right
            refine ⟨record, ⟨⟨hid, hbounded⟩, hbound, htombstone, hrecord, howned⟩, ?_⟩
            rw [if_pos howned]
            by_cases hstale : record.Stale now
            · have hstored : storage.lease record.leaseId = some record := hnamed ▸ hrecord
              have hmirrors := h.mirrors.without hstored
              have hchecks := h.schedulable.without record
              rw [if_pos hstale, if_pos (show _ ∨ _ from hstale),
                run_bind_ok (removeLease_eq h.mirrors h.schedulable.readable record),
                run_bind_ok ((scheduleNextAlarm_eq_ok hmirrors).mpr ⟨hchecks, rfl⟩)]
              exact ⟨_, _, rfl, (hmirrors.prunedTo hchecks now).of_without hstored hstale.expired⟩
            · rw [if_neg hstale, if_neg (show ¬ (_ ∨ _) from hstale)]
              rfl
          · left
            rw [if_neg howned]
            refine ⟨_, rfl, fun other hoffers => howned ?_⟩
            have hsame := hrecord.symm.trans hoffers.stored
            exact Option.some.inj hsame ▸ hoffers.owned
    · left
      rw [run_bind_error hbinding (rolls_requireVaultBinding _ _ _)]
      refine ⟨_, rfl, fun record hoffers => ?_⟩
      rw [requireVaultBinding_eq_ok.mpr hoffers.bound] at hbinding
      cases hbinding
  · exact .inl ⟨_, rfl, fun _ hoffers => hbounded hoffers.bounded.2⟩
  · exact .inl ⟨_, rfl, fun _ hoffers => hid hoffers.bounded.1⟩

/-- The storage with the access time of a lease set. -/
def VaultStorage.touch (storage : VaultStorage) (leaseId : String) (record : LeaseRecord)
    (now : ℤ) : VaultStorage :=
  { storage with
    lease := Function.update storage.lease leaseId (some { record with lastAccessedAt := now }) }

theorem VaultStorage.lease_touch (leaseId : String) (record : LeaseRecord) (id : String) :
    (storage.touch leaseId record now).lease id =
      if id = leaseId then some { record with lastAccessedAt := now } else storage.lease id := by
  simp only [VaultStorage.touch, Function.update_apply]

theorem VaultStorage.Mirrors.touch (h : storage.Mirrors) (now : ℤ) {leaseId : String} {record : LeaseRecord}
    (hrecord : storage.lease leaseId = some record) :
    (storage.touch leaseId record now).Mirrors := by
  refine ⟨fun id => ?_, h.nodup, fun sessionId id => ?_, h.sessionNodup, fun id other hother => ?_,
    fun id other hother => ?_⟩
  · rw [VaultStorage.lease_touch]
    refine (h.indexed id).trans ?_
    by_cases hid : id = leaseId <;> simp [hid, hrecord]
  · rw [VaultStorage.lease_touch]
    refine (h.session sessionId id).trans ?_
    by_cases hid : id = leaseId <;> simp [hid, hrecord]
  · rw [VaultStorage.lease_touch] at hother
    split_ifs at hother with hid
    · rw [← Option.some.inj hother, hid]
      exact h.named leaseId record hrecord
    · exact h.named id other hother
  · rw [VaultStorage.lease_touch] at hother
    split_ifs at hother with hid
    · rw [← Option.some.inj hother]
      exact h.alive leaseId record hrecord
    · exact h.alive id other hother

/-- What the second transaction asks of the lease that the first one found. -/
structure VaultStorage.Confirms (storage : VaultStorage) (leaseId : String)
    (identity : VaultIdentity) (probe current : LeaseRecord) (now : ℤ) : Prop where
  bound : ∃ binding, storage.binding identity.sessionId = some binding ∧
    binding.valid identity.workspaceId identity.sessionId
  alive : storage.tombstone identity.sessionId = none
  stored : storage.lease leaseId = some current
  unchanged : current.workspaceId = identity.workspaceId ∧
    current.sessionId = identity.sessionId ∧ current.epoch = probe.epoch ∧
    current.lastAccessedAt = probe.lastAccessedAt ∧ current.ciphertext = probe.ciphertext
  schedulable : (storage.touch leaseId current now).Schedulable

/-- The second transaction of a read sets the access time, or is refused. -/
theorem commitSecret_run (h : storage.Exact) (now : ℤ) (leaseId : String) (identity : VaultIdentity)
    (probe : LeaseRecord) :
    (∃ error, run storage (commitSecret leaseId identity probe now storage) =
        (.error error, storage) ∧
      ∀ current, ¬ storage.Confirms leaseId identity probe current now) ∨
    ∃ current storage', storage.Confirms leaseId identity probe current now ∧
      run storage (commitSecret leaseId identity probe now storage) = (.ok (), storage') ∧
      VaultStorage.PrunedTo now (storage.touch leaseId current now) storage' := by
  simp only [commitSecret]
  rcases ok_or_error (requireVaultBinding (storage.binding identity.sessionId)
    identity.workspaceId identity.sessionId) with ⟨_, hbinding⟩ | ⟨failed, hbinding⟩
  · have hbound := requireVaultBinding_eq_ok.mp hbinding
    rw [run_bind_ok hbinding]
    cases htombstone : storage.tombstone identity.sessionId with
    | some tombstone =>
      left
      have hdead : ∀ current, ¬ storage.Confirms leaseId identity probe current now := by
        intro current hconfirms
        rw [hconfirms.alive] at htombstone
        cases htombstone
      simp only [assertVaultTombstone, run_require, run_error, vaultFailure, sessionDestroyed,
        Option.getD_none]
      split_ifs
      all_goals exact ⟨_, rfl, hdead⟩
    | none =>
      simp only [run_fetch, assertLease, run_require]
      cases hrecord : storage.lease leaseId with
      | none =>
        left
        refine ⟨_, rfl, fun current hconfirms => ?_⟩
        rw [hconfirms.stored] at hrecord
        cases hrecord
      | some current =>
        have hsame : ∀ other, storage.Confirms leaseId identity probe other now →
            other = current := fun other hconfirms =>
          Option.some.inj (hconfirms.stored.symm.trans hrecord)
        have hvalid := (h.schedulable.checked leaseId current hrecord).valid
        have hmirrors := h.mirrors.touch now hrecord
        simp only [hvalid, if_true]
        split_ifs with hunchanged
        · rcases ok_or_error (scheduleNextAlarm now (storage.touch leaseId current now)) with
            ⟨scheduled, hscheduled⟩ | ⟨failed, hscheduled⟩
          · right
            obtain ⟨hchecks, hpruned⟩ := (scheduleNextAlarm_eq_ok hmirrors).mp hscheduled
            refine ⟨current, scheduled, ⟨hbound, htombstone, hrecord, hunchanged, hchecks⟩,
              run_bind_ok hscheduled _, ?_⟩
            rw [← hpruned]
            exact hmirrors.prunedTo hchecks now
          · left
            refine ⟨_, run_bind_error hscheduled rolls_scheduleNextAlarm _, fun other hconfirms => ?_⟩
            obtain rfl := hsame other hconfirms
            rw [(scheduleNextAlarm_eq_ok hmirrors).mpr ⟨hconfirms.schedulable, rfl⟩] at hscheduled
            cases hscheduled
        · left
          refine ⟨_, rfl, fun other hconfirms => hunchanged ?_⟩
          exact hsame other hconfirms ▸ hconfirms.unchanged
  · left
    rw [run_bind_error hbinding (rolls_requireVaultBinding _ _ _)]
    refine ⟨_, rfl, fun current hconfirms => ?_⟩
    rw [requireVaultBinding_eq_ok.mpr hconfirms.bound] at hbinding
    cases hbinding

/-! ## Destroying a session -/

/-- The leases of a session with one of the ids. -/
def VaultStorage.sessionLeases (storage : VaultStorage) (sessionId : String) (ids : List String) :
    List LeaseRecord :=
  ids.filterMap fun id => (storage.lease id).filter (·.sessionId = sessionId)

theorem VaultStorage.mem_sessionLeases {sessionId : String} {ids : List String}
    {record : LeaseRecord} : record ∈ storage.sessionLeases sessionId ids ↔
      ∃ id ∈ ids, storage.lease id = some record ∧ record.sessionId = sessionId := by
  simp [VaultStorage.sessionLeases, List.mem_filterMap, Option.filter_eq_some_iff]

/-- Every lease of a session is of the workspace that the session is bound to. -/
theorem VaultStorage.Schedulable.workspace (h : storage.Schedulable) {identity : VaultIdentity}
    (hbound : storage.BindingOk identity) {id : String} {record : LeaseRecord}
    (hrecord : storage.lease id = some record) (hsession : record.sessionId = identity.sessionId) :
    record.workspaceId = identity.workspaceId := by
  obtain ⟨-, binding, hbinding, hvalid⟩ := h.checked id record hrecord
  have hvalid' := hbound binding (hsession ▸ hbinding)
  simp only [VaultSessionBinding.valid, Bool.and_eq_true, decide_eq_true_eq] at hvalid hvalid'
  exact hvalid.1.1.1.1.symm.trans hvalid'.1.1.1.1

theorem ownedLeases_eq (h : storage.Mirrors) (hchecks : storage.Schedulable)
    {identity : VaultIdentity} (hworkspace : ∀ id record, storage.lease id = some record →
      record.sessionId = identity.sessionId → record.workspaceId = identity.workspaceId)
    (ids : List String) :
    ownedLeases identity (storage.sessionIds identity.sessionId) ids storage =
      .ok (storage.sessionLeases identity.sessionId ids) := by
  rw [ownedLeases, @forEach_eq_ok_foldl _ _ _ _
    (fun owned id => owned ++ storage.sessionLeases identity.sessionId [id])
    (fun _ _ => True) (fun _ => True) ?_ (fun _ _ _ _ _ => trivial) _ _ _ trivial]
  · refine ⟨fun _ _ => trivial, ?_⟩
    have hfold : ∀ owned : List LeaseRecord,
        ids.foldl (fun owned id => owned ++ storage.sessionLeases identity.sessionId [id]) owned =
          owned ++ storage.sessionLeases identity.sessionId ids := by
      induction ids with
      | nil => simp [VaultStorage.sessionLeases]
      | cons id rest ih =>
        intro owned
        rw [List.foldl_cons, ih, List.append_assoc, VaultStorage.sessionLeases,
          VaultStorage.sessionLeases, ← List.filterMap_append]
        rfl
    simpa using hfold []
  · rintro leaseId - owned owned' -
    cases hrecord : storage.lease leaseId with
    | none => simp [VaultStorage.sessionLeases, hrecord]
    | some record =>
      have hvalid := (hchecks.checked leaseId record hrecord).valid
      simp only [assertLease, bind_eq_ok, require_eq_ok, hvalid, exists_const, true_and]
      by_cases hsession : record.sessionId = identity.sessionId
      · have howned := hworkspace leaseId record hrecord hsession
        simp [howned, hsession, VaultStorage.sessionLeases, hrecord, Option.filter_some]
      · -- a lease of another session is not in the index of this one
        have hindex : leaseId ∉ storage.sessionIds identity.sessionId := by
          rw [h.session]
          rintro ⟨other, hother, howned⟩
          rw [hrecord] at hother
          exact hsession (Option.some.inj hother ▸ howned)
        simp only [hsession, and_false, if_false, bind_eq_ok, require_eq_ok, hindex,
          not_false_eq_true, exists_const, pure_eq_ok]
        simp [hsession, VaultStorage.sessionLeases, hrecord, Option.filter_some]

/-- Removing some of the stored leases. -/
theorem removeLeases_eq_ok (h : storage.Mirrors) (hread : storage.Readable)
    {owned : List LeaseRecord} (hnodup : (owned.map (·.leaseId)).Nodup)
    (hstored : ∀ record ∈ owned, storage.lease record.leaseId = some record) :
    ∃ storage', forEach (fun storage record => removeLease record storage) owned storage =
        .ok storage' ∧
      storage'.Mirrors ∧ storage'.Readable ∧ storage'.binding = storage.binding ∧
      storage'.tombstone = storage.tombstone ∧
      ∀ id, storage'.lease id =
        if id ∈ owned.map (·.leaseId) then none else storage.lease id := by
  induction owned generalizing storage with
  | nil => exact ⟨storage, rfl, h, hread, rfl, rfl, fun _ => by simp⟩
  | cons record rest ih =>
    obtain ⟨hfresh, hrest⟩ := List.nodup_cons.mp hnodup
    have hmirrors := h.without (hstored record List.mem_cons_self)
    obtain ⟨storage', hloop, hmirrors', hread', hbinding, htombstone, hlease⟩ :=
      ih hmirrors (hread.without record) hrest (fun other hother => by
        rw [VaultStorage.lease_without, if_neg]
        · exact hstored other (List.mem_cons_of_mem _ hother)
        · exact fun he => hfresh (List.mem_map.mpr ⟨other, hother, he⟩))
    refine ⟨storage', ?_, hmirrors', hread', hbinding, htombstone, fun id => ?_⟩
    · rw [forEach, removeLease_eq h hread record]
      exact hloop
    · rw [hlease, VaultStorage.lease_without]
      simp only [List.map_cons, List.mem_cons]
      by_cases hid : id = record.leaseId <;> simp [hid]

/-- The bindings, the tombstones and the leases that destroying a session schedules. -/
def VaultStorage.destroyed (storage : VaultStorage) (identity : VaultIdentity) (now : ℤ) :
    VaultStorage :=
  { storage.bind identity now with
    lease := fun id => (storage.lease id).filter (·.sessionId ≠ identity.sessionId)
    tombstone := Function.update storage.tombstone identity.sessionId
      (some ⟨identity.workspaceId, identity.sessionId, now, 1⟩) }

/-- The storage after the leases of a session were removed and its tombstone was written. -/
def VaultStorage.withTombstone (storage : VaultStorage) (identity : VaultIdentity) (now : ℤ) :
    VaultStorage :=
  { storage with
    tombstone := Function.update storage.tombstone identity.sessionId
      (some ⟨identity.workspaceId, identity.sessionId, now, 1⟩)
    sessionIndex := Function.update storage.sessionIndex identity.sessionId none }

theorem VaultStorage.Mirrors.withTombstone (h : storage.Mirrors) (now : ℤ) {identity : VaultIdentity}
    (hnone : ∀ id record, storage.lease id = some record →
      record.sessionId ≠ identity.sessionId) : (storage.withTombstone identity now).Mirrors := by
  have hsessions : ∀ sessionId, (storage.withTombstone identity now).sessionIds sessionId =
      if sessionId = identity.sessionId then [] else storage.sessionIds sessionId := by
    intro sessionId
    split_ifs with hsession
    · simp [VaultStorage.sessionIds, VaultStorage.withTombstone, hsession]
    · simp [VaultStorage.sessionIds, VaultStorage.withTombstone, hsession]
  refine ⟨h.indexed, h.nodup, fun sessionId id => ?_, fun sessionId => ?_, h.named,
    fun id record hrecord => ?_⟩
  · rw [hsessions]
    split_ifs with hsession
    · simp only [List.not_mem_nil, false_iff]
      rintro ⟨record, hrecord, howned⟩
      exact hnone id record hrecord (howned.trans hsession)
    · exact h.session sessionId id
  · rw [hsessions]
    split_ifs
    · exact List.nodup_nil
    · exact h.sessionNodup sessionId
  · have hother := hnone id record hrecord
    simp only [VaultStorage.withTombstone, Function.update_of_ne hother]
    exact h.alive id record hrecord

/-- Every lease of the session is among the ones found by its index and that of all leases. -/
theorem VaultStorage.Mirrors.sessionLeases (h : storage.Mirrors) (sessionId : String)
    {ids : List String} (hids : ids.Nodup) (hall : storage.ids ⊆ ids) :
    ((storage.sessionLeases sessionId ids).map (·.leaseId)).Nodup ∧
      (∀ record ∈ storage.sessionLeases sessionId ids,
        storage.lease record.leaseId = some record) ∧
      ∀ id, id ∈ (storage.sessionLeases sessionId ids).map (·.leaseId) ↔
        ∃ record, storage.lease id = some record ∧ record.sessionId = sessionId := by
  have hstored : ∀ record ∈ storage.sessionLeases sessionId ids,
      storage.lease record.leaseId = some record ∧ record.sessionId = sessionId := by
    intro record hrecord
    obtain ⟨id, -, hlease, hsession⟩ := VaultStorage.mem_sessionLeases.mp hrecord
    exact ⟨h.named id record hlease ▸ hlease, hsession⟩
  refine ⟨List.Nodup.map_on (fun record hrecord other hother he => ?_) ?_,
    fun record hrecord => (hstored record hrecord).1, fun id => ⟨fun hid => ?_, ?_⟩⟩
  · have hlease := (hstored record hrecord).1
    rw [he, (hstored other hother).1] at hlease
    exact (Option.some.inj hlease).symm
  · refine hids.filterMap fun id other record hid hother => ?_
    rw [Option.mem_def, Option.filter_eq_some_iff] at hid hother
    exact (h.named id record hid.1).symm.trans (h.named other record hother.1)
  · obtain ⟨record, hrecord, rfl⟩ := List.mem_map.mp hid
    exact ⟨record, hstored record hrecord⟩
  · rintro ⟨record, hrecord, hsession⟩
    have hmem := hall ((h.indexed id).mpr ⟨record, hrecord⟩)
    exact List.mem_map.mpr ⟨record,
      VaultStorage.mem_sessionLeases.mpr ⟨id, hmem, hrecord, hsession⟩, h.named id record hrecord⟩

/-- A session is destroyed once, if its identity is the one it is bound to. -/
theorem destroyVaultSession_run (h : storage.Exact) (now : ℤ) (identity : VaultIdentity) :
    ((storage.tombstone identity.sessionId ≠ none ∨
        ¬ (boundedId identity.workspaceId ∧ boundedId identity.sessionId) ∨
        ¬ storage.BindingOk identity) ∧
      (run storage (destroyVaultSession identity now storage)).2 = storage ∧
      (storage.tombstone identity.sessionId = none →
        ¬ (run storage (destroyVaultSession identity now storage)).1.isOk)) ∨
    (storage.tombstone identity.sessionId = none ∧
      (boundedId identity.workspaceId ∧ boundedId identity.sessionId) ∧
      storage.BindingOk identity ∧
      ∃ count storage', run storage (destroyVaultSession identity now storage) =
          (.ok count, storage') ∧
        VaultStorage.PrunedTo now (storage.destroyed identity now) storage') := by
  simp only [destroyVaultSession, assertIdentity, run_require]
  split_ifs with hbounded
  · cases htombstone : storage.tombstone identity.sessionId with
    | some tombstone =>
      left
      refine ⟨.inl (by simp), ?_, fun he => by cases he⟩
      rcases ok_or_error (requireVaultBinding (storage.binding identity.sessionId)
        identity.workspaceId identity.sessionId) with ⟨_, hbinding⟩ | ⟨failed, hbinding⟩
      · simp only [run_bind_ok hbinding, assertVaultTombstone, run_require, run_pure, vaultFailure,
          Option.getD_none]
        split_ifs <;> rfl
      · rw [run_bind_error hbinding (rolls_requireVaultBinding _ _ _)]
    | none =>
      dsimp only
      rcases ok_or_error (ensureVaultBinding identity.workspaceId identity.sessionId now storage)
        with ⟨bound, hbinding⟩ | ⟨failed, hbinding⟩
      · right
        obtain ⟨hok, hbind⟩ := ensureVaultBinding_eq_ok.mp hbinding
        obtain ⟨hlease, hindex, hsession, htombstones, -⟩ :=
          @VaultStorage.bind_frame storage now identity
        rw [hbind] at hlease hindex hsession htombstones
        have hmirrors : bound.Mirrors := hbind ▸ h.mirrors.bind now identity
        have hchecks : bound.Schedulable := hbind ▸ h.schedulable.bind identity
        have hworkspace : ∀ id record, bound.lease id = some record →
            record.sessionId = identity.sessionId →
            record.workspaceId = identity.workspaceId := by
          intro id record hrecord howned
          rw [hlease] at hrecord
          exact h.schedulable.workspace hok hrecord howned
        obtain ⟨hnodup, hstored, hmem⟩ := hmirrors.sessionLeases identity.sessionId
          (nodup_distinct (bound.sessionIds identity.sessionId ++ bound.ids))
          (fun id hid => mem_distinct.mpr (List.mem_append_right _ hid))
        obtain ⟨removed, hloop, hmirrors', hread', hbinding', htombstone', hlease'⟩ :=
          removeLeases_eq_ok hmirrors hchecks.readable hnodup hstored
        have hnone : ∀ id record, removed.lease id = some record →
            record.sessionId ≠ identity.sessionId := by
          intro id record hrecord howned
          rw [hlease'] at hrecord
          split_ifs at hrecord with hid
          exact hid ((hmem id).mpr ⟨record, hrecord, howned⟩)
        have hschedule := hmirrors'.withTombstone now hnone
        have hchecks' : (removed.withTombstone identity now).Schedulable := by
          refine ⟨hread'.congr rfl, fun id record hrecord => ?_⟩
          replace hrecord : removed.lease id = some record := hrecord
          rw [hlease'] at hrecord
          split_ifs at hrecord
          exact (hchecks.checked id record hrecord).congr hbinding'
        have hpruned := hschedule.prunedTo hchecks' now
        refine ⟨rfl, hbounded, hok, (bound.sessionLeases identity.sessionId
            (distinct (bound.sessionIds identity.sessionId ++ bound.ids))).length, _, ?_,
          ⟨hpruned.mirrors, hpruned.schedulable, hpruned.binding.trans ?_,
            hpruned.tombstone.trans ?_, fun id => ?_, hpruned.alarm⟩⟩
        · rw [run_bind_ok hbinding, run_bind_ok (hmirrors.readSessionIds hchecks.readable _),
            run_bind_ok (hmirrors.readIds hchecks.readable),
            run_bind_ok (ownedLeases_eq hmirrors hchecks hworkspace _), run_bind_ok hloop]
          exact run_bind_ok ((scheduleNextAlarm_eq_ok hschedule).mpr ⟨hchecks', rfl⟩) _
        · rw [VaultStorage.destroyed, hbind]
          exact hbinding'
        · rw [VaultStorage.destroyed, VaultStorage.withTombstone, htombstone', htombstones]
        · rw [hpruned.lease]
          congr 1
          show removed.lease id = (storage.lease id).filter (·.sessionId ≠ identity.sessionId)
          rw [hlease']
          by_cases hid : id ∈ (bound.sessionLeases identity.sessionId
            (distinct (bound.sessionIds identity.sessionId ++ bound.ids))).map (·.leaseId)
          · obtain ⟨record, hrecord, howned⟩ := (hmem id).mp hid
            rw [if_pos hid, ← hlease, hrecord, Option.filter_some, if_neg (by simpa using howned)]
          · rw [if_neg hid, hlease]
            cases hrecord : storage.lease id with
            | none => rfl
            | some record =>
              have hother : record.sessionId ≠ identity.sessionId := fun howned =>
                hid ((hmem id).mpr ⟨record, (congrFun hlease id).trans hrecord, howned⟩)
              rw [Option.filter_some, if_pos (by simpa using hother)]
      · left
        rw [run_bind_error hbinding (rolls_ensureVaultBinding _ _)]
        refine ⟨.inr (.inr fun hok => ?_), rfl, fun _ he => by cases he⟩
        rw [ensureVaultBinding_eq_ok.mpr ⟨hok, rfl⟩] at hbinding
        cases hbinding
  · exact .inl ⟨.inr (.inl hbounded), rfl, fun _ he => by cases he⟩

/-! ## The alarm -/

/-- The alarm removes the leases that have expired. -/
theorem alarm_run (h : storage.Exact) (now : ℤ) : ∃ storage', run storage (alarm now storage) =
    (.ok (), storage') ∧ VaultStorage.PrunedTo now storage storage' := by
  have hread := h.schedulable.readable
  obtain ⟨hmirrors, hread', hbinding, htombstone, -⟩ :=
    h.mirrors.expireAll hread now storage.ids
  have hlease := fun id => h.mirrors.lease_expireAll hread now id
  have hchecks := h.schedulable.filter hread' hbinding hlease
  have hloop : forEach (alarmEntry now) storage.ids storage =
      .ok (storage.expireAll now storage.ids) := by
    rw [@forEach_eq_ok_foldl _ _ _ _ (VaultStorage.expire now) storage.Pending storage.Passes
      (fun _ _ _ _ hpending => alarmEntry_eq_ok hpending)
      (fun _ _ _ hpending _ => hpending.expire) _ _ _ (h.mirrors.pending hread)]
    exact ⟨h.mirrors.passes_iff.mpr h.schedulable.checked, rfl⟩
  have hpruned := hmirrors.prunedTo hchecks now
  refine ⟨_, ?_, ⟨hpruned.mirrors, hpruned.schedulable, hpruned.binding.trans hbinding,
    hpruned.tombstone.trans htombstone, fun id => ?_, hpruned.alarm⟩⟩
  · simp only [alarm]
    rw [run_bind_ok (h.mirrors.readIds hread), run_bind_ok hloop]
    exact run_bind_ok ((scheduleNextAlarm_eq_ok hmirrors).mpr ⟨hchecks, rfl⟩) _
  · rw [hpruned.lease, hlease, Option.filter_filter]
    simp

end Quillframe.Cloud
