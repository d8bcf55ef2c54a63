import Quillframe.Cloud.SessionVault

/-!
# The indexes of the vault

The indexes name the stored leases. Removing a lease keeps them exact, and rescheduling removes
the leases that have expired and finds the least expiry of the others.
-/
namespace Quillframe.Cloud

open Transaction

namespace VaultStorage

def ids (storage : VaultStorage) : List String := storage.leaseIndex.getD []

def sessionIds (storage : VaultStorage) (sessionId : String) : List String :=
  (storage.sessionIndex sessionId).getD []

/-- Both indexes name the stored leases, each once, and no session with a lease was destroyed. -/
structure Mirrors (storage : VaultStorage) : Prop where
  indexed : ∀ id, id ∈ storage.ids ↔ ∃ record, storage.lease id = some record
  nodup : storage.ids.Nodup
  session : ∀ sessionId id, id ∈ storage.sessionIds sessionId ↔
    ∃ record, storage.lease id = some record ∧ record.sessionId = sessionId
  sessionNodup : ∀ sessionId, (storage.sessionIds sessionId).Nodup
  named : ∀ id record, storage.lease id = some record → record.leaseId = id
  alive : ∀ id record, storage.lease id = some record → storage.tombstone record.sessionId = none

/-- The index can be read. -/
structure Readable (storage : VaultStorage) : Prop where
  length : storage.ids.length ≤ maxIndex
  bounded : ∀ id ∈ storage.ids, boundedId id

/-- A lease that passes the checks of the loops. -/
structure Checked (storage : VaultStorage) (leaseId : String) (record : LeaseRecord) : Prop where
  valid : record.valid leaseId
  bound : ∃ binding, storage.binding record.sessionId = some binding ∧
    binding.valid record.workspaceId record.sessionId

end VaultStorage

open VaultStorage

variable {storage storage' : VaultStorage} {now : ℤ}

/-! ## Reading an index -/

theorem mem_distinct {ids : List String} {id : String} : id ∈ distinct ids ↔ id ∈ ids := by
  induction ids with
  | nil => rfl
  | cons value rest ih =>
    simp only [distinct, List.mem_cons, List.mem_filter, ih]
    by_cases h : id = value <;> simp [h]

theorem distinct_eq_self {ids : List String} (h : ids.Nodup) : distinct ids = ids := by
  induction ids with
  | nil => rfl
  | cons value rest ih =>
    obtain ⟨hfresh, hrest⟩ := List.nodup_cons.mp h
    rw [distinct, ih hrest, List.filter_eq_self.mpr]
    intro id hid
    simp only [decide_eq_true_eq]
    exact fun he => hfresh (he ▸ hid)

theorem nodup_distinct (ids : List String) : (distinct ids).Nodup := by
  induction ids with
  | nil => exact List.nodup_nil
  | cons value rest ih => exact List.nodup_cons.mpr ⟨by simp, ih.filter _⟩

theorem readIds_eq_ok {value : Option (List String)} (hlength : (value.getD []).length ≤ maxIndex)
    (hbounded : ∀ id ∈ value.getD [], boundedId id) (hnodup : (value.getD []).Nodup) :
    readIds value = .ok (value.getD []) := by
  cases value with
  | none => rfl
  | some ids =>
    simp only [Option.getD_some] at hlength hbounded hnodup
    simp only [readIds, bind_eq_ok, require_eq_ok, exists_const, pure_eq_ok, Option.getD_some]
    exact ⟨⟨hlength, hbounded⟩, distinct_eq_self hnodup⟩

theorem readIds_readable {ids : List String} (h : readIds storage.leaseIndex = .ok ids) :
    storage.Readable := by
  cases hindex : storage.leaseIndex with
  | none => exact ⟨by simp [VaultStorage.ids, hindex], by simp [VaultStorage.ids, hindex]⟩
  | some index =>
    rw [hindex] at h
    simp only [readIds, bind_eq_ok, require_eq_ok, exists_const] at h
    exact ⟨by simpa [VaultStorage.ids, hindex] using h.1.1,
      by simpa [VaultStorage.ids, hindex] using h.1.2⟩

theorem rolls_readIds (value : Option (List String)) : Rolls (readIds value) := by
  cases value <;> simp [readIds, vaultFailure]

theorem VaultStorage.Mirrors.readIds (h : storage.Mirrors) (hread : storage.Readable) :
    readIds storage.leaseIndex = .ok storage.ids :=
  readIds_eq_ok hread.length hread.bounded h.nodup

/-- The index of a session is part of the whole. -/
theorem VaultStorage.Mirrors.sessionIds_subset (h : storage.Mirrors) (sessionId : String) :
    storage.sessionIds sessionId ⊆ storage.ids := by
  intro id hid
  obtain ⟨record, hrecord, -⟩ := (h.session sessionId id).mp hid
  exact (h.indexed id).mpr ⟨record, hrecord⟩

theorem VaultStorage.Mirrors.readSessionIds (h : storage.Mirrors) (hread : storage.Readable)
    (sessionId : String) :
    Cloud.readIds (storage.sessionIndex sessionId) = .ok (storage.sessionIds sessionId) := by
  have hsubset := h.sessionIds_subset sessionId
  have hle : (storage.sessionIds sessionId).length ≤ storage.ids.length :=
    ((h.sessionNodup sessionId).subperm hsubset).length_le
  exact readIds_eq_ok (hle.trans hread.length) (fun id hid => hread.bounded id (hsubset hid))
    (h.sessionNodup sessionId)

/-! ## Removing a lease -/

@[simp] theorem putIds_getD (ids : List String) : (putIds ids).getD [] = ids := by
  rw [putIds]
  split_ifs with h
  · exact h.symm
  · rfl

/-- The storage without a lease. -/
def VaultStorage.without (storage : VaultStorage) (record : LeaseRecord) : VaultStorage :=
  { storage with
    lease := Function.update storage.lease record.leaseId none
    sessionIndex := Function.update storage.sessionIndex record.sessionId
      (putIds ((storage.sessionIds record.sessionId).filter (· ≠ record.leaseId)))
    leaseIndex := putIds (storage.ids.filter (· ≠ record.leaseId)) }

@[simp] theorem VaultStorage.ids_without (record : LeaseRecord) :
    (storage.without record).ids = storage.ids.filter (· ≠ record.leaseId) := putIds_getD _

theorem VaultStorage.sessionIds_without (record : LeaseRecord) (sessionId : String) :
    (storage.without record).sessionIds sessionId = if sessionId = record.sessionId
      then (storage.sessionIds sessionId).filter (· ≠ record.leaseId)
      else storage.sessionIds sessionId := by
  split_ifs with h
  · subst h
    simp [VaultStorage.sessionIds, VaultStorage.without]
  · simp [VaultStorage.sessionIds, VaultStorage.without, h]

theorem VaultStorage.lease_without (record : LeaseRecord) (id : String) :
    (storage.without record).lease id = if id = record.leaseId then none else storage.lease id := by
  simp only [VaultStorage.without, Function.update_apply]

theorem VaultStorage.Mirrors.without (h : storage.Mirrors) {record : LeaseRecord}
    (hrecord : storage.lease record.leaseId = some record) : (storage.without record).Mirrors := by
  refine ⟨fun id => ?_, ?_, fun sessionId id => ?_, fun sessionId => ?_, fun id other hother => ?_,
    fun id other hother => ?_⟩
  · rw [VaultStorage.lease_without, ids_without, List.mem_filter, h.indexed]
    by_cases hid : id = record.leaseId <;> simp [hid]
  · rw [ids_without]
    exact h.nodup.filter _
  · rw [VaultStorage.lease_without, VaultStorage.sessionIds_without]
    by_cases hid : id = record.leaseId
    · subst hid
      by_cases hsession : sessionId = record.sessionId
      · simp [hsession]
      · -- the lease is of another session
        have hother : record.sessionId ≠ sessionId := Ne.symm hsession
        simp [hsession, h.session, hrecord, hother]
    · by_cases hsession : sessionId = record.sessionId
      · simp [hsession, h.session, hid]
      · simp [hsession, h.session, hid]
  · rw [VaultStorage.sessionIds_without]
    split_ifs
    · exact (h.sessionNodup sessionId).filter _
    · exact h.sessionNodup sessionId
  · rw [VaultStorage.lease_without] at hother
    split_ifs at hother
    exact h.named id other hother
  · rw [VaultStorage.lease_without] at hother
    split_ifs at hother
    exact h.alive id other hother

theorem VaultStorage.Readable.without (h : storage.Readable) (record : LeaseRecord) :
    (storage.without record).Readable := by
  refine ⟨?_, fun id hid => ?_⟩
  · rw [ids_without]
    exact (List.length_filter_le _ _).trans h.length
  · rw [ids_without] at hid
    exact h.bounded id (List.mem_of_mem_filter hid)

theorem removeLease_eq (h : storage.Mirrors) (hread : storage.Readable) (record : LeaseRecord) :
    removeLease record storage = .ok (storage.without record) := by
  have hsession := h.readSessionIds hread record.sessionId
  simp only [removeLease, hsession, h.readIds hread]
  rfl

/-! ## Removing expired leases -/

/-- Removes a lease that has expired. -/
def VaultStorage.expire (now : ℤ) (storage : VaultStorage) (leaseId : String) : VaultStorage :=
  match storage.lease leaseId with
  | none => storage
  | some record => if record.expires ≤ now then storage.without record else storage

theorem VaultStorage.expire_of_stored {leaseId : String} {record : LeaseRecord}
    (h : storage.lease leaseId = some record) : storage.expire now leaseId =
      if record.expires ≤ now then storage.without record else storage := by
  simp [VaultStorage.expire, h]

/-- Removes each of the leases that has expired. -/
def VaultStorage.expireAll (now : ℤ) (ids : List String) (storage : VaultStorage) : VaultStorage :=
  ids.foldl (VaultStorage.expire now) storage

/-- Removing a lease touches neither the bindings nor the tombstones nor the alarm. -/
theorem VaultStorage.expire_frame (now : ℤ) (leaseId : String) :
    (storage.expire now leaseId).binding = storage.binding ∧
      (storage.expire now leaseId).tombstone = storage.tombstone ∧
      (storage.expire now leaseId).alarm = storage.alarm := by
  rw [VaultStorage.expire]
  cases storage.lease leaseId with
  | none => exact ⟨rfl, rfl, rfl⟩
  | some record =>
    dsimp only
    split_ifs <;> exact ⟨rfl, rfl, rfl⟩

theorem VaultStorage.Mirrors.expire (h : storage.Mirrors) (now : ℤ) (leaseId : String) :
    (storage.expire now leaseId).Mirrors := by
  cases hrecord : storage.lease leaseId with
  | none => simpa only [VaultStorage.expire, hrecord] using h
  | some record =>
    rw [VaultStorage.expire_of_stored hrecord]
    split_ifs
    · exact h.without (h.named _ _ hrecord ▸ hrecord)
    · exact h

theorem VaultStorage.Readable.expire (h : storage.Readable) (leaseId : String) :
    (storage.expire now leaseId).Readable := by
  cases hrecord : storage.lease leaseId with
  | none => simpa only [VaultStorage.expire, hrecord] using h
  | some record =>
    rw [VaultStorage.expire_of_stored hrecord]
    split_ifs
    · exact h.without record
    · exact h

theorem VaultStorage.Mirrors.lease_expire (h : storage.Mirrors) (leaseId id : String) :
    (storage.expire now leaseId).lease id = if id = leaseId
      then (storage.lease id).filter (now < ·.expires) else storage.lease id := by
  cases hrecord : storage.lease leaseId with
  | none =>
    rw [VaultStorage.expire, hrecord]
    split_ifs with hid
    · rw [hid, hrecord]
      rfl
    · rfl
  | some record =>
    have hnamed := h.named _ _ hrecord
    rw [VaultStorage.expire_of_stored hrecord]
    by_cases hid : id = leaseId
    · subst hid
      by_cases hexpired : record.expires ≤ now
      · simp [hexpired, VaultStorage.lease_without, hnamed, hrecord, Option.filter_some]
      · simp [hexpired, hrecord, Option.filter_some, not_le.mp hexpired]
    · by_cases hexpired : record.expires ≤ now
      · simp [hexpired, VaultStorage.lease_without, hnamed, hid]
      · simp [hexpired, hid]

/-- What removing the expired ones of some leases leaves. -/
theorem VaultStorage.Mirrors.expireAll (h : storage.Mirrors) (hread : storage.Readable)
    (now : ℤ) (ids : List String) : (storage.expireAll now ids).Mirrors ∧
      (storage.expireAll now ids).Readable ∧
      (storage.expireAll now ids).binding = storage.binding ∧
      (storage.expireAll now ids).tombstone = storage.tombstone ∧
      ∀ id, (storage.expireAll now ids).lease id = if id ∈ ids
        then (storage.lease id).filter (now < ·.expires) else storage.lease id := by
  induction ids generalizing storage with
  | nil => exact ⟨h, hread, rfl, rfl, fun _ => rfl⟩
  | cons leaseId rest ih =>
    obtain ⟨hmirrors, hreadable, hbinding, htombstone, hlease⟩ :=
      ih (h.expire now leaseId) (hread.expire leaseId)
    obtain ⟨hbinding', htombstone', -⟩ := VaultStorage.expire_frame now leaseId
    refine ⟨hmirrors, hreadable, hbinding.trans hbinding', htombstone.trans htombstone',
      fun id => (hlease id).trans ?_⟩
    simp only [h.lease_expire, List.mem_cons]
    by_cases hid : id = leaseId
    · by_cases hrest : id ∈ rest <;> simp [hid, Option.filter_filter]
    · simp [hid]

/-- A lease that passes the checks of the loops is removed when it has expired. -/
theorem expireLease_eq_ok (h : storage.Mirrors) (hread : storage.Readable) {leaseId : String}
    {record : LeaseRecord} (hrecord : storage.lease leaseId = some record)
    {result : Bool × VaultStorage} :
    expireLease now record leaseId storage = .ok result ↔ storage.Checked leaseId record ∧
      (decide (record.expires ≤ now), storage.expire now leaseId) = result := by
  have halive := h.alive leaseId record hrecord
  have hremove := removeLease_eq h hread record
  simp only [expireLease, bind_eq_ok, assertLease, require_eq_ok, exists_const,
    requireVaultBinding, fetch_eq_ok, assertVaultBinding, checkLeaseTombstone, halive,
    Except.ok.injEq, VaultStorage.expire_of_stored hrecord]
  constructor
  · rintro ⟨hvalid, ⟨binding, hbinding, hbound⟩, destroyed, rfl, hresult⟩
    refine ⟨⟨hvalid, binding, hbinding, hbound⟩, ?_⟩
    by_cases hexpired : record.expires ≤ now
    · simpa [hexpired, hremove] using hresult
    · simpa [hexpired] using hresult
  · rintro ⟨⟨hvalid, binding, hbinding, hbound⟩, hresult⟩
    refine ⟨hvalid, ⟨binding, hbinding, hbound⟩, false, rfl, ?_⟩
    by_cases hexpired : record.expires ≤ now
    · simpa [hexpired, hremove] using hresult
    · simpa [hexpired] using hresult

/-! ## The next alarm -/

/-- The least of some values, or nothing when there is none. -/
def LeastOf (next : Option ℤ) (values : Set ℤ) : Prop :=
  match next with
  | none => values = ∅
  | some value => IsLeast values value

theorem LeastOf.insert {next : Option ℤ} {values : Set ℤ} (h : LeastOf next values) (value : ℤ) :
    LeastOf (some (next.elim value (min · value))) (insert value values) := by
  cases next with
  | none =>
    rw [show values = ∅ from h]
    simp [LeastOf]
  | some least =>
    rw [Option.elim_some, min_comm]
    exact IsLeast.insert value h

theorem LeastOf.unique {next next' : Option ℤ} {values : Set ℤ} (h : LeastOf next values)
    (h' : LeastOf next' values) : next = next' := by
  rcases next with _ | least <;> rcases next' with _ | least'
  · rfl
  · rw [show values = ∅ from h] at h'
    exact absurd h'.1 (Set.notMem_empty _)
  · rw [show values = ∅ from h'] at h
    exact absurd h.1 (Set.notMem_empty _)
  · exact congrArg some (IsLeast.unique h h')

/-- The expiry times of the stored leases. -/
def VaultStorage.expiries (storage : VaultStorage) : Set ℤ :=
  {time | ∃ id record, storage.lease id = some record ∧ record.expires = time}

/-- The alarm is set for the least expiry time of a stored lease. -/
def VaultStorage.AlarmSet (storage : VaultStorage) : Prop :=
  LeastOf storage.alarm storage.expiries

/-- The next expiry after one turn of the loop. -/
def nextExpiry (now : ℤ) (state : VaultStorage × Option ℤ) (leaseId : String) : Option ℤ :=
  match state.1.lease leaseId with
  | none => state.2
  | some record => if record.expires ≤ now then state.2
    else some (state.2.elim record.expires (min · record.expires))

/-- One turn of the loop when its checks pass. -/
def scheduleTurn (now : ℤ) (state : VaultStorage × Option ℤ) (leaseId : String) :
    VaultStorage × Option ℤ :=
  (state.1.expire now leaseId, nextExpiry now state leaseId)

theorem scheduleTurn_fst (ids : List String) (state : VaultStorage × Option ℤ) :
    (ids.foldl (scheduleTurn now) state).1 = state.1.expireAll now ids := by
  induction ids generalizing state with
  | nil => rfl
  | cons id rest ih => exact ih _

/-- The loop finds the least expiry of the leases it keeps. -/
theorem scheduleTurn_snd (h : storage.Mirrors) (now : ℤ) {ids : List String} (hnodup : ids.Nodup)
    {next : Option ℤ} {values : Set ℤ} (hnext : LeastOf next values) :
    LeastOf (ids.foldl (scheduleTurn now) (storage, next)).2
      (values ∪ {time | ∃ id ∈ ids, ∃ record, storage.lease id = some record ∧
        now < record.expires ∧ record.expires = time}) := by
  induction ids generalizing storage next values with
  | nil => simpa using hnext
  | cons id rest ih =>
    obtain ⟨hfresh, hrest⟩ := List.nodup_cons.mp hnodup
    have hlater : ∀ other ∈ rest, (storage.expire now id).lease other = storage.lease other := by
      intro other hother
      rw [h.lease_expire, if_neg fun (he : other = id) => hfresh (he ▸ hother)]
    have hvalues : {time | ∃ other ∈ rest, ∃ record,
          (storage.expire now id).lease other = some record ∧ now < record.expires ∧
            record.expires = time} =
        {time | ∃ other ∈ rest, ∃ record, storage.lease other = some record ∧
          now < record.expires ∧ record.expires = time} := by
      ext time
      constructor
      · rintro ⟨other, hother, record, hrecord, hlive⟩
        exact ⟨other, hother, record, hlater other hother ▸ hrecord, hlive⟩
      · rintro ⟨other, hother, record, hrecord, hlive⟩
        exact ⟨other, hother, record, (hlater other hother).trans hrecord, hlive⟩
    -- the values so far, with the expiry of this lease when it is kept
    have hturn : LeastOf (nextExpiry now (storage, next) id)
        (values ∪ {time | ∃ record, storage.lease id = some record ∧ now < record.expires ∧
          record.expires = time}) := by
      rw [nextExpiry]
      cases hrecord : storage.lease id with
      | none => simpa using hnext
      | some record =>
        dsimp only
        split_ifs with hexpired
        · simpa [not_lt.mpr hexpired] using hnext
        · have hinsert := hnext.insert record.expires
          rwa [Set.insert_eq, Set.union_comm, show ({record.expires} : Set ℤ) =
            {time | ∃ other, some record = some other ∧ now < other.expires ∧
              other.expires = time} by
              ext time
              simp [not_le.mp hexpired, eq_comm]] at hinsert
    have hall := ih (h.expire now id) hrest hturn
    rw [hvalues, Set.union_assoc] at hall
    have hsplit : {time | ∃ other ∈ id :: rest, ∃ record, storage.lease other = some record ∧
          now < record.expires ∧ record.expires = time} =
        {time | ∃ record, storage.lease id = some record ∧ now < record.expires ∧
          record.expires = time} ∪
        {time | ∃ other ∈ rest, ∃ record, storage.lease other = some record ∧
          now < record.expires ∧ record.expires = time} := by
      ext time
      constructor
      · rintro ⟨other, hother, hlive⟩
        rcases List.mem_cons.mp hother with rfl | hother
        · exact .inl hlive
        · exact .inr ⟨other, hother, hlive⟩
      · rintro (hlive | ⟨other, hother, hlive⟩)
        · exact ⟨id, List.mem_cons_self, hlive⟩
        · exact ⟨other, List.mem_cons_of_mem _ hother, hlive⟩
    rw [hsplit]
    exact hall

/-- Every stored lease passes the checks of the loops. -/
structure VaultStorage.Schedulable (storage : VaultStorage) : Prop where
  readable : storage.Readable
  checked : ∀ id record, storage.lease id = some record → storage.Checked id record

/-- What is left of a storage at an instant, with the alarm set. -/
structure VaultStorage.PrunedTo (now : ℤ) (storage storage' : VaultStorage) : Prop where
  mirrors : storage'.Mirrors
  schedulable : storage'.Schedulable
  binding : storage'.binding = storage.binding
  tombstone : storage'.tombstone = storage.tombstone
  lease : ∀ id, storage'.lease id = (storage.lease id).filter (now < ·.expires)
  alarm : storage'.AlarmSet

/-- The leases that a loop over some of them still finds, with their checks pending. -/
def VaultStorage.Pending (base : VaultStorage) (ids : List String) (storage : VaultStorage) :
    Prop :=
  ids.Nodup ∧ storage.Mirrors ∧ storage.Readable ∧ storage.binding = base.binding ∧
    ∀ id ∈ ids, storage.lease id = base.lease id

theorem VaultStorage.Pending.expire {base : VaultStorage} {leaseId : String} {ids : List String}
    (h : base.Pending (leaseId :: ids) storage) :
    base.Pending ids (storage.expire now leaseId) := by
  obtain ⟨hnodup, hmirrors, hread, hbinding, hlease⟩ := h
  obtain ⟨hfresh, hnodup⟩ := List.nodup_cons.mp hnodup
  refine ⟨hnodup, hmirrors.expire now leaseId, hread.expire leaseId,
    (VaultStorage.expire_frame now leaseId).1.trans hbinding, fun id hid => ?_⟩
  rw [hmirrors.lease_expire, if_neg fun (he : id = leaseId) => hfresh (he ▸ hid)]
  exact hlease id (List.mem_cons_of_mem _ hid)

/-- The lease passes the checks if it is there. -/
def VaultStorage.Passes (storage : VaultStorage) (leaseId : String) : Prop :=
  ∀ record, storage.lease leaseId = some record → storage.Checked leaseId record

theorem VaultStorage.Checked.congr {leaseId : String} {record : LeaseRecord}
    (h : storage.Checked leaseId record) (hbinding : storage'.binding = storage.binding) :
    storage'.Checked leaseId record := ⟨h.valid, hbinding ▸ h.bound⟩

theorem VaultStorage.Pending.expireLease {base : VaultStorage} {leaseId : String}
    {ids : List String} (h : base.Pending (leaseId :: ids) storage) {record : LeaseRecord}
    (hrecord : storage.lease leaseId = some record) {result : Bool × VaultStorage} :
    expireLease now record leaseId storage = .ok result ↔ base.Passes leaseId ∧
      (decide (record.expires ≤ now), storage.expire now leaseId) = result := by
  obtain ⟨-, hmirrors, hread, hbinding, hlease⟩ := h
  have hbase := (hlease leaseId List.mem_cons_self).symm.trans hrecord
  rw [expireLease_eq_ok hmirrors hread hrecord]
  refine and_congr_left' ⟨fun hchecked other hother => ?_, fun hpasses => ?_⟩
  · rw [hbase] at hother
    exact Option.some.inj hother ▸ hchecked.congr hbinding.symm
  · exact (hpasses record hbase).congr hbinding

theorem scheduleEntry_eq_ok {base : VaultStorage} {leaseId : String} {ids : List String}
    {state result : VaultStorage × Option ℤ} (h : base.Pending (leaseId :: ids) state.1) :
    scheduleEntry now state leaseId = .ok result ↔
      base.Passes leaseId ∧ scheduleTurn now state leaseId = result := by
  have hbase := h.2.2.2.2 leaseId List.mem_cons_self
  rw [scheduleEntry, scheduleTurn, nextExpiry]
  cases hrecord : state.1.lease leaseId with
  | none =>
    simp only [VaultStorage.expire, hrecord, Except.ok.injEq]
    have hpasses : base.Passes leaseId := fun record h => by
      rw [← hbase, hrecord] at h
      cases h
    simp [hpasses]
  | some record =>
    simp only [bind_eq_ok, h.expireLease hrecord, pure_eq_ok]
    constructor
    · rintro ⟨_, ⟨hpasses, rfl⟩, rfl⟩
      simp [hpasses]
    · rintro ⟨hpasses, rfl⟩
      exact ⟨_, ⟨hpasses, rfl⟩, by simp⟩

theorem alarmEntry_eq_ok {base : VaultStorage} {leaseId : String} {ids : List String}
    (h : base.Pending (leaseId :: ids) storage) :
    alarmEntry now storage leaseId = .ok storage' ↔
      base.Passes leaseId ∧ storage.expire now leaseId = storage' := by
  have hbase := h.2.2.2.2 leaseId List.mem_cons_self
  rw [alarmEntry]
  cases hrecord : storage.lease leaseId with
  | none =>
    simp only [VaultStorage.expire, hrecord, Except.ok.injEq]
    have hpasses : base.Passes leaseId := fun record h => by
      rw [← hbase, hrecord] at h
      cases h
    simp [hpasses]
  | some record =>
    show Except.map Prod.snd _ = _ ↔ _
    simp only [map_eq_ok, h.expireLease hrecord]
    constructor
    · rintro ⟨_, ⟨hpasses, rfl⟩, rfl⟩
      exact ⟨hpasses, rfl⟩
    · rintro ⟨hpasses, rfl⟩
      exact ⟨_, ⟨hpasses, rfl⟩, rfl⟩

/-- The checks of the leases that the index names are those of all leases. -/
theorem VaultStorage.Mirrors.passes_iff (h : storage.Mirrors) :
    (∀ id ∈ storage.ids, storage.Passes id) ↔
      ∀ id record, storage.lease id = some record → storage.Checked id record :=
  ⟨fun hpasses id record hrecord =>
      hpasses id ((h.indexed id).mpr ⟨record, hrecord⟩) record hrecord,
    fun hchecked id _ record hrecord => hchecked id record hrecord⟩

theorem VaultStorage.Mirrors.pending (h : storage.Mirrors) (hread : storage.Readable) :
    storage.Pending storage.ids storage := ⟨h.nodup, h, hread, rfl, fun _ _ => rfl⟩

/-- All the leases that have expired are removed. -/
theorem VaultStorage.Mirrors.lease_expireAll (h : storage.Mirrors) (hread : storage.Readable)
    (now : ℤ) (id : String) : (storage.expireAll now storage.ids).lease id =
      (storage.lease id).filter (now < ·.expires) := by
  rw [(h.expireAll hread now storage.ids).2.2.2.2 id]
  split_ifs with hid
  · rfl
  · cases hrecord : storage.lease id with
    | none => rfl
    | some record => exact absurd ((h.indexed id).mpr ⟨record, hrecord⟩) hid

theorem VaultStorage.Schedulable.filter (h : storage.Schedulable)
    (hread : storage'.Readable) (hbinding : storage'.binding = storage.binding)
    (hlease : ∀ id, storage'.lease id = (storage.lease id).filter (now < ·.expires)) :
    storage'.Schedulable := by
  refine ⟨hread, fun id record hrecord => ?_⟩
  rw [hlease, Option.filter_eq_some_iff] at hrecord
  exact (h.checked id record hrecord.1).congr hbinding

/-- The storage that rescheduling leaves. -/
def VaultStorage.pruned (now : ℤ) (storage : VaultStorage) : VaultStorage :=
  let state := storage.ids.foldl (scheduleTurn now) (storage, none)
  { state.1 with alarm := state.2 }

theorem VaultStorage.Mirrors.congr (h : storage.Mirrors) (hlease : storage'.lease = storage.lease)
    (hindex : storage'.leaseIndex = storage.leaseIndex)
    (hsession : storage'.sessionIndex = storage.sessionIndex)
    (htombstone : storage'.tombstone = storage.tombstone) : storage'.Mirrors := by
  obtain ⟨lease, leaseIndex, sessionIndex, binding, tombstone, alarm⟩ := storage
  obtain ⟨lease', leaseIndex', sessionIndex', binding', tombstone', alarm'⟩ := storage'
  dsimp only at hlease hindex hsession htombstone
  subst hlease hindex hsession htombstone
  exact ⟨h.indexed, h.nodup, h.session, h.sessionNodup, h.named, h.alive⟩

theorem VaultStorage.Readable.congr (h : storage.Readable)
    (hindex : storage'.leaseIndex = storage.leaseIndex) : storage'.Readable := by
  have hids : storage'.ids = storage.ids := by rw [VaultStorage.ids, hindex, VaultStorage.ids]
  exact ⟨hids ▸ h.length, hids ▸ h.bounded⟩

/-- Rescheduling removes the leases that have expired and finds the least expiry of the others. -/
theorem VaultStorage.Mirrors.prunedTo (h : storage.Mirrors) (hcheck : storage.Schedulable)
    (now : ℤ) :
    VaultStorage.PrunedTo now storage (storage.pruned now) := by
  have hfst : (storage.ids.foldl (scheduleTurn now) (storage, none)).1 =
      storage.expireAll now storage.ids := scheduleTurn_fst storage.ids (storage, none)
  obtain ⟨hmirrors, hread, hbinding, htombstone, -⟩ :=
    h.expireAll hcheck.readable now storage.ids
  have hlease : ∀ id, (storage.pruned now).lease id =
      (storage.lease id).filter (now < ·.expires) := by
    intro id
    rw [← h.lease_expireAll hcheck.readable now id, ← hfst]
    rfl
  rw [← hfst] at hmirrors hread hbinding htombstone
  refine ⟨hmirrors.congr rfl rfl rfl rfl, hcheck.filter (hread.congr rfl) hbinding hlease,
    hbinding, htombstone, hlease, ?_⟩
  have hleast := scheduleTurn_snd h now h.nodup (show LeastOf none ∅ from rfl)
  rw [Set.empty_union] at hleast
  rw [VaultStorage.AlarmSet, show (storage.pruned now).expiries =
    {time | ∃ id ∈ storage.ids, ∃ record, storage.lease id = some record ∧
      now < record.expires ∧ record.expires = time} from ?_]
  · exact hleast
  · ext time
    constructor
    · rintro ⟨id, record, hrecord, htime⟩
      rw [hlease, Option.filter_eq_some_iff, decide_eq_true_eq] at hrecord
      exact ⟨id, (h.indexed id).mpr ⟨record, hrecord.1⟩, record, hrecord.1, hrecord.2, htime⟩
    · rintro ⟨id, -, record, hrecord, hlive, htime⟩
      refine ⟨id, record, ?_, htime⟩
      rw [hlease, Option.filter_eq_some_iff, decide_eq_true_eq]
      exact ⟨hrecord, hlive⟩

/-- Rescheduling fails exactly when a lease does not pass the checks. -/
theorem scheduleNextAlarm_eq_ok (h : storage.Mirrors) :
    scheduleNextAlarm now storage = .ok storage' ↔
      storage.Schedulable ∧ storage.pruned now = storage' := by
  have hloop : storage.Readable → ∀ state, forEach (scheduleEntry now) storage.ids (storage, none) =
      .ok state ↔ (∀ id ∈ storage.ids, storage.Passes id) ∧
        storage.ids.foldl (scheduleTurn now) (storage, none) = state := by
    intro hread state
    exact @forEach_eq_ok_foldl _ _ _ _ (scheduleTurn now)
      (fun ids (state : VaultStorage × Option ℤ) => storage.Pending ids state.1) storage.Passes
      (fun _ _ _ _ hpending => scheduleEntry_eq_ok hpending)
      (fun _ _ _ hpending _ => hpending.expire) _ _ _ (h.pending hread)
  simp only [scheduleNextAlarm, bind_eq_ok, pure_eq_ok]
  constructor
  · rintro ⟨ids, hids, state, hstate, hresult⟩
    have hread := readIds_readable hids
    obtain rfl := Except.ok.inj ((h.readIds hread).symm.trans hids)
    obtain ⟨hpasses, rfl⟩ := (hloop hread state).mp hstate
    exact ⟨⟨hread, h.passes_iff.mp hpasses⟩, hresult⟩
  · rintro ⟨⟨hread, hchecked⟩, hresult⟩
    exact ⟨_, h.readIds hread, _, (hloop hread _).mpr ⟨h.passes_iff.mpr hchecked, rfl⟩, hresult⟩

/-! ## Failures -/

theorem rolls_removeLease (record : LeaseRecord) : Rolls (removeLease record storage) := by
  simp [removeLease, rolls_readIds]

theorem rolls_requireVaultBinding (binding : Option VaultSessionBinding)
    (workspaceId sessionId : String) :
    Rolls (requireVaultBinding binding workspaceId sessionId) := by
  simp [requireVaultBinding, assertVaultBinding, vaultFailure]

theorem rolls_expireLease (record : LeaseRecord) (leaseId : String) :
    Rolls (expireLease now record leaseId storage) := by
  have htombstone : Rolls (checkLeaseTombstone record storage) := by
    rw [checkLeaseTombstone]
    split <;> simp [assertVaultTombstone, vaultFailure]
  simp only [expireLease, assertLease, rolls_bind, rolls_require, vaultFailure, or_true, true_and]
  intro _ _
  refine ⟨rolls_requireVaultBinding _ _ _, fun _ _ => ⟨htombstone, fun _ _ => ?_⟩⟩
  split_ifs <;> simp [rolls_removeLease]

theorem rolls_scheduleNextAlarm : Rolls (scheduleNextAlarm now storage) := by
  have hentry : ∀ state leaseId, Rolls (scheduleEntry now state leaseId) := by
    intro state leaseId
    rw [scheduleEntry]
    split
    · exact rolls_ok _
    · simp [rolls_expireLease]
  simp [scheduleNextAlarm, rolls_readIds, rolls_forEach hentry]

end Quillframe.Cloud
