import Quillframe.Cloud.VaultRuns

/-!
# Reads with and without alarms

Two storages agree at an instant when they hold the same leases that have not expired by then. An
alarm keeps the agreement. A read tells two storages that agree apart when it comes at the very
end of the idle time of a lease, and so does a lease that meets a full index of expired leases.
-/
namespace Quillframe.Cloud

open Transaction

inductive VaultCall where
  | lease (input : SecretLeaseInput) (tokens : LeaseTokens)
  | read (leaseId : String) (identity : VaultIdentity)
  | destroy (identity : VaultIdentity)
  | alarm
  deriving DecidableEq, Repr

/-- A call with the clock reading it takes. -/
structure TimedVaultCall where
  call : VaultCall
  now : ℤ
  deriving DecidableEq, Repr

section Calls

variable (sealSecret : String → String → String → Envelope)
  (openSecret : Envelope → String → Option String)

/-- `readSecret`, with nothing between its two transactions. -/
def readSecret (leaseId : String) (identity : VaultIdentity) (now : ℤ) (storage : VaultStorage) :
    Except SessionVaultError VaultAnswer × VaultStorage :=
  match run storage (probeSecret leaseId identity now storage) with
  | (.ok probe, storage') =>
    PendingRead.finish openSecret ⟨leaseId, identity, probe, now⟩ storage'
  | (.error error, storage') => (.error error, storage')

/-- The answer of a call and the storage after it. -/
def TimedVaultCall.outcome (timed : TimedVaultCall) (storage : VaultStorage) :
    Except SessionVaultError VaultAnswer × VaultStorage :=
  match timed.call with
  | .lease input tokens => Prod.map (Except.map .leased) id
    (run storage (leaseSecret sealSecret input tokens timed.now storage))
  | .read leaseId identity => readSecret openSecret leaseId identity timed.now storage
  | .destroy identity => Prod.map (Except.map .destroyed) id
    (run storage (destroyVaultSession identity timed.now storage))
  | .alarm => Prod.map (Except.map fun _ => .done) id
    (run storage (Cloud.alarm timed.now storage))

/-- The secret that an answer returns. -/
def secretOf : Except SessionVaultError VaultAnswer → Option String
  | .ok (.secret text) => some text
  | _ => none

/-- Which reads of a run succeed and the secrets they return. -/
def readResults : List TimedVaultCall → VaultStorage → List (Option String)
  | [], _ => []
  | timed :: rest, storage =>
    let (answer, storage') := timed.outcome sealSecret openSecret storage
    match timed.call with
    | .read _ _ => secretOf answer :: readResults rest storage'
    | _ => readResults rest storage'

/-- The run without its alarms. -/
def withoutAlarms (calls : List TimedVaultCall) : List TimedVaultCall :=
  calls.filter (·.call ≠ .alarm)

/-- The call does not come at the very end of the idle time of the lease it reads, and does not
make a lease while the index is full and one of its leases has expired. -/
def TimedVaultCall.Regular (timed : TimedVaultCall) (storage : VaultStorage) : Prop :=
  match timed.call with
  | .read leaseId identity => ∀ record, storage.lease leaseId = some record →
    record.sessionId = identity.sessionId → timed.now = record.lastAccessedAt + idleMs →
    record.absoluteExpiresAt ≤ timed.now
  | .lease _ _ => storage.ids.length = maxIndex → ∀ id record,
    storage.lease id = some record → timed.now < record.expires
  | _ => True

/-- Every call of the run is regular where it is made. -/
def RegularRun : List TimedVaultCall → VaultStorage → Prop
  | [], _ => True
  | timed :: rest, storage => timed.Regular storage ∧
    RegularRun rest (timed.outcome sealSecret openSecret storage).2

end Calls

/-- The id of the lease that a call makes. -/
def TimedVaultCall.leaseId? (timed : TimedVaultCall) : Option String :=
  match timed.call with
  | .lease _ tokens => some tokens.leaseId
  | _ => none

variable {sealSecret : String → String → String → Envelope}
  {openSecret : Envelope → String → Option String} {storage storage' base base' : VaultStorage}
  {now time : ℤ}

/-! ## Agreement -/

/-- The same bindings and tombstones, and the same leases that have not expired. -/
structure AgreeAt (time : ℤ) (storage storage' : VaultStorage) : Prop where
  binding : storage'.binding = storage.binding
  tombstone : storage'.tombstone = storage.tombstone
  lease : ∀ id, (storage'.lease id).filter (time < ·.expires) =
    (storage.lease id).filter (time < ·.expires)

theorem AgreeAt.refl (time : ℤ) (storage : VaultStorage) : AgreeAt time storage storage :=
  ⟨rfl, rfl, fun _ => rfl⟩

theorem AgreeAt.symm (h : AgreeAt time storage storage') : AgreeAt time storage' storage :=
  ⟨h.binding.symm, h.tombstone.symm, fun id => (h.lease id).symm⟩

theorem AgreeAt.trans {other : VaultStorage} (h : AgreeAt time storage storage')
    (h' : AgreeAt time storage' other) : AgreeAt time storage other :=
  ⟨h'.binding.trans h.binding, h'.tombstone.trans h.tombstone,
    fun id => (h'.lease id).trans (h.lease id)⟩

/-- Storages that agree still agree later. -/
theorem AgreeAt.later (h : AgreeAt time storage storage') (hle : time ≤ now) :
    AgreeAt now storage storage' := by
  refine ⟨h.binding, h.tombstone, fun id => ?_⟩
  have hfilter : ∀ lease : Option LeaseRecord,
      (lease.filter (time < ·.expires)).filter (now < ·.expires) =
        lease.filter (now < ·.expires) := by
    intro lease
    rw [Option.filter_filter]
    congr 1
    funext record
    simp only [Bool.and_eq_right_iff_imp, decide_eq_true_eq]
    omega
  rw [← hfilter (storage'.lease id), h.lease id, hfilter]

/-- A lease that has not expired is in both storages. -/
theorem AgreeAt.stored (h : AgreeAt now storage storage') {id : String} {record : LeaseRecord}
    (hrecord : storage.lease id = some record) (hlive : now < record.expires) :
    storage'.lease id = some record := by
  have hsame := h.lease id
  rw [hrecord, Option.filter_some, if_pos (by simpa using hlive),
    Option.filter_eq_some_iff] at hsame
  exact hsame.1

/-- Removing expired leases keeps the agreement. -/
theorem VaultStorage.PrunedTo.agree (h : VaultStorage.PrunedTo now base storage) :
    AgreeAt now base storage := by
  refine ⟨h.binding, h.tombstone, fun id => ?_⟩
  rw [h.lease, Option.filter_filter]
  simp

theorem VaultStorage.PrunedTo.agree_of (h : VaultStorage.PrunedTo now base storage)
    (h' : VaultStorage.PrunedTo now base' storage') (hbase : AgreeAt now base base') :
    AgreeAt now storage storage' :=
  h.agree.symm.trans (hbase.trans h'.agree)

/-! ## One read -/

/-- What a read needs to return a secret. -/
structure VaultStorage.Serves (openSecret : Envelope → String → Option String)
    (storage : VaultStorage) (leaseId : String) (identity : VaultIdentity) (now : ℤ)
    (record : LeaseRecord) (text : String) : Prop where
  offers : storage.Offers leaseId identity record
  fresh : ¬ record.Stale now
  opens : openSecret record.toEnvelope
    (leaseAad record.workspaceId record.sessionId record.leaseId record.purpose) = some text
  schedulable : (storage.touch leaseId record now).Schedulable

/-- A read returns the secret of the lease it sets the access time of, or it fails and removes
only expired leases. -/
theorem readSecret_cases (h : storage.Exact) (now : ℤ) (leaseId : String)
    (identity : VaultIdentity) :
    (∃ record text storage', storage.Serves openSecret leaseId identity now record text ∧
      readSecret openSecret leaseId identity now storage = (.ok (.secret text), storage') ∧
      VaultStorage.PrunedTo now (storage.touch leaseId record now) storage') ∨
    ((∀ record text, ¬ storage.Serves openSecret leaseId identity now record text) ∧
      ∃ error storage', readSecret openSecret leaseId identity now storage =
        (.error error, storage') ∧ (storage' = storage ∨
          VaultStorage.PrunedTo now storage storage')) := by
  rcases probeSecret_run h now leaseId identity with
    ⟨error, hrun, hrefused⟩ | ⟨record, hoffers, hcases⟩
  · right
    refine ⟨fun record _ hserves => hrefused record hserves.offers, error, storage, ?_, .inl rfl⟩
    rw [readSecret, hrun]
  · have hsame : ∀ other, storage.Offers leaseId identity other → other = record :=
      fun other hother => Option.some.inj (hother.stored.symm.trans hoffers.stored)
    split_ifs at hcases with hstale
    · right
      obtain ⟨error, storage', hrun, hpruned⟩ := hcases
      refine ⟨fun other _ hserves => ?_, error, storage', ?_, .inr hpruned⟩
      · exact hserves.fresh (hsame other hserves.offers ▸ hstale)
      · rw [readSecret, hrun]
    · rw [readSecret, hcases]
      dsimp only [PendingRead.finish]
      cases hopen : openSecret record.toEnvelope
          (leaseAad record.workspaceId record.sessionId record.leaseId record.purpose) with
      | none =>
        right
        refine ⟨fun other text hserves => ?_, _, storage, rfl, .inl rfl⟩
        have hopens := hserves.opens
        rw [hsame other hserves.offers, hopen] at hopens
        cases hopens
      | some text =>
        rcases commitSecret_run h now leaseId identity record with
          ⟨error, hrun, hrefused⟩ | ⟨current, storage', hconfirms, hrun, hpruned⟩
        · right
          refine ⟨fun other text' hserves => ?_, error, storage, by rw [hrun]; rfl, .inl rfl⟩
          obtain rfl := hsame other hserves.offers
          exact hrefused other ⟨hoffers.bound, hoffers.alive, hoffers.stored,
            ⟨hoffers.owned.1, hoffers.owned.2, rfl, rfl, rfl⟩, hserves.schedulable⟩
        · left
          obtain rfl : current = record :=
            Option.some.inj (hconfirms.stored.symm.trans hoffers.stored)
          exact ⟨current, text, storage', ⟨hoffers, hstale, hopen, hconfirms.schedulable⟩,
            by rw [hrun]; rfl, hpruned⟩

/-- A read that returns a secret returns it from every storage that agrees. -/
theorem VaultStorage.Serves.of_agree {leaseId : String} {identity : VaultIdentity}
    {record : LeaseRecord} {text : String}
    (hserves : storage.Serves openSecret leaseId identity now record text)
    (hregular : (TimedVaultCall.mk (.read leaseId identity) now).Regular storage)
    (hexact : storage'.Exact) (hagree : AgreeAt now storage storage') :
    storage'.Serves openSecret leaseId identity now record text := by
  obtain ⟨hoffers, hfresh, hopens, hschedulable⟩ := hserves
  have hlive : now < record.expires := by
    rw [LeaseRecord.Stale, not_or] at hfresh
    rw [LeaseRecord.expires, lt_min_iff]
    have hend := hregular record hoffers.stored hoffers.owned.2
    dsimp only at hend
    omega
  have hstored := hagree.stored hoffers.stored hlive
  refine ⟨⟨hoffers.bounded, hagree.binding ▸ hoffers.bound, hagree.tombstone ▸ hoffers.alive,
    hstored, hoffers.owned⟩, hfresh, hopens, ⟨hexact.schedulable.readable.congr rfl,
    fun id other hother => ?_⟩⟩
  rw [VaultStorage.lease_touch] at hother
  split_ifs at hother with hid
  · refine (hschedulable.checked id other ?_).congr hagree.binding
    rw [VaultStorage.lease_touch, if_pos hid, hother]
  · exact (hexact.schedulable.checked id other hother).congr rfl

theorem AgreeAt.touch (h : AgreeAt now storage storage') (leaseId : String)
    (record : LeaseRecord) :
    AgreeAt now (storage.touch leaseId record now) (storage'.touch leaseId record now) := by
  refine ⟨h.binding, h.tombstone, fun id => ?_⟩
  rw [VaultStorage.lease_touch, VaultStorage.lease_touch]
  split_ifs
  · rfl
  · exact h.lease id

/-! ## One lease and one destroyed session -/

theorem VaultStorage.binding_bind_congr (h : storage'.binding = storage.binding)
    (identity : VaultIdentity) :
    (storage'.bind identity now).binding = (storage.bind identity now).binding := by
  rw [VaultStorage.bind, VaultStorage.bind, h]
  cases storage.binding identity.sessionId with
  | none => rfl
  | some _ => exact h

theorem VaultStorage.lease_leased (record : LeaseRecord) (id : String) :
    (storage.leased record now).lease id =
      if id = record.leaseId then some record else storage.lease id := by
  rw [VaultStorage.leased, VaultStorage.lease_withLease, (VaultStorage.bind_frame _).1]

theorem AgreeAt.leased (h : AgreeAt now storage storage') (record : LeaseRecord) :
    AgreeAt now (storage.leased record now) (storage'.leased record now) := by
  refine ⟨VaultStorage.binding_bind_congr h.binding _, ?_, fun id => ?_⟩
  · have hframe := @VaultStorage.bind_frame storage now ⟨record.workspaceId, record.sessionId⟩
    have hframe' := @VaultStorage.bind_frame storage' now ⟨record.workspaceId, record.sessionId⟩
    exact hframe'.2.2.2.1.trans (h.tombstone.trans hframe.2.2.2.1.symm)
  · rw [VaultStorage.lease_leased, VaultStorage.lease_leased]
    split_ifs
    · rfl
    · exact h.lease id

/-- A full index without an expired lease is full in every storage that agrees. -/
theorem AgreeAt.full (h : AgreeAt now storage storage') (hexact : storage.Exact)
    (hexact' : storage'.Exact) (hfull : storage'.ids.length = maxIndex)
    (hlive : ∀ id record, storage'.lease id = some record → now < record.expires) :
    maxIndex ≤ storage.ids.length := by
  have hsubset : storage'.ids ⊆ storage.ids := by
    intro id hid
    obtain ⟨record, hrecord⟩ := (hexact'.mirrors.indexed id).mp hid
    exact (hexact.mirrors.indexed id).mpr
      ⟨record, h.symm.stored hrecord (hlive id record hrecord)⟩
  rw [← hfull]
  exact (hexact'.mirrors.nodup.subperm hsubset).length_le

theorem VaultStorage.Accepts.of_agree {input : SecretLeaseInput} {tokens : LeaseTokens}
    (haccepts : storage.Accepts input (leaseRecord sealSecret input tokens now) now)
    (hregular : (TimedVaultCall.mk (.lease input tokens) now).Regular storage')
    (hexact : storage.Exact) (hexact' : storage'.Exact) (hagree : AgreeAt now storage storage') :
    storage'.Accepts input (leaseRecord sealSecret input tokens now) now := by
  obtain ⟨hbounded, hsecret, halive, hbound, ⟨hread, hchecked⟩⟩ := haccepts
  have hindex : ∀ s : VaultStorage, (s.leased (leaseRecord sealSecret input tokens now) now).ids =
      s.ids ++ [tokens.leaseId] := by
    intro s
    show (s.bind _ now).ids ++ _ = _
    rw [VaultStorage.ids, (VaultStorage.bind_frame _).2.1]
    rfl
  refine ⟨hbounded, hsecret, hagree.tombstone ▸ halive, fun binding hbinding => ?_, ⟨⟨?_, ?_⟩, ?_⟩⟩
  · exact hbound binding (hagree.binding ▸ hbinding)
  · have hlength := hread.length
    have hlength' := hexact'.schedulable.readable.length
    rw [hindex, List.length_append, List.length_singleton] at hlength ⊢
    by_contra hover
    have hfull : storage'.ids.length = maxIndex := by omega
    have := hagree.full hexact hexact' hfull (hregular hfull)
    omega
  · intro id hid
    rw [hindex, List.mem_append, List.mem_singleton] at hid
    rcases hid with hid | rfl
    · exact hexact'.schedulable.readable.bounded id hid
    · exact hread.bounded tokens.leaseId (by rw [hindex]; simp)
  · intro id record hrecord
    rw [VaultStorage.lease_leased] at hrecord
    split_ifs at hrecord with hid
    · refine (hchecked id record ?_).congr (hagree.leased _).binding
      rw [VaultStorage.lease_leased, if_pos hid, hrecord]
    · obtain ⟨hvalid, binding, hbinding, hvalid'⟩ :=
        hexact'.schedulable.checked id record hrecord
      exact ⟨hvalid, binding, VaultStorage.binding_bind _ hbinding, hvalid'⟩

theorem AgreeAt.destroyed (h : AgreeAt now storage storage') (identity : VaultIdentity) :
    AgreeAt now (storage.destroyed identity now) (storage'.destroyed identity now) := by
  refine ⟨VaultStorage.binding_bind_congr h.binding _, ?_, fun id => ?_⟩
  · simp only [VaultStorage.destroyed, h.tombstone]
  · have hcomm : ∀ lease : Option LeaseRecord,
        (lease.filter (·.sessionId ≠ identity.sessionId)).filter (now < ·.expires) =
          (lease.filter (now < ·.expires)).filter (·.sessionId ≠ identity.sessionId) := by
      intro lease
      rw [Option.filter_filter, Option.filter_filter]
      congr 1
      funext record
      exact Bool.and_comm _ _
    show ((storage'.lease id).filter _).filter _ = ((storage.lease id).filter _).filter _
    rw [hcomm, hcomm, h.lease]

/-! ## Runs -/

/-- An alarm keeps the agreement with every storage. -/
theorem alarm_agree (sealSecret : String → String → String → Envelope)
    (openSecret : Envelope → String → Option String) (h : storage.Exact)
    (hagree : AgreeAt now storage base) :
    ∃ storage', (TimedVaultCall.mk .alarm now).outcome sealSecret openSecret storage =
        (.ok .done, storage') ∧ AgreeAt now storage' base := by
  obtain ⟨storage', hrun, hpruned⟩ := alarm_run h now
  refine ⟨storage', ?_, hpruned.agree.symm.trans hagree⟩
  simp only [TimedVaultCall.outcome, hrun]
  rfl

/-- A call that no alarm is does the same in storages that agree. -/
theorem call_agree (sealSecret : String → String → String → Envelope)
    (openSecret : Envelope → String → Option String) (timed : TimedVaultCall) (hcall : timed.call ≠ .alarm)
    (h : storage.Exact) (h' : storage'.Exact) (hagree : AgreeAt timed.now storage storage')
    (hregular : timed.Regular storage) (hregular' : timed.Regular storage')
    (hfresh : ∀ id, timed.leaseId? = some id → storage.lease id = none ∧ storage'.lease id = none) :
    AgreeAt timed.now (timed.outcome sealSecret openSecret storage).2
        (timed.outcome sealSecret openSecret storage').2 ∧
      (∀ leaseId identity, timed.call = .read leaseId identity →
        secretOf (timed.outcome sealSecret openSecret storage).1 =
          secretOf (timed.outcome sealSecret openSecret storage').1) := by
  obtain ⟨call, now⟩ := timed
  cases call with
  | alarm => exact absurd rfl hcall
  | lease input tokens =>
    refine ⟨?_, fun _ _ hread => nomatch hread⟩
    obtain ⟨hnew, hnew'⟩ := hfresh _ rfl
    simp only [TimedVaultCall.outcome]
    rcases @leaseSecret_run _ sealSecret h now input tokens hnew with
      ⟨error, hrun, hrefused⟩ | ⟨haccepts, after, hrun, hpruned⟩ <;>
      rcases @leaseSecret_run _ sealSecret h' now input tokens hnew' with
        ⟨error', hrun', hrefused'⟩ | ⟨haccepts', after', hrun', hpruned'⟩ <;>
      rw [hrun, hrun']
    · exact hagree
    · exact absurd (haccepts'.of_agree hregular h' h hagree.symm) hrefused
    · exact absurd (haccepts.of_agree hregular' h h' hagree) hrefused'
    · exact hpruned.agree_of hpruned' (hagree.leased _)
  | read leaseId identity =>
    simp only [TimedVaultCall.outcome]
    rcases @readSecret_cases openSecret _ h now leaseId identity with
      ⟨record, text, after, hserves, hrun, hpruned⟩ | ⟨hrefused, error, after, hrun, hafter⟩ <;>
      rcases @readSecret_cases openSecret _ h' now leaseId identity with
        ⟨record', text', after', hserves', hrun', hpruned'⟩ |
        ⟨hrefused', error', after', hrun', hafter'⟩ <;>
      rw [hrun, hrun']
    · have hboth := hserves.of_agree hregular h' hagree
      obtain rfl : record = record' :=
        Option.some.inj (hboth.offers.stored.symm.trans hserves'.offers.stored)
      obtain rfl : text = text' := Option.some.inj (hboth.opens.symm.trans hserves'.opens)
      exact ⟨hpruned.agree_of hpruned' (hagree.touch _ _), fun _ _ _ => rfl⟩
    · exact absurd (hserves.of_agree hregular h' hagree) (hrefused' record text)
    · exact absurd (hserves'.of_agree hregular' h hagree.symm) (hrefused record' text')
    · refine ⟨?_, fun _ _ _ => rfl⟩
      have hbefore : AgreeAt now storage after := by
        rcases hafter with rfl | hpruned
        · exact AgreeAt.refl now _
        · exact hpruned.agree
      have hbefore' : AgreeAt now storage' after' := by
        rcases hafter' with rfl | hpruned
        · exact AgreeAt.refl now _
        · exact hpruned.agree
      exact hbefore.symm.trans (hagree.trans hbefore')
  | destroy identity =>
    refine ⟨?_, fun _ _ hread => nomatch hread⟩
    have hsame : storage'.BindingOk identity ↔ storage.BindingOk identity := by
      rw [VaultStorage.BindingOk, VaultStorage.BindingOk, hagree.binding]
    simp only [TimedVaultCall.outcome, Prod.map_snd, id]
    rcases destroyVaultSession_run h now identity with
      ⟨hcause, hrun, -⟩ | ⟨halive, hbounded, hbound, count, after, hrun, hpruned⟩ <;>
      rcases destroyVaultSession_run h' now identity with
        ⟨hcause', hrun', -⟩ | ⟨halive', hbounded', hbound', count', after', hrun', hpruned'⟩
    · rw [hrun, hrun']
      exact hagree
    · rw [hagree.tombstone] at halive'
      rcases hcause with hdead | hinvalid | hconflict
      · exact absurd halive' hdead
      · exact absurd hbounded' hinvalid
      · exact absurd (hsame.mp hbound') hconflict
    · rw [hagree.tombstone] at hcause'
      rcases hcause' with hdead | hinvalid | hconflict
      · exact absurd halive hdead
      · exact absurd hbounded hinvalid
      · exact absurd (hsame.mpr hbound) hconflict
    · rw [hrun, hrun']
      exact hpruned.agree_of hpruned' (hagree.destroyed identity)

theorem call_effect (sealSecret : String → String → String → Envelope)
    (openSecret : Envelope → String → Option String) (timed : TimedVaultCall) (h : storage.Exact)
    (hfresh : ∀ id, timed.leaseId? = some id → storage.lease id = none) :
    VaultEffect timed.leaseId? storage (timed.outcome sealSecret openSecret storage).2 := by
  obtain ⟨call, now⟩ := timed
  cases call with
  | lease input tokens =>
    exact @event_effect sealSecret openSecret (.lease input tokens now) ⟨storage, []⟩ h hfresh
  | read leaseId identity =>
    show VaultEffect none storage (readSecret openSecret leaseId identity now storage).2
    rcases @readSecret_cases openSecret _ h now leaseId identity with
      ⟨record, text, after, hserves, hrun, hpruned⟩ | ⟨-, error, after, hrun, hafter⟩ <;> rw [hrun]
    · refine hpruned.effect (fun id hid => .inl ?_) fun _ hdead => hdead
      rw [VaultStorage.lease_touch] at hid
      split_ifs at hid with he
      · rw [he, hserves.offers.stored]
        exact Option.some_ne_none record
      · exact hid
    · rcases hafter with rfl | hpruned
      · exact VaultEffect.refl h
      · exact hpruned.effect (fun _ hid => .inl hid) fun _ hdead => hdead
  | destroy identity =>
    exact @event_effect sealSecret openSecret (.destroy identity now) ⟨storage, []⟩ h hfresh
  | alarm => exact @event_effect sealSecret openSecret (.alarm now) ⟨storage, []⟩ h hfresh

/-- Storages that agree before the first call answer all reads of the run alike. -/
theorem readResults_agree (calls : List TimedVaultCall)
    (hclock : (calls.map (·.now)).Pairwise (· ≤ ·)) (hbefore : ∀ timed ∈ calls, time ≤ timed.now)
    (hids : (calls.filterMap (·.leaseId?)).Nodup) (h : storage.Exact) (h' : storage'.Exact)
    (hagree : AgreeAt time storage storage')
    (hfresh : ∀ id ∈ calls.filterMap (·.leaseId?), storage.lease id = none ∧
      storage'.lease id = none)
    (hregular : RegularRun sealSecret openSecret calls storage)
    (hregular' : RegularRun sealSecret openSecret (withoutAlarms calls) storage') :
    readResults sealSecret openSecret calls storage =
      readResults sealSecret openSecret (withoutAlarms calls) storage' := by
  induction calls generalizing storage storage' time with
  | nil => rfl
  | cons timed rest ih =>
    obtain ⟨hle, hsorted⟩ := List.pairwise_cons.mp hclock
    have hlater : ∀ other ∈ rest, timed.now ≤ other.now :=
      fun other hother => hle other.now (List.mem_map_of_mem hother)
    have hnow := hagree.later (hbefore timed List.mem_cons_self)
    have hrest : (rest.filterMap (·.leaseId?)).Nodup ∧
        ∀ id ∈ rest.filterMap (·.leaseId?), timed.leaseId? ≠ some id := by
      cases hmade : timed.leaseId? with
      | none =>
        rw [List.filterMap_cons_none hmade] at hids
        exact ⟨hids, fun _ _ he => nomatch he⟩
      | some made =>
        rw [List.filterMap_cons_some hmade] at hids
        obtain ⟨hnew, hids⟩ := List.nodup_cons.mp hids
        exact ⟨hids, fun id hid he => hnew (Option.some.inj he ▸ hid)⟩
    have hmember : ∀ id, timed.leaseId? = some id →
        id ∈ (timed :: rest).filterMap (·.leaseId?) := fun id hid =>
      List.mem_filterMap.mpr ⟨timed, List.mem_cons_self, hid⟩
    have hcons : ∀ id ∈ rest.filterMap (·.leaseId?),
        id ∈ (timed :: rest).filterMap (·.leaseId?) := by
      intro id hid
      obtain ⟨other, hother, hmade⟩ := List.mem_filterMap.mp hid
      exact List.mem_filterMap.mpr ⟨other, List.mem_cons_of_mem _ hother, hmade⟩
    obtain ⟨hexact, hstored, -⟩ := call_effect sealSecret openSecret timed h
      fun id hid => (hfresh id (hmember id hid)).1
    have hstill : ∀ id ∈ rest.filterMap (·.leaseId?),
        (timed.outcome sealSecret openSecret storage).2.lease id = none := by
      intro id hid
      by_contra hsome
      rcases hstored id hsome with hold | hmade
      · exact hold (hfresh id (hcons id hid)).1
      · exact hrest.2 id hid hmade
    by_cases hcall : timed.call = .alarm
    · -- only the run with alarms takes this step
      obtain ⟨call, now⟩ := timed
      obtain rfl : call = .alarm := hcall
      obtain ⟨after, houtcome, hafter⟩ := alarm_agree sealSecret openSecret h hnow
      have hskip : withoutAlarms (⟨.alarm, now⟩ :: rest) = withoutAlarms rest := by
        simp [withoutAlarms]
      rw [hskip] at hregular' ⊢
      rw [houtcome] at hexact hstill
      obtain ⟨-, hregular⟩ := hregular
      rw [houtcome] at hregular
      simp only [readResults, houtcome]
      exact ih hsorted hlater hrest.1 hexact h' hafter
        (fun id hid => ⟨hstill id hid, (hfresh id (hcons id hid)).2⟩) hregular hregular'
    · have hkeep : withoutAlarms (timed :: rest) = timed :: withoutAlarms rest := by
        simp [withoutAlarms, hcall]
      rw [hkeep] at hregular' ⊢
      obtain ⟨hhead, hregular⟩ := hregular
      obtain ⟨hhead', hregular'⟩ := hregular'
      obtain ⟨hexact', hstored', -⟩ := call_effect sealSecret openSecret timed h'
        fun id hid => (hfresh id (hmember id hid)).2
      have hstill' : ∀ id ∈ rest.filterMap (·.leaseId?),
          (timed.outcome sealSecret openSecret storage').2.lease id = none := by
        intro id hid
        by_contra hsome
        rcases hstored' id hsome with hold | hmade
        · exact hold (hfresh id (hcons id hid)).2
        · exact hrest.2 id hid hmade
      obtain ⟨hafter, hresult⟩ := call_agree sealSecret openSecret timed hcall h h' hnow hhead
        hhead' fun id hid => hfresh id (hmember id hid)
      have hlast := ih hsorted hlater hrest.1 hexact hexact' hafter
        (fun id hid => ⟨hstill id hid, hstill' id hid⟩) hregular hregular'
      obtain ⟨call, now⟩ := timed
      cases call with
      | read leaseId identity =>
        simp only [readResults]
        rw [hresult leaseId identity rfl, hlast]
      | lease input tokens => exact hlast
      | destroy identity => exact hlast
      | alarm => exact absurd rfl hcall

/-- Alarms do not change which reads of a regular run succeed, nor the secrets they return. -/
theorem alarms_hidden (calls : List TimedVaultCall)
    (hclock : (calls.map (·.now)).Pairwise (· ≤ ·))
    (hids : (calls.filterMap (·.leaseId?)).Nodup)
    (hregular : RegularRun sealSecret openSecret calls .empty)
    (hregular' : RegularRun sealSecret openSecret (withoutAlarms calls) .empty) :
    readResults sealSecret openSecret calls .empty =
      readResults sealSecret openSecret (withoutAlarms calls) .empty := by
  cases calls with
  | nil => rfl
  | cons timed rest =>
    have hbefore : ∀ other ∈ timed :: rest, timed.now ≤ other.now := by
      intro other hother
      rcases List.mem_cons.mp hother with rfl | hother
      · exact le_rfl
      · exact (List.pairwise_cons.mp hclock).1 other.now (List.mem_map_of_mem hother)
    exact readResults_agree (timed :: rest) hclock hbefore hids VaultStorage.exact_empty
      VaultStorage.exact_empty (AgreeAt.refl _ _) (fun _ _ => ⟨rfl, rfl⟩) hregular hregular'

namespace Sample

def timedLease : TimedVaultCall :=
  ⟨.lease ⟨vaultIdentity, .modelEndpoint, "key"⟩ ⟨"bGVhc2U", "aXY"⟩, 1000⟩

/-- A lease, an alarm and a read at the same clock reading. -/
def readAfterAlarm (now : ℤ) : List TimedVaultCall :=
  [timedLease, ⟨.alarm, now⟩, ⟨.read "lease_bGVhc2U" vaultIdentity, now⟩]

end Sample

/-- A read at the end of the idle time returns a secret that an alarm before it removes. -/
theorem alarms_visible : ¬ ∀ calls : List TimedVaultCall, (calls.map (·.now)).Pairwise (· ≤ ·) →
    (calls.filterMap (·.leaseId?)).Nodup →
    readResults Sample.vaultSeal Sample.vaultOpen calls .empty =
      readResults Sample.vaultSeal Sample.vaultOpen (withoutAlarms calls) .empty := by
  intro h
  have hsame := h (Sample.readAfterAlarm (1000 + idleMs)) (by decide) (by decide)
  revert hsame
  decide +kernel

theorem alarms_hidden_sample :
    readResults Sample.vaultSeal Sample.vaultOpen (Sample.readAfterAlarm 2000) .empty =
      readResults Sample.vaultSeal Sample.vaultOpen
        (withoutAlarms (Sample.readAfterAlarm 2000)) .empty := by
  refine alarms_hidden (Sample.readAfterAlarm 2000) (by decide) (by decide)
    ⟨fun hfull => ?_, trivial, fun record hrecord _ hend => ?_, trivial⟩
    ⟨fun hfull => ?_, fun record hrecord _ hend => ?_, trivial⟩
  · exact absurd hfull (by decide)
  · have htimes : ∀ record ∈ ((Sample.readAfterAlarm 2000).take 2).foldl (fun storage timed =>
        (timed.outcome Sample.vaultSeal Sample.vaultOpen storage).2) VaultStorage.empty
          |>.lease "lease_bGVhc2U", record.lastAccessedAt = 1000 := by decide +kernel
    rw [htimes record hrecord] at hend
    exact absurd hend (by decide)
  · exact absurd hfull (by decide)
  · have htimes : ∀ record ∈ ((Sample.readAfterAlarm 2000).take 1).foldl (fun storage timed =>
        (timed.outcome Sample.vaultSeal Sample.vaultOpen storage).2) VaultStorage.empty
          |>.lease "lease_bGVhc2U", record.lastAccessedAt = 1000 := by decide +kernel
    rw [htimes record hrecord] at hend
    exact absurd hend (by decide)

end Quillframe.Cloud
