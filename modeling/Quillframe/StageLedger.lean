import Quillframe.Runs

/-!
# The stage-call ledger

`Journal.Step` says once what an operation can do to the two ledger tables; every operation of
the store refines it, and the invariants of the ledger are those of its runs.
-/
namespace Quillframe

open Relation Database

variable {Fp : Type}

structure Journal (Fp : Type) where
  calls : List (StageCallRow Fp)
  receipts : List (BillingReceiptRow Fp)

def Database.journal (db : Database Fp) : Journal Fp := ⟨db.stageCalls, db.billingReceipts⟩

/-- A call carries a result exactly when it is confirmed, and then one of its own request. -/
def StageCallRow.Bound (call : StageCallRow Fp) : Prop :=
  match call.state with
  | .confirmed => ∃ result, call.result = some result ∧
      call.resultFingerprint = some result.fingerprint ∧
      result.requestId = call.job.modelRequest.requestId
  | _ => call.result = none ∧ call.resultFingerprint = none

namespace Journal

inductive Step : Journal Fp → Journal Fp → Prop
  | skip (j : Journal Fp) : Step j j
  | insert {j : Journal Fp} {row : StageCallRow Fp}
      (id_fresh : row.callId ∉ j.calls.map (·.callId))
      (key_fresh : (row.runId, row.stageKey) ∉
        j.calls.map fun call => (call.runId, call.stageKey))
      (bound : row.Bound) : Step j { j with calls := j.calls ++ [row] }
  | confirm {j : Journal Fp} {call : StageCallRow Fp} {result : ModelResult Fp}
      {updatedAt : String} {receipts : List (BillingReceiptRow Fp)}
      (found : Table.lookup StageCallRow.callId call.callId j.calls = some call)
      (pending : call.state = .dispatched ∨ call.state = .unconfirmed)
      (own : result.requestId = call.job.modelRequest.requestId)
      (billed : receipts = j.receipts ∨ ∃ receipt, receipts = j.receipts ++ [receipt] ∧
        receipt.callId = call.callId ∧ receipt.callId ∉ j.receipts.map (·.callId) ∧
        receipt.resultFingerprint = result.fingerprint) :
      Step j ⟨Table.updateWhere (fun row => row.callId = call.callId)
        (fun row => row.confirm result updatedAt) j.calls, receipts⟩
  | reopen {j : Journal Fp} {selected : StageCallRow Fp → Bool} {state : StageCallState}
      {errorCode updatedAt : String}
      (pending : ∀ call, selected call → call.state = .dispatched ∨ call.state = .unconfirmed)
      (target : state = .unconfirmed ∨ state = .cancelled) :
      Step j ⟨Table.updateWhere selected
        (fun call => { call with state, errorCode := some errorCode, updatedAt }) j.calls,
        j.receipts⟩

structure Inv (j : Journal Fp) : Prop where
  ids : (j.calls.map (·.callId)).Nodup
  keys : (j.calls.map fun call => (call.runId, call.stageKey)).Nodup
  bound : ∀ call ∈ j.calls, call.Bound
  receiptIds : (j.receipts.map (·.callId)).Nodup
  billed : ∀ receipt ∈ j.receipts, ∃ call ∈ j.calls, call.callId = receipt.callId ∧
    call.state = .confirmed ∧ call.resultFingerprint = some receipt.resultFingerprint

/-- A confirmed or cancelled call is never written again. -/
theorem Step.settled_mem {j k : Journal Fp} (h : Step j k) (hinv : j.Inv)
    {call : StageCallRow Fp} (hcall : call ∈ j.calls)
    (hsettled : call.state = .confirmed ∨ call.state = .cancelled) : call ∈ k.calls := by
  cases h with
  | skip => exact hcall
  | insert => exact List.mem_append_left _ hcall
  | @confirm found result updatedAt receipts hfound hpending =>
    refine Table.mem_updateWhere.mpr ⟨call, hcall, ?_⟩
    rw [if_neg]
    intro hid
    have heq : call = found :=
      Table.eq_of_key_eq hinv.ids hcall (Table.lookup_mem hfound) (by simpa using hid)
    subst heq
    rcases hsettled with h | h <;> simp [h] at hpending
  | @reopen selected state errorCode updatedAt hpending =>
    refine Table.mem_updateWhere.mpr ⟨call, hcall, ?_⟩
    rw [if_neg]
    intro hsel
    have := hpending call hsel
    rcases hsettled with h | h <;> simp [h] at this

theorem Step.inv {j k : Journal Fp} (h : Step j k) (hinv : j.Inv) : k.Inv := by
  have hkept : ∀ receipt ∈ j.receipts, ∃ call ∈ k.calls, call.callId = receipt.callId ∧
      call.state = .confirmed ∧
      call.resultFingerprint = some receipt.resultFingerprint := by
    intro receipt hreceipt
    obtain ⟨call, hcall, hid, hstate, hfp⟩ := hinv.billed receipt hreceipt
    exact ⟨call, h.settled_mem hinv hcall (.inl hstate), hid, hstate, hfp⟩
  cases h with
  | skip => exact hinv
  | @insert row hid hkey hbound =>
    refine ⟨?_, ?_, ?_, hinv.receiptIds, hkept⟩
    · exact Table.nodup_append_singleton hinv.ids fun other hother he =>
        hid (he ▸ List.mem_map_of_mem hother)
    · exact Table.nodup_append_singleton hinv.keys fun other hother he =>
        hkey (he ▸ List.mem_map_of_mem hother)
    · intro call hcall
      rcases List.mem_append.mp hcall with hcall | hcall
      · exact hinv.bound call hcall
      · exact List.mem_singleton.mp hcall ▸ hbound
  | @confirm found result updatedAt receipts hfound hpending hown hbilled =>
    have hconfirmed : found.confirm result updatedAt ∈
        Table.updateWhere (fun row => row.callId = found.callId)
          (fun row => row.confirm result updatedAt) j.calls :=
      Table.mem_updateWhere.mpr ⟨found, Table.lookup_mem hfound, by simp⟩
    refine ⟨?_, ?_, ?_, ?_, ?_⟩
    · exact Table.nodup_updateWhere (fun _ => rfl) hinv.ids
    · exact Table.nodup_updateWhere (fun _ => rfl) hinv.keys
    · intro call hcall
      obtain ⟨old, hold, rfl⟩ := Table.mem_updateWhere.mp hcall
      split_ifs with hid
      · have heq : old = found :=
          Table.eq_of_key_eq hinv.ids hold (Table.lookup_mem hfound) (by simpa using hid)
        exact ⟨result, rfl, rfl, heq ▸ hown⟩
      · exact hinv.bound old hold
    · rcases hbilled with rfl | ⟨receipt, rfl, -, hfresh, -⟩
      · exact hinv.receiptIds
      · exact Table.nodup_append_singleton hinv.receiptIds fun other hother he =>
          hfresh (he ▸ List.mem_map_of_mem hother)
    · intro receipt hreceipt
      rcases hbilled with rfl | ⟨new, rfl, hid, -, hfp⟩
      · exact hkept receipt hreceipt
      · rcases List.mem_append.mp hreceipt with hreceipt | hreceipt
        · exact hkept receipt hreceipt
        · obtain rfl := List.mem_singleton.mp hreceipt
          exact ⟨_, hconfirmed, hid.symm, rfl, by simp [StageCallRow.confirm, hfp]⟩
  | @reopen selected state errorCode updatedAt hpending htarget =>
    refine ⟨?_, ?_, ?_, hinv.receiptIds, hkept⟩
    · exact Table.nodup_updateWhere (fun _ => rfl) hinv.ids
    · exact Table.nodup_updateWhere (fun _ => rfl) hinv.keys
    · intro call hcall
      obtain ⟨old, hold, rfl⟩ := Table.mem_updateWhere.mp hcall
      have hbound := hinv.bound old hold
      split_ifs with hsel
      · -- an open call has no result, and keeps none
        have hnone : old.result = none ∧ old.resultFingerprint = none := by
          rcases hpending old hsel with hs | hs <;> simpa [StageCallRow.Bound, hs] using hbound
        rcases htarget with rfl | rfl <;> simpa [StageCallRow.Bound] using hnone
      · exact hbound

end Journal

/-! ## The operations refine journal steps -/

section Refinement

theorem markStageUnconfirmed_journal {callId errorCode updatedAt : String} {u : Unit}
    {db db' : Database Fp} (h : markStageUnconfirmed callId errorCode updatedAt db = .ok (u, db')) :
    Journal.Step db.journal db'.journal := by
  simp only [markStageUnconfirmed, bind_eq_ok, require_eq_ok, exists_const, pure_eq_ok,
    Prod.mk.injEq] at h
  obtain ⟨_, -, -, -, -, rfl⟩ := h
  refine .reopen (fun call hcall => ?_) (.inl rfl)
  exact StageCallRow.pending_of_dispatchPending (Bool.and_eq_true _ _ ▸ hcall).2

/-- What a successful cancellation did: it was a replay, or it closed the run. -/
theorem cancelProduction_eq_ok {runId : String} {expectedCursor : ℕ}
    {idempotencyKey updatedAt eventUuid receiptUuid : String} {answer : ℕ × Bool}
    {db db' : Database Fp}
    (h : cancelProduction runId expectedCursor idempotencyKey updatedAt eventUuid receiptUuid db =
      .ok (answer, db')) :
    (db' = db ∧ ∃ receipt ∈ db.receipts, receipt.receiptKind = "production_cancelled" ∧
        ∃ count, receipt.payload = .cancellation runId expectedCursor count) ∨
      ((∀ candidate ∈ db.candidates, candidate.runId ≠ some runId) ∧
        (∃ run ∈ db.runs, run.runId = runId) ∧
        ∃ event receipt count, receipt.receiptKind = "production_cancelled" ∧
          receipt.payload = .cancellation runId expectedCursor count ∧
          db' = { db with
            stageCalls := Table.updateWhere (StageCallRow.openCall runId)
              (StageCallRow.abandon updatedAt) db.stageCalls
            runs := Table.updateWhere (fun run => run.runId = runId ∧ run.status ≠ "cancelled")
              (fun run => { run with status := "cancelled", updatedAt }) db.runs
            productionExecutions := Table.updateWhere (fun execution => execution.runId = runId)
              (fun execution => { execution with cancelRequested := true, updatedAt })
              db.productionExecutions
            runtimeEvents := db.runtimeEvents ++ [event]
            receipts := db.receipts ++ [receipt] }) := by
  simp only [cancelProduction, bind_eq_ok, require_eq_ok, exists_const] at h
  obtain ⟨_, -, -, h⟩ := h
  split at h
  case h_1 receipt hfind =>
    have hkind := List.find?_some hfind
    simp only [Bool.decide_and, Bool.and_eq_true, decide_eq_true_eq] at hkind
    split at h
    · rename_i count hpayload
      simp only [bind_eq_ok, require_eq_ok, exists_const, pure_eq_ok, Prod.mk.injEq] at h
      obtain ⟨⟨rfl, rfl⟩, -, rfl⟩ := h
      exact .inl ⟨rfl, receipt, List.mem_of_find?_eq_some hfind, hkind.2, count, hpayload⟩
    · simp [throw, throwThe, MonadExceptOf.throw] at h
  case h_2 =>
    simp only [bind_eq_ok, require_eq_ok, exists_const, pure_eq_ok, Prod.mk.injEq,
      List.length_eq_zero_iff, List.filter_eq_nil_iff, decide_eq_true_eq] at h
    obtain ⟨-, hcandidates, hrun, -, evented, hevented, receipted, hreceipted, -, rfl⟩ := h
    obtain rfl := insertRuntimeEvent_eq_ok hevented
    obtain ⟨-, rfl⟩ := insertReceipt_eq_ok hreceipted
    refine .inr ⟨hcandidates, ?_, _, _, _, rfl, rfl, rfl⟩
    obtain ⟨run, hmem⟩ := List.exists_mem_of_length_eq_add_one hrun
    simp only [List.mem_filter, Bool.decide_and, Bool.and_eq_true, decide_eq_true_eq] at hmem
    exact ⟨run, hmem.1, hmem.2.1⟩

theorem cancelProduction_journal {runId : String} {expectedCursor : ℕ}
    {idempotencyKey updatedAt eventUuid receiptUuid : String} {answer : ℕ × Bool}
    {db db' : Database Fp}
    (h : cancelProduction runId expectedCursor idempotencyKey updatedAt eventUuid receiptUuid db =
      .ok (answer, db')) :
    Journal.Step db.journal db'.journal := by
  obtain ⟨rfl, -⟩ | ⟨-, -, event, receipt, count, -, -, rfl⟩ := cancelProduction_eq_ok h
  · exact .skip _
  · refine .reopen (fun call hcall => ?_) (.inr rfl)
    simp only [StageCallRow.openCall, Bool.and_eq_true, Bool.or_eq_true, decide_eq_true_eq]
      at hcall
    exact hcall.2

variable [Sha256 Fp] [DecidableEq Fp]

theorem confirmStage_journal {callId : String} {result : ModelResult Fp} {updatedAt : String}
    {u : Unit} {db db' : Database Fp} (h : confirmStage callId result updatedAt db = .ok (u, db')) :
    Journal.Step db.journal db'.journal := by
  simp only [confirmStage, bind_eq_ok, fetch_eq_ok] at h
  obtain ⟨_, -, _, -, call, hcall, h⟩ := h
  split_ifs at h with hconfirmed
  · simp only [bind_eq_ok, require_eq_ok, exists_const, pure_eq_ok, Prod.mk.injEq] at h
    obtain ⟨-, -, rfl⟩ := h
    exact .skip _
  · simp only [bind_eq_ok, require_eq_ok, exists_const] at h
    obtain ⟨hstate, _, -, hown, h⟩ := h
    have hid : call.callId = callId := Table.lookup_key hcall
    have hpending : call.state = .dispatched ∨ call.state = .unconfirmed :=
      hstate.imp id And.left
    subst hid
    split at h
    · simp only [pure_eq_ok, Prod.mk.injEq] at h
      obtain ⟨-, rfl⟩ := h
      exact .confirm hcall hpending hown (.inl rfl)
    · simp only [bind_eq_ok, pure_eq_ok, Prod.mk.injEq] at h
      obtain ⟨_, -, billed, hbilled, -, rfl⟩ := h
      obtain ⟨hfresh, rfl⟩ := insertBillingReceipt_eq_ok hbilled
      exact .confirm hcall hpending hown (.inr ⟨_, rfl, rfl, hfresh, rfl⟩)

theorem confirmDerivedStage_journal {runId : String} {job : StageJob Fp} {result : ModelResult Fp}
    {checkpointKind : String} {checkpointState : Json Fp} {artifactFingerprint : Fp}
    {createdAt callUuid eventUuid : String} {u : Unit} {db db' : Database Fp}
    (h : confirmDerivedStage runId job result checkpointKind checkpointState artifactFingerprint
      createdAt callUuid eventUuid db = .ok (u, db')) :
    Journal.Step db.journal db'.journal := by
  simp only [confirmDerivedStage, bind_eq_ok, require_eq_ok, exists_const] at h
  obtain ⟨_, -, _, -, _, -, hbinding, -, h⟩ := h
  split at h
  · simp only [bind_eq_ok, require_eq_ok, exists_const, pure_eq_ok, Prod.mk.injEq] at h
    obtain ⟨-, -, rfl⟩ := h
    exact .skip _
  · simp only [bind_eq_ok, pure_eq_ok, Prod.mk.injEq] at h
    obtain ⟨called, hcalled, checked, hchecked, done, hdone, -, rfl⟩ := h
    obtain ⟨hid, hkey, -, rfl⟩ := insertStageCall_eq_ok hcalled
    obtain rfl := insertCheckpoint_eq_ok hchecked
    obtain rfl := insertRuntimeEvent_eq_ok hdone
    have hown : result.requestId = job.modelRequest.requestId := by
      by_contra hne
      exact hbinding (.inr (.inl hne))
    exact .insert hid hkey ⟨result, rfl, rfl, hown⟩

variable [Documents Fp]

/-- What a successful dispatch did: it found the call of this stage, or it inserted it. -/
theorem dispatchStage_eq_ok {runId : String} {job : StageJob Fp} {ownerToken : String}
    {deadlineAtMs : ℕ} {createdAt uuid callId : String} {db db' : Database Fp}
    (h : dispatchStage runId job ownerToken deadlineAtMs createdAt uuid db = .ok (callId, db')) :
    (∃ execution, db.execution? runId = some execution ∧ execution.cancelRequested = false) ∧
    ((∃ call ∈ db.stageCalls, call.runId = runId ∧ call.stageKey = job.stageKey ∧
        call.inputFingerprint = job.inputFingerprint ∧ call.callId = callId ∧ db' = db) ∨
      ∃ row : StageCallRow Fp, row.callId = callId ∧ row.runId = runId ∧
        row.stageKey = job.stageKey ∧ row.inputFingerprint = job.inputFingerprint ∧
        row.job = job ∧ row.state = .dispatched ∧ row.Bound ∧
        callId ∉ db.stageCalls.map (·.callId) ∧
        ((runId, job.stageKey) ∉ db.stageCalls.map fun call => (call.runId, call.stageKey)) ∧
        db' = { db with stageCalls := db.stageCalls ++ [row] }.updateRun
          runId "executing" none createdAt) := by
  simp only [dispatchStage, bind_eq_ok, require_eq_ok, fetch_eq_ok, exists_const] at h
  obtain ⟨_, -, _, -, -, execution, hexecution, hcancel, _, -, -, h⟩ := h
  refine ⟨⟨execution, hexecution, hcancel⟩, ?_⟩
  split at h
  case h_1 call hfind =>
    simp only [bind_eq_ok, require_eq_ok, exists_const, pure_eq_ok, Prod.mk.injEq] at h
    obtain ⟨hinput, hid, rfl⟩ := h
    have hkey := List.find?_some hfind
    simp only [Bool.decide_and, Bool.and_eq_true, decide_eq_true_eq] at hkey
    exact .inl ⟨call, List.mem_of_find?_eq_some hfind, hkey.1, hkey.2, hinput, hid, rfl⟩
  case h_2 =>
    simp only [bind_eq_ok, pure_eq_ok, Prod.mk.injEq] at h
    obtain ⟨mid, hmid, rfl, rfl⟩ := h
    obtain ⟨hid, hkey, -, rfl⟩ := insertStageCall_eq_ok hmid
    refine .inr ⟨_, rfl, rfl, rfl, rfl, rfl, rfl, ?_, hid, hkey, rfl⟩
    exact ⟨rfl, rfl⟩

theorem dispatchStage_journal {runId : String} {job : StageJob Fp} {ownerToken : String}
    {deadlineAtMs : ℕ} {createdAt uuid callId : String} {db db' : Database Fp}
    (h : dispatchStage runId job ownerToken deadlineAtMs createdAt uuid db = .ok (callId, db')) :
    Journal.Step db.journal db'.journal := by
  obtain ⟨-, ⟨_, -, -, -, -, -, rfl⟩ | ⟨row, rfl, rfl, hkeyEq, -, -, -, hbound, hid, hkey, rfl⟩⟩ :=
    dispatchStage_eq_ok h
  · exact .skip _
  · exact .insert hid (hkeyEq ▸ hkey) hbound

end Refinement

/-! ## Runs of the ledger -/

section Runs

variable [Sha256 Fp] [DecidableEq Fp] [Documents Fp]

/-- The five writers of the ledger, and any other change of the database that leaves the two
ledger tables alone. A failed operation is rolled back and is no step. -/
inductive StageStep : Database Fp → Database Fp → Prop
  | dispatch {db db' : Database Fp} (runId job ownerToken deadlineAtMs createdAt uuid callId)
      (h : dispatchStage runId job ownerToken deadlineAtMs createdAt uuid db =
        .ok (callId, db')) : StageStep db db'
  | confirm {db db' : Database Fp} (callId result updatedAt)
      (h : confirmStage callId result updatedAt db = .ok ((), db')) : StageStep db db'
  | confirmDerived {db db' : Database Fp} (runId job result checkpointKind checkpointState
      artifactFingerprint createdAt callUuid eventUuid)
      (h : confirmDerivedStage runId job result checkpointKind checkpointState
        artifactFingerprint createdAt callUuid eventUuid db = .ok ((), db')) : StageStep db db'
  | markUnconfirmed {db db' : Database Fp} (callId errorCode updatedAt)
      (h : markStageUnconfirmed callId errorCode updatedAt db = .ok ((), db')) : StageStep db db'
  | cancel {db db' : Database Fp} (runId expectedCursor idempotencyKey updatedAt eventUuid
      receiptUuid answer)
      (h : cancelProduction runId expectedCursor idempotencyKey updatedAt eventUuid receiptUuid
        db = .ok (answer, db')) : StageStep db db'
  | elsewhere {db db' : Database Fp} (h : db'.journal = db.journal) : StageStep db db'

theorem StageStep.journal {db db' : Database Fp} (h : StageStep db db') :
    Journal.Step db.journal db'.journal := by
  cases h with
  | dispatch _ _ _ _ _ _ _ h => exact dispatchStage_journal h
  | confirm _ _ _ h => exact confirmStage_journal h
  | confirmDerived _ _ _ _ _ _ _ _ _ h => exact confirmDerivedStage_journal h
  | markUnconfirmed _ _ _ h => exact markStageUnconfirmed_journal h
  | cancel _ _ _ _ _ _ _ h => exact cancelProduction_journal h
  | elsewhere h => exact h ▸ .skip _

theorem StageStep.run_inv {db db' : Database Fp} (h : ReflTransGen StageStep db db')
    (hinv : db.journal.Inv) : db'.journal.Inv :=
  invariant_of_step (P := fun db => db.journal.Inv) (fun _ _ hstep => hstep.journal.inv) h hinv

theorem StageStep.run_settled_mem {db db' : Database Fp} (h : ReflTransGen StageStep db db')
    (hinv : db.journal.Inv) {call : StageCallRow Fp} (hcall : call ∈ db.stageCalls)
    (hsettled : call.state = .confirmed ∨ call.state = .cancelled) : call ∈ db'.stageCalls := by
  induction h with
  | refl => exact hcall
  | tail hrun hstep ih => exact hstep.journal.settled_mem (run_inv hrun hinv) ih hsettled

/-- The stage-call ledger over every run from an empty one: one call per stage of a run, settled
calls are final, results belong to their own request, and a billing receipt names the confirmed
result of its call. -/
theorem stageLedger_runs {start db : Database Fp} (hstart : start.journal = ⟨[], []⟩)
    (hrun : ReflTransGen StageStep start db) :
    (db.stageCalls.map fun call => (call.runId, call.stageKey)).Nodup ∧
    (∀ later, ReflTransGen StageStep db later → ∀ call ∈ db.stageCalls,
      (call.state = .confirmed → call ∈ later.stageCalls ∧
        ∀ other ∈ later.stageCalls, other.callId = call.callId →
          other.state = .confirmed ∧ other.inputFingerprint = call.inputFingerprint ∧
          other.result = call.result) ∧
      (call.state = .cancelled → call ∈ later.stageCalls ∧
        ∀ other ∈ later.stageCalls, other.callId = call.callId → other.result = none)) ∧
    (∀ call ∈ db.stageCalls, call.state = .confirmed →
      ∃ result, call.result = some result ∧
        result.requestId = call.job.modelRequest.requestId) ∧
    (db.billingReceipts.map (·.callId)).Nodup ∧
    (∀ receipt ∈ db.billingReceipts, ∃ call ∈ db.stageCalls, call.callId = receipt.callId ∧
      call.state = .confirmed ∧
      ∃ result, call.result = some result ∧ result.fingerprint = receipt.resultFingerprint) := by
  have hempty : start.journal.Inv := by
    rw [hstart]
    exact ⟨by simp, by simp, by simp, by simp, by simp⟩
  have hinv := StageStep.run_inv hrun hempty
  refine ⟨hinv.keys, ?_, ?_, hinv.receiptIds, ?_⟩
  · intro later hlater call hcall
    have hids := (StageStep.run_inv hlater hinv).ids
    refine ⟨fun hstate => ?_, fun hstate => ?_⟩
    · have hkept := StageStep.run_settled_mem hlater hinv hcall (.inl hstate)
      refine ⟨hkept, fun other hother hid => ?_⟩
      obtain rfl := Table.eq_of_key_eq hids hother hkept hid
      exact ⟨hstate, rfl, rfl⟩
    · have hkept := StageStep.run_settled_mem hlater hinv hcall (.inr hstate)
      refine ⟨hkept, fun other hother hid => ?_⟩
      obtain rfl := Table.eq_of_key_eq hids hother hkept hid
      have hbound := hinv.bound other hcall
      simp only [StageCallRow.Bound, hstate] at hbound
      exact hbound.1
  · intro call hcall hstate
    have hbound := hinv.bound call hcall
    simp only [StageCallRow.Bound, hstate] at hbound
    obtain ⟨result, hresult, -, hown⟩ := hbound
    exact ⟨result, hresult, hown⟩
  · intro receipt hreceipt
    obtain ⟨call, hcall, hid, hstate, hfp⟩ := hinv.billed receipt hreceipt
    have hbound := hinv.bound call hcall
    simp only [StageCallRow.Bound, hstate] at hbound
    obtain ⟨result, hresult, hresultFp, -⟩ := hbound
    exact ⟨call, hcall, hid, hstate, result, hresult, by simpa [hresultFp] using hfp⟩

end Runs

namespace Sample

def stageRequest : ModelRequest where
  requestId := "req-1"
  model := "m"
  system := "s"
  user := "u"
  temperature := none
  maxOutputTokens := none
  absoluteDeadlineMs := 9

/-- A stage of the sample run. -/
def job (stageKey : String) : StageJob Digest :=
  let body : StageJob Digest :=
    { schema := "quillframe_stage_job_v1", stageKey, runtimeRole := "writer",
      modelRequest := stageRequest, inputFingerprint := .tag 4, fingerprint := .tag 0 }
  { body with fingerprint := body.computeFingerprint }

/-- An answer to the stage request, with its cost. -/
def answer (content : String) : ModelResult Digest :=
  let body : ModelResult Digest :=
    { schema := "quillframe_model_result_v1", requestId := "req-1", serviceId := "svc",
      model := "m", content, providerResponseId := none,
      usage := ⟨none, none, none, some 5⟩, fingerprint := .tag 0 }
  { body with fingerprint := body.computeFingerprint }

/-- The call of a dispatched stage. -/
def call (stageKey uuid : String) : StageCallRow Digest where
  callId := "call-" ++ uuid
  runId := "run-1"
  stageKey
  runtimeRole := "writer"
  inputFingerprint := .tag 4
  job := job stageKey
  ownerToken := "o"
  state := .dispatched
  deadlineAtMs := 9
  result := none
  resultFingerprint := none
  errorCode := none
  createdAt := "t3"
  updatedAt := "t3"

def dispatched : Database Digest :=
  { started with
    stageCalls := [call "context_query_plan" "1"]
    runs := [{ run with status := "executing", updatedAt := "t3" }] }

theorem dispatch_started :
    dispatchStage "run-1" (job "context_query_plan") "o" 9 "t3" "1" started =
      .ok ("call-1", dispatched) := by
  decide +kernel

def confirmed : Database Digest :=
  { dispatched with
    stageCalls := [(call "context_query_plan" "1").confirm (answer "plan") "t4"]
    billingReceipts :=
      [{ callId := "call-1", runId := "run-1", resultFingerprint := (answer "plan").fingerprint,
         costMicros := 5,
         receiptFingerprint := Sha256.ofPieces
           [.inl "call-1:", .inr (answer "plan").fingerprint, .inl ":5"],
         createdAt := "t4" }] }

theorem confirm_dispatched :
    confirmStage "call-1" (answer "plan") "t4" dispatched = .ok ((), confirmed) := by
  decide +kernel

end Sample

theorem stageLedger_runs_sample :
    ReflTransGen StageStep Sample.started Sample.confirmed ∧
    ∀ later, ReflTransGen StageStep Sample.confirmed later →
      (Sample.call "context_query_plan" "1").confirm (Sample.answer "plan") "t4" ∈
        later.stageCalls := by
  have hrun : ReflTransGen StageStep Sample.started Sample.confirmed :=
    .tail (.single (.dispatch _ _ _ _ _ _ _ Sample.dispatch_started))
      (.confirm _ _ _ Sample.confirm_dispatched)
  refine ⟨hrun, fun later hlater => ?_⟩
  exact (((stageLedger_runs rfl hrun).2.1 later hlater _ List.mem_cons_self).1 rfl).1

end Quillframe
