import Quillframe.Cancellation
import Quillframe.Settlement

/-!
# The settlement ledger

The tables that decide whether a candidate can be settled, as a transition system of their own.
A settlement spends the tracking state its release was written against, so no release is settled
twice, and no pack frozen before it is current after it.
-/
namespace Quillframe

open Relation Database

variable {Fp : Type}

/-- The settlement a receipt was written for. -/
def ReceiptPayload.settlement? : ReceiptPayload Fp → Option (SettlementAuthorization Fp)
  | .settlement authorization => some authorization
  | _ => none

def settledReceipts (rows : List (ReceiptRow Fp)) : List (SettlementAuthorization Fp) :=
  rows.filterMap fun row => row.payload.settlement?

theorem settledReceipts_append (rows : List (ReceiptRow Fp)) {row : ReceiptRow Fp}
    {authorization : SettlementAuthorization Fp} (h : row.payload = .settlement authorization) :
    settledReceipts (rows ++ [row]) = settledReceipts rows ++ [authorization] := by
  simp [settledReceipts, h, ReceiptPayload.settlement?]

theorem settledReceipts_append_other (rows : List (ReceiptRow Fp)) {row : ReceiptRow Fp}
    (h : row.payload.settlement? = none) :
    settledReceipts (rows ++ [row]) = settledReceipts rows := by
  simp [settledReceipts, h]

structure Ledger (Fp : Type) where
  projectId : String
  canonState : List (CanonRow Fp)
  tracking : List (TrackingRow Fp)
  requests : List (String × ProductionRequest Fp)
  packs : List (WriterPackRow Fp)
  dependencies : List (DependencyRow Fp)
  /-- The id, the run and the content of each candidate. -/
  candidates : List (String × Option String × Fp)
  releases : List (ReleaseRow Fp)
  acceptances : List (AcceptanceRow Fp)
  settlements : List (SettlementRow Fp)
  receipts : List (SettlementAuthorization Fp)

def Database.ledger (db : Database Fp) : Ledger Fp where
  projectId := db.projectId
  canonState := db.canonState
  tracking := db.trackingAuthority
  requests := db.productionExecutions.map fun row => (row.runId, row.request)
  packs := db.writerPackFreezes
  dependencies := db.chapterDependencies
  candidates := db.candidates.map fun row => (row.candidateId, row.runId, row.contentFingerprint)
  releases := db.productionReleases
  acceptances := db.acceptanceEvidence
  settlements := db.settlements
  receipts := settledReceipts db.receipts

namespace Ledger

/-- The canon head of a target. -/
def head (l : Ledger Fp) (targetRef : String) : Option Fp :=
  (Table.lookup CanonRow.stateKey targetRef l.canonState).map CanonRow.contentFingerprint

/-- Replacing a canon row replaces the head of its key. -/
theorem head_of_upsert {l k : Ledger Fp} {canon : CanonRow Fp}
    (h : k.canonState = Table.upsert CanonRow.stateKey canon
      (fun old => { canon with stateKey := old.stateKey }) l.canonState) (targetRef : String) :
    k.head targetRef =
      if targetRef = canon.stateKey then some canon.contentFingerprint else l.head targetRef := by
  rw [head, h]
  refine (congrArg _ (Table.lookup_upsert targetRef l.canonState ?_)).trans ?_
  · exact fun _ => rfl
  · split_ifs
    · cases Table.lookup CanonRow.stateKey targetRef l.canonState <;> rfl
    · rfl

/-- The dependency names the head of its source. -/
def Current (l : Ledger Fp) (row : DependencyRow Fp) : Prop :=
  l.head (chapterRef row.sourceChapterId) = some row.sourceFingerprint

/-- The continuity of a pack names the heads of its chapters. -/
def Continues (l : Ledger Fp) (pack : WriterPack Fp) : Prop :=
  ∀ entry ∈ pack.continuityContext,
    l.head (chapterRef entry.record.chapterId) = some entry.canonHeadFingerprint

variable [Sha256 Fp]

inductive Step : Ledger Fp → Ledger Fp → Prop
  | skip (l : Ledger Fp) : Step l l
  | pack {l : Ledger Fp} {row : WriterPackRow Fp} {tracking : TrackingRow Fp}
      (hfresh : ∀ other ∈ l.packs, other.writerPackFingerprint ≠ row.writerPackFingerprint)
      (htracking : tracking ∈ l.tracking)
      (hpack : row.payload.trackingFingerprint = tracking.payload.fingerprint)
      (hrow : row.trackingFingerprint = row.payload.trackingFingerprint)
      (hheads : l.Continues row.payload) :
      Step l { l with packs := l.packs ++ [row] }
  | start {l : Ledger Fp} {runId : String} {request : ProductionRequest Fp}
      {rows : List (DependencyRow Fp)} (hfresh : runId ∉ l.requests.map Prod.fst)
      (hrows : ∀ row ∈ rows, l.Current row) :
      Step l { l with
        requests := l.requests ++ [(runId, request)]
        dependencies := l.dependencies ++ rows }
  | bind {l : Ledger Fp} {rows : List (DependencyRow Fp)}
      (hrows : ∀ row ∈ rows, row ∈ l.dependencies ∨ l.Current row) :
      Step l { l with dependencies := rows }
  | release {l : Ledger Fp} {candidate : String × Option String × Fp} {release : ReleaseRow Fp}
      {runId : String} {request : ProductionRequest Fp} {pack : WriterPackRow Fp}
      (hcandidate : candidate.1 ∉ l.candidates.map Prod.fst)
      (hrelease : (release.candidateId, release.candidateFingerprint) ∉
        l.releases.map fun other => (other.candidateId, other.candidateFingerprint))
      (hid : release.candidateId = candidate.1) (hrun : candidate.2.1 = some runId)
      (hrequest : (runId, request) ∈ l.requests) (hpack : pack ∈ l.packs)
      (hfrozen : pack.writerPackFingerprint = request.writerPackFingerprint)
      (htracking : pack.trackingFingerprint = release.trackingFingerprint) :
      Step l { l with
        candidates := l.candidates ++ [candidate]
        releases := l.releases ++ [release] }
  | accept {l : Ledger Fp} {row : AcceptanceRow Fp}
      (hfresh : ∀ other ∈ l.acceptances, other.acceptanceId ≠ row.acceptanceId) :
      Step l { l with acceptances := l.acceptances ++ [row] }
  | settle {l : Ledger Fp} {tracking : TrackingRow Fp} {next : TrackingState Fp}
      {row : SettlementRow Fp} {canon : CanonRow Fp} {acceptance : AcceptanceRow Fp}
      {release : ReleaseRow Fp} {stale : DependencyRow Fp → Bool} {updatedAt : String}
      (htracking : l.tracking = [tracking]) (hsealed : next.Sealed)
      (hversion : tracking.payload.version < next.version)
      (hacceptance : acceptance ∈ l.acceptances)
      (hid : acceptance.acceptanceId = row.acceptanceId) (hrelease : release ∈ l.releases)
      (hcandidate : release.candidateId = acceptance.candidateId)
      (hfp : release.candidateFingerprint = acceptance.candidateFingerprint)
      (hcurrent : release.trackingFingerprint = tracking.payload.fingerprint)
      (hkey : canon.stateKey = row.targetRef)
      (hafter : canon.contentFingerprint = row.afterFingerprint)
      (hvalue : row.afterFingerprint = Sha256.ofJson row.stateDelta)
      (hbefore : row.beforeFingerprint = (l.head row.targetRef).getD (Sha256.ofText ""))
      (hstale : ∀ dependency, stale dependency = true ↔
        (row.beforeFingerprint ≠ Sha256.ofText "" ∧
          row.beforeFingerprint ≠ row.afterFingerprint) ∧
        chapterRef dependency.sourceChapterId = row.targetRef ∧
        dependency.sourceFingerprint = row.beforeFingerprint ∧ dependency.status = .current)
      (hreceipt : row.receipt.settlementId = row.settlementId) :
      Step l { l with
        canonState := Table.upsert CanonRow.stateKey canon
          (fun old => { canon with stateKey := old.stateKey }) l.canonState
        tracking := [{ tracking with
          version := next.version, payload := next, contentFingerprint := next.fingerprint,
          updatedAt }]
        dependencies := Table.updateWhere stale
          (fun dependency => { dependency with status := .stale, updatedAt }) l.dependencies
        settlements := l.settlements ++ [row]
        receipts := l.receipts ++ [row.receipt] }

/-! ## The invariant -/

/-- A tracking fingerprint of an earlier version. -/
def Older (l : Ledger Fp) (fingerprint : Fp) : Prop :=
  ∃ state : TrackingState Fp, state.Sealed ∧ state.fingerprint = fingerprint ∧
    ∀ row ∈ l.tracking, state.version < row.payload.version

/-- A pack is outdated, or it agrees with the tracking state and the canon. -/
def Frozen (l : Ledger Fp) (pack : WriterPackRow Fp) : Prop :=
  pack.trackingFingerprint = pack.payload.trackingFingerprint ∧
    (l.Older pack.trackingFingerprint ∨
      (∃ row ∈ l.tracking, pack.trackingFingerprint = row.payload.fingerprint) ∧
        l.Continues pack.payload)

/-- A release belongs to a candidate of a run, and carries the tracking of the run's pack. -/
def Released (l : Ledger Fp) (release : ReleaseRow Fp) : Prop :=
  ∃ candidate ∈ l.candidates, candidate.1 = release.candidateId ∧
    ∃ runId request, candidate.2.1 = some runId ∧ (runId, request) ∈ l.requests ∧
      ∃ pack ∈ l.packs, pack.writerPackFingerprint = request.writerPackFingerprint ∧
        pack.trackingFingerprint = release.trackingFingerprint

/-- The release of an acceptance was written against an earlier tracking state. -/
def Spent (l : Ledger Fp) (acceptanceId : String) : Prop :=
  ∃ acceptance ∈ l.acceptances, acceptance.acceptanceId = acceptanceId ∧
    ∃ release ∈ l.releases, release.candidateId = acceptance.candidateId ∧
      release.candidateFingerprint = acceptance.candidateFingerprint ∧
      l.Older release.trackingFingerprint

/-- The replacements of a target's head, in order. -/
def replacements (l : Ledger Fp) (targetRef : String) : List (Fp × Fp) :=
  (l.settlements.filter fun row => row.targetRef = targetRef).map fun row =>
    (row.beforeFingerprint, row.afterFingerprint)

/-- The unique keys of the tables. -/
structure Keys (l : Ledger Fp) : Prop where
  requests : (l.requests.map Prod.fst).Nodup
  packs : (l.packs.map (·.writerPackFingerprint)).Nodup
  candidates : (l.candidates.map Prod.fst).Nodup
  releases : (l.releases.map fun row => (row.candidateId, row.candidateFingerprint)).Nodup
  acceptances : (l.acceptances.map (·.acceptanceId)).Nodup

structure Inv (l : Ledger Fp) : Prop where
  keys : l.Keys
  tracking : ∃ row, l.tracking = [row] ∧ row.projectId = l.projectId ∧ row.payload.Sealed ∧
    row.version = row.payload.version ∧ row.contentFingerprint = row.payload.fingerprint
  heads : ∀ row ∈ l.canonState, ∃ value, row.contentFingerprint = Sha256.ofJson value
  packs : ∀ pack ∈ l.packs, l.Frozen pack
  releases : ∀ release ∈ l.releases, l.Released release
  dependencies : ∀ row ∈ l.dependencies, row.status = .current → l.Current row
  spent : ∀ row ∈ l.settlements, l.Spent row.acceptanceId
  once : (l.settlements.map (·.acceptanceId)).Nodup
  linked : ∀ targetRef, HashChain.Linked (Sha256.ofText "") (l.replacements targetRef)
    ((l.head targetRef).getD (Sha256.ofText ""))
  receipts : ∀ authorization ∈ l.receipts, ∃ row ∈ l.settlements,
    row.receipt = authorization ∧ row.settlementId = authorization.settlementId

/-! ## One step -/

section Step

variable {l k : Ledger Fp}

theorem Step.keys (h : Step l k) (hkeys : l.Keys) : k.Keys := by
  obtain ⟨h1, h2, h3, h4, h5⟩ := hkeys
  cases h with
  | skip => exact ⟨h1, h2, h3, h4, h5⟩
  | pack hfresh => exact ⟨h1, Table.nodup_append_singleton h2 hfresh, h3, h4, h5⟩
  | start hfresh =>
    refine ⟨Table.nodup_append_singleton h1 fun other hother he => hfresh ?_, h2, h3, h4, h5⟩
    exact List.mem_map.mpr ⟨other, hother, he⟩
  | bind => exact ⟨h1, h2, h3, h4, h5⟩
  | release hcandidate hrelease =>
    refine ⟨h1, h2, Table.nodup_append_singleton h3 fun other hother he => hcandidate ?_,
      Table.nodup_append_singleton h4 fun other hother he => hrelease ?_, h5⟩
    · exact List.mem_map.mpr ⟨other, hother, he⟩
    · exact List.mem_map.mpr ⟨other, hother, he⟩
  | accept hfresh => exact ⟨h1, h2, h3, h4, Table.nodup_append_singleton h5 hfresh⟩
  | settle => exact ⟨h1, h2, h3, h4, h5⟩

theorem Step.tracking (h : Step l k)
    (hinv : ∃ row, l.tracking = [row] ∧ row.projectId = l.projectId ∧ row.payload.Sealed ∧
      row.version = row.payload.version ∧ row.contentFingerprint = row.payload.fingerprint) :
    ∃ row, k.tracking = [row] ∧ row.projectId = k.projectId ∧ row.payload.Sealed ∧
      row.version = row.payload.version ∧ row.contentFingerprint = row.payload.fingerprint := by
  cases h with
  | settle htracking hsealed =>
    obtain ⟨row, hrow, hproject, -⟩ := hinv
    obtain rfl : _ = row := List.singleton_inj.mp (htracking.symm.trans hrow)
    exact ⟨_, rfl, hproject, hsealed, rfl, rfl⟩
  | _ => exact hinv

theorem Step.heads (h : Step l k)
    (hinv : ∀ row ∈ l.canonState, ∃ value, row.contentFingerprint = Sha256.ofJson value) :
    ∀ row ∈ k.canonState, ∃ value, row.contentFingerprint = Sha256.ofJson value := by
  cases h with
  | settle _ _ _ _ _ _ _ _ _ _ hafter hvalue =>
    intro other hother
    rcases Table.mem_upsert hother with rfl | ⟨old, -, -, rfl⟩ | ⟨hold, -⟩
    · exact ⟨_, hafter.trans hvalue⟩
    · exact ⟨_, hafter.trans hvalue⟩
    · exact hinv other hold
  | _ => exact hinv

theorem head_eq_ofJson
    (hheads : ∀ row ∈ l.canonState, ∃ value, row.contentFingerprint = Sha256.ofJson value)
    {targetRef : String} {fingerprint : Fp} (h : l.head targetRef = some fingerprint) :
    ∃ value, fingerprint = Sha256.ofJson value := by
  obtain ⟨row, hrow, rfl⟩ := Option.map_eq_some_iff.mp h
  exact hheads row (Table.lookup_mem hrow)

/-- What was older stays older, and what is settled becomes older. -/
theorem Step.older (h : Step l k) {fingerprint : Fp} (hold : l.Older fingerprint) :
    k.Older fingerprint := by
  cases h with
  | settle htracking hsealed hversion =>
    obtain ⟨state, hstate, hfp, hlt⟩ := hold
    refine ⟨state, hstate, hfp, fun row hrow => ?_⟩
    obtain rfl := List.mem_singleton.mp hrow
    exact (hlt _ (htracking ▸ List.mem_singleton_self _)).trans hversion
  | _ => exact hold

/-- No fingerprint of an earlier version is the current one. -/
theorem Older.ne_current [CollisionFree Fp] {fingerprint : Fp} (hold : l.Older fingerprint)
    {row : TrackingRow Fp} (hrow : row ∈ l.tracking) (hsealed : row.payload.Sealed) :
    fingerprint ≠ row.payload.fingerprint := by
  obtain ⟨state, hstate, hfp, hlt⟩ := hold
  rintro rfl
  have hsame := TrackingState.Sealed.eq_of_fingerprint_eq hstate hsealed hfp
  exact absurd (hlt row hrow) (hsame ▸ lt_irrefl _)

theorem Step.packs (h : Step l k)
    (htracking : ∃ row, l.tracking = [row] ∧ row.payload.Sealed)
    (hinv : ∀ pack ∈ l.packs, l.Frozen pack) : ∀ pack ∈ k.packs, k.Frozen pack := by
  cases h with
  | pack hfresh hmem hpack hrow hheads =>
    intro pack hpackMem
    rcases List.mem_append.mp hpackMem with hold | hnew
    · exact hinv pack hold
    · obtain rfl := List.mem_singleton.mp hnew
      exact ⟨hrow, .inr ⟨⟨_, hmem, hrow.trans hpack⟩, hheads⟩⟩
  | settle hsingle hsealed hversion =>
    intro pack hpack
    obtain ⟨hrow, hfrozen⟩ := hinv pack hpack
    refine ⟨hrow, .inl ?_⟩
    rcases hfrozen with ⟨state, hstate, hfp, hlt⟩ | ⟨⟨row, hmem, hfp⟩, -⟩
    · refine ⟨state, hstate, hfp, fun row hrow => ?_⟩
      obtain rfl := List.mem_singleton.mp hrow
      exact (hlt _ (hsingle ▸ List.mem_singleton_self _)).trans hversion
    · -- the state the pack was frozen with is the one this settlement replaces
      obtain ⟨current, hcurrent, hcurrentSealed⟩ := htracking
      obtain rfl : row = current := List.mem_singleton.mp (hcurrent ▸ hmem)
      obtain rfl : _ = row := List.singleton_inj.mp (hsingle.symm.trans hcurrent)
      refine ⟨_, hcurrentSealed, hfp.symm, fun row hrow => ?_⟩
      obtain rfl := List.mem_singleton.mp hrow
      exact hversion
  | _ => exact hinv

theorem Step.releases (h : Step l k) (hinv : ∀ release ∈ l.releases, l.Released release) :
    ∀ release ∈ k.releases, k.Released release := by
  cases h with
  | pack =>
    intro release hrelease
    obtain ⟨candidate, hcandidate, hid, runId, request, hrun, hrequest, pack, hpack, hrest⟩ :=
      hinv release hrelease
    exact ⟨candidate, hcandidate, hid, runId, request, hrun, hrequest, pack,
      List.mem_append_left _ hpack, hrest⟩
  | start =>
    intro release hrelease
    obtain ⟨candidate, hcandidate, hid, runId, request, hrun, hrequest, hrest⟩ :=
      hinv release hrelease
    exact ⟨candidate, hcandidate, hid, runId, request, hrun, List.mem_append_left _ hrequest,
      hrest⟩
  | release hcandidate hkey hid hrun hrequest hpack hfrozen htracking =>
    intro release hrelease
    rcases List.mem_append.mp hrelease with hold | hnew
    · obtain ⟨candidate, hcandidate, hrest⟩ := hinv release hold
      exact ⟨candidate, List.mem_append_left _ hcandidate, hrest⟩
    · obtain rfl := List.mem_singleton.mp hnew
      exact ⟨_, List.mem_append_right _ (List.mem_singleton_self _), hid.symm, _, _, hrun,
        hrequest, _, hpack, hfrozen, htracking⟩
  | _ => exact hinv

theorem Step.dependencies [CollisionFree Fp] (h : Step l k)
    (hheads : ∀ row ∈ l.canonState, ∃ value, row.contentFingerprint = Sha256.ofJson value)
    (hinv : ∀ row ∈ l.dependencies, row.status = .current → l.Current row) :
    ∀ row ∈ k.dependencies, row.status = .current → k.Current row := by
  cases h with
  | start _ hrows =>
    intro row hrow hstatus
    rcases List.mem_append.mp hrow with hold | hnew
    · exact hinv row hold hstatus
    · exact hrows row hnew
  | bind hrows =>
    intro row hrow hstatus
    rcases hrows row hrow with hold | hcurrent
    · exact hinv row hold hstatus
    · exact hcurrent
  | @settle tracking next row canon _ _ stale updatedAt _ _ _ _ _ _ _ _ _ hkey hafter hvalue
      hbefore hstale =>
    intro dependency hdependency hstatus
    obtain ⟨old, hold, rfl⟩ := Table.mem_updateWhere.mp hdependency
    by_cases hmarked : stale old = true
    · simp [hmarked] at hstatus
    · rw [if_neg hmarked] at hstatus ⊢
      have hcurrent : l.head (chapterRef old.sourceChapterId) = some old.sourceFingerprint :=
        hinv old hold hstatus
      rw [Current, head_of_upsert rfl, hkey]
      split_ifs with htarget
      · -- the head of its source is replaced, so it was marked unless it did not change
        rw [htarget] at hcurrent
        rw [hcurrent, Option.getD_some] at hbefore
        obtain ⟨value, hvalue'⟩ := head_eq_ofJson hheads hcurrent
        have hsame : row.beforeFingerprint = row.afterFingerprint := by
          by_contra hne
          refine hmarked ((hstale old).mpr ⟨⟨?_, hne⟩, htarget, hbefore.symm, hstatus⟩)
          rw [hbefore, hvalue']
          exact CollisionFree.ofJson_ne_empty value
        rw [hafter, ← hsame, hbefore]
      · exact hcurrent
  | _ => exact hinv

theorem Step.spent (h : Step l k) (htracking : ∃ row, l.tracking = [row] ∧ row.payload.Sealed)
    (hinv : ∀ row ∈ l.settlements, l.Spent row.acceptanceId) :
    ∀ row ∈ k.settlements, k.Spent row.acceptanceId := by
  have hkept : ∀ row ∈ l.settlements, k.Spent row.acceptanceId := by
    intro row hrow
    obtain ⟨acceptance, hacceptance, hid, release, hrelease, hcandidate, hfp, hold⟩ := hinv row hrow
    have hold := h.older hold
    cases h with
    | release =>
      exact ⟨acceptance, hacceptance, hid, release, List.mem_append_left _ hrelease, hcandidate,
        hfp, hold⟩
    | accept =>
      exact ⟨acceptance, List.mem_append_left _ hacceptance, hid, release, hrelease, hcandidate,
        hfp, hold⟩
    | _ => exact ⟨acceptance, hacceptance, hid, release, hrelease, hcandidate, hfp, hold⟩
  cases h with
  | settle hsingle hsealed hversion hacceptance hid hrelease hcandidate hfp hcurrent =>
    intro row hrow
    rcases List.mem_append.mp hrow with hold | hnew
    · exact hkept row hold
    · obtain rfl := List.mem_singleton.mp hnew
      obtain ⟨tracking, htracking, htrackingSealed⟩ := htracking
      obtain rfl : _ = tracking := List.singleton_inj.mp (hsingle.symm.trans htracking)
      refine ⟨_, hacceptance, hid, _, hrelease, hcandidate, hfp, _, htrackingSealed,
        hcurrent.symm, fun row hrow => ?_⟩
      obtain rfl := List.mem_singleton.mp hrow
      exact hversion
  | _ => exact hkept

/-- An acceptance that was settled cannot be settled again. -/
theorem Step.once [DecidableEq Fp] [CollisionFree Fp] (h : Step l k) (hinv : l.Inv) :
    (k.settlements.map (·.acceptanceId)).Nodup := by
  cases h with
  | @settle tracking _ row _ acceptance release _ _ hsingle _ _ hacceptance hid hrelease
      hcandidate hfp hcurrent =>
    refine Table.nodup_append_singleton hinv.once fun other hother hsame => ?_
    obtain ⟨acceptance', hacceptance', hid', release', hrelease', hcandidate', hfp', hold⟩ :=
      hinv.spent other hother
    obtain rfl : acceptance' = acceptance :=
      Table.eq_of_key_eq hinv.keys.acceptances hacceptance' hacceptance
        (hid'.trans (hsame.trans hid.symm))
    obtain rfl : release' = release :=
      Table.eq_of_key_eq hinv.keys.releases hrelease' hrelease
        (by rw [hcandidate', hfp', hcandidate, hfp])
    obtain ⟨current, htracking, -, hsealed, -⟩ := hinv.tracking
    obtain rfl : tracking = current := List.singleton_inj.mp (hsingle.symm.trans htracking)
    exact hold.ne_current (htracking ▸ List.mem_singleton_self _) hsealed hcurrent
  | _ => exact hinv.once

omit [Sha256 Fp] in
theorem replacements_append (l : Ledger Fp) (row : SettlementRow Fp) (targetRef : String) :
    { l with settlements := l.settlements ++ [row] }.replacements targetRef =
      if row.targetRef = targetRef then
        l.replacements targetRef ++ [(row.beforeFingerprint, row.afterFingerprint)]
      else l.replacements targetRef := by
  by_cases h : row.targetRef = targetRef <;> simp [replacements, List.filter_append, h]

theorem Step.linked (h : Step l k)
    (hinv : ∀ targetRef, HashChain.Linked (Sha256.ofText "") (l.replacements targetRef)
      ((l.head targetRef).getD (Sha256.ofText ""))) (targetRef : String) :
    HashChain.Linked (Sha256.ofText "") (k.replacements targetRef)
      ((k.head targetRef).getD (Sha256.ofText "")) := by
  cases h with
  | @settle tracking next row canon _ _ stale _ _ _ _ _ _ _ _ _ _ hkey hafter hvalue hbefore =>
    rw [head_of_upsert (l := l) rfl, hkey]
    refine (congrArg (HashChain.Linked _ · _) (replacements_append l row targetRef)).mpr ?_
    by_cases htarget : row.targetRef = targetRef
    · rw [if_pos htarget, if_pos htarget.symm, hbefore, htarget, hafter, Option.getD_some]
      exact (hinv targetRef).append
    · rw [if_neg htarget, if_neg (Ne.symm htarget)]
      exact hinv targetRef
  | _ => exact hinv targetRef

theorem Step.receipts (h : Step l k)
    (hinv : ∀ authorization ∈ l.receipts, ∃ row ∈ l.settlements,
      row.receipt = authorization ∧ row.settlementId = authorization.settlementId) :
    ∀ authorization ∈ k.receipts, ∃ row ∈ k.settlements,
      row.receipt = authorization ∧ row.settlementId = authorization.settlementId := by
  cases h with
  | @settle _ _ row _ _ _ _ _ _ _ _ _ _ _ _ _ _ _ _ _ _ _ hreceipt =>
    intro authorization hauthorization
    rcases List.mem_append.mp hauthorization with hold | hnew
    · obtain ⟨old, hmem, hrest⟩ := hinv authorization hold
      exact ⟨old, List.mem_append_left _ hmem, hrest⟩
    · obtain rfl := List.mem_singleton.mp hnew
      exact ⟨row, List.mem_append_right _ (List.mem_singleton_self _), rfl, hreceipt.symm⟩
  | _ => exact hinv

theorem Step.inv [DecidableEq Fp] [CollisionFree Fp] (h : Step l k) (hinv : l.Inv) :
    k.Inv := by
  obtain ⟨row, hrow, hproject, hsealed, hrest⟩ := hinv.tracking
  exact
    { keys := h.keys hinv.keys
      tracking := h.tracking hinv.tracking
      heads := h.heads hinv.heads
      packs := h.packs ⟨row, hrow, hsealed⟩ hinv.packs
      releases := h.releases hinv.releases
      dependencies := h.dependencies hinv.heads hinv.dependencies
      spent := h.spent ⟨row, hrow, hsealed⟩ hinv.spent
      once := h.once hinv
      linked := h.linked hinv.linked
      receipts := h.receipts hinv.receipts }

/-- At a settlement the pack of the run agrees with the tracking state and the canon. -/
theorem Inv.continues [CollisionFree Fp] (hinv : l.Inv) {tracking : TrackingRow Fp}
    (hmem : tracking ∈ l.tracking) {pack : WriterPackRow Fp} (hpack : pack ∈ l.packs)
    (hcurrent : pack.trackingFingerprint = tracking.payload.fingerprint) :
    pack.payload.trackingFingerprint = tracking.payload.fingerprint ∧
      l.Continues pack.payload := by
  obtain ⟨hrow, hold | ⟨-, hheads⟩⟩ := hinv.packs pack hpack
  · obtain ⟨row, hrow, -, hsealed, -⟩ := hinv.tracking
    obtain rfl : tracking = row := List.mem_singleton.mp (hrow ▸ hmem)
    exact absurd hcurrent (hold.ne_current hmem hsealed)
  · exact ⟨hrow.symm.trans hcurrent, hheads⟩

end Step

end Ledger

end Quillframe
