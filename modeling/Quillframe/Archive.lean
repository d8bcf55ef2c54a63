import Quillframe.Settlement
import Quillframe.Topology

/-!
# The archive of manuscripts

The tables that tie a canon head to the text it was settled from, as a transition system of their
own: a chapter has one manuscript, a manuscript has each text once, and a candidate is accepted
once.
-/
namespace Quillframe

open Database

variable {Fp : Type}

structure Archive (Fp : Type) where
  /-- The id, the node and the kind of each document. -/
  documents : List (String × Option String × DocumentKind)
  revisions : List (DocumentRevision Fp)
  candidates : List (CandidateRow Fp)
  acceptances : List (AcceptanceRow Fp)
  settlements : List (SettlementRow Fp)
  canonState : List (CanonRow Fp)

def Database.archive (db : Database Fp) : Archive Fp where
  documents := db.documents.map fun row => (row.documentId, row.storyNodeId, row.documentKind)
  revisions := db.documentRevisions
  candidates := db.candidates
  acceptances := db.acceptanceEvidence
  settlements := db.settlements
  canonState := db.canonState

namespace Archive

/-- The candidate and the revision that a release adds together. -/
structure Pairs (candidate : CandidateRow Fp) (revision : DocumentRevision Fp) : Prop where
  document : candidate.documentId = some revision.documentId
  revisionId : candidate.revisionId = some revision.revisionId
  content : candidate.contentFingerprint = revision.contentFingerprint

/-- The rows that a settlement plan was read from. -/
structure Backs (a : Archive Fp) (plan : SettlementPlan Fp) : Prop where
  target : plan.preflight.targetRef = chapterRef plan.chapterId
  acceptance : ∃ row ∈ a.acceptances, row.acceptanceId = plan.preflight.acceptanceId ∧
    row.candidateId = plan.preflight.candidateId
  candidate : ∃ row ∈ a.candidates, row.candidateId = plan.preflight.candidateId ∧
    row.documentId = some plan.documentId ∧ row.revisionId = some plan.preflight.revisionId ∧
    row.contentFingerprint = plan.preflight.candidateFingerprint
  revision : ∃ row ∈ a.revisions, row.revisionId = plan.preflight.revisionId ∧
    row.documentId = plan.documentId ∧ row.content = plan.manuscript ∧
    row.contentFingerprint = plan.preflight.candidateFingerprint
  chapter : (plan.documentId, some plan.chapterId, .manuscript) ∈ a.documents

variable [Sha256 Fp] [DecidableEq Fp]

inductive Step : Archive Fp → Archive Fp → Prop
  | skip (a : Archive Fp) : Step a a
  | document {a : Archive Fp} (document : String × Option String × DocumentKind)
      (hfresh : document.1 ∉ a.documents.map Prod.fst)
      (hmanuscript : document.2.2 = .manuscript → ∀ other ∈ a.documents,
        other.2.2 = .manuscript → other.2.1 ≠ document.2.1) :
      Step a { a with documents := a.documents ++ [document] }
  | revision {a : Archive Fp} {revision : DocumentRevision Fp}
      (hfresh : revision.revisionId ∉ a.revisions.map (·.revisionId))
      (hpair : (revision.documentId, revision.contentFingerprint) ∉
        a.revisions.map fun row => (row.documentId, row.contentFingerprint))
      (hdocument : revision.documentId ∈ a.documents.map Prod.fst)
      (hauthority : revision.authorityClass ≠ .accepted) :
      Step a { a with revisions := a.revisions ++ [revision] }
  | release {a : Archive Fp} {revision : DocumentRevision Fp} {candidate : CandidateRow Fp}
      (chapterId : String)
      (hfresh : revision.revisionId ∉ a.revisions.map (·.revisionId))
      (hpair : (revision.documentId, revision.contentFingerprint) ∉
        a.revisions.map fun row => (row.documentId, row.contentFingerprint))
      (hauthority : revision.authorityClass ≠ .accepted)
      (hcandidate : candidate.candidateId ∉ a.candidates.map (·.candidateId))
      (hrows : Pairs candidate revision)
      (hchapter : (revision.documentId, some chapterId, .manuscript) ∈ a.documents) :
      Step a { a with
        revisions := a.revisions ++ [revision]
        candidates := a.candidates ++ [candidate] }
  | accept {a : Archive Fp} (row : AcceptanceRow Fp)
      (hcandidate : ∃ candidate ∈ a.candidates, candidate.candidateId = row.candidateId ∧
        candidate.status ≠ .accepted) :
      Step a { a with
        acceptances := a.acceptances ++ [row]
        candidates := Table.updateWhere (fun other => other.candidateId = row.candidateId)
          (fun other => { other with status := .accepted }) a.candidates }
  | settle {a : Archive Fp} (plan : SettlementPlan Fp)
      (authorization : SettlementAuthorization Fp) (hplan : a.Backs plan) :
      Step a { a with
        settlements := a.settlements ++ [plan.settlementRow authorization]
        canonState := Table.upsert CanonRow.stateKey (plan.canonRow authorization.createdAt)
          (fun old => { plan.canonRow authorization.createdAt with stateKey := old.stateKey })
          a.canonState
        revisions := Table.updateWhere (fun revision =>
            revision.revisionId = plan.preflight.revisionId ∧
              revision.contentFingerprint = plan.preflight.candidateFingerprint)
          (fun revision => { revision with authorityClass := .accepted }) a.revisions }

/-! ## The invariant -/

/-- A canon row holds what a settlement of its key wrote. -/
def Settled (a : Archive Fp) (row : CanonRow Fp) : Prop :=
  ∃ plan : SettlementPlan Fp, a.Backs plan ∧ row.stateKey = plan.preflight.targetRef ∧
    row.value = plan.stateValue ∧ row.contentFingerprint = plan.afterHead ∧
    plan.preflight.acceptanceId ∈ a.settlements.map (·.acceptanceId)

omit [Sha256 Fp] [DecidableEq Fp] in
/-- A candidate was released with a revision of a manuscript. -/
def Released (a : Archive Fp) (candidate : CandidateRow Fp) : Prop :=
  ∃ revision ∈ a.revisions, Pairs candidate revision ∧
    ∃ chapterId, (revision.documentId, some chapterId, .manuscript) ∈ a.documents

omit [Sha256 Fp] [DecidableEq Fp] in
/-- The unique keys of the tables. -/
structure Keys (a : Archive Fp) : Prop where
  documents : (a.documents.map Prod.fst).Nodup
  manuscripts : ∀ chapterId x y, (x, some chapterId, .manuscript) ∈ a.documents →
    (y, some chapterId, .manuscript) ∈ a.documents → x = y
  revisions : (a.revisions.map (·.revisionId)).Nodup
  texts : (a.revisions.map fun row => (row.documentId, row.contentFingerprint)).Nodup
  candidates : (a.candidates.map (·.candidateId)).Nodup
  released : (a.candidates.map fun row => (row.documentId, row.contentFingerprint)).Nodup
  acceptances : (a.acceptances.map (·.candidateId)).Nodup
  canon : (a.canonState.map (·.stateKey)).Nodup

structure Inv (a : Archive Fp) : Prop where
  keys : a.Keys
  revisions : ∀ row ∈ a.revisions, row.documentId ∈ a.documents.map Prod.fst
  candidates : ∀ row ∈ a.candidates, a.Released row
  acceptances : ∀ row ∈ a.acceptances, ∃ candidate ∈ a.candidates,
    candidate.candidateId = row.candidateId ∧ candidate.status = .accepted
  canon : ∀ row ∈ a.canonState, a.Settled row

/-! ## One step -/

/-- Rows stay; only a status or an authority changes. -/
structure Grows (a b : Archive Fp) : Prop where
  documents : a.documents ⊆ b.documents
  revisions : ∀ row ∈ a.revisions, ∃ row' ∈ b.revisions, row'.revisionId = row.revisionId ∧
    row'.documentId = row.documentId ∧ row'.content = row.content ∧
    row'.contentFingerprint = row.contentFingerprint
  candidates : ∀ row ∈ a.candidates, ∃ row' ∈ b.candidates,
    row'.candidateId = row.candidateId ∧ row'.documentId = row.documentId ∧
    row'.revisionId = row.revisionId ∧ row'.contentFingerprint = row.contentFingerprint ∧
    (row.status = .accepted → row'.status = .accepted)
  acceptances : a.acceptances ⊆ b.acceptances
  settlements : a.settlements ⊆ b.settlements

section Step

variable {a b : Archive Fp}

theorem Step.grows (h : Step a b) : Grows a b := by
  have hrevisions : ∀ row ∈ a.revisions, ∃ row' ∈ a.revisions,
      row'.revisionId = row.revisionId ∧ row'.documentId = row.documentId ∧
      row'.content = row.content ∧ row'.contentFingerprint = row.contentFingerprint :=
    fun row hrow => ⟨row, hrow, rfl, rfl, rfl, rfl⟩
  have hcandidates : ∀ row ∈ a.candidates, ∃ row' ∈ a.candidates,
      row'.candidateId = row.candidateId ∧ row'.documentId = row.documentId ∧
      row'.revisionId = row.revisionId ∧ row'.contentFingerprint = row.contentFingerprint ∧
      (row.status = .accepted → row'.status = .accepted) :=
    fun row hrow => ⟨row, hrow, rfl, rfl, rfl, rfl, id⟩
  cases h with
  | skip =>
    exact ⟨List.Subset.refl _, hrevisions, hcandidates, List.Subset.refl _, List.Subset.refl _⟩
  | document =>
    exact ⟨List.subset_append_left _ _, hrevisions, hcandidates, List.Subset.refl _,
      List.Subset.refl _⟩
  | revision =>
    refine ⟨List.Subset.refl _, fun row hrow => ?_, hcandidates, List.Subset.refl _,
      List.Subset.refl _⟩
    exact ⟨row, List.mem_append_left _ hrow, rfl, rfl, rfl, rfl⟩
  | release =>
    refine ⟨List.Subset.refl _, fun row hrow => ?_, fun row hrow => ?_, List.Subset.refl _,
      List.Subset.refl _⟩
    · exact ⟨row, List.mem_append_left _ hrow, rfl, rfl, rfl, rfl⟩
    · exact ⟨row, List.mem_append_left _ hrow, rfl, rfl, rfl, rfl, id⟩
  | accept =>
    refine ⟨List.Subset.refl _, hrevisions, fun row hrow => ?_, List.subset_append_left _ _,
      List.Subset.refl _⟩
    refine ⟨_, Table.mem_updateWhere.mpr ⟨row, hrow, rfl⟩, ?_⟩
    split_ifs
    · exact ⟨rfl, rfl, rfl, rfl, fun _ => rfl⟩
    · exact ⟨rfl, rfl, rfl, rfl, id⟩
  | settle =>
    refine ⟨List.Subset.refl _, fun row hrow => ?_, hcandidates, List.Subset.refl _,
      List.subset_append_left _ _⟩
    refine ⟨_, Table.mem_updateWhere.mpr ⟨row, hrow, rfl⟩, ?_⟩
    split_ifs <;> exact ⟨rfl, rfl, rfl, rfl⟩

omit [Sha256 Fp] [DecidableEq Fp] in
theorem Backs.mono {plan : SettlementPlan Fp} (h : a.Backs plan) (hgrows : Grows a b) :
    b.Backs plan := by
  obtain ⟨htarget, ⟨acceptance, hacceptance, hrow⟩, ⟨candidate, hcandidate, hid, hdocument,
    hrevisionId, hfp⟩, ⟨revision, hrevision, hrid, hrdocument, hcontent, hrfp⟩, hchapter⟩ := h
  obtain ⟨candidate', hcandidate', hid', hdocument', hrevision', hfp', -⟩ :=
    hgrows.candidates candidate hcandidate
  obtain ⟨revision', hmem', hrid', hrdocument', hcontent', hrfp'⟩ :=
    hgrows.revisions revision hrevision
  exact
    { target := htarget
      acceptance := ⟨acceptance, hgrows.acceptances hacceptance, hrow⟩
      candidate := ⟨candidate', hcandidate', hid'.trans hid, hdocument'.trans hdocument,
        hrevision'.trans hrevisionId, hfp'.trans hfp⟩
      revision := ⟨revision', hmem', hrid'.trans hrid, hrdocument'.trans hrdocument,
        hcontent'.trans hcontent, hrfp'.trans hrfp⟩
      chapter := hgrows.documents hchapter }

omit [DecidableEq Fp] in
theorem Settled.mono {row : CanonRow Fp} (h : a.Settled row) (hgrows : Grows a b) :
    b.Settled row := by
  obtain ⟨plan, hplan, hkey, hvalue, hfp, hsettled⟩ := h
  refine ⟨plan, hplan.mono hgrows, hkey, hvalue, hfp, ?_⟩
  obtain ⟨settlement, hmem, hid⟩ := List.mem_map.mp hsettled
  exact List.mem_map.mpr ⟨settlement, hgrows.settlements hmem, hid⟩

omit [Sha256 Fp] [DecidableEq Fp] in
theorem Released.mono {candidate candidate' : CandidateRow Fp} (h : a.Released candidate)
    (hgrows : Grows a b) (hdocument : candidate'.documentId = candidate.documentId)
    (hrevision : candidate'.revisionId = candidate.revisionId)
    (hfp : candidate'.contentFingerprint = candidate.contentFingerprint) :
    b.Released candidate' := by
  obtain ⟨revision, hmem, hpairs, chapterId, hchapter⟩ := h
  obtain ⟨revision', hmem', hid, hdoc, -, hcontent⟩ := hgrows.revisions revision hmem
  refine ⟨revision', hmem', ⟨?_, ?_, ?_⟩, chapterId, hdoc ▸ hgrows.documents hchapter⟩
  · rw [hdocument, hpairs.document, hdoc]
  · rw [hrevision, hpairs.revisionId, hid]
  · rw [hfp, hpairs.content, hcontent]

theorem Step.keys (h : Step a b) (hinv : a.Inv) : b.Keys := by
  obtain ⟨hdocuments, hmanuscripts, hrevisions, htexts, hcandidates, hreleased, hacceptances,
    hcanon⟩ := hinv.keys
  cases h with
  | skip => exact hinv.keys
  | document _ hfresh hmanuscript =>
    refine ⟨?_, fun chapterId x y hx hy => ?_, hrevisions, htexts, hcandidates, hreleased,
      hacceptances, hcanon⟩
    · exact Table.nodup_append_singleton hdocuments fun other hother he =>
        hfresh (List.mem_map.mpr ⟨other, hother, he⟩)
    · rcases List.mem_append.mp hx with oldx | newx
      · rcases List.mem_append.mp hy with oldy | newy
        · exact hmanuscripts chapterId x y oldx oldy
        · obtain rfl := List.mem_singleton.mp newy
          exact (hmanuscript rfl (x, some chapterId, .manuscript) oldx rfl rfl).elim
      · obtain rfl := List.mem_singleton.mp newx
        rcases List.mem_append.mp hy with oldy | newy
        · exact (hmanuscript rfl (y, some chapterId, .manuscript) oldy rfl rfl).elim
        · exact (congrArg Prod.fst (List.mem_singleton.mp newy)).symm
  | revision hfresh hpair =>
    refine ⟨hdocuments, hmanuscripts, ?_, ?_, hcandidates, hreleased, hacceptances, hcanon⟩
    · exact Table.nodup_append_singleton hrevisions fun other hother he =>
        hfresh (List.mem_map.mpr ⟨other, hother, he⟩)
    · exact Table.nodup_append_singleton htexts fun other hother he =>
        hpair (List.mem_map.mpr ⟨other, hother, he⟩)
  | release _ hfresh hpair _ hcandidate hrows =>
    refine ⟨hdocuments, hmanuscripts, ?_, ?_, ?_, ?_, hacceptances, hcanon⟩
    · exact Table.nodup_append_singleton hrevisions fun other hother he =>
        hfresh (List.mem_map.mpr ⟨other, hother, he⟩)
    · exact Table.nodup_append_singleton htexts fun other hother he =>
        hpair (List.mem_map.mpr ⟨other, hother, he⟩)
    · exact Table.nodup_append_singleton hcandidates fun other hother he =>
        hcandidate (List.mem_map.mpr ⟨other, hother, he⟩)
    · -- an older candidate has a revision, and this revision is new
      refine Table.nodup_append_singleton hreleased fun other hother he => hpair ?_
      obtain ⟨old, hold, hpairs, -⟩ := hinv.candidates other hother
      obtain ⟨hdocument, hfp⟩ := Prod.mk.inj he
      refine List.mem_map.mpr ⟨old, hold, Prod.ext ?_ ?_⟩
      · exact Option.some.inj (hpairs.document.symm.trans (hdocument.trans hrows.document))
      · exact hpairs.content.symm.trans (hfp.trans hrows.content)
  | accept _ hcandidate =>
    refine ⟨hdocuments, hmanuscripts, hrevisions, htexts,
      Table.nodup_updateWhere (fun _ => rfl) hcandidates,
      Table.nodup_updateWhere (fun _ => rfl) hreleased, ?_, hcanon⟩
    -- an acceptance of the candidate would have left it accepted
    refine Table.nodup_append_singleton hacceptances fun other hother he => ?_
    obtain ⟨accepted, haccepted, hid, hstatus⟩ := hinv.acceptances other hother
    obtain ⟨candidate, hmem, hcid, hopen⟩ := hcandidate
    obtain rfl := Table.eq_of_key_eq hcandidates haccepted hmem
      (hid.trans (he.trans hcid.symm))
    exact hopen hstatus
  | settle =>
    exact ⟨hdocuments, hmanuscripts, Table.nodup_updateWhere (fun _ => rfl) hrevisions,
      Table.nodup_updateWhere (fun _ => rfl) htexts, hcandidates, hreleased, hacceptances,
      Table.nodup_upsert (fun _ => rfl) hcanon⟩

theorem Step.canon (h : Step a b) (hinv : a.Inv) : ∀ row ∈ b.canonState, b.Settled row := by
  have hgrows := h.grows
  cases h with
  | settle plan authorization hplan =>
    have hid : plan.preflight.acceptanceId ∈
        (a.settlements ++ [plan.settlementRow authorization]).map (·.acceptanceId) := by
      simp [SettlementPlan.settlementRow]
    intro row hrow
    rcases Table.mem_upsert hrow with rfl | ⟨old, -, hkey, rfl⟩ | ⟨hold, -⟩
    · exact ⟨plan, hplan.mono hgrows, rfl, rfl, rfl, hid⟩
    · exact ⟨plan, hplan.mono hgrows, hkey, rfl, rfl, hid⟩
    · exact (hinv.canon row hold).mono hgrows
  | _ => exact fun row hrow => (hinv.canon row hrow).mono hgrows

theorem Step.candidates (h : Step a b) (hinv : a.Inv) :
    ∀ row ∈ b.candidates, b.Released row := by
  have hgrows := h.grows
  have hkeep : ∀ row ∈ a.candidates, b.Released row := fun row hrow =>
    (hinv.candidates row hrow).mono hgrows rfl rfl rfl
  cases h with
  | release _ _ _ _ _ hrows hchapter =>
    intro row hrow
    rcases List.mem_append.mp hrow with hold | hnew
    · exact hkeep row hold
    · obtain rfl := List.mem_singleton.mp hnew
      exact ⟨_, List.mem_append_right _ (List.mem_singleton_self _), hrows, _, hchapter⟩
  | accept =>
    intro row hrow
    obtain ⟨old, hold, rfl⟩ := Table.mem_updateWhere.mp hrow
    refine (hinv.candidates old hold).mono hgrows ?_ ?_ ?_ <;> split_ifs <;> rfl
  | _ => exact hkeep

theorem Step.acceptances (h : Step a b) (hinv : a.Inv) :
    ∀ row ∈ b.acceptances, ∃ candidate ∈ b.candidates,
      candidate.candidateId = row.candidateId ∧ candidate.status = .accepted := by
  have hkeep : ∀ row ∈ a.acceptances, ∃ candidate ∈ b.candidates,
      candidate.candidateId = row.candidateId ∧ candidate.status = .accepted := by
    intro row hrow
    obtain ⟨candidate, hcandidate, hid, hstatus⟩ := hinv.acceptances row hrow
    obtain ⟨candidate', hmem', hid', -, -, -, hstatus'⟩ := h.grows.candidates candidate hcandidate
    exact ⟨candidate', hmem', hid'.trans hid, hstatus' hstatus⟩
  cases h with
  | accept _ hcandidate =>
    intro row hrow
    rcases List.mem_append.mp hrow with hold | hnew
    · exact hkeep row hold
    · obtain rfl := List.mem_singleton.mp hnew
      obtain ⟨candidate, hmem, hid, -⟩ := hcandidate
      refine ⟨_, Table.mem_updateWhere.mpr ⟨candidate, hmem, rfl⟩, ?_⟩
      simp [hid]
  | _ => exact hkeep

theorem Step.revisions (h : Step a b) (hinv : a.Inv) :
    ∀ row ∈ b.revisions, row.documentId ∈ b.documents.map Prod.fst := by
  have hdocuments : a.documents.map Prod.fst ⊆ b.documents.map Prod.fst :=
    List.map_subset _ h.grows.documents
  cases h with
  | revision _ _ hdocument =>
    intro row hrow
    rcases List.mem_append.mp hrow with hold | hnew
    · exact hinv.revisions row hold
    · obtain rfl := List.mem_singleton.mp hnew
      exact hdocument
  | release _ _ _ _ _ _ hchapter =>
    intro row hrow
    rcases List.mem_append.mp hrow with hold | hnew
    · exact hinv.revisions row hold
    · obtain rfl := List.mem_singleton.mp hnew
      exact List.mem_map.mpr ⟨_, hchapter, rfl⟩
  | settle =>
    intro row hrow
    obtain ⟨old, hold, rfl⟩ := Table.mem_updateWhere.mp hrow
    split_ifs <;> exact hinv.revisions old hold
  | _ => exact fun row hrow => hdocuments (hinv.revisions row hrow)

theorem Step.inv (h : Step a b) (hinv : a.Inv) : b.Inv where
  keys := h.keys hinv
  revisions := h.revisions hinv
  candidates := h.candidates hinv
  acceptances := h.acceptances hinv
  canon := h.canon hinv

/-! ## One text, one settlement -/

/-- Two plans of one chapter and one text are plans of one acceptance. -/
theorem Inv.acceptance_eq (hinv : a.Inv) {plan plan' : SettlementPlan Fp} (h : a.Backs plan)
    (h' : a.Backs plan') (hchapter : plan.chapterId = plan'.chapterId)
    (hfp : plan.preflight.candidateFingerprint = plan'.preflight.candidateFingerprint) :
    plan.preflight.acceptanceId = plan'.preflight.acceptanceId := by
  obtain ⟨-, ⟨acceptance, hacceptance, haid, hacandidate⟩, ⟨candidate, hcandidate, hcid, hcdoc, -,
    hcfp⟩, -, hdocument⟩ := h
  obtain ⟨-, ⟨acceptance', hacceptance', haid', hacandidate'⟩, ⟨candidate', hcandidate', hcid',
    hcdoc', -, hcfp'⟩, -, hdocument'⟩ := h'
  have hsame : plan.documentId = plan'.documentId :=
    hinv.keys.manuscripts plan.chapterId _ _ hdocument (hchapter ▸ hdocument')
  obtain rfl : candidate = candidate' := by
    refine Table.eq_of_key_eq hinv.keys.released hcandidate hcandidate' (Prod.ext ?_ ?_)
    · exact hcdoc.trans ((congrArg some hsame).trans hcdoc'.symm)
    · exact hcfp.trans (hfp.trans hcfp'.symm)
  obtain rfl : acceptance = acceptance' := by
    refine Table.eq_of_key_eq hinv.keys.acceptances hacceptance hacceptance' ?_
    exact hacandidate.trans (hcid.symm.trans (hcid'.trans hacandidate'.symm))
  exact haid.symm.trans haid'

end Step

end Archive

end Quillframe
