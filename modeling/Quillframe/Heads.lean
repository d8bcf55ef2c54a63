import Quillframe.Workspace

/-!
# Heads of documents

The revision that an editor sees is looked up in three queries: when the document is opened, when
the documents are listed, and when a manual revision is saved.
-/
namespace Quillframe

open Relation Database

variable {Fp : Type}

/-! ## The queries -/

/-- `ORDER BY created_at DESC,revision_id DESC`. -/
def DocumentRevision.Newer (a b : DocumentRevision Fp) : Prop :=
  b.createdAt < a.createdAt ∨ (b.createdAt = a.createdAt ∧ b.revisionId ≤ a.revisionId)

instance : DecidableRel (@DocumentRevision.Newer Fp) :=
  fun _ _ => inferInstanceAs (Decidable (_ ∨ _))

/-- Whether a revision of the document is shown to its editors. -/
def DocumentRevision.Shown (documentId : String) (revision : DocumentRevision Fp) : Prop :=
  revision.documentId = documentId ∧
    (revision.source ≠ "production_candidate" ∨ revision.authorityClass = .accepted)

instance (documentId : String) : DecidablePred (@DocumentRevision.Shown Fp documentId) :=
  fun _ => inferInstanceAs (Decidable (_ ∧ _))

/-- The bridge's `document_open`. -/
def documentOpen (projectId documentId : String) (db : Database Fp) :
    CoreResult (Document × Option (DocumentRevision Fp)) := do
  stringArg ("project_id", projectId)
  stringArg ("document_id", documentId)
  let document ← fetch (Table.lookup Document.documentId documentId db.documents) noRows
  let latest := ((db.documentRevisions.filter fun revision => revision.Shown documentId ∧
    (revision.authorityClass = .proposal ∨ revision.authorityClass = .review ∨
      revision.authorityClass = .accepted)).insertionSort DocumentRevision.Newer).head?
  return (document, latest)

def DocumentKind.name : DocumentKind → String
  | .manuscript => "manuscript"
  | .note => "note"
  | .plan => "plan"
  | .researchNote => "research_note"
  | .publicationSource => "publication_source"

/-- The bridge's `document_list`: each document with its latest revision. -/
def documentList (projectId : String) (kind : Option String) (limit : Option ℕ)
    (db : Database Fp) : CoreResult (List (Document × Option (DocumentRevision Fp))) := do
  stringArg ("project_id", projectId)
  let earlier (a b : Document) : Prop :=
    a.createdAt < b.createdAt ∨ (a.createdAt = b.createdAt ∧ a.documentId ≤ b.documentId)
  have : DecidableRel earlier := fun _ _ => inferInstanceAs (Decidable (_ ∨ _))
  let documents := (db.documents.filter fun document =>
    kind = none ∨ kind = some document.documentKind.name).insertionSort earlier
  return (documents.take (max 1 (min 500 (limit.getD 500)))).map fun document =>
    (document, (db.documentHead document.documentId).bind fun revisionId =>
      Table.lookup DocumentRevision.revisionId revisionId db.documentRevisions)

/-! ## The newest revision -/

/-- The rows that all three queries sort. -/
def Database.shownRevisions (db : Database Fp) (documentId : String) :
    List (DocumentRevision Fp) :=
  db.documentRevisions.filter fun revision => revision.Shown documentId

def newest (revisions : List (DocumentRevision Fp)) : Option (DocumentRevision Fp) :=
  (revisions.insertionSort DocumentRevision.Newer).head?

theorem documentHead_eq (db : Database Fp) (documentId : String) :
    db.documentHead documentId = (newest (db.shownRevisions documentId)).map (·.revisionId) := rfl

theorem documentOpen_eq_ok {projectId documentId : String} {db : Database Fp}
    {answer : Document × Option (DocumentRevision Fp)} :
    documentOpen projectId documentId db = .ok answer ↔
      ¬ blank projectId ∧ ¬ blank documentId ∧
      Table.lookup Document.documentId documentId db.documents = some answer.1 ∧
      newest (db.shownRevisions documentId) = answer.2 := by
  have hfilter : (db.documentRevisions.filter fun revision => revision.Shown documentId ∧
      (revision.authorityClass = .proposal ∨ revision.authorityClass = .review ∨
        revision.authorityClass = .accepted)) = db.shownRevisions documentId := by
    refine List.filter_congr fun revision _ => ?_
    cases revision.authorityClass <;> simp
  simp only [documentOpen, stringArg, hfilter, bind_eq_ok, require_eq_ok, fetch_eq_ok, pure_eq_ok,
    exists_const, newest]
  constructor
  · rintro ⟨hproject, hdocument, document, hlookup, rfl⟩
    exact ⟨hproject, hdocument, hlookup, rfl⟩
  · rintro ⟨hproject, hdocument, hlookup, hlatest⟩
    exact ⟨hproject, hdocument, answer.1, hlookup, by rw [hlatest]⟩

theorem DocumentRevision.newer_total (a b : DocumentRevision Fp) : a.Newer b ∨ b.Newer a := by
  rcases lt_trichotomy a.createdAt b.createdAt with h | h | h
  · exact .inr (.inl h)
  · rcases le_total a.revisionId b.revisionId with hid | hid
    · exact .inr (.inr ⟨h, hid⟩)
    · exact .inl (.inr ⟨h.symm, hid⟩)
  · exact .inl (.inl h)

theorem DocumentRevision.Newer.trans {a b c : DocumentRevision Fp} (hab : a.Newer b)
    (hbc : b.Newer c) : a.Newer c := by
  rcases hab with hab | ⟨hab, hid⟩
  · rcases hbc with hbc | ⟨hbc, -⟩
    · exact .inl (hbc.trans hab)
    · exact .inl (hbc ▸ hab)
  · rcases hbc with hbc | ⟨hbc, hid'⟩
    · exact .inl (hab ▸ hbc)
    · exact .inr ⟨hbc.trans hab, hid'.trans hid⟩

theorem DocumentRevision.Newer.revisionId_eq {a b : DocumentRevision Fp} (hab : a.Newer b)
    (hba : b.Newer a) : a.revisionId = b.revisionId := by
  rcases hab with hab | ⟨hab, hid⟩
  · rcases hba with hba | ⟨hba, -⟩
    · exact absurd hba hab.asymm
    · exact absurd hba hab.ne'
  · rcases hba with hba | ⟨-, hid'⟩
    · exact absurd hab hba.ne'
    · exact le_antisymm hid' hid

/-- The newest revision is at least as new as all others. -/
theorem newest_eq_some {revisions : List (DocumentRevision Fp)} {row : DocumentRevision Fp}
    (hkeys : (revisions.map (·.revisionId)).Nodup) :
    newest revisions = some row ↔ row ∈ revisions ∧ ∀ other ∈ revisions, row.Newer other := by
  have : Std.Total (@DocumentRevision.Newer Fp) := ⟨DocumentRevision.newer_total⟩
  have : IsTrans (DocumentRevision Fp) DocumentRevision.Newer := ⟨fun _ _ _ => .trans⟩
  have hpairwise := List.pairwise_insertionSort DocumentRevision.Newer revisions
  rw [newest]
  cases hsorted : revisions.insertionSort DocumentRevision.Newer with
  | nil =>
    have hempty : revisions = [] := by
      rw [← List.length_eq_zero_iff, ← List.length_insertionSort DocumentRevision.Newer revisions,
        hsorted]
      rfl
    simp [hempty]
  | cons first rest =>
    rw [hsorted] at hpairwise
    have hmem {other : DocumentRevision Fp} : other ∈ revisions ↔ other ∈ first :: rest := by
      rw [← hsorted, List.mem_insertionSort]
    have hfirst : ∀ other ∈ revisions, first.Newer other := by
      intro other hother
      rcases List.mem_cons.mp (hmem.mp hother) with rfl | hrest
      · exact (DocumentRevision.newer_total other other).elim id id
      · exact (List.pairwise_cons.mp hpairwise).1 other hrest
    rw [List.head?_cons, Option.some.injEq]
    constructor
    · rintro rfl
      exact ⟨hmem.mpr List.mem_cons_self, hfirst⟩
    · rintro ⟨hrow, hnewer⟩
      have hin : first ∈ revisions := hmem.mpr List.mem_cons_self
      exact Table.eq_of_key_eq hkeys hin hrow
        ((hfirst row hrow).revisionId_eq (hnewer first hin))

/-! ## What a save does -/

section Saves

variable [Sha256 Fp] [DecidableEq Fp]

/-- The revision that a manual save adds. -/
def ManualRevision.row (r : ManualRevision Fp) (parent : Option String) : DocumentRevision Fp where
  revisionId := "REV-" ++ r.uuid
  documentId := r.documentId
  parentRevisionId := parent
  content := r.content
  contentFingerprint := Sha256.ofText r.content
  createdAt := r.createdAt
  source := r.source
  authorityClass := r.authorityClass
  provenance := r.provenance

/-- The revision of the document that has the text already. -/
def Database.sameText (db : Database Fp) (r : ManualRevision Fp) : Option (DocumentRevision Fp) :=
  db.documentRevisions.find? fun revision =>
    revision.documentId = r.documentId ∧ revision.contentFingerprint = Sha256.ofText r.content

theorem documentRevisionSave_cases {r : ManualRevision Fp} {answer : String × Bool}
    {db db' : Database Fp} (h : documentRevisionSave r db = .ok (answer, db')) :
    ¬ blank r.projectId ∧ ¬ blank r.documentId ∧ r.authorityClass ≠ .accepted ∧
      ((∃ existing, db.sameText r = some existing ∧ answer = (existing.revisionId, true) ∧
          db' = db) ∨
        (db.sameText r = none ∧ db.documentHead r.documentId = r.expectedParent ∧
          "REV-" ++ r.uuid ∉ db.documentRevisions.map (·.revisionId) ∧
          r.documentId ∈ db.documents.map (·.documentId) ∧ answer = ("REV-" ++ r.uuid, false) ∧
          db' = { db with documentRevisions :=
            db.documentRevisions ++ [r.row (db.documentHead r.documentId)] })) := by
  simp only [documentRevisionSave, stringArg, bind_eq_ok, require_eq_ok, exists_const] at h
  obtain ⟨hproject, hdocument, -, -, hauthority, h⟩ := h
  refine ⟨hproject, hdocument, by rcases hauthority with h | h <;> simp [h], ?_⟩
  rw [Database.sameText]
  split at h
  · rename_i existing hfound
    simp only [pure_eq_ok, Prod.mk.injEq] at h
    exact .inl ⟨existing, hfound, h.1.symm, h.2.symm⟩
  · rename_i hnone
    simp only [bind_eq_ok, require_eq_ok, exists_const, pure_eq_ok, Prod.mk.injEq] at h
    obtain ⟨hparent, hfresh, hexists, hanswer, rfl⟩ := h
    exact .inr ⟨hnone, hparent, hfresh, hexists, hanswer.symm, rfl⟩

end Saves

/-! ## Calls that leave the heads -/

section Quiet

variable [Sha256 Fp] [DecidableEq Fp] [Documents Fp] [SerdeJson Fp]

omit [SerdeJson Fp] in
/-- Of the calls on a run only a release adds a revision, and its candidate is not shown. -/
theorem RunOp.shownRevisions {op : RunOp Fp} {db db' : Database Fp} (h : op.exec db = .ok db')
    (documentId : String) : db'.shownRevisions documentId = db.shownRevisions documentId := by
  cases op with
  | dispatch =>
    obtain ⟨_, h⟩ := snd_map_eq_ok h
    obtain ⟨-, ⟨_, -, -, -, -, -, rfl⟩ | ⟨_, -, -, -, -, -, -, -, -, -, rfl⟩⟩ :=
      dispatchStage_eq_ok h
    all_goals rfl
  | confirm =>
    obtain ⟨_, h⟩ := snd_map_eq_ok h
    obtain ⟨_, _, rfl⟩ := confirmStage_frame h
    rfl
  | confirmDerived =>
    obtain ⟨_, h⟩ := snd_map_eq_ok h
    obtain ⟨_, _, _, rfl⟩ := confirmDerivedStage_frame h
    rfl
  | markUnconfirmed =>
    obtain ⟨_, h⟩ := snd_map_eq_ok h
    obtain ⟨_, rfl⟩ := markStageUnconfirmed_frame h
    rfl
  | setStatus =>
    obtain ⟨_, h⟩ := snd_map_eq_ok h
    obtain rfl := setRunStatus_eq_ok h
    rfl
  | failedGate =>
    obtain ⟨_, h⟩ := snd_map_eq_ok h
    obtain ⟨_, _, rfl⟩ := recordFailedGate_eq_ok h
    rfl
  | freezeContext =>
    obtain ⟨_, h⟩ := snd_map_eq_ok h
    obtain ⟨-, _, _, _, -, rfl⟩ := persistWriterContextFreeze_eq_ok h
    rfl
  | commit =>
    obtain ⟨_, h⟩ := snd_map_eq_ok h
    obtain ⟨-, -, _, _, _, _, -, -, -, rfl⟩ := commitReleasedCandidate_eq_ok h
    simp [Database.shownRevisions, releaseRows, DocumentRevision.Shown]
  | cancel =>
    obtain ⟨_, h⟩ := snd_map_eq_ok h
    obtain ⟨rfl, -⟩ | ⟨-, -, _, _, _, -, -, rfl⟩ := cancelProduction_eq_ok h
    all_goals rfl

/-- A call other than a settlement and a save that adds a revision to the document. -/
structure QuietStep (documentId : String) (db db' : Database Fp) : Prop where
  work : WorkStep db db'
  unsaved : ∀ r revisionId,
    documentRevisionSave r db = .ok ((revisionId, false), db') → r.documentId ≠ documentId
  unsettled : ∀ authorization ids settlementId,
    applySettlement authorization ids db ≠ .ok (settlementId, db')

theorem QuietStep.shownRevisions {documentId : String} {db db' : Database Fp}
    (h : QuietStep documentId db db') :
    db'.shownRevisions documentId = db.shownRevisions documentId := by
  obtain ⟨hwork, hsave, hsettle⟩ := h
  cases hwork with
  | freezePack _ _ _ _ h =>
    obtain ⟨-, -, rfl | ⟨_, -, -, -, -, rfl⟩⟩ := freezeWriterPackForChapter_eq_ok h
    all_goals rfl
  | start _ _ h =>
    obtain rfl | ⟨_, _, _, _, -, -, -, -, -, -, -, -, -, -, -, rfl⟩ := startProduction_eq_ok h
    all_goals rfl
  | run op h => exact RunOp.shownRevisions h documentId
  | accept _ _ h =>
    obtain ⟨-, ⟨_, _, -, -, -, rfl⟩ | ⟨-, -, -, rfl⟩⟩ := acceptCandidate_cases h
    all_goals rfl
  | settle authorization ids settlementId h => exact absurd h (hsettle _ _ _)
  | chapter _ _ _ _ _ _ _ _ h =>
    obtain rfl | ⟨_, _, _, -, -, -, -, -, rfl, -⟩ := createChapter_eq_ok h
    all_goals rfl
  | container _ _ _ _ _ _ _ _ h =>
    obtain rfl | ⟨_, _, _, -, -, rfl, -⟩ := createStoryContainer_eq_ok h
    all_goals rfl
  | document _ _ _ _ _ _ h =>
    obtain ⟨_, -, rfl⟩ := documentCreate_eq_ok h
    rfl
  | revision r answer h =>
    obtain ⟨-, -, -, ⟨_, -, -, rfl⟩ | ⟨-, -, -, -, rfl, rfl⟩⟩ := documentRevisionSave_cases h
    · rfl
    · have hother := hsave r _ h
      simp [Database.shownRevisions, ManualRevision.row, DocumentRevision.Shown, hother]
  | titles => rfl
  | aside h =>
    obtain ⟨_, _, _, _, _, _, rfl⟩ := h
    rfl

/-- What editors are told about the document: its head is the revision with the text. -/
structure Reports (r : ManualRevision Fp) (revisionId : String) (db : Database Fp) : Prop where
  opened : ∃ document row, documentOpen r.projectId r.documentId db = .ok (document, some row) ∧
    row.revisionId = revisionId ∧ row.content = r.content
  listed : ∀ kind limit items, documentList r.projectId kind limit db = .ok items →
    ∀ item ∈ items, item.1.documentId = r.documentId →
      ∃ row, item.2 = some row ∧ row.revisionId = revisionId ∧ row.content = r.content

omit [DecidableEq Fp] [Documents Fp] [SerdeJson Fp] in
theorem Database.shownRevisions_keys {db : Database Fp} (hinv : db.archive.Inv)
    (documentId : String) : ((db.shownRevisions documentId).map (·.revisionId)).Nodup :=
  List.Nodup.sublist (List.filter_sublist.map _) hinv.keys.revisions

omit [DecidableEq Fp] [Documents Fp] [SerdeJson Fp] in
theorem reports_iff {r : ManualRevision Fp} {revisionId : String} {db : Database Fp}
    (hinv : db.archive.Inv) (hproject : ¬ blank r.projectId) (hdocument : ¬ blank r.documentId) :
    Reports r revisionId db ↔ r.documentId ∈ db.documents.map (·.documentId) ∧
      ∃ row, newest (db.shownRevisions r.documentId) = some row ∧ row.revisionId = revisionId ∧
        row.content = r.content := by
  constructor
  · rintro ⟨⟨document, row, hopen, hrow⟩, -⟩
    obtain ⟨-, -, hlookup, hnewest⟩ := documentOpen_eq_ok.mp hopen
    refine ⟨List.mem_map.mpr ⟨document, Table.lookup_mem hlookup, Table.lookup_key hlookup⟩, ?_⟩
    exact ⟨row, hnewest, hrow⟩
  · rintro ⟨hmem, row, hnewest, hid, hcontent⟩
    have hrow := ((newest_eq_some (db.shownRevisions_keys hinv r.documentId)).mp hnewest).1
    constructor
    · obtain ⟨document, hlookup⟩ := Option.isSome_iff_exists.mp
        (Table.lookup_isSome.mpr (List.mem_map.mp hmem))
      exact ⟨document, row, documentOpen_eq_ok.mpr ⟨hproject, hdocument, hlookup, hnewest⟩, hid,
        hcontent⟩
    · intro kind limit items hlist item hitem hsame
      simp only [documentList, bind_eq_ok, pure_eq_ok] at hlist
      obtain ⟨-, -, rfl⟩ := hlist
      obtain ⟨document, -, rfl⟩ := List.mem_map.mp hitem
      refine ⟨row, ?_, hid, hcontent⟩
      change (db.documentHead document.documentId).bind _ = _
      rw [show document.documentId = r.documentId from hsame, documentHead_eq, hnewest,
        Option.map_some, Option.bind_some]
      exact Table.lookup_of_mem hinv.keys.revisions (List.mem_filter.mp hrow).1

theorem WorkStep.archive_inv {db db' : Database Fp} (h : WorkStep db db')
    (hinv : db.archive.Inv) : db'.archive.Inv := (h.archive hinv).inv hinv

/-- What is reported once stays reported until the next save or settlement. -/
theorem Reports.quiet_run {r : ManualRevision Fp} {revisionId : String}
    {db later : Database Fp} (hinv : db.archive.Inv) (hproject : ¬ blank r.projectId)
    (hdocument : ¬ blank r.documentId) (h : Reports r revisionId db)
    (hrun : ReflTransGen (QuietStep r.documentId) db later) : Reports r revisionId later := by
  have hlater : later.archive.Inv ∧ Reports r revisionId later := by
    induction hrun with
    | refl => exact ⟨hinv, h⟩
    | tail _ hstep ih =>
      obtain ⟨hmid, hreports⟩ := ih
      have hnext := hstep.work.archive_inv hmid
      refine ⟨hnext, (reports_iff hnext hproject hdocument).mpr ?_⟩
      obtain ⟨hmem, hnewest⟩ := (reports_iff hmid hproject hdocument).mp hreports
      rw [hstep.shownRevisions]
      refine ⟨?_, hnewest⟩
      have hgrows := List.map_subset Prod.fst (hstep.work.archive hmid).grows.documents
      simpa [Database.archive] using hgrows (by simpa [Database.archive] using hmem)
  exact hlater.2

/-! ## Edits that are kept -/

/-- A save that succeeds was based on the head, or its text is the head, and it is the head until the
next save or settlement. -/
structure KeepsEdit (r : ManualRevision Fp) (revisionId : String) (db db' : Database Fp) :
    Prop where
  based : db.documentHead r.documentId = r.expectedParent ∨
    ∃ row, newest (db.shownRevisions r.documentId) = some row ∧ row.content = r.content
  seen : ∀ later, ReflTransGen (QuietStep r.documentId) db' later → Reports r revisionId later

/-- A text that the document has already is its head. A new text comes from an editor, and sorts
behind all revisions. -/
def EditLands (r : ManualRevision Fp) (db : Database Fp) : Prop :=
  match db.sameText r with
  | some existing => newest (db.shownRevisions r.documentId) = some existing ∧
      existing.content = r.content
  | none => r.source ≠ "production_candidate" ∧
      ∀ other ∈ db.shownRevisions r.documentId,
        (r.row (db.documentHead r.documentId)).Newer other

theorem saved_edit_kept_iff {projectId title createdAt : String} {r : ManualRevision Fp}
    {answer : String × Bool} {db db' : Database Fp}
    (hrun : ReflTransGen WorkStep (initialProject projectId title createdAt) db)
    (hsave : documentRevisionSave r db = .ok (answer, db')) :
    KeepsEdit r answer.1 db db' ↔ EditLands r db := by
  have hinv : db.archive.Inv := @invariant_of_step _ WorkStep (fun s => s.archive.Inv)
    (fun _ _ h hs => h.archive_inv hs) _ _ hrun (initialProject_archive projectId title createdAt)
  have hinv' := (WorkStep.revision r answer hsave).archive_inv hinv
  obtain ⟨hproject, hdocument, hauthority, hcases⟩ := documentRevisionSave_cases hsave
  have hseen : (∀ later, ReflTransGen (QuietStep r.documentId) db' later →
      Reports r answer.1 later) ↔ Reports r answer.1 db' :=
    ⟨fun h => h db' .refl, fun h later => h.quiet_run hinv' hproject hdocument⟩
  rcases hcases with ⟨existing, htext, rfl, rfl⟩ | ⟨htext, hparent, hfresh, hmem, rfl, rfl⟩
  · have hfound := List.find?_some htext
    simp only [Bool.decide_and, Bool.and_eq_true, decide_eq_true_eq] at hfound
    have hexisting := List.mem_of_find?_eq_some htext
    rw [EditLands, htext]
    constructor
    · rintro ⟨-, hreports⟩
      obtain ⟨-, row, hnewest, hid, hcontent⟩ :=
        (reports_iff hinv hproject hdocument).mp (hseen.mp hreports)
      have hrow := ((newest_eq_some (Database.shownRevisions_keys hinv _)).mp hnewest).1
      obtain rfl := Table.eq_of_key_eq hinv.keys.revisions (List.mem_filter.mp hrow).1 hexisting hid
      exact ⟨hnewest, hcontent⟩
    · rintro ⟨hnewest, hcontent⟩
      refine ⟨.inr ⟨existing, hnewest, hcontent⟩, hseen.mpr ?_⟩
      refine (reports_iff hinv hproject hdocument).mpr ⟨?_, existing, hnewest, rfl, hcontent⟩
      have hdocuments := hinv.revisions existing hexisting
      simpa [Database.archive, hfound.1] using hdocuments
  · rw [EditLands, htext]
    set row := r.row (db.documentHead r.documentId) with hrowDef
    have hshown : (db.shownRevisions r.documentId ++ [row].filter fun revision =>
        revision.Shown r.documentId) = Database.shownRevisions { db with
          documentRevisions := db.documentRevisions ++ [row] } r.documentId :=
      (List.filter_append ..).symm
    have hisShown : row.Shown r.documentId ↔ r.source ≠ "production_candidate" := by
      simp [hrowDef, ManualRevision.row, DocumentRevision.Shown, hauthority]
    have hkeys := Database.shownRevisions_keys hinv' r.documentId
    constructor
    · rintro ⟨-, hreports⟩
      obtain ⟨-, other, hnewest, hid, -⟩ :=
        (reports_iff hinv' hproject hdocument).mp (hseen.mp hreports)
      obtain ⟨hother, hnewer⟩ := (newest_eq_some hkeys).mp hnewest
      rw [← hshown, List.mem_append] at hother
      rw [← hshown] at hnewer
      rcases hother with hold | hnew
      · exact absurd (List.mem_map.mpr ⟨other, (List.mem_filter.mp hold).1, hid⟩) hfresh
      · obtain ⟨hsame, hvisible⟩ := List.mem_filter.mp hnew
        obtain rfl := List.mem_singleton.mp hsame
        exact ⟨hisShown.mp (by simpa using hvisible),
          fun old hold => hnewer old (List.mem_append_left _ hold)⟩
    · rintro ⟨hsource, hnewer⟩
      refine ⟨.inl hparent, hseen.mpr ?_⟩
      have hlast : [row].filter (fun revision => revision.Shown r.documentId) = [row] := by
        simp [hisShown.mpr hsource]
      refine (reports_iff hinv' hproject hdocument).mpr ⟨hmem, row, ?_, rfl, rfl⟩
      refine (newest_eq_some hkeys).mpr ?_
      rw [← hshown, hlast]
      refine ⟨by simp, fun other hother => ?_⟩
      rcases List.mem_append.mp hother with hold | hnew
      · exact hnewer other hold
      · obtain rfl := List.mem_singleton.mp hnew
        exact (DocumentRevision.newer_total row row).elim id id

end Quiet

namespace Sample

/-- A manual revision of the first chapter. -/
def edit (content uuid createdAt : String) (expectedParent : Option String) :
    ManualRevision Digest where
  projectId := "n"
  documentId := "DOC-CH001"
  content
  source := "editor"
  authorityClass := .proposal
  expectedParent
  provenance := .obj []
  createdAt
  uuid

def save (r : ManualRevision Digest) (db : Database Digest) : Database Digest :=
  ((documentRevisionSave r db).toOption.map Prod.snd).getD db

def draft : Database Digest := save (edit "one" "1" "t1" none) genesis

def redraft : Database Digest := save (edit "two" "2" "t2" (some "REV-1")) draft

theorem redraft_run : Relation.ReflTransGen WorkStep genesis redraft := by
  have hfirst : documentRevisionSave (edit "one" "1" "t1" none) genesis =
      .ok (("REV-1", false), draft) := by decide +kernel
  have hsecond : documentRevisionSave (edit "two" "2" "t2" (some "REV-1")) draft =
      .ok (("REV-2", false), redraft) := by decide +kernel
  exact (Relation.ReflTransGen.single (.revision _ _ hfirst)).tail (.revision _ _ hsecond)

end Sample

theorem saved_edit_kept_sample :
    KeepsEdit (Sample.edit "three" "3" "t3" (some "REV-2")) "REV-3" Sample.redraft
      (Sample.save (Sample.edit "three" "3" "t3" (some "REV-2")) Sample.redraft) := by
  have hsave : documentRevisionSave (Sample.edit "three" "3" "t3" (some "REV-2")) Sample.redraft =
      .ok (("REV-3", false),
        Sample.save (Sample.edit "three" "3" "t3" (some "REV-2")) Sample.redraft) := by
    decide +kernel
  refine (saved_edit_kept_iff Sample.redraft_run hsave).mpr ?_
  have htext : Sample.redraft.sameText (Sample.edit "three" "3" "t3" (some "REV-2")) = none := by
    decide +kernel
  rw [EditLands, htext]
  decide +kernel

/-- An editor who restores the first text is told that it was saved. -/
theorem restored_edit_lost :
    ¬ ∀ (r : ManualRevision Digest) (answer : String × Bool) (db db' : Database Digest),
      Relation.ReflTransGen WorkStep (initialProject "n" "H" "t") db →
      documentRevisionSave r db = .ok (answer, db') → KeepsEdit r answer.1 db db' := by
  intro hkept
  have hsave : documentRevisionSave (Sample.edit "one" "3" "t3" (some "REV-2")) Sample.redraft =
      .ok (("REV-1", true), Sample.redraft) := by decide +kernel
  obtain ⟨document, row, hopen, hid, -⟩ :=
    ((hkept _ _ _ _ Sample.redraft_run hsave).seen _ .refl).opened
  have hnewest := (documentOpen_eq_ok.mp hopen).2.2.2
  have hhead : (newest (Sample.redraft.shownRevisions "DOC-CH001")).map (·.revisionId) =
      some "REV-2" := by decide +kernel
  have hsame : some row.revisionId = some "REV-2" := by
    rw [← hhead]
    exact (congrArg (Option.map (·.revisionId)) hnewest).symm
  rw [hid] at hsame
  exact absurd hsame (by decide)

end Quillframe
