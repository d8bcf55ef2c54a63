import Quillframe.Revisions
import Quillframe.Workspace

/-!
# Decisions of the author

A candidate is accepted or sent back, never both. The tables of the two decisions are followed as
a transition system of their own.
-/
namespace Quillframe

open Relation Database

variable {Fp : Type}

/-! ## The book of decisions -/

structure DecisionBook (Fp : Type) where
  candidates : List (CandidateRow Fp)
  acceptances : List (AcceptanceRow Fp)
  receipts : List (ReceiptRow Fp)
  requests : List (RevisionRequestRow Fp)
  /-- The id and the payload of each feedback event. -/
  feedback : List (String × Fp)

def FeedbackRow.entry (row : FeedbackRow Fp) : String × Fp := (row.eventId, row.payloadFingerprint)

def AuthorDatabase.book (s : AuthorDatabase Fp) : DecisionBook Fp where
  candidates := s.project.candidates
  acceptances := s.project.acceptanceEvidence
  receipts := s.project.receipts
  requests := s.project.revisionRequests
  feedback := s.feedbackEvents.map FeedbackRow.entry

namespace DecisionBook

/-- The event is in the feedback afterwards, where it was or at the end. -/
def Notes (entry : String × Fp) (feedback feedback' : List (String × Fp)) : Prop :=
  (Table.lookup Prod.fst entry.1 feedback = some entry ∧ feedback' = feedback) ∨
    (Table.lookup Prod.fst entry.1 feedback = none ∧ feedback' = feedback ++ [entry])

theorem Notes.kept {entry old : String × Fp} {feedback feedback' : List (String × Fp)}
    (h : Notes entry feedback feedback')
    (hold : Table.lookup Prod.fst old.1 feedback = some old) :
    Table.lookup Prod.fst old.1 feedback' = some old := by
  obtain ⟨-, rfl⟩ | ⟨-, rfl⟩ := h
  · exact hold
  · rw [Table.lookup_append_singleton, hold]
    rfl

theorem Notes.entry {entry : String × Fp} {feedback feedback' : List (String × Fp)}
    (h : Notes entry feedback feedback') :
    Table.lookup Prod.fst entry.1 feedback' = some entry := by
  obtain ⟨hthere, rfl⟩ | ⟨hnone, rfl⟩ := h
  · exact hthere
  · rw [Table.lookup_append_singleton, hnone]
    simp

/-- The key of a decision is found with the decision. -/
def Bound (receipts : List (ReceiptRow Fp)) (decision : AcceptanceDecision Fp) : Prop :=
  ∃ receipt, Table.lookup ReceiptRow.idempotencyKey (some decision.idempotencyKey) receipts =
    some receipt ∧ receipt.payload = .acceptance decision

theorem Bound.append {receipts : List (ReceiptRow Fp)} {decision : AcceptanceDecision Fp}
    (h : Bound receipts decision) (receipt : ReceiptRow Fp) :
    Bound (receipts ++ [receipt]) decision := by
  obtain ⟨found, hfound, hpayload⟩ := h
  refine ⟨found, ?_, hpayload⟩
  rw [Table.lookup_append_singleton, hfound]
  rfl

variable [Sha256 Fp]

/-- What a stored request was made for, with its feedback. -/
structure Backs (b : DecisionBook Fp) (row : RevisionRequestRow Fp) (documentId runId : String) :
    Prop where
  candidate : ∃ candidate ∈ b.candidates, candidate.candidateId = row.candidateId ∧
    candidate.contentFingerprint = row.candidateFingerprint ∧
    candidate.documentId = some documentId ∧ candidate.runId = some runId
  fields : ∀ field ∈ (row.feedback documentId runId).required, ¬ blank field.2
  noted : Table.lookup Prod.fst (feedbackOf row.requestId) b.feedback =
    some (feedbackOf row.requestId, Sha256.ofJson (row.feedback documentId runId).toJson)

variable [DecidableEq Fp]

inductive Step : DecisionBook Fp → DecisionBook Fp → Prop
  | skip (b : DecisionBook Fp) : Step b b
  | release {b : DecisionBook Fp} (candidate : CandidateRow Fp)
      (hfresh : candidate.candidateId ∉ b.candidates.map (·.candidateId)) :
      Step b { b with candidates := b.candidates ++ [candidate] }
  | receipt {b : DecisionBook Fp} (receipt : ReceiptRow Fp)
      (hother : ∀ decision, receipt.payload ≠ .acceptance decision) :
      Step b { b with receipts := b.receipts ++ [receipt] }
  | note {b : DecisionBook Fp} (entry : String × Fp) (feedback : List (String × Fp))
      (hnotes : Notes entry b.feedback feedback) : Step b { b with feedback }
  | accept {b : DecisionBook Fp} (decision : AcceptanceDecision Fp)
      (hvalid : decision.validate = .ok ())
      (hkey : Table.lookup ReceiptRow.idempotencyKey (some decision.idempotencyKey) b.receipts =
        none)
      (hcandidate : ∃ candidate ∈ b.candidates, candidate.candidateId = decision.candidateId ∧
        candidate.status = .reviewDraft)
      (hopen : ∀ row ∈ b.requests,
        ¬ (row.candidateId = decision.candidateId ∧ row.state = .requested)) :
      Step b { b with
        acceptances := b.acceptances ++ [decision.row]
        candidates := Table.updateWhere (fun row => row.candidateId = decision.candidateId)
          (fun row => { row with status := .accepted }) b.candidates
        receipts := b.receipts ++ [decision.receipt] }
  | request {b : DecisionBook Fp} (row : RevisionRequestRow Fp) (documentId runId : String)
      (feedback : List (String × Fp)) (hstate : row.state = .requested)
      (hkey : row.idempotencyKey ∉ b.requests.map (·.idempotencyKey))
      (hfresh : row.candidateId ∉ b.requests.map (·.candidateId))
      (hopen : row.candidateId ∉ b.acceptances.map (·.candidateId))
      (hbacks : Backs { b with feedback } row documentId runId)
      (hnotes : Notes (feedbackOf row.requestId,
        Sha256.ofJson (row.feedback documentId runId).toJson) b.feedback feedback) :
      Step b { b with requests := b.requests ++ [row], feedback }

/-! ## The invariant -/

structure Inv (b : DecisionBook Fp) : Prop where
  candidateIds : (b.candidates.map (·.candidateId)).Nodup
  accepted : ∀ row ∈ b.acceptances, ∃ candidate ∈ b.candidates,
    candidate.candidateId = row.candidateId ∧ candidate.status = .accepted
  once : (b.acceptances.map (·.candidateId)).Nodup
  authorized : ∀ row ∈ b.acceptances, row = row.authorization.row ∧
    row.authorization.validate = .ok () ∧ Bound b.receipts row.authorization
  receipts : ∀ receipt ∈ b.receipts, ∀ decision, receipt.payload = .acceptance decision →
    decision.row ∈ b.acceptances
  requestKeys : (b.requests.map (·.idempotencyKey)).Nodup
  requestCandidates : (b.requests.map (·.candidateId)).Nodup
  requested : ∀ row ∈ b.requests, row.state = .requested ∧
    ∃ documentId runId, b.Backs row documentId runId
  exclusive : ∀ row ∈ b.requests, row.candidateId ∉ b.acceptances.map (·.candidateId)

variable {b b' : DecisionBook Fp}

omit [DecidableEq Fp] in
theorem Backs.mono {row : RevisionRequestRow Fp} {documentId runId : String}
    (h : b.Backs row documentId runId)
    (hcandidates : ∀ candidate ∈ b.candidates, ∃ candidate' ∈ b'.candidates,
      candidate'.candidateId = candidate.candidateId ∧
      candidate'.contentFingerprint = candidate.contentFingerprint ∧
      candidate'.documentId = candidate.documentId ∧ candidate'.runId = candidate.runId)
    (hfeedback : ∀ entry : String × Fp, Table.lookup Prod.fst entry.1 b.feedback = some entry →
      Table.lookup Prod.fst entry.1 b'.feedback = some entry) :
    b'.Backs row documentId runId := by
  obtain ⟨candidate, hmem, hid, hfp, hdocument, hrun⟩ := h.candidate
  obtain ⟨candidate', hmem', hid', hfp', hdocument', hrun'⟩ := hcandidates candidate hmem
  exact ⟨⟨candidate', hmem', hid'.trans hid, hfp'.trans hfp, hdocument'.trans hdocument,
    hrun'.trans hrun⟩, h.fields, hfeedback (feedbackOf row.requestId, _) h.noted⟩

theorem Inv.release {candidate : CandidateRow Fp} (h : b.Inv)
    (hfresh : candidate.candidateId ∉ b.candidates.map (·.candidateId)) :
    Inv { b with candidates := b.candidates ++ [candidate] } := by
  refine { h with candidateIds := ?_, accepted := ?_, requested := ?_ }
  · refine Table.nodup_append_singleton h.candidateIds fun other hother he => hfresh ?_
    exact List.mem_map.mpr ⟨other, hother, he⟩
  · intro row hrow
    obtain ⟨old, hold, hfields⟩ := h.accepted row hrow
    exact ⟨old, List.mem_append_left _ hold, hfields⟩
  · intro row hrow
    obtain ⟨hstate, documentId, runId, hbacks⟩ := h.requested row hrow
    exact ⟨hstate, documentId, runId, hbacks.mono
      (fun old hold => ⟨old, List.mem_append_left _ hold, rfl, rfl, rfl, rfl⟩) fun _ => id⟩

theorem Inv.receipt {receipt : ReceiptRow Fp} (h : b.Inv)
    (hother : ∀ decision, receipt.payload ≠ .acceptance decision) :
    Inv { b with receipts := b.receipts ++ [receipt] } := by
  refine { h with authorized := ?_, receipts := ?_, requested := ?_ }
  · intro row hrow
    obtain ⟨hrow', hvalid, hbound⟩ := h.authorized row hrow
    exact ⟨hrow', hvalid, hbound.append receipt⟩
  · intro other hmem decision hpayload
    rcases List.mem_append.mp hmem with hmem | hmem
    · exact h.receipts other hmem decision hpayload
    · rw [List.mem_singleton.mp hmem] at hpayload
      exact absurd hpayload (hother decision)
  · intro row hrow
    obtain ⟨hstate, documentId, runId, hbacks⟩ := h.requested row hrow
    exact ⟨hstate, documentId, runId, hbacks.mono
      (fun old hold => ⟨old, hold, rfl, rfl, rfl, rfl⟩) fun _ => id⟩

theorem Inv.note {entry : String × Fp} {feedback : List (String × Fp)} (h : b.Inv)
    (hnotes : Notes entry b.feedback feedback) : Inv { b with feedback } := by
  refine { h with requested := ?_ }
  intro row hrow
  obtain ⟨hstate, documentId, runId, hbacks⟩ := h.requested row hrow
  exact ⟨hstate, documentId, runId, hbacks.mono
    (fun old hold => ⟨old, hold, rfl, rfl, rfl, rfl⟩) fun _ => hnotes.kept⟩

/-- A candidate that is open has not been accepted. -/
theorem Inv.not_accepted {candidate : CandidateRow Fp} (h : b.Inv) (hmem : candidate ∈ b.candidates)
    (hstatus : candidate.status = .reviewDraft) :
    candidate.candidateId ∉ b.acceptances.map (·.candidateId) := by
  intro haccepted
  obtain ⟨row, hrow, hid⟩ := List.mem_map.mp haccepted
  obtain ⟨other, hother, hotherId, hotherStatus⟩ := h.accepted row hrow
  have hsame := Table.eq_of_key_eq h.candidateIds hother hmem (hotherId.trans hid)
  rw [hsame, hstatus] at hotherStatus
  cases hotherStatus

theorem Inv.accept {decision : AcceptanceDecision Fp} (h : b.Inv)
    (hvalid : decision.validate = .ok ())
    (hkey : Table.lookup ReceiptRow.idempotencyKey (some decision.idempotencyKey) b.receipts =
      none)
    (hcandidate : ∃ candidate ∈ b.candidates, candidate.candidateId = decision.candidateId ∧
      candidate.status = .reviewDraft)
    (hopen : ∀ row ∈ b.requests,
      ¬ (row.candidateId = decision.candidateId ∧ row.state = .requested)) :
    Inv { b with
      acceptances := b.acceptances ++ [decision.row]
      candidates := Table.updateWhere (fun row => row.candidateId = decision.candidateId)
        (fun row => { row with status := .accepted }) b.candidates
      receipts := b.receipts ++ [decision.receipt] } := by
  obtain ⟨candidate, hmem, hid, hstatus⟩ := hcandidate
  have hnew := h.not_accepted hmem hstatus
  rw [hid] at hnew
  have hupdated : ∀ old ∈ b.candidates, ∃ new ∈ Table.updateWhere
      (fun row : CandidateRow Fp => row.candidateId = decision.candidateId)
      (fun row => { row with status := .accepted }) b.candidates,
      new.candidateId = old.candidateId ∧ new.contentFingerprint = old.contentFingerprint ∧
      new.documentId = old.documentId ∧ new.runId = old.runId ∧
      (old.status = .accepted ∨ old.candidateId = decision.candidateId →
        new.status = .accepted) := by
    intro old hold
    refine ⟨_, Table.mem_updateWhere.mpr ⟨old, hold, rfl⟩, ?_⟩
    by_cases hd : old.candidateId = decision.candidateId
    · simp [hd]
    · simp [hd]
  refine { h with
    candidateIds := Table.nodup_updateWhere (fun _ => rfl) h.candidateIds, accepted := ?_
    once := ?_, authorized := ?_, receipts := ?_, requested := ?_, exclusive := ?_ }
  · intro row hrow
    rcases List.mem_append.mp hrow with hrow | hrow
    · obtain ⟨old, hold, holdId, holdStatus⟩ := h.accepted row hrow
      obtain ⟨new, hnewMem, hnewId, -, -, -, hnewStatus⟩ := hupdated old hold
      exact ⟨new, hnewMem, hnewId.trans holdId, hnewStatus (.inl holdStatus)⟩
    · rw [List.mem_singleton.mp hrow]
      obtain ⟨new, hnewMem, hnewId, -, -, -, hnewStatus⟩ := hupdated candidate hmem
      exact ⟨new, hnewMem, hnewId.trans hid, hnewStatus (.inr hid)⟩
  · refine Table.nodup_append_singleton h.once fun other hother he => hnew ?_
    exact List.mem_map.mpr ⟨other, hother, he⟩
  · intro row hrow
    rcases List.mem_append.mp hrow with hrow | hrow
    · obtain ⟨hrow', hvalid', hbound⟩ := h.authorized row hrow
      exact ⟨hrow', hvalid', hbound.append _⟩
    · rw [List.mem_singleton.mp hrow]
      refine ⟨rfl, hvalid, decision.receipt, ?_, rfl⟩
      change Table.lookup _ (some decision.idempotencyKey) _ = _
      rw [Table.lookup_append_singleton, hkey]
      simp [AcceptanceDecision.receipt]
  · intro receipt hreceipt other hpayload
    rcases List.mem_append.mp hreceipt with hreceipt | hreceipt
    · exact List.mem_append_left _ (h.receipts receipt hreceipt other hpayload)
    · rw [List.mem_singleton.mp hreceipt] at hpayload
      obtain rfl : decision = other := ReceiptPayload.acceptance.inj hpayload
      exact List.mem_append_right _ (List.mem_singleton_self _)
  · intro row hrow
    obtain ⟨hstate, documentId, runId, hbacks⟩ := h.requested row hrow
    refine ⟨hstate, documentId, runId, hbacks.mono (fun old hold => ?_) fun _ => id⟩
    obtain ⟨new, hnewMem, hnewId, hnewFp, hnewDocument, hnewRun, -⟩ := hupdated old hold
    exact ⟨new, hnewMem, hnewId, hnewFp, hnewDocument, hnewRun⟩
  · intro row hrow hboth
    rw [List.map_append, List.mem_append] at hboth
    rcases hboth with hold | hnewRow
    · exact h.exclusive row hrow hold
    · rw [List.map_singleton, List.mem_singleton] at hnewRow
      exact hopen row hrow ⟨hnewRow, (h.requested row hrow).1⟩

theorem Inv.request {row : RevisionRequestRow Fp} {documentId runId : String}
    {feedback : List (String × Fp)} (h : b.Inv) (hstate : row.state = .requested)
    (hkey : row.idempotencyKey ∉ b.requests.map (·.idempotencyKey))
    (hfresh : row.candidateId ∉ b.requests.map (·.candidateId))
    (hopen : row.candidateId ∉ b.acceptances.map (·.candidateId))
    (hbacks : Backs { b with feedback } row documentId runId)
    (hnotes : Notes (feedbackOf row.requestId,
      Sha256.ofJson (row.feedback documentId runId).toJson) b.feedback feedback) :
    Inv { b with requests := b.requests ++ [row], feedback } := by
  refine { h with requestKeys := ?_, requestCandidates := ?_, requested := ?_, exclusive := ?_ }
  · refine Table.nodup_append_singleton h.requestKeys fun other hother he => hkey ?_
    exact List.mem_map.mpr ⟨other, hother, he⟩
  · refine Table.nodup_append_singleton h.requestCandidates fun other hother he => hfresh ?_
    exact List.mem_map.mpr ⟨other, hother, he⟩
  · intro other hother
    rcases List.mem_append.mp hother with hother | hother
    · obtain ⟨hotherState, document, run, hotherBacks⟩ := h.requested other hother
      exact ⟨hotherState, document, run, hotherBacks.mono
        (fun old hold => ⟨old, hold, rfl, rfl, rfl, rfl⟩) fun _ => hnotes.kept⟩
    · rw [List.mem_singleton.mp hother]
      exact ⟨hstate, documentId, runId, hbacks.candidate, hbacks.fields, hbacks.noted⟩
  · intro other hother
    rcases List.mem_append.mp hother with hother | hother
    · exact h.exclusive other hother
    · rw [List.mem_singleton.mp hother]
      exact hopen

theorem Step.inv (hstep : Step b b') (h : b.Inv) : b'.Inv := by
  cases hstep with
  | skip => exact h
  | release candidate hfresh => exact h.release hfresh
  | receipt receipt hother => exact h.receipt hother
  | note entry feedback hnotes => exact h.note hnotes
  | accept decision hvalid hkey hcandidate hopen => exact h.accept hvalid hkey hcandidate hopen
  | request row documentId runId feedback hstate hkey hfresh hopen hbacks hnotes =>
    exact h.request hstate hkey hfresh hopen hbacks hnotes

end DecisionBook

/-! ## The calls -/

section Calls

variable [Sha256 Fp] [DecidableEq Fp]

/-- The two decisions. -/
inductive DecisionCall (Fp : Type) where
  | accept (decision : AcceptanceDecision Fp)
  | revise (request : RevisionRequest Fp)

inductive DecisionAnswer where
  | accepted (acceptanceId : String)
  | revision (answer : RevisionAnswer)
  deriving DecidableEq, Repr

/-- The transaction of a call. -/
def DecisionCall.transaction (call : DecisionCall Fp) (s : AuthorDatabase Fp) :
    CoreResult (DecisionAnswer × AuthorDatabase Fp) :=
  match call with
  | accept decision => do
    let (acceptanceId, project) ← acceptCandidate decision s.project
    return (.accepted acceptanceId, { s with project })
  | revise request => do
    let (answer, s) ← requestCandidateRevision request s
    return (.revision answer, s)

/-- The answer of a call and the state after it. A failed transaction is rolled back. -/
def DecisionCall.exec (call : DecisionCall Fp) (s : AuthorDatabase Fp) :
    CoreResult DecisionAnswer × AuthorDatabase Fp :=
  match call.transaction s with
  | .ok (answer, s') => (.ok answer, s')
  | .error error => (.error error, s)

variable [Documents Fp] [SerdeJson Fp]

/-- Decisions, feedback and its interpretation, and every other call, which leaves the requests
alone. -/
inductive DecisionStep : AuthorDatabase Fp → AuthorDatabase Fp → Prop
  | author {s : AuthorDatabase Fp} (call : DecisionCall Fp) : DecisionStep s (call.exec s).2
  | feedback {s s' : AuthorDatabase Fp} (event createdAt answer)
      (h : captureLearningFeedback event createdAt s = .ok (answer, s')) : DecisionStep s s'
  | interpret {s : AuthorDatabase Fp} (events : List (FeedbackRow Fp)) (evidence)
      (h : events.map FeedbackRow.entry = s.feedbackEvents.map FeedbackRow.entry) :
      DecisionStep s { s with feedbackEvents := events, learningEvidence := evidence }
  | work {s : AuthorDatabase Fp} {project : Database Fp} (h : WorkStep s.project project)
      (requests : project.revisionRequests = s.project.revisionRequests) :
      DecisionStep s { s with project }

/-! ### Feedback -/

omit [Sha256 Fp] [DecidableEq Fp] [Documents Fp] [SerdeJson Fp] in
theorem lookup_entry (eventId : String) (rows : List (FeedbackRow Fp)) :
    Table.lookup Prod.fst eventId (rows.map FeedbackRow.entry) =
      (Table.lookup FeedbackRow.eventId eventId rows).map FeedbackRow.entry := by
  simp only [Table.lookup, List.find?_map]
  rfl

omit [Documents Fp] [SerdeJson Fp] in
theorem insertLearningFeedback_eq_ok {event : LearningFeedback Fp} {createdAt : String}
    {answer : String × Bool} {s s' : AuthorDatabase Fp}
    (h : insertLearningFeedback event createdAt s = .ok (answer, s')) :
    answer.1 = event.eventId ∧ (∀ field ∈ event.required, ¬ blank field.2) ∧
    s'.project = s.project ∧
    DecisionBook.Notes (event.eventId, Sha256.ofJson event.toJson) s.book.feedback
      s'.book.feedback := by
  simp only [insertLearningFeedback, bind_eq_ok, forEach_unit_eq_ok, require_eq_ok] at h
  obtain ⟨-, hfields, h⟩ := h
  split at h
  case h_1 existing hexisting =>
    simp only [bind_eq_ok, require_eq_ok, exists_const, pure_eq_ok, Prod.mk.injEq] at h
    obtain ⟨hsame, rfl, rfl⟩ := h
    refine ⟨rfl, hfields, rfl, .inl ⟨?_, rfl⟩⟩
    have hid : existing.eventId = event.eventId := Table.lookup_key hexisting
    simp [AuthorDatabase.book, lookup_entry, hexisting, FeedbackRow.entry, hid, hsame]
  case h_2 hnone =>
    simp only [AuthorDatabase.insertFeedback, bind_eq_ok, require_eq_ok, exists_const, pure_eq_ok,
      Prod.mk.injEq] at h
    obtain ⟨_, ⟨-, -, -, rfl⟩, rfl, rfl⟩ := h
    refine ⟨rfl, hfields, rfl, .inr ⟨?_, ?_⟩⟩
    · simp [AuthorDatabase.book, lookup_entry, hnone]
    · simp [AuthorDatabase.book, FeedbackRow.entry, LearningFeedback.row]

omit [Documents Fp] [SerdeJson Fp] in
/-- An event that was noted is found again. -/
theorem insertLearningFeedback_replay {event : LearningFeedback Fp} (createdAt : String)
    {s : AuthorDatabase Fp} (hfields : ∀ field ∈ event.required, ¬ blank field.2)
    (hnoted : Table.lookup Prod.fst event.eventId s.book.feedback =
      some (event.eventId, Sha256.ofJson event.toJson)) :
    insertLearningFeedback event createdAt s = .ok ((event.eventId, true), s) := by
  rw [AuthorDatabase.book, lookup_entry, Option.map_eq_some_iff] at hnoted
  obtain ⟨existing, hexisting, hentry⟩ := hnoted
  have hsame : existing.payloadFingerprint = Sha256.ofJson event.toJson :=
    (Prod.mk.inj hentry).2
  simp only [insertLearningFeedback, hexisting, bind_eq_ok, forEach_unit_eq_ok, require_eq_ok,
    exists_const, pure_eq_ok]
  exact ⟨hfields, hsame, trivial⟩

/-! ### Revision requests -/

omit [Documents Fp] [SerdeJson Fp] in
theorem replayRevision_book {r : RevisionRequest Fp} {row : RevisionRequestRow Fp}
    {answer : RevisionAnswer} {s s' : AuthorDatabase Fp}
    (h : replayRevision r row s = .ok (answer, s')) : DecisionBook.Step s.book s'.book := by
  simp only [replayRevision, bind_eq_ok, pure_eq_ok, Prod.exists, Prod.mk.injEq] at h
  obtain ⟨_, -, candidate, -, documentId, -, runId, -, eventId, replayed, next, hnoted, -, rfl⟩ := h
  obtain ⟨-, -, hproject, hnotes⟩ := insertLearningFeedback_eq_ok hnoted
  have hbook : next.book = { s.book with feedback := next.book.feedback } := by
    simp only [AuthorDatabase.book, hproject]
  rw [hbook]
  exact .note _ _ hnotes

omit [Documents Fp] [SerdeJson Fp] in
theorem recordRevision_book {r : RevisionRequest Fp} {answer : RevisionAnswer}
    {s s' : AuthorDatabase Fp} (h : recordRevision r s = .ok (answer, s')) :
    DecisionBook.Step s.book s'.book := by
  simp only [recordRevision, insertRevisionRequest, bind_eq_ok, require_eq_ok, exists_const,
    fetch_eq_ok, pure_eq_ok, Prod.exists, Prod.mk.injEq] at h
  obtain ⟨candidate, hcandidate, _, lineage, -, runId, hrun, documentId, hdocument,
    ⟨hstatus, hfp⟩, hopen, _, -, requested, ⟨-, hfresh, hkey, rfl⟩, checked, hchecked, eventId,
    replayed, next, hnoted, -, rfl⟩ := h
  obtain rfl := insertCheckpoint_eq_ok hchecked
  obtain ⟨-, hfields, hproject, hnotes⟩ := insertLearningFeedback_eq_ok hnoted
  have hbook : next.book = { s.book with
      requests := s.book.requests ++ [r.row], feedback := next.book.feedback } := by
    simp only [AuthorDatabase.book, hproject]
  rw [hbook]
  refine .request r.row documentId runId _ rfl hkey hfresh hopen ⟨?_, hfields, hnotes.entry⟩ hnotes
  exact ⟨candidate, Table.lookup_mem hcandidate, Table.lookup_key hcandidate, hfp, hdocument, hrun⟩

omit [Documents Fp] [SerdeJson Fp] in
theorem requestCandidateRevision_book {r : RevisionRequest Fp} {answer : RevisionAnswer}
    {s s' : AuthorDatabase Fp} (h : requestCandidateRevision r s = .ok (answer, s')) :
    DecisionBook.Step s.book s'.book := by
  simp only [requestCandidateRevision, bind_eq_ok] at h
  obtain ⟨_, -, h⟩ := h
  split at h
  · exact replayRevision_book h
  · exact recordRevision_book h

/-! ### Acceptances -/

omit [Documents Fp] [SerdeJson Fp] in
theorem acceptCandidate_book {decision : AcceptanceDecision Fp} {acceptanceId : String}
    {s : AuthorDatabase Fp} {project : Database Fp}
    (h : acceptCandidate decision s.project = .ok (acceptanceId, project)) :
    DecisionBook.Step s.book { s with project : AuthorDatabase Fp }.book := by
  obtain ⟨hvalid, ⟨_, _, -, -, -, rfl⟩ | ⟨hkey, hcheck, -, rfl⟩⟩ := acceptCandidate_cases h
  · exact .skip _
  · simp only [checkAcceptance, bind_eq_ok, require_eq_ok, exists_const, fetch_eq_ok] at hcheck
    obtain ⟨candidate, hcandidate, ⟨hstatus, -⟩, hopen, -⟩ := hcheck
    exact .accept (b := s.book) decision hvalid hkey
      ⟨candidate, Table.lookup_mem hcandidate, Table.lookup_key hcandidate, hstatus⟩ hopen

/-! ### Other calls -/

/-- The project with the tables that a call on it leaves. -/
def AuthorDatabase.on (s : AuthorDatabase Fp) (project : Database Fp) : AuthorDatabase Fp :=
  { s with project }

omit [SerdeJson Fp] in
theorem RunOp.book_of_exec {op : RunOp Fp} {s : AuthorDatabase Fp} {project : Database Fp}
    (h : op.exec s.project = .ok project) :
    DecisionBook.Step s.book (s.on project).book ∧
      project.revisionRequests = s.project.revisionRequests := by
  cases op with
  | dispatch =>
    obtain ⟨callId, h⟩ := snd_map_eq_ok h
    obtain ⟨-, ⟨_, -, -, -, -, -, rfl⟩ | ⟨_, -, -, -, -, -, -, -, -, -, rfl⟩⟩ :=
      dispatchStage_eq_ok h
    all_goals exact ⟨.skip _, rfl⟩
  | confirm =>
    obtain ⟨_, h⟩ := snd_map_eq_ok h
    obtain ⟨calls, receipts, rfl⟩ := confirmStage_frame h
    exact ⟨.skip _, rfl⟩
  | confirmDerived =>
    obtain ⟨_, h⟩ := snd_map_eq_ok h
    obtain ⟨calls, checkpoints, events, rfl⟩ := confirmDerivedStage_frame h
    exact ⟨.skip _, rfl⟩
  | markUnconfirmed =>
    obtain ⟨_, h⟩ := snd_map_eq_ok h
    obtain ⟨calls, rfl⟩ := markStageUnconfirmed_frame h
    exact ⟨.skip _, rfl⟩
  | setStatus =>
    obtain ⟨_, h⟩ := snd_map_eq_ok h
    obtain rfl := setRunStatus_eq_ok h
    exact ⟨.skip _, rfl⟩
  | failedGate =>
    obtain ⟨_, h⟩ := snd_map_eq_ok h
    obtain ⟨checkpoints, events, rfl⟩ := recordFailedGate_eq_ok h
    exact ⟨.skip _, rfl⟩
  | freezeContext =>
    obtain ⟨_, h⟩ := snd_map_eq_ok h
    obtain ⟨-, selections, freezes, dependencies, -, rfl⟩ := persistWriterContextFreeze_eq_ok h
    exact ⟨.skip _, rfl⟩
  | commit =>
    obtain ⟨_, h⟩ := snd_map_eq_ok h
    obtain ⟨-, -, bounded, receipt, checkpoint, event, -, hcandidate, -, rfl⟩ :=
      commitReleasedCandidate_eq_ok h
    exact ⟨.release (b := s.book) _ hcandidate, rfl⟩
  | cancel =>
    obtain ⟨answer, h⟩ := snd_map_eq_ok h
    obtain ⟨rfl, -⟩ | ⟨-, -, event, receipt, count, -, hpayload, rfl⟩ := cancelProduction_eq_ok h
    · exact ⟨.skip _, rfl⟩
    · exact ⟨.receipt (b := s.book) receipt (by simp [hpayload]), rfl⟩

omit [Documents Fp] in
theorem applySettlement_book {authorization : SettlementAuthorization Fp} {ids : SettlementIds}
    {settlementId : String} {s : AuthorDatabase Fp} {project : Database Fp}
    (h : applySettlement authorization ids s.project = .ok (settlementId, project)) :
    DecisionBook.Step s.book (s.on project).book := by
  obtain ⟨-, ⟨_, _, -, -, -, -, rfl⟩ | ⟨-, -, plan, -, hcommit⟩⟩ := applySettlement_eq_ok h
  · exact .skip _
  obtain ⟨mid, seq, appended, snapshotId, ⟨tables, next, revisions, search, impacts, observations,
    sources, -, -, -, rfl⟩, -, happended, hsnapshot⟩ := commitSettlement_eq_ok hcommit
  obtain ⟨-, -, event, -, -, -, -, -, -, rfl⟩ := appendStoryEvent_eq_ok happended
  obtain ⟨_, -, -, -, _, -, _, -, -, -, -, -, -, -, -, -, -, -, -, rfl⟩ :=
    createStorySnapshot_eq_ok hsnapshot
  exact .receipt (b := s.book) _ (by simp)

/-- Every call on the project is a step of the book, if it leaves the requests alone. -/
theorem WorkStep.book {s : AuthorDatabase Fp} {project : Database Fp}
    (h : WorkStep s.project project)
    (hrequests : project.revisionRequests = s.project.revisionRequests) :
    DecisionBook.Step s.book (s.on project).book := by
  cases h with
  | freezePack _ _ _ _ h =>
    obtain ⟨-, -, rfl | ⟨row, -, -, -, -, rfl⟩⟩ := freezeWriterPackForChapter_eq_ok h
    all_goals exact .skip _
  | start _ _ h =>
    obtain rfl | ⟨_, _, _, _, -, -, -, -, -, -, -, -, -, -, -, rfl⟩ := startProduction_eq_ok h
    all_goals exact .skip _
  | run op h => exact (op.book_of_exec h).1
  | accept _ _ h => exact acceptCandidate_book h
  | settle _ _ _ h => exact applySettlement_book h
  | chapter _ _ _ _ _ _ _ _ h =>
    obtain rfl | ⟨_, _, _, -, -, -, -, -, rfl, -⟩ := createChapter_eq_ok h
    all_goals exact .skip _
  | container _ _ _ _ _ _ _ _ h =>
    obtain rfl | ⟨_, receipt, payload, -, hpayload, rfl, -⟩ := createStoryContainer_eq_ok h
    · exact .skip _
    · exact .receipt (b := s.book) receipt (by simp [hpayload])
  | document _ _ _ _ _ _ h =>
    obtain ⟨document, -, rfl⟩ := documentCreate_eq_ok h
    exact .skip _
  | revision _ _ h =>
    obtain rfl | ⟨revision, -, -, -, -, rfl⟩ := documentRevisionSave_eq_ok h
    all_goals exact .skip _
  | titles seed => exact .skip _
  | aside h =>
    obtain ⟨requests, _, _, _, _, _, rfl⟩ := h
    obtain rfl : requests = s.project.revisionRequests := hrequests
    exact .skip _

theorem DecisionStep.book {s s' : AuthorDatabase Fp} (h : DecisionStep s s') :
    DecisionBook.Step s.book s'.book := by
  cases h with
  | author call =>
    rw [DecisionCall.exec]
    split
    case h_1 answer next hok =>
      cases call with
      | accept decision =>
        simp only [DecisionCall.transaction, bind_eq_ok, pure_eq_ok, Prod.exists,
          Prod.mk.injEq] at hok
        obtain ⟨acceptanceId, project, haccept, -, rfl⟩ := hok
        exact acceptCandidate_book haccept
      | revise request =>
        simp only [DecisionCall.transaction, bind_eq_ok, pure_eq_ok, Prod.exists,
          Prod.mk.injEq] at hok
        obtain ⟨_, _, hrequest, -, rfl⟩ := hok
        exact requestCandidateRevision_book hrequest
    case h_2 => exact .skip _
  | feedback event createdAt answer h =>
    simp only [captureLearningFeedback, bind_eq_ok] at h
    obtain ⟨_, -, h⟩ := h
    obtain ⟨-, -, hproject, hnotes⟩ := insertLearningFeedback_eq_ok h
    have hbook : s'.book = { s.book with feedback := s'.book.feedback } := by
      simp only [AuthorDatabase.book, hproject]
    rw [hbook]
    exact .note _ _ hnotes
  | interpret events evidence h =>
    have hbook : AuthorDatabase.book { s with
        feedbackEvents := events, learningEvidence := evidence } = s.book := by
      simp only [AuthorDatabase.book, h]
    rw [hbook]
    exact .skip _
  | work h requests => exact h.book requests

/-! ## Reachable states -/

omit [Documents Fp] [SerdeJson Fp] in
theorem unlearned_inv (projectId title createdAt : String) :
    (AuthorDatabase.unlearned
      (initialProject projectId title createdAt : Database Fp)).book.Inv := by
  constructor <;> simp [AuthorDatabase.unlearned, AuthorDatabase.book, initialProject]

section Decided

variable {s : AuthorDatabase Fp}

omit [Documents Fp] [SerdeJson Fp] in
/-- A request with the key of a stored one. -/
theorem requestCandidateRevision_bound (hinv : s.book.Inv) {row : RevisionRequestRow Fp}
    (hrow : row ∈ s.project.revisionRequests) {r : RevisionRequest Fp}
    (hvalid : r.validate = .ok ()) (hkey : r.idempotencyKey = row.idempotencyKey) :
    requestCandidateRevision r s = replayRevision r row s := by
  have hlookup := Table.lookup_of_mem hinv.requestKeys hrow
  have hlookup : Table.lookup RevisionRequestRow.idempotencyKey r.idempotencyKey
      s.project.revisionRequests = some row := hkey ▸ hlookup
  simp only [requestCandidateRevision, hvalid, bind, Except.bind, hlookup]

omit [Documents Fp] [SerdeJson Fp] in
theorem replayRevision_matches (hinv : s.book.Inv) {row : RevisionRequestRow Fp}
    (hrow : row ∈ s.project.revisionRequests) {r : RevisionRequest Fp} (hmatches : r.Matches row) :
    replayRevision r row s = .ok (⟨row.requestId, checkpointOf row.requestId,
      feedbackOf row.requestId, true⟩, s) := by
  obtain ⟨-, documentId, runId, ⟨candidate, hmem, hid, hfp, hdocument, hrun⟩, hfields, hnoted⟩ :=
    hinv.requested row hrow
  have hfind : s.project.candidates.find? (fun candidate =>
      candidate.candidateId = row.candidateId ∧
        candidate.contentFingerprint = row.candidateFingerprint) = some candidate := by
    refine Table.find_of_unique hmem (by simp [hid, hfp]) fun other hother hsame => ?_
    simp only [decide_eq_true_eq] at hsame
    exact Table.eq_of_key_eq hinv.candidateIds hother hmem (hsame.1.trans hid.symm)
  have hreplay := insertLearningFeedback_replay r.createdAt hfields hnoted
  simp only [replayRevision, hfind, bind_eq_ok, require_eq_ok, exists_const, fetch_eq_ok,
    pure_eq_ok]
  exact ⟨hmatches, candidate, rfl, documentId, hdocument, runId, hrun, _, hreplay, rfl⟩

omit [Documents Fp] [SerdeJson Fp] in
/-- An acceptance with the key of a recorded one. -/
theorem acceptCandidate_bound (hinv : s.book.Inv) {row : AcceptanceRow Fp}
    (hrow : row ∈ s.project.acceptanceEvidence) {decision : AcceptanceDecision Fp}
    (hvalid : decision.validate = .ok ())
    (hkey : decision.idempotencyKey = row.authorization.idempotencyKey) :
    acceptCandidate decision s.project = (do
      require (row.authorization.fingerprint = decision.fingerprint)
        (.authorityConflict "acceptance idempotency key binds a different decision")
      return (row.acceptanceId, s.project)) := by
  obtain ⟨hrow, -, receipt, hreceipt, hpayload⟩ := hinv.authorized row hrow
  have hfound : s.project.receipt? decision.idempotencyKey = some receipt := by
    rw [hkey]
    exact hreceipt
  have hid : row.acceptanceId = row.authorization.acceptanceId := congrArg _ hrow
  simp only [acceptCandidate, hvalid, bind, Except.bind, hfound, hpayload, hid]

omit [Documents Fp] [SerdeJson Fp] in
/-- A candidate with a request is not accepted any more. -/
theorem acceptCandidate_requested [CollisionFree Fp] (hinv : s.book.Inv)
    {row : RevisionRequestRow Fp} (hrow : row ∈ s.project.revisionRequests)
    {decision : AcceptanceDecision Fp} (hcandidate : decision.candidateId = row.candidateId)
    {answer : String × Database Fp} : acceptCandidate decision s.project ≠ .ok answer := by
  intro h
  obtain ⟨hvalid, ⟨receipt, prior, hreceipt, hpayload, hfp, -⟩ | ⟨-, hcheck, -⟩⟩ :=
    acceptCandidate_cases h
  · have hprior := hinv.receipts receipt (Table.lookup_mem hreceipt) prior hpayload
    obtain rfl : prior = decision :=
      AcceptanceDecision.eq_of_validate (hinv.authorized _ hprior).2.1 hvalid hfp
    exact hinv.exclusive row hrow (List.mem_map.mpr ⟨_, hprior, hcandidate⟩)
  · simp only [checkAcceptance, bind_eq_ok, require_eq_ok, exists_const] at hcheck
    obtain ⟨_, -, -, hopen, -⟩ := hcheck
    exact hopen row hrow ⟨hcandidate.symm, (hinv.requested row hrow).1⟩

omit [Documents Fp] [SerdeJson Fp] in
/-- An accepted candidate gets no request any more. -/
theorem requestCandidateRevision_accepted (hinv : s.book.Inv) {row : AcceptanceRow Fp}
    (hrow : row ∈ s.project.acceptanceEvidence) {r : RevisionRequest Fp}
    (hcandidate : r.candidateId = row.candidateId) {answer : RevisionAnswer × AuthorDatabase Fp} :
    requestCandidateRevision r s ≠ .ok answer := by
  intro h
  have haccepted : r.candidateId ∈ s.project.acceptanceEvidence.map (·.candidateId) :=
    List.mem_map.mpr ⟨row, hrow, hcandidate.symm⟩
  simp only [requestCandidateRevision, bind_eq_ok] at h
  obtain ⟨_, -, h⟩ := h
  split at h
  case h_1 stored hstored =>
    simp only [replayRevision, bind_eq_ok, require_eq_ok, exists_const] at h
    refine hinv.exclusive stored (Table.lookup_mem hstored) ?_
    rw [h.1.1]
    exact haccepted
  case h_2 =>
    simp only [recordRevision, bind_eq_ok, require_eq_ok, exists_const] at h
    obtain ⟨_, -, _, -, _, -, _, -, -, hopen, -⟩ := h
    exact hopen haccepted

omit [Documents Fp] [SerdeJson Fp] in
theorem DecisionCall.exec_ok {call : DecisionCall Fp} {answer : DecisionAnswer}
    (h : call.transaction s = .ok (answer, s)) : call.exec s = (.ok answer, s) := by
  rw [exec, h]

omit [Documents Fp] [SerdeJson Fp] in
theorem DecisionCall.exec_error {call : DecisionCall Fp}
    (h : ∀ answer, call.transaction s ≠ .ok answer) : ∃ error, call.exec s = (.error error, s) := by
  cases hcall : call.transaction s with
  | error error => exact ⟨error, by rw [exec, hcall]⟩
  | ok answer => exact absurd hcall (h answer)

omit [Documents Fp] [SerdeJson Fp] in
theorem revise_rejected {r : RevisionRequest Fp}
    (h : ∀ answer, requestCandidateRevision r s ≠ .ok answer) :
    ∃ error, (DecisionCall.revise r).exec s = (.error error, s) := by
  refine DecisionCall.exec_error fun answer hok => ?_
  simp only [DecisionCall.transaction, bind_eq_ok] at hok
  obtain ⟨answer, hok, -⟩ := hok
  exact h answer hok

omit [Documents Fp] [SerdeJson Fp] in
theorem accept_rejected {decision : AcceptanceDecision Fp}
    (h : ∀ answer, acceptCandidate decision s.project ≠ .ok answer) :
    ∃ error, (DecisionCall.accept decision).exec s = (.error error, s) := by
  refine DecisionCall.exec_error fun answer hok => ?_
  simp only [DecisionCall.transaction, bind_eq_ok] at hok
  obtain ⟨answer, hok, -⟩ := hok
  exact h answer hok

end Decided

/-- In every run a candidate has one decision at most. The key of a decision answers the same
decision again and no other, and once a candidate has one of the two decisions the other is
rejected under every key. A rejected call changes nothing. -/
theorem author_decisions_exclusive [CollisionFree Fp] {projectId title createdAt : String}
    {start : Database Fp} {s : AuthorDatabase Fp}
    (hstart : createReserved projectId title createdAt = .ok start)
    (hrun : ReflTransGen DecisionStep (AuthorDatabase.unlearned start) s) :
    (∀ candidateId,
      (s.project.acceptanceEvidence.filter fun row => row.candidateId = candidateId).length +
        (s.project.revisionRequests.filter fun row => row.candidateId = candidateId).length ≤ 1) ∧
    (∀ row ∈ s.project.revisionRequests, ∀ r : RevisionRequest Fp, r.validate = .ok () →
      r.idempotencyKey = row.idempotencyKey →
      (r.Matches row → (DecisionCall.revise r).exec s =
        (.ok (.revision ⟨row.requestId, checkpointOf row.requestId, feedbackOf row.requestId,
          true⟩), s)) ∧
      (¬ r.Matches row → ∃ error, (DecisionCall.revise r).exec s = (.error error, s))) ∧
    (∀ row ∈ s.project.acceptanceEvidence, ∀ decision : AcceptanceDecision Fp,
      decision.validate = .ok () → decision.idempotencyKey = row.authorization.idempotencyKey →
      (decision = row.authorization →
        (DecisionCall.accept decision).exec s = (.ok (.accepted row.acceptanceId), s)) ∧
      (decision ≠ row.authorization →
        ∃ error, (DecisionCall.accept decision).exec s = (.error error, s))) ∧
    (∀ row ∈ s.project.revisionRequests, ∀ decision : AcceptanceDecision Fp,
      decision.candidateId = row.candidateId →
      ∃ error, (DecisionCall.accept decision).exec s = (.error error, s)) ∧
    (∀ row ∈ s.project.acceptanceEvidence, ∀ r : RevisionRequest Fp,
      r.candidateId = row.candidateId →
      ∃ error, (DecisionCall.revise r).exec s = (.error error, s)) ∧
    ∀ (call : DecisionCall Fp) (error : CoreError), (call.exec s).1 = .error error →
      (call.exec s).2 = s := by
  have hinv : s.book.Inv := by
    refine invariant_of_step (P := fun s => s.book.Inv) (fun _ _ hstep => hstep.book.inv) hrun ?_
    obtain ⟨-, rfl⟩ := createReserved_eq_ok hstart
    exact unlearned_inv projectId title createdAt
  refine ⟨fun candidateId => ?_, fun row hrow r hvalid hkey => ⟨fun hmatches => ?_, fun hother => ?_⟩,
    fun row hrow decision hvalid hkey => ⟨?_, fun hother => ?_⟩,
    fun row hrow decision hcandidate => ?_, fun row hrow r hcandidate => ?_, fun call error h => ?_⟩
  · have haccepted := Table.filter_key hinv.once candidateId
    have hrequested := Table.filter_key hinv.requestCandidates candidateId
    simp only [AuthorDatabase.book] at haccepted hrequested
    rw [haccepted, hrequested]
    cases hrow : Table.lookup RevisionRequestRow.candidateId candidateId
        s.project.revisionRequests with
    | none => exact Option.length_toList_le
    | some row =>
      have hnone : Table.lookup AcceptanceRow.candidateId candidateId
          s.project.acceptanceEvidence = none := by
        refine Table.lookup_eq_none.mpr fun other hother he => ?_
        refine hinv.exclusive row (Table.lookup_mem hrow) (List.mem_map.mpr ⟨other, hother, ?_⟩)
        exact he.trans (Table.lookup_key hrow).symm
      simp [hnone]
  · refine DecisionCall.exec_ok ?_
    simp only [DecisionCall.transaction, requestCandidateRevision_bound hinv hrow hvalid hkey,
      replayRevision_matches hinv hrow hmatches, bind, Except.bind]
    rfl
  · refine revise_rejected fun answer hok => hother ?_
    rw [requestCandidateRevision_bound hinv hrow hvalid hkey] at hok
    simp only [replayRevision, bind_eq_ok, require_eq_ok, exists_const] at hok
    exact hok.1
  · rintro rfl
    refine DecisionCall.exec_ok ?_
    simp only [DecisionCall.transaction, acceptCandidate_bound hinv hrow hvalid rfl, bind,
      Except.bind, require]
    rfl
  · refine accept_rejected fun answer hok => hother ?_
    rw [acceptCandidate_bound hinv hrow hvalid hkey] at hok
    simp only [bind_eq_ok, require_eq_ok, exists_const] at hok
    exact (AcceptanceDecision.eq_of_validate (hinv.authorized row hrow).2.1 hvalid hok.1).symm
  · exact accept_rejected fun _ => acceptCandidate_requested hinv hrow hcandidate
  · exact revise_rejected fun _ => requestCandidateRevision_accepted hinv hrow hcandidate
  · cases hcall : call.transaction s with
    | error e => rw [DecisionCall.exec, hcall]
    | ok answer =>
      rw [DecisionCall.exec, hcall] at h
      cases h

end Calls

/-! ## A sample run -/

namespace Sample

def revisionRequest : RevisionRequest Digest :=
  let body : RevisionRequest Digest :=
    { schema := "quillframe_revision_request_v1", requestId := "RQ1", candidateId := "CAND1"
      candidateFingerprint := candidate.fingerprint, requestedBy := "author", reason := "slower"
      idempotencyKey := "k1", createdAt := "t6", fingerprint := .tag 0 }
  { body with fingerprint := body.fingerprintOf }

/-- The candidate of the sample is sent back. -/
def requested : CoreResult (AuthorDatabase Digest) := do
  let released ← forEach (fun db op => RunOp.exec op db) (runOps quietText) started
  Prod.snd <$> requestCandidateRevision revisionRequest (AuthorDatabase.unlearned released)

theorem requested_row :
    requested.map (·.project.revisionRequests) = .ok [revisionRequest.row] := by
  decide +kernel

theorem runOps_decisions {ops : List (RunOp Digest)} {s : AuthorDatabase Digest}
    {db : Database Digest} (h : forEach (fun db op => RunOp.exec op db) ops s.project = .ok db) :
    ReflTransGen DecisionStep s (s.on db) := by
  refine forEach_invariant (P := fun db => ReflTransGen DecisionStep s (s.on db)) ?_ h .refl
  intro op _ db next hop hrun
  exact hrun.tail (.work (s := s.on db) (.run op hop) (op.book_of_exec (s := s.on db) hop).2)

theorem requested_steps {s : AuthorDatabase Digest} (h : requested = .ok s) :
    ReflTransGen DecisionStep (AuthorDatabase.unlearned project) s := by
  simp only [requested, bind_eq_ok] at h
  obtain ⟨released, hreleased, h⟩ := h
  obtain ⟨answer, h⟩ := snd_map_eq_ok h
  have hstarted : ReflTransGen DecisionStep (AuthorDatabase.unlearned project)
      (AuthorDatabase.unlearned started) :=
    .tail (.single (.work (.freezePack _ _ _ _ freeze_project) rfl))
      (.work (.start _ _ start_frozen) rfl)
  have hcall : ((DecisionCall.revise revisionRequest).exec (.unlearned released)).2 = s := by
    simp [DecisionCall.exec, DecisionCall.transaction, h, bind, Except.bind, pure, Except.pure]
  have hreleased : ReflTransGen DecisionStep (AuthorDatabase.unlearned started)
      (AuthorDatabase.unlearned released) := runOps_decisions hreleased
  exact hcall ▸ (hstarted.trans hreleased).tail (.author (.revise revisionRequest))

end Sample

open Sample in
theorem author_decisions_exclusive_sample :
    ∃ s : AuthorDatabase Digest, s.project.revisionRequests = [revisionRequest.row] ∧
      (DecisionCall.revise revisionRequest).exec s =
        (.ok (.revision ⟨"RQ1", checkpointOf "RQ1", feedbackOf "RQ1", true⟩), s) := by
  obtain ⟨s, hs, hrow⟩ := map_eq_ok.mp requested_row
  have hfacts := author_decisions_exclusive create_project (requested_steps hs)
  have hmem : revisionRequest.row ∈ s.project.revisionRequests :=
    hrow ▸ List.mem_singleton_self _
  exact ⟨s, hrow, (hfacts.2.1 _ hmem revisionRequest (by decide +kernel) rfl).1
    ⟨rfl, rfl, rfl, rfl⟩⟩

end Quillframe
