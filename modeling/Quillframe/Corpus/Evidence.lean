import Quillframe.Corpus.Progress
import Quillframe.Unions

/-!
# The evidence of a later stage

A stage behind the chapters reads every confirmed artifact of its study with the evidence of its
call. The evidence is sorted by chapter and bytes and freed of neighbouring repeats. The work is
not part of the order, so the anchors of two works at the same bytes can stand in turns.
-/
namespace Quillframe.Corpus

variable {Fp : Type}

/-- A row that a later stage reads: a confirmed artifact and the evidence of its call. -/
structure SemanticArtifact (Fp : Type) where
  payload : Json Fp
  evidence : List (EvidenceAnchor Fp)

/-- `(item.chapter, item.start_byte, item.end_byte)`. -/
def EvidenceAnchor.position (item : EvidenceAnchor Fp) : ℕ ×ₗ ℕ ×ₗ ℕ :=
  toLex (item.chapter, toLex (item.startByte, item.endByte))

section

variable [DecidableEq Fp]

/-- The branch of `stage_input` for the stages behind the chapters, over the rows in the order they
are read: the prior artifacts and the evidence. -/
def laterStageInput (rows : List (SemanticArtifact Fp)) :
    List (Json Fp) × List (EvidenceAnchor Fp) :=
  let (artifacts, evidence) := rows.foldl
    (fun read row => (read.1 ++ [row.payload], read.2 ++ row.evidence)) ([], [])
  (artifacts, (evidence.insertionSort fun a b => a.position ≤ b.position).destutter (· ≠ ·))

theorem laterStageInput_snd (rows : List (SemanticArtifact Fp)) :
    (laterStageInput rows).2 = union EvidenceAnchor.position (rows.map (·.evidence)) := by
  have hread : ∀ read : List (Json Fp) × List (EvidenceAnchor Fp),
      (rows.foldl (fun read row => (read.1 ++ [row.payload], read.2 ++ row.evidence)) read).2 =
        read.2 ++ (rows.map (·.evidence)).flatten := by
    induction rows with
    | nil => simp
    | cons row rest ih =>
      intro read
      rw [List.foldl_cons, ih, List.map_cons, List.flatten_cons, List.append_assoc]
  simp only [laterStageInput, union, hread, List.nil_append]

/-- The evidence is the set of all anchors, whatever order the artifacts are read in. -/
def EvidenceIsSet (rows : List (SemanticArtifact Fp)) : Prop :=
  ∀ order : List (SemanticArtifact Fp), order.Perm rows →
    (laterStageInput order).2 = (laterStageInput rows).2 ∧
    (∀ anchor, anchor ∈ (laterStageInput order).2 ↔ ∃ row ∈ rows, anchor ∈ row.evidence) ∧
    (laterStageInput order).2.Nodup

/-- A later stage reads a set of anchors exactly when different anchors of one position come from
one artifact, in which none stands between two copies of another. -/
theorem evidenceIsSet_iff (rows : List (SemanticArtifact Fp)) :
    EvidenceIsSet rows ↔ Together EvidenceAnchor.position (rows.map (·.evidence)) := by
  constructor
  · intro h
    apply together_of_union_perm
    · intro lists hperm
      -- an order of the lists of evidence is one of the rows
      have hread : Relation.Comp
          (fun lists order : List _ => lists = order.map SemanticArtifact.evidence) List.Perm
            lists rows := by
        rw [List.eq_map_comp_perm]
        exact hperm
      obtain ⟨order, hlists, horder⟩ := hread
      rw [hlists, ← laterStageInput_snd, ← laterStageInput_snd]
      exact (h order horder).1
    · rw [← laterStageInput_snd]
      exact (h rows (List.Perm.refl _)).2.2
  · intro h order hperm
    have hlists := hperm.map (·.evidence)
    rw [laterStageInput_snd, laterStageInput_snd]
    refine ⟨h.union_perm hlists, ?_, (h.perm hlists).nodup⟩
    intro anchor
    rw [mem_union]
    simp [hperm.mem_iff]

end

/-! ## Two works with chapters at the same bytes -/

namespace Sample

def anchor (work : String) : EvidenceAnchor Digest := ⟨work, 1, 0, 50, .text work⟩

/-- The aggregate of two works and the extraction of each. -/
def artifacts : List (SemanticArtifact Digest) :=
  [⟨.null, [anchor "work_a", anchor "work_b"]⟩, ⟨.null, [anchor "work_a"]⟩,
    ⟨.null, [anchor "work_b"]⟩]

end Sample

/-- The anchors of two works stand in turns and stay. -/
theorem evidence_repeats :
    (laterStageInput Sample.artifacts).2 = [Sample.anchor "work_a", Sample.anchor "work_b",
      Sample.anchor "work_a", Sample.anchor "work_b"] ∧ ¬ EvidenceIsSet Sample.artifacts := by
  have hevidence : (laterStageInput Sample.artifacts).2 = [Sample.anchor "work_a",
      Sample.anchor "work_b", Sample.anchor "work_a", Sample.anchor "work_b"] := by
    decide +kernel
  refine ⟨hevidence, ?_⟩
  intro h
  have hnodup := (h Sample.artifacts (List.Perm.refl _)).2.2
  rw [hevidence] at hnodup
  simp at hnodup

end Quillframe.Corpus
