import Mathlib.Data.List.Nodup
import Mathlib.Data.List.Perm.Subperm
import Mathlib.Order.Basic
import Mathlib.Tactic

/-! Ranks in a list of distinct elements of a linear order: the number of elements up to one. -/
namespace Quillframe

variable {α : Type*} [LinearOrder α]

def rank (xs : List α) (x : α) : ℕ := xs.countP (· ≤ x)

section Rank

variable {xs : List α} {x y : α}

theorem rank_mono (h : x ≤ y) : rank xs x ≤ rank xs y := by
  refine List.countP_mono_left fun z _ hz => ?_
  simp only [decide_eq_true_eq] at hz ⊢
  exact hz.trans h

theorem rank_append (ys : List α) : rank (xs ++ ys) x = rank xs x + rank ys x :=
  List.countP_append

theorem rank_pos (hx : x ∈ xs) : 0 < rank xs x :=
  List.countP_pos_iff.mpr ⟨x, hx, by simp⟩

theorem rank_le_length : rank xs x ≤ xs.length := List.countP_le_length

theorem rank_lt (hy : y ∈ xs) (h : x < y) : rank xs x < rank xs y := by
  induction xs with
  | nil => cases hy
  | cons z rest ih =>
    simp only [rank, List.countP_cons, decide_eq_true_eq] at ih ⊢
    rcases List.mem_cons.mp hy with rfl | hy
    · have hrest : rest.countP (· ≤ x) ≤ rest.countP (· ≤ y) := rank_mono h.le
      rw [if_neg (not_le.mpr h), if_pos le_rfl]
      omega
    · have hrest := ih hy
      by_cases hz : z ≤ x
      · rw [if_pos hz, if_pos (hz.trans h.le)]
        omega
      · rw [if_neg hz]
        omega

theorem rank_le_iff (hx : x ∈ xs) : rank xs x ≤ rank xs y ↔ x ≤ y :=
  ⟨fun h => not_lt.mp fun hlt => absurd (rank_lt hx hlt) (not_lt.mpr h), rank_mono⟩

theorem rank_inj (hx : x ∈ xs) (hy : y ∈ xs) (h : rank xs x = rank xs y) : x = y :=
  le_antisymm ((rank_le_iff hx).mp h.le) ((rank_le_iff hy).mp h.ge)

/-- Every number from one on is a rank. -/
theorem exists_rank (hnodup : xs.Nodup) {k : ℕ} (hpos : 1 ≤ k) (hle : k ≤ xs.length) :
    ∃ x ∈ xs, rank xs x = k := by
  have hranks : (xs.map (rank xs)).Nodup :=
    List.Nodup.map_on (fun x hx y hy h => rank_inj hx hy h) hnodup
  have hsubset : xs.map (rank xs) ⊆ List.range' 1 xs.length := by
    intro n hn
    obtain ⟨x, hx, rfl⟩ := List.mem_map.mp hn
    have hxpos := rank_pos hx
    have hxle : rank xs x ≤ xs.length := rank_le_length
    exact List.mem_range'_1.mpr ⟨hxpos, by omega⟩
  have hperm : (xs.map (rank xs)).Perm (List.range' 1 xs.length) :=
    (hranks.subperm hsubset).perm_of_length_le (by simp)
  have hk : k ∈ xs.map (rank xs) :=
    hperm.mem_iff.mpr (List.mem_range'_1.mpr ⟨hpos, by omega⟩)
  exact List.mem_map.mp hk

end Rank

end Quillframe
