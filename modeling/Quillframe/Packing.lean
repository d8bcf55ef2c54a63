import Mathlib.Data.List.Infix
import Mathlib.Tactic

/-!
# Packing a list into two budgets

Entries are taken from the front of a list while their number and their total size stay inside
the budgets. What is taken is the longest prefix that fits.
-/
namespace Quillframe.Packing

variable {α : Type} {size : α → ℕ} {maxItems maxBytes : ℕ} {items front : List α}

/-- The total size of a list of entries. -/
@[grind =] def total (size : α → ℕ) (items : List α) : ℕ := (items.map size).sum

@[simp] theorem total_nil : total size ([] : List α) = 0 := rfl

@[simp] theorem total_cons (item : α) (rest : List α) :
    total size (item :: rest) = size item + total size rest := by
  simp [total]

@[simp] theorem total_append (xs ys : List α) :
    total size (xs ++ ys) = total size xs + total size ys := by
  simp [total]

/-- The entries stay inside both budgets. -/
@[grind =] def Fits (size : α → ℕ) (maxItems maxBytes : ℕ) (items : List α) : Prop :=
  items.length ≤ maxItems ∧ total size items ≤ maxBytes

instance : Decidable (Fits size maxItems maxBytes items) := inferInstanceAs (Decidable (_ ∧ _))

/-- A longer prefix of the list does not fit. -/
structure IsPacked (size : α → ℕ) (maxItems maxBytes : ℕ) (items front : List α) : Prop where
  initial : front <+: items
  fits : Fits size maxItems maxBytes front
  longest : ∀ other, other <+: items → Fits size maxItems maxBytes other → other <+: front

/-- The greedy cut. -/
def pack (size : α → ℕ) : ℕ → ℕ → List α → List α
  | _, _, [] => []
  | 0, _, _ :: _ => []
  | maxItems + 1, maxBytes, item :: rest =>
    if maxBytes < size item then [] else item :: pack size maxItems (maxBytes - size item) rest

theorem fits_nil : Fits size maxItems maxBytes [] := by
  simp [Fits]

theorem fits_cons {item : α} {rest : List α} :
    Fits size (maxItems + 1) maxBytes (item :: rest) ↔
      size item ≤ maxBytes ∧ Fits size maxItems (maxBytes - size item) rest := by
  simp only [Fits, List.length_cons, total_cons]
  omega

/-- The greedy cut is the longest prefix that fits. -/
theorem isPacked_pack (maxItems maxBytes : ℕ) (items : List α) :
    IsPacked size maxItems maxBytes items (pack size maxItems maxBytes items) := by
  induction items generalizing maxItems maxBytes with
  | nil =>
    have hpack : pack size maxItems maxBytes ([] : List α) = [] := by
      cases maxItems <;> rfl
    rw [hpack]
    exact ⟨List.prefix_rfl, fits_nil, fun other hother _ => hother⟩
  | cons item rest ih =>
    cases maxItems with
    | zero =>
      have hempty (other : List α) (h : Fits size 0 maxBytes other) : other = [] := by
        have hlength := h.1
        simpa using hlength
      exact ⟨List.nil_prefix, fits_nil, fun other _ h => (hempty other h) ▸ List.nil_prefix⟩
    | succ maxItems =>
      unfold pack
      by_cases hlarge : maxBytes < size item
      · rw [if_pos hlarge]
        refine ⟨List.nil_prefix, fits_nil, fun other hother h => ?_⟩
        cases other with
        | nil => exact List.nil_prefix
        | cons first others =>
          have hfirst : first = item := (List.cons_prefix_cons.mp hother).1
          have hsize := (fits_cons.mp h).1
          rw [hfirst] at hsize
          omega
      · rw [if_neg hlarge]
        have hrest := ih maxItems (maxBytes - size item)
        refine ⟨?_, ?_, fun other hother h => ?_⟩
        · exact List.cons_prefix_cons.mpr ⟨rfl, hrest.initial⟩
        · exact fits_cons.mpr ⟨Nat.le_of_not_lt hlarge, hrest.fits⟩
        · cases other with
          | nil => exact List.nil_prefix
          | cons first others =>
            have hcons := List.cons_prefix_cons.mp hother
            have hfirst : first = item := hcons.1
            have hothers := (fits_cons.mp h).2
            rw [hfirst] at hothers
            exact List.cons_prefix_cons.mpr ⟨hfirst, hrest.longest others hcons.2 hothers⟩

/-- Everything is kept exactly when everything fits. -/
theorem IsPacked.eq_iff (h : IsPacked size maxItems maxBytes items front) :
    front = items ↔ Fits size maxItems maxBytes items := by
  constructor
  · intro heq
    rw [← heq]
    exact h.fits
  · intro hfits
    exact List.IsPrefix.eq_of_length_le h.initial (h.longest items List.prefix_rfl hfits).length_le

theorem total_congr {cost : α → ℕ} (h : ∀ item ∈ items, size item = cost item) :
    total size items = total cost items := by
  unfold total
  rw [List.map_congr_left h]

/-- Only the sizes of the entries of the list matter. -/
theorem IsPacked.congr {cost : α → ℕ} (h : IsPacked size maxItems maxBytes items front)
    (hsize : ∀ item ∈ items, size item = cost item) :
    IsPacked cost maxItems maxBytes items front := by
  have hfits (other : List α) (hother : other <+: items) :
      Fits size maxItems maxBytes other ↔ Fits cost maxItems maxBytes other := by
    unfold Fits
    rw [total_congr fun item hitem => hsize item (hother.subset hitem)]
  constructor
  · exact h.initial
  · exact (hfits front h.initial).mp h.fits
  · intro other hother hcost
    exact h.longest other hother ((hfits other hother).mpr hcost)

theorem IsPacked.unique {other : List α} (h : IsPacked size maxItems maxBytes items front)
    (hother : IsPacked size maxItems maxBytes items other) : front = other := by
  have hle := (hother.longest front h.initial h.fits).length_le
  exact List.IsPrefix.eq_of_length_le (hother.longest front h.initial h.fits)
    (h.longest other hother.initial hother.fits).length_le

end Quillframe.Packing
