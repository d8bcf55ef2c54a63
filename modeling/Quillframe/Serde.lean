import Quillframe.Semantic

/-! The JSON library: numbers it prints and reads, and the proposal text it parses. A text that
is read again keeps everything but its decimal literals. -/
namespace Quillframe

class SerdeJson (Fp : Type) where
  /-- The literal printed for the number that a printed literal is read as. -/
  reprint : Decimal → Decimal
  /-- `serde_json::from_str::<ChapterTrackingProposal>`. -/
  readProposal : String → CoreResult (ChapterTrackingProposal Fp)

namespace Json

variable {Fp : Type} [SerdeJson Fp]

/-- The value `serde_json::from_str` makes of a text. -/
def reread (v : Json Fp) : Json Fp := v.mapFloat (SerdeJson.reprint Fp)

/-- Reading the text gives the value back. -/
def Stable (v : Json Fp) : Prop := v.reread = v

theorem map_eq_self {α : Type} {f : α → α} {items : List α} :
    items.map f = items ↔ ∀ a ∈ items, f a = a := by
  nth_rewrite 2 [← List.map_id items]
  exact List.map_inj_left

theorem stable_obj {members : List (String × Json Fp)} :
    (obj members).Stable ↔ ∀ member ∈ members, member.2.Stable := by
  simp only [Stable, reread, mapFloat_obj, obj.injEq]
  rw [map_eq_self]
  refine forall₂_congr fun member _ => ?_
  rw [Prod.ext_iff]
  simp

theorem stable_arr {items : List (Json Fp)} :
    (arr items).Stable ↔ ∀ item ∈ items, item.Stable := by
  simp only [Stable, reread, mapFloat_arr, arr.injEq]
  exact map_eq_self

@[simp] theorem stable_str (s : String) : (str s : Json Fp).Stable := by simp [Stable, reread]

@[simp] theorem stable_int (n : ℤ) : (int n : Json Fp).Stable := by simp [Stable, reread]

@[simp] theorem stable_fp (h : Fp) : (fp h).Stable := by simp [Stable, reread]

@[simp] theorem stable_null : (null : Json Fp).Stable := by simp [Stable, reread]

@[simp] theorem stable_strings (values : List String) : (strings values : Json Fp).Stable := by
  simp [Stable, reread]

@[simp] theorem stable_ofOption {α : Type} (encode : α → Json Fp) (value : Option α)
    (h : ∀ a, (encode a).Stable) : (ofOption encode value).Stable := by
  cases value <;> simp [ofOption, h]

end Json

end Quillframe
