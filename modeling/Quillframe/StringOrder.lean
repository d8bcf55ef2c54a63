import Mathlib.Data.String.Basic
import Mathlib.Tactic

/-! The order of strings, decided on the bytes where both are in ASCII, so that it can be
evaluated without decoding them. -/
namespace Quillframe

theorem toList_toByteArray_loop (bytes : List UInt8) (acc : ByteArray) :
    (List.toByteArray.loop bytes acc).data.toList = acc.data.toList ++ bytes := by
  induction bytes generalizing acc with
  | nil => exact (List.append_nil _).symm
  | cons byte rest ih =>
    have hpush : (acc.push byte).data.toList = acc.data.toList ++ [byte] := Array.toList_push
    change (List.toByteArray.loop rest (acc.push byte)).data.toList = _
    rw [ih, hpush, List.append_assoc, List.singleton_append]

theorem toList_utf8Encode (text : List Char) :
    text.utf8Encode.data.toList = text.flatMap String.utf8EncodeChar := by
  simp [List.utf8Encode, List.toByteArray, toList_toByteArray_loop]

def stringBytes (value : String) : List UInt8 := value.toByteArray.data.toList

def bytesLess : List UInt8 → List UInt8 → Bool
  | _, [] => false
  | [], _ :: _ => true
  | b :: bs, c :: cs => if b.toNat = c.toNat then bytesLess bs cs else b.toNat.blt c.toNat

def inAscii (bytes : List UInt8) : Bool := bytes.all fun byte => byte.toNat.blt 128

theorem stringBytes_eq (value : String) :
    stringBytes value = value.toList.flatMap String.utf8EncodeChar := by
  rw [stringBytes, ← String.utf8Encode_toList, toList_utf8Encode]

theorem utf8EncodeChar_of_inAscii {c : Char} (h : inAscii (String.utf8EncodeChar c) = true) :
    ∃ byte, String.utf8EncodeChar c = [byte] ∧ byte.toNat = c.toNat := by
  simp only [inAscii, String.utf8EncodeChar, Char.toNat_val] at h ⊢
  split_ifs at h ⊢ with hsmall
  · refine ⟨_, rfl, ?_⟩
    simp
    omega
  all_goals
    simp at h
    omega

theorem bytesLess_iff {text other : List Char}
    (htext : inAscii (text.flatMap String.utf8EncodeChar) = true)
    (hother : inAscii (other.flatMap String.utf8EncodeChar) = true) :
    bytesLess (text.flatMap String.utf8EncodeChar) (other.flatMap String.utf8EncodeChar) = true ↔
      text < other := by
  induction text generalizing other with
  | nil =>
    cases other with
    | nil => simp [bytesLess]
    | cons d ds =>
      simp only [inAscii, List.flatMap_cons, List.all_append, Bool.and_eq_true] at hother
      obtain ⟨byte, hbyte, -⟩ := utf8EncodeChar_of_inAscii hother.1
      simp [hbyte, bytesLess]
  | cons c cs ih =>
    simp only [inAscii, List.flatMap_cons, List.all_append, Bool.and_eq_true] at htext
    obtain ⟨byte, hbyte, hc⟩ := utf8EncodeChar_of_inAscii htext.1
    cases other with
    | nil => simp [bytesLess]
    | cons d ds =>
      simp only [inAscii, List.flatMap_cons, List.all_append, Bool.and_eq_true] at hother
      obtain ⟨byte', hbyte', hd⟩ := utf8EncodeChar_of_inAscii hother.1
      have hrest := ih htext.2 hother.2
      have hlt : c < d ↔ c.toNat < d.toNat := UInt32.lt_iff_toNat_lt
      rw [List.flatMap_cons, List.flatMap_cons, hbyte, hbyte', List.singleton_append,
        List.singleton_append, bytesLess, List.cons_lt_cons_iff, hlt, hc, hd]
      by_cases heq : c.toNat = d.toNat
      · rw [if_pos heq, hrest, Char.toNat_inj.mp heq]
        simp
      · have hne : c ≠ d := fun he => heq (congrArg Char.toNat he)
        simp [heq, hne]

theorem bytesLess_stringBytes {value other : String} (hvalue : inAscii (stringBytes value) = true)
    (hother : inAscii (stringBytes other) = true) :
    bytesLess (stringBytes value) (stringBytes other) = true ↔ value < other := by
  rw [stringBytes_eq] at hvalue hother ⊢
  rw [stringBytes_eq, bytesLess_iff hvalue hother, String.lt_iff_toList_lt]

instance (priority := high) decidableStringLt : DecidableLT String := fun value other =>
  if h : inAscii (stringBytes value) = true ∧ inAscii (stringBytes other) = true then
    decidable_of_iff (bytesLess (stringBytes value) (stringBytes other) = true)
      (bytesLess_stringBytes h.1 h.2)
  else String.decidableLT value other

instance (priority := high) decidableStringLe : DecidableLE String := fun value other =>
  decidable_of_iff (¬ other < value) not_lt

instance (priority := high) stringOrder : LinearOrder String :=
  { (inferInstance : LinearOrder String) with
    toDecidableLT := decidableStringLt
    toDecidableLE := decidableStringLe
    min_def := fun a b => by
      rw [min_def]
      split_ifs <;> rfl
    max_def := fun a b => by
      rw [max_def]
      split_ifs <;> rfl
    compare_eq_compareOfLessAndEq := fun a b => by
      rw [LinearOrder.compare_eq_compareOfLessAndEq]
      simp only [compareOfLessAndEq]
      split_ifs <;> rfl }

end Quillframe
