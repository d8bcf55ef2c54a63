import Quillframe.Js.Number
import Mathlib.Data.List.DropRight

/-!
# Base64

The platform's `btoa` and `atob` on the bytes of a binary string, and the unpadded URL alphabet that
programs put over them.
-/
namespace Quillframe.Js

/-- The digit of six bits in the standard alphabet. -/
def base64Digit (n : ℕ) : CodeUnit :=
  if n < 26 then ⟨(0x41 + n) % 0x10000, Nat.mod_lt _ (by decide)⟩
  else if n < 52 then ⟨(0x61 + (n - 26)) % 0x10000, Nat.mod_lt _ (by decide)⟩
  else if n < 62 then digit (n - 52)
  else if n = 62 then unit '+'
  else unit '/'

def base64Value (code : CodeUnit) : Option ℕ :=
  if 0x41 ≤ code.val ∧ code.val ≤ 0x5a then some (code.val - 0x41)
  else if 0x61 ≤ code.val ∧ code.val ≤ 0x7a then some (code.val - 0x61 + 26)
  else if IsDigit code then some (code.val - 0x30 + 52)
  else if code = unit '+' then some 62
  else if code = unit '/' then some 63
  else none

/-- The digits of bytes, three bytes to four digits. -/
def base64Digits : Bytes → Text
  | [] => []
  | [a] => [base64Digit (a.toNat / 4), base64Digit (a.toNat % 4 * 16)]
  | [a, b] =>
    [base64Digit (a.toNat / 4), base64Digit (a.toNat % 4 * 16 + b.toNat / 16),
      base64Digit (b.toNat % 16 * 4)]
  | a :: b :: c :: rest =>
    base64Digit (a.toNat / 4) :: base64Digit (a.toNat % 4 * 16 + b.toNat / 16) ::
      base64Digit (b.toNat % 16 * 4 + c.toNat / 64) :: base64Digit (c.toNat % 64) ::
        base64Digits rest

@[grind =] def padding (count : ℕ) : Text := List.replicate count (unit '=')

def btoa (bytes : Bytes) : Text := base64Digits bytes ++ padding ((3 - bytes.length % 3) % 3)

/-- The bytes of digits without padding; the bits of a last digit that fill no byte are dropped. -/
def bytesOfDigits : Text → Option Bytes
  | [] => some []
  | [_] => none
  | [a, b] => do
    let a ← base64Value a
    let b ← base64Value b
    return [UInt8.ofNat (a * 4 + b / 16)]
  | [a, b, c] => do
    let a ← base64Value a
    let b ← base64Value b
    let c ← base64Value c
    return [UInt8.ofNat (a * 4 + b / 16), UInt8.ofNat (b % 16 * 16 + c / 4)]
  | a :: b :: c :: d :: rest => do
    let a ← base64Value a
    let b ← base64Value b
    let c ← base64Value c
    let d ← base64Value d
    let bytes ← bytesOfDigits rest
    return UInt8.ofNat (a * 4 + b / 16) :: UInt8.ofNat (b % 16 * 16 + c / 4) ::
      UInt8.ofNat (c % 4 * 64 + d) :: bytes

def IsAsciiWhitespace (code : CodeUnit) : Prop :=
  code.val = 0x09 ∨ code.val = 0x0a ∨ code.val = 0x0c ∨ code.val = 0x0d ∨ code.val = 0x20

instance : DecidablePred IsAsciiWhitespace := fun _ => inferInstanceAs (Decidable (_ ∨ _))

/-- One or two padding characters are dropped where the length is a multiple of four. -/
def dropPadding (s : Text) : Text :=
  if s.length % 4 = 0 then
    if s.drop (s.length - 2) = padding 2 then s.take (s.length - 2)
    else if s.drop (s.length - 1) = padding 1 then s.take (s.length - 1)
    else s
  else s

def atob (s : Text) : Option Bytes :=
  bytesOfDigits (dropPadding (s.filter fun code => decide (¬ IsAsciiWhitespace code)))

/-! ## The URL alphabet -/

def replaceUnit (source target : CodeUnit) (s : Text) : Text :=
  s.map fun code => if code = source then target else code

def base64Url (bytes : Bytes) : Text :=
  (replaceUnit (unit '/') (unit '_') (replaceUnit (unit '+') (unit '-') (btoa bytes))).rdropWhile
    fun code => decide (code = unit '=')

def fromBase64 (s : Text) : Option Bytes :=
  let normalized := replaceUnit (unit '_') (unit '/') (replaceUnit (unit '-') (unit '+') s)
  atob (normalized ++ padding ((4 - normalized.length % 4) % 4))

def IsAlphanumeric (code : CodeUnit) : Prop :=
  0x41 ≤ code.val ∧ code.val ≤ 0x5a ∨ 0x61 ≤ code.val ∧ code.val ≤ 0x7a ∨ IsDigit code

instance : DecidablePred IsAlphanumeric := fun _ => inferInstanceAs (Decidable (_ ∨ _))

/-- `[A-Za-z0-9_-]` -/
def IsUrlDigit (code : CodeUnit) : Prop :=
  IsAlphanumeric code ∨ code = unit '_' ∨ code = unit '-'

instance : DecidablePred IsUrlDigit := fun _ => inferInstanceAs (Decidable (_ ∨ _))

/-! ## Decoding what was encoded -/

theorem base64Value_digit {n : ℕ} (h : n < 64) : base64Value (base64Digit n) = some n := by
  have hall : ∀ n < 64, base64Value (base64Digit n) = some n := by decide
  exact hall n h

theorem bytesOfDigits_base64Digits (bytes : Bytes) :
    bytesOfDigits (base64Digits bytes) = some bytes := by
  fun_induction base64Digits bytes with
  | case1 => rfl
  | case2 a =>
    have ha := a.toNat_lt
    have hsum : a.toNat / 4 * 4 + a.toNat % 4 * 16 / 16 = a.toNat := by omega
    simp only [bytesOfDigits, base64Value_digit (show a.toNat / 4 < 64 by omega),
      base64Value_digit (show a.toNat % 4 * 16 < 64 by omega), Option.bind_eq_bind,
      Option.bind_some, Option.pure_def, hsum, UInt8.ofNat_toNat]
  | case3 a b =>
    have ha := a.toNat_lt
    have hb := b.toNat_lt
    have hsum : a.toNat / 4 * 4 + (a.toNat % 4 * 16 + b.toNat / 16) / 16 = a.toNat := by omega
    have hsum' : (a.toNat % 4 * 16 + b.toNat / 16) % 16 * 16 + b.toNat % 16 * 4 / 4 = b.toNat := by
      omega
    simp only [bytesOfDigits, base64Value_digit (show a.toNat / 4 < 64 by omega),
      base64Value_digit (show a.toNat % 4 * 16 + b.toNat / 16 < 64 by omega),
      base64Value_digit (show b.toNat % 16 * 4 < 64 by omega), Option.bind_eq_bind,
      Option.bind_some, Option.pure_def, hsum, hsum', UInt8.ofNat_toNat]
  | case4 a b c rest ih =>
    have ha := a.toNat_lt
    have hb := b.toNat_lt
    have hc := c.toNat_lt
    have hsum : a.toNat / 4 * 4 + (a.toNat % 4 * 16 + b.toNat / 16) / 16 = a.toNat := by omega
    have hsum' : (a.toNat % 4 * 16 + b.toNat / 16) % 16 * 16 +
        (b.toNat % 16 * 4 + c.toNat / 64) / 4 = b.toNat := by omega
    have hsum'' : (b.toNat % 16 * 4 + c.toNat / 64) % 4 * 64 + c.toNat % 64 = c.toNat := by omega
    simp only [bytesOfDigits, base64Value_digit (show a.toNat / 4 < 64 by omega),
      base64Value_digit (show a.toNat % 4 * 16 + b.toNat / 16 < 64 by omega),
      base64Value_digit (show b.toNat % 16 * 4 + c.toNat / 64 < 64 by omega),
      base64Value_digit (show c.toNat % 64 < 64 by omega), ih, Option.bind_eq_bind,
      Option.bind_some, Option.pure_def, hsum, hsum', hsum'', UInt8.ofNat_toNat]

theorem length_base64Digits (bytes : Bytes) :
    (base64Digits bytes).length = (4 * bytes.length + 2) / 3 := by
  fun_induction base64Digits bytes with
  | case1 => rfl
  | case2 a => simp
  | case3 a b => simp
  | case4 a b c rest ih =>
    simp only [List.length_cons, ih]
    omega

/-- What a digit of the standard alphabet can be. -/
def IsBase64 (code : CodeUnit) : Prop := IsAlphanumeric code ∨ code = unit '+' ∨ code = unit '/'

instance : DecidablePred IsBase64 := fun _ => inferInstanceAs (Decidable (_ ∨ _))

theorem isBase64_digit {n : ℕ} (h : n < 64) : IsBase64 (base64Digit n) := by
  have hall : ∀ n < 64, IsBase64 (base64Digit n) := by decide
  exact hall n h

theorem base64Digits_isBase64 (bytes : Bytes) : ∀ code ∈ base64Digits bytes, IsBase64 code := by
  fun_induction base64Digits bytes with
  | case1 => exact List.forall_mem_nil _
  | case2 a =>
    have ha := a.toNat_lt
    simp only [List.forall_mem_cons]
    exact ⟨isBase64_digit (by omega), isBase64_digit (by omega), List.forall_mem_nil _⟩
  | case3 a b =>
    have ha := a.toNat_lt
    have hb := b.toNat_lt
    simp only [List.forall_mem_cons]
    exact ⟨isBase64_digit (by omega), isBase64_digit (by omega), isBase64_digit (by omega),
      List.forall_mem_nil _⟩
  | case4 a b c rest ih =>
    have ha := a.toNat_lt
    have hb := b.toNat_lt
    have hc := c.toNat_lt
    simp only [List.forall_mem_cons]
    exact ⟨isBase64_digit (by omega), isBase64_digit (by omega), isBase64_digit (by omega),
      isBase64_digit (by omega), ih⟩

theorem not_base64_padding : ¬ IsBase64 (unit '=') := by decide

/-- The padding after digits is dropped, and nothing else. -/
theorem dropPadding_append {digits : Text} (hdigits : ∀ code ∈ digits, IsBase64 code) {count : ℕ}
    (hcount : count ≤ 2) (hlength : (digits.length + count) % 4 = 0) :
    dropPadding (digits ++ padding count) = digits := by
  have hnone : digits.count (unit '=') = 0 :=
    List.count_eq_zero.mpr fun hmem => not_base64_padding (hdigits _ hmem)
  have hpads : (digits ++ padding count).count (unit '=') = count := by
    rw [List.count_append, hnone, padding, List.count_replicate_self, Nat.zero_add]
  have hdrop : ∀ m n, (digits ++ padding count).drop m = padding n → n ≤ count := by
    intro m n heq
    have hle := (List.drop_sublist m (digits ++ padding count)).count_le (unit '=')
    rwa [heq, hpads, padding, List.count_replicate_self] at hle
  have hlen : (digits ++ padding count).length = digits.length + count := by simp [padding]
  have hend : ∀ n, n = count → (digits ++ padding count).drop (digits.length + count - n) =
      padding n ∧ (digits ++ padding count).take (digits.length + count - n) = digits := by
    rintro n rfl
    rw [Nat.add_sub_cancel]
    exact ⟨List.drop_left, List.take_left⟩
  rw [dropPadding, hlen, if_pos hlength]
  split_ifs with htwo hone
  · have hle := hdrop _ _ htwo
    exact (hend 2 (by omega)).2
  · have hle := hdrop _ _ hone
    have hne : count ≠ 2 := fun heq => htwo (hend 2 heq.symm).1
    exact (hend 1 (by omega)).2
  · have hne : count ≠ 2 := fun heq => htwo (hend 2 heq.symm).1
    have hne' : count ≠ 1 := fun heq => hone (hend 1 heq.symm).1
    obtain rfl : count = 0 := by omega
    simp [padding]

/-- Digits and padding fill whole groups. -/
theorem length_padding (bytes : Bytes) :
    ((base64Digits bytes).length + (3 - bytes.length % 3) % 3) % 4 = 0 ∧
      (4 - (base64Digits bytes).length % 4) % 4 = (3 - bytes.length % 3) % 3 := by
  have hlength := length_base64Digits bytes
  obtain h | h | h : bytes.length % 3 = 0 ∨ bytes.length % 3 = 1 ∨ bytes.length % 3 = 2 := by omega
  · simp only [h]
    omega
  · simp only [h]
    omega
  · simp only [h]
    omega

theorem atob_btoa (bytes : Bytes) : atob (btoa bytes) = some bytes := by
  have hclean : (btoa bytes).filter (fun code => decide (¬ IsAsciiWhitespace code)) =
      btoa bytes := by
    refine List.filter_eq_self.mpr fun code hcode => decide_eq_true ?_
    rcases List.mem_append.mp hcode with hdigit | hpad
    · have hbase := base64Digits_isBase64 bytes code hdigit
      rintro hspace
      simp only [IsBase64, IsAlphanumeric, IsDigit, IsAsciiWhitespace] at hbase hspace
      rcases hbase with hbase | rfl | rfl
      · omega
      · exact absurd hspace (by decide)
      · exact absurd hspace (by decide)
    · rw [List.eq_of_mem_replicate hpad]
      decide
  rw [atob, hclean, btoa, dropPadding_append (base64Digits_isBase64 bytes) (by omega)
    (length_padding bytes).1, bytesOfDigits_base64Digits]

/-- A digit in the URL alphabet. -/
def urlDigit (code : CodeUnit) : CodeUnit :=
  if code = unit '+' then unit '-' else if code = unit '/' then unit '_' else code

theorem isUrlDigit_urlDigit {code : CodeUnit} (h : IsBase64 code) : IsUrlDigit (urlDigit code) := by
  rw [urlDigit]
  split_ifs with hplus hslash
  · decide
  · decide
  · rcases h with h | h | h
    · exact .inl h
    · exact absurd h hplus
    · exact absurd h hslash

theorem base64Url_eq (bytes : Bytes) : base64Url bytes = (base64Digits bytes).map urlDigit := by
  have hreplace : ∀ s : Text, replaceUnit (unit '/') (unit '_')
      (replaceUnit (unit '+') (unit '-') s) = s.map urlDigit := by
    intro s
    rw [replaceUnit, replaceUnit, List.map_map]
    refine List.map_congr_left fun code _ => ?_
    simp only [Function.comp_apply, urlDigit]
    split_ifs with hplus hslash
    · exact absurd hslash (by decide)
    · rfl
    · rfl
    · rfl
  have hpadding : ∀ (s : Text) (n : ℕ), (∀ code ∈ s, code ≠ unit '=') →
      (s ++ padding n).rdropWhile (fun code => decide (code = unit '=')) = s := by
    intro s n hs
    induction n with
    | zero =>
      rw [padding, List.replicate_zero, List.append_nil, List.rdropWhile_eq_self_iff]
      intro hne
      simpa using hs _ (List.getLast_mem hne)
    | succ n ih =>
      rw [padding, List.replicate_succ', ← List.append_assoc, List.rdropWhile_concat_pos _ _ _
        (by simp)]
      exact ih
  have hpad : urlDigit (unit '=') = unit '=' := by decide
  rw [base64Url, hreplace, btoa, List.map_append, padding, List.map_replicate, hpad]
  refine hpadding _ _ fun code hcode => ?_
  obtain ⟨code', hcode', rfl⟩ := List.mem_map.mp hcode
  have hurl := isUrlDigit_urlDigit (base64Digits_isBase64 bytes code' hcode')
  rintro heq
  rw [heq] at hurl
  exact absurd hurl (by decide)

theorem base64Url_isUrlDigit (bytes : Bytes) : ∀ code ∈ base64Url bytes, IsUrlDigit code := by
  intro code hcode
  rw [base64Url_eq] at hcode
  obtain ⟨code', hcode', rfl⟩ := List.mem_map.mp hcode
  exact isUrlDigit_urlDigit (base64Digits_isBase64 bytes code' hcode')

theorem length_base64Url (bytes : Bytes) :
    (base64Url bytes).length = (4 * bytes.length + 2) / 3 := by
  rw [base64Url_eq, List.length_map, length_base64Digits]

/-- The unpadded URL form decodes to its bytes. -/
theorem fromBase64_base64Url (bytes : Bytes) : fromBase64 (base64Url bytes) = some bytes := by
  have hback : replaceUnit (unit '_') (unit '/') (replaceUnit (unit '-') (unit '+')
      (base64Url bytes)) = base64Digits bytes := by
    rw [base64Url_eq, replaceUnit, replaceUnit, List.map_map, List.map_map]
    refine (List.map_congr_left fun code hcode => ?_).trans (List.map_id _)
    rcases base64Digits_isBase64 bytes code hcode with halnum | rfl | rfl
    · have hother : ∀ c : CodeUnit, ¬ IsAlphanumeric c → code ≠ c := by
        rintro c hc rfl
        exact hc halnum
      simp only [Function.comp_apply, urlDigit, id_eq, if_neg (hother (unit '+') (by decide)),
        if_neg (hother (unit '/') (by decide)), if_neg (hother (unit '-') (by decide)),
        if_neg (hother (unit '_') (by decide))]
    · decide
    · decide
  rw [fromBase64]
  simp only [hback, (length_padding bytes).2]
  exact atob_btoa bytes

end Quillframe.Js
