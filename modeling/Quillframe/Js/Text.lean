import Mathlib.Tactic

/-!
# JavaScript strings

A string is a list of UTF-16 code units. The two codecs of the platform go between such lists,
characters and UTF-8: the encoder replaces every lone surrogate, the fatal decoder refuses bytes
that are not UTF-8 and drops a byte order mark.
-/
namespace Quillframe.Js

abbrev CodeUnit := Fin 0x10000

abbrev Text := List CodeUnit

abbrev Bytes := List UInt8

/-- The code unit of a character of the basic plane. -/
def unit (c : Char) : CodeUnit := ⟨c.toNat % 0x10000, Nat.mod_lt _ (by decide)⟩

/-- A literal of the program. -/
def text (s : String) : Text := s.toList.map unit

@[grind =] def IsHigh (code : CodeUnit) : Prop := 0xd800 ≤ code.val ∧ code.val ≤ 0xdbff

@[grind =] def IsLow (code : CodeUnit) : Prop := 0xdc00 ≤ code.val ∧ code.val ≤ 0xdfff

instance : DecidablePred IsHigh := fun _ => inferInstanceAs (Decidable (_ ∧ _))

instance : DecidablePred IsLow := fun _ => inferInstanceAs (Decidable (_ ∧ _))

def hasLoneSurrogate : Text → Bool
  | [] => false
  | code :: rest =>
    if IsHigh code then
      match rest with
      | [] => true
      | next :: rest => if IsLow next then hasLoneSurrogate rest else true
    else if IsLow code then true
    else hasLoneSurrogate rest

/-! ## Characters -/

def highOf (c : Char) : CodeUnit :=
  ⟨(0xd800 + (c.toNat - 0x10000) / 0x400) % 0x10000, Nat.mod_lt _ (by decide)⟩

def lowOf (c : Char) : CodeUnit :=
  ⟨(0xdc00 + (c.toNat - 0x10000) % 0x400) % 0x10000, Nat.mod_lt _ (by decide)⟩

@[grind =] def unitsOfChar (c : Char) : Text :=
  if h : c.toNat < 0x10000 then [⟨c.toNat, h⟩] else [highOf c, lowOf c]

@[grind =] def ofChars (cs : List Char) : Text := cs.flatMap unitsOfChar

def replacement : Char := Char.ofNat 0xfffd

def charOfPair (high low : CodeUnit) : Char :=
  Char.ofNat (0x10000 + (high.val - 0xd800) * 0x400 + (low.val - 0xdc00))

/-- The characters of a string, a lone surrogate replaced. -/
@[grind =] def toChars : Text → List Char
  | [] => []
  | code :: rest =>
    if IsHigh code then
      match rest with
      | [] => [replacement]
      | next :: rest =>
        if IsLow next then charOfPair code next :: toChars rest
        else replacement :: toChars (next :: rest)
    else if IsLow code then replacement :: toChars rest
    else Char.ofNat code.val :: toChars rest

theorem toNat_ofNat {n : ℕ} (h : n.isValidChar) : (Char.ofNat n).toNat = n := by
  rw [Char.ofNat, dif_pos h]
  rfl

theorem isValidChar_toNat (c : Char) : c.toNat.isValidChar := c.valid

@[simp] theorem ofChars_nil : ofChars [] = [] := rfl

@[simp] theorem ofChars_cons (c : Char) (cs : List Char) :
    ofChars (c :: cs) = unitsOfChar c ++ ofChars cs := by simp [ofChars]

@[simp] theorem ofChars_append (cs ds : List Char) :
    ofChars (cs ++ ds) = ofChars cs ++ ofChars ds := by simp [ofChars]

section Cases

variable {code next : CodeUnit} {rest : Text}

theorem toChars_plain (hh : ¬ IsHigh code) (hl : ¬ IsLow code) :
    toChars (code :: rest) = Char.ofNat code.val :: toChars rest := by
  rw [toChars.eq_def]
  simp [hh, hl]

theorem toChars_pair (hh : IsHigh code) (hl : IsLow next) :
    toChars (code :: next :: rest) = charOfPair code next :: toChars rest := by
  rw [toChars.eq_def]
  simp [hh, hl]

theorem toChars_high (hh : IsHigh code) (hl : ¬ IsLow next) :
    toChars (code :: next :: rest) = replacement :: toChars (next :: rest) := by
  rw [toChars.eq_def]
  simp [hh, hl]

theorem toChars_low (hh : ¬ IsHigh code) (hl : IsLow code) :
    toChars (code :: rest) = replacement :: toChars rest := by
  rw [toChars.eq_def]
  simp [hh, hl]

theorem hasLoneSurrogate_plain (hh : ¬ IsHigh code) (hl : ¬ IsLow code) :
    hasLoneSurrogate (code :: rest) = hasLoneSurrogate rest := by
  rw [hasLoneSurrogate.eq_def]
  simp [hh, hl]

theorem hasLoneSurrogate_pair (hh : IsHigh code) (hl : IsLow next) :
    hasLoneSurrogate (code :: next :: rest) = hasLoneSurrogate rest := by
  rw [hasLoneSurrogate.eq_def]
  simp [hh, hl]

end Cases

theorem not_surrogate (c : Char) (h : c.toNat < 0x10000) :
    ¬ IsHigh ⟨c.toNat, h⟩ ∧ ¬ IsLow ⟨c.toNat, h⟩ := by
  have hvalid := isValidChar_toNat c
  simp only [Nat.isValidChar] at hvalid
  simp only [IsHigh, IsLow]
  omega

theorem surrogates (c : Char) (h : ¬ c.toNat < 0x10000) : IsHigh (highOf c) ∧ IsLow (lowOf c) := by
  have hvalid := isValidChar_toNat c
  simp only [Nat.isValidChar] at hvalid
  simp only [IsHigh, IsLow, highOf, lowOf]
  omega

theorem charOfPair_surrogates (c : Char) (h : ¬ c.toNat < 0x10000) :
    charOfPair (highOf c) (lowOf c) = c := by
  have hvalid := isValidChar_toNat c
  simp only [Nat.isValidChar] at hvalid
  have hsum : 0x10000 + ((highOf c).val - 0xd800) * 0x400 + ((lowOf c).val - 0xdc00) =
      c.toNat := by
    simp only [highOf, lowOf]
    omega
  rw [charOfPair, hsum, Char.ofNat_toNat]

theorem toChars_unitsOfChar (c : Char) (s : Text) :
    toChars (unitsOfChar c ++ s) = c :: toChars s := by
  by_cases h : c.toNat < 0x10000
  · obtain ⟨hh, hl⟩ := not_surrogate c h
    rw [unitsOfChar, dif_pos h, List.cons_append, List.nil_append, toChars_plain hh hl,
      Char.ofNat_toNat]
  · obtain ⟨hh, hl⟩ := surrogates c h
    rw [unitsOfChar, dif_neg h, List.cons_append, List.cons_append, List.nil_append,
      toChars_pair hh hl, charOfPair_surrogates c h]

theorem toChars_ofChars (cs : List Char) : toChars (ofChars cs) = cs := by
  induction cs with
  | nil => rfl
  | cons c cs ih => rw [ofChars_cons, toChars_unitsOfChar, ih]

theorem unitsOfChar_charOfPair {high low : CodeUnit} (hh : IsHigh high) (hl : IsLow low) :
    unitsOfChar (charOfPair high low) = [high, low] := by
  simp only [IsHigh, IsLow] at hh hl
  have hvalid : (0x10000 + (high.val - 0xd800) * 0x400 + (low.val - 0xdc00)).isValidChar := by
    simp only [Nat.isValidChar]; omega
  have hnat : (charOfPair high low).toNat =
      0x10000 + (high.val - 0xd800) * 0x400 + (low.val - 0xdc00) := toNat_ofNat hvalid
  rw [unitsOfChar, dif_neg (by omega)]
  simp only [highOf, lowOf, hnat, List.cons.injEq, Fin.ext_iff, and_true]
  omega

theorem unitsOfChar_ofNat {code : CodeUnit} (hh : ¬ IsHigh code) (hl : ¬ IsLow code) :
    unitsOfChar (Char.ofNat code.val) = [code] := by
  simp only [IsHigh, IsLow] at hh hl
  have hvalid : code.val.isValidChar := by
    have := code.isLt
    simp only [Nat.isValidChar]; omega
  simp [unitsOfChar, toNat_ofNat hvalid, code.isLt]

theorem ofChars_toChars {s : Text} (h : hasLoneSurrogate s = false) :
    ofChars (toChars s) = s := by
  fun_induction hasLoneSurrogate s with
  | case1 => rfl
  | case2 code hh => simp at h
  | case3 code hh next rest hl ih =>
    rw [toChars_pair hh hl, ofChars_cons, unitsOfChar_charOfPair hh hl, ih h]
    rfl
  | case4 code hh next rest hl => simp at h
  | case5 code rest hh hl => simp at h
  | case6 code rest hh hl ih =>
    rw [toChars_plain hh hl, ofChars_cons, unitsOfChar_ofNat hh hl, ih h]
    rfl

theorem hasLoneSurrogate_unitsOfChar (c : Char) (s : Text) :
    hasLoneSurrogate (unitsOfChar c ++ s) = hasLoneSurrogate s := by
  by_cases h : c.toNat < 0x10000
  · obtain ⟨hh, hl⟩ := not_surrogate c h
    rw [unitsOfChar, dif_pos h, List.cons_append, List.nil_append, hasLoneSurrogate_plain hh hl]
  · obtain ⟨hh, hl⟩ := surrogates c h
    rw [unitsOfChar, dif_neg h, List.cons_append, List.cons_append, List.nil_append,
      hasLoneSurrogate_pair hh hl]

theorem hasLoneSurrogate_ofChars (cs : List Char) : hasLoneSurrogate (ofChars cs) = false := by
  induction cs with
  | nil => rfl
  | cons c cs ih => rw [ofChars_cons, hasLoneSurrogate_unitsOfChar, ih]

/-- The strings without a lone surrogate are those made of characters. -/
theorem hasLoneSurrogate_eq_false_iff {s : Text} :
    hasLoneSurrogate s = false ↔ ∃ cs, s = ofChars cs :=
  ⟨fun h => ⟨_, (ofChars_toChars h).symm⟩, fun ⟨cs, h⟩ => h ▸ hasLoneSurrogate_ofChars cs⟩

theorem hasLoneSurrogate_append {s t : Text} (hs : hasLoneSurrogate s = false)
    (ht : hasLoneSurrogate t = false) : hasLoneSurrogate (s ++ t) = false := by
  obtain ⟨cs, rfl⟩ := hasLoneSurrogate_eq_false_iff.mp hs
  obtain ⟨ds, rfl⟩ := hasLoneSurrogate_eq_false_iff.mp ht
  rw [← ofChars_append]
  exact hasLoneSurrogate_ofChars _

/-! ## ASCII -/

def Ascii (s : Text) : Prop := ∀ code ∈ s, code.val < 0x80

instance : DecidablePred Ascii := fun s =>
  List.decidableBAll (fun code : CodeUnit => code.val < 0x80) s

theorem ascii_cons {code : CodeUnit} {s : Text} :
    Ascii (code :: s) ↔ code.val < 0x80 ∧ Ascii s := List.forall_mem_cons

theorem ascii_append {s t : Text} : Ascii (s ++ t) ↔ Ascii s ∧ Ascii t :=
  List.forall_mem_append

theorem hasLoneSurrogate_of_ascii {s : Text} (h : Ascii s) : hasLoneSurrogate s = false := by
  induction s with
  | nil => rfl
  | cons code rest ih =>
    have hcode : code.val < 0x80 := h code List.mem_cons_self
    have hhigh : ¬ IsHigh code := by simp only [IsHigh]; omega
    have hlow : ¬ IsLow code := by simp only [IsLow]; omega
    rw [hasLoneSurrogate_plain hhigh hlow]
    exact ih fun c hc => h c (List.mem_cons_of_mem _ hc)

/-! ## UTF-8 -/

def encodeUtf8 (cs : List Char) : Bytes := cs.flatMap String.utf8EncodeChar

/-- What a `TextEncoder` makes of a string. -/
@[grind =] def encode (s : Text) : Bytes := encodeUtf8 (toChars s)

def dropByteOrderMark : List Char → List Char
  | c :: cs => if c.toNat = 0xfeff then cs else c :: cs
  | [] => []

/-- What a fatal `TextDecoder` makes of bytes. -/
def decode (bytes : Bytes) : Option Text :=
  (bytes.toByteArray.utf8Decode?).map fun cs => ofChars (dropByteOrderMark cs.toList)

theorem utf8Decode?_encodeUtf8 (cs : List Char) :
    (encodeUtf8 cs).toByteArray.utf8Decode? = some cs.toArray :=
  List.utf8Decode?_utf8Encode

/-- The decoder gives back a string that the encoder did not change. -/
theorem decode_encode {code : CodeUnit} {rest : Text}
    (hs : hasLoneSurrogate (code :: rest) = false) (hcode : code.val < 0x80) :
    decode (encode (code :: rest)) = some (code :: rest) := by
  have hhigh : ¬ IsHigh code := by simp only [IsHigh]; omega
  have hlow : ¬ IsLow code := by simp only [IsLow]; omega
  have hvalid : code.val.isValidChar := by simp only [Nat.isValidChar]; omega
  have hmark : dropByteOrderMark (toChars (code :: rest)) = toChars (code :: rest) := by
    rw [toChars_plain hhigh hlow, dropByteOrderMark, toNat_ofNat hvalid, if_neg (by omega)]
  rw [decode, encode, utf8Decode?_encodeUtf8, Option.map_some, hmark, ofChars_toChars hs]

@[simp] theorem encodeUtf8_cons (c : Char) (cs : List Char) :
    encodeUtf8 (c :: cs) = String.utf8EncodeChar c ++ encodeUtf8 cs := by simp [encodeUtf8]

theorem length_encode_of_ascii {s : Text} (h : Ascii s) : (encode s).length = s.length := by
  induction s with
  | nil => rfl
  | cons code rest ih =>
    have hcode : code.val < 0x80 := h code List.mem_cons_self
    have hhigh : ¬ IsHigh code := by simp only [IsHigh]; omega
    have hlow : ¬ IsLow code := by simp only [IsLow]; omega
    have hnat : (Char.ofNat code.val).toNat = code.val :=
      toNat_ofNat (by simp only [Nat.isValidChar]; omega)
    have hsmall : (Char.ofNat code.val).val ≤ 0x7f := by
      rw [UInt32.le_iff_toNat_le]
      change (Char.ofNat code.val).toNat ≤ 0x7f
      omega
    have hsize : (Char.ofNat code.val).utf8Size = 1 := if_pos hsmall
    have hrest := ih fun c hc => h c (List.mem_cons_of_mem _ hc)
    rw [encode, toChars_plain hhigh hlow, encodeUtf8_cons, List.length_append,
      String.length_utf8EncodeChar, hsize, List.length_cons, ← hrest, encode, Nat.add_comm]

theorem utf8Size_ofNat_le (code : CodeUnit) : (Char.ofNat code.val).utf8Size ≤ 3 := by
  by_cases hvalid : code.val.isValidChar
  · have hnat := toNat_ofNat hvalid
    have hsize : (Char.ofNat code.val).val.toNat < 0x10000 := by
      change (Char.ofNat code.val).toNat < 0x10000
      rw [hnat]
      exact code.isLt
    simp only [Char.utf8Size]
    split_ifs <;> simp_all [UInt32.le_iff_toNat_le]
    omega
  · rw [Char.ofNat, dif_neg hvalid]
    decide

theorem length_encode_le (s : Text) : (encode s).length ≤ 3 * s.length := by
  have hreplaced : (String.utf8EncodeChar replacement).length = 3 := by decide
  fun_induction toChars s with
  | case1 => simp [encode, toChars, encodeUtf8]
  | case2 code hh => simp [encode, toChars, hh, encodeUtf8, hreplaced]
  | case3 code hh next rest hl ih =>
    have hsize := (charOfPair code next).utf8Size_le_four
    rw [encode, toChars_pair hh hl, encodeUtf8_cons, List.length_append,
      String.length_utf8EncodeChar]
    simp only [encode, List.length_cons] at ih ⊢
    omega
  | case4 code hh next rest hl ih =>
    rw [encode, toChars_high hh hl, encodeUtf8_cons, List.length_append, hreplaced]
    simp only [encode, List.length_cons] at ih ⊢
    omega
  | case5 code rest hh hl ih =>
    rw [encode, toChars_low hh hl, encodeUtf8_cons, List.length_append, hreplaced]
    simp only [encode, List.length_cons] at ih ⊢
    omega
  | case6 code rest hh hl ih =>
    have hsize := utf8Size_ofNat_le code
    rw [encode, toChars_plain hh hl, encodeUtf8_cons, List.length_append,
      String.length_utf8EncodeChar]
    simp only [encode, List.length_cons] at ih ⊢
    omega

end Quillframe.Js
