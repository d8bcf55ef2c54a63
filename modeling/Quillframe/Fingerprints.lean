import Quillframe.WriterPacks
import Quillframe.Utf8

/-! Fingerprints as texts, and the checkers that four modules of the core have for them. The run
of a checker is absent where its slice panics. -/
namespace Quillframe.Fingerprints

open Utf8

/-! ## The text of a digest -/

/-- `{byte:02x}`. -/
def lowerHex (byte : UInt8) : List Char :=
  List.replicate (2 - (Nat.toDigits 16 byte.toNat).length) '0' ++ Nat.toDigits 16 byte.toNat

def sha256Fingerprint (sha256 : ByteArray → Vector UInt8 32) (bytes : ByteArray) : String :=
  (sha256 bytes).toList.foldl (fun value byte => value ++ String.ofList (lowerHex byte)) "sha256:"

/-- What `sha256Fingerprint` returns for some digests of the bytes. -/
def Producible (value : String) : Prop :=
  ∃ sha256 bytes, sha256Fingerprint sha256 bytes = value

/-! ## The checkers -/

def isAsciiDigit (code : ℕ) : Bool := '0'.toNat ≤ code && code ≤ '9'.toNat

/-- `(b'a'..=b'f').contains(&byte)`. -/
def isLowerLetter (code : ℕ) : Bool := 'a'.toNat ≤ code && code ≤ 'f'.toNat

def isUpperLetter (code : ℕ) : Bool := 'A'.toNat ≤ code && code ≤ 'F'.toNat

/-- `is_ascii_hexdigit` of the code of a character or of a byte. -/
def isAsciiHexdigit (code : ℕ) : Bool :=
  isAsciiDigit code || isLowerLetter code || isUpperLetter code

def allChars (test : ℕ → Bool) (text : List Char) : Bool := text.all fun c => test c.toNat

def allBytes (test : ℕ → Bool) (text : List Char) : Bool :=
  (text.flatMap String.utf8EncodeChar).all fun byte => test byte.toNat

namespace Planning

def isFingerprint (value : String) : Option Bool :=
  pure (byteLength value.toList == 71) <&&> pure (startsWith "sha256:" value) <&&> do
    return allChars isAsciiHexdigit (← sliceFrom value.toList 7)

end Planning

/-- The checkers that return an error, each with its own test of what stands behind byte 7. -/
def requireForm (digits : List Char → Bool) (error : CoreError) (value : String) :
    Option (CoreResult Unit) := do
  let malformed ← pure (byteLength value.toList != 71) <||>
    pure (!startsWith "sha256:" value) <||> do return !digits (← sliceFrom value.toList 7)
  if malformed then
    return .error error
  return .ok ()

namespace Production

def requireFingerprint (value : String) : Option (CoreResult Unit) :=
  requireForm (allChars isAsciiHexdigit) (.invalidProject "fingerprint must be canonical sha256")
    value

end Production

namespace Store

def requireSha256 (value : String) : Option (CoreResult Unit) :=
  requireForm (allBytes isAsciiHexdigit)
    (.authorityConflict "fingerprint must be canonical sha256") value

end Store

namespace Setup

def requireFingerprint (value field : String) : Option (CoreResult Unit) :=
  requireForm (allBytes fun byte => isAsciiDigit byte || isLowerLetter byte)
    (.invalidPlan ("book setup " ++ field ++ " fingerprint must be canonical sha256")) value

end Setup

/-! ## What a checker accepts -/

/-- The prefix and 64 characters behind it, each of which passes a test. -/
def Spelled (test : ℕ → Bool) (value : String) : Prop :=
  ∃ digits, value.toList = "sha256:".toList ++ digits ∧ digits.length = 64 ∧
    ∀ c ∈ digits, test c.toNat = true

theorem startsWith_iff {start value : String} :
    startsWith start value = true ↔ ∃ rest, value.toList = start.toList ++ rest := by
  rw [startsWith, List.isPrefixOf_iff_prefix]
  constructor
  · intro h
    obtain ⟨rest, hrest⟩ := h
    exact ⟨rest, hrest.symm⟩
  · intro h
    obtain ⟨rest, hrest⟩ := h
    exact ⟨rest, hrest.symm⟩

/-- The prefix ends where a character does, so the slice behind it never panics. -/
theorem sliceFrom_prefix {value : String} {rest : List Char}
    (h : value.toList = "sha256:".toList ++ rest) : sliceFrom value.toList 7 = some rest := by
  rw [h]
  exact sliceFrom_byteLength "sha256:".toList rest

section Run

variable {digits : List Char → Bool} {error : CoreError} {value : String}

theorem requireForm_eq {rest : List Char} (hlength : byteLength value.toList = 71)
    (hrest : value.toList = "sha256:".toList ++ rest) :
    requireForm digits error value =
      some (if digits rest = true then .ok () else .error error) := by
  have hstart : startsWith "sha256:" value = true := startsWith_iff.mpr ⟨rest, hrest⟩
  have hslice := sliceFrom_prefix hrest
  cases hdigits : digits rest <;>
    simp [requireForm, orM, toBool, hlength, hstart, hslice, hdigits]

theorem requireForm_eq_error
    (h : ¬ (byteLength value.toList = 71 ∧ startsWith "sha256:" value = true)) :
    requireForm digits error value = some (.error error) := by
  by_cases hlength : byteLength value.toList = 71
  · have hstart : startsWith "sha256:" value = false := by
      simpa [hlength] using h
    simp [requireForm, orM, toBool, hlength, hstart]
  · have hbeq : (byteLength value.toList == 71) = false := beq_false_of_ne hlength
    simp [requireForm, orM, toBool, bne, hbeq]

/-- A checker returns: the slice is made only of a value that starts with the prefix. -/
theorem requireForm_returns : requireForm digits error value = some (.ok ()) ∨
    requireForm digits error value = some (.error error) := by
  by_cases h : byteLength value.toList = 71 ∧ startsWith "sha256:" value = true
  · obtain ⟨rest, hrest⟩ := startsWith_iff.mp h.2
    rw [requireForm_eq h.1 hrest]
    cases digits rest
    · exact Or.inr rfl
    · exact Or.inl rfl
  · exact Or.inr (requireForm_eq_error h)

theorem requireForm_isSome : (requireForm digits error value).isSome = true := by
  have hreturns : requireForm digits error value = some (.ok ()) ∨
      requireForm digits error value = some (.error error) := requireForm_returns
  cases hreturns with
  | inl h =>
    rw [h]
    rfl
  | inr h =>
    rw [h]
    rfl

theorem requireForm_eq_ok : requireForm digits error value = some (.ok ()) ↔
    ∃ rest, value.toList = "sha256:".toList ++ rest ∧ byteLength rest = 64 ∧
      digits rest = true := by
  by_cases h : byteLength value.toList = 71 ∧ startsWith "sha256:" value = true
  · obtain ⟨rest, hrest⟩ := startsWith_iff.mp h.2
    have hlength : byteLength rest = 64 := by
      have hwhole := h.1
      rw [hrest, byteLength_append] at hwhole
      exact Nat.add_left_cancel hwhole
    rw [requireForm_eq h.1 hrest]
    constructor
    · intro hok
      cases hdigits : digits rest
      · simp [hdigits] at hok
      · exact ⟨rest, hrest, hlength, hdigits⟩
    · intro hform
      obtain ⟨other, hother, -, hdigits⟩ := hform
      rw [hrest] at hother
      rw [List.append_cancel_left hother, hdigits]
      rfl
  · rw [requireForm_eq_error h]
    constructor
    · intro hok
      simp at hok
    · intro hform
      obtain ⟨rest, hrest, hlength, -⟩ := hform
      refine absurd ⟨?_, startsWith_iff.mpr ⟨rest, hrest⟩⟩ h
      rw [hrest, byteLength_append, hlength]
      rfl

/-- The checker that returns a truth value runs as the others do. -/
theorem isFingerprint_eq (error : CoreError) (value : String) : Planning.isFingerprint value =
    (requireForm (allChars isAsciiHexdigit) error value).map Except.isOk := by
  by_cases h : byteLength value.toList = 71 ∧ startsWith "sha256:" value = true
  · obtain ⟨rest, hrest⟩ := startsWith_iff.mp h.2
    have hslice := sliceFrom_prefix hrest
    rw [requireForm_eq h.1 hrest]
    cases hdigits : allChars isAsciiHexdigit rest <;>
      simp [Planning.isFingerprint, andM, toBool, h.1, h.2, hslice, hdigits, Except.isOk,
        Except.toBool]
  · rw [requireForm_eq_error h]
    by_cases hlength : byteLength value.toList = 71
    · have hstart : startsWith "sha256:" value = false := by
        simpa [hlength] using h
      simp [Planning.isFingerprint, andM, toBool, hlength, hstart, Except.isOk, Except.toBool]
    · have hbeq : (byteLength value.toList == 71) = false := beq_false_of_ne hlength
      simp [Planning.isFingerprint, andM, toBool, hbeq, Except.isOk, Except.toBool]

end Run

/-! ## Digits as bytes and as characters -/

def isLowerHexdigit (code : ℕ) : Bool := isAsciiDigit code || isLowerLetter code

/-- A test that only codes of ASCII pass. -/
def InAscii (test : ℕ → Bool) : Prop := ∀ code, test code = true → code < 128

theorem isAsciiHexdigit_inAscii : InAscii isAsciiHexdigit := by
  intro code h
  simp [isAsciiHexdigit, isAsciiDigit, isLowerLetter, isUpperLetter] at h
  omega

theorem isLowerHexdigit_inAscii : InAscii isLowerHexdigit := by
  intro code h
  rw [isLowerHexdigit] at h
  exact isAsciiHexdigit_inAscii code (by simp [isAsciiHexdigit, h])

theorem utf8Size_of_inAscii {c : Char} (h : c.toNat < 128) : c.utf8Size = 1 := by
  rw [Char.utf8Size_eq_one_iff, UInt32.le_iff_toNat_le]
  exact Nat.le_of_lt_succ h

theorem byteLength_of_inAscii {text : List Char} (h : ∀ c ∈ text, c.toNat < 128) :
    byteLength text = text.length := by
  induction text with
  | nil => rfl
  | cons c rest ih =>
    have hc : c.toNat < 128 := h c List.mem_cons_self
    have hrest := ih fun d hd => h d (List.mem_cons_of_mem c hd)
    rw [byteLength_cons, utf8Size_of_inAscii hc, hrest, List.length_cons, Nat.add_comm]

section Tests

variable {test : ℕ → Bool}

theorem allBytes_cons (c : Char) (rest : List Char) : allBytes test (c :: rest) =
    ((String.utf8EncodeChar c).all (fun byte => test byte.toNat) && allBytes test rest) := by
  rw [allBytes, List.flatMap_cons, List.all_append]
  rfl

/-- A character outside ASCII has no byte that a test of ASCII codes passes. -/
theorem all_utf8EncodeChar (htest : InAscii test) (c : Char) :
    (String.utf8EncodeChar c).all (fun byte => test byte.toNat) = test c.toNat := by
  by_cases hsmall : c.toNat < 128
  · have hmod : c.toUInt8.toNat = c.toNat % 256 := rfl
    have hbyte : c.toUInt8.toNat = c.toNat := by omega
    rw [String.utf8EncodeChar_eq_singleton (utf8Size_of_inAscii hsmall)]
    simp [hbyte]
  · have hc : test c.toNat = false := by
      cases hc : test c.toNat
      · rfl
      · exact absurd (htest _ hc) hsmall
    rw [hc]
    apply Bool.eq_false_of_not_eq_true
    intro hall
    have hascii : inAscii (String.utf8EncodeChar c) = true := by
      rw [inAscii, List.all_eq_true]
      intro byte hbyte
      simpa using htest _ (List.all_eq_true.mp hall byte hbyte)
    obtain ⟨byte, hbyte, hcode⟩ := utf8EncodeChar_of_inAscii hascii
    simp [hbyte, hcode, hc] at hall

theorem allBytes_eq_allChars (htest : InAscii test) (text : List Char) :
    allBytes test text = allChars test text := by
  induction text with
  | nil => rfl
  | cons c rest ih =>
    rw [allBytes_cons, all_utf8EncodeChar htest, ih]
    rfl

/-- A checker whose digits are in ASCII accepts 64 of them behind the prefix. -/
theorem requireForm_eq_ok_iff_spelled {digits : List Char → Bool} {error : CoreError}
    {value : String} (htest : InAscii test) (hdigits : ∀ text, digits text = allChars test text) :
    requireForm digits error value = some (.ok ()) ↔ Spelled test value := by
  rw [requireForm_eq_ok]
  constructor
  · intro h
    obtain ⟨rest, hrest, hlength, hall⟩ := h
    rw [hdigits, allChars, List.all_eq_true] at hall
    rw [byteLength_of_inAscii fun c hc => htest _ (hall c hc)] at hlength
    exact ⟨rest, hrest, hlength, hall⟩
  · intro h
    obtain ⟨rest, hrest, hlength, hall⟩ := h
    refine ⟨rest, hrest, ?_, ?_⟩
    · rw [byteLength_of_inAscii fun c hc => htest _ (hall c hc), hlength]
    · rw [hdigits, allChars, List.all_eq_true]
      exact hall

end Tests

/-! ## The fingerprints of digests -/

theorem lowerHex_eq (byte : UInt8) :
    lowerHex byte = [Nat.digitChar (byte.toNat / 16), Nat.digitChar (byte.toNat % 16)] := by
  have hbyte := byte.toNat_lt
  by_cases hsmall : byte.toNat < 16
  · rw [lowerHex, Nat.toDigits_of_lt_base hsmall, Nat.div_eq_of_lt hsmall,
      Nat.mod_eq_of_lt hsmall]
    rfl
  · have hdiv : byte.toNat / 16 < 16 := by omega
    rw [lowerHex, Nat.toDigits_of_base_le (by decide) (Nat.le_of_not_lt hsmall),
      Nat.toDigits_of_lt_base hdiv]
    rfl

theorem isLowerHexdigit_digitChar {n : ℕ} (h : n < 16) :
    isLowerHexdigit (Nat.digitChar n).toNat = true := by
  have hall : ∀ n < 16, isLowerHexdigit (Nat.digitChar n).toNat = true := by decide
  exact hall n h

theorem exists_digitChar {c : Char} (h : isLowerHexdigit c.toNat = true) :
    ∃ n < 16, Nat.digitChar n = c := by
  have hall : ∀ code < 128, isLowerHexdigit code = true →
      ∃ n < 16, (Nat.digitChar n).toNat = code := by decide
  obtain ⟨n, hn, hcode⟩ := hall c.toNat (isLowerHexdigit_inAscii _ h) h
  exact ⟨n, hn, Char.toNat_inj.mp hcode⟩

theorem mem_lowerHex {byte : UInt8} {c : Char} (h : c ∈ lowerHex byte) :
    isLowerHexdigit c.toNat = true := by
  have hbyte := byte.toNat_lt
  rw [lowerHex_eq, List.mem_pair] at h
  cases h with
  | inl h =>
    rw [h]
    exact isLowerHexdigit_digitChar (by omega)
  | inr h =>
    rw [h]
    exact isLowerHexdigit_digitChar (by omega)

theorem length_flatMap_lowerHex (bytes : List UInt8) :
    (bytes.flatMap lowerHex).length = 2 * bytes.length := by
  induction bytes with
  | nil => rfl
  | cons byte rest ih =>
    rw [List.flatMap_cons, List.length_append, ih, lowerHex_eq, List.length_cons]
    simp
    omega

/-- Digits in pairs are the text of some bytes. -/
theorem exists_bytes (n : ℕ) {digits : List Char} (hlength : digits.length = 2 * n)
    (hdigits : ∀ c ∈ digits, isLowerHexdigit c.toNat = true) :
    ∃ bytes : List UInt8, bytes.length = n ∧ bytes.flatMap lowerHex = digits := by
  induction n generalizing digits with
  | zero => exact ⟨[], rfl, (List.eq_nil_of_length_eq_zero hlength).symm⟩
  | succ n ih =>
    match digits, hlength, hdigits with
    | [_], hlength, _ =>
      rw [List.length_singleton] at hlength
      omega
    | high :: low :: rest, hlength, hdigits =>
      have hshort : rest.length = 2 * n := by
        rw [List.length_cons, List.length_cons] at hlength
        omega
      obtain ⟨bytes, hbytes, hrest⟩ := ih hshort fun c hc => hdigits c (by simp [hc])
      obtain ⟨h, hh, rfl⟩ := exists_digitChar (hdigits high (by simp))
      obtain ⟨l, hl, rfl⟩ := exists_digitChar (hdigits low (by simp))
      refine ⟨UInt8.ofNat (16 * h + l) :: bytes, by simp [hbytes], ?_⟩
      have hbyte : (UInt8.ofNat (16 * h + l)).toNat = 16 * h + l := by
        simp
        omega
      have hhigh : (16 * h + l) / 16 = h := by omega
      have hlow : (16 * h + l) % 16 = l := by omega
      rw [List.flatMap_cons, lowerHex_eq, hbyte, hhigh, hlow, hrest]
      rfl

theorem toList_foldl_lowerHex (bytes : List UInt8) (value : String) :
    (bytes.foldl (fun value byte => value ++ String.ofList (lowerHex byte)) value).toList =
      value.toList ++ bytes.flatMap lowerHex := by
  induction bytes generalizing value with
  | nil => simp
  | cons byte rest ih => simp [ih]

theorem producible_iff {value : String} : Producible value ↔ Spelled isLowerHexdigit value := by
  constructor
  · intro h
    obtain ⟨sha256, bytes, rfl⟩ := h
    refine ⟨(sha256 bytes).toList.flatMap lowerHex, toList_foldl_lowerHex _ _, ?_, ?_⟩
    · rw [length_flatMap_lowerHex, Vector.length_toList]
    · intro c hc
      obtain ⟨byte, -, hmem⟩ := List.mem_flatMap.mp hc
      exact mem_lowerHex hmem
  · intro h
    obtain ⟨digits, hvalue, hlength, hdigits⟩ := h
    obtain ⟨bytes, hbytes, hflat⟩ := exists_bytes 32 hlength hdigits
    refine ⟨fun _ => ⟨bytes.toArray, by simp [hbytes]⟩, .empty, ?_⟩
    apply String.toList_injective
    rw [hvalue, ← hflat]
    exact toList_foldl_lowerHex bytes "sha256:"

/-! ## Agreement -/

/-- No checker panics on a value. -/
structure CheckersReturn (value : String) : Prop where
  planning : (Planning.isFingerprint value).isSome = true
  production : (Production.requireFingerprint value).isSome = true
  store : (Store.requireSha256 value).isSome = true
  setup (field : String) : (Setup.requireFingerprint value field).isSome = true

/-- Each checker accepts a value if and only if it is the fingerprint of some digest. -/
structure CheckersAgree (value : String) : Prop where
  planning : Planning.isFingerprint value = some true ↔ Producible value
  production : Production.requireFingerprint value = some (.ok ()) ↔ Producible value
  store : Store.requireSha256 value = some (.ok ()) ↔ Producible value
  setup (field : String) :
    Setup.requireFingerprint value field = some (.ok ()) ↔ Producible value

/-- The prefix and 64 hexadecimal digits behind it, one of them an upper-case letter. -/
def UpperSpelled (value : String) : Prop :=
  ∃ digits, value.toList = "sha256:".toList ++ digits ∧ digits.length = 64 ∧
    (∀ c ∈ digits, isAsciiHexdigit c.toNat = true) ∧ ∃ c ∈ digits, isUpperLetter c.toNat = true

namespace Sample

def upper : String := "sha256:AAAAAAAAAAAAAAAAAAAAAAAAAAAAAAAAAAAAAAAAAAAAAAAAAAAAAAAAAAAAAAAA"

def split : String := "sha256éaaaaaaaaaaaaaaaaaaaaaaaaaaaaaaaaaaaaaaaaaaaaaaaaaaaaaaaaaaaaaaa"

end Sample

theorem checkersReturn (value : String) : CheckersReturn value where
  planning := by
    rw [isFingerprint_eq (.invalidPlan "")]
    simp [requireForm_isSome]
  production := requireForm_isSome
  store := requireForm_isSome
  setup _ := requireForm_isSome

/-- Byte 7 is inside a character here, and the prefix is looked for before the slice is made. -/
example : sliceFrom Sample.split.toList 7 = none ∧ byteLength Sample.split.toList = 71 ∧
    Planning.isFingerprint Sample.split = some false := by decide +kernel

section Acceptance

variable {value : String}

theorem production_accepts_iff :
    Production.requireFingerprint value = some (.ok ()) ↔ Spelled isAsciiHexdigit value :=
  requireForm_eq_ok_iff_spelled isAsciiHexdigit_inAscii fun _ => rfl

theorem store_accepts_iff :
    Store.requireSha256 value = some (.ok ()) ↔ Spelled isAsciiHexdigit value :=
  requireForm_eq_ok_iff_spelled isAsciiHexdigit_inAscii
    (allBytes_eq_allChars isAsciiHexdigit_inAscii)

theorem setup_accepts_iff {field : String} :
    Setup.requireFingerprint value field = some (.ok ()) ↔ Spelled isLowerHexdigit value :=
  requireForm_eq_ok_iff_spelled isLowerHexdigit_inAscii
    (allBytes_eq_allChars isLowerHexdigit_inAscii)

theorem planning_accepts_iff :
    Planning.isFingerprint value = some true ↔ Spelled isAsciiHexdigit value := by
  rw [← production_accepts_iff, isFingerprint_eq, Production.requireFingerprint]
  cases requireForm (allChars isAsciiHexdigit) _ value with
  | none => simp
  | some result => cases result <;> simp [Except.isOk, Except.toBool]

theorem not_upperSpelled (h : Spelled isLowerHexdigit value) : ¬ UpperSpelled value := by
  intro hupper
  obtain ⟨digits, hvalue, -, hdigits⟩ := h
  obtain ⟨other, hother, -, -, c, hc, hletter⟩ := hupper
  rw [hvalue] at hother
  rw [← List.append_cancel_left hother] at hc
  have hlower := hdigits c hc
  simp [isLowerHexdigit, isAsciiDigit, isLowerLetter, isUpperLetter] at hlower hletter
  omega

/-- A text with hexadecimal digits has an upper-case letter among them or is a fingerprint. -/
theorem spelled_or_upperSpelled (h : Spelled isAsciiHexdigit value) :
    Spelled isLowerHexdigit value ∨ UpperSpelled value := by
  obtain ⟨digits, hvalue, hlength, hdigits⟩ := h
  by_cases hupper : ∃ c ∈ digits, isUpperLetter c.toNat = true
  · exact Or.inr ⟨digits, hvalue, hlength, hdigits, hupper⟩
  · refine Or.inl ⟨digits, hvalue, hlength, fun c hc => ?_⟩
    have hletter : ¬ isUpperLetter c.toNat = true := fun h => hupper ⟨c, hc, h⟩
    have hdigit := hdigits c hc
    simp only [isAsciiHexdigit, hletter, Bool.or_false] at hdigit
    exact hdigit

theorem spelled_of_lower (h : Spelled isLowerHexdigit value) : Spelled isAsciiHexdigit value := by
  obtain ⟨digits, hvalue, hlength, hdigits⟩ := h
  refine ⟨digits, hvalue, hlength, fun c hc => ?_⟩
  have hlower := hdigits c hc
  rw [isLowerHexdigit] at hlower
  simp [isAsciiHexdigit, hlower]

theorem spelled_iff_lower (hupper : ¬ UpperSpelled value) :
    Spelled isAsciiHexdigit value ↔ Spelled isLowerHexdigit value := by
  constructor
  · intro h
    exact (spelled_or_upperSpelled h).resolve_right hupper
  · exact spelled_of_lower

end Acceptance

theorem checkersAgree_iff (value : String) :
    CheckersReturn value ∧ (CheckersAgree value ↔ ¬ UpperSpelled value) := by
  refine ⟨checkersReturn value, ?_⟩
  constructor
  · intro hagree hupper
    obtain ⟨digits, hvalue, hlength, hdigits, -⟩ := id hupper
    have haccepted : Planning.isFingerprint value = some true :=
      planning_accepts_iff.mpr ⟨digits, hvalue, hlength, hdigits⟩
    have hlower := producible_iff.mp (hagree.planning.mp haccepted)
    exact not_upperSpelled hlower hupper
  · intro hupper
    have hiff := (spelled_iff_lower hupper).trans producible_iff.symm
    exact {
      planning := planning_accepts_iff.trans hiff
      production := production_accepts_iff.trans hiff
      store := store_accepts_iff.trans hiff
      setup := fun _ => setup_accepts_iff.trans producible_iff.symm }

theorem upper_disagrees : Planning.isFingerprint Sample.upper = some true ∧
    Setup.requireFingerprint Sample.upper "source evidence content" = some (.error (.invalidPlan
      "book setup source evidence content fingerprint must be canonical sha256")) ∧
    ¬ CheckersAgree Sample.upper := by
  have hruns : Planning.isFingerprint Sample.upper = some true ∧
      Setup.requireFingerprint Sample.upper "source evidence content" = some (.error (.invalidPlan
        "book setup source evidence content fingerprint must be canonical sha256")) := by
    decide +kernel
  obtain ⟨hplanning, hsetup⟩ := hruns
  refine ⟨hplanning, hsetup, fun hagree => ?_⟩
  have haccepted := (hagree.setup "source evidence content").mpr (hagree.planning.mp hplanning)
  rw [hsetup] at haccepted
  cases haccepted

/-! ## Texts as the fingerprints of documents -/

instance : FingerprintText String where
  canonical value := (Planning.isFingerprint value).getD false

/-- On texts, the check of a Writer Pack's fingerprints is the one of `production.rs`. -/
theorem production_requireFingerprint (value : String) :
    Production.requireFingerprint value = some (Quillframe.requireFingerprint value) := by
  have hcanonical := isFingerprint_eq
    (.invalidProject "fingerprint must be canonical sha256") value
  rw [Production.requireFingerprint, Quillframe.requireFingerprint]
  cases requireForm_returns with
  | inl h =>
    rw [h] at hcanonical ⊢
    simp [FingerprintText.canonical, hcanonical, Except.isOk, Except.toBool, require]
  | inr h =>
    rw [h] at hcanonical ⊢
    simp [FingerprintText.canonical, hcanonical, Except.isOk, Except.toBool, require]

end Quillframe.Fingerprints
