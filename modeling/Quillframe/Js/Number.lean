import Quillframe.Js.Text
import Mathlib.Data.Int.Log

/-!
# JavaScript numbers

A number is kept by its value, the negative zero apart. A literal is read exactly and then rounded
to the nearest double, ties to even.
-/
namespace Quillframe.Js

inductive Number where
  /-- Every finite number but the negative zero. -/
  | finite (value : ℚ)
  | negativeZero
  | infinite (negative : Bool)
  | nan
  deriving DecidableEq

namespace Number

def isFinite : Number → Bool
  | finite _ | negativeZero => true
  | _ => false

def isSafeInteger : Number → Bool
  | finite value => value.den = 1 ∧ value.num.natAbs ≤ 2 ^ 53 - 1
  | negativeZero => true
  | _ => false

/-- The value in arithmetic, which does not tell the two zeros apart. -/
def value : Number → ℚ
  | finite value => value
  | _ => 0

/-- The number with its zero unsigned. -/
def unsigned : Number → Number
  | negativeZero => finite 0
  | x => x

@[simp] theorem unsigned_finite (q : ℚ) : (finite q).unsigned = finite q := rfl

@[simp] theorem unsigned_negativeZero : negativeZero.unsigned = finite 0 := rfl

def nearestEven (q : ℚ) : ℤ :=
  if q - ⌊q⌋ < 1 / 2 ∨ (q - ⌊q⌋ = 1 / 2 ∧ ⌊q⌋ % 2 = 0) then ⌊q⌋ else ⌊q⌋ + 1

/-- The double nearest to a value that is not negative. -/
def round (q : ℚ) : Number :=
  -- 53 bits, fewer for a subnormal number
  let exponent := max (Int.log 2 q - 52) (-1074)
  let rounded := nearestEven (q / 2 ^ exponent) * (2 : ℚ) ^ exponent
  if 2 ^ 1024 ≤ rounded then infinite false else finite rounded

def neg : Number → Number
  | finite value => if value = 0 then negativeZero else finite (-value)
  | negativeZero => finite 0
  | infinite negative => infinite !negative
  | nan => nan

theorem nearestEven_natCast (n : ℕ) : nearestEven n = n := by
  simp [nearestEven]

/-- A natural number of at most 53 bits is a double. -/
theorem round_natCast {n : ℕ} (h : n < 2 ^ 53) : round n = finite n := by
  obtain ⟨k, hk⟩ : ∃ k : ℕ, max ((Nat.log 2 n : ℤ) - 52) (-1074) = -k := by
    have hlog : Nat.log 2 n < 53 := by
      by_cases hn : n = 0
      · simp [hn]
      · exact Nat.log_lt_of_lt_pow hn h
    exact ⟨(max ((Nat.log 2 n : ℤ) - 52) (-1074)).natAbs, by omega⟩
  have hscaled : (n : ℚ) / 2 ^ (-(k : ℤ)) = ((n * 2 ^ k : ℕ) : ℚ) := by
    push_cast
    rw [zpow_neg, div_inv_eq_mul, zpow_natCast]
  have hback : ((n * 2 ^ k : ℕ) : ℚ) * 2 ^ (-(k : ℤ)) = n := by
    push_cast
    rw [zpow_neg, zpow_natCast, mul_assoc, mul_inv_cancel₀ (by positivity), mul_one]
  have hsmall : ¬ (2 : ℚ) ^ 1024 ≤ n := by
    have h53 : (n : ℚ) < 2 ^ 53 := by exact_mod_cast h
    have hpow : (2 : ℚ) ^ 53 ≤ 2 ^ 1024 := pow_le_pow_right₀ (by norm_num) (by norm_num)
    exact not_le.mpr (h53.trans_le hpow)
  simp only [round, Int.log_natCast, hk, hscaled, nearestEven_natCast, Int.cast_natCast, hback,
    if_neg hsmall]

end Number

/-! ## Digits -/

def IsDigit (code : CodeUnit) : Prop := 0x30 ≤ code.val ∧ code.val ≤ 0x39

instance : DecidablePred IsDigit := fun _ => inferInstanceAs (Decidable (_ ∧ _))

def digit (n : ℕ) : CodeUnit := ⟨(0x30 + n) % 0x10000, Nat.mod_lt _ (by decide)⟩

@[grind =] def natText (n : ℕ) : Text :=
  if n = 0 then [unit '0'] else (Nat.digits 10 n).reverse.map digit

def natOfDigits (digits : Text) : ℕ := digits.foldl (fun n code => 10 * n + (code.val - 0x30)) 0

def spanDigits (s : Text) : Text × Text := s.span fun code => decide (IsDigit code)

theorem digit_isDigit {n : ℕ} (h : n < 10) : IsDigit (digit n) := by
  simp only [IsDigit, digit]
  omega

theorem digits_isDigit (n : ℕ) : ∀ code ∈ natText n, IsDigit code := by
  intro code hcode
  rw [natText] at hcode
  split_ifs at hcode with hn
  · simp only [List.mem_singleton] at hcode
    subst hcode
    decide
  · simp only [List.mem_map, List.mem_reverse] at hcode
    obtain ⟨d, hd, rfl⟩ := hcode
    exact digit_isDigit (Nat.digits_lt_base (by decide) hd)

theorem natText_ne_nil (n : ℕ) : natText n ≠ [] := by
  rw [natText]
  split_ifs with hn <;> simp [hn, Nat.digits_eq_nil_iff_eq_zero]

theorem foldl_digits (ds : List ℕ) (h : ∀ d ∈ ds, d < 10) :
    natOfDigits (ds.reverse.map digit) = Nat.ofDigits 10 ds := by
  induction ds with
  | nil => rfl
  | cons d ds ih =>
    have hd : (digit d).val - 0x30 = d := by
      have := h d List.mem_cons_self
      simp only [digit]
      omega
    have hrest := ih fun e he => h e (List.mem_cons_of_mem _ he)
    simp only [natOfDigits, List.reverse_cons, List.map_append, List.foldl_append, List.map_cons,
      List.map_nil, List.foldl_cons, List.foldl_nil, hd, Nat.ofDigits_cons] at hrest ⊢
    rw [hrest]
    ring

/-- The digits that are printed read back. -/
theorem natOfDigits_natText (n : ℕ) : natOfDigits (natText n) = n := by
  rw [natText]
  split_ifs with hn
  · subst hn
    rfl
  · rw [foldl_digits _ fun d hd => Nat.digits_lt_base (by decide) hd, Nat.ofDigits_digits]

theorem spanDigits_append {digits rest : Text} (hdigits : ∀ code ∈ digits, IsDigit code)
    (hrest : ∀ code ∈ rest.head?, ¬ IsDigit code) :
    spanDigits (digits ++ rest) = (digits, rest) := by
  rw [spanDigits, List.span_eq_takeWhile_dropWhile]
  have htake : rest.takeWhile (fun code => decide (IsDigit code)) = [] := by
    cases rest with
    | nil => rfl
    | cons code rest => simp [hrest code rfl]
  have hdrop : rest.dropWhile (fun code => decide (IsDigit code)) = rest := by
    cases rest with
    | nil => rfl
    | cons code rest => simp [hrest code rfl]
  have hall : ∀ code ∈ digits, decide (IsDigit code) = true := by simpa using hdigits
  rw [List.takeWhile_append_of_pos hall, List.dropWhile_append_of_pos hall, htake, hdrop,
    List.append_nil]

/-! ## Literals -/

/-- The parts of a number literal of JSON. -/
structure Literal where
  negative : Bool
  digits : Text
  fraction : Text
  exponentNegative : Bool
  exponent : Text

namespace Literal

def exact (literal : Literal) : ℚ :=
  let power : ℤ := natOfDigits literal.exponent
  natOfDigits (literal.digits ++ literal.fraction) *
    (10 : ℚ) ^ ((if literal.exponentNegative then -power else power) - literal.fraction.length)

/-- `Number(text)` of the literal. -/
def toNumber (literal : Literal) : Number :=
  if literal.negative then (Number.round literal.exact).neg else Number.round literal.exact

end Literal

/-- `-?` -/
@[grind =] def scanSign : Text → Bool × Text
  | code :: rest => if code = unit '-' then (true, rest) else (false, code :: rest)
  | [] => (false, [])

/-- `(?:0|[1-9][0-9]*)` -/
@[grind =] def scanInteger : Text → Option (Text × Text)
  | code :: rest =>
    if code = unit '0' then some ([code], rest)
    else if IsDigit code then some (spanDigits (code :: rest))
    else none
  | [] => none

/-- `(?:\.[0-9]+)?` -/
def scanFraction : Text → Text × Text
  | code :: rest =>
    if code = unit '.' ∧ (spanDigits rest).1 ≠ [] then spanDigits rest else ([], code :: rest)
  | [] => ([], [])

/-- `[+-]?` -/
def scanExponentSign : Text → Bool × Text
  | code :: rest =>
    if code = unit '-' then (true, rest)
    else if code = unit '+' then (false, rest)
    else (false, code :: rest)
  | [] => (false, [])

/-- `(?:[eE][+-]?[0-9]+)?` -/
def scanExponent : Text → (Bool × Text) × Text
  | code :: rest =>
    if (code = unit 'e' ∨ code = unit 'E') ∧ (spanDigits (scanExponentSign rest).2).1 ≠ [] then
      (((scanExponentSign rest).1, (spanDigits (scanExponentSign rest).2).1),
        (spanDigits (scanExponentSign rest).2).2)
    else ((false, []), code :: rest)
  | [] => ((false, []), [])

/-- The longest number literal at the front of a text. -/
def scanNumber (s : Text) : Option (Literal × Text) :=
  (scanInteger (scanSign s).2).map fun (digits, rest) =>
    (⟨(scanSign s).1, digits, (scanFraction rest).1, (scanExponent (scanFraction rest).2).1.1,
      (scanExponent (scanFraction rest).2).1.2⟩, (scanExponent (scanFraction rest).2).2)

/-- What `JSON.stringify` prints for a number: for a safe integer its digits, for a number that is
not finite `null`. -/
def stringifyNumber : Number → Text
  | .finite value =>
    if value < 0 then unit '-' :: natText value.num.natAbs else natText value.num.natAbs
  | .negativeZero => natText 0
  | .infinite _ | .nan => text "null"

theorem length_spanDigits_le (s : Text) : (spanDigits s).2.length ≤ s.length := by
  rw [spanDigits, List.span_eq_takeWhile_dropWhile]
  exact (List.dropWhile_sublist _).length_le

theorem length_scanInteger {s digits rest : Text} (h : scanInteger s = some (digits, rest)) :
    rest.length < s.length := by
  cases s with
  | nil => simp [scanInteger] at h
  | cons code tail =>
    rw [scanInteger] at h
    split_ifs at h with hzero hdigit
    · simp only [Option.some.injEq, Prod.mk.injEq] at h
      simp [← h.2]
    · have hspan : (spanDigits (code :: tail)).2 = (spanDigits tail).2 := by
        simp [spanDigits, List.span_eq_takeWhile_dropWhile, hdigit]
      rw [Option.some.injEq] at h
      have := length_spanDigits_le tail
      rw [← hspan, h] at this
      exact Nat.lt_succ_of_le this

theorem length_scanFraction_le (s : Text) : (scanFraction s).2.length ≤ s.length := by
  cases s with
  | nil => simp [scanFraction]
  | cons code tail =>
    have := length_spanDigits_le tail
    rw [scanFraction]
    split_ifs <;> simp only [List.length_cons] <;> omega

theorem length_scanSign_le (s : Text) : (scanSign s).2.length ≤ s.length := by
  cases s with
  | nil => simp [scanSign]
  | cons code tail => rw [scanSign]; split_ifs <;> simp

theorem length_scanExponent_le (s : Text) : (scanExponent s).2.length ≤ s.length := by
  cases s with
  | nil => simp [scanExponent]
  | cons code tail =>
    have hsign : (scanExponentSign tail).2.length ≤ tail.length := by
      cases tail with
      | nil => simp [scanExponentSign]
      | cons code tail => rw [scanExponentSign]; split_ifs <;> simp
    have := length_spanDigits_le (scanExponentSign tail).2
    rw [scanExponent]
    split_ifs <;> simp only [List.length_cons] <;> omega

/-- A literal that is read is not empty. -/
theorem length_scanNumber {s rest : Text} {literal : Literal}
    (h : scanNumber s = some (literal, rest)) : rest.length < s.length := by
  obtain ⟨⟨digits, tail⟩, hinteger, heq⟩ := Option.map_eq_some_iff.mp h
  have hsign := length_scanSign_le s
  have hdigits := length_scanInteger hinteger
  have hfraction := length_scanFraction_le tail
  have hexponent := length_scanExponent_le (scanFraction tail).2
  rw [← (Prod.mk.inj heq).2]
  omega

/-- A text that cannot continue a number literal. -/
def EndsNumber (rest : Text) : Prop :=
  ∀ code ∈ rest.head?, ¬ IsDigit code ∧ code ≠ unit '.' ∧ code ≠ unit 'e' ∧ code ≠ unit 'E'

theorem scanInteger_natText (n : ℕ) {rest : Text} (hrest : EndsNumber rest) :
    scanInteger (natText n ++ rest) = some (natText n, rest) := by
  have hspan := spanDigits_append (digits_isDigit n) fun code hcode => (hrest code hcode).1
  by_cases hn : n = 0
  · subst hn
    simp [natText, scanInteger]
  · cases hcodes : natText n with
    | nil => exact absurd hcodes (natText_ne_nil n)
    | cons code codes =>
      have hdigit : IsDigit code := digits_isDigit n code (by simp [hcodes])
      have hzero : code ≠ unit '0' := by
        rintro rfl
        rw [natText, if_neg hn] at hcodes
        have hlast := Nat.getLast_digit_ne_zero 10 hn
        have hne : Nat.digits 10 n ≠ [] := Nat.digits_ne_nil_iff_ne_zero.mpr hn
        have hhead : ((Nat.digits 10 n).reverse.map digit).head? = some (unit '0') := by
          rw [hcodes]; rfl
        rw [List.head?_map, List.head?_reverse, List.getLast?_eq_some_getLast hne] at hhead
        simp only [Option.map_some, Option.some.injEq, digit, unit, Fin.ext_iff] at hhead
        have hlt : (Nat.digits 10 n).getLast hne < 10 :=
          Nat.digits_lt_base (by decide) (List.getLast_mem hne)
        have h48 : Char.toNat '0' = 48 := rfl
        rw [h48] at hhead
        omega
      rw [List.cons_append, scanInteger, if_neg hzero, if_pos hdigit, ← List.cons_append, ← hcodes,
        hspan]

theorem scanFraction_of_ends {rest : Text} (hrest : EndsNumber rest) :
    scanFraction rest = ([], rest) := by
  cases rest with
  | nil => rfl
  | cons code rest => simp [scanFraction, (hrest code rfl).2.1]

theorem scanExponent_of_ends {rest : Text} (hrest : EndsNumber rest) :
    scanExponent rest = ((false, []), rest) := by
  cases rest with
  | nil => rfl
  | cons code rest => simp [scanExponent, (hrest code rfl).2.2]

theorem scanSign_natText (n : ℕ) (rest : Text) :
    scanSign (natText n ++ rest) = (false, natText n ++ rest) := by
  cases hcodes : natText n with
  | nil => exact absurd hcodes (natText_ne_nil n)
  | cons code codes =>
    have hdigit : IsDigit code := digits_isDigit n code (by simp [hcodes])
    have hsign : code ≠ unit '-' := by
      rintro rfl
      exact absurd hdigit (by decide)
    simp [scanSign, hsign]

/-- The digits of a safe integer are read as that integer. -/
theorem scanNumber_stringify {x : Number} (hx : x.isSafeInteger) {rest : Text}
    (hrest : EndsNumber rest) :
    ∃ literal, scanNumber (stringifyNumber x ++ rest) = some (literal, rest) ∧
      literal.toNumber = x.unsigned := by
  have hplain : ∀ (n : ℕ) (negative : Bool), n < 2 ^ 53 →
      (⟨negative, natText n, [], false, []⟩ : Literal).toNumber =
        if negative then (Number.finite n).neg else .finite n := by
    intro n negative hn
    have hexact : (⟨negative, natText n, [], false, []⟩ : Literal).exact = n := by
      have hnone : natOfDigits [] = 0 := rfl
      simp [Literal.exact, natOfDigits_natText, hnone]
    rw [Literal.toNumber, hexact, Number.round_natCast hn]
  have hscan : ∀ n : ℕ, scanNumber (natText n ++ rest) =
      some (⟨false, natText n, [], false, []⟩, rest) := by
    intro n
    simp [scanNumber, scanSign_natText, scanInteger_natText n hrest, scanFraction_of_ends hrest,
      scanExponent_of_ends hrest]
  cases x with
  | finite q =>
    obtain ⟨hden, hbound⟩ : q.den = 1 ∧ q.num.natAbs ≤ 2 ^ 53 - 1 := by
      simpa [Number.isSafeInteger] using hx
    have hq : (q.num : ℚ) = q := Rat.den_eq_one_iff q |>.mp hden
    by_cases hneg : q < 0
    · have hnum : q.num < 0 := Rat.num_neg.mpr hneg
      refine ⟨⟨true, natText q.num.natAbs, [], false, []⟩, ?_, ?_⟩
      · simp [stringifyNumber, hneg, scanNumber, scanSign, scanInteger_natText _ hrest,
          scanFraction_of_ends hrest, scanExponent_of_ends hrest]
      · rw [hplain _ _ (by omega), if_pos rfl, Number.neg, if_neg (by
          simpa using hnum.ne), Number.unsigned_finite]
        have habs : (q.num.natAbs : ℤ) = -q.num := by omega
        rw [← Int.cast_natCast, habs, Int.cast_neg, neg_neg, hq]
    · have hnum : 0 ≤ q.num := Rat.num_nonneg.mpr (not_lt.mp hneg)
      refine ⟨⟨false, natText q.num.natAbs, [], false, []⟩, ?_, ?_⟩
      · simp [stringifyNumber, hneg, hscan]
      · rw [hplain _ _ (by omega), if_neg (by decide), Number.unsigned_finite]
        have habs : (q.num.natAbs : ℤ) = q.num := by omega
        rw [← Int.cast_natCast, habs, hq]
  | negativeZero =>
    exact ⟨_, hscan 0, by rw [hplain 0 false (by decide)]; simp⟩
  | infinite negative => simp [Number.isSafeInteger] at hx
  | nan => simp [Number.isSafeInteger] at hx

end Quillframe.Js
