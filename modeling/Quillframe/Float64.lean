import Quillframe.Json

/-!
# Decimal literals as binary64 numbers

Reading a literal with one rounding of the significand and one of the scaling by a power of ten,
and printing the shortest literal that reads back to the same number. Both are for numbers in the
normal range.
-/
namespace Quillframe

/-- The number `mantissa * 2 ^ exponent`, with a mantissa of 53 bits unless it is zero. -/
structure Binary64 where
  mantissa : ℕ
  exponent : ℤ
  deriving DecidableEq, Repr

namespace Binary64

/-- The integer nearest to `n / d`, ties to even. -/
def nearest (n d : ℕ) : ℕ :=
  let q := n / d
  let r := n % d
  if 2 * r < d ∨ (2 * r = d ∧ q % 2 = 0) then q else q + 1

/-- The number nearest to `n / d * 2 ^ scale`. -/
def ofRatio (n d : ℕ) (scale : ℤ) : Binary64 :=
  if n = 0 then ⟨0, 0⟩
  else
    -- one bit too many at most
    let shift : ℤ := 53 + Nat.log2 d - Nat.log2 n
    let num := n * 2 ^ shift.toNat
    let den := d * 2 ^ (-shift).toNat
    let e : ℕ := if num / den < 2 ^ 53 then 0 else 1
    let mantissa := nearest num (den * 2 ^ e)
    if mantissa = 2 ^ 53 then ⟨2 ^ 52, scale - shift + e + 1⟩
    else ⟨mantissa, scale - shift + e⟩

def mul (a b : Binary64) : Binary64 :=
  ofRatio (a.mantissa * b.mantissa) 1 (a.exponent + b.exponent)

def div (a b : Binary64) : Binary64 :=
  ofRatio a.mantissa b.mantissa (a.exponent - b.exponent)

/-- The significand is rounded before it is scaled by the rounded power of ten. -/
def read (significand : ℕ) (exponent : ℤ) : Binary64 :=
  let power := ofRatio (10 ^ exponent.natAbs) 1 0
  if 0 ≤ exponent then (ofRatio significand 1 0).mul power
  else (ofRatio significand 1 0).div power

/-- The multiple of `10 ^ exponent` nearest to a number. -/
def multiple (x : Binary64) (exponent : ℤ) : ℕ :=
  nearest (x.mantissa * 2 ^ x.exponent.toNat * 10 ^ (-exponent).toNat)
    (2 ^ (-x.exponent).toNat * 10 ^ exponent.toNat)

/-- The first exponent, from the largest down, at which a decimal rounds to the number. -/
def shortest (x : Binary64) (negative : Bool) (exponent : ℤ) : ℕ → Decimal
  | 0 => ⟨negative, x.multiple exponent, exponent⟩
  | fuel + 1 =>
    let significand := x.multiple exponent
    if ofRatio (significand * 10 ^ exponent.toNat) (10 ^ (-exponent).toNat) 0 = x then
      ⟨negative, significand, exponent⟩
    else shortest x negative (exponent - 1) fuel

/-- The literal printed for a number that was read from a literal. -/
def reprint (d : Decimal) : Decimal :=
  if d.significand = 0 then ⟨d.negative, 0, 0⟩
  else
    let x := read d.significand d.exponent
    -- no larger power of ten is below the number, and seventeen digits always do
    shortest x d.negative ((x.exponent + 53) * 30103 / 100000 + 1) 20

end Binary64

/-- Not every literal that is printed is read back: 9.222222222222221. -/
example : Binary64.reprint ⟨false, 9222222222222222, -15⟩ = ⟨false, 9222222222222221, -15⟩ ∧
    Binary64.reprint ⟨false, 9222222222222221, -15⟩ = ⟨false, 922222222222222, -14⟩ := by
  decide +kernel

end Quillframe
