import Mathlib.Data.Nat.Digits.Defs
import Mathlib.Tactic

/-!
# JSON texts

A `Json` value is a JSON text up to white space. Object members keep their order, and a number
that is not an integer is the decimal literal that stands in the text. Strings that spell a
fingerprint are the separate atom `fp`, over any type of fingerprints.
-/
namespace Quillframe

/-- The literal `± significand * 10 ^ exponent`. -/
structure Decimal where
  negative : Bool
  significand : ℕ
  exponent : ℤ
  deriving DecidableEq, Repr

inductive Json (Fp : Type) where
  | null
  | bool (value : Bool)
  | int (value : ℤ)
  | float (value : Decimal)
  | str (value : String)
  | fp (value : Fp)
  | arr (items : List (Json Fp))
  | obj (members : List (String × Json Fp))

namespace Json

variable {Fp : Type}

instance : Inhabited (Json Fp) := ⟨null⟩

section Equality

variable [DecidableEq Fp]

mutual

def decEq : (a b : Json Fp) → Decidable (a = b)
  | null, null => isTrue rfl
  | bool x, bool y => decidable_of_iff (x = y) (by simp)
  | int x, int y => decidable_of_iff (x = y) (by simp)
  | float x, float y => decidable_of_iff (x = y) (by simp)
  | str x, str y => decidable_of_iff (x = y) (by simp)
  | fp x, fp y => decidable_of_iff (x = y) (by simp)
  | arr xs, arr ys =>
    have := decEqItems xs ys
    decidable_of_iff (xs = ys) (by simp)
  | obj xs, obj ys =>
    have := decEqMembers xs ys
    decidable_of_iff (xs = ys) (by simp)
  | null, bool _ | null, int _ | null, float _ | null, str _ | null, fp _ | null, arr _
  | null, obj _ | bool _, null | bool _, int _ | bool _, float _ | bool _, str _ | bool _, fp _
  | bool _, arr _ | bool _, obj _ | int _, null | int _, bool _ | int _, float _ | int _, str _
  | int _, fp _ | int _, arr _ | int _, obj _ | float _, null | float _, bool _ | float _, int _
  | float _, str _ | float _, fp _ | float _, arr _ | float _, obj _ | str _, null | str _, bool _
  | str _, int _ | str _, float _ | str _, fp _ | str _, arr _ | str _, obj _ | fp _, null
  | fp _, bool _ | fp _, int _ | fp _, float _ | fp _, str _ | fp _, arr _ | fp _, obj _
  | arr _, null | arr _, bool _ | arr _, int _ | arr _, float _ | arr _, str _ | arr _, fp _
  | arr _, obj _ | obj _, null | obj _, bool _ | obj _, int _ | obj _, float _ | obj _, str _
  | obj _, fp _ | obj _, arr _ => isFalse (by simp)

def decEqItems : (xs ys : List (Json Fp)) → Decidable (xs = ys)
  | [], [] => isTrue rfl
  | [], _ :: _ => isFalse (by simp)
  | _ :: _, [] => isFalse (by simp)
  | x :: xs, y :: ys =>
    have := decEq x y
    have := decEqItems xs ys
    decidable_of_iff (x = y ∧ xs = ys) (by simp)

def decEqMembers : (xs ys : List (String × Json Fp)) → Decidable (xs = ys)
  | [], [] => isTrue rfl
  | [], _ :: _ => isFalse (by simp)
  | _ :: _, [] => isFalse (by simp)
  | (k, x) :: xs, (l, y) :: ys =>
    have := decEq x y
    have := decEqMembers xs ys
    decidable_of_iff (k = l ∧ x = y ∧ xs = ys) (by simp [and_assoc])

end

instance : DecidableEq (Json Fp) := decEq

end Equality

def isObject : Json Fp → Bool
  | obj _ => true
  | _ => false

/-- The member of an object under a key. -/
def get? (v : Json Fp) (key : String) : Option (Json Fp) :=
  match v with
  | obj members => (members.find? fun member => member.1 == key).map Prod.snd
  | _ => none

def asStr : Json Fp → Option String
  | str s => some s
  | _ => none

def asFp : Json Fp → Option Fp
  | fp f => some f
  | _ => none

def asInt : Json Fp → Option ℤ
  | int n => some n
  | _ => none

def asItems : Json Fp → Option (List (Json Fp))
  | arr items => some items
  | _ => none

def ofOption (encode : α → Json Fp) : Option α → Json Fp
  | none => null
  | some a => encode a

def strings (values : List String) : Json Fp := arr (values.map str)

/-! ## Reading numbers back -/

mutual

/-- Replaces every decimal literal; the shape of the text stays. -/
def mapFloat (f : Decimal → Decimal) : Json Fp → Json Fp
  | float d => float (f d)
  | arr items => arr (mapFloatItems f items)
  | obj members => obj (mapFloatMembers f members)
  | null => null
  | bool b => bool b
  | int n => int n
  | str s => str s
  | fp h => fp h

def mapFloatItems (f : Decimal → Decimal) : List (Json Fp) → List (Json Fp)
  | [] => []
  | v :: rest => mapFloat f v :: mapFloatItems f rest

def mapFloatMembers (f : Decimal → Decimal) :
    List (String × Json Fp) → List (String × Json Fp)
  | [] => []
  | (key, v) :: rest => (key, mapFloat f v) :: mapFloatMembers f rest

end

theorem mapFloatItems_eq_map (f : Decimal → Decimal) (items : List (Json Fp)) :
    mapFloatItems f items = items.map (mapFloat f) := by
  induction items with
  | nil => rfl
  | cons v rest ih => simp [mapFloatItems, ih]

theorem mapFloatMembers_eq_map (f : Decimal → Decimal) (members : List (String × Json Fp)) :
    mapFloatMembers f members = members.map fun member => (member.1, mapFloat f member.2) := by
  induction members with
  | nil => rfl
  | cons member rest ih =>
    obtain ⟨key, v⟩ := member
    simp [mapFloatMembers, ih]

@[simp] theorem mapFloat_arr (f : Decimal → Decimal) (items : List (Json Fp)) :
    (arr items).mapFloat f = arr (items.map (mapFloat f)) := by
  rw [mapFloat, mapFloatItems_eq_map]

@[simp] theorem mapFloat_obj (f : Decimal → Decimal) (members : List (String × Json Fp)) :
    (obj members).mapFloat f =
      obj (members.map fun member => (member.1, mapFloat f member.2)) := by
  rw [mapFloat, mapFloatMembers_eq_map]

@[simp] theorem mapFloat_str (f : Decimal → Decimal) (s : String) :
    (str s : Json Fp).mapFloat f = str s := by rfl

@[simp] theorem mapFloat_int (f : Decimal → Decimal) (n : ℤ) :
    (int n : Json Fp).mapFloat f = int n := by rfl

@[simp] theorem mapFloat_fp (f : Decimal → Decimal) (h : Fp) :
    (fp h).mapFloat f = fp h := by rfl

@[simp] theorem mapFloat_bool (f : Decimal → Decimal) (b : Bool) :
    (bool b : Json Fp).mapFloat f = bool b := by rfl

@[simp] theorem mapFloat_null (f : Decimal → Decimal) :
    (null : Json Fp).mapFloat f = null := by rfl

@[simp] theorem mapFloat_float (f : Decimal → Decimal) (d : Decimal) :
    (float d : Json Fp).mapFloat f = float (f d) := by rfl

@[simp] theorem mapFloat_strings (f : Decimal → Decimal) (values : List String) :
    (strings values : Json Fp).mapFloat f = strings values := by
  simp [strings, Function.comp_def]

@[simp] theorem isObject_mapFloat (f : Decimal → Decimal) (v : Json Fp) :
    (v.mapFloat f).isObject = v.isObject := by
  cases v <;> simp [isObject]

theorem get?_mapFloat (f : Decimal → Decimal) (v : Json Fp) (key : String) :
    (v.mapFloat f).get? key = (v.get? key).map (mapFloat f) := by
  cases v with
  | obj members =>
    simp only [mapFloat_obj, get?, List.find?_map, Option.map_map]
    rfl
  | _ => simp [get?]

/-! ## Encoded size -/

/-- Bytes of one character inside a JSON string, escapes included. -/
def charSize (c : Char) : ℕ :=
  if c = '"' ∨ c = '\\' then 2
  else if c.val < 0x20 then
    if c.val = 0x08 ∨ c.val = 0x09 ∨ c.val = 0x0a ∨ c.val = 0x0c ∨ c.val = 0x0d then 2 else 6
  else c.utf8Size

def stringSize (s : String) : ℕ := 2 + (s.toList.map charSize).sum

def natSize (n : ℕ) : ℕ := max 1 (Nat.digits 10 n).length

def intSize (n : ℤ) : ℕ := (if n < 0 then 1 else 0) + natSize n.natAbs

/-- Bytes of a decimal in the shortest notation: plain up to sixteen digits, then scientific. -/
def decimalSize (d : Decimal) : ℕ :=
  let length := natSize d.significand
  let point : ℤ := length + d.exponent
  (if d.negative then 1 else 0) +
    if 0 ≤ d.exponent ∧ point ≤ 16 then point.toNat + 2
    else if 0 < point ∧ point ≤ 16 then length + 1
    else if -5 < point ∧ point ≤ 0 then length + 2 + (-point).toNat
    else if length = 1 then 2 + intSize (point - 1)
    else length + 2 + intSize (point - 1)

mutual

/-- Bytes of the compact text; a fingerprint takes its 71 characters and two quotes. -/
def encodedSize : Json Fp → ℕ
  | null => 4
  | bool b => if b then 4 else 5
  | int n => intSize n
  | float d => decimalSize d
  | str s => stringSize s
  | fp _ => 73
  | arr items => 2 + (items.length - 1) + itemsSize items
  | obj members => 2 + (members.length - 1) + membersSize members

def itemsSize : List (Json Fp) → ℕ
  | [] => 0
  | v :: rest => encodedSize v + itemsSize rest

def membersSize : List (String × Json Fp) → ℕ
  | [] => 0
  | (key, v) :: rest => stringSize key + 1 + encodedSize v + membersSize rest

end

end Json

end Quillframe
