import Quillframe.OrderedMap
import Quillframe.Serde

/-!
# Rows in JSON texts

A table that is kept inside a JSON document is an array of objects, one member for each column.
Columns are read by name. A reader that looks at no decimal literal gives the same answer
before and after the text is read and printed again, and a row codec is a pair of an encoder and
a decoder that agree up to such a pass.
-/
namespace Quillframe

namespace Json

variable {Fp α : Type}

def asNat : Json Fp → Option ℕ
  | int (.ofNat n) => some n
  | _ => none

def asMembers : Json Fp → Option (List (String × Json Fp))
  | obj members => some members
  | _ => none

/-- A column that may be `NULL`. -/
def nullable (read : Json Fp → Option α) : Json Fp → Option (Option α)
  | null => some none
  | v => (read v).map some

def readItems (read : Json Fp → Option α) (v : Json Fp) : Option (List α) := do
  let items ← v.asItems
  items.mapM read

/-- The members of an object, each read as a value. -/
def readEntries (read : Json Fp → Option α) (v : Json Fp) : Option (List (String × α)) := do
  let members ← v.asMembers
  members.mapM fun member => (read member.2).map fun a => (member.1, a)

/-- `json_extract(value, '$.key')`, read as a column. -/
def column (read : Json Fp → Option α) (v : Json Fp) (key : String) : Option α := do
  let member ← v.get? key
  read member

/-- `json_each`: the rows of an array, the values of an object. -/
def jsonEach : Option (Json Fp) → List (Json Fp)
  | none | some null => []
  | some (arr items) => items
  | some (obj members) => members.map Prod.snd
  | some v => [v]

section Blind

variable [SerdeJson Fp] {read : Json Fp → Option α}

/-- The reader looks at no decimal literal. -/
def Blind (read : Json Fp → Option α) : Prop := ∀ v, read v.reread = read v

@[simp] theorem blind_asStr : Blind (asStr : Json Fp → Option String) := by
  intro v
  cases v <;> simp [reread, asStr]

@[simp] theorem blind_asFp : Blind (asFp : Json Fp → Option Fp) := by
  intro v
  cases v <;> simp [reread, asFp]

@[simp] theorem blind_asInt : Blind (asInt : Json Fp → Option ℤ) := by
  intro v
  cases v <;> simp [reread, asInt]

@[simp] theorem blind_asNat : Blind (asNat : Json Fp → Option ℕ) := by
  intro v
  cases v <;> simp [reread, asNat]

@[simp] theorem Blind.nullable (h : Blind read) : Blind (nullable read) := by
  intro v
  cases v with
  | null => simp [reread, Json.nullable]
  | bool b => simp [reread, Json.nullable]
  | int n => simp [reread, Json.nullable]
  | str s => simp [reread, Json.nullable]
  | fp f => simp [reread, Json.nullable]
  | float d => simpa [reread, Json.nullable] using congrArg (Option.map some) (h (float d))
  | arr items => simpa [reread, Json.nullable] using congrArg (Option.map some) (h (arr items))
  | obj members => simpa [reread, Json.nullable] using congrArg (Option.map some) (h (obj members))

@[simp] theorem Blind.readItems (h : Blind read) : Blind (readItems read) := by
  intro v
  cases v with
  | arr items =>
    have hitems : (items.map reread).mapM read = items.mapM read := by
      rw [List.mapM_map]
      congr 1
      exact funext h
    rw [reread, mapFloat_arr]
    exact hitems
  | _ => simp [reread, Json.readItems, asItems]

@[simp] theorem Blind.readEntries (h : Blind read) : Blind (readEntries read) := by
  intro v
  cases v with
  | obj members =>
    have hmembers : (members.map fun member => (member.1, member.2.reread)).mapM
        (fun member => (read member.2).map fun a => (member.1, a)) =
        members.mapM fun member => (read member.2).map fun a => (member.1, a) := by
      rw [List.mapM_map]
      congr 1
      funext member
      simp only [Function.comp_apply, h member.2]
    rw [reread, mapFloat_obj]
    exact hmembers
  | _ => simp [reread, Json.readEntries, asMembers]

theorem get?_reread (v : Json Fp) (key : String) :
    v.reread.get? key = (v.get? key).map reread := get?_mapFloat _ v key

@[simp] theorem column_reread (h : Blind read) (v : Json Fp) (key : String) :
    column read v.reread key = column read v key := by
  rw [column, column, get?_reread]
  cases v.get? key with
  | none => rfl
  | some member => exact h member

/-- A JSON column is read and printed again with its row. -/
@[simp] theorem column_some_reread (v : Json Fp) (key : String) :
    column some v.reread key = (column some v key).map reread := by
  simp [column, get?_reread]

theorem jsonEach_reread (v : Option (Json Fp)) :
    jsonEach (v.map reread) = (jsonEach v).map reread := by
  rcases v with _ | v
  · rfl
  · cases v <;> simp [jsonEach, reread]

end Blind

@[simp] theorem readItems_strings (values : List String) :
    readItems asStr (strings values : Json Fp) = some values := by
  simp only [readItems, strings, asItems, Option.bind_eq_bind, Option.bind_some, List.mapM_map]
  induction values with
  | nil => rfl
  | cons value rest ih => simp [asStr, ih]

@[simp] theorem readEntries_obj (read : Json Fp → Option α) (encode : α → Json Fp)
    (h : ∀ a, read (encode a) = some a) (entries : List (String × α)) :
    readEntries read (obj (entries.map fun entry => (entry.1, encode entry.2))) =
      some entries := by
  simp only [readEntries, asMembers, Option.bind_eq_bind, Option.bind_some, List.mapM_map]
  induction entries with
  | nil => rfl
  | cons entry rest ih => simp [h, ih]

@[simp] theorem readEntries_strs (entries : List (String × String)) :
    readEntries asStr (obj (entries.map fun entry => (entry.1, (str entry.2 : Json Fp)))) =
      some entries :=
  readEntries_obj asStr str (fun _ => rfl) entries

@[simp] theorem nullable_str (value : Option String) :
    nullable asStr (ofOption str value : Json Fp) = some value := by
  cases value <;> rfl

@[simp] theorem nullable_int (value : Option ℤ) :
    nullable asInt (ofOption int value : Json Fp) = some value := by
  cases value <;> rfl

@[simp] theorem nullable_fp (value : Option Fp) :
    nullable asFp (ofOption fp value) = some value := by
  cases value <;> rfl

@[simp] theorem mapFloat_ofOption {f : Decimal → Decimal} {encode : α → Json Fp}
    (h : ∀ a, (encode a).mapFloat f = encode a) (value : Option α) :
    (ofOption encode value).mapFloat f = ofOption encode value := by
  cases value <;> simp [ofOption, h]

end Json

/-! ## Codecs -/

/-- How the rows of a table are kept in a JSON document. `reread` is the row after its JSON
columns were read and printed again. -/
structure RowCodec (Fp Row : Type) [SerdeJson Fp] where
  toValue : Row → Json Fp
  ofValue : Json Fp → Option Row
  reread : Row → Row
  toValue_reread : ∀ row, (toValue row).reread = toValue (reread row)
  ofValue_reread : ∀ v, ofValue v.reread = (ofValue v).map reread
  ofValue_toValue : ∀ row, ofValue (toValue row) = some row

namespace RowCodec

variable {Fp Row : Type} [SerdeJson Fp] (codec : RowCodec Fp Row)

/-- A text that is read as an encoded row decodes to that row. -/
theorem ofValue_of_reread {item : Json Fp} {row : Row}
    (h : item.reread = (codec.toValue row).reread) :
    ∃ row', codec.ofValue item = some row' ∧ codec.reread row' = codec.reread row := by
  have hread := codec.ofValue_reread item
  rw [h, codec.toValue_reread, codec.ofValue_toValue] at hread
  exact Option.map_eq_some_iff.mp hread.symm

/-- Decoding a list of texts that are read as encoded rows. -/
theorem mapM_of_reread {items : List (Json Fp)} {rows : List Row}
    (h : items.map Json.reread = rows.map fun row => (codec.toValue row).reread) :
    ∃ rows', items.mapM codec.ofValue = some rows' ∧
      rows'.map codec.reread = rows.map codec.reread := by
  induction items generalizing rows with
  | nil =>
    obtain rfl : rows = [] := List.map_eq_nil_iff.mp h.symm
    exact ⟨[], rfl, rfl⟩
  | cons item rest ih =>
    cases rows with
    | nil => simp at h
    | cons row rows =>
      simp only [List.map_cons, List.cons.injEq] at h
      obtain ⟨row', hrow, hsame⟩ := codec.ofValue_of_reread h.1
      obtain ⟨rows', hrows, hsames⟩ := ih h.2
      refine ⟨row' :: rows', ?_, ?_⟩
      · simp [hrow, hrows]
      · simp [hsame, hsames]

/-- Rows that read the same encode to texts that read the same. -/
theorem map_toValue_reread {rows rows' : List Row}
    (h : rows'.map codec.reread = rows.map codec.reread) :
    (rows'.map fun row => (codec.toValue row).reread) =
      rows.map fun row => (codec.toValue row).reread := by
  have hencode : (fun row => (codec.toValue row).reread) = codec.toValue ∘ codec.reread :=
    funext codec.toValue_reread
  rw [hencode, ← List.map_map, ← List.map_map, h]

end RowCodec

end Quillframe
