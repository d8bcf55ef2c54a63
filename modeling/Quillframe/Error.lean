import Quillframe.Fallible
import Quillframe.StringOrder

/-! Errors of the core and the text predicates its validators share. -/
namespace Quillframe

inductive CoreError where
  | invalidProject (message : String)
  | invalidHierarchy (message : String)
  | invalidPlan (message : String)
  | authorityConflict (message : String)
  | contextBoundary (message : String)
  | serialization (message : String)
  | storage (message : String)
  | modelRuntime (message : String)
  deriving DecidableEq, Repr

abbrev CoreResult (α : Type) := Except CoreError α

/-- The characters of the Unicode property `White_Space`. -/
def isWhitespace (c : Char) : Bool :=
  let n := c.toNat
  (0x09 ≤ n && n ≤ 0x0d) || n = 0x20 || n = 0x85 || n = 0xa0 || n = 0x1680 ||
    (0x2000 ≤ n && n ≤ 0x200a) || n = 0x2028 || n = 0x2029 || n = 0x202f || n = 0x205f ||
    n = 0x3000

/-- `value.trim().is_empty()`. -/
def blank (value : String) : Bool := value.toList.all isWhitespace

/-! A text whose first byte is a visible character is known not to be blank undecoded. -/

def startsVisible (value : String) : Bool :=
  match value.toByteArray.data.toList with
  | [] => false
  | byte :: _ => 0x20 < byte && byte < 0x7f

/-- Only a visible character is encoded with a visible first byte. -/
theorem not_isWhitespace_of_visible {c : Char} {byte : UInt8} {rest : List UInt8}
    (hbytes : String.utf8EncodeChar c = byte :: rest) (hvisible : 0x20 < byte ∧ byte < 0x7f) :
    isWhitespace c = false := by
  obtain ⟨hlow, hhigh⟩ := hvisible
  rw [UInt8.lt_iff_toNat_lt] at hlow hhigh
  have hbyte : byte.toNat = c.toNat := by
    simp only [String.utf8EncodeChar, Char.toNat_val] at hbytes
    split_ifs at hbytes <;> obtain ⟨rfl, -⟩ := List.cons.inj hbytes <;>
      simp at hlow hhigh ⊢ <;> omega
  rw [hbyte] at hlow hhigh
  simp at hlow hhigh
  simp [isWhitespace]
  omega

theorem not_blank_of_startsVisible {value : String} (h : startsVisible value = true) :
    ¬ blank value = true := by
  obtain ⟨text, rfl⟩ : ∃ text, value = String.ofList text := ⟨_, String.ofList_toList.symm⟩
  have hbytes : (String.ofList text).toByteArray = text.utf8Encode := rfl
  rw [startsVisible, hbytes, toList_utf8Encode] at h
  rw [blank, String.toList_ofList]
  cases text with
  | nil => simp at h
  | cons c rest =>
    obtain ⟨byte, more, hc⟩ := List.exists_cons_of_ne_nil (String.utf8EncodeChar_ne_nil (c := c))
    simp only [List.flatMap_cons, hc, List.cons_append, Bool.and_eq_true, decide_eq_true_eq] at h
    simp [not_isWhitespace_of_visible hc h]

instance blankDecidable (value : String) : Decidable (blank value = true) :=
  if h : startsVisible value = true then isFalse (not_blank_of_startsVisible h)
  else instDecidableEqBool (blank value) true

/-- `value.trim()`. -/
def trim (value : String) : String :=
  String.ofList
    ((value.toList.dropWhile isWhitespace).reverse.dropWhile isWhitespace).reverse

def requireTimestamp (value : String) : CoreResult Unit :=
  require (¬ blank value ∧ value = trim value)
    (.storage "creation timestamp must be non-empty and trimmed")

/-- `value.starts_with(start)`. -/
def startsWith (start value : String) : Bool := start.toList.isPrefixOf value.toList

/-- `text.contains(excerpt)`. -/
def containsText (text excerpt : String) : Bool := decide (excerpt.toList <:+: text.toList)

/-- A `query_row` that finds no row. -/
def noRows : CoreError := .storage "Query returned no rows"

/-- Binding an unsigned counter to an SQL integer fails past `i64::MAX`. -/
def bindInteger (n : ℕ) : CoreResult Unit :=
  require (n < 2 ^ 63) (.storage "out of range integral type conversion attempted")

/-- Reading an SQL `NULL` as a text. -/
def nullColumn (name : String) : CoreError := .storage ("Invalid column type Null: " ++ name)

def foreignKeyFailed : CoreError := .storage "FOREIGN KEY constraint failed"

def uniqueFailed (columns : String) : CoreError :=
  .storage ("UNIQUE constraint failed: " ++ columns)

def checkFailed (condition : String) : CoreError :=
  .storage ("CHECK constraint failed: " ++ condition)

end Quillframe
