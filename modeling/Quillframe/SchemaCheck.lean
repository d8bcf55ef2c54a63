import Mathlib.Data.List.Sort
import Quillframe.Error
import Quillframe.OrderedMap
import Quillframe.StringOrder

/-!
# The schema of a project database

A database is opened only when its schema objects are those of a new project, or those of a new
project with the optional trigram search. The objects are compared by name, without the names that
the pattern for SQLite's own objects matches, and with runs of whitespace as one blank.
-/
namespace Quillframe

/-- A row of `sqlite_master`. -/
structure SchemaRow where
  kind : String
  name : String
  tableName : Option String
  sql : Option String
  deriving DecidableEq, Repr

structure SchemaFragmentRow where
  scope : String
  version : ℕ
  name : String
  checksum : String
  deriving DecidableEq, Repr

/-- What the checks read of a database. -/
structure SchemaSnapshot where
  identity : List (String × String)
  fragments : List SchemaFragmentRow
  planningContract : List (ℕ × String)
  objects : List SchemaRow
  quickCheck : String
  foreignKeyViolations : ℕ
  deriving DecidableEq, Repr

/-- The embedded fragments, and what SQLite makes of them: the objects of a new project, and those
that the trigram search adds. -/
structure ProjectRelease where
  fragments : List SchemaFragmentRow
  objects : List SchemaRow
  trigram : List SchemaRow
  distinct : ((objects ++ trigram).map (·.name)).Nodup

/-! ## Names and definitions -/

/-- The case of an ASCII letter does not count. -/
def foldCase (c : Char) : Char :=
  if 'A' ≤ c ∧ c ≤ 'Z' then Char.ofNat (c.toNat + 32) else c

/-- `text LIKE pattern`. -/
def like : List Char → List Char → Bool
  | [], text => text.isEmpty
  | p :: pattern, text =>
    if p = '%' then text.tails.any (like pattern)
    else match text with
      | [] => false
      | c :: rest => (p = '_' || foldCase p = foldCase c) && like pattern rest

/-- Whether the listing leaves the object out. -/
def SchemaRow.hidden (row : SchemaRow) : Bool := like "sqlite_%".toList row.name.toList

def normalizeSql (value : String) : String :=
  String.ofList
    ([' '].intercalate ((value.toList.splitOnP isWhitespace).filter fun word => word ≠ []))

/-- The object as it is compared: its type, its table and its definition. -/
def SchemaRow.object (row : SchemaRow) : String × String × String :=
  (row.kind, row.tableName.getD "", normalizeSql (row.sql.getD ""))

/-- `ORDER BY type,name`. -/
def SchemaRow.Earlier (a b : SchemaRow) : Prop :=
  a.kind < b.kind ∨ (a.kind = b.kind ∧ a.name ≤ b.name)

instance : DecidableRel SchemaRow.Earlier := fun _ _ => inferInstanceAs (Decidable (_ ∨ _))

/-- The objects that the listing shows. -/
def shownObjects (rows : List SchemaRow) : List SchemaRow := rows.filter fun row => ¬ row.hidden

/-- Of several objects of one name the last is kept. -/
def schemaObjects (rows : List SchemaRow) : OrderedMap String (String × String × String) :=
  .ofList (((shownObjects rows).insertionSort SchemaRow.Earlier).map
    fun row => (row.name, row.object))

/-! ## The check -/

def validateIdentity (db : SchemaSnapshot) : CoreResult Unit :=
  require (db.identity = [("project", "1.0")])
    (.storage "SQLite schema identity must be exactly project:1.0")

def validateLedger (release : ProjectRelease) (db : SchemaSnapshot) : CoreResult Unit :=
  let earlier (a b : SchemaFragmentRow) : Prop :=
    a.scope < b.scope ∨ (a.scope = b.scope ∧ a.version ≤ b.version)
  have : DecidableRel earlier := fun _ _ => inferInstanceAs (Decidable (_ ∨ _))
  require (db.fragments.insertionSort earlier = release.fragments)
    (.storage "SQLite schema ledger is not the exact current Project 1.0 release")

def validatePlanningContract (db : SchemaSnapshot) : CoreResult Unit :=
  require ((db.planningContract.insertionSort fun a b => a.1 ≤ b.1) =
      [(1, "ai-native-longform-v2")])
    (.storage "SQLite planning contract identity must be exactly ai-native-longform-v2")

/-- The objects of a new project, or with the trigram search. -/
def validateObjects (release : ProjectRelease) (db : SchemaSnapshot) : CoreResult Unit :=
  if schemaObjects db.objects ≠ schemaObjects release.objects then
    require (schemaObjects db.objects = schemaObjects (release.objects ++ release.trigram))
      (.storage "SQLite objects differ from the exact Project 1.0 schema")
  else .ok ()

def validateCurrentProjectSchema (release : ProjectRelease) (db : SchemaSnapshot) :
    CoreResult Unit := do
  validateIdentity db
  validateLedger release db
  validatePlanningContract db
  validateObjects release db
  require (db.quickCheck = "ok") (.storage ("SQLite quick_check failed: " ++ db.quickCheck))
  require (db.foreignKeyViolations = 0)
    (.storage "SQLite foreign_key_check reported a violation")

/-! ## What is left out of the listing -/

theorem like_cons (p : Char) (pattern text : List Char) :
    like (p :: pattern) text = if p = '%' then text.tails.any (like pattern)
      else match text with
        | [] => false
        | c :: rest => (p = '_' || foldCase p = foldCase c) && like pattern rest := rfl

/-- A pattern that begins with a plain word. -/
theorem like_append {word pattern text : List Char} (hword : ∀ c ∈ word, c ≠ '%' ∧ c ≠ '_') :
    like (word ++ pattern) text = true ↔ word.length ≤ text.length ∧
      (text.take word.length).map foldCase = word.map foldCase ∧
      like pattern (text.drop word.length) = true := by
  induction word generalizing text with
  | nil => simp
  | cons p word ih =>
    obtain ⟨⟨hpercent, hunderscore⟩, hrest⟩ := List.forall_mem_cons.mp hword
    rw [List.cons_append, like_cons, if_neg hpercent]
    cases text with
    | nil => simp
    | cons c text =>
      simp only [Bool.and_eq_true, Bool.or_eq_true, decide_eq_true_eq, hunderscore, false_or,
        ih hrest, List.length_cons, Nat.add_le_add_iff_right, List.take_succ_cons, List.map_cons,
        List.cons.injEq, List.drop_succ_cons]
      tauto

/-- The pattern also matches names in which no underscore follows. -/
theorem SchemaRow.hidden_iff {row : SchemaRow} : row.hidden = true ↔
    6 < row.name.toList.length ∧
      (row.name.toList.take 6).map foldCase = "sqlite".toList := by
  have hpattern : "sqlite_%".toList = "sqlite".toList ++ ['_', '%'] := by decide
  have hword : "sqlite".toList.length = 6 := by decide
  have hfold : "sqlite".toList.map foldCase = "sqlite".toList := by decide
  have hlast (text : List Char) : like ['_', '%'] text = true ↔ text ≠ [] := by
    cases text with
    | nil => simp [like]
    | cons c rest => simp [like]
  rw [hidden, hpattern, like_append (by decide), hword, hfold, hlast, List.ne_nil_iff_length_pos,
    List.length_drop]
  constructor
  · rintro ⟨-, hname, hlength⟩
    exact ⟨by omega, hname⟩
  · rintro ⟨hlength, hname⟩
    exact ⟨by omega, hname, by omega⟩

/-! ## Objects under different names -/

theorem OrderedMap.get?_insertMany {K V : Type} [LinearOrder K] {pairs : List (K × V)}
    (hkeys : (pairs.map Prod.fst).Nodup) (m : OrderedMap K V) (k : K) (v : V) :
    (m.insertMany pairs).get? k = some v ↔
      (k, v) ∈ pairs ∨ k ∉ pairs.map Prod.fst ∧ m.get? k = some v := by
  induction pairs generalizing m with
  | nil => simp [OrderedMap.insertMany]
  | cons pair pairs ih =>
    obtain ⟨hhead, hrest⟩ := List.nodup_cons.mp hkeys
    have hstep : m.insertMany (pair :: pairs) = (m.insert pair.1 pair.2).insertMany pairs := rfl
    rw [hstep, ih hrest, List.mem_cons, List.map_cons, List.mem_cons, not_or]
    by_cases hk : k = pair.1
    · subst hk
      have hnot : (pair.1, v) ∉ pairs := fun h => hhead (List.mem_map.mpr ⟨_, h, rfl⟩)
      simp [hnot, hhead, Prod.ext_iff, eq_comm]
    · have hne : ¬ (k, v) = pair := fun h => hk (congrArg Prod.fst h)
      simp [hk, hne, OrderedMap.get?_insert_of_ne]

/-- The lists show the same objects, up to whitespace in their definitions. -/
def SameObjects (rows others : List SchemaRow) : Prop :=
  ∀ name object, (∃ row ∈ shownObjects rows, row.name = name ∧ row.object = object) ↔
    ∃ row ∈ shownObjects others, row.name = name ∧ row.object = object

theorem get?_schemaObjects {rows : List SchemaRow}
    (hkeys : ((shownObjects rows).map (·.name)).Nodup) (name : String)
    (object : String × String × String) : (schemaObjects rows).get? name = some object ↔
      ∃ row ∈ shownObjects rows, row.name = name ∧ row.object = object := by
  have hperm := List.perm_insertionSort SchemaRow.Earlier (shownObjects rows)
  have hsorted : ((((shownObjects rows).insertionSort SchemaRow.Earlier).map
      fun row => (row.name, row.object)).map Prod.fst).Nodup := by
    rw [List.map_map]
    exact (hperm.map _).nodup_iff.mpr hkeys
  refine (OrderedMap.get?_insertMany hsorted _ _ _).trans ?_
  simp [hperm.mem_iff]

theorem schemaObjects_eq_iff {rows others : List SchemaRow}
    (hrows : ((shownObjects rows).map (·.name)).Nodup)
    (hothers : ((shownObjects others).map (·.name)).Nodup) :
    schemaObjects rows = schemaObjects others ↔ SameObjects rows others := by
  constructor
  · intro h name object
    rw [← get?_schemaObjects hrows, ← get?_schemaObjects hothers, h]
  · intro h
    refine OrderedMap.ext_get? fun name => Option.ext fun object => ?_
    rw [get?_schemaObjects hrows, get?_schemaObjects hothers]
    exact h name object

/-- The checks beside the comparison of the objects. -/
structure SchemaSnapshot.Sound (release : ProjectRelease) (db : SchemaSnapshot) : Prop where
  identity : validateIdentity db = .ok ()
  ledger : validateLedger release db = .ok ()
  planningContract : validatePlanningContract db = .ok ()
  quickCheck : db.quickCheck = "ok"
  foreignKeys : db.foreignKeyViolations = 0

theorem ProjectRelease.shown_names (release : ProjectRelease) :
    ((shownObjects release.objects).map (·.name)).Nodup ∧
      ((shownObjects (release.objects ++ release.trigram)).map (·.name)).Nodup := by
  have hall : ((shownObjects (release.objects ++ release.trigram)).map (·.name)).Nodup :=
    .sublist (List.filter_sublist.map _) release.distinct
  refine ⟨.sublist ?_ hall, hall⟩
  exact ((List.sublist_append_left _ _).filter _).map _

theorem validateObjects_eq_ok {release : ProjectRelease} {db : SchemaSnapshot} :
    validateObjects release db = .ok () ↔
      schemaObjects db.objects = schemaObjects release.objects ∨
        schemaObjects db.objects = schemaObjects (release.objects ++ release.trigram) := by
  rw [validateObjects]
  split_ifs with h
  · rw [require_eq_ok, or_iff_right h]
  · simp [not_not.mp h]

theorem validateCurrentProjectSchema_eq_ok {release : ProjectRelease} {db : SchemaSnapshot} :
    validateCurrentProjectSchema release db = .ok () ↔
      db.Sound release ∧ validateObjects release db = .ok () := by
  constructor
  · intro h
    obtain ⟨_, hidentity, h⟩ := bind_eq_ok.mp h
    obtain ⟨_, hledger, h⟩ := bind_eq_ok.mp h
    obtain ⟨_, hplanning, h⟩ := bind_eq_ok.mp h
    obtain ⟨_, hobjects, h⟩ := bind_eq_ok.mp h
    simp only [bind_eq_ok, require_eq_ok, exists_const] at h
    exact ⟨⟨hidentity, hledger, hplanning, h.1, h.2⟩, hobjects⟩
  · rintro ⟨⟨hidentity, hledger, hplanning, hquick, hforeign⟩, hobjects⟩
    refine bind_eq_ok.mpr ⟨(), hidentity, bind_eq_ok.mpr ⟨(), hledger, ?_⟩⟩
    refine bind_eq_ok.mpr ⟨(), hplanning, bind_eq_ok.mpr ⟨(), hobjects, ?_⟩⟩
    simp only [bind_eq_ok, require_eq_ok, exists_const]
    exact ⟨hquick, hforeign⟩

namespace SchemaSample

def table (name sql : String) : SchemaRow := ⟨"table", name, some name, some sql⟩

def searchTrigram : SchemaRow :=
  table "search_trigram" ("CREATE VIRTUAL TABLE search_trigram USING fts5( entity_type " ++
    "UNINDEXED, entity_id UNINDEXED, title, body, tokenize='trigram')")

/-- Two of the tables of a new project, and the trigram search. -/
def release : ProjectRelease where
  fragments := [⟨"project", 1, "001_initial.sql", "sha256:1"⟩]
  objects :=
    [table "schema_fragments" "CREATE TABLE schema_fragments ( scope TEXT NOT NULL )",
      ⟨"index", "sqlite_autoindex_schema_fragments_1", some "schema_fragments", none⟩,
      table "story_nodes" "CREATE TABLE story_nodes ( kind TEXT DEFAULT 'a  b' )"]
  trigram :=
    [searchTrigram,
      table "search_trigram_data"
        "CREATE TABLE 'search_trigram_data'(id INTEGER PRIMARY KEY, block BLOB)",
      table "search_trigram_idx" ("CREATE TABLE 'search_trigram_idx'(segid, term, pgno, " ++
        "PRIMARY KEY(segid, term)) WITHOUT ROWID"),
      table "search_trigram_content"
        "CREATE TABLE 'search_trigram_content'(id INTEGER PRIMARY KEY, c0, c1, c2, c3)",
      table "search_trigram_docsize"
        "CREATE TABLE 'search_trigram_docsize'(id INTEGER PRIMARY KEY, sz BLOB)",
      table "search_trigram_config"
        "CREATE TABLE 'search_trigram_config'(k PRIMARY KEY, v) WITHOUT ROWID"]
  distinct := by decide +kernel

def project (objects : List SchemaRow) : SchemaSnapshot where
  identity := [("project", "1.0")]
  fragments := release.fragments
  planningContract := [(1, "ai-native-longform-v2")]
  objects
  quickCheck := "ok"
  foreignKeyViolations := 0

theorem project_sound (objects : List SchemaRow) : (project objects).Sound release where
  identity := rfl
  ledger := rfl
  planningContract := rfl
  quickCheck := rfl
  foreignKeys := rfl

end SchemaSample

end Quillframe
