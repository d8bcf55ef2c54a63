import Quillframe.Corpus.Scan
import Quillframe.StringOrder

/-!
# Scans of collections

A scan stores a collection with one row for each work, under ids that are hashed from the scan
and the content of the work. Over any run of scans the rows derive from the collections, and a
collection with two works of one content is never stored.
-/
namespace Quillframe.Corpus

open Relation
open Json (int fp arr obj)

variable {Fp : Type}

/-! ## The source -/

structure CollectionRow (Fp : Type) where
  collectionId : String
  rootPath : String
  rootIdentity : Json Fp
  scanFingerprint : Fp
  workCount : ℕ
  createdAt : String
  updatedAt : String

structure VersionRow (Fp : Type) where
  workVersionId : String
  collectionId : String
  publicWorkId : String
  displayTitle : String
  relativeRef : String
  sourceFingerprint : Fp
  byteSize : ℕ
  boundaries : List (ChapterBoundary Fp)
  rightsClass : String
  state : String
  createdAt : String

/-- The tables that a scan writes, the only writer of either. -/
structure ScanTables (Fp : Type) where
  collections : List (CollectionRow Fp)
  versions : List (VersionRow Fp)

def ScanTables.empty : ScanTables Fp := ⟨[], []⟩

def identityValue (identity : NativeIdentity) : Json Fp :=
  obj [("byte_size", int identity.byteSize), ("file_id_high", int identity.fileIdHigh),
    ("file_id_low", int identity.fileIdLow), ("link_count", int identity.linkCount),
    ("volume_id", int identity.volumeId)]

def workValue (work : ScannedWork Fp) : Json Fp :=
  obj [("byte_size", int work.bytes), ("relative_ref", Json.str work.relativeRef),
    ("source_fingerprint", fp work.sourceFingerprint)]

/-- A row with a collection or a fingerprint that is there is refused. -/
def insertCollection [DecidableEq Fp] (rows : List (CollectionRow Fp)) (row : CollectionRow Fp) :
    CoreResult (List (CollectionRow Fp)) := do
  require (∀ other ∈ rows, other.collectionId ≠ row.collectionId)
    (uniqueFailed "corpus_collections.collection_id")
  require (∀ other ∈ rows, other.scanFingerprint ≠ row.scanFingerprint)
    (uniqueFailed "corpus_collections.scan_fingerprint")
  return rows ++ [row]

def insertVersion [DecidableEq Fp] (rows : List (VersionRow Fp)) (row : VersionRow Fp) :
    CoreResult (List (VersionRow Fp)) := do
  require (0 < row.byteSize) (checkFailed "byte_size > 0")
  require (∀ other ∈ rows, other.workVersionId ≠ row.workVersionId)
    (uniqueFailed "corpus_work_versions.work_version_id")
  require (∀ other ∈ rows, ¬ (other.collectionId = row.collectionId ∧
      other.relativeRef = row.relativeRef ∧ other.sourceFingerprint = row.sourceFingerprint))
    (uniqueFailed ("corpus_work_versions.collection_id, corpus_work_versions.relative_ref, " ++
      "corpus_work_versions.source_fingerprint"))
  require (∀ other ∈ rows, ¬ (other.collectionId = row.collectionId ∧
      other.publicWorkId = row.publicWorkId))
    (uniqueFailed "corpus_work_versions.collection_id, corpus_work_versions.public_work_id")
  return rows ++ [row]

section Scan

variable [Sha256 Fp]

def scanFingerprint (identity : NativeIdentity) (works : List (ScannedWork Fp)) : Fp :=
  Sha256.ofJson (obj [("root_identity", identityValue identity),
    ("works", arr (works.map workValue))])

/-! The hexadecimal digits of a fingerprint, `&fingerprint[7..]`, are a parameter. -/

variable (hex : Fp → String)

def collectionId (scan : Fp) : String := "collection_" ++ hex scan

def publicWorkId (scan source : Fp) : String := "work_" ++ hex (Sha256.ofLink (.inr scan) source)

def workVersionId (publicId : String) (source : Fp) : String :=
  "version_" ++ hex (Sha256.ofLink (.inl publicId) source)

def versionRow (scan : Fp) (createdAt : String) (work : ScannedWork Fp) : VersionRow Fp where
  workVersionId := workVersionId hex (publicWorkId hex scan work.sourceFingerprint)
    work.sourceFingerprint
  collectionId := collectionId hex scan
  publicWorkId := publicWorkId hex scan work.sourceFingerprint
  displayTitle := work.title
  relativeRef := work.relativeRef
  sourceFingerprint := work.sourceFingerprint
  byteSize := work.bytes
  boundaries := work.boundaries
  rightsClass := "local_user_provided"
  state := "eligible"
  createdAt := createdAt

/-- The transaction of a scan. -/
def storeScan [DecidableEq Fp] (tables : ScanTables Fp) (collection : Collection)
    (works : List (ScannedWork Fp)) (createdAt : String) : CoreResult (ScanTables Fp) :=
  let scan := scanFingerprint collection.identity works
  let stored := tables.collections.filter fun row => row.collectionId = collectionId hex scan
  if stored.length = 0 then do
    let collections ← insertCollection tables.collections
      { collectionId := collectionId hex scan
        rootPath := displayPath collection.root
        rootIdentity := identityValue collection.identity
        scanFingerprint := scan
        workCount := works.length
        createdAt := createdAt
        updatedAt := createdAt }
    let versions ← forEach insertVersion (works.map (versionRow hex scan createdAt)) tables.versions
    return ⟨collections, versions⟩
  else return tables

def sortWorks (works : List (ScannedWork Fp)) : List (ScannedWork Fp) :=
  works.insertionSort fun a b => a.relativeRef ≤ b.relativeRef

def scanReport (collection : Collection) (works : List (ScannedWork Fp)) : Json Fp :=
  let scan := scanFingerprint collection.identity works
  obj [("authority", .bool false), ("collection_id", .str (collectionId hex scan)),
    ("eligible_work_count", int works.length), ("private_local_only", .bool true),
    ("quarantined_count", int 0), ("scan_fingerprint", fp scan),
    ("schema", .str "quillframe_corpus_collection_scan_v2"), ("source_prose_visible", .bool false)]

def scanCollection [DecidableEq Fp] (sha256 : ByteArray → Fp) (tables : ScanTables Fp)
    (collection : Collection) (createdAt : String) : CoreResult (ScanTables Fp × Json Fp) := do
  require (collection.absolute = true)
    (.invalidProject "Corpus collection path must be absolute")
  guardDirectory collection.root
  let works ← scanDirectory sha256 collection.root (maxScanDepth + 1) [] collection.entries []
  require (¬ works.isEmpty)
    (.invalidProject "Corpus collection contains no eligible UTF-8 txt works")
  let works := sortWorks works
  let tables ← storeScan hex tables collection works createdAt
  return (tables, scanReport hex collection works)

end Scan

/-! ## Ids -/

section Ids

variable [Sha256 Fp] [CollisionFree Fp] {hex : Fp → String} {scan scan' source source' : Fp}
  {publicId publicId' : String}

omit [Sha256 Fp] [CollisionFree Fp] in
theorem collectionId_inj (hhex : Function.Injective hex) :
    collectionId hex scan = collectionId hex scan' ↔ scan = scan' := by
  rw [collectionId, collectionId, String.append_right_inj, hhex.eq_iff]

theorem publicWorkId_inj (hhex : Function.Injective hex) :
    publicWorkId hex scan source = publicWorkId hex scan' source' ↔
      scan = scan' ∧ source = source' := by
  rw [publicWorkId, publicWorkId, String.append_right_inj, hhex.eq_iff]
  constructor
  · intro h
    obtain ⟨hscan, hsource⟩ := CollisionFree.ofLink_injective h
    exact ⟨Sum.inr.inj hscan, hsource⟩
  · rintro ⟨rfl, rfl⟩
    rfl

theorem workVersionId_inj (hhex : Function.Injective hex) :
    workVersionId hex publicId source = workVersionId hex publicId' source' ↔
      publicId = publicId' ∧ source = source' := by
  rw [workVersionId, workVersionId, String.append_right_inj, hhex.eq_iff]
  constructor
  · intro h
    obtain ⟨hpublic, hsource⟩ := CollisionFree.ofLink_injective h
    exact ⟨Sum.inl.inj hpublic, hsource⟩
  · rintro ⟨rfl, rfl⟩
    rfl

/-- What a row and a scanned work say about a work. -/
def workKey (work : ScannedWork Fp) : String × Fp × ℕ :=
  (work.relativeRef, work.sourceFingerprint, work.bytes)

def rowKey (row : VersionRow Fp) : String × Fp × ℕ :=
  (row.relativeRef, row.sourceFingerprint, row.byteSize)

/-- The value of a work in the payload of a scan says its key. -/
def keyValue (key : String × Fp × ℕ) : Json Fp :=
  obj [("byte_size", int key.2.2), ("relative_ref", Json.str key.1),
    ("source_fingerprint", fp key.2.1)]

omit [Sha256 Fp] [CollisionFree Fp] in
theorem keyValue_injective : Function.Injective (keyValue : String × Fp × ℕ → Json Fp) := by
  rintro ⟨ref, source, bytes⟩ ⟨ref', source', bytes'⟩ h
  simp only [keyValue, obj.injEq, List.cons.injEq, Prod.mk.injEq, int.injEq, Json.str.injEq,
    fp.injEq, true_and, and_true, Nat.cast_inj] at h
  obtain ⟨rfl, rfl, rfl⟩ := h
  rfl

theorem scanFingerprint_inj {identity identity' : NativeIdentity}
    {works works' : List (ScannedWork Fp)}
    (h : scanFingerprint identity works = scanFingerprint identity' works') :
    works.map workKey = works'.map workKey := by
  have hjson := CollisionFree.ofJson_injective h
  simp only [obj.injEq, List.cons.injEq, Prod.mk.injEq, arr.injEq, true_and, and_true] at hjson
  have hfactor : (workValue : ScannedWork Fp → Json Fp) = keyValue ∘ workKey := rfl
  have hvalues := hjson.2
  rw [hfactor, ← List.map_map, ← List.map_map] at hvalues
  exact keyValue_injective.list_map hvalues

end Ids

/-! ## The rows derive from the collections -/

/-- No unique constraint keeps both rows from standing in the table. -/
def VersionRow.Apart (other row : VersionRow Fp) : Prop :=
  other.workVersionId ≠ row.workVersionId ∧
    ¬ (other.collectionId = row.collectionId ∧ other.relativeRef = row.relativeRef ∧
      other.sourceFingerprint = row.sourceFingerprint) ∧
    ¬ (other.collectionId = row.collectionId ∧ other.publicWorkId = row.publicWorkId)

theorem insertVersion_eq_ok [DecidableEq Fp] (rows : List (VersionRow Fp)) (row : VersionRow Fp)
    (next : List (VersionRow Fp)) :
    insertVersion rows row = .ok next ↔
      0 < row.byteSize ∧ (∀ other ∈ rows, other.Apart row) ∧ next = rows ++ [row] := by
  simp only [insertVersion, bind_eq_ok, require_eq_ok, exists_const, pure_eq_ok]
  constructor
  · rintro ⟨hsize, hversion, hcontent, hpublic, rfl⟩
    exact ⟨hsize, fun other hother =>
      ⟨hversion other hother, hcontent other hother, hpublic other hother⟩, rfl⟩
  · rintro ⟨hsize, hapart, rfl⟩
    exact ⟨hsize, fun other hother => (hapart other hother).1,
      fun other hother => (hapart other hother).2.1,
      fun other hother => (hapart other hother).2.2, rfl⟩

/-- The rows of a collection. -/
def ScanTables.rowsOf (tables : ScanTables Fp) (id : String) : List (VersionRow Fp) :=
  tables.versions.filter fun row => row.collectionId = id

section Derived

variable [Sha256 Fp] (hex : Fp → String)

structure Derived (tables : ScanTables Fp) : Prop where
  collections : ∀ row ∈ tables.collections,
    row.collectionId = collectionId hex row.scanFingerprint ∧
      ∃ identity works, row.scanFingerprint = scanFingerprint identity works ∧
        (works.map (·.sourceFingerprint)).Nodup ∧
        (tables.rowsOf row.collectionId).map rowKey = works.map workKey
  versions : ∀ row ∈ tables.versions, ∃ stored ∈ tables.collections,
    row.collectionId = stored.collectionId ∧
      row.publicWorkId = publicWorkId hex stored.scanFingerprint row.sourceFingerprint ∧
      row.workVersionId = workVersionId hex row.publicWorkId row.sourceFingerprint

/-- The collection of a scan is stored. -/
def Known (tables : ScanTables Fp) (scan : Fp) : Prop :=
  ∃ row ∈ tables.collections, row.collectionId = collectionId hex scan

variable {hex} [CollisionFree Fp] {tables : ScanTables Fp}

omit [CollisionFree Fp] in
theorem derived_empty : Derived hex (ScanTables.empty : ScanTables Fp) where
  collections row hrow := by cases hrow
  versions row hrow := by cases hrow

/-- A stored collection has one row for each work that was scanned. -/
theorem Derived.rows_of_known (hderived : Derived hex tables) (hhex : Function.Injective hex)
    {identity : NativeIdentity} {works : List (ScannedWork Fp)}
    (hknown : Known hex tables (scanFingerprint identity works)) :
    (tables.rowsOf (collectionId hex (scanFingerprint identity works))).map rowKey =
        works.map workKey ∧
      (works.map (·.sourceFingerprint)).Nodup := by
  obtain ⟨row, hrow, hid⟩ := hknown
  obtain ⟨hrowId, identity', works', hscan, hnodup, hrows⟩ := hderived.collections row hrow
  have hsame : row.scanFingerprint = scanFingerprint identity works :=
    (collectionId_inj hhex).mp (hrowId.symm.trans hid)
  have hkeys := scanFingerprint_inj (hscan.symm.trans hsame)
  rw [hid] at hrows
  refine ⟨hrows.trans hkeys, ?_⟩
  have hsource : ∀ list : List (ScannedWork Fp),
      list.map (·.sourceFingerprint) = (list.map workKey).map fun key => key.2.1 := fun list => by
    rw [List.map_map]
    rfl
  rw [hsource, ← hkeys, ← hsource]
  exact hnodup

theorem apart_versionRow (hhex : Function.Injective hex) (scan : Fp) (createdAt : String)
    (work work' : ScannedWork Fp) :
    (versionRow hex scan createdAt work).Apart (versionRow hex scan createdAt work') ↔
      work.sourceFingerprint ≠ work'.sourceFingerprint := by
  simp only [VersionRow.Apart, versionRow, ne_eq, workVersionId_inj hhex, publicWorkId_inj hhex]
  tauto

/-- A row of another scan clashes with no row that is there. -/
theorem Derived.apart (hderived : Derived hex tables) (hhex : Function.Injective hex) {scan : Fp}
    (hnew : ¬ Known hex tables scan) (createdAt : String) (work : ScannedWork Fp)
    {other : VersionRow Fp} (hother : other ∈ tables.versions) :
    other.Apart (versionRow hex scan createdAt work) := by
  obtain ⟨stored, hstored, hcollection, hpublic, hversion⟩ := hderived.versions other hother
  have hid : other.collectionId ≠ collectionId hex scan := fun he =>
    hnew ⟨stored, hstored, hcollection.symm.trans he⟩
  refine ⟨fun he => ?_, fun he => hid he.1, fun he => hid he.1⟩
  rw [hversion, versionRow, workVersionId_inj hhex, hpublic, publicWorkId_inj hhex] at he
  apply hid
  rw [hcollection, (hderived.collections stored hstored).1, he.1.1]

end Derived

/-! ## Storing a scan -/

section Store

variable [Sha256 Fp] [CollisionFree Fp] [DecidableEq Fp] {hex : Fp → String}
  {tables tables' : ScanTables Fp} {collection : Collection} {works : List (ScannedWork Fp)}
  {createdAt : String}

omit [CollisionFree Fp] in
theorem storeScan_of_known
    (hknown : Known hex tables (scanFingerprint collection.identity works)) :
    storeScan hex tables collection works createdAt = .ok tables := by
  obtain ⟨row, hrow, hid⟩ := hknown
  have hmem : row ∈ tables.collections.filter fun row =>
      row.collectionId = collectionId hex (scanFingerprint collection.identity works) :=
    List.mem_filter.mpr ⟨hrow, by simpa using hid⟩
  exact if_neg (List.length_pos_of_mem hmem).ne'

/-- The row that a scan adds for its collection. -/
def collectionRow (hex : Fp → String) (collection : Collection) (works : List (ScannedWork Fp))
    (createdAt : String) : CollectionRow Fp where
  collectionId := collectionId hex (scanFingerprint collection.identity works)
  rootPath := displayPath collection.root
  rootIdentity := identityValue collection.identity
  scanFingerprint := scanFingerprint collection.identity works
  workCount := works.length
  createdAt := createdAt
  updatedAt := createdAt

/-- The tables with the rows of a scan. -/
def ScanTables.withScan (hex : Fp → String) (tables : ScanTables Fp) (collection : Collection)
    (works : List (ScannedWork Fp)) (createdAt : String) : ScanTables Fp where
  collections := tables.collections ++ [collectionRow hex collection works createdAt]
  versions := tables.versions ++
    works.map (versionRow hex (scanFingerprint collection.identity works) createdAt)

omit [CollisionFree Fp] in
/-- The row of the collection is added when no row of it is there. -/
theorem insertCollection_of_new (hderived : Derived hex tables)
    (hnew : ¬ Known hex tables (scanFingerprint collection.identity works)) :
    insertCollection tables.collections (collectionRow hex collection works createdAt) =
      .ok (tables.collections ++ [collectionRow hex collection works createdAt]) := by
  have hid : ∀ other ∈ tables.collections,
      other.collectionId ≠ (collectionRow hex collection works createdAt).collectionId :=
    fun other hother he => hnew ⟨other, hother, he⟩
  have hscan : ∀ other ∈ tables.collections,
      other.scanFingerprint ≠ (collectionRow hex collection works createdAt).scanFingerprint := by
    intro other hother he
    apply hid other hother
    rw [(hderived.collections other hother).1, he]
    rfl
  rw [insertCollection, require, if_pos hid, require, if_pos hscan]
  rfl

/-- The rows of a new collection are added exactly when its works differ in content. -/
theorem insertVersions_of_new (hderived : Derived hex tables) (hhex : Function.Injective hex)
    {scan : Fp} (hnew : ¬ Known hex tables scan) {versions : List (VersionRow Fp)} :
    forEach insertVersion (works.map (versionRow hex scan createdAt)) tables.versions =
        .ok versions ↔
      (∀ work ∈ works, 0 < work.bytes) ∧ (works.map (·.sourceFingerprint)).Nodup ∧
        versions = tables.versions ++ works.map (versionRow hex scan createdAt) := by
  have hapart : ∀ other ∈ tables.versions, ∀ row ∈ works.map (versionRow hex scan createdAt),
      other.Apart row := by
    intro other hother row hrow
    obtain ⟨work, -, rfl⟩ := List.mem_map.mp hrow
    exact hderived.apart hhex hnew createdAt work hother
  have hpairwise : (works.map (versionRow hex scan createdAt)).Pairwise VersionRow.Apart ↔
      (works.map (·.sourceFingerprint)).Nodup := by
    simp only [List.Nodup, List.pairwise_map, apart_versionRow hhex]
  rw [forEach_append_eq_ok insertVersion_eq_ok, List.forall_mem_map, hpairwise]
  exact and_congr_right fun _ => and_iff_right hapart

/-- A new collection is stored exactly when its works differ in content. -/
theorem storeScan_of_new (hderived : Derived hex tables) (hhex : Function.Injective hex)
    (hnew : ¬ Known hex tables (scanFingerprint collection.identity works)) :
    storeScan hex tables collection works createdAt = .ok tables' ↔
      (∀ work ∈ works, 0 < work.bytes) ∧ (works.map (·.sourceFingerprint)).Nodup ∧
        tables' = tables.withScan hex collection works createdAt := by
  have hcount : (tables.collections.filter fun row =>
      row.collectionId = collectionId hex (scanFingerprint collection.identity works)).length =
        0 := by
    rw [List.length_eq_zero_iff, List.filter_eq_nil_iff]
    intro row hrow hid
    exact hnew ⟨row, hrow, by simpa using hid⟩
  have hstore : storeScan hex tables collection works createdAt =
      (insertCollection tables.collections (collectionRow hex collection works createdAt) >>=
        fun collections =>
          forEach insertVersion (works.map (versionRow hex
              (scanFingerprint collection.identity works) createdAt)) tables.versions >>=
            fun versions => pure ⟨collections, versions⟩) :=
    if_pos hcount
  rw [hstore, insertCollection_of_new hderived hnew, bind_eq_ok]
  simp only [bind_eq_ok, insertVersions_of_new hderived hhex hnew, pure_eq_ok, Except.ok.injEq]
  constructor
  · rintro ⟨collections, rfl, versions, ⟨hsizes, hnodup, rfl⟩, rfl⟩
    exact ⟨hsizes, hnodup, rfl⟩
  · rintro ⟨hsizes, hnodup, rfl⟩
    exact ⟨_, rfl, _, ⟨hsizes, hnodup, rfl⟩, rfl⟩

omit [CollisionFree Fp] [DecidableEq Fp] in
theorem rowsOf_withScan_of_ne {id : String}
    (hne : collectionId hex (scanFingerprint collection.identity works) ≠ id) :
    (tables.withScan hex collection works createdAt).rowsOf id = tables.rowsOf id := by
  have hnone : (works.map (versionRow hex (scanFingerprint collection.identity works)
      createdAt)).filter (fun row => row.collectionId = id) = [] := by
    rw [List.filter_eq_nil_iff, List.forall_mem_map]
    intro work _ he
    exact hne (of_decide_eq_true he)
  rw [ScanTables.rowsOf, ScanTables.withScan, List.filter_append, hnone, List.append_nil,
    ScanTables.rowsOf]

omit [CollisionFree Fp] [DecidableEq Fp] in
theorem rowsOf_withScan (hderived : Derived hex tables)
    (hnew : ¬ Known hex tables (scanFingerprint collection.identity works)) :
    (tables.withScan hex collection works createdAt).rowsOf
        (collectionId hex (scanFingerprint collection.identity works)) =
      works.map (versionRow hex (scanFingerprint collection.identity works) createdAt) := by
  have hnone : tables.versions.filter (fun row => row.collectionId =
      collectionId hex (scanFingerprint collection.identity works)) = [] := by
    rw [List.filter_eq_nil_iff]
    intro row hrow hid
    obtain ⟨stored, hstored, hcollection, -⟩ := hderived.versions row hrow
    exact hnew ⟨stored, hstored, hcollection.symm.trans (of_decide_eq_true hid)⟩
  rw [ScanTables.rowsOf, ScanTables.withScan, List.filter_append, hnone, List.nil_append,
    List.filter_eq_self, List.forall_mem_map]
  intro work _
  exact decide_eq_true rfl

omit [CollisionFree Fp] [DecidableEq Fp] in
theorem Derived.withScan (hderived : Derived hex tables)
    (hnew : ¬ Known hex tables (scanFingerprint collection.identity works))
    (hnodup : (works.map (·.sourceFingerprint)).Nodup) :
    Derived hex (tables.withScan hex collection works createdAt) where
  collections row hrow := by
    rcases List.mem_append.mp hrow with hold | hadded
    · rw [rowsOf_withScan_of_ne fun he => hnew ⟨row, hold, he.symm⟩]
      exact hderived.collections row hold
    · obtain rfl := List.mem_singleton.mp hadded
      refine ⟨rfl, collection.identity, works, rfl, hnodup, ?_⟩
      rw [collectionRow, rowsOf_withScan hderived hnew, List.map_map]
      rfl
  versions row hrow := by
    rcases List.mem_append.mp hrow with hold | hadded
    · obtain ⟨stored, hstored, hrest⟩ := hderived.versions row hold
      exact ⟨stored, List.mem_append_left _ hstored, hrest⟩
    · obtain ⟨work, -, rfl⟩ := List.mem_map.mp hadded
      exact ⟨_, List.mem_append_right _ (List.mem_singleton_self _), rfl, rfl, rfl⟩

/-- A scan keeps the rows derived from the collections, and the collections that are there. -/
theorem Derived.of_storeScan (hderived : Derived hex tables) (hhex : Function.Injective hex)
    (h : storeScan hex tables collection works createdAt = .ok tables') :
    Derived hex tables' ∧ Known hex tables' (scanFingerprint collection.identity works) ∧
      ∀ scan, Known hex tables scan → Known hex tables' scan := by
  by_cases hknown : Known hex tables (scanFingerprint collection.identity works)
  · rw [storeScan_of_known hknown] at h
    rw [← Except.ok.inj h]
    exact ⟨hderived, hknown, fun scan hscan => hscan⟩
  · obtain ⟨-, hnodup, rfl⟩ := (storeScan_of_new hderived hhex hknown).mp h
    refine ⟨hderived.withScan hknown hnodup, ?_, ?_⟩
    · exact ⟨_, List.mem_append_right _ (List.mem_singleton_self _), rfl⟩
    · rintro scan ⟨row, hrow, hid⟩
      exact ⟨row, List.mem_append_left _ hrow, hid⟩

/-- A collection is in the tables after a scan exactly when its works differ in content. -/
theorem Derived.storeScan_iff (hderived : Derived hex tables) (hhex : Function.Injective hex)
    (hsizes : ∀ work ∈ works, 0 < work.bytes) :
    (∃ tables', storeScan hex tables collection works createdAt = .ok tables') ↔
      (works.map (·.sourceFingerprint)).Nodup := by
  by_cases hknown : Known hex tables (scanFingerprint collection.identity works)
  · rw [storeScan_of_known hknown]
    exact iff_of_true ⟨tables, rfl⟩ (hderived.rows_of_known hhex hknown).2
  · simp only [storeScan_of_new hderived hhex hknown]
    exact ⟨fun ⟨_, _, hnodup, _⟩ => hnodup, fun hnodup => ⟨_, hsizes, hnodup, rfl⟩⟩

end Store

/-! ## The works of a collection -/

/-- What a row has to say about a file. -/
def TextFile.key (sha256 : ByteArray → Fp) (file : TextFile) : String × Fp × ℕ :=
  (relativeRef file.relative, sha256 file.content, file.content.size)

/-- The works that the walk finds, in its order. -/
def Collection.found (sha256 : ByteArray → Fp) (collection : Collection) : List (ScannedWork Fp) :=
  collection.texts.filterMap (TextFile.scanned sha256)

section Found

variable {sha256 : ByteArray → Fp} {collection : Collection}

theorem TextFile.content_pos {file : TextFile} (h : file.isWork = true) :
    0 < file.content.size := by
  obtain ⟨text, htext⟩ := Option.isSome_iff_exists.mp h
  obtain ⟨hutf8, hvisible⟩ := Option.filter_eq_some_iff.mp htext
  rw [← byteLength_of_fromUTF8? hutf8]
  apply byteLength_pos
  intro hnil
  simp [blank, hnil] at hvisible

theorem TextFile.key_of_scanned {file : TextFile} {work : ScannedWork Fp}
    (h : file.scanned sha256 = some work) : workKey work = file.key sha256 := by
  obtain ⟨text, -, hboundaries⟩ := Option.bind_eq_some_iff.mp h
  obtain ⟨boundaries, -, rfl⟩ := Option.map_eq_some_iff.mp hboundaries
  rfl

theorem map_workKey_scanned {texts : List TextFile} (hreadable : ∀ file ∈ texts, file.Readable) :
    (texts.filterMap (TextFile.scanned sha256)).map workKey =
      (texts.filter TextFile.isWork).map (TextFile.key sha256) := by
  induction texts with
  | nil => rfl
  | cons file rest ih =>
    have hrest := ih fun other hother => hreadable other (List.mem_cons_of_mem _ hother)
    have hsome : (file.scanned sha256).isSome = file.isWork :=
      (hreadable file List.mem_cons_self).scanned_isSome
    cases hscanned : file.scanned sha256 with
    | none =>
      rw [hscanned] at hsome
      rw [List.filterMap_cons_none hscanned, List.filter_cons_of_neg (by simp [← hsome]), hrest]
    | some work =>
      rw [hscanned] at hsome
      rw [List.filterMap_cons_some hscanned, List.filter_cons_of_pos (by simp [← hsome]),
        List.map_cons, List.map_cons, hrest, TextFile.key_of_scanned hscanned]

namespace Collection.Eligible

variable (h : collection.Eligible)

include h

theorem map_workKey_found :
    (collection.found sha256).map workKey = collection.works.map (TextFile.key sha256) :=
  map_workKey_scanned h.readable

theorem length_found : (collection.found sha256).length = collection.works.length := by
  rw [← List.length_map (f := workKey), h.map_workKey_found, List.length_map]

theorem found_pos : ∀ work ∈ collection.found sha256, 0 < work.bytes := by
  intro work hwork
  have hkey : workKey work ∈ collection.works.map (TextFile.key sha256) := by
    rw [← h.map_workKey_found]
    exact List.mem_map_of_mem hwork
  obtain ⟨file, hfile, he⟩ := List.mem_map.mp hkey
  have hbytes : file.content.size = work.bytes := congrArg (fun key => key.2.2) he
  rw [← hbytes]
  exact TextFile.content_pos (List.mem_filter.mp hfile).2

theorem nodup_sources (hsha : Function.Injective sha256) :
    ((collection.found sha256).map (·.sourceFingerprint)).Nodup ↔
      (collection.works.map TextFile.content).Nodup := by
  have hsources : (collection.found sha256).map (·.sourceFingerprint) =
      (collection.works.map TextFile.content).map sha256 := by
    have hkeys : (collection.found sha256).map (·.sourceFingerprint) =
        ((collection.found sha256).map workKey).map fun key => key.2.1 := by
      rw [List.map_map]
      rfl
    rw [hkeys, h.map_workKey_found, List.map_map, List.map_map]
    rfl
  rw [hsources, List.nodup_map_iff hsha]

end Collection.Eligible

end Found

/-! ## Runs of scans -/

section Runs

variable [Sha256 Fp] [DecidableEq Fp] {hex : Fp → String} {sha256 : ByteArray → Fp}
  {tables tables' : ScanTables Fp} {collection : Collection} {createdAt : String}

theorem scanCollection_eq_ok {report : Json Fp}
    (h : scanCollection hex sha256 tables collection createdAt = .ok (tables', report)) :
    ∃ found, forEach (scanVisit sha256 collection.root) collection.visits [] = .ok found ∧
      storeScan hex tables collection (sortWorks found) createdAt = .ok tables' ∧
      report = scanReport hex collection (sortWorks found) := by
  simp only [scanCollection, scanDirectory_eq, bind_eq_ok, pure_eq_ok] at h
  obtain ⟨-, -, -, -, found, hfound, -, -, stored, hstored, he⟩ := h
  obtain ⟨rfl, rfl⟩ := Prod.mk.inj he
  exact ⟨found, hfound, hstored, rfl⟩

/-- A collection in reach of the scan is stored while there is room for its works. -/
theorem scanCollection_of_eligible (h : collection.Eligible) (report : Json Fp) :
    scanCollection hex sha256 tables collection createdAt = .ok (tables', report) ↔
      Roomy collection.texts ∧
        storeScan hex tables collection (sortWorks (collection.found sha256)) createdAt =
          .ok tables' ∧
        report = scanReport hex collection (sortWorks (collection.found sha256)) := by
  have hwalk : (∀ found, forEach (scanVisit sha256 collection.root) collection.visits [] =
      .ok found → found = [] ++ collection.found sha256) ∧
      ((∃ found, forEach (scanVisit sha256 collection.root) collection.visits [] = .ok found) ↔
        RoomyFrom 0 collection.texts) :=
    forEach_scanVisit h.admitted h.readable []
  obtain ⟨hfound, hexists⟩ := hwalk
  have hroomy : RoomyFrom 0 collection.texts ↔ Roomy collection.texts := by
    simp only [roomyFrom_iff, Roomy, Nat.zero_add]
  rw [hroomy] at hexists
  constructor
  · intro hscan
    obtain ⟨found, hwalked, hstored, hreport⟩ := scanCollection_eq_ok hscan
    rw [hfound found hwalked] at hstored hreport
    exact ⟨hexists.mp ⟨found, hwalked⟩, hstored, hreport⟩
  · rintro ⟨hroom, hstored, rfl⟩
    obtain ⟨found, hwalked⟩ := hexists.mpr hroom
    have he : found = collection.found sha256 := hfound found hwalked
    rw [he] at hwalked
    have hguard : guardDirectory collection.root = .ok () := by
      have hroot := h.admitted (.directory []) List.mem_cons_self
      rwa [Visit.Admitted, List.append_nil] at hroot
    have hne : ¬ (collection.found sha256).isEmpty = true := by
      rw [List.isEmpty_iff_length_eq_zero, h.length_found, List.length_eq_zero_iff]
      exact h.works_ne_nil
    simp only [scanCollection, scanDirectory_eq, bind_eq_ok, require_eq_ok, pure_eq_ok]
    exact ⟨(), h.absolute, (), hguard, _, hwalked, (), hne, _, hstored, rfl⟩

variable (hex sha256) in
/-- A scan of some collection succeeds. -/
def Scanned (tables tables' : ScanTables Fp) : Prop :=
  ∃ collection createdAt report,
    scanCollection hex sha256 tables collection createdAt = .ok (tables', report)

variable [CollisionFree Fp]

theorem Scanned.derived (hhex : Function.Injective hex) (h : Scanned hex sha256 tables tables')
    (hderived : Derived hex tables) :
    Derived hex tables' ∧ ∀ scan, Known hex tables scan → Known hex tables' scan := by
  obtain ⟨collection, createdAt, report, hscan⟩ := h
  obtain ⟨found, -, hstored, -⟩ := scanCollection_eq_ok hscan
  obtain ⟨hderived', -, hkeep⟩ := hderived.of_storeScan hhex hstored
  exact ⟨hderived', hkeep⟩

/-- After any run of scans the rows derive from the collections. -/
theorem derived_of_run (hhex : Function.Injective hex)
    (hrun : ReflTransGen (Scanned hex sha256) .empty tables) : Derived hex tables :=
  invariant_of_step (P := Derived hex) (fun _ _ hscan hderived => (hscan.derived hhex hderived).1)
    hrun derived_empty

/-- A collection that is stored stays stored. -/
theorem known_of_run (hhex : Function.Injective hex) (hderived : Derived hex tables)
    (hrun : ReflTransGen (Scanned hex sha256) tables tables') {scan : Fp}
    (hknown : Known hex tables scan) : Known hex tables' scan := by
  have hboth : Derived hex tables' ∧ Known hex tables' scan :=
    invariant_of_step (P := fun tables => Derived hex tables ∧ Known hex tables scan)
      (fun _ _ hscan hboth =>
        have hkept := hscan.derived hhex hboth.1
        ⟨hkept.1, hkept.2 scan hboth.2⟩)
      hrun ⟨hderived, hknown⟩
  exact hboth.2

/-! ## Each work once -/

variable (hex sha256) in
/-- The scan stores one row for each work and reports their number, the rows of every other
collection stay, and after any further scans the collection is scanned to no effect. -/
def StoresEach (tables : ScanTables Fp) (collection : Collection) (createdAt : String) : Prop :=
  ∃ tables' report id,
    scanCollection hex sha256 tables collection createdAt = .ok (tables', report) ∧
    report.get? "collection_id" = some (.str id) ∧
    report.get? "eligible_work_count" = some (int collection.works.length) ∧
    ((tables'.rowsOf id).map rowKey).Perm (collection.works.map (TextFile.key sha256)) ∧
    (∀ other, other ≠ id → tables'.rowsOf other = tables.rowsOf other) ∧
    ∀ later, ReflTransGen (Scanned hex sha256) tables' later → ∀ createdAt',
      scanCollection hex sha256 later collection createdAt' = .ok (later, report)

omit [Sha256 Fp] [DecidableEq Fp] [CollisionFree Fp] in
theorem perm_sortWorks (works : List (ScannedWork Fp)) : (sortWorks works).Perm works :=
  List.perm_insertionSort _ works

/-- A scan leaves the rows of other collections alone. -/
theorem rowsOf_storeScan {works : List (ScannedWork Fp)} (hhex : Function.Injective hex)
    (hderived : Derived hex tables)
    (h : storeScan hex tables collection works createdAt = .ok tables') {other : String}
    (hother : other ≠ collectionId hex (scanFingerprint collection.identity works)) :
    tables'.rowsOf other = tables.rowsOf other := by
  by_cases hknown : Known hex tables (scanFingerprint collection.identity works)
  · rw [storeScan_of_known hknown] at h
    rw [← Except.ok.inj h]
  · obtain ⟨-, -, rfl⟩ := (storeScan_of_new hderived hhex hknown).mp h
    exact rowsOf_withScan_of_ne hother.symm

/-- A collection is scanned exactly when no two works are of one content and there is room for
each text file. -/
theorem Derived.scans_iff (hderived : Derived hex tables) (hsha : Function.Injective sha256)
    (hhex : Function.Injective hex) (h : collection.Eligible) (createdAt : String) :
    (∃ tables' report,
        scanCollection hex sha256 tables collection createdAt = .ok (tables', report)) ↔
      (collection.works.map TextFile.content).Nodup ∧ Roomy collection.texts := by
  have hsorted := perm_sortWorks (collection.found sha256)
  have hsizes : ∀ work ∈ sortWorks (collection.found sha256), 0 < work.bytes :=
    fun work hwork => h.found_pos work (hsorted.mem_iff.mp hwork)
  have hstores : (∃ tables', storeScan hex tables collection
      (sortWorks (collection.found sha256)) createdAt = .ok tables') ↔
        (collection.works.map TextFile.content).Nodup := by
    rw [hderived.storeScan_iff hhex hsizes, (hsorted.map _).nodup_iff, h.nodup_sources hsha]
  rw [← hstores]
  constructor
  · rintro ⟨tables', report, hscan⟩
    obtain ⟨hroom, hstored, -⟩ := (scanCollection_of_eligible h report).mp hscan
    exact ⟨⟨tables', hstored⟩, hroom⟩
  · rintro ⟨⟨tables', hstored⟩, hroom⟩
    exact ⟨tables', _, (scanCollection_of_eligible h _).mpr ⟨hroom, hstored, rfl⟩⟩

/-- A scan that succeeds stores every work of the collection. -/
theorem Derived.storesEach (hderived : Derived hex tables) (hhex : Function.Injective hex)
    (h : collection.Eligible) {report : Json Fp}
    (hscan : scanCollection hex sha256 tables collection createdAt = .ok (tables', report)) :
    StoresEach hex sha256 tables collection createdAt := by
  obtain ⟨hroom, hstored, rfl⟩ := (scanCollection_of_eligible h report).mp hscan
  obtain ⟨hderived', hknown, -⟩ := hderived.of_storeScan hhex hstored
  have hsorted := perm_sortWorks (collection.found sha256)
  have hcount : (sortWorks (collection.found sha256)).length = collection.works.length := by
    rw [hsorted.length_eq, h.length_found]
  refine ⟨tables', _, _, hscan, rfl, ?_, ?_,
    fun other => rowsOf_storeScan hhex hderived hstored, ?_⟩
  · exact congrArg (fun n : ℕ => some (int n)) hcount
  · rw [(hderived'.rows_of_known hhex hknown).1, ← h.map_workKey_found]
    exact hsorted.map workKey
  · intro later hlater createdAt'
    have hstill := known_of_run hhex hderived' hlater hknown
    exact (scanCollection_of_eligible h _).mpr ⟨hroom, storeScan_of_known hstill, rfl⟩

/-- After any run of scans, every work of a collection is stored exactly when no two are of one
content and there is room for each text file. -/
theorem storesEach_iff (hsha : Function.Injective sha256) (hhex : Function.Injective hex)
    (hrun : ReflTransGen (Scanned hex sha256) .empty tables) (h : collection.Eligible)
    (createdAt : String) :
    StoresEach hex sha256 tables collection createdAt ↔
      (collection.works.map TextFile.content).Nodup ∧ Roomy collection.texts := by
  have hderived := derived_of_run hhex hrun
  rw [← hderived.scans_iff hsha hhex h createdAt]
  constructor
  · rintro ⟨tables', report, -, hscan, -⟩
    exact ⟨tables', report, hscan⟩
  · rintro ⟨tables', report, hscan⟩
    exact hderived.storesEach hhex h hscan

end Runs

/-- There is room for as many text files as works may be found. -/
theorem roomy_of_length_le {texts : List TextFile} (h : texts.length ≤ maxScanWorks) :
    Roomy texts := by
  rintro front file back rfl
  have hfront := List.length_filter_le TextFile.isWork front
  rw [List.length_append, List.length_cons] at h
  omega

namespace Sample

def fileName (text : String) : OsName := text.toByteArray.data.toList

def plainFile (text : String) : SourceFile := ⟨text.toByteArray, 1⟩

def pairCollection (first second : String) : Collection where
  absolute := true
  root := [fileName "novels"]
  identity := ⟨1, 2, 3, 4, 5⟩
  entries :=
    [(fileName "b.txt", .file (plainFile second)), (fileName "a.TXT", .file (plainFile first))]

def pairTexts (first second : String) : List TextFile :=
  [⟨[fileName "a.TXT"], plainFile first⟩, ⟨[fileName "b.txt"], plainFile second⟩]

theorem pairCollection_eligible {first second : String}
    (hread : ∀ text ∈ [first, second], text.toByteArray.size ≤ maxWorkBytes ∧
      (String.fromUTF8? (stripMark text.toByteArray)).isSome = true)
    (hworks : ∀ file ∈ pairTexts first second, file.isWork = true) :
    (pairCollection first second).Eligible where
  absolute := rfl
  admitted visit hvisit := by
    have hvisits : (pairCollection first second).visits =
        .directory [] :: (pairTexts first second).map .text := rfl
    simp only [hvisits, pairTexts, List.map_cons, List.map_nil, List.mem_cons,
      List.not_mem_nil, or_false] at hvisit
    rcases hvisit with rfl | rfl | rfl <;> rfl
  readable := by
    have hfile : ∀ (name : OsName), ∀ text ∈ [first, second],
        TextFile.Readable ⟨[name], plainFile text⟩ := fun name text htext =>
      ⟨rfl, (hread text htext).1, Option.isSome_iff_exists.mp (hread text htext).2⟩
    change ∀ file ∈ pairTexts first second, file.Readable
    simp only [pairTexts, List.forall_mem_cons]
    exact ⟨hfile _ first (by simp), hfile _ second (by simp), by simp⟩
  works_ne_nil he := by
    have hnil : pairTexts first second = [] := (List.filter_eq_self.mpr hworks).symm.trans he
    cases hnil
  few := by
    have hlength : (pairCollection first second).works.length = 2 :=
      congrArg List.length (List.filter_eq_self.mpr hworks)
    rw [hlength]
    decide

theorem distinct_eligible : (pairCollection "one" "two").Eligible :=
  pairCollection_eligible (by decide +kernel) (by decide +kernel)

theorem equal_eligible : (pairCollection "one" "one").Eligible :=
  pairCollection_eligible (by decide +kernel) (by decide +kernel)

end Sample

theorem storesEach_iff_sample :
    StoresEach Digest.hex Digest.ofBytes .empty (Sample.pairCollection "one" "two") "now" := by
  refine (storesEach_iff Digest.ofBytes_injective Digest.hex_injective .refl
    Sample.distinct_eligible _).mpr ⟨?_, ?_⟩
  · decide +kernel
  · exact roomy_of_length_le (by decide)

/-- Two works of one content. -/
theorem equal_contents_refused :
    (Sample.pairCollection "one" "one").Eligible ∧
      ¬ StoresEach Digest.hex Digest.ofBytes .empty (Sample.pairCollection "one" "one") "now" := by
  refine ⟨Sample.equal_eligible, ?_⟩
  rintro ⟨tables', report, -, hscan, -⟩
  have hcontents := (derived_empty.scans_iff Digest.ofBytes_injective Digest.hex_injective
    Sample.equal_eligible _).mp ⟨tables', report, hscan⟩
  exact absurd hcontents.1 (by decide +kernel)

end Quillframe.Corpus
