import Mathlib.Data.List.Sort
import Quillframe.Corpus.Units

/-!
# The scan of a collection

A directory is walked in the order of its file names, and every text file in it that is not blank
becomes a work. Links, deep nesting and files that the native reader refuses end the scan.
-/
namespace Quillframe.Corpus

variable {Fp : Type}

/-! ## Names -/

/-- A component of a path. -/
abbrev OsName := List UInt8

/-- The ranges of the bytes that follow the first byte of a character. -/
def continuations (lead : ℕ) : Option (List (ℕ × ℕ)) :=
  if lead < 0x80 then some []
  else if 0xc2 ≤ lead ∧ lead ≤ 0xdf then some [(0x80, 0xbf)]
  else if lead = 0xe0 then some [(0xa0, 0xbf), (0x80, 0xbf)]
  else if lead = 0xed then some [(0x80, 0x9f), (0x80, 0xbf)]
  else if 0xe1 ≤ lead ∧ lead ≤ 0xef then some [(0x80, 0xbf), (0x80, 0xbf)]
  else if lead = 0xf0 then some [(0x90, 0xbf), (0x80, 0xbf), (0x80, 0xbf)]
  else if 0xf1 ≤ lead ∧ lead ≤ 0xf3 then some [(0x80, 0xbf), (0x80, 0xbf), (0x80, 0xbf)]
  else if lead = 0xf4 then some [(0x80, 0x8f), (0x80, 0xbf), (0x80, 0xbf)]
  else none

/-- How many of the bytes are in their ranges before one is not. -/
def matched : List (ℕ × ℕ) → List UInt8 → ℕ
  | (low, high) :: ranges, byte :: rest =>
    if low ≤ byte.toNat ∧ byte.toNat ≤ high then 1 + matched ranges rest else 0
  | _, _ => 0

/-- The character of a first byte and the bytes that belong to it. -/
def decodeChar (lead : ℕ) (following : List UInt8) : Char :=
  let payload :=
    match following.length with
    | 0 => lead
    | 1 => lead - 0xc0
    | 2 => lead - 0xe0
    | _ => lead - 0xf0
  Char.ofNat (following.foldl (fun n byte => n * 64 + (byte.toNat - 0x80)) payload)

/-- The decoding behind some bytes that are skipped; `U+FFFD` stands for what is no character. -/
def lossyFrom : ℕ → List UInt8 → List Char
  | _, [] => []
  | skipped + 1, _ :: rest => lossyFrom skipped rest
  | 0, lead :: rest =>
    match continuations lead.toNat with
    | none => Char.ofNat 0xfffd :: lossyFrom 0 rest
    | some ranges =>
      let found := matched ranges rest
      (if found = ranges.length then decodeChar lead.toNat (rest.take found)
        else Char.ofNat 0xfffd) :: lossyFrom found rest

/-- `name.to_string_lossy()`. -/
def toStringLossy (name : OsName) : String := String.ofList (lossyFrom 0 name)

example : toStringLossy [0x61, 0xe7, 0xab, 0xa0, 0xe7, 0xab, 0x2e] = "a章\ufffd." := by decide

/-- The name up to its last dot and behind it. -/
def splitExtension (name : OsName) : Option (OsName × OsName) :=
  let after := (name.reverse.takeWhile (· ≠ 0x2e)).reverse
  let before := name.take (name.length - after.length - 1)
  if after.length = name.length ∨ before = [] ∨ name = [0x2e, 0x2e] then none
  else some (before, after)

def asciiLower (byte : UInt8) : UInt8 :=
  if 0x41 ≤ byte ∧ byte ≤ 0x5a then byte + 0x20 else byte

/-- `path.extension()` is `txt` in any case. -/
def isTxt (name : OsName) : Bool :=
  (splitExtension name).any fun parts => parts.2.map asciiLower = [0x74, 0x78, 0x74]

/-- `path.file_stem().and_then(|value| value.to_str()).unwrap_or("untitled").trim()`. -/
def fileTitle (name : OsName) : String :=
  let stem := ((splitExtension name).map Prod.fst).getD name
  trim ((String.fromUTF8? ⟨stem.toArray⟩).getD "untitled")

/-! ## The native reader -/

def nativeError (code : ℕ) (message : String) : CoreError :=
  .storage ("native filesystem error " ++ toString code ++ ": " ++ message)

def validateComponent (component : OsName) : CoreResult Unit := do
  require (component ≠ [0x2e, 0x2e]) (nativeError 3 "native path is not canonical")
  let value := lossyFrom 0 component
  require (¬ (value = [] ∨ value.getLast? = some ' ' ∨ value.getLast? = some '.'))
    (nativeError 3 "path component has an unsafe suffix")
  require (∀ character ∈ value, ¬ (character = ':' ∨ character.toNat < 0x20))
    (nativeError 3 "path component contains an alternate stream or control character")

/-- `guard_directory` on a directory that is there, by the components of its path. -/
def guardDirectory (path : List OsName) : CoreResult Unit :=
  forEach (fun _ component => validateComponent component) path ()

structure SourceFile where
  bytes : ByteArray
  linkCount : ℕ

def readGuardedFile (path : List OsName) (file : SourceFile) : CoreResult ByteArray := do
  guardDirectory path
  require (file.linkCount = 1) (nativeError 6 "native file must have exactly one hard link")
  require (file.bytes.size ≤ maxWorkBytes)
    (nativeError 1 "guarded file exceeds the configured byte limit")
  return file.bytes

/-! ## The walk -/

inductive DirEntry where
  | link
  | directory (entries : List (OsName × DirEntry))
  | file (source : SourceFile)
  | other

structure ScannedWork (Fp : Type) where
  relativeRef : String
  title : String
  sourceFingerprint : Fp
  bytes : ℕ
  boundaries : List (ChapterBoundary Fp)

/-- `MAX_SCAN_WORKS`. -/
def maxScanWorks : ℕ := 500

/-- `MAX_SCAN_DEPTH`. -/
def maxScanDepth : ℕ := 8

/-- The components of a path below the root, as a reference. -/
def relativeRef (relative : List OsName) : String :=
  String.intercalate "/" (relative.map toStringLossy)

def displayPath (path : List OsName) : String :=
  "/" ++ String.intercalate "/" (path.map toStringLossy)

/-- `entries.sort_by_key(|entry| entry.file_name())`. -/
def sortEntries (entries : List (OsName × DirEntry)) : List (OsName × DirEntry) :=
  entries.insertionSort fun a b => a.1 ≤ b.1

section Walk

variable (sha256 : ByteArray → Fp) (root : List OsName)

/-- The loop body on a text file. -/
def scanFile (relative : List OsName) (file : SourceFile) (works : List (ScannedWork Fp)) :
    CoreResult (List (ScannedWork Fp)) := do
  require (works.length < maxScanWorks)
    (.invalidProject ("Corpus collection exceeds 500 eligible works; split it into explicit " ++
      "collections"))
  let raw ← readGuardedFile (root ++ relative) file
  require (file.linkCount = 1)
    (.invalidProject "Corpus source must have exactly one hard link")
  let bytes := stripMark raw
  let text ← fetch (String.fromUTF8? bytes)
    (.invalidProject ("Corpus TXT is not UTF-8: " ++ displayPath (root ++ relative)))
  if blank text then return works
  else do
    let sourceFingerprint := sha256 bytes
    let boundaries ← chapterBoundaries text.toList sourceFingerprint
    return works ++ [{
      relativeRef := relativeRef relative
      title := fileTitle (relative.getLast?.getD [])
      sourceFingerprint
      bytes := bytes.size
      boundaries }]

/-- `scan_directory`, by the levels that may still be entered. -/
def scanDirectory : ℕ → List OsName → List (OsName × DirEntry) → List (ScannedWork Fp) →
    CoreResult (List (ScannedWork Fp))
  | 0, _, _, _ =>
    .error (.invalidProject "Corpus directory nesting exceeds the supported depth")
  | levels + 1, relative, entries, works => do
    guardDirectory (root ++ relative)
    forEach (fun works (entry : OsName × DirEntry) =>
      match entry.2 with
      | .link => .error (.invalidProject "Corpus scan rejects links and reparse points")
      | .directory inner => scanDirectory levels (relative ++ [entry.1]) inner works
      | .file source =>
        if isTxt entry.1 then scanFile sha256 root (relative ++ [entry.1]) source works
        else .ok works
      | .other => .ok works) (sortEntries entries) works

end Walk

/-! ## The walk as a list of visits -/

/-- A text file with the components of its path below the root. -/
structure TextFile where
  relative : List OsName
  source : SourceFile

inductive Visit where
  | tooDeep
  | directory (relative : List OsName)
  | link
  | text (file : TextFile)

/-- What the walk meets, in its order. -/
def visits : ℕ → List OsName → List (OsName × DirEntry) → List Visit
  | 0, _, _ => [.tooDeep]
  | levels + 1, relative, entries =>
    .directory relative :: (sortEntries entries).flatMap fun entry =>
      match entry.2 with
      | .link => [.link]
      | .directory inner => visits levels (relative ++ [entry.1]) inner
      | .file source => if isTxt entry.1 then [.text ⟨relative ++ [entry.1], source⟩] else []
      | .other => []

def Visit.text? : Visit → Option TextFile
  | text file => some file
  | _ => none

section Visits

variable (sha256 : ByteArray → Fp) (root : List OsName)

def scanVisit (works : List (ScannedWork Fp)) : Visit → CoreResult (List (ScannedWork Fp))
  | .tooDeep => .error (.invalidProject "Corpus directory nesting exceeds the supported depth")
  | .directory relative => do
    guardDirectory (root ++ relative)
    return works
  | .link => .error (.invalidProject "Corpus scan rejects links and reparse points")
  | .text file => scanFile sha256 root file.relative file.source works

theorem scanDirectory_eq (levels : ℕ) (relative : List OsName)
    (entries : List (OsName × DirEntry)) (works : List (ScannedWork Fp)) :
    scanDirectory sha256 root levels relative entries works =
      forEach (scanVisit sha256 root) (visits levels relative entries) works := by
  induction levels generalizing relative entries works with
  | zero => rfl
  | succ levels ih =>
    have hentry : ∀ entry ∈ sortEntries entries, ∀ works : List (ScannedWork Fp),
        (match entry.2 with
          | .link => .error (.invalidProject "Corpus scan rejects links and reparse points")
          | .directory inner => scanDirectory sha256 root levels (relative ++ [entry.1]) inner works
          | .file source =>
            if isTxt entry.1 then scanFile sha256 root (relative ++ [entry.1]) source works
            else .ok works
          | .other => .ok works) =
        forEach (scanVisit sha256 root)
          (match entry.2 with
            | .link => [Visit.link]
            | .directory inner => visits levels (relative ++ [entry.1]) inner
            | .file source => if isTxt entry.1 then [.text ⟨relative ++ [entry.1], source⟩] else []
            | .other => []) works := by
      intro entry _ works
      cases entry.2 with
      | link => rfl
      | directory inner => exact ih (relative ++ [entry.1]) inner works
      | file source =>
        by_cases htxt : isTxt entry.1 = true
        · simp only [if_pos htxt, forEach, scanVisit]
          cases scanFile sha256 root (relative ++ [entry.1]) source works <;> rfl
        · simp only [if_neg htxt, forEach]
      | other => rfl
    rw [scanDirectory, visits, forEach, scanVisit, bind_assoc]
    congr 1
    funext _
    exact forEach_flatMap hentry works

end Visits

/-! ## Collections that can be walked -/

/-- `identity_value` of the root. -/
structure NativeIdentity where
  volumeId : ℕ
  fileIdLow : ℕ
  fileIdHigh : ℕ
  linkCount : ℕ
  byteSize : ℕ
  deriving DecidableEq, Repr

/-- A directory on disk that is handed to a scan. -/
structure Collection where
  absolute : Bool
  root : List OsName
  identity : NativeIdentity
  entries : List (OsName × DirEntry)

/-- The content of a file without its byte order mark. -/
def TextFile.content (file : TextFile) : ByteArray := stripMark file.source.bytes

/-- The text of a file that is not blank. -/
def TextFile.text? (file : TextFile) : Option String :=
  (String.fromUTF8? file.content).filter fun text => ¬ blank text

def TextFile.isWork (file : TextFile) : Bool := file.text?.isSome

namespace Collection

def visits (collection : Collection) : List Visit :=
  Corpus.visits (maxScanDepth + 1) [] collection.entries

/-- The text files in the order of the scan. -/
def texts (collection : Collection) : List TextFile := collection.visits.filterMap Visit.text?

def works (collection : Collection) : List TextFile := collection.texts.filter TextFile.isWork

end Collection

/-- The native reader accepts the path that is visited. -/
def Visit.Admitted (root : List OsName) : Visit → Prop
  | tooDeep | link => False
  | directory relative => guardDirectory (root ++ relative) = .ok ()
  | text file => guardDirectory (root ++ file.relative) = .ok ()

/-- A file that is read: plain, of a size that is supported, and in UTF-8. -/
structure TextFile.Readable (file : TextFile) : Prop where
  linkCount : file.source.linkCount = 1
  size : file.source.bytes.size ≤ maxWorkBytes
  utf8 : ∃ text, String.fromUTF8? file.content = some text

/-- A collection of at most `MAX_SCAN_WORKS` works within the limits of the scan. -/
structure Collection.Eligible (collection : Collection) : Prop where
  absolute : collection.absolute = true
  admitted : ∀ visit ∈ collection.visits, visit.Admitted collection.root
  readable : ∀ file ∈ collection.texts, file.Readable
  works_ne_nil : collection.works ≠ []
  few : collection.works.length ≤ maxScanWorks

section Walked

variable (sha256 : ByteArray → Fp) {root : List OsName}

/-- The work that a file is scanned as. -/
def TextFile.scanned (file : TextFile) : Option (ScannedWork Fp) :=
  file.text?.bind fun text =>
    (chapterBoundaries text.toList (sha256 file.content)).toOption.map fun boundaries =>
      { relativeRef := relativeRef file.relative
        title := fileTitle (file.relative.getLast?.getD [])
        sourceFingerprint := sha256 file.content
        bytes := file.content.size
        boundaries }

theorem size_stripMark_le (raw : ByteArray) : (stripMark raw).size ≤ raw.size := by
  rw [stripMark]
  split_ifs
  · rw [ByteArray.size_extract]
    omega
  · exact le_rfl

theorem byteLength_of_fromUTF8? {bytes : ByteArray} {text : String}
    (h : String.fromUTF8? bytes = some text) : Utf8.byteLength text.toList = bytes.size := by
  rw [String.fromUTF8?] at h
  split_ifs at h with hvalid
  have htext := Option.some.inj h
  rw [← size_utf8Encode, String.utf8Encode_toList, ← htext]
  rfl

variable {sha256}

theorem TextFile.text?_of_blank {file : TextFile} {text : String}
    (htext : String.fromUTF8? file.content = some text) (hblank : blank text = true) :
    file.text? = none := by
  rw [TextFile.text?, htext]
  exact Option.filter_some_neg (by simpa using hblank)

theorem TextFile.text?_of_not_blank {file : TextFile} {text : String}
    (htext : String.fromUTF8? file.content = some text) (hblank : ¬ blank text = true) :
    file.text? = some text := by
  rw [TextFile.text?, htext]
  exact Option.filter_some_pos (by simpa using hblank)

theorem TextFile.Readable.scanned_isSome {file : TextFile} (h : file.Readable) :
    (file.scanned sha256).isSome = file.isWork := by
  obtain ⟨text, htext⟩ := h.utf8
  by_cases hblank : blank text = true
  · simp [TextFile.scanned, TextFile.isWork, TextFile.text?_of_blank htext hblank]
  · have hsize : Utf8.byteLength text.toList ≤ maxWorkBytes := by
      rw [byteLength_of_fromUTF8? htext]
      exact (size_stripMark_le _).trans h.size
    have hwork := TextFile.text?_of_not_blank htext hblank
    obtain ⟨boundaries, hboundaries, -⟩ :=
      exists_chapterBoundaries hblank hsize (sha256 file.content)
    simp [TextFile.scanned, TextFile.isWork, hwork, hboundaries, Except.toOption]

def tooMany : CoreError :=
  .invalidProject ("Corpus collection exceeds 500 eligible works; split it into explicit " ++
    "collections")

/-- A text file is scanned while fewer than `MAX_SCAN_WORKS` works have been found. -/
theorem scanFile_eq {file : TextFile} (h : file.Readable)
    (hadmitted : guardDirectory (root ++ file.relative) = .ok ()) (works : List (ScannedWork Fp)) :
    scanFile sha256 root file.relative file.source works =
      if works.length < maxScanWorks then .ok (works ++ (file.scanned sha256).toList)
      else .error tooMany := by
  by_cases hroom : works.length < maxScanWorks
  · obtain ⟨text, htext⟩ := h.utf8
    have hread : readGuardedFile (root ++ file.relative) file.source = .ok file.source.bytes := by
      simp [readGuardedFile, hadmitted, h.linkCount, h.size, require, bind, Except.bind, pure,
        Except.pure]
    have hlink : require (file.source.linkCount = 1)
        (CoreError.invalidProject "Corpus source must have exactly one hard link") = .ok () :=
      if_pos h.linkCount
    have hcontent : stripMark file.source.bytes = file.content := rfl
    rw [if_pos hroom, scanFile, require, if_pos hroom, hread]
    simp only [bind, Except.bind, hlink, hcontent, htext, fetch]
    by_cases hblank : blank text = true
    · have hnone : file.scanned sha256 = none := by
        rw [TextFile.scanned, TextFile.text?_of_blank htext hblank]
        rfl
      rw [if_pos hblank, hnone, Option.toList_none, List.append_nil]
      rfl
    · have hwork := TextFile.text?_of_not_blank htext hblank
      have hsome : (file.scanned sha256).isSome = file.isWork := h.scanned_isSome
      rw [TextFile.isWork, hwork, TextFile.scanned, hwork, Option.bind_some] at hsome
      rw [if_neg hblank, TextFile.scanned, hwork, Option.bind_some]
      cases hboundaries : chapterBoundaries text.toList (sha256 file.content) with
      | error e =>
        rw [hboundaries] at hsome
        cases hsome
      | ok boundaries => rfl
  · rw [if_neg hroom, scanFile, require, if_neg hroom]
    rfl

/-- Every text file comes while fewer than `MAX_SCAN_WORKS` works have been found. -/
def RoomyFrom : ℕ → List TextFile → Prop
  | _, [] => True
  | found, file :: rest =>
    found < maxScanWorks ∧ RoomyFrom (found + if file.isWork then 1 else 0) rest

/-- Fewer than `MAX_SCAN_WORKS` works stand in front of every text file. -/
def Roomy (texts : List TextFile) : Prop :=
  ∀ front file back, texts = front ++ file :: back →
    (front.filter TextFile.isWork).length < maxScanWorks

theorem roomyFrom_iff (found : ℕ) (texts : List TextFile) :
    RoomyFrom found texts ↔ ∀ front file back, texts = front ++ file :: back →
      found + (front.filter TextFile.isWork).length < maxScanWorks := by
  induction texts generalizing found with
  | nil => simp [RoomyFrom]
  | cons first rest ih =>
    rw [RoomyFrom, ih]
    constructor
    · rintro ⟨hfound, hrest⟩ front file back hsplit
      cases front with
      | nil => simpa using hfound
      | cons head front =>
        obtain ⟨rfl, htail⟩ := List.cons.inj hsplit
        have hroom := hrest front file back htail
        by_cases hwork : first.isWork = true
        · rw [if_pos hwork] at hroom
          rw [List.filter_cons_of_pos hwork, List.length_cons]
          omega
        · rw [if_neg hwork] at hroom
          rwa [List.filter_cons_of_neg hwork]
    · intro h
      refine ⟨by simpa using h [] first rest rfl, fun front file back hsplit => ?_⟩
      have hroom := h (first :: front) file back (by rw [hsplit, List.cons_append])
      by_cases hwork : first.isWork = true
      · rw [List.filter_cons_of_pos hwork, List.length_cons] at hroom
        rw [if_pos hwork]
        omega
      · rw [List.filter_cons_of_neg hwork] at hroom
        rwa [if_neg hwork]

theorem length_scanned {file : TextFile} (h : file.Readable) :
    (file.scanned sha256).toList.length = if file.isWork then 1 else 0 := by
  have hsome : (file.scanned sha256).isSome = file.isWork := h.scanned_isSome
  rw [← hsome]
  cases file.scanned sha256 <;> rfl

/-- The walk finds the works among the text files, and ends well exactly while there is room. -/
theorem forEach_scanVisit {seen : List Visit} (hadmitted : ∀ visit ∈ seen, visit.Admitted root)
    (hreadable : ∀ file ∈ seen.filterMap Visit.text?, file.Readable)
    (works : List (ScannedWork Fp)) :
    (∀ found, forEach (scanVisit sha256 root) seen works = .ok found →
      found = works ++ (seen.filterMap Visit.text?).filterMap (TextFile.scanned sha256)) ∧
    ((∃ found, forEach (scanVisit sha256 root) seen works = .ok found) ↔
      RoomyFrom works.length (seen.filterMap Visit.text?)) := by
  induction seen generalizing works with
  | nil => simp [forEach, RoomyFrom]
  | cons visit seen ih =>
    have hvisit := hadmitted visit List.mem_cons_self
    have hseen := fun other hother => hadmitted other (List.mem_cons_of_mem _ hother)
    cases visit with
    | tooDeep => exact hvisit.elim
    | link => exact hvisit.elim
    | directory relative =>
      have hstep : scanVisit sha256 root works (.directory relative) = .ok works := by
        have hguard : guardDirectory (root ++ relative) = .ok () := hvisit
        rw [scanVisit, hguard]
        rfl
      rw [forEach, hstep]
      exact ih hseen hreadable works
    | text file =>
      have htexts : (Visit.text file :: seen).filterMap Visit.text? =
          file :: seen.filterMap Visit.text? := rfl
      rw [htexts] at hreadable ⊢
      have hfile := hreadable file List.mem_cons_self
      have hrest := fun other hother => hreadable other (List.mem_cons_of_mem _ hother)
      have hstep : scanVisit sha256 root works (.text file) =
          if works.length < maxScanWorks then .ok (works ++ (file.scanned sha256).toList)
          else .error tooMany := scanFile_eq hfile hvisit works
      rw [forEach, hstep, RoomyFrom]
      by_cases hroom : works.length < maxScanWorks
      · obtain ⟨hfound, hexists⟩ := ih hseen hrest (works ++ (file.scanned sha256).toList)
        rw [List.length_append, length_scanned hfile] at hexists
        rw [if_pos hroom]
        refine ⟨fun found hok => ?_, by simpa [hroom] using hexists⟩
        rw [hfound found hok, List.append_assoc]
        cases hscanned : file.scanned sha256 <;> simp [hscanned]
      · rw [if_neg hroom]
        have hnever : ∀ found, ¬ (Except.error tooMany >>= forEach (scanVisit sha256 root) seen) =
            .ok found := fun found hok => by cases hok
        refine ⟨fun found hok => absurd hok (hnever found), ?_⟩
        exact ⟨fun ⟨found, hok⟩ => absurd hok (hnever found), fun h => absurd h.1 hroom⟩

end Walked

end Quillframe.Corpus
