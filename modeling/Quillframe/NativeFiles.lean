import Quillframe.Error
import Quillframe.Fallible
import Quillframe.Table

/-!
# Files of one directory

The names of a directory and the files they stand for, with the system calls that
`quillframe-native` makes under Linux. A file keeps its number under any name.
-/
namespace Quillframe

structure FileIdentity where
  volumeId : ℕ
  fileIdLow : ℕ
  fileIdHigh : ℕ
  linkCount : ℕ
  byteSize : ℕ
  deriving DecidableEq, Repr

/-- `same_object`. -/
def FileIdentity.SameObject (left right : FileIdentity) : Prop :=
  left.volumeId = right.volumeId ∧ left.fileIdLow = right.fileIdLow ∧
    left.fileIdHigh = right.fileIdHigh

instance (left right : FileIdentity) : Decidable (left.SameObject right) :=
  inferInstanceAs (Decidable (_ ∧ _))

/-- What `native_error` makes of a failure. -/
def nativeError (code : ℕ) (message : String) : CoreError :=
  .storage ("native filesystem error " ++ toString code ++ ": " ++ message)

/-- The contents stand under the numbers of the files. -/
structure Directory (Name : Type) where
  volumeId : ℕ
  names : List (Name × ℕ)
  files : List (List UInt8)
  deriving DecidableEq

/-- A byte is written at an offset that does not lie behind the end. -/
def writeAt (content : List UInt8) (offset : ℕ) (byte : UInt8) : List UInt8 :=
  content.take offset ++ byte :: content.drop (offset + 1)

namespace Directory

variable {Name : Type} [DecidableEq Name]

def find? (dir : Directory Name) (name : Name) : Option ℕ :=
  (Table.lookup Prod.fst name dir.names).map Prod.snd

omit [DecidableEq Name] in
def identity (dir : Directory Name) (file : ℕ) : FileIdentity where
  volumeId := dir.volumeId
  fileIdLow := file
  fileIdHigh := 0
  linkCount := dir.names.countP fun entry => entry.2 = file
  byteSize := (dir.files.getD file []).length

/-- `openat` of a file that is there. -/
def openAt (dir : Directory Name) (name : Name) : CoreResult ℕ :=
  fetch (dir.find? name)
    (nativeError 5 "native openat failed: No such file or directory (os error 2)")

/-- `openat` with `O_CREAT` and `O_EXCL`. -/
def create (dir : Directory Name) (name : Name) : CoreResult (ℕ × Directory Name) := do
  require (dir.find? name = none) (nativeError 4 "native target already exists")
  return (dir.files.length, { dir with
    names := dir.names ++ [(name, dir.files.length)]
    files := dir.files ++ [[]] })

omit [DecidableEq Name] in
/-- One byte of a `write`. -/
def write (dir : Directory Name) (file offset : ℕ) (byte : UInt8) : Directory Name :=
  { dir with files := dir.files.modify file fun content => writeAt content offset byte }

/-- `renameat2` with `RENAME_NOREPLACE`. -/
def rename (dir : Directory Name) (source target : Name) : CoreResult (Directory Name) := do
  let _ ← fetch (dir.find? source)
    (nativeError 5 "atomic renameat2 failed: No such file or directory (os error 2)")
  require (dir.find? target = none) (nativeError 4 "atomic target already exists")
  return { dir with
    names := dir.names.map fun entry => if entry.1 = source then (target, entry.2) else entry }

/-! ## Names and files -/

omit [DecidableEq Name] in
/-- Each name stands for a file of its own. -/
structure Sound (dir : Directory Name) : Prop where
  names : (dir.names.map Prod.fst).Nodup
  links : (dir.names.map Prod.snd).Nodup
  bounded : ∀ entry ∈ dir.names, entry.2 < dir.files.length

section Facts

variable {dir dir' : Directory Name} {name other source target : Name} {file offset : ℕ}
  {byte : UInt8}

theorem mem_of_find? (h : dir.find? name = some file) : (name, file) ∈ dir.names := by
  obtain ⟨entry, hentry, rfl⟩ := Option.map_eq_some_iff.mp h
  have hkey := Table.lookup_key hentry
  subst hkey
  exact Table.lookup_mem hentry

theorem Sound.find?_of_mem (h : dir.Sound) (hmem : (name, file) ∈ dir.names) :
    dir.find? name = some file := by
  unfold find?
  rw [Table.lookup_of_mem h.names hmem]
  rfl

theorem Sound.lt_of_find? (h : dir.Sound) (hfind : dir.find? name = some file) :
    file < dir.files.length :=
  h.bounded _ (mem_of_find? hfind)

theorem Sound.name_unique (h : dir.Sound) (hname : dir.find? name = some file)
    (hother : dir.find? other = some file) : name = other := by
  have heq := Table.eq_of_key_eq h.links (mem_of_find? hname) (mem_of_find? hother) rfl
  exact congrArg Prod.fst heq

/-- A file that has a name has no other. -/
theorem Sound.identity_eq (h : dir.Sound) (hfind : dir.find? name = some file) :
    dir.identity file = ⟨dir.volumeId, file, 0, 1, (dir.files.getD file []).length⟩ := by
  have hfilter := Table.filter_key h.links file
  have hcount : dir.names.countP (fun entry => entry.2 = file) = 1 := by
    rw [List.countP_eq_length_filter, hfilter,
      Table.lookup_of_mem h.links (mem_of_find? hfind)]
    rfl
  simp only [identity, hcount]

theorem openAt_eq_ok : dir.openAt name = .ok file ↔ dir.find? name = some file := fetch_eq_ok

theorem find?_eq_none : dir.find? name = none ↔ ∀ entry ∈ dir.names, entry.1 ≠ name := by
  unfold find?
  rw [Option.map_eq_none_iff, Table.lookup_eq_none]

/-! ### Creating -/

theorem create_eq_ok (h : dir.create name = .ok (file, dir')) :
    dir.find? name = none ∧ file = dir.files.length ∧
      dir' = { dir with
        names := dir.names ++ [(name, dir.files.length)], files := dir.files ++ [[]] } := by
  simp only [create, bind_eq_ok, require_eq_ok, pure_eq_ok, Prod.mk.injEq] at h
  obtain ⟨_, hnone, hfile, hdir⟩ := h
  exact ⟨hnone, hfile.symm, hdir.symm⟩

theorem find?_create (h : dir.create name = .ok (file, dir')) (other : Name) :
    dir'.find? other = if other = name then some file else dir.find? other := by
  obtain ⟨hnone, rfl, rfl⟩ := create_eq_ok h
  unfold find? at hnone ⊢
  rw [Table.lookup_append_singleton]
  by_cases hother : other = name
  · subst hother
    rw [Option.map_eq_none_iff.mp hnone]
    simp
  · simp [hother, Ne.symm hother]

theorem files_create (h : dir.create name = .ok (file, dir')) (other : ℕ) :
    dir'.files[other]? = if other = file then some [] else dir.files[other]? := by
  obtain ⟨-, rfl, rfl⟩ := create_eq_ok h
  rcases Nat.lt_trichotomy other dir.files.length with hlt | heq | hgt
  · rw [if_neg hlt.ne, List.getElem?_append_left hlt]
  · simp [heq]
  · rw [if_neg hgt.ne', List.getElem?_append_right hgt.le,
      List.getElem?_eq_none (by simp; omega), List.getElem?_eq_none hgt.le]

theorem Sound.create (hsound : dir.Sound) (h : dir.create name = .ok (file, dir')) :
    dir'.Sound := by
  obtain ⟨hnone, rfl, rfl⟩ := create_eq_ok h
  refine ⟨?_, ?_, ?_⟩
  · apply Table.nodup_append_singleton hsound.names
    exact find?_eq_none.mp hnone
  · apply Table.nodup_append_singleton hsound.links
    intro entry hentry
    exact (hsound.bounded entry hentry).ne
  · intro entry hentry
    simp only [List.mem_append, List.mem_singleton] at hentry
    simp only [List.length_append, List.length_singleton]
    rcases hentry with hentry | rfl
    · exact (hsound.bounded entry hentry).trans (Nat.lt_succ_self _)
    · exact Nat.lt_succ_self _

/-! ### Writing -/

omit [DecidableEq Name] in
theorem files_write (dir : Directory Name) (file offset : ℕ) (byte : UInt8) (other : ℕ) :
    (dir.write file offset byte).files[other]? =
      if other = file then (dir.files[other]?).map fun content => writeAt content offset byte
      else dir.files[other]? := by
  unfold write
  rw [List.getElem?_modify]
  by_cases h : other = file
  · simp [h]
  · simp [h, Ne.symm h]

omit [DecidableEq Name] in
theorem Sound.write (hsound : dir.Sound) : (dir.write file offset byte).Sound := by
  refine ⟨hsound.names, hsound.links, ?_⟩
  intro entry hentry
  unfold Directory.write
  rw [List.length_modify]
  exact hsound.bounded entry hentry

/-! ### Renaming -/

theorem rename_eq_ok (h : dir.rename source target = .ok dir') :
    (∃ file, dir.find? source = some file) ∧ dir.find? target = none ∧
      dir' = { dir with names := dir.names.map fun entry =>
        if entry.1 = source then (target, entry.2) else entry } := by
  simp only [rename, bind_eq_ok, fetch_eq_ok, require_eq_ok, pure_eq_ok] at h
  obtain ⟨file, hfile, _, hnone, hdir⟩ := h
  exact ⟨⟨file, hfile⟩, hnone, hdir.symm⟩

theorem lookup_rename {names : List (Name × ℕ)} (htarget : ∀ entry ∈ names, entry.1 ≠ target)
    (name : Name) :
    (Table.lookup Prod.fst name (names.map fun entry =>
        if entry.1 = source then (target, entry.2) else entry)).map Prod.snd =
      if name = target then (Table.lookup Prod.fst source names).map Prod.snd
      else if name = source then none else (Table.lookup Prod.fst name names).map Prod.snd := by
  unfold Table.lookup
  induction names with
  | nil => simp
  | cons entry rest ih =>
    have hrest := ih fun other hother => htarget other (List.mem_cons_of_mem _ hother)
    have hentry := htarget entry List.mem_cons_self
    simp only [List.map_cons, List.find?_cons]
    by_cases hsource : entry.1 = source
    · by_cases hname : name = target
      · simp [hsource, hname]
      · simp only [hsource, if_true, if_neg hname, Ne.symm hname, decide_false]
        rw [hrest, if_neg hname]
        by_cases hname' : name = source
        · simp [hname']
        · simp [hname', Ne.symm hname']
    · by_cases hname : entry.1 = name
      · have hnetarget : name ≠ target := fun heq => hentry (hname.trans heq)
        have hnesource : name ≠ source := fun heq => hsource (hname.trans heq)
        simp [hname, hnetarget, hnesource]
      · simp only [hsource, if_false, hname, decide_false]
        exact hrest

theorem find?_rename (h : dir.rename source target = .ok dir') (name : Name) :
    dir'.find? name =
      if name = target then dir.find? source else if name = source then none
      else dir.find? name := by
  obtain ⟨-, hnone, rfl⟩ := rename_eq_ok h
  exact lookup_rename (find?_eq_none.mp hnone) name

theorem Sound.rename (hsound : dir.Sound) (h : dir.rename source target = .ok dir') :
    dir'.Sound := by
  obtain ⟨-, hnone, rfl⟩ := rename_eq_ok h
  have htarget := find?_eq_none.mp hnone
  have hlinks : ((dir.names.map fun entry =>
      if entry.1 = source then (target, entry.2) else entry).map Prod.snd) =
      dir.names.map Prod.snd := by
    rw [List.map_map]
    apply List.map_congr_left
    intro entry _
    simp only [Function.comp_apply]
    split <;> rfl
  refine ⟨?_, hlinks ▸ hsound.links, ?_⟩
  · rw [List.map_map]
    apply List.Nodup.map_on
    · intro entry hentry other hother heq
      simp only [Function.comp_apply] at heq
      split at heq <;> split at heq
      · next hentry' hother' =>
        exact Table.eq_of_key_eq hsound.names hentry hother (hentry'.trans hother'.symm)
      · exact absurd heq.symm (htarget other hother)
      · exact absurd heq (htarget entry hentry)
      · exact Table.eq_of_key_eq hsound.names hentry hother heq
    · exact hsound.names.of_map
  · intro entry hentry
    obtain ⟨old, hold, rfl⟩ := List.mem_map.mp hentry
    have hbound := hsound.bounded old hold
    split <;> exact hbound

/-! ### Pieces of a content -/

theorem writeAt_prefix {content bytes : List UInt8} (hfront : content <+: bytes)
    (hoffset : offset ≤ content.length) (hbyte : bytes[offset]? = some byte) :
    content <+: writeAt content offset byte ∧ writeAt content offset byte <+: bytes ∧
      offset + 1 ≤ (writeAt content offset byte).length := by
  obtain ⟨more, rfl⟩ := hfront
  rcases Nat.lt_or_ge offset content.length with hlt | hge
  · have hsame : writeAt content offset byte = content := by
      rw [List.getElem?_append_left hlt] at hbyte
      unfold writeAt
      rw [← List.getElem?_eq_some_iff.mp hbyte |>.2, List.getElem_cons_drop,
        List.take_append_drop]
    rw [hsame]
    exact ⟨List.prefix_rfl, List.prefix_append _ _, hlt⟩
  · obtain rfl : offset = content.length := Nat.le_antisymm hoffset hge
    rw [List.getElem?_append_right hge, Nat.sub_self] at hbyte
    have hnew : writeAt content content.length byte = content ++ [byte] := by
      unfold writeAt
      rw [List.take_length, List.drop_eq_nil_of_le (Nat.le_succ _)]
    rw [hnew]
    refine ⟨List.prefix_append _ _, ?_, by simp⟩
    cases more with
    | nil => cases hbyte
    | cons first rest =>
      rw [List.getElem?_cons_zero, Option.some.injEq] at hbyte
      subst hbyte
      exact ⟨rest, by simp⟩

end Facts

end Directory

end Quillframe
