import Mathlib.Data.List.TakeWhile
import Quillframe.Growth

/-!
# Numbered ids

Nodes are named by the stem of their kind and a number. The number read back is the one written,
so one more than the largest number names a new node.
-/
namespace Quillframe

open Database

variable {Fp : Type}

theorem paddedId_toList (stem : String) (n : ℕ) :
    (paddedId stem n).toList = stem.toList ++
      (List.replicate (3 - (Nat.toDigits 10 n).length) '0' ++ Nat.toDigits 10 n) := by
  simp [paddedId, Nat.toString_eq_repr, ← String.length_toList]

theorem isDigit_paddedId {n : ℕ} {c : Char}
    (h : c ∈ List.replicate (3 - (Nat.toDigits 10 n).length) '0' ++ Nat.toDigits 10 n) :
    c.isDigit := by
  rcases List.mem_append.mp h with h | h
  · obtain rfl := List.eq_of_mem_replicate h
    rfl
  · exact Nat.isDigit_of_mem_toDigits (by decide) (by decide) h

@[simp] theorem idNumber_paddedId (stem : String) (n : ℕ) :
    idNumber stem (paddedId stem n) = some n := by
  have hdigits : ((paddedId stem n).toList.drop stem.length).takeWhile Char.isDigit =
      List.replicate (3 - (Nat.toDigits 10 n).length) '0' ++ Nat.toDigits 10 n := by
    rw [paddedId_toList, ← String.length_toList, List.drop_left]
    exact List.takeWhile_eq_self_iff.mpr fun c hc => isDigit_paddedId hc
  have hstart : startsWith stem (paddedId stem n) = true := by
    rw [startsWith, paddedId_toList]
    simp
  have hvalue : Nat.ofDigitChars 10
      (List.replicate (3 - (Nat.toDigits 10 n).length) '0' ++ Nat.toDigits 10 n) 0 = n := by
    rw [Nat.ofDigitChars_append, Nat.ofDigitChars_replicate_zero, Nat.mul_zero,
      Nat.ofDigitChars_ten_toDigits]
  rw [idNumber]
  simp only [hdigits, hstart, ne_eq, List.append_eq_nil_iff, Nat.toDigits_ne_nil, and_false,
    not_false_eq_true, and_self, if_true, ← Nat.ofDigitChars_eq_foldl, hvalue]

theorem paddedId_injective (stem : String) : Function.Injective (paddedId stem) := by
  intro m n h
  have hnumber := congrArg (idNumber stem) h
  simpa using hnumber

/-- An ASCII text has as many bytes as characters. -/
theorem utf8ByteSize_ascii {text : List Char} (h : ∀ c ∈ text, c.isAlphanum) :
    (String.ofList text).utf8ByteSize = text.length := by
  induction text with
  | nil => rfl
  | cons c rest ih =>
    have hc : c.utf8Size = 1 := by
      have hletter := h c List.mem_cons_self
      change ((decide (c.val ≥ 'A'.val ∧ c.val ≤ 'Z'.val) || c.val ≥ 'a'.val && c.val ≤ 'z'.val) ||
        c.val ≥ '0'.val && c.val ≤ '9'.val) = true at hletter
      simp only [Bool.or_eq_true, Bool.and_eq_true, decide_eq_true_eq] at hletter
      have hsmall : c.val ≤ 0x7f := by
        rw [UInt32.le_iff_toNat_le]
        simp only [ge_iff_le, UInt32.le_iff_toNat_le] at hletter
        simp_all
        omega
      exact Char.utf8Size_eq_one_iff.mpr hsmall
    rw [String.ofList_cons, String.utf8ByteSize_append, String.utf8ByteSize_singleton, hc,
      ih fun d hd => h d (List.mem_cons_of_mem _ hd), List.length_cons, Nat.add_comm]

/-- An id of a number that fits in 32 bits is canonical. -/
theorem validateNodeId_paddedId {stem : String} {n : ℕ} (hn : n < 2 ^ 32)
    (hstem : stem ≠ "") (hshort : stem.length ≤ 4)
    (hletters : ∀ c ∈ stem.toList, c.isAlphanum) :
    validateNodeId (paddedId stem n) = .ok () := by
  have hchars : ∀ c ∈ (paddedId stem n).toList, c.isAlphanum := by
    intro c hc
    rw [paddedId_toList] at hc
    rcases List.mem_append.mp hc with hc | hc
    · exact hletters c hc
    · simp [Char.isAlphanum, isDigit_paddedId hc]
  have hdigits : (Nat.toDigits 10 n).length ≤ 10 :=
    (Nat.length_toDigits_le_iff (by decide) (by decide)).mpr (by omega)
  have hsize : (paddedId stem n).utf8ByteSize ≤ 17 := by
    have hascii := utf8ByteSize_ascii hchars
    rw [String.ofList_toList] at hascii
    rw [hascii, paddedId_toList]
    simp only [List.length_append, List.length_replicate, String.length_toList]
    omega
  simp only [validateNodeId, require_eq_ok, not_or, not_not]
  refine ⟨?_, by omega, fun c hc => .inl (hchars c hc)⟩
  intro hempty
  have hnil := congrArg String.toList hempty
  rw [paddedId_toList] at hnil
  exact hstem (String.toList_inj.mp (List.append_eq_nil_iff.mp hnil).1)

/-! ## Next numbers -/

theorem lt_nextAfter {values : List ℤ} {value : ℤ} (h : value ∈ values) :
    value < nextAfter values := by
  obtain ⟨top, htop⟩ := Option.isSome_iff_exists.mp (List.isSome_max?_of_mem h)
  have hle := (List.max?_eq_some_iff.mp htop).2 value h
  rw [nextAfter, htop, Option.getD_some]
  omega

theorem nextAfter_pos {values : List ℤ} (h : ∀ value ∈ values, 0 ≤ value) :
    0 < nextAfter values := by
  cases values with
  | nil => decide
  | cons value rest =>
    have hlt := lt_nextAfter (List.mem_cons_self (a := value) (l := rest))
    have hle := h value List.mem_cons_self
    omega

theorem nextAfter_le {values : List ℤ} {bound : ℤ} (hbound : 0 < bound)
    (h : ∀ value ∈ values, value < bound) : nextAfter values ≤ bound := by
  rw [nextAfter]
  cases hmax : values.max? with
  | none => exact hbound
  | some top => exact h top (List.max?_eq_some_iff.mp hmax).1

/-- The kinds whose nodes are numbered. -/
def StoryKind.numbered : StoryKind → Bool
  | .volume | .unit | .chapter => true
  | _ => false

/-- The start of the ids of a kind. -/
def StoryKind.stem : StoryKind → String
  | .volume => "VOL"
  | .unit => "UNIT"
  | .chapter => "CH"
  | _ => "BOOK"

/-- The id of a node is that of the book, or numbered under its kind, by no less than the
ordinal. -/
def StoryNode.Named (node : StoryNode) : Prop :=
  (node.kind = .book ∧ node.nodeId = "BOOK" ∧ node.ordinal = 1) ∨
    (node.kind.numbered ∧ ∃ n : ℕ, n < 2 ^ 32 ∧ node.ordinal ≤ n ∧
      node.nodeId = paddedId node.kind.stem n)

theorem StoryKind.stem_head (kind : StoryKind) (n : ℕ) :
    (paddedId kind.stem n).toList.head? = kind.stem.toList.head? := by
  have hstem : ∃ c rest, kind.stem.toList = c :: rest := by cases kind <;> exact ⟨_, _, rfl⟩
  obtain ⟨c, rest, hc⟩ := hstem
  rw [paddedId_toList, hc]
  rfl

theorem StoryKind.stem_ne {kind kind' : StoryKind} (h : kind.numbered) (h' : kind'.numbered)
    (hne : kind ≠ kind') (m n : ℕ) : paddedId kind.stem m ≠ paddedId kind'.stem n := by
  intro he
  have hheads := congrArg (fun id => id.toList.head?) he
  simp only [stem_head] at hheads
  revert h h' hne hheads
  cases kind <;> cases kind' <;> decide

theorem StoryKind.stem_ne_book {kind : StoryKind} (h : kind.numbered) (n : ℕ) :
    paddedId kind.stem n ≠ "BOOK" := by
  intro he
  have hheads := congrArg (fun id => id.toList.head?) he
  simp only [stem_head] at hheads
  revert h hheads
  cases kind <;> decide

/-- The numbers of the nodes of a kind. -/
def Database.numbers (db : Database Fp) (kind : StoryKind) : List ℤ :=
  (db.storyNodes.filter fun node => node.kind = kind).filterMap
    fun node => (idNumber kind.stem node.nodeId).map Int.ofNat

/-- The ordinals under a parent. -/
def Database.ordinalsUnder (db : Database Fp) (kind : StoryKind) (parentId : String) : List ℤ :=
  (db.storyNodes.filter fun node => node.parentId = some parentId ∧ node.kind = kind).map
    (·.ordinal)

section Next

variable {db : Database Fp} {kind : StoryKind}

/-- One more than the largest number names no node. -/
theorem Database.paddedId_next_fresh (hnamed : ∀ node ∈ db.storyNodes, node.Named)
    (hkind : kind.numbered) {n : ℕ} (hn : (n : ℤ) = nextAfter (db.numbers kind)) :
    paddedId kind.stem n ∉ db.storyNodes.map (·.nodeId) := by
  intro hmem
  obtain ⟨node, hnode, hid⟩ := List.mem_map.mp hmem
  obtain ⟨-, hbook, -⟩ | ⟨hnumbered, m, -, -, hm⟩ := hnamed node hnode
  · exact StoryKind.stem_ne_book hkind n (hid.symm.trans hbook)
  · by_cases hsame : node.kind = kind
    · have hnumber : (m : ℤ) ∈ db.numbers kind := by
        refine List.mem_filterMap.mpr ⟨node, List.mem_filter.mpr ⟨hnode, by simpa using hsame⟩, ?_⟩
        rw [hm, hsame, idNumber_paddedId]
        rfl
      have hlt := lt_nextAfter hnumber
      have hmn : m = n := paddedId_injective _ ((hsame ▸ hm).symm.trans hid)
      omega
    · exact StoryKind.stem_ne hnumbered hkind hsame m n (hm.symm.trans hid)

theorem Database.numbers_nonneg (db : Database Fp) (kind : StoryKind) :
    ∀ value ∈ db.numbers kind, 0 ≤ value := by
  intro value hvalue
  obtain ⟨node, -, hnumber⟩ := List.mem_filterMap.mp hvalue
  obtain ⟨m, -, rfl⟩ := Option.map_eq_some_iff.mp hnumber
  exact Int.natCast_nonneg m

/-- The position after the last ordinal is free. -/
theorem Database.position_next_fresh {parentId : String} {n : ℕ}
    (hn : (n : ℤ) = nextAfter (db.ordinalsUnder kind parentId)) :
    (some parentId, kind, (n : ℤ)) ∉
      db.storyNodes.map fun other => (other.parentId, other.kind, other.ordinal) := by
  intro hmem
  obtain ⟨node, hnode, he⟩ := List.mem_map.mp hmem
  simp only [Prod.mk.injEq] at he
  have hordinal : node.ordinal ∈ db.ordinalsUnder kind parentId :=
    List.mem_map.mpr ⟨node, List.mem_filter.mpr ⟨hnode, by simp [he.1, he.2.1]⟩, rfl⟩
  have hlt := lt_nextAfter hordinal
  omega

/-- Ordinals stay behind the numbers. -/
theorem Database.nextOrdinal_le (hnamed : ∀ node ∈ db.storyNodes, node.Named) (kind : StoryKind)
    (hkind : kind ≠ .book) (parentId : String) :
    nextAfter (db.ordinalsUnder kind parentId) ≤ nextAfter (db.numbers kind) := by
  have hpos := nextAfter_pos (db.numbers_nonneg kind)
  refine nextAfter_le hpos fun ordinal hordinal => ?_
  obtain ⟨node, hfound, rfl⟩ := List.mem_map.mp hordinal
  obtain ⟨hnode, hplace⟩ := List.mem_filter.mp hfound
  obtain ⟨-, rfl⟩ := of_decide_eq_true hplace
  obtain ⟨hbook, -⟩ | ⟨-, n, -, hn, hid⟩ := hnamed node hnode
  · exact absurd hbook hkind
  · have hnumber : (n : ℤ) ∈ db.numbers node.kind := by
      refine List.mem_filterMap.mpr ⟨node, List.mem_filter.mpr ⟨hnode, by simp⟩, ?_⟩
      rw [hid, idNumber_paddedId]
      rfl
    have hlt := lt_nextAfter hnumber
    omega

theorem readU32_eq_ok {value : ℤ} {n : ℕ} :
    readU32 value = .ok n ↔ (n : ℤ) = value ∧ value < 2 ^ 32 := by
  simp only [readU32, bind_eq_ok, require_eq_ok, exists_const, pure_eq_ok]
  omega

end Next

/-! ## One more node -/

theorem Table.lookup_append_of_some {Row Key : Type} [DecidableEq Key] {key : Row → Key} {k : Key}
    {table more : List Row} {row : Row} (h : Table.lookup key k table = some row) :
    Table.lookup key k (table ++ more) = some row := by
  rw [Table.lookup] at h ⊢
  rw [List.find?_append, h]
  rfl

theorem StoryNode.Placed.append {nodes : List StoryNode} {node : StoryNode}
    (h : node.Placed nodes) (other : StoryNode) : node.Placed (nodes ++ [other]) := by
  obtain ⟨expected, hexpected, hkind⟩ := h
  refine ⟨expected, hexpected, ?_⟩
  cases hparent : node.parentId with
  | none => simpa [hparent] using hkind
  | some parentId =>
    obtain ⟨parent, hlookup, -⟩ := StoryNode.Placed.parent ⟨expected, hexpected, hkind⟩ hparent
    rw [hparent, Option.map_some, hlookup] at hkind
    rw [Option.map_some, Table.lookup_append_of_some hlookup, hkind]

/-- The tree with one more node, in a free position under a node of the kind above. -/
theorem Database.Topology.append {db db' : Database Fp} (h : db.Topology) {node : StoryNode}
    (hnodes : db'.storyNodes = db.storyNodes ++ [node]) (hordinal : 0 < node.ordinal)
    (hposition : (node.parentId, node.kind, node.ordinal) ∉
      db.storyNodes.map fun other => (other.parentId, other.kind, other.ordinal))
    (hplaced : node.Placed db.storyNodes) (hkind : node.kind ≠ .book)
    (hmanuscripts : db'.manuscriptNodes =
      db.manuscriptNodes ++ if node.kind = .chapter then [some node.nodeId] else []) :
    db'.Topology := by
  have hchapters : db'.chapterIds =
      db.chapterIds ++ if node.kind = .chapter then [node.nodeId] else [] := by
    rw [chapterIds, hnodes, List.filter_append, List.map_append, chapterIds]
    by_cases hchapter : node.kind = .chapter <;> simp [hchapter]
  refine ⟨?_, ?_, ?_, ?_, ?_, ?_, ?_⟩
  · rw [hnodes]
    exact List.forall_mem_append.mpr ⟨h.ordinals, by simpa using hordinal⟩
  · rw [hnodes]
    refine Table.nodup_append_singleton h.positions fun other hother he => hposition ?_
    exact List.mem_map.mpr ⟨other, hother, he⟩
  · rw [hnodes]
    refine List.forall_mem_append.mpr ⟨fun other hother => (h.placed other hother).append node, ?_⟩
    simpa using hplaced.append node
  · rw [hnodes, List.filter_append, List.length_append, h.book]
    simp [hkind]
  · rw [hchapters]
    exact List.append_ne_nil_of_left_ne_nil h.chapters _
  · rw [hmanuscripts, hchapters]
    refine List.forall_mem_append.mpr ⟨fun other hother => ?_, ?_⟩
    · obtain ⟨chapterId, hchapter, he⟩ := h.manuscripts other hother
      exact ⟨chapterId, List.mem_append_left _ hchapter, he⟩
    · by_cases hchapter : node.kind = .chapter <;> simp [hchapter]
  · rw [hmanuscripts, hchapters]
    refine List.forall_mem_append.mpr ⟨fun chapterId hchapter => ?_, ?_⟩
    · exact List.mem_append_left _ (h.owned chapterId hchapter)
    · by_cases hchapter : node.kind = .chapter <;> simp [hchapter]

end Quillframe
