import Quillframe.Farthest
import Quillframe.StringOrder

/-!
# The selection of works for a study

The works proposed for a study are taken from the pool of a collection: first the longest, then
always the one farthest from those taken. `none` is a panic.
-/
namespace Quillframe.Corpus

structure CorpusWorkProjection where
  workId : String
  displayLabel : String
  rightsClass : String
  selected : Bool
  deriving DecidableEq, Repr

/-- A work with its bytes and its chapters. -/
abbrev PoolItem := CorpusWorkProjection × ℕ × ℕ

namespace Selection

/-! ## The source -/

def u128Mul (a b : ℕ) : Option ℕ := if a * b < 2 ^ 128 then some (a * b) else none

def u128Add (a b : ℕ) : Option ℕ := if a + b < 2 ^ 128 then some (a + b) else none

def u128Div (a b : ℕ) : Option ℕ := if b = 0 then none else some (a / b)

def absDiff (a b : ℕ) : ℕ := if a < b then b - a else a - b

/-- `a.abs_diff(b) as u128 * 1_000 / max as u128`. -/
def scaled (a b max : ℕ) : Option ℕ := do
  let product ← u128Mul (absDiff a b) 1000
  u128Div product max

def distanceTo (maxBytes maxChapters : ℕ) (candidate chosen : PoolItem) : Option ℕ := do
  let byteDistance ← scaled candidate.2.1 chosen.2.1 maxBytes
  let chapterDistance ← scaled candidate.2.2 chosen.2.2 maxChapters
  u128Add byteDistance chapterDistance

/-- The candidates by index, each with the distance to the nearest selected item. -/
def scores (maxBytes maxChapters : ℕ) (selected pool : List PoolItem) :
    Option (List (ℕ × ℕ)) :=
  pool.zipIdx.mapM fun entry => do
    let distances ← selected.mapM (distanceTo maxBytes maxChapters entry.1)
    pure (entry.2, distances.min?.getD 0)

def compareScores (pool : List PoolItem) (left right : ℕ × ℕ) : Option Ordering :=
  match compare left.2 right.2 with
  | .eq => do
    let rightItem ← pool[right.1]?
    let leftItem ← pool[left.1]?
    pure (compare rightItem.1.workId leftItem.1.workId)
  | order => some order

/-- The loop; `fuel` is the number of candidates at the start. -/
def rounds (maxBytes maxChapters take : ℕ) :
    ℕ → List PoolItem → List PoolItem → Option (List PoolItem)
  | fuel, selected, pool =>
    if selected.length < take ∧ pool ≠ [] then
      match fuel with
      | 0 => none
      | fuel + 1 => do
        let scored ← scores maxBytes maxChapters selected pool
        let best ← maxBy (compareScores pool) scored
        let item ← pool[best.1]?
        rounds maxBytes maxChapters take fuel (selected ++ [item]) (pool.eraseIdx best.1)
    else some selected

/-- The order of the pool: most chapters first, then most bytes, then the least id. -/
def precedes (left right : PoolItem) : Prop :=
  ((compare right.2.2 left.2.2).then
    ((compare right.2.1 left.2.1).then (compare left.1.workId right.1.workId))).isLE = true

instance : DecidableRel precedes := fun _ _ =>
  inferInstanceAs (Decidable (Ordering.isLE _ = true))

/-- `iter().max().unwrap_or(1).max(1)`. -/
def greatest (values : List ℕ) : ℕ := max (values.max?.getD 1) 1

end Selection

open Selection in
def coverageStratifiedSelection (pool : List PoolItem) (take : ℕ) :
    Option (List CorpusWorkProjection) :=
  if pool.length ≤ take then some (pool.map (·.1))
  else
    let maxBytes := greatest (pool.map (·.2.1))
    let maxChapters := greatest (pool.map (·.2.2))
    match pool.insertionSort precedes with
    | [] => none
    | first :: rest =>
      (rounds maxBytes maxChapters take rest.length [first] rest).map (·.map (·.1))

namespace Selection

/-! ## No panic -/

/-- The scaled distance of two items. -/
def distance (maxBytes maxChapters : ℕ) (candidate chosen : PoolItem) : ℕ :=
  absDiff candidate.2.1 chosen.2.1 * 1000 / maxBytes +
    absDiff candidate.2.2 chosen.2.2 * 1000 / maxChapters

/-- The sizes of the items are 64-bit numbers. -/
def Sized (pool : List PoolItem) : Prop := ∀ item ∈ pool, item.2.1 < 2 ^ 64 ∧ item.2.2 < 2 ^ 64

/-- The id that ties are decided by. -/
def workId (item : PoolItem) : String := item.1.workId

section

variable {maxBytes maxChapters take : ℕ} {pool selected : List PoolItem}

theorem absDiff_lt {a b : ℕ} (ha : a < 2 ^ 64) (hb : b < 2 ^ 64) : absDiff a b < 2 ^ 64 := by
  rw [absDiff]
  split <;> omega

theorem u128Mul_eq_some {a b : ℕ} (h : a * b < 2 ^ 128) : u128Mul a b = some (a * b) := if_pos h

theorem u128Add_eq_some {a b : ℕ} (h : a + b < 2 ^ 128) : u128Add a b = some (a + b) := if_pos h

theorem scaled_eq_some {a b max : ℕ} (ha : a < 2 ^ 64) (hb : b < 2 ^ 64) (hmax : 1 ≤ max) :
    scaled a b max = some (absDiff a b * 1000 / max) := by
  have hdiff := absDiff_lt ha hb
  have hproduct : absDiff a b * 1000 < 2 ^ 128 := by omega
  have hne : max ≠ 0 := by omega
  simp [scaled, u128Mul_eq_some hproduct, u128Div, hne]

theorem scaled_lt {a b : ℕ} (ha : a < 2 ^ 64) (hb : b < 2 ^ 64) (max : ℕ) :
    absDiff a b * 1000 / max < 2 ^ 127 := by
  have hdiff := absDiff_lt ha hb
  have hquotient : absDiff a b * 1000 / max ≤ absDiff a b * 1000 := Nat.div_le_self _ _
  omega

theorem distanceTo_eq_some {candidate chosen : PoolItem} (hbytes : 1 ≤ maxBytes)
    (hchapters : 1 ≤ maxChapters) (hcandidate : candidate.2.1 < 2 ^ 64 ∧ candidate.2.2 < 2 ^ 64)
    (hchosen : chosen.2.1 < 2 ^ 64 ∧ chosen.2.2 < 2 ^ 64) :
    distanceTo maxBytes maxChapters candidate chosen =
      some (distance maxBytes maxChapters candidate chosen) := by
  have hbyte := scaled_lt hcandidate.1 hchosen.1 maxBytes
  have hchapter := scaled_lt hcandidate.2 hchosen.2 maxChapters
  have hsum : absDiff candidate.2.1 chosen.2.1 * 1000 / maxBytes +
      absDiff candidate.2.2 chosen.2.2 * 1000 / maxChapters < 2 ^ 128 := by omega
  simp [distanceTo, distance, scaled_eq_some hcandidate.1 hchosen.1 hbytes,
    scaled_eq_some hcandidate.2 hchosen.2 hchapters, u128Add_eq_some hsum]

theorem mapM_eq_some {α β : Type} {f : α → Option β} {g : α → β} {xs : List α}
    (h : ∀ a ∈ xs, f a = some (g a)) : xs.mapM f = some (xs.map g) := by
  induction xs with
  | nil => rfl
  | cons a rest ih =>
    have hrest := ih fun b hb => h b (List.mem_cons_of_mem _ hb)
    simp [List.mapM_cons, h a List.mem_cons_self, hrest]

theorem scores_eq_some (hbytes : 1 ≤ maxBytes) (hchapters : 1 ≤ maxChapters)
    (hselected : Sized selected) (hpool : Sized pool) :
    scores maxBytes maxChapters selected pool =
      some (pool.zipIdx.map fun entry =>
        (entry.2, nearest (distance maxBytes maxChapters) selected entry.1)) := by
  apply mapM_eq_some
  intro entry hentry
  have hitem : entry.1 ∈ pool := List.fst_mem_of_mem_zipIdx hentry
  have hdistances : selected.mapM (distanceTo maxBytes maxChapters entry.1) =
      some (selected.map (distance maxBytes maxChapters entry.1)) :=
    mapM_eq_some fun chosen hchosen =>
      distanceTo_eq_some hbytes hchapters (hpool _ hitem) (hselected _ hchosen)
  simp [hdistances, nearest]

/-- What the scores are compared by: the distance, then the id the other way round. -/
def scoreKey (pool : List PoolItem) (score : ℕ × ℕ) : ℕ ×ₗ Stringᵒᵈ :=
  toLex (score.2, .toDual ((pool[score.1]?.map workId).getD ""))

theorem compareScores_eq_some {left right : ℕ × ℕ} {leftItem rightItem : PoolItem}
    (hleft : pool[left.1]? = some leftItem) (hright : pool[right.1]? = some rightItem) :
    ∃ order, compareScores pool left right = some order ∧
      (order = .gt ↔ scoreKey pool right < scoreKey pool left) := by
  have hkey : scoreKey pool right < scoreKey pool left ↔
      right.2 < left.2 ∨ right.2 = left.2 ∧ workId leftItem < workId rightItem := by
    simp [scoreKey, hleft, hright, Prod.Lex.toLex_lt_toLex]
  rw [hkey]
  rcases lt_trichotomy left.2 right.2 with hlt | heq | hgt
  · refine ⟨.lt, by simp [compareScores, compare_lt_iff_lt.mpr hlt], ?_⟩
    simp
    omega
  · refine ⟨compare (workId rightItem) (workId leftItem), ?_, ?_⟩
    · simp [compareScores, compare_eq_iff_eq.mpr heq, hleft, hright, workId]
    · rw [compare_gt_iff_gt]
      simp [heq]
  · refine ⟨.gt, by simp [compareScores, compare_gt_iff_gt.mpr hgt], ?_⟩
    simp [hgt]

/-! ## A round -/

/-- A round takes the farthest candidate. -/
theorem exists_best (hbytes : 1 ≤ maxBytes) (hchapters : 1 ≤ maxChapters)
    (hselected : Sized selected) (hpool : Sized pool) (hne : pool ≠ []) :
    ∃ scored best item, scores maxBytes maxChapters selected pool = some scored ∧
      maxBy (compareScores pool) scored = some best ∧ pool[best.1]? = some item ∧
      ∀ other ∈ pool,
        nearest (distance maxBytes maxChapters) selected other <
            nearest (distance maxBytes maxChapters) selected item ∨
          nearest (distance maxBytes maxChapters) selected other =
            nearest (distance maxBytes maxChapters) selected item ∧ workId item ≤ workId other := by
  set scored := pool.zipIdx.map fun entry =>
    (entry.2, nearest (distance maxBytes maxChapters) selected entry.1) with hscored
  have hlook : ∀ score ∈ scored, ∃ item, pool[score.1]? = some item ∧
      score.2 = nearest (distance maxBytes maxChapters) selected item := by
    intro score hscore
    obtain ⟨entry, hentry, rfl⟩ := List.mem_map.mp hscore
    exact ⟨entry.1, List.mem_zipIdx_iff_getElem?.mp hentry, rfl⟩
  have hscoredne : scored ≠ [] := by simpa [hscored] using hne
  have hcompare : ∀ left ∈ scored, ∀ right ∈ scored, ∃ order,
      compareScores pool left right = some order ∧
        (order = .gt ↔ scoreKey pool right < scoreKey pool left) := by
    intro left hleft right hright
    obtain ⟨leftItem, hleft, -⟩ := hlook left hleft
    obtain ⟨rightItem, hright, -⟩ := hlook right hright
    exact compareScores_eq_some hleft hright
  obtain ⟨best, hmem, hbest, hmax⟩ := maxBy_eq_some hscoredne hcompare
  obtain ⟨item, hitem, hscore⟩ := hlook best hmem
  refine ⟨scored, best, item, scores_eq_some hbytes hchapters hselected hpool, hbest, hitem, ?_⟩
  intro other hother
  obtain ⟨index, hindex⟩ := List.mem_iff_getElem?.mp hother
  have hentry : (index, nearest (distance maxBytes maxChapters) selected other) ∈ scored :=
    List.mem_map.mpr ⟨(other, index), List.mem_zipIdx_iff_getElem?.mpr hindex, rfl⟩
  have hle := hmax _ hentry
  simpa [scoreKey, hindex, hitem, hscore, Prod.Lex.toLex_le_toLex] using hle

/-- What holds between the rounds over the whole pool. -/
structure Round (maxBytes maxChapters : ℕ) (whole selected pool : List PoolItem) : Prop where
  perm : (selected ++ pool).Perm whole
  first : selected ≠ []
  farthest : FarthestFirst (distance maxBytes maxChapters) workId whole selected

variable {whole : List PoolItem}

theorem Round.next {index : ℕ} {item : PoolItem}
    (h : Round maxBytes maxChapters whole selected pool)
    (hnodup : whole.Nodup) (hitem : pool[index]? = some item)
    (hfar : ∀ other ∈ pool,
      nearest (distance maxBytes maxChapters) selected other <
          nearest (distance maxBytes maxChapters) selected item ∨
        nearest (distance maxBytes maxChapters) selected other =
          nearest (distance maxBytes maxChapters) selected item ∧ workId item ≤ workId other) :
    Round maxBytes maxChapters whole (selected ++ [item]) (pool.eraseIdx index) := by
  obtain ⟨hindex, hget⟩ := List.getElem?_eq_some_iff.mp hitem
  have hmem : item ∈ pool := List.mem_of_getElem? hitem
  have hall := h.perm.nodup_iff.mpr hnodup
  constructor
  · have hmove : (item :: pool.eraseIdx index).Perm pool := by
      rw [← hget]
      exact List.getElem_cons_eraseIdx_perm hindex
    rw [List.append_assoc, List.singleton_append]
    exact (hmove.append_left selected).trans h.perm
  · simp
  · apply h.farthest.concat
    constructor
    · exact h.perm.mem_iff.mp (List.mem_append_right _ hmem)
    · intro hold
      exact (List.nodup_append.mp hall).2.2 item hold item hmem rfl
    · intro other hother hfresh
      have hleft : other ∈ pool := by
        have hboth := List.mem_append.mp (h.perm.mem_iff.mpr hother)
        exact hboth.resolve_left hfresh
      exact hfar other hleft

/-- The rounds go on until enough items are taken or none is left. -/
theorem rounds_eq_some (hbytes : 1 ≤ maxBytes) (hchapters : 1 ≤ maxChapters) (hsized : Sized whole)
    (hnodup : whole.Nodup) {fuel : ℕ} (h : Round maxBytes maxChapters whole selected pool)
    (hfuel : pool.length ≤ fuel) (htake : selected.length ≤ take) :
    ∃ items rest, rounds maxBytes maxChapters take fuel selected pool = some items ∧
      Round maxBytes maxChapters whole items rest ∧ selected <+: items ∧
      items.length = min take whole.length := by
  have hlength := h.perm.length_eq
  rw [List.length_append] at hlength
  induction fuel generalizing selected pool with
  | zero =>
    have hnone : pool = [] := List.length_eq_zero_iff.mp (by omega)
    refine ⟨selected, pool, ?_, h, List.prefix_rfl, ?_⟩
    · simp [rounds, hnone]
    · rw [hnone, List.length_nil] at hlength
      omega
  | succ fuel ih =>
    by_cases hgo : selected.length < take ∧ pool ≠ []
    · have hselected : Sized selected := fun item hitem =>
        hsized item (h.perm.mem_iff.mp (List.mem_append_left _ hitem))
      have hpool : Sized pool := fun item hitem =>
        hsized item (h.perm.mem_iff.mp (List.mem_append_right _ hitem))
      obtain ⟨scored, best, item, hscored, hbest, hitem, hfar⟩ :=
        exists_best hbytes hchapters hselected hpool hgo.2
      have hindex : best.1 < pool.length := (List.getElem?_eq_some_iff.mp hitem).1
      have hnext := h.next hnodup hitem hfar
      have hshorter : (pool.eraseIdx best.1).length + 1 = pool.length := by
        rw [List.length_eraseIdx_of_lt hindex]
        omega
      obtain ⟨items, rest, hrounds, hround, hprefix, hcount⟩ := ih hnext (by omega)
        (by simp; omega) (by simp; omega)
      refine ⟨items, rest, ?_, hround, (List.prefix_append _ _).trans hprefix, hcount⟩
      rw [rounds, if_pos hgo]
      simp [hscored, hbest, hitem, hrounds]
    · refine ⟨selected, pool, ?_, h, List.prefix_rfl, ?_⟩
      · rw [rounds, if_neg hgo]
      · by_cases hfull : selected.length < take
        · have hnone : pool = [] := by
            by_contra hne
            exact hgo ⟨hfull, hne⟩
          rw [hnone, List.length_nil] at hlength
          omega
        · omega

/-! ## The first item -/

theorem precedes_iff {left right : PoolItem} :
    precedes left right ↔ right.2.2 < left.2.2 ∨ right.2.2 = left.2.2 ∧
      (right.2.1 < left.2.1 ∨ right.2.1 = left.2.1 ∧ workId left ≤ workId right) := by
  rw [precedes, Ordering.isLE_then_iff_or, Ordering.isLE_then_iff_or, Ordering.isLE_iff_ne_gt]
  simp only [compare_lt_iff_lt, compare_eq_iff_eq, compare_gt_iff_gt, not_lt, workId]

instance : Std.Total precedes where
  total left right := by
    rw [precedes_iff, precedes_iff]
    have hids := le_total (workId left) (workId right)
    grind

instance : IsTrans PoolItem precedes where
  trans a b c hab hbc := by
    rw [precedes_iff] at hab hbc ⊢
    have hids : workId a ≤ workId b → workId b ≤ workId c → workId a ≤ workId c := le_trans
    grind

/-- The first of the sorted pool. -/
theorem exists_first (hne : whole ≠ []) : ∃ first rest,
    whole.insertionSort precedes = first :: rest ∧ (first :: rest).Perm whole ∧
      ∀ item ∈ whole, precedes first item := by
  have hperm := List.perm_insertionSort precedes whole
  have hsorted := List.pairwise_insertionSort precedes whole
  cases hsort : whole.insertionSort precedes with
  | nil =>
    rw [hsort] at hperm
    exact absurd hperm.symm.eq_nil hne
  | cons first rest =>
    rw [hsort] at hperm hsorted
    refine ⟨first, rest, rfl, hperm, ?_⟩
    intro item hitem
    rcases List.mem_cons.mp (hperm.mem_iff.mpr hitem) with rfl | hlater
    · exact (Std.Total.total item item).elim id id
    · exact (List.pairwise_cons.mp hsorted).1 item hlater

theorem greatest_perm {values others : List ℕ} (h : values.Perm others) :
    greatest values = greatest others := by
  have hmax : values.max? = others.max? := by
    cases hvalues : values.max? with
    | none =>
      rw [List.max?_eq_none_iff] at hvalues
      subst hvalues
      rw [← h.nil_eq]
      rfl
    | some m =>
      rw [List.max?_eq_some_iff] at hvalues
      symm
      rw [List.max?_eq_some_iff]
      exact ⟨h.mem_iff.mp hvalues.1, fun b hb => hvalues.2 b (h.mem_iff.mpr hb)⟩
  rw [greatest, greatest, hmax]

theorem one_le_greatest (values : List ℕ) : 1 ≤ greatest values := le_max_right _ _

end

end Selection

section

open Selection

variable {pool : List PoolItem} {take : ℕ}

/-- The scaled distance over a pool. -/
def poolDistance (pool : List PoolItem) : PoolItem → PoolItem → ℕ :=
  distance (greatest (pool.map (·.2.1))) (greatest (pool.map (·.2.2)))

theorem poolDistance_perm {other : List PoolItem} (h : other.Perm pool) :
    poolDistance other = poolDistance pool := by
  rw [poolDistance, poolDistance, greatest_perm (h.map _), greatest_perm (h.map _)]

/-- No work is selected twice. -/
theorem nodup_rounds {maxBytes maxChapters take fuel : ℕ} {selected pool items : List PoolItem}
    (hids : ((selected ++ pool).map workId).Nodup)
    (h : rounds maxBytes maxChapters take fuel selected pool = some items) :
    (items.map workId).Nodup := by
  induction fuel generalizing selected pool with
  | zero =>
    unfold rounds at h
    split_ifs at h
    rw [Option.some.injEq] at h
    rw [List.map_append] at hids
    exact h ▸ hids.of_append_left
  | succ fuel ih =>
    unfold rounds at h
    split_ifs at h
    · simp only [Option.bind_eq_bind, Option.bind_eq_some_iff] at h
      obtain ⟨scored, -, best, -, item, hitem, hnext⟩ := h
      obtain ⟨hlt, rfl⟩ := List.getElem?_eq_some_iff.mp hitem
      apply ih _ hnext
      have hperm : (selected ++ [pool[best.1]] ++ pool.eraseIdx best.1).Perm (selected ++ pool) := by
        rw [List.append_assoc]
        exact (List.getElem_cons_eraseIdx_perm hlt).append_left selected
      exact (hperm.map workId).nodup_iff.mpr hids
    · rw [Option.some.injEq] at h
      rw [List.map_append] at hids
      exact h ▸ hids.of_append_left

theorem nodup_selection {items : List CorpusWorkProjection}
    (hids : (pool.map workId).Nodup) (h : coverageStratifiedSelection pool take = some items) :
    (items.map (·.workId)).Nodup := by
  unfold coverageStratifiedSelection at h
  split_ifs at h
  · rw [Option.some.injEq] at h
    rw [← h, List.map_map]
    exact hids
  · cases hsorted : pool.insertionSort precedes with
    | nil => simp [hsorted] at h
    | cons first rest =>
      simp only [hsorted, Option.map_eq_some_iff] at h
      obtain ⟨selected, hselected, rfl⟩ := h
      have hperm := pool.perm_insertionSort precedes
      rw [hsorted] at hperm
      rw [List.map_map]
      exact nodup_rounds ((hperm.map workId).nodup_iff.mpr hids) hselected

/-- A pool that is larger than what is taken from it: the items are chosen one by one. -/
theorem exists_selected (hids : (pool.map workId).Nodup) (htake : 1 ≤ take) (hsized : Sized pool)
    (hmore : take < pool.length) :
    ∃ first rest, coverageStratifiedSelection pool take = some ((first :: rest).map (·.1)) ∧
      (∀ item ∈ pool, precedes first item) ∧
      FarthestFirst (poolDistance pool) workId pool (first :: rest) ∧
      (first :: rest).length = take ∧ ∃ left, (first :: rest ++ left).Perm pool := by
  have hne : pool ≠ [] := by
    intro hnone
    rw [hnone] at hmore
    exact absurd hmore (Nat.not_lt_zero _)
  obtain ⟨first, behind, hsort, hperm, hfirst⟩ := exists_first hne
  have hround : Round (greatest (pool.map (·.2.1))) (greatest (pool.map (·.2.2))) pool [first]
      behind := ⟨hperm, by simp, FarthestFirst.singleton first⟩
  have hone : [first].length ≤ take := htake
  obtain ⟨items, left, hrounds, hlast, hprefix, hcount⟩ :=
    rounds_eq_some (one_le_greatest _) (one_le_greatest _) hsized hids.of_map hround le_rfl hone
  obtain ⟨rest, rfl⟩ := hprefix
  refine ⟨first, rest, ?_, hfirst, hlast.farthest, ?_, left, hlast.perm⟩
  · rw [coverageStratifiedSelection, if_neg (by omega)]
    simp only [hsort, hrounds, Option.map_some, List.singleton_append]
  · have hall : min take pool.length = take := by omega
    rw [hall] at hcount
    simpa using hcount

/-- The selection takes the first item by size and then always the farthest, however the pool is
ordered. -/
theorem coverageStratifiedSelection_eq (hids : (pool.map workId).Nodup) (htake : 1 ≤ take)
    (hsized : Sized pool) :
    ∃ items : List PoolItem, coverageStratifiedSelection pool take = some (items.map (·.1)) ∧
      items.length = min take pool.length ∧ (∀ item ∈ items, item ∈ pool) ∧
      (items.map workId).Nodup ∧
      (take < pool.length →
        (∀ other : List PoolItem, other.Perm pool →
          coverageStratifiedSelection other take = some (items.map (·.1))) ∧
        (∀ first ∈ items.head?, ∀ item ∈ pool,
          item.2.2 < first.2.2 ∨ item.2.2 = first.2.2 ∧ item.2.1 ≤ first.2.1) ∧
        FarthestFirst (poolDistance pool) workId pool items) := by
  by_cases hmore : take < pool.length
  · obtain ⟨first, rest, hselection, hfirst, hfarthest, hlength, left, hperm⟩ :=
      exists_selected hids htake hsized hmore
    have hsame : ∀ a ∈ pool, ∀ b ∈ pool, workId a = workId b → a = b :=
      fun a ha b hb h => List.inj_on_of_nodup_map hids ha hb h
    have hmem : ∀ item ∈ first :: rest, item ∈ pool := fun item hitem =>
      hperm.mem_iff.mp (List.mem_append_left _ hitem)
    refine ⟨first :: rest, hselection, by omega, hmem, ?_, fun _ => ⟨?_, ?_, hfarthest⟩⟩
    · have hall := (hperm.map workId).nodup_iff.mpr hids
      rw [List.map_append] at hall
      exact (List.nodup_append.mp hall).1
    · intro other hother
      have hids' : (other.map workId).Nodup := (hother.map workId).nodup_iff.mpr hids
      have hsized' : Sized other := fun item hitem => hsized item (hother.mem_iff.mp hitem)
      have hmore' : take < other.length := hother.length_eq ▸ hmore
      obtain ⟨first', rest', hselection', hfirst', hfarthest', hlength', left', hperm'⟩ :=
        exists_selected hids' htake hsized' hmore'
      have hmem' : first' ∈ pool := hother.mem_iff.mp (hperm'.mem_iff.mp (by simp))
      -- both first items precede each other, so their ids agree
      have hstart : first' = first := by
        have hforward := precedes_iff.mp (hfirst first' hmem')
        have hback := precedes_iff.mp
          (hfirst' first (hother.mem_iff.mpr (hmem first (by simp))))
        apply hsame first' hmem' first (hmem first (by simp))
        grind
      subst hstart
      rw [poolDistance_perm hother] at hfarthest'
      have hrest : rest' = rest :=
        (hfarthest'.congr fun a => hother.mem_iff).unique hsame hfarthest (by simp at *; omega)
      rw [hselection', hrest]
    · intro head hhead item hitem
      obtain rfl : first = head := by simpa using hhead
      rcases precedes_iff.mp (hfirst item hitem) with hlt | ⟨heq, hbytes⟩
      · exact .inl hlt
      · exact .inr ⟨heq, by omega⟩
  · refine ⟨pool, ?_, by omega, fun item hitem => hitem, hids, fun h => absurd h hmore⟩
    rw [coverageStratifiedSelection, if_pos (by omega)]

end

namespace Sample

def work (id : String) (bytes chapters : ℕ) : PoolItem :=
  (⟨id, id, "private", true⟩, bytes, chapters)

/-- The work `b` is the longest; `c` has its chapters and `a` its bytes. -/
def pool : List PoolItem := [work "a" 20 1, work "b" 20 9, work "c" 3 9, work "d" 18 8]

example : coverageStratifiedSelection pool 3 = some [(work "b" 20 9).1, (work "a" 20 1).1,
    (work "c" 3 9).1] := by
  decide +kernel

end Sample

open Selection in
theorem coverageStratifiedSelection_eq_sample :
    ∃ items : List PoolItem, coverageStratifiedSelection Sample.pool 3 = some (items.map (·.1)) ∧
      items.length = 3 ∧ FarthestFirst (poolDistance Sample.pool) workId Sample.pool items := by
  have hsized : Sized Sample.pool := by
    rw [Sized]
    decide
  have hids : (Sample.pool.map workId).Nodup := by decide
  have htake : 1 ≤ 3 := by decide
  obtain ⟨items, hselection, hlength, -, -, hmore⟩ :=
    coverageStratifiedSelection_eq hids htake hsized
  exact ⟨items, hselection, hlength, (hmore (by decide)).2.2⟩

end Quillframe.Corpus
