import Quillframe.Cloud.CanonicalJson

/-!
# The parser of canonical JSON

Every call of the parser reads at least one unit, so its fuel never runs out, and every object it
returns has distinct keys.
-/
namespace Quillframe.Cloud

open Js

variable {kind : JsonKind}

theorem length_skipWhitespace_le (s : Text) : (skipWhitespace s).length ≤ s.length :=
  (List.dropWhile_sublist _).length_le

section Readers

variable {s rest key : Text} {code : CodeUnit} {value : JsonValue}

theorem parseUnits_length {units : Text} (h : parseUnits kind s = .ok (units, rest)) :
    rest.length < s.length := by
  fun_induction parseUnits kind s generalizing units rest with
  | case1 => simp at h
  | case2 => simp_all
  | case3 _ a b c d tail ih =>
    simp only [bind_eq_ok, fetch_eq_ok, pure_eq_ok, Prod.exists, Prod.mk.injEq] at h
    obtain ⟨_, _, _, _, htail, -, rfl⟩ := h
    have := ih htail
    simp only [List.length_cons]
    omega
  | case4 => simp at h
  | case5 _ escaped tail _ ih =>
    simp only [bind_eq_ok, fetch_eq_ok, pure_eq_ok, Prod.exists, Prod.mk.injEq] at h
    obtain ⟨_, _, _, _, htail, -, rfl⟩ := h
    have := ih htail
    simp only [List.length_cons]
    omega
  | case6 => simp at h
  | case7 code tail _ _ ih =>
    simp only [bind_eq_ok, require_eq_ok, pure_eq_ok, Prod.exists, Prod.mk.injEq,
      exists_const] at h
    obtain ⟨_, _, _, htail, -, rfl⟩ := h
    have := ih htail
    simp only [List.length_cons]
    omega

theorem parseString_length (h : parseString kind s = .ok (key, rest)) :
    rest.length < s.length := by
  cases s with
  | nil => simp [parseString] at h
  | cons code tail =>
    simp only [parseString, bind_eq_ok, require_eq_ok, exists_const] at h
    exact (parseUnits_length h.2).trans (Nat.lt_succ_self _)

theorem parseNumber_length (h : parseNumber kind s = .ok (value, rest)) :
    rest.length < s.length := by
  simp only [parseNumber, bind_eq_ok, fetch_eq_ok, require_eq_ok, pure_eq_ok, Prod.exists,
    Prod.mk.injEq, exists_const] at h
  obtain ⟨literal, tail, hscan, -, -, rfl⟩ := h
  exact length_scanNumber hscan

theorem parseNumber_value (h : parseNumber kind s = .ok (value, rest)) :
    ∃ x, value = .number x := by
  simp only [parseNumber, bind_eq_ok, fetch_eq_ok, require_eq_ok, pure_eq_ok, Prod.exists,
    Prod.mk.injEq, exists_const] at h
  obtain ⟨literal, tail, -, -, hvalue, -⟩ := h
  exact ⟨_, hvalue.symm⟩

theorem parseLiteral_length {token : Text} {literal : JsonValue} (htoken : token ≠ [])
    (h : parseLiteral kind token literal s = .ok (value, rest)) :
    rest.length < s.length ∧ value = literal := by
  simp only [parseLiteral, bind_eq_ok, require_eq_ok, pure_eq_ok, Prod.mk.injEq,
    exists_const] at h
  obtain ⟨htake, rfl, rfl⟩ := h
  have hlength := congrArg List.length htake
  have := List.length_pos_iff.mpr htoken
  rw [List.length_take] at hlength
  rw [List.length_drop]
  exact ⟨by omega, rfl⟩

theorem expect_length {expected : CodeUnit} (h : expect kind expected s = .ok rest) :
    rest.length < s.length := by
  cases s with
  | nil => simp [expect] at h
  | cons code tail =>
    simp only [expect, bind_eq_ok, require_eq_ok, pure_eq_ok, exists_const] at h
    simp [← h.2]

end Readers

/-! ## Every call reads on -/

/-- What the calls with some fuel return: less text, and values with distinct keys. -/
structure ReadsOn (kind : JsonKind) (fuel : ℕ) : Prop where
  value : ∀ {s value rest}, parseValue kind fuel s = .ok (value, rest) →
    rest.length < s.length ∧ value.DistinctKeys
  object : ∀ {s value rest}, parseObject kind fuel s = .ok (value, rest) →
    rest.length < s.length ∧ value.DistinctKeys
  members : ∀ {s seen members rest}, parseMembers kind fuel seen s = .ok (members, rest) →
    rest.length < s.length ∧ JsonValue.DistinctMembers members ∧
      (members.map Prod.fst).Nodup ∧ ∀ key ∈ members.map Prod.fst, key ∉ seen
  array : ∀ {s value rest}, parseArray kind fuel s = .ok (value, rest) →
    rest.length < s.length ∧ value.DistinctKeys
  items : ∀ {s items rest}, parseItems kind fuel s = .ok (items, rest) →
    rest.length < s.length ∧ JsonValue.DistinctItems items

section Steps

variable {fuel : ℕ} {s rest : Text} {value : JsonValue}

theorem length_lt_of_skip {code : CodeUnit} (h : skipWhitespace s = code :: rest) :
    rest.length < s.length := by
  have := length_skipWhitespace_le s
  rw [h, List.length_cons] at this
  omega

theorem ReadsOn.value_succ (ih : ReadsOn kind fuel)
    (h : parseValue kind (fuel + 1) s = .ok (value, rest)) :
    rest.length < s.length ∧ value.DistinctKeys := by
  rw [parseValue.eq_def] at h
  simp only at h
  split at h
  · exact absurd (parseNumber_length h) (by simp)
  · rename_i code tail hskip
    have hlength := length_skipWhitespace_le s
    rw [hskip] at hlength
    have htail := length_skipWhitespace_le tail
    simp only [List.length_cons] at hlength
    split_ifs at h
    · obtain ⟨hrest, hkeys⟩ := ih.object h
      exact ⟨by omega, hkeys⟩
    · obtain ⟨hrest, hkeys⟩ := ih.array h
      exact ⟨by omega, hkeys⟩
    · obtain ⟨⟨string, tail'⟩, hstring, heq⟩ := map_eq_ok.mp h
      obtain ⟨rfl, rfl⟩ := Prod.mk.inj heq
      have hrest := parseString_length hstring
      exact ⟨hrest.trans_le hlength, trivial⟩
    · obtain ⟨hrest, rfl⟩ := parseLiteral_length (by decide) h
      exact ⟨hrest.trans_le hlength, trivial⟩
    · obtain ⟨hrest, rfl⟩ := parseLiteral_length (by decide) h
      exact ⟨hrest.trans_le hlength, trivial⟩
    · obtain ⟨hrest, rfl⟩ := parseLiteral_length (by decide) h
      exact ⟨hrest.trans_le hlength, trivial⟩
    · obtain ⟨x, rfl⟩ := parseNumber_value h
      exact ⟨(parseNumber_length h).trans_le hlength, trivial⟩

theorem ReadsOn.object_succ (ih : ReadsOn kind fuel)
    (h : parseObject kind (fuel + 1) s = .ok (value, rest)) :
    rest.length < s.length ∧ value.DistinctKeys := by
  rw [parseObject.eq_def] at h
  simp only at h
  split_ifs at h with hclose
  · obtain ⟨rfl, rfl⟩ := Prod.mk.inj (Except.ok.inj h)
    cases s with
    | nil => simp at hclose
    | cons code tail => exact ⟨Nat.lt_succ_self _, List.nodup_nil, trivial⟩
  · obtain ⟨⟨members, tail⟩, hmembers, heq⟩ := map_eq_ok.mp h
    obtain ⟨rfl, rfl⟩ := Prod.mk.inj heq
    obtain ⟨hrest, hdistinct, hnodup, -⟩ := ih.members hmembers
    exact ⟨hrest, hnodup, hdistinct⟩

theorem ReadsOn.members_succ (ih : ReadsOn kind fuel) {seen : List Text} {members : List Member}
    (h : parseMembers kind (fuel + 1) seen s = .ok (members, rest)) :
    rest.length < s.length ∧ JsonValue.DistinctMembers members ∧
      (members.map Prod.fst).Nodup ∧ ∀ key ∈ members.map Prod.fst, key ∉ seen := by
  rw [parseMembers.eq_def] at h
  simp only [bind_eq_ok, require_eq_ok, Prod.exists, exists_const] at h
  obtain ⟨key, s₁, hkey, -, hseen, s₂, hcolon, value, s₃, hvalue, h⟩ := h
  have h₁ := parseString_length hkey
  have h₂ := expect_length hcolon
  obtain ⟨h₃, hdistinct⟩ := ih.value hvalue
  have hskip := length_skipWhitespace_le s
  have hskip₁ := length_skipWhitespace_le s₁
  split at h
  · simp at h
  · rename_i delimiter tail hdelimiter
    have h₄ := length_lt_of_skip hdelimiter
    split_ifs at h
    · obtain ⟨rfl, rfl⟩ := Prod.mk.inj (Except.ok.inj h)
      exact ⟨by omega, ⟨hdistinct, trivial⟩, List.nodup_singleton key, by simpa using hseen⟩
    · obtain ⟨⟨others, tail'⟩, hothers, heq⟩ := map_eq_ok.mp h
      obtain ⟨rfl, rfl⟩ := Prod.mk.inj heq
      obtain ⟨h₅, hdistinct', hnodup, hnew⟩ := ih.members hothers
      refine ⟨by simp only; omega, ⟨hdistinct, hdistinct'⟩, ?_, ?_⟩
      · rw [List.map_cons]
        exact List.nodup_cons.mpr
          ⟨fun hmem => hnew key hmem List.mem_cons_self, hnodup⟩
      · rw [List.map_cons, List.forall_mem_cons]
        exact ⟨hseen, fun k hk hmem => hnew k hk (List.mem_cons_of_mem _ hmem)⟩

theorem ReadsOn.array_succ (ih : ReadsOn kind fuel)
    (h : parseArray kind (fuel + 1) s = .ok (value, rest)) :
    rest.length < s.length ∧ value.DistinctKeys := by
  rw [parseArray.eq_def] at h
  simp only at h
  split_ifs at h with hclose
  · obtain ⟨rfl, rfl⟩ := Prod.mk.inj (Except.ok.inj h)
    cases s with
    | nil => simp at hclose
    | cons code tail => exact ⟨Nat.lt_succ_self _, trivial⟩
  · obtain ⟨⟨items, tail⟩, hitems, heq⟩ := map_eq_ok.mp h
    obtain ⟨rfl, rfl⟩ := Prod.mk.inj heq
    exact ih.items hitems

theorem ReadsOn.items_succ (ih : ReadsOn kind fuel) {items : List JsonValue}
    (h : parseItems kind (fuel + 1) s = .ok (items, rest)) :
    rest.length < s.length ∧ JsonValue.DistinctItems items := by
  rw [parseItems.eq_def] at h
  simp only [bind_eq_ok, Prod.exists] at h
  obtain ⟨value, s₁, hvalue, h⟩ := h
  obtain ⟨h₁, hdistinct⟩ := ih.value hvalue
  split at h
  · simp at h
  · rename_i delimiter tail hdelimiter
    have h₂ := length_lt_of_skip hdelimiter
    split_ifs at h
    · obtain ⟨rfl, rfl⟩ := Prod.mk.inj (Except.ok.inj h)
      exact ⟨by omega, hdistinct, trivial⟩
    · obtain ⟨⟨others, tail'⟩, hothers, heq⟩ := map_eq_ok.mp h
      obtain ⟨rfl, rfl⟩ := Prod.mk.inj heq
      obtain ⟨h₃, hdistinct'⟩ := ih.items hothers
      exact ⟨by simp only; omega, hdistinct, hdistinct'⟩

end Steps

theorem readsOn (kind : JsonKind) (fuel : ℕ) : ReadsOn kind fuel := by
  induction fuel with
  | zero =>
    constructor <;> intros <;> rename_i h
    · simp [parseValue] at h
    · simp [parseObject] at h
    · simp [parseMembers] at h
    · simp [parseArray] at h
    · simp [parseItems] at h
  | succ fuel ih =>
    exact ⟨ih.value_succ, ih.object_succ, ih.members_succ, ih.array_succ, ih.items_succ⟩

/-! ## The fuel never runs out -/

theorem bind_congr_ok {ε α β : Type} {x : Except ε α} {f g : α → Except ε β}
    (h : ∀ a, x = .ok a → f a = g a) : x >>= f = x >>= g := by
  cases x with
  | error e => rfl
  | ok a => exact h a rfl

/-- One unit of fuel more than a text needs changes nothing. -/
structure FuelSpare (kind : JsonKind) (fuel : ℕ) : Prop where
  value : ∀ {s}, 3 * s.length + 1 ≤ fuel → parseValue kind (fuel + 1) s = parseValue kind fuel s
  object : ∀ {s}, 3 * s.length + 3 ≤ fuel →
    parseObject kind (fuel + 1) s = parseObject kind fuel s
  members : ∀ {seen s}, 3 * s.length + 2 ≤ fuel →
    parseMembers kind (fuel + 1) seen s = parseMembers kind fuel seen s
  array : ∀ {s}, 3 * s.length + 3 ≤ fuel → parseArray kind (fuel + 1) s = parseArray kind fuel s
  items : ∀ {s}, 3 * s.length + 2 ≤ fuel → parseItems kind (fuel + 1) s = parseItems kind fuel s

theorem fuelSpare (kind : JsonKind) (fuel : ℕ) : FuelSpare kind fuel := by
  induction fuel with
  | zero => constructor <;> intros <;> omega
  | succ fuel ih =>
    refine ⟨fun {s} hs => ?_, fun {s} hs => ?_, fun {seen s} hs => ?_, fun {s} hs => ?_,
      fun {s} hs => ?_⟩
    · rw [parseValue.eq_def, parseValue.eq_def kind (fuel + 1)]
      simp only
      split
      · rfl
      · rename_i code tail hskip
        have htail := length_lt_of_skip hskip
        have hskip' := length_skipWhitespace_le tail
        rw [ih.object (by omega), ih.array (by omega)]
    · rw [parseObject.eq_def, parseObject.eq_def kind (fuel + 1)]
      simp only
      rw [ih.members (by omega)]
    · rw [parseMembers.eq_def, parseMembers.eq_def kind (fuel + 1)]
      simp only
      have hskip := length_skipWhitespace_le s
      refine bind_congr_ok fun ⟨key, s₁⟩ hkey => ?_
      have h₁ := parseString_length hkey
      have hskip₁ := length_skipWhitespace_le s₁
      refine bind_congr_ok fun _ _ => bind_congr_ok fun _ _ => bind_congr_ok fun s₂ hcolon => ?_
      have h₂ := expect_length hcolon
      rw [ih.value (by simp only at *; omega)]
      refine bind_congr_ok fun ⟨value, s₃⟩ hvalue => ?_
      have h₃ := ((readsOn kind fuel).value hvalue).1
      simp only at *
      split
      · rfl
      · rename_i delimiter tail hdelimiter
        have h₄ := length_lt_of_skip hdelimiter
        rw [ih.members (by omega)]
    · rw [parseArray.eq_def, parseArray.eq_def kind (fuel + 1)]
      simp only
      rw [ih.items (by omega)]
    · rw [parseItems.eq_def, parseItems.eq_def kind (fuel + 1)]
      simp only
      rw [ih.value (by omega)]
      refine bind_congr_ok fun ⟨value, s₁⟩ hvalue => ?_
      have h₁ := ((readsOn kind fuel).value hvalue).1
      simp only at *
      split
      · rfl
      · rename_i delimiter tail hdelimiter
        have h₂ := length_lt_of_skip hdelimiter
        rw [ih.items (by omega)]

/-- With the fuel of its text or more, the parser returns one result. -/
theorem parseValue_fuel {fuel : ℕ} {s : Text} (h : fuelFor s ≤ fuel) :
    parseValue kind fuel s = parseValue kind (fuelFor s) s := by
  induction fuel, h using Nat.le_induction with
  | base => rfl
  | succ fuel hfuel ih => rw [(fuelSpare kind fuel).value hfuel, ih]

theorem parseText_distinct {s : Text} {value : JsonValue} (h : parseText kind s = .ok value) :
    value.DistinctKeys := by
  simp only [parseText, bind_eq_ok, require_eq_ok, pure_eq_ok, Prod.exists, exists_const] at h
  obtain ⟨v, rest, hvalue, -, rfl⟩ := h
  exact ((readsOn kind _).value hvalue).2

end Quillframe.Cloud
