import Quillframe.Cloud.CoreProof

/-!
# A signed proof verifies

Valid claims survive the header exactly when their key id has no dot and their path no lone
surrogate, at a clock that reads a safe time.
-/
namespace Quillframe.Cloud.CoreProof

open Js JsonValue

/-! ## The keys of valid claims -/

theorem length_joinComma {pieces : List Text} (h : pieces ≠ []) :
    (joinComma pieces).length + 1 = (pieces.map fun piece => piece.length + 1).sum := by
  induction pieces with
  | nil => exact absurd rfl h
  | cons piece others ih =>
    cases others with
    | nil => simp [joinComma_singleton]
    | cons next others =>
      have hrest := ih (by simp)
      rw [joinComma_cons_cons, List.map_cons, List.sum_cons, ← hrest, List.length_append,
        List.length_cons]
      omega

theorem eq_of_sublist_of_sum {pieces others : List Text} (h : pieces.Sublist others)
    (hsum : (others.map fun piece => piece.length + 1).sum ≤
      (pieces.map fun piece => piece.length + 1).sum) : pieces = others := by
  induction h with
  | slnil => rfl
  | @cons pieces others piece h ih =>
    have hle := (h.map fun piece => piece.length + 1).sum_le_sum (by simp)
    simp only [List.map_cons, List.sum_cons] at hsum
    omega
  | @cons_cons pieces others piece h ih =>
    simp only [List.map_cons, List.sum_cons] at hsum
    rw [ih (by omega)]

/-- The length of the texts joined by commas, and one more. -/
theorem length_join_sorted {keys : List Text} (h : keys ≠ []) :
    (joinComma (sortTexts keys)).length + 1 = (keys.map fun piece => piece.length + 1).sum := by
  have hperm : (sortTexts keys).Perm keys := List.perm_insertionSort _ _
  rw [length_joinComma fun hnil => h (List.nil_perm.mp (hnil ▸ hperm))]
  exact (hperm.map _).sum_eq

/-- A comma inside a key cannot stand for two keys that are there. -/
theorem keys_perm {members : List Member} (hexact : exactKeys (.object members) claimKeys)
    (hall : claimKeys ⊆ members.map Prod.fst) : (members.map Prod.fst).Perm claimKeys := by
  obtain ⟨keys, hkeys, hsub⟩ := List.subperm_of_subset (by decide) hall
  have hjoin : joinComma (sortTexts (members.map Prod.fst)) = joinComma (sortTexts claimKeys) :=
    of_decide_eq_true hexact
  have hne : members.map Prod.fst ≠ [] :=
    List.ne_nil_of_mem (hall (show text "path" ∈ claimKeys by decide))
  have hsum := length_join_sorted hne
  rw [hjoin, length_join_sorted (by decide), ← (hkeys.map _).sum_eq] at hsum
  rw [← eq_of_sublist_of_sum hsub hsum.ge]
  exact hkeys

/-! ## The fields of valid claims -/

variable {claims : JsonValue}

theorem onString_iff {check : Text → Bool} {value : Option JsonValue} :
    onString check value ↔ ∃ s, value = some (.string s) ∧ check s := by
  unfold onString
  split <;> simp_all

theorem onNumber_iff {check : Number → Bool} {value : Option JsonValue} :
    onNumber check value ↔ ∃ x, value = some (.number x) ∧ check x := by
  unfold onNumber
  split <;> simp_all

theorem isNull_iff {value : Option JsonValue} : isNull value ↔ value = some .null := by
  unfold isNull
  split <;> simp_all

/-- The checks of the fields, one by one. -/
structure ValidFields (claims : JsonValue) : Prop where
  schema : field "schema" claims = some (.string coreProofSchema)
  keyId : ∃ s, field "key_id" claims = some (.string s) ∧ boundedId s
  method : ∃ s, field "method" claims = some (.string s) ∧ boundedMethod s
  path : ∃ s, field "path" claims = some (.string s) ∧ boundedPath s
  bodySha256 : ∃ s, field "body_sha256" claims = some (.string s) ∧ hexHash s
  workspaceId : ∃ s, field "workspace_id" claims = some (.string s) ∧ boundedId s
  sessionId : ∃ s, field "session_id" claims = some (.string s) ∧ boundedId s
  projectId : field "project_id" claims = some .null ∨
    ∃ s, field "project_id" claims = some (.string s) ∧ nativeProjectId s
  scope : field "scope" claims = some (.string (text "novel"))
  issuedAt : ∃ x, field "issued_at" claims = some (.number x) ∧ safeTime x
  expiresAt : ∃ x, field "expires_at" claims = some (.number x) ∧ safeTime x
  nonce : ∃ s, field "nonce" claims = some (.string s) ∧ boundedNonce s

theorem validFields_iff : validFields claims ↔ ValidFields claims := by
  have hschema : ∀ (name : String) (s : Text),
      onString (fun t => decide (t = s)) (field name claims) = true ↔
        field name claims = some (.string s) := by
    intro name s
    rw [onString_iff]
    constructor
    · rintro ⟨t, heq, ht⟩
      rw [heq, of_decide_eq_true ht]
    · intro heq
      exact ⟨s, heq, decide_eq_true rfl⟩
  rw [validFields, decide_eq_true_eq, hschema, hschema]
  simp only [onString_iff, onNumber_iff, isNull_iff]
  constructor
  · rintro ⟨h₁, h₂, h₃, h₄, h₅, h₆, h₇, h₈, h₉, h₁₀, h₁₁, h₁₂⟩
    exact ⟨h₁, h₂, h₃, h₄, h₅, h₆, h₇, h₈, h₉, h₁₀, h₁₁, h₁₂⟩
  · rintro ⟨h₁, h₂, h₃, h₄, h₅, h₆, h₇, h₈, h₉, h₁₀, h₁₁, h₁₂⟩
    exact ⟨h₁, h₂, h₃, h₄, h₅, h₆, h₇, h₈, h₉, h₁₀, h₁₁, h₁₂⟩

theorem validateClaims_eq_ok : validateClaims claims = .ok () ↔
    exactKeys claims claimKeys ∧ ValidFields claims ∧
      time "issued_at" claims < time "expires_at" claims ∧
      time "expires_at" claims - time "issued_at" claims ≤ coreProofMaxLifetimeMs := by
  simp only [validateClaims, bind_eq_ok, require_eq_ok, exists_const, validFields_iff]

theorem ValidFields.field_isSome (h : ValidFields claims) :
    ∀ name ∈ claimNames, (field name claims).isSome := by
  obtain ⟨s₁, h₁, -⟩ := h.keyId
  obtain ⟨s₂, h₂, -⟩ := h.method
  obtain ⟨s₃, h₃, -⟩ := h.path
  obtain ⟨s₄, h₄, -⟩ := h.bodySha256
  obtain ⟨s₅, h₅, -⟩ := h.workspaceId
  obtain ⟨s₆, h₆, -⟩ := h.sessionId
  obtain ⟨s₇, h₇, -⟩ := h.issuedAt
  obtain ⟨s₈, h₈, -⟩ := h.expiresAt
  obtain ⟨s₉, h₉, -⟩ := h.nonce
  have h₁₀ : (field "project_id" claims).isSome := by
    rcases h.projectId with heq | ⟨s, heq, -⟩ <;> simp [heq]
  simp only [claimNames, List.forall_mem_cons]
  simp [h₁, h₂, h₃, h₄, h₅, h₆, h₇, h₈, h₉, h₁₀, h.schema, h.scope]

/-- The member of a name. -/
def entry (claims : JsonValue) (name : String) : Member :=
  (text name, (field name claims).getD .null)

/-- Valid claims have the twelve members and no other. -/
theorem members_perm (h : validateClaims claims = .ok ()) (hkeys : claims.DistinctKeys) :
    ∃ members, claims = .object members ∧ members.Perm (claimNames.map (entry claims)) := by
  obtain ⟨hexact, hfields, -⟩ := validateClaims_eq_ok.mp h
  cases claims with
  | object members =>
    refine ⟨members, rfl, ?_⟩
    have hmem : ∀ name ∈ claimNames, entry (.object members) name ∈ members := by
      intro name hname
      obtain ⟨value, hvalue⟩ := Option.isSome_iff_exists.mp (hfields.field_isSome name hname)
      rw [entry, hvalue]
      exact (member?_eq_some hkeys.1).mp hvalue
    have hall : claimKeys ⊆ members.map Prod.fst := by
      intro key hkey
      obtain ⟨name, hname, rfl⟩ := List.mem_map.mp hkey
      exact List.mem_map.mpr ⟨_, hmem name hname, rfl⟩
    have hperm := keys_perm hexact hall
    have hentries : claimNames.map (entry (.object members)) ⊆ members := by
      intro member hmember
      obtain ⟨name, hname, rfl⟩ := List.mem_map.mp hmember
      exact hmem name hname
    have hnodup : (claimNames.map (entry (.object members))).Nodup := by
      refine List.Nodup.of_map Prod.fst ?_
      rw [List.map_map]
      exact (show claimKeys.Nodup by decide)
    have hlength := hperm.length_eq
    rw [List.length_map, claimKeys, List.length_map] at hlength
    exact ((List.subperm_of_subset hnodup hentries).perm_of_length_le
      (by rw [hlength, List.length_map])).symm
  | _ => simp [exactKeys] at hexact

/-! ## The representative is as valid -/

theorem field_canonical (hkeys : claims.DistinctKeys) (name : String) :
    field name (canonical claims) = (field name claims).map canonical := by
  cases claims with
  | object members =>
    have hnodup : ((sortByKey (canonicalMembers members)).map Prod.fst).Nodup := by
      rw [((sortByKey_perm _).map Prod.fst).nodup_iff, canonicalMembers_keys]
      exact hkeys.1
    refine Option.ext fun value => ?_
    change member? (text name) (sortByKey (canonicalMembers members)) = some value ↔
      (member? (text name) members).map canonical = some value
    rw [member?_eq_some hnodup, (sortByKey_perm _).mem_iff, canonicalMembers_eq, List.mem_map,
      Option.map_eq_some_iff]
    constructor
    · rintro ⟨⟨key, v⟩, hmem, heq⟩
      obtain ⟨rfl, rfl⟩ := Prod.mk.inj heq
      exact ⟨v, (member?_eq_some hkeys.1).mpr hmem, rfl⟩
    · rintro ⟨v, hv, rfl⟩
      exact ⟨_, (member?_eq_some hkeys.1).mp hv, rfl⟩
  | _ => rfl

theorem onString_canonical (check : Text → Bool) (value : Option JsonValue) :
    onString check (value.map canonical) = onString check value := by
  cases value with
  | none => rfl
  | some v => cases v <;> rfl

theorem isNull_canonical (value : Option JsonValue) :
    isNull (value.map canonical) = isNull value := by
  cases value with
  | none => rfl
  | some v => cases v <;> rfl

theorem safeTime_unsigned (x : Number) : safeTime x.unsigned = safeTime x := by
  cases x <;> simp [safeTime, Number.unsigned, Number.isSafeInteger, Number.value]

theorem onNumber_canonical (value : Option JsonValue) :
    onNumber safeTime (value.map canonical) = onNumber safeTime value := by
  cases value with
  | none => rfl
  | some v =>
    cases v with
    | number x => exact safeTime_unsigned x
    | _ => rfl

section Canonical

variable (hkeys : claims.DistinctKeys)

include hkeys

theorem string_canonical (name : String) :
    string name (canonical claims) = string name claims := by
  rw [string, string, field_canonical hkeys]
  cases field name claims with
  | none => rfl
  | some v => cases v <;> rfl

theorem projectId_canonical : projectId (canonical claims) = projectId claims := by
  rw [projectId, projectId, field_canonical hkeys]
  cases field "project_id" claims with
  | none => rfl
  | some v => cases v <;> rfl

theorem time_canonical (name : String) : time name (canonical claims) = time name claims := by
  rw [time, time, field_canonical hkeys]
  cases field name claims with
  | none => rfl
  | some v =>
    cases v with
    | number x => cases x <;> rfl
    | _ => rfl

theorem exactKeys_canonical (expected : List Text) :
    exactKeys (canonical claims) expected = exactKeys claims expected := by
  cases claims with
  | object members =>
    have hperm : ((sortByKey (canonicalMembers members)).map Prod.fst).Perm
        (members.map Prod.fst) := by
      rw [← canonicalMembers_keys members]
      exact (sortByKey_perm _).map _
    have hsorted : sortTexts ((sortByKey (canonicalMembers members)).map Prod.fst) =
        sortTexts (members.map Prod.fst) := by
      refine List.Perm.eq_of_pairwise (fun a b _ _ => le_antisymm)
        (List.pairwise_insertionSort _ _) (List.pairwise_insertionSort _ _) ?_
      exact (List.perm_insertionSort _ _).trans
        (hperm.trans (List.perm_insertionSort _ _).symm)
    simp only [canonical, exactKeys, hsorted]
  | _ => rfl

theorem validateClaims_canonical : validateClaims (canonical claims) = validateClaims claims := by
  have hfields : validFields (canonical claims) = validFields claims := by
    simp only [validFields, field_canonical hkeys, onString_canonical, isNull_canonical,
      onNumber_canonical]
  simp only [validateClaims, hfields, exactKeys_canonical hkeys, time_canonical hkeys]

end Canonical

/-! ## Which claims can be printed -/

theorem accepted_of_ascii {s : Text} (h : Ascii s) : Accepted (.string s) :=
  accepted_string.mpr (hasLoneSurrogate_of_ascii h)

/-- Printed as it is, in one byte. -/
def Visible (s : Text) : Prop := ∀ code ∈ s, 0x20 ≤ code.val ∧ code.val < 0x80

theorem Visible.ascii {s : Text} (h : Visible s) : Ascii s := fun code hcode => (h code hcode).2

theorem Visible.accepted {s : Text} (h : Visible s) : Accepted (.string s) :=
  accepted_of_ascii h.ascii

theorem visible_of_all {p : CodeUnit → Prop} [DecidablePred p]
    (hp : ∀ code, p code → 0x20 ≤ code.val ∧ code.val < 0x80) {s : Text}
    (h : s.all fun code => decide (p code)) : Visible s := by
  intro code hcode
  exact hp code (of_decide_eq_true (List.all_eq_true.mp h code hcode))

theorem visible_cons {code : CodeUnit} {rest : Text}
    (hcode : 0x20 ≤ code.val ∧ code.val < 0x80) (h : Visible rest) : Visible (code :: rest) :=
  List.forall_mem_cons.mpr ⟨hcode, h⟩

theorem isAlphanumeric_visible {code : CodeUnit} (h : IsAlphanumeric code) :
    0x20 ≤ code.val ∧ code.val < 0x80 := by
  simp only [IsAlphanumeric, IsDigit] at h
  omega

theorem isUpper_visible {code : CodeUnit} (h : IsUpper code) :
    0x20 ≤ code.val ∧ code.val < 0x80 := by
  simp only [IsUpper] at h
  omega

theorem isDigit_visible {code : CodeUnit} (h : IsDigit code) :
    0x20 ≤ code.val ∧ code.val < 0x80 := by
  simp only [IsDigit] at h
  omega

theorem visible_boundedId {s : Text} (h : boundedId s) : Visible s := by
  obtain ⟨-, -, hall⟩ := of_decide_eq_true h
  refine visible_of_all (p := IsIdUnit) ?_ hall
  rintro code (halnum | rfl | rfl | rfl | rfl)
  · exact isAlphanumeric_visible halnum
  all_goals decide

theorem visible_nativeProjectId {s : Text} (h : nativeProjectId s) : Visible s := by
  cases s with
  | nil => exact List.forall_mem_nil _
  | cons code rest =>
    obtain ⟨hfirst, -, hall⟩ := of_decide_eq_true h
    refine visible_cons (isAlphanumeric_visible hfirst)
      (visible_of_all (p := IsProjectUnit) ?_ hall)
    rintro code (halnum | rfl | rfl | rfl)
    · exact isAlphanumeric_visible halnum
    all_goals decide

theorem visible_boundedNonce {s : Text} (h : boundedNonce s) : Visible s := by
  obtain ⟨-, -, hall⟩ := of_decide_eq_true h
  refine visible_of_all (p := IsUrlDigit) ?_ hall
  rintro code (halnum | rfl | rfl)
  · exact isAlphanumeric_visible halnum
  all_goals decide

theorem visible_boundedMethod {s : Text} (h : boundedMethod s) : Visible s := by
  cases s with
  | nil => exact List.forall_mem_nil _
  | cons code rest =>
    obtain ⟨-, hfirst, hall⟩ := of_decide_eq_true h
    refine visible_cons (isUpper_visible hfirst) (visible_of_all (p := IsMethodUnit) ?_ hall)
    rintro code (hupper | hdigit | rfl)
    · exact isUpper_visible hupper
    · exact isDigit_visible hdigit
    · decide

theorem visible_hexHash {s : Text} (h : hexHash s) : Visible s := by
  obtain ⟨htake, -, hall⟩ := of_decide_eq_true h
  have hfront : Visible (text "sha256:") := by
    intro code hcode
    have hall : ∀ code ∈ text "sha256:", 0x20 ≤ code.val ∧ code.val < 0x80 := by
      simp [text, unit]
    exact hall code hcode
  rw [← List.take_append_drop 7 s, htake]
  refine List.forall_mem_append.mpr ⟨hfront, visible_of_all (p := IsLowerHex) ?_ hall⟩
  rintro code (hdigit | hletter)
  · exact isDigit_visible hdigit
  · omega

theorem accepted_safeTime {x : Number} (h : safeTime x) : Accepted (.number x) := by
  obtain ⟨hsafe, -⟩ := of_decide_eq_true h
  refine accepted_number.mpr ⟨?_, hsafe⟩
  cases x <;> simp_all [Number.isSafeInteger, Number.isFinite]

/-- Valid claims are printed unless their path has a lone surrogate. -/
theorem accepted_iff (h : validateClaims claims = .ok ()) (hkeys : claims.DistinctKeys) :
    Accepted claims ↔ hasLoneSurrogate (string "path" claims) = false := by
  obtain ⟨-, hfields, -⟩ := validateClaims_eq_ok.mp h
  obtain ⟨members, heq, hperm⟩ := members_perm h hkeys
  obtain ⟨s₁, h₁, hid₁⟩ := hfields.keyId
  obtain ⟨s₂, h₂, hmethod⟩ := hfields.method
  obtain ⟨s₃, h₃, -⟩ := hfields.path
  obtain ⟨s₄, h₄, hhash⟩ := hfields.bodySha256
  obtain ⟨s₅, h₅, hid₅⟩ := hfields.workspaceId
  obtain ⟨s₆, h₆, hid₆⟩ := hfields.sessionId
  obtain ⟨x₇, h₇, htime₇⟩ := hfields.issuedAt
  obtain ⟨x₈, h₈, htime₈⟩ := hfields.expiresAt
  obtain ⟨s₉, h₉, hnonce⟩ := hfields.nonce
  have hproject : Accepted ((field "project_id" claims).getD .null) := by
    rcases hfields.projectId with hnull | ⟨s, hs, hid⟩
    · rw [hnull]
      rfl
    · rw [hs]
      exact Visible.accepted (visible_nativeProjectId hid)
  have hpath : string "path" claims = s₃ := by rw [string, h₃]
  have haccepted : Accepted claims ↔ ∀ name ∈ claimNames,
      Ascii (text name) ∧ Accepted ((field name claims).getD .null) := by
    conv_lhs => rw [heq]
    rw [accepted_object]
    constructor
    · intro hall name hname
      exact hall _ (hperm.mem_iff.mpr (List.mem_map_of_mem hname))
    · intro hall member hmember
      obtain ⟨name, hname, rfl⟩ := List.mem_map.mp (hperm.mem_iff.mp hmember)
      exact hall name hname
  have hascii : ∀ name ∈ claimNames, Ascii (text name) := by decide
  rw [haccepted, hpath, ← accepted_string]
  constructor
  · intro hall
    have := (hall "path" (by decide)).2
    rwa [h₃] at this
  · intro hp name hname
    refine ⟨hascii name hname, ?_⟩
    simp only [claimNames, List.mem_cons, List.not_mem_nil, or_false] at hname
    rcases hname with rfl | rfl | rfl | rfl | rfl | rfl | rfl | rfl | rfl | rfl | rfl | rfl
    · rw [h₄]; exact Visible.accepted (visible_hexHash hhash)
    · rw [h₈]; exact accepted_safeTime htime₈
    · rw [h₇]; exact accepted_safeTime htime₇
    · rw [h₁]; exact Visible.accepted (visible_boundedId hid₁)
    · rw [h₂]; exact Visible.accepted (visible_boundedMethod hmethod)
    · rw [h₉]; exact Visible.accepted (visible_boundedNonce hnonce)
    · rw [h₃]; exact hp
    · exact hproject
    · rw [hfields.schema]; exact accepted_of_ascii (by decide)
    · rw [hfields.scope]; exact accepted_of_ascii (by decide)
    · rw [h₆]; exact Visible.accepted (visible_boundedId hid₆)
    · rw [h₅]; exact Visible.accepted (visible_boundedId hid₅)

/-! ## The length of a header -/

theorem length_escapeUnit_le {code : CodeUnit} (h : 0x20 ≤ code.val) :
    (escapeUnit code).length ≤ 2 := by
  rw [escapeUnit]
  split_ifs with _ _ _ _ _ _ _ hcontrol
  iterate 7 exact Nat.le_refl 2
  · omega
  · exact Nat.le_succ 1

/-- Without control characters and lone surrogates a quoted string at most doubles. -/
theorem length_quoteUnits_le {s : Text} (hlone : hasLoneSurrogate s = false)
    (hplain : ∀ code ∈ s, 0x20 ≤ code.val) : (quoteUnits s).length ≤ 2 * s.length := by
  fun_induction quoteUnits s with
  | case1 => simp
  | case2 code hh => simp [hasLoneSurrogate, hh] at hlone
  | case3 code hh next rest hl ih =>
    rw [hasLoneSurrogate_pair hh hl] at hlone
    have := ih hlone fun c hc => hplain c (by simp [hc])
    simp only [List.length_cons]
    omega
  | case4 code hh next rest hl ih =>
    rw [hasLoneSurrogate.eq_def] at hlone
    simp [hh, hl] at hlone
  | case5 code rest hh hl ih =>
    rw [hasLoneSurrogate.eq_def] at hlone
    simp [hh, hl] at hlone
  | case6 code rest hh hl ih =>
    rw [hasLoneSurrogate_plain hh hl] at hlone
    have hrest := ih hlone fun c hc => hplain c (List.mem_cons_of_mem _ hc)
    have hcode := length_escapeUnit_le (hplain code List.mem_cons_self)
    simp only [List.length_append, List.length_cons]
    omega

theorem length_stringifyString_le {s : Text} (hlone : hasLoneSurrogate s = false)
    (hplain : ∀ code ∈ s, 0x20 ≤ code.val) :
    (stringifyString s).length ≤ 2 * s.length + 2 := by
  have := length_quoteUnits_le hlone hplain
  simp only [stringifyString, List.length_append, List.length_cons, List.length_nil]
  omega

theorem length_natText_le {n : ℕ} (h : n ≤ 10 ^ 14) : (natText n).length ≤ 15 := by
  rw [natText]
  split_ifs with hn
  · simp
  · rw [List.length_map, List.length_reverse]
    exact (Nat.digits_length_le_iff (by decide) n).mpr (by omega)

theorem length_safeTime_le {x : Number} (h : safeTime x) : (stringifyNumber x).length ≤ 15 := by
  obtain ⟨hsafe, hlow, hhigh⟩ := of_decide_eq_true h
  cases x with
  | finite q =>
    obtain ⟨hden, -⟩ : q.den = 1 ∧ q.num.natAbs ≤ 2 ^ 53 - 1 := by
      simpa [Number.isSafeInteger] using hsafe
    have hq : (q.num : ℚ) = q := Rat.den_eq_one_iff q |>.mp hden
    have hneg : ¬ q < 0 := not_lt.mpr hlow
    have hnum : q.num ≤ 10 ^ 14 := by
      have hle : (q.num : ℚ) ≤ ((10 ^ 14 : ℤ) : ℚ) := by
        rw [hq]
        push_cast
        exact hhigh
      exact_mod_cast hle
    have hnum' : 0 ≤ q.num := Rat.num_nonneg.mpr hlow
    rw [stringifyNumber, if_neg hneg]
    exact length_natText_le (by omega)
  | negativeZero => exact length_natText_le (by decide)
  | infinite negative => simp [Number.isSafeInteger] at hsafe
  | nan => simp [Number.isSafeInteger] at hsafe

/-- A bound for the printed member of each name. -/
def memberBound (name : Text) : ℕ := if name = text "path" then 4200 else 300

theorem length_printed_le {name : String} (hname : name ∈ claimNames) {value : JsonValue}
    {bound : ℕ} (hvalue : (serializeCanonical value).length ≤ bound) :
    (printed (text name, value)).length ≤ bound + 30 := by
  have hkey : ∀ name ∈ claimNames, (stringifyString (text name)).length ≤ 29 := by
    decide +kernel
  have := hkey name hname
  simp only [printed, memberText, List.length_append, List.length_cons]
  omega

/-- Every member of valid claims that are printed keeps its bound. -/
theorem length_entry_le (h : validateClaims claims = .ok ())
    (hpath : hasLoneSurrogate (string "path" claims) = false) :
    ∀ name ∈ claimNames, (printed (entry claims name)).length ≤ memberBound (text name) := by
  obtain ⟨-, hfields, -⟩ := validateClaims_eq_ok.mp h
  have hshort : ∀ {s : Text}, Visible s → s.length ≤ 128 →
      (serializeCanonical (.string s)).length ≤ 258 := by
    intro s hvisible hlength
    have := length_stringifyString_le (hasLoneSurrogate_of_ascii hvisible.ascii)
      fun code hcode => (hvisible code hcode).1
    rw [serializeCanonical]
    omega
  have hid : ∀ {s : Text}, boundedId s → (serializeCanonical (.string s)).length ≤ 258 := fun h =>
    hshort (visible_boundedId h) (of_decide_eq_true h).2.1
  have htime : ∀ {x : Number}, safeTime x → (serializeCanonical (.number x)).length ≤ 258 :=
    fun h => (length_safeTime_le h).trans (by decide)
  obtain ⟨s₁, h₁, hid₁⟩ := hfields.keyId
  obtain ⟨s₂, h₂, hmethod⟩ := hfields.method
  obtain ⟨s₃, h₃, hbounded⟩ := hfields.path
  obtain ⟨s₄, h₄, hhash⟩ := hfields.bodySha256
  obtain ⟨s₅, h₅, hid₅⟩ := hfields.workspaceId
  obtain ⟨s₆, h₆, hid₆⟩ := hfields.sessionId
  obtain ⟨x₇, h₇, htime₇⟩ := hfields.issuedAt
  obtain ⟨x₈, h₈, htime₈⟩ := hfields.expiresAt
  obtain ⟨s₉, h₉, hnonce⟩ := hfields.nonce
  have hothers : ∀ name ∈ claimNames, name ≠ "path" →
      (serializeCanonical ((field name claims).getD .null)).length ≤ 258 := by
    intro name hname hne
    simp only [claimNames, List.mem_cons, List.not_mem_nil, or_false] at hname
    rcases hname with rfl | rfl | rfl | rfl | rfl | rfl | rfl | rfl | rfl | rfl | rfl | rfl
    · rw [h₄]
      refine hshort (visible_hexHash hhash) ?_
      have := (of_decide_eq_true hhash).2.1
      omega
    · rw [h₈]; exact htime htime₈
    · rw [h₇]; exact htime htime₇
    · rw [h₁]; exact hid hid₁
    · rw [h₂]
      refine hshort (visible_boundedMethod hmethod) ?_
      cases s₂ with
      | nil => decide
      | cons code rest =>
        have := (of_decide_eq_true hmethod).1
        simp only [List.length_cons]
        omega
    · rw [h₉]; exact hshort (visible_boundedNonce hnonce) (of_decide_eq_true hnonce).2.1
    · exact absurd rfl hne
    · rcases hfields.projectId with hnull | ⟨s, hs, hproject⟩
      · rw [hnull]; decide
      · rw [hs]
        refine hshort (visible_nativeProjectId hproject) ?_
        cases s with
        | nil => decide
        | cons code rest =>
          have := (of_decide_eq_true hproject).2.1
          simp only [List.length_cons]
          omega
    · rw [hfields.schema]; decide +kernel
    · rw [hfields.scope]; decide +kernel
    · rw [h₆]; exact hid hid₆
    · rw [h₅]; exact hid hid₅
  intro name hname
  by_cases hne : name = "path"
  · subst hne
    obtain ⟨-, hlength, -, hall⟩ := of_decide_eq_true hbounded
    have hplain : ∀ code ∈ s₃, 0x20 ≤ code.val := by
      intro code hcode
      have hcontrol := of_decide_eq_true (List.all_eq_true.mp hall code hcode)
      simp only [IsControlOrHash] at hcontrol
      omega
    have hstring : string "path" claims = s₃ := by rw [string, h₃]
    rw [hstring] at hpath
    have hbound := length_stringifyString_le hpath hplain
    have hvalue : (serializeCanonical ((field "path" claims).getD .null)).length ≤ 4098 := by
      rw [h₃, Option.getD_some, serializeCanonical]
      simp only [maxPath] at hlength
      omega
    exact (length_printed_le hname hvalue).trans (by decide)
  · have hvalue := length_printed_le hname (hothers name hname hne)
    have hkey : ∀ name ∈ claimNames, 300 ≤ memberBound (text name) := by decide
    exact hvalue.trans ((by decide : 258 + 30 ≤ 300).trans (hkey name hname))

/-- The bytes of valid claims are far below every limit. -/
theorem length_claims_le (h : validateClaims claims = .ok ()) (hkeys : claims.DistinctKeys)
    (hpath : hasLoneSurrogate (string "path" claims) = false) :
    (encode (serializeCanonical claims)).length ≤ 23000 := by
  obtain ⟨members, heq, hperm⟩ := members_perm h hkeys
  have hentry := length_entry_le h hpath
  have hsorted : ((sortByKey members).map printed).Perm
      ((claimNames.map (entry claims)).map printed) :=
    ((sortByKey_perm members).trans hperm).map printed
  have hne : (sortByKey members).map printed ≠ [] := fun hnil => by
    have hlength := hsorted.length_eq
    simp [hnil, claimNames] at hlength
  have hsum : ((claimNames.map (entry claims)).map printed |>.map
      fun piece => piece.length + 1).sum ≤ (claimNames.map fun name =>
        memberBound (text name) + 1).sum := by
    rw [List.map_map, List.map_map]
    exact List.sum_le_sum fun name hname => Nat.succ_le_succ (hentry name hname)
  have hbound : (claimNames.map fun name => memberBound (text name) + 1).sum = 7512 := by decide
  have hjoin := length_joinComma hne
  rw [(hsorted.map _).sum_eq] at hjoin
  have hlength : (serializeCanonical claims).length ≤ 7513 := by
    rw [heq, serialize_object]
    simp only [List.cons_append, List.length_cons, List.length_append, List.length_nil]
    omega
  have := length_encode_le (serializeCanonical claims)
  omega

/-! ## The header -/

theorem splitOn_of_urlDigits {s : Text} (h : ∀ code ∈ s, IsUrlDigit code) :
    s.splitOn (unit '.') = [s] :=
  List.splitOn_eq_singleton fun hmem => absurd (h _ hmem) (by decide)

theorem length_splitOn_of_mem {s : Text} (h : unit '.' ∈ s) :
    2 ≤ (s.splitOn (unit '.')).length := by
  obtain ⟨front, back, rfl⟩ := List.append_of_mem h
  rw [List.splitOn_append_cons_self, List.length_append]
  have hfront := List.length_pos_iff.mpr (List.splitOn_ne_nil (unit '.') front)
  have hback := List.length_pos_iff.mpr (List.splitOn_ne_nil (unit '.') back)
  omega

theorem splitOn_header (keyId claimsPart signaturePart : Text)
    (hclaims : ∀ code ∈ claimsPart, IsUrlDigit code)
    (hsignature : ∀ code ∈ signaturePart, IsUrlDigit code) :
    (header keyId claimsPart signaturePart).splitOn (unit '.') =
      coreProofVersion :: (keyId.splitOn (unit '.') ++ [claimsPart, signaturePart]) := by
  have hversion : coreProofVersion.splitOn (unit '.') = [coreProofVersion] :=
    List.splitOn_eq_singleton (by decide)
  rw [header, List.splitOn_append_cons_self, List.splitOn_append_cons_self,
    List.splitOn_append_cons_self, hversion, splitOn_of_urlDigits hclaims,
    splitOn_of_urlDigits hsignature]
  rfl

theorem strictBase64Url_base64Url {bytes : Bytes} (h : bytes ≠ []) :
    strictBase64Url (base64Url bytes) = .ok bytes := by
  have hlength := length_base64Url bytes
  have hpos := List.length_pos_iff.mpr h
  have hne : base64Url bytes ≠ [] := List.length_pos_iff.mp (by omega)
  have hall : (base64Url bytes).all fun code => decide (IsUrlDigit code) :=
    List.all_eq_true.mpr fun code hcode => decide_eq_true (base64Url_isUrlDigit bytes code hcode)
  simp only [strictBase64Url, require_of (And.intro hne hall), ok_bind, fromBase64_base64Url,
    fetch]
  rfl

section Verify

variable [WebCrypto]

/-- The header of a proof with a dot in its key id is not taken apart. -/
theorem verify_dotted {keyId : Text} (hdot : unit '.' ∈ keyId) (claimsBytes tag : Bytes)
    (options : VerifyOptions) :
    verifyCoreProof (header keyId (base64Url claimsBytes) (base64Url tag)) options =
      .error "proof_invalid" := by
  have hsplit := splitOn_header keyId _ _ (base64Url_isUrlDigit claimsBytes)
    (base64Url_isUrlDigit tag)
  have hlength := length_splitOn_of_mem hdot
  by_cases hheader : (header keyId (base64Url claimsBytes) (base64Url tag)).length ≤ maxHeader
  · simp only [verifyCoreProof, require_of hheader, ok_bind, hsplit]
    split
    · rename_i heq
      have hcount := congrArg List.length heq
      simp only [List.length_cons, List.length_append, List.length_nil] at hcount
      omega
    · rfl
  · rw [verifyCoreProof, require, if_neg hheader]
    rfl

/-- The call that is verified is the one that the claims describe. -/
structure Answers (claims : JsonValue) (key : Bytes) (options : VerifyOptions) : Prop where
  keyMap : ∃ keys, options.keyMap = some keys ∧ keys (string "key_id" claims) = some key
  method : options.method = string "method" claims
  path : options.path = string "path" claims
  body : text "sha256:" ++ sha256Hex options.body = string "body_sha256" claims
  workspaceId : ∀ id ∈ options.workspaceId, id = string "workspace_id" claims
  sessionId : ∀ id ∈ options.sessionId, id = string "session_id" claims
  projectId : ∀ id ∈ options.projectId, id = projectId claims

/-- The clock reads a number in the window of the claims. -/
def InWindow (claims : JsonValue) (now : Number) : Prop :=
  now.isFinite ∧ time "issued_at" claims - coreProofSkewMs ≤ now.value ∧
    now.value ≤ time "expires_at" claims + coreProofSkewMs

theorem signCoreProof_eq_ok {key : Bytes} {proof : Text} :
    signCoreProof claims key = .ok proof ↔
      validateClaims claims = .ok () ∧ Accepted claims ∧ key.length = 32 ∧
        header (string "key_id" claims) (base64Url (encode (serializeCanonical claims)))
          (base64Url (WebCrypto.sign key (encode (serializeCanonical claims))).1) = proof := by
  simp only [signCoreProof, hmacKey, bind_eq_ok, canonicalJsonBytes_eq_ok, require_eq_ok,
    pure_eq_ok, exists_const]
  constructor
  · rintro ⟨_, hvalid, _, ⟨haccepted, rfl⟩, hkey, hproof⟩
    exact ⟨hvalid, haccepted, hkey, hproof⟩
  · rintro ⟨hvalid, haccepted, hkey, hproof⟩
    exact ⟨(), hvalid, _, ⟨haccepted, rfl⟩, hkey, hproof⟩

theorem Answers.bound {key : Bytes} {options : VerifyOptions}
    (h : Answers claims key options) (hkeys : claims.DistinctKeys) :
    bound (canonical claims) (string "key_id" claims) options := by
  simp only [CoreProof.bound, string_canonical hkeys, projectId_canonical hkeys]
  refine decide_eq_true ⟨trivial, h.method.symm, h.path.symm, ?_, ?_, ?_⟩
  · rw [Option.all_eq_true]
    exact fun id hid => decide_eq_true (h.workspaceId id hid).symm
  · rw [Option.all_eq_true]
    exact fun id hid => decide_eq_true (h.sessionId id hid).symm
  · rw [Option.all_eq_true]
    exact fun id hid => decide_eq_true (h.projectId id hid).symm

/-- The checks after the header was split all pass. -/
theorem verifyParts_signed {key : Bytes} {options : VerifyOptions}
    (hvalid : validateClaims claims = .ok ()) (hkeys : claims.DistinctKeys)
    (haccepted : Accepted claims) (hkey : key.length = 32) (h : Answers claims key options)
    (hwindow : InWindow claims options.now) (hnow : safeTime options.now) :
    verifyParts (string "key_id" claims) (base64Url (encode (serializeCanonical claims)))
      (base64Url (WebCrypto.sign key (encode (serializeCanonical claims))).1) options =
        .ok (canonical claims) := by
  obtain ⟨keys, hmap, hfound⟩ := h.keyMap
  have hpath := (accepted_iff hvalid hkeys).mp haccepted
  have hlength := length_claims_le hvalid hkeys hpath
  have hraw : encode (serializeCanonical claims) ≠ [] := by
    intro hnil
    have hread := decode_encode_serialize haccepted
    obtain ⟨code, tail, hhead, -⟩ := serialize_head haccepted
    have hempty : decode [] = some [] := by
      rw [decode, show ([] : Bytes) = encodeUtf8 [] from rfl, utf8Decode?_encodeUtf8]
      rfl
    rw [hnil, hhead, hempty] at hread
    exact absurd hread (by simp)
  have htag : (WebCrypto.sign key (encode (serializeCanonical claims))).1 ≠ [] := by
    intro hnil
    have := (WebCrypto.sign key (encode (serializeCanonical claims))).2
    rw [hnil] at this
    exact absurd this (by decide)
  have hparse : parseCanonicalJsonBytes (encode (serializeCanonical claims)) .claims maxCoreBody =
      .ok (canonical claims) :=
    parseCanonicalJsonBytes_eq_ok.mpr
      ⟨hlength.trans (by decide), parseCanonical_encode haccepted hkeys⟩
  have hbytes : canonicalJsonBytes (canonical claims) = .ok (encode (serializeCanonical claims)) :=
    canonicalJsonBytes_eq_ok.mpr ⟨accepted_canonical haccepted, by rw [serialize_canonical]⟩
  have htime : inTime (canonical claims) options.now := by
    simp only [inTime, time_canonical hkeys]
    exact decide_eq_true ⟨hnow, hwindow.2⟩
  have hbody : text "sha256:" ++ sha256Hex options.body =
      string "body_sha256" (canonical claims) := by rw [string_canonical hkeys, h.body]
  simp only [verifyParts, keyFrom, hmap, hfound, fetch, ok_bind, strictBase64Url_base64Url hraw,
    hparse, validateClaims_canonical hkeys, hvalid, require_of (h.bound hkeys), require_of htime,
    require_of hbody, strictBase64Url_base64Url htag,
    require_of (WebCrypto.sign key (encode (serializeCanonical claims))).2, hmacKey,
    require_of hkey, hbytes]
  rfl

/-- Without a dot in its key id the header is taken apart into its fields. -/
theorem verify_undotted {keyId : Text} (hid : boundedId keyId) (hdot : unit '.' ∉ keyId)
    {claimsBytes tag : Bytes} (hlength : claimsBytes.length ≤ 23000) (htag : tag.length = 32)
    (options : VerifyOptions) :
    verifyCoreProof (header keyId (base64Url claimsBytes) (base64Url tag)) options =
      verifyParts keyId (base64Url claimsBytes) (base64Url tag) options := by
  have hsplit := splitOn_header keyId _ _ (base64Url_isUrlDigit claimsBytes)
    (base64Url_isUrlDigit tag)
  rw [List.splitOn_eq_singleton hdot] at hsplit
  have hshort := (of_decide_eq_true hid).2.1
  have hheader : (header keyId (base64Url claimsBytes) (base64Url tag)).length ≤ maxHeader := by
    have hversion : coreProofVersion.length = 5 := by decide
    simp only [header, List.length_append, List.length_cons, length_base64Url, hversion, htag,
      maxHeader, maxId] at hshort ⊢
    omega
  simp only [verifyCoreProof, require_of hheader, ok_bind, hsplit, List.cons_append,
    List.nil_append, true_and, require_of hid]

theorem inTime_of_verifyParts {keyId claimsPart signaturePart : Text} {options : VerifyOptions}
    {w : JsonValue} (h : verifyParts keyId claimsPart signaturePart options = .ok w) :
    safeTime options.now := by
  simp only [verifyParts, bind_eq_ok, require_eq_ok, exists_const] at h
  obtain ⟨_, -, _, -, _, -, _, -, -, htime, -⟩ := h
  exact (of_decide_eq_true htime).1

/-- A proof of valid claims verifies, and gives the claims back, exactly when no dot is in the key
id, no lone surrogate in the path, and the clock reads a safe time. -/
theorem core_proof_verifies_iff (claims : JsonValue) (key : Bytes) (options : VerifyOptions)
    (hkeys : claims.DistinctKeys) (hvalid : validateClaims claims = .ok ())
    (hkey : key.length = 32) (h : Answers claims key options)
    (hwindow : InWindow claims options.now) :
    (∃ proof w, signCoreProof claims key = .ok proof ∧ verifyCoreProof proof options = .ok w ∧
        same w claims) ↔
      unit '.' ∉ string "key_id" claims ∧ hasLoneSurrogate (string "path" claims) = false ∧
        safeTime options.now := by
  obtain ⟨keyId, hfield, hid⟩ := (validateClaims_eq_ok.mp hvalid).2.1.keyId
  have hstring : string "key_id" claims = keyId := by rw [string, hfield]
  rw [← hstring] at hid
  have htag := (WebCrypto.sign key (encode (serializeCanonical claims))).2
  constructor
  · rintro ⟨proof, w, hsign, hverify, -⟩
    obtain ⟨-, haccepted, -, rfl⟩ := signCoreProof_eq_ok.mp hsign
    have hpath := (accepted_iff hvalid hkeys).mp haccepted
    have hdot : unit '.' ∉ string "key_id" claims := by
      intro hdot
      rw [verify_dotted hdot] at hverify
      exact absurd hverify (by simp)
    rw [verify_undotted hid hdot (length_claims_le hvalid hkeys hpath) htag] at hverify
    exact ⟨hdot, hpath, inTime_of_verifyParts hverify⟩
  · rintro ⟨hdot, hpath, hnow⟩
    have haccepted := (accepted_iff hvalid hkeys).mpr hpath
    refine ⟨_, canonical claims, signCoreProof_eq_ok.mpr ⟨hvalid, haccepted, hkey, rfl⟩, ?_,
      (same_iff (distinctKeys_canonical hkeys) hkeys).mpr (canonical_canonical claims)⟩
    rw [verify_undotted hid hdot (length_claims_le hvalid hkeys hpath) htag]
    exact verifyParts_signed hvalid hkeys haccepted hkey h hwindow hnow

end Verify

namespace Sample

/-- The digest of no bytes. -/
def emptyDigest : Bytes :=
  [227, 176, 196, 66, 152, 252, 28, 20, 154, 251, 244, 200, 153, 111, 185, 36,
  39, 174, 65, 228, 100, 155, 147, 76, 164, 149, 153, 27, 120, 82, 184, 85]

/-- The keyed hash of the claims below under the key below. -/
def claimsTag : Bytes :=
  [225, 221, 219, 66, 176, 93, 135, 238, 188, 218, 92, 51, 145, 158, 180, 187,
  241, 67, 213, 151, 169, 231, 253, 62, 68, 246, 172, 90, 78, 190, 68, 243]

def key : Bytes := List.replicate 32 7

def signed (keyId : String) : JsonValue :=
  .object [(text "schema", .string coreProofSchema), (text "key_id", .string (text keyId)),
    (text "method", .string (text "POST")), (text "path", .string (text "/bridge")),
    (text "body_sha256", .string (text
      "sha256:e3b0c44298fc1c149afbf4c8996fb92427ae41e4649b934ca495991b7852b855")),
    (text "workspace_id", .string (text "workspace_1")),
    (text "session_id", .string (text "session_1")), (text "project_id", .null),
    (text "scope", .string (text "novel")), (text "issued_at", .number (.finite 1800000000000)),
    (text "expires_at", .number (.finite 1800000030000)),
    (text "nonce", .string (text "nonce_1"))]

/-- The platform on the inputs of the sample. -/
@[reducible] def crypto : WebCrypto where
  digest bytes := if bytes = [] then ⟨emptyDigest, by decide⟩ else ⟨List.replicate 32 0, by decide⟩
  sign k data :=
    if k = key ∧ data = encode (serializeCanonical (signed "current")) then
      ⟨claimsTag, by decide⟩
    else ⟨List.replicate 32 0, by decide⟩

def options (keyId : String) : VerifyOptions where
  keyMap := some fun id => if id = text keyId then some key else none
  keyId := none
  key := none
  now := .finite 1800000000010
  method := text "POST"
  path := text "/bridge"
  body := []
  workspaceId := some (text "workspace_1")
  sessionId := some (text "session_1")
  projectId := some none

theorem distinctKeys (keyId : String) : (signed keyId).DistinctKeys := by
  refine ⟨?_, distinctMembers_iff.mpr ?_⟩
  · have hnodup : (["schema", "key_id", "method", "path", "body_sha256", "workspace_id",
        "session_id", "project_id", "scope", "issued_at", "expires_at", "nonce"].map
          text).Nodup := by decide
    exact hnodup
  · simp only [List.forall_mem_cons, DistinctKeys]
    simp

end Sample

namespace Sample

/-- The claims of both key ids are in their formats and are those that the options ask for; only
one of the key ids has a dot. -/
theorem claims_checked : (∀ keyId ∈ ["current", "k.1"],
    (exactKeys (signed keyId) claimKeys ∧ validFields (signed keyId) ∧
        time "issued_at" (signed keyId) < time "expires_at" (signed keyId) ∧
        time "expires_at" (signed keyId) - time "issued_at" (signed keyId) ≤
          coreProofMaxLifetimeMs) ∧
      string "key_id" (signed keyId) = text keyId ∧
      (text "POST" = string "method" (signed keyId) ∧ text "/bridge" = string "path" (signed keyId) ∧
        text "sha256:" ++ @sha256Hex crypto [] = string "body_sha256" (signed keyId) ∧
        text "workspace_1" = string "workspace_id" (signed keyId) ∧
        text "session_1" = string "session_id" (signed keyId) ∧
        none = projectId (signed keyId)) ∧
      time "issued_at" (signed keyId) - coreProofSkewMs ≤ 1800000000010 ∧
        1800000000010 ≤ time "expires_at" (signed keyId) + coreProofSkewMs) ∧
    (unit '.' ∉ string "key_id" (signed "current") ∧
      hasLoneSurrogate (string "path" (signed "current")) = false ∧
      safeTime (options "current").now = true) ∧
    hasLoneSurrogate (string "path" (signed "k.1")) = false ∧
      unit '.' ∈ string "key_id" (signed "k.1") := by
  decide +kernel

theorem valid : ∀ keyId ∈ ["current", "k.1"], validateClaims (signed keyId) = .ok () := by
  intro keyId hkeyId
  simp only [validateClaims, bind_eq_ok, require_eq_ok, exists_const]
  exact (claims_checked.1 keyId hkeyId).1

theorem answers : ∀ keyId ∈ ["current", "k.1"],
    @Answers crypto (signed keyId) key (options keyId) := by
  intro keyId hkeyId
  obtain ⟨-, hid, ⟨hmethod, hpath, hbody, hworkspace, hsession, hproject⟩, -⟩ :=
    claims_checked.1 keyId hkeyId
  exact @Answers.mk crypto _ _ _ ⟨_, rfl, by simp [hid]⟩ hmethod hpath hbody
    (fun id h => (Option.some.inj h) ▸ hworkspace) (fun id h => (Option.some.inj h) ▸ hsession)
    (fun id h => (Option.some.inj h) ▸ hproject)

theorem inWindow : ∀ keyId ∈ ["current", "k.1"], InWindow (signed keyId) (options keyId).now :=
  fun keyId hkeyId => ⟨rfl, (claims_checked.1 keyId hkeyId).2.2.2⟩

end Sample

theorem core_proof_verifies_sample : ∃ proof w,
    @signCoreProof Sample.crypto (Sample.signed "current") Sample.key = .ok proof ∧
      @verifyCoreProof Sample.crypto proof (Sample.options "current") = .ok w ∧
      same w (Sample.signed "current") :=
  (@core_proof_verifies_iff Sample.crypto (Sample.signed "current") Sample.key
    (Sample.options "current") (Sample.distinctKeys _) (Sample.valid _ (by decide)) rfl
    (Sample.answers _ (by decide)) (Sample.inWindow _ (by decide))).mpr Sample.claims_checked.2.1

/-- A key id with a dot is signed, and the proof is refused. -/
theorem dotted_key_id_refused : validateClaims (Sample.signed "k.1") = .ok () ∧
    (Sample.signed "k.1").DistinctKeys ∧
    @Answers Sample.crypto (Sample.signed "k.1") Sample.key (Sample.options "k.1") ∧
    InWindow (Sample.signed "k.1") (Sample.options "k.1").now ∧
    ∃ proof, @signCoreProof Sample.crypto (Sample.signed "k.1") Sample.key = .ok proof ∧
      @verifyCoreProof Sample.crypto proof (Sample.options "k.1") = .error "proof_invalid" := by
  have hvalid := Sample.valid "k.1" (by decide)
  obtain ⟨hpath, hdot⟩ := Sample.claims_checked.2.2
  have haccepted := (accepted_iff hvalid (Sample.distinctKeys _)).mpr hpath
  exact ⟨hvalid, Sample.distinctKeys _, Sample.answers _ (by decide), Sample.inWindow _ (by decide),
    _, (@signCoreProof_eq_ok _ Sample.crypto _ _).mpr ⟨hvalid, haccepted, rfl, rfl⟩,
    @verify_dotted Sample.crypto _ hdot _ _ _⟩

end Quillframe.Cloud.CoreProof
