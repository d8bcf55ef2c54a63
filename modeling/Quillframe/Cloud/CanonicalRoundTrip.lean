import Quillframe.Cloud.CanonicalParser

/-!
# Canonical JSON reads back

The parser inverts the printer up to the order of members, and it accepts nothing but what the
printer prints.
-/
namespace Quillframe.Cloud

open Js JsonValue

variable {kind : JsonKind}

/-! ## Strings -/

theorem hexValue_hexDigit {n : ℕ} (h : n < 16) : hexValue (hexDigit n) = some n := by
  have hall : ∀ n < 16, hexValue (hexDigit n) = some n := by decide
  exact hall n h

theorem parseHex_escapeUnicode (code : CodeUnit) :
    parseHex (hexDigit (code.val / 0x1000)) (hexDigit (code.val / 0x100 % 0x10))
      (hexDigit (code.val / 0x10 % 0x10)) (hexDigit (code.val % 0x10)) = some code := by
  have hcode := code.isLt
  have hvalue : (((code.val / 0x1000 * 16 + code.val / 0x100 % 0x10) * 16 +
      code.val / 0x10 % 0x10) * 16 + code.val % 0x10) % 0x10000 = code.val := by omega
  simp only [parseHex, hexValue_hexDigit (show code.val / 0x1000 < 16 by omega),
    hexValue_hexDigit (show code.val / 0x100 % 0x10 < 16 by omega),
    hexValue_hexDigit (show code.val / 0x10 % 0x10 < 16 by omega),
    hexValue_hexDigit (show code.val % 0x10 < 16 by omega), Option.bind_eq_bind, Option.bind_some,
    Option.pure_def, hvalue, Fin.eta]

theorem parseUnits_escapeUnicode (code : CodeUnit) (s : Text) :
    parseUnits kind (escapeUnicode code ++ s) =
      (parseUnits kind s).map fun (tail, rest) => (code :: tail, rest) := by
  have hquote : unit '\\' ≠ unit '"' := by decide
  simp only [escapeUnicode, List.cons_append, List.nil_append]
  rw [parseUnits.eq_def]
  simp only [hquote, if_false, if_true, parseHex_escapeUnicode, fetch]
  cases parseUnits kind s <;> rfl

theorem parseUnits_escaped {escaped code : CodeUnit} (hu : escaped ≠ unit 'u')
    (h : unescape escaped = some code) (s : Text) :
    parseUnits kind (unit '\\' :: escaped :: s) =
      (parseUnits kind s).map fun (tail, rest) => (code :: tail, rest) := by
  have hquote : unit '\\' ≠ unit '"' := by decide
  rw [parseUnits.eq_def]
  simp only [hquote, if_false, if_true, hu, h, fetch]
  cases parseUnits kind s <;> rfl

theorem parseUnits_plain {code : CodeUnit} (hquote : code ≠ unit '"') (hslash : code ≠ unit '\\')
    (hcontrol : 0x20 ≤ code.val) (s : Text) :
    parseUnits kind (code :: s) =
      (parseUnits kind s).map fun (tail, rest) => (code :: tail, rest) := by
  rw [parseUnits.eq_def]
  simp only [hquote, hslash, if_false, require, if_pos hcontrol]
  cases parseUnits kind s <;> rfl

theorem parseUnits_escapeUnit (code : CodeUnit) (s : Text) :
    parseUnits kind (escapeUnit code ++ s) =
      (parseUnits kind s).map fun (tail, rest) => (code :: tail, rest) := by
  rw [escapeUnit]
  split_ifs with hb ht hn hf hr hquote hslash hcontrol
  · obtain rfl : code = ⟨0x08, by decide⟩ := Fin.ext hb
    exact parseUnits_escaped (by decide) (by decide) s
  · obtain rfl : code = ⟨0x09, by decide⟩ := Fin.ext ht
    exact parseUnits_escaped (by decide) (by decide) s
  · obtain rfl : code = ⟨0x0a, by decide⟩ := Fin.ext hn
    exact parseUnits_escaped (by decide) (by decide) s
  · obtain rfl : code = ⟨0x0c, by decide⟩ := Fin.ext hf
    exact parseUnits_escaped (by decide) (by decide) s
  · obtain rfl : code = ⟨0x0d, by decide⟩ := Fin.ext hr
    exact parseUnits_escaped (by decide) (by decide) s
  · subst hquote
    exact parseUnits_escaped (by decide) (by decide) s
  · subst hslash
    exact parseUnits_escaped (by decide) (by decide) s
  · exact parseUnits_escapeUnicode code s
  · exact parseUnits_plain hquote hslash (not_lt.mp hcontrol) s

theorem parseUnits_quoteUnits (s rest : Text) :
    parseUnits kind (quoteUnits s ++ unit '"' :: rest) = .ok (s, rest) := by
  have hpair : ∀ code : CodeUnit, IsHigh code ∨ IsLow code →
      code ≠ unit '"' ∧ code ≠ unit '\\' ∧ 0x20 ≤ code.val := by
    intro code hcode
    have h34 : (unit '"').val = 34 := rfl
    have h92 : (unit '\\').val = 92 := rfl
    simp only [IsHigh, IsLow] at hcode
    simp only [ne_eq, Fin.ext_iff, h34, h92]
    omega
  fun_induction quoteUnits s with
  | case1 => rw [parseUnits.eq_def]; simp
  | case2 code hh =>
    rw [parseUnits_escapeUnicode, parseUnits.eq_def]
    simp [Except.map]
  | case3 code hh next rest hl ih =>
    obtain ⟨h₁, h₂, h₃⟩ := hpair code (.inl hh)
    obtain ⟨h₄, h₅, h₆⟩ := hpair next (.inr hl)
    rw [List.cons_append, List.cons_append, parseUnits_plain h₁ h₂ h₃, parseUnits_plain h₄ h₅ h₆,
      ih]
    rfl
  | case4 code hh next rest hl ih =>
    rw [List.append_assoc, parseUnits_escapeUnicode, ih]
    rfl
  | case5 code rest hh hl ih =>
    rw [List.append_assoc, parseUnits_escapeUnicode, ih]
    rfl
  | case6 code rest hh hl ih =>
    rw [List.append_assoc, parseUnits_escapeUnit, ih]
    rfl

/-- A quoted string reads back. -/
theorem parseString_stringifyString (s rest : Text) :
    parseString kind (stringifyString s ++ rest) = .ok (s, rest) := by
  have hread := @parseUnits_quoteUnits kind s rest
  simp only [stringifyString, List.cons_append, List.append_assoc, List.nil_append, parseString,
    require, if_true]
  exact hread

/-! ## Accepted values -/

/-- The validator accepts the value. -/
def Accepted (v : JsonValue) : Prop := validateJsonValue v = .ok ()

theorem accepted_number {x : Number} :
    Accepted (.number x) ↔ x.isFinite ∧ x.isSafeInteger := by
  simp [Accepted, validateJsonValue]

theorem accepted_string {s : Text} : Accepted (.string s) ↔ hasLoneSurrogate s = false := by
  simp [Accepted, validateJsonValue]

theorem accepted_array {items : List JsonValue} :
    Accepted (.array items) ↔ ∀ item ∈ items, Accepted item := by
  rw [Accepted, validateJsonValue]
  induction items with
  | nil => simp [validateItems]
  | cons item rest ih =>
    rw [validateItems, bind_eq_ok, List.forall_mem_cons, ← ih]
    exact ⟨fun ⟨_, hitem, hrest⟩ => ⟨hitem, hrest⟩, fun ⟨hitem, hrest⟩ => ⟨(), hitem, hrest⟩⟩

theorem accepted_object {members : List Member} :
    Accepted (.object members) ↔ ∀ member ∈ members, Ascii member.1 ∧ Accepted member.2 := by
  rw [Accepted, validateJsonValue]
  induction members with
  | nil => simp [validateMembers]
  | cons member rest ih =>
    rw [List.forall_mem_cons, ← ih, validateMembers]
    simp only [bind_eq_ok, require_eq_ok, exists_const]
    constructor
    · rintro ⟨hkey, _, hvalue, hrest⟩
      exact ⟨⟨hkey, hvalue⟩, hrest⟩
    · rintro ⟨⟨hkey, hvalue⟩, hrest⟩
      exact ⟨hkey, (), hvalue, hrest⟩

theorem serializeItems_eq (items : List JsonValue) :
    serializeItems items = items.map serializeCanonical := by
  induction items with
  | nil => rfl
  | cons item rest ih => rw [serializeItems, ih, List.map_cons]

/-- A member as it is printed. -/
def printed (member : Member) : Text := memberText (member.1, serializeCanonical member.2)

theorem serializeMembers_eq (members : List Member) :
    serializeMembers members =
      members.map fun member => (member.1, serializeCanonical member.2) := by
  induction members with
  | nil => rfl
  | cons member rest ih => rw [serializeMembers, ih, List.map_cons]

theorem serialize_array (items : List JsonValue) :
    serializeCanonical (.array items) =
      unit '[' :: joinComma (items.map serializeCanonical) ++ [unit ']'] := by
  rw [serializeCanonical, serializeItems_eq]

theorem serialize_object (members : List Member) :
    serializeCanonical (.object members) =
      unit '\x7b' :: joinComma ((sortByKey members).map printed) ++ [unit '\x7d'] := by
  rw [serializeCanonical, serializeMembers_eq, sortByKey_map, List.map_map]
  rfl

theorem joinComma_singleton (piece : Text) : joinComma [piece] = piece := by
  simp [joinComma]

theorem joinComma_cons_cons (piece next : Text) (pieces : List Text) :
    joinComma (piece :: next :: pieces) = piece ++ unit ',' :: joinComma (next :: pieces) := by
  simp [joinComma, List.intercalate]

/-! ## Reading a printed value -/

theorem skipWhitespace_cons {code : CodeUnit} (h : ¬ IsWhitespace code) (s : Text) :
    skipWhitespace (code :: s) = code :: s := by
  simp [skipWhitespace, h]

theorem stringifyNumber_head {x : Number} (hx : x.isFinite) :
    ∃ code tail, stringifyNumber x = code :: tail ∧ (IsDigit code ∨ code = unit '-') := by
  have hnat : ∀ n, ∃ code tail, natText n = code :: tail ∧ (IsDigit code ∨ code = unit '-') := by
    intro n
    cases hcodes : natText n with
    | nil => exact absurd hcodes (natText_ne_nil n)
    | cons code codes => exact ⟨code, codes, rfl, .inl (digits_isDigit n code (by simp [hcodes]))⟩
  cases x with
  | finite q =>
    rw [stringifyNumber]
    split_ifs
    · exact ⟨_, _, rfl, .inr rfl⟩
    · exact hnat q.num.natAbs
  | negativeZero => exact hnat 0
  | infinite negative => simp [Number.isFinite] at hx
  | nan => simp [Number.isFinite] at hx

/-- What a printed value begins with. -/
theorem serialize_head {v : JsonValue} (hv : Accepted v) :
    ∃ code tail, serializeCanonical v = code :: tail ∧ ¬ IsWhitespace code ∧ code ≠ unit ']' ∧
      code.val < 0x80 := by
  cases v with
  | null => exact ⟨_, _, rfl, by decide, by decide, by decide⟩
  | bool b => cases b <;> exact ⟨_, _, rfl, by decide, by decide, by decide⟩
  | number x =>
    obtain ⟨code, tail, heq, hcode⟩ := stringifyNumber_head (accepted_number.mp hv).1
    refine ⟨code, tail, heq, ?_, ?_, ?_⟩
    · rintro (rfl | rfl | rfl | rfl) <;> exact absurd hcode (by decide)
    · rintro rfl
      exact absurd hcode (by decide)
    · rcases hcode with hdigit | rfl
      · exact hdigit.2.trans_lt (by decide)
      · decide
  | string s => exact ⟨_, _, rfl, by decide, by decide, by decide⟩
  | array items => exact ⟨_, _, serialize_array items, by decide, by decide, by decide⟩
  | object members => exact ⟨_, _, serialize_object members, by decide, by decide, by decide⟩

/-- The parser reads the printed value back, whatever follows it. -/
def ReadsBack (kind : JsonKind) (v : JsonValue) : Prop :=
  ∀ (fuel : ℕ) (rest : Text), 3 * (serializeCanonical v).length + 1 ≤ fuel → EndsNumber rest →
    parseValue kind fuel (serializeCanonical v ++ rest) = .ok (canonical v, rest)

theorem endsNumber_cons {code : CodeUnit} {rest : Text}
    (h : ¬ IsDigit code ∧ code ≠ unit '.' ∧ code ≠ unit 'e' ∧ code ≠ unit 'E') :
    EndsNumber (code :: rest) := by
  intro c hc
  obtain rfl : code = c := by simpa using hc
  exact h

theorem parseLiteral_append (token rest : Text) (v : JsonValue) :
    parseLiteral kind token v (token ++ rest) = .ok (v, rest) := by
  simp [parseLiteral, require, pure, Except.pure, bind, Except.bind]

theorem parseItems_printed {items : List JsonValue} (hne : items ≠ [])
    (hitems : ∀ item ∈ items, ReadsBack kind item) {fuel : ℕ} {rest : Text}
    (hfuel : 3 * (joinComma (items.map serializeCanonical)).length + 5 ≤ fuel) :
    parseItems kind fuel (joinComma (items.map serializeCanonical) ++ unit ']' :: rest) =
      .ok (items.map canonical, rest) := by
  induction items generalizing fuel with
  | nil => exact absurd rfl hne
  | cons item others ih =>
    obtain ⟨fuel, rfl⟩ : ∃ n, fuel = n + 1 := ⟨fuel - 1, by omega⟩
    have hitem := hitems item List.mem_cons_self
    cases others with
    | nil =>
      simp only [List.map_cons, List.map_nil, joinComma_singleton] at hfuel ⊢
      rw [parseItems.eq_def]
      simp only
      rw [hitem _ _ (by omega) (endsNumber_cons (by decide))]
      simp only [bind, Except.bind, skipWhitespace_cons (show ¬ IsWhitespace (unit ']') by decide),
        if_true]
    | cons next others =>
      simp only [List.map_cons, joinComma_cons_cons] at hfuel ⊢
      have hbracket : unit ',' ≠ unit ']' := by decide
      have hrest := @ih (by simp) (fun i hi => hitems i (List.mem_cons_of_mem _ hi)) fuel (by
        simp only [List.length_append, List.length_cons, List.map_cons] at hfuel ⊢
        omega)
      rw [parseItems.eq_def]
      simp only
      rw [List.append_assoc, List.cons_append, hitem _ _ (by
        simp only [List.length_append] at hfuel
        omega) (endsNumber_cons (by decide))]
      simp only [bind, Except.bind, skipWhitespace_cons (show ¬ IsWhitespace (unit ',') by decide),
        hbracket, if_true, if_false]
      rw [← List.map_cons, hrest]
      rfl

theorem ok_bind {ε α β : Type} (a : α) (f : α → Except ε β) :
    ((Except.ok a : Except ε α) >>= f) = f a := by
  simp only [bind, Except.bind]

theorem require_of {ε : Type} {condition : Prop} [Decidable condition] (h : condition) {e : ε} :
    require condition e = .ok () := if_pos h

theorem expect_cons (code : CodeUnit) (rest : Text) :
    expect kind code (code :: rest) = .ok rest := by
  rw [expect, require_of rfl]
  rfl

/-- The key and the colon of a printed member, its value and what follows it. -/
theorem parseMembers_member {member : Member} (hmember : ReadsBack kind member.2)
    (hkey : Ascii member.1) {fuel : ℕ} {seen : List Text} (hnew : member.1 ∉ seen) (tail : Text)
    (htail : EndsNumber tail) (hlength : 3 * (serializeCanonical member.2).length + 1 ≤ fuel) :
    parseMembers kind (fuel + 1) seen (printed member ++ tail) =
      match skipWhitespace tail with
      | [] => .error (kind.error "body_json_invalid")
      | delimiter :: rest =>
        if delimiter = unit '\x7d' then .ok ([(member.1, canonical member.2)], rest)
        else if delimiter = unit ',' then
          (parseMembers kind fuel (member.1 :: seen) rest).map fun (members, rest) =>
            ((member.1, canonical member.2) :: members, rest)
        else .error (kind.error "body_json_invalid") := by
  have hquote : ∀ s : Text, skipWhitespace (stringifyString member.1 ++ s) =
      stringifyString member.1 ++ s := by
    intro s
    rw [stringifyString, List.cons_append, List.cons_append, skipWhitespace_cons (by decide)]
  have hcolon : skipWhitespace (unit ':' :: (serializeCanonical member.2 ++ tail)) =
      unit ':' :: (serializeCanonical member.2 ++ tail) := skipWhitespace_cons (by decide) _
  rw [parseMembers.eq_def]
  simp only [printed, memberText, List.append_assoc, List.cons_append, hquote,
    parseString_stringifyString, ok_bind, require_of hkey, require_of hnew, hcolon, expect_cons,
    hmember _ _ hlength htail]
  all_goals rfl

theorem parseMembers_printed {members : List Member} (hne : members ≠ [])
    (hkeys : ∀ member ∈ members, Ascii member.1) (hnodup : (members.map Prod.fst).Nodup)
    (hmembers : ∀ member ∈ members, ReadsBack kind member.2) {fuel : ℕ} {seen : List Text}
    (hseen : ∀ member ∈ members, member.1 ∉ seen) {rest : Text}
    (hfuel : 3 * (joinComma (members.map printed)).length + 5 ≤ fuel) :
    parseMembers kind fuel seen (joinComma (members.map printed) ++ unit '\x7d' :: rest) =
      .ok (canonicalMembers members, rest) := by
  induction members generalizing fuel seen with
  | nil => exact absurd rfl hne
  | cons member others ih =>
    obtain ⟨fuel, rfl⟩ : ∃ n, fuel = n + 1 := ⟨fuel - 1, by omega⟩
    have hmember := hmembers member List.mem_cons_self
    have hkey := hkeys member List.mem_cons_self
    have hnew := hseen member List.mem_cons_self
    obtain ⟨hnot, hnodup'⟩ := List.nodup_cons.mp (List.map_cons ▸ hnodup)
    have hstep := fun tail => @parseMembers_member kind member hmember hkey fuel seen hnew tail
    cases others with
    | nil =>
      simp only [List.map_cons, List.map_nil, joinComma_singleton] at hfuel ⊢
      rw [hstep _ (endsNumber_cons (by decide)) (by
        simp only [printed, memberText, List.length_append, List.length_cons] at hfuel
        omega)]
      simp only [skipWhitespace_cons (show ¬ IsWhitespace (unit '\x7d') by decide), if_true]
      rfl
    | cons next others =>
      simp only [List.map_cons, joinComma_cons_cons] at hfuel ⊢
      have hbrace : unit ',' ≠ unit '\x7d' := by decide
      have hothers := @ih (by simp) (fun m hm => hkeys m (List.mem_cons_of_mem _ hm)) hnodup'
        (fun m hm => hmembers m (List.mem_cons_of_mem _ hm)) fuel (member.1 :: seen) (by
          intro m hm hmem
          rcases List.mem_cons.mp hmem with heq | hmem
          · exact hnot (heq ▸ List.mem_map_of_mem hm)
          · exact hseen m (List.mem_cons_of_mem _ hm) hmem) (by
          simp only [List.length_append, List.length_cons, List.map_cons] at hfuel ⊢
          omega)
      rw [List.append_assoc, List.cons_append, hstep _ (endsNumber_cons (by decide)) (by
        simp only [printed, memberText, List.length_append, List.length_cons] at hfuel
        omega)]
      simp only [skipWhitespace_cons (show ¬ IsWhitespace (unit ',') by decide), hbrace, if_true,
        if_false]
      rw [← List.map_cons, hothers]
      rfl

theorem parseValue_cons {code : CodeUnit} (h : ¬ IsWhitespace code) (fuel : ℕ) (rest : Text) :
    parseValue kind (fuel + 1) (code :: rest) =
      if code = unit '\x7b' then parseObject kind fuel (skipWhitespace rest)
      else if code = unit '[' then parseArray kind fuel (skipWhitespace rest)
      else if code = unit '"' then
        (parseString kind (code :: rest)).map fun (value, rest) => (.string value, rest)
      else if code = unit 't' then parseLiteral kind (text "true") (.bool true) (code :: rest)
      else if code = unit 'f' then parseLiteral kind (text "false") (.bool false) (code :: rest)
      else if code = unit 'n' then parseLiteral kind (text "null") .null (code :: rest)
      else parseNumber kind (code :: rest) := by
  rw [parseValue.eq_def]
  simp only [skipWhitespace_cons h]

theorem readsBack_number {x : Number} (hx : x.isFinite ∧ x.isSafeInteger) :
    ReadsBack kind (.number x) := by
  intro fuel rest hfuel hrest
  obtain ⟨fuel, rfl⟩ : ∃ n, fuel = n + 1 := ⟨fuel - 1, by omega⟩
  obtain ⟨literal, hscan, hvalue⟩ := scanNumber_stringify hx.2 hrest
  obtain ⟨code, tail, hhead, hcode⟩ := stringifyNumber_head hx.1
  have hspace : ¬ IsWhitespace code := by
    rintro (rfl | rfl | rfl | rfl) <;> exact absurd hcode (by decide)
  rw [serializeCanonical]
  have hother : ∀ c : CodeUnit, ¬ IsDigit c → c ≠ unit '-' → code ≠ c := by
    rintro c hdigit hsign rfl
    exact hcode.elim hdigit hsign
  have hunsigned : x.unsigned.isFinite ∧ x.unsigned.isSafeInteger := by
    cases x <;> simp_all [Number.unsigned, Number.isFinite, Number.isSafeInteger]
  have hparse : parseNumber kind (stringifyNumber x ++ rest) = .ok (canonical (.number x), rest) := by
    simp only [parseNumber, hscan, fetch, hvalue, bind, Except.bind, require, if_pos hunsigned,
      pure, Except.pure, canonical]
  rw [hhead, List.cons_append, parseValue_cons hspace,
    if_neg (hother _ (by decide) (by decide)), if_neg (hother _ (by decide) (by decide)),
    if_neg (hother _ (by decide) (by decide)), if_neg (hother _ (by decide) (by decide)),
    if_neg (hother _ (by decide) (by decide)), if_neg (hother _ (by decide) (by decide)),
    ← List.cons_append, ← hhead, hparse]

/-- Every accepted value reads back as its representative. -/
theorem readsBack {v : JsonValue} (hv : Accepted v) (hkeys : v.DistinctKeys) :
    ReadsBack kind v := by
  induction v with
  | null =>
    intro fuel rest hfuel _
    obtain ⟨fuel, rfl⟩ : ∃ n, fuel = n + 1 := ⟨fuel - 1, by omega⟩
    exact (parseValue_cons (by decide) fuel _).trans (parseLiteral_append (text "null") rest .null)
  | bool b =>
    intro fuel rest hfuel _
    obtain ⟨fuel, rfl⟩ : ∃ n, fuel = n + 1 := ⟨fuel - 1, by omega⟩
    cases b with
    | true =>
      exact (parseValue_cons (by decide) fuel _).trans
        (parseLiteral_append (text "true") rest (.bool true))
    | false =>
      exact (parseValue_cons (by decide) fuel _).trans
        (parseLiteral_append (text "false") rest (.bool false))
  | number x => exact readsBack_number (accepted_number.mp hv)
  | string s =>
    intro fuel rest hfuel _
    obtain ⟨fuel, rfl⟩ : ∃ n, fuel = n + 1 := ⟨fuel - 1, by omega⟩
    have hread : (parseString kind (stringifyString s ++ rest)).map
        (fun (value, rest) => (JsonValue.string value, rest)) = .ok (.string s, rest) := by
      rw [parseString_stringifyString]
      rfl
    exact (parseValue_cons (by decide) fuel _).trans hread
  | array items ih =>
    intro fuel rest hfuel _
    rw [serialize_array] at hfuel ⊢
    obtain ⟨fuel, rfl⟩ : ∃ n, fuel = n + 2 := ⟨fuel - 2, by simp at hfuel; omega⟩
    have hitems : ∀ item ∈ items, ReadsBack kind item := fun item hitem =>
      ih item hitem (accepted_array.mp hv item hitem) (distinctItems_iff.mp hkeys item hitem)
    have hopen : ∀ tail, parseValue kind (fuel + 2) (unit '[' :: tail) =
        parseArray kind (fuel + 1) (skipWhitespace tail) := fun tail =>
      parseValue_cons (by decide) (fuel + 1) tail
    rw [List.cons_append, List.cons_append, hopen, List.append_assoc, List.cons_append,
      List.nil_append]
    cases items with
    | nil =>
      rw [show joinComma (([] : List JsonValue).map serializeCanonical) = [] from rfl,
        List.nil_append, skipWhitespace_cons (by decide), parseArray.eq_def]
      simp [canonical, canonicalItems]
    | cons item others =>
      obtain ⟨code, tail, hhead, hspace, hbracket, -⟩ :=
        serialize_head (accepted_array.mp hv item List.mem_cons_self)
      have hjoin : ∃ tail', joinComma ((item :: others).map serializeCanonical) = code :: tail' := by
        cases others with
        | nil => exact ⟨tail, by simp [joinComma_singleton, hhead]⟩
        | cons next others =>
          exact ⟨_, by rw [List.map_cons, List.map_cons, joinComma_cons_cons, hhead]; rfl⟩
      obtain ⟨tail', hjoin⟩ := hjoin
      have hread := @parseItems_printed kind (item :: others) (by simp) hitems fuel rest (by
        simp only [List.length_append, List.length_cons, List.length_nil] at hfuel
        omega)
      rw [hjoin] at hread ⊢
      rw [List.cons_append] at hread ⊢
      rw [skipWhitespace_cons hspace, parseArray.eq_def]
      simp only [List.head?_cons, Option.some.injEq, if_neg hbracket, hread]
      rw [canonical, canonicalItems_eq]
      rfl
  | object members ih =>
    intro fuel rest hfuel _
    rw [serialize_object] at hfuel ⊢
    obtain ⟨fuel, rfl⟩ : ∃ n, fuel = n + 2 := ⟨fuel - 2, by simp at hfuel; omega⟩
    obtain ⟨hnodup, hdistinct⟩ := hkeys
    have hperm := sortByKey_perm members
    have haccepted := accepted_object.mp hv
    have hmembers : ∀ member ∈ sortByKey members, ReadsBack kind member.2 := by
      intro member hmember
      have hmem := hperm.mem_iff.mp hmember
      exact ih member hmem (haccepted member hmem).2 (distinctMembers_iff.mp hdistinct member hmem)
    have hopen : ∀ tail, parseValue kind (fuel + 2) (unit '\x7b' :: tail) =
        parseObject kind (fuel + 1) (skipWhitespace tail) := fun tail =>
      parseValue_cons (by decide) (fuel + 1) tail
    have hcanonical : canonical (.object members) =
        .object (canonicalMembers (sortByKey members)) := by
      rw [canonical, canonicalMembers_eq, canonicalMembers_eq, sortByKey_map]
    rw [hcanonical, List.cons_append, List.cons_append, hopen, List.append_assoc, List.cons_append,
      List.nil_append]
    cases hsorted : sortByKey members with
    | nil =>
      rw [List.map_nil, show joinComma [] = [] from rfl, List.nil_append,
        skipWhitespace_cons (by decide), parseObject.eq_def]
      simp [canonicalMembers]
    | cons member others =>
      rw [hsorted] at hfuel hmembers hperm
      have hquote : ∃ tail', joinComma ((member :: others).map printed) = unit '"' :: tail' := by
        cases others with
        | nil => exact ⟨_, by rw [List.map_cons, List.map_nil, joinComma_singleton]; rfl⟩
        | cons next others =>
          exact ⟨_, by rw [List.map_cons, List.map_cons, joinComma_cons_cons]; rfl⟩
      obtain ⟨tail', hquote⟩ := hquote
      have hread := @parseMembers_printed kind (member :: others) (by simp)
        (fun m hm => (haccepted m (hperm.mem_iff.mp hm)).1)
        ((hperm.map Prod.fst).nodup_iff.mpr hnodup) hmembers fuel [] (by simp) rest (by
          simp only [List.length_append, List.length_cons, List.length_nil] at hfuel
          omega)
      have hbrace : unit '"' ≠ unit '\x7d' := by decide
      rw [hquote] at hread ⊢
      rw [List.cons_append] at hread ⊢
      rw [skipWhitespace_cons (by decide), parseObject.eq_def]
      simp only [List.head?_cons, Option.some.injEq, if_neg hbrace, hread]
      rfl

theorem parseText_serialize {v : JsonValue} (hv : Accepted v) (hkeys : v.DistinctKeys) :
    parseText kind (serializeCanonical v) = .ok (canonical v) := by
  have hread := @readsBack kind _ hv hkeys (fuelFor (serializeCanonical v)) []
    (Nat.le_refl _) (by simp [EndsNumber])
  rw [List.append_nil] at hread
  rw [parseText, hread, ok_bind]
  simp only [require_of (show skipWhitespace [] = [] from rfl), ok_bind]
  rfl

/-! ## Printing the representative -/

theorem serialize_canonical (v : JsonValue) :
    serializeCanonical (canonical v) = serializeCanonical v := by
  induction v with
  | null => rfl
  | bool b => rfl
  | number x => cases x <;> rfl
  | string s => rfl
  | array items ih =>
    have hitems : items.map (serializeCanonical ∘ canonical) = items.map serializeCanonical :=
      List.map_congr_left ih
    rw [canonical, canonicalItems_eq, serialize_array, serialize_array, List.map_map, hitems]
  | object members ih =>
    have hmembers : (canonicalMembers members).map
        (fun member => (member.1, serializeCanonical member.2)) =
        members.map fun member => (member.1, serializeCanonical member.2) := by
      rw [canonicalMembers_eq, List.map_map]
      exact List.map_congr_left fun member hmember => by
        rw [Function.comp_apply, ih member hmember]
    rw [canonical, serializeCanonical, serializeCanonical, serializeMembers_eq, sortByKey_map,
      sortByKey_sortByKey, ← sortByKey_map, hmembers, serializeMembers_eq]

theorem accepted_canonical {v : JsonValue} (hv : Accepted v) : Accepted (canonical v) := by
  induction v with
  | null => exact hv
  | bool b => exact hv
  | number x =>
    rw [accepted_number] at hv
    rw [canonical, accepted_number]
    cases x <;> simp_all [Number.unsigned, Number.isFinite, Number.isSafeInteger]
  | string s => exact hv
  | array items ih =>
    rw [canonical, canonicalItems_eq, accepted_array]
    intro item hitem
    obtain ⟨item', hitem', rfl⟩ := List.mem_map.mp hitem
    exact ih item' hitem' (accepted_array.mp hv item' hitem')
  | object members ih =>
    rw [canonical, accepted_object]
    intro member hmember
    have hmem := (sortByKey_perm _).mem_iff.mp hmember
    rw [canonicalMembers_eq] at hmem
    obtain ⟨member', hmember', rfl⟩ := List.mem_map.mp hmem
    obtain ⟨hkey, hvalue⟩ := accepted_object.mp hv member' hmember'
    exact ⟨hkey, ih member' hmember' hvalue⟩

theorem canonicalJsonBytes_eq_ok {v : JsonValue} {bytes : Bytes} :
    canonicalJsonBytes v = .ok bytes ↔ Accepted v ∧ encode (serializeCanonical v) = bytes := by
  simp only [canonicalJsonBytes, canonicalJson, map_eq_ok, bind_eq_ok, pure_eq_ok, Accepted]
  constructor
  · rintro ⟨_, ⟨_, hv, rfl⟩, rfl⟩
    exact ⟨hv, rfl⟩
  · rintro ⟨hv, rfl⟩
    exact ⟨_, ⟨(), hv, rfl⟩, rfl⟩

/-! ## Bytes -/

theorem hasLoneSurrogate_escapeUnicode (code : CodeUnit) :
    hasLoneSurrogate (escapeUnicode code) = false := by
  refine hasLoneSurrogate_of_ascii ?_
  have hhex : ∀ n < 16, (hexDigit n).val < 0x80 := by decide
  have hcode := code.isLt
  simp only [escapeUnicode, ascii_cons]
  exact ⟨by decide, by decide, hhex _ (by omega), hhex _ (by omega), hhex _ (by omega),
    hhex _ (by omega), by decide⟩

theorem hasLoneSurrogate_escapeUnit {code : CodeUnit} (hh : ¬ IsHigh code) (hl : ¬ IsLow code) :
    hasLoneSurrogate (escapeUnit code) = false := by
  rw [escapeUnit]
  split_ifs
  · decide
  · decide
  · decide
  · decide
  · decide
  · decide
  · decide
  · exact hasLoneSurrogate_escapeUnicode code
  · rw [hasLoneSurrogate_plain hh hl]
    rfl

theorem hasLoneSurrogate_quoteUnits (s : Text) : hasLoneSurrogate (quoteUnits s) = false := by
  fun_induction quoteUnits s with
  | case1 => rfl
  | case2 code hh => exact hasLoneSurrogate_escapeUnicode code
  | case3 code hh next rest hl ih => rw [hasLoneSurrogate_pair hh hl, ih]
  | case4 code hh next rest hl ih =>
    exact hasLoneSurrogate_append (hasLoneSurrogate_escapeUnicode code) ih
  | case5 code rest hh hl ih =>
    exact hasLoneSurrogate_append (hasLoneSurrogate_escapeUnicode code) ih
  | case6 code rest hh hl ih =>
    exact hasLoneSurrogate_append (hasLoneSurrogate_escapeUnit hh hl) ih

theorem hasLoneSurrogate_cons {code : CodeUnit} (h : code.val < 0x80) {s : Text}
    (hs : hasLoneSurrogate s = false) : hasLoneSurrogate (code :: s) = false :=
  hasLoneSurrogate_append (hasLoneSurrogate_of_ascii fun _ hc => List.mem_singleton.mp hc ▸ h) hs

theorem hasLoneSurrogate_stringifyString (s : Text) :
    hasLoneSurrogate (stringifyString s) = false :=
  hasLoneSurrogate_cons (by decide)
    (hasLoneSurrogate_append (hasLoneSurrogate_quoteUnits s) (by decide))

theorem hasLoneSurrogate_joinComma {pieces : List Text}
    (h : ∀ piece ∈ pieces, hasLoneSurrogate piece = false) :
    hasLoneSurrogate (joinComma pieces) = false := by
  induction pieces with
  | nil => rfl
  | cons piece others ih =>
    have hrest := ih fun p hp => h p (List.mem_cons_of_mem _ hp)
    cases others with
    | nil => rw [joinComma_singleton]; exact h piece List.mem_cons_self
    | cons next others =>
      rw [joinComma_cons_cons]
      exact hasLoneSurrogate_append (h piece List.mem_cons_self)
        (hasLoneSurrogate_cons (by decide) hrest)

theorem ascii_natText (n : ℕ) : Ascii (natText n) := fun code hcode =>
  (digits_isDigit n code hcode).2.trans_lt (by decide)

theorem hasLoneSurrogate_serialize (v : JsonValue) :
    hasLoneSurrogate (serializeCanonical v) = false := by
  induction v with
  | null => decide
  | bool b => cases b <;> decide
  | number x =>
    have hnull : Ascii (text "null") := by decide
    refine hasLoneSurrogate_of_ascii ?_
    rw [serializeCanonical]
    cases x with
    | finite q =>
      rw [stringifyNumber]
      split_ifs
      · exact ascii_cons.mpr ⟨by decide, ascii_natText _⟩
      · exact ascii_natText _
    | negativeZero => exact ascii_natText 0
    | infinite negative => exact hnull
    | nan => exact hnull
  | string s => exact hasLoneSurrogate_stringifyString s
  | array items ih =>
    rw [serialize_array]
    refine hasLoneSurrogate_cons (by decide)
      (hasLoneSurrogate_append (hasLoneSurrogate_joinComma ?_) (by decide))
    simpa using ih
  | object members ih =>
    rw [serialize_object]
    refine hasLoneSurrogate_cons (by decide)
      (hasLoneSurrogate_append (hasLoneSurrogate_joinComma ?_) (by decide))
    intro piece hpiece
    obtain ⟨member, hmember, rfl⟩ := List.mem_map.mp hpiece
    exact hasLoneSurrogate_append (hasLoneSurrogate_stringifyString member.1)
      (hasLoneSurrogate_cons (by decide) (ih member ((sortByKey_perm _).mem_iff.mp hmember)))

theorem decode_encode_serialize {v : JsonValue} (hv : Accepted v) :
    decode (encode (serializeCanonical v)) = some (serializeCanonical v) := by
  obtain ⟨code, tail, hhead, -, -, hcode⟩ := serialize_head hv
  have hlone := hasLoneSurrogate_serialize v
  rw [hhead] at hlone ⊢
  exact decode_encode hlone hcode

/-- The bytes of an accepted value read back as its representative. -/
theorem parseCanonical_encode {v : JsonValue} (hv : Accepted v) (hkeys : v.DistinctKeys) :
    parseCanonical (encode (serializeCanonical v)) kind = .ok (canonical v) := by
  have hbytes : canonicalJsonBytes (canonical v) = .ok (encode (serializeCanonical v)) :=
    canonicalJsonBytes_eq_ok.mpr ⟨accepted_canonical hv, by rw [serialize_canonical]⟩
  simp only [parseCanonical, decode_encode_serialize hv, fetch, ok_bind,
    parseText_serialize hv hkeys, hbytes, Except.mapError]
  rfl

theorem parseCanonical_eq_ok {raw : Bytes} {v : JsonValue} (h : parseCanonical raw kind = .ok v) :
    canonicalJsonBytes v = .ok raw ∧ v.DistinctKeys := by
  simp only [parseCanonical, bind_eq_ok, fetch_eq_ok, require_eq_ok, pure_eq_ok,
    exists_const] at h
  obtain ⟨s, -, value, hvalue, bytes, hbytes, rfl, rfl⟩ := h
  refine ⟨?_, parseText_distinct hvalue⟩
  cases hcanonical : canonicalJsonBytes value with
  | error e => simp [hcanonical, Except.mapError] at hbytes
  | ok b => simpa [hcanonical, Except.mapError] using hbytes

theorem parseCanonicalJsonBytes_eq_ok {raw : Bytes} {limit : ℕ} {v : JsonValue} :
    parseCanonicalJsonBytes raw kind limit = .ok v ↔
      raw.length ≤ limit ∧ parseCanonical raw kind = .ok v := by
  simp [parseCanonicalJsonBytes]

/-! ## The printer and the parser -/

/-- The parser reads the bytes of every accepted value that fits its limit, tells values apart by
their bytes, and accepts nothing but such bytes. -/
theorem canonical_json_exact :
    (∀ (v : JsonValue) (kind : JsonKind) (limit : ℕ), v.DistinctKeys →
      validateJsonValue v = .ok () → ∃ bytes, canonicalJsonBytes v = .ok bytes ∧
        ((∃ w, parseCanonicalJsonBytes bytes kind limit = .ok w ∧ same w v) ↔
          bytes.length ≤ limit)) ∧
    (∀ (v w : JsonValue) (bytes : Bytes), v.DistinctKeys → w.DistinctKeys →
      canonicalJsonBytes v = .ok bytes → canonicalJsonBytes w = .ok bytes → same v w) ∧
    (∀ (raw : Bytes) (kind : JsonKind) (limit : ℕ) (v : JsonValue),
      parseCanonicalJsonBytes raw kind limit = .ok v → canonicalJsonBytes v = .ok raw) ∧
    ∀ (raw raw' : Bytes) (kind kind' : JsonKind) (limit limit' : ℕ) (v w : JsonValue),
      parseCanonicalJsonBytes raw kind limit = .ok v →
      parseCanonicalJsonBytes raw' kind' limit' = .ok w → same v w → raw = raw' := by
  refine ⟨fun v kind limit hkeys hv => ?_, fun v w bytes hkeys hkeys' hv hw => ?_,
    fun raw kind limit v h => ?_, fun raw raw' kind kind' limit limit' v w hv hw hsame => ?_⟩
  · refine ⟨_, canonicalJsonBytes_eq_ok.mpr ⟨hv, rfl⟩, ?_⟩
    constructor
    · rintro ⟨w, hw, -⟩
      exact (parseCanonicalJsonBytes_eq_ok.mp hw).1
    · intro hlimit
      refine ⟨canonical v, parseCanonicalJsonBytes_eq_ok.mpr ⟨hlimit, ?_⟩, ?_⟩
      · exact parseCanonical_encode hv hkeys
      · exact (same_iff (distinctKeys_canonical hkeys) hkeys).mpr (canonical_canonical v)
  · obtain ⟨hv, hbytes⟩ := canonicalJsonBytes_eq_ok.mp hv
    obtain ⟨hw, hbytes'⟩ := canonicalJsonBytes_eq_ok.mp hw
    have hread := @parseCanonical_encode .body _ hv hkeys
    rw [hbytes, ← hbytes', parseCanonical_encode hw hkeys'] at hread
    exact (same_iff hkeys hkeys').mpr (Except.ok.inj hread).symm
  · exact (parseCanonical_eq_ok (parseCanonicalJsonBytes_eq_ok.mp h).2).1
  · obtain ⟨hbytes, hkeys⟩ := parseCanonical_eq_ok (parseCanonicalJsonBytes_eq_ok.mp hv).2
    obtain ⟨hbytes', hkeys'⟩ := parseCanonical_eq_ok (parseCanonicalJsonBytes_eq_ok.mp hw).2
    have hcanonical := (same_iff hkeys hkeys').mp hsame
    rw [← (canonicalJsonBytes_eq_ok.mp hbytes).2, ← (canonicalJsonBytes_eq_ok.mp hbytes').2,
      ← serialize_canonical v, hcanonical, serialize_canonical]

/-- An object whose members are out of order, with a negative zero. -/
def unsortedValue : JsonValue :=
  .object [(text "b", .number .negativeZero), (text "a", .array [.string (text "x"), .null])]

theorem canonical_json_exact_unsorted :
    ∃ bytes, canonicalJsonBytes unsortedValue = .ok bytes ∧
      ∃ w, parseCanonicalJsonBytes bytes .body maxCoreBody = .ok w ∧ same w unsortedValue := by
  have hkeys : unsortedValue.DistinctKeys :=
    ⟨by decide, trivial, ⟨trivial, trivial, trivial⟩, trivial⟩
  obtain ⟨bytes, hbytes, hread⟩ :=
    canonical_json_exact.1 unsortedValue .body maxCoreBody hkeys rfl
  have hlength : (encode (serializeCanonical unsortedValue)).length ≤ maxCoreBody := by decide
  rw [(canonicalJsonBytes_eq_ok.mp hbytes).2] at hlength
  exact ⟨bytes, hbytes, hread.mpr hlength⟩

/-- A string of `n` letters. -/
def letters (n : ℕ) : JsonValue := .string (List.replicate n (unit 'a'))

theorem quoteUnits_replicate (n : ℕ) :
    quoteUnits (List.replicate n (unit 'a')) = List.replicate n (unit 'a') := by
  induction n with
  | zero => rfl
  | succ n ih =>
    have hh : ¬ IsHigh (unit 'a') := by decide
    have hl : ¬ IsLow (unit 'a') := by decide
    have hunit : escapeUnit (unit 'a') = [unit 'a'] := by decide
    rw [List.replicate_succ, quoteUnits.eq_def]
    simp only [if_neg hh, if_neg hl, hunit, ih, List.cons_append, List.nil_append]

theorem ascii_replicate (n : ℕ) : Ascii (List.replicate n (unit 'a')) := by
  intro code hcode
  have ha : (unit 'a').val < 0x80 := by decide
  rw [List.eq_of_mem_replicate hcode]
  exact ha

theorem accepted_letters (n : ℕ) : Accepted (letters n) :=
  accepted_string.mpr (hasLoneSurrogate_of_ascii (ascii_replicate n))

theorem length_letters (n : ℕ) : (encode (serializeCanonical (letters n))).length = n + 2 := by
  have hquote : (unit '"').val < 0x80 := by decide
  rw [letters, serializeCanonical, stringifyString, quoteUnits_replicate, length_encode_of_ascii]
  · simp
  · simp only [List.cons_append, ascii_cons, ascii_append]
    exact ⟨hquote, ascii_replicate n, hquote, by decide⟩

theorem letters_refused {n limit : ℕ} (h : limit < n + 2) :
    ∃ bytes, canonicalJsonBytes (letters n) = .ok bytes ∧
      parseCanonicalJsonBytes bytes .body limit = .error "body_size_invalid" := by
  refine ⟨_, canonicalJsonBytes_eq_ok.mpr ⟨accepted_letters n, rfl⟩, ?_⟩
  rw [parseCanonicalJsonBytes, require, if_neg (by rw [length_letters]; omega)]
  rfl

/-- The bytes of an accepted value above the limit of a body are refused. -/
theorem large_value_refused : validateJsonValue (letters maxCoreBody) = .ok () ∧
    ∃ bytes, canonicalJsonBytes (letters maxCoreBody) = .ok bytes ∧
      parseCanonicalJsonBytes bytes .body maxCoreBody = .error "body_size_invalid" :=
  ⟨accepted_letters maxCoreBody, letters_refused (Nat.lt_add_of_pos_right (by decide))⟩

end Quillframe.Cloud
