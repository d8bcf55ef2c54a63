import Quillframe.Js.Number

/-!
# JSON values of a JavaScript program

The members of an object are listed in the order they were defined in. Two values are the same when
they differ in the order of members and the sign of zeros at most; sorting the members and dropping
those signs gives each class of such values one representative.
-/
namespace Quillframe.Js

inductive JsonValue where
  | null
  | bool (value : Bool)
  | number (value : Number)
  | string (value : Text)
  | array (items : List JsonValue)
  | object (members : List (Text × JsonValue))

abbrev Member := Text × JsonValue

namespace JsonValue

/-- Induction with a hypothesis for each item and each member. -/
@[induction_eliminator]
theorem induct {motive : JsonValue → Prop} (null : motive null) (bool : ∀ b, motive (bool b))
    (number : ∀ x, motive (number x)) (string : ∀ s, motive (string s))
    (array : ∀ items, (∀ item ∈ items, motive item) → motive (array items))
    (object : ∀ members, (∀ member ∈ members, motive member.2) → motive (object members))
    (v : JsonValue) : motive v :=
  @JsonValue.rec motive (fun items => ∀ item ∈ items, motive item)
    (fun members => ∀ member ∈ members, motive member.2) (fun member => motive member.2)
    null bool number string array object
    (List.forall_mem_nil _) (fun _ _ hhead htail => List.forall_mem_cons.mpr ⟨hhead, htail⟩)
    (List.forall_mem_nil _) (fun _ _ hhead htail => List.forall_mem_cons.mpr ⟨hhead, htail⟩)
    (fun _ _ h => h) v

/-- The value of a key in the members of an object. -/
def member? (key : Text) (members : List Member) : Option JsonValue :=
  (members.find? fun member => member.1 = key).map Prod.snd

mutual

/-- No object of the value has two members of one key. -/
def DistinctKeys : JsonValue → Prop
  | .array items => DistinctItems items
  | .object members => (members.map Prod.fst).Nodup ∧ DistinctMembers members
  | _ => True

def DistinctItems : List JsonValue → Prop
  | [] => True
  | item :: rest => DistinctKeys item ∧ DistinctItems rest

def DistinctMembers : List Member → Prop
  | [] => True
  | member :: rest => DistinctKeys member.2 ∧ DistinctMembers rest

end

mutual

/-- Equality up to the order of members, with the two zeros identified. -/
@[grind =] def same : JsonValue → JsonValue → Bool
  | .null, .null => true
  | .bool a, .bool b => a = b
  | .number x, .number y => x.unsigned = y.unsigned
  | .string s, .string t => s = t
  | .array items, .array items' => sameItems items items'
  | .object members, .object members' =>
    members.length = members'.length && sameMembers members members'
  | _, _ => false

def sameItems : List JsonValue → List JsonValue → Bool
  | [], [] => true
  | item :: rest, item' :: rest' => same item item' && sameItems rest rest'
  | _, _ => false

def sameMembers : List Member → List Member → Bool
  | [], _ => true
  | member :: rest, members' =>
    (match member? member.1 members' with
      | some value => same member.2 value
      | none => false) && sameMembers rest members'

end

def sortByKey {α : Type} (members : List (Text × α)) : List (Text × α) :=
  members.insertionSort fun a b => a.1 ≤ b.1

mutual

/-- The value with its members sorted and its zeros unsigned. -/
@[grind =] def canonical : JsonValue → JsonValue
  | .number x => .number x.unsigned
  | .array items => .array (canonicalItems items)
  | .object members => .object (sortByKey (canonicalMembers members))
  | v => v

def canonicalItems : List JsonValue → List JsonValue
  | [] => []
  | item :: rest => canonical item :: canonicalItems rest

def canonicalMembers : List Member → List Member
  | [] => []
  | member :: rest => (member.1, canonical member.2) :: canonicalMembers rest

end

theorem distinctItems_iff {items : List JsonValue} :
    DistinctItems items ↔ ∀ item ∈ items, DistinctKeys item := by
  induction items with
  | nil => simp [DistinctItems]
  | cons item rest ih => rw [DistinctItems, ih, List.forall_mem_cons]

theorem distinctMembers_iff {members : List Member} :
    DistinctMembers members ↔ ∀ member ∈ members, DistinctKeys member.2 := by
  induction members with
  | nil => simp [DistinctMembers]
  | cons member rest ih => rw [DistinctMembers, ih, List.forall_mem_cons]

theorem canonicalItems_eq (items : List JsonValue) :
    canonicalItems items = items.map canonical := by
  induction items with
  | nil => rfl
  | cons item rest ih => rw [canonicalItems, ih, List.map_cons]

theorem canonicalMembers_eq (members : List Member) :
    canonicalMembers members = members.map fun member => (member.1, canonical member.2) := by
  induction members with
  | nil => rfl
  | cons member rest ih => rw [canonicalMembers, ih, List.map_cons]

theorem member?_eq_some {key : Text} {members : List Member} (h : (members.map Prod.fst).Nodup)
    {value : JsonValue} : member? key members = some value ↔ (key, value) ∈ members := by
  induction members with
  | nil => simp [member?]
  | cons member rest ih =>
    obtain ⟨hnot, hrest⟩ := List.nodup_cons.mp (List.map_cons ▸ h)
    by_cases hkey : member.1 = key
    · have hfind : member? key (member :: rest) = some member.2 := by simp [member?, hkey]
      rw [hfind, Option.some.injEq, List.mem_cons]
      constructor
      · rintro rfl
        exact .inl (by rw [← hkey])
      · rintro (heq | hmem)
        · rw [← heq]
        · exact absurd (List.mem_map_of_mem (f := Prod.fst) hmem) (by simpa [hkey] using hnot)
    · have hfind : member? key (member :: rest) = member? key rest := by simp [member?, hkey]
      rw [hfind, ih hrest, List.mem_cons]
      constructor
      · exact .inr
      · rintro (heq | hmem)
        · exact absurd (by rw [← heq]) hkey
        · exact hmem

/-! ## One representative of each class -/

section SortByKey

variable {α : Type}

theorem sortByKey_perm (members : List (Text × α)) : (sortByKey members).Perm members :=
  List.perm_insertionSort _ _

theorem sortByKey_map {β : Type} (f : α → β) (members : List (Text × α)) :
    sortByKey (members.map fun member => (member.1, f member.2)) =
      (sortByKey members).map fun member => (member.1, f member.2) :=
  (List.map_insertionSort (fun a b : Text × α => a.1 ≤ b.1) (fun a b : Text × β => a.1 ≤ b.1)
    (fun member : Text × α => (member.1, f member.2)) members fun _ _ _ _ => Iff.rfl).symm

instance : Std.Total fun a b : Text × α => a.1 ≤ b.1 := ⟨fun a b => le_total a.1 b.1⟩

instance : IsTrans (Text × α) fun a b => a.1 ≤ b.1 := ⟨fun _ _ _ => le_trans⟩

theorem sortByKey_pairwise (members : List (Text × α)) :
    (sortByKey members).Pairwise fun a b => a.1 ≤ b.1 :=
  List.pairwise_insertionSort _ _

theorem sortByKey_sortByKey (members : List (Text × α)) :
    sortByKey (sortByKey members) = sortByKey members :=
  (sortByKey_pairwise members).insertionSort_eq

theorem eq_of_mem_of_fst_eq {members : List (Text × α)} (h : (members.map Prod.fst).Nodup)
    {a b : Text × α} (ha : a ∈ members) (hb : b ∈ members) (hkey : a.1 = b.1) : a = b :=
  List.inj_on_of_nodup_map h ha hb hkey

/-- Lists with the same members, no two of one key, are sorted alike. -/
theorem sortByKey_eq_iff {members members' : List (Text × α)}
    (h : (members.map Prod.fst).Nodup) :
    sortByKey members = sortByKey members' ↔ members.Perm members' := by
  constructor
  · intro heq
    exact (sortByKey_perm members).symm.trans (heq ▸ sortByKey_perm members')
  · intro hperm
    have hsorted : (sortByKey members).Perm (sortByKey members') :=
      (sortByKey_perm members).trans (hperm.trans (sortByKey_perm members').symm)
    refine List.Perm.eq_of_pairwise ?_ (sortByKey_pairwise members) (sortByKey_pairwise members')
      hsorted
    intro a b ha hb hab hba
    have hb' : b ∈ members := hperm.mem_iff.mpr ((sortByKey_perm members').mem_iff.mp hb)
    exact eq_of_mem_of_fst_eq h ((sortByKey_perm members).mem_iff.mp ha) hb' (le_antisymm hab hba)

end SortByKey

theorem sameItems_iff {items items' : List JsonValue}
    (ih : ∀ item ∈ items, ∀ item' ∈ items', same item item' ↔ canonical item = canonical item') :
    sameItems items items' ↔ items.map canonical = items'.map canonical := by
  induction items generalizing items' with
  | nil => cases items' <;> simp [sameItems]
  | cons item rest hrest =>
    cases items' with
    | nil => simp [sameItems]
    | cons item' rest' =>
      have hhead := ih item List.mem_cons_self item' List.mem_cons_self
      have htail := @hrest rest' fun a ha b hb =>
        ih a (List.mem_cons_of_mem _ ha) b (List.mem_cons_of_mem _ hb)
      rw [sameItems, Bool.and_eq_true, hhead, htail, List.map_cons, List.map_cons, List.cons.injEq]

theorem sameMembers_iff {members members' : List Member} (h : (members'.map Prod.fst).Nodup)
    (ih : ∀ member ∈ members, ∀ member' ∈ members',
      same member.2 member'.2 ↔ canonical member.2 = canonical member'.2) :
    sameMembers members members' ↔
      canonicalMembers members ⊆ canonicalMembers members' := by
  induction members with
  | nil => simp [sameMembers, canonicalMembers]
  | cons member rest hrest =>
    have htail := hrest fun a ha => ih a (List.mem_cons_of_mem _ ha)
    have hhead : (match member? member.1 members' with
        | some value => same member.2 value
        | none => false) = true ↔
        (member.1, canonical member.2) ∈ canonicalMembers members' := by
      rw [canonicalMembers_eq, List.mem_map]
      cases hfound : member? member.1 members' with
      | none =>
        simp only [Bool.false_eq_true, false_iff, not_exists, not_and]
        rintro member' hmem heq
        have hkey : member'.1 = member.1 := (Prod.mk.inj heq).1
        have hsome := (member?_eq_some h).mpr hmem
        rw [hkey, hfound] at hsome
        exact absurd hsome (by simp)
      | some value =>
        have hmem := (member?_eq_some h).mp hfound
        have hvalue := ih member List.mem_cons_self _ hmem
        simp only [hvalue]
        constructor
        · intro heq
          exact ⟨_, hmem, by rw [heq]⟩
        · rintro ⟨member', hmem', heq⟩
          have hsame := eq_of_mem_of_fst_eq h hmem' hmem (Prod.mk.inj heq).1
          rw [hsame] at heq
          exact (Prod.mk.inj heq).2.symm
    rw [sameMembers, Bool.and_eq_true, hhead, htail, canonicalMembers, List.cons_subset]

theorem canonicalMembers_keys (members : List Member) :
    (canonicalMembers members).map Prod.fst = members.map Prod.fst := by
  rw [canonicalMembers_eq, List.map_map]
  rfl

theorem canonical_canonical (v : JsonValue) : canonical (canonical v) = canonical v := by
  induction v with
  | null => rfl
  | bool b => rfl
  | number x => cases x <;> rfl
  | string s => rfl
  | array items ih =>
    rw [canonical, canonical, canonicalItems_eq, canonicalItems_eq, List.map_map]
    exact congrArg JsonValue.array (List.map_congr_left ih)
  | object members ih =>
    have hmembers : canonicalMembers (canonicalMembers members) = canonicalMembers members := by
      rw [canonicalMembers_eq, canonicalMembers_eq, List.map_map]
      exact List.map_congr_left fun member hmember => by
        rw [Function.comp_apply, ih member hmember]
    rw [canonical, canonical, canonicalMembers_eq (sortByKey _), ← sortByKey_map,
      ← canonicalMembers_eq, hmembers, sortByKey_sortByKey]

theorem distinctKeys_canonical {v : JsonValue} (h : v.DistinctKeys) :
    (canonical v).DistinctKeys := by
  induction v with
  | null => exact h
  | bool b => exact h
  | number x => trivial
  | string s => exact h
  | array items ih =>
    rw [canonical, DistinctKeys, canonicalItems_eq, distinctItems_iff]
    intro item hitem
    obtain ⟨item', hitem', rfl⟩ := List.mem_map.mp hitem
    exact ih item' hitem' (distinctItems_iff.mp h item' hitem')
  | object members ih =>
    obtain ⟨hnodup, hdistinct⟩ := h
    have hperm := sortByKey_perm (canonicalMembers members)
    refine ⟨?_, distinctMembers_iff.mpr fun member hmember => ?_⟩
    · rw [(hperm.map Prod.fst).nodup_iff, canonicalMembers_keys]
      exact hnodup
    · have hmem := hperm.mem_iff.mp hmember
      rw [canonicalMembers_eq] at hmem
      obtain ⟨member', hmember', rfl⟩ := List.mem_map.mp hmem
      exact ih member' hmember' (distinctMembers_iff.mp hdistinct member' hmember')

/-- Two values are the same exactly when they have one representative. -/
theorem same_iff {v w : JsonValue} (hv : v.DistinctKeys) (hw : w.DistinctKeys) :
    same v w ↔ canonical v = canonical w := by
  induction v generalizing w with
  | null => cases w <;> simp [same, canonical]
  | bool b => cases w <;> simp [same, canonical]
  | number x => cases w <;> simp [same, canonical]
  | string s => cases w <;> simp [same, canonical]
  | array items ih =>
    cases w with
    | array items' =>
      have hitems := @sameItems_iff items items' fun item hitem item' hitem' =>
        ih item hitem (distinctItems_iff.mp hv item hitem) (distinctItems_iff.mp hw item' hitem')
      rw [same, hitems, canonical, canonical, canonicalItems_eq, canonicalItems_eq,
        JsonValue.array.injEq]
    | _ => simp [same, canonical]
  | object members ih =>
    cases w with
    | object members' =>
      obtain ⟨hkeys, hvalues⟩ := hv
      obtain ⟨hkeys', hvalues'⟩ := hw
      have hmembers := @sameMembers_iff members members' hkeys' fun member hmem member' hmem' =>
        ih member hmem (distinctMembers_iff.mp hvalues member hmem)
          (distinctMembers_iff.mp hvalues' member' hmem')
      have hnodup : ((canonicalMembers members).map Prod.fst).Nodup :=
        (canonicalMembers_keys members).symm ▸ hkeys
      rw [same, Bool.and_eq_true, hmembers, canonical, canonical, JsonValue.object.injEq,
        sortByKey_eq_iff hnodup, decide_eq_true_eq]
      have hlength : ∀ ms : List Member, (canonicalMembers ms).length = ms.length := fun ms => by
        rw [canonicalMembers_eq, List.length_map]
      constructor
      · rintro ⟨hlen, hsub⟩
        exact (List.subperm_of_subset hnodup.of_map hsub).perm_of_length_le
          (by rw [hlength, hlength, hlen])
      · intro hperm
        exact ⟨by rw [← hlength, ← hlength members', hperm.length_eq], hperm.subset⟩
    | _ => simp [same, canonical]

end JsonValue

/-! ## Quoted strings -/

def hexDigit (n : ℕ) : CodeUnit :=
  if n < 10 then digit n else ⟨(0x61 + (n - 10)) % 0x10000, Nat.mod_lt _ (by decide)⟩

def escapeUnicode (code : CodeUnit) : Text :=
  [unit '\\', unit 'u', hexDigit (code.val / 0x1000), hexDigit (code.val / 0x100 % 0x10),
    hexDigit (code.val / 0x10 % 0x10), hexDigit (code.val % 0x10)]

def escapeUnit (code : CodeUnit) : Text :=
  if code.val = 0x08 then [unit '\\', unit 'b']
  else if code.val = 0x09 then [unit '\\', unit 't']
  else if code.val = 0x0a then [unit '\\', unit 'n']
  else if code.val = 0x0c then [unit '\\', unit 'f']
  else if code.val = 0x0d then [unit '\\', unit 'r']
  else if code = unit '"' then [unit '\\', unit '"']
  else if code = unit '\\' then [unit '\\', unit '\\']
  else if code.val < 0x20 then escapeUnicode code
  else [code]

def quoteUnits : Text → Text
  | [] => []
  | code :: rest =>
    if IsHigh code then
      match rest with
      | [] => escapeUnicode code
      | next :: rest =>
        if IsLow next then code :: next :: quoteUnits rest
        else escapeUnicode code ++ quoteUnits (next :: rest)
    else if IsLow code then escapeUnicode code ++ quoteUnits rest
    else escapeUnit code ++ quoteUnits rest

/-- What `JSON.stringify` prints for a string. -/
def stringifyString (s : Text) : Text := unit '"' :: quoteUnits s ++ [unit '"']

end Quillframe.Js
