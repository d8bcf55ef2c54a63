import Quillframe.Json

/-!
# Paths into a JSON text

A path of member names and item positions leads to at most one value. A `Pruning` walks a text
from its root and drops some members of the objects it meets; which ones is decided by a state
that each step into a member or an item moves on.
-/
namespace Quillframe

inductive PathStep where
  | key (name : String)
  | index (position : ℕ)
  deriving DecidableEq, Repr

namespace Json

variable {Fp : Type}

def child? : Json Fp → PathStep → Option (Json Fp)
  | v, .key name => v.get? name
  | arr items, .index position => items[position]?
  | _, .index _ => none

def at? (v : Json Fp) : List PathStep → Option (Json Fp)
  | [] => some v
  | step :: rest => (v.child? step).bind fun child => child.at? rest

/-- What a value is without what is below it: a scalar itself, an array by its length. -/
def outline : Json Fp → Json Fp
  | arr items => arr (List.replicate items.length null)
  | obj _ => obj []
  | v => v

end Json

structure Pruning (State : Type) where
  member : State → String → State
  item : State → State
  drops : State → String → Bool

namespace Pruning

open Json

variable {Fp State : Type} (p : Pruning State)

mutual

@[grind =] def prune : State → Json Fp → Json Fp
  | q, arr items => arr (pruneItems (p.item q) items)
  | q, obj members => obj (pruneMembers q members)
  | _, .null => .null
  | _, .bool b => .bool b
  | _, .int n => .int n
  | _, .float d => .float d
  | _, .str s => .str s
  | _, .fp h => .fp h

def pruneItems : State → List (Json Fp) → List (Json Fp)
  | _, [] => []
  | q, v :: rest => prune q v :: pruneItems q rest

def pruneMembers : State → List (String × Json Fp) → List (String × Json Fp)
  | _, [] => []
  | q, (key, v) :: rest =>
    if p.drops q key then pruneMembers q rest
    else (key, prune (p.member q key) v) :: pruneMembers q rest

end

/-- Does the path run through a dropped member? -/
def cuts : State → List PathStep → Bool
  | _, [] => false
  | q, .key name :: rest => p.drops q name || cuts (p.member q name) rest
  | q, .index _ :: rest => cuts (p.item q) rest

theorem pruneItems_eq_map (q : State) (items : List (Json Fp)) :
    p.pruneItems q items = items.map (p.prune q) := by
  induction items with
  | nil => rw [pruneItems, List.map_nil]
  | cons v rest ih => rw [pruneItems, List.map_cons, ih]

theorem pruneMembers_eq_map (q : State) (members : List (String × Json Fp)) :
    p.pruneMembers q members =
      (members.filter fun member => !p.drops q member.1).map fun member =>
        (member.1, p.prune (p.member q member.1) member.2) := by
  induction members with
  | nil => rw [pruneMembers, List.filter_nil, List.map_nil]
  | cons member rest ih =>
    obtain ⟨key, v⟩ := member
    rw [pruneMembers, ih]
    by_cases hdrops : p.drops q key <;> simp [hdrops]

@[simp] theorem prune_arr (q : State) (items : List (Json Fp)) :
    p.prune q (arr items) = arr (items.map (p.prune (p.item q))) :=
  congrArg arr (p.pruneItems_eq_map (p.item q) items)

@[simp] theorem prune_obj (q : State) (members : List (String × Json Fp)) :
    p.prune q (obj members) = obj (p.pruneMembers q members) := rfl

@[simp] theorem outline_prune (q : State) (v : Json Fp) : (p.prune q v).outline = v.outline := by
  cases v <;> simp [prune, outline, pruneItems_eq_map]

theorem find?_pruneMembers (q : State) (members : List (String × Json Fp)) (key : String) :
    (p.pruneMembers q members).find? (fun member => member.1 == key) =
      if p.drops q key then none
      else (members.find? fun member => member.1 == key).map fun member =>
        (member.1, p.prune (p.member q key) member.2) := by
  induction members with
  | nil => simp [pruneMembers]
  | cons member rest ih =>
    obtain ⟨name, v⟩ := member
    rw [pruneMembers]
    by_cases hkey : name = key
    · subst hkey
      by_cases hdrops : p.drops q name
      · simpa [hdrops] using ih
      · simp [hdrops]
    · by_cases hdrops : p.drops q name
      · simpa [hdrops, hkey] using ih
      · simpa [hdrops, hkey] using ih

theorem get?_prune (q : State) (v : Json Fp) (key : String) :
    (p.prune q v).get? key =
      if p.drops q key then none else (v.get? key).map (p.prune (p.member q key)) := by
  cases v with
  | obj members =>
    rw [prune_obj, get?, get?, find?_pruneMembers]
    by_cases hdrops : p.drops q key <;> simp [hdrops, Function.comp_def]
  | _ => simp [prune, get?]

theorem child?_index_prune (q : State) (v : Json Fp) (position : ℕ) :
    (p.prune q v).child? (.index position) =
      (v.child? (.index position)).map (p.prune (p.item q)) := by
  cases v <;> simp [prune, child?, pruneItems_eq_map]

/-- A path leads to the same kind of value as before unless it runs through a dropped member. -/
theorem at?_prune (q : State) (v : Json Fp) (path : List PathStep) :
    ((p.prune q v).at? path).map outline =
      if p.cuts q path then none else (v.at? path).map outline := by
  induction path generalizing q v with
  | nil => simp [at?, cuts]
  | cons step rest ih =>
    cases step with
    | key name =>
      have hchild : (p.prune q v).child? (.key name) =
          if p.drops q name then none else (v.child? (.key name)).map (p.prune (p.member q name)) :=
        p.get?_prune q v name
      rw [at?, at?, hchild, cuts]
      by_cases hdrops : p.drops q name
      · simp [hdrops]
      · cases hv : v.child? (.key name) with
        | none => simp [hdrops]
        | some child => simpa [hdrops] using ih (p.member q name) child
    | index position =>
      rw [at?, at?, child?_index_prune, cuts]
      cases hv : v.child? (.index position) with
      | none => simp
      | some child => simpa using ih (p.item q) child

mutual

/-- A pruned text has nothing left to drop. -/
theorem prune_prune : ∀ (q : State) (v : Json Fp), p.prune q (p.prune q v) = p.prune q v
  | q, arr items => by rw [prune, prune, pruneItems_pruneItems]
  | q, obj members => by rw [prune, prune, pruneMembers_pruneMembers]
  | _, .null | _, .bool _ | _, .int _ | _, .float _ | _, .str _ | _, .fp _ => by simp [prune]

theorem pruneItems_pruneItems : ∀ (q : State) (items : List (Json Fp)),
    p.pruneItems q (p.pruneItems q items) = p.pruneItems q items
  | _, [] => by simp [pruneItems]
  | q, v :: rest => by simp only [pruneItems, prune_prune q v, pruneItems_pruneItems q rest]

theorem pruneMembers_pruneMembers : ∀ (q : State) (members : List (String × Json Fp)),
    p.pruneMembers q (p.pruneMembers q members) = p.pruneMembers q members
  | _, [] => by simp [pruneMembers]
  | q, (key, v) :: rest => by
    by_cases hdrops : p.drops q key
    · simp only [pruneMembers, hdrops, if_true, pruneMembers_pruneMembers q rest]
    · simp only [pruneMembers, hdrops, Bool.false_eq_true, if_false,
        prune_prune (p.member q key) v, pruneMembers_pruneMembers q rest]

end

end Pruning

end Quillframe
