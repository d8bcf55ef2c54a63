import Quillframe.PlanStore

/-!
# Runs of plan calls

Any sequence of saves and activations, failed calls included. The activations of a target number
the plans it had, and the chain of a chapter depends on nothing but active plans.
-/
namespace Quillframe

variable {Fp : Type}

/-! ## Targets and lineages of a graph -/

theorem StoryKind.name_inj {k l : StoryKind} {a b : String}
    (h : k.name ++ ":" ++ a = l.name ++ ":" ++ b) : a = b := by
  have hlist := congrArg String.toList h
  refine String.toList_inj.mp ?_
  clear h
  cases k <;> cases l <;> simp [name] at hlist <;> exact hlist

namespace StoryGraph

/-- Every node stands under its id. -/
def Keyed (graph : StoryGraph) : Prop :=
  ∀ id node, graph.nodes.get? id = some node → node.id = id

theorem insert_keyed {graph next : StoryGraph} {node : GraphNode}
    (h : graph.insert node = .ok next) (hkeyed : graph.Keyed) : next.Keyed := by
  simp only [insert, bind_eq_ok, require_eq_ok, exists_const, pure_eq_ok] at h
  obtain ⟨_, -, -, -, _, -, _, -, -, rfl⟩ := h
  intro id found hfound
  by_cases hid : id = node.id
  · subst hid
    simp only [OrderedMap.get?_insert_self, Option.some.injEq] at hfound
    rw [← hfound]
  · rw [OrderedMap.get?_insert_of_ne _ hid] at hfound
    exact hkeyed id found hfound

/-- The ancestors of a node, from the root down. -/
inductive Lineage (graph : StoryGraph) : GraphNode → List GraphNode → Prop
  | root {node} (h : node.parentId = none) : Lineage graph node []
  | child {node parent path} (parentId) (h : node.parentId = some parentId)
      (hparent : graph.nodes.get? parentId = some parent) (hpath : Lineage graph parent path) :
      Lineage graph node (path ++ [parent])

theorem ancestorsLoop_lineage {graph : StoryGraph} {fuel : ℕ} {node : GraphNode}
    {below result : List GraphNode} (h : graph.ancestorsLoop fuel node below = .ok result) :
    ∃ path, graph.Lineage node path ∧ path.length < fuel ∧ result = path ++ below := by
  induction fuel generalizing node below with
  | zero => simp [ancestorsLoop, throw, throwThe, MonadExceptOf.throw] at h
  | succ fuel ih =>
    rw [ancestorsLoop] at h
    split at h
    · rename_i hroot
      exact ⟨[], .root hroot, Nat.succ_pos fuel, (pure_eq_ok.mp h).symm⟩
    · rename_i parentId hparentId
      simp only [bind_eq_ok, fetch_eq_ok] at h
      obtain ⟨parent, hparent, h⟩ := h
      obtain ⟨path, hpath, hfuel, rfl⟩ := ih h
      refine ⟨path ++ [parent], .child parentId hparentId hparent hpath, ?_, by simp⟩
      simpa using hfuel

theorem Lineage.ancestorsLoop {graph : StoryGraph} {fuel : ℕ} {node : GraphNode}
    {path below : List GraphNode} (h : graph.Lineage node path) (hfuel : path.length < fuel) :
    graph.ancestorsLoop fuel node below = .ok (path ++ below) := by
  induction h generalizing fuel below with
  | root hroot =>
    obtain ⟨fuel, rfl⟩ := Nat.exists_eq_succ_of_ne_zero (Nat.ne_zero_of_lt hfuel)
    simp [StoryGraph.ancestorsLoop, hroot, pure, Except.pure]
  | @child node parent path parentId hparentId hparent hpath ih =>
    obtain ⟨fuel, rfl⟩ := Nat.exists_eq_succ_of_ne_zero (Nat.ne_zero_of_lt hfuel)
    have hrest : path.length < fuel := by simpa using hfuel
    simp [StoryGraph.ancestorsLoop, hparentId, hparent, fetch, bind, Except.bind, ih hrest]

theorem ancestors_lineage {graph : StoryGraph} {id : String} {path : List GraphNode}
    (h : graph.ancestors id = .ok path) :
    path.length < graph.nodes.entries.length + 1 ∧
      ∃ node, graph.nodes.get? id = some node ∧ graph.Lineage node path := by
  simp only [ancestors, bind_eq_ok, fetch_eq_ok] at h
  obtain ⟨node, hnode, h⟩ := h
  obtain ⟨lineage, hlineage, hfuel, rfl⟩ := ancestorsLoop_lineage h
  exact ⟨by simpa using hfuel, node, hnode, by simpa using hlineage⟩

theorem Lineage.ancestors {graph : StoryGraph} {node : GraphNode} {path : List GraphNode}
    (h : graph.Lineage node path) (hnode : graph.nodes.get? node.id = some node)
    (hlength : path.length < graph.nodes.entries.length + 1) :
    graph.ancestors node.id = .ok path := by
  simp [StoryGraph.ancestors, hnode, fetch, bind, Except.bind, h.ancestorsLoop hlength]

/-- The lineage of an ancestor is what stands above it. -/
theorem Lineage.above {graph : StoryGraph} {node ancestor : GraphNode}
    {path before after : List GraphNode} (h : graph.Lineage node path)
    (hpath : path = before ++ ancestor :: after) : graph.Lineage ancestor before := by
  induction h generalizing after with
  | root => simp at hpath
  | @child node parent path parentId hparentId hparent hlineage ih =>
    rcases List.eq_nil_or_concat' after with rfl | ⟨init, last, rfl⟩
    · obtain ⟨rfl, hlast⟩ := List.append_inj' hpath rfl
      obtain rfl := List.singleton_inj.mp hlast
      exact hlineage
    · have hsplit : path ++ [parent] = (before ++ ancestor :: init) ++ [last] := by simp [hpath]
      exact ih (List.append_inj' hsplit rfl).1

end StoryGraph

theorem Database.loadStoryGraph_keyed {db : Database Fp} {graph : StoryGraph}
    (h : db.loadStoryGraph = .ok graph) : graph.Keyed := by
  obtain ⟨nodes, -, h⟩ := bind_eq_ok.mp h
  refine forEach_invariant (fun node _ s t hst hs => StoryGraph.insert_keyed hst hs) h ?_
  intro id node hnode
  simp [StoryGraph.empty] at hnode

/-- A canonical target names one node. -/
theorem StoryGraph.canonicalTarget_inj {graph : StoryGraph} (hkeyed : graph.Keyed)
    {a b reference : String} (ha : graph.canonicalTarget a = .ok reference)
    (hb : graph.canonicalTarget b = .ok reference) : a = b := by
  simp only [canonicalTarget, bind_eq_ok, fetch_eq_ok, pure_eq_ok] at ha hb
  obtain ⟨node, hnode, rfl⟩ := ha
  obtain ⟨other, hother, h⟩ := hb
  rw [← hkeyed a node hnode, ← hkeyed b other hother]
  exact (StoryKind.name_inj h).symm

/-! ## The history of a target -/

/-- Versions count from one, and only the last activation is active. -/
structure ActivationHistory (rows : List (PlanActivationRow Fp)) : Prop where
  versions : rows.map (·.activeVersion) = List.range' 1 rows.length
  last : ∀ init row, rows = init ++ [row] → row.status = .active
  before : ∀ init row, rows = init ++ [row] → ∀ old ∈ init, old.status = .superseded

namespace ActivationHistory

theorem nil : ActivationHistory ([] : List (PlanActivationRow Fp)) where
  versions := rfl
  last := by simp
  before := by simp

/-- The next activation supersedes every one before it. -/
theorem append {rows : List (PlanActivationRow Fp)} {row : PlanActivationRow Fp}
    (h : ActivationHistory rows) (hversion : row.activeVersion = rows.length + 1)
    (hactive : row.status = .active) {supersede : PlanActivationRow Fp → PlanActivationRow Fp}
    (hkeeps : ∀ old ∈ rows, (supersede old).activeVersion = old.activeVersion)
    (hstatus : ∀ old ∈ rows, (supersede old).status = .superseded) :
    ActivationHistory (rows.map supersede ++ [row]) where
  versions := by
    have hold : (rows.map supersede).map (·.activeVersion) = rows.map (·.activeVersion) := by
      rw [List.map_map]
      exact List.map_congr_left hkeeps
    rw [List.map_append, hold, h.versions, List.map_singleton, hversion, List.length_append,
      List.length_map, List.length_singleton, List.range'_concat, Nat.one_mul, Nat.add_comm]
  last init last hsplit := by
    obtain ⟨-, hlast⟩ := List.append_inj' hsplit rfl
    obtain rfl := List.singleton_inj.mp hlast
    exact hactive
  before init last hsplit old hold := by
    obtain ⟨rfl, -⟩ := List.append_inj' hsplit rfl
    obtain ⟨row, hrow, rfl⟩ := List.mem_map.mp hold
    exact hstatus row hrow

theorem find_active {rows : List (PlanActivationRow Fp)} (h : ActivationHistory rows) :
    rows.find? (fun row => row.status = .active) = rows.getLast? := by
  rcases List.eq_nil_or_concat' rows with rfl | ⟨init, row, rfl⟩
  · rfl
  · have hnone : init.find? (fun row => decide (row.status = .active)) = none := by
      refine List.find?_eq_none.mpr fun old hold => ?_
      simp [h.before init row rfl old hold]
    simp [hnone, h.last init row rfl]

theorem last_version {rows : List (PlanActivationRow Fp)} (h : ActivationHistory rows) :
    (rows.getLast?.map (·.activeVersion)).getD 0 = rows.length := by
  rcases List.eq_nil_or_concat' rows with rfl | ⟨init, row, rfl⟩
  · rfl
  · have hversions := h.versions
    rw [List.map_append, List.map_singleton, List.length_append, List.length_singleton,
      List.range'_concat] at hversions
    have hlast := List.singleton_inj.mp (List.append_inj' hversions rfl).2
    simp [hlast, Nat.add_comm]

end ActivationHistory

namespace PlanDatabase

theorem activeActivation_eq (db : PlanDatabase Fp) (targetRef : String) :
    db.activeActivation targetRef =
      (db.activationsOf targetRef).find? fun row => row.status = .active := by
  simp [activeActivation, activationsOf, List.find?_filter]

/-- The state of the plan tables between two calls. -/
structure PlanInv (db : PlanDatabase Fp) : Prop where
  ids : (db.plans.map (·.planId)).Nodup
  stored : ∀ row ∈ db.plans, row.planId = row.plan.id ∧ row.targetId = row.plan.target.nodeId ∧
    ∃ graph, db.project.loadStoryGraph = .ok graph ∧
      graph.canonicalTarget row.targetId = .ok row.plan.target.reference
  bound : ∀ activation ∈ db.planActivations, ∃ row ∈ db.plans,
    row.planId = activation.proposalId ∧ row.plan.target.reference = activation.targetRef ∧
      row.plan.fingerprint = activation.proposalFingerprint
  history : ∀ targetRef, ActivationHistory (db.activationsOf targetRef)
  active : ∀ row ∈ db.plans, row.status = .active ↔
    ∃ activation, db.activeActivation row.plan.target.reference = some activation ∧
      activation.proposalId = row.planId

theorem unplanned_inv (project : Database Fp) : (unplanned project).PlanInv where
  ids := List.nodup_nil
  stored := by simp [unplanned]
  bound := by simp [unplanned]
  history _ := ActivationHistory.nil
  active := by simp [unplanned]

variable {db : PlanDatabase Fp}

theorem PlanInv.activeActivation_eq_last (h : db.PlanInv) (targetRef : String) :
    db.activeActivation targetRef = (db.activationsOf targetRef).getLast? := by
  rw [activeActivation_eq, (h.history targetRef).find_active]

theorem PlanInv.currentVersion_eq (h : db.PlanInv) (targetRef : String) :
    db.currentVersion targetRef = (db.activationsOf targetRef).length := by
  rw [currentVersion, h.activeActivation_eq_last, (h.history targetRef).last_version]

/-- Two plans of one node have one target. -/
theorem PlanInv.target_iff (h : db.PlanInv) {row other : PlanRow Fp} (hrow : row ∈ db.plans)
    (hother : other ∈ db.plans) :
    row.targetId = other.targetId ↔
      row.plan.target.reference = other.plan.target.reference := by
  obtain ⟨-, -, graph, hgraph, htarget⟩ := h.stored row hrow
  obtain ⟨-, -, again, hagain, htarget'⟩ := h.stored other hother
  obtain rfl : graph = again := by simpa [hgraph] using hagain
  constructor
  · intro hid
    rw [hid, htarget'] at htarget
    exact (Except.ok.inj htarget).symm
  · intro href
    rw [href] at htarget
    exact StoryGraph.canonicalTarget_inj (Database.loadStoryGraph_keyed hgraph) htarget htarget'

/-! ## What an activation does -/

section Supersede

variable {proposal : PlanProposal Fp} {authorization : AuthorActivation Fp} {version : ℕ}

/-- The row that an activation appends. -/
def activationRow (proposal : PlanProposal Fp) (authorization : AuthorActivation Fp)
    (activeVersion : ℕ) : PlanActivationRow Fp where
  activationId := authorization.decisionId
  proposalId := proposal.id
  targetRef := proposal.target.reference
  activeVersion
  proposalFingerprint := proposal.fingerprint
  authorizationFingerprint := authorization.fingerprint
  authorization
  status := .active
  createdAt := authorization.decidedAt

theorem activationsOf_supersede (targetRef : String) :
    (db.supersede proposal authorization version).activationsOf targetRef =
      Table.updateWhere (fun row =>
          row.targetRef = proposal.target.reference ∧ row.status = .active)
        (fun row => { row with status := .superseded }) (db.activationsOf targetRef) ++
      [activationRow proposal authorization version].filter
        fun row => row.targetRef = targetRef := by
  simp only [activationsOf, supersede, List.filter_append]
  exact congrArg (· ++ _) (Table.filter_updateWhere db.planActivations fun _ => rfl)

theorem activationsOf_supersede_of_ne {targetRef : String}
    (hne : targetRef ≠ proposal.target.reference) :
    (db.supersede proposal authorization version).activationsOf targetRef =
      db.activationsOf targetRef := by
  have hnew : [activationRow proposal authorization version].filter
      (fun row => row.targetRef = targetRef) = [] := by
    simp [activationRow, hne.symm]
  rw [activationsOf_supersede, hnew, List.append_nil, Table.updateWhere]
  refine (List.map_congr_left fun row hrow => ?_).trans (List.map_id _)
  have htarget : row.targetRef = targetRef := by simpa using (List.mem_filter.mp hrow).2
  simp [htarget, hne]

theorem activationsOf_supersede_self :
    (db.supersede proposal authorization version).activationsOf proposal.target.reference =
      (db.activationsOf proposal.target.reference).map
        (fun row => if row.status = .active then { row with status := .superseded } else row) ++
        [activationRow proposal authorization version] := by
  rw [activationsOf_supersede, Table.updateWhere]
  refine congrArg₂ (· ++ ·) (List.map_congr_left fun row hrow => ?_) (by simp [activationRow])
  have htarget : row.targetRef = proposal.target.reference := by
    simpa using (List.mem_filter.mp hrow).2
  simp [htarget]

theorem PlanInv.history_supersede (h : db.PlanInv)
    (hversion : version = db.currentVersion proposal.target.reference + 1) (targetRef : String) :
    ActivationHistory ((db.supersede proposal authorization version).activationsOf targetRef) := by
  by_cases href : targetRef = proposal.target.reference
  · subst href
    rw [activationsOf_supersede_self]
    refine (h.history _).append ?_ rfl (fun old _ => ?_) fun old _ => ?_
    · rw [hversion, h.currentVersion_eq]
      rfl
    · split_ifs <;> rfl
    · split_ifs with hactive
      · rfl
      · cases hstatus : old.status with
        | active => exact absurd hstatus hactive
        | superseded => rfl
  · rw [activationsOf_supersede_of_ne href]
    exact h.history targetRef

theorem PlanInv.activeActivation_supersede (h : db.PlanInv)
    (hversion : version = db.currentVersion proposal.target.reference + 1) (targetRef : String) :
    (db.supersede proposal authorization version).activeActivation targetRef =
      if targetRef = proposal.target.reference then
        some (activationRow proposal authorization version)
      else db.activeActivation targetRef := by
  rw [activeActivation_eq, (h.history_supersede hversion targetRef).find_active]
  split_ifs with href
  · subst href
    rw [activationsOf_supersede_self]
    simp
  · rw [activationsOf_supersede_of_ne href, h.activeActivation_eq_last]

/-- What becomes of a plan: the activated one is active, the others of its node are not. -/
theorem mem_plans_supersede {row : PlanRow Fp} :
    row ∈ (db.supersede proposal authorization version).plans ↔ ∃ old ∈ db.plans, row =
      if old.planId = proposal.id then
        { old with status := .active, updatedAt := authorization.decidedAt }
      else if old.targetId = proposal.target.nodeId ∧ old.status = .active then
        { old with status := .superseded, updatedAt := authorization.decidedAt }
      else old := by
  simp only [supersede, Table.mem_updateWhere]
  constructor
  · rintro ⟨mid, ⟨old, hold, rfl⟩, rfl⟩
    refine ⟨old, hold, ?_⟩
    by_cases hid : old.planId = proposal.id <;>
      by_cases hnode : old.targetId = proposal.target.nodeId ∧ old.status = .active <;>
      simp [hid, hnode]
  · rintro ⟨old, hold, rfl⟩
    refine ⟨_, ⟨old, hold, rfl⟩, ?_⟩
    by_cases hid : old.planId = proposal.id <;>
      by_cases hnode : old.targetId = proposal.target.nodeId ∧ old.status = .active <;>
      simp [hid, hnode]

/-- A row keeps its plan under any change of status. -/
theorem exists_of_mem_plans_supersede {row : PlanRow Fp}
    (h : row ∈ (db.supersede proposal authorization version).plans) : ∃ old ∈ db.plans,
      row.planId = old.planId ∧ row.targetId = old.targetId ∧ row.plan = old.plan := by
  obtain ⟨old, hold, rfl⟩ := mem_plans_supersede.mp h
  refine ⟨old, hold, ?_⟩
  split_ifs <;> exact ⟨rfl, rfl, rfl⟩

theorem PlanInv.supersede (h : db.PlanInv) {planned : PlanRow Fp} (hplanned : planned ∈ db.plans)
    (hproposal : planned.plan = proposal)
    (hversion : version = db.currentVersion proposal.target.reference + 1) :
    (db.supersede proposal authorization version).PlanInv := by
  have hid : planned.planId = proposal.id := hproposal ▸ (h.stored planned hplanned).1
  have hnode : planned.targetId = proposal.target.nodeId :=
    hproposal ▸ (h.stored planned hplanned).2.1
  refine ⟨?_, ?_, ?_, h.history_supersede hversion, ?_⟩
  · simpa [PlanDatabase.supersede, Table.map_updateWhere] using h.ids
  · intro row hrow
    obtain ⟨old, hold, hrowId, hrowNode, hrowPlan⟩ := exists_of_mem_plans_supersede hrow
    rw [hrowId, hrowNode, hrowPlan]
    exact h.stored old hold
  · -- the new activation is of the planned row, the others keep theirs
    have hkeeps : ∀ row ∈ db.plans, ∃ next ∈ (db.supersede proposal authorization version).plans,
        next.planId = row.planId ∧ next.plan = row.plan := by
      intro row hrow
      refine ⟨_, mem_plans_supersede.mpr ⟨row, hrow, rfl⟩, ?_⟩
      split_ifs <;> exact ⟨rfl, rfl⟩
    intro activation hactivation
    rcases List.mem_append.mp hactivation with hkept | hnew
    · obtain ⟨old, hold, rfl⟩ := Table.mem_updateWhere.mp hkept
      obtain ⟨row, hrow, hrowId, hrowRef, hrowFp⟩ := h.bound old hold
      obtain ⟨next, hnext, hnextId, hnextPlan⟩ := hkeeps row hrow
      refine ⟨next, hnext, ?_⟩
      rw [hnextId, hnextPlan]
      split_ifs <;> exact ⟨hrowId, hrowRef, hrowFp⟩
    · obtain rfl := List.mem_singleton.mp hnew
      obtain ⟨next, hnext, hnextId, hnextPlan⟩ := hkeeps planned hplanned
      refine ⟨next, hnext, ?_⟩
      rw [hnextId, hnextPlan, hproposal]
      exact ⟨hid, rfl, rfl⟩
  · intro row hrow
    obtain ⟨old, hold, rfl⟩ := mem_plans_supersede.mp hrow
    have hsame : old.targetId = proposal.target.nodeId ↔
        old.plan.target.reference = proposal.target.reference := by
      rw [← hnode, ← hproposal]
      exact h.target_iff hold hplanned
    have hactive := h.active old hold
    split_ifs with holdId hsuperseded
    · obtain rfl := Table.eq_of_key_eq h.ids hold hplanned (holdId.trans hid.symm)
      simp only [h.activeActivation_supersede hversion, hproposal, if_true, Option.some.injEq,
        exists_eq_left', activationRow, hid]
    · simp only [h.activeActivation_supersede hversion, hsame.mp hsuperseded.1, if_true,
        Option.some.injEq, exists_eq_left', activationRow, false_iff]
      exact fun hids => holdId hids.symm
    · rw [h.activeActivation_supersede hversion]
      split_ifs with href
      · have hinactive : old.status ≠ .active := fun hstatus =>
          hsuperseded ⟨hsame.mpr href, hstatus⟩
        simp only [hinactive, Option.some.injEq, exists_eq_left', activationRow, false_iff]
        exact fun hids => holdId hids.symm
      · exact hactive

end Supersede

/-- The invariant reads the project, the plans and the activations. -/
theorem PlanInv.of_tables (h : db.PlanInv) {next : PlanDatabase Fp}
    (hproject : next.project = db.project) (hplans : next.plans = db.plans)
    (hactivations : next.planActivations = db.planActivations) : next.PlanInv := by
  obtain ⟨project, plans, versions, activations, views, proposals, approvals, heads⟩ := next
  obtain rfl : project = db.project := hproject
  obtain rfl : plans = db.plans := hplans
  obtain rfl : activations = db.planActivations := hactivations
  exact ⟨h.ids, h.stored, h.bound, h.history, h.active⟩

theorem insertPlan_eq_ok {proposal : PlanProposal Fp} {createdAt : String}
    {next : PlanDatabase Fp} (h : db.insertPlan proposal createdAt = .ok next) :
    ∃ row : PlanRow Fp, (∀ old ∈ db.plans, old.planId ≠ row.planId) ∧ row.planId = proposal.id ∧
      row.targetId = proposal.target.nodeId ∧ row.status = .proposal ∧ row.plan = proposal ∧
      next = { db with plans := db.plans ++ [row], planVersions := next.planVersions } := by
  simp only [insertPlan, bind_eq_ok, require_eq_ok, exists_const, pure_eq_ok] at h
  obtain ⟨hfresh, -, rfl⟩ := h
  exact ⟨_, fun old hold hid => hfresh (List.mem_map.mpr ⟨old, hold, hid⟩), rfl, rfl, rfl, rfl,
    rfl⟩

/-- A saved proposal is not active. -/
theorem PlanInv.append (h : db.PlanInv) {row : PlanRow Fp} {versions : List (PlanVersionRow Fp)}
    (hfresh : ∀ old ∈ db.plans, old.planId ≠ row.planId) (hid : row.planId = row.plan.id)
    (hnode : row.targetId = row.plan.target.nodeId) (hstatus : row.status = .proposal)
    {graph : StoryGraph} (hgraph : db.project.loadStoryGraph = .ok graph)
    (htarget : graph.canonicalTarget row.targetId = .ok row.plan.target.reference) :
    ({ db with plans := db.plans ++ [row], planVersions := versions } :
      PlanDatabase Fp).PlanInv where
  ids := Table.nodup_append_singleton h.ids hfresh
  stored other hother := by
    rcases List.mem_append.mp hother with hold | hnew
    · exact h.stored other hold
    · obtain rfl := List.mem_singleton.mp hnew
      exact ⟨hid, hnode, graph, hgraph, htarget⟩
  bound activation hactivation := by
    obtain ⟨old, hold, hbound⟩ := h.bound activation hactivation
    exact ⟨old, List.mem_append_left _ hold, hbound⟩
  history := h.history
  active other hother := by
    rcases List.mem_append.mp hother with hold | hnew
    · exact h.active other hold
    · obtain rfl := List.mem_singleton.mp hnew
      simp only [hstatus, reduceCtorEq, false_iff, not_exists, not_and]
      intro activation hactivation hproposal
      obtain ⟨old, hold, holdId, -⟩ := h.bound activation (List.mem_of_find?_eq_some hactivation)
      exact hfresh old hold (holdId.trans hproposal)

end PlanDatabase

/-! ## Calls -/

/-- One call with its arguments. A proposal is created from its input under a generated id. -/
inductive PlanCall (Fp : Type) where
  | save (input : PlanProposalInput Fp) (id createdAt : String)
  | activate (authorization : AuthorActivation Fp)
  | saveAndActivate (input : PlanProposalInput Fp) (id : String)
      (authorization : AuthorActivation Fp) (view : EditorView Fp)

section Calls

variable [Sha256 Fp] [DecidableEq Fp]

def PlanCall.exec (call : PlanCall Fp) (db : PlanDatabase Fp) : CoreResult (PlanDatabase Fp) :=
  match call with
  | save input id createdAt => do
    let graph ← db.project.loadStoryGraph
    let proposal ← PlanProposal.create graph input id
    Prod.snd <$> savePlanProposal proposal createdAt db
  | activate authorization => Prod.snd <$> activatePlan authorization db
  | saveAndActivate input id authorization view => do
    let graph ← db.project.loadStoryGraph
    let proposal ← PlanProposal.create graph input id
    Prod.snd <$> saveAndActivateEditorPlan proposal authorization view db

/-- The database after a call; a failed one is rolled back. -/
def PlanCall.apply (db : PlanDatabase Fp) (call : PlanCall Fp) : PlanDatabase Fp :=
  match call.exec db with
  | .ok next => next
  | .error _ => db

omit [DecidableEq Fp] in
theorem PlanProposal.create_eq_ok {graph : StoryGraph} {input : PlanProposalInput Fp}
    {id : String} {proposal : PlanProposal Fp} (h : create graph input id = .ok proposal) :
    proposal.id = id ∧ proposal.fingerprint = proposal.computeFingerprint ∧
      graph.canonicalTarget proposal.target.nodeId = .ok proposal.target.reference := by
  simp only [create, PlanTarget.resolve, bind_eq_ok, require_eq_ok, exists_const, fetch_eq_ok,
    pure_eq_ok] at h
  obtain ⟨_, ⟨_, -, -, reference, hreference, rfl⟩, -, _, -, -, rfl⟩ := h
  exact ⟨rfl, rfl, hreference⟩

/-- An activation is a replay, or supersedes the target's plan by the next version. -/
theorem activatePlan_eq_ok {authorization : AuthorActivation Fp} {version : ℕ}
    {db next : PlanDatabase Fp} (h : activatePlan authorization db = .ok (version, next)) :
    next = db ∨ ∃ row ∈ db.plans, row.planId = authorization.proposalId ∧
      next = db.supersede row.plan authorization
        (db.currentVersion row.plan.target.reference + 1) := by
  simp only [activatePlan, bind_eq_ok, require_eq_ok, exists_const, fetch_eq_ok] at h
  obtain ⟨_, -, row, hrow, _, -, _, -, -, h⟩ := h
  split at h
  · simp only [pure_eq_ok, Prod.mk.injEq] at h
    exact .inl h.2.symm
  · simp only [PlanDatabase.insertActivation, bind_eq_ok, require_eq_ok, exists_const, pure_eq_ok,
      Prod.mk.injEq] at h
    obtain ⟨-, _, ⟨_, -, -, -, -, rfl⟩, -, rfl⟩ := h
    exact .inr ⟨row, Table.lookup_mem hrow, Table.lookup_key hrow, rfl⟩

/-- An editor plan is a replay, or is saved and supersedes the target's plan. -/
theorem saveAndActivateEditorPlan_eq_ok {proposal : PlanProposal Fp}
    {authorization : AuthorActivation Fp} {view : EditorView Fp} {version : ℕ}
    {db next : PlanDatabase Fp}
    (h : saveAndActivateEditorPlan proposal authorization view db = .ok (version, next)) :
    next = db ∨ ∃ saved viewed : PlanDatabase Fp, db.insertPlan proposal authorization.decidedAt = .ok saved ∧
      viewed = { saved with planEditorViews := viewed.planEditorViews } ∧
      next = viewed.supersede proposal authorization
        (db.currentVersion proposal.target.reference + 1) := by
  simp only [saveAndActivateEditorPlan, bind_eq_ok, require_eq_ok, exists_const] at h
  obtain ⟨_, -, _, -, -, _, -, h⟩ := h
  split at h
  · simp only [bind_eq_ok, require_eq_ok, exists_const, pure_eq_ok, Prod.mk.injEq] at h
    exact .inl h.2.2.symm
  · simp only [PlanDatabase.insertActivation, PlanDatabase.insertEditorView, bind_eq_ok,
      require_eq_ok, exists_const, pure_eq_ok, Prod.mk.injEq] at h
    obtain ⟨-, saved, hsaved, viewed, ⟨-, rfl⟩, _, ⟨_, -, -, -, -, rfl⟩, -, rfl⟩ := h
    exact .inr ⟨saved, _, hsaved, rfl, rfl⟩

omit [Sha256 Fp] [DecidableEq Fp] in
theorem PlanDatabase.PlanInv.insertPlan {db next : PlanDatabase Fp} (h : db.PlanInv)
    {proposal : PlanProposal Fp} {graph : StoryGraph} {createdAt : String}
    (hgraph : db.project.loadStoryGraph = .ok graph)
    (htarget : graph.canonicalTarget proposal.target.nodeId = .ok proposal.target.reference)
    (hsaved : db.insertPlan proposal createdAt = .ok next) :
    next.PlanInv ∧ next.planActivations = db.planActivations ∧
      ∃ row ∈ next.plans, row.plan = proposal := by
  obtain ⟨row, hfresh, hid, hnode, hstatus, hplan, hnext⟩ := insertPlan_eq_ok hsaved
  rw [hnext]
  refine ⟨h.append hfresh ?_ ?_ hstatus hgraph ?_, rfl, row, ?_, hplan⟩
  · rw [hid, hplan]
  · rw [hnode, hplan]
  · rw [hnode, hplan, htarget]
  · exact List.mem_append_right _ List.mem_cons_self

/-- Every call keeps the invariant. -/
theorem PlanCall.inv_of_exec {call : PlanCall Fp} {db next : PlanDatabase Fp}
    (h : call.exec db = .ok next) (hinv : db.PlanInv) : next.PlanInv := by
  cases call with
  | save input id createdAt =>
    simp only [exec, bind_eq_ok] at h
    obtain ⟨graph, hgraph, proposal, hproposal, h⟩ := h
    obtain ⟨-, -, htarget⟩ := PlanProposal.create_eq_ok hproposal
    obtain ⟨_, h⟩ := snd_map_eq_ok h
    simp only [savePlanProposal, bind_eq_ok, pure_eq_ok, Prod.mk.injEq] at h
    obtain ⟨_, -, _, -, saved, hsaved, -, rfl⟩ := h
    exact (hinv.insertPlan hgraph htarget hsaved).1
  | activate authorization =>
    obtain ⟨version, h⟩ := snd_map_eq_ok h
    obtain rfl | ⟨row, hrow, -, rfl⟩ := activatePlan_eq_ok h
    · exact hinv
    · exact hinv.supersede hrow rfl rfl
  | saveAndActivate input id authorization view =>
    simp only [exec, bind_eq_ok] at h
    obtain ⟨graph, hgraph, proposal, hproposal, h⟩ := h
    obtain ⟨-, -, htarget⟩ := PlanProposal.create_eq_ok hproposal
    obtain ⟨version, h⟩ := snd_map_eq_ok h
    obtain rfl | ⟨saved, viewed, hsaved, hviewed, rfl⟩ := saveAndActivateEditorPlan_eq_ok h
    · exact hinv
    · obtain ⟨hsavedInv, hactivations, row, hrow, hplan⟩ :=
        hinv.insertPlan hgraph htarget hsaved
      have hviewedInv : viewed.PlanInv := by
        rw [hviewed]
        exact hsavedInv.of_tables rfl rfl rfl
      have hversion : db.currentVersion proposal.target.reference + 1 =
          viewed.currentVersion proposal.target.reference + 1 := by
        rw [hviewed]
        simp only [PlanDatabase.currentVersion, PlanDatabase.activeActivation, hactivations]
      have hmem : row ∈ viewed.plans := by
        rw [hviewed]
        exact hrow
      exact hviewedInv.supersede hmem hplan hversion

theorem PlanCall.inv_apply {call : PlanCall Fp} {db : PlanDatabase Fp} (hinv : db.PlanInv) :
    (PlanCall.apply db call).PlanInv := by
  rw [apply]
  split
  · rename_i next h
    exact inv_of_exec h hinv
  · exact hinv

/-- A project after a sequence of calls. -/
def PlanCall.run (project : Database Fp) (calls : List (PlanCall Fp)) : PlanDatabase Fp :=
  calls.foldl PlanCall.apply (.unplanned project)

theorem PlanCall.inv_run (project : Database Fp) (calls : List (PlanCall Fp)) :
    (PlanCall.run project calls).PlanInv := by
  induction calls using List.reverseRecOn with
  | nil => exact PlanDatabase.unplanned_inv project
  | append_singleton calls call ih =>
    rw [run, List.foldl_append]
    exact inv_apply ih

/-! ## The chain of a chapter -/

/-- The canonical target of a node of the graph. -/
def GraphNode.reference (node : GraphNode) : String := node.kind.name ++ ":" ++ node.id

omit [Sha256 Fp] [DecidableEq Fp] in
theorem StoryGraph.Lineage.lookup {graph : StoryGraph} (hkeyed : graph.Keyed)
    {node ancestor : GraphNode} {path : List GraphNode} (h : graph.Lineage node path)
    (hmem : ancestor ∈ path) : graph.nodes.get? ancestor.id = some ancestor := by
  induction h with
  | root => cases hmem
  | child parentId hparentId hparent hpath ih =>
    rcases List.mem_append.mp hmem with hmem | hmem
    · exact ih hmem
    · obtain rfl := List.mem_singleton.mp hmem
      rwa [hkeyed parentId _ hparent]

omit [Sha256 Fp] [DecidableEq Fp] in
theorem exists_of_forall₂ {α β : Type} {R : α → β → Prop} {xs : List α} {ys : List β}
    (h : List.Forall₂ R xs ys) {a : α} (ha : a ∈ xs) : ∃ b ∈ ys, R a b := by
  induction h with
  | nil => cases ha
  | @cons x y xs ys hxy _ ih =>
    rcases List.mem_cons.mp ha with rfl | ha
    · exact ⟨y, List.mem_cons_self, hxy⟩
    · obtain ⟨b, hb, hab⟩ := ih ha
      exact ⟨b, List.mem_cons_of_mem _ hb, hab⟩

namespace PlanDatabase

variable {db : PlanDatabase Fp} {graph : StoryGraph}

/-- The layer freezes the active plan of the node. -/
def Freezes (db : PlanDatabase Fp) (node : GraphNode) (layer : FrozenPlanLayer Fp) : Prop :=
  layer.target.nodeId = node.id ∧ layer.target.reference = node.reference ∧
    db.activeFingerprint node.reference = some layer.proposalFingerprint

/-- The plan of a layer is active and depends on the plans of the layers above. -/
def Binds (db : PlanDatabase Fp) (above : List (FrozenPlanLayer Fp)) (layer : FrozenPlanLayer Fp) :
    Prop :=
  ∃ row ∈ db.plans, row.planId = layer.proposalId ∧ row.status = .active ∧
    ∀ ancestor ∈ above, row.plan.dependencyFingerprints.get? ancestor.target.reference =
      some ancestor.proposalFingerprint

theorem chainLayer_eq_ok (hinv : db.PlanInv) (hgraph : db.project.loadStoryGraph = .ok graph)
    {layers next : List (FrozenPlanLayer Fp)} {node : GraphNode}
    (hnode : graph.nodes.get? node.id = some node)
    (h : db.chainLayer graph layers node = .ok next) :
    ∃ layer, next = layers ++ [layer] ∧ db.Freezes node layer ∧ db.Binds layers layer := by
  simp only [chainLayer, FrozenPlanLayer.fromActive, StoryGraph.canonicalTarget, bind_eq_ok,
    require_eq_ok, exists_const, fetch_eq_ok, pure_eq_ok, hnode, Option.some.injEq,
    exists_eq_left'] at h
  obtain ⟨⟨row, activation⟩, hactive, _, -, ⟨href, hfp⟩, hdeps, layer,
    ⟨_, -, _, -, rfl⟩, rfl⟩ := h
  simp only [activePlan, Option.bind_eq_bind, Option.bind_eq_some_iff, Option.filter_eq_some_iff,
    Option.pure_def, Option.some.injEq, Prod.mk.injEq, decide_eq_true_eq] at hactive
  obtain ⟨found, hfound, found', ⟨hrow, hstatus⟩, rfl, rfl⟩ := hactive
  dsimp only at href hfp hdeps
  have hmem := Table.lookup_mem hrow
  obtain ⟨hid, hnodeId, again, hagain, htarget⟩ := hinv.stored _ hmem
  obtain rfl : graph = again := by simpa [hgraph] using hagain
  have hsame : graph.canonicalTarget node.id = .ok found'.plan.target.reference := by
    simp [StoryGraph.canonicalTarget, hnode, href, fetch, bind, Except.bind, pure, Except.pure]
  have hplaced := StoryGraph.canonicalTarget_inj (Database.loadStoryGraph_keyed hgraph) htarget
    hsame
  refine ⟨_, rfl, ⟨hnodeId ▸ hplaced, href, ?_⟩, found', hmem, hid, hstatus, hdeps⟩
  simp only [activeFingerprint, GraphNode.reference, hfound, Option.map_some, hfp]

/-- Every layer of the chain freezes its node and binds the layers above it. -/
theorem chainLayer_loop (hinv : db.PlanInv) (hgraph : db.project.loadStoryGraph = .ok graph)
    {nodes : List GraphNode} (hnodes : ∀ node ∈ nodes, graph.nodes.get? node.id = some node)
    {layers : List (FrozenPlanLayer Fp)}
    (h : forEach (db.chainLayer graph) nodes [] = .ok layers) :
    List.Forall₂ db.Freezes nodes layers ∧
      ∀ before layer after, layers = before ++ layer :: after → db.Binds before layer := by
  have hloop := forEach_remaining (P := fun rest layers => ∃ done, nodes = done ++ rest ∧
      List.Forall₂ db.Freezes done layers ∧
      ∀ before layer after, layers = before ++ layer :: after → db.Binds before layer) ?_ h
    ⟨[], rfl, .nil, by simp⟩
  · obtain ⟨done, hdone, hfreezes, hbinds⟩ := hloop
    rw [List.append_nil] at hdone
    exact ⟨hdone ▸ hfreezes, hbinds⟩
  · rintro node rest acc next ⟨done, hdone, hfreezes, hbinds⟩ hstep
    have hmem : node ∈ nodes := by simp [hdone]
    obtain ⟨layer, rfl, hlayer, hbound⟩ := chainLayer_eq_ok hinv hgraph (hnodes node hmem) hstep
    refine ⟨done ++ [node], by simp [hdone], ?_, fun before other after hsplit => ?_⟩
    · exact List.rel_append hfreezes (.cons hlayer .nil)
    · rcases List.eq_nil_or_concat' after with rfl | ⟨init, last, rfl⟩
      · obtain ⟨rfl, hlast⟩ := List.append_inj' hsplit rfl
        obtain rfl := List.singleton_inj.mp hlast
        exact hbound
      · have hinner : acc ++ [layer] = (before ++ other :: init) ++ [last] := by simp [hsplit]
        exact hbinds before other init (List.append_inj' hinner rfl).1

/-- The plan of a layer is active, and its dependencies name the active plans of the nodes. -/
def BindsAncestors (db : PlanDatabase Fp) (layer : FrozenPlanLayer Fp)
    (ancestors : List GraphNode) : Prop :=
  ∃ row ∈ db.plans, row.planId = layer.proposalId ∧ row.status = .active ∧
    ∀ ancestor ∈ ancestors, ∃ fingerprint,
      db.activeFingerprint ancestor.reference = some fingerprint ∧
      row.plan.dependencyFingerprints.get? ancestor.reference = some fingerprint

omit [Sha256 Fp] [DecidableEq Fp] in
theorem Binds.ancestors {above : List (FrozenPlanLayer Fp)} {layer : FrozenPlanLayer Fp}
    {nodes : List GraphNode} (h : db.Binds above layer)
    (hfreezes : List.Forall₂ db.Freezes nodes above) : db.BindsAncestors layer nodes := by
  obtain ⟨row, hrow, hid, hstatus, hdeps⟩ := h
  refine ⟨row, hrow, hid, hstatus, fun ancestor hancestor => ?_⟩
  obtain ⟨layer, hlayer, -, href, hactive⟩ := exists_of_forall₂ hfreezes hancestor
  exact ⟨layer.proposalFingerprint, hactive, href ▸ hdeps layer hlayer⟩

/-- Every level of the chain of a chapter binds all its ancestors. -/
theorem activePlanChainForChapter_binds (hinv : db.PlanInv) {chapterId : String}
    {lock : HierarchicalPlanLock Fp} (h : db.activePlanChainForChapter chapterId = .ok lock) :
    ∃ graph, db.project.loadStoryGraph = .ok graph ∧ ∀ layer ∈ lock.layers, ∃ ancestors,
      graph.ancestors layer.target.nodeId = .ok ancestors ∧
        db.BindsAncestors layer ancestors := by
  simp only [activePlanChainForChapter, HierarchicalPlanLock.freeze, bind_eq_ok, require_eq_ok,
    exists_const, fetch_eq_ok, pure_eq_ok] at h
  obtain ⟨graph, hgraph, chapter, hchapter, -, above, habove, -, layers, hlayers, _, -, rfl⟩ := h
  have hkeyed := Database.loadStoryGraph_keyed hgraph
  obtain ⟨hlength, node, hnode, hlineage⟩ := StoryGraph.ancestors_lineage habove
  obtain rfl : node = chapter := Option.some.inj (hnode.symm.trans hchapter)
  have hself : graph.nodes.get? node.id = some node := by rwa [hkeyed chapterId node hnode]
  have hnodes : ∀ other ∈ above ++ [node], graph.nodes.get? other.id = some other := by
    intro other hother
    rcases List.mem_append.mp hother with hother | hother
    · exact hlineage.lookup hkeyed hother
    · exact List.mem_singleton.mp hother ▸ hself
  obtain ⟨hfreezes, hbinds⟩ := chainLayer_loop hinv hgraph hnodes hlayers
  refine ⟨graph, hgraph, fun layer hlayer => ?_⟩
  -- the layers and the nodes are split at the same place
  obtain ⟨before, after, hsplit⟩ := List.append_of_mem hlayer
  dsimp only at hsplit
  rw [hsplit] at hfreezes
  have hupper := List.forall₂_take_append _ _ _ hfreezes
  obtain ⟨own, lower, hown, -, hdrop⟩ :=
    List.forall₂_cons_right_iff.mp (List.forall₂_drop_append _ _ _ hfreezes)
  have hpath : above ++ [node] =
      (above ++ [node]).take before.length ++ own :: lower := by
    rw [← hdrop, List.take_append_drop]
  generalize (above ++ [node]).take before.length = upper at hupper hpath
  have hownLineage : graph.Lineage own upper := by
    rcases List.eq_nil_or_concat' lower with rfl | ⟨init, last, rfl⟩
    · obtain ⟨rfl, hlast⟩ := List.append_inj' hpath rfl
      obtain rfl := List.singleton_inj.mp hlast
      exact hlineage
    · have hinner : above ++ [node] = (upper ++ own :: init) ++ [last] := by simp [hpath]
      exact hlineage.above (List.append_inj' hinner rfl).1
  have hownMem : own ∈ above ++ [node] := by simp [hpath]
  have hupperLength : upper.length < graph.nodes.entries.length + 1 := by
    have hlen := congrArg List.length hpath
    simp only [List.length_append, List.length_cons, List.length_nil] at hlen
    omega
  refine ⟨upper, ?_, (hbinds before layer after hsplit).ancestors hupper⟩
  rw [hown.1]
  exact hownLineage.ancestors (hnodes own hownMem) hupperLength

end PlanDatabase

/-- Over any sequence of calls, the activations of a target are numbered from one in their order,
the last one is its active plan and the only one, a failed call changes nothing, and a chain is
only answered when every level depends on the active plans of all its ancestors. -/
theorem planActivations_numbered (project : Database Fp) (calls : List (PlanCall Fp)) :
    let db := PlanCall.run project calls
    (∀ targetRef, (db.activationsOf targetRef).map (·.activeVersion) =
      List.range' 1 (db.activationsOf targetRef).length) ∧
    (∀ targetRef, db.activeActivation targetRef = (db.activationsOf targetRef).getLast?) ∧
    (∀ targetRef activation, db.activeActivation targetRef = some activation →
      ∃ row ∈ db.plans, row.planId = activation.proposalId ∧ row.status = .active ∧
        row.plan.target.reference = targetRef) ∧
    (∀ row ∈ db.plans, ∀ other ∈ db.plans, row.status = .active → other.status = .active →
      row.targetId = other.targetId → row = other) ∧
    (∀ call error, PlanCall.exec call db = .error error → PlanCall.apply db call = db) ∧
    ∀ chapterId lock, db.activePlanChainForChapter chapterId = .ok lock →
      ∃ graph, db.project.loadStoryGraph = .ok graph ∧ ∀ layer ∈ lock.layers, ∃ ancestors,
        graph.ancestors layer.target.nodeId = .ok ancestors ∧
          db.BindsAncestors layer ancestors := by
  intro db
  have hinv : db.PlanInv := PlanCall.inv_run project calls
  refine ⟨fun targetRef => (hinv.history targetRef).versions, hinv.activeActivation_eq_last,
    ?_, ?_, ?_, fun chapterId lock h => PlanDatabase.activePlanChainForChapter_binds hinv h⟩
  · intro targetRef activation hactivation
    obtain ⟨row, hrow, hid, href, -⟩ := hinv.bound activation (List.mem_of_find?_eq_some hactivation)
    have htarget : activation.targetRef = targetRef := by
      have hfound := List.find?_some hactivation
      simp only [Bool.decide_and, Bool.and_eq_true, decide_eq_true_eq] at hfound
      exact hfound.1
    have hactive : row.status = .active :=
      (hinv.active row hrow).mpr ⟨activation, by rw [href, htarget, hactivation], hid.symm⟩
    exact ⟨row, hrow, hid, hactive, href.trans htarget⟩
  · intro row hrow other hother hactive hotherActive hnode
    obtain ⟨activation, hactivation, hid⟩ := (hinv.active row hrow).mp hactive
    obtain ⟨again, hagain, hotherId⟩ := (hinv.active other hother).mp hotherActive
    rw [(hinv.target_iff hrow hother).mp hnode, hagain, Option.some.injEq] at hactivation
    refine Table.eq_of_key_eq hinv.ids hrow hother ?_
    rw [← hid, ← hotherId, hactivation]
  · intro call error herror
    rw [PlanCall.apply, herror]

end Calls

end Quillframe
