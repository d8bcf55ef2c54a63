import Quillframe.BookSetup

/-!
# Runs of setup calls

Proposals, approvals and plan activations in any order. Each transaction of an approval is a
call of its own, so a crash between the two is a run that stops after the first.
-/
namespace Quillframe

variable {Fp : Type}

/-! ## Titles and topology -/

section Topology

variable {f : StoryNode → StoryNode}

/-- The topology does not read titles. -/
structure KeepsPlace (f : StoryNode → StoryNode) : Prop where
  nodeId : ∀ node, (f node).nodeId = node.nodeId
  parentId : ∀ node, (f node).parentId = node.parentId
  kind : ∀ node, (f node).kind = node.kind
  ordinal : ∀ node, (f node).ordinal = node.ordinal

theorem KeepsPlace.lookup (h : KeepsPlace f) (nodeId : String) (nodes : List StoryNode) :
    Table.lookup StoryNode.nodeId nodeId (nodes.map f) =
      (Table.lookup StoryNode.nodeId nodeId nodes).map f := by
  have hkey : ((fun node : StoryNode => decide (node.nodeId = nodeId)) ∘ f) =
      fun node => decide (node.nodeId = nodeId) := by
    funext node
    simp [h.nodeId]
  rw [Table.lookup, List.find?_map, hkey, Table.lookup]

theorem KeepsPlace.validateAncestry (h : KeepsPlace f) (nodes : List StoryNode) (steps : ℕ)
    (seen : List String) (parent : Option String) :
    validateAncestry (nodes.map f) steps seen parent = validateAncestry nodes steps seen parent := by
  induction steps generalizing seen parent with
  | zero => cases parent <;> rfl
  | succ steps ih =>
    cases parent with
    | none => rfl
    | some parent =>
      simp only [Quillframe.validateAncestry, h.lookup]
      cases Table.lookup StoryNode.nodeId parent nodes with
      | none => rfl
      | some node => simp [fetch, bind, Except.bind, ih, h.parentId]

theorem KeepsPlace.validateStoryNode (h : KeepsPlace f) (nodes : List StoryNode)
    (node : StoryNode) :
    validateStoryNode (nodes.map f) (f node) = validateStoryNode nodes node := by
  have hkinds : (fun parent => (Table.lookup StoryNode.nodeId parent (nodes.map f)).map (·.kind)) =
      fun parent => (Table.lookup StoryNode.nodeId parent nodes).map (·.kind) := by
    funext parent
    rw [h.lookup, Option.map_map]
    exact congrArg (Option.map · _) (funext h.kind)
  simp only [Quillframe.validateStoryNode, h.kind, h.parentId, h.nodeId, hkinds,
    List.length_map, h.validateAncestry]

end Topology

section Titles

variable {db : Database Fp} {seed : BookStructureSeed}

/-- The three title updates as one map over the nodes. -/
theorem setFirstTitles_storyNodes :
    ∃ f, KeepsPlace f ∧ (db.setFirstTitles seed).storyNodes = db.storyNodes.map f := by
  have hretitle : ∀ nodeId title, KeepsPlace fun node : StoryNode =>
      if decide (node.nodeId = nodeId) then { node with title } else node := by
    intro nodeId title
    refine ⟨?_, ?_, ?_, ?_⟩ <;> intro node <;> split_ifs <;> rfl
  have hcomp : ∀ {f g : StoryNode → StoryNode}, KeepsPlace f → KeepsPlace g →
      KeepsPlace (f ∘ g) := fun hf hg =>
    ⟨fun node => (hf.1 _).trans (hg.1 node), fun node => (hf.2 _).trans (hg.2 node),
      fun node => (hf.3 _).trans (hg.3 node), fun node => (hf.4 _).trans (hg.4 node)⟩
  refine ⟨_, hcomp (hretitle "CH001" seed.firstChapterTitle)
    (hcomp (hretitle "UNIT001" seed.firstUnitTitle)
      (hretitle "VOL001" seed.firstVolumeTitle)), ?_⟩
  simp only [Database.setFirstTitles, Table.updateWhere, List.map_map]

theorem setFirstTitles_manuscripts :
    ((db.setFirstTitles seed).documents.filter fun document =>
        document.documentKind = .manuscript).mapM (·.storyNodeId) =
      (db.documents.filter fun document =>
        document.documentKind = .manuscript).mapM (·.storyNodeId) := by
  simp only [Database.setFirstTitles]
  rw [Table.filter_updateWhere, Table.updateWhere]
  swap
  · exact fun _ => rfl
  generalize db.documents.filter _ = documents
  induction documents with
  | nil => rfl
  | cons document documents ih =>
    simp only [List.map_cons, List.mapM_cons, ih]
    split_ifs <;> rfl

theorem setFirstTitles_topology (h : db.validateNovelTopology = .ok ()) :
    (db.setFirstTitles seed).validateNovelTopology = .ok () := by
  obtain ⟨f, hf, hnodes⟩ := @setFirstTitles_storyNodes Fp db seed
  have hplaces : (fun node : StoryNode => (node.parentId, node.kind, node.ordinal)) ∘ f =
      fun node => (node.parentId, node.kind, node.ordinal) := by
    funext node
    simp [hf.parentId, hf.kind, hf.ordinal]
  have hkind : ∀ kind, ((fun node : StoryNode => decide (node.kind = kind)) ∘ f) =
      fun node => decide (node.kind = kind) := by
    intro kind
    funext node
    simp [hf.kind]
  have hids : StoryNode.nodeId ∘ f = StoryNode.nodeId := funext hf.nodeId
  simp only [Database.validateNovelTopology, setFirstTitles_manuscripts, hnodes, bind_eq_ok,
    require_eq_ok, exists_const, fetch_eq_ok, forEach_unit_eq_ok, List.mem_map,
    forall_exists_index, and_imp, forall_apply_eq_imp_iff₂, List.map_map, hplaces, hf.ordinal,
    hf.validateStoryNode, ne_eq, List.map_eq_nil_iff, List.filter_map, hkind, List.length_map,
    hids] at h ⊢
  exact h

end Titles

/-! ## What stays -/

namespace PlanDatabase

/-- Only the plan tables change, and every stored plan stays as it is but for its status. -/
structure PlanProgress (db next : PlanDatabase Fp) : Prop where
  project : next.project = db.project
  proposals : next.bookSetupProposals = db.bookSetupProposals
  approvals : next.bookSetupApprovals = db.bookSetupApprovals
  heads : next.bookSetupHeads = db.bookSetupHeads
  plans : ∀ id plan, (Table.lookup PlanRow.planId id db.plans).map (·.plan) = some plan →
    (Table.lookup PlanRow.planId id next.plans).map (·.plan) = some plan
  views : ∀ id row, Table.lookup PlanEditorViewRow.proposalId id db.planEditorViews = some row →
    Table.lookup PlanEditorViewRow.proposalId id next.planEditorViews = some row

/-- The same, with new setup proposals. -/
structure Progress (db next : PlanDatabase Fp) : Prop where
  proposals : db.bookSetupProposals <+: next.bookSetupProposals
  plan : PlanProgress { db with bookSetupProposals := next.bookSetupProposals } next

theorem PlanProgress.refl (db : PlanDatabase Fp) : PlanProgress db db :=
  ⟨rfl, rfl, rfl, rfl, fun _ _ h => h, fun _ _ h => h⟩

theorem PlanProgress.trans {a b c : PlanDatabase Fp} (hab : PlanProgress a b)
    (hbc : PlanProgress b c) : PlanProgress a c where
  project := hbc.project.trans hab.project
  proposals := hbc.proposals.trans hab.proposals
  approvals := hbc.approvals.trans hab.approvals
  heads := hbc.heads.trans hab.heads
  plans id plan h := hbc.plans id plan (hab.plans id plan h)
  views id row h := hbc.views id row (hab.views id row h)

theorem PlanProgress.progress {db next : PlanDatabase Fp} (h : PlanProgress db next) :
    Progress db next :=
  ⟨h.proposals ▸ List.prefix_rfl, h.project, rfl, h.approvals, h.heads, h.plans, h.views⟩

namespace Progress

theorem refl (db : PlanDatabase Fp) : Progress db db := (PlanProgress.refl db).progress

theorem trans {a b c : PlanDatabase Fp} (hab : Progress a b) (hbc : Progress b c) :
    Progress a c where
  proposals := hab.proposals.trans hbc.proposals
  plan := ⟨hbc.plan.project.trans hab.plan.project, rfl,
    hbc.plan.approvals.trans hab.plan.approvals, hbc.plan.heads.trans hab.plan.heads,
    fun id plan h => hbc.plan.plans id plan (hab.plan.plans id plan h),
    fun id row h => hbc.plan.views id row (hab.plan.views id row h)⟩

theorem setupProposal {db next : PlanDatabase Fp} (h : Progress db next) {id : String}
    {row : BookSetupProposalRow Fp} (hrow : db.setupProposal id = some row) :
    next.setupProposal id = some row := by
  obtain ⟨new, hnew⟩ := h.proposals
  rw [PlanDatabase.setupProposal, Table.lookup] at hrow ⊢
  rw [← hnew, List.find?_append, hrow, Option.some_or]

end Progress

theorem lookup_append {Row Key : Type} [DecidableEq Key] {key : Row → Key} {k : Key}
    {table : List Row} {row new : Row} (h : Table.lookup key k table = some row) :
    Table.lookup key k (table ++ [new]) = some row := by
  rw [Table.lookup_append_singleton, h, Option.some_or]

theorem insertPlan_progress {proposal : PlanProposal Fp} {createdAt : String}
    {db next : PlanDatabase Fp} (h : db.insertPlan proposal createdAt = .ok next) :
    PlanProgress db next := by
  obtain ⟨row, -, -, -, -, -, hnext⟩ := insertPlan_eq_ok h
  rw [hnext]
  refine ⟨rfl, rfl, rfl, rfl, fun id plan h => ?_, fun _ _ h => h⟩
  obtain ⟨old, hold, rfl⟩ := Option.map_eq_some_iff.mp h
  rw [lookup_append hold, Option.map_some]

theorem supersede_progress (proposal : PlanProposal Fp) (authorization : AuthorActivation Fp)
    (version : ℕ) (db : PlanDatabase Fp) :
    PlanProgress db (db.supersede proposal authorization version) := by
  refine ⟨rfl, rfl, rfl, rfl, fun id plan h => ?_, fun _ _ h => h⟩
  simp only [supersede]
  rw [Table.lookup_updateWhere_field, Table.lookup_updateWhere_field, h]
  all_goals exact fun _ => rfl

theorem insertEditorView_progress {proposal : PlanProposal Fp} {view : EditorView Fp}
    {createdAt : String} {db next : PlanDatabase Fp}
    (h : db.insertEditorView proposal view createdAt = .ok next) : PlanProgress db next := by
  simp only [insertEditorView, bind_eq_ok, require_eq_ok, exists_const, pure_eq_ok] at h
  obtain ⟨-, rfl⟩ := h
  exact ⟨rfl, rfl, rfl, rfl, fun _ _ h => h, fun _ _ h => lookup_append h⟩

end PlanDatabase

open PlanDatabase (PlanProgress Progress activationRow)

section Calls

variable [Sha256 Fp] [DecidableEq Fp]

/-- An editor plan is a replay, or its rows are inserted and it supersedes the target's plan. -/
theorem saveAndActivateEditorPlan_rows {proposal : PlanProposal Fp}
    {authorization : AuthorActivation Fp} {view : EditorView Fp} {version : ℕ}
    {db next : PlanDatabase Fp}
    (h : saveAndActivateEditorPlan proposal authorization view db = .ok (version, next)) :
    (next = db ∧ ∃ prior ∈ db.planActivations,
      prior.authorizationFingerprint = authorization.fingerprint) ∨
    ∃ saved viewed : PlanDatabase Fp,
      db.insertPlan proposal authorization.decidedAt = .ok saved ∧
      saved.insertEditorView proposal view authorization.decidedAt = .ok viewed ∧
      authorization.validate = .ok () ∧
      db.currentVersion proposal.target.reference = proposal.expectedActiveVersion ∧
      proposal.expectedActiveVersion + 1 < 2 ^ 63 ∧
      next = viewed.supersede proposal authorization (proposal.expectedActiveVersion + 1) := by
  simp only [saveAndActivateEditorPlan, bind_eq_ok, require_eq_ok, exists_const] at h
  obtain ⟨_, -, _, hvalid, -, _, -, h⟩ := h
  split at h
  · rename_i prior hprior
    simp only [bind_eq_ok, require_eq_ok, exists_const, pure_eq_ok, Prod.mk.injEq] at h
    exact .inl ⟨h.2.2.symm, prior, Table.lookup_mem hprior, Table.lookup_key hprior⟩
  · simp only [PlanDatabase.insertActivation, bindInteger, bind_eq_ok, require_eq_ok, exists_const,
      pure_eq_ok, Prod.mk.injEq] at h
    obtain ⟨⟨hversion, -⟩, saved, hsaved, viewed, hviewed, _, ⟨hbound, -, -, -, rfl⟩, -, rfl⟩ := h
    rw [hversion] at hbound ⊢
    exact .inr ⟨saved, viewed, hsaved, hviewed, hvalid, rfl, hbound, rfl⟩

theorem saveAndActivateEditorPlan_progress {proposal : PlanProposal Fp}
    {authorization : AuthorActivation Fp} {view : EditorView Fp} {version : ℕ}
    {db next : PlanDatabase Fp}
    (h : saveAndActivateEditorPlan proposal authorization view db = .ok (version, next)) :
    PlanProgress db next := by
  obtain ⟨rfl, -⟩ | ⟨saved, viewed, hsaved, hviewed, -, -, -, rfl⟩ :=
    saveAndActivateEditorPlan_rows h
  · exact .refl _
  · exact ((PlanDatabase.insertPlan_progress hsaved).trans
      (PlanDatabase.insertEditorView_progress hviewed)).trans
      (PlanDatabase.supersede_progress ..)

theorem PlanCall.progress {call : PlanCall Fp} {db next : PlanDatabase Fp}
    (h : call.exec db = .ok next) : PlanProgress db next := by
  cases call with
  | save input id createdAt =>
    simp only [exec, bind_eq_ok] at h
    obtain ⟨_, -, proposal, -, h⟩ := h
    obtain ⟨_, h⟩ := snd_map_eq_ok h
    simp only [savePlanProposal, bind_eq_ok, pure_eq_ok, Prod.mk.injEq] at h
    obtain ⟨_, -, _, -, saved, hsaved, -, rfl⟩ := h
    exact PlanDatabase.insertPlan_progress hsaved
  | activate authorization =>
    obtain ⟨version, h⟩ := snd_map_eq_ok h
    obtain rfl | ⟨row, -, -, rfl⟩ := activatePlan_eq_ok h
    · exact .refl _
    · exact PlanDatabase.supersede_progress ..
  | saveAndActivate input id authorization view =>
    simp only [exec, bind_eq_ok] at h
    obtain ⟨_, -, proposal, -, h⟩ := h
    obtain ⟨version, h⟩ := snd_map_eq_ok h
    exact saveAndActivateEditorPlan_progress h

/-! ## Proposing -/

/-- A proposal is a replay, or appends its row. -/
theorem proposeBookSetup_eq_ok {p : SetupProposal Fp} {receipt : BookSetupProposalReceipt Fp}
    {db next : PlanDatabase Fp} (h : proposeBookSetup p db = .ok (receipt, next)) :
    next = db ∨ (p.setupId ∉ db.bookSetupProposals.map (·.setupId) ∧
      p.artifact.projectId = db.project.projectId ∧
      next = { db with bookSetupProposals :=
        db.bookSetupProposals ++ [p.row (db.currentVersion bookTarget)] }) := by
  simp only [proposeBookSetup, bind_eq_ok, require_eq_ok, exists_const] at h
  obtain ⟨_, -, _, -, _, -, hproject, h⟩ := h
  split at h
  · simp only [bind_eq_ok, require_eq_ok, exists_const, pure_eq_ok, Prod.mk.injEq] at h
    exact .inl h.2.2.symm
  · simp only [PlanDatabase.insertSetupProposal, bind_eq_ok, require_eq_ok, exists_const,
      pure_eq_ok, Prod.mk.injEq] at h
    obtain ⟨-, _, ⟨_, -, _, -, hfresh, -, -, -, rfl⟩, -, rfl⟩ := h
    exact .inr ⟨hfresh, hproject.symm, rfl⟩

theorem proposeBookSetup_progress {p : SetupProposal Fp} {receipt : BookSetupProposalReceipt Fp}
    {db next : PlanDatabase Fp} (h : proposeBookSetup p db = .ok (receipt, next)) :
    Progress db next := by
  obtain rfl | ⟨-, -, rfl⟩ := proposeBookSetup_eq_ok h
  · exact .refl _
  · exact ⟨List.prefix_append _ _, .refl _⟩

end Calls

/-! ## The first transaction of an approval -/

theorem PlanDatabase.activeActivation_supersede_self (db : PlanDatabase Fp)
    (proposal : PlanProposal Fp) (authorization : AuthorActivation Fp) (version : ℕ) :
    (db.supersede proposal authorization version).activeActivation proposal.target.reference =
      some (activationRow proposal authorization version) := by
  rw [activeActivation_eq, activationsOf_supersede_self, List.find?_append]
  have hnone : ((db.activationsOf proposal.target.reference).map fun row =>
      if row.status = .active then { row with status := .superseded } else row).find?
        (fun row => decide (row.status = .active)) = none := by
    refine List.find?_eq_none.mpr fun row hrow => ?_
    obtain ⟨old, -, rfl⟩ := List.mem_map.mp hrow
    split_ifs with hactive <;> simp [hactive]
  rw [hnone]
  simp [activationRow]

section Start

variable [Sha256 Fp] [DecidableEq Fp]

omit [DecidableEq Fp] in
theorem PlanProposal.create_fields {graph : StoryGraph} {input : PlanProposalInput Fp}
    {id : String} {proposal : PlanProposal Fp} (h : create graph input id = .ok proposal) :
    proposal.body = input.body ∧ proposal.expectedActiveVersion = input.expectedActiveVersion ∧
      ∃ node, graph.nodes.get? input.nodeId = some node ∧ node.kind = input.mode.targetKind ∧
        proposal.target.reference = node.reference := by
  simp only [create, PlanTarget.resolve, StoryGraph.canonicalTarget, StoryGraph.node, bind_eq_ok,
    require_eq_ok, exists_const, fetch_eq_ok, pure_eq_ok] at h
  obtain ⟨_, ⟨node, hnode, hkind, _, ⟨again, hagain, rfl⟩, rfl⟩, -, _, -, -, rfl⟩ := h
  obtain rfl : node = again := Option.some.inj (hnode.symm.trans hagain)
  exact ⟨rfl, rfl, node, hnode, hkind, rfl⟩

omit [DecidableEq Fp] in
theorem create_setupPlan {graph : StoryGraph} (hkeyed : graph.Keyed) {plan : BookPlan}
    {version : ℕ} {id : String} {proposal : PlanProposal Fp}
    (h : PlanProposal.create graph (setupPlanInput plan version) id = .ok proposal) :
    proposal.target.reference = bookTarget ∧ proposal.body = .book plan ∧
      proposal.expectedActiveVersion = version := by
  obtain ⟨hbody, hversion, node, hnode, hkind, href⟩ := PlanProposal.create_fields h
  refine ⟨?_, hbody, hversion⟩
  rw [href, GraphNode.reference, hkind, hkeyed _ _ hnode]
  rfl

theorem AuthorActivation.authorize_eq_ok {proposal : PlanProposal Fp}
    {authorizedBy decidedAt idempotencyKey decisionId : String}
    {authorization : AuthorActivation Fp}
    (h : authorize proposal authorizedBy decidedAt idempotencyKey decisionId =
      .ok authorization) :
    authorization.decisionId = decisionId ∧ authorization.proposalId = proposal.id ∧
      authorization.authorizedBy = authorizedBy ∧ authorization.decidedAt = decidedAt ∧
      authorization.idempotencyKey = idempotencyKey ∧
      authorization.fingerprint = authorization.computeFingerprint := by
  simp only [authorize, bind_eq_ok, pure_eq_ok] at h
  obtain ⟨_, -, _, -, rfl⟩ := h
  exact ⟨rfl, rfl, rfl, rfl, rfl, rfl⟩

/-- What an activation row repeats of its authorization. -/
structure PlanActivationRow.Authentic (row : PlanActivationRow Fp) : Prop where
  activationId : row.activationId = row.authorization.decisionId
  fingerprint : row.authorizationFingerprint = row.authorization.computeFingerprint
  version : row.activeVersion < 2 ^ 63

omit [DecidableEq Fp] in
/-- An authorization under a new decision id was not used before. -/
theorem not_replayed [CollisionFree Fp] {db : PlanDatabase Fp}
    (hauthentic : ∀ row ∈ db.planActivations, row.Authentic) {authorization : AuthorActivation Fp}
    (hfp : authorization.fingerprint = authorization.computeFingerprint)
    (hfresh : authorization.decisionId ∉ db.planActivations.map (·.activationId)) :
    ¬ ∃ prior ∈ db.planActivations,
      prior.authorizationFingerprint = authorization.fingerprint := by
  rintro ⟨prior, hprior, hsame⟩
  refine hfresh (List.mem_map.mpr ⟨prior, hprior, ?_⟩)
  rw [(hauthentic prior hprior).activationId]
  rw [(hauthentic prior hprior).fingerprint, hfp] at hsame
  have hjson := CollisionFree.ofJson_injective hsame
  simp only [AuthorActivation.projection, Json.obj.injEq, List.cons.injEq, Prod.mk.injEq,
    Json.str.injEq, true_and] at hjson
  exact hjson.2.1

variable [PrettyJson Fp]

/-- The active book plan is the one that an approval of the setup left. -/
def PlanDatabase.Interrupted (db : PlanDatabase Fp) (row : BookSetupProposalRow Fp)
    (request : SetupApproval) (planId : String) (fingerprint : Fp) : Prop :=
  ∃ activation plan view, db.activeBookPlan = some (activation, plan, view) ∧
    activation.activeVersion = row.expectedBookPlanVersion + 1 ∧
    interruptedPlan row request activation plan view = .ok (.planned planId fingerprint)

namespace PlanDatabase.Interrupted

variable {db next : PlanDatabase Fp} {row : BookSetupProposalRow Fp} {request : SetupApproval}
  {planId : String} {fingerprint : Fp}

/-- Starting again finds the plan and changes nothing. -/
theorem start (h : db.Interrupted row request planId fingerprint) (ids : SetupPlanIds) :
    startSetupPlan row request ids db = .ok (.planned planId fingerprint, db) := by
  obtain ⟨activation, plan, view, hactive, hversion, hplan⟩ := h
  simp only [startSetupPlan, hactive, hversion, if_true, hplan]
  rfl

theorem active (h : db.Interrupted row request planId fingerprint) :
    ∃ activation, db.activeActivation bookTarget = some activation ∧
      activation.proposalId = planId ∧ activation.proposalFingerprint = fingerprint := by
  obtain ⟨activation, plan, view, hactive, -, hplan⟩ := h
  simp only [activeBookPlan, Option.bind_eq_bind, Option.bind_eq_some_iff, Option.pure_def,
    Option.some.injEq, Prod.mk.injEq] at hactive
  obtain ⟨found, hfound, _, -, _, -, rfl, -⟩ := hactive
  simp only [interruptedPlan, bind_eq_ok, require_eq_ok, exists_const, pure_eq_ok,
    ApprovalStart.planned.injEq] at hplan
  obtain ⟨_, -, _, -, -, hid, hfp⟩ := hplan
  exact ⟨found, hfound, hid, hfp⟩

/-- Only another book plan ends the interruption. -/
theorem progress (h : db.Interrupted row request planId fingerprint) (hnext : Progress db next)
    (hactive : next.activeActivation bookTarget = db.activeActivation bookTarget) :
    next.Interrupted row request planId fingerprint := by
  obtain ⟨activation, plan, view, hbook, hversion, hplan⟩ := h
  simp only [activeBookPlan, Option.bind_eq_bind, Option.bind_eq_some_iff, Option.pure_def,
    Option.some.injEq, Prod.mk.injEq] at hbook
  obtain ⟨found, hfound, stored, hrow, shown, hview, rfl, rfl, rfl⟩ := hbook
  obtain ⟨kept, hkept, hsame⟩ := Option.map_eq_some_iff.mp
    (hnext.plan.plans _ _ (Option.map_eq_some_iff.mpr ⟨_, hrow, rfl⟩))
  have hkeptView := hnext.plan.views _ _ hview
  refine ⟨found, kept, shown, ?_, hversion, ?_⟩
  · simp only [activeBookPlan, hactive, hfound, hkept, hkeptView, Option.bind_eq_bind,
      Option.bind_some, Option.pure_def]
  · simpa only [interruptedPlan, hsame] using hplan

end PlanDatabase.Interrupted

section Activate

variable {db next : PlanDatabase Fp} {row : BookSetupProposalRow Fp} {request : SetupApproval}
  {ids : SetupPlanIds} {start : ApprovalStart Fp}

omit [Sha256 Fp] [DecidableEq Fp] [PrettyJson Fp] in
/-- The rows of a new editor plan are the ones that a later reader finds. -/
theorem saved_rows {proposal : PlanProposal Fp} (authorization : AuthorActivation Fp)
    (version : ℕ) {view : EditorView Fp} {createdAt : String} {saved viewed : PlanDatabase Fp}
    (hsaved : db.insertPlan proposal createdAt = .ok saved)
    (hviewed : saved.insertEditorView proposal view createdAt = .ok viewed) :
    (Table.lookup PlanRow.planId proposal.id
      (viewed.supersede proposal authorization version).plans).map (·.plan) = some proposal ∧
    (Table.lookup PlanEditorViewRow.proposalId proposal.id
      (viewed.supersede proposal authorization version).planEditorViews).map (·.content) =
        some view.content := by
  simp only [PlanDatabase.insertPlan, PlanDatabase.insertEditorView, bind_eq_ok, require_eq_ok,
    exists_const, pure_eq_ok] at hsaved hviewed
  obtain ⟨hfresh, -, rfl⟩ := hsaved
  obtain ⟨hunseen, rfl⟩ := hviewed
  constructor
  · refine (PlanDatabase.supersede_progress ..).plans _ _ ?_
    have hnone : Table.lookup PlanRow.planId proposal.id db.plans = none :=
      Table.lookup_eq_none.mpr fun other hother hid =>
        hfresh (List.mem_map.mpr ⟨other, hother, hid⟩)
    simp [Table.lookup_append_singleton, hnone]
  · have hnone : Table.lookup PlanEditorViewRow.proposalId proposal.id db.planEditorViews =
        none := Table.lookup_eq_none.mpr fun other hother hid =>
      hunseen (List.mem_map.mpr ⟨other, hother, hid⟩)
    simp [PlanDatabase.supersede, Table.lookup_append_singleton, hnone]

theorem activateBookSetupPlan_eq_ok
    (h : activateBookSetupPlan row request ids db = .ok (start, next)) :
    ∃ (proposal : PlanProposal Fp) (authorization : AuthorActivation Fp) (version : ℕ),
      start = .planned proposal.id proposal.fingerprint ∧
      proposal.fingerprint = proposal.computeFingerprint ∧
      proposal.target.reference = bookTarget ∧ proposal.body = .book row.setup.bookPlan ∧
      proposal.expectedActiveVersion = row.expectedBookPlanVersion ∧
      authorization.decisionId = ids.decisionId ∧ authorization.proposalId = proposal.id ∧
      authorization.authorizedBy = request.authorizedBy ∧
      authorization.decidedAt = row.createdAt ∧
      authorization.idempotencyKey = setupPlanKey request.idempotencyKey ∧
      authorization.fingerprint = authorization.computeFingerprint ∧
      saveAndActivateEditorPlan proposal authorization (setupPlanView row.setup.bookPlan) db =
        .ok (version, next) := by
  simp only [activateBookSetupPlan, bind_eq_ok, pure_eq_ok] at h
  obtain ⟨graph, hgraph, proposal, hproposal, authorization, hauthorization, ⟨version, after⟩,
    hsaved, hresult⟩ := h
  obtain ⟨rfl, rfl⟩ := Prod.mk.inj hresult
  obtain ⟨href, hbody, hversion⟩ :=
    create_setupPlan (Database.loadStoryGraph_keyed hgraph) hproposal
  obtain ⟨-, hfp, -⟩ := PlanProposal.create_eq_ok hproposal
  obtain ⟨hdecision, hplan, hby, hat, hkey, hauthFp⟩ :=
    AuthorActivation.authorize_eq_ok hauthorization
  exact ⟨proposal, authorization, version, rfl, hfp, href, hbody, hversion, hdecision, hplan,
    hby, hat, hkey, hauthFp, hsaved⟩

/-- A plan activated for a setup is found again by a retry. -/
theorem activateBookSetupPlan_interrupted [CollisionFree Fp]
    (hauthentic : ∀ row ∈ db.planActivations, row.Authentic)
    (hfresh : ids.decisionId ∉ db.planActivations.map (·.activationId))
    (h : activateBookSetupPlan row request ids db = .ok (start, next)) :
    ∃ planId fingerprint, start = .planned planId fingerprint ∧
      next.Interrupted row request planId fingerprint := by
  obtain ⟨proposal, authorization, version, rfl, hfp, href, hbody, hversion, hdecision, hplan,
    hby, hat, hkey, hauthFp, hsaved⟩ := activateBookSetupPlan_eq_ok h
  refine ⟨_, _, rfl, ?_⟩
  obtain ⟨-, hreplayed⟩ | ⟨saved, viewed, hinsert, hview, hvalid, -, -, rfl⟩ :=
    saveAndActivateEditorPlan_rows hsaved
  · exact absurd hreplayed (not_replayed hauthentic hauthFp (hdecision ▸ hfresh))
  obtain ⟨hstored, hshown⟩ := saved_rows authorization (proposal.expectedActiveVersion + 1)
    hinsert hview
  obtain ⟨stored, hlookup, hstored⟩ := Option.map_eq_some_iff.mp hstored
  obtain ⟨shown, hlookupView, hcontent⟩ := Option.map_eq_some_iff.mp hshown
  have hactive := viewed.activeActivation_supersede_self proposal authorization
    (proposal.expectedActiveVersion + 1)
  rw [href] at hactive
  refine ⟨activationRow proposal authorization _, stored, shown, ?_,
    congrArg (· + 1) hversion, ?_⟩
  · simp only [PlanDatabase.activeBookPlan, hactive, activationRow, hlookup, hlookupView,
      Option.bind_eq_bind, Option.bind_some, Option.pure_def]
  · have hvalidPlan : proposal.validateFingerprint = .ok () := require_eq_ok.mpr hfp
    simp only [interruptedPlan, hstored, activationRow, hvalidPlan, hvalid, bind_eq_ok,
      require_eq_ok, exists_const, pure_eq_ok]
    exact ⟨trivial, trivial, ⟨hbody, trivial, trivial, hplan, hby, hat, hkey, hcontent⟩, trivial⟩

theorem startSetupPlan_eq_ok (h : startSetupPlan row request ids db = .ok (start, next)) :
    (next = db ∧ ∃ planId fingerprint, start = .planned planId fingerprint ∧
      db.Interrupted row request planId fingerprint) ∨
    activateBookSetupPlan row request ids db = .ok (start, next) := by
  rw [startSetupPlan] at h
  split at h
  · rename_i activation plan view hactive
    split_ifs at h with hresumed hexpected
    · simp only [bind_eq_ok, pure_eq_ok, Prod.mk.injEq] at h
      obtain ⟨found, hfound, rfl, rfl⟩ := h
      refine .inl ⟨rfl, ?_⟩
      have hshape := hfound
      simp only [interruptedPlan, bind_eq_ok, require_eq_ok, exists_const, pure_eq_ok] at hshape
      obtain ⟨_, -, _, -, -, rfl⟩ := hshape
      exact ⟨_, _, rfl, activation, plan, view, hactive, hresumed, hfound⟩
    · exact .inr h
  · split_ifs at h
    exact .inr h

theorem startSetupPlan_progress (h : startSetupPlan row request ids db = .ok (start, next)) :
    PlanProgress db next := by
  obtain ⟨rfl, -⟩ | h := startSetupPlan_eq_ok h
  · exact .refl _
  · obtain ⟨_, _, _, -, -, -, -, -, -, -, -, -, -, -, hsaved⟩ := activateBookSetupPlan_eq_ok h
    exact saveAndActivateEditorPlan_progress hsaved

theorem startSetupPlan_interrupted [CollisionFree Fp]
    (hauthentic : ∀ row ∈ db.planActivations, row.Authentic)
    (hfresh : ids.decisionId ∉ db.planActivations.map (·.activationId))
    (h : startSetupPlan row request ids db = .ok (start, next)) :
    ∃ planId fingerprint, start = .planned planId fingerprint ∧
      next.Interrupted row request planId fingerprint := by
  obtain ⟨rfl, planId, fingerprint, rfl, hinterrupted⟩ | h := startSetupPlan_eq_ok h
  · exact ⟨planId, fingerprint, rfl, hinterrupted⟩
  · exact activateBookSetupPlan_interrupted hauthentic hfresh h

end Activate

/-! ### The request -/

/-- The checks of an approval request that comes to its plan. -/
structure PlanDatabase.Approvable (db : PlanDatabase Fp) (request : SetupApproval)
    (row : BookSetupProposalRow Fp) : Prop where
  arguments : forEach (fun _ argument => stringArg argument) request.arguments () = .ok ()
  stored : db.setupProposal request.setupId = some row
  valid : row.setup.validate = .ok ()
  project : row.setup.projectId = request.projectId
  version : row.expectedSetupVersion = request.expectedVersion
  status : row.status = .proposalReady
  owner : ∀ owner, Table.lookup BookSetupApprovalRow.idempotencyKey request.idempotencyKey
    db.bookSetupApprovals = some owner → owner.setupId = request.setupId

section Request

variable {db next : PlanDatabase Fp} {request : SetupApproval} {row : BookSetupProposalRow Fp}
  {ids : SetupPlanIds} {start : ApprovalStart Fp}

theorem PlanDatabase.Approvable.start_eq (h : db.Approvable request row) :
    startBookSetupApproval request ids db = startSetupPlan row request ids db := by
  have hload : db.loadBookSetupProposal request.setupId = .ok row := by
    simp only [loadBookSetupProposal, h.stored, bind_eq_ok, fetch_eq_ok, pure_eq_ok]
    exact ⟨row, rfl, (), h.valid, rfl⟩
  have hready : ¬ row.status = .approved := by simp [h.status]
  rw [startBookSetupApproval, h.arguments, hload]
  simp only [bind, Except.bind, require]
  rw [if_pos ⟨h.project, h.version, .inl h.status⟩, if_neg hready, if_pos h.owner]

omit [DecidableEq Fp] [PrettyJson Fp] in
theorem PlanDatabase.Approvable.progress [DecidableEq Fp] (h : db.Approvable request row)
    (hnext : Progress db next) : next.Approvable request row :=
  { h with
    stored := hnext.setupProposal h.stored
    owner := hnext.plan.approvals.symm ▸ h.owner }

/-- A request starts with the answer it had before, or with the plan of an approvable setup. -/
theorem startBookSetupApproval_eq_ok
    (h : startBookSetupApproval request ids db = .ok (start, next)) :
    (next = db ∧ ∃ approval head, db.approvalOf (fun stored =>
        stored.setupId = request.setupId ∧ stored.idempotencyKey = request.idempotencyKey) =
          some (approval, head) ∧ head.version = request.expectedVersion + 1 ∧
      start = .replayed (replayedReceipt approval head)) ∨
    ∃ row, db.Approvable request row ∧ startSetupPlan row request ids db = .ok (start, next) := by
  simp only [startBookSetupApproval, PlanDatabase.loadBookSetupProposal, bind_eq_ok,
    require_eq_ok, exists_const, fetch_eq_ok, pure_eq_ok] at h
  obtain ⟨_, harguments, _, ⟨row, hstored, _, hvalid, rfl⟩, ⟨hproject, hversion, hstatus⟩, h⟩ := h
  split_ifs at h with happroved
  · simp only [bind_eq_ok, require_eq_ok, exists_const, fetch_eq_ok, pure_eq_ok,
      Prod.mk.injEq] at h
    obtain ⟨⟨approval, head⟩, hfound, ⟨hhead, -⟩, rfl, rfl⟩ := h
    exact .inl ⟨rfl, approval, head, hfound, hhead, rfl⟩
  · simp only [bind_eq_ok, require_eq_ok, exists_const] at h
    exact .inr ⟨row, ⟨harguments, hstored, hvalid, hproject, hversion,
      hstatus.resolve_right happroved, h.1⟩, h.2⟩

theorem startBookSetupApproval_progress
    (h : startBookSetupApproval request ids db = .ok (start, next)) : PlanProgress db next := by
  obtain ⟨rfl, -⟩ | ⟨row, -, h⟩ := startBookSetupApproval_eq_ok h
  · exact .refl _
  · exact startSetupPlan_progress h

end Request

end Start

/-! ## The second transaction -/

section Approve

variable [Sha256 Fp] [DecidableEq Fp]

/-- The texts of a decision are non-empty and trimmed. -/
structure SetupDecision.Trimmed (d : SetupDecision Fp) : Prop where
  createdAt : ¬ blank d.createdAt ∧ d.createdAt = trim d.createdAt
  idempotencyKey : ¬ blank d.request.idempotencyKey ∧
    d.request.idempotencyKey = trim d.request.idempotencyKey
  authorizedBy : ¬ blank d.request.authorizedBy ∧
    d.request.authorizedBy = trim d.request.authorizedBy

/-- What the second transaction finds when it writes. -/
structure PlanDatabase.Decides (db : PlanDatabase Fp) (d : SetupDecision Fp)
    (row : BookSetupProposalRow Fp) : Prop where
  stored : db.setupProposal d.request.setupId = some row
  status : row.status = .proposalReady
  project : row.projectId = db.project.projectId
  version : d.request.expectedVersion + 1 < 2 ^ 63
  active : ∃ activation, db.activeActivation bookTarget = some activation ∧
    activation.proposalId = d.bookPlanId ∧ activation.proposalFingerprint = d.bookPlanFingerprint

/-- An approval is a replay, or writes the setup as the head. -/
theorem approveBookSetup_eq_ok {d : SetupDecision Fp} {receipt : BookSetupApprovalReceipt Fp}
    {db next : PlanDatabase Fp} (h : approveBookSetup d db = .ok (receipt, next)) :
    d.Trimmed ∧ (next = db ∨ ∃ row, db.Decides d row ∧ next = d.tables row db) := by
  simp only [approveBookSetup, requireTimestamp, requireIdempotencyKey, bind_eq_ok, require_eq_ok,
    exists_const] at h
  obtain ⟨hcreated, hkey, hby, h⟩ := h
  refine ⟨⟨hcreated, hkey, hby⟩, ?_⟩
  split at h
  · simp only [bind_eq_ok, require_eq_ok, exists_const, pure_eq_ok, Prod.mk.injEq] at h
    exact .inl h.2.2.symm
  · simp only [SetupDecision.insert, bindInteger, bind_eq_ok, require_eq_ok, exists_const,
      fetch_eq_ok, pure_eq_ok, Prod.mk.injEq] at h
    obtain ⟨row, hrow, ⟨-, hstatus⟩, -, activation, hactive, hplan, _, -, _,
      ⟨-, -, -, -, -, ⟨hproject, -⟩, hbound, -, _, -, rfl⟩, -, rfl⟩ := h
    exact .inr ⟨row, ⟨hrow, hstatus, hproject, hbound, activation, hactive, hplan⟩, rfl⟩

/-! ## The invariant -/

/-- Plans stand under their ids, and activations name plans. -/
structure PlanDatabase.Bound (db : PlanDatabase Fp) : Prop where
  plans : ∀ row ∈ db.plans, row.planId = row.plan.id
  activations : ∀ row ∈ db.planActivations,
    row.Authentic ∧ row.proposalId ∈ db.plans.map (·.planId)

namespace PlanDatabase.Bound

variable {db next : PlanDatabase Fp}

omit [DecidableEq Fp] in
theorem insertPlan {proposal : PlanProposal Fp} {createdAt : String} (h : db.Bound)
    (hsaved : db.insertPlan proposal createdAt = .ok next) :
    next.Bound ∧ proposal.id ∈ next.plans.map (·.planId) := by
  obtain ⟨row, -, hid, -, -, hplan, hnext⟩ := insertPlan_eq_ok hsaved
  rw [hnext]
  refine ⟨⟨fun other hother => ?_, fun activation hactivation => ?_⟩, by simp [hid]⟩
  · rcases List.mem_append.mp hother with hold | hnew
    · exact h.plans other hold
    · rw [List.mem_singleton.mp hnew, hid, hplan]
  · obtain ⟨hauthentic, hmem⟩ := h.activations activation hactivation
    rw [List.map_append]
    exact ⟨hauthentic, List.mem_append_left _ hmem⟩

omit [DecidableEq Fp] in
theorem supersede (h : db.Bound) {proposal : PlanProposal Fp}
    {authorization : AuthorActivation Fp} {version : ℕ}
    (hplan : proposal.id ∈ db.plans.map (·.planId)) (hversion : version < 2 ^ 63)
    (hfp : authorization.fingerprint = authorization.computeFingerprint) :
    (db.supersede proposal authorization version).Bound := by
  have hplans : (db.supersede proposal authorization version).plans.map (·.planId) =
      db.plans.map (·.planId) := by
    simp only [PlanDatabase.supersede]
    rw [Table.map_updateWhere, Table.map_updateWhere]
    all_goals exact fun _ => rfl
  refine ⟨fun row hrow => ?_, fun row hrow => ?_⟩
  · obtain ⟨old, hold, hid, -, hsame⟩ := exists_of_mem_plans_supersede hrow
    rw [hid, hsame]
    exact h.plans old hold
  · rw [hplans]
    rcases List.mem_append.mp hrow with hkept | hnew
    · obtain ⟨old, hold, rfl⟩ := Table.mem_updateWhere.mp hkept
      obtain ⟨⟨hid, hseal, hbound⟩, hmem⟩ := h.activations old hold
      split_ifs <;> exact ⟨⟨hid, hseal, hbound⟩, hmem⟩
    · obtain rfl := List.mem_singleton.mp hnew
      exact ⟨⟨rfl, hfp, hversion⟩, hplan⟩

theorem saveAndActivate (h : db.Bound) {proposal : PlanProposal Fp}
    {authorization : AuthorActivation Fp} {view : EditorView Fp} {version : ℕ}
    (hnext : saveAndActivateEditorPlan proposal authorization view db = .ok (version, next)) :
    next.Bound := by
  obtain ⟨rfl, -⟩ | ⟨saved, viewed, hsaved, hviewed, hvalid, -, hversion, rfl⟩ :=
    saveAndActivateEditorPlan_rows hnext
  · exact h
  obtain ⟨hbound, hplan⟩ := h.insertPlan hsaved
  simp only [insertEditorView, bind_eq_ok, require_eq_ok, exists_const, pure_eq_ok] at hviewed
  obtain ⟨-, rfl⟩ := hviewed
  simp only [AuthorActivation.validate, bind_eq_ok, require_eq_ok] at hvalid
  obtain ⟨_, -, hfp⟩ := hvalid
  refine supersede ?_ hplan hversion hfp
  exact ⟨hbound.plans, hbound.activations⟩

theorem activate (h : db.Bound) {authorization : AuthorActivation Fp} {version : ℕ}
    (hnext : activatePlan authorization db = .ok (version, next)) : next.Bound := by
  simp only [activatePlan, AuthorActivation.validate, bind_eq_ok, require_eq_ok, exists_const,
    fetch_eq_ok] at hnext
  obtain ⟨⟨_, -, hfp⟩, row, hrow, _, -, _, -, -, hnext⟩ := hnext
  split at hnext
  · simp only [pure_eq_ok, Prod.mk.injEq] at hnext
    exact hnext.2 ▸ h
  · simp only [insertActivation, bindInteger, bind_eq_ok, require_eq_ok, exists_const, pure_eq_ok,
      Prod.mk.injEq] at hnext
    obtain ⟨-, _, ⟨hversion, -, -, -, rfl⟩, -, rfl⟩ := hnext
    have hmem := Table.lookup_mem hrow
    exact h.supersede (List.mem_map.mpr ⟨row, hmem, h.plans row hmem⟩) hversion hfp

theorem planCall (h : db.Bound) {call : PlanCall Fp} (hnext : call.exec db = .ok next) :
    next.Bound := by
  cases call with
  | save input id createdAt =>
    simp only [PlanCall.exec, bind_eq_ok] at hnext
    obtain ⟨_, -, proposal, -, hnext⟩ := hnext
    obtain ⟨_, hnext⟩ := snd_map_eq_ok hnext
    simp only [savePlanProposal, bind_eq_ok, pure_eq_ok, Prod.mk.injEq] at hnext
    obtain ⟨_, -, _, -, saved, hsaved, -, rfl⟩ := hnext
    exact (h.insertPlan hsaved).1
  | activate authorization =>
    obtain ⟨version, hnext⟩ := snd_map_eq_ok hnext
    exact h.activate hnext
  | saveAndActivate input id authorization view =>
    simp only [PlanCall.exec, bind_eq_ok] at hnext
    obtain ⟨_, -, proposal, -, hnext⟩ := hnext
    obtain ⟨version, hnext⟩ := snd_map_eq_ok hnext
    exact h.saveAndActivate hnext

end PlanDatabase.Bound

/-- The state of the setup tables between two transactions. -/
structure PlanDatabase.SetupInv (db : PlanDatabase Fp) : Prop where
  topology : db.project.validateNovelTopology = .ok ()
  bound : db.Bound
  ids : (db.bookSetupProposals.map (·.setupId)).Nodup
  projects : ∀ row ∈ db.bookSetupProposals, row.projectId = db.project.projectId
  approved : ∀ approval ∈ db.bookSetupApprovals, ∃ row ∈ db.bookSetupProposals,
    row.setupId = approval.setupId ∧ row.status ≠ .proposalReady
  sealed : ∀ approval ∈ db.bookSetupApprovals, ∃ (d : SetupDecision Fp) (row : _),
    d.request.setupId = approval.setupId ∧
      approval.approvalFingerprint = Sha256.ofJson (d.approvalJson row)
  head : (db.bookSetupHeads.map (·.projectId)).Nodup
  heads : ∀ head ∈ db.bookSetupHeads,
    head.projectId = db.project.projectId ∧ head.version < 2 ^ 63

namespace PlanDatabase.SetupInv

variable {db next : PlanDatabase Fp}

omit [DecidableEq Fp] in
theorem unplanned {project : Database Fp} (h : project.validateNovelTopology = .ok ()) :
    (PlanDatabase.unplanned project).SetupInv where
  topology := h
  bound := ⟨by simp [PlanDatabase.unplanned], by simp [PlanDatabase.unplanned]⟩
  ids := List.nodup_nil
  projects := by simp [PlanDatabase.unplanned]
  approved := by simp [PlanDatabase.unplanned]
  sealed := by simp [PlanDatabase.unplanned]
  head := List.nodup_nil
  heads := by simp [PlanDatabase.unplanned]

omit [DecidableEq Fp] in
theorem planProgress (h : db.SetupInv) (hnext : PlanProgress db next) (hbound : next.Bound) :
    next.SetupInv := by
  obtain ⟨project, plans, versions, activations, views, proposals, approvals, heads⟩ := next
  obtain ⟨rfl, rfl, rfl, rfl, -, -⟩ := hnext
  exact ⟨h.topology, hbound, h.ids, h.projects, h.approved, h.sealed, h.head, h.heads⟩

theorem propose (h : db.SetupInv) {p : SetupProposal Fp} {receipt : BookSetupProposalReceipt Fp}
    (hnext : proposeBookSetup p db = .ok (receipt, next)) : next.SetupInv := by
  obtain rfl | ⟨hfresh, hproject, rfl⟩ := proposeBookSetup_eq_ok hnext
  · exact h
  refine ⟨h.topology, ⟨h.bound.plans, h.bound.activations⟩, ?_, fun row hrow => ?_,
    fun approval happroval => ?_, h.sealed, h.head, h.heads⟩
  · refine Table.nodup_append_singleton h.ids fun other hother hid => hfresh ?_
    exact List.mem_map.mpr ⟨other, hother, hid⟩
  · rcases List.mem_append.mp hrow with hold | hnew
    · exact h.projects row hold
    · rw [List.mem_singleton.mp hnew]
      exact hproject
  · obtain ⟨row, hrow, hkept⟩ := h.approved approval happroval
    exact ⟨row, List.mem_append_left _ hrow, hkept⟩

omit [DecidableEq Fp] in
/-- No approval goes back to a proposal that still waits for one. -/
theorem unapproved (h : db.SetupInv) {setupId : String} {row : BookSetupProposalRow Fp}
    (hrow : db.setupProposal setupId = some row) (hstatus : row.status = .proposalReady) :
    ∀ approval ∈ db.bookSetupApprovals, approval.setupId ≠ setupId := by
  intro approval happroval hid
  obtain ⟨other, hother, hotherId, hdecided⟩ := h.approved approval happroval
  obtain rfl := Table.eq_of_key_eq h.ids hother (Table.lookup_mem hrow)
    (hotherId.trans (hid.trans (Table.lookup_key hrow).symm))
  exact hdecided hstatus

omit [DecidableEq Fp] in
/-- What becomes of a proposal when a setup is approved. -/
theorem mem_proposals_tables {d : SetupDecision Fp} {row other : BookSetupProposalRow Fp} :
    other ∈ (d.tables row db).bookSetupProposals ↔ ∃ old ∈ db.bookSetupProposals, other =
      if old.setupId = d.request.setupId then { old with status := .approved }
      else if old.projectId = row.projectId ∧ old.status = .approved then
        { old with status := .superseded }
      else old := by
  simp only [SetupDecision.tables, Table.mem_updateWhere]
  constructor
  · rintro ⟨mid, ⟨old, hold, rfl⟩, rfl⟩
    refine ⟨old, hold, ?_⟩
    by_cases hid : old.setupId = d.request.setupId <;>
      by_cases happroved : old.projectId = row.projectId ∧ old.status = .approved <;>
      simp [hid, happroved]
  · rintro ⟨old, hold, rfl⟩
    refine ⟨_, ⟨old, hold, rfl⟩, ?_⟩
    by_cases hid : old.setupId = d.request.setupId <;>
      by_cases happroved : old.projectId = row.projectId ∧ old.status = .approved <;>
      simp [hid, happroved]

omit [DecidableEq Fp] in
theorem tables (h : db.SetupInv) {d : SetupDecision Fp} {row : BookSetupProposalRow Fp}
    (hdecides : db.Decides d row) : (d.tables row db).SetupInv := by
  have hkept : ∀ old ∈ db.bookSetupProposals, ∃ other ∈ (d.tables row db).bookSetupProposals,
      other.setupId = old.setupId ∧
        (old.status ≠ .proposalReady ∨ old.setupId = d.request.setupId →
          other.status ≠ .proposalReady) := by
    intro old hold
    refine ⟨_, mem_proposals_tables.mpr ⟨old, hold, rfl⟩, ?_, ?_⟩
    · split_ifs <;> rfl
    · split_ifs with hid happroved
      · simp
      · simp
      · simp [hid]
  refine ⟨setFirstTitles_topology h.topology, ⟨h.bound.plans, h.bound.activations⟩, ?_,
    fun other hother => ?_, fun approval happroval => ?_, fun approval happroval => ?_, ?_, ?_⟩
  · simp only [SetupDecision.tables]
    rw [Table.map_updateWhere, Table.map_updateWhere]
    · exact h.ids
    all_goals exact fun _ => rfl
  · obtain ⟨old, hold, rfl⟩ := mem_proposals_tables.mp hother
    split_ifs <;> exact h.projects old hold
  · rcases List.mem_append.mp happroval with hold | hnew
    · obtain ⟨old, hmem, hid, hstatus⟩ := h.approved approval hold
      obtain ⟨other, hother, hotherId, hdecided⟩ := hkept old hmem
      exact ⟨other, hother, hotherId.trans hid, hdecided (.inl hstatus)⟩
    · obtain ⟨other, hother, hotherId, hdecided⟩ := hkept row (Table.lookup_mem hdecides.stored)
      have hid := Table.lookup_key hdecides.stored
      rw [List.mem_singleton.mp hnew]
      exact ⟨other, hother, hotherId.trans hid, hdecided (.inr hid)⟩
  · rcases List.mem_append.mp happroval with hold | hnew
    · exact h.sealed approval hold
    · rw [List.mem_singleton.mp hnew]
      exact ⟨d, row, rfl, rfl⟩
  · exact Table.nodup_upsert (fun _ => rfl) h.head
  · have hversion := hdecides.version
    exact Table.forall_upsert ⟨hdecides.project, hversion⟩
      (fun old hold => ⟨(h.heads old hold).1, hversion⟩) h.heads

end PlanDatabase.SetupInv

namespace PlanDatabase.Decides

variable {db : PlanDatabase Fp} {d : SetupDecision Fp} {row : BookSetupProposalRow Fp}

omit [DecidableEq Fp] in
theorem setupHead (h : db.Decides d row) :
    (d.tables row db).setupHead db.project.projectId = some (d.head row) := by
  have hproject : db.project.projectId = (d.head row).projectId := h.project.symm
  simp only [PlanDatabase.setupHead, SetupDecision.tables]
  rw [Table.lookup_upsert, if_pos hproject]
  swap
  · exact fun _ => rfl
  cases hold : Table.lookup BookSetupHeadRow.projectId db.project.projectId db.bookSetupHeads with
  | none => rfl
  | some old =>
    have hproject := (Table.lookup_key hold).trans h.project.symm
    simp [SetupDecision.head, hproject]

omit [DecidableEq Fp] in
theorem setupProposal (h : db.Decides d row) :
    (d.tables row db).setupProposal d.request.setupId = some { row with status := .approved } := by
  have hid := Table.lookup_key h.stored
  have hstored := h.stored
  rw [PlanDatabase.setupProposal] at hstored
  simp only [PlanDatabase.setupProposal, SetupDecision.tables]
  rw [Table.lookup_updateWhere, Table.lookup_updateWhere, hstored]
  · simp [hid, h.status]
  all_goals exact fun _ => rfl

/-- An approval leaves the setup ready. -/
theorem ready (h : db.Decides d row) :
    (d.tables row db).requireBookSetupReady db.project.projectId = .ok () := by
  obtain ⟨activation, hactive, hplan, hfp⟩ := h.active
  have hkept : (d.tables row db).activeActivation bookTarget = some activation := hactive
  simp only [requireBookSetupReady, bind_eq_ok, require_eq_ok, fetch_eq_ok, h.setupHead, hkept,
    Option.some.injEq, exists_eq_left', Option.filter_eq_some_iff]
  have hid : (d.head row).setupId = d.request.setupId := rfl
  rw [hid, h.setupProposal]
  exact ⟨_, ⟨rfl, by simp⟩, rfl, hplan.symm, hfp.symm⟩

end PlanDatabase.Decides

/-- A decision on an approvable setup goes through when the active book plan is its own. -/
theorem approveBookSetup_succeeds [CollisionFree Fp] {db : PlanDatabase Fp} (hinv : db.SetupInv)
    {d : SetupDecision Fp} {row : BookSetupProposalRow Fp}
    (happrovable : db.Approvable d.request row) (htrimmed : d.Trimmed)
    (hactive : ∃ activation, db.activeActivation bookTarget = some activation ∧
      activation.proposalId = d.bookPlanId ∧
      activation.proposalFingerprint = d.bookPlanFingerprint)
    (hhead : db.setupVersion db.project.projectId = d.request.expectedVersion)
    (hbound : d.request.expectedVersion + 1 < 2 ^ 63)
    (hfresh : d.approvalId ∉ db.bookSetupApprovals.map (·.approvalId)) :
    db.Decides d row ∧ approveBookSetup d db = .ok (d.receipt row, d.tables row db) := by
  obtain ⟨activation, hactivation, hplan, hfp⟩ := hactive
  have hproject := hinv.projects row (Table.lookup_mem happrovable.stored)
  have hunapproved := hinv.unapproved happrovable.stored happrovable.status
  have hkeys : ∀ approval ∈ db.bookSetupApprovals,
      approval.idempotencyKey ≠ d.request.idempotencyKey := by
    intro approval happroval hkey
    obtain ⟨owner, howner⟩ := Option.isSome_iff_exists.mp
      (Table.lookup_isSome.mpr ⟨approval, happroval, hkey⟩)
    exact hunapproved owner (Table.lookup_mem howner) (happrovable.owner owner howner)
  have hnone : db.approvalOf (fun stored =>
      stored.idempotencyKey = d.request.idempotencyKey) = none := by
    rw [PlanDatabase.approvalOf, List.find?_eq_none.mpr]
    · rfl
    · simpa using hkeys
  have hsealed : (d.approval row).approvalFingerprint ∉
      db.bookSetupApprovals.map (·.approvalFingerprint) := by
    intro hmem
    obtain ⟨approval, happroval, hsame⟩ := List.mem_map.mp hmem
    obtain ⟨other, otherRow, hid, hother⟩ := hinv.sealed approval happroval
    have hjson := CollisionFree.ofJson_injective (hother.symm.trans hsame)
    simp only [SetupDecision.approvalJson, Json.obj.injEq, List.cons.injEq, Prod.mk.injEq,
      Json.str.injEq, true_and, and_true] at hjson
    exact hunapproved approval happroval (hid.symm.trans hjson.2.2.2.2.2.2.2.2)
  have hdecides : db.Decides d row :=
    ⟨happrovable.stored, happrovable.status, hproject, hbound, activation, hactivation, hplan, hfp⟩
  have hinsert : d.insert row db = .ok (d.tables row db) := by
    have hplanned := (hinv.bound.activations activation
      (List.mem_of_find?_eq_some hactivation)).2
    have htopology : (d.tables row db).project.validateNovelTopology = .ok () :=
      (hinv.tables hdecides).topology
    simp only [SetupDecision.insert, bindInteger, bind_eq_ok, require_eq_ok, exists_const,
      pure_eq_ok]
    refine ⟨by omega, hfresh, ?_, hsealed, ?_, ⟨hproject, hplan ▸ hplanned⟩, hbound, ?_, (), htopology,
      trivial⟩
    · exact fun hmem => by
        obtain ⟨approval, happroval, hid⟩ := List.mem_map.mp hmem
        exact hunapproved approval happroval hid
    · exact fun hmem => by
        obtain ⟨approval, happroval, hkey⟩ := List.mem_map.mp hmem
        exact hkeys approval happroval hkey
    · exact fun old hold hother => absurd ((hinv.heads old hold).1.trans hproject.symm) hother
  refine ⟨hdecides, ?_⟩
  simp only [approveBookSetup, requireTimestamp, requireIdempotencyKey, hnone, bind_eq_ok,
    require_eq_ok, exists_const, fetch_eq_ok, pure_eq_ok]
  exact ⟨htrimmed.createdAt, htrimmed.idempotencyKey, htrimmed.authorizedBy, row,
    happrovable.stored, ⟨happrovable.version, happrovable.status⟩, hproject ▸ hhead, activation,
    hactivation, ⟨hplan, hfp⟩, (), happrovable.valid, _, hinsert, rfl⟩

end Approve

/-! ## Calls -/

/-- One transaction with its arguments. `start` and `approve` are the two of an approval. -/
inductive SetupCall (Fp : Type) where
  | plan (call : PlanCall Fp)
  | propose (proposal : SetupProposal Fp)
  | start (request : SetupApproval) (ids : SetupPlanIds)
  | approve (decision : SetupDecision Fp)

def SetupCall.isApprove : SetupCall Fp → Bool
  | approve _ => true
  | _ => false

section Runs

variable [Sha256 Fp] [DecidableEq Fp] [PrettyJson Fp]

namespace SetupCall

def exec (call : SetupCall Fp) (db : PlanDatabase Fp) : CoreResult (PlanDatabase Fp) :=
  match call with
  | plan call => call.exec db
  | propose proposal => Prod.snd <$> proposeBookSetup proposal db
  | start request ids => Prod.snd <$> startBookSetupApproval request ids db
  | approve decision => Prod.snd <$> approveBookSetup decision db

/-- The database after a call; a failed one is rolled back. -/
def apply (db : PlanDatabase Fp) (call : SetupCall Fp) : PlanDatabase Fp :=
  match call.exec db with
  | .ok next => next
  | .error _ => db

def run (db : PlanDatabase Fp) (calls : List (SetupCall Fp)) : PlanDatabase Fp :=
  calls.foldl apply db

variable {db next : PlanDatabase Fp} {call : SetupCall Fp}

theorem apply_cases (db : PlanDatabase Fp) (call : SetupCall Fp) :
    call.exec db = .ok (apply db call) ∨ apply db call = db := by
  rw [apply]
  cases h : call.exec db with
  | ok next => exact .inl rfl
  | error e => exact .inr rfl

theorem inv_of_exec (h : call.exec db = .ok next) (hinv : db.SetupInv) : next.SetupInv := by
  cases call with
  | plan call => exact hinv.planProgress (PlanCall.progress h) (hinv.bound.planCall h)
  | propose proposal =>
    obtain ⟨receipt, h⟩ := snd_map_eq_ok h
    exact hinv.propose h
  | start request ids =>
    obtain ⟨start, h⟩ := snd_map_eq_ok h
    refine hinv.planProgress (startBookSetupApproval_progress h) ?_
    obtain ⟨rfl, -⟩ | ⟨row, -, h⟩ := startBookSetupApproval_eq_ok h
    · exact hinv.bound
    obtain ⟨rfl, -⟩ | h := startSetupPlan_eq_ok h
    · exact hinv.bound
    obtain ⟨_, _, _, -, -, -, -, -, -, -, -, -, -, -, hsaved⟩ := activateBookSetupPlan_eq_ok h
    exact hinv.bound.saveAndActivate hsaved
  | approve decision =>
    obtain ⟨receipt, h⟩ := snd_map_eq_ok h
    obtain ⟨-, rfl | ⟨row, hdecides, rfl⟩⟩ := approveBookSetup_eq_ok h
    · exact hinv
    · exact hinv.tables hdecides

theorem inv_run (calls : List (SetupCall Fp)) (hinv : db.SetupInv) : (run db calls).SetupInv := by
  induction calls generalizing db with
  | nil => exact hinv
  | cons call calls ih =>
    refine ih ?_
    rcases apply_cases db call with h | h
    · exact inv_of_exec h hinv
    · exact h.symm ▸ hinv

theorem progress_of_exec (h : call.exec db = .ok next) (hcall : call.isApprove = false) :
    Progress db next := by
  cases call with
  | plan call => exact (PlanCall.progress h).progress
  | propose proposal =>
    obtain ⟨receipt, h⟩ := snd_map_eq_ok h
    exact proposeBookSetup_progress h
  | start request ids =>
    obtain ⟨start, h⟩ := snd_map_eq_ok h
    exact (startBookSetupApproval_progress h).progress
  | approve decision => cases hcall

theorem progress_run {calls : List (SetupCall Fp)}
    (hcalls : ∀ call ∈ calls, call.isApprove = false) : Progress db (run db calls) := by
  induction calls generalizing db with
  | nil => exact .refl db
  | cons call calls ih =>
    have hstep : Progress db (apply db call) := by
      rcases apply_cases db call with h | h
      · exact progress_of_exec h (hcalls call List.mem_cons_self)
      · rw [h]
        exact .refl db
    exact hstep.trans (ih fun call hcall => hcalls call (List.mem_cons_of_mem _ hcall))

end SetupCall

/-! ## Readiness -/

omit [Sha256 Fp] [PrettyJson Fp] in
/-- A ready setup is the head of its project, bound to the active book plan. -/
theorem PlanDatabase.requireBookSetupReady_eq_ok {db : PlanDatabase Fp} {projectId : String} :
    db.requireBookSetupReady projectId = .ok () ↔ ∃ head proposal activation,
      db.setupHead projectId = some head ∧ db.setupProposal head.setupId = some proposal ∧
      db.activeActivation bookTarget = some activation ∧ proposal.status = .approved ∧
      head.setupFingerprint = proposal.setupFingerprint ∧
      head.bookPlanId = activation.proposalId ∧
      head.bookPlanFingerprint = activation.proposalFingerprint := by
  simp only [requireBookSetupReady, bind_eq_ok, require_eq_ok, fetch_eq_ok,
    Option.filter_eq_some_iff, decide_eq_true_eq]
  constructor
  · rintro ⟨head, hhead, proposal, ⟨hproposal, hstatus⟩, activation, hactive, hbound⟩
    exact ⟨head, proposal, activation, hhead, hproposal, hactive, hstatus, hbound⟩
  · rintro ⟨head, proposal, activation, hhead, hproposal, hactive, hstatus, hbound⟩
    exact ⟨head, hhead, proposal, ⟨hproposal, hstatus⟩, activation, hactive, hbound⟩

/-- Only another book plan makes a ready setup unready. -/
theorem SetupCall.ready_apply {db : PlanDatabase Fp} (hinv : db.SetupInv) {projectId : String}
    (hready : db.requireBookSetupReady projectId = .ok ()) {call : SetupCall Fp}
    (hactive : (apply db call).activeActivation bookTarget = db.activeActivation bookTarget) :
    (apply db call).requireBookSetupReady projectId = .ok () := by
  obtain ⟨head, proposal, activation, hhead, hproposal, hactivation, hstatus, hbound⟩ :=
    PlanDatabase.requireBookSetupReady_eq_ok.mp hready
  have hkept : Progress db (apply db call) →
      (apply db call).requireBookSetupReady projectId = .ok () := fun hnext =>
    PlanDatabase.requireBookSetupReady_eq_ok.mpr ⟨head, proposal, activation,
      by rwa [PlanDatabase.setupHead, hnext.plan.heads], hnext.setupProposal hproposal,
      hactive.trans hactivation, hstatus, hbound⟩
  rcases apply_cases db call with h | h
  swap
  · exact hkept (h.symm ▸ .refl db)
  by_cases hcall : call.isApprove = false
  · exact hkept (progress_of_exec h hcall)
  cases call with
  | approve decision =>
    obtain ⟨receipt, happrove⟩ := snd_map_eq_ok h
    obtain ⟨-, hsame | ⟨row, hdecides, hnext⟩⟩ := approveBookSetup_eq_ok happrove
    · exact hkept (hsame.symm ▸ .refl db)
    · have hproject : projectId = db.project.projectId :=
        (Table.lookup_key hhead).symm.trans (hinv.heads head (Table.lookup_mem hhead)).1
      rw [hnext, hproject]
      exact hdecides.ready
  | plan | propose | start => exact absurd rfl hcall

/-! ## Main results -/

/-- A state that calls reach from a project without plans. -/
def SetupReachable (project : Database Fp) (db : PlanDatabase Fp) : Prop :=
  ∃ calls, SetupCall.run (.unplanned project) calls = db

theorem SetupReachable.inv {project : Database Fp} {db : PlanDatabase Fp}
    (hproject : project.validateNovelTopology = .ok ()) (h : SetupReachable project db) :
    db.SetupInv := by
  obtain ⟨calls, rfl⟩ := h
  exact SetupCall.inv_run calls (.unplanned hproject)

theorem SetupReachable.run {project : Database Fp} {db : PlanDatabase Fp}
    (h : SetupReachable project db) (calls : List (SetupCall Fp)) :
    SetupReachable project (SetupCall.run db calls) := by
  obtain ⟨before, rfl⟩ := h
  exact ⟨before ++ calls, List.foldl_append⟩

/-- In every reachable state, a new setup of the project for the current setup version, under
an id and a key that are not used, is accepted when no proposal has its content, and only then. -/
theorem proposeBookSetup_iff_new {project : Database Fp} {db : PlanDatabase Fp}
    (hproject : project.validateNovelTopology = .ok ()) (hreachable : SetupReachable project db)
    {p : SetupProposal Fp} (hvalid : p.artifact.validate = .ok ())
    (hbound : p.artifact.projectId = db.project.projectId)
    (hversion : p.expectedSetupVersion = db.setupVersion db.project.projectId)
    (hcreated : requireTimestamp p.createdAt = .ok ())
    (hkey : requireIdempotencyKey p.idempotencyKey = .ok ())
    (hfreshId : p.setupId ∉ db.bookSetupProposals.map (·.setupId))
    (hfreshKey : p.idempotencyKey ∉ db.bookSetupProposals.map (·.idempotencyKey)) :
    (∃ receipt next, proposeBookSetup p db = .ok (receipt, next)) ↔
      p.artifact.fingerprint ∉ db.bookSetupProposals.map (·.setupFingerprint) := by
  have hinv := hreachable.inv hproject
  have hnone : Table.lookup BookSetupProposalRow.idempotencyKey p.idempotencyKey
      db.bookSetupProposals = none := Table.lookup_eq_none.mpr fun row hrow hsame =>
    hfreshKey (List.mem_map.mpr ⟨row, hrow, hsame⟩)
  have hhead : p.expectedSetupVersion < 2 ^ 63 := by
    rw [hversion, PlanDatabase.setupVersion]
    cases hlookup : db.setupHead db.project.projectId with
    | none => simp
    | some head => exact (hinv.heads head (Table.lookup_mem hlookup)).2
  have hplan : db.currentVersion bookTarget < 2 ^ 63 := by
    rw [PlanDatabase.currentVersion]
    cases hlookup : db.activeActivation bookTarget with
    | none => simp
    | some activation =>
      exact (hinv.bound.activations activation (List.mem_of_find?_eq_some hlookup)).1.version
  -- the constraint is over the project, and all proposals are of the project
  have hcontent : (p.artifact.projectId, p.artifact.fingerprint) ∉
      db.bookSetupProposals.map (fun old => (old.projectId, old.setupFingerprint)) ↔
      p.artifact.fingerprint ∉ db.bookSetupProposals.map (·.setupFingerprint) := by
    simp only [List.mem_map, not_exists, not_and, Prod.mk.injEq]
    refine forall₂_congr fun row hrow => ?_
    simp [hinv.projects row hrow, hbound]
  rw [← hcontent]
  simp only [proposeBookSetup, PlanDatabase.insertSetupProposal, bindInteger, hnone, bind_eq_ok,
    require_eq_ok, exists_const, pure_eq_ok]
  constructor
  · rintro ⟨receipt, next, _, -, _, -, _, -, -, -, _, ⟨-, -, -, -, hnew, -, -⟩, -⟩
    exact hnew
  · intro hnew
    exact ⟨_, _, (), hvalid, (), hcreated, (), hkey, hbound.symm, hbound ▸ hversion.symm, _,
      ⟨hhead, hplan, hfreshId, hfreshKey, hnew, hbound, rfl⟩, rfl⟩

end Runs

namespace Sample

/-- A project in which a setup was proposed. -/
def proposed : PlanDatabase Digest :=
  SetupCall.run (.unplanned (initialProject "novel" "Harbour" "t0"))
    [.propose (proposal "a" "q1" "S1")]

/-- The setup was approved, after its plan was activated. -/
def approved : PlanDatabase Digest :=
  let planned := SetupCall.run proposed [.start (approval "author") ⟨"P1", "D1"⟩]
  SetupCall.run planned [.approve (decision (approval "author") planned)]

theorem proposed_reachable :
    SetupReachable (initialProject "novel" "Harbour" "t0") proposed := ⟨_, rfl⟩

theorem approved_reachable :
    SetupReachable (initialProject "novel" "Harbour" "t0") approved :=
  (proposed_reachable.run _).run _

end Sample

theorem proposeBookSetup_new_sample : ∃ receipt next,
    proposeBookSetup (Sample.proposal "a" "q1" "S1")
      (.unplanned (initialProject "novel" "Harbour" "t0")) = .ok (receipt, next) := by
  refine (proposeBookSetup_iff_new ?_ ⟨[], rfl⟩ ?_ ?_ ?_ ?_ ?_ ?_ ?_).mpr ?_
  all_goals decide +kernel

/-- The content of an older proposal is refused, although its setup is of the current version
and the book plan has changed since. -/
theorem proposeBookSetup_repeat_refused :
    ∃ (db : PlanDatabase Digest) (p : SetupProposal Digest),
      SetupReachable (initialProject "novel" "Harbour" "t0") db ∧
      p.artifact.validate = .ok () ∧ p.artifact.projectId = db.project.projectId ∧
      p.expectedSetupVersion = db.setupVersion db.project.projectId ∧
      requireTimestamp p.createdAt = .ok () ∧ requireIdempotencyKey p.idempotencyKey = .ok () ∧
      p.setupId ∉ db.bookSetupProposals.map (·.setupId) ∧
      p.idempotencyKey ∉ db.bookSetupProposals.map (·.idempotencyKey) ∧
      (∃ row ∈ db.bookSetupProposals, row.setup = p.artifact ∧
        row.expectedBookPlanVersion < db.currentVersion bookTarget) ∧
      proposeBookSetup p db = .error (uniqueFailed
        "book_setup_proposals.project_id, book_setup_proposals.setup_fingerprint") := by
  refine ⟨Sample.approved, { Sample.proposal "a" "q2" "S2" with expectedSetupVersion := 1 },
    Sample.approved_reachable, ?_⟩
  decide +kernel

section Runs

variable [Sha256 Fp] [DecidableEq Fp] [PrettyJson Fp]

/-- In every reachable state:

* an approval request that starts is answered as before, or leaves its plan active. As long as
  no other book plan is activated and no approval is written, starting again finds the same plan
  and changes nothing, and for a trimmed decision on the current setup version the second
  transaction ends in the head that it would have written at once, ready under the active plan;
* a failed call changes nothing;
* a ready setup is bound to the active book plan, and stays ready until another is activated. -/
theorem setupApproval_resumes [CollisionFree Fp] {project : Database Fp} {db : PlanDatabase Fp}
    (hproject : project.validateNovelTopology = .ok ()) (hreachable : SetupReachable project db) :
    (∀ request ids start next, startBookSetupApproval request ids db = .ok (start, next) →
      ids.decisionId ∉ db.planActivations.map (·.activationId) →
      (next = db ∧ ∃ approval head, start = .replayed (replayedReceipt approval head) ∧
        db.setupHead db.project.projectId = some head ∧ head.setupId = request.setupId ∧
        head.version = request.expectedVersion + 1) ∨
      ∃ planId fingerprint, start = .planned planId fingerprint ∧
        (∃ activation, next.activeActivation bookTarget = some activation ∧
          activation.proposalId = planId ∧ activation.proposalFingerprint = fingerprint) ∧
        ∀ between, (∀ call ∈ between, SetupCall.isApprove call = false) →
          let later := SetupCall.run next between
          later.activeActivation bookTarget = next.activeActivation bookTarget →
          (∀ ids, startBookSetupApproval request ids later = .ok (start, later)) ∧
          ∀ decision : SetupDecision Fp, decision.request = request →
            decision.bookPlanId = planId → decision.bookPlanFingerprint = fingerprint →
            decision.Trimmed →
            db.setupVersion db.project.projectId = request.expectedVersion →
            request.expectedVersion + 1 < 2 ^ 63 →
            decision.approvalId ∉ db.bookSetupApprovals.map (·.approvalId) →
            ∃ receipt uninterrupted after,
              approveBookSetup decision next = .ok (receipt, uninterrupted) ∧
              approveBookSetup decision later = .ok (receipt, after) ∧
              after.bookSetupHeads = uninterrupted.bookSetupHeads ∧
              after.activeActivation bookTarget = uninterrupted.activeActivation bookTarget ∧
              after.requireBookSetupReady db.project.projectId = .ok ()) ∧
    (∀ call error, SetupCall.exec call db = .error error → SetupCall.apply db call = db) ∧
    (∀ projectId, db.requireBookSetupReady projectId = .ok () →
      ∃ head activation, db.setupHead projectId = some head ∧
        db.activeActivation bookTarget = some activation ∧
        head.bookPlanId = activation.proposalId ∧
        head.bookPlanFingerprint = activation.proposalFingerprint) ∧
    ∀ projectId call, db.requireBookSetupReady projectId = .ok () →
      (SetupCall.apply db call).activeActivation bookTarget = db.activeActivation bookTarget →
      (SetupCall.apply db call).requireBookSetupReady projectId = .ok () := by
  have hinv := hreachable.inv hproject
  refine ⟨fun request ids start next h hfresh => ?_, fun call error herror => ?_,
    fun projectId hready => ?_, fun projectId call hready => SetupCall.ready_apply hinv hready⟩
  · have hprogress := startBookSetupApproval_progress h
    have hnextInv : next.SetupInv := by
      have hexec : (SetupCall.start request ids).exec db = .ok next := by
        simp only [SetupCall.exec, h]
        rfl
      exact SetupCall.inv_of_exec hexec hinv
    obtain ⟨rfl, approval, head, hfound, hversion, rfl⟩ | ⟨row, happrovable, hplan⟩ :=
      startBookSetupApproval_eq_ok h
    · simp only [PlanDatabase.approvalOf, Option.bind_eq_bind, Option.bind_eq_some_iff,
        Option.pure_def, Option.some.injEq, Prod.mk.injEq] at hfound
      obtain ⟨stored, hstored, found, hhead, rfl, rfl⟩ := hfound
      have hsetup : stored.setupId = request.setupId ∧
          stored.idempotencyKey = request.idempotencyKey := by
        simpa using List.find?_some hstored
      have hmem := Table.lookup_mem hhead
      refine .inl ⟨rfl, stored, found, rfl, ?_, (Table.lookup_key hhead).trans hsetup.1, hversion⟩
      rw [PlanDatabase.setupHead, ← (hinv.heads found hmem).1]
      exact Table.lookup_of_mem hinv.head hmem
    · obtain ⟨planId, fingerprint, rfl, hinterrupted⟩ := startSetupPlan_interrupted
        (fun row hrow => (hinv.bound.activations row hrow).1) hfresh hplan
      refine .inr ⟨planId, fingerprint, rfl, hinterrupted.active, fun between hbetween => ?_⟩
      intro later hactive
      have hlater : Progress next later := SetupCall.progress_run hbetween
      have hlaterInv : later.SetupInv := SetupCall.inv_run between hnextInv
      have hresumed := hinterrupted.progress hlater hactive
      have hnextApprovable := happrovable.progress hprogress.progress
      have hlaterApprovable := hnextApprovable.progress hlater
      refine ⟨fun ids => ?_, ?_⟩
      · rw [hlaterApprovable.start_eq, hresumed.start]
      rintro decision rfl rfl rfl htrimmed hversion hbound hfreshApproval
      have hnextHead : next.setupVersion next.project.projectId =
          decision.request.expectedVersion := by
        rw [PlanDatabase.setupVersion, PlanDatabase.setupHead, hprogress.heads, hprogress.project]
        exact hversion
      have hlaterHead : later.setupVersion later.project.projectId =
          decision.request.expectedVersion := by
        rw [PlanDatabase.setupVersion, PlanDatabase.setupHead, hlater.plan.heads,
          hlater.plan.project]
        exact hnextHead
      obtain ⟨-, hatOnce⟩ := approveBookSetup_succeeds hnextInv
        hnextApprovable htrimmed hinterrupted.active hnextHead hbound
        (hprogress.approvals ▸ hfreshApproval)
      obtain ⟨hdecides, hretried⟩ := approveBookSetup_succeeds hlaterInv
        hlaterApprovable htrimmed hresumed.active hlaterHead hbound
        (hlater.plan.approvals ▸ hprogress.approvals ▸ hfreshApproval)
      refine ⟨_, _, _, hatOnce, hretried, ?_, hactive, ?_⟩
      · simp only [SetupDecision.tables, hlater.plan.heads]
      · rw [← hprogress.project, ← hlater.plan.project]
        exact hdecides.ready
  · rw [SetupCall.apply, herror]
  · obtain ⟨head, -, activation, hhead, -, hactive, -, -, hbound⟩ :=
      PlanDatabase.requireBookSetupReady_eq_ok.mp hready
    exact ⟨head, activation, hhead, hactive, hbound⟩

end Runs

/-- The plan of the sample request, activated. -/
def Sample.planned (authorizedBy : String) :
    CoreResult (ApprovalStart Digest × PlanDatabase Digest) :=
  startBookSetupApproval (approval authorizedBy) ⟨"P1", "D1"⟩ proposed

/-- Another setup was proposed after the approval, and its book plan activated. -/
def Sample.superseded : PlanDatabase Digest :=
  SetupCall.run approved [.propose { proposal "b" "q2" "S2" with expectedSetupVersion := 1 },
    .start ⟨"novel", "S2", 1, "author", "k2"⟩ ⟨"P2", "D2"⟩]

theorem setupApproval_resumes_sample : ∃ start next receipt after,
    Sample.planned "author" = .ok (start, next) ∧
    approveBookSetup (Sample.decision (Sample.approval "author") next) next =
      .ok (receipt, after) ∧
    after.requireBookSetupReady "novel" = .ok () := by
  have hok : (Sample.planned "author").isOk = true := by decide +kernel
  cases hstart : Sample.planned "author" with
  | error error => simp [hstart, Except.isOk, Except.toBool] at hok
  | ok result =>
    obtain ⟨start, next⟩ := result
    obtain ⟨hnew, -⟩ | ⟨planId, fingerprint, -, ⟨activation, hactive, rfl, rfl⟩, hresumes⟩ :=
      (setupApproval_resumes (by decide +kernel) Sample.proposed_reachable).1 _ _ _ _ hstart
        (by decide +kernel)
    · have hchanged : (Sample.planned "author").toOption.map (·.2) ≠ some Sample.proposed := by
        decide +kernel
      exact absurd (by simp [hstart, hnew, Except.toOption]) hchanged
    · have htrimmed : ∀ value ∈ ["t2", "k1", "author"], ¬ blank value ∧ value = trim value := by
        decide +kernel
      obtain ⟨receipt, -, after, -, hafter, -, -, hready⟩ :=
        (hresumes [] (by simp) rfl).2 (Sample.decision (Sample.approval "author") next) rfl
          (by simp [Sample.decision, hactive])
          (by simp [Sample.decision, PlanDatabase.activeFingerprint, hactive])
          ⟨htrimmed "t2" (by decide), htrimmed "k1" (by decide), htrimmed "author" (by decide)⟩
          rfl (by decide) List.not_mem_nil
      exact ⟨start, next, receipt, after, rfl, hafter, hready⟩

/-- An approver that is not trimmed gets the plan activated and never the setup, and a ready head
stays behind when another book plan is activated. -/
theorem setupApproval_not_atomic :
    (∃ (db next : PlanDatabase Digest) (request : SetupApproval) (ids : SetupPlanIds)
        (start : ApprovalStart Digest),
      SetupReachable (initialProject "novel" "Harbour" "t0") db ∧
      startBookSetupApproval request ids db = .ok (start, next) ∧
      next.activeActivation bookTarget ≠ db.activeActivation bookTarget ∧
      ∀ (later : PlanDatabase Digest) (decision : SetupDecision Digest),
        decision.request = request → ∀ result, approveBookSetup decision later ≠ .ok result) ∧
    ∃ (db : PlanDatabase Digest) (head : BookSetupHeadRow Digest)
        (activation : PlanActivationRow Digest),
      SetupReachable (initialProject "novel" "Harbour" "t0") db ∧
      db.setupHead "novel" = some head ∧ db.activeActivation bookTarget = some activation ∧
      head.bookPlanId ≠ activation.proposalId := by
  constructor
  · have hchanged : ((Sample.planned "author ").toOption.map
        fun result => decide (result.2.activeActivation bookTarget ≠
          Sample.proposed.activeActivation bookTarget)) = some true := by
      decide +kernel
    cases hstart : Sample.planned "author " with
    | error error => simp [hstart, Except.toOption] at hchanged
    | ok result =>
      refine ⟨Sample.proposed, result.2, Sample.approval "author ", ⟨"P1", "D1"⟩, result.1,
        Sample.proposed_reachable, hstart, ?_, ?_⟩
      · simpa [hstart, Except.toOption] using hchanged
      · rintro later decision hrequest ⟨receipt, next⟩ happroved
        have htrimmed := (approveBookSetup_eq_ok happroved).1.authorizedBy.2
        rw [hrequest] at htrimmed
        exact absurd htrimmed (by decide +kernel)
  · have hplans : (Sample.superseded.setupHead "novel").map (·.bookPlanId) = some "P1" ∧
        (Sample.superseded.activeActivation bookTarget).map (·.proposalId) = some "P2" := by
      decide +kernel
    obtain ⟨head, hhead, hbound⟩ := Option.map_eq_some_iff.mp hplans.1
    obtain ⟨activation, hactive, hplan⟩ := Option.map_eq_some_iff.mp hplans.2
    refine ⟨Sample.superseded, head, activation, Sample.approved_reachable.run _, hhead, hactive,
      ?_⟩
    rw [hbound, hplan]
    decide

end Quillframe
