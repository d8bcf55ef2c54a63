import Quillframe.Cancellation
import Quillframe.Process

/-!
# Model stages of a run

`execute_model_stage` looks the stage up, dispatches it, sends its request to the provider and
stores the answer. Each access to the store is a transaction of its own, and any number of
callers may be between two of them.
-/
namespace Quillframe

variable {Fp : Type}

/-! ## Store operations of the bridge -/

/-- The store calls an execution makes, with the answers they give. -/
inductive StoreOp (Fp : Type) : Type → Type where
  | productionStageCall (runId stageKey : String) : StoreOp Fp (Option (StageCallRow Fp))
  | dispatchStage (runId : String) (job : StageJob Fp) (ownerToken : String) (deadlineAtMs : ℕ)
      (createdAt uuid : String) : StoreOp Fp String
  | appendRuntimeEvent (runId eventKind : String) (payload : Json Fp)
      (createdAt uuid : String) : StoreOp Fp String
  | recordSceneCheckpoint (runId stageKey sceneId : String)
      (stageResultFingerprint manuscriptFingerprint : Fp) (createdAt : String) : StoreOp Fp Unit
  | run (op : RunOp Fp) : StoreOp Fp Unit

section Store

variable [Sha256 Fp] [DecidableEq Fp]

/-- A stored call as `production_stage_calls` reads it. -/
def StageCallRow.read (call : StageCallRow Fp) : CoreResult (StageCallRow Fp) := do
  call.job.validate
  match call.result with
  | some result =>
    result.validate
    require (call.resultFingerprint = some result.fingerprint ∧
        result.requestId = call.job.modelRequest.requestId)
      (.authorityConflict "persisted stage result binding changed")
  | none =>
    require (call.resultFingerprint = none)
      (.authorityConflict "persisted stage result fingerprint has no artifact")
  return call

def Database.productionStageCalls (db : Database Fp) (runId : String) :
    CoreResult (List (StageCallRow Fp)) :=
  (db.stageCalls.filter fun call => call.runId = runId).mapM StageCallRow.read

def Database.productionStageCall (db : Database Fp) (runId stageKey : String) :
    CoreResult (Option (StageCallRow Fp)) := do
  let calls ← db.productionStageCalls runId
  return calls.find? fun call => call.job.stageKey = stageKey

def appendRuntimeEvent (runId eventKind : String) (payload : Json Fp) (createdAt uuid : String)
    (db : Database Fp) : CoreResult (String × Database Fp) := do
  requireTimestamp createdAt
  require (¬ blank eventKind) (.authorityConflict "runtime event kind is required")
  let eventId := "event-" ++ uuid
  let db ← db.insertRuntimeEvent { eventId, runId, eventKind, payload, createdAt }
  return (eventId, db)

def recordSceneCheckpoint (runId stageKey sceneId : String)
    (stageResultFingerprint manuscriptFingerprint : Fp) (createdAt : String)
    (db : Database Fp) : CoreResult (Unit × Database Fp) := do
  requireTimestamp createdAt
  require (¬ (blank stageKey ∨ blank sceneId))
    (.authorityConflict "scene checkpoint identity is incomplete")
  let checkpointId := "checkpoint-scene-" ++ runId ++ "-" ++ stageKey
  let state : Json Fp := .obj [("manuscript_fingerprint", .fp manuscriptFingerprint),
    ("scene_id", .str sceneId), ("schema", .str "quillframe_scene_checkpoint_v1"),
    ("stage_key", .str stageKey), ("stage_result_fingerprint", .fp stageResultFingerprint)]
  match Table.lookup CheckpointRow.checkpointId checkpointId db.checkpoints with
  | some existing =>
    require (existing.state = state ∧ existing.artifactFingerprint = manuscriptFingerprint)
      (.authorityConflict "scene checkpoint changed after confirmation")
    return ((), db)
  | none =>
    require (db.confirmedCount runId [stageKey] stageResultFingerprint = 1)
      (.authorityConflict "scene checkpoint requires its exact confirmed stage")
    let db ← db.insertCheckpoint
      { checkpointId, runId, checkpointKind := "scene_surface_confirmed", state,
        artifactFingerprint := manuscriptFingerprint, createdAt }
    return ((), db)

variable [Documents Fp]

def StoreOp.exec {β : Type} (op : StoreOp Fp β) (db : Database Fp) :
    CoreResult (β × Database Fp) :=
  match op with
  | productionStageCall runId stageKey => do
    let call ← db.productionStageCall runId stageKey
    return (call, db)
  | dispatchStage runId job ownerToken deadlineAtMs createdAt uuid =>
    Quillframe.dispatchStage runId job ownerToken deadlineAtMs createdAt uuid db
  | appendRuntimeEvent runId eventKind payload createdAt uuid =>
    Quillframe.appendRuntimeEvent runId eventKind payload createdAt uuid db
  | recordSceneCheckpoint runId stageKey sceneId stageResult manuscript createdAt =>
    Quillframe.recordSceneCheckpoint runId stageKey sceneId stageResult manuscript createdAt db
  | run op => do
    let db ← op.exec db
    return ((), db)

end Store

/-! ## Executing a stage -/

/-- A request that costs money, with the stage it is sent for. -/
structure PaidRequest (Fp : Type) where
  runId : String
  job : StageJob Fp

/-- Callers of the store whose requests go to a model provider. -/
abbrev ModelProcess (Fp α : Type) :=
  Process (StoreOp Fp) CoreError (PaidRequest Fp) (CoreResult (ModelResult Fp)) α

/-- What `PromptAssembly::build` makes of the stage input; `short` stands for the sixteen
characters of the fingerprint that name the request. -/
structure PromptAssembly (Fp : Type) where
  systemText : String
  userText : String
  short : String
  fingerprint : Fp

/-- The arguments of one stage execution. -/
structure StageCommand (Fp : Type) where
  runId : String
  model : String
  stageKey : String
  runtimeRole : String
  assembly : CoreResult (PromptAssembly Fp)
  maxOutputTokens : ℕ
  temperature : Decimal

/-- The clock readings and ids an execution draws. -/
structure StageStamps where
  ownerToken : String
  deadlineAtMs : ℕ
  dispatchedAt : String
  callUuid : String
  settledAt : String
  eventUuid : String

def productionModelDeadlineMs : ℕ := 180000

section Execute

variable [Sha256 Fp] [DecidableEq Fp]

def StageCommand.request (command : StageCommand Fp) (assembly : PromptAssembly Fp) :
    ModelRequest where
  requestId := "model-" ++ command.stageKey ++ "-" ++ assembly.short
  model := command.model
  system := assembly.systemText
  user := assembly.userText
  temperature := some command.temperature
  maxOutputTokens := some command.maxOutputTokens
  absoluteDeadlineMs := productionModelDeadlineMs

/-- What a stored call answers to an execution of its stage. -/
def StageCallRow.answer (call : StageCallRow Fp) (stageKey : String) (inputFingerprint : Fp) :
    CoreResult (ModelResult Fp) := do
  require (call.job.inputFingerprint = inputFingerprint)
    (.authorityConflict ("stage " ++ stageKey ++ " input changed after dispatch"))
  match call.state, call.result with
  | .confirmed, some result => return result
  | .dispatched, _ | .unconfirmed, _ =>
    throw (.modelRuntime "unconfirmed_model_outcome: stage will not be sent twice")
  | _, _ => throw (.authorityConflict ("stage " ++ stageKey ++ " is not executable"))

/-- Stores what the provider answered. -/
def settleStage (runId : String) (job : StageJob Fp) (stamps : StageStamps) (callId : String) :
    CoreResult (ModelResult Fp) → ModelProcess Fp (ModelResult Fp)
  | .ok result => do
    .perform (.run (.confirm callId result stamps.settledAt))
    let _ ← .perform (.appendRuntimeEvent runId "production_stage_confirmed"
      (.obj [("result_fingerprint", .fp result.fingerprint), ("stage_key", .str job.stageKey)])
      stamps.settledAt stamps.eventUuid)
    return result
  | .error error => do
    .perform (.run (.markUnconfirmed callId "model_transport_unconfirmed" stamps.settledAt))
    let _ ← .perform (.appendRuntimeEvent runId "production_stage_unconfirmed"
      (.obj [("error_code", .str "model_transport_unconfirmed"), ("stage_key", .str job.stageKey)])
      stamps.settledAt stamps.eventUuid)
    .done (.error error)

def executeModelStage (command : StageCommand Fp) (stamps : StageStamps) :
    ModelProcess Fp (ModelResult Fp) := do
  let assembly ← .ofExcept command.assembly
  match ← .perform (.productionStageCall command.runId command.stageKey) with
  | some call => .ofExcept (call.answer command.stageKey assembly.fingerprint)
  | none =>
    let job ← .ofExcept (StageJob.freeze command.stageKey command.runtimeRole
      (command.request assembly) assembly.fingerprint)
    let callId ← .perform (.dispatchStage command.runId job stamps.ownerToken stamps.deadlineAtMs
      stamps.dispatchedAt stamps.callUuid)
    let response ← .request ⟨command.runId, job⟩
    settleStage command.runId job stamps callId response

/-- A stage whose request can be built: a lookup, a dispatch, a request and its settlement. -/
theorem executeModelStage_eq {command : StageCommand Fp} {assembly : PromptAssembly Fp}
    {job : StageJob Fp} (hassembly : command.assembly = .ok assembly)
    (hjob : StageJob.freeze command.stageKey command.runtimeRole (command.request assembly)
      assembly.fingerprint = .ok job) (stamps : StageStamps) :
    executeModelStage command stamps =
      .transact (.productionStageCall command.runId command.stageKey) fun found =>
        match found with
        | some call => .done (call.answer command.stageKey assembly.fingerprint)
        | none => .transact (.dispatchStage command.runId job stamps.ownerToken
            stamps.deadlineAtMs stamps.dispatchedAt stamps.callUuid) fun callId =>
              .send ⟨command.runId, job⟩ (settleStage command.runId job stamps callId) := by
  rw [executeModelStage, hassembly]
  refine congrArg (Process.transact _) (funext fun found => ?_)
  cases found with
  | some call => rfl
  | none =>
    change Process.bind (.ofExcept (StageJob.freeze _ _ _ _)) _ = _
    rw [hjob]
    rfl

end Execute

/-! ## What a store operation does to the journal -/

/-- The stages that have a call, with their runs. -/
def Database.stageKeys (db : Database Fp) : List (String × String) :=
  db.stageCalls.map fun call => (call.runId, call.stageKey)

/-- The stage an operation dispatches. -/
def StoreOp.dispatches {β : Type} : StoreOp Fp β → Option (String × String)
  | dispatchStage runId job _ _ _ _ => some (runId, job.stageKey)
  | run (.dispatch runId job _ _ _ _) => some (runId, job.stageKey)
  | _ => none

theorem Journal.Step.keys_subset {j k : Journal Fp} (h : Journal.Step j k)
    {key : String × String} (hkey : key ∈ j.calls.map fun call => (call.runId, call.stageKey)) :
    key ∈ k.calls.map fun call => (call.runId, call.stageKey) := by
  obtain ⟨call, hcall, rfl⟩ := List.mem_map.mp hkey
  cases h with
  | skip => exact hkey
  | insert =>
    rw [List.map_append]
    exact List.mem_append_left _ hkey
  | confirm =>
    refine List.mem_map.mpr ⟨_, Table.mem_updateWhere.mpr ⟨call, hcall, rfl⟩, ?_⟩
    split_ifs <;> rfl
  | reopen =>
    refine List.mem_map.mpr ⟨_, Table.mem_updateWhere.mpr ⟨call, hcall, rfl⟩, ?_⟩
    split_ifs <;> rfl

section Effects

variable [Sha256 Fp] [DecidableEq Fp] [Documents Fp]

theorem RunOp.journal {op : RunOp Fp} {db db' : Database Fp} (h : op.exec db = .ok db') :
    Journal.Step db.journal db'.journal := by
  cases op with
  | dispatch =>
    obtain ⟨callId, h⟩ := snd_map_eq_ok h
    exact dispatchStage_journal h
  | confirm =>
    obtain ⟨_, h⟩ := snd_map_eq_ok h
    exact confirmStage_journal h
  | confirmDerived =>
    obtain ⟨_, h⟩ := snd_map_eq_ok h
    exact confirmDerivedStage_journal h
  | markUnconfirmed =>
    obtain ⟨_, h⟩ := snd_map_eq_ok h
    exact markStageUnconfirmed_journal h
  | setStatus =>
    obtain ⟨_, h⟩ := snd_map_eq_ok h
    obtain rfl := setRunStatus_eq_ok h
    exact .skip _
  | failedGate =>
    obtain ⟨_, h⟩ := snd_map_eq_ok h
    obtain ⟨checkpoints, events, rfl⟩ := recordFailedGate_eq_ok h
    exact .skip _
  | freezeContext =>
    obtain ⟨_, h⟩ := snd_map_eq_ok h
    obtain ⟨-, selections, freezes, dependencies, -, rfl⟩ := persistWriterContextFreeze_eq_ok h
    exact .skip _
  | commit =>
    obtain ⟨_, h⟩ := snd_map_eq_ok h
    obtain ⟨-, -, bounded, receipt, checkpoint, event, -, -, -, rfl⟩ :=
      commitReleasedCandidate_eq_ok h
    exact .skip _
  | cancel =>
    obtain ⟨answer, h⟩ := snd_map_eq_ok h
    exact cancelProduction_journal h

omit [Sha256 Fp] [DecidableEq Fp] [Documents Fp] in
theorem appendRuntimeEvent_eq_ok {runId eventKind : String} {payload : Json Fp}
    {createdAt uuid eventId : String} {db db' : Database Fp}
    (h : appendRuntimeEvent runId eventKind payload createdAt uuid db = .ok (eventId, db')) :
    ∃ events, db' = { db with runtimeEvents := events } := by
  simp only [appendRuntimeEvent, bind_eq_ok, require_eq_ok, exists_const, pure_eq_ok,
    Prod.mk.injEq] at h
  obtain ⟨_, -, -, evented, hevented, -, rfl⟩ := h
  exact ⟨_, Database.insertRuntimeEvent_eq_ok hevented⟩

omit [Sha256 Fp] [Documents Fp] in
theorem recordSceneCheckpoint_eq_ok {runId stageKey sceneId : String}
    {stageResult manuscript : Fp} {createdAt : String} {u : Unit} {db db' : Database Fp}
    (h : recordSceneCheckpoint runId stageKey sceneId stageResult manuscript createdAt db =
      .ok (u, db')) : ∃ checkpoints, db' = { db with checkpoints := checkpoints } := by
  simp only [recordSceneCheckpoint, bind_eq_ok, require_eq_ok, exists_const] at h
  obtain ⟨_, -, -, h⟩ := h
  split at h
  · simp only [bind_eq_ok, require_eq_ok, exists_const, pure_eq_ok, Prod.mk.injEq] at h
    exact ⟨db.checkpoints, h.2.2.symm⟩
  · simp only [bind_eq_ok, require_eq_ok, exists_const, pure_eq_ok, Prod.mk.injEq] at h
    obtain ⟨-, inserted, hinserted, -, rfl⟩ := h
    exact ⟨_, Database.insertCheckpoint_eq_ok hinserted⟩

/-- Every operation of the bridge acts on the journal as one of its steps. -/
theorem StoreOp.journal {β : Type} {op : StoreOp Fp β} {answer : β} {db db' : Database Fp}
    (h : op.exec db = .ok (answer, db')) : Journal.Step db.journal db'.journal := by
  cases op with
  | productionStageCall =>
    simp only [exec, bind_eq_ok, pure_eq_ok, Prod.mk.injEq] at h
    obtain ⟨_, -, -, rfl⟩ := h
    exact .skip _
  | dispatchStage => exact dispatchStage_journal h
  | appendRuntimeEvent =>
    obtain ⟨events, rfl⟩ := appendRuntimeEvent_eq_ok h
    exact .skip _
  | recordSceneCheckpoint =>
    obtain ⟨checkpoints, rfl⟩ := recordSceneCheckpoint_eq_ok h
    exact .skip _
  | run op =>
    simp only [exec, bind_eq_ok, pure_eq_ok, Prod.mk.injEq] at h
    obtain ⟨_, hop, -, rfl⟩ := h
    exact op.journal hop

theorem StoreOp.stageKeys_subset {β : Type} {op : StoreOp Fp β} {answer : β}
    {db db' : Database Fp} (h : op.exec db = .ok (answer, db')) {key : String × String}
    (hkey : key ∈ db.stageKeys) : key ∈ db'.stageKeys := (StoreOp.journal h).keys_subset hkey

end Effects

/-! ## Paid requests -/

section Paid

variable {α : Type}

/-- A request is sent right after the dispatch of its stage, and nowhere else. -/
inductive Disciplined : ModelProcess Fp α → Prop
  | done (outcome : CoreResult α) : Disciplined (.done outcome)
  | store {β : Type} {op : StoreOp Fp β} {next : β → ModelProcess Fp α}
      (hop : op.dispatches = none) (h : ∀ answer, Disciplined (next answer)) :
      Disciplined (.transact op next)
  | dispatch {runId : String} {job : StageJob Fp} {ownerToken : String} {deadlineAtMs : ℕ}
      {createdAt uuid : String} {next : String → CoreResult (ModelResult Fp) → ModelProcess Fp α}
      (h : ∀ callId response, Disciplined (next callId response)) :
      Disciplined (.transact (.dispatchStage runId job ownerToken deadlineAtMs createdAt uuid)
        fun callId => .send ⟨runId, job⟩ (next callId))

theorem Disciplined.bind {β : Type} {process : ModelProcess Fp α} {rest : α → ModelProcess Fp β}
    (h : Disciplined process) (hrest : ∀ a, Disciplined (rest a)) :
    Disciplined (process.bind rest) := by
  induction h with
  | done outcome =>
    cases outcome with
    | ok a => exact hrest a
    | error e => exact .done _
  | store hop _ ih => exact .store hop ih
  | dispatch _ ih => exact .dispatch ih

theorem disciplined_perform {op : StoreOp Fp α} (hop : op.dispatches = none) :
    Disciplined (.perform op) := .store hop fun answer => .done (.ok answer)

variable [Sha256 Fp] [DecidableEq Fp]

omit [Sha256 Fp] [DecidableEq Fp] in
theorem disciplined_settleStage (runId : String) (job : StageJob Fp) (stamps : StageStamps)
    (callId : String) (response : CoreResult (ModelResult Fp)) :
    Disciplined (settleStage runId job stamps callId response) := by
  cases response with
  | ok result =>
    refine (disciplined_perform rfl).bind fun _ => ?_
    exact (disciplined_perform rfl).bind fun _ => .done _
  | error error =>
    refine (disciplined_perform rfl).bind fun _ => ?_
    exact (disciplined_perform rfl).bind fun _ => .done _

theorem disciplined_executeModelStage (command : StageCommand Fp) (stamps : StageStamps) :
    Disciplined (executeModelStage command stamps) := by
  refine Disciplined.bind (.done _) fun assembly => ?_
  refine (disciplined_perform rfl).bind fun found => ?_
  cases found with
  | some call => exact .done _
  | none =>
    refine Disciplined.bind (.done _) fun job => ?_
    exact .dispatch fun callId response =>
      disciplined_settleStage command.runId job stamps callId response

/-- A call of `author.run.execute`: stages, each executed with what the earlier ones returned,
and other accesses to the store between them. -/
inductive AuthorCall : ModelProcess Fp α → Prop
  | done (outcome : CoreResult α) : AuthorCall (.done outcome)
  | stage (command : StageCommand Fp) (stamps : StageStamps)
      {rest : ModelResult Fp → ModelProcess Fp α} (h : ∀ result, AuthorCall (rest result)) :
      AuthorCall ((executeModelStage command stamps).bind rest)
  | store {β : Type} {op : StoreOp Fp β} {next : β → ModelProcess Fp α}
      (hop : op.dispatches = none) (h : ∀ answer, AuthorCall (next answer)) :
      AuthorCall (.transact op next)

theorem AuthorCall.disciplined {process : ModelProcess Fp α} (h : AuthorCall process) :
    Disciplined process := by
  induction h with
  | done outcome => exact .done outcome
  | stage command stamps _ ih => exact (disciplined_executeModelStage command stamps).bind ih
  | store hop _ ih => exact .store hop ih

end Paid

/-! ## At most one request per stage -/

section Pools

variable {α : Type} [Sha256 Fp] [DecidableEq Fp] [Documents Fp]

/-- The callers of one bridge. The rest of the process leaves the stage calls alone. -/
def authorCalls (permits : ∀ {β : Type}, StoreOp Fp β → Database Fp → Prop) :
    Callers (StoreOp Fp) (Database Fp) CoreError (PaidRequest Fp) (CoreResult (ModelResult Fp))
      α where
  exec := StoreOp.exec
  permits := permits
  enters := AuthorCall
  environment db db' := db'.stageCalls = db.stageCalls

/-- A stage is dispatched only while it has no call. -/
def FirstDispatch {β : Type} (op : StoreOp Fp β) (db : Database Fp) : Prop :=
  ∀ key ∈ op.dispatches, key ∉ db.stageKeys

def PaidRequest.key (request : PaidRequest Fp) : String × String :=
  (request.runId, request.job.stageKey)

/-- The caller is about to send the request of a stage. -/
def armed (key : String × String) : ModelProcess Fp α → Bool
  | .send request _ => request.key = key
  | _ => false

abbrev ModelPool (Fp α : Type) :=
  Pool (StoreOp Fp) (Database Fp) CoreError (PaidRequest Fp) (CoreResult (ModelResult Fp)) α

/-- Requests of a stage that were sent or are about to be. -/
def ModelPool.due (pool : ModelPool Fp α) (key : String × String) : ℕ :=
  pool.sent.countP (fun request => request.key = key) + pool.callers.countP (armed key)

/-- Between two transactions, or about to send what it has just dispatched. -/
def Ready (caller : ModelProcess Fp α) : Prop :=
  Disciplined caller ∨
    ∃ request next, caller = .send request next ∧ ∀ response, Disciplined (next response)

/-- Every request belongs to a call that was not there at the start. -/
structure PaidInv (start : Database Fp) (pool : ModelPool Fp α) : Prop where
  ready : ∀ caller ∈ pool.callers, Ready caller
  kept : ∀ key ∈ start.stageKeys, key ∈ pool.state.stageKeys
  paid : ∀ key, ModelPool.due pool key ≤
    if key ∈ pool.state.stageKeys ∧ key ∉ start.stageKeys then 1 else 0

omit [Sha256 Fp] [DecidableEq Fp] [Documents Fp] in
theorem Disciplined.armed_eq_false {process : ModelProcess Fp α} (h : Disciplined process)
    (key : String × String) : armed key process = false := by
  cases h <;> rfl

omit [Sha256 Fp] [DecidableEq Fp] [Documents Fp] in
theorem due_replace (state state' : Database Fp) (before after : List (ModelProcess Fp α))
    (caller caller' : ModelProcess Fp α) (sent : List (PaidRequest Fp)) (key : String × String) :
    ModelPool.due ⟨state', before ++ caller' :: after, sent⟩ key + (armed key caller).toNat =
      ModelPool.due ⟨state, before ++ caller :: after, sent⟩ key + (armed key caller').toNat := by
  simp only [ModelPool.due, List.countP_append, List.countP_cons]
  cases armed key caller <;> cases armed key caller' <;> simp <;> omega

omit [Sha256 Fp] [DecidableEq Fp] [Documents Fp] in
theorem ready_replace {before after : List (ModelProcess Fp α)} {caller caller' : ModelProcess Fp α}
    (hall : ∀ c ∈ before ++ caller :: after, Ready c) (hnew : Ready caller') :
    ∀ c ∈ before ++ caller' :: after, Ready c := by
  intro c hc
  rcases List.mem_append.mp hc with hc | hc
  · exact hall c (List.mem_append_left _ hc)
  · rcases List.mem_cons.mp hc with rfl | hc
    · exact hnew
    · exact hall c (List.mem_append_right _ (List.mem_cons_of_mem _ hc))

omit [Sha256 Fp] [DecidableEq Fp] [Documents Fp] in
/-- The bound only grows with the stages that have a call. -/
theorem PaidInv.bound_mono {start state state' : Database Fp} {key : String × String}
    (hgrow : key ∈ state.stageKeys → key ∈ state'.stageKeys) :
    (if key ∈ state.stageKeys ∧ key ∉ start.stageKeys then 1 else 0) ≤
      if key ∈ state'.stageKeys ∧ key ∉ start.stageKeys then 1 else 0 := by
  split_ifs with hold hnew
  · exact le_refl 1
  · exact absurd ⟨hgrow hold.1, hold.2⟩ hnew
  · exact Nat.zero_le 1
  · exact le_refl 0

theorem PaidInv.step {start : Database Fp} {pool pool' : ModelPool Fp α}
    (hstep : (authorCalls FirstDispatch).Step pool pool') (hinv : PaidInv start pool) :
    PaidInv start pool' := by
  obtain ⟨hready, hkept, hpaid⟩ := hinv
  cases hstep with
  | enter caller henter =>
    have hdisciplined : Disciplined caller := AuthorCall.disciplined henter
    refine ⟨?_, hkept, fun key => ?_⟩
    · intro c hc
      rcases List.mem_append.mp hc with hc | hc
      · exact hready c hc
      · exact .inl (List.mem_singleton.mp hc ▸ hdisciplined)
    · have hdue := hpaid key
      simpa [ModelPool.due, List.countP_append, hdisciplined.armed_eq_false] using hdue
  | @transact state state' before after sent β op next answer hpermits hexec =>
    have hgrow : ∀ key, key ∈ state.stageKeys → key ∈ state'.stageKeys :=
      fun key => StoreOp.stageKeys_subset hexec
    have hquiet : ∀ key, armed key (next answer) = false →
        ModelPool.due ⟨state', before ++ next answer :: after, sent⟩ key ≤
          if key ∈ state'.stageKeys ∧ key ∉ start.stageKeys then 1 else 0 := by
      intro key hnext
      have hmove := due_replace state state' before after (.transact op next) (next answer) sent key
      have hold := (hpaid key).trans (PaidInv.bound_mono (hgrow key))
      rw [hnext] at hmove
      simp only [Bool.toNat_false] at hmove
      omega
    obtain hcaller | ⟨request, _, heq, -⟩ := hready _ (List.mem_append_right _ List.mem_cons_self)
    · cases hcaller with
      | store hop hnext =>
        exact ⟨ready_replace hready (.inl (hnext answer)), fun key h => hgrow key (hkept key h),
          fun key => hquiet key ((hnext answer).armed_eq_false key)⟩
      | @dispatch runId job ownerToken deadlineAtMs createdAt uuid next hnext =>
        have hfresh : (runId, job.stageKey) ∉ state.stageKeys := hpermits _ rfl
        refine ⟨ready_replace hready (.inr ⟨_, _, rfl, hnext answer⟩),
          fun key h => hgrow key (hkept key h), fun key => ?_⟩
        by_cases hkey : (runId, job.stageKey) = key
        · -- the first dispatch of the stage: nothing was due, now one request is
          subst hkey
          have hinserted : (runId, job.stageKey) ∈ state'.stageKeys := by
            obtain ⟨-, ⟨call, hcall, hrun, hstage, -⟩ | ⟨row, -, hrun, hstage, -, -, -, -, -, -, rfl⟩⟩ :=
              dispatchStage_eq_ok hexec
            · exact absurd (List.mem_map.mpr ⟨call, hcall, by rw [hrun, hstage]⟩) hfresh
            · exact List.mem_map.mpr ⟨row, by simp [Database.updateRun], by rw [hrun, hstage]⟩
          have hmove := due_replace state state' before after
            (.transact (.dispatchStage runId job ownerToken deadlineAtMs createdAt uuid)
              fun callId => .send ⟨runId, job⟩ (next callId))
            (.send ⟨runId, job⟩ (next answer)) sent (runId, job.stageKey)
          have hnone := hpaid (runId, job.stageKey)
          rw [if_neg fun h => hfresh h.1] at hnone
          rw [if_pos ⟨hinserted, fun h => hfresh (hkept _ h)⟩]
          have hbefore : (armed (runId, job.stageKey) (.transact (.dispatchStage runId job
            ownerToken deadlineAtMs createdAt uuid) fun callId =>
              .send ⟨runId, job⟩ (next callId) : ModelProcess Fp α)).toNat = 0 := rfl
          have hafter : (armed (runId, job.stageKey)
              (.send ⟨runId, job⟩ (next answer) : ModelProcess Fp α)).toNat ≤ 1 :=
            Bool.toNat_le _
          change ModelPool.due ⟨state', before ++ .send ⟨runId, job⟩ (next answer) :: after, sent⟩
            (runId, job.stageKey) ≤ 1
          omega
        · exact hquiet key (decide_eq_false hkey)
    · cases heq
  | @refuse state before after sent β op next error =>
    refine ⟨ready_replace hready (.inl (.done _)), hkept, fun key => ?_⟩
    have hmove := due_replace state state before after (.transact op next) (.done (.error error))
      sent key
    simp only [armed, Bool.toNat_false, Nat.add_zero] at hmove
    rw [hmove]
    exact hpaid key
  | @send state before after sent request next response =>
    have hnext : Disciplined (next response) := by
      obtain hcaller | ⟨_, _, heq, hnext⟩ :=
        hready _ (List.mem_append_right _ List.mem_cons_self)
      · cases hcaller
      · cases heq
        exact hnext response
    refine ⟨ready_replace hready (.inl hnext), hkept, fun key => ?_⟩
    -- what was about to be sent has been sent
    have hmove := due_replace state state before after (.send request next) (next response)
      (sent ++ [request]) key
    have hold := hpaid key
    rw [hnext.armed_eq_false] at hmove
    simp only [ModelPool.due, List.countP_append, List.countP_cons, armed, List.countP_nil,
      Bool.toNat_false] at hmove hold ⊢
    by_cases hkey : request.key = key
    · simp only [hkey, decide_true, Bool.toNat_true, if_true] at hmove hold ⊢
      omega
    · simp only [hkey, decide_false, Bool.toNat_false, Bool.false_eq_true, if_false] at hmove hold ⊢
      omega
  | @stop state before after sent caller =>
    refine ⟨fun c hc => hready c ?_, hkept, fun key => ?_⟩
    · rcases List.mem_append.mp hc with hc | hc
      · exact List.mem_append_left _ hc
      · exact List.mem_append_right _ (List.mem_cons_of_mem _ hc)
    · have hold := hpaid key
      simp only [ModelPool.due, List.countP_append, List.countP_cons] at hold ⊢
      omega
  | environment state' henv =>
    have hsame : state'.stageKeys = pool.state.stageKeys := by
      rw [Database.stageKeys, henv]
      rfl
    exact ⟨hready, fun key h => hsame ▸ hkept key h, fun key => by
      rw [hsame]
      exact hpaid key⟩

/-- Each stage is sent at most once, and never when its call was there before, if no dispatch
meets a call of its stage. -/
theorem stage_sent_once {start : Database Fp} {pool : ModelPool Fp α}
    (hrun : Relation.ReflTransGen (authorCalls FirstDispatch).Step ⟨start, [], []⟩ pool)
    (runId stageKey : String) :
    pool.sent.countP (fun request => request.key = (runId, stageKey)) ≤ 1 ∧
      ((runId, stageKey) ∈ start.stageKeys →
        pool.sent.countP (fun request => request.key = (runId, stageKey)) = 0) := by
  have hstart : PaidInv start (⟨start, [], []⟩ : ModelPool Fp α) :=
    ⟨by simp, fun _ h => h, by simp [ModelPool.due]⟩
  have hinv : PaidInv start pool :=
    invariant_of_step (P := PaidInv start) (fun _ _ hstep => PaidInv.step hstep) hrun hstart
  have hpaid := hinv.paid (runId, stageKey)
  rw [ModelPool.due] at hpaid
  constructor
  · split_ifs at hpaid
    · omega
    · omega
  · intro hold
    rw [if_neg fun h => h.2 hold] at hpaid
    omega

end Pools

namespace Sample

def assembly : PromptAssembly Digest := ⟨"s", "u", "0", .tag 4⟩

def command : StageCommand Digest where
  runId := "run-1"
  model := "m"
  stageKey := "context_query_plan"
  runtimeRole := "planner"
  assembly := .ok assembly
  maxOutputTokens := 9
  temperature := ⟨false, 1, -1⟩

def stamps (uuid : String) : StageStamps := ⟨"o", 9, "t3", uuid, "t4", uuid⟩

def paidJob : StageJob Digest :=
  let body : StageJob Digest :=
    { schema := "quillframe_stage_job_v1", stageKey := "context_query_plan",
      runtimeRole := "planner", modelRequest := command.request assembly,
      inputFingerprint := .tag 4, fingerprint := .tag 4 }
  { body with fingerprint := body.computeFingerprint }

theorem freeze_paidJob : StageJob.freeze "context_query_plan" "planner"
    (command.request assembly) (.tag 4 : Digest) = .ok paidJob := by
  decide +kernel

/-- A call of `author.run.execute` that is at its first stage. -/
def caller (uuid : String) : ModelProcess Digest (ModelResult Digest) :=
  (executeModelStage command (stamps uuid)).bind fun result => .done (.ok result)

/-- The caller after its lookup has found nothing. -/
def looked (uuid : String) : ModelProcess Digest (ModelResult Digest) :=
  .transact (.dispatchStage "run-1" paidJob "o" 9 "t3" uuid) fun callId =>
    .send ⟨"run-1", paidJob⟩ fun response =>
      (settleStage "run-1" paidJob (stamps uuid) callId response).bind fun result =>
        .done (.ok result)

theorem caller_eq (uuid : String) : ∃ next, caller uuid =
    .transact (.productionStageCall "run-1" "context_query_plan") next ∧
      next none = looked uuid := by
  have hexecute : executeModelStage command (stamps uuid) = _ :=
    executeModelStage_eq rfl freeze_paidJob (stamps uuid)
  rw [caller, hexecute]
  exact ⟨_, rfl, rfl⟩

theorem lookup_started : StoreOp.exec (.productionStageCall "run-1" "context_query_plan")
    started = .ok (none, started) := by
  decide +kernel

/-- The second dispatch is answered as the first one was. -/
theorem dispatch_twice : (do
    let (first, db) ← dispatchStage "run-1" paidJob "o" 9 "t3" "1" started
    let (second, db') ← dispatchStage "run-1" paidJob "o" 9 "t3" "2" db
    return (first, second, decide (db' = db))) = .ok ("call-1", "call-1", true) := by
  decide +kernel

variable (permits : ∀ {β : Type}, StoreOp Digest β → Database Digest → Prop)
  (before after : List (ModelProcess Digest (ModelResult Digest)))
  (sent : List (PaidRequest Digest)) (uuid : String)

theorem lookup_step (hpermits : permits
      (.productionStageCall "run-1" "context_query_plan" : StoreOp Digest _) started) :
    (authorCalls permits).Step ⟨started, before ++ caller uuid :: after, sent⟩
      ⟨started, before ++ looked uuid :: after, sent⟩ := by
  obtain ⟨next, hcaller, hnext⟩ := caller_eq uuid
  rw [hcaller, ← hnext]
  exact .transact _ next none hpermits lookup_started

/-- From its dispatch to the provider. -/
theorem dispatch_send {db db' : Database Digest} {callId : String}
    (hpermits : permits (.dispatchStage "run-1" paidJob "o" 9 "t3" uuid : StoreOp Digest _) db)
    (h : dispatchStage "run-1" paidJob "o" 9 "t3" uuid db = .ok (callId, db')) :
    ∃ later, Relation.ReflTransGen (authorCalls permits).Step
      ⟨db, before ++ looked uuid :: after, sent⟩
      ⟨db', before ++ later :: after, sent ++ [⟨"run-1", paidJob⟩]⟩ :=
  ⟨_, .tail (.single (.transact _ _ callId hpermits h)) (.send _ _ (.error noRows))⟩

end Sample

/-- One caller sends its stage once. -/
theorem stage_sent_once_sample :
    ∃ pool : ModelPool Digest (ModelResult Digest),
      Relation.ReflTransGen (authorCalls FirstDispatch).Step ⟨Sample.started, [], []⟩ pool ∧
      pool.sent = [⟨"run-1", Sample.paidJob⟩] ∧
      pool.sent.countP (fun request => request.key = ("run-1", "context_query_plan")) ≤ 1 := by
  have hdispatch := Sample.dispatch_twice
  simp only [bind_eq_ok, pure_eq_ok, Prod.exists, Prod.mk.injEq] at hdispatch
  obtain ⟨first, db, hfirst, -⟩ := hdispatch
  have hfresh : FirstDispatch (.dispatchStage "run-1" Sample.paidJob "o" 9 "t3" "1" :
      StoreOp Digest _) Sample.started := by
    intro key _
    simp [Database.stageKeys, Sample.started, Sample.frozen, Sample.project, initialProject]
  obtain ⟨later, hsend⟩ := Sample.dispatch_send FirstDispatch [] [] [] "1" hfresh hfirst
  have hrun : Relation.ReflTransGen (authorCalls FirstDispatch).Step ⟨Sample.started, [], []⟩
      ⟨db, [later], [⟨"run-1", Sample.paidJob⟩]⟩ := by
    refine .trans ?_ hsend
    refine .tail (.single (.enter (Sample.caller "1") ?_))
      (Sample.lookup_step FirstDispatch [] [] [] "1" ?_)
    · exact .stage _ _ fun result => .done _
    · exact fun key hkey => by simp [StoreOp.dispatches] at hkey
  exact ⟨_, hrun, rfl, (stage_sent_once hrun "run-1" "context_query_plan").1⟩

/-- Two callers that both looked before either dispatched both send. -/
theorem stage_sent_twice :
    ∃ pool : ModelPool Digest (ModelResult Digest),
      Relation.ReflTransGen (authorCalls fun _ _ => True).Step ⟨Sample.started, [], []⟩ pool ∧
      pool.sent.countP (fun request => request.key = ("run-1", "context_query_plan")) = 2 := by
  have hdispatch := Sample.dispatch_twice
  simp only [bind_eq_ok, pure_eq_ok, Prod.exists, Prod.mk.injEq, decide_eq_true_eq] at hdispatch
  obtain ⟨first, db, hfirst, second, db', hsecond, -, -, rfl⟩ := hdispatch
  obtain ⟨one, hone⟩ := Sample.dispatch_send (fun _ _ => True) [] [Sample.looked "2"] [] "1"
    trivial hfirst
  obtain ⟨two, htwo⟩ := Sample.dispatch_send (fun _ _ => True) [one] []
    [⟨"run-1", Sample.paidJob⟩] "2" trivial hsecond
  have hstart : Relation.ReflTransGen (authorCalls fun _ _ => True).Step
      (⟨Sample.started, [], []⟩ : ModelPool Digest (ModelResult Digest))
      ⟨Sample.started, [Sample.looked "1", Sample.looked "2"], []⟩ := by
    have henter : ∀ uuid, AuthorCall (Sample.caller uuid) := fun uuid =>
      .stage _ _ fun result => .done _
    refine .tail (.tail (.tail (.single (.enter (Sample.caller "1") (henter "1")))
      (.enter (Sample.caller "2") (henter "2")))
      (Sample.lookup_step (fun _ _ => True) [] [Sample.caller "2"] [] "1" trivial))
      (Sample.lookup_step (fun _ _ => True) [Sample.looked "1"] [] [] "2" trivial)
  exact ⟨_, (hstart.trans hone).trans htwo, by simp [PaidRequest.key, Sample.paidJob]⟩

end Quillframe
