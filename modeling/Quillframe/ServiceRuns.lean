import Quillframe.ModelServices

/-!
# Credentials of model services

What holds of the rows and of the secrets in every interleaving of requests, whatever fails and
wherever a request stops.
-/
namespace Quillframe

variable {Fp : Type}

namespace ServiceRequest

/-- The reference that a request writes a secret under. -/
def reference : ServiceRequest → Option String
  | add _ accessToken _ _ _ _ referenceUuid =>
    (suppliedToken accessToken).map fun _ => referenceName referenceUuid
  | replaceToken _ _ referenceUuid => some (referenceName referenceUuid)
  | _ => none

/-- The id and the URL of the service that a request may create. -/
def created : ServiceRequest → Option (String × String)
  | add url _ _ _ _ serviceUuid _ => some (serviceName serviceUuid, url)
  | _ => none

/-- No uuid is drawn twice. -/
def Fresh (requests : ℕ → ServiceRequest) : Prop :=
  ∀ i j uuid, uuid ∈ (requests i).uuids → uuid ∈ (requests j).uuids → i = j

theorem append_right_injective (start : String) {a b : String} (h : start ++ a = start ++ b) :
    a = b := by
  have hlist := congrArg String.toList h
  simp only [String.toList_append, List.append_cancel_left_eq] at hlist
  exact String.toList_injective hlist

theorem reference_uuid {request : ServiceRequest} {r : String} (h : request.reference = some r) :
    ∃ uuid ∈ request.uuids, r = referenceName uuid := by
  cases request with
  | add url token style family loopback serviceUuid referenceUuid =>
    have hr := Option.mem_map.mp h
    obtain ⟨_, -, rfl⟩ := hr
    exact ⟨referenceUuid, by simp [uuids], rfl⟩
  | replaceToken serviceId token referenceUuid =>
    have hr : referenceName referenceUuid = r := Option.some.inj h
    exact ⟨referenceUuid, by simp [uuids], hr.symm⟩
  | removeToken | delete | discover => cases h

theorem created_uuid {request : ServiceRequest} {id url : String}
    (h : request.created = some (id, url)) : ∃ uuid ∈ request.uuids, id = serviceName uuid := by
  cases request with
  | add url' token style family loopback serviceUuid referenceUuid =>
    have hid : serviceName serviceUuid = id := congrArg Prod.fst (Option.some.inj h)
    exact ⟨serviceUuid, by simp [uuids], hid.symm⟩
  | replaceToken | removeToken | delete | discover => cases h

variable {requests : ℕ → ServiceRequest}

theorem Fresh.reference (hfresh : Fresh requests) {i j : ℕ} {r : String}
    (hi : (requests i).reference = some r) (hj : (requests j).reference = some r) : i = j := by
  obtain ⟨uuid, huuid, rfl⟩ := reference_uuid hi
  obtain ⟨uuid', huuid', heq⟩ := reference_uuid hj
  have hsame := append_right_injective _ heq
  exact hfresh i j uuid huuid (hsame ▸ huuid')

theorem Fresh.created (hfresh : Fresh requests) {i j : ℕ} {id url url' : String}
    (hi : (requests i).created = some (id, url)) (hj : (requests j).created = some (id, url')) :
    i = j := by
  obtain ⟨uuid, huuid, rfl⟩ := created_uuid hi
  obtain ⟨uuid', huuid', heq⟩ := created_uuid hj
  have hsame := append_right_injective _ heq
  exact hfresh i j uuid huuid (hsame ▸ huuid')

end ServiceRequest

/-! ## Invariants -/

/-- The task has not saved a row yet. -/
def ServiceTask.pending : ServiceTask Fp → Bool
  | requested _ | writing .. | saving .. => true
  | _ => false

/-- The task still has to save, undo or clean up the secret. -/
def ServiceTask.Holds : ServiceTask Fp → String → Prop
  | saving endpoint _ _, r => endpoint.credentialRef = some r
  | undoing r' _, r => r' = r
  | cleaning r', r => r' = r
  | _, _ => False

namespace ServiceTask

variable [Sha256 Fp] [DecidableEq Fp]

/-- The steps of a task. A task stops where it holds no secret that could be deleted. -/
inductive Advance (parse : String → Option Url) (turn : Turn Fp) (storage : ServiceStorage Fp) :
    ServiceTask Fp → ServiceTask Fp → ServiceStorage Fp → Prop
  | start {request task} (h : request.start turn.database storage.services = .ok task) :
      Advance parse turn storage (.requested request) task storage
  | write {r secret endpoint existing old secrets}
      (h : storage.secrets.writeSecret r secret turn.keyring = .ok secrets) :
      Advance parse turn storage (.writing r secret endpoint existing old)
        (.saving endpoint existing old) { storage with secrets }
  | save {endpoint existing old services}
      (h : storage.services.saveModelService parse endpoint (existing.elim 0 (·.version)) turn.now
        turn.database = .ok services) :
      Advance parse turn storage (.saving endpoint existing old)
        (old.elim (.finished (.ok ())) .cleaning) { storage with services }
  | refuse {endpoint existing old error r}
      (h : storage.services.saveModelService parse endpoint (existing.elim 0 (·.version)) turn.now
        turn.database = .error error) (hr : endpoint.credentialRef = some r) :
      Advance parse turn storage (.saving endpoint existing old) (.undoing r error) storage
  | undo {r error secrets} (h : storage.secrets.deleteSecret r turn.keyring = .ok secrets) :
      Advance parse turn storage (.undoing r error) (.finished (.error error))
        { storage with secrets }
  | clean {r secrets} (h : storage.secrets.deleteSecret r turn.keyring = .ok secrets) :
      Advance parse turn storage (.cleaning r) (.finished (.ok ())) { storage with secrets }
  | forget {id r secrets} (h : storage.secrets.deleteSecret r turn.keyring = .ok secrets) :
      Advance parse turn storage (.forgetting id r) (.deleting id) { storage with secrets }
  | delete {id services}
      (h : storage.services.deleteModelService id turn.database = .ok services) :
      Advance parse turn storage (.deleting id) (.finished (.ok ())) { storage with services }
  | discover {service catalog}
      (h : discoverModels parse turn service.endpoint storage.secrets = .ok catalog) :
      Advance parse turn storage (.fetching service) (.recording service catalog) storage
  | record {service catalog services}
      (h : storage.services.recordModelCatalog service.endpoint.serviceId catalog turn.now
        turn.database = .ok services) :
      Advance parse turn storage (.recording service catalog)
        (.refreshing service.endpoint.serviceId) { storage with services }
  | stop {task outcome}
      (h : ∀ r, task.Holds r → ∃ error, storage.secrets.deleteSecret r turn.keyring = .error error) :
      Advance parse turn storage task (.finished outcome) storage

theorem advance_cases {parse : String → Option Url} {turn : Turn Fp} {storage : ServiceStorage Fp}
    {task next : ServiceTask Fp} {storage' : ServiceStorage Fp}
    (h : task.advance parse turn storage = (next, storage')) :
    Advance parse turn storage task next storage' := by
  cases task with
  | requested request =>
    cases hstart : request.start turn.database storage.services with
    | error error =>
      simp only [advance, hstart] at h
      cases h
      exact .stop fun r hr => hr.elim
    | ok task =>
      simp only [advance, hstart] at h
      cases h
      exact .start hstart
  | writing r secret endpoint existing old =>
    cases hwrite : storage.secrets.writeSecret r secret turn.keyring with
    | error error =>
      simp only [advance, hwrite] at h
      cases h
      exact .stop fun r hr => hr.elim
    | ok secrets =>
      simp only [advance, hwrite] at h
      cases h
      exact .write hwrite
  | saving endpoint existing old =>
    cases hsave : storage.services.saveModelService parse endpoint (existing.elim 0 (·.version))
        turn.now turn.database with
    | ok services =>
      simp only [advance, hsave] at h
      cases h
      exact .save hsave
    | error error =>
      simp only [advance, hsave] at h
      cases hcredential : endpoint.credentialRef with
      | none =>
        rw [hcredential] at h
        cases h
        exact .stop fun r hr => by cases hcredential.symm.trans hr
      | some r =>
        rw [hcredential] at h
        cases h
        exact .refuse hsave hcredential
  | undoing r error =>
    cases hdelete : storage.secrets.deleteSecret r turn.keyring with
    | error failed =>
      simp only [advance, hdelete] at h
      cases h
      exact .stop fun r' hr => ⟨failed, hr ▸ hdelete⟩
    | ok secrets =>
      simp only [advance, hdelete] at h
      cases h
      exact .undo hdelete
  | cleaning r =>
    cases hdelete : storage.secrets.deleteSecret r turn.keyring with
    | error failed =>
      simp only [advance, hdelete] at h
      cases h
      exact .stop fun r' hr => ⟨failed, hr ▸ hdelete⟩
    | ok secrets =>
      simp only [advance, hdelete] at h
      cases h
      exact .clean hdelete
  | forgetting id r =>
    cases hdelete : storage.secrets.deleteSecret r turn.keyring with
    | error failed =>
      simp only [advance, hdelete] at h
      cases h
      exact .stop fun r hr => hr.elim
    | ok secrets =>
      simp only [advance, hdelete] at h
      cases h
      exact .forget hdelete
  | deleting id =>
    cases hdelete : storage.services.deleteModelService id turn.database with
    | error error =>
      simp only [advance, hdelete] at h
      cases h
      exact .stop fun r hr => hr.elim
    | ok services =>
      simp only [advance, hdelete] at h
      cases h
      exact .delete hdelete
  | fetching service =>
    cases hdiscover : discoverModels parse turn service.endpoint storage.secrets with
    | error error =>
      simp only [advance, hdiscover] at h
      cases h
      exact .stop fun r hr => hr.elim
    | ok catalog =>
      simp only [advance, hdiscover] at h
      cases h
      exact .discover hdiscover
  | recording service catalog =>
    cases hrecord : storage.services.recordModelCatalog service.endpoint.serviceId catalog
        turn.now turn.database with
    | error error =>
      simp only [advance, hrecord] at h
      cases h
      exact .stop fun r hr => hr.elim
    | ok services =>
      simp only [advance, hrecord] at h
      cases h
      exact .record hrecord
  | refreshing id =>
    cases hread : (mayFail turn.database).bind fun _ => fetch (storage.services.get? id)
        (.invalidProject "model service disappeared") with
    | error error =>
      simp only [advance, hread] at h
      cases h
      exact .stop fun r hr => hr.elim
    | ok row =>
      simp only [advance, hread] at h
      cases h
      exact .stop fun r hr => hr.elim
  | finished outcome =>
    cases h
    exact .stop fun r hr => hr.elim

end ServiceTask

namespace ServiceState

open ServiceRequest (Fresh)

/-- The row of a service. -/
def row? (s : ServiceState Fp) (id : String) : Option (ModelServiceRecord Fp) :=
  s.storage.services.get? id

/-- The reference is that of a request past its save. -/
def Spent (requests : ℕ → ServiceRequest) (s : ServiceState Fp) (r : String) : Prop :=
  ∃ i, (requests i).reference = some r ∧ (s.tasks i).pending = false

/-- The service and its URL are those of a request past its save. -/
def Named (requests : ℕ → ServiceRequest) (s : ServiceState Fp) (id url : String) : Prop :=
  ∃ i, (requests i).created = some (id, url) ∧ (s.tasks i).pending = false

/-- Only the row of one service may name the reference. -/
def OnlyIn (s : ServiceState Fp) (id r : String) : Prop :=
  ∀ id' row, s.row? id' = some row → row.endpoint.credentialRef = some r → id' = id

def Unnamed (s : ServiceState Fp) (r : String) : Prop :=
  ∀ id row, s.row? id = some row → row.endpoint.credentialRef ≠ some r

structure Rows (requests : ℕ → ServiceRequest) (s : ServiceState Fp) : Prop where
  serviceId : ∀ {id row}, s.row? id = some row → row.endpoint.serviceId = id
  named : ∀ {id row}, s.row? id = some row → Named requests s id row.endpoint.endpoint
  version : ∀ {id row}, s.row? id = some row → 1 ≤ row.version
  spent : ∀ {id row r}, s.row? id = some row → row.endpoint.credentialRef = some r →
    Spent requests s r
  unique : ∀ {id row r}, s.row? id = some row → row.endpoint.credentialRef = some r →
    s.OnlyIn id r
  stored : ∀ {id row r}, s.row? id = some row → row.endpoint.credentialRef = some r →
    (∀ i, requests i ≠ .delete id) → r ∈ s.storage.secrets

/-- What stays true of a row that was read earlier. -/
structure Snapshot (requests : ℕ → ServiceRequest) (s : ServiceState Fp)
    (row : ModelServiceRecord Fp) : Prop where
  named : Named requests s row.endpoint.serviceId row.endpoint.endpoint
  version : 1 ≤ row.version
  spent : ∀ {r}, row.endpoint.credentialRef = some r → Spent requests s r
  only : ∀ {r}, row.endpoint.credentialRef = some r → s.OnlyIn row.endpoint.serviceId r
  since : ∀ {current}, s.row? row.endpoint.serviceId = some current →
    row.version ≤ current.version ∧
      (row.version = current.version → current.endpoint = row.endpoint)

/-- The row that a request is about to save: a new one, or one that it has read. -/
def Target (requests : ℕ → ServiceRequest) (s : ServiceState Fp) (i : ℕ)
    (endpoint : ServiceEndpoint) : Option (ModelServiceRecord Fp) → Prop
  | none => (requests i).created = some (endpoint.serviceId, endpoint.endpoint)
  | some row => Snapshot requests s row ∧ endpoint.serviceId = row.endpoint.serviceId ∧
      endpoint.endpoint = row.endpoint.endpoint

def Sound (requests : ℕ → ServiceRequest) (s : ServiceState Fp) (i : ℕ) :
    ServiceTask Fp → Prop
  | .requested request => request = requests i
  | .writing r _ endpoint existing old => (requests i).reference = some r ∧
      endpoint.credentialRef = some r ∧ Target requests s i endpoint existing ∧
      old = existing.bind fun row => row.endpoint.credentialRef
  | .saving endpoint existing old =>
      (∀ r, endpoint.credentialRef = some r →
        (requests i).reference = some r ∧ r ∈ s.storage.secrets) ∧
      Target requests s i endpoint existing ∧
      old = existing.bind fun row => row.endpoint.credentialRef
  | .undoing r _ => (requests i).reference = some r ∧ s.Unnamed r
  | .cleaning r => Spent requests s r ∧ s.Unnamed r
  | .forgetting id r => requests i = .delete id ∧ Spent requests s r ∧ s.OnlyIn id r
  | .deleting id => requests i = .delete id
  | .fetching service | .recording service _ =>
      Named requests s service.endpoint.serviceId service.endpoint.endpoint
  | .refreshing _ | .finished _ => True

structure Sane (requests : ℕ → ServiceRequest) (s : ServiceState Fp) : Prop where
  rows : Rows requests s
  tasks : ∀ i, Sound requests s i (s.tasks i)

/-! ## What a step can do -/

/-- A row of the state after a step of task `i` that was saved by it. -/
structure SavedBy (requests : ℕ → ServiceRequest) (s : ServiceState Fp) (i : ℕ)
    (id : String) (row : ModelServiceRecord Fp) : Prop where
  task : ∃ existing old, s.tasks i = .saving row.endpoint existing old
  serviceId : row.endpoint.serviceId = id
  version : 1 ≤ row.version
  reference : ∀ {r}, row.endpoint.credentialRef = some r →
    (requests i).reference = some r ∧ r ∈ s.storage.secrets
  origin : (requests i).created = some (id, row.endpoint.endpoint) ∨
    ∃ current, s.row? id = some current ∧ current.version < row.version ∧
      current.endpoint.endpoint = row.endpoint.endpoint

/-- A step of task `i` to `next` keeps or saves rows, and forgets a secret only where no row and
no other request counts on it. -/
structure Change (requests : ℕ → ServiceRequest) (s : ServiceState Fp) (i : ℕ)
    (next : ServiceTask Fp) (storage : ServiceStorage Fp) : Prop where
  pending : next.pending = true → (s.tasks i).pending = true
  rows : ∀ id row, storage.services.get? id = some row →
    (∃ old, s.row? id = some old ∧ row.endpoint = old.endpoint ∧ row.version = old.version) ∨
      SavedBy requests s i id row ∧ next.pending = false ∧ storage.secrets = s.storage.secrets
  secrets : ∀ r ∈ s.storage.secrets, r ∈ storage.secrets ∨
    (∀ id row, s.row? id = some row → row.endpoint.credentialRef = some r →
      ∃ j, requests j = .delete id) ∧
    ∀ j, j ≠ i → (s.tasks j).pending = true → (requests j).reference ≠ some r

section Change

variable {requests : ℕ → ServiceRequest} {s : ServiceState Fp} {i : ℕ}
  {next : ServiceTask Fp} {storage : ServiceStorage Fp}

/-- The state after a step of task `i`. -/
def after (s : ServiceState Fp) (i : ℕ) (next : ServiceTask Fp) (storage : ServiceStorage Fp) :
    ServiceState Fp :=
  ⟨storage, Function.update s.tasks i next⟩

theorem Change.pending_after (h : Change requests s i next storage) {j : ℕ}
    (hj : (s.tasks j).pending = false) : ((s.after i next storage).tasks j).pending = false := by
  by_cases hij : j = i
  · subst hij
    have hnext : next.pending = false := by
      by_contra hpending
      rw [h.pending (by simpa using hpending)] at hj
      cases hj
    simpa [after] using hnext
  · simpa [after, Function.update_of_ne hij] using hj

theorem Change.spent (h : Change requests s i next storage) {r : String}
    (hr : Spent requests s r) : Spent requests (s.after i next storage) r := by
  obtain ⟨j, href, hj⟩ := hr
  exact ⟨j, href, h.pending_after hj⟩

theorem Change.named (h : Change requests s i next storage) {id url : String}
    (hid : Named requests s id url) : Named requests (s.after i next storage) id url := by
  obtain ⟨j, hcreated, hj⟩ := hid
  exact ⟨j, hcreated, h.pending_after hj⟩

theorem SavedBy.pending {id : String} {row : ModelServiceRecord Fp}
    (h : SavedBy requests s i id row) : (s.tasks i).pending = true := by
  obtain ⟨existing, old, htask⟩ := h.task
  rw [htask]
  rfl

/-- One step saves one row. -/
theorem SavedBy.single {id id' : String} {row row' : ModelServiceRecord Fp}
    (h : SavedBy requests s i id row) (h' : SavedBy requests s i id' row') : id' = id := by
  obtain ⟨existing, old, htask⟩ := h.task
  obtain ⟨existing', old', htask'⟩ := h'.task
  have hendpoint : row.endpoint = row'.endpoint := by
    rw [htask] at htask'
    exact (ServiceTask.saving.inj htask').1
  rw [← h.serviceId, ← h'.serviceId, hendpoint]

/-- A request under way saves no reference that is spent already. -/
theorem SavedBy.ne_spent (hfresh : Fresh requests) {id r : String} {row : ModelServiceRecord Fp}
    (h : SavedBy requests s i id row) (hr : Spent requests s r) :
    row.endpoint.credentialRef ≠ some r := by
  intro hcredential
  obtain ⟨j, hj, hpending⟩ := hr
  have hij := hfresh.reference (h.reference hcredential).1 hj
  rw [← hij, h.pending] at hpending
  cases hpending

theorem Change.onlyIn (hfresh : Fresh requests) (h : Change requests s i next storage)
    {id r : String} (hr : Spent requests s r) (honly : s.OnlyIn id r) :
    (s.after i next storage).OnlyIn id r := by
  intro id' row hrow hcredential
  rcases h.rows id' row hrow with ⟨old, hold, hendpoint, -⟩ | ⟨hsaved, -⟩
  · exact honly id' old hold (hendpoint ▸ hcredential)
  · exact absurd hcredential (hsaved.ne_spent hfresh hr)

theorem Change.unnamed (hfresh : Fresh requests) (h : Change requests s i next storage)
    {r : String} (hr : Spent requests s r) (hnone : s.Unnamed r) :
    (s.after i next storage).Unnamed r := by
  intro id row hrow
  rcases h.rows id row hrow with ⟨old, hold, hendpoint, -⟩ | ⟨hsaved, -⟩
  · rw [hendpoint]
    exact hnone id old hold
  · exact hsaved.ne_spent hfresh hr

theorem Change.snapshot (hfresh : Fresh requests) (h : Change requests s i next storage)
    {row : ModelServiceRecord Fp} (hrow : Snapshot requests s row) :
    Snapshot requests (s.after i next storage) row where
  named := h.named hrow.named
  version := hrow.version
  spent hr := h.spent (hrow.spent hr)
  only hr := h.onlyIn hfresh (hrow.spent hr) (hrow.only hr)
  since {current} hcurrent := by
    rcases h.rows _ _ hcurrent with ⟨old, hold, hendpoint, hversion⟩ | ⟨hsaved, -⟩
    · rw [hendpoint, hversion]
      exact hrow.since hold
    · rcases hsaved.origin with hcreated | ⟨old, hold, hversion, -⟩
      · -- the service was there before the request that would create it saved
        obtain ⟨j, hj, hpending⟩ := hrow.named
        have hij := hfresh.created hcreated hj
        rw [← hij, hsaved.pending] at hpending
        cases hpending
      · have hle := (hrow.since hold).1
        exact ⟨by omega, fun heq => by omega⟩

theorem Change.target (hfresh : Fresh requests) (h : Change requests s i next storage) {j : ℕ}
    {endpoint : ServiceEndpoint} {existing : Option (ModelServiceRecord Fp)}
    (htarget : Target requests s j endpoint existing) :
    Target requests (s.after i next storage) j endpoint existing := by
  cases existing with
  | none => exact htarget
  | some row => exact ⟨h.snapshot hfresh htarget.1, htarget.2⟩

/-- The other tasks stay sound. -/
theorem Change.sound (hfresh : Fresh requests) (h : Change requests s i next storage) {j : ℕ}
    (hij : j ≠ i) (hsound : Sound requests s j (s.tasks j)) :
    Sound requests (s.after i next storage) j (s.tasks j) := by
  cases htask : s.tasks j with
  | requested request => rw [htask] at hsound; exact hsound
  | writing r secret endpoint existing old =>
    rw [htask] at hsound
    obtain ⟨hreference, hcredential, htarget, hold⟩ := hsound
    exact ⟨hreference, hcredential, h.target hfresh htarget, hold⟩
  | saving endpoint existing old =>
    rw [htask] at hsound
    obtain ⟨hreference, htarget, hold⟩ := hsound
    refine ⟨fun r hr => ⟨(hreference r hr).1, ?_⟩, h.target hfresh htarget, hold⟩
    rcases h.secrets r (hreference r hr).2 with hstored | ⟨-, hothers⟩
    · exact hstored
    · exact absurd (hreference r hr).1 (hothers j hij (by rw [htask]; rfl))
  | undoing r error =>
    rw [htask] at hsound
    have hspent : Spent requests s r := ⟨j, hsound.1, by rw [htask]; rfl⟩
    exact ⟨hsound.1, h.unnamed hfresh hspent hsound.2⟩
  | cleaning r =>
    rw [htask] at hsound
    exact ⟨h.spent hsound.1, h.unnamed hfresh hsound.1 hsound.2⟩
  | forgetting id r =>
    rw [htask] at hsound
    obtain ⟨hdelete, hspent, honly⟩ := hsound
    exact ⟨hdelete, h.spent hspent, h.onlyIn hfresh hspent honly⟩
  | deleting id => rw [htask] at hsound; exact hsound
  | fetching service => rw [htask] at hsound; exact h.named hsound
  | recording service catalog => rw [htask] at hsound; exact h.named hsound
  | refreshing | finished => trivial

/-- The rows stay as the invariant has them. -/
theorem Change.keepsRows (hfresh : Fresh requests) (h : Change requests s i next storage)
    (hrows : Rows requests s) : Rows requests (s.after i next storage) where
  serviceId hrow := by
    rcases h.rows _ _ hrow with ⟨old, hold, hendpoint, -⟩ | ⟨hsaved, -⟩
    · rw [hendpoint]
      exact hrows.serviceId hold
    · exact hsaved.serviceId
  named hrow := by
    rcases h.rows _ _ hrow with ⟨old, hold, hendpoint, -⟩ | ⟨hsaved, hnext, -⟩
    · rw [hendpoint]
      exact h.named (hrows.named hold)
    · rcases hsaved.origin with hcreated | ⟨current, hcurrent, -, hurl⟩
      · exact ⟨i, hcreated, by simpa [after] using hnext⟩
      · exact hurl ▸ h.named (hrows.named hcurrent)
  version hrow := by
    rcases h.rows _ _ hrow with ⟨old, hold, -, hversion⟩ | ⟨hsaved, -⟩
    · rw [hversion]
      exact hrows.version hold
    · exact hsaved.version
  spent hrow hr := by
    rcases h.rows _ _ hrow with ⟨old, hold, hendpoint, -⟩ | ⟨hsaved, hnext, -⟩
    · exact h.spent (hrows.spent hold (hendpoint ▸ hr))
    · exact ⟨i, (hsaved.reference hr).1, by simpa [after] using hnext⟩
  unique {id row r} hrow hr := by
    rcases h.rows _ _ hrow with ⟨old, hold, hendpoint, -⟩ | ⟨hsaved, -⟩
    · have hr' : old.endpoint.credentialRef = some r := hendpoint ▸ hr
      exact h.onlyIn hfresh (hrows.spent hold hr') (hrows.unique hold hr')
    · intro id' row' hrow' hr'
      rcases h.rows _ _ hrow' with ⟨old, hold, hendpoint, -⟩ | ⟨hsaved', -⟩
      · exact absurd hr (hsaved.ne_spent hfresh (hrows.spent hold (hendpoint ▸ hr')))
      · exact hsaved.single hsaved'
  stored {id row r} hrow hr hkept := by
    rcases h.rows _ _ hrow with ⟨old, hold, hendpoint, -⟩ | ⟨hsaved, -, hsecrets⟩
    · have hr' : old.endpoint.credentialRef = some r := hendpoint ▸ hr
      rcases h.secrets r (hrows.stored hold hr' hkept) with hstored | ⟨hdeleted, -⟩
      · exact hstored
      · obtain ⟨j, hj⟩ := hdeleted _ _ hold hr'
        exact absurd hj (hkept j)
    · change r ∈ storage.secrets
      rw [hsecrets]
      exact (hsaved.reference hr).2

end Change

/-! ## Steps -/

section Steps

variable {requests : ℕ → ServiceRequest} {s : ServiceState Fp} {i : ℕ}

theorem Rows.snapshot (hrows : Rows requests s) {id : String} {row : ModelServiceRecord Fp}
    (hrow : s.row? id = some row) : Snapshot requests s row := by
  have hid := hrows.serviceId hrow
  refine ⟨?_, hrows.version hrow, hrows.spent hrow, ?_, ?_⟩
  · rw [hid]
    exact hrows.named hrow
  · intro r hr
    rw [hid]
    exact hrows.unique hrow hr
  · intro current hcurrent
    rw [hid, hrow] at hcurrent
    cases hcurrent
    exact ⟨le_refl _, fun _ => rfl⟩

/-- The step of a request that is not past its save and leaves the stores alone. -/
theorem Change.keep {next : ServiceTask Fp}
    (h : next.pending = true → (s.tasks i).pending = true) :
    Change requests s i next s.storage where
  pending := h
  rows _ row hrow := .inl ⟨row, hrow, rfl, rfl⟩
  secrets _ hr := .inl hr

theorem Sound.keep {next : ServiceTask Fp}
    (hpending : next.pending = true → (s.tasks i).pending = true)
    (hfresh : Fresh requests) (hsound : Sound requests s i next) :
    Sound requests (s.after i next s.storage) i next := by
  have hchange : Change requests s i next s.storage := Change.keep hpending
  cases next with
  | requested request => exact hsound
  | writing r secret endpoint existing old =>
    obtain ⟨hreference, hcredential, htarget, hold⟩ := hsound
    exact ⟨hreference, hcredential, hchange.target hfresh htarget, hold⟩
  | saving endpoint existing old =>
    obtain ⟨hreference, htarget, hold⟩ := hsound
    exact ⟨hreference, hchange.target hfresh htarget, hold⟩
  | undoing r error => exact hsound
  | cleaning r => exact ⟨hchange.spent hsound.1, hsound.2⟩
  | forgetting id r => exact ⟨hsound.1, hchange.spent hsound.2.1, hsound.2.2⟩
  | deleting id => exact hsound
  | fetching service => exact hchange.named hsound
  | recording service catalog => exact hchange.named hsound
  | refreshing | finished => trivial

theorem byEndpoint_eq_some {services : ModelServices Fp} {url : String}
    {row : ModelServiceRecord Fp} (h : services.byEndpoint url = some row) :
    (∃ id, services.get? id = some row) ∧ row.endpoint.endpoint = url := by
  have hmem := List.mem_of_find?_eq_some h
  obtain ⟨entry, hentry, rfl⟩ := List.mem_map.mp hmem
  refine ⟨⟨entry.1, OrderedMap.mem_entries.mp hentry⟩, ?_⟩
  simpa using List.find?_some h

/-- What a request of an endpoint finds under its URL is the service that it will save. -/
theorem target_add (hrows : Rows requests s) {url : String} {token : Option String}
    {style : AuthStyle} {family : ProtocolFamily} {loopback : Bool}
    {serviceUuid referenceUuid : String}
    (hcreated : (requests i).created = some (ServiceRequest.serviceName serviceUuid, url)) :
    Target requests s i
      (ServiceRequest.addedEndpoint url token style family loopback serviceUuid referenceUuid
        (s.storage.services.byEndpoint url)) (s.storage.services.byEndpoint url) := by
  cases hexisting : s.storage.services.byEndpoint url with
  | none => exact hcreated
  | some row =>
    obtain ⟨⟨id, hrow⟩, hurl⟩ := byEndpoint_eq_some hexisting
    exact ⟨hrows.snapshot hrow, rfl, hurl.symm⟩

/-- The reference that a request replaces is never its own. -/
theorem filter_old (hfresh : Fresh requests) (hrows : Rows requests s)
    (hpending : (s.tasks i).pending = true) {existing : Option (ModelServiceRecord Fp)}
    (hexisting : ∀ row, existing = some row → ∃ id, s.row? id = some row)
    {credential : Option String}
    (hcredential : ∀ r, credential = some r → (requests i).reference = some r) :
    ((existing.bind fun row => row.endpoint.credentialRef).filter fun old =>
      some old ≠ credential) = existing.bind fun row => row.endpoint.credentialRef := by
  cases hold : existing.bind fun row => row.endpoint.credentialRef with
  | none => rfl
  | some r =>
    obtain ⟨row, hsome, hrow⟩ := Option.bind_eq_some_iff.mp hold
    obtain ⟨id, hid⟩ := hexisting row hsome
    have hne : some r ≠ credential := by
      intro heq
      obtain ⟨j, hj, hspent⟩ := hrows.spent hid hrow
      rw [hfresh.reference (hcredential r heq.symm) hj, hspent] at hpending
      cases hpending
    exact Option.filter_some_pos (by simpa using hne)

theorem current_eq_ok {id : String} {failure : Option CoreError} {services : ModelServices Fp}
    {row : ModelServiceRecord Fp} (h : ServiceRequest.current id failure services = .ok row) :
    services.get? id = some row := by
  simp only [ServiceRequest.current, bind_eq_ok, fetch_eq_ok] at h
  obtain ⟨-, -, -, -, h⟩ := h
  exact h

/-- Where a request goes from its arguments and the rows. -/
theorem start_sound (hfresh : Fresh requests) (hrows : Rows requests s)
    (hpending : (s.tasks i).pending = true) {failure : Option CoreError}
    {task : ServiceTask Fp} (h : (requests i).start failure s.storage.services = .ok task) :
    Sound requests s i task := by
  cases hrequest : requests i with
  | add url accessToken authStyle protocolFamily loopback serviceUuid referenceUuid =>
    rw [hrequest] at h
    simp only [ServiceRequest.start, bind_eq_ok] at h
    obtain ⟨-, -, -, -, style, -, family, -, h⟩ := h
    have hcreated : (requests i).created = some (ServiceRequest.serviceName serviceUuid, url) := by
      rw [hrequest]
      rfl
    have hreference : (requests i).reference = (ServiceRequest.suppliedToken accessToken).map
        fun _ => ServiceRequest.referenceName referenceUuid := by
      rw [hrequest]
      rfl
    have hstored : ∀ row, s.storage.services.byEndpoint url = some row →
        ∃ id, s.storage.services.get? id = some row := fun _ hrow => (byEndpoint_eq_some hrow).1
    have hold := filter_old hfresh hrows hpending hstored (fun r hr => hreference.trans hr)
    cases htoken : ServiceRequest.suppliedToken accessToken with
    | some secret =>
      rw [htoken] at h hold hreference
      simp only [pure_eq_ok] at h
      subst h
      exact ⟨hreference, rfl, target_add hrows hcreated, hold⟩
    | none =>
      rw [htoken] at h hold
      simp only [pure_eq_ok] at h
      subst h
      exact ⟨fun r hr => (by cases hr), target_add hrows hcreated, hold⟩
  | replaceToken id accessToken referenceUuid =>
    rw [hrequest] at h
    simp only [ServiceRequest.start, bind_eq_ok, pure_eq_ok] at h
    obtain ⟨-, -, -, -, row, hcurrent, rfl⟩ := h
    have hrow := current_eq_ok hcurrent
    exact ⟨by rw [hrequest]; rfl, rfl, ⟨hrows.snapshot hrow, rfl, rfl⟩, rfl⟩
  | removeToken id =>
    rw [hrequest] at h
    simp only [ServiceRequest.start, bind_eq_ok, pure_eq_ok] at h
    obtain ⟨row, hcurrent, rfl⟩ := h
    have hrow := current_eq_ok hcurrent
    exact ⟨fun r hr => (by cases hr), ⟨hrows.snapshot hrow, rfl, rfl⟩, rfl⟩
  | delete id =>
    rw [hrequest] at h
    simp only [ServiceRequest.start, bind_eq_ok] at h
    obtain ⟨-, -, -, -, h⟩ := h
    cases hfound : (s.storage.services.get? id).bind fun row => row.endpoint.credentialRef with
    | none =>
      rw [hfound] at h
      obtain rfl := pure_eq_ok.mp h
      exact hrequest
    | some r =>
      rw [hfound] at h
      obtain rfl := pure_eq_ok.mp h
      obtain ⟨row, hrow, hr⟩ := Option.bind_eq_some_iff.mp hfound
      exact ⟨hrequest, hrows.spent hrow hr, hrows.unique hrow hr⟩
  | discover id =>
    rw [hrequest] at h
    simp only [ServiceRequest.start, bind_eq_ok, require_eq_ok, pure_eq_ok, exists_const] at h
    obtain ⟨row, hcurrent, -, rfl⟩ := h
    have hrow := current_eq_ok hcurrent
    exact (hrows.snapshot hrow).named

theorem writeSecret_eq_ok {r secret : String} {failure : Option CoreError}
    {secrets secrets' : Secrets} (h : secrets.writeSecret r secret failure = .ok secrets') :
    Secrets.canonicalReference r ∧ secrets' = secrets.insert r secret := by
  simp only [Secrets.writeSecret, Secrets.entry, bind_eq_ok, require_eq_ok, pure_eq_ok,
    exists_const] at h
  obtain ⟨-, -, ⟨hcanonical, -⟩, rfl⟩ := h
  exact ⟨hcanonical, rfl⟩

theorem deleteSecret_eq_ok {r : String} {failure : Option CoreError} {secrets secrets' : Secrets}
    (h : secrets.deleteSecret r failure = .ok secrets') : secrets' = secrets.erase r := by
  simp only [Secrets.deleteSecret, bind_eq_ok, pure_eq_ok] at h
  obtain ⟨-, -, rfl⟩ := h
  rfl

theorem nextVersion_eq_ok {current : Option (ModelServiceRecord Fp)} {expected version : ℕ}
    (h : ModelServices.nextVersion current expected = .ok version) :
    (current = none ∧ expected = 0 ∧ version = 1) ∨
      ∃ row, current = some row ∧ row.version = expected ∧ version = row.version + 1 := by
  unfold ModelServices.nextVersion at h
  cases current with
  | none =>
    by_cases hexpected : expected = 0
    · rw [if_pos hexpected] at h
      exact .inl ⟨rfl, hexpected, (Except.ok.inj h).symm⟩
    · rw [if_neg hexpected] at h
      cases h
  | some row =>
    dsimp only at h
    by_cases hexpected : row.version = expected
    · rw [if_pos hexpected] at h
      exact .inr ⟨row, rfl, hexpected, (Except.ok.inj h).symm⟩
    · rw [if_neg hexpected] at h
      cases h

theorem saveModelService_eq_ok {parse : String → Option Url} {endpoint : ServiceEndpoint}
    {expected : ℕ} {now : String} {failure : Option CoreError}
    {services services' : ModelServices Fp}
    (h : services.saveModelService parse endpoint expected now failure = .ok services') :
    ∃ version,
      ModelServices.nextVersion (services.get? endpoint.serviceId) expected = .ok version ∧
      services' = services.insert endpoint.serviceId
        (ModelServices.savedRow (services.get? endpoint.serviceId) endpoint version now) := by
  simp only [ModelServices.saveModelService, bind_eq_ok, require_eq_ok, pure_eq_ok] at h
  obtain ⟨-, -, -, -, -, -, version, hversion, -, -, rfl⟩ := h
  exact ⟨version, hversion, rfl⟩

/-- Where a request saves, there is no row yet, or still the row that it has read. -/
theorem target_origin (hrows : Rows requests s) {endpoint : ServiceEndpoint}
    {existing : Option (ModelServiceRecord Fp)} (htarget : Target requests s i endpoint existing)
    {version : ℕ}
    (h : ModelServices.nextVersion (s.row? endpoint.serviceId) (existing.elim 0 (·.version)) =
      .ok version) :
    1 ≤ version ∧ ((requests i).created = some (endpoint.serviceId, endpoint.endpoint) ∨
      ∃ current, s.row? endpoint.serviceId = some current ∧ current.version < version ∧
        current.endpoint.endpoint = endpoint.endpoint) := by
  rcases nextVersion_eq_ok h with ⟨hnone, hexpected, rfl⟩ | ⟨current, hcurrent, hexpected, rfl⟩
  · refine ⟨le_refl 1, .inl ?_⟩
    cases existing with
    | none => exact htarget
    | some row =>
      have hversion := htarget.1.version
      change row.version = 0 at hexpected
      omega
  · refine ⟨by omega, .inr ⟨current, hcurrent, by omega, ?_⟩⟩
    cases existing with
    | none =>
      have hversion := hrows.version hcurrent
      change current.version = 0 at hexpected
      omega
    | some row =>
      obtain ⟨hsnapshot, hid, hurl⟩ := htarget
      have hsame := (hsnapshot.since (hid ▸ hcurrent)).2 hexpected.symm
      rw [hsame, hurl]

theorem get?_insert {K V : Type} [LinearOrder K] (m : OrderedMap K V) (k l : K) (v : V) :
    (m.insert k v).get? l = if l = k then some v else m.get? l := by
  by_cases h : l = k
  · rw [if_pos h, h, OrderedMap.get?_insert_self]
  · rw [if_neg h, OrderedMap.get?_insert_of_ne m h]

/-- A save of task `i`. -/
theorem Change.save (hrows : Rows requests s) {endpoint : ServiceEndpoint}
    {existing : Option (ModelServiceRecord Fp)} {old : Option String}
    (htask : s.tasks i = .saving endpoint existing old)
    (hsound : Sound requests s i (.saving endpoint existing old))
    {parse : String → Option Url} {now : String} {failure : Option CoreError}
    {services : ModelServices Fp}
    (h : s.storage.services.saveModelService parse endpoint (existing.elim 0 (·.version)) now
      failure = .ok services) {next : ServiceTask Fp} (hnext : next.pending = false) :
    Change requests s i next { s.storage with services } := by
  obtain ⟨hreference, htarget, -⟩ := hsound
  obtain ⟨version, hversion, rfl⟩ := saveModelService_eq_ok h
  obtain ⟨hpositive, horigin⟩ := target_origin hrows htarget hversion
  refine ⟨fun hpending => ?_, fun id row hrow => ?_, fun r hr => .inl hr⟩
  · rw [hnext] at hpending
    cases hpending
  · change OrderedMap.get? (OrderedMap.insert _ _ _) _ = _ at hrow
    rw [get?_insert] at hrow
    by_cases hid : id = endpoint.serviceId
    · rw [if_pos hid] at hrow
      cases hrow
      refine .inr ⟨⟨⟨existing, old, htask⟩, hid.symm, hpositive, fun hr => hreference _ hr, ?_⟩,
        hnext, rfl⟩
      rw [hid]
      exact horigin
    · rw [if_neg hid] at hrow
      exact .inl ⟨row, hrow, rfl, rfl⟩

/-- A deletion of a secret by task `i`. -/
theorem Change.erase (hfresh : Fresh requests) {next : ServiceTask Fp} {r : String}
    (hnext : next.pending = false)
    (hrow : ∀ id row, s.row? id = some row → row.endpoint.credentialRef = some r →
      ∃ j, requests j = .delete id)
    (howner : ∃ j, (requests j).reference = some r ∧ ((s.tasks j).pending = false ∨ j = i)) :
    Change requests s i next { s.storage with secrets := s.storage.secrets.erase r } := by
  refine ⟨fun hpending => ?_, fun id row hrow => .inl ⟨row, hrow, rfl, rfl⟩, fun r' hr' => ?_⟩
  · rw [hnext] at hpending
    cases hpending
  · by_cases hr : r' = r
    · subst hr
      refine .inr ⟨hrow, fun j hij hpending hreference => ?_⟩
      obtain ⟨k, hk, hkpending⟩ := howner
      obtain rfl := hfresh.reference hreference hk
      rcases hkpending with hkpending | hkpending
      · rw [hkpending] at hpending
        cases hpending
      · exact hij hkpending
    · exact .inl (OrderedMap.mem_erase.mpr ⟨hr, hr'⟩)

variable [Sha256 Fp] [DecidableEq Fp]

/-- What the proof of a step has to show. -/
def Steps (requests : ℕ → ServiceRequest) (s : ServiceState Fp) (i : ℕ)
    (next : ServiceTask Fp) (storage : ServiceStorage Fp) : Prop :=
  Change requests s i next storage ∧ Sound requests (s.after i next storage) i next

omit [Sha256 Fp] [DecidableEq Fp] in
theorem steps_finished (outcome : CoreResult Unit) :
    Steps requests s i (.finished outcome) s.storage :=
  ⟨Change.keep fun hpending => (by cases hpending), trivial⟩

omit [Sha256 Fp] [DecidableEq Fp] in
theorem steps_requested (hfresh : Fresh requests) (hrows : Rows requests s)
    (hpending : (s.tasks i).pending = true) {failure : Option CoreError}
    {task : ServiceTask Fp} (h : (requests i).start failure s.storage.services = .ok task) :
    Steps requests s i task s.storage :=
  ⟨Change.keep fun _ => hpending,
    (start_sound hfresh hrows hpending h).keep (fun _ => hpending) hfresh⟩

omit [Sha256 Fp] [DecidableEq Fp] in
theorem steps_writing (hfresh : Fresh requests) (hpending : (s.tasks i).pending = true)
    {r secret : String} {endpoint : ServiceEndpoint} {existing : Option (ModelServiceRecord Fp)}
    {old : Option String} (hsound : Sound requests s i (.writing r secret endpoint existing old))
    {failure : Option CoreError} {secrets : Secrets}
    (h : s.storage.secrets.writeSecret r secret failure = .ok secrets) :
    Steps requests s i (.saving endpoint existing old) { s.storage with secrets } := by
  obtain ⟨hreference, hcredential, htarget, hold⟩ := hsound
  obtain ⟨-, rfl⟩ := writeSecret_eq_ok h
  have hchange : Change requests s i (.saving endpoint existing old)
      { s.storage with secrets := s.storage.secrets.insert r secret } :=
    ⟨fun _ => hpending, fun id row hrow => .inl ⟨row, hrow, rfl, rfl⟩,
      fun r' hr' => .inl (OrderedMap.mem_insert.mpr (.inr hr'))⟩
  refine ⟨hchange, fun r' hr' => ?_, hchange.target hfresh htarget, hold⟩
  obtain rfl : r = r' := Option.some.inj (hcredential.symm.trans hr')
  exact ⟨hreference, OrderedMap.mem_insert.mpr (.inl rfl)⟩

omit [Sha256 Fp] [DecidableEq Fp] in
/-- No row names a reference that its request has not saved. -/
theorem unnamed_of_pending (hfresh : Fresh requests) (hrows : Rows requests s)
    (hpending : (s.tasks i).pending = true) {r : String}
    (hown : (requests i).reference = some r) : s.Unnamed r := by
  intro id row hrow hr
  obtain ⟨j, hj, hspent⟩ := hrows.spent hrow hr
  rw [hfresh.reference hown hj, hspent] at hpending
  cases hpending

omit [Sha256 Fp] [DecidableEq Fp] in
theorem steps_saving (hfresh : Fresh requests) (hrows : Rows requests s)
    {endpoint : ServiceEndpoint} {existing : Option (ModelServiceRecord Fp)}
    {old : Option String} (htask : s.tasks i = .saving endpoint existing old)
    (hsound : Sound requests s i (.saving endpoint existing old))
    {parse : String → Option Url} {now : String} {failure : Option CoreError}
    {services : ModelServices Fp}
    (h : s.storage.services.saveModelService parse endpoint (existing.elim 0 (·.version)) now
      failure = .ok services) :
    Steps requests s i (old.elim (.finished (.ok ())) .cleaning) { s.storage with services } := by
  cases old with
  | none => exact ⟨Change.save hrows htask hsound h rfl, trivial⟩
  | some r =>
    have hchange : Change requests s i (.cleaning r) { s.storage with services } :=
      Change.save hrows htask hsound h rfl
    obtain ⟨hreference, htarget, hold⟩ := hsound
    obtain ⟨row, rfl, hr⟩ := Option.bind_eq_some_iff.mp hold.symm
    obtain ⟨hsnapshot, hid, -⟩ := htarget
    have hspent := hsnapshot.spent hr
    refine ⟨hchange, hchange.spent hspent, fun id' row' hrow' hr' => ?_⟩
    rcases hchange.rows id' row' hrow' with ⟨old, holdrow, hendpoint, -⟩ | ⟨hsaved, -⟩
    · -- the row that named the reference is the one just saved
      have hid' := hsnapshot.only hr id' old holdrow (hendpoint ▸ hr')
      obtain ⟨version, -, rfl⟩ := saveModelService_eq_ok h
      change OrderedMap.get? (OrderedMap.insert _ _ _) _ = _ at hrow'
      rw [get?_insert, if_pos (hid'.trans hid.symm)] at hrow'
      cases hrow'
      have hpending : (s.tasks i).pending = true := by
        rw [htask]
        rfl
      have hunnamed := unnamed_of_pending hfresh hrows hpending (hreference r hr').1
      exact hunnamed id' old holdrow (hendpoint ▸ hr')
    · exact hsaved.ne_spent hfresh hspent hr'

omit [Sha256 Fp] [DecidableEq Fp] in
theorem steps_deleting {id : String} {failure : Option CoreError} {services : ModelServices Fp}
    (h : s.storage.services.deleteModelService id failure = .ok services) :
    Steps requests s i (.finished (.ok ())) { s.storage with services } := by
  simp only [ModelServices.deleteModelService, bind_eq_ok, pure_eq_ok] at h
  obtain ⟨-, -, rfl⟩ := h
  refine ⟨⟨fun hnext => (by cases hnext), fun id' row hrow => .inl ⟨row, ?_, rfl, rfl⟩,
    fun r hr => .inl hr⟩, trivial⟩
  change OrderedMap.get? (OrderedMap.erase _ _) _ = _ at hrow
  by_cases hid : id' = id
  · rw [hid, OrderedMap.get?_erase_self] at hrow
    cases hrow
  · rwa [OrderedMap.get?_erase_of_ne _ hid] at hrow

theorem recordModelCatalog_eq_ok {id now : String} {catalog : ModelCatalog Fp}
    {failure : Option CoreError} {services services' : ModelServices Fp}
    (h : services.recordModelCatalog id catalog now failure = .ok services') :
    catalog.validate = .ok () ∧ catalog.serviceId = id ∧ ∃ row, services.get? id = some row ∧
      services' = services.insert id { row with
        discoveryState := "connected", catalog := some catalog, lastCheckedAt := some now } := by
  simp only [ModelServices.recordModelCatalog, bind_eq_ok, require_eq_ok, fetch_eq_ok,
    pure_eq_ok] at h
  obtain ⟨-, -, _, hvalid, -, hid, -, -, row, hrow, rfl⟩ := h
  exact ⟨hvalid, hid, row, (Option.filter_eq_some_iff.mp hrow).1, rfl⟩

theorem steps_recording {id now : String} {catalog : ModelCatalog Fp}
    {failure : Option CoreError} {services : ModelServices Fp}
    (h : s.storage.services.recordModelCatalog id catalog now failure = .ok services) :
    Steps requests s i (.refreshing id) { s.storage with services } := by
  obtain ⟨-, -, row, hfound, rfl⟩ := recordModelCatalog_eq_ok h
  refine ⟨⟨fun hnext => (by cases hnext), fun id' row' hrow' => .inl ?_,
    fun r hr => .inl hr⟩, trivial⟩
  change OrderedMap.get? (OrderedMap.insert _ _ _) _ = _ at hrow'
  rw [get?_insert] at hrow'
  by_cases hid : id' = id
  · rw [if_pos hid] at hrow'
    cases hrow'
    exact ⟨row, hid ▸ hfound, rfl, rfl⟩
  · rw [if_neg hid] at hrow'
    exact ⟨row', hrow', rfl, rfl⟩

/-- A step of a task is a change, after which the task is sound. -/
theorem Sane.steps (hfresh : Fresh requests) (hsane : Sane requests s)
    {parse : String → Option Url} {turn : Turn Fp} {task next : ServiceTask Fp}
    {storage : ServiceStorage Fp} (htask : s.tasks i = task)
    (h : ServiceTask.Advance parse turn s.storage task next storage) :
    Steps requests s i next storage := by
  have hrows := hsane.rows
  have hsound : Sound requests s i task := htask ▸ hsane.tasks i
  have hpending : task.pending = true → (s.tasks i).pending = true := fun h => htask ▸ h
  cases h with
  | start hstart =>
    obtain rfl := hsound
    exact steps_requested hfresh hrows (hpending rfl) hstart
  | write hwrite => exact steps_writing hfresh (hpending rfl) hsound hwrite
  | save hsave => exact steps_saving hfresh hrows htask hsound hsave
  | refuse hsave hr =>
    have hown := (hsound.1 _ hr).1
    exact ⟨Change.keep fun hnext => (by cases hnext), hown,
      unnamed_of_pending hfresh hrows (hpending rfl) hown⟩
  | undo hdelete =>
    rw [deleteSecret_eq_ok hdelete]
    exact ⟨Change.erase hfresh rfl (fun id row hrow hr => absurd hr (hsound.2 id row hrow))
      ⟨i, hsound.1, .inr rfl⟩, trivial⟩
  | clean hdelete =>
    rw [deleteSecret_eq_ok hdelete]
    obtain ⟨⟨j, hj, hspent⟩, hnone⟩ := hsound
    exact ⟨Change.erase hfresh rfl (fun id row hrow hr => absurd hr (hnone id row hrow))
      ⟨j, hj, .inl hspent⟩, trivial⟩
  | forget hdelete =>
    rw [deleteSecret_eq_ok hdelete]
    obtain ⟨hrequest, ⟨j, hj, hspent⟩, honly⟩ := hsound
    exact ⟨Change.erase hfresh rfl
      (fun id row hrow hr => ⟨i, honly id row hrow hr ▸ hrequest⟩) ⟨j, hj, .inl hspent⟩, hrequest⟩
  | delete hdelete => exact steps_deleting hdelete
  | @discover service catalog hdiscover =>
    have hchange : Change requests s i (.recording service catalog) s.storage :=
      Change.keep fun hnext => (by cases hnext)
    exact ⟨hchange, hchange.named hsound⟩
  | record hrecord => exact steps_recording hrecord
  | stop => exact steps_finished _

theorem step_eq_after (s : ServiceState Fp) (parse : String → Option Url)
    (turn : ℕ × Turn Fp) : ∃ next storage, s.step parse turn = s.after turn.1 next storage ∧
      ServiceTask.Advance parse turn.2 s.storage (s.tasks turn.1) next storage :=
  ⟨_, _, rfl, ServiceTask.advance_cases rfl⟩

theorem Sane.step (hfresh : Fresh requests) (hsane : Sane requests s)
    (parse : String → Option Url) (turn : ℕ × Turn Fp) : Sane requests (s.step parse turn) := by
  obtain ⟨next, storage, hstep, hadvance⟩ := step_eq_after s parse turn
  obtain ⟨hchange, hnext⟩ := hsane.steps hfresh rfl hadvance
  rw [hstep]
  refine ⟨hchange.keepsRows hfresh hsane.rows, fun j => ?_⟩
  by_cases hj : j = turn.1
  · have htask : (s.after turn.1 next storage).tasks j = next := by simp [after, hj]
    rw [htask, hj]
    exact hnext
  · have htask : (s.after turn.1 next storage).tasks j = s.tasks j := by simp [after, hj]
    rw [htask]
    exact hchange.sound hfresh hj (hsane.tasks j)

omit [Sha256 Fp] [DecidableEq Fp] in
theorem sane_initial (requests : ℕ → ServiceRequest) :
    Sane requests (initial requests : ServiceState Fp) where
  rows := by constructor <;> intros <;> simp_all [row?, initial]
  tasks i := rfl

theorem Sane.run (hfresh : Fresh requests) (hsane : Sane requests s)
    (parse : String → Option Url) (turns : List (ℕ × Turn Fp)) :
    Sane requests (s.run parse turns) := by
  induction turns generalizing s with
  | nil => exact hsane
  | cons turn rest ih => exact ih (hsane.step hfresh parse turn)

end Steps

/-! ## Secrets and the rows that name them -/

namespace Sample

/-- One service is added, and its models are asked for. -/
def requests : ℕ → ServiceRequest
  | 0 => .add "https://models.example" (some "token") none none false "a" "b"
  | _ => .discover "svc-a"

theorem fresh : Fresh requests := by
  intro i j uuid hi hj
  cases i with
  | zero =>
    cases j with
    | zero => rfl
    | succ j => cases hj
  | succ i => cases hi

def parse (_ : String) : Option Url :=
  some ⟨"https", "", none, some "models.example", some 443, none, none⟩

def turn : Turn Digest :=
  ⟨none, none, .ok (.obj [("data", .arr [.obj [("id", .str "m")], .obj [("id", .str "a")]])]),
    "now"⟩

def turns : List (ℕ × Turn Digest) :=
  [(0, turn), (0, turn), (0, turn), (1, turn), (1, turn), (1, turn)]

def catalog : ModelCatalog Digest :=
  let models := [⟨"a", "a"⟩, ⟨"m", "m"⟩]
  ⟨"quillframe_model_catalog_v1", "svc-a", models,
    ModelCatalog.computeFingerprint "quillframe_model_catalog_v1" "svc-a" models⟩

def row : ModelServiceRecord Digest where
  endpoint :=
    ⟨"svc-a", "https://models.example", some "keyring:qf:b", .bearer, .openaiChatCompletions, false⟩
  enabled := true
  discoveryState := "connected"
  catalog := some catalog
  lastCheckedAt := some "now"
  version := 1
  createdAt := "now"
  updatedAt := "now"

theorem row_eq : ((initial requests).run parse turns).row? "svc-a" = some row := by
  decide +kernel

end Sample

section Credentials

variable [Sha256 Fp] [DecidableEq Fp] {requests : ℕ → ServiceRequest}

/-- While nobody asks to delete a service, its row names a stored secret that no other row names,
in every state of every interleaving, whatever fails and wherever a request stops. -/
theorem credentials_stored (hfresh : Fresh requests) (parse : String → Option Url)
    (turns : List (ℕ × Turn Fp)) {id r : String} {row : ModelServiceRecord Fp}
    (hkept : ∀ i, requests i ≠ .delete id)
    (hrow : ((initial requests).run parse turns).row? id = some row)
    (hr : row.endpoint.credentialRef = some r) :
    r ∈ ((initial requests).run parse turns).storage.secrets ∧
      ((initial requests).run parse turns).OnlyIn id r := by
  have hsane := (sane_initial requests).run hfresh parse turns
  exact ⟨hsane.rows.stored hrow hr hkept, hsane.rows.unique hrow hr⟩

theorem credentials_stored_sample :
    "keyring:qf:b" ∈ ((initial Sample.requests).run Sample.parse Sample.turns).storage.secrets ∧
      ((initial Sample.requests).run Sample.parse Sample.turns).OnlyIn "svc-a" "keyring:qf:b" :=
  credentials_stored Sample.fresh Sample.parse Sample.turns
    (fun i => by cases i <;> simp [Sample.requests]) Sample.row_eq rfl

/-- The secret is named by a row or held by a request under way. -/
def Accounted (s : ServiceState Fp) (r : String) : Prop :=
  (∃ id row, s.row? id = some row ∧ row.endpoint.credentialRef = some r) ∨
    ∃ i, (s.tasks i).Holds r

/-- Every secret is under a reference of the store and accounted for. -/
structure Tracked (s : ServiceState Fp) : Prop where
  canonical : ∀ r ∈ s.storage.secrets, Secrets.canonicalReference r
  accounted : ∀ r ∈ s.storage.secrets, s.Accounted r

/-- The secret store does not fail, and a deletion finds its row without a stored secret: nobody
has replaced the token since the deletion forgot it. -/
def orderly (s : ServiceState Fp) (turn : ℕ × Turn Fp) : Bool :=
  turn.2.keyring.isNone && match s.tasks turn.1 with
    | .deleting id => (s.row? id).all fun row =>
      row.endpoint.credentialRef.all fun r => r ∉ s.storage.secrets
    | _ => true

def orderlyRun (parse : String → Option Url) (s : ServiceState Fp) : List (ℕ × Turn Fp) → Bool
  | [] => true
  | turn :: rest => s.orderly turn && orderlyRun parse (s.step parse turn) rest

omit [Sha256 Fp] [DecidableEq Fp] in
theorem orderly_deleting {s : ServiceState Fp} {turn : ℕ × Turn Fp} (h : s.orderly turn)
    {id r : String} {row : ModelServiceRecord Fp} (htask : s.tasks turn.1 = .deleting id)
    (hrow : s.row? id = some row) (hr : row.endpoint.credentialRef = some r) :
    r ∉ s.storage.secrets := by
  simp only [orderly, htask, hrow, hr, Bool.and_eq_true, Option.all_some, decide_eq_true_eq] at h
  exact h.2

omit [Sha256 Fp] [DecidableEq Fp] in
theorem deleteSecret_of_canonical {r : String} {secrets : Secrets}
    (h : Secrets.canonicalReference r) : secrets.deleteSecret r none = .ok (secrets.erase r) := by
  simp [Secrets.deleteSecret, Secrets.entry, mayFail, require, h, bind, Except.bind, pure,
    Except.pure]

variable {s : ServiceState Fp} {i : ℕ} {next : ServiceTask Fp} {storage : ServiceStorage Fp}

omit [Sha256 Fp] [DecidableEq Fp] in
/-- Of a secret that was accounted for, only the row that a step changes and the task that takes
it have to be looked at. -/
theorem Accounted.after {r : String} (h : s.Accounted r)
    (hrows : ∀ id row, s.row? id = some row → row.endpoint.credentialRef = some r →
      (s.after i next storage).Accounted r)
    (htask : (s.tasks i).Holds r → (s.after i next storage).Accounted r) :
    (s.after i next storage).Accounted r := by
  rcases h with ⟨id, row, hrow, hr⟩ | ⟨j, hj⟩
  · exact hrows id row hrow hr
  · by_cases hij : j = i
    · exact htask (hij ▸ hj)
    · exact .inr ⟨j, by simpa [ServiceState.after, hij] using hj⟩

omit [Sha256 Fp] [DecidableEq Fp] in
theorem accounted_of_next {r : String} (h : next.Holds r) :
    (s.after i next storage).Accounted r := .inr ⟨i, by simpa [ServiceState.after] using h⟩

theorem Tracked.advance (hsane : Sane requests s) (htracked : Tracked s)
    {parse : String → Option Url} {turn : ℕ × Turn Fp} (horderly : s.orderly turn)
    {task : ServiceTask Fp} (htask : s.tasks turn.1 = task)
    (h : ServiceTask.Advance parse turn.2 s.storage task next storage) :
    Tracked (s.after turn.1 next storage) := by
  have hkeyring : turn.2.keyring = none := by
    simp only [orderly, Bool.and_eq_true, Option.isNone_iff_eq_none] at horderly
    exact horderly.1
  have hsound : Sound requests s turn.1 task := htask ▸ hsane.tasks turn.1
  -- a step that leaves the rows alone
  have hsame : ∀ {next : ServiceTask Fp} {secrets : Secrets} {r : String}, s.Accounted r →
      (task.Holds r → (s.after turn.1 next { s.storage with secrets }).Accounted r) →
      (s.after turn.1 next { s.storage with secrets }).Accounted r :=
    fun hr hnext => hr.after (fun id row hrow hr => .inl ⟨id, row, hrow, hr⟩) (htask ▸ hnext)
  cases h with
  | start hstart =>
    exact ⟨htracked.canonical, fun r hr => hsame (htracked.accounted r hr) fun h => h.elim⟩
  | write hwrite =>
    obtain ⟨hcanonical, rfl⟩ := writeSecret_eq_ok hwrite
    refine ⟨fun r hr => ?_, fun r hr => ?_⟩
    · rcases OrderedMap.mem_insert.mp hr with rfl | hr
      · exact hcanonical
      · exact htracked.canonical r hr
    · rcases OrderedMap.mem_insert.mp hr with rfl | hr
      · exact accounted_of_next hsound.2.1
      · exact hsame (htracked.accounted r hr) fun h => h.elim
  | @save endpoint existing old services hsave =>
    obtain ⟨-, htarget, hold⟩ := hsound
    obtain ⟨version, hversion, rfl⟩ := saveModelService_eq_ok hsave
    refine ⟨htracked.canonical, fun r hr => ?_⟩
    refine (htracked.accounted r hr).after (fun id row hrow hcredential => ?_) fun hholds => ?_
    · by_cases hid : id = endpoint.serviceId
      · -- the row that is replaced is the one that was read, so that its secret is cleaned up
        subst hid
        have hread : old = some r := by
          rcases nextVersion_eq_ok hversion with ⟨hnone, -⟩ | ⟨current, hcurrent, hexpected, -⟩
          · cases hrow.symm.trans hnone
          · obtain rfl : row = current := Option.some.inj (hrow.symm.trans hcurrent)
            cases existing with
            | none =>
              have hpositive := hsane.rows.version hrow
              change row.version = 0 at hexpected
              omega
            | some seen =>
              obtain ⟨hsnapshot, hsame, -⟩ := htarget
              have hendpoint := (hsnapshot.since (hsame ▸ hrow)).2 hexpected.symm
              rw [hold, ← hcredential, hendpoint]
              rfl
        rw [hread]
        exact accounted_of_next rfl
      · refine .inl ⟨id, row, ?_, hcredential⟩
        change OrderedMap.get? (OrderedMap.insert _ _ _) _ = _
        rw [get?_insert, if_neg hid]
        exact hrow
    · rw [htask] at hholds
      refine .inl ⟨endpoint.serviceId, _, OrderedMap.get?_insert_self _ _ _, hholds⟩
  | refuse hsave hcredential =>
    exact ⟨htracked.canonical, fun r hr => hsame (htracked.accounted r hr) fun h =>
      accounted_of_next (Option.some.inj (hcredential.symm.trans h))⟩
  | undo hdelete =>
    rw [deleteSecret_eq_ok hdelete]
    refine ⟨fun r hr => htracked.canonical r (OrderedMap.mem_erase.mp hr).2, fun r hr => ?_⟩
    obtain ⟨hne, hr⟩ := OrderedMap.mem_erase.mp hr
    exact hsame (htracked.accounted r hr) fun h => absurd h.symm hne
  | clean hdelete =>
    rw [deleteSecret_eq_ok hdelete]
    refine ⟨fun r hr => htracked.canonical r (OrderedMap.mem_erase.mp hr).2, fun r hr => ?_⟩
    obtain ⟨hne, hr⟩ := OrderedMap.mem_erase.mp hr
    exact hsame (htracked.accounted r hr) fun h => absurd h.symm hne
  | forget hdelete =>
    rw [deleteSecret_eq_ok hdelete]
    refine ⟨fun r hr => htracked.canonical r (OrderedMap.mem_erase.mp hr).2, fun r hr => ?_⟩
    obtain ⟨-, hr⟩ := OrderedMap.mem_erase.mp hr
    exact hsame (htracked.accounted r hr) fun h => h.elim
  | @delete id services hdelete =>
    simp only [ModelServices.deleteModelService, bind_eq_ok, pure_eq_ok] at hdelete
    obtain ⟨-, -, rfl⟩ := hdelete
    refine ⟨htracked.canonical, fun r hr => ?_⟩
    refine (htracked.accounted r hr).after (fun id' row hrow hcredential => ?_) fun hholds => ?_
    · by_cases hid : id' = id
      · exact absurd hr (orderly_deleting horderly htask (hid ▸ hrow) hcredential)
      · refine .inl ⟨id', row, ?_, hcredential⟩
        change OrderedMap.get? (OrderedMap.erase _ _) _ = _
        rw [OrderedMap.get?_erase_of_ne _ hid]
        exact hrow
    · rw [htask] at hholds
      exact hholds.elim
  | discover hdiscover =>
    exact ⟨htracked.canonical, fun r hr => hsame (htracked.accounted r hr) fun h => h.elim⟩
  | @record service catalog services hrecord =>
    obtain ⟨-, -, current, hfound, rfl⟩ := recordModelCatalog_eq_ok hrecord
    refine ⟨htracked.canonical, fun r hr => ?_⟩
    refine (htracked.accounted r hr).after (fun id row hrow hcredential => ?_) fun hholds => ?_
    · by_cases hid : id = service.endpoint.serviceId
      · obtain rfl : row = current := Option.some.inj (hrow.symm.trans (hid ▸ hfound))
        refine .inl ⟨service.endpoint.serviceId, _, OrderedMap.get?_insert_self _ _ _, hcredential⟩
      · refine .inl ⟨id, row, ?_, hcredential⟩
        change OrderedMap.get? (OrderedMap.insert _ _ _) _ = _
        rw [get?_insert, if_neg hid]
        exact hrow
    · rw [htask] at hholds
      exact hholds.elim
  | stop hstop =>
    refine ⟨htracked.canonical, fun r hr => hsame (htracked.accounted r hr) fun h => ?_⟩
    obtain ⟨error, herror⟩ := hstop r h
    rw [hkeyring, deleteSecret_of_canonical (htracked.canonical r hr)] at herror
    cases herror

theorem Tracked.run (hfresh : Fresh requests) (parse : String → Option Url)
    {turns : List (ℕ × Turn Fp)} (hsane : Sane requests s) (htracked : Tracked s)
    (horderly : orderlyRun parse s turns) : Tracked (s.run parse turns) := by
  induction turns generalizing s with
  | nil => exact htracked
  | cons turn rest ih =>
    simp only [orderlyRun, Bool.and_eq_true] at horderly
    obtain ⟨hturn, hrest⟩ := horderly
    obtain ⟨next, storage, hstep, hadvance⟩ := step_eq_after s parse turn
    have htracked' : Tracked (s.step parse turn) := by
      rw [hstep]
      exact htracked.advance hsane hturn rfl hadvance
    exact ih (hsane.step hfresh parse turn) htracked' hrest

/-- In an orderly run no secret is left behind: each is named by a row or held by a request that
has not finished. -/
theorem secrets_accounted (hfresh : Fresh requests) (parse : String → Option Url)
    (turns : List (ℕ × Turn Fp)) (horderly : orderlyRun parse (initial requests) turns) {r : String}
    (hr : r ∈ ((initial requests).run parse turns).storage.secrets) :
    ((initial requests).run parse turns).Accounted r := by
  have hempty : Tracked (initial requests : ServiceState Fp) :=
    ⟨fun r hr => absurd hr (OrderedMap.not_mem_empty r),
      fun r hr => absurd hr (OrderedMap.not_mem_empty r)⟩
  exact (hempty.run hfresh parse (sane_initial requests) horderly).accounted r hr

theorem secrets_accounted_sample :
    ((initial Sample.requests).run Sample.parse Sample.turns).Accounted "keyring:qf:b" :=
  secrets_accounted Sample.fresh Sample.parse Sample.turns (by decide +kernel) (by decide +kernel)

end Credentials

/-! ## Catalogs -/

section Catalogs

variable [Sha256 Fp] {requests : ℕ → ServiceRequest} {s : ServiceState Fp}

/-- The models that the network answers to a discovery in a step, with the service as the
discovery has read it. -/
def answered (s : ServiceState Fp) (turn : ℕ × Turn Fp) :
    List (ModelServiceRecord Fp × List ModelDescriptor) :=
  match s.tasks turn.1, turn.2.answer.bind ModelCatalog.readModels with
  | .fetching service, .ok models => [(service, models)]
  | _, _ => []

variable [DecidableEq Fp]

def discovered (parse : String → Option Url) (s : ServiceState Fp) :
    List (ℕ × Turn Fp) → List (ModelServiceRecord Fp × List ModelDescriptor)
  | [] => []
  | turn :: rest => s.answered turn ++ discovered parse (s.step parse turn) rest

/-- The catalog of the models that one of the answers lists for a service. -/
def Lists (seen : List (ModelServiceRecord Fp × List ModelDescriptor)) (id url : String)
    (catalog : ModelCatalog Fp) : Prop :=
  ∃ service models, (service, models) ∈ seen ∧ service.endpoint.serviceId = id ∧
    service.endpoint.endpoint = url ∧ ¬ blank id ∧ ModelCatalog.create id models = .ok catalog

structure Listed (seen : List (ModelServiceRecord Fp × List ModelDescriptor))
    (s : ServiceState Fp) : Prop where
  rows : ∀ {id row catalog}, s.row? id = some row → row.catalog = some catalog →
    row.discoveryState = "connected" ∧ Lists seen id row.endpoint.endpoint catalog
  tasks : ∀ {i service catalog}, s.tasks i = .recording service catalog →
    Lists seen service.endpoint.serviceId service.endpoint.endpoint catalog

omit [DecidableEq Fp] in
theorem Lists.mono {seen more : List (ModelServiceRecord Fp × List ModelDescriptor)}
    {id url : String} {catalog : ModelCatalog Fp} (h : Lists seen id url catalog) :
    Lists (seen ++ more) id url catalog := by
  obtain ⟨service, models, hmem, hrest⟩ := h
  exact ⟨service, models, List.mem_append_left _ hmem, hrest⟩

omit [Sha256 Fp] [DecidableEq Fp] in
/-- The URL of a service never changes. -/
theorem Named.url (hfresh : Fresh requests) {id url url' : String}
    (h : Named requests s id url) (h' : Named requests s id url') : url = url' := by
  obtain ⟨i, hi, -⟩ := h
  obtain ⟨j, hj, -⟩ := h'
  rw [hfresh.created hi hj, hj] at hi
  exact (Prod.mk.inj (Option.some.inj hi)).2.symm

omit [DecidableEq Fp] in
theorem discoverModels_eq_ok {parse : String → Option Url} {turn : Turn Fp}
    {endpoint : ServiceEndpoint} {secrets : Secrets} {catalog : ModelCatalog Fp}
    (h : ServiceTask.discoverModels parse turn endpoint secrets = .ok catalog) :
    ¬ blank endpoint.serviceId ∧ ∃ models,
      turn.answer.bind ModelCatalog.readModels = .ok models ∧
      ModelCatalog.create endpoint.serviceId models = .ok catalog := by
  simp only [ServiceTask.discoverModels, bind_eq_ok] at h
  obtain ⟨url, hurl, -, -, value, hvalue, models, hmodels, hcreate⟩ := h
  have hid : ¬ blank endpoint.serviceId := by
    simp only [ServiceEndpoint.validateUrl, bind_eq_ok, require_eq_ok] at hurl
    obtain ⟨-, hid, -⟩ := hurl
    exact hid
  exact ⟨hid, models, by rw [hvalue]; exact hmodels, hcreate⟩

omit [Sha256 Fp] [DecidableEq Fp] in
/-- No request begins with recording a catalog. -/
theorem start_ne_recording {request : ServiceRequest} {failure : Option CoreError}
    {services : ModelServices Fp} {task : ServiceTask Fp}
    (h : request.start failure services = .ok task) (service : ModelServiceRecord Fp)
    (catalog : ModelCatalog Fp) : task ≠ .recording service catalog := by
  cases request with
  | add url accessToken authStyle protocolFamily loopback serviceUuid referenceUuid =>
    simp only [ServiceRequest.start, bind_eq_ok] at h
    obtain ⟨-, -, -, -, style, -, family, -, h⟩ := h
    cases htoken : ServiceRequest.suppliedToken accessToken with
    | some secret =>
      rw [htoken] at h
      rw [← pure_eq_ok.mp h]
      simp
    | none =>
      rw [htoken] at h
      rw [← pure_eq_ok.mp h]
      simp
  | replaceToken id accessToken referenceUuid =>
    simp only [ServiceRequest.start, bind_eq_ok, pure_eq_ok] at h
    obtain ⟨-, -, -, -, row, -, rfl⟩ := h
    simp
  | removeToken id =>
    simp only [ServiceRequest.start, bind_eq_ok, pure_eq_ok] at h
    obtain ⟨row, -, rfl⟩ := h
    simp
  | delete id =>
    simp only [ServiceRequest.start, bind_eq_ok] at h
    obtain ⟨-, -, -, -, h⟩ := h
    cases hfound : (services.get? id).bind fun row => row.endpoint.credentialRef with
    | none =>
      rw [hfound] at h
      rw [← pure_eq_ok.mp h]
      simp
    | some r =>
      rw [hfound] at h
      rw [← pure_eq_ok.mp h]
      simp
  | discover id =>
    simp only [ServiceRequest.start, bind_eq_ok, pure_eq_ok] at h
    obtain ⟨row, -, -, -, rfl⟩ := h
    simp

/-- What a step saves has no catalog, and what it records was answered for the service. -/
theorem Listed.step (hfresh : Fresh requests) (hsane : Sane requests s)
    {seen : List (ModelServiceRecord Fp × List ModelDescriptor)} (hlisted : Listed seen s)
    (parse : String → Option Url) (turn : ℕ × Turn Fp) :
    Listed (seen ++ s.answered turn) (s.step parse turn) := by
  obtain ⟨next, storage, hstep, hadvance⟩ := step_eq_after s parse turn
  rw [hstep]
  generalize htask : s.tasks turn.1 = task at hadvance
  have hsound : Sound requests s turn.1 task := htask ▸ hsane.tasks turn.1
  -- the tasks of a state whose stepping task does not begin to record
  have hothers : ∀ {storage : ServiceStorage Fp} {next : ServiceTask Fp},
      (∀ service catalog, next = .recording service catalog →
        Lists (seen ++ s.answered turn) service.endpoint.serviceId service.endpoint.endpoint
          catalog) →
      ∀ {i service catalog}, (s.after turn.1 next storage).tasks i = .recording service catalog →
        Lists (seen ++ s.answered turn) service.endpoint.serviceId service.endpoint.endpoint
          catalog := by
    intro storage next hnext i service catalog hrecording
    by_cases hi : i = turn.1
    · exact hnext service catalog (by simpa [ServiceState.after, hi] using hrecording)
    · have hold : s.tasks i = .recording service catalog := by
        simpa [ServiceState.after, hi] using hrecording
      exact (hlisted.tasks hold).mono
  have hkept : ∀ {next : ServiceTask Fp} {secrets : Secrets}
      {id : String} {row : ModelServiceRecord Fp} {catalog : ModelCatalog Fp},
      (s.after turn.1 next { s.storage with secrets }).row? id = some row →
      row.catalog = some catalog → row.discoveryState = "connected" ∧
        Lists (seen ++ s.answered turn) id row.endpoint.endpoint catalog :=
    fun hrow hcatalog => ⟨(hlisted.rows hrow hcatalog).1, (hlisted.rows hrow hcatalog).2.mono⟩
  cases hadvance with
  | start hstart =>
    refine ⟨hkept, hothers fun service catalog hnext => ?_⟩
    exact absurd hnext (start_ne_recording hstart service catalog)
  | write => exact ⟨hkept, hothers fun _ _ hnext => by cases hnext⟩
  | @save endpoint existing old services hsave =>
    obtain ⟨version, -, rfl⟩ := saveModelService_eq_ok hsave
    refine ⟨fun {id row catalog} hrow hcatalog => ?_, hothers fun service catalog hnext => ?_⟩
    · change OrderedMap.get? (OrderedMap.insert _ _ _) _ = _ at hrow
      rw [get?_insert] at hrow
      by_cases hid : id = endpoint.serviceId
      · rw [if_pos hid] at hrow
        cases hrow
        cases hcatalog
      · rw [if_neg hid] at hrow
        exact ⟨(hlisted.rows hrow hcatalog).1, (hlisted.rows hrow hcatalog).2.mono⟩
    · cases old <;> cases hnext
  | refuse => exact ⟨hkept, hothers fun _ _ hnext => by cases hnext⟩
  | undo => exact ⟨hkept, hothers fun _ _ hnext => by cases hnext⟩
  | clean => exact ⟨hkept, hothers fun _ _ hnext => by cases hnext⟩
  | forget => exact ⟨hkept, hothers fun _ _ hnext => by cases hnext⟩
  | @delete id services hdelete =>
    simp only [ModelServices.deleteModelService, bind_eq_ok, pure_eq_ok] at hdelete
    obtain ⟨-, -, rfl⟩ := hdelete
    refine ⟨fun {id' row catalog} hrow hcatalog => ?_, hothers fun _ _ hnext => by cases hnext⟩
    change OrderedMap.get? (OrderedMap.erase _ _) _ = _ at hrow
    by_cases hid : id' = id
    · rw [hid, OrderedMap.get?_erase_self] at hrow
      cases hrow
    · rw [OrderedMap.get?_erase_of_ne _ hid] at hrow
      exact ⟨(hlisted.rows hrow hcatalog).1, (hlisted.rows hrow hcatalog).2.mono⟩
  | @discover service catalog hdiscover =>
    refine ⟨hkept, hothers fun service' catalog' hnext => ?_⟩
    cases hnext
    obtain ⟨hid, models, hmodels, hcreate⟩ := discoverModels_eq_ok hdiscover
    refine ⟨service, models, List.mem_append_right _ ?_, rfl, rfl, hid, hcreate⟩
    simp [answered, htask, hmodels]
  | @record service catalog services hrecord =>
    obtain ⟨-, -, old, hfound, rfl⟩ := recordModelCatalog_eq_ok hrecord
    refine ⟨fun {id row catalog'} hrow hcatalog => ?_, hothers fun _ _ hnext => by cases hnext⟩
    change OrderedMap.get? (OrderedMap.insert _ _ _) _ = _ at hrow
    rw [get?_insert] at hrow
    by_cases hid : id = service.endpoint.serviceId
    · rw [if_pos hid] at hrow
      cases hrow
      cases hcatalog
      have hurl := Named.url hfresh (hsane.rows.named hfound) hsound
      refine ⟨rfl, ?_⟩
      rw [hid, hurl]
      exact (hlisted.tasks htask).mono
    · rw [if_neg hid] at hrow
      exact ⟨(hlisted.rows hrow hcatalog).1, (hlisted.rows hrow hcatalog).2.mono⟩
  | stop => exact ⟨hkept, hothers fun _ _ hnext => by cases hnext⟩

theorem Listed.run (hfresh : Fresh requests) (parse : String → Option Url)
    {seen : List (ModelServiceRecord Fp × List ModelDescriptor)} {turns : List (ℕ × Turn Fp)}
    (hsane : Sane requests s) (hlisted : Listed seen s) :
    Listed (seen ++ discovered parse s turns) (s.run parse turns) := by
  induction turns generalizing s seen with
  | nil =>
    rw [discovered, List.append_nil]
    exact hlisted
  | cons turn rest ih =>
    have hstep := ih (hsane.step hfresh parse turn) (hlisted.step hfresh hsane parse turn)
    rwa [List.append_assoc] at hstep

/-- The catalog in a row was answered to a discovery of this service at the URL of the row, which
never changes: it has the first model of each id of that answer, by increasing id. -/
theorem catalogs_discovered (hfresh : Fresh requests) (parse : String → Option Url)
    (turns : List (ℕ × Turn Fp)) {id : String} {row : ModelServiceRecord Fp}
    {catalog : ModelCatalog Fp} (hrow : ((initial requests).run parse turns).row? id = some row)
    (hcatalog : row.catalog = some catalog) :
    row.discoveryState = "connected" ∧ catalog.validate = .ok () ∧ catalog.serviceId = id ∧
      ∃ service models, (service, models) ∈ discovered parse (initial requests) turns ∧
        service.endpoint.serviceId = id ∧ service.endpoint.endpoint = row.endpoint.endpoint ∧
        (catalog.models.Pairwise fun a b => a.modelId < b.modelId) ∧
        ∀ model, model ∈ catalog.models ↔
          models.find? (fun other => other.modelId = model.modelId) = some model := by
  have hempty : Listed [] (initial requests : ServiceState Fp) := by
    refine ⟨fun {id row catalog} hrow => ?_, fun {i service catalog} htask => ?_⟩
    · cases hrow
    · cases htask
  obtain ⟨hstate, service, models, hmem, hid, hurl, hblank, hcreate⟩ :=
    (hempty.run hfresh parse (sane_initial requests)).rows hrow hcatalog
  obtain ⟨hvalid, hincreasing, hlists⟩ := ModelCatalog.create_lists hblank hcreate
  exact ⟨hstate, hvalid, (ModelCatalog.create_eq_ok.mp hcreate).2.2.1, service, models, hmem, hid,
    hurl, hincreasing, hlists⟩

theorem catalogs_discovered_sample :
    Sample.row.discoveryState = "connected" ∧ Sample.catalog.validate = .ok () ∧
      Sample.catalog.serviceId = "svc-a" ∧
      ∃ service models,
        (service, models) ∈ discovered Sample.parse (initial Sample.requests) Sample.turns ∧
        service.endpoint.serviceId = "svc-a" ∧
        service.endpoint.endpoint = Sample.row.endpoint.endpoint ∧
        (Sample.catalog.models.Pairwise fun a b => a.modelId < b.modelId) ∧
        ∀ model, model ∈ Sample.catalog.models ↔
          models.find? (fun other => other.modelId = model.modelId) = some model :=
  catalogs_discovered Sample.fresh Sample.parse Sample.turns Sample.row_eq rfl

end Catalogs

end ServiceState

end Quillframe
