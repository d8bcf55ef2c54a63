import Quillframe.Cloud.Sessions

/-!
# Runs of sign-in and session calls

What each call does to the storage, and what holds of the sign-ins and the sessions after every
run. The clock readings of the calls are arbitrary.
-/
namespace Quillframe.Cloud

open Transaction

inductive SessionCall where
  | beginAuth (returnTo : String) (tokens : AuthTokens)
  | consumeAuth (transactionId state : String)
  | createSession (input : SessionInput) (tokens : SessionTokens)
  | validateSession (cookie : String) (csrf : Option String)
  | destroySession (cookie : String)
  deriving DecidableEq, Repr

inductive SessionAnswer where
  | transaction (transaction : AuthTransaction)
  | creation (creation : SessionCreation)
  | projection (projection : SessionProjection)
  | destroyed (sessionId : String)
  deriving DecidableEq, Repr

/-- A call with the clock reading it takes. -/
structure TimedSessionCall where
  call : SessionCall
  now : ℤ
  deriving DecidableEq, Repr

section Calls

variable (sameOrigin : String → Bool) (sha256 sha256Hex : String → String)

def TimedSessionCall.exec (timed : TimedSessionCall) (storage : SessionStorage) :
    Sessions (SessionAnswer × SessionStorage) :=
  match timed.call with
  | .beginAuth returnTo tokens => Prod.map .transaction id <$>
    Cloud.beginAuth sameOrigin sha256 returnTo tokens timed.now storage
  | .consumeAuth transactionId state => Prod.map .transaction id <$>
    Cloud.consumeAuth sameOrigin sha256 transactionId state timed.now storage
  | .createSession input tokens => Prod.map .creation id <$>
    Cloud.createSession sha256 sha256Hex input tokens timed.now storage
  | .validateSession cookie csrf => Prod.map .projection id <$>
    Cloud.validateSession sha256 cookie csrf timed.now storage
  | .destroySession cookie => Prod.map .destroyed id <$>
    Cloud.destroySession sha256 cookie timed.now storage

/-- The answer of a call and the storage after it. -/
def TimedSessionCall.outcome (timed : TimedSessionCall) (storage : SessionStorage) :
    Except WorkspaceCoordinatorError SessionAnswer × SessionStorage :=
  run storage (timed.exec sameOrigin sha256 sha256Hex storage)

def runSessions (calls : List TimedSessionCall) : SessionStorage :=
  calls.foldl (fun storage timed => (timed.outcome sameOrigin sha256 sha256Hex storage).2) .empty

/-- The answer of a call that is made after others. -/
def sessionAnswer (calls : List TimedSessionCall) (timed : TimedSessionCall) :
    Except WorkspaceCoordinatorError SessionAnswer :=
  (timed.outcome sameOrigin sha256 sha256Hex (runSessions sameOrigin sha256 sha256Hex calls)).1

/-- The call is made in the run and answered so. -/
def AnsweredIn (calls : List TimedSessionCall) (timed : TimedSessionCall)
    (answer : Except WorkspaceCoordinatorError SessionAnswer) : Prop :=
  ∃ before after, calls = before ++ timed :: after ∧
    sessionAnswer sameOrigin sha256 sha256Hex before timed = answer

end Calls

/-! ## What a call does -/

section Effects

variable {sameOrigin : String → Bool} {sha256 sha256Hex : String → String}
  {storage : SessionStorage} {now : ℤ}

/-- The storage after a sign-in was attempted. -/
def SessionStorage.useAuth (storage : SessionStorage) (transactionId : String)
    (used : AuthConsumed) : SessionStorage :=
  { storage with
    authConsumed := Function.update storage.authConsumed transactionId (some used)
    auth := Function.update storage.auth transactionId none }

/-- A well-formed attempt uses the transaction up, unless it was used before or its record is
invalid. -/
theorem consumeAuth_run (transactionId state : String) :
    (∃ error, run storage (consumeAuth sameOrigin sha256 transactionId state now storage) =
        (.error error, storage) ∧
      (validAuthTransactionId transactionId → validAuthState state →
        storage.authConsumed transactionId ≠ none ∨ ∃ record,
          storage.auth transactionId = some record ∧
            assertPendingAuth sameOrigin record transactionId ≠ .ok ())) ∨
    (storage.authConsumed transactionId = none ∧ ∃ answer,
      run storage (consumeAuth sameOrigin sha256 transactionId state now storage) =
        (answer, storage.useAuth transactionId ⟨transactionId, sha256 state, now⟩) ∧
      ∀ transaction, answer = .ok transaction → ∃ record,
        storage.auth transactionId = some record ∧
        assertPendingAuth sameOrigin record transactionId = .ok () ∧
        record.accepts sha256 transactionId state now ∧
        transaction = record.toAuthTransaction) := by
  simp only [consumeAuth, run_require]
  split_ifs with hformat
  · cases hconsumed : storage.authConsumed transactionId with
    | some consumed =>
      left
      simp only [assertAuthConsumed, run_require, run_error, failure, Option.getD_none]
      split_ifs
      all_goals exact ⟨_, rfl, fun _ _ => .inl (by simp)⟩
    | none =>
      cases hpending : storage.auth transactionId with
      | none =>
        right
        exact ⟨rfl, _, rfl, fun _ h => nomatch h⟩
      | some record =>
        have hrolls : Rolls (assertPendingAuth sameOrigin record transactionId) := by
          simp [assertPendingAuth, failure]
        cases hassert : assertPendingAuth sameOrigin record transactionId with
        | error failed =>
          rw [run_bind_error hassert hrolls]
          exact .inl ⟨_, rfl, fun _ _ => .inr ⟨record, rfl, by simp [hassert]⟩⟩
        | ok _ =>
          right
          rw [run_bind_ok hassert]
          refine ⟨rfl, ?_⟩
          by_cases haccepts : record.accepts sha256 transactionId state now = true
          · simp only [Option.filter_some, haccepts, if_true]
            refine ⟨_, rfl, fun transaction htransaction => ?_⟩
            exact ⟨record, rfl, hassert, haccepts, (Except.ok.inj htransaction).symm⟩
          · simp only [Option.filter_some, haccepts, if_false, Bool.false_eq_true]
            exact ⟨_, rfl, fun _ h => nomatch h⟩
  · left
    exact ⟨_, rfl, fun hid hstate => absurd ⟨hid, hstate⟩ hformat⟩

/-- A session is opened over the one of its cookie, or nothing changes. -/
theorem createSession_run (input : SessionInput) (tokens : SessionTokens) :
    (∃ error, run storage (createSession sha256 sha256Hex input tokens now storage) =
      (.error error, storage)) ∨
    ∃ creation binding, run storage (createSession sha256 sha256Hex input tokens now storage) =
      (.ok creation, { storage with
        binding := binding
        session := Function.update storage.session (sha256 (cookieToken sha256Hex input tokens))
          (some (sessionRecord sha256 sha256Hex input tokens now)) }) := by
  simp only [createSession, run_require]
  split_ifs
  · cases hbinding : storage.binding with
    | none => exact .inr ⟨_, _, rfl⟩
    | some current =>
      simp only [ensureSessionBinding, bind_assoc, run_require]
      split_ifs
      · exact .inr ⟨_, _, rfl⟩
      · exact .inl ⟨_, rfl⟩
      · exact .inl ⟨_, rfl⟩
  · exact .inl ⟨_, rfl⟩
  · exact .inl ⟨_, rfl⟩

/-- No tombstone closes the session of the record. -/
def SessionStorage.Open (storage : SessionStorage) (cookieHash : String)
    (record : SessionRecord) : Prop :=
  storage.session cookieHash = some record ∧
    ∀ tombstone ∈ storage.tombstone cookieHash, tombstone.epoch < record.epoch

def SessionRecord.InTime (record : SessionRecord) (now : ℤ) : Prop :=
  now - record.lastSeenAt ≤ idleMs ∧ now < record.absoluteExpiresAt

/-- The storage after a session was used. -/
def SessionStorage.touchSession (storage : SessionStorage) (record : SessionRecord)
    (cookieHash : String) (now : ℤ) : SessionStorage :=
  { storage with
    session := Function.update storage.session cookieHash (some { record with lastSeenAt := now }) }

theorem rolls_assertTombstone (tombstone : Option SessionTombstone) (cookieHash : String) :
    Rolls (assertTombstone tombstone cookieHash) := by
  cases tombstone <;> simp [assertTombstone, assertSessionTombstone, failure]

theorem rolls_checkOpen (tombstone : Option SessionTombstone) (record : SessionRecord)
    (cookieHash : String) : Rolls (checkOpen tombstone record cookieHash) := by
  simp [checkOpen, rolls_assertTombstone, failure]

theorem checkOpen_error {tombstone : Option SessionTombstone} {record : SessionRecord}
    {cookieHash : String} {failed : Failure WorkspaceCoordinatorError SessionStorage}
    (h : checkOpen tombstone record cookieHash = .error failed) :
    failed.error ≠ sessionExpired := by
  cases tombstone <;>
    simp only [checkOpen, assertTombstone, assertSessionTombstone, require, bind, Except.bind] at h
  all_goals
    split_ifs at h <;> cases h <;> simp [failure, sessionExpired]

/-- An open session is used in time, or ended; else nothing changes. -/
theorem validateSession_run (cookie : String) (csrf : Option String) :
    (∃ error, error ≠ sessionExpired ∧
      run storage (validateSession sha256 cookie csrf now storage) = (.error error, storage)) ∨
    ∃ record, storage.Open (sha256 cookie) record ∧
      ((¬ record.InTime now ∧ run storage (validateSession sha256 cookie csrf now storage) =
        (.error sessionExpired, storage.endSession record (sha256 cookie) .expired now)) ∨
      (record.InTime now ∧ ∃ projection,
        run storage (validateSession sha256 cookie csrf now storage) =
          (.ok projection, storage.touchSession record (sha256 cookie) now))) := by
  simp only [validateSession, run_fetch]
  cases hfound : (storage.session (sha256 cookie)).filter fun record =>
      record.cookieHash = sha256 cookie with
  | none => exact .inl ⟨_, by decide, rfl⟩
  | some record =>
    have hrecord : storage.session (sha256 cookie) = some record :=
      (Option.filter_eq_some_iff.mp hfound).1
    simp only [assertSessionRecord, run_require]
    split_ifs
    · obtain ⟨_, hcheck⟩ | ⟨failed, hcheck⟩ :=
        ok_or_error (checkOpen (storage.tombstone (sha256 cookie)) record (sha256 cookie))
      · rw [run_bind_ok hcheck]
        simp only [checkOpen, bind_eq_ok, require_eq_ok] at hcheck
        obtain ⟨_, -, hepoch⟩ := hcheck
        simp only [run_require]
        split_ifs with hcsrf hin
        · exact .inr ⟨record, ⟨hrecord, hepoch⟩, .inr ⟨hin, _, rfl⟩⟩
        · exact .inr ⟨record, ⟨hrecord, hepoch⟩, .inl ⟨hin, rfl⟩⟩
        · exact .inl ⟨_, by simp [failure, sessionExpired], rfl⟩
      · rw [run_bind_error hcheck (rolls_checkOpen _ _ _)]
        exact .inl ⟨_, checkOpen_error hcheck, rfl⟩
    · exact .inl ⟨_, by simp [failure, sessionExpired], rfl⟩

/-- An open session without a tombstone is ended, or nothing changes. -/
theorem destroySession_run (cookie : String) :
    (∃ error, run storage (destroySession sha256 cookie now storage) = (.error error, storage)) ∨
    ∃ record, storage.session (sha256 cookie) = some record ∧
      storage.tombstone (sha256 cookie) = none ∧
      run storage (destroySession sha256 cookie now storage) =
        (.ok record.sessionId, storage.endSession record (sha256 cookie) .logout now) := by
  simp only [destroySession]
  obtain ⟨_, hcheck⟩ | ⟨failed, hcheck⟩ :=
    ok_or_error (assertTombstone (storage.tombstone (sha256 cookie)) (sha256 cookie))
  · rw [run_bind_ok hcheck, run_fetch]
    cases hrecord : storage.session (sha256 cookie) with
    | none => exact .inl ⟨_, rfl⟩
    | some record =>
      simp only [run_require, assertSessionRecord]
      split_ifs with htombstone
      · exact .inr ⟨record, rfl, htombstone, rfl⟩
      · exact .inl ⟨_, rfl⟩
      · exact .inl ⟨_, rfl⟩
  · rw [run_bind_error hcheck (rolls_assertTombstone _ _)]
    exact .inl ⟨_, rfl⟩

end Effects

/-! ## What holds after a run -/

section Runs

variable (sameOrigin : String → Bool) (sha256 sha256Hex : String → String)

/-- A call of the run has ended the session of the cookie. -/
def EndedIn (calls : List TimedSessionCall) (cookieHash : String) : Prop :=
  ∃ cookie, sha256 cookie = cookieHash ∧
    ((∃ now answer, AnsweredIn sameOrigin sha256 sha256Hex calls ⟨.destroySession cookie, now⟩
      (.ok answer)) ∨
    ∃ csrf now, AnsweredIn sameOrigin sha256 sha256Hex calls ⟨.validateSession cookie csrf, now⟩
      (.error sessionExpired))

/-- A call of the run has used the session of the cookie at the reading. -/
def UsedIn (calls : List TimedSessionCall) (cookieHash : String) (now : ℤ) : Prop :=
  ∃ cookie csrf answer, sha256 cookie = cookieHash ∧
    AnsweredIn sameOrigin sha256 sha256Hex calls ⟨.validateSession cookie csrf, now⟩ (.ok answer)

/-- The sign-ins after a run. -/
structure SignInsInv (calls : List TimedSessionCall) (storage : SessionStorage) : Prop where
  begun : ∀ transactionId record, storage.auth transactionId = some record →
    ∃ returnTo tokens begun, ⟨.beginAuth returnTo tokens, begun⟩ ∈ calls ∧
      transactionId = tokens.transactionId ∧
      record = tokens.record sameOrigin sha256 returnTo begun
  attempted : ∀ transactionId state now, ⟨.consumeAuth transactionId state, now⟩ ∈ calls →
    validAuthTransactionId transactionId → validAuthState state →
      storage.authConsumed transactionId ≠ none ∨ ∃ record,
        storage.auth transactionId = some record ∧
          assertPendingAuth sameOrigin record transactionId ≠ .ok ()

/-- The sessions after a run. -/
structure SessionsInv (calls : List TimedSessionCall) (storage : SessionStorage) : Prop where
  created : ∀ cookieHash record, storage.session cookieHash = some record →
    record.epoch = 1 ∧ ∃ input tokens created,
      ⟨.createSession input tokens, created⟩ ∈ calls ∧
      sha256 (cookieToken sha256Hex input tokens) = cookieHash ∧
      record.absoluteExpiresAt = created + absoluteMs ∧
      (record.lastSeenAt = created ∨
        UsedIn sameOrigin sha256 sha256Hex calls cookieHash record.lastSeenAt)
  ended : ∀ cookieHash, EndedIn sameOrigin sha256 sha256Hex calls cookieHash →
    ∃ tombstone, storage.tombstone cookieHash = some tombstone ∧ tombstone.epoch = 1

/-- The transaction id that a call makes. -/
def TimedSessionCall.transactionId (timed : TimedSessionCall) : Option String :=
  match timed.call with
  | .beginAuth _ tokens => some tokens.transactionId
  | _ => none

variable {sameOrigin sha256 sha256Hex} {calls : List TimedSessionCall} {timed : TimedSessionCall}
  {storage : SessionStorage}

theorem runSessions_concat (calls : List TimedSessionCall) (timed : TimedSessionCall) :
    runSessions sameOrigin sha256 sha256Hex (calls ++ [timed]) = (timed.outcome sameOrigin sha256
      sha256Hex (runSessions sameOrigin sha256 sha256Hex calls)).2 := by
  simp [runSessions]

/-- An answer in a longer run is one in the run, or that of the last call. -/
theorem AnsweredIn.of_concat {other : TimedSessionCall}
    {answer : Except WorkspaceCoordinatorError SessionAnswer}
    (h : AnsweredIn sameOrigin sha256 sha256Hex (calls ++ [timed]) other answer) :
    AnsweredIn sameOrigin sha256 sha256Hex calls other answer ∨
      (other = timed ∧ sessionAnswer sameOrigin sha256 sha256Hex calls timed = answer) := by
  obtain ⟨before, after, hsplit, hanswer⟩ := h
  rcases List.eq_nil_or_concat after with rfl | ⟨middle, last, rfl⟩
  · obtain ⟨rfl, hlast⟩ := List.append_inj' hsplit rfl
    obtain rfl := List.singleton_injective hlast
    exact .inr ⟨rfl, hanswer⟩
  · rw [List.concat_eq_append, ← List.cons_append, ← List.append_assoc] at hsplit
    obtain ⟨hinit, -⟩ := List.append_inj' hsplit rfl
    exact .inl ⟨before, middle, hinit, hanswer⟩

theorem AnsweredIn.append {other : TimedSessionCall}
    {answer : Except WorkspaceCoordinatorError SessionAnswer}
    (h : AnsweredIn sameOrigin sha256 sha256Hex calls other answer) (more : List TimedSessionCall) :
    AnsweredIn sameOrigin sha256 sha256Hex (calls ++ more) other answer := by
  obtain ⟨before, after, rfl, hanswer⟩ := h
  exact ⟨before, after ++ more, by simp, hanswer⟩

theorem AnsweredIn.last {answer : Except WorkspaceCoordinatorError SessionAnswer}
    (h : sessionAnswer sameOrigin sha256 sha256Hex calls timed = answer) :
    AnsweredIn sameOrigin sha256 sha256Hex (calls ++ [timed]) timed answer :=
  ⟨calls, [], rfl, h⟩

theorem UsedIn.append {cookieHash : String} {now : ℤ}
    (h : UsedIn sameOrigin sha256 sha256Hex calls cookieHash now) (more : List TimedSessionCall) :
    UsedIn sameOrigin sha256 sha256Hex (calls ++ more) cookieHash now := by
  obtain ⟨cookie, csrf, answer, hhash, hanswer⟩ := h
  exact ⟨cookie, csrf, answer, hhash, hanswer.append more⟩

/-- The answer of the operation under a call. -/
theorem run_map {α β : Type} {f : α → β} {body : Sessions (α × SessionStorage)} :
    run storage (Prod.map f id <$> body) = (f <$> (run storage body).1, (run storage body).2) := by
  rcases body with ⟨error, _ | kept⟩ | result <;> rfl

/-! ### Sign-ins -/

theorem SignInsInv.congr {storage' : SessionStorage}
    (h : SignInsInv sameOrigin sha256 calls storage) (hauth : storage'.auth = storage.auth)
    (hconsumed : storage'.authConsumed = storage.authConsumed)
    (hcall : ∀ transactionId state, timed.call ≠ .consumeAuth transactionId state) :
    SignInsInv sameOrigin sha256 (calls ++ [timed]) storage' := by
  refine ⟨fun transactionId record hrecord => ?_, fun transactionId state now hmem => ?_⟩
  · obtain ⟨returnTo, tokens, begun, hmem, hrest⟩ := h.begun transactionId record (hauth ▸ hrecord)
    exact ⟨returnTo, tokens, begun, List.mem_append_left _ hmem, hrest⟩
  · rw [hauth, hconsumed]
    rcases List.mem_append.mp hmem with hold | hnew
    · exact h.attempted transactionId state now hold
    · rw [← List.mem_singleton.mp hnew] at hcall
      exact absurd rfl (hcall transactionId state)

/-- A new sign-in: its transaction is not the one of an invalid record. -/
theorem SignInsInv.beginAuth {returnTo : String} {tokens : AuthTokens} {now : ℤ}
    (h : SignInsInv sameOrigin sha256 calls storage)
    (hfresh : tokens.transactionId ∉ calls.filterMap TimedSessionCall.transactionId) :
    SignInsInv sameOrigin sha256 (calls ++ [⟨.beginAuth returnTo tokens, now⟩])
      { storage with
        auth := Function.update storage.auth tokens.transactionId
          (some (tokens.record sameOrigin sha256 returnTo now)) } := by
  refine ⟨fun transactionId record hrecord => ?_, fun transactionId state at' hmem hid hstate => ?_⟩
  · by_cases hsame : transactionId = tokens.transactionId
    · subst hsame
      simp only [Function.update_self, Option.some.injEq] at hrecord
      exact ⟨returnTo, tokens, now, by simp, rfl, hrecord.symm⟩
    · simp only [Function.update_of_ne hsame] at hrecord
      obtain ⟨returnTo', tokens', begun, hmem, hrest⟩ := h.begun transactionId record hrecord
      exact ⟨returnTo', tokens', begun, List.mem_append_left _ hmem, hrest⟩
  · have hold : ⟨.consumeAuth transactionId state, at'⟩ ∈ calls := by
      rcases List.mem_append.mp hmem with hold | hnew
      · exact hold
      · cases List.mem_singleton.mp hnew
    refine (h.attempted transactionId state at' hold hid hstate).imp_right ?_
    rintro ⟨record, hrecord, hinvalid⟩
    have hsame : transactionId ≠ tokens.transactionId := by
      rintro rfl
      obtain ⟨returnTo', tokens', begun, hmem, hid, -⟩ := h.begun _ record hrecord
      exact hfresh (List.mem_filterMap.mpr ⟨_, hmem, congrArg some hid.symm⟩)
    exact ⟨record, by simpa only [Function.update_of_ne hsame] using hrecord, hinvalid⟩

theorem SignInsInv.consumeAuth {transactionId state : String} {now : ℤ}
    (h : SignInsInv sameOrigin sha256 calls storage) :
    SignInsInv sameOrigin sha256 (calls ++ [⟨.consumeAuth transactionId state, now⟩])
      (run storage (consumeAuth sameOrigin sha256 transactionId state now storage)).2 := by
  rcases @consumeAuth_run sameOrigin sha256 storage now transactionId state with
    ⟨error, hrun, hattempt⟩ | ⟨hconsumed, answer, hrun, -⟩
  · rw [hrun]
    refine ⟨fun other record hrecord => ?_, fun other state' at' hmem hid hstate => ?_⟩
    · obtain ⟨returnTo, tokens, begun, hmem, hrest⟩ := h.begun other record hrecord
      exact ⟨returnTo, tokens, begun, List.mem_append_left _ hmem, hrest⟩
    · rcases List.mem_append.mp hmem with hold | hnew
      · exact h.attempted other state' at' hold hid hstate
      · cases List.mem_singleton.mp hnew
        exact hattempt hid hstate
  · rw [hrun]
    refine ⟨fun other record hrecord => ?_, fun other state' at' hmem hid hstate => ?_⟩
    · have hsame : other ≠ transactionId := by
        rintro rfl
        simp [SessionStorage.useAuth] at hrecord
      simp only [SessionStorage.useAuth, Function.update_of_ne hsame] at hrecord
      obtain ⟨returnTo, tokens, begun, hmem, hrest⟩ := h.begun other record hrecord
      exact ⟨returnTo, tokens, begun, List.mem_append_left _ hmem, hrest⟩
    · by_cases hsame : other = transactionId
      · left
        simp [SessionStorage.useAuth, hsame]
      · simp only [SessionStorage.useAuth, Function.update_of_ne hsame]
        rcases List.mem_append.mp hmem with hold | hnew
        · exact h.attempted other state' at' hold hid hstate
        · cases List.mem_singleton.mp hnew
          exact absurd rfl hsame

/-- The sign-ins after one more call. -/
theorem SignInsInv.step (h : SignInsInv sameOrigin sha256 calls storage)
    (hfresh : ∀ transactionId ∈ timed.transactionId,
      transactionId ∉ calls.filterMap TimedSessionCall.transactionId) :
    SignInsInv sameOrigin sha256 (calls ++ [timed])
      (timed.outcome sameOrigin sha256 sha256Hex storage).2 := by
  obtain ⟨call, now⟩ := timed
  cases call with
  | beginAuth returnTo tokens => exact h.beginAuth (hfresh _ rfl)
  | consumeAuth transactionId state =>
    simp only [TimedSessionCall.outcome, TimedSessionCall.exec, run_map]
    exact h.consumeAuth
  | createSession input tokens =>
    simp only [TimedSessionCall.outcome, TimedSessionCall.exec, run_map]
    rcases @createSession_run sha256 sha256Hex storage now input tokens with
      ⟨error, hrun⟩ | ⟨creation, binding, hrun⟩
    all_goals
      rw [hrun]
      exact h.congr rfl rfl (by simp)
  | validateSession cookie csrf =>
    simp only [TimedSessionCall.outcome, TimedSessionCall.exec, run_map]
    rcases @validateSession_run sha256 storage now cookie csrf with
      ⟨error, -, hrun⟩ | ⟨record, -, ⟨-, hrun⟩ | ⟨-, projection, hrun⟩⟩
    all_goals
      rw [hrun]
      exact h.congr rfl rfl (by simp)
  | destroySession cookie =>
    simp only [TimedSessionCall.outcome, TimedSessionCall.exec, run_map]
    rcases @destroySession_run sha256 storage now cookie with
      ⟨error, hrun⟩ | ⟨record, -, -, hrun⟩
    all_goals
      rw [hrun]
      exact h.congr rfl rfl (by simp)

theorem runSessions_signIns (calls : List TimedSessionCall)
    (hfresh : (calls.filterMap TimedSessionCall.transactionId).Nodup) :
    SignInsInv sameOrigin sha256 calls (runSessions sameOrigin sha256 sha256Hex calls) := by
  induction calls using List.reverseRecOn with
  | nil => exact ⟨fun _ _ h => (nomatch h), fun _ _ _ h => (nomatch h)⟩
  | append_singleton calls timed ih =>
    rw [List.filterMap_append] at hfresh
    obtain ⟨hold, -, hdisjoint⟩ := List.nodup_append.mp hfresh
    rw [runSessions_concat]
    refine (ih hold).step fun transactionId hid hmem => ?_
    exact hdisjoint transactionId hmem transactionId
      (List.mem_filterMap.mpr ⟨timed, List.mem_singleton_self _, hid⟩) rfl

/-! ### Sessions -/

/-- The call ends the session of the cookie when it is made after the others. -/
def EndsNow (sameOrigin : String → Bool) (sha256 sha256Hex : String → String)
    (calls : List TimedSessionCall) (timed : TimedSessionCall) (cookieHash : String) : Prop :=
  ∃ cookie, sha256 cookie = cookieHash ∧
    ((∃ answer, timed.call = .destroySession cookie ∧
      sessionAnswer sameOrigin sha256 sha256Hex calls timed = .ok answer) ∨
    ∃ csrf, timed.call = .validateSession cookie csrf ∧
      sessionAnswer sameOrigin sha256 sha256Hex calls timed = .error sessionExpired)

theorem EndedIn.of_concat {cookieHash : String}
    (h : EndedIn sameOrigin sha256 sha256Hex (calls ++ [timed]) cookieHash) :
    EndedIn sameOrigin sha256 sha256Hex calls cookieHash ∨
      EndsNow sameOrigin sha256 sha256Hex calls timed cookieHash := by
  obtain ⟨cookie, hhash, ⟨now, answer, hanswer⟩ | ⟨csrf, now, hanswer⟩⟩ := h
  · rcases hanswer.of_concat with hold | ⟨rfl, hlast⟩
    · exact .inl ⟨cookie, hhash, .inl ⟨now, answer, hold⟩⟩
    · exact .inr ⟨cookie, hhash, .inl ⟨answer, rfl, hlast⟩⟩
  · rcases hanswer.of_concat with hold | ⟨rfl, hlast⟩
    · exact .inl ⟨cookie, hhash, .inr ⟨csrf, now, hold⟩⟩
    · exact .inr ⟨cookie, hhash, .inr ⟨csrf, rfl, hlast⟩⟩

/-- How a record keeps its session, when the run goes on. -/
theorem SessionsInv.created_append (h : SessionsInv sameOrigin sha256 sha256Hex calls storage)
    {cookieHash : String} {record : SessionRecord}
    (hrecord : storage.session cookieHash = some record) (more : List TimedSessionCall) :
    record.epoch = 1 ∧ ∃ input tokens created,
      ⟨.createSession input tokens, created⟩ ∈ calls ++ more ∧
      sha256 (cookieToken sha256Hex input tokens) = cookieHash ∧
      record.absoluteExpiresAt = created + absoluteMs ∧
      (record.lastSeenAt = created ∨
        UsedIn sameOrigin sha256 sha256Hex (calls ++ more) cookieHash record.lastSeenAt) := by
  obtain ⟨hepoch, input, tokens, created, hmem, hhash, hexpires, hseen⟩ :=
    h.created cookieHash record hrecord
  exact ⟨hepoch, input, tokens, created, List.mem_append_left _ hmem, hhash, hexpires,
    hseen.imp_right fun hused => hused.append more⟩

theorem SessionsInv.congr {storage' : SessionStorage}
    (h : SessionsInv sameOrigin sha256 sha256Hex calls storage)
    (hsession : storage'.session = storage.session)
    (htombstone : storage'.tombstone = storage.tombstone)
    (hends : ∀ cookieHash, ¬ EndsNow sameOrigin sha256 sha256Hex calls timed cookieHash) :
    SessionsInv sameOrigin sha256 sha256Hex (calls ++ [timed]) storage' := by
  refine ⟨fun cookieHash record hrecord => ?_, fun cookieHash hended => ?_⟩
  · exact h.created_append (hsession ▸ hrecord) _
  · rw [htombstone]
    exact h.ended cookieHash (hended.of_concat.resolve_right (hends cookieHash))

/-- A session that is ended leaves a tombstone of its epoch. -/
theorem SessionsInv.endSession (h : SessionsInv sameOrigin sha256 sha256Hex calls storage)
    {cookieHash : String} {record : SessionRecord}
    (hrecord : storage.session cookieHash = some record) (reason : TombstoneReason) (now : ℤ)
    (hends : ∀ other, EndsNow sameOrigin sha256 sha256Hex calls timed other →
      other = cookieHash) :
    SessionsInv sameOrigin sha256 sha256Hex (calls ++ [timed])
      (storage.endSession record cookieHash reason now) := by
  obtain ⟨hepoch, -⟩ := h.created cookieHash record hrecord
  refine ⟨fun other stored hstored => ?_, fun other hended => ?_⟩
  · have hother : other ≠ cookieHash := by
      rintro rfl
      simp [SessionStorage.endSession] at hstored
    simp only [SessionStorage.endSession, Function.update_of_ne hother] at hstored
    exact h.created_append hstored _
  · by_cases hother : other = cookieHash
    · exact ⟨record.tombstone cookieHash reason now, by simp [SessionStorage.endSession, hother],
        hepoch⟩
    · simp only [SessionStorage.endSession, Function.update_of_ne hother]
      exact h.ended other (hended.of_concat.resolve_right fun hnow => hother (hends other hnow))

/-- A new session over the one of its cookie. -/
theorem SessionsInv.createSession (h : SessionsInv sameOrigin sha256 sha256Hex calls storage)
    {input : SessionInput} {tokens : SessionTokens} {now : ℤ} {storage' : SessionStorage}
    (hsession : storage'.session = Function.update storage.session
      (sha256 (cookieToken sha256Hex input tokens))
      (some (sessionRecord sha256 sha256Hex input tokens now)))
    (htombstone : storage'.tombstone = storage.tombstone) :
    SessionsInv sameOrigin sha256 sha256Hex (calls ++ [⟨.createSession input tokens, now⟩])
      storage' := by
  refine ⟨fun cookieHash record hrecord => ?_, fun cookieHash hended => ?_⟩
  · rw [hsession] at hrecord
    by_cases hsame : cookieHash = sha256 (cookieToken sha256Hex input tokens)
    · rw [hsame, Function.update_self, Option.some.injEq] at hrecord
      subst hrecord
      exact ⟨rfl, input, tokens, now, by simp, hsame.symm, rfl, .inl rfl⟩
    · rw [Function.update_of_ne hsame] at hrecord
      exact h.created_append hrecord _
  · rw [htombstone]
    refine h.ended cookieHash (hended.of_concat.resolve_right ?_)
    rintro ⟨cookie, -, ⟨answer, hcall, -⟩ | ⟨csrf, hcall, -⟩⟩ <;> cases hcall

/-- A session that is used is last seen then. -/
theorem SessionsInv.touchSession (h : SessionsInv sameOrigin sha256 sha256Hex calls storage)
    {cookie : String} {csrf : Option String} {now : ℤ} {record : SessionRecord}
    {projection : SessionAnswer} (hrecord : storage.session (sha256 cookie) = some record)
    (hanswer : sessionAnswer sameOrigin sha256 sha256Hex calls ⟨.validateSession cookie csrf, now⟩ =
      .ok projection) :
    SessionsInv sameOrigin sha256 sha256Hex (calls ++ [⟨.validateSession cookie csrf, now⟩])
      (storage.touchSession record (sha256 cookie) now) := by
  refine ⟨fun cookieHash stored hstored => ?_, fun cookieHash hended => ?_⟩
  · by_cases hsame : cookieHash = sha256 cookie
    · simp only [SessionStorage.touchSession, hsame, Function.update_self,
        Option.some.injEq] at hstored
      subst hstored
      obtain ⟨hepoch, input, tokens, created, hmem, hhash, hexpires, -⟩ :=
        h.created_append hrecord [⟨.validateSession cookie csrf, now⟩]
      exact ⟨hepoch, input, tokens, created, hmem, hhash.trans hsame.symm, hexpires,
        .inr ⟨cookie, csrf, projection, hsame.symm, .last hanswer⟩⟩
    · simp only [SessionStorage.touchSession, Function.update_of_ne hsame] at hstored
      exact h.created_append hstored _
  · refine h.ended cookieHash (hended.of_concat.resolve_right ?_)
    rintro ⟨other, -, ⟨answer, hcall, -⟩ | ⟨csrf', -, hexpired⟩⟩
    · cases hcall
    · cases hanswer.symm.trans hexpired

/-- The sessions after one more call. -/
theorem SessionsInv.step (h : SessionsInv sameOrigin sha256 sha256Hex calls
    (runSessions sameOrigin sha256 sha256Hex calls)) :
    SessionsInv sameOrigin sha256 sha256Hex (calls ++ [timed])
      (runSessions sameOrigin sha256 sha256Hex (calls ++ [timed])) := by
  rw [runSessions_concat]
  have hanswer : sessionAnswer sameOrigin sha256 sha256Hex calls timed =
    (timed.outcome sameOrigin sha256 sha256Hex
      (runSessions sameOrigin sha256 sha256Hex calls)).1 := rfl
  generalize runSessions sameOrigin sha256 sha256Hex calls = storage at h hanswer ⊢
  obtain ⟨call, now⟩ := timed
  cases call with
  | beginAuth returnTo tokens =>
    refine h.congr rfl rfl ?_
    rintro cookieHash ⟨cookie, -, ⟨answer, hcall, -⟩ | ⟨csrf, hcall, -⟩⟩ <;> cases hcall
  | consumeAuth transactionId state =>
    have hends : ∀ cookieHash, ¬ EndsNow sameOrigin sha256 sha256Hex calls
        ⟨.consumeAuth transactionId state, now⟩ cookieHash := by
      rintro cookieHash ⟨cookie, -, ⟨answer, hcall, -⟩ | ⟨csrf, hcall, -⟩⟩ <;> cases hcall
    simp only [TimedSessionCall.outcome, TimedSessionCall.exec, run_map]
    rcases @consumeAuth_run sameOrigin sha256 storage now transactionId state with
      ⟨error, hrun, -⟩ | ⟨-, answer, hrun, -⟩
    all_goals
      rw [hrun]
      exact h.congr rfl rfl hends
  | createSession input tokens =>
    simp only [TimedSessionCall.outcome, TimedSessionCall.exec, run_map]
    rcases @createSession_run sha256 sha256Hex storage now input tokens with
      ⟨error, hrun⟩ | ⟨creation, binding, hrun⟩
    · rw [hrun]
      refine h.congr rfl rfl ?_
      rintro cookieHash ⟨cookie, -, ⟨answer, hcall, -⟩ | ⟨csrf, hcall, -⟩⟩ <;> cases hcall
    · rw [hrun]
      exact h.createSession rfl rfl
  | validateSession cookie csrf =>
    simp only [TimedSessionCall.outcome, TimedSessionCall.exec, run_map] at hanswer ⊢
    rcases @validateSession_run sha256 storage now cookie csrf with
      ⟨error, herror, hrun⟩ | ⟨record, ⟨hrecord, -⟩, ⟨-, hrun⟩ | ⟨-, projection, hrun⟩⟩
    · rw [hrun] at hanswer ⊢
      refine h.congr rfl rfl ?_
      rintro cookieHash ⟨other, -, ⟨answer, hcall, -⟩ | ⟨csrf', -, hexpired⟩⟩
      · cases hcall
      · exact herror (Except.error.inj (hanswer.symm.trans hexpired))
    · rw [hrun]
      refine h.endSession hrecord _ _ ?_
      rintro other ⟨cookie', rfl, ⟨answer, hcall, -⟩ | ⟨csrf', hcall, -⟩⟩ <;> cases hcall
      rfl
    · rw [hrun] at hanswer ⊢
      exact h.touchSession hrecord hanswer
  | destroySession cookie =>
    simp only [TimedSessionCall.outcome, TimedSessionCall.exec, run_map] at hanswer ⊢
    rcases @destroySession_run sha256 storage now cookie with
      ⟨error, hrun⟩ | ⟨record, hrecord, -, hrun⟩
    · rw [hrun] at hanswer ⊢
      refine h.congr rfl rfl ?_
      rintro cookieHash ⟨other, -, ⟨answer, -, hok⟩ | ⟨csrf', hcall, -⟩⟩
      · cases hanswer.symm.trans hok
      · cases hcall
    · rw [hrun]
      refine h.endSession hrecord _ _ ?_
      rintro other ⟨cookie', rfl, ⟨answer, hcall, -⟩ | ⟨csrf', hcall, -⟩⟩ <;> cases hcall
      rfl

theorem runSessions_inv (calls : List TimedSessionCall) :
    SessionsInv sameOrigin sha256 sha256Hex calls
      (runSessions sameOrigin sha256 sha256Hex calls) := by
  induction calls using List.reverseRecOn with
  | nil =>
    refine ⟨fun _ _ h => (nomatch h), ?_⟩
    rintro cookieHash ⟨cookie, -, ⟨now, answer, before, after, h, -⟩ | ⟨csrf, now, before, after, h,
      -⟩⟩ <;> simp at h
  | append_singleton calls timed ih => exact ih.step

/-- The sign-ins and sessions of every run of calls with any clock readings, when the ids of the
sign-ins never repeat. A sign-in succeeds with its own state, in time, and only as the first
well-formed attempt. A session that was ended by a call, or found expired by one, is not used
again. One that is used was opened less than the absolute lifetime before, and at most the idle
time after it was opened or used. -/
theorem sessions_end (calls : List TimedSessionCall)
    (hfresh : (calls.filterMap TimedSessionCall.transactionId).Nodup) :
    (∀ transactionId state now answer, sessionAnswer sameOrigin sha256 sha256Hex calls
        ⟨.consumeAuth transactionId state, now⟩ = .ok answer →
      (∃ returnTo tokens begun, ⟨.beginAuth returnTo tokens, begun⟩ ∈ calls ∧
        transactionId = tokens.transactionId ∧ state = tokens.state ∧ now < begun + authMs) ∧
      ∀ other earlier, ⟨.consumeAuth transactionId other, earlier⟩ ∈ calls →
        ¬ validAuthState other) ∧
    (∀ cookie, EndedIn sameOrigin sha256 sha256Hex calls (sha256 cookie) → ∀ now answer,
      (∀ csrf, sessionAnswer sameOrigin sha256 sha256Hex calls
        ⟨.validateSession cookie csrf, now⟩ ≠ .ok answer) ∧
      sessionAnswer sameOrigin sha256 sha256Hex calls ⟨.destroySession cookie, now⟩ ≠
        .ok answer) ∧
    (∀ cookie csrf now answer, sessionAnswer sameOrigin sha256 sha256Hex calls
        ⟨.validateSession cookie csrf, now⟩ = .ok answer →
      ∃ input tokens created, ⟨.createSession input tokens, created⟩ ∈ calls ∧
        sha256 (cookieToken sha256Hex input tokens) = sha256 cookie ∧
        now < created + absoluteMs ∧ (now - created ≤ idleMs ∨ ∃ seen,
          UsedIn sameOrigin sha256 sha256Hex calls (sha256 cookie) seen ∧
            now - seen ≤ idleMs)) := by
  have hsignIns : SignInsInv sameOrigin sha256 calls
    (runSessions sameOrigin sha256 sha256Hex calls) := runSessions_signIns calls hfresh
  have hsessions : SessionsInv sameOrigin sha256 sha256Hex calls
    (runSessions sameOrigin sha256 sha256Hex calls) := runSessions_inv calls
  simp only [sessionAnswer]
  generalize runSessions sameOrigin sha256 sha256Hex calls = storage at hsignIns hsessions ⊢
  refine ⟨?_, ?_, ?_⟩
  · intro transactionId state now answer hanswer
    simp only [TimedSessionCall.outcome, TimedSessionCall.exec, run_map] at hanswer
    rcases @consumeAuth_run sameOrigin sha256 storage now transactionId state with
      ⟨error, hrun, -⟩ | ⟨hunused, answer', hrun, hok⟩
    · rw [hrun] at hanswer
      cases hanswer
    · rw [hrun] at hanswer
      obtain ⟨transaction, rfl, -⟩ := map_eq_ok.mp hanswer
      obtain ⟨record, hrecord, hvalid, haccepts, -⟩ := hok transaction rfl
      simp only [AuthRecord.accepts, Bool.and_eq_true, decide_eq_true_eq] at haccepts
      refine ⟨?_, fun other earlier hmem hother => ?_⟩
      · obtain ⟨returnTo, tokens, begun, hmem, hid, rfl⟩ := hsignIns.begun _ record hrecord
        exact ⟨returnTo, tokens, begun, hmem, hid, haccepts.1.2.symm, haccepts.2⟩
      · -- an earlier attempt used the transaction up, or its record is invalid
        have hid : validAuthTransactionId transactionId := by
          simp only [assertPendingAuth, require_eq_ok] at hvalid
          exact hvalid.2.1 ▸ hvalid.1
        rcases hsignIns.attempted _ _ _ hmem hid hother with hused | ⟨record', hrecord', hinvalid⟩
        · exact hused hunused
        · obtain rfl := Option.some.inj (hrecord.symm.trans hrecord')
          exact hinvalid hvalid
  · intro cookie hended now answer
    obtain ⟨tombstone, htombstone, hclosed⟩ := hsessions.ended _ hended
    simp only [TimedSessionCall.outcome, TimedSessionCall.exec, run_map]
    constructor
    · intro csrf hanswer
      rcases @validateSession_run sha256 storage now cookie csrf with
        ⟨error, -, hrun⟩ | ⟨record, ⟨hrecord, hopen⟩, -⟩
      · rw [hrun] at hanswer
        cases hanswer
      · have hepoch := hopen tombstone htombstone
        rw [hclosed, (hsessions.created _ record hrecord).1] at hepoch
        exact lt_irrefl _ hepoch
    · intro hanswer
      rcases @destroySession_run sha256 storage now cookie with
        ⟨error, hrun⟩ | ⟨record, -, hnone, -⟩
      · rw [hrun] at hanswer
        cases hanswer
      · cases hnone.symm.trans htombstone
  · intro cookie csrf now answer hanswer
    simp only [TimedSessionCall.outcome, TimedSessionCall.exec, run_map] at hanswer
    rcases @validateSession_run sha256 storage now cookie csrf with
      ⟨error, -, hrun⟩ | ⟨record, ⟨hrecord, -⟩, ⟨-, hrun⟩ | ⟨⟨hidle, habsolute⟩, projection, -⟩⟩
    · rw [hrun] at hanswer
      cases hanswer
    · rw [hrun] at hanswer
      cases hanswer
    · obtain ⟨-, input, tokens, created, hmem, hhash, hexpires, hseen⟩ :=
        hsessions.created _ record hrecord
      refine ⟨input, tokens, created, hmem, hhash, hexpires ▸ habsolute, ?_⟩
      refine hseen.imp (fun hcreated => ?_) fun hused => ⟨_, hused, hidle⟩
      rw [← hcreated]
      exact hidle

end Runs

/-! ### A sign-in and a session -/

namespace Sample

def authTokens : AuthTokens where
  transaction := "Zm9ybWFsLXRyYW5zYWN0aW9u"
  state := "c3RhdGUtb2YtdGhlLXNpZ24taW4tMDEy"
  codeVerifier := "dmVyaWZpZXItb2YtdGhlLXNpZ24taW4tMDEyMzQ1Njc"

def sessionTokens : SessionTokens where
  session := "c2Vzc2lvbi10b2tlbi0wMDE2"
  cookie := "Y29va2llLW9mLXRoZS1zZXNzaW9uLTAxMjM0NTY3ODk"
  csrf := "Y3NyZi1vZi10aGUtc2Vzc2lvbi0wMTIz"

def sessionCookie : String :=
  "fff863bed649d71ba875d3e9.Y29va2llLW9mLXRoZS1zZXNzaW9uLTAxMjM0NTY3ODk"

/-- The digests of the texts of the sample. -/
def sessionSha256 (value : String) : String :=
  if value = authTokens.state then "vQEi1i3Ol6G9i2UZMmbWXSzxRBn1kNLu0doQxMI4rkk"
  else if value = authTokens.codeVerifier then "S85Z6uxTZOFN4CPKBMHADdu3GQfLpfm8l9K9baWFqX0"
  else if value = sessionCookie then "rtzYc0a4tVIYQqzuHQvRV8l4ahzIM0NU7OaFzwMRWxo"
  else "pGDQu9Dja0WDSXqKVtlU6Re6xFlPyenE1hmIyZ3zeto"

/-- The digest of the identity. -/
def sessionSha256Hex (_ : String) : String :=
  "fff863bed649d71ba875d3e979b1335b03d507791836cbdaa3f51d4c222ca7ae"

/-- A sign-in is begun, and a session is opened. -/
def sessionCalls : List TimedSessionCall :=
  [⟨.beginAuth "/studio" authTokens, 1000⟩,
    ⟨.createSession ⟨"identity-1", none⟩ sessionTokens, 2000⟩]

theorem session_answers :
    (sessionAnswer (fun _ => true) sessionSha256 sessionSha256Hex sessionCalls
      ⟨.consumeAuth "auth_Zm9ybWFsLXRyYW5zYWN0aW9u" authTokens.state, 3000⟩).isOk = true ∧
    (sessionAnswer (fun _ => true) sessionSha256 sessionSha256Hex sessionCalls
      ⟨.validateSession sessionCookie (some sessionTokens.csrf), 4000⟩).isOk = true := by
  constructor <;> decide +kernel

end Sample

theorem sessions_end_sample :
    (∃ answer, sessionAnswer (fun _ => true) Sample.sessionSha256 Sample.sessionSha256Hex
        Sample.sessionCalls
        ⟨.consumeAuth "auth_Zm9ybWFsLXRyYW5zYWN0aW9u" Sample.authTokens.state, 3000⟩ =
      .ok answer) ∧
    (∃ returnTo tokens begun, ⟨.beginAuth returnTo tokens, begun⟩ ∈ Sample.sessionCalls ∧
      "auth_Zm9ybWFsLXRyYW5zYWN0aW9u" = tokens.transactionId ∧
      Sample.authTokens.state = tokens.state ∧ 3000 < begun + authMs) ∧
    ∃ input tokens created, ⟨.createSession input tokens, created⟩ ∈ Sample.sessionCalls ∧
      Sample.sessionSha256 (cookieToken Sample.sessionSha256Hex input tokens) =
        Sample.sessionSha256 Sample.sessionCookie ∧ 4000 < created + absoluteMs := by
  obtain ⟨hconsume, hvalidate⟩ := Sample.session_answers
  obtain ⟨answer, hanswer⟩ := exists_of_isOk hconsume
  obtain ⟨projection, hprojection⟩ := exists_of_isOk hvalidate
  obtain ⟨hsignIn, -, hsession⟩ := sessions_end Sample.sessionCalls (by decide)
  obtain ⟨input, tokens, created, hmem, hhash, habsolute, -⟩ := hsession _ _ _ _ hprojection
  exact ⟨⟨answer, hanswer⟩, (hsignIn _ _ _ _ hanswer).1, input, tokens, created, hmem, hhash,
    habsolute⟩

end Quillframe.Cloud
