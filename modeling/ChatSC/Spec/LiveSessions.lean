import ChatSC.Spec.Accounts

/-!
# Tokens and the sessions behind them

Every pair of tokens that a registration or a login returns is signed for an account that is stored
and for a session of that account that is stored with the hash of the refresh token
(`issuedTokens_of_run`).  As long as the session is live, its tokens let in: only a logout with a
token of the session, or the end of its time, makes a refresh or a request fail
(`liveSession_letsIn`), whatever other calls load and save the session meanwhile.
-/

namespace ChatSC.Spec

open Backend Collection JsString Records Transition

/-! ## What a step does to the sessions -/

/-- The part of a session that no call changes. -/
def issuedPart (session : RefreshSession) : RefreshSession :=
  { session with lastUsedAt := none, revokedAt := none, status := .active }

/-- What one step does to the sessions, for the copy that its call holds. -/
inductive SessionsChange (copy : Option LoadedSession) (sessions sessions' : List RefreshSession) :
    Prop where
  | same (h : sessions' = sessions)
  | created (session : RefreshSession) (hid : session.id ∉ sessions.map RefreshSession.id)
      (h : sessions' = sessions ++ [session])
  | saved (document : LoadedSession) (hcopy : copy = some document)
      (h : sessions' = updateOne (·.id = document.loaded.id) document.writeModified sessions)

/-- The copy of a session that a call holds. -/
def copyOf : AccountCall → Option LoadedSession
  | .signIn (.refreshAccessToken refreshToken pc) =>
    documentOf (.refreshAccessToken refreshToken pc)
  | .revokeRefreshToken refreshToken pc => documentOf (.revokeRefreshToken refreshToken pc)
  | _ => none

section Changes

variable {copy : Option LoadedSession} {sessions sessions' : List RefreshSession}

/-- Sessions are only added, and what was issued stays. -/
theorem SessionsChange.issued (h : SessionsChange copy sessions sessions') :
    sessions.map issuedPart <+: sessions'.map issuedPart := by
  cases h with
  | same h => exact h ▸ List.prefix_refl _
  | created session hid h =>
    rw [h, List.map_append]
    exact List.prefix_append _ _
  | saved document hcopy h =>
    have hkeep : ∀ stored, issuedPart (document.writeModified stored) = issuedPart stored :=
      fun _ => rfl
    rw [h, map_updateOne hkeep]

variable {tokens : Tokens} {ttl : TokenEnv} {auth auth' : AuthDb} {time : AuthInput}

/-- `issueTokenPair` adds a session. -/
theorem sessions_issueStep {user : SessionUser} {createdBy : String} {pc pc' : IssuePc}
    (h : issueStep tokens ttl user createdBy auth time pc = some (auth', pc')) :
    SessionsChange copy auth.refreshSessions auth'.refreshSessions := by
  cases pc with
  | start =>
    -- the session is made, but not yet stored
    simp only [issueStep] at h
    split at h <;> (cases h; exact .same rfl)
  | saving session refreshToken =>
    simp only [issueStep] at h
    split at h
    · cases h
    · -- the unique index on the ids
      rename_i hnew
      cases h
      exact .created session (fun hid => hnew (.inl hid)) rfl
  | recording session refreshToken =>
    cases h
    exact .same rfl
  | returned refreshToken response => cases h
  | threw error => cases h

/-- `refreshAccessToken` saves its copy. -/
theorem sessions_refreshStep {refreshToken : JsString} {pc pc' : RefreshPc}
    (h : refreshStep tokens ttl refreshToken auth time pc = some (auth', pc')) :
    SessionsChange (documentOf (.refreshAccessToken refreshToken pc)) auth.refreshSessions
      auth'.refreshSessions := by
  cases pc with
  | start =>
    simp only [refreshStep] at h
    split at h <;> (cases h; exact .same rfl)
  | loading payload =>
    simp only [refreshStep] at h
    split at h
    · cases h
      exact .same rfl
    · split at h <;> (cases h; exact .same rfl)
  -- the document that was loaded is checked
  | findingUser payload document now =>
    simp only [refreshStep] at h
    split at h
    · cases h
      exact .same rfl
    · split at h <;> (cases h; exact .same rfl)
  -- both saves are of the copy that was loaded
  | savingExpired payload document =>
    cases h
    exact .saved document rfl rfl
  | savingUsed document user =>
    cases h
    exact .saved document rfl rfl
  | recording session user =>
    cases h
    exact .same rfl
  | rejecting attempt error =>
    cases h
    exact .same rfl
  | returned response => cases h
  | threw error => cases h

/-- `revokeRefreshToken` saves its copy. -/
theorem sessions_revokeStep {refreshToken : JsString} {pc pc' : RevokePc}
    (h : revokeStep tokens refreshToken auth time pc = some (auth', pc')) :
    SessionsChange (documentOf (.revokeRefreshToken refreshToken pc)) auth.refreshSessions
      auth'.refreshSessions := by
  cases pc with
  | start =>
    simp only [revokeStep] at h
    split at h <;> (cases h; exact .same rfl)
  | loading payload =>
    simp only [revokeStep] at h
    split at h
    · cases h
      exact .same rfl
    · split at h <;> (cases h; exact .same rfl)
  -- the copy with its `revokedAt`
  | saving payload document =>
    cases h
    exact .saved document rfl rfl
  | recording payload =>
    cases h
    exact .same rfl
  | returned => cases h
  | threw error => cases h

variable {env : SignInEnv} {db db' : SignInDb} {input : SignInInput}

/-- A login only adds a session. -/
theorem sessions_loginStep {payload : LoginLocalAuthDto} {pc pc' : LoginPc}
    (h : loginStep env payload db input pc = some (db', pc')) :
    SessionsChange copy db.auth.refreshSessions db'.auth.refreshSessions := by
  cases pc with
  | start =>
    simp only [loginStep] at h
    split at h <;> (cases h; exact .same rfl)
  | recordingStarted email =>
    cases h
    exact .same rfl
  | findingUser email =>
    cases h
    exact .same rfl
  | hashing email user expected =>
    simp only [loginStep] at h
    split at h
    · cases h
    · cases h
      exact .same rfl
    · split at h <;> (cases h; exact .same rfl)
  -- the session comes from `issueTokenPair`
  | issuing email user pc =>
    obtain ⟨⟨auth, pc'⟩, hissue, heq⟩ := Option.map_eq_some_iff.mp h
    cases heq
    exact sessions_issueStep hissue
  | recordingSucceeded email user session refreshToken response =>
    cases h
    exact .same rfl
  | rejecting attempt error =>
    cases h
    exact .same rfl
  | returned refreshToken response => cases h
  | threw error => cases h

/-- A Google login only adds a session. -/
theorem sessions_googleStep {payload : GoogleAuthUser} {pc pc' : GooglePc}
    (h : googleStep env payload db input pc = some (db', pc')) :
    SessionsChange copy db.auth.refreshSessions db'.auth.refreshSessions := by
  cases pc with
  | start =>
    simp only [googleStep] at h
    split at h <;> (cases h; exact .same rfl)
  | savingUser document =>
    simp only [googleStep] at h
    split at h
    · cases h
      exact .same rfl
    · -- a user that is saved leaves the sessions as they are
      rename_i saved hsaved
      cases h
      obtain ⟨hname, hfree⟩ := canSave_of_ok hsaved
      rw [LoadedUser.save, if_neg hname, if_neg hfree] at hsaved
      exact .same (congrArg (·.auth.refreshSessions) (Except.ok.inj hsaved).symm)
  | resolvingUsername email suffix =>
    simp only [googleStep] at h
    split at h <;> (cases h; exact .same rfl)
  | creatingUser email username =>
    simp only [googleStep] at h
    split at h
    · cases h
    · rename_i hid
      split at h
      · cases h
        exact .same rfl
      · rename_i created hcreated
        cases h
        obtain ⟨-, rfl⟩ := createUser_ok hid hcreated
        exact .same rfl
  -- the only step of it that issues
  | issuing user pc =>
    obtain ⟨⟨auth, pc'⟩, hissue, heq⟩ := Option.map_eq_some_iff.mp h
    cases heq
    exact sessions_issueStep hissue
  | returned refreshToken response => cases h
  | threw error => cases h

/-- A registration only adds a session. -/
theorem sessions_registerStep {payload : RegisterLocalAuthDto} {pc pc' : RegisterPc}
    (h : registerStep env payload db input pc = some (db', pc')) :
    SessionsChange copy db.auth.refreshSessions db'.auth.refreshSessions := by
  cases pc with
  | start =>
    simp only [registerStep] at h
    split at h <;> (cases h; exact .same rfl)
  | recordingStarted =>
    cases h
    exact .same rfl
  | findingEmail =>
    simp only [registerStep] at h
    split at h <;> (cases h; exact .same rfl)
  | findingUsername =>
    simp only [registerStep] at h
    split at h <;> (cases h; exact .same rfl)
  | hashing =>
    simp only [registerStep] at h
    split at h
    · cases h
    · cases h
      exact .same rfl
    · cases h
      exact .same rfl
  -- the account is created before any session
  | creatingUser digest =>
    rcases registerStep_creating h with ⟨rfl, -⟩ | ⟨user, -, -, rfl, -⟩
    · exact .same rfl
    · exact .same rfl
  | issuing user pc =>
    obtain ⟨⟨auth, pc'⟩, hissue, heq⟩ := Option.map_eq_some_iff.mp h
    cases heq
    exact sessions_issueStep hissue
  | recordingSucceeded user session refreshToken response =>
    cases h
    exact .same rfl
  | rejecting attempt error =>
    cases h
    exact .same rfl
  | returned refreshToken response => cases h
  | threw error => cases h

/-- What a step of any call does to the sessions. -/
theorem sessions_accountCallStep {call call' : AccountCall}
    (h : accountCallStep env db input call = some (db', call')) :
    SessionsChange (copyOf call) db.auth.refreshSessions db'.auth.refreshSessions := by
  cases accountCallStep_cases h with
  | registerLocalAccount _ _ _ _ hregister => exact sessions_registerStep hregister
  | revokeRefreshToken _ _ _ _ hrevoke => exact sessions_revokeStep hrevoke
  | loginLocalAccount _ _ _ _ hlogin => exact sessions_loginStep hlogin
  | googleLogin _ _ _ _ hgoogle => exact sessions_googleStep hgoogle
  | refreshAccessToken _ _ _ _ hrefresh => exact sessions_refreshStep hrefresh
  | authenticateAccessToken _ _ _ _ haccess =>
    exact .same (congrArg AuthDb.refreshSessions (authenticateStep_spec haccess))

/-- What a step of the system does to the sessions. -/
theorem issued_accountStep {system system' : AccountSystem} {event : AccountEvent}
    (h : accountStep env system event = some system') :
    system.db.auth.refreshSessions.map issuedPart <+:
      system'.db.auth.refreshSessions.map issuedPart := by
  rcases accountStep_cases h with ⟨call, -, -, rfl⟩ |
    ⟨index, input, call, db', call', -, -, hstep, rfl⟩
  · exact List.prefix_refl _
  · exact (sessions_accountCallStep hstep).issued

end Changes

/-! ## Tokens that are issued -/

/-- A session is that of a user and a refresh token. -/
structure TokensFor (env : SignInEnv) (user : SessionUser) (session : RefreshSession)
    (refreshToken : JsString) : Prop where
  userId : user.id = session.userId.toString
  signed : ∃ jti, refreshToken =
    env.tokens.signRefreshToken ⟨user.id, session.id.toString, jti⟩ session.issuedAt
  hash : session.tokenHash = env.tokens.hashToken refreshToken
  expiresAt : session.expiresAt = session.issuedAt + env.token.refreshTokenTtlSeconds * 1000

/-- The session is stored; it may have been used or ended since. -/
def StoredSession (sessions : List RefreshSession) (session : RefreshSession) : Prop :=
  ∃ stored ∈ sessions, issuedPart stored = issuedPart session

/-- The user of a response is stored, and so is a session of theirs for which both tokens are
    signed. -/
structure IssuedTokens (env : SignInEnv) (auth : AuthDb) (refreshToken : JsString)
    (response : RefreshSessionResponse) : Prop where
  user : ∃ user ∈ auth.users, response.user.id = user.id.toString
  session : ∃ session, TokensFor env response.user session refreshToken ∧
    StoredSession auth.refreshSessions session ∧ ∃ signedAt, response.accessToken =
      env.tokens.signAccessToken ⟨response.user.id, session.id.toString⟩ signedAt

/-- What a call that issues tokens has made so far. -/
def IssueOk (env : SignInEnv) (auth : AuthDb) (user : SessionUser) : IssuePc → Prop
  | .start => ∃ stored ∈ auth.users, user.id = stored.id.toString
  | .saving session refreshToken => (∃ stored ∈ auth.users, user.id = stored.id.toString) ∧
    TokensFor env user session refreshToken
  | .recording session refreshToken => (∃ stored ∈ auth.users, user.id = stored.id.toString) ∧
    TokensFor env user session refreshToken ∧ StoredSession auth.refreshSessions session
  | .returned _ _ | .threw _ => False

section Issues

variable {env : SignInEnv} {auth auth' : AuthDb} {user : SessionUser}

/-- The users and the sessions are still there. -/
structure AuthKept (auth auth' : AuthDb) : Prop where
  users : auth.users.map lastingPart <+: auth'.users.map lastingPart
  sessions : auth.refreshSessions.map issuedPart <+: auth'.refreshSessions.map issuedPart

theorem AuthKept.storedUser (h : AuthKept auth auth') {id : JsString}
    (hid : ∃ stored ∈ auth.users, id = stored.id.toString) :
    ∃ stored ∈ auth'.users, id = stored.id.toString := by
  obtain ⟨stored, hmem, rfl⟩ := hid
  obtain ⟨kept, hmem', hsame⟩ := exists_lastingPart hmem h.users
  exact ⟨kept, hmem', congrArg ObjectId.toString (id_eq_of_lastingPart hsame).symm⟩

theorem AuthKept.storedSession (h : AuthKept auth auth') {session : RefreshSession}
    (hstored : StoredSession auth.refreshSessions session) :
    StoredSession auth'.refreshSessions session := by
  obtain ⟨stored, hmem, hsame⟩ := hstored
  obtain ⟨kept, hmem', hsame'⟩ :=
    List.mem_map.mp (h.sessions.subset (List.mem_map_of_mem (f := issuedPart) hmem))
  exact ⟨kept, hmem', hsame'.trans hsame⟩

theorem IssuedTokens.mono (h : AuthKept auth auth') {refreshToken : JsString}
    {response : RefreshSessionResponse} (hissued : IssuedTokens env auth refreshToken response) :
    IssuedTokens env auth' refreshToken response := by
  obtain ⟨session, hfor, hstored, hsigned⟩ := hissued.session
  exact ⟨h.storedUser hissued.user, session, hfor, h.storedSession hstored, hsigned⟩

theorem IssueOk.mono (h : AuthKept auth auth') {issue : IssuePc}
    (hissue : IssueOk env auth user issue) :
    IssueOk env auth' user issue := by
  cases issue with
  | start => exact h.storedUser hissue
  | saving session refreshToken => exact ⟨h.storedUser hissue.1, hissue.2⟩
  | recording session refreshToken =>
    exact ⟨h.storedUser hissue.1, hissue.2.1, h.storedSession hissue.2.2⟩
  | returned refreshToken response => exact hissue.elim
  | threw error => exact hissue.elim

/-- A step of `issueTokenPair` goes on, or returns tokens of a session that is stored. -/
theorem IssueOk.step {createdBy : String} {time : AuthInput} {issue issue' : IssuePc}
    (hissue : IssueOk env auth user issue)
    (h : issueStep env.tokens env.token user createdBy auth time issue = some (auth', issue')) :
    IssueOk env auth' user issue' ∨ ∃ refreshToken response,
      issue' = .returned refreshToken response ∧ response.user = user ∧
        IssuedTokens env auth' refreshToken response := by
  cases issue with
  | start =>
    obtain ⟨stored, hmem, hid⟩ := hissue
    -- the id of the user is read back from its string
    simp only [issueStep, hid, ObjectId.ofString?_toString] at h
    cases h
    exact .inl ⟨⟨stored, hmem, hid⟩, hid, ⟨_, by rw [hid]⟩, rfl, rfl⟩
  -- the new session is stored from here on
  | saving session refreshToken =>
    simp only [issueStep] at h
    split at h
    · cases h
    · cases h
      exact .inl ⟨hissue.1, hissue.2, session,
        List.mem_append_right _ (List.mem_singleton_self session), rfl⟩
  -- the pair is returned, with the session behind it
  | recording session refreshToken =>
    obtain ⟨huser, hfor, hstored⟩ := hissue
    cases h
    exact .inr ⟨_, _, rfl, rfl, huser, session, hfor, hstored, time.now, rfl⟩
  | returned refreshToken response => exact hissue.elim
  | threw error => exact hissue.elim

end Issues

/-- The user that a call has found and goes on with. -/
def foundUser : AccountCall → Option ObjectId
  | .signIn (.loginLocalAccount _ (.hashing _ user _)) => some user.id
  | .signIn (.googleLogin _ (.savingUser document)) => some document.current.id
  | _ => none

/-- The `issueTokenPair` that a call is in. -/
def issueOf : AccountCall → Option (SessionUser × IssuePc)
  | .registerLocalAccount _ (.issuing user issue) => some (user, issue)
  | .signIn (.loginLocalAccount _ (.issuing _ user issue)) => some (user, issue)
  | .signIn (.googleLogin _ (.issuing user issue)) => some (user, issue)
  | _ => none

/-- The tokens that a call has been given, and returns. -/
def tokensOf : AccountCall → Option (JsString × RefreshSessionResponse)
  | .registerLocalAccount _ (.recordingSucceeded _ _ refreshToken response)
  | .registerLocalAccount _ (.returned refreshToken response)
  | .signIn (.loginLocalAccount _ (.recordingSucceeded _ _ _ refreshToken response))
  | .signIn (.loginLocalAccount _ (.returned refreshToken response))
  | .signIn (.googleLogin _ (.returned refreshToken response)) => some (refreshToken, response)
  | _ => none

/-- What is known of a call that issues tokens. -/
structure Issues (env : SignInEnv) (auth : AuthDb) (call : AccountCall) : Prop where
  found : ∀ id, foundUser call = some id → ∃ stored ∈ auth.users, id = stored.id
  issue : ∀ user issue, issueOf call = some (user, issue) → IssueOk env auth user issue
  tokens : ∀ refreshToken response, tokensOf call = some (refreshToken, response) →
    IssuedTokens env auth refreshToken response

section Runs

variable {env : SignInEnv} {auth auth' : AuthDb} {db db' : SignInDb} {input : SignInInput}

theorem Issues.mono {call : AccountCall} (hkeeps : AuthKept auth auth') (h : Issues env auth call) :
    Issues env auth' call where
  found := fun id hid => by
    obtain ⟨stored, hmem, rfl⟩ := h.found id hid
    obtain ⟨kept, hmem', hsame⟩ := exists_lastingPart hmem hkeeps.users
    exact ⟨kept, hmem', (id_eq_of_lastingPart hsame).symm⟩
  issue := fun user issue hissue => (h.issue user issue hissue).mono hkeeps
  tokens := fun refreshToken response htokens =>
    (h.tokens refreshToken response htokens).mono hkeeps

/-- A call that issues nothing yet, and has found nobody. -/
theorem Issues.of_none {call : AccountCall} (hfound : foundUser call = none)
    (hissue : issueOf call = none) (htokens : tokensOf call = none) : Issues env auth call where
  found := fun _ h => nomatch hfound.symm.trans h
  issue := fun _ _ h => nomatch hissue.symm.trans h
  tokens := fun _ _ h => nomatch htokens.symm.trans h

/-- A call that has found a user. -/
theorem Issues.of_found {call : AccountCall} {stored : User} (hmem : stored ∈ auth.users)
    (hfound : foundUser call = some stored.id) (hissue : issueOf call = none)
    (htokens : tokensOf call = none) : Issues env auth call where
  found := fun _ h => ⟨stored, hmem, Option.some.inj (h.symm.trans hfound)⟩
  issue := fun _ _ h => nomatch hissue.symm.trans h
  tokens := fun _ _ h => nomatch htokens.symm.trans h

/-- A call in `issueTokenPair`. -/
theorem Issues.of_issue {call : AccountCall} {user : SessionUser} {issue : IssuePc}
    (h : IssueOk env auth user issue) (hfound : foundUser call = none)
    (hissue : issueOf call = some (user, issue)) (htokens : tokensOf call = none) :
    Issues env auth call where
  found := fun _ h => nomatch hfound.symm.trans h
  issue := fun _ _ h' => by
    cases hissue.symm.trans h'
    exact h
  tokens := fun _ _ h => nomatch htokens.symm.trans h

/-- A call that returns tokens. -/
theorem Issues.of_tokens {call : AccountCall} {refreshToken : JsString}
    {response : RefreshSessionResponse} (h : IssuedTokens env auth refreshToken response)
    (hfound : foundUser call = none) (hissue : issueOf call = none)
    (htokens : tokensOf call = some (refreshToken, response)) : Issues env auth call where
  found := fun _ h => nomatch hfound.symm.trans h
  issue := fun _ _ h => nomatch hissue.symm.trans h
  tokens := fun _ _ h' => by
    cases htokens.symm.trans h'
    exact h

/-- A registration. -/
theorem Issues.registerStep {payload : RegisterLocalAuthDto} {pc pc' : RegisterPc}
    (h : Issues env db.auth (.registerLocalAccount payload pc))
    (hstep : Backend.registerStep env payload db input pc = some (db', pc')) :
    Issues env db'.auth (.registerLocalAccount payload pc') := by
  cases pc with
  | start =>
    simp only [Backend.registerStep] at hstep
    split at hstep <;> (cases hstep; exact .of_none rfl rfl rfl)
  | recordingStarted =>
    cases hstep
    exact .of_none rfl rfl rfl
  | findingEmail =>
    simp only [Backend.registerStep] at hstep
    split at hstep <;> (cases hstep; exact .of_none rfl rfl rfl)
  | findingUsername =>
    simp only [Backend.registerStep] at hstep
    split at hstep <;> (cases hstep; exact .of_none rfl rfl rfl)
  | hashing =>
    simp only [Backend.registerStep] at hstep
    split at hstep
    · cases hstep
    · cases hstep
      exact .of_none rfl rfl rfl
    · cases hstep
      exact .of_none rfl rfl rfl
  | creatingUser digest =>
    rcases registerStep_creating hstep with ⟨rfl, error, rfl, -⟩ | ⟨user, -, -, rfl, rfl⟩
    · exact .of_none rfl rfl rfl
    · have hstored : IssueOk env ⟨db.auth.users ++ [user], db.auth.refreshSessions,
          db.auth.authAttempts⟩ (toSessionUser user) .start :=
        ⟨user, List.mem_append_right _ (List.mem_singleton_self user), rfl⟩
      exact .of_issue hstored rfl rfl rfl
  | issuing user issue =>
    -- `issueTokenPair` goes on, fails, or returns to the registration
    obtain ⟨⟨auth, issue'⟩, hissue, heq⟩ := Option.map_eq_some_iff.mp hstep
    rcases (h.issue user issue rfl).step hissue with hok | ⟨token, response, rfl, -, hissued⟩
    · cases issue' with
      | returned token response => exact hok.elim
      | threw error => exact hok.elim
      | _ =>
        cases heq
        exact .of_issue hok rfl rfl rfl
    · cases heq
      exact .of_tokens hissued rfl rfl rfl
  | recordingSucceeded user sid refreshToken response =>
    have hissued := h.tokens refreshToken response rfl
    cases hstep
    exact .of_tokens hissued rfl rfl rfl
  | rejecting attempt error =>
    cases hstep
    exact .of_none rfl rfl rfl
  | returned refreshToken response => cases hstep
  | threw error => cases hstep

/-- A login behind `findOne`. -/
theorem issues_checkLoginUser {payload : LoginLocalAuthDto} (email : JsString) {found : Option User}
    (hfound : ∀ user, found = some user → user ∈ auth.users) :
    Issues env auth (.signIn (.loginLocalAccount payload (checkLoginUser email found))) := by
  unfold checkLoginUser
  split
  · exact .of_none rfl rfl rfl
  · rename_i user
    split
    · exact .of_none rfl rfl rfl
    · split
      · split
        · exact .of_none rfl rfl rfl
        · exact .of_found (hfound user rfl) rfl rfl rfl
      · exact .of_none rfl rfl rfl

/-- A login. -/
theorem Issues.loginStep {payload : LoginLocalAuthDto} {pc pc' : LoginPc}
    (h : Issues env db.auth (.signIn (.loginLocalAccount payload pc)))
    (hstep : Backend.loginStep env payload db input pc = some (db', pc')) :
    Issues env db'.auth (.signIn (.loginLocalAccount payload pc')) := by
  cases pc with
  | start =>
    simp only [Backend.loginStep] at hstep
    split at hstep <;> (cases hstep; exact .of_none rfl rfl rfl)
  | recordingStarted email =>
    cases hstep
    exact .of_none rfl rfl rfl
  | findingUser email =>
    cases hstep
    exact issues_checkLoginUser email fun user huser => List.mem_of_find?_eq_some huser
  | hashing email user expected =>
    -- the document that was found may be stale, but its user is still stored
    obtain ⟨stored, hmem, hid⟩ := h.found user.id rfl
    simp only [Backend.loginStep] at hstep
    split at hstep
    · cases hstep
    · cases hstep
      exact .of_none rfl rfl rfl
    · split at hstep
      · cases hstep
        exact .of_none rfl rfl rfl
      · cases hstep
        have hstored : IssueOk env db.auth (toSessionUser user) .start :=
          ⟨stored, hmem, congrArg ObjectId.toString hid⟩
        exact .of_issue hstored rfl rfl rfl
  | issuing email user issue =>
    obtain ⟨⟨auth, issue'⟩, hissue, heq⟩ := Option.map_eq_some_iff.mp hstep
    rcases (h.issue user issue rfl).step hissue with hok | ⟨token, response, rfl, -, hissued⟩
    · cases issue' with
      | returned token response => exact hok.elim
      | threw error => exact hok.elim
      | _ =>
        cases heq
        exact .of_issue hok rfl rfl rfl
    · cases heq
      exact .of_tokens hissued rfl rfl rfl
  | recordingSucceeded email user sid refreshToken response =>
    have hissued := h.tokens refreshToken response rfl
    cases hstep
    exact .of_tokens hissued rfl rfl rfl
  | rejecting attempt error =>
    cases hstep
    exact .of_none rfl rfl rfl
  | returned refreshToken response => cases hstep
  | threw error => cases hstep

/-- A Google login. -/
theorem Issues.googleStep {payload : GoogleAuthUser} {pc pc' : GooglePc}
    (h : Issues env db.auth (.signIn (.googleLogin payload pc)))
    (hstep : Backend.googleStep env payload db input pc = some (db', pc')) :
    Issues env db'.auth (.signIn (.googleLogin payload pc')) := by
  cases pc with
  | start =>
    simp only [Backend.googleStep] at hstep
    split at hstep
    · rename_i user hfound
      cases hstep
      exact .of_found (List.mem_of_find?_eq_some hfound) rfl rfl rfl
    · cases hstep
      exact .of_none rfl rfl rfl
  | savingUser document =>
    obtain ⟨stored, hmem, hid⟩ := h.found document.current.id rfl
    simp only [Backend.googleStep] at hstep
    split at hstep
    · cases hstep
      exact .of_none rfl rfl rfl
    · rename_i saved hsaved
      cases hstep
      -- the user that was found is there after the `save` too
      obtain ⟨kept, hmem', hsame⟩ := exists_lastingPart hmem (usersChange_save hsaved).lasting
      refine .of_issue ?_ rfl rfl rfl
      exact ⟨kept, hmem', congrArg ObjectId.toString (hid.trans (id_eq_of_lastingPart hsame).symm)⟩
  | resolvingUsername email suffix =>
    simp only [Backend.googleStep] at hstep
    split at hstep <;> (cases hstep; exact .of_none rfl rfl rfl)
  | creatingUser email username =>
    simp only [Backend.googleStep] at hstep
    split at hstep
    · cases hstep
    · rename_i hid
      split at hstep
      · cases hstep
        exact .of_none rfl rfl rfl
      · rename_i created hcreated
        cases hstep
        obtain ⟨-, rfl⟩ := createUser_ok hid hcreated
        refine .of_issue ?_ rfl rfl rfl
        exact ⟨_, List.mem_append_right _ (List.mem_singleton_self _), rfl⟩
  | issuing user issue =>
    obtain ⟨⟨auth, issue'⟩, hissue, heq⟩ := Option.map_eq_some_iff.mp hstep
    rcases (h.issue user issue rfl).step hissue with hok | ⟨token, response, rfl, -, hissued⟩
    · cases issue' with
      | returned token response => exact hok.elim
      | threw error => exact hok.elim
      | _ =>
        cases heq
        exact .of_issue hok rfl rfl rfl
    · cases heq
      exact .of_tokens hissued rfl rfl rfl
  | returned refreshToken response => cases hstep
  | threw error => cases hstep

/-- A step of any call. -/
theorem Issues.step {call call' : AccountCall} (h : Issues env db.auth call)
    (hstep : accountCallStep env db input call = some (db', call')) :
    Issues env db'.auth call' := by
  cases accountCallStep_cases hstep with
  | registerLocalAccount _ _ _ _ hregister => exact h.registerStep hregister
  | loginLocalAccount _ _ _ _ hlogin => exact h.loginStep hlogin
  | googleLogin _ _ _ _ hgoogle => exact h.googleStep hgoogle
  | revokeRefreshToken | refreshAccessToken | authenticateAccessToken => exact .of_none rfl rfl rfl

theorem issues_of_isStart {call : AccountCall} (h : call.isStart = true) :
    Issues env auth call := by
  -- every call starts without tokens
  cases call with
  | registerLocalAccount payload pc =>
    obtain rfl : pc = .start := of_decide_eq_true h
    exact .of_none rfl rfl rfl
  | revokeRefreshToken refreshToken pc => exact .of_none rfl rfl rfl
  | signIn call =>
    cases call with
    | loginLocalAccount payload pc =>
      obtain rfl : pc = .start := of_decide_eq_true h
      exact .of_none rfl rfl rfl
    | googleLogin payload pc =>
      obtain rfl : pc = .start := of_decide_eq_true h
      exact .of_none rfl rfl rfl
    | refreshAccessToken refreshToken pc => exact .of_none rfl rfl rfl
    | authenticateAccessToken token pc => exact .of_none rfl rfl rfl

/-- A step of the system loses no user and no session. -/
theorem keeps_accountStep {system system' : AccountSystem} {event : AccountEvent}
    (h : accountStep env system event = some system') : AuthKept system.db.auth system'.db.auth :=
  ⟨(users_accountStep h).lasting, issued_accountStep h⟩

/-- A step of the system. -/
theorem issues_accountStep {system system' : AccountSystem} {event : AccountEvent}
    (hstep : accountStep env system event = some system')
    (h : ∀ call ∈ system.calls, Issues env system.db.auth call) :
    ∀ call ∈ system'.calls, Issues env system'.db.auth call :=
  forall_calls_of_step hstep h (fun _ hissues => hissues.mono (keeps_accountStep hstep))
    (fun _ hstart => issues_of_isStart hstart) fun _ _ _ hissues hcall => hissues.step hcall

/-- **Tokens are those of a stored account and session**: in every run, whatever call has returned
    tokens, in the state that it leaves and in every later one. -/
theorem issuedTokens_of_run {system : AccountSystem} {events : List AccountEvent}
    (hrun : run (accountStep env) (.start db) events = some system) {call : AccountCall}
    (hcall : call ∈ system.calls) {refreshToken : JsString} {response : RefreshSessionResponse}
    (htokens : tokensOf call = some (refreshToken, response)) :
    IssuedTokens env system.db.auth refreshToken response := by
  have hinv := run_invariant (fun _ _ _ hissues hstep => issues_accountStep hstep hissues)
    (fun _ hcall => absurd hcall List.not_mem_nil) hrun
  exact (hinv call hcall).tokens refreshToken response htokens

end Runs

/-! ## Live sessions -/

/-- What `jsonwebtoken` promises: a token verifies until the second in which it expires, and gives
    what was signed. -/
structure TokensVerify (env : SignInEnv) : Prop where
  refresh : ∀ (sub sid : ObjectId) jti signedAt now,
    now / 1000 < signedAt / 1000 + env.token.refreshTokenTtlSeconds →
    env.tokens.verifyRefreshToken
      (env.tokens.signRefreshToken ⟨sub.toString, sid.toString, jti⟩ signedAt) now =
        .ok ⟨sub.toString, sid.toString, jti⟩
  access : ∀ (sub sid : ObjectId) signedAt now,
    now / 1000 < signedAt / 1000 + env.token.accessTokenTtlSeconds →
    env.tokens.verifyAccessToken
      (env.tokens.signAccessToken ⟨sub.toString, sid.toString⟩ signedAt) now =
        some ⟨sub.toString, sid.toString⟩

/-- The two have the same status and the same time of revocation. -/
def SameEnd (document : LoadedSession) : Prop :=
  document.current.status = document.loaded.status ∧
    document.current.revokedAt = document.loaded.revokedAt

/-- The call does not end the session: it is no logout with a token of the session, and it is not
    about to save that the session is over. -/
def SparesSession (env : SignInEnv) (sid : ObjectId) : AccountCall → Prop
  | .revokeRefreshToken refreshToken pc =>
    (∀ now payload, env.tokens.verifyRefreshToken refreshToken now = .ok payload →
      ObjectId.ofString? payload.sid ≠ some sid) ∧
    match pc with
    | .loading payload => ObjectId.ofString? payload.sid ≠ some sid
    | .saving _ document => document.loaded.id ≠ sid
    | _ => True
  | .signIn (.refreshAccessToken _ pc) =>
    match pc with
    | .savingExpired _ document => document.loaded.id ≠ sid
    | .findingUser _ document _ | .savingUsed document _ => SameEnd document
    | _ => True
  | _ => True

/-- A session that is active, and that no call is about to end. -/
structure Live (env : SignInEnv) (session : RefreshSession) (system : AccountSystem) : Prop where
  stored : ∃ stored, system.db.auth.findSession session.id = some stored ∧
    issuedPart stored = issuedPart session ∧ stored.status = .active ∧ stored.revokedAt = none
  spared : ∀ call ∈ system.calls, SparesSession env session.id call

/-- The event starts no logout with a token of the session, and happens while its token is good. -/
def WithinLife (env : SignInEnv) (session : RefreshSession) : AccountEvent → Prop
  | .call call => SparesSession env session.id call
  | .step _ input =>
    input.auth.now / 1000 < session.issuedAt / 1000 + env.token.refreshTokenTtlSeconds

section Live

variable {env : SignInEnv} {session : RefreshSession} {db db' : SignInDb} {input : SignInInput}

/-- Saving a copy that ends nothing, or the copy of another session, leaves a session active. -/
theorem active_save {document : LoadedSession} {auth : AuthDb} {sid : ObjectId}
    {stored : RefreshSession} (hspares : document.loaded.id ≠ sid ∨ SameEnd document)
    (hfound : auth.findSession sid = some stored) (hstatus : stored.status = .active)
    (hrevoked : stored.revokedAt = none) :
    ∃ saved, (document.save auth).findSession sid = some saved ∧
      issuedPart saved = issuedPart stored ∧ saved.status = .active ∧ saved.revokedAt = none := by
  rw [findSession_save, hfound, Option.map_some]
  -- `save` writes only what was changed, so an unchanged end leaves the stored one
  by_cases hsid : sid = document.loaded.id
  · rw [if_pos hsid]
    obtain ⟨hsame, hsame'⟩ := hspares.resolve_left fun hne => hne hsid.symm
    refine ⟨_, rfl, rfl, ?_, ?_⟩
    · exact (if_neg (not_not.mpr hsame)).trans hstatus
    · exact (if_neg (not_not.mpr hsame')).trans hrevoked
  · rw [if_neg hsid]
    exact ⟨stored, rfl, rfl, hstatus, hrevoked⟩

/-- The copy that a call saves ends nothing, or is of another session. -/
theorem SparesSession.copy {sid : ObjectId} {call : AccountCall} {document : LoadedSession}
    (h : SparesSession env sid call) (hcopy : copyOf call = some document) :
    document.loaded.id ≠ sid ∨ SameEnd document := by
  cases call with
  | registerLocalAccount payload pc => cases hcopy
  | revokeRefreshToken refreshToken pc =>
    -- a logout ends only the session of its own token
    cases pc with
    | saving payload copy =>
      cases hcopy
      exact .inl h.2
    | _ => cases hcopy
  | signIn call =>
    cases call with
    -- a refresh writes the end that it has read, or ends another session
    | refreshAccessToken refreshToken pc =>
      cases pc with
      | savingExpired payload copy =>
        cases hcopy
        exact .inl h
      | findingUser payload copy now =>
        cases hcopy
        exact .inr h
      | savingUsed copy user =>
        cases hcopy
        exact .inr h
      | _ => cases hcopy
    | _ => cases hcopy

/-- A session that is found after a step of a call that spares it. -/
theorem stored_of_step {call call' : AccountCall} {stored : RefreshSession}
    (hspares : SparesSession env session.id call)
    (hfound : db.auth.findSession session.id = some stored) (hstatus : stored.status = .active)
    (hrevoked : stored.revokedAt = none)
    (h : accountCallStep env db input call = some (db', call')) :
    ∃ stored', db'.auth.findSession session.id = some stored' ∧
      issuedPart stored' = issuedPart stored ∧ stored'.status = .active ∧
      stored'.revokedAt = none := by
  cases sessions_accountCallStep h with
  -- what a step of any call may do to the sessions
  | same hsame =>
    refine ⟨stored, ?_, rfl, hstatus, hrevoked⟩
    rw [AuthDb.findSession, hsame]
    exact hfound
  | created new hid hnew =>
    refine ⟨stored, ?_, rfl, hstatus, hrevoked⟩
    rw [AuthDb.findSession, hnew, List.find?_append,
      show db.auth.refreshSessions.find? (·.id = session.id) = some stored from hfound]
    rfl
  -- the copy is of another session, or it ends nothing
  | saved document hcopy hsaved =>
    obtain ⟨saved, hfound', hsame, hstatus', hrevoked'⟩ :=
      active_save (hspares.copy hcopy) hfound hstatus hrevoked
    refine ⟨saved, ?_, hsame, hstatus', hrevoked'⟩
    rw [AuthDb.findSession, hsaved]
    exact hfound'

/-- The time of the session is not over while its token is good. -/
theorem lt_expiresAt {now issuedAt ttl : Nat} (h : now / 1000 < issuedAt / 1000 + ttl) :
    now < issuedAt + ttl * 1000 := by
  omega

/-- A logout with a token of another session stays one. -/
theorem SparesSession.revokeStep {sid : ObjectId} {refreshToken : JsString} {pc pc' : RevokePc}
    {auth auth' : AuthDb} {time : AuthInput}
    (h : SparesSession env sid (.revokeRefreshToken refreshToken pc))
    (hstep : Backend.revokeStep env.tokens refreshToken auth time pc = some (auth', pc')) :
    SparesSession env sid (.revokeRefreshToken refreshToken pc') := by
  obtain ⟨htoken, hpc⟩ := h
  refine ⟨htoken, ?_⟩
  cases pc with
  | start =>
    simp only [Backend.revokeStep] at hstep
    split at hstep
    · cases hstep
      trivial
    · rename_i payload hpayload
      cases hstep
      exact htoken _ payload hpayload
  | loading payload =>
    simp only [Backend.revokeStep] at hstep
    split at hstep
    · cases hstep
      trivial
    · rename_i found hsid
      split at hstep
      · cases hstep
        trivial
      · rename_i stored hfound
        cases hstep
        -- the session that was found is the one of the token
        intro hid
        apply hpc
        rw [hsid, ← id_of_findSession hfound, ← hid]
  | saving payload document =>
    cases hstep
    trivial
  | recording payload =>
    cases hstep
    trivial
  | returned => cases hstep
  | threw error => cases hstep

/-- A refresh ends no session whose time is not over. -/
theorem SparesSession.refreshStep {refreshToken : JsString} {pc pc' : RefreshPc}
    {auth auth' : AuthDb} {time : AuthInput}
    (hlive : ∀ stored, auth.findSession session.id = some stored → time.now < stored.expiresAt)
    (h : SparesSession env session.id (.signIn (.refreshAccessToken refreshToken pc)))
    (hstep : Backend.refreshStep env.tokens env.token refreshToken auth time pc =
      some (auth', pc')) :
    SparesSession env session.id (.signIn (.refreshAccessToken refreshToken pc')) := by
  cases pc with
  | start =>
    simp only [Backend.refreshStep] at hstep
    split at hstep <;> (cases hstep; trivial)
  | loading payload =>
    simp only [Backend.refreshStep] at hstep
    split at hstep
    · cases hstep
      trivial
    · rename_i sid hsid
      split at hstep
      · cases hstep
        trivial
      · rename_i stored hfound
        cases hstep
        unfold checkSession
        split
        · trivial
        · split
          · trivial
          · split
            · rename_i hexpired
              -- only another session can be over
              intro hid
              have hsame : auth.findSession session.id = some stored := by
                rw [← hid, ← hfound]
                exact congrArg auth.findSession (id_of_findSession hfound)
              exact absurd (hlive stored hsame) (Nat.not_lt.mpr hexpired)
            · exact ⟨rfl, rfl⟩
  | findingUser payload document now =>
    simp only [Backend.refreshStep] at hstep
    split at hstep
    · cases hstep
      trivial
    · split at hstep
      · cases hstep
        trivial
      · cases hstep
        exact h
  | savingExpired payload document =>
    cases hstep
    trivial
  | savingUsed document user =>
    cases hstep
    trivial
  | recording sid user =>
    cases hstep
    trivial
  | rejecting attempt error =>
    cases hstep
    trivial
  | returned response => cases hstep
  | threw error => cases hstep

/-- A step of a call that spares a live session. -/
theorem SparesSession.step {call call' : AccountCall}
    (hlive : ∀ stored, db.auth.findSession session.id = some stored →
      input.auth.now < stored.expiresAt)
    (h : SparesSession env session.id call)
    (hstep : accountCallStep env db input call = some (db', call')) :
    SparesSession env session.id call' := by
  cases accountCallStep_cases hstep with
  | revokeRefreshToken _ _ _ _ hrevoke => exact h.revokeStep hrevoke
  | refreshAccessToken _ _ _ _ hrefresh => exact h.refreshStep hlive hrefresh
  | registerLocalAccount | loginLocalAccount | googleLogin | authenticateAccessToken => trivial

/-- The time at which the stored session ends. -/
theorem expiresAt_of_issuedPart {stored : RefreshSession}
    (h : issuedPart stored = issuedPart session) : stored.expiresAt = session.expiresAt :=
  congrArg (·.expiresAt) h

/-- A live session stays live within its life. -/
theorem Live.step {system system' : AccountSystem} {event : AccountEvent} {user : SessionUser}
    {refreshToken : JsString} (hfor : TokensFor env user session refreshToken)
    (h : Live env session system) (hwithin : WithinLife env session event)
    (hstep : accountStep env system event = some system') : Live env session system' := by
  obtain ⟨stored, hfound, hissued, hstatus, hrevoked⟩ := h.stored
  rcases accountStep_cases hstep with ⟨call, rfl, -, rfl⟩ |
    ⟨index, input, call, db', call', rfl, hcall, hcallStep, rfl⟩
  · -- a new call may not be a logout of the session
    refine ⟨⟨stored, hfound, hissued, hstatus, hrevoked⟩, fun other hother => ?_⟩
    rcases List.mem_append.mp hother with hold | hnew
    · exact h.spared other hold
    · rw [List.mem_singleton.mp hnew]
      exact hwithin
  · -- a step of a call that spares it
    have hspares := h.spared call (List.mem_of_getElem? hcall)
    obtain ⟨stored', hfound', hsame, hstatus', hrevoked'⟩ :=
      stored_of_step hspares hfound hstatus hrevoked hcallStep
    refine ⟨⟨stored', hfound', hsame.trans hissued, hstatus', hrevoked'⟩, fun other hother => ?_⟩
    rcases List.mem_or_eq_of_mem_set hother with hold | rfl
    · exact h.spared other hold
    · refine hspares.step (fun found hfound₁ => ?_) hcallStep
      cases hfound.symm.trans hfound₁
      rw [expiresAt_of_issuedPart hissued, hfor.expiresAt]
      exact lt_expiresAt hwithin

end Live

/-! ## What a live session lets in -/

/-- The user that a call lets in. -/
def letsInUser : SignInCall → Option JsString
  | .loginLocalAccount _ (.returned _ response) => some response.user.id
  | .googleLogin _ (.returned _ response) => some response.user.id
  | .refreshAccessToken _ (.returned response) => some response.user.id
  | .authenticateAccessToken _ (.returned (some user)) => some user.id
  | _ => none

/-- A call with a token of a session has not been refused, and gives its user. -/
def GoesOn (uid : JsString) (sid : ObjectId) : SignInCall → Prop
  | .refreshAccessToken _ pc =>
    match pc with
    | .start => True
    | .loading payload => payload.sub = uid ∧ payload.sid = sid.toString
    | .findingUser payload _ _ => payload.sub = uid
    | .savingUsed _ user | .recording _ user => user.id = uid
    | .returned response => response.user.id = uid
    | _ => False
  | .authenticateAccessToken _ pc =>
    match pc with
    | .start => True
    | .loading payload => payload.sub = uid ∧ payload.sid = sid.toString
    | .findingUser payload => payload.sub = uid
    | .returned (some user) => user.id = uid
    | _ => False
  | _ => False

section Uses

variable {env : SignInEnv} {session : RefreshSession} {user : SessionUser} {auth auth' : AuthDb}
  {time : AuthInput}

/-- A user that is stored is found, with the id. -/
theorem findUser_of_stored {uid : JsString} (h : ∃ stored ∈ auth.users, uid = stored.id.toString) :
    ∃ id found, ObjectId.ofString? uid = some id ∧ auth.findUser id = some found ∧
      found.id = uid := by
  obtain ⟨stored, hmem, rfl⟩ := h
  have hany : (auth.users.find? (·.id = stored.id)).isSome = true :=
    List.find?_isSome.mpr ⟨stored, hmem, decide_eq_true rfl⟩
  obtain ⟨found, hfound⟩ := Option.isSome_iff_exists.mp hany
  have hid : found.id = stored.id := by simpa using List.find?_some hfound
  refine ⟨stored.id, toSessionUser found, ObjectId.ofString?_toString _, ?_,
    congrArg ObjectId.toString hid⟩
  rw [AuthDb.findUser, hfound]
  rfl

/-- A refresh with the token of a live session. -/
theorem GoesOn.refreshStep {refreshToken : JsString} {pc pc' : RefreshPc} {stored : RefreshSession}
    (hverify : ∃ jti, env.tokens.verifyRefreshToken refreshToken time.now =
      .ok ⟨user.id, session.id.toString, jti⟩)
    (hfound : auth.findSession session.id = some stored) (hstatus : stored.status = .active)
    (hrevoked : stored.revokedAt = none)
    (hhash : stored.tokenHash = env.tokens.hashToken refreshToken)
    (htime : time.now < stored.expiresAt)
    (huser : ∃ stored ∈ auth.users, user.id = stored.id.toString)
    (h : GoesOn user.id session.id (.refreshAccessToken refreshToken pc))
    (hstep : Backend.refreshStep env.tokens env.token refreshToken auth time pc =
      some (auth', pc')) :
    GoesOn user.id session.id (.refreshAccessToken refreshToken pc') := by
  cases pc with
  | start =>
    obtain ⟨jti, hverify⟩ := hverify
    simp only [Backend.refreshStep, hverify] at hstep
    cases hstep
    exact ⟨rfl, rfl⟩
  | loading payload =>
    obtain ⟨hsub, hsid⟩ := h
    -- the checks of `refreshAccessToken`: the hash, the end and the time
    have hended : ¬ (stored.revokedAt.isSome ∨ stored.status = .revoked) := by
      rw [hrevoked, hstatus]
      rintro (hsome | hsome) <;> cases hsome
    simp only [Backend.refreshStep, hsid, ObjectId.ofString?_toString, hfound, checkSession,
      if_neg (not_not.mpr hhash), if_neg hended, if_neg (Nat.not_le.mpr htime)] at hstep
    cases hstep
    exact hsub
  | findingUser payload document now =>
    obtain ⟨id, found, hid, hfoundUser, huid⟩ := findUser_of_stored huser
    have hsub : payload.sub = user.id := h
    simp only [Backend.refreshStep, hsub, hid, hfoundUser] at hstep
    cases hstep
    exact huid
  | savingUsed document found =>
    cases hstep
    exact h
  | recording sid found =>
    cases hstep
    exact h
  | savingExpired payload document => exact h.elim
  | rejecting attempt error => exact h.elim
  | returned response => cases hstep
  | threw error => cases hstep

/-- A request with an access token of a live session. -/
theorem GoesOn.authenticateStep {token : JsString} {pc pc' : AuthenticatePc}
    {stored : RefreshSession}
    (hverify : env.tokens.verifyAccessToken token time.now =
      some ⟨user.id, session.id.toString⟩)
    (hfound : auth.findSession session.id = some stored) (hstatus : stored.status = .active)
    (hrevoked : stored.revokedAt = none) (htime : time.now < stored.expiresAt)
    (huser : ∃ stored ∈ auth.users, user.id = stored.id.toString)
    (h : GoesOn user.id session.id (.authenticateAccessToken token pc))
    (hstep : Backend.authenticateStep env.tokens token auth time pc = some (auth', pc')) :
    GoesOn user.id session.id (.authenticateAccessToken token pc') := by
  cases pc with
  -- the token is verified
  | start =>
    simp only [Backend.authenticateStep, hverify] at hstep
    cases hstep
    exact ⟨rfl, rfl⟩
  -- the session is live, so none of the checks refuses
  | loading payload =>
    obtain ⟨hsub, hsid⟩ := h
    have hended : ¬ (stored.status ≠ .active ∨ stored.revokedAt.isSome) := by
      rw [hrevoked, hstatus]
      rintro (hne | hsome)
      · exact hne rfl
      · cases hsome
    simp only [Backend.authenticateStep, hsid, ObjectId.ofString?_toString, hfound, if_neg hended,
      if_neg (Nat.not_le.mpr htime)] at hstep
    cases hstep
    exact hsub
  -- the user of the token is stored
  | findingUser payload =>
    obtain ⟨id, found, hid, hfoundUser, huid⟩ := findUser_of_stored huser
    have hsub : payload.sub = user.id := h
    simp only [Backend.authenticateStep, hsub, hid, hfoundUser] at hstep
    cases hstep
    exact huid
  | returned found => cases hstep
  | threw error => cases hstep

end Uses

/-- A call that has gone on has not refused, and lets no other user in. -/
theorem GoesOn.lets {uid : JsString} {sid : ObjectId} {call : SignInCall}
    (h : GoesOn uid sid call) :
    call.refuses = false ∧ ∀ id, letsInUser call = some id → id = uid := by
  -- only a refresh and a request with an access token go on so
  cases call with
  | loginLocalAccount payload pc => exact h.elim
  | googleLogin payload pc => exact h.elim
  | refreshAccessToken refreshToken pc =>
    cases pc with
    | returned response =>
      refine ⟨rfl, fun id hid => ?_⟩
      cases hid
      exact h
    | threw error => exact h.elim
    | _ => exact ⟨rfl, nofun⟩
  | authenticateAccessToken token pc =>
    cases pc with
    | returned found =>
      cases found with
      | none => exact h.elim
      | some found =>
        refine ⟨rfl, fun id hid => ?_⟩
        cases hid
        exact h
    | threw error => exact h.elim
    | _ => exact ⟨rfl, nofun⟩

/-- At the time the token of the call is one of the session's: the refresh token, or an access token
    that verifies for the session and its user. -/
def TokenGood (env : SignInEnv) (session : RefreshSession) (uid : JsString) (now : Date) :
    SignInCall → Prop
  | .refreshAccessToken token _ => session.tokenHash = env.tokens.hashToken token ∧
    ∃ jti, env.tokens.verifyRefreshToken token now = .ok ⟨uid, session.id.toString, jti⟩
  | .authenticateAccessToken token _ =>
    env.tokens.verifyAccessToken token now = some ⟨uid, session.id.toString⟩
  | _ => False

section Lets

variable {env : SignInEnv} {session : RefreshSession} {user : SessionUser}
  {refreshToken : JsString} {index : Nat} {start : SignInCall}

/-- A live session, its user, and a call with one of its tokens. -/
structure LetsIn (env : SignInEnv) (session : RefreshSession) (user : SessionUser) (index : Nat)
    (start : SignInCall) (system : AccountSystem) : Prop where
  live : Live env session system
  stored : ∃ stored ∈ system.db.auth.users, user.id = stored.id.toString
  call : ∃ call, system.calls[index]? = some (.signIn call) ∧ GoesOn user.id session.id call ∧
    ∀ now, TokenGood env session user.id now start → TokenGood env session user.id now call

theorem LetsIn.step {system system' : AccountSystem} {event : AccountEvent}
    (hfor : TokensFor env user session refreshToken)
    (h : LetsIn env session user index start system) (hwithin : WithinLife env session event)
    (hgood : ∀ i input, event = .step i input →
      TokenGood env session user.id input.auth.now start)
    (hstep : accountStep env system event = some system') :
    LetsIn env session user index start system' := by
  refine ⟨h.live.step hfor hwithin hstep, (keeps_accountStep hstep).storedUser h.stored, ?_⟩
  -- the call that is followed, and the session that it relies on
  obtain ⟨call, hcall, hgoes, hsame⟩ := h.call
  obtain ⟨stored, hfound, hissued, hstatus, hrevoked⟩ := h.live.stored
  rcases call_of_accountStep hstep hcall with hkept | ⟨input, db', call', rfl, hmove, hcall'⟩
  · -- the step was not its own
    exact ⟨call, hkept, hgoes, hsame⟩
  · -- a token that is good at the time of the step
    have htoken := hsame input.auth.now (hgood index input rfl)
    have htime : input.auth.now < stored.expiresAt := by
      rw [expiresAt_of_issuedPart hissued, hfor.expiresAt]
      exact lt_expiresAt hwithin
    cases accountCallStep_cases hmove with
    | loginLocalAccount payload pc => exact hgoes.elim
    | googleLogin payload pc => exact hgoes.elim
    | refreshAccessToken token pc pc' auth hrefresh =>
      have hhash : stored.tokenHash = env.tokens.hashToken token :=
        (congrArg (·.tokenHash) hissued).trans htoken.1
      exact ⟨_, hcall',
        hgoes.refreshStep htoken.2 hfound hstatus hrevoked hhash htime h.stored hrefresh, hsame⟩
    | authenticateAccessToken token pc pc' auth haccess =>
      exact ⟨_, hcall',
        hgoes.authenticateStep htoken hfound hstatus hrevoked htime h.stored haccess, hsame⟩

/-- A call that starts with one of the tokens that were signed for a session: its refresh token, or
    an access token that is good whenever one of the events takes place. -/
def StartsWithToken (env : SignInEnv) (session : RefreshSession) (user : SessionUser)
    (refreshToken : JsString) (events : List AccountEvent) (call : SignInCall) : Prop :=
  call = .refreshAccessToken refreshToken .start ∨
    ∃ signedAt, call = .authenticateAccessToken
        (env.tokens.signAccessToken ⟨user.id, session.id.toString⟩ signedAt) .start ∧
      ∀ i input, AccountEvent.step i input ∈ events →
        input.auth.now / 1000 < signedAt / 1000 + env.token.accessTokenTtlSeconds

/-- Such a token is good. -/
theorem StartsWithToken.good {events : List AccountEvent} (hverify : TokensVerify env)
    (hfor : TokensFor env user session refreshToken)
    (h : StartsWithToken env session user refreshToken events start)
    (hwithin : ∀ event ∈ events, WithinLife env session event) {i : Nat} {input : SignInInput}
    (hevent : AccountEvent.step i input ∈ events) :
    TokenGood env session user.id input.auth.now start := by
  obtain ⟨jti, hsigned⟩ := hfor.signed
  rw [StartsWithToken, hfor.userId] at h
  rw [hfor.userId] at hsigned ⊢
  rcases h with rfl | ⟨signedAt, rfl, hgood⟩
  · have hlife : input.auth.now / 1000 <
        session.issuedAt / 1000 + env.token.refreshTokenTtlSeconds := hwithin _ hevent
    exact ⟨hfor.hash, jti, hsigned ▸ hverify.refresh _ _ _ _ _ hlife⟩
  · exact hverify.access _ _ _ _ (hgood i input hevent)

end Lets

/-- **A live session lets in**: until a logout with one of its tokens, or the end of its time, no
    refresh with its refresh token and no request with a good access token of it is refused, and
    they give the user for whom the tokens were made; and it stays live. -/
theorem liveSession_letsIn {env : SignInEnv} {db : SignInDb} {system system' : AccountSystem}
    {events later : List AccountEvent} {issuer : AccountCall} {refreshToken : JsString}
    {response : RefreshSessionResponse} {session : RefreshSession} {index : Nat}
    {call : SignInCall} (hverify : TokensVerify env)
    (hrun : run (accountStep env) (.start db) events = some system)
    (hissuer : issuer ∈ system.calls) (htokens : tokensOf issuer = some (refreshToken, response))
    (hfor : TokensFor env response.user session refreshToken) (hlive : Live env session system)
    (hcall : system.calls[index]? = some (.signIn call))
    (hstart : StartsWithToken env session response.user refreshToken later call)
    (hwithin : ∀ event ∈ later, WithinLife env session event)
    (hlater : run (accountStep env) system later = some system') :
    Live env session system' ∧ ∃ call', system'.calls[index]? = some (.signIn call') ∧
      call'.refuses = false ∧ ∀ id, letsInUser call' = some id → id = response.user.id := by
  -- a call that starts has refused nobody
  have hgoes : GoesOn response.user.id session.id call := by
    rcases hstart with rfl | ⟨signedAt, rfl, -⟩ <;> trivial
  have hbegin : LetsIn env session response.user index call system :=
    ⟨hlive, (issuedTokens_of_run hrun hissuer htokens).user, call, hcall, hgoes, fun _ h => h⟩
  have hguard : Guarded (accountStep env) (fun _ event => event ∈ later) system later :=
    Guarded.of_forall fun _ hevent _ => hevent
  -- the step lemma, with the conditions on the events of the run
  have hkeep : ∀ (s : AccountSystem) (event : AccountEvent) (s' : AccountSystem),
      LetsIn env session response.user index call s → event ∈ later →
      accountStep env s event = some s' → LetsIn env session response.user index call s' := by
    intro s event s' hlets hevent hstep
    refine hlets.step hfor (hwithin event hevent) (fun i input heq => ?_) hstep
    subst heq
    exact hstart.good hverify hfor hwithin hevent
  -- and the run
  have hend := run_invariant_of_guarded hkeep hbegin hguard hlater
  obtain ⟨call', hcall', hgoes', -⟩ := hend.call
  exact ⟨hend.live, call', hcall', hgoes'.lets⟩

/-! ## A session of amy -/

/-- The plain refresh tokens give what was signed. -/
theorem verifyRefreshToken_plainTokens (sub sid : ObjectId) (jti : JsString)
    (signedAt now : Date) :
    plainTokens.verifyRefreshToken
        (plainTokens.signRefreshToken ⟨sub.toString, sid.toString, jti⟩ signedAt) now =
      .ok ⟨sub.toString, sid.toString, jti⟩ := by
  -- the two ids have a fixed length, so the parts of the token are found again
  have hlength : ∀ id : ObjectId, id.toString.length = 24 := fun id =>
    (List.length_map _).trans id.length_eq
  have htwo : ∀ s : JsString, (js "r." ++ s).drop 2 = s := fun _ => rfl
  show plainTokens.verifyRefreshToken (js "r." ++ sub.toString ++ sid.toString ++ jti) now = _
  have hrest : (js "r." ++ sub.toString ++ sid.toString ++ jti).drop 26 = sid.toString ++ jti := by
    rw [List.append_assoc, List.append_assoc, ← List.drop_drop (i := 24) (j := 2), htwo,
      List.drop_left' (hlength sub)]
  have hjti : (js "r." ++ sub.toString ++ sid.toString ++ jti).drop 50 = jti := by
    rw [← List.drop_drop (i := 24) (j := 26), hrest, List.drop_left' (hlength sid)]
  have hstart : js "r." <+: js "r." ++ sub.toString ++ sid.toString ++ jti :=
    ⟨sub.toString ++ sid.toString ++ jti, by simp only [List.append_assoc]⟩
  simp only [plainTokens, if_pos hstart, hrest, hjti, List.take_left' (hlength sid)]
  rw [List.append_assoc, List.append_assoc, htwo, List.take_left' (hlength sub)]

/-- The plain access tokens give what was signed. -/
theorem verifyAccessToken_plainTokens (sub sid : ObjectId) (signedAt now : Date) :
    plainTokens.verifyAccessToken
        (plainTokens.signAccessToken ⟨sub.toString, sid.toString⟩ signedAt) now =
      some ⟨sub.toString, sid.toString⟩ := by
  have hlength : sub.toString.length = 24 := (List.length_map _).trans sub.length_eq
  have htwo : ∀ s : JsString, (js "a." ++ s).drop 2 = s := fun _ => rfl
  show plainTokens.verifyAccessToken (js "a." ++ sub.toString ++ sid.toString) now = _
  have hrest : (js "a." ++ sub.toString ++ sid.toString).drop 26 = sid.toString := by
    rw [List.append_assoc, ← List.drop_drop (i := 24) (j := 2), htwo, List.drop_left' hlength]
  have hstart : js "a." <+: js "a." ++ sub.toString ++ sid.toString :=
    ⟨sub.toString ++ sid.toString, by simp only [List.append_assoc]⟩
  simp only [plainTokens, if_pos hstart, hrest]
  rw [List.append_assoc, htwo, List.take_left' hlength]

/-- The plain tokens verify. -/
theorem tokensVerify_localSignIn : TokensVerify localSignIn :=
  ⟨fun sub sid jti signedAt now _ => verifyRefreshToken_plainTokens sub sid jti signedAt now,
    fun sub sid signedAt now _ => verifyAccessToken_plainTokens sub sid signedAt now⟩

/-- The refresh token of the second amy. -/
def secondToken : JsString :=
  plainTokens.signRefreshToken ⟨secondAmy.id, (digitId 3).toString, js "jti"⟩ 8

/-- The session that was made for the second amy. -/
def secondSession : RefreshSession where
  id := digitId 3
  userId := digitId 2
  tokenHash := secondToken
  issuedAt := 8
  expiresAt := 604800008
  lastUsedAt := none
  revokedAt := none
  status := .active
  createdBy := "local-register"

/-- The steps of a refresh. -/
def refreshSteps : List AccountEvent := (List.range 5).map fun t => .step 2 (localInput (500 + t) 4)

/-- The second amy has tokens of a stored session. -/
theorem issuedTokens_amyTwice : ∃ system,
    run (accountStep localSignIn) (.start noAccounts) amyTwice = some system ∧
      IssuedTokens localSignIn system.db.auth secondToken
        (buildRefreshSessionResponse plainTokens plainTokenEnv secondAmy (digitId 3) 8) := by
  obtain ⟨system, hrun, hcalls⟩ := Option.map_eq_some_iff.mp run_amyTwice
  have hcall : system.calls[1]? = some (.registerLocalAccount (amyRegistered (js "Secret"))
      (.returned secondToken
        (buildRefreshSessionResponse plainTokens plainTokenEnv secondAmy (digitId 3) 8))) :=
    congrArg (·[1]?) hcalls
  exact ⟨system, hrun, issuedTokens_of_run hrun (List.mem_of_getElem? hcall) rfl⟩

/-- The session of the second amy lets a refresh in. -/
theorem liveSession_letsIn_amy : ∃ system system',
    run (accountStep localSignIn) (.start noAccounts)
        (amyTwice ++ [.call (.signIn (.refreshAccessToken secondToken .start))]) = some system ∧
      run (accountStep localSignIn) system refreshSteps = some system' ∧
      Live localSignIn secondSession system' ∧ ∃ call',
        system'.calls[2]? = some (.signIn call') ∧ call'.letsIn = true ∧
        call'.refuses = false ∧ ∀ id, letsInUser call' = some id → id = secondAmy.id := by
  -- the run up to the registration leaves one session
  have hsession : (run (accountStep localSignIn) (.start noAccounts) amyTwice).map
      (·.db.auth.refreshSessions) = some [secondSession] := by
    decide +kernel
  have hend : (run (accountStep localSignIn) (.start noAccounts)
      (amyTwice ++ [.call (.signIn (.refreshAccessToken secondToken .start))] ++
        refreshSteps)).map (fun s => s.calls[2]?.map fun call =>
          match call with
          | .signIn call => call.letsIn
          | _ => false) = some (some true) := by
    decide +kernel
  obtain ⟨system', hrun', hlets⟩ := Option.map_eq_some_iff.mp hend
  obtain ⟨system, hrun, hlater⟩ := run_append_eq_some.mp hrun'
  obtain ⟨before, hbefore, hnew⟩ := run_concat_eq_some.mp hrun
  cases hnew
  obtain ⟨before', hbefore', hcalls⟩ := Option.map_eq_some_iff.mp run_amyTwice
  cases hbefore.symm.trans hbefore'
  obtain ⟨before', hbefore', hsessions⟩ := Option.map_eq_some_iff.mp hsession
  cases hbefore.symm.trans hbefore'
  -- the registration is the call that has issued the tokens
  have hissuer : AccountCall.registerLocalAccount (amyRegistered (js "Secret")) (.returned
      secondToken (buildRefreshSessionResponse plainTokens plainTokenEnv secondAmy (digitId 3) 8)) ∈
        before.calls ++ [.signIn (.refreshAccessToken secondToken .start)] := by
    rw [hcalls]
    exact List.mem_cons_of_mem _ List.mem_cons_self
  have hfor : TokensFor localSignIn secondAmy secondSession secondToken :=
    ⟨rfl, ⟨js "jti", rfl⟩, rfl, rfl⟩
  -- both registrations spare the session, and so does the refresh
  have hlive : Live localSignIn secondSession
      ⟨before.db, before.calls ++ [.signIn (.refreshAccessToken secondToken .start)]⟩ := by
    refine ⟨⟨secondSession, ?_, rfl, rfl, rfl⟩, fun call hcall => ?_⟩
    · show before.db.auth.refreshSessions.find? _ = _
      rw [hsessions]
      rfl
    · rw [hcalls] at hcall
      rcases List.mem_append.mp hcall with hold | hnew
      · rcases List.mem_cons.mp hold with rfl | hold
        · trivial
        · rw [List.mem_singleton.mp hold]
          trivial
      · rw [List.mem_singleton.mp hnew]
        trivial
  have hcall : (before.calls ++ [.signIn (.refreshAccessToken secondToken .start)])[2]? =
      some (.signIn (.refreshAccessToken secondToken .start)) := by
    rw [hcalls]
    rfl
  -- the steps come within the seven days of the session
  have hwithin : ∀ event ∈ refreshSteps, WithinLife localSignIn secondSession event := by
    intro event hevent
    obtain ⟨t, ht, rfl⟩ := List.mem_map.mp hevent
    have htime : ∀ t : Nat, t < 5 → (500 + t) / 1000 < 8 / 1000 + 604800 := fun t _ => by omega
    exact htime t (List.mem_range.mp ht)
  obtain ⟨hlive', call', hcall', hrefuses, huser⟩ := liveSession_letsIn tokensVerify_localSignIn
    hrun hissuer rfl hfor hlive hcall (.inl rfl) hwithin hlater
  rw [hcall', Option.map_some] at hlets
  exact ⟨_, system', hrun, hlater, hlive', call', hcall', Option.some.inj hlets, hrefuses, huser⟩

end ChatSC.Spec
