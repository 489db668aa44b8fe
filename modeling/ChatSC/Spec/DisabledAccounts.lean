import ChatSC.Backend.SignIn
import ChatSC.Spec.GroupMembership
import ChatSC.Spec.SessionRevocation

/-!
# Disabled accounts

An account whose status is not `'active'` is to be locked out on every way in.  Only
`loginLocalAccount` looks at the status: `LooksPast` says when one of the other calls lets the user
in, by what that call does check, and `lockedOut_iff` that these are all the cases.
-/

namespace ChatSC.Spec

open Backend Collection JsString Transition

/-- Ids and addresses of the users are unique. -/
structure UniqueUsers (db : AuthDb) : Prop where
  ids : (db.users.map User.id).Nodup
  emails : (db.users.map User.email).Nodup

/-- The call is for the user: it has the user's address, or a token of the user. -/
def IsCallOf (env : SignInEnv) (user : User) : SignInCall → Prop
  | .loginLocalAccount payload _ => normalizeEmail env.toLowerCase payload.email = user.email
  | .googleLogin payload _ => normalizeEmail env.toLowerCase payload.email = user.email
  | .refreshAccessToken refreshToken _ => ∀ now payload,
      env.tokens.verifyRefreshToken refreshToken now = .ok payload → payload.sub = user.id.toString
  | .authenticateAccessToken token _ => ∀ now payload,
      env.tokens.verifyAccessToken token now = some payload → payload.sub = user.id.toString

/-- The call has refused, and there is no session that was not there before. -/
def LockedOut (before db : SignInDb) (call : SignInCall) : Prop :=
  call.refuses = true ∧ db.auth.refreshSessions.map RefreshSession.id =
    before.auth.refreshSessions.map RefreshSession.id

/-! ## What the calls check -/

/-- A refresh token that verifies, of a stored session that is neither revoked nor over. -/
def RefreshPasses (env : SignInEnv) (db : AuthDb) (refreshToken : JsString) :
    List SignInInput → Prop
  | verifying :: loading :: _ => ∃ payload sid session,
      env.tokens.verifyRefreshToken refreshToken verifying.auth.now = .ok payload ∧
      ObjectId.ofString? payload.sid = some sid ∧ db.findSession sid = some session ∧
      session.tokenHash = env.tokens.hashToken refreshToken ∧
      ¬ (session.revokedAt.isSome ∨ session.status = .revoked) ∧
      ¬ session.expiresAt ≤ loading.auth.now
  | _ => False

/-- An access token that verifies, of a stored session that is active and not over. -/
def AccessPasses (env : SignInEnv) (db : AuthDb) (token : JsString) : List SignInInput → Prop
  | verifying :: loading :: _ => ∃ payload sid session,
      env.tokens.verifyAccessToken token verifying.auth.now = some payload ∧
      ObjectId.ofString? payload.sid = some sid ∧ db.findSession sid = some session ∧
      ¬ (session.status ≠ .active ∨ session.revokedAt.isSome) ∧
      ¬ session.expiresAt ≤ loading.auth.now
  | _ => False

/-- The user as `save` gets it has a name, and no `googleId` of somebody else. -/
def CanSave (db : SignInDb) (document : LoadedUser) : Prop :=
  document.current.displayName ≠ [] ∧ ¬ document.takesGoogleId db

/-- The user can be saved with what Google says. -/
def GooglePasses (db : SignInDb) (user : User) (payload : GoogleAuthUser) : Prop :=
  CanSave db ⟨user, payload.update user⟩

/-- Where the call does not look at the status of the user, what it checks is met. -/
def LooksPast (env : SignInEnv) (db : SignInDb) (user : User) (inputs : List SignInInput) :
    SignInCall → Prop
  | .loginLocalAccount _ _ => False
  | .googleLogin payload _ => GooglePasses db user payload
  | .refreshAccessToken refreshToken _ => RefreshPasses env db.auth refreshToken inputs
  | .authenticateAccessToken token _ => AccessPasses env db.auth token inputs

section Lookups

variable {db : AuthDb} {user : User}

theorem UniqueUsers.findByEmail {db : SignInDb} (husers : UniqueUsers db.auth)
    (hmem : user ∈ db.auth.users) : db.findByEmail user.email = some user :=
  find?_key_of_mem husers.emails hmem

theorem UniqueUsers.findUser (husers : UniqueUsers db) (hmem : user ∈ db.users) :
    db.findUser user.id = some (toSessionUser user) := by
  rw [AuthDb.findUser, find?_key_of_mem husers.ids hmem]
  rfl

end Lookups

/-! ## Local login -/

section Calls

variable {env : SignInEnv} {before : SignInDb} {user : User} {input : SignInInput}

/-- A local login of a disabled account has not come behind the check of the status. -/
def LoginStopped (before : SignInDb) (user : User) (state : SignInDb × LoginPc) : Prop :=
  state.1.auth = before.auth ∧
    match state.2 with
    | .start | .rejecting _ _ | .threw _ => True
    | .recordingStarted email | .findingUser email => email = user.email
    | _ => False

theorem LoginStopped.step {payload : LoginLocalAuthDto} {state state' : SignInDb × LoginPc}
    (husers : UniqueUsers before.auth) (hmem : user ∈ before.auth.users)
    (hdisabled : user.status ≠ js "active")
    (hof : normalizeEmail env.toLowerCase payload.email = user.email)
    (hstopped : LoginStopped before user state)
    (h : loginStep env payload state.1 input state.2 = some state') :
    LoginStopped before user state' := by
  obtain ⟨db, pc⟩ := state
  obtain ⟨hauth, hpc⟩ := hstopped
  cases pc with
  | start =>
    simp only [loginStep] at h
    split at h
    · cases h
      exact ⟨hauth, hof⟩
    · cases h
      exact ⟨hauth, trivial⟩
  | recordingStarted email =>
    cases h
    exact ⟨hauth, hpc⟩
  | findingUser email =>
    cases h
    obtain rfl : email = user.email := hpc
    have hfound : db.findByEmail user.email = some user := by
      rw [SignInDb.findByEmail, show db.auth = before.auth from hauth]
      exact husers.findByEmail hmem
    -- the status is what stops the login
    refine ⟨hauth, ?_⟩
    show match checkLoginUser user.email (db.findByEmail user.email) with
      | .start | .rejecting _ _ | .threw _ => True
      | .recordingStarted email | .findingUser email => email = user.email
      | _ => False
    rw [hfound, checkLoginUser, if_pos hdisabled]
    trivial
  | rejecting attempt error =>
    cases h
    exact ⟨hauth, trivial⟩
  | threw error => cases h
  | hashing email found expected => exact hpc.elim
  | issuing email found pc => exact hpc.elim
  | recordingSucceeded email found session refreshToken response => exact hpc.elim
  | returned refreshToken response => exact hpc.elim

/-! ## Google login -/

/-- How far a call of `issueTokenPair` for a user that is stored has come. -/
def Issuing : IssuePc → Prop
  | .start | .saving _ _ | .recording _ _ => True
  | .returned _ _ | .threw _ => False

/-- A Google login has found the user, and what becomes of it is what `save` makes of it. -/
def GoogleFound (before : SignInDb) (user : User) (payload : GoogleAuthUser)
    (state : SignInDb × GooglePc) : Prop :=
  match state.2 with
  | .start => state.1 = before
  | .savingUser document => state.1 = before ∧ document = ⟨user, payload.update user⟩
  | .issuing session pc => GooglePasses before user payload ∧ session.id = user.id.toString ∧
      Issuing pc
  | .returned _ _ => GooglePasses before user payload
  | .threw _ => state.1 = before ∧ ¬ GooglePasses before user payload
  | .resolvingUsername _ _ | .creatingUser _ _ => False

/-- What `save` checks. -/
theorem canSave_of_ok {document : LoadedUser} {saved : SignInDb}
    (h : document.save before = .ok saved) : CanSave before document := by
  unfold LoadedUser.save at h
  split at h
  · cases h
  · rename_i hname
    split at h
    · cases h
    · rename_i htaken
      exact ⟨hname, htaken⟩

/-- What makes `save` refuse. -/
theorem not_canSave_of_error {document : LoadedUser} {error : SignInError}
    (h : document.save before = .error error) : ¬ CanSave before document := by
  rintro ⟨hname, htaken⟩
  rw [LoadedUser.save, if_neg hname, if_neg htaken] at h
  cases h

/-- A session that is issued for a user with an id goes on to be returned. -/
theorem Issuing.step {db auth : AuthDb} {session : SessionUser} {createdBy : String}
    {pc pc' : IssuePc} {input : AuthInput} (hpc : Issuing pc) (hid : session.id = user.id.toString)
    (h : issueStep env.tokens env.token session createdBy db input pc = some (auth, pc')) :
    Issuing pc' ∨ ∃ refreshToken response, pc' = .returned refreshToken response := by
  cases pc with
  | start =>
    simp only [issueStep, hid, ObjectId.ofString?_toString] at h
    cases h
    -- an id that is written out is read back, so the first check is passed
    exact .inl trivial
  | saving session refreshToken =>
    simp only [issueStep] at h
    split at h
    · -- an id or a hash that is taken already is no step
      cases h
    · cases h
      exact .inl trivial
  | recording session refreshToken =>
    cases h
    exact .inr ⟨_, _, rfl⟩
  | returned refreshToken response => exact hpc.elim
  | threw error => exact hpc.elim

theorem GoogleFound.step {payload : GoogleAuthUser} {state state' : SignInDb × GooglePc}
    (husers : UniqueUsers before.auth) (hmem : user ∈ before.auth.users)
    (hof : normalizeEmail env.toLowerCase payload.email = user.email)
    (hfound : GoogleFound before user payload state)
    (h : googleStep env payload state.1 input state.2 = some state') :
    GoogleFound before user payload state' := by
  obtain ⟨db, pc⟩ := state
  cases pc with
  | start =>
    obtain rfl : db = before := hfound
    -- the address finds the user, so none is created
    simp only [googleStep, hof, husers.findByEmail hmem] at h
    cases h
    exact ⟨rfl, rfl⟩
  | savingUser document =>
    obtain ⟨hdb, hdocument⟩ : db = before ∧ document = ⟨user, payload.update user⟩ := hfound
    subst hdb hdocument
    simp only [googleStep] at h
    split at h
    · rename_i error herror
      cases h
      exact ⟨rfl, not_canSave_of_error herror⟩
    · rename_i saved hsaved
      cases h
      exact ⟨canSave_of_ok hsaved, rfl, trivial⟩
  | issuing session pc =>
    obtain ⟨hpasses, hid, hpc⟩ := hfound
    obtain ⟨⟨auth, pc'⟩, hissue, rfl⟩ := Option.map_eq_some_iff.mp h
    -- once `save` has let the user through, nothing stops the tokens
    rcases hpc.step hid hissue with hpc' | ⟨refreshToken, response, rfl⟩
    · cases pc' with
      | returned refreshToken response => exact hpc'.elim
      | threw error => exact hpc'.elim
      | _ => exact ⟨hpasses, hid, trivial⟩
    · exact hpasses
  | returned refreshToken response => cases h
  | threw error => cases h
  | resolvingUsername email suffix => exact hfound.elim
  | creatingUser email username => exact hfound.elim

end Calls

/-! ## Refresh tokens -/

/-- The sessions by their ids. -/
def sessionIds (db : AuthDb) : List ObjectId := db.refreshSessions.map RefreshSession.id

theorem sessionIds_save (document : LoadedSession) (db : AuthDb) :
    sessionIds (document.save db) = sessionIds db :=
  map_updateOne fun _ => rfl

/-- What is asked of a session that is found. -/
theorem exists_session_iff {db : AuthDb} {s : JsString} {sid : ObjectId} {session : RefreshSession}
    {P : RefreshSession → Prop} (hsid : ObjectId.ofString? s = some sid)
    (hfound : db.findSession sid = some session) :
    (∃ sid session, ObjectId.ofString? s = some sid ∧ db.findSession sid = some session ∧
      P session) ↔ P session := by
  constructor
  · rintro ⟨sid', session', hsid', hfound', hP⟩
    cases hsid.symm.trans hsid'
    cases hfound.symm.trans hfound'
    exact hP
  · exact fun hP => ⟨sid, session, hsid, hfound, hP⟩

/-- No session is found. -/
theorem not_exists_session {db : AuthDb} {s : JsString} {P : RefreshSession → Prop}
    (hnone : ∀ sid, ObjectId.ofString? s = some sid → db.findSession sid = none) :
    ¬ ∃ sid session, ObjectId.ofString? s = some sid ∧ db.findSession sid = some session ∧
      P session := by
  rintro ⟨sid, session, hsid, hfound, -⟩
  cases (hnone sid hsid).symm.trans hfound

section Tokens

variable {env : SignInEnv} {before : AuthDb} {user : User} {input : SignInInput}

/-- `refreshAccessToken` by itself. -/
def refreshAlone (env : SignInEnv) (refreshToken : JsString) (state : AuthDb × RefreshPc)
    (input : SignInInput) : Option (AuthDb × RefreshPc) :=
  refreshStep env.tokens env.token refreshToken state.1 input.auth state.2

/-- The refresh has refused or is about to. -/
def RefreshRefused (before : AuthDb) (state : AuthDb × RefreshPc) : Prop :=
  sessionIds state.1 = sessionIds before ∧
    match state.2 with
    | .savingExpired _ _ | .rejecting _ _ | .threw _ => True
    | _ => False

/-- The refresh has come behind the checks of the session. -/
def RefreshAdmitted (before : AuthDb) (user : User) (state : AuthDb × RefreshPc) : Prop :=
  match state.2 with
  | .findingUser payload _ _ => state.1 = before ∧ payload.sub = user.id.toString
  | .savingUsed _ _ | .recording _ _ | .returned _ => True
  | _ => False

theorem RefreshRefused.step {refreshToken : JsString} {state state' : AuthDb × RefreshPc}
    (hrefused : RefreshRefused before state)
    (h : refreshAlone env refreshToken state input = some state') :
    RefreshRefused before state' := by
  obtain ⟨db, pc⟩ := state
  obtain ⟨hids, hpc⟩ := hrefused
  cases pc with
  | savingExpired payload document =>
    cases h
    exact ⟨(sessionIds_save document db).trans hids, trivial⟩
  | rejecting attempt error =>
    cases h
    exact ⟨hids, trivial⟩
  | threw error => cases h
  | _ => exact hpc.elim

theorem RefreshAdmitted.step {refreshToken : JsString} {state state' : AuthDb × RefreshPc}
    (husers : UniqueUsers before) (hmem : user ∈ before.users)
    (hadmitted : RefreshAdmitted before user state)
    (h : refreshAlone env refreshToken state input = some state') :
    RefreshAdmitted before user state' := by
  obtain ⟨db, pc⟩ := state
  cases pc with
  | findingUser payload document now =>
    -- nothing has been written yet, and the token names the user
    obtain ⟨rfl, hsub⟩ : db = before ∧ payload.sub = user.id.toString := hadmitted
    -- he is found under his own id; his status is not looked at
    simp only [refreshAlone, refreshStep, hsub, ObjectId.ofString?_toString,
      husers.findUser hmem] at h
    cases h
    trivial
  | savingUsed document session =>
    cases h
    trivial
  -- only the last attempt is noted
  | recording session found =>
    cases h
    trivial
  | returned response => cases h
  | _ => exact hadmitted.elim

/-- The checks of a session that is found. -/
theorem checkSession_admits (before : AuthDb) {refreshToken : JsString}
    {payload : RefreshTokenPayload} {session : RefreshSession} {now : Date}
    (hsub : payload.sub = user.id.toString) :
    (RefreshAdmitted before user (before, checkSession env.tokens refreshToken payload session now) ∧
        session.tokenHash = env.tokens.hashToken refreshToken ∧
        ¬ (session.revokedAt.isSome ∨ session.status = .revoked) ∧ ¬ session.expiresAt ≤ now) ∨
      (RefreshRefused before (before, checkSession env.tokens refreshToken payload session now) ∧
        ¬ (session.tokenHash = env.tokens.hashToken refreshToken ∧
          ¬ (session.revokedAt.isSome ∨ session.status = .revoked) ∧ ¬ session.expiresAt ≤ now)) := by
  unfold checkSession
  -- the checks stand in the order of the source: hash, then revocation, then expiry
  split
  · rename_i hhash
    exact .inr ⟨⟨rfl, trivial⟩, fun h => hhash h.1⟩
  · rename_i hhash
    split
    · rename_i hrevoked
      exact .inr ⟨⟨rfl, trivial⟩, fun h => h.2.1 hrevoked⟩
    · rename_i hrevoked
      split
      · rename_i hexpired
        exact .inr ⟨⟨rfl, trivial⟩, fun h => h.2.2 hexpired⟩
      · rename_i hexpired
        exact .inl ⟨⟨rfl, hsub⟩, not_not.mp hhash, hrevoked, hexpired⟩

/-- What is checked of the session that a refresh token names. -/
def RefreshSessionPasses (env : SignInEnv) (db : AuthDb) (refreshToken : JsString)
    (payload : RefreshTokenPayload) (now : Date) : Prop :=
  ∃ sid session, ObjectId.ofString? payload.sid = some sid ∧ db.findSession sid = some session ∧
    session.tokenHash = env.tokens.hashToken refreshToken ∧
    ¬ (session.revokedAt.isSome ∨ session.status = .revoked) ∧ ¬ session.expiresAt ≤ now

theorem refreshPasses_iff {refreshToken : JsString} {payload : RefreshTokenPayload}
    {verifying loading : SignInInput} {rest : List SignInInput}
    (hpayload : env.tokens.verifyRefreshToken refreshToken verifying.auth.now = .ok payload) :
    RefreshPasses env before refreshToken (verifying :: loading :: rest) ↔
      RefreshSessionPasses env before refreshToken payload loading.auth.now := by
  constructor
  · rintro ⟨payload', sid, session, hok, hpasses⟩
    cases hpayload.symm.trans hok
    exact ⟨sid, session, hpasses⟩
  · rintro ⟨sid, session, hpasses⟩
    exact ⟨payload, sid, session, hpayload, hpasses⟩

/-- The session decides. -/
theorem refresh_loading {refreshToken : JsString} {payload : RefreshTokenPayload}
    {state : AuthDb × RefreshPc} (hsub : payload.sub = user.id.toString)
    (h : refreshAlone env refreshToken (before, .loading payload) input = some state) :
    (RefreshAdmitted before user state ∧
        RefreshSessionPasses env before refreshToken payload input.auth.now) ∨
      (RefreshRefused before state ∧
        ¬ RefreshSessionPasses env before refreshToken payload input.auth.now) := by
  simp only [refreshAlone, refreshStep] at h
  split at h
  · rename_i hsid
    cases h
    refine .inr ⟨⟨rfl, trivial⟩, not_exists_session fun sid hsid' => ?_⟩
    cases hsid.symm.trans hsid'
  · rename_i sid hsid
    split at h
    · rename_i hnone
      cases h
      refine .inr ⟨⟨rfl, trivial⟩, not_exists_session fun sid' hsid' => ?_⟩
      cases hsid.symm.trans hsid'
      exact hnone
    · rename_i session hfound
      cases h
      -- the session is there: what it says decides
      rcases checkSession_admits before hsub with ⟨hin, hchecks⟩ | ⟨hout, hchecks⟩
      · exact .inl ⟨hin, sid, session, hsid, hfound, hchecks⟩
      · exact .inr ⟨hout, fun h => hchecks ((exists_session_iff hsid hfound).mp h)⟩

/-- The token decides first. -/
theorem refresh_verifying {refreshToken : JsString} {state : AuthDb × RefreshPc}
    (h : refreshAlone env refreshToken (before, .start) input = some state) :
    (∃ payload, env.tokens.verifyRefreshToken refreshToken input.auth.now = .ok payload ∧
        state = (before, .loading payload)) ∨
      RefreshRefused before state ∧
        ∀ rest, ¬ RefreshPasses env before refreshToken (input :: rest) := by
  simp only [refreshAlone, refreshStep] at h
  split at h
  · rename_i error herror
    cases h
    refine .inr ⟨⟨rfl, trivial⟩, fun rest => ?_⟩
    cases rest with
    | nil => exact id
    | cons loading rest =>
      rintro ⟨payload, sid, session, hok, -⟩
      cases herror.symm.trans hok
  · rename_i payload hpayload
    cases h
    exact .inl ⟨payload, hpayload, rfl⟩

/-- What has become of a refresh with a token of the user. -/
theorem refresh_of_run {refreshToken : JsString} {inputs : List SignInInput}
    {state : AuthDb × RefreshPc} (husers : UniqueUsers before) (hmem : user ∈ before.users)
    (hof : ∀ now payload, env.tokens.verifyRefreshToken refreshToken now = .ok payload →
      payload.sub = user.id.toString)
    (hrun : run (refreshAlone env refreshToken) (before, .start) inputs = some state) :
    state.2 = .start ∨ (∃ payload, state.2 = .loading payload) ∨
      (RefreshAdmitted before user state ∧ RefreshPasses env before refreshToken inputs) ∨
      (RefreshRefused before state ∧ ¬ RefreshPasses env before refreshToken inputs) := by
  -- a run decides with its second step: the first checks the token, the second the session
  have hsecond : ∀ (verifying : SignInInput) (state' : AuthDb × RefreshPc) (loading : SignInInput)
      (state'' : AuthDb × RefreshPc),
      (∃ payload, env.tokens.verifyRefreshToken refreshToken verifying.auth.now = .ok payload ∧
        state' = (before, .loading payload)) →
      refreshAlone env refreshToken state' loading = some state'' →
      (RefreshAdmitted before user state'' ∧
          ∀ rest, RefreshPasses env before refreshToken (verifying :: loading :: rest)) ∨
        (RefreshRefused before state'' ∧
          ∀ rest, ¬ RefreshPasses env before refreshToken (verifying :: loading :: rest)) := by
    rintro verifying _ loading state'' ⟨payload, hpayload, rfl⟩ hload
    simp only [refreshPasses_iff hpayload, forall_const]
    exact refresh_loading (hof verifying.auth.now payload hpayload) hload
  -- what is decided is kept by all later steps
  rcases run_decides (fun _ _ _ hin h => RefreshAdmitted.step husers hmem hin h)
    (fun _ _ _ hout h => RefreshRefused.step hout h) (fun _ _ h => refresh_verifying h) hsecond hrun
    with rfl | ⟨_, payload, -, rfl⟩ | hdecided
  · exact .inl rfl
  · exact .inr (.inl ⟨payload, rfl⟩)
  · exact .inr (.inr hdecided)

/-! ## Access tokens -/

/-- `authenticateAccessToken` by itself. -/
def accessAlone (env : SignInEnv) (token : JsString) (state : AuthDb × AuthenticatePc)
    (input : SignInInput) : Option (AuthDb × AuthenticatePc) :=
  authenticateStep env.tokens token state.1 input.auth state.2

/-- The token is refused. -/
def AccessRefused (before : AuthDb) (state : AuthDb × AuthenticatePc) : Prop :=
  state.1 = before ∧
    match state.2 with
    | .returned none | .threw _ => True
    | _ => False

/-- The token has come behind the checks of the session. -/
def AccessAdmitted (before : AuthDb) (user : User) (state : AuthDb × AuthenticatePc) : Prop :=
  state.1 = before ∧
    match state.2 with
    | .findingUser payload => payload.sub = user.id.toString
    | .returned (some _) => True
    | _ => False

theorem AccessRefused.step {token : JsString} {state state' : AuthDb × AuthenticatePc}
    (hrefused : AccessRefused before state) (h : accessAlone env token state input = some state') :
    AccessRefused before state' := by
  obtain ⟨db, pc⟩ := state
  obtain ⟨-, hpc⟩ := hrefused
  cases pc with
  | returned found => cases h
  | threw error => cases h
  | _ => exact hpc.elim

theorem AccessAdmitted.step {token : JsString} {state state' : AuthDb × AuthenticatePc}
    (husers : UniqueUsers before) (hmem : user ∈ before.users)
    (hadmitted : AccessAdmitted before user state)
    (h : accessAlone env token state input = some state') : AccessAdmitted before user state' := by
  obtain ⟨db, pc⟩ := state
  obtain ⟨hdb, hpc⟩ := hadmitted
  obtain rfl : db = before := hdb
  cases pc with
  | findingUser payload =>
    have hsub : payload.sub = user.id.toString := hpc
    simp only [accessAlone, authenticateStep, hsub, ObjectId.ofString?_toString,
      husers.findUser hmem] at h
    cases h
    exact ⟨rfl, trivial⟩
  | returned found => cases h
  | _ => exact hpc.elim

/-- What is checked of the session that an access token names. -/
def AccessSessionPasses (db : AuthDb) (payload : AccessTokenPayload) (now : Date) : Prop :=
  ∃ sid session, ObjectId.ofString? payload.sid = some sid ∧ db.findSession sid = some session ∧
    ¬ (session.status ≠ .active ∨ session.revokedAt.isSome) ∧ ¬ session.expiresAt ≤ now

theorem accessPasses_iff {token : JsString} {payload : AccessTokenPayload}
    {verifying loading : SignInInput} {rest : List SignInInput}
    (hpayload : env.tokens.verifyAccessToken token verifying.auth.now = some payload) :
    AccessPasses env before token (verifying :: loading :: rest) ↔
      AccessSessionPasses before payload loading.auth.now := by
  constructor
  · rintro ⟨payload', sid, session, hok, hpasses⟩
    cases hpayload.symm.trans hok
    exact ⟨sid, session, hpasses⟩
  · rintro ⟨sid, session, hpasses⟩
    exact ⟨payload, sid, session, hpayload, hpasses⟩

/-- The session decides. -/
theorem access_loading {token : JsString} {payload : AccessTokenPayload}
    {state : AuthDb × AuthenticatePc} (hsub : payload.sub = user.id.toString)
    (h : accessAlone env token (before, .loading payload) input = some state) :
    (AccessAdmitted before user state ∧ AccessSessionPasses before payload input.auth.now) ∨
      (AccessRefused before state ∧ ¬ AccessSessionPasses before payload input.auth.now) := by
  simp only [accessAlone, authenticateStep] at h
  split at h
  · rename_i hsid
    cases h
    refine .inr ⟨⟨rfl, trivial⟩, not_exists_session fun sid hsid' => ?_⟩
    cases hsid.symm.trans hsid'
  · rename_i sid hsid
    split at h
    · rename_i hnone
      cases h
      refine .inr ⟨⟨rfl, trivial⟩, not_exists_session fun sid' hsid' => ?_⟩
      cases hsid.symm.trans hsid'
      exact hnone
    · rename_i session hfound
      -- what is refused of the session that is found
      have hpasses : AccessSessionPasses before payload input.auth.now ↔
          ¬ (session.status ≠ .active ∨ session.revokedAt.isSome) ∧
            ¬ session.expiresAt ≤ input.auth.now := exists_session_iff hsid hfound
      split at h
      · rename_i hended
        cases h
        exact .inr ⟨⟨rfl, trivial⟩, fun h => (hpasses.mp h).1 hended⟩
      · rename_i hactive
        split at h
        · rename_i hexpired
          cases h
          exact .inr ⟨⟨rfl, trivial⟩, fun h => (hpasses.mp h).2 hexpired⟩
        · rename_i hvalid
          cases h
          exact .inl ⟨⟨rfl, hsub⟩, hpasses.mpr ⟨hactive, hvalid⟩⟩

/-- The token decides first. -/
theorem access_verifying {token : JsString} {state : AuthDb × AuthenticatePc}
    (h : accessAlone env token (before, .start) input = some state) :
    (∃ payload, env.tokens.verifyAccessToken token input.auth.now = some payload ∧
        state = (before, .loading payload)) ∨
      AccessRefused before state ∧ ∀ rest, ¬ AccessPasses env before token (input :: rest) := by
  simp only [accessAlone, authenticateStep] at h
  split at h
  · rename_i hnone
    cases h
    refine .inr ⟨⟨rfl, trivial⟩, fun rest => ?_⟩
    cases rest with
    | nil => exact id
    | cons loading rest =>
      rintro ⟨payload, sid, session, hok, -⟩
      cases hnone.symm.trans hok
  · rename_i payload hpayload
    cases h
    exact .inl ⟨payload, hpayload, rfl⟩

/-- What has become of a call with an access token of the user. -/
theorem access_of_run {token : JsString} {inputs : List SignInInput}
    {state : AuthDb × AuthenticatePc} (husers : UniqueUsers before) (hmem : user ∈ before.users)
    (hof : ∀ now payload, env.tokens.verifyAccessToken token now = some payload →
      payload.sub = user.id.toString)
    (hrun : run (accessAlone env token) (before, .start) inputs = some state) :
    state.2 = .start ∨ (∃ payload, state.2 = .loading payload) ∨
      (AccessAdmitted before user state ∧ AccessPasses env before token inputs) ∨
      (AccessRefused before state ∧ ¬ AccessPasses env before token inputs) := by
  -- as for the refresh: the token decides first, the loaded session second
  have hsecond : ∀ (verifying : SignInInput) (state' : AuthDb × AuthenticatePc)
      (loading : SignInInput) (state'' : AuthDb × AuthenticatePc),
      (∃ payload, env.tokens.verifyAccessToken token verifying.auth.now = some payload ∧
        state' = (before, .loading payload)) →
      accessAlone env token state' loading = some state'' →
      (AccessAdmitted before user state'' ∧
          ∀ rest, AccessPasses env before token (verifying :: loading :: rest)) ∨
        (AccessRefused before state'' ∧
          ∀ rest, ¬ AccessPasses env before token (verifying :: loading :: rest)) := by
    rintro verifying _ loading state'' ⟨payload, hpayload, rfl⟩ hload
    simp only [accessPasses_iff hpayload, forall_const]
    exact access_loading (hof verifying.auth.now payload hpayload) hload
  rcases run_decides (fun _ _ _ hin h => AccessAdmitted.step husers hmem hin h)
    (fun _ _ _ hout h => AccessRefused.step hout h) (fun _ _ h => access_verifying h) hsecond hrun
    with rfl | ⟨_, payload, -, rfl⟩ | hdecided
  · exact .inl rfl
  · exact .inr (.inl ⟨payload, rfl⟩)
  · exact .inr (.inr hdecided)

end Tokens

/-! ## Every way in -/

section Ways

variable {env : SignInEnv} {before db : SignInDb} {user : User} {call' : SignInCall}
  {inputs : List SignInInput}

/-- A login in the system of all calls. -/
def ofLogin (payload : LoginLocalAuthDto) (state : SignInDb × LoginPc) : SignInDb × SignInCall :=
  (state.1, .loginLocalAccount payload state.2)

def ofGoogle (payload : GoogleAuthUser) (state : SignInDb × GooglePc) : SignInDb × SignInCall :=
  (state.1, .googleLogin payload state.2)

def ofRefresh (before : SignInDb) (refreshToken : JsString) (state : AuthDb × RefreshPc) :
    SignInDb × SignInCall :=
  ({ before with auth := state.1 }, .refreshAccessToken refreshToken state.2)

def ofAccess (before : SignInDb) (token : JsString) (state : AuthDb × AuthenticatePc) :
    SignInDb × SignInCall :=
  ({ before with auth := state.1 }, .authenticateAccessToken token state.2)

theorem lockedOut_login {payload : LoginLocalAuthDto} (husers : UniqueUsers before.auth)
    (hmem : user ∈ before.auth.users) (hdisabled : user.status ≠ js "active")
    (hof : normalizeEmail env.toLowerCase payload.email = user.email)
    (hrun : run (signInStep env) (before, .loginLocalAccount payload .start) inputs =
      some (db, call'))
    (hended : call'.refuses = true ∨ call'.letsIn = true) : LockedOut before db call' := by
  -- the run is one of the login alone, with the rest of the database carried along
  have hmap : run (signInStep env) (ofLogin payload (before, .start)) inputs =
      (run (fun state input => loginStep env payload state.1 input state.2) (before, .start)
        inputs).map (ofLogin payload) :=
    run_map (fun _ _ => rfl) (before, LoginPc.start) inputs
  obtain ⟨state, hstate, heq⟩ := Option.map_eq_some_iff.mp (hmap.symm.trans hrun)
  have hstart : LoginStopped before user (before, .start) := ⟨rfl, trivial⟩
  obtain ⟨hauth, hpc⟩ := run_invariant
    (fun _ _ _ hinv h => LoginStopped.step husers hmem hdisabled hof hinv h) hstart hstate
  -- the status is checked before anything is written, so only a refusal can have ended the call
  obtain ⟨db', pc⟩ := state
  cases heq
  cases pc with
  | threw error =>
    refine ⟨rfl, ?_⟩
    rw [show db'.auth = before.auth from hauth]
  | returned refreshToken response => exact hpc.elim
  | _ => rcases hended with h | h <;> cases h

theorem lockedOut_google {payload : GoogleAuthUser} (husers : UniqueUsers before.auth)
    (hmem : user ∈ before.auth.users)
    (hof : normalizeEmail env.toLowerCase payload.email = user.email)
    (hrun : run (signInStep env) (before, .googleLogin payload .start) inputs = some (db, call'))
    (hended : call'.refuses = true ∨ call'.letsIn = true) :
    LockedOut before db call' ↔ ¬ GooglePasses before user payload := by
  have hmap : run (signInStep env) (ofGoogle payload (before, .start)) inputs =
      (run (fun state input => googleStep env payload state.1 input state.2) (before, .start)
        inputs).map (ofGoogle payload) :=
    run_map (fun _ _ => rfl) (before, GooglePc.start) inputs
  obtain ⟨state, hstate, heq⟩ := Option.map_eq_some_iff.mp (hmap.symm.trans hrun)
  have hstart : GoogleFound before user payload (before, .start) := rfl
  have hfound := run_invariant
    (fun _ _ _ hinv h => GoogleFound.step husers hmem hof hinv h) hstart hstate
  -- here the status is no check: the profile decides
  obtain ⟨db', pc⟩ := state
  cases heq
  cases pc with
  | threw error =>
    obtain ⟨rfl, hfails⟩ : db' = before ∧ ¬ GooglePasses before user payload := hfound
    exact ⟨fun _ => hfails, fun _ => ⟨rfl, rfl⟩⟩
  | returned refreshToken response =>
    refine ⟨fun h => ?_, fun h => absurd hfound h⟩
    cases h.1
  -- a call under way neither lets in nor refuses
  | _ => rcases hended with h | h <;> cases h

theorem lockedOut_refresh {refreshToken : JsString} (husers : UniqueUsers before.auth)
    (hmem : user ∈ before.auth.users)
    (hof : ∀ now payload, env.tokens.verifyRefreshToken refreshToken now = .ok payload →
      payload.sub = user.id.toString)
    (hrun : run (signInStep env) (before, .refreshAccessToken refreshToken .start) inputs =
      some (db, call'))
    (hended : call'.refuses = true ∨ call'.letsIn = true) :
    LockedOut before db call' ↔ ¬ RefreshPasses env before.auth refreshToken inputs := by
  have hmap : run (signInStep env) (ofRefresh before refreshToken (before.auth, .start)) inputs =
      (run (refreshAlone env refreshToken) (before.auth, .start) inputs).map
        (ofRefresh before refreshToken) := by
    refine run_map (fun state input => ?_) (before.auth, RefreshPc.start) inputs
    simp only [signInStep, ofRefresh, refreshAlone]
    rfl
  obtain ⟨state, hstate, heq⟩ := Option.map_eq_some_iff.mp (hmap.symm.trans hrun)
  have hcases := refresh_of_run husers hmem hof hstate
  obtain ⟨auth, pc⟩ := state
  cases heq
  -- a call that has ended is neither at its start nor in between
  rcases hcases with hpc | ⟨payload, hpc⟩ | ⟨hadmitted, hpasses⟩ | ⟨⟨hids, hpc⟩, hfails⟩
  · obtain rfl : pc = .start := hpc
    rcases hended with h | h <;> cases h
  · obtain rfl : pc = .loading payload := hpc
    rcases hended with h | h <;> cases h
  · refine ⟨fun h => ?_, fun h => absurd hpasses h⟩
    cases pc with
    | threw error => exact hadmitted.elim
    | _ => cases h.1
  · refine ⟨fun _ => hfails, fun _ => ⟨?_, hids⟩⟩
    cases pc with
    | threw error => rfl
    | returned response => exact hpc.elim
    | _ => rcases hended with h | h <;> cases h

theorem lockedOut_access {token : JsString} (husers : UniqueUsers before.auth)
    (hmem : user ∈ before.auth.users)
    (hof : ∀ now payload, env.tokens.verifyAccessToken token now = some payload →
      payload.sub = user.id.toString)
    (hrun : run (signInStep env) (before, .authenticateAccessToken token .start) inputs =
      some (db, call'))
    (hended : call'.refuses = true ∨ call'.letsIn = true) :
    LockedOut before db call' ↔ ¬ AccessPasses env before.auth token inputs := by
  have hmap : run (signInStep env) (ofAccess before token (before.auth, .start)) inputs =
      (run (accessAlone env token) (before.auth, .start) inputs).map (ofAccess before token) := by
    refine run_map (fun state input => ?_) (before.auth, AuthenticatePc.start) inputs
    simp only [signInStep, ofAccess, accessAlone]
    rfl
  obtain ⟨state, hstate, heq⟩ := Option.map_eq_some_iff.mp (hmap.symm.trans hrun)
  have hcases := access_of_run husers hmem hof hstate
  obtain ⟨auth, pc⟩ := state
  cases heq
  -- a call that has ended is neither at its start nor in between
  rcases hcases with hpc | ⟨payload, hpc⟩ | ⟨⟨-, hpc⟩, hpasses⟩ | ⟨⟨hdb, hpc⟩, hfails⟩
  · obtain rfl : pc = .start := hpc
    rcases hended with h | h <;> cases h
  · obtain rfl : pc = .loading payload := hpc
    rcases hended with h | h <;> cases h
  · refine ⟨fun h => ?_, fun h => absurd hpasses h⟩
    cases pc with
    | threw error => exact hpc.elim
    -- `null` is a refusal, a session user is not
    | returned found =>
      cases found with
      | none => exact hpc.elim
      | some found => cases h.1
    | _ => cases h.1
  · obtain rfl : auth = before.auth := hdb
    refine ⟨fun _ => hfails, fun _ => ⟨?_, rfl⟩⟩
    cases pc with
    | threw error => rfl
    | returned found =>
      cases found with
      | none => rfl
      | some found => exact hpc.elim
    | _ => exact hpc.elim

end Ways

/-- **A disabled account is locked out exactly where no other check is met**: always by
    `loginLocalAccount`, and by the other calls only when the Google profile cannot be saved, or when
    the token or its session is refused anyway. -/
theorem lockedOut_iff {env : SignInEnv} {before db : SignInDb} {user : User}
    {call call' : SignInCall} {inputs : List SignInInput} (husers : UniqueUsers before.auth)
    (hmem : user ∈ before.auth.users) (hdisabled : user.status ≠ js "active")
    (hstart : call.isStart = true) (hof : IsCallOf env user call)
    (hrun : run (signInStep env) (before, call) inputs = some (db, call'))
    (hended : call'.refuses = true ∨ call'.letsIn = true) :
    LockedOut before db call' ↔ ¬ LooksPast env before user inputs call := by
  cases call with
  -- the one call that looks at the status
  | loginLocalAccount payload pc =>
    obtain rfl : pc = .start := of_decide_eq_true hstart
    exact ⟨fun _ => id, fun _ => lockedOut_login husers hmem hdisabled hof hrun hended⟩
  | googleLogin payload pc =>
    -- the other three are decided by their own checks
    obtain rfl : pc = .start := of_decide_eq_true hstart
    exact lockedOut_google husers hmem hof hrun hended
  | refreshAccessToken refreshToken pc =>
    obtain rfl : pc = .start := of_decide_eq_true hstart
    exact lockedOut_refresh husers hmem hof hrun hended
  | authenticateAccessToken token pc =>
    obtain rfl : pc = .start := of_decide_eq_true hstart
    exact lockedOut_access husers hmem hof hrun hended

/-! ## A disabled user -/

/-- User 1, whose account was disabled. -/
def disabledAmy : User := { amy with status := js "disabled" }

/-- The address of `amy` is in small letters. -/
def plainSignIn : SignInEnv where
  backend := plainEnv
  authLocalEnabled := true
  token := plainTokenEnv
  tokens := plainTokens
  toLowerCase := id

/-- What a step gets at a time. -/
def signInInput (now : Date) : SignInInput where
  auth := ⟨now, digitId 3, js "jti"⟩
  newUserId := digitId 0
  exchange := ⟨[], ⟨true, [], none, none⟩, .init⟩
  processing := ⟨1⟩

/-- The session was made before the account was disabled, and revoked. -/
def disabledDb : SignInDb where
  auth :=
    { users := [disabledAmy]
      refreshSessions := [⟨digitId 3, digitId 1, amyToken, 0, 604800000, none, some 500, .revoked,
        "google-login"⟩]
      authAttempts := [] }
  signInAttempts := []

/-- The refresh token of a revoked session does not let the user in. -/
theorem lockedOut_iff_revoked : ∃ db call',
    run (signInStep plainSignIn) (disabledDb, .refreshAccessToken amyToken .start)
      [signInInput 1000, signInInput 1001, signInInput 1002] = some (db, call') ∧
      LockedOut disabledDb db call' := by
  have hof : IsCallOf plainSignIn disabledAmy (.refreshAccessToken amyToken .start) := by
    intro now payload h
    have hpayload : plainTokens.verifyRefreshToken amyToken now =
        .ok ⟨(digitId 1).toString, (digitId 3).toString, js "jti"⟩ := by
      show plainTokens.verifyRefreshToken amyToken 0 = _
      decide +kernel
    cases hpayload.symm.trans h
    rfl
  have husers : UniqueUsers disabledDb.auth := ⟨by decide, by decide⟩
  have hfails : ¬ LooksPast plainSignIn disabledDb disabledAmy
      [signInInput 1000, signInInput 1001, signInInput 1002]
      (.refreshAccessToken amyToken .start) := by
    rintro ⟨payload, sid, session, -, -, hfound, -, hrevoked, -⟩
    -- there is only this session
    obtain rfl := List.mem_singleton.mp (List.mem_of_find?_eq_some hfound)
    exact hrevoked (.inl rfl)
  exact ⟨_, _, rfl, (lockedOut_iff husers List.mem_cons_self (by decide) rfl hof rfl (.inl rfl)).mpr
    hfails⟩

/-- The Google login of a disabled account gives it a new session and its tokens. -/
theorem disabled_account_let_in : ∃ db call',
    run (signInStep plainSignIn)
      (⟨⟨[disabledAmy], [], []⟩, []⟩, .googleLogin ⟨js "g1", js "amy@mail", js "Amy", none⟩ .start)
      [signInInput 1000, signInInput 1001, signInInput 1002, signInInput 1003, signInInput 1004] =
        some (db, call') ∧
      call'.letsIn = true ∧ db.auth.users.map User.status = [js "disabled"] ∧
      db.auth.refreshSessions.map RefreshSession.userId = [digitId 1] ∧
      ¬ LockedOut ⟨⟨[disabledAmy], [], []⟩, []⟩ db call' := by
  refine ⟨_, _, rfl, rfl, rfl, rfl, ?_⟩
  rintro ⟨hrefuses, -⟩
  cases hrefuses

end ChatSC.Spec
