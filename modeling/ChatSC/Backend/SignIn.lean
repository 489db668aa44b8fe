import ChatSC.Backend.AuthProcessing
import ChatSC.Backend.AuthService
import ChatSC.ForStd.LinearSearch
import ChatSC.ForStd.Transition

/-!
# Signing in (`backend/src/modules/auth/auth.service.ts`)

The ways to a session: `loginLocalAccount`, and the Google login, which is `upsertGoogleUser` of the
strategy followed by `issueTokenPair` of the callback.  Together with `refreshAccessToken` and
`authenticateAccessToken` they are everything that lets a user in.  `signInStep` is the next step of
any of them, a step being as long as in the model of the sessions.

The attempts of these providers are kept beside those of the provider `'refresh-token'`.
`localAuth.passwordUpdatedAt` and `createdVia` are read by nothing and left out.
-/

namespace ChatSC.Backend

open Collection JsString LinearSearch

/-- What a sign-in rejects with. -/
inductive SignInError where
  | auth (error : AuthError)
  /-- `ServiceUnavailableException` -/
  | serviceUnavailable (code : String) (message : JsString)
  /-- a required path of a document is empty -/
  | validation
  /-- another document has the key of a unique index -/
  | duplicateKey
deriving DecidableEq

/-- `UnauthorizedException` of a sign-in -/
def SignInError.unauthorized (code message : String) : SignInError := .auth (.unauthorized code message)

/-- `mapAuthProcessingError` -/
def mapAuthProcessingError : ProcessingError → SignInError
  | .chat _ message => .serviceUnavailable "local_auth_sha1_unavailable" message
  | .outOfRange =>
    .serviceUnavailable "local_auth_processing_failed"
      (js "Local authentication processing is unavailable")

/-! ## The collections -/

/-- `AuthAttempt`, of the providers of a sign-in. -/
structure SignInAttempt where
  provider : String
  result : String
  emailCandidate : Option JsString
  failureReason : Option String
  userId : Option JsString
  sessionId : Option JsString
deriving DecidableEq

/-- The collections, with the attempts of a sign-in. -/
structure SignInDb where
  auth : AuthDb
  signInAttempts : List SignInAttempt
deriving DecidableEq

namespace SignInDb

/-- `recordAttempt` -/
def recordAttempt (db : SignInDb) (attempt : SignInAttempt) : SignInDb :=
  { db with signInAttempts := db.signInAttempts ++ [attempt] }

/-- `userModel.findOne({ email })` -/
def findByEmail (db : SignInDb) (email : JsString) : Option User :=
  db.auth.users.find? (·.email = email)

/-- `userModel.exists({ username })` -/
def existsUsername (db : SignInDb) (username : JsString) : Bool :=
  db.auth.users.any (·.username = username)

/-- `userModel.create` -/
def createUser (db : SignInDb) (user : User) : Except SignInError SignInDb :=
  if user.email = [] ∨ user.username = [] ∨ user.displayName = [] then .error .validation
  else if db.auth.users.any fun other => other.email = user.email ∨ other.username = user.username ∨
      (other.googleId.isSome ∧ other.googleId = user.googleId) then .error .duplicateKey
  else .ok { db with auth := { db.auth with users := db.auth.users ++ [user] } }

end SignInDb

/-- A user as it was loaded, and as it is after the assignments. -/
structure LoadedUser where
  loaded : User
  current : User
deriving DecidableEq

namespace LoadedUser

/-- What `save` makes of the stored user. -/
def writeModified (document : LoadedUser) (stored : User) : User :=
  { stored with
    googleId := saveField document.loaded.googleId document.current.googleId stored.googleId
    displayName :=
      saveField document.loaded.displayName document.current.displayName stored.displayName
    avatarUrl := saveField document.loaded.avatarUrl document.current.avatarUrl stored.avatarUrl }

/-- The `googleId` that is written is the one of another user. -/
def takesGoogleId (document : LoadedUser) (db : SignInDb) : Prop :=
  document.current.googleId ≠ document.loaded.googleId ∧ ∃ other ∈ db.auth.users,
    other.id ≠ document.loaded.id ∧ other.googleId.isSome ∧
      other.googleId = document.current.googleId

instance decidableTakesGoogleId (document : LoadedUser) (db : SignInDb) :
    Decidable (document.takesGoogleId db) :=
  inferInstanceAs (Decidable (_ ∧ ∃ other ∈ db.auth.users, _))

/-- `existingUser.save()` -/
def save (document : LoadedUser) (db : SignInDb) : Except SignInError SignInDb :=
  if document.current.displayName = [] then .error .validation
  else if document.takesGoogleId db then .error .duplicateKey
  else .ok { db with auth := { db.auth with
    users := updateOne (·.id = document.loaded.id) document.writeModified db.auth.users } }

end LoadedUser

/-! ## What a step gets -/

/-- The settings, `jsonwebtoken` and `crypto`, and `toLowerCase`. -/
structure SignInEnv where
  backend : BackendEnv
  authLocalEnabled : Bool
  token : TokenEnv
  tokens : Tokens
  toLowerCase : JsString → JsString

/-- What the environment gives to a step. -/
structure SignInInput where
  auth : AuthInput
  /-- the `_id` of a new user -/
  newUserId : ObjectId
  exchange : ExchangeIo
  processing : AuthProcessingService

/-! ## `loginLocalAccount` -/

/-- An attempt of the provider `'local-login'`. -/
def localLoginAttempt (email : JsString) (result : String) (failureReason : Option String)
    (userId sessionId : Option JsString) : SignInAttempt :=
  ⟨"local-login", result, some email, failureReason, userId, sessionId⟩

/-- The attempt that a refusal records. -/
def failedLogin (email : JsString) (reason : String) (user : Option User) : SignInAttempt :=
  localLoginAttempt email "failed" (some reason) (user.map (·.id.toString)) none

def invalidCredentials : SignInError :=
  .unauthorized "local_auth_invalid_credentials" "Email or password is incorrect"

/-- Where `loginLocalAccount` stands. -/
inductive LoginPc where
  | start
  /-- before the `recordAttempt` of the start -/
  | recordingStarted (email : JsString)
  /-- before `findOne` -/
  | findingUser (email : JsString)
  /-- in `hashPasswordWithSha1` -/
  | hashing (email : JsString) (user : User) (expected : JsString)
  /-- in `issueTokenPair` -/
  | issuing (email : JsString) (user : SessionUser) (pc : IssuePc)
  /-- before the last `recordAttempt` -/
  | recordingSucceeded (email : JsString) (user : SessionUser) (session : Option JsString)
      (refreshToken : JsString) (response : RefreshSessionResponse)
  /-- before the `recordAttempt` of a refusal -/
  | rejecting (attempt : SignInAttempt) (error : SignInError)
  | returned (refreshToken : JsString) (response : RefreshSessionResponse)
  | threw (error : SignInError)
deriving DecidableEq

/-- `loginLocalAccount` behind `findOne`: the checks of the user that was found. -/
def checkLoginUser (email : JsString) (found : Option User) : LoginPc :=
  match found with
  | none => .rejecting (failedLogin email "invalid-local-credentials" none) invalidCredentials
  | some user =>
    if user.status ≠ js "active" then
      .rejecting (failedLogin email "account-disabled" user)
        (.unauthorized "local_auth_account_disabled" "Account is not allowed to sign in")
    else
      match user.localAuth with
      | some ⟨true, some passwordSha1⟩ =>
        if passwordSha1 = [] then
          .rejecting (failedLogin email "local-auth-not-enabled" user)
            (.unauthorized "local_auth_not_enabled" "Local sign-in is not available for this account")
        else .hashing email user passwordSha1
      | _ =>
        .rejecting (failedLogin email "local-auth-not-enabled" user)
          (.unauthorized "local_auth_not_enabled" "Local sign-in is not available for this account")

/-- The session that `issueTokenPair` is about to return. -/
def IssuePc.sessionId : IssuePc → Option JsString
  | .recording session _ => some session.id.toString
  | _ => none

/-- One step of `loginLocalAccount`. -/
def loginStep (env : SignInEnv) (payload : LoginLocalAuthDto) (db : SignInDb) (input : SignInInput) :
    LoginPc → Option (SignInDb × LoginPc)
  | .start =>
    if env.authLocalEnabled then
      some (db, .recordingStarted (normalizeEmail env.toLowerCase payload.email))
    else
      some (db, .threw (.unauthorized "local_auth_disabled" "Local authentication is disabled"))
  | .recordingStarted email =>
    some (db.recordAttempt (localLoginAttempt email "started" none none none), .findingUser email)
  -- the one place where the status of the user is looked at
  | .findingUser email => some (db, checkLoginUser email (db.findByEmail email))
  | .hashing email user expected =>
    match (hashPasswordWithSha1 env.backend input.exchange input.processing email
        payload.password).2 with
    | .pending => none
    | .rejected error =>
      some (db, .rejecting (failedLogin email "sha1-processing-unavailable" user)
        (mapAuthProcessingError error))
    | .resolved passwordSha1 =>
      if passwordSha1 ≠ expected then
        some (db, .rejecting (failedLogin email "invalid-local-credentials" user)
          invalidCredentials)
      else some (db, .issuing email (toSessionUser user) .start)
  | .issuing email user pc =>
    (issueStep env.tokens env.token user "local-login" db.auth input.auth pc).map fun (auth, pc') =>
      ({ db with auth := auth },
        match pc' with
        | .returned refreshToken response =>
          .recordingSucceeded email user pc.sessionId refreshToken response
        | .threw error => .threw (.auth error)
        | pc' => .issuing email user pc')
  | .recordingSucceeded email user session refreshToken response =>
    some (db.recordAttempt (localLoginAttempt email "succeeded" none (some user.id) session),
      .returned refreshToken response)
  | .rejecting attempt error => some (db.recordAttempt attempt, .threw error)
  | .returned _ _ | .threw _ => none

/-! ## The Google login -/

/-- `GoogleAuthUser` -/
structure GoogleAuthUser where
  googleId : JsString
  email : JsString
  displayName : JsString
  avatarUrl : Option JsString
deriving DecidableEq

/-- `deriveBaseUsername` -/
def deriveBaseUsername (email : JsString) : JsString := email.takeWhile (· ≠ 0x40)

/-- The names that `resolveUsernameCollision` tries, one after the other. -/
def usernameCandidate (baseUsername : JsString) (suffix : Nat) : JsString :=
  if suffix = 0 then baseUsername else baseUsername ++ js "-" ++ js (toString suffix)

/-- `resolveUsernameCollision`, with what `exists` answers; `none` while the loop is not over after so
    many rounds. -/
def resolveUsernameCollision (baseUsername : JsString) (isTaken : JsString → Bool) (rounds : Nat) :
    Option JsString :=
  if isTaken baseUsername then
    (search (fun suffix => isTaken (usernameCandidate baseUsername suffix)) rounds 1).map
      (usernameCandidate baseUsername)
  else some baseUsername

/-- The assignments to a user that there is. -/
def GoogleAuthUser.update (payload : GoogleAuthUser) (user : User) : User :=
  { user with
    googleId := some payload.googleId
    displayName := normalizeTextField payload.displayName
    avatarUrl := payload.avatarUrl }

/-- Where a Google login stands. -/
inductive GooglePc where
  /-- `upsertGoogleUser`: before `findOne` -/
  | start
  /-- before `existingUser.save` -/
  | savingUser (document : LoadedUser)
  /-- in `resolveUsernameCollision`, before `exists` -/
  | resolvingUsername (email : JsString) (suffix : Nat)
  /-- before `userModel.create` -/
  | creatingUser (email username : JsString)
  /-- in `issueTokenPair` -/
  | issuing (user : SessionUser) (pc : IssuePc)
  | returned (refreshToken : JsString) (response : RefreshSessionResponse)
  | threw (error : SignInError)
deriving DecidableEq

/-- One step of a Google login. -/
def googleStep (env : SignInEnv) (payload : GoogleAuthUser) (db : SignInDb) (input : SignInInput) :
    GooglePc → Option (SignInDb × GooglePc)
  | .start =>
    let email := normalizeEmail env.toLowerCase payload.email
    match db.findByEmail email with
    -- an existing user is updated, whatever its status
    | some user => some (db, .savingUser ⟨user, payload.update user⟩)
    | none => some (db, .resolvingUsername email 0)
  | .savingUser document =>
    match document.save db with
    | .error error => some (db, .threw error)
    | .ok saved => some (saved, .issuing (toSessionUser document.current) .start)
  | .resolvingUsername email suffix =>
    let candidate := usernameCandidate (deriveBaseUsername email) suffix
    -- a suffix more, as often as the name is taken
    if db.existsUsername candidate then some (db, .resolvingUsername email (suffix + 1))
    else some (db, .creatingUser email candidate)
  | .creatingUser email username =>
    if input.newUserId ∈ db.auth.users.map User.id then none
    else
      let user : User := ⟨input.newUserId, some payload.googleId, email, username,
        normalizeTextField payload.displayName, payload.avatarUrl, js "active", some ⟨false, none⟩⟩
      match db.createUser user with
      | .error error => some (db, .threw error)
      | .ok created => some (created, .issuing (toSessionUser user) .start)
  | .issuing user pc =>
    (issueStep env.tokens env.token user "google-login" db.auth input.auth pc).map fun (auth, pc') =>
      ({ db with auth := auth },
        match pc' with
        | .returned refreshToken response => .returned refreshToken response
        | .threw error => .threw (.auth error)
        | pc' => .issuing user pc')
  | .returned _ _ | .threw _ => none

/-! ## Any way in -/

/-- A call that lets a user in. -/
inductive SignInCall where
  | loginLocalAccount (payload : LoginLocalAuthDto) (pc : LoginPc)
  | googleLogin (payload : GoogleAuthUser) (pc : GooglePc)
  | refreshAccessToken (refreshToken : JsString) (pc : RefreshPc)
  | authenticateAccessToken (token : JsString) (pc : AuthenticatePc)
deriving DecidableEq

/-- The next step of a call; `none` when it has ended, or with an input that is not possible. -/
def signInStep (env : SignInEnv) (state : SignInDb × SignInCall) (input : SignInInput) :
    Option (SignInDb × SignInCall) :=
  match state.2 with
  | .loginLocalAccount payload pc =>
    (loginStep env payload state.1 input pc).map fun (db, pc) => (db, .loginLocalAccount payload pc)
  | .googleLogin payload pc =>
    (googleStep env payload state.1 input pc).map fun (db, pc) => (db, .googleLogin payload pc)
  | .refreshAccessToken refreshToken pc =>
    (refreshStep env.tokens env.token refreshToken state.1.auth input.auth pc).map fun (auth, pc) =>
      ({ state.1 with auth := auth }, .refreshAccessToken refreshToken pc)
  | .authenticateAccessToken token pc =>
    (authenticateStep env.tokens token state.1.auth input.auth pc).map fun (auth, pc) =>
      ({ state.1 with auth := auth }, .authenticateAccessToken token pc)

/-- A call that has not started. -/
def SignInCall.isStart : SignInCall → Bool
  | .loginLocalAccount _ pc => pc = .start
  | .googleLogin _ pc => pc = .start
  | .refreshAccessToken _ pc => pc = .start
  | .authenticateAccessToken _ pc => pc = .start

/-- A call that has given tokens or a user. -/
def SignInCall.letsIn : SignInCall → Bool
  | .loginLocalAccount _ (.returned _ _) => true
  | .googleLogin _ (.returned _ _) => true
  | .refreshAccessToken _ (.returned _) => true
  | .authenticateAccessToken _ (.returned (some _)) => true
  | _ => false

/-- A call that has refused. -/
def SignInCall.refuses : SignInCall → Bool
  | .loginLocalAccount _ (.threw _) => true
  | .googleLogin _ (.threw _) => true
  | .refreshAccessToken _ (.threw _) => true
  | .authenticateAccessToken _ (.returned none) => true
  | .authenticateAccessToken _ (.threw _) => true
  | _ => false

end ChatSC.Backend
