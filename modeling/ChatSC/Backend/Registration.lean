import ChatSC.Backend.SignIn

/-!
# Registering (`backend/src/modules/auth/auth.service.ts`)

`registerLocalAccount` looks whether the address and the name are free, has the password hashed and
creates the account; between a look and the creation any other call may take a step, so what keeps
two accounts apart are the unique indexes (`SignInDb.createUser`).

`accountStep` is a step of any number of calls at once: registrations, the ways in of `signInStep`,
and `revokeRefreshToken`.  These are all the calls that write a user, a session or an attempt.
-/

namespace ChatSC.Backend

open Collection JsString

/-- What a registration rejects with. -/
inductive RegisterError where
  /-- `BadRequestException` -/
  | badRequest (code message : String)
  /-- `ConflictException` -/
  | conflict (code message : String)
  | signIn (error : SignInError)
deriving DecidableEq

/-- An attempt of the provider `'local-register'`. -/
def localRegisterAttempt (email : JsString) (result : String) (failureReason : Option String)
    (userId sessionId : Option JsString) : SignInAttempt :=
  ⟨"local-register", result, some email, failureReason, userId, sessionId⟩

/-- The attempt that a refusal records. -/
def failedRegistration (email : JsString) (reason : String) : SignInAttempt :=
  localRegisterAttempt email "failed" (some reason) none none

/-- `userModel.exists({ email })` -/
def SignInDb.existsEmail (db : SignInDb) (email : JsString) : Bool :=
  db.auth.users.any (·.email = email)

/-- The document that `registerLocalAccount` creates. -/
def registeredUser (toLowerCase : JsString → JsString) (payload : RegisterLocalAuthDto)
    (id : ObjectId) (passwordSha1 : JsString) : User where
  id := id
  googleId := none
  email := normalizeEmail toLowerCase payload.email
  username := normalizeTextField payload.username
  displayName := normalizeTextField payload.displayName
  avatarUrl := none
  status := js "active"
  localAuth := some ⟨true, some passwordSha1⟩

/-- Where `registerLocalAccount` stands. -/
inductive RegisterPc where
  | start
  /-- before the `recordAttempt` of the start -/
  | recordingStarted
  /-- before `exists({ email })` -/
  | findingEmail
  /-- before `exists({ username })` -/
  | findingUsername
  /-- in `hashPasswordWithSha1` -/
  | hashing
  /-- before `userModel.create` -/
  | creatingUser (passwordSha1 : JsString)
  /-- in `issueTokenPair` -/
  | issuing (user : SessionUser) (pc : IssuePc)
  /-- before the last `recordAttempt` -/
  | recordingSucceeded (user : SessionUser) (session : Option JsString) (refreshToken : JsString)
      (response : RefreshSessionResponse)
  /-- before the `recordAttempt` of a refusal -/
  | rejecting (attempt : SignInAttempt) (error : RegisterError)
  | returned (refreshToken : JsString) (response : RefreshSessionResponse)
  | threw (error : RegisterError)
deriving DecidableEq

/-- One step of `registerLocalAccount`. -/
def registerStep (env : SignInEnv) (payload : RegisterLocalAuthDto) (db : SignInDb)
    (input : SignInInput) (pc : RegisterPc) : Option (SignInDb × RegisterPc) :=
  let email := normalizeEmail env.toLowerCase payload.email
  let username := normalizeTextField payload.username
  match pc with
  | .start =>
    if env.authLocalEnabled then some (db, .recordingStarted)
    else
      some (db, .threw (.badRequest "local_auth_disabled" "Local authentication is disabled"))
  | .recordingStarted =>
    some (db.recordAttempt (localRegisterAttempt email "started" none none none), .findingEmail)
  | .findingEmail =>
    if db.existsEmail email then
      some (db, .rejecting (failedRegistration email "email-already-exists")
        (.conflict "email_already_exists" "Email already exists"))
    else some (db, .findingUsername)
  | .findingUsername =>
    if db.existsUsername username then
      some (db, .rejecting (failedRegistration email "username-already-exists")
        (.conflict "username_already_exists" "Username already exists"))
    else some (db, .hashing)
  | .hashing =>
    match (hashPasswordWithSha1 env.backend input.exchange input.processing email
        payload.password).2 with
    | .pending => none
    | .rejected error =>
      some (db, .rejecting (failedRegistration email "sha1-processing-unavailable")
        (.signIn (mapAuthProcessingError error)))
    | .resolved passwordSha1 => some (db, .creatingUser passwordSha1)
  | .creatingUser passwordSha1 =>
    if input.newUserId ∈ db.auth.users.map User.id then none
    else
      let user := registeredUser env.toLowerCase payload input.newUserId passwordSha1
      -- nothing catches what `create` throws, so no attempt is recorded
      match db.createUser user with
      | .error error => some (db, .threw (.signIn error))
      | .ok created => some (created, .issuing (toSessionUser user) .start)
  | .issuing user pc =>
    (issueStep env.tokens env.token user "local-register" db.auth input.auth pc).map
      fun (auth, pc') =>
        ({ db with auth := auth },
          match pc' with
          | .returned refreshToken response =>
            .recordingSucceeded user pc.sessionId refreshToken response
          | .threw error => .threw (.signIn (.auth error))
          | pc' => .issuing user pc')
  | .recordingSucceeded user session refreshToken response =>
    some (db.recordAttempt (localRegisterAttempt email "succeeded" none (some user.id) session),
      .returned refreshToken response)
  | .rejecting attempt error => some (db.recordAttempt attempt, .threw error)
  | .returned _ _ | .threw _ => none

/-! ## Calls at the same time -/

/-- A call of the service. -/
inductive AccountCall where
  | registerLocalAccount (payload : RegisterLocalAuthDto) (pc : RegisterPc)
  | signIn (call : SignInCall)
  | revokeRefreshToken (refreshToken : JsString) (pc : RevokePc)
deriving DecidableEq

/-- A call that has not started. -/
def AccountCall.isStart : AccountCall → Bool
  | .registerLocalAccount _ pc => pc = .start
  | .signIn call => call.isStart
  | .revokeRefreshToken _ pc => pc = .start

/-- The next step of a call; `none` when it has ended, or with an input that is not possible. -/
def accountCallStep (env : SignInEnv) (db : SignInDb) (input : SignInInput) :
    AccountCall → Option (SignInDb × AccountCall)
  | .registerLocalAccount payload pc =>
    (registerStep env payload db input pc).map fun (db, pc) =>
      (db, .registerLocalAccount payload pc)
  | .signIn call => (signInStep env (db, call) input).map fun (db, call) => (db, .signIn call)
  | .revokeRefreshToken refreshToken pc =>
    (revokeStep env.tokens refreshToken db.auth input.auth pc).map fun (auth, pc) =>
      ({ db with auth := auth }, .revokeRefreshToken refreshToken pc)

/-- The collections and all the calls made so far. -/
structure AccountSystem where
  db : SignInDb
  calls : List AccountCall
deriving DecidableEq

/-- A new call, or the next step of one that is under way. -/
inductive AccountEvent where
  | call (call : AccountCall)
  | step (index : Nat) (input : SignInInput)

/-- The collections before the first call. -/
def AccountSystem.start (db : SignInDb) : AccountSystem := ⟨db, []⟩

/-- One step of the system; `none` when the event cannot happen. -/
def accountStep (env : SignInEnv) (system : AccountSystem) : AccountEvent → Option AccountSystem
  | .call call =>
    if call.isStart then some { system with calls := system.calls ++ [call] } else none
  | .step index input =>
    match system.calls[index]? with
    | none => none
    | some call =>
      (accountCallStep env system.db input call).map fun (db, call) =>
        ⟨db, system.calls.set index call⟩

end ChatSC.Backend
