import ChatSC.Backend.ChatDb

/-!
# Sessions (`backend/src/modules/auth/auth.service.ts`)

A sign-in makes a refresh session; its refresh token gives access tokens until the session is
revoked or expires.  A call stops at every `await` of a database operation, as the calls of the chat
service do; between loading a session and saving it the call holds a copy, and `save` writes the
fields that were changed since it was loaded.

Signing, verifying and hashing tokens is not in the repository: `Tokens` says which of it is used.
-/

namespace ChatSC.Backend

open Collection JsString

/-! ## The collections -/

/-- `LocalAuthMetadata` -/
structure LocalAuthMetadata where
  enabled : Bool
  passwordSha1 : Option JsString
deriving DecidableEq

/-- `User` -/
structure User where
  id : ObjectId
  googleId : Option JsString
  email : JsString
  username : JsString
  displayName : JsString
  avatarUrl : Option JsString
  status : JsString
  localAuth : Option LocalAuthMetadata
deriving DecidableEq

/-- `SessionUser` -/
structure SessionUser where
  id : JsString
  email : JsString
  username : JsString
  displayName : JsString
  avatarUrl : Option JsString
deriving DecidableEq

/-- `toSessionUser` -/
def toSessionUser (user : User) : SessionUser :=
  ⟨user.id.toString, user.email, user.username, user.displayName, user.avatarUrl⟩

/-- The `status` of a refresh session. -/
inductive RefreshSessionStatus where
  | active
  | expired
  | revoked
deriving DecidableEq, Repr

/-- `RefreshSession` -/
structure RefreshSession where
  id : ObjectId
  userId : ObjectId
  tokenHash : JsString
  issuedAt : Date
  expiresAt : Date
  lastUsedAt : Option Date
  revokedAt : Option Date
  status : RefreshSessionStatus
  createdBy : String
deriving DecidableEq

/-- `AuthAttempt`, of the provider `'refresh-token'`. -/
structure AuthAttempt where
  result : String
  failureReason : Option String
  userId : Option JsString
  sessionId : Option JsString
deriving DecidableEq

/-- The collections of the auth module. -/
structure AuthDb where
  users : List User
  refreshSessions : List RefreshSession
  authAttempts : List AuthAttempt
deriving DecidableEq

namespace AuthDb

/-- `refreshSessionModel.findById(id)` -/
def findSession (db : AuthDb) (id : ObjectId) : Option RefreshSession :=
  db.refreshSessions.find? (·.id = id)

/-- `findById` of the service -/
def findUser (db : AuthDb) (id : ObjectId) : Option SessionUser :=
  (db.users.find? (·.id = id)).map toSessionUser

/-- `recordAttempt` -/
def recordAttempt (db : AuthDb) (attempt : AuthAttempt) : AuthDb :=
  { db with authAttempts := db.authAttempts ++ [attempt] }

/-- `refreshSession.save()` of a new document -/
def insertSession (db : AuthDb) (session : RefreshSession) : AuthDb :=
  { db with refreshSessions := db.refreshSessions ++ [session] }

end AuthDb

/-- A session as it was loaded, and as it is after the assignments. -/
structure LoadedSession where
  loaded : RefreshSession
  current : RefreshSession
deriving DecidableEq

namespace LoadedSession

/-- What `save` makes of the stored session: a field counts as modified when it was given another
    value. -/
def writeModified (document : LoadedSession) (stored : RefreshSession) : RefreshSession :=
  { stored with
    lastUsedAt :=
      saveField document.loaded.lastUsedAt document.current.lastUsedAt stored.lastUsedAt
    revokedAt := saveField document.loaded.revokedAt document.current.revokedAt stored.revokedAt
    status := saveField document.loaded.status document.current.status stored.status }

/-- `refreshSession.save()` of a loaded document -/
def save (document : LoadedSession) (db : AuthDb) : AuthDb :=
  { db with
    refreshSessions :=
      updateOne (·.id = document.loaded.id) document.writeModified db.refreshSessions }

end LoadedSession

/-! ## Tokens -/

/-- `RefreshTokenPayload` -/
structure RefreshTokenPayload where
  sub : JsString
  sid : JsString
  jti : JsString
deriving DecidableEq

/-- `AccessTokenPayload` -/
structure AccessTokenPayload where
  sub : JsString
  sid : JsString
deriving DecidableEq

/-- What a call rejects with. -/
inductive AuthError where
  /-- `UnauthorizedException` -/
  | unauthorized (code message : String)
  /-- an id that cannot be cast to an `ObjectId` -/
  | cast
deriving DecidableEq

/-- The functions of `jsonwebtoken` and `crypto` with the two secrets; what verifies depends on the
    time. -/
structure Tokens where
  signRefreshToken : RefreshTokenPayload → Date → JsString
  signAccessToken : AccessTokenPayload → Date → JsString
  verifyRefreshToken : JsString → Date → Except AuthError RefreshTokenPayload
  verifyAccessToken : JsString → Date → Option AccessTokenPayload
  hashToken : JsString → JsString

/-- `RefreshSessionResponse` -/
structure RefreshSessionResponse where
  accessToken : JsString
  user : SessionUser
  expiresInSeconds : Nat
deriving DecidableEq

/-- The lifetimes of the tokens, from `backendEnv`. -/
structure TokenEnv where
  accessTokenTtlSeconds : Nat
  refreshTokenTtlSeconds : Nat
deriving DecidableEq

/-- `buildRefreshSessionResponse` -/
def buildRefreshSessionResponse (tokens : Tokens) (env : TokenEnv) (user : SessionUser)
    (sessionId : ObjectId) (now : Date) : RefreshSessionResponse where
  accessToken := tokens.signAccessToken ⟨user.id, sessionId.toString⟩ now
  user := user
  expiresInSeconds := env.accessTokenTtlSeconds

/-! ## The calls -/

/-- What the environment gives to a step. -/
structure AuthInput where
  /-- `new Date()` and `Date.now()` -/
  now : Date
  /-- the `_id` of a new session -/
  newId : ObjectId
  /-- `randomUUID()` -/
  uuid : JsString
deriving DecidableEq

/-- The attempt that a refusal records. -/
def failedAttempt (reason : String) (payload : RefreshTokenPayload) : AuthAttempt :=
  ⟨"failed", some reason, some payload.sub, some payload.sid⟩

/-- Where `issueTokenPair` stands. -/
inductive IssuePc where
  | start
  /-- before `refreshSession.save` -/
  | saving (session : RefreshSession) (refreshToken : JsString)
  /-- before `recordAttempt` -/
  | recording (session : RefreshSession) (refreshToken : JsString)
  | returned (refreshToken : JsString) (response : RefreshSessionResponse)
  | threw (error : AuthError)
deriving DecidableEq

/-- One step of `issueTokenPair`. -/
def issueStep (tokens : Tokens) (env : TokenEnv) (user : SessionUser) (createdBy : String)
    (db : AuthDb) (input : AuthInput) : IssuePc → Option (AuthDb × IssuePc)
  | .start =>
    match ObjectId.ofString? user.id with
    | none => some (db, .threw .cast)
    | some userId =>
      let refreshToken :=
        tokens.signRefreshToken ⟨user.id, input.newId.toString, input.uuid⟩ input.now
      some (db, .saving
        { id := input.newId
          userId := userId
          tokenHash := tokens.hashToken refreshToken
          issuedAt := input.now
          expiresAt := input.now + env.refreshTokenTtlSeconds * 1000
          lastUsedAt := none
          revokedAt := none
          status := .active
          createdBy := createdBy } refreshToken)
  | .saving session refreshToken =>
    -- an id that is new was in no document, a unique hash neither
    if session.id ∈ db.refreshSessions.map RefreshSession.id ∨
        session.tokenHash ∈ db.refreshSessions.map RefreshSession.tokenHash then none
    else some (db.insertSession session, .recording session refreshToken)
  | .recording session refreshToken =>
    some (db.recordAttempt ⟨"issued", none, some user.id, some session.id.toString⟩,
      .returned refreshToken (buildRefreshSessionResponse tokens env user session.id input.now))
  | .returned _ _ | .threw _ => none

/-- Where `refreshAccessToken` stands. -/
inductive RefreshPc where
  | start
  /-- before `refreshSessionModel.findById` -/
  | loading (payload : RefreshTokenPayload)
  /-- before the `save` of a session that has expired -/
  | savingExpired (payload : RefreshTokenPayload) (document : LoadedSession)
  /-- before `findById` of the user, with the `now` of the checks -/
  | findingUser (payload : RefreshTokenPayload) (document : LoadedSession) (now : Date)
  /-- before the `save` of a session that is used -/
  | savingUsed (document : LoadedSession) (user : SessionUser)
  /-- before `recordAttempt` -/
  | recording (session : ObjectId) (user : SessionUser)
  /-- before the `recordAttempt` of a refusal -/
  | rejecting (attempt : AuthAttempt) (error : AuthError)
  | returned (response : RefreshSessionResponse)
  | threw (error : AuthError)
deriving DecidableEq

/-- `refreshAccessToken` behind `findById`: the checks of a session that was found. -/
def checkSession (tokens : Tokens) (refreshToken : JsString) (payload : RefreshTokenPayload)
    (session : RefreshSession) (now : Date) : RefreshPc :=
  if session.tokenHash ≠ tokens.hashToken refreshToken then
    .rejecting (failedAttempt "refresh-token-mismatch" payload)
      (.unauthorized "refresh_token_invalid" "Refresh token is invalid")
  else if session.revokedAt.isSome ∨ session.status = .revoked then
    .rejecting (failedAttempt "refresh-token-revoked" payload)
      (.unauthorized "refresh_token_revoked" "Refresh token has been revoked")
  else if session.expiresAt ≤ now then
    .savingExpired payload ⟨session, { session with status := .expired }⟩
  else .findingUser payload ⟨session, session⟩ now

/-- One step of `refreshAccessToken`. -/
def refreshStep (tokens : Tokens) (env : TokenEnv) (refreshToken : JsString) (db : AuthDb)
    (input : AuthInput) : RefreshPc → Option (AuthDb × RefreshPc)
  | .start =>
    match tokens.verifyRefreshToken refreshToken input.now with
    | .error error => some (db, .threw error)
    | .ok payload => some (db, .loading payload)
  | .loading payload =>
    match ObjectId.ofString? payload.sid with
    | none => some (db, .threw .cast)
    | some sid =>
      match db.findSession sid with
      | none =>
        some (db, .rejecting (failedAttempt "refresh-session-missing" payload)
          (.unauthorized "refresh_token_invalid" "Refresh token is invalid"))
      -- every check of the session reads the copy that was loaded here
      | some session => some (db, checkSession tokens refreshToken payload session input.now)
  | .savingExpired payload document =>
    some (document.save db, .rejecting (failedAttempt "refresh-token-expired" payload)
      (.unauthorized "refresh_token_expired" "Refresh token has expired"))
  | .findingUser payload document now =>
    match ObjectId.ofString? payload.sub with
    | none => some (db, .threw .cast)
    | some sub =>
      -- only whether the user is there matters
      match db.findUser sub with
      | none =>
        some (db, .rejecting (failedAttempt "refresh-user-missing" payload)
          (.unauthorized "refresh_user_missing" "User is no longer available"))
      | some user =>
        some (db, .savingUsed
          { document with current := { document.current with lastUsedAt := some now } } user)
  | .savingUsed document user => some (document.save db, .recording document.loaded.id user)
  | .recording session user =>
    some (db.recordAttempt ⟨"renewed", none, some user.id, some session.toString⟩,
      .returned (buildRefreshSessionResponse tokens env user session input.now))
  | .rejecting attempt error => some (db.recordAttempt attempt, .threw error)
  | .returned _ | .threw _ => none

/-- Where `revokeRefreshToken` stands. -/
inductive RevokePc where
  | start
  /-- before `refreshSessionModel.findById` -/
  | loading (payload : RefreshTokenPayload)
  /-- before `save` -/
  | saving (payload : RefreshTokenPayload) (document : LoadedSession)
  /-- before `recordAttempt` -/
  | recording (payload : RefreshTokenPayload)
  | returned
  | threw (error : AuthError)
deriving DecidableEq

/-- One step of `revokeRefreshToken`. -/
def revokeStep (tokens : Tokens) (refreshToken : JsString) (db : AuthDb) (input : AuthInput) :
    RevokePc → Option (AuthDb × RevokePc)
  | .start =>
    match tokens.verifyRefreshToken refreshToken input.now with
    | .error _ => some (db, .returned)
    | .ok payload => some (db, .loading payload)
  | .loading payload =>
    match ObjectId.ofString? payload.sid with
    | none => some (db, .threw .cast)
    | some sid =>
      match db.findSession sid with
      | none => some (db, .returned)
      | some session =>
        some (db, .saving payload
          ⟨session, { session with revokedAt := some input.now, status := .revoked }⟩)
  | .saving payload document => some (document.save db, .recording payload)
  | .recording payload =>
    some (db.recordAttempt ⟨"revoked", none, some payload.sub, some payload.sid⟩, .returned)
  | .returned | .threw _ => none

/-- Where `authenticateAccessToken` stands. -/
inductive AuthenticatePc where
  | start
  /-- before `refreshSessionModel.findById` -/
  | loading (payload : AccessTokenPayload)
  /-- before `findById` of the user -/
  | findingUser (payload : AccessTokenPayload)
  | returned (user : Option SessionUser)
  | threw (error : AuthError)
deriving DecidableEq

/-- One step of `authenticateAccessToken`. -/
def authenticateStep (tokens : Tokens) (token : JsString) (db : AuthDb) (input : AuthInput) :
    AuthenticatePc → Option (AuthDb × AuthenticatePc)
  | .start =>
    match tokens.verifyAccessToken token input.now with
    | none => some (db, .returned none)
    | some payload => some (db, .loading payload)
  | .loading payload =>
    match ObjectId.ofString? payload.sid with
    | none => some (db, .threw .cast)
    | some sid =>
      match db.findSession sid with
      | none => some (db, .returned none)
      | some session =>
        if session.status ≠ .active ∨ session.revokedAt.isSome then some (db, .returned none)
        else if session.expiresAt ≤ input.now then some (db, .returned none)
        else some (db, .findingUser payload)
  | .findingUser payload =>
    match ObjectId.ofString? payload.sub with
    | none => some (db, .threw .cast)
    | some sub => some (db, .returned (db.findUser sub))
  | .returned _ | .threw _ => none

/-! ## Calls at the same time -/

/-- A call of the service. -/
inductive AuthCall where
  | issueTokenPair (user : SessionUser) (createdBy : String) (pc : IssuePc)
  | refreshAccessToken (refreshToken : JsString) (pc : RefreshPc)
  | revokeRefreshToken (refreshToken : JsString) (pc : RevokePc)
  | authenticateAccessToken (token : JsString) (pc : AuthenticatePc)
deriving DecidableEq

/-- A call that has not started. -/
def AuthCall.isStart : AuthCall → Bool
  | .issueTokenPair _ _ pc => pc = .start
  | .refreshAccessToken _ pc => pc = .start
  | .revokeRefreshToken _ pc => pc = .start
  | .authenticateAccessToken _ pc => pc = .start

/-- The next step of a call; `none` when it has ended, or with an input that is not possible. -/
def authCallStep (tokens : Tokens) (env : TokenEnv) (db : AuthDb) (input : AuthInput) :
    AuthCall → Option (AuthDb × AuthCall)
  | .issueTokenPair user createdBy pc =>
    (issueStep tokens env user createdBy db input pc).map fun (db, pc) =>
      (db, .issueTokenPair user createdBy pc)
  | .refreshAccessToken refreshToken pc =>
    (refreshStep tokens env refreshToken db input pc).map fun (db, pc) =>
      (db, .refreshAccessToken refreshToken pc)
  | .revokeRefreshToken refreshToken pc =>
    (revokeStep tokens refreshToken db input pc).map fun (db, pc) =>
      (db, .revokeRefreshToken refreshToken pc)
  | .authenticateAccessToken token pc =>
    (authenticateStep tokens token db input pc).map fun (db, pc) =>
      (db, .authenticateAccessToken token pc)

/-- The collections and all the calls made so far. -/
structure AuthSystem where
  db : AuthDb
  calls : List AuthCall
deriving DecidableEq

/-- A new call, or the next step of one that is under way. -/
inductive AuthEvent where
  | call (call : AuthCall)
  | step (index : Nat) (input : AuthInput)
deriving DecidableEq

/-- One step of the system; `none` when the event cannot happen. -/
def authStep (tokens : Tokens) (env : TokenEnv) (system : AuthSystem) :
    AuthEvent → Option AuthSystem
  | .call call => if call.isStart then some { system with calls := system.calls ++ [call] } else none
  | .step index input =>
    match system.calls[index]? with
    | none => none
    | some call =>
      (authCallStep tokens env system.db input call).map fun (db, call) =>
        ⟨db, system.calls.set index call⟩

end ChatSC.Backend
