import ChatSC.ForStd.JsString

/-!
# Requests of the web client (`frontend/src/services/http.ts`, `frontend/src/store/auth.store.ts`)

Any number of requests are under way, and each `await` of their handlers is an event of its own: the
request interceptor (`transmit`), the answer of the server (`respond`), the handler that goes on after
the shared refresh (`resume`), and a handler that goes on after its retry (`unwind`).  A retry goes
through the interceptors again, inside the handler that has made it: `frames` counts the handlers that
wait for one.

A refresh of `runSharedRefresh` makes a request of its own, settles with the answer to that request,
and is over when its `finally` has run.  The other uses of `auth.store.ts` (signing in, hydration,
logging out) are events that set the token and the store.  `transmissions` and `answers` are the
history of a request.
-/

namespace ChatSC.Frontend

open JsString

/-- `AuthUser` -/
structure AuthUser where
  id : JsString
  email : JsString
  username : JsString
  displayName : JsString
  avatarUrl : Option JsString
deriving DecidableEq

/-! ## `auth.store.ts` -/

/-- The state of `AuthStore`. -/
structure AuthStore where
  currentUser : Option AuthUser
  accessToken : Option JsString
  isAuthenticated : Bool
  isHydrating : Bool
  errorMessage : Option JsString
deriving DecidableEq

/-- The store when it is created. -/
def AuthStore.initial : AuthStore where
  currentUser := none
  accessToken := none
  isAuthenticated := false
  isHydrating := true
  errorMessage := none

/-- The `set` of `clearSession`. -/
def AuthStore.clearSession (store : AuthStore) : AuthStore :=
  { store with
    currentUser := none
    accessToken := none
    isAuthenticated := false
    isHydrating := false }

/-- The `set` of `refreshAccessToken` and of `setAuthenticatedSession`. -/
def AuthStore.authenticated (accessToken : Option JsString) (user : Option AuthUser) : AuthStore where
  currentUser := user
  accessToken := accessToken
  isAuthenticated := true
  isHydrating := false
  errorMessage := none

/-! ## Requests -/

/-- An answer with data: `data.accessToken` and `data.user`, where it has them, and the data. -/
structure AxiosResponse where
  status : Nat
  accessToken : Option JsString
  user : Option AuthUser
  data : JsString
deriving DecidableEq

/-- An error of axios: without a config, without a response, or with one, whose data may have a
    `code`. -/
inductive AxiosError where
  | noConfig (message : JsString)
  | noResponse (message : JsString)
  | response (status : Nat) (code : Option JsString) (data : JsString)
deriving DecidableEq

/-- What a request comes to. -/
inductive HttpAnswer where
  | response (response : AxiosResponse)
  | error (error : AxiosError)
deriving DecidableEq

/-- `error.config` -/
def AxiosError.hasConfig : AxiosError → Bool
  | .noConfig _ => false
  | _ => true

/-- `error.response?.status` -/
def AxiosError.status : AxiosError → Option Nat
  | .response status _ _ => some status
  | _ => none

/-- `error.response?.data.code` -/
def AxiosError.code : AxiosError → Option JsString
  | .response _ code _ => code
  | _ => none

/-- Where a request is: before the request interceptor, with the server, in the handler that waits for
    a refresh (for none, where there is no handler for it), on the way back to its caller, or there. -/
inductive RequestStatus where
  | prepared
  | sent
  | waiting (refresh : Option Nat) (error : AxiosError)
  | settling (answer : HttpAnswer)
  | returned (answer : HttpAnswer)
deriving DecidableEq

/-- A request, with `_retry`, `skipAuthRefresh` and the `Authorization` header of its config. -/
structure HttpRequest where
  skipAuthRefresh : Bool
  retry : Bool
  authorization : Option JsString
  frames : Nat
  status : RequestStatus
  transmissions : List (Option JsString)
  answers : List HttpAnswer
deriving DecidableEq

/-- A request that is made. -/
def HttpRequest.create (skipAuthRefresh : Bool) : HttpRequest where
  skipAuthRefresh := skipAuthRefresh
  retry := false
  authorization := none
  frames := 0
  status := .prepared
  transmissions := []
  answers := []

/-- The promise of a refresh: its `finally` runs after it has settled with a token. -/
inductive RefreshStatus where
  | pending
  | settled (token : Option JsString)
  | finished (token : Option JsString)
deriving DecidableEq

/-- A refresh of `runSharedRefresh` and its request. -/
structure SharedRefresh where
  request : Nat
  status : RefreshStatus
deriving DecidableEq

/-- The variables of `http.ts`, the token in the local storage, the store once it is created, and all
    refreshes and requests.  Both handlers are those of the store, set as it is created. -/
structure HttpState where
  accessToken : Option JsString
  storedToken : Option JsString
  refreshPromise : Option Nat
  store : Option AuthStore
  refreshes : List SharedRefresh
  requests : List HttpRequest
deriving DecidableEq

/-- The state when `http.ts` is loaded. -/
def HttpState.load (storedToken : Option JsString) : HttpState where
  accessToken := storedToken
  storedToken := storedToken
  refreshPromise := none
  store := none
  refreshes := []
  requests := []

/-- A token that is neither missing nor empty. -/
def isToken (token : Option JsString) : Bool := token.any (· ≠ [])

/-- The `Authorization` header with a token. -/
def bearer (token : Option JsString) : JsString := js "Bearer " ++ token.getD []

namespace HttpState

/-- `setAccessToken` -/
def setAccessToken (state : HttpState) (token : Option JsString) : HttpState :=
  { state with
    accessToken := token
    storedToken := if isToken token then token else none }

/-- `authFailureHandler?.()`, which is `clearSession` once there is a store. -/
def authFailure (state : HttpState) : HttpState :=
  match state.store with
  | none => state
  | some store => { state.setAccessToken none with store := some store.clearSession }

/-- `runSharedRefresh`: the promise that it returns, and the state. -/
def runSharedRefresh (state : HttpState) : Option Nat × HttpState :=
  match state.store, state.refreshPromise with
  -- there is no `refreshSessionHandler` before the store is created
  | none, _ => (none, state)
  -- the promise that is stored is shared
  | some _, some refresh => (some refresh, state)
  -- `refreshSessionHandler()` makes the request of the refresh, with `skipAuthRefresh`
  | some _, none =>
    (some state.refreshes.length,
      { state with
        refreshPromise := some state.refreshes.length
        refreshes := state.refreshes ++ [{ request := state.requests.length, status := .pending }]
        requests := state.requests ++ [.create true] })

/-- What `runSharedRefresh` has returned resolves to, once it does. -/
def refreshedToken (state : HttpState) : Option Nat → Option (Option JsString)
  -- without a handler, `null` at once
  | none => some none
  | some refresh =>
    match state.refreshes[refresh]? with
    | some { status := .finished token, .. } => some token
    | _ => none

/-- Replaces a request. -/
def setRequest (state : HttpState) (index : Nat) (request : HttpRequest) : HttpState :=
  { state with requests := state.requests.set index request }

/-- The request interceptor, and the transmission. -/
def transmit (state : HttpState) (request : HttpRequest) : HttpRequest :=
  let authorization :=
    if isToken state.accessToken && !request.skipAuthRefresh then some (bearer state.accessToken)
    else request.authorization
  { request with
    authorization := authorization
    status := .sent
    transmissions := request.transmissions ++ [authorization] }

/-- Whether the response interceptor goes on with an error. -/
def mayRefresh (request : HttpRequest) (error : AxiosError) : Bool :=
  !(!error.hasConfig || request.skipAuthRefresh || request.retry) &&
    !(error.status ≠ some 401 || error.code ≠ some (js "access_token_expired"))

/-- The response interceptor, up to its first `await`. -/
def respond (state : HttpState) (index : Nat) (request : HttpRequest) (answer : HttpAnswer) :
    HttpState :=
  let answered := { request with answers := request.answers ++ [answer] }
  match answer with
  | .response _ => state.setRequest index { answered with status := .settling answer }
  | .error error =>
    -- `config._retry = true` comes before the refresh is awaited
    if mayRefresh request error then
      let (refresh, state) := state.runSharedRefresh
      state.setRequest index { answered with retry := true, status := .waiting refresh error }
    else state.setRequest index { answered with status := .settling answer }

/-- The `catch` block: the state in which it throws again. -/
def caught (state : HttpState) : HttpState := (state.setAccessToken none).authFailure

/-- The handler after `await runSharedRefresh()`: it throws the error into its own `catch`, or makes
    the request once more. -/
def resume (state : HttpState) (index : Nat) (request : HttpRequest) (error : AxiosError)
    (token : Option JsString) : HttpState :=
  if isToken token then
    state.setRequest index
      { request with
        authorization := some (bearer token)
        frames := request.frames + 1
        status := .prepared }
  else
    -- `authFailureHandler?.()`, and once more in the `catch` of the `throw error`
    state.authFailure.caught.setRequest index { request with status := .settling (.error error) }

/-- The handler after `await http.request(config)`, or the caller when no handler is left. -/
def unwind (state : HttpState) (index : Nat) (request : HttpRequest) (answer : HttpAnswer) :
    HttpState :=
  match request.frames, answer with
  | 0, _ => state.setRequest index { request with status := .returned answer }
  | frames + 1, .response _ => state.setRequest index { request with frames := frames }
  -- the retry is awaited inside the `try`, so that its error comes to the `catch` block
  | frames + 1, .error _ => state.caught.setRequest index { request with frames := frames }

/-- `refreshAccessToken` after its request: the token it returns, and the state. -/
def refreshAccessToken (state : HttpState) : HttpAnswer → Option JsString × HttpState
  | .response data =>
    (data.accessToken,
      { state.setAccessToken data.accessToken with
        store := some (.authenticated data.accessToken data.user) })
  | .error _ => (none, state.authFailure)

end HttpState

/-! ## Events -/

/-- What can happen next. -/
inductive HttpEvent where
  | createStore
  | setAccessToken (token : Option JsString)
  | authenticate (token : JsString) (user : AuthUser)
  | clearSession
  | startHydration
  | setErrorMessage (message : Option JsString)
  | request (skipAuthRefresh : Bool)
  | transmit (index : Nat)
  | respond (index : Nat) (answer : HttpAnswer)
  | resume (index : Nat)
  | unwind (index : Nat)
  | settleRefresh (refresh : Nat)
  | finishRefresh (refresh : Nat)
deriving DecidableEq

/-- One event. -/
def HttpState.step (state : HttpState) : HttpEvent → Option HttpState
  | .createStore =>
    match state.store with
    | none => some { state with store := some .initial }
    | some _ => none
  | .setAccessToken token => some (state.setAccessToken token)
  | .authenticate token user =>
    state.store.map fun _ =>
      { state.setAccessToken (some token) with
        store := some (.authenticated (some token) (some user)) }
  | .clearSession => state.store.map fun _ => state.authFailure
  | .startHydration =>
    state.store.map fun store => { state with store := some { store with isHydrating := true } }
  | .setErrorMessage message =>
    state.store.map fun store => { state with store := some { store with errorMessage := message } }
  | .request skipAuthRefresh =>
    some { state with requests := state.requests ++ [.create skipAuthRefresh] }
  | .transmit index =>
    match state.requests[index]? with
    | some request =>
      if request.status = .prepared then some (state.setRequest index (state.transmit request))
      else none
    | none => none
  | .respond index answer =>
    match state.requests[index]? with
    | some request =>
      if request.status = .sent then some (state.respond index request answer) else none
    | none => none
  | .resume index =>
    match state.requests[index]? with
    | some request =>
      match request.status with
      | .waiting refresh error =>
        -- `none` as long as the promise has not come to its end
        (state.refreshedToken refresh).map fun token => state.resume index request error token
      | _ => none
    | none => none
  | .unwind index =>
    match state.requests[index]? with
    | some request =>
      match request.status with
      | .settling answer => some (state.unwind index request answer)
      | _ => none
    | none => none
  -- the request of the refresh has come back to `refreshSession`
  | .settleRefresh index =>
    match state.refreshes[index]? with
    | some { request := request, status := .pending } =>
      match (state.requests[request]?).map HttpRequest.status with
      | some (.returned answer) =>
        let (token, state) := state.refreshAccessToken answer
        some { state with
          refreshes := state.refreshes.set index { request := request, status := .settled token } }
      | _ => none
    | _ => none
  -- the `finally` of the promise
  | .finishRefresh index =>
    match state.refreshes[index]? with
    | some { request := request, status := .settled token } =>
      some { state with
        refreshPromise := none
        refreshes := state.refreshes.set index { request := request, status := .finished token } }
    | _ => none

end ChatSC.Frontend
