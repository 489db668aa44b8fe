import ChatSC.Backend.Registration
import ChatSC.ForStd.UriComponent

/-!
# The refresh cookie (`backend/src/modules/auth/auth.controller.ts`)

A sign-in gives the refresh token to the browser in a cookie, from which `refresh` and `logout` read
it.  `response.cookie` of express writes the value with `encodeURIComponent`; the browser sends all
its cookies in one header.

`cookieStep` has a browser with its requests under way on one side, and all calls of the service on
the other, those of other clients included.  The session of express and the redirects are left out.
-/

namespace ChatSC.Backend

open JsString

/-- `;` -/
def semicolon : UInt16 := 0x3B

/-- `=` -/
def equalsSign : UInt16 := 0x3D

/-! ## The browser's cookies -/

/-- A cookie of the browser for this host. -/
structure Cookie where
  name : JsString
  value : JsString
deriving DecidableEq

/-- The cookie in the header. -/
def Cookie.pair (cookie : Cookie) : JsString := cookie.name ++ equalsSign :: cookie.value

/-- `request.headers.cookie` -/
def cookieHeader (jar : List Cookie) : Option JsString :=
  if jar = [] then none else some ((js "; ").intercalate (jar.map Cookie.pair))

/-- A cookie replaces the one of its name. -/
def storeCookie (jar : List Cookie) (cookie : Cookie) : List Cookie :=
  if cookie.name ∈ jar.map Cookie.name then
    jar.map fun c => if c.name = cookie.name then cookie else c
  else jar ++ [cookie]

/-- The cookies without those of a name. -/
def dropCookie (jar : List Cookie) (name : JsString) : List Cookie := jar.filter (·.name ≠ name)

/-- A cookie that another server of the host may set. -/
structure OtherCookie (cookieName : JsString) (cookie : Cookie) : Prop where
  name_ne : cookie.name ≠ cookieName
  /-- a name, without the sign behind it -/
  name : cookie.name ≠ [] ∧ equalsSign ∉ cookie.name
  pair : semicolon ∉ cookie.pair ∧ trim cookie.pair = cookie.pair

instance (cookieName : JsString) (cookie : Cookie) : Decidable (OtherCookie cookieName cookie) :=
  decidable_of_iff
    (cookie.name ≠ cookieName ∧ (cookie.name ≠ [] ∧ equalsSign ∉ cookie.name) ∧
      semicolon ∉ cookie.pair ∧ trim cookie.pair = cookie.pair)
    ⟨fun h => ⟨h.1, h.2.1, h.2.2⟩, fun h => ⟨h.1, h.2, h.3⟩⟩

/-! ## The controller -/

/-- What `getRefreshTokenFromRequest` gives. -/
inductive CookieToken where
  | missing
  | token (refreshToken : JsString)
  /-- `decodeURIComponent` has thrown -/
  | malformed
deriving DecidableEq

/-- `getRefreshTokenFromRequest` -/
def getRefreshTokenFromRequest (cookieName : JsString) (header : Option JsString) : CookieToken :=
  match header with
  | none => .missing
  | some header =>
    if header = [] then .missing
    else
      let cookieParts := (header.splitOn semicolon).map trim
      match cookieParts.find? ((cookieName ++ [equalsSign]).isPrefixOf ·) with
      | none => .missing
      | some cookieValue =>
        match decodeURIComponent (cookieValue.drop (cookieName.length + 1)) with
        | none => .malformed
        | some refreshToken => .token refreshToken

/-- What a response does to the refresh cookie. -/
inductive SetCookie where
  | unchanged
  | stored (value : JsString)
  | cleared
deriving DecidableEq

/-- `setRefreshCookie`; a value that cannot be encoded makes it throw. -/
def setRefreshCookie (refreshToken : JsString) : SetCookie :=
  match encodeURIComponent refreshToken with
  | none => .unchanged
  | some value => .stored value

/-- How a call of the service has ended. -/
inductive SettledCall where
  | issued (refreshToken : JsString)
  | done
  | failed
deriving DecidableEq

/-- `none` while the call goes on. -/
def AccountCall.settled? : AccountCall → Option SettledCall
  | .registerLocalAccount _ (.returned refreshToken _)
  | .signIn (.loginLocalAccount _ (.returned refreshToken _))
  | .signIn (.googleLogin _ (.returned refreshToken _)) => some (.issued refreshToken)
  | .signIn (.refreshAccessToken _ (.returned _))
  | .signIn (.authenticateAccessToken _ (.returned _))
  | .revokeRefreshToken _ .returned => some .done
  | .registerLocalAccount _ (.threw _)
  | .signIn (.loginLocalAccount _ (.threw _))
  | .signIn (.googleLogin _ (.threw _))
  | .signIn (.refreshAccessToken _ (.threw _))
  | .signIn (.authenticateAccessToken _ (.threw _))
  | .revokeRefreshToken _ (.threw _) => some .failed
  | _ => none

/-- A registration or one of the two logins. -/
def AccountCall.isSignIn : AccountCall → Bool
  | .registerLocalAccount _ _ => true
  | .signIn (.loginLocalAccount _ _) => true
  | .signIn (.googleLogin _ _) => true
  | _ => false

/-- A request of the browser, with the call of the service that its handler awaits. -/
inductive CookieRequest where
  /-- `registerLocal`, `loginLocal` or `handleGoogleCallback` -/
  | signingIn (call : Nat)
  /-- `refresh` -/
  | refreshing (call : Nat)
  /-- `logout` -/
  | loggingOut (call : Nat)
  /-- the response is under way -/
  | responded (cookie : SetCookie)
  | received
deriving DecidableEq

/-- The cookie of the response; `none` while the handler awaits its call. -/
def CookieRequest.answer (calls : List AccountCall) : CookieRequest → Option SetCookie
  | .signingIn call =>
    (calls[call]?.bind AccountCall.settled?).map fun
      | .issued refreshToken => setRefreshCookie refreshToken
      | .done | .failed => .unchanged
  -- `clearRefreshCookie` where the call has thrown
  | .refreshing call =>
    (calls[call]?.bind AccountCall.settled?).map fun
      | .failed => .cleared
      | .issued _ | .done => .unchanged
  -- behind the call, so not where it has thrown
  | .loggingOut call =>
    (calls[call]?.bind AccountCall.settled?).map fun
      | .failed => .unchanged
      | .issued _ | .done => .cleared
  | .responded _ | .received => none

/-! ## A browser and the service -/

/-- The calls of the service, and a browser with its cookies and its requests. -/
structure AuthBrowser where
  accounts : AccountSystem
  jar : List Cookie
  requests : List CookieRequest

/-- A browser without cookies. -/
def AuthBrowser.start (db : SignInDb) : AuthBrowser := ⟨.start db, [], []⟩

/-- A request that the handler answers without a call. -/
def AuthBrowser.respond (browser : AuthBrowser) (cookie : SetCookie) : AuthBrowser :=
  { browser with requests := browser.requests ++ [.responded cookie] }

/-- A request whose handler awaits a new call. -/
def AuthBrowser.await (browser : AuthBrowser) (call : AccountCall) (request : Nat → CookieRequest) :
    AuthBrowser :=
  { browser with
    accounts := { browser.accounts with calls := browser.accounts.calls ++ [call] }
    requests := browser.requests ++ [request browser.accounts.calls.length] }

/-- The browser takes the cookie of a response. -/
def takeCookie (cookieName : JsString) (jar : List Cookie) : SetCookie → List Cookie
  | .unchanged => jar
  | .stored value => storeCookie jar ⟨cookieName, value⟩
  | .cleared => dropCookie jar cookieName

/-- What happens at the service, at the browser or between them. -/
inductive CookieEvent where
  /-- a call of another client, or a step of any call -/
  | account (event : AccountEvent)
  | signIn (call : AccountCall)
  | refresh
  | logout
  /-- the handler of a request comes to its end -/
  | respond (index : Nat)
  | receive (index : Nat)
  /-- a cookie of another server -/
  | store (cookie : Cookie)
  /-- cookies that have expired, or had to go -/
  | drop (name : JsString)

/-- One step; `none` when the event cannot happen. -/
def cookieStep (env : SignInEnv) (cookieName : JsString) (browser : AuthBrowser) :
    CookieEvent → Option AuthBrowser
  | .account event =>
    (accountStep env browser.accounts event).map fun accounts =>
      { browser with accounts := accounts }
  | .signIn call =>
    if call.isStart && call.isSignIn then some (browser.await call .signingIn) else none
  | .refresh =>
    match getRefreshTokenFromRequest cookieName (cookieHeader browser.jar) with
    | .missing | .malformed => some (browser.respond .unchanged)
    | .token refreshToken =>
      -- an empty token counts as missing
      if refreshToken = [] then some (browser.respond .unchanged)
      else some (browser.await (.signIn (.refreshAccessToken refreshToken .start)) .refreshing)
  | .logout =>
    match getRefreshTokenFromRequest cookieName (cookieHeader browser.jar) with
    | .malformed => some (browser.respond .unchanged)
    | .missing => some (browser.respond .cleared)
    | .token refreshToken =>
      if refreshToken = [] then some (browser.respond .cleared)
      else some (browser.await (.revokeRefreshToken refreshToken .start) .loggingOut)
  | .respond index =>
    match browser.requests[index]? with
    | none => none
    | some request =>
      (request.answer browser.accounts.calls).map fun cookie =>
        { browser with requests := browser.requests.set index (.responded cookie) }
  | .receive index =>
    match browser.requests[index]? with
    | some (.responded cookie) =>
      some { browser with
        jar := takeCookie cookieName browser.jar cookie
        requests := browser.requests.set index .received }
    | _ => none
  | .store cookie =>
    if OtherCookie cookieName cookie then
      some { browser with jar := storeCookie browser.jar cookie }
    else none
  | .drop name => some { browser with jar := dropCookie browser.jar name }

end ChatSC.Backend
