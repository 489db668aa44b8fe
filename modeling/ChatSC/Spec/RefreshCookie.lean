import ChatSC.Backend.RefreshCookie
import ChatSC.Spec.LiveSessions
import Mathlib.Data.List.Find

/-!
# The way of a refresh token through the browser

What a sign-in hands out comes back unchanged: the header of a browser has a refresh token exactly
when its jar has the cookie, and then it is a token that a sign-in has returned, whatever responses
overtake each other and whatever other cookies there are (`refreshCookie_of_run`).  A refresh with
it gives the user of that sign-in until the session is over (`browserRefresh_of_run`).
-/

namespace ChatSC.Spec

open Backend Collection JsString Records Transition

/-! ## The header -/

/-- A name that `response.cookie` accepts. -/
structure CookieName (cookieName : JsString) : Prop where
  ne_nil : cookieName ≠ []
  mem : ∀ u ∈ cookieName, u ≠ semicolon ∧ u ≠ equalsSign ∧ isTrimmed u = false

/-- A cookie that the header separates from the others, and its name from its value. -/
structure CleanCookie (c : Cookie) : Prop where
  name : equalsSign ∉ c.name
  pair : semicolon ∉ c.pair ∧ trim c.pair = c.pair

section Header

/-- A space in front is trimmed. -/
theorem trim_space (s : JsString) : trim (0x20 :: s) = trim s := by
  have hspace : isTrimmed 0x20 = true := by decide
  rw [trim, List.dropWhile_cons_of_pos hspace]
  rfl

/-- Parts without the separator are found again, apart from the space behind it. -/
theorem map_trim_splitOn {parts : List JsString} (hne : parts ≠ [])
    (hparts : ∀ part ∈ parts, semicolon ∉ part ∧ trim part = part) :
    (((js "; ").intercalate parts).splitOn semicolon).map trim = parts := by
  obtain ⟨part, parts, rfl⟩ := List.exists_cons_of_ne_nil hne
  -- the space of a separator goes to the part behind it
  have hjoin : ∀ (part : JsString) (parts : List JsString),
      (js "; ").intercalate (part :: parts) =
        [semicolon].intercalate (part :: parts.map (0x20 :: ·)) := by
    intro part parts
    induction parts generalizing part with
    | nil => rfl
    | cons next parts ih =>
      have hsep : js "; " = [semicolon, 0x20] := by decide
      rw [List.map_cons, List.intercalate_cons_cons, List.intercalate_cons_cons,
        List.intercalate_cons_cons_left, ih, hsep]
      simp
  have hfree : ∀ l ∈ part :: parts.map (0x20 :: ·), semicolon ∉ l := by
    intro l hl
    rcases List.mem_cons.mp hl with rfl | hl
    · exact (hparts l List.mem_cons_self).1
    · obtain ⟨next, hnext, rfl⟩ := List.mem_map.mp hl
      have hspace : semicolon ≠ 0x20 := by decide
      rw [List.mem_cons, not_or]
      exact ⟨hspace, (hparts next (List.mem_cons_of_mem _ hnext)).1⟩
  rw [hjoin, List.splitOn_intercalate semicolon hfree (List.cons_ne_nil _ _), List.map_cons,
    List.map_map, (hparts part List.mem_cons_self).2]
  congr 1
  refine (List.map_congr_left fun next hnext => ?_).trans (List.map_id parts)
  exact (trim_space next).trans (hparts next (List.mem_cons_of_mem _ hnext)).2

/-- What stands before the first sign. -/
theorem takeWhile_equalsSign {s : JsString} (h : equalsSign ∉ s) (t : JsString) :
    (s ++ equalsSign :: t).takeWhile (· ≠ equalsSign) = s := by
  have hall : ∀ u ∈ s, decide (u ≠ equalsSign) = true :=
    fun u hu => decide_eq_true fun heq => h (heq ▸ hu)
  rw [List.takeWhile_append_of_pos hall, List.takeWhile_cons_of_neg (by simp), List.append_nil]

/-- The cookie with a name is the one whose pair begins with it. -/
theorem isPrefixOf_pair_iff {cookieName : JsString} (hname : equalsSign ∉ cookieName) {c : Cookie}
    (hc : equalsSign ∉ c.name) :
    (cookieName ++ [equalsSign]).isPrefixOf c.pair = decide (c.name = cookieName) := by
  rw [Bool.eq_iff_iff, List.isPrefixOf_iff_prefix, decide_eq_true_iff]
  constructor
  · rintro ⟨rest, hrest⟩
    rw [Cookie.pair, List.append_assoc, List.singleton_append] at hrest
    -- the first sign ends both names
    rw [← takeWhile_equalsSign hname rest, ← takeWhile_equalsSign hc c.value, hrest]
  · rintro rfl
    exact ⟨c.value, by simp [Cookie.pair]⟩

variable {cookieName : JsString} {jar : List Cookie}

/-- The parts of the header are the cookies of the jar. -/
theorem cookieParts_cookieHeader (hempty : jar ≠ []) (hjar : ∀ c ∈ jar, CleanCookie c) :
    (((js "; ").intercalate (jar.map Cookie.pair)).splitOn semicolon).map trim =
      jar.map Cookie.pair := by
  have hpairs : jar.map Cookie.pair ≠ [] := fun h => hempty (List.map_eq_nil_iff.mp h)
  refine map_trim_splitOn hpairs fun part hpart => ?_
  obtain ⟨c, hc, rfl⟩ := List.mem_map.mp hpart
  exact (hjar c hc).pair

theorem cookieHeader_ne_nil (hempty : jar ≠ []) (hjar : ∀ c ∈ jar, CleanCookie c) :
    (js "; ").intercalate (jar.map Cookie.pair) ≠ [] := by
  intro hnil
  have hsplit := cookieParts_cookieHeader hempty hjar
  rw [hnil] at hsplit
  obtain ⟨c, rest, rfl⟩ := List.exists_cons_of_ne_nil hempty
  have hpair : c.pair = [] := (List.cons.inj hsplit).1.symm
  exact absurd hpair (by simp [Cookie.pair])

/-- The part that the controller looks for is the cookie with the name. -/
theorem find?_cookieParts (hname : CookieName cookieName) (hjar : ∀ c ∈ jar, CleanCookie c) :
    (jar.map Cookie.pair).find? ((cookieName ++ [equalsSign]).isPrefixOf ·) =
      (jar.find? (·.name = cookieName)).map Cookie.pair := by
  have hsign : equalsSign ∉ cookieName := fun hmem => (hname.mem _ hmem).2.1 rfl
  rw [List.find?_map]
  congr 1
  exact List.find?_congr fun c hc => isPrefixOf_pair_iff hsign (hjar c hc).name

/-- With it, the controller reads what its value encodes. -/
theorem getRefreshTokenFromRequest_of_some (hname : CookieName cookieName)
    (hjar : ∀ c ∈ jar, CleanCookie c) {c : Cookie} {refreshToken : JsString}
    (hfind : jar.find? (·.name = cookieName) = some c)
    (hvalue : decodeURIComponent c.value = some refreshToken) :
    getRefreshTokenFromRequest cookieName (cookieHeader jar) = .token refreshToken := by
  -- a cookie was found, so a header is sent
  have hempty : jar ≠ [] := by
    rintro rfl
    cases hfind
  -- behind the name and the sign is the value
  have hdrop : c.pair.drop (cookieName.length + 1) = c.value := by
    have hcookie : c.name = cookieName := by simpa using List.find?_some hfind
    rw [Cookie.pair, hcookie, ← List.drop_drop, List.drop_left]
    rfl
  rw [cookieHeader, if_neg hempty, getRefreshTokenFromRequest,
    if_neg (cookieHeader_ne_nil hempty hjar)]
  simp only [cookieParts_cookieHeader hempty hjar, find?_cookieParts hname hjar, hfind,
    Option.map_some, hdrop, hvalue]

/-- Nothing is trimmed of a string without space. -/
theorem trim_eq_self {s : JsString} (h : ∀ u ∈ s, isTrimmed u = false) : trim s = s := by
  have hdrop : ∀ t : JsString, (∀ u ∈ t, isTrimmed u = false) → t.dropWhile isTrimmed = t := by
    intro t ht
    cases t with
    | nil => rfl
    | cons u t => exact List.dropWhile_cons_of_neg (by simp [ht u List.mem_cons_self])
  rw [trim, hdrop s h, hdrop _ fun u hu => h u (List.mem_reverse.mp hu), List.reverse_reverse]

/-- What a value is encoded with ends no cookie and is not trimmed. -/
theorem unit_of_isUnreserved {u : UInt16} (h : u = percent ∨ isUnreserved u = true) :
    u ≠ semicolon ∧ isTrimmed u = false := by
  -- the marks that are left as they are
  have hmarks : js "-_.!~*'()" = [0x2D, 0x5F, 0x2E, 0x21, 0x7E, 0x2A, 0x27, 0x28, 0x29] := by decide
  -- all of them lie between the space and the last ASCII character, and none is the semicolon
  have hbounds : 0x21 ≤ u.toNat ∧ u.toNat < 0x7F ∧ u.toNat ≠ 0x3B := by
    rcases h with rfl | h
    · decide
    · rw [isUnreserved, hmarks] at h
      simp only [Bool.or_eq_true, Bool.and_eq_true, decide_eq_true_eq, UInt16.le_iff_toNat_le,
        List.mem_cons, List.not_mem_nil, or_false, ← UInt16.toNat_inj, UInt16.reduceToNat] at h
      omega
  refine ⟨fun heq => hbounds.2.2 (congrArg UInt16.toNat heq), ?_⟩
  rw [← Bool.not_eq_true, isTrimmed]
  simp only [Bool.or_eq_true, Bool.and_eq_true, decide_eq_true_eq, UInt16.le_iff_toNat_le,
    ← UInt16.toNat_inj, UInt16.reduceToNat]
  omega

/-- The refresh cookie, with a value that `response.cookie` has written. -/
theorem cleanCookie_of_encode {cookieName : JsString} (hname : CookieName cookieName)
    {refreshToken value : JsString} (h : encodeURIComponent refreshToken = some value) :
    CleanCookie ⟨cookieName, value⟩ := by
  have hunits : ∀ u ∈ Cookie.pair ⟨cookieName, value⟩, u ≠ semicolon ∧ isTrimmed u = false := by
    intro u hu
    rcases List.mem_append.mp hu with hu | hu
    · exact ⟨(hname.mem u hu).1, (hname.mem u hu).2.2⟩
    rcases List.mem_cons.mp hu with rfl | hu
    · decide
    · exact unit_of_isUnreserved (mem_of_encode h hu)
  exact ⟨fun hmem => (hname.mem _ hmem).2.1 rfl, fun hmem => (hunits _ hmem).1 rfl,
    trim_eq_self fun u hu => (hunits u hu).2⟩

end Header

/-! ## The jar -/

/-- A sign-in has returned the token, or is about to. -/
def ReturnedToken (calls : List AccountCall) (refreshToken : JsString) : Prop :=
  ∃ call ∈ calls, ∃ response, tokensOf call = some (refreshToken, response)

/-- The value is that of a token that a sign-in has returned. -/
def TokenValue (calls : List AccountCall) (value : JsString) : Prop :=
  ∃ refreshToken, ReturnedToken calls refreshToken ∧ encodeURIComponent refreshToken = some value

/-- The cookies are those that the two kinds of servers have set. -/
structure JarSound (cookieName : JsString) (calls : List AccountCall) (jar : List Cookie) :
    Prop where
  clean : ∀ c ∈ jar, CleanCookie c
  token : ∀ c ∈ jar, c.name = cookieName → TokenValue calls c.value

/-- So are the cookies of the responses. -/
structure BrowserSound (cookieName : JsString) (browser : AuthBrowser) : Prop where
  jar : JarSound cookieName browser.accounts.calls browser.jar
  responses : ∀ value, .responded (.stored value) ∈ browser.requests →
    TokenValue browser.accounts.calls value

section Jar

variable {env : SignInEnv} {cookieName : JsString} {calls calls' : List AccountCall}
  {jar : List Cookie}

theorem TokenValue.mono (hcalls : ∀ refreshToken, ReturnedToken calls refreshToken →
    ReturnedToken calls' refreshToken) {value : JsString} (h : TokenValue calls value) :
    TokenValue calls' value := by
  obtain ⟨refreshToken, hreturned, hvalue⟩ := h
  exact ⟨refreshToken, hcalls refreshToken hreturned, hvalue⟩

theorem JarSound.mono (hcalls : ∀ refreshToken, ReturnedToken calls refreshToken →
    ReturnedToken calls' refreshToken) (h : JarSound cookieName calls jar) :
    JarSound cookieName calls' jar :=
  ⟨h.clean, fun c hc hname => (h.token c hc hname).mono hcalls⟩

/-- A call that has tokens keeps them. -/
theorem tokensOf_accountCallStep {db db' : SignInDb} {input : SignInInput}
    {call call' : AccountCall} {tokens : JsString × RefreshSessionResponse}
    (h : tokensOf call = some tokens)
    (hstep : accountCallStep env db input call = some (db', call')) :
    tokensOf call' = some tokens := by
  cases accountCallStep_cases hstep with
  | registerLocalAccount payload pc pc' db' hregister =>
    cases pc with
    | recordingSucceeded email user refreshToken response =>
      -- the attempt is recorded between the tokens and the return
      cases hregister
      exact h
    | returned refreshToken response => cases hregister
    | _ => cases h
  | loginLocalAccount payload pc pc' db' hlogin =>
    cases pc with
    | recordingSucceeded email user session refreshToken response =>
      cases hlogin
      exact h
    | returned refreshToken response => cases hlogin
    | _ => cases h
  | googleLogin payload pc pc' db' hgoogle =>
    cases pc with
    | returned refreshToken response => cases hgoogle
    | _ => cases h
  | revokeRefreshToken | refreshAccessToken | authenticateAccessToken => cases h

theorem returnedToken_accountStep {system system' : AccountSystem} {event : AccountEvent}
    (hstep : accountStep env system event = some system') {refreshToken : JsString}
    (h : ReturnedToken system.calls refreshToken) : ReturnedToken system'.calls refreshToken := by
  obtain ⟨call, hcall, response, htokens⟩ := h
  obtain ⟨index, hget⟩ := List.mem_iff_getElem?.mp hcall
  rcases call_of_accountStep hstep hget with hsame | ⟨input, db', call', -, hmove, hget'⟩
  · exact ⟨call, List.mem_of_getElem? hsame, response, htokens⟩
  · exact ⟨call', List.mem_of_getElem? hget', response, tokensOf_accountCallStep htokens hmove⟩

/-- A call that has ended with a token has returned it. -/
theorem tokensOf_of_settled {call : AccountCall} {refreshToken : JsString}
    (h : call.settled? = some (.issued refreshToken)) :
    ∃ response, tokensOf call = some (refreshToken, response) := by
  unfold AccountCall.settled? at h
  split at h <;> cases h <;> exact ⟨_, rfl⟩

/-- The cookie of a response is a token that a call has returned. -/
theorem tokenValue_of_answer {request : CookieRequest} {value : JsString}
    (h : request.answer calls = some (.stored value)) : TokenValue calls value := by
  have hanswer : ∀ (index : Nat) (answer : SettledCall → SetCookie),
      (calls[index]?.bind AccountCall.settled?).map answer = some (.stored value) →
      (∀ settled, answer settled = .stored value → ∃ refreshToken,
        settled = .issued refreshToken ∧ encodeURIComponent refreshToken = some value) →
      TokenValue calls value := by
    intro index answer hmap hstored
    obtain ⟨settled, hbind, hvalue⟩ := Option.map_eq_some_iff.mp hmap
    obtain ⟨call, hcall, hsettled⟩ := Option.bind_eq_some_iff.mp hbind
    obtain ⟨refreshToken, rfl, hencode⟩ := hstored settled hvalue
    obtain ⟨response, htokens⟩ := tokensOf_of_settled hsettled
    exact ⟨refreshToken, ⟨call, List.mem_of_getElem? hcall, response, htokens⟩, hencode⟩
  -- only the answer to a sign-in stores a cookie
  cases request with
  | signingIn index =>
    refine hanswer index _ h fun settled hstored => ?_
    cases settled with
    | issued refreshToken =>
      refine ⟨refreshToken, rfl, ?_⟩
      simp only [setRefreshCookie] at hstored
      split at hstored
      · cases hstored
      · rename_i encoded hencoded
        cases hstored
        exact hencoded
    | done => cases hstored
    | failed => cases hstored
  | refreshing index =>
    refine hanswer index _ h fun settled hstored => ?_
    cases settled <;> cases hstored
  | loggingOut index =>
    refine hanswer index _ h fun settled hstored => ?_
    cases settled <;> cases hstored
  | responded cookie => cases h
  | received => cases h

theorem JarSound.store (h : JarSound cookieName calls jar) {cookie : Cookie}
    (hclean : CleanCookie cookie)
    (htoken : cookie.name = cookieName → TokenValue calls cookie.value) :
    JarSound cookieName calls (storeCookie jar cookie) := by
  -- the cookie replaces one of its name or comes at the end
  have hmem : ∀ c ∈ storeCookie jar cookie, c = cookie ∨ c ∈ jar := by
    intro c hc
    unfold storeCookie at hc
    split at hc
    · obtain ⟨old, hold, rfl⟩ := List.mem_map.mp hc
      split
      · exact .inl rfl
      · exact .inr hold
    · rcases List.mem_append.mp hc with hc | hc
      · exact .inr hc
      · exact .inl (List.mem_singleton.mp hc)
  constructor
  · intro c hc
    rcases hmem c hc with rfl | hc
    · exact hclean
    · exact h.clean c hc
  · intro c hc hname
    rcases hmem c hc with rfl | hc
    · exact htoken hname
    · exact h.token c hc hname

theorem JarSound.drop (h : JarSound cookieName calls jar) (name : JsString) :
    JarSound cookieName calls (dropCookie jar name) :=
  ⟨fun c hc => h.clean c (List.mem_of_mem_filter hc),
    fun c hc => h.token c (List.mem_of_mem_filter hc)⟩

end Jar

section Browser

variable {env : SignInEnv} {cookieName : JsString} {browser browser' : AuthBrowser}
  {event : CookieEvent}

/-- What one step does to a browser and the service. -/
inductive BrowserChange (env : SignInEnv) (cookieName : JsString) (browser : AuthBrowser) :
    AuthBrowser → Prop where
  | serviced (event : AccountEvent) (accounts : AccountSystem)
      (h : accountStep env browser.accounts event = some accounts) :
      BrowserChange env cookieName browser { browser with accounts := accounts }
  | answered (cookie : SetCookie) (hcookie : ∀ value, cookie ≠ .stored value) :
      BrowserChange env cookieName browser (browser.respond cookie)
  | awaited (call : AccountCall) (request : Nat → CookieRequest) (hstart : call.isStart = true)
      (hrequest : ∀ index cookie, request index ≠ .responded cookie) :
      BrowserChange env cookieName browser (browser.await call request)
  | responded (index : Nat) (request : CookieRequest) (cookie : SetCookie)
      (hanswer : request.answer browser.accounts.calls = some cookie) :
      BrowserChange env cookieName browser
        { browser with requests := browser.requests.set index (.responded cookie) }
  | received (index : Nat) (cookie : SetCookie) (hmem : .responded cookie ∈ browser.requests) :
      BrowserChange env cookieName browser { browser with
        jar := takeCookie cookieName browser.jar cookie
        requests := browser.requests.set index .received }
  | stored (cookie : Cookie) (hother : OtherCookie cookieName cookie) :
      BrowserChange env cookieName browser
        { browser with jar := storeCookie browser.jar cookie }
  | dropped (name : JsString) :
      BrowserChange env cookieName browser { browser with jar := dropCookie browser.jar name }

theorem cookieStep_cases (hstep : cookieStep env cookieName browser event = some browser') :
    BrowserChange env cookieName browser browser' := by
  cases event with
  | account event =>
    obtain ⟨accounts, haccount, rfl⟩ := Option.map_eq_some_iff.mp hstep
    exact .serviced event accounts haccount
  | signIn call =>
    simp only [cookieStep, Bool.and_eq_true] at hstep
    split at hstep
    · rename_i hcall
      cases hstep
      exact .awaited _ _ hcall.1 fun _ _ heq => by cases heq
    · cases hstep
  | refresh | logout =>
    simp only [cookieStep] at hstep
    -- a header without the cookie, or one that cannot be decoded, starts no call
    split at hstep
    · cases hstep
      exact .answered _ fun _ heq => by cases heq
    · cases hstep
      exact .answered _ fun _ heq => by cases heq
    · split at hstep
      · cases hstep
        exact .answered _ fun _ heq => by cases heq
      · cases hstep
        exact .awaited _ _ rfl fun _ _ heq => by cases heq
  | respond index =>
    simp only [cookieStep] at hstep
    split at hstep
    · cases hstep
    · obtain ⟨cookie, hanswer, rfl⟩ := Option.map_eq_some_iff.mp hstep
      exact .responded index _ cookie hanswer
  | receive index =>
    simp only [cookieStep] at hstep
    split at hstep
    · rename_i cookie hrequest
      cases hstep
      exact .received index cookie (List.mem_of_getElem? hrequest)
    · cases hstep
  | store cookie =>
    simp only [cookieStep] at hstep
    split at hstep
    · rename_i hother
      cases hstep
      exact .stored cookie hother
    · cases hstep
  | drop name =>
    cases hstep
    exact .dropped name

/-- Whatever the steps of the service keep, every step keeps. -/
theorem cookieStep_keeps {P : AccountSystem → Prop}
    (hkeep : ∀ system event system', P system → accountStep env system event = some system' →
      P system') (h : P browser.accounts)
    (hstep : cookieStep env cookieName browser event = some browser') : P browser'.accounts := by
  cases cookieStep_cases hstep with
  -- the service moves by itself
  | serviced event accounts haccount => exact hkeep _ _ _ h haccount
  -- a request starts a call of the service
  | awaited call request hstart hrequest =>
    have hcall : accountStep env browser.accounts (.call call) =
        some (browser.await call request).accounts := by
      rw [accountStep, if_pos hstart]
      rfl
    exact hkeep _ _ _ h hcall
  -- responses and cookies are the browser's alone
  | answered | responded | received | stored | dropped => exact h

/-- So does a run. -/
theorem run_cookieStep_keeps {P : AccountSystem → Prop} {events : List CookieEvent}
    (hkeep : ∀ system event system', P system → accountStep env system event = some system' →
      P system') (h : P browser.accounts)
    (hrun : run (cookieStep env cookieName) browser events = some browser') :
    P browser'.accounts := by
  have hstep : ∀ (s : AuthBrowser) (event : CookieEvent) (s' : AuthBrowser), P s.accounts →
      cookieStep env cookieName s event = some s' → P s'.accounts :=
    fun _ _ _ h hstep => cookieStep_keeps hkeep h hstep
  exact run_invariant hstep h hrun

theorem returnedToken_cookieStep (hstep : cookieStep env cookieName browser event = some browser')
    (refreshToken : JsString) (h : ReturnedToken browser.accounts.calls refreshToken) :
    ReturnedToken browser'.accounts.calls refreshToken :=
  cookieStep_keeps (P := fun system => ReturnedToken system.calls refreshToken)
    (fun _ _ _ h hstep => returnedToken_accountStep hstep h) h hstep

/-- Requests of a state and one more, which has no cookie of a token. -/
theorem responses_concat {requests : List CookieRequest} {request : CookieRequest}
    {calls calls' : List AccountCall}
    (hcalls : ∀ refreshToken, ReturnedToken calls refreshToken → ReturnedToken calls' refreshToken)
    (h : ∀ value, .responded (.stored value) ∈ requests → TokenValue calls value)
    (hnew : ∀ value, request ≠ .responded (.stored value)) (value : JsString)
    (hmem : .responded (.stored value) ∈ requests ++ [request]) : TokenValue calls' value := by
  rcases List.mem_append.mp hmem with hmem | hmem
  · exact (h value hmem).mono hcalls
  · exact absurd (List.mem_singleton.mp hmem).symm (hnew value)

/-- Every step. -/
theorem BrowserSound.step (hname : CookieName cookieName) (h : BrowserSound cookieName browser)
    (hstep : cookieStep env cookieName browser event = some browser') :
    BrowserSound cookieName browser' := by
  have hcalls := returnedToken_cookieStep hstep
  cases cookieStep_cases hstep with
  | serviced event accounts haccount =>
    exact ⟨h.jar.mono hcalls, fun value hmem => (h.responses value hmem).mono hcalls⟩
  | answered cookie hcookie =>
    refine ⟨h.jar, responses_concat hcalls h.responses fun value heq => ?_⟩
    exact hcookie value (CookieRequest.responded.inj heq)
  | awaited call request hstart hrequest =>
    exact ⟨h.jar.mono hcalls, responses_concat hcalls h.responses fun _ => hrequest _ _⟩
  | responded index request cookie hanswer =>
    refine ⟨h.jar, fun value hmem => ?_⟩
    rcases List.mem_or_eq_of_mem_set hmem with hmem | heq
    · exact h.responses value hmem
    · cases heq
      exact tokenValue_of_answer hanswer
  | received index cookie hresponded =>
    have hjar : JarSound cookieName browser.accounts.calls
        (takeCookie cookieName browser.jar cookie) := by
      cases cookie with
      | unchanged => exact h.jar
      | stored value =>
        obtain ⟨refreshToken, hreturned, hvalue⟩ := h.responses value hresponded
        exact h.jar.store (cleanCookie_of_encode hname hvalue)
          fun _ => ⟨refreshToken, hreturned, hvalue⟩
      | cleared => exact h.jar.drop cookieName
    -- the response is not under way any more, and the others are the same
    refine ⟨hjar, fun value hmem => ?_⟩
    rcases List.mem_or_eq_of_mem_set hmem with hmem | heq
    · exact h.responses value hmem
    · cases heq
  | stored cookie hother =>
    exact ⟨h.jar.store ⟨hother.name.2, hother.pair⟩ fun heq => absurd heq hother.name_ne,
      h.responses⟩
  | dropped name => exact ⟨h.jar.drop name, h.responses⟩

theorem browserSound_of_run (hname : CookieName cookieName) {db : SignInDb}
    {events : List CookieEvent}
    (hrun : run (cookieStep env cookieName) (.start db) events = some browser) :
    BrowserSound cookieName browser := by
  have hstart : BrowserSound cookieName (.start db) :=
    ⟨⟨fun _ hc => absurd hc List.not_mem_nil, fun _ hc => absurd hc List.not_mem_nil⟩,
      fun _ hmem => absurd hmem List.not_mem_nil⟩
  exact run_invariant (fun _ _ _ h hstep => h.step hname hstep) hstart hrun

/-- The controller reads from the cookie the token that it was made of. -/
theorem JarSound.getRefreshTokenFromRequest {calls : List AccountCall} {jar : List Cookie}
    (hname : CookieName cookieName) (h : JarSound cookieName calls jar) {c : Cookie}
    (hfind : jar.find? (·.name = cookieName) = some c) :
    ∃ refreshToken, ReturnedToken calls refreshToken ∧
      (∃ c ∈ jar, c.name = cookieName ∧ encodeURIComponent refreshToken = some c.value) ∧
      Backend.getRefreshTokenFromRequest cookieName (cookieHeader jar) = .token refreshToken := by
  have hmem : c ∈ jar := List.mem_of_find?_eq_some hfind
  have hcookie : c.name = cookieName := by simpa using List.find?_some hfind
  obtain ⟨refreshToken, hreturned, hvalue⟩ := h.token c hmem hcookie
  exact ⟨refreshToken, hreturned, ⟨c, hmem, hcookie, hvalue⟩,
    getRefreshTokenFromRequest_of_some hname h.clean hfind (decodeURIComponent_of_encode hvalue)⟩

end Browser

/-! ## Refreshes of the browser -/

/-- What `jsonwebtoken` promises, with the mapping of its errors in `verifyRefreshToken`: a token
    that was signed is not empty, and it gives what was signed or has expired. -/
structure SignedTokens (env : SignInEnv) : Prop where
  ne_nil : ∀ payload signedAt, env.tokens.signRefreshToken payload signedAt ≠ []
  verify : ∀ (sub sid : ObjectId) jti signedAt now,
    env.tokens.verifyRefreshToken
        (env.tokens.signRefreshToken ⟨sub.toString, sid.toString, jti⟩ signedAt) now =
          .ok ⟨sub.toString, sid.toString, jti⟩ ∨
      env.tokens.verifyRefreshToken
        (env.tokens.signRefreshToken ⟨sub.toString, sid.toString, jti⟩ signedAt) now =
          .error (.unauthorized "refresh_token_expired" "Refresh token has expired")

/-- The refusals that say that the session is over. -/
def sessionOver : List AuthError :=
  [.unauthorized "refresh_token_revoked" "Refresh token has been revoked",
    .unauthorized "refresh_token_expired" "Refresh token has expired"]

/-- A refresh with the token of a session has been refused only because the session is over. -/
def RefreshPc.Fair (uid : JsString) (sid : ObjectId) : RefreshPc → Prop
  | .start | .savingExpired _ _ => True
  | .loading payload => payload.sub = uid ∧ payload.sid = sid.toString
  | .findingUser payload _ _ => payload.sub = uid
  | .savingUsed _ user | .recording _ user => user.id = uid
  | .returned response => response.user.id = uid
  | .rejecting _ error | .threw error => error ∈ sessionOver

section Refreshes

variable {env : SignInEnv} {auth auth' : AuthDb} {user : SessionUser} {session : RefreshSession}
  {refreshToken : JsString}

/-- The step of such a refresh. -/
theorem RefreshPc.Fair.step {time : AuthInput} {pc pc' : RefreshPc} (hverify : SignedTokens env)
    (hfor : TokensFor env user session refreshToken)
    (hids : (auth.refreshSessions.map RefreshSession.id).Nodup)
    (hstored : StoredSession auth.refreshSessions session)
    (huser : ∃ stored ∈ auth.users, user.id = stored.id.toString)
    (h : RefreshPc.Fair user.id session.id pc)
    (hstep : refreshStep env.tokens env.token refreshToken auth time pc = some (auth', pc')) :
    RefreshPc.Fair user.id session.id pc' := by
  cases pc with
  | start =>
    obtain ⟨jti, hsigned⟩ := hfor.signed
    rw [refreshStep, hsigned, hfor.userId] at hstep
    rcases hverify.verify session.userId session.id jti session.issuedAt time.now with
      hok | hexpired
    · rw [hok] at hstep
      cases hstep
      exact ⟨hfor.userId.symm, rfl⟩
    · rw [hexpired] at hstep
      cases hstep
      exact List.mem_cons_of_mem _ List.mem_cons_self
  | loading payload =>
    obtain ⟨hsub, hsid⟩ := h
    obtain ⟨stored, hmem, hissued⟩ := hstored
    -- the session that is found is the one that was stored with the hash
    have hid : stored.id = session.id := congrArg (·.id) hissued
    have hfound : auth.findSession session.id = some stored := by
      rw [← hid]
      exact find?_key_of_mem hids hmem
    have hhash : stored.tokenHash = env.tokens.hashToken refreshToken :=
      (congrArg (·.tokenHash) hissued).trans hfor.hash
    simp only [refreshStep, hsid, ObjectId.ofString?_toString, hfound, checkSession,
      if_neg (not_not.mpr hhash)] at hstep
    split at hstep
    · cases hstep
      exact List.mem_cons_self
    · split at hstep
      · cases hstep
        trivial
      · cases hstep
        exact hsub
  | savingExpired payload document =>
    cases hstep
    exact List.mem_cons_of_mem _ List.mem_cons_self
  | findingUser payload document now =>
    -- the user of the session is still stored
    obtain ⟨id, found, hid, hfound, huid⟩ := findUser_of_stored huser
    have hsub : payload.sub = user.id := h
    simp only [refreshStep, hsub, hid, hfound] at hstep
    cases hstep
    exact huid
  | savingUsed document found =>
    cases hstep
    exact h
  | recording sid found =>
    cases hstep
    exact h
  | rejecting attempt error =>
    cases hstep
    exact h
  | returned response => cases hstep
  | threw error => cases hstep

/-- No step of a call stores a session with the id of another. -/
theorem sessionIds_accountStep {system system' : AccountSystem} {event : AccountEvent}
    (hids : (system.db.auth.refreshSessions.map RefreshSession.id).Nodup)
    (hstep : accountStep env system event = some system') :
    (system'.db.auth.refreshSessions.map RefreshSession.id).Nodup := by
  -- a new call stores nothing, and a session that is stored has an id of its own
  rcases accountStep_cases hstep with ⟨new, -, -, rfl⟩ |
    ⟨index, input, call, db', call', -, -, hmove, rfl⟩
  · exact hids
  · cases sessions_accountCallStep hmove with
    | same h => exact h ▸ hids
    | created session hid h =>
      rw [h]
      exact nodup_map_concat hids hid
    -- to save a session changes no id
    | saved document hcopy h =>
      have hkeep : ∀ stored, (document.writeModified stored).id = stored.id := fun _ => rfl
      rw [h, map_updateOne hkeep]
      exact hids

/-- What a run of the calls knows: the tokens that were issued are those of stored sessions. -/
structure SessionsKnown (env : SignInEnv) (system : AccountSystem) : Prop where
  ids : (system.db.auth.refreshSessions.map RefreshSession.id).Nodup
  issues : ∀ call ∈ system.calls, Issues env system.db.auth call

theorem SessionsKnown.step {system system' : AccountSystem} {event : AccountEvent}
    (h : SessionsKnown env system) (hstep : accountStep env system event = some system') :
    SessionsKnown env system' :=
  ⟨sessionIds_accountStep h.ids hstep, issues_accountStep hstep h.issues⟩

/-- The refresh at `index` has the token of a session, and has been refused only because that is
    over. -/
structure FairRefresh (env : SignInEnv) (user : SessionUser) (session : RefreshSession)
    (refreshToken : JsString) (index : Nat) (system : AccountSystem) : Prop where
  ids : (system.db.auth.refreshSessions.map RefreshSession.id).Nodup
  stored : StoredSession system.db.auth.refreshSessions session
  account : ∃ stored ∈ system.db.auth.users, user.id = stored.id.toString
  call : ∃ pc, system.calls[index]? = some (.signIn (.refreshAccessToken refreshToken pc)) ∧
    RefreshPc.Fair user.id session.id pc

theorem FairRefresh.step {system system' : AccountSystem} {event : AccountEvent} {index : Nat}
    (hverify : SignedTokens env) (hfor : TokensFor env user session refreshToken)
    (h : FairRefresh env user session refreshToken index system)
    (hstep : accountStep env system event = some system') :
    FairRefresh env user session refreshToken index system' := by
  have hkept := keeps_accountStep hstep
  refine ⟨sessionIds_accountStep h.ids hstep, hkept.storedSession h.stored,
    hkept.storedUser h.account, ?_⟩
  obtain ⟨pc, hget, hfair⟩ := h.call
  -- another call moves, or the refresh itself
  rcases call_of_accountStep hstep hget with hsame | ⟨input, db', call', -, hmove, hget'⟩
  · exact ⟨pc, hsame, hfair⟩
  · cases accountCallStep_cases hmove with
    | refreshAccessToken _ _ pc' auth hrefresh =>
      exact ⟨pc', hget', hfair.step hverify hfor h.ids h.stored h.account hrefresh⟩

end Refreshes

/-- **A browser's refresh is refused only when its session is over**: in every run, when a browser
    that has the refresh cookie asks for a refresh, the call gets the token that a sign-in has
    returned; and whatever happens before it ends, it gives the user of that sign-in, or the session
    was revoked or has expired. -/
theorem browserRefresh_of_run {env : SignInEnv} {cookieName : JsString} {db : SignInDb}
    {past later : List CookieEvent} {before browser : AuthBrowser} (hverify : SignedTokens env)
    (hname : CookieName cookieName)
    (hids : (db.auth.refreshSessions.map RefreshSession.id).Nodup)
    (hpast : run (cookieStep env cookieName) (.start db) past = some before)
    (hcookie : ∃ c ∈ before.jar, c.name = cookieName)
    (hlater : run (cookieStep env cookieName) before (.refresh :: later) = some browser) :
    ∃ signIn ∈ before.accounts.calls, ∃ refreshToken response pc,
      tokensOf signIn = some (refreshToken, response) ∧
      browser.accounts.calls[before.accounts.calls.length]? =
        some (.signIn (.refreshAccessToken refreshToken pc)) ∧
      (∀ result, pc = .returned result → result.user.id = response.user.id) ∧
      ∀ error, pc = .threw error → error ∈ sessionOver := by
  have hstart : SessionsKnown env (AuthBrowser.start db).accounts :=
    ⟨hids, fun _ hcall => absurd hcall List.not_mem_nil⟩
  have hknown : SessionsKnown env before.accounts :=
    run_cookieStep_keeps (fun _ _ _ h hstep => h.step hstep) hstart hpast
  -- the token of the header is one that was issued, for a session that is stored
  obtain ⟨c, hc, hcookieName⟩ := hcookie
  obtain ⟨found, hfind⟩ := Option.isSome_iff_exists.mp
    (List.find?_isSome.mpr ⟨c, hc, decide_eq_true hcookieName⟩ :
      (before.jar.find? (·.name = cookieName)).isSome = true)
  obtain ⟨refreshToken, ⟨signIn, hsignIn, response, htokens⟩, -, hheader⟩ :=
    (browserSound_of_run hname hpast).jar.getRefreshTokenFromRequest hname hfind
  obtain ⟨huser, session, hfor, hstored, -⟩ :=
    (hknown.issues signIn hsignIn).tokens refreshToken response htokens
  have hne : refreshToken ≠ [] := by
    obtain ⟨jti, rfl⟩ := hfor.signed
    exact hverify.ne_nil _ _
  -- so the request starts a call with it
  obtain ⟨after, hrefresh, hrest⟩ := run_cons_eq_some.mp hlater
  simp only [cookieStep, hheader, if_neg hne] at hrefresh
  cases hrefresh
  have hbegin : FairRefresh env response.user session refreshToken before.accounts.calls.length
      (before.await (.signIn (.refreshAccessToken refreshToken .start)) .refreshing).accounts :=
    ⟨hknown.ids, hstored, huser, .start, getElem?_concat_eq_some.mpr (.inl ⟨rfl, rfl⟩), trivial⟩
  -- and whatever happens then, the call stays fair
  obtain ⟨pc, hget, hfair⟩ :=
    (run_cookieStep_keeps (fun _ _ _ h hstep => h.step hverify hfor hstep) hbegin hrest).call
  refine ⟨signIn, hsignIn, refreshToken, response, pc, htokens, hget, ?_, ?_⟩
  · rintro result rfl
    exact hfair
  · rintro error rfl
    exact hfair

/-! ## Amy's browser -/

theorem cookieName_refreshToken : CookieName (js "refresh_token") := by
  have hall : (js "refresh_token").all (fun u =>
      decide (u ≠ semicolon ∧ u ≠ equalsSign ∧ isTrimmed u = false)) = true := by decide
  exact ⟨by decide, fun u hu => of_decide_eq_true (List.all_eq_true.mp hall u hu)⟩

/-- The two registrations of amy come from one browser, which has a cookie of another server; the
    second one's response arrives. -/
def amyBrowser : List CookieEvent :=
  [.signIn (.registerLocalAccount (amyRegistered (js "secret")) .start),
    .signIn (.registerLocalAccount (amyRegistered (js "Secret")) .start)] ++
  (amyTwice.drop 2).map .account ++ [.store ⟨js "sid", js "a=b"⟩, .respond 1, .receive 1]

theorem run_amyBrowser :
    (run (cookieStep localSignIn (js "refresh_token")) (.start noAccounts) amyBrowser).map
        (fun browser => (browser.jar.map Cookie.name,
          getRefreshTokenFromRequest (js "refresh_token") (cookieHeader browser.jar))) =
      some ([js "sid", js "refresh_token"], .token secondToken) := by
  decide +kernel

theorem signedTokens_localSignIn : SignedTokens localSignIn :=
  ⟨fun _ _ => List.cons_ne_nil _ _, fun sub sid jti signedAt now =>
    .inl (verifyRefreshToken_plainTokens sub sid jti signedAt now)⟩

/-- A refresh of the browser gives the second amy. -/
theorem browserRefresh_of_run_amy : ∃ before browser,
    run (cookieStep localSignIn (js "refresh_token")) (.start noAccounts) amyBrowser =
        some before ∧
      run (cookieStep localSignIn (js "refresh_token")) before
        (.refresh :: refreshSteps.map .account) = some browser ∧
      ∃ refreshToken result, browser.accounts.calls[2]? =
        some (.signIn (.refreshAccessToken refreshToken (.returned result))) ∧
      ∃ signIn ∈ before.accounts.calls, ∃ response,
        tokensOf signIn = some (refreshToken, response) ∧ result.user.id = response.user.id := by
  -- the run is evaluated; what it ends in is left to the theorem
  have hlength : (run (cookieStep localSignIn (js "refresh_token")) (.start noAccounts)
      amyBrowser).map (fun browser => browser.accounts.calls.length) = some 2 := by
    decide +kernel
  have hend : (run (cookieStep localSignIn (js "refresh_token")) (.start noAccounts)
      (amyBrowser ++ .refresh :: refreshSteps.map .account)).map (fun browser =>
        browser.accounts.calls[2]?.bind AccountCall.settled?) = some (some .done) := by
    decide +kernel
  obtain ⟨browser, hrun, hdone⟩ := Option.map_eq_some_iff.mp hend
  obtain ⟨before, hbefore, hlater⟩ := run_append_eq_some.mp hrun
  obtain ⟨before', hbefore', hjar⟩ := Option.map_eq_some_iff.mp run_amyBrowser
  cases hbefore.symm.trans hbefore'
  obtain ⟨before', hbefore', hcalls⟩ := Option.map_eq_some_iff.mp hlength
  cases hbefore.symm.trans hbefore'
  -- the browser has the cookie
  have hnames : before.jar.map Cookie.name = [js "sid", js "refresh_token"] :=
    congrArg Prod.fst hjar
  have hcookie : ∃ c ∈ before.jar, c.name = js "refresh_token" := by
    have hmem : js "refresh_token" ∈ before.jar.map Cookie.name := by
      rw [hnames]
      exact List.mem_cons_of_mem _ List.mem_cons_self
    exact List.mem_map.mp hmem
  have hids : (noAccounts.auth.refreshSessions.map RefreshSession.id).Nodup := List.nodup_nil
  obtain ⟨signIn, hsignIn, refreshToken, response, pc, htokens, hget, hreturned, -⟩ :=
    browserRefresh_of_run signedTokens_localSignIn cookieName_refreshToken hids hbefore hcookie
      hlater
  -- the refresh is the call behind those there were
  rw [hcalls] at hget
  rw [hget] at hdone
  -- it is over, and the run says that it was not refused
  cases pc with
  | returned result =>
    exact ⟨before, browser, hbefore, hlater, refreshToken, result, hget, signIn, hsignIn, response,
      htokens, hreturned result rfl⟩
  | start | loading | savingExpired | findingUser | savingUsed | recording | rejecting | threw =>
    cases hdone

end ChatSC.Spec
