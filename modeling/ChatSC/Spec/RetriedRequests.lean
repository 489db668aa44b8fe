import ChatSC.Spec.SharedRefresh

/-!
# A retry and the session

The `try` block of the response interceptor holds the retry as well as the refresh, so its `catch`
block ends the session on every error of the retry.  The session is kept through every retry that is
not refused for authentication exactly when no such error comes back (`keeps_iff_mayEnd`).
-/

namespace ChatSC.Spec

open Frontend JsString Records Transition

/-! ## The session -/

/-- The access token and the authenticated state of the store. -/
def authState (state : HttpState) :
    Option JsString × Option (Option AuthUser × Option JsString × Bool) :=
  (state.accessToken,
    state.store.map fun store => (store.currentUser, store.accessToken, store.isAuthenticated))

/-- There is no session. -/
def SignedOut (state : HttpState) : Prop :=
  state.accessToken = none ∧ ∀ store, state.store = some store →
    store.currentUser = none ∧ store.accessToken = none ∧ store.isAuthenticated = false

theorem authState_setRequest (state : HttpState) (index : Nat) (request : HttpRequest) :
    authState (state.setRequest index request) = authState state := rfl

/-- The `catch` block leaves the session alone only where there is none. -/
theorem authState_caught_iff (state : HttpState) :
    authState state.caught = authState state ↔ SignedOut state := by
  cases hstore : state.store with
  | none =>
    -- without a store only the token is cleared
    have hcaught : authState state.caught = (none, none) := by
      simp [authState, HttpState.caught, HttpState.authFailure, HttpState.setAccessToken, hstore]
    rw [hcaught, authState, SignedOut, hstore]
    constructor
    · intro h
      exact ⟨(Prod.mk.inj h).1.symm, fun store hsome => by cases hsome⟩
    · rintro ⟨htoken, -⟩
      rw [htoken]
      rfl
  | some store =>
    -- `clearSession` resets the three fields of the store
    have hcaught : authState state.caught = (none, some (none, none, false)) := by
      simp [authState, HttpState.caught, HttpState.authFailure, HttpState.setAccessToken, hstore,
        AuthStore.clearSession]
    rw [hcaught, authState, SignedOut, hstore]
    constructor
    · intro h
      obtain ⟨htoken, hsome⟩ := Prod.mk.inj h
      have htriple : (none, none, false) =
          (store.currentUser, store.accessToken, store.isAuthenticated) := Option.some.inj hsome
      obtain ⟨huser, hrest⟩ := Prod.mk.inj htriple
      obtain ⟨htoken', hauthenticated⟩ := Prod.mk.inj hrest
      refine ⟨htoken.symm, fun other hother => ?_⟩
      obtain rfl := Option.some.inj hother
      exact ⟨huser.symm, htoken'.symm, hauthenticated.symm⟩
    · rintro ⟨htoken, hstore'⟩
      obtain ⟨huser, htoken', hauthenticated⟩ := hstore' store rfl
      rw [htoken, Option.map_some, huser, htoken', hauthenticated]

/-! ## What a retry comes to -/

/-- An answer to a request that has been transmitted again arrives, or is handled on its way back. -/
def RetryAnswered (state : HttpState) (event : HttpEvent) (index : Nat) (answer : HttpAnswer) : Prop :=
  ∃ request, state.requests[index]? = some request ∧ request.transmissions.length = 2 ∧
    (event = .respond index answer ∧ request.status = .sent ∨
      event = .unwind index ∧ request.status = .settling answer)

/-- The retry is itself refused for authentication. -/
def RefusedForAuth : HttpAnswer → Prop
  | .response _ => False
  | .error error => error.status = some 401

/-- The answer is on its way back to the caller, or has been given to it. -/
def GoesBack (request : HttpRequest) (answer : HttpAnswer) : Prop :=
  request.status = .settling answer ∨ request.status = .returned answer

/-- What a retry comes to, other than a refusal for authentication, leaves the session alone and goes
    back to the caller as it is. -/
def Keeps (state : HttpState) (event : HttpEvent) : Prop :=
  ∀ index answer state', RetryAnswered state event index answer → ¬ RefusedForAuth answer →
    state.step event = some state' → authState state' = authState state ∧
      ∃ request', state'.requests[index]? = some request' ∧ GoesBack request' answer

/-- A handler goes on with an error of its retry only if it is a 401, or if there is no session. -/
def MayEnd (state : HttpState) (event : HttpEvent) : Prop :=
  ∀ (index : Nat) (request : HttpRequest) error, event = .unwind index →
    state.requests[index]? = some request → request.status = .settling (.error error) →
    request.frames ≠ 0 → error.status = some 401 ∨ SignedOut state

theorem getElem?_setRequest {state : HttpState} {index : Nat} {request new : HttpRequest}
    (h : state.requests[index]? = some request) :
    (state.setRequest index new).requests[index]? = some new :=
  List.getElem?_set_self (List.getElem?_eq_some_iff.mp h).1

/-- Where errors only come back so, retries leave the session alone. -/
theorem keeps_of_mayEnd {state : HttpState} {event : HttpEvent} (hinv : HttpInv state)
    (h : MayEnd state event) : Keeps state event := by
  rintro index answer state' ⟨request, hrequest, hcount, hkind⟩ hrefused hstep
  have hcounted := hinv.counted index request hrequest
  rcases hkind with ⟨rfl, hstatus⟩ | ⟨rfl, hstatus⟩
  · cases httpStep_of_step hstep with
    | answer hrequest' hstatus' answer hanswer =>
      exact ⟨rfl, _, getElem?_setRequest hrequest, .inl rfl⟩
    | refresh hrequest' hstatus' hrefresh =>
      -- a request that has been transmitted twice carries its flag
      obtain rfl := Option.some.inj (hrequest.symm.trans hrequest')
      have hretry := retry_of_mayRefresh hrefresh
      rw [HandlersCounted, hstatus, hretry] at hcounted
      exact absurd (hcounted.2.symm.trans hcount) (by decide)
  · cases httpStep_of_step hstep with
    | deliver hrequest' hstatus' hframes =>
      obtain rfl := Option.some.inj (hrequest.symm.trans hrequest')
      cases hstatus.symm.trans hstatus'
      exact ⟨rfl, _, getElem?_setRequest hrequest, .inr rfl⟩
    | passResponse hrequest' hstatus' hframes =>
      obtain rfl := Option.some.inj (hrequest.symm.trans hrequest')
      exact ⟨rfl, _, getElem?_setRequest hrequest, .inl hstatus⟩
    | passError hrequest' hstatus' hframes =>
      obtain rfl := Option.some.inj (hrequest.symm.trans hrequest')
      cases hstatus.symm.trans hstatus'
      have hne : request.frames ≠ 0 := by
        rw [hframes]
        exact Nat.succ_ne_zero _
      rcases h index request _ rfl hrequest hstatus hne with hauth | hout
      · exact absurd hauth hrefused
      · rw [authState_setRequest]
        rw [← requests_caught] at hrequest
        exact ⟨(authState_caught_iff state).mpr hout, _, getElem?_setRequest hrequest, .inl hstatus⟩

/-- An error of a retry that ends the session does not leave it alone. -/
theorem mayEnd_of_keeps {state : HttpState} {event : HttpEvent} (hinv : HttpInv state)
    (h : Keeps state event) : MayEnd state event := by
  rintro index request error rfl hrequest hstatus hframes
  by_contra hno
  obtain ⟨hauth, hin⟩ := not_or.mp hno
  obtain ⟨frames, hframes⟩ := Nat.exists_eq_succ_of_ne_zero hframes
  -- a request whose handler waits for its retry has been transmitted twice
  have hcount : request.transmissions.length = 2 := by
    have hcounted := hinv.counted index request hrequest
    rw [HandlersCounted, hstatus] at hcounted
    cases hretry : request.retry with
    | false =>
      rw [hretry] at hcounted
      exact absurd (hframes.symm.trans hcounted.1) (Nat.succ_ne_zero _)
    | true =>
      rw [hretry] at hcounted
      rcases hcounted with ⟨-, htwo⟩ | ⟨hzero, -⟩
      · exact htwo
      · exact absurd (hframes.symm.trans hzero) (Nat.succ_ne_zero _)
  have hstep : state.step (.unwind index) =
      some (state.caught.setRequest index { request with frames := frames }) := by
    simp only [HttpState.step, hrequest, hstatus, HttpState.unwind, hframes]
  obtain ⟨hsame, -⟩ := h index (.error error) _ ⟨request, hrequest, hcount, .inr ⟨rfl, hstatus⟩⟩
    hauth hstep
  rw [authState_setRequest] at hsame
  exact hin ((authState_caught_iff state).mp hsame)

theorem keeps_iff_mayEnd {state : HttpState} {event : HttpEvent} (hinv : HttpInv state) :
    Keeps state event ↔ MayEnd state event :=
  ⟨mayEnd_of_keeps hinv, keeps_of_mayEnd hinv⟩

/-- In every run retries leave the session alone exactly when no handler goes on with an error other
    than a 401 while there is a session, and callers get the last answer of the server. -/
theorem sessionKept_iff (storedToken : Option JsString) (events : List HttpEvent) :
    (Guarded HttpState.step Keeps (.load storedToken) events ↔
      Guarded HttpState.step MayEnd (.load storedToken) events) ∧
    ∀ state, run HttpState.step (.load storedToken) events = some state →
      ∀ (index : Nat) (request : HttpRequest) answer, state.requests[index]? = some request →
        request.status = .returned answer → request.answers.getLast? = some answer := by
  refine ⟨⟨?_, ?_⟩, ?_⟩
  · exact Guarded.of_invariant (fun _ _ _ hinv _ hstep => HttpInv.step hinv hstep)
      (fun _ _ hinv => (keeps_iff_mayEnd hinv).mp) (httpInv_load storedToken)
  · exact Guarded.of_invariant (fun _ _ _ hinv _ hstep => HttpInv.step hinv hstep)
      (fun _ _ hinv => (keeps_iff_mayEnd hinv).mpr) (httpInv_load storedToken)
  · intro state hrun index request answer hrequest hstatus
    have hlast := (httpInv_run hrun).last index request hrequest
    rwa [LastAnswer, hstatus] at hlast

/-- The retry of request 0 is answered, and its caller gets the answer. -/
def retryComesTo (answer : HttpAnswer) : List HttpEvent :=
  signedIn ++ refreshedOnce ++ [.respond 0 answer, .unwind 0, .unwind 0]

/-- `sessionKept_iff` for a retry that succeeds. -/
theorem sessionKept_success : ∃ state,
    run HttpState.step (.load none) (retryComesTo (.response ⟨200, none, none, []⟩)) = some state ∧
      state.accessToken = some (js "t2") ∧
      ∀ (index : Nat) (request : HttpRequest) answer, state.requests[index]? = some request →
        request.status = .returned answer → request.answers.getLast? = some answer :=
  ⟨_, rfl, rfl, (sessionKept_iff none (retryComesTo (.response ⟨200, none, none, []⟩))).2 _ rfl⟩

/-- A retry that is answered with an error of the application ends the session. -/
theorem session_lost_with_business_error : ¬ Guarded HttpState.step Keeps (.load none)
    (retryComesTo (.error (.response 400 (some (js "VALIDATION_ERROR")) []))) := by
  intro h
  have hsplit : Guarded HttpState.step Keeps (.load none) ((signedIn ++ refreshedOnce ++
      [.respond 0 (.error (.response 400 (some (js "VALIDATION_ERROR")) []))]) ++
        [.unwind 0, .unwind 0]) := h
  have hlast := (hsplit.right rfl).1
  obtain ⟨hauth, -⟩ := hlast 0 _ _ ⟨_, rfl, rfl, .inr ⟨rfl, rfl⟩⟩ 
    (fun hrefused => by cases hrefused) rfl
  cases hauth

end ChatSC.Spec
