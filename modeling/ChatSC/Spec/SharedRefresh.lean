import ChatSC.Frontend.Http
import ChatSC.ForStd.Records
import ChatSC.ForStd.Transition

/-!
# One refresh for all requests

`HttpStep` says once what each event of the web client does.  A refresh that is not over is the one of
`refreshPromise`, and a request counts its handlers and its transmissions with its `_retry` flag
(`HttpRequest.Counted`), so that it is transmitted at most twice.
-/

namespace ChatSC.Spec

open Frontend JsString Records Transition

/-! ## What an event does -/

/-- What one event does, for each way through its handler. -/
inductive HttpStep (state : HttpState) : HttpEvent → HttpState → Prop where
  | createStore (hstore : state.store = none) :
    HttpStep state .createStore { state with store := some .initial }
  | setAccessToken (token : Option JsString) :
    HttpStep state (.setAccessToken token) (state.setAccessToken token)
  | authenticate {store : AuthStore} (hstore : state.store = some store) (token : JsString)
      (user : AuthUser) :
    HttpStep state (.authenticate token user)
      { state.setAccessToken (some token) with
        store := some (.authenticated (some token) (some user)) }
  | clearSession {store : AuthStore} (hstore : state.store = some store) :
    HttpStep state .clearSession state.authFailure
  | startHydration {store : AuthStore} (hstore : state.store = some store) :
    HttpStep state .startHydration { state with store := some { store with isHydrating := true } }
  | setErrorMessage {store : AuthStore} (hstore : state.store = some store)
      (message : Option JsString) :
    HttpStep state (.setErrorMessage message)
      { state with store := some { store with errorMessage := message } }
  | request (skipAuthRefresh : Bool) :
    HttpStep state (.request skipAuthRefresh)
      { state with requests := state.requests ++ [.create skipAuthRefresh] }
  | transmit {index : Nat} {request : HttpRequest} (hrequest : state.requests[index]? = some request)
      (hstatus : request.status = .prepared) :
    HttpStep state (.transmit index) (state.setRequest index (state.transmit request))
  | answer {index : Nat} {request : HttpRequest} (hrequest : state.requests[index]? = some request)
      (hstatus : request.status = .sent) (answer : HttpAnswer)
      (hanswer : ∀ error, answer = .error error → HttpState.mayRefresh request error = false) :
    HttpStep state (.respond index answer)
      (state.setRequest index
        { request with answers := request.answers ++ [answer], status := .settling answer })
  | refresh {index : Nat} {request : HttpRequest} (hrequest : state.requests[index]? = some request)
      (hstatus : request.status = .sent) {error : AxiosError}
      (hrefresh : HttpState.mayRefresh request error = true) :
    HttpStep state (.respond index (.error error))
      (state.runSharedRefresh.2.setRequest index
        { request with
          answers := request.answers ++ [.error error]
          retry := true
          status := .waiting state.runSharedRefresh.1 error })
  | retry {index : Nat} {request : HttpRequest} (hrequest : state.requests[index]? = some request)
      {refresh : Option Nat} {error : AxiosError} (hstatus : request.status = .waiting refresh error)
      {token : Option JsString} (hover : state.refreshedToken refresh = some token)
      (htoken : isToken token = true) :
    HttpStep state (.resume index)
      (state.setRequest index
        { request with
          authorization := some (bearer token)
          frames := request.frames + 1
          status := .prepared })
  | giveUp {index : Nat} {request : HttpRequest} (hrequest : state.requests[index]? = some request)
      {refresh : Option Nat} {error : AxiosError} (hstatus : request.status = .waiting refresh error)
      {token : Option JsString} (hover : state.refreshedToken refresh = some token)
      (htoken : isToken token = false) :
    HttpStep state (.resume index)
      (state.authFailure.caught.setRequest index { request with status := .settling (.error error) })
  | deliver {index : Nat} {request : HttpRequest} (hrequest : state.requests[index]? = some request)
      {answer : HttpAnswer} (hstatus : request.status = .settling answer)
      (hframes : request.frames = 0) :
    HttpStep state (.unwind index)
      (state.setRequest index { request with status := .returned answer })
  | passResponse {index : Nat} {request : HttpRequest}
      (hrequest : state.requests[index]? = some request) {response : AxiosResponse}
      (hstatus : request.status = .settling (.response response)) {frames : Nat}
      (hframes : request.frames = frames + 1) :
    HttpStep state (.unwind index) (state.setRequest index { request with frames := frames })
  | passError {index : Nat} {request : HttpRequest}
      (hrequest : state.requests[index]? = some request) {error : AxiosError}
      (hstatus : request.status = .settling (.error error)) {frames : Nat}
      (hframes : request.frames = frames + 1) :
    HttpStep state (.unwind index) (state.caught.setRequest index { request with frames := frames })
  | settleRefresh {index source : Nat}
      (hrefresh : state.refreshes[index]? = some { request := source, status := .pending })
      {request : HttpRequest} (hrequest : state.requests[source]? = some request)
      {answer : HttpAnswer} (hstatus : request.status = .returned answer) :
    HttpStep state (.settleRefresh index)
      { (state.refreshAccessToken answer).2 with
        refreshes := (state.refreshAccessToken answer).2.refreshes.set index
          { request := source, status := .settled (state.refreshAccessToken answer).1 } }
  | finishRefresh {index source : Nat} {token : Option JsString}
      (hrefresh : state.refreshes[index]? = some { request := source, status := .settled token }) :
    HttpStep state (.finishRefresh index)
      { state with
        refreshPromise := none
        refreshes := state.refreshes.set index { request := source, status := .finished token } }

theorem httpStep_of_respond {state : HttpState} {index : Nat} {request : HttpRequest}
    (hrequest : state.requests[index]? = some request) (hstatus : request.status = .sent)
    (answer : HttpAnswer) :
    HttpStep state (.respond index answer) (state.respond index request answer) := by
  cases answer with
  | response response => exact .answer hrequest hstatus _ fun error h => by cases h
  | error error =>
    unfold HttpState.respond
    -- the interceptor tries a refresh, or hands the error on
    by_cases hrefresh : HttpState.mayRefresh request error = true
    · simp only [if_pos hrefresh]
      exact .refresh hrequest hstatus hrefresh
    · simp only [if_neg hrefresh]
      refine .answer hrequest hstatus _ ?_
      rintro error' ⟨⟩
      exact Bool.eq_false_iff.mpr hrefresh

theorem httpStep_of_unwind {state : HttpState} {index : Nat} {request : HttpRequest}
    (hrequest : state.requests[index]? = some request) {answer : HttpAnswer}
    (hstatus : request.status = .settling answer) :
    HttpStep state (.unwind index) (state.unwind index request answer) := by
  unfold HttpState.unwind
  split
  · rename_i hframes
    exact .deliver hrequest hstatus hframes
  · rename_i hframes
    exact .passResponse hrequest hstatus hframes
  · rename_i hframes
    exact .passError hrequest hstatus hframes

/-- Every event is one of them. -/
theorem httpStep_of_step {state state' : HttpState} {event : HttpEvent}
    (h : state.step event = some state') : HttpStep state event state' := by
  cases event with
  | createStore =>
    simp only [HttpState.step] at h
    split at h
    · rename_i hstore
      cases h
      exact .createStore hstore
    · cases h
  | setAccessToken token =>
    cases h
    exact .setAccessToken token
  | authenticate token user =>
    obtain ⟨store, hstore, rfl⟩ := Option.map_eq_some_iff.mp h
    exact .authenticate hstore token user
  | clearSession =>
    obtain ⟨store, hstore, rfl⟩ := Option.map_eq_some_iff.mp h
    exact .clearSession hstore
  | startHydration =>
    obtain ⟨store, hstore, rfl⟩ := Option.map_eq_some_iff.mp h
    exact .startHydration hstore
  | setErrorMessage message =>
    obtain ⟨store, hstore, rfl⟩ := Option.map_eq_some_iff.mp h
    exact .setErrorMessage hstore message
  | request skipAuthRefresh =>
    cases h
    exact .request skipAuthRefresh
  | transmit index =>
    simp only [HttpState.step] at h
    split at h
    · rename_i request hrequest
      obtain ⟨hstatus, ⟨⟩⟩ := Option.ite_none_right_eq_some.mp h
      exact .transmit hrequest hstatus
    · cases h
  | respond index answer =>
    simp only [HttpState.step] at h
    split at h
    · rename_i request hrequest
      obtain ⟨hstatus, ⟨⟩⟩ := Option.ite_none_right_eq_some.mp h
      exact httpStep_of_respond hrequest hstatus answer
    · cases h
  | resume index =>
    simp only [HttpState.step] at h
    split at h
    · rename_i request hrequest
      split at h
      · rename_i refresh error hstatus
        -- the refresh is over: with a token the handler retries, without one it gives up
        obtain ⟨token, hover, rfl⟩ := Option.map_eq_some_iff.mp h
        unfold HttpState.resume
        by_cases htoken : isToken token = true
        · rw [if_pos htoken]
          exact .retry hrequest hstatus hover htoken
        · rw [if_neg htoken]
          exact .giveUp hrequest hstatus hover (Bool.eq_false_iff.mpr htoken)
      · cases h
    · cases h
  | unwind index =>
    simp only [HttpState.step] at h
    split at h
    · rename_i request hrequest
      split at h
      · rename_i answer hstatus
        cases h
        exact httpStep_of_unwind hrequest hstatus
      · cases h
    · cases h
  | settleRefresh index =>
    simp only [HttpState.step] at h
    split at h
    · rename_i source hrefresh
      split at h
      · rename_i answer hanswer
        -- the request of the refresh has come back
        obtain ⟨request, hrequest, hstatus⟩ := Option.map_eq_some_iff.mp hanswer
        cases h
        exact .settleRefresh hrefresh hrequest hstatus
      · cases h
    · cases h
  | finishRefresh index =>
    simp only [HttpState.step] at h
    split at h
    · rename_i source token hrefresh
      cases h
      exact .finishRefresh hrefresh
    · cases h

/-! ## What the session does not touch -/

section Session

variable (state : HttpState) (token : Option JsString)

@[simp] theorem requests_setAccessToken : (state.setAccessToken token).requests = state.requests := rfl

@[simp] theorem refreshes_setAccessToken :
    (state.setAccessToken token).refreshes = state.refreshes := rfl

@[simp] theorem refreshPromise_setAccessToken :
    (state.setAccessToken token).refreshPromise = state.refreshPromise := rfl

@[simp] theorem requests_authFailure : state.authFailure.requests = state.requests := by
  unfold HttpState.authFailure
  split <;> rfl

@[simp] theorem refreshes_authFailure : state.authFailure.refreshes = state.refreshes := by
  unfold HttpState.authFailure
  split <;> rfl

@[simp] theorem refreshPromise_authFailure :
    state.authFailure.refreshPromise = state.refreshPromise := by
  unfold HttpState.authFailure
  split <;> rfl

@[simp] theorem requests_caught : state.caught.requests = state.requests :=
  requests_authFailure _

@[simp] theorem refreshes_caught : state.caught.refreshes = state.refreshes :=
  refreshes_authFailure _

@[simp] theorem refreshPromise_caught : state.caught.refreshPromise = state.refreshPromise :=
  refreshPromise_authFailure _

variable (answer : HttpAnswer)

@[simp] theorem requests_refreshAccessToken :
    (state.refreshAccessToken answer).2.requests = state.requests := by
  cases answer with
  | response response => rfl
  | error error => exact requests_authFailure _

@[simp] theorem refreshes_refreshAccessToken :
    (state.refreshAccessToken answer).2.refreshes = state.refreshes := by
  cases answer with
  | response response => rfl
  | error error => exact refreshes_authFailure _

@[simp] theorem refreshPromise_refreshAccessToken :
    (state.refreshAccessToken answer).2.refreshPromise = state.refreshPromise := by
  cases answer with
  | response response => rfl
  | error error => exact refreshPromise_authFailure _

end Session

/-! ## At most one refresh -/

/-- The promise has been handed on: its `finally` has run. -/
def isOver : RefreshStatus → Bool
  | .finished _ => true
  | _ => false

/-- A refresh of the response interceptor that is not over yet. -/
def RefreshPending (state : HttpState) (index : Nat) : Prop :=
  ∃ refresh, state.refreshes[index]? = some refresh ∧ isOver refresh.status = false

/-- A refresh that is not over is the shared one, and only with a store is there any. -/
structure Shared (state : HttpState) : Prop where
  promise : ∀ index, RefreshPending state index → state.refreshPromise = some index
  store : ∀ refresh ∈ state.refreshes, state.store ≠ none

theorem shared_load (storedToken : Option JsString) : Shared (.load storedToken) where
  promise index h := by
    obtain ⟨refresh, hrefresh, _⟩ := h
    cases hrefresh
  store refresh h := absurd h List.not_mem_nil

/-- Shared refreshes depend on three fields. -/
theorem Shared.congr {state state' : HttpState} (h : Shared state)
    (hrefreshes : state'.refreshes = state.refreshes)
    (hpromise : state'.refreshPromise = state.refreshPromise)
    (hstore : state.store ≠ none → state'.store ≠ none) : Shared state' where
  promise index hpending := by
    rw [RefreshPending, hrefreshes] at hpending
    rw [hpromise]
    exact h.promise index hpending
  store refresh hrefresh := hstore (h.store refresh (hrefreshes ▸ hrefresh))

theorem store_authFailure {state : HttpState} (h : state.store ≠ none) :
    state.authFailure.store ≠ none := by
  unfold HttpState.authFailure
  split
  · exact h
  · exact Option.some_ne_none _

theorem store_caught {state : HttpState} (h : state.store ≠ none) : state.caught.store ≠ none := by
  have hset : (state.setAccessToken none).store ≠ none := h
  exact store_authFailure hset

/-- A refresh starts when none is under way. -/
theorem Shared.runSharedRefresh {state : HttpState} (h : Shared state) :
    Shared state.runSharedRefresh.2 := by
  unfold HttpState.runSharedRefresh
  split
  · exact h
  · exact h
  · -- no refresh was under way, so the new one is the only one
    rename_i store hstore hnone
    constructor
    · rintro index ⟨refresh, hrefresh, hover⟩
      rcases getElem?_concat_eq_some.mp hrefresh with ⟨rfl, -⟩ | hold
      · rfl
      · have hpromise := h.promise index ⟨refresh, hold, hover⟩
        rw [hnone] at hpromise
        cases hpromise
    · intro refresh _
      rw [hstore]
      exact Option.some_ne_none _

/-- A refresh whose status is set: it is not over only if it has not been before. -/
theorem refreshPending_set {state : HttpState} {index other : Nat} {old new : SharedRefresh}
    (hold : state.refreshes[index]? = some old) (hover : isOver old.status = false)
    (h : ∃ refresh, (state.refreshes.set index new)[other]? = some refresh ∧
      isOver refresh.status = false) : RefreshPending state other := by
  obtain ⟨refresh, hrefresh, hpending⟩ := h
  rcases (getElem?_set_eq_some hold).mp hrefresh with ⟨rfl, -⟩ | ⟨-, hsame⟩
  · exact ⟨old, hold, hover⟩
  · exact ⟨refresh, hsame, hpending⟩

/-- Every event keeps refreshes shared. -/
theorem Shared.step {state state' : HttpState} {event : HttpEvent} (h : Shared state)
    (hstep : HttpStep state event state') : Shared state' := by
  cases hstep with
  | createStore hstore => exact h.congr rfl rfl fun _ => Option.some_ne_none _
  | setAccessToken token => exact h.congr rfl rfl id
  | authenticate hstore token user => exact h.congr rfl rfl fun _ => Option.some_ne_none _
  | clearSession hstore => exact h.congr (by simp) (by simp) store_authFailure
  | startHydration hstore => exact h.congr rfl rfl fun _ => Option.some_ne_none _
  | setErrorMessage hstore message => exact h.congr rfl rfl fun _ => Option.some_ne_none _
  | request skipAuthRefresh => exact h.congr rfl rfl id
  | transmit hrequest hstatus => exact h.congr rfl rfl id
  | answer hrequest hstatus answer hanswer => exact h.congr rfl rfl id
  | refresh hrequest hstatus hrefresh => exact h.runSharedRefresh.congr rfl rfl id
  | retry hrequest hstatus hover htoken => exact h.congr rfl rfl id
  | giveUp hrequest hstatus hover htoken =>
    exact h.congr (by simp [HttpState.setRequest]) (by simp [HttpState.setRequest])
      fun hstore => store_caught (store_authFailure hstore)
  | deliver hrequest hstatus hframes => exact h.congr rfl rfl id
  | passResponse hrequest hstatus hframes => exact h.congr rfl rfl id
  | passError hrequest hstatus hframes =>
    exact h.congr (by simp [HttpState.setRequest]) (by simp [HttpState.setRequest]) store_caught
  | settleRefresh hrefresh hrequest hstatus =>
    rename_i index source request answer
    constructor
    · intro other hpending
      rw [RefreshPending, refreshes_refreshAccessToken] at hpending
      rw [refreshPromise_refreshAccessToken]
      exact h.promise other (refreshPending_set hrefresh rfl hpending)
    · intro refresh _
      have hstore := h.store _ (List.mem_of_getElem? hrefresh)
      cases answer with
      | response response => exact Option.some_ne_none _
      | error error => exact store_authFailure hstore
  | finishRefresh hrefresh =>
    rename_i index source token
    constructor
    · intro other hpending
      -- the one that was not over is over now
      have hbefore := h.promise other (refreshPending_set hrefresh rfl hpending)
      have hindex := h.promise index ⟨_, hrefresh, rfl⟩
      obtain rfl : other = index := Option.some.inj (hbefore.symm.trans hindex)
      obtain ⟨refresh, hnew, hover⟩ := hpending
      rcases (getElem?_set_eq_some hrefresh).mp hnew with ⟨-, rfl⟩ | ⟨hne, -⟩
      · cases hover
      · exact absurd rfl hne
    · intro refresh _
      exact h.store _ (List.mem_of_getElem? hrefresh)

/-! ## At most two transmissions -/

/-- What an event does to a request. -/
inductive RequestStep (request : HttpRequest) : HttpRequest → Prop where
  | transmit (hstatus : request.status = .prepared) (authorization : Option JsString) :
    RequestStep request
      { request with
        authorization := authorization
        status := .sent
        transmissions := request.transmissions ++ [authorization] }
  | answer (hstatus : request.status = .sent) (answer : HttpAnswer) :
    RequestStep request
      { request with answers := request.answers ++ [answer], status := .settling answer }
  | refresh (hstatus : request.status = .sent) (hretry : request.retry = false)
      (refresh : Option Nat) (error : AxiosError) :
    RequestStep request
      { request with
        answers := request.answers ++ [.error error]
        retry := true
        status := .waiting refresh error }
  | retry {refresh : Option Nat} {error : AxiosError}
      (hstatus : request.status = .waiting refresh error) (authorization : Option JsString) :
    RequestStep request
      { request with
        authorization := authorization
        frames := request.frames + 1
        status := .prepared }
  | giveUp {refresh : Option Nat} {error : AxiosError}
      (hstatus : request.status = .waiting refresh error) :
    RequestStep request { request with status := .settling (.error error) }
  | deliver {answer : HttpAnswer} (hstatus : request.status = .settling answer)
      (hframes : request.frames = 0) :
    RequestStep request { request with status := .returned answer }
  | pass {answer : HttpAnswer} (hstatus : request.status = .settling answer) {frames : Nat}
      (hframes : request.frames = frames + 1) :
    RequestStep request { request with frames := frames }

theorem retry_of_mayRefresh {request : HttpRequest} {error : AxiosError}
    (h : HttpState.mayRefresh request error = true) : request.retry = false := by
  cases hretry : request.retry with
  | false => rfl
  | true => simp [HttpState.mayRefresh, hretry] at h

/-- A refresh makes one request, or none. -/
theorem requests_runSharedRefresh (state : HttpState) :
    state.runSharedRefresh.2.requests = state.requests ∨
      state.runSharedRefresh.2.requests = state.requests ++ [.create true] := by
  unfold HttpState.runSharedRefresh
  split
  · exact .inl rfl
  · exact .inl rfl
  · exact .inr rfl

theorem runSharedRefresh_keeps {state : HttpState} {index : Nat} {request : HttpRequest}
    (h : state.requests[index]? = some request) :
    state.runSharedRefresh.2.requests[index]? = some request := by
  rcases requests_runSharedRefresh state with hsame | hnew
  · rw [hsame, h]
  · rw [hnew]
    exact getElem?_concat_eq_some.mpr (.inr h)

/-- After an event a request is as it was, or new, or has taken a step. -/
theorem request_cases {state state' : HttpState} {event : HttpEvent}
    (h : HttpStep state event state') {index : Nat} {request' : HttpRequest}
    (hrequest' : state'.requests[index]? = some request') :
    state.requests[index]? = some request' ∨ (∃ skipAuthRefresh, request' = .create skipAuthRefresh) ∨
      ∃ request, state.requests[index]? = some request ∧ RequestStep request request' := by
  -- an event that sets one request leaves the others as they were
  have hset {requests : List HttpRequest} {i : Nat} {request new : HttpRequest}
      (hold : state.requests[i]? = some request)
      (hnow : (requests.set i new)[index]? = some request') (hsame : requests = state.requests)
      (hstep : RequestStep request new) : state.requests[index]? = some request' ∨
        (∃ skipAuthRefresh, request' = .create skipAuthRefresh) ∨
          ∃ request, state.requests[index]? = some request ∧ RequestStep request request' := by
    subst hsame
    rcases (getElem?_set_eq_some hold).mp hnow with ⟨rfl, rfl⟩ | ⟨-, hother⟩
    · exact .inr (.inr ⟨request, hold, hstep⟩)
    · exact .inl hother
  cases h with
  | createStore hstore => exact .inl hrequest'
  | setAccessToken token => exact .inl hrequest'
  | authenticate hstore token user => exact .inl hrequest'
  | clearSession hstore =>
    rw [requests_authFailure] at hrequest'
    exact .inl hrequest'
  | startHydration hstore => exact .inl hrequest'
  | setErrorMessage hstore message => exact .inl hrequest'
  | request skipAuthRefresh =>
    rcases getElem?_concat_eq_some.mp hrequest' with ⟨-, rfl⟩ | hold
    · exact .inr (.inl ⟨skipAuthRefresh, rfl⟩)
    · exact .inl hold
  | transmit hrequest hstatus => exact hset hrequest hrequest' rfl (.transmit hstatus _)
  | answer hrequest hstatus answer hanswer =>
    exact hset hrequest hrequest' rfl (.answer hstatus answer)
  | refresh hrequest hstatus hrefresh =>
    -- the refresh may add its own request behind the one that is set
    rcases (getElem?_set_eq_some (runSharedRefresh_keeps hrequest)).mp hrequest' with
      ⟨rfl, rfl⟩ | ⟨-, hother⟩
    · exact .inr (.inr ⟨_, hrequest, .refresh hstatus (retry_of_mayRefresh hrefresh) _ _⟩)
    · rcases requests_runSharedRefresh state with hsame | hnew
      · rw [hsame] at hother
        exact .inl hother
      · rw [hnew] at hother
        rcases getElem?_concat_eq_some.mp hother with ⟨-, rfl⟩ | hold
        · exact .inr (.inl ⟨true, rfl⟩)
        · exact .inl hold
  | retry hrequest hstatus hover htoken => exact hset hrequest hrequest' rfl (.retry hstatus _)
  | giveUp hrequest hstatus hover htoken =>
    exact hset hrequest hrequest' (by simp) (.giveUp hstatus)
  | deliver hrequest hstatus hframes => exact hset hrequest hrequest' rfl (.deliver hstatus hframes)
  | passResponse hrequest hstatus hframes =>
    exact hset hrequest hrequest' rfl (.pass hstatus hframes)
  | passError hrequest hstatus hframes =>
    exact hset hrequest hrequest' (by simp) (.pass hstatus hframes)
  | settleRefresh hrefresh hrequest hstatus =>
    rw [requests_refreshAccessToken] at hrequest'
    exact .inl hrequest'
  | finishRefresh hrefresh => exact .inl hrequest'

/-- The handlers and the transmissions of a request, with and without its `_retry` flag. -/
def HandlersCounted (request : HttpRequest) : Prop :=
  match request.status, request.retry with
  | .prepared, false => request.frames = 0 ∧ request.transmissions.length = 0
  | .prepared, true => request.frames = 1 ∧ request.transmissions.length = 1
  | .sent, false => request.frames = 0 ∧ request.transmissions.length = 1
  | .sent, true => request.frames = 1 ∧ request.transmissions.length = 2
  | .waiting _ _, false => False
  | .waiting _ _, true => request.frames = 0 ∧ request.transmissions.length = 1
  | .settling _, false => request.frames = 0 ∧ request.transmissions.length = 1
  | .settling _, true => request.frames = 1 ∧ request.transmissions.length = 2 ∨
      request.frames = 0 ∧ request.transmissions.length ≤ 2
  | .returned _, _ => request.transmissions.length ≤ 2

/-- What a request comes to is the last answer of the server. -/
def LastAnswer (request : HttpRequest) : Prop :=
  match request.status with
  | .prepared => True
  | .sent => True
  | .waiting _ error => request.answers.getLast? = some (.error error)
  | .settling answer => request.answers.getLast? = some answer
  | .returned answer => request.answers.getLast? = some answer

theorem handlersCounted_step {request request' : HttpRequest} (h : HandlersCounted request)
    (hstep : RequestStep request request') : HandlersCounted request' := by
  -- each step leads from the case of one status to that of the next; the flag tells which numbers
  cases hstep with
  | transmit hstatus authorization =>
    cases hretry : request.retry <;>
      simp_all [HandlersCounted]
  | answer hstatus answer =>
    cases hretry : request.retry <;>
      simp_all [HandlersCounted]
  | refresh hstatus hretry refresh error => simp_all [HandlersCounted]
  | retry hstatus authorization =>
    cases hretry : request.retry <;>
      simp_all [HandlersCounted]
  | giveUp hstatus =>
    cases hretry : request.retry <;>
      simp_all [HandlersCounted]
  | deliver hstatus hframes =>
    cases hretry : request.retry <;>
      simp_all [HandlersCounted]
  | pass hstatus hframes =>
    cases hretry : request.retry <;>
      simp_all [HandlersCounted]

theorem lastAnswer_step {request request' : HttpRequest} (h : LastAnswer request)
    (hstep : RequestStep request request') : LastAnswer request' := by
  cases hstep with
  | transmit hstatus authorization => trivial
  -- an answer is the last of those the request has had
  | answer hstatus answer => exact List.getLast?_concat
  | refresh hstatus hretry refresh error => exact List.getLast?_concat
  | retry hstatus authorization => trivial
  -- to end the request changes none of its answers
  | giveUp hstatus =>
    rw [LastAnswer, hstatus] at h
    exact h
  | deliver hstatus hframes =>
    rw [LastAnswer, hstatus] at h
    exact h
  | pass hstatus hframes =>
    rw [LastAnswer, hstatus] at h
    rw [LastAnswer, hstatus]
    exact h

/-! ## Runs -/

/-- What holds in every state of the web client. -/
structure HttpInv (state : HttpState) : Prop where
  shared : Shared state
  counted : ∀ (index : Nat) request, state.requests[index]? = some request → HandlersCounted request
  last : ∀ (index : Nat) request, state.requests[index]? = some request → LastAnswer request

theorem httpInv_load (storedToken : Option JsString) : HttpInv (.load storedToken) where
  shared := shared_load storedToken
  counted index request h := by cases h
  last index request h := by cases h

theorem HttpInv.step {state state' : HttpState} {event : HttpEvent} (h : HttpInv state)
    (hstep : state.step event = some state') : HttpInv state' where
  shared := h.shared.step (httpStep_of_step hstep)
  counted index request' hrequest' := by
    -- a request that has not moved, a new one, or the one that moved
    rcases request_cases (httpStep_of_step hstep) hrequest' with
      hold | ⟨skipAuthRefresh, rfl⟩ | ⟨request, hrequest, hrequestStep⟩
    · exact h.counted index request' hold
    · exact ⟨rfl, rfl⟩
    · exact handlersCounted_step (h.counted index request hrequest) hrequestStep
  last index request' hrequest' := by
    rcases request_cases (httpStep_of_step hstep) hrequest' with
      hold | ⟨skipAuthRefresh, rfl⟩ | ⟨request, hrequest, hrequestStep⟩
    · exact h.last index request' hold
    · trivial
    · exact lastAnswer_step (h.last index request hrequest) hrequestStep

theorem httpInv_run {storedToken : Option JsString} {events : List HttpEvent} {state : HttpState}
    (h : run HttpState.step (.load storedToken) events = some state) : HttpInv state :=
  run_invariant (fun _ _ _ hinv hstep => HttpInv.step hinv hstep) (httpInv_load storedToken) h

theorem HandlersCounted.transmissions_le {request : HttpRequest} (h : HandlersCounted request) :
    request.transmissions.length ≤ 2 := by
  unfold HandlersCounted at h
  split at h
  case h_5 => exact h.elim
  all_goals omega

/-- A request waits for a refresh. -/
def WaitsFor (state : HttpState) (index refresh : Nat) : Prop :=
  ∃ request error, state.requests[index]? = some request ∧
    request.status = .waiting (some refresh) error

/-- A 401 with code `access_token_expired` on a request without `skipAuthRefresh` that has not been
    retried. -/
structure Expired (request : HttpRequest) (error : AxiosError) : Prop where
  status : error.status = some 401
  code : error.code = some (js "access_token_expired")
  skipAuthRefresh : request.skipAuthRefresh = false
  retry : request.retry = false

theorem mayRefresh_iff {request : HttpRequest} {error : AxiosError} :
    HttpState.mayRefresh request error = true ↔ Expired request error := by
  constructor
  · intro h
    simp only [HttpState.mayRefresh, Bool.and_eq_true, Bool.not_eq_true', Bool.or_eq_false_iff,
      decide_eq_false_iff_not, not_not] at h
    exact ⟨h.2.1, h.2.2, h.1.1.2, h.1.2⟩
  · rintro ⟨hstatus, hcode, hskip, hretry⟩
    have hconfig : error.hasConfig = true := by
      cases error with
      | noConfig message => cases hstatus
      | noResponse message => rfl
      | response status code data => rfl
    simp [HttpState.mayRefresh, hstatus, hcode, hskip, hretry, hconfig]

/-- While a refresh is under way, a request that expires waits for it. -/
theorem waitsFor_of_expired {state state' : HttpState} (h : Shared state) {refresh index : Nat}
    (hpending : RefreshPending state refresh) {request : HttpRequest} {error : AxiosError}
    (hrequest : state.requests[index]? = some request) (hexpired : Expired request error)
    (hstep : state.step (.respond index (.error error)) = some state') :
    WaitsFor state' index refresh := by
  have hrefresh := mayRefresh_iff.mpr hexpired
  -- the promise of the pending refresh is the one that `runSharedRefresh` returns
  have hshared : state.runSharedRefresh = (some refresh, state) := by
    have hpromise := h.promise refresh hpending
    obtain ⟨running, hrunning, -⟩ := hpending
    have hstore := h.store running (List.mem_of_getElem? hrunning)
    unfold HttpState.runSharedRefresh
    split
    · contradiction
    · rename_i store other _ hother
      obtain rfl : other = refresh := Option.some.inj (hother.symm.trans hpromise)
      rfl
    · rename_i store _ hnone
      rw [hnone] at hpromise
      cases hpromise
  cases httpStep_of_step hstep with
  | answer hrequest' hstatus answer hanswer =>
    obtain rfl := Option.some.inj (hrequest.symm.trans hrequest')
    rw [hanswer error rfl] at hrefresh
    cases hrefresh
  | refresh hrequest' hstatus hrefresh' =>
    obtain rfl := Option.some.inj (hrequest.symm.trans hrequest')
    rw [hshared]
    exact ⟨_, error, List.getElem?_set_self (List.getElem?_eq_some_iff.mp hrequest).1, rfl⟩

/-- No refresh starts, and no request starts to wait. -/
structure Quiet (state state' : HttpState) : Prop where
  refreshes : state'.refreshes.length = state.refreshes.length
  waits : ∀ index refresh, WaitsFor state' index refresh → WaitsFor state index refresh

theorem quiet_of_eq {state state' : HttpState} (hrefreshes : state'.refreshes = state.refreshes)
    (hrequests : state'.requests = state.requests) : Quiet state state' where
  refreshes := by rw [hrefreshes]
  waits index refresh h := by rwa [WaitsFor, hrequests] at h

/-- A request that is set and does not wait. -/
theorem quiet_of_set {state state' : HttpState} {index : Nat} {old new : HttpRequest}
    (hold : state.requests[index]? = some old) (hrefreshes : state'.refreshes = state.refreshes)
    (hrequests : state'.requests = state.requests.set index new)
    (hnew : ∀ refresh error, new.status ≠ .waiting refresh error) : Quiet state state' where
  refreshes := by rw [hrefreshes]
  waits other refresh h := by
    obtain ⟨request, error, hrequest, hwaits⟩ := h
    rw [hrequests] at hrequest
    rcases (getElem?_set_eq_some hold).mp hrequest with ⟨-, rfl⟩ | ⟨-, hsame⟩
    · exact absurd hwaits (hnew _ _)
    · exact ⟨request, error, hsame, hwaits⟩

/-- Only a request that expires starts a refresh or waits for one. -/
theorem expired_or_quiet {state state' : HttpState} {event : HttpEvent}
    (hstep : state.step event = some state') :
    (∃ index request error, event = .respond index (.error error) ∧
      state.requests[index]? = some request ∧ Expired request error) ∨ Quiet state state' := by
  cases httpStep_of_step hstep with
  | createStore hstore => exact .inr (quiet_of_eq rfl rfl)
  | setAccessToken token => exact .inr (quiet_of_eq rfl rfl)
  | authenticate hstore token user => exact .inr (quiet_of_eq rfl rfl)
  | clearSession hstore => exact .inr (quiet_of_eq (by simp) (by simp))
  | startHydration hstore => exact .inr (quiet_of_eq rfl rfl)
  | setErrorMessage hstore message => exact .inr (quiet_of_eq rfl rfl)
  | request skipAuthRefresh =>
    -- a new request waits for nothing
    refine .inr ⟨rfl, ?_⟩
    rintro index refresh ⟨request, error, hrequest, hwaits⟩
    rcases getElem?_concat_eq_some.mp hrequest with ⟨-, rfl⟩ | hold
    · cases hwaits
    · exact ⟨request, error, hold, hwaits⟩
  | transmit hrequest hstatus =>
    exact .inr (quiet_of_set hrequest rfl rfl fun _ _ hwaits => by cases hwaits)
  | answer hrequest hstatus answer hanswer =>
    exact .inr (quiet_of_set hrequest rfl rfl fun _ _ hwaits => by cases hwaits)
  | refresh hrequest hstatus hrefresh =>
    -- the only event that calls `runSharedRefresh`
    exact .inl ⟨_, _, _, rfl, hrequest, mayRefresh_iff.mp hrefresh⟩
  | retry hrequest hstatus hover htoken =>
    exact .inr (quiet_of_set hrequest rfl rfl fun _ _ hwaits => by cases hwaits)
  | giveUp hrequest hstatus hover htoken =>
    exact .inr (quiet_of_set hrequest (by simp [HttpState.setRequest])
      (by simp [HttpState.setRequest]; rfl) fun _ _ hwaits => by cases hwaits)
  | deliver hrequest hstatus hframes =>
    exact .inr (quiet_of_set hrequest rfl rfl fun _ _ hwaits => by cases hwaits)
  | passResponse hrequest hstatus hframes =>
    refine .inr (quiet_of_set hrequest rfl rfl fun refresh error hwaits => ?_)
    cases hstatus.symm.trans hwaits
  | passError hrequest hstatus hframes =>
    refine .inr (quiet_of_set hrequest (by simp [HttpState.setRequest])
      (by simp [HttpState.setRequest]; rfl) fun refresh error hwaits => ?_)
    cases hstatus.symm.trans hwaits
  | settleRefresh hrefresh hrequest hstatus =>
    refine .inr ⟨?_, ?_⟩
    · simp
    · intro index refresh h
      rwa [WaitsFor, requests_refreshAccessToken] at h
  | finishRefresh hrefresh => exact .inr ⟨List.length_set, fun _ _ => id⟩

/-! ## A request that expires twice -/

/-- A 401 with code `access_token_expired`. -/
def expiredError : AxiosError := .response 401 (some (js "access_token_expired")) []

/-- A user with a session. -/
def signedIn : List HttpEvent :=
  [.createStore, .authenticate (js "t1") ⟨js "u1", js "u1@example.com", js "u1", js "U1", none⟩]

/-- Request 0 expires, and its refresh, with request 1, gives a new token. -/
def refreshedOnce : List HttpEvent :=
  [.request false, .transmit 0, .respond 0 (.error expiredError), .transmit 1,
    .respond 1 (.response ⟨200, some (js "t2"),
      some ⟨js "u1", js "u1@example.com", js "u1", js "U1", none⟩, []⟩),
    .unwind 1, .settleRefresh 0, .finishRefresh 0, .resume 0, .transmit 0]

/-- Request 2 starts another refresh while request 0 is with the server again. -/
def refreshingAgain : List HttpEvent :=
  signedIn ++ refreshedOnce ++ [.request false, .transmit 2, .respond 2 (.error expiredError)]

/-! ## The shared refresh -/

/-- One refresh at a time serves all requests, and each is transmitted at most twice. -/
theorem sharedRefresh_of_run {storedToken : Option JsString} {events : List HttpEvent}
    {state : HttpState} (hrun : run HttpState.step (.load storedToken) events = some state) :
    (∀ first second, RefreshPending state first → RefreshPending state second → first = second) ∧
    (∀ (index : Nat) (request : HttpRequest), state.requests[index]? = some request →
      request.transmissions.length ≤ 2) ∧
    (∀ (refresh index : Nat) (request : HttpRequest) error state', RefreshPending state refresh →
      state.requests[index]? = some request → Expired request error →
      state.step (.respond index (.error error)) = some state' → WaitsFor state' index refresh) ∧
    ∀ event state', state.step event = some state' →
      (state.refreshes.length < state'.refreshes.length ∨
        ∃ index refresh, WaitsFor state' index refresh ∧ ¬ WaitsFor state index refresh) →
      ∃ index request error, event = .respond index (.error error) ∧
        state.requests[index]? = some request ∧ Expired request error := by
  have hinv := httpInv_run hrun
  refine ⟨?_, ?_, ?_, ?_⟩
  · -- both are the refresh of the shared promise
    intro first second hfirst hsecond
    exact Option.some.inj ((hinv.shared.promise first hfirst).symm.trans
      (hinv.shared.promise second hsecond))
  · -- counted by the number of times the request was sent
    intro index request hrequest
    exact (hinv.counted index request hrequest).transmissions_le
  · -- the request that has expired joins the refresh that is there
    intro refresh index request error state' hpending hrequest hexpired hstep
    exact waitsFor_of_expired hinv.shared hpending hrequest hexpired hstep
  · -- what is not an expiry is quiet
    intro event state' hstep h
    rcases expired_or_quiet hstep with hexpired | hquiet
    · exact hexpired
    · rcases h with hstarts | ⟨index, refresh, hwaits, hno⟩
      · exact absurd hquiet.refreshes (Nat.ne_of_gt hstarts)
      · exact absurd (hquiet.waits index refresh hwaits) hno

/-- `sharedRefresh_of_run` during a refresh, for a request that is transmitted for the second time and
    for one more that expires: it joins the refresh. -/
theorem sharedRefresh_refreshingAgain : ∃ state state',
    run HttpState.step (.load none) (refreshingAgain ++ [.request false, .transmit 4]) =
      some state ∧ RefreshPending state 1 ∧
      (state.requests[0]?).map (·.transmissions.length) = some 2 ∧
      (∀ first second, RefreshPending state first → RefreshPending state second → first = second) ∧
      (∀ (index : Nat) (request : HttpRequest), state.requests[index]? = some request →
        request.transmissions.length ≤ 2) ∧
      state.step (.respond 4 (.error expiredError)) = some state' ∧ WaitsFor state' 4 1 := by
  have hrun := @sharedRefresh_of_run none (refreshingAgain ++ [.request false, .transmit 4]) _ rfl
  refine ⟨_, _, rfl, ⟨_, rfl, rfl⟩, rfl, hrun.1, hrun.2.1, rfl, ?_⟩
  exact hrun.2.2.1 1 4 _ expiredError _ ⟨_, rfl, rfl⟩ rfl ⟨rfl, rfl, rfl, rfl⟩ rfl

/-- A request that expires once more, after its retry, does not wait for the refresh under way. -/
theorem not_every_expired_waits : ¬ ∀ events state,
    run HttpState.step (.load none) events = some state →
      ∀ (refresh index : Nat) (request : HttpRequest) error state', RefreshPending state refresh →
        state.requests[index]? = some request → error.status = some 401 →
        error.code = some (js "access_token_expired") →
        state.step (.respond index (.error error)) = some state' →
        WaitsFor state' index refresh := by
  intro h
  obtain ⟨request, error, hrequest, hwaits⟩ :=
    h refreshingAgain _ rfl 1 0 _ expiredError _ ⟨_, rfl, rfl⟩ rfl rfl rfl rfl
  cases hrequest
  cases hwaits

end ChatSC.Spec
