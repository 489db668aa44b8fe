import ChatSC.ForStd.Records
import ChatSC.ForStd.Transition
import ChatSC.Native.DeviceClient

/-!
# Concurrent callers of one device

The driver keeps the response of the last `chat_write`, and a caller reads it with a later system
call.  `Isolated` says that a call that returns 0 returns the response to its own request.  It holds
along every run in which no `chat_write` falls between another call's `chat_write` and its
`chat_read` (`isolated_of_writesAlone`), and two callers are enough to break it otherwise.
-/

namespace ChatSC.Spec

open Native

/-- The response is the one that the driver computes from the request, for some memory behind it:
    the same message id, and the transform of the request's own fields. -/
def ResponseTo (request : ChatRequest) (response : ChatResponse) : Prop :=
  ∃ after, response = driverResponse ⟨request, after⟩

/-- Every call that has returned 0 has the response to its own request. -/
def Isolated (system : DeviceSystem) : Prop :=
  ∀ (index : Nat) request response,
    system.calls[index]? = some ⟨request, .returned 0 response⟩ → ResponseTo request response

/-- The call is between its `chat_write` and its `chat_read`. -/
def HasWritten : CallPc → Bool
  | .reading _ => true
  | _ => false

/-- A call writes while no other call is between its `chat_write` and its `chat_read`, except that
    it may write what the other call has written, if the copy into the driver succeeds. -/
def WritesAlone (system : DeviceSystem) : DeviceEvent → Prop
  | .write index _ fault => ∀ call ∈ system.calls[index]?, ∀ other ∈ system.calls,
      HasWritten other.pc = true → fault = none ∧ other.request = call.request
  | _ => True

instance (system : DeviceSystem) : (event : DeviceEvent) → Decidable (WritesAlone system event)
  | .write index _ fault => inferInstanceAs (Decidable (∀ call ∈ system.calls[index]?,
      ∀ other ∈ system.calls, HasWritten other.pc = true →
        fault = none ∧ other.request = call.request))
  | .call _ | .open _ _ | .read _ _ | .close _ => inferInstanceAs (Decidable True)

/-! ## What a response says -/

/-- The response to a request has its message id. -/
theorem ResponseTo.messageId {request : ChatRequest} {response : ChatResponse}
    (h : ResponseTo request response) : response.messageId = request.messageId := by
  obtain ⟨after, rfl⟩ := h
  rfl

/-- The payload of the response is the transform of the request's own fields. -/
theorem ResponseTo.payload {request : ChatRequest} {response : ChatResponse}
    (h : ResponseTo request response) :
    ∃ after, response.payload = (processPayload ⟨request, after⟩).1 := by
  obtain ⟨after, rfl⟩ := h
  exact ⟨after, rfl⟩

/-! ## The invariant -/

/-- What is known about a call at its place, for the driver it will read from. -/
def CallInv (driver : DriverState) (call : DeviceCall) : Prop :=
  match call.pc with
  | .reading _ => ResponseTo call.request driver.lastResponse
  | .closing result response => result = 0 → ResponseTo call.request response
  | .returned result response => result = 0 → ResponseTo call.request response
  | _ => True

/-- Every call is as it should be. -/
def DeviceInv (system : DeviceSystem) : Prop := ∀ call ∈ system.calls, CallInv system.driver call

/-- `open` neither uses nor needs the driver. -/
theorem callInv_open {driver : DriverState} {call call' : DeviceCall} {opened : Bool}
    (h : callOpen call opened = some call') : CallInv driver call' := by
  unfold callOpen at h
  split at h
  · split at h
    · cases h
      trivial
    · cases h
      intro hresult
      exact absurd hresult (by decide)
  · cases h

/-- After its `write` a call can read the response to its request. -/
theorem callInv_write {driver driver' : DriverState} {call call' : DeviceCall}
    {after : List UInt8} {fault : Option ChatRequest}
    (h : callWrite driver call after fault = some (driver', call')) : CallInv driver' call' := by
  unfold callWrite chatWrite at h
  split at h
  · cases fault with
    | none =>
      simp only [ne_eq, not_true_eq_false, ↓reduceIte, Option.some.injEq, Prod.mk.injEq] at h
      obtain ⟨rfl, rfl⟩ := h
      exact ⟨after, rfl⟩
    | some lastRequest =>
      simp only [ne_eq, not_true_eq_false, ↓reduceIte, Option.some.injEq, Prod.mk.injEq] at h
      obtain ⟨rfl, rfl⟩ := h
      intro hresult
      exact absurd hresult (by decide)
  · cases h

/-- What a `write` that succeeds leaves in the driver. -/
theorem lastResponse_write {driver driver' : DriverState} {call call' : DeviceCall}
    {after : List UInt8} (h : callWrite driver call after none = some (driver', call')) :
    ResponseTo call.request driver'.lastResponse := by
  unfold callWrite chatWrite at h
  split at h
  · simp only [ne_eq, not_true_eq_false, ↓reduceIte, Option.some.injEq, Prod.mk.injEq] at h
    obtain ⟨rfl, -⟩ := h
    exact ⟨after, rfl⟩
  · cases h

/-- A call that reads gets what the driver has. -/
theorem callInv_read {driver : DriverState} {call call' : DeviceCall}
    {fault : Option ChatResponse} (hcall : CallInv driver call)
    (h : callRead driver call fault = some call') : CallInv driver call' := by
  unfold callRead chatRead at h
  split at h
  · rename_i offset hpc
    simp only [CallInv, hpc] at hcall
    split at h
    · rename_i hread
      cases h
      -- only the last branch of `chat_read` copies a response
      split at hread
      · cases hread
      · split at hread
        · cases hread
        · split at hread
          · cases hread
          · cases hread
            exact fun _ => hcall
    · cases h
      intro hresult
      exact absurd hresult (by decide)
    · cases h
      intro hresult
      exact absurd hresult (by decide)
  · cases h

/-- Closing keeps the response. -/
theorem callInv_close {driver : DriverState} {call call' : DeviceCall}
    (hcall : CallInv driver call) (h : callClose call = some call') : CallInv driver call' := by
  unfold callClose at h
  split at h
  · rename_i hpc
    cases h
    simpa only [CallInv, hpc] using hcall
  · cases h

/-- Putting one call back keeps what is known about the others. -/
theorem DeviceInv.setCall {system : DeviceSystem} (h : DeviceInv system) (index : Nat)
    {call : DeviceCall} (hcall : CallInv system.driver call) :
    DeviceInv (system.setCall index call) := by
  intro other hother
  rcases List.mem_or_eq_of_mem_set hother with hmem | rfl
  · exact h other hmem
  · exact hcall

/-- A `write` that meets the condition leaves the other calls the responses to their requests. -/
theorem DeviceInv.write {system : DeviceSystem} (h : DeviceInv system) {index : Nat}
    {after : List UInt8} {fault : Option ChatRequest} {call call' : DeviceCall}
    {driver' : DriverState} (hget : system.calls[index]? = some call)
    (hok : WritesAlone system (.write index after fault))
    (hwrite : callWrite system.driver call after fault = some (driver', call')) :
    DeviceInv ({ system with driver := driver' }.setCall index call') := by
  apply DeviceInv.setCall _ index (callInv_write hwrite)
  intro other hother
  have hold : CallInv system.driver other := h other hother
  unfold CallInv at hold ⊢
  split
  · rename_i offset hpc
    -- the other call is about to read, so the condition speaks about it
    obtain ⟨rfl, hrequest⟩ := hok call hget other hother (by rw [hpc]; rfl)
    rw [hrequest]
    exact lastResponse_write hwrite
  · rename_i hpc
    simpa only [hpc] using hold
  · rename_i hpc
    simpa only [hpc] using hold
  · trivial

/-- A step that meets the condition keeps the invariant. -/
theorem DeviceInv.step {system system' : DeviceSystem} {event : DeviceEvent}
    (h : DeviceInv system) (hok : WritesAlone system event)
    (hstep : deviceStep system event = some system') : DeviceInv system' := by
  cases event with
  | call request =>
    cases hstep
    intro call hcall
    rcases List.mem_append.mp hcall with hmem | hmem
    · exact h call hmem
    · rw [List.mem_singleton.mp hmem]
      trivial
  | «open» index opened =>
    simp only [deviceStep, Option.bind_eq_bind, Option.bind_eq_some_iff, Option.pure_def,
      Option.some.injEq] at hstep
    obtain ⟨call, -, call', hopen, rfl⟩ := hstep
    -- opening, reading and closing touch one call only
    exact h.setCall index (callInv_open hopen)
  | write index after fault =>
    simp only [deviceStep, Option.bind_eq_bind, Option.bind_eq_some_iff, Option.pure_def,
      Option.some.injEq] at hstep
    obtain ⟨call, hget, ⟨driver', call'⟩, hwrite, rfl⟩ := hstep
    exact h.write hget hok hwrite
  | read index fault =>
    simp only [deviceStep, Option.bind_eq_bind, Option.bind_eq_some_iff, Option.pure_def,
      Option.some.injEq] at hstep
    obtain ⟨call, hget, call', hread, rfl⟩ := hstep
    exact h.setCall index (callInv_read (h call (List.mem_of_getElem? hget)) hread)
  | close index =>
    simp only [deviceStep, Option.bind_eq_bind, Option.bind_eq_some_iff, Option.pure_def,
      Option.some.injEq] at hstep
    obtain ⟨call, hget, call', hclose, rfl⟩ := hstep
    exact h.setCall index (callInv_close (h call (List.mem_of_getElem? hget)) hclose)

/-- **Calls are isolated** in every state of a run in which no `chat_write` falls between another
    call's `chat_write` and `chat_read`. -/
theorem isolated_of_writesAlone {events : List DeviceEvent} {system : DeviceSystem}
    (hrun : Transition.run deviceStep .init events = some system)
    (hok : Transition.Guarded deviceStep WritesAlone .init events) : Isolated system := by
  have hinv : DeviceInv system :=
    Transition.run_invariant_of_guarded (fun _ _ _ hinv hok hstep => hinv.step hok hstep)
      (fun call hcall => absurd hcall List.not_mem_nil) hok hrun
  intro index request response hcall
  exact hinv _ (List.mem_of_getElem? hcall) rfl

/-! ## Two callers -/

/-- A chat message to be encrypted. -/
def encryptRequest (messageId : UInt32) (payload : String) : ChatRequest :=
  { ChatRequest.zero with
    messageId := messageId
    requestType := RequestType.chatMessage.code
    mode := ProcessingMode.substitution.code
    payload := .ofStr _ (ascii payload) }

/-- One call after the other. -/
def sequentialEvents : List DeviceEvent :=
  [.call (encryptRequest 1 "a"), .open 0 true, .write 0 [] none, .read 0 none, .close 0,
    .call (encryptRequest 2 "b"), .open 1 true, .write 1 [] none, .read 1 none, .close 1]

/-- The second call writes before the first one reads. -/
def crossedEvents : List DeviceEvent :=
  [.call (encryptRequest 1 "a"), .call (encryptRequest 2 "b"), .open 0 true, .open 1 true,
    .write 0 [] none, .write 1 [] none, .read 0 none, .close 0]

theorem isolated_of_writesAlone_sequential :
    ∃ system, Transition.run deviceStep .init sequentialEvents = some system ∧ Isolated system := by
  have hsome : (Transition.run deviceStep .init sequentialEvents).isSome = true := by
    decide +kernel
  obtain ⟨system, hsystem⟩ := Option.isSome_iff_exists.mp hsome
  refine ⟨system, hsystem, isolated_of_writesAlone hsystem ?_⟩
  decide +kernel

/-- The first call returns 0 with the message id of the second. -/
theorem crossed_calls_mix :
    ¬ ∀ (events : List DeviceEvent) (system : DeviceSystem),
      Transition.run deviceStep .init events = some system → Isolated system := by
  intro h
  have hcall : ((Transition.run deviceStep .init crossedEvents).bind fun system =>
      system.calls[0]?) =
      some ⟨encryptRequest 1 "a", .returned 0 (driverResponse ⟨encryptRequest 2 "b", []⟩)⟩ := by
    decide +kernel
  obtain ⟨system, hrun, hget⟩ := Option.bind_eq_some_iff.mp hcall
  have hid := (h _ _ hrun 0 _ _ hget).messageId
  exact absurd hid (by decide)

end ChatSC.Spec
