import ChatSC.Native.Protocol
import ChatSC.Native.Sha1
import ChatSC.Native.Substitution

/-!
# The character device (`driver/module/chat_driver_main.c`)

The driver keeps one request and one response for all its openers.  `chat_write` holds `chat_lock`
throughout, `chat_read` copies without it; each of the two is one function of the driver state.
`chat_open` and `chat_release` only log.

Strings of `last_request` that no NUL ends run on into the memory behind it, `after`, about which
nothing is said.
-/

namespace ChatSC.Native

/-- The two static structs of the driver. -/
structure DriverState where
  lastRequest : ChatRequest
  lastResponse : ChatResponse
deriving DecidableEq

/-- The driver when the module is loaded. -/
def DriverState.init : DriverState := ⟨.zero, .zero⟩

/-- The errors of `chat_read` and `chat_write`. -/
inductive Errno where
  | einval
  | efault
deriving DecidableEq, Repr

/-- `last_response.payload` and `last_response.status`, by the mode of the request. -/
def processPayload (request : RequestPtr) : CharArray chatMaxResult × ResponseStatus :=
  let output := CharArray.zero chatMaxResult
  if request.mode = ProcessingMode.sha1.code then
    let input :=
      if request.authPayload.first ≠ 0 then request.authPayloadMem else request.payloadMem
    (⟨kernelSha1Transform input output.bytes chatMaxResult,
      (length_kernelSha1Transform (Nat.le_of_eq output.size_eq.symm) input).trans output.size_eq⟩,
      .ok)
  else if request.mode = ProcessingMode.substitution.code then
    (⟨substitutionTransform request.payloadMem output.bytes chatMaxResult,
      (length_transformLoop mapForward (Nat.le_of_eq output.size_eq.symm) _).trans output.size_eq⟩,
      .ok)
  else if request.mode = ProcessingMode.substitutionDecrypt.code then
    (⟨substitutionReverseTransform request.payloadMem output.bytes chatMaxResult,
      (length_transformLoop mapReverse (Nat.le_of_eq output.size_eq.symm) _).trans output.size_eq⟩,
      .ok)
  else (.ofStr _ (ascii "unsupported-mode"), .invalidRequest)

/-- The response that `chat_write` computes. -/
def driverResponse (request : RequestPtr) : ChatResponse where
  messageId := request.messageId
  responseType := ResponseType.ack.code
  status := (processPayload request).2.code
  fromUsername := .ofStr _ request.usernameMem
  peerUsername := .ofStr _ request.peerUsernameMem
  payload := (processPayload request).1

/-- `chat_write`: the driver afterwards and the number of bytes.  `fault` is what `copy_from_user`
    leaves in `last_request` when it fails. -/
def chatWrite (driver : DriverState) (after : List UInt8) (request : ChatRequest) (len : Nat)
    (fault : Option ChatRequest) : DriverState × Except Errno Nat :=
  if len ≠ sizeofChatRequest then (driver, .error .einval)
  else
    match fault with
    | some lastRequest => (⟨lastRequest, .zero⟩, .error .efault)
    | none => (⟨request, driverResponse ⟨request, after⟩⟩, .ok sizeofChatRequest)

/-- `chat_read`: what is copied to the user and the new offset; `none` is the return value 0.
    `fault` says that `copy_to_user` fails. -/
def chatRead (driver : DriverState) (len offset : Nat) (fault : Bool) :
    Except Errno (Option ChatResponse × Nat) :=
  if len < sizeofChatResponse then .error .einval
  else if offset ≠ 0 then .ok (none, offset)
  else if fault then .error .efault
  else .ok (some driver.lastResponse, offset + sizeofChatResponse)

end ChatSC.Native
