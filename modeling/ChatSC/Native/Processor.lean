import ChatSC.Native.DeviceClient

/-!
# The processor daemon and its clients (`app/processor`, `app/client/processing_client.c`)

The daemon checks a request and passes it on to the device of its host.  `processing_client_process`
sends a request either to the local device or, over a socket, to such a daemon.  Both are functions
of the state of the driver that they use; the outcomes of their system calls are arguments.
-/

namespace ChatSC.Native

/-! ## The daemon -/

/-- `is_supported_mode` -/
def isSupportedMode (mode : UInt32) : Bool :=
  mode = ProcessingMode.substitution.code || mode = ProcessingMode.sha1.code ||
    mode = ProcessingMode.substitutionDecrypt.code

/-- The response of `processor_validate_request` before any check. -/
def ackResponse (messageId : UInt32) : ChatResponse :=
  { ChatResponse.zero with
    messageId := messageId
    responseType := ResponseType.ack.code }

/-- A refusal of `processor_validate_request`. -/
def invalidResponse (messageId : UInt32) (payload : String) : ChatResponse :=
  { ackResponse messageId with
    status := ResponseStatus.invalidRequest.code
    payload := .ofStr _ (ascii payload) }

/-- `processor_validate_request`: `none` when the request may pass, else the response. -/
def processorValidateRequest (request : ChatRequest) : Option ChatResponse :=
  let invalid := invalidResponse request.messageId
  let isAuth := request.requestType = RequestType.authLogin.code ∨
    request.requestType = RequestType.authRegister.code
  let isSelectPeer := request.requestType = RequestType.chatSelectPeer.code
  let isMessage := request.requestType = RequestType.chatMessage.code
  if !isSupportedMode request.mode then some (invalid "unsupported-mode")
  else if isAuth ∧ request.username.first ≠ 0 ∧ request.authPayload.first ≠ 0 then none
  else if isSelectPeer ∧ request.peerUsername.first ≠ 0 then none
  else if isMessage ∧ request.peerUsername.first ≠ 0 ∧ request.payload.first ≠ 0 then none
  else if request.requestType = RequestType.logout.code then none
  else if isAuth ∧ (request.username.first = 0 ∨ request.authPayload.first = 0) then
    some (invalid "missing-auth-payload")
  else if isSelectPeer ∧ request.peerUsername.first = 0 then some (invalid "missing-peer")
  else if isMessage ∧ (request.peerUsername.first = 0 ∨ request.payload.first = 0) then
    some (invalid "missing-message-payload")
  else some (invalid "invalid-request")

/-- `snprintf(dst, n, "%s", s)` into a field that holds something already. -/
def overwriteField {n : Nat} (field : CharArray n) (s : List UInt8) (h : s.length < n) :
    CharArray n :=
  ⟨s ++ 0 :: field.bytes.drop (s.length + 1), by
    have := field.size_eq
    simp only [List.length_append, List.length_cons, List.length_drop]
    omega⟩

/-- The answer of `processor_client_main` when the device fails. -/
def deviceFailed (request : ChatRequest) (response : ChatResponse) : ChatResponse :=
  { response with
    messageId := request.messageId
    responseType := ResponseType.ack.code
    status := ResponseStatus.driverError.code
    payload := overwriteField response.payload (ascii "device-processing-failed") (by decide) }

/-- The loop body of `processor_client_main`, with no other use of the device in between: the driver
    and the response that is written back. -/
def processorReply (io : DeviceIo) (driver : DriverState) (request : ChatRequest) :
    DriverState × ChatResponse :=
  match processorValidateRequest request with
  | some response => (driver, response)
  | none =>
    match deviceProcessMessage io driver request with
    | (driver, result, response) =>
      if result ≠ 0 then (driver, deviceFailed request response) else (driver, response)

/-! ## Its clients -/

/-- `processing_backend_t` -/
inductive ProcessingBackend where
  | local
  | remote
deriving DecidableEq, Repr

/-- The outcomes of the system calls of `remote_process_message`; a failing `read_full` leaves
    something in `*response`. -/
structure RemoteIo where
  connected : Bool
  written : Bool
  readFault : Option ChatResponse

/-- `remote_process_message` with a daemon that answers on its own device: the driver of the daemon,
    the return value and `*response`. -/
def remoteProcessMessage (io : RemoteIo) (deviceIo : DeviceIo) (driver : DriverState)
    (request : ChatRequest) : DriverState × Int × ChatResponse :=
  let response := ackResponse request.messageId
  let failed (response : ChatResponse) (payload : List UInt8) (h : payload.length < 512) :=
    { driverError response with payload := overwriteField response.payload payload h }
  if !io.connected then (driver, -1, failed response (ascii "remote-unreachable") (by decide))
  else if !io.written then (driver, -1, failed response (ascii "remote-io-error") (by decide))
  else
    match processorReply deviceIo driver request with
    | (driver, reply) =>
      match io.readFault with
      | some left => (driver, -1, failed left (ascii "remote-io-error") (by decide))
      | none => (driver, 0, reply)

/-- `processing_client_process`: the driver of the device that is used, the return value and
    `*response`. -/
def processingClientProcess (backend : ProcessingBackend) (io : RemoteIo) (deviceIo : DeviceIo)
    (driver : DriverState) (request : ChatRequest) : DriverState × Int × ChatResponse :=
  match backend with
  | .remote => remoteProcessMessage io deviceIo driver request
  | .local => deviceProcessMessage deviceIo driver request

end ChatSC.Native
