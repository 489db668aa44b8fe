import ChatSC.ForStd.Stdio
import ChatSC.Native.Processor
import ChatSC.Native.ServerProtocol

/-!
# The terminal client (`app/client/client.c`)

The parts of the client between the keyboard, the processing backend and the socket.  Prompts,
colours and tags of the terminal output are left out; what a message line shows is kept.  `Backend`
gathers what `process_message` uses besides its arguments.
-/

namespace ChatSC.Native

open Stdio

/-- The processing backend of a client, with the outcomes of its system calls. -/
structure Backend where
  backend : ProcessingBackend
  io : RemoteIo
  deviceIo : DeviceIo
  driver : DriverState

/-- All of them succeed. -/
def Backend.Succeeds (b : Backend) : Prop :=
  b.io.connected = true ∧ b.io.written = true ∧ b.io.readFault = none ∧ b.deviceIo.Succeeds

/-- `process_message`: what is stored at `output`, of `output_size` bytes; `none` is `-1`.  The
    response lies on the stack, with the memory `after` behind it. -/
def processMessage (backend : Backend) (after : List UInt8) (messageId : UInt32)
    (requestType : RequestType) (mode : ProcessingMode)
    (username peerUsername authPayload payload plaintextPayload : Option (List UInt8))
    (outputSize : Nat) [NeZero outputSize] : Option (CString outputSize) :=
  match formatDeviceRequest messageId requestType mode username peerUsername authPayload payload
      plaintextPayload with
  | none => none
  | some deviceRequest =>
    match processingClientProcess backend.backend backend.io backend.deviceIo backend.driver
        deviceRequest with
    | (_, result, deviceResponse) =>
      if result ≠ 0 then none
      else if deviceResponse.status ≠ ResponseStatus.ok.code then none
      else some (.ofStr outputSize (ResponsePtr.payloadMem ⟨deviceResponse, after⟩))

/-- `prompt_line` for a buffer of `size` bytes: the line in it and the rest of the input. -/
def promptLine (size : Nat) (stdin : List UInt8) : List UInt8 × List UInt8 :=
  match fgets size stdin with
  | none => ([], stdin)
  | some (line, rest) => ((cstr line).takeWhile (· ≠ newline), rest)

/-- What a line at the message prompt does. -/
inductive LineAction where
  /-- an empty line: prompt again -/
  | ignored
  /-- `/switch` -/
  | switched
  /-- `/quit`, with the logout request -/
  | quit (request : Option ChatRequest)
  /-- the message cannot be encrypted -/
  | processingFailed
  /-- the request cannot be formatted -/
  | invalid
  /-- the request is sent to the server -/
  | sent (request : ChatRequest)
deriving DecidableEq

/-- The loop body of `chat_loop` up to the request that is sent, for a line in its buffer. -/
def chatLine (backend : Backend) (after : List UInt8) (messageId : UInt32)
    (username peerUsername line : List UInt8) : LineAction :=
  if line = [] then .ignored
  else if line = ascii "/switch" then .switched
  else if line = ascii "/quit" then
    .quit (formatDeviceRequest messageId .logout .substitution (some username) (some peerUsername)
      none none none)
  else
    match processMessage backend after messageId .chatMessage .substitution (some username)
        (some peerUsername) none (some line) none chatMaxResult with
    | none => .processingFailed
    | some encrypted =>
      match formatDeviceRequest messageId .chatMessage .substitution (some username)
          (some peerUsername) none (some encrypted.val) (some line) with
      | none => .invalid
      | some request => .sent request

/-- What `receiver_thread_main` does with a response. -/
inductive ReceiverAction where
  /-- `ui_print_received_message`: the sender and the text -/
  | message (fromUsername text : List UInt8)
  /-- the message could not be decrypted -/
  | undecryptable (fromUsername : List UInt8)
  /-- an answer to a request of this client -/
  | acked (response : ChatResponse)
deriving DecidableEq

/-- The loop body of `receiver_thread_main`. -/
def receiveResponse (backend : Backend) (after : List UInt8) (username : List UInt8)
    (response : ResponsePtr) : ReceiverAction :=
  if response.responseType = ResponseType.chatDelivery.code then
    match processMessage backend after response.messageId .chatMessage .substitutionDecrypt
        (some username) (some response.fromUsernameStr) none (some response.payloadStr) none
        chatMaxMessage with
    | some plaintext => .message response.fromUsernameStr plaintext.val
    | none => .undecryptable response.fromUsernameStr
  else .acked response.toChatResponse

end ChatSC.Native
