import ChatSC.Native.Client

/-!
# The dialogue of the terminal client (`main` in `app/client/client.c`)

`main` and the two loops under it ask for one line after the other.  `TerminalClient` is the client
while `prompt_line` waits, and `promptStep` is what follows the line, up to the next prompt or to
the end of the loops.  All that the client meets on the way is a `ClientInput`: `runtime.running`
where a loop looks at it, the processing backend, and the server behind
`send_request_and_wait_ack`.

`runtime.current_peer` is left out with the terminal output; nothing else reads it.
-/

namespace ChatSC.Native

/-! ## A request and its ack -/

/-- What the condition of the loop in `send_request_and_wait_ack` reads. -/
structure AckLook where
  running : Bool
  ackReady : Bool
  lastAck : ChatResponse
deriving DecidableEq

/-- How `send_request_and_wait_ack` ends. -/
inductive AckResult where
  /-- `-1` -/
  | failed
  /-- `0`, with `*response` -/
  | acked (response : ChatResponse)
  /-- it is never woken up again -/
  | waiting
deriving DecidableEq

/-- The loop of `send_request_and_wait_ack` and what follows it; `looks` are the wake-ups. -/
def waitAck (request : ChatRequest) : List AckLook → AckResult
  | [] => .waiting
  | look :: looks =>
    if look.running ∧ (¬ look.ackReady ∨ look.lastAck.messageId ≠ request.messageId) then
      waitAck request looks
    else if ¬ look.running then .failed
    else .acked look.lastAck

/-- The outcome of `write_full` and what the loop finds afterwards. -/
structure AckIo where
  written : Bool
  looks : List AckLook
deriving DecidableEq

/-- `send_request_and_wait_ack` -/
def sendRequestAndWaitAck (request : ChatRequest) (io : AckIo) : AckResult :=
  if io.written then waitAck request io.looks else .failed

/-! ## The client between two prompts -/

/-- What the client meets from one prompt to the next; it sends at most one request. -/
structure ClientInput where
  /-- `runtime.running` for the next loop that looks at it -/
  running : Bool
  backend : Backend
  /-- the memory behind the response of `process_message` -/
  after : List UInt8
  server : ChatRequest → AckIo

/-- Where `main` is. -/
inductive ClientPc where
  /-- `select> ` -/
  | menu
  /-- `username> `, with the choice made -/
  | username (choice : List UInt8)
  /-- `password> ` -/
  | password (choice username : List UInt8)
  /-- `chat with username> `, in `select_peer` -/
  | peer
  /-- `message> `, in `chat_loop` -/
  | message (peerUsername : List UInt8)
  /-- in the loop of `send_request_and_wait_ack`, for ever -/
  | waiting
  /-- behind the menu loop, or returned before it -/
  | ended
deriving DecidableEq

/-- The variables of `main`, with the input that is left. -/
structure TerminalClient where
  stdin : List UInt8
  messageId : UInt32
  /-- `runtime.username` -/
  username : CString chatMaxUsername
  pc : ClientPc
deriving DecidableEq

/-- The client waits at a prompt. -/
def ClientPc.prompting : ClientPc → Bool
  | .waiting | .ended => false
  | _ => true

/-- What `main` does before its menu. -/
structure ClientSetup where
  /-- `connect_to_server` -/
  connected : Bool
  /-- `processing_client_init` -/
  initialised : Bool
  /-- `pthread_create` -/
  threaded : Bool
  /-- `runtime.running` when the menu loop looks at it first -/
  running : Bool
deriving DecidableEq

/-- `main` up to the first prompt. -/
def TerminalClient.start (setup : ClientSetup) (stdin : List UInt8) : TerminalClient where
  stdin := stdin
  messageId := 1
  username := .empty _
  pc :=
    if setup.connected ∧ setup.initialised ∧ setup.threaded ∧ setup.running then .menu else .ended

/-- The head of a loop over `runtime.running` whose first prompt is `pc`.  `running` is never set
    again, so a loop that ends here ends the loops around it. -/
def TerminalClient.loop (client : TerminalClient) (input : ClientInput) (pc : ClientPc) :
    TerminalClient :=
  { client with pc := if input.running then pc else .ended }

/-- After `send_request_and_wait_ack`: a failure ends the loops. -/
def TerminalClient.afterAck (client : TerminalClient) (result : AckResult)
    (next : ChatResponse → TerminalClient) : TerminalClient :=
  match result with
  | .acked response => next response
  | .failed => { client with pc := .ended }
  | .waiting => { client with pc := .waiting }

/-! ## The prompts -/

/-- `submit_auth_request`: its result and `*message_id` afterwards. -/
def submitAuthRequest (input : ClientInput) (messageId : UInt32) (requestType : RequestType)
    (username password : List UInt8) : AckResult × UInt32 :=
  match processMessage input.backend input.after messageId requestType .sha1 (some username) none
      (some password) none none chatMaxResult with
  | none => (.failed, messageId + 1)
  | some digest =>
    match formatDeviceRequest (messageId + 1) requestType .sha1 (some username) none
        (some digest.val) none none with
    | none => (.failed, messageId + 1)
    | some request =>
      match sendRequestAndWaitAck request (input.server request) with
      | .acked response => (.acked response, messageId + 2)
      | result => (result, messageId + 1)

/-- A choice from the menu. -/
def menuLine (client : TerminalClient) (input : ClientInput) (choice : List UInt8) :
    TerminalClient :=
  if choice = ascii "3" then { client with pc := .ended }
  else if choice ≠ ascii "1" ∧ choice ≠ ascii "2" then client.loop input .menu
  else { client with pc := .username choice }

/-- A password, which completes a registration or a login. -/
def passwordLine (client : TerminalClient) (input : ClientInput)
    (choice username password : List UInt8) : TerminalClient :=
  if choice = ascii "2" then
    let (result, messageId) :=
      submitAuthRequest input client.messageId .authRegister username password
    let client := { client with messageId := messageId }
    client.afterAck result fun _ => client.loop input .menu
  else
    let (result, messageId) := submitAuthRequest input client.messageId .authLogin username password
    let client := { client with messageId := messageId }
    client.afterAck result fun response =>
      if response.status ≠ ResponseStatus.ok.code then client.loop input .menu
      else { client with username := .ofStr _ username }.loop input .peer

/-- The loop body of `select_peer`, which does not look at `runtime.running`. -/
def peerLine (client : TerminalClient) (input : ClientInput) (peerUsername : List UInt8) :
    TerminalClient :=
  if peerUsername = [] then { client with pc := .peer }
  else
    match formatDeviceRequest client.messageId .chatSelectPeer .substitution
        (some client.username.val) (some peerUsername) none none none with
    | none => { client with messageId := client.messageId + 1, pc := .peer }
    | some request =>
      let client := { client with messageId := client.messageId + 1 }
      client.afterAck (sendRequestAndWaitAck request (input.server request)) fun response =>
        if response.status = ResponseStatus.ok.code then client.loop input (.message peerUsername)
        else { client with pc := .peer }

/-- The loop body of `chat_loop`. -/
def messageLine (client : TerminalClient) (input : ClientInput) (peerUsername line : List UInt8) :
    TerminalClient :=
  match chatLine input.backend input.after client.messageId client.username.val peerUsername
      line with
  | .ignored => client.loop input (.message peerUsername)
  | .switched => client.loop input .peer
  | .quit none => { client with messageId := client.messageId + 1, pc := .ended }
  | .quit (some request) =>
    -- the ack of a logout is not looked at
    let client := { client with messageId := client.messageId + 1 }
    client.afterAck (sendRequestAndWaitAck request (input.server request)) fun _ =>
      { client with pc := .ended }
  | .processingFailed => client.loop input (.message peerUsername)
  | .invalid =>
    { client with messageId := client.messageId + 1 }.loop input (.message peerUsername)
  | .sent request =>
    let client := { client with messageId := client.messageId + 1 }
    client.afterAck (sendRequestAndWaitAck request (input.server request)) fun response =>
      if response.status = ResponseStatus.delivered.code then
        client.loop input (.message peerUsername)
      else if response.status = ResponseStatus.peerOffline.code ∨
          response.status = ResponseStatus.userNotFound.code then client.loop input .peer
      else client.loop input (.message peerUsername)

/-- From one prompt to the next. -/
def promptStep (client : TerminalClient) (input : ClientInput) : TerminalClient :=
  match client.pc with
  | .menu =>
    let (choice, stdin) := promptLine 16 client.stdin
    menuLine { client with stdin := stdin } input choice
  | .username choice =>
    let (username, stdin) := promptLine chatMaxUsername client.stdin
    { client with stdin := stdin, pc := .password choice username }
  | .password choice username =>
    let (password, stdin) := promptLine chatMaxPassword client.stdin
    passwordLine { client with stdin := stdin } input choice username password
  | .peer =>
    let (peerUsername, stdin) := promptLine chatMaxUsername client.stdin
    peerLine { client with stdin := stdin } input peerUsername
  | .message peerUsername =>
    let (line, stdin) := promptLine chatMaxMessage client.stdin
    messageLine { client with stdin := stdin } input peerUsername line
  | .waiting | .ended => client

end ChatSC.Native
