import ChatSC.Native.ServerReads
import ChatSC.Native.TerminalClient

/-!
# The threads of the terminal client (`app/client/client.c`)

The main thread sends one request after the other and waits for the ack of each;
`receiver_thread_main` reads what the server writes to the connection.  They meet in
`client_runtime_t`, under `ack_lock`.  Every critical section is a step, and so is every `write` and
every whole response that is read.  `ChatLink` is the client together with the server of
`readingStep` and all its other connections; so every `write` of the server is whole and returns.

A thread in `pthread_cond_wait` is woken up by a broadcast, and it may wake up without one.  Which
request is sent is up to `promptStep`; here it is any.  The receiver shows a delivery before it
reads on (`receiveResponse`), which touches nothing that the threads share.
-/

namespace ChatSC.Native

/-! ## The state of the client -/

/-- Where the main thread stands with `send_request_and_wait_ack`. -/
inductive MainPc where
  /-- outside of it -/
  | between
  /-- in `write_full`, with the bytes that are left -/
  | writing (request : ChatRequest) (left : List UInt8)
  /-- before the lock and the condition of the loop -/
  | looking (request : ChatRequest)
  /-- in `pthread_cond_wait` -/
  | asleep (request : ChatRequest)
  /-- behind the loops of `main`, before `running = 0` -/
  | leaving
  /-- at `pthread_join` -/
  | joining
deriving DecidableEq

/-- Where `receiver_thread_main` stands. -/
inductive ReceiverPc where
  /-- in `read_full` -/
  | reading
  /-- before the lock, with a response that is no delivery -/
  | posting (response : ChatResponse)
  /-- behind the loop, before `running = 0` -/
  | stopping
  | ended
deriving DecidableEq

/-- A call of `send_request_and_wait_ack` that has returned, with what it met. -/
structure AckCall where
  request : ChatRequest
  io : AckIo
  result : AckResult
deriving DecidableEq

/-- The request and the ack of a call that has returned 0. -/
def AckCall.acked : AckCall → Option (ChatRequest × ChatResponse)
  | ⟨request, _, .acked response⟩ => some (request, response)
  | _ => none

/-- Both threads and what they share. -/
structure ClientThreads where
  /-- `running`, `ack_ready` and `last_ack` -/
  runtime : AckLook
  main : MainPc
  receiver : ReceiverPc
  /-- the number of responses that `read_full` has returned -/
  received : Nat
  /-- what the loop of the call under way has found so far -/
  looks : List AckLook
  /-- the calls that have returned -/
  calls : List AckCall

/-- The client when `receiver_thread_main` starts. -/
def ClientThreads.start : ClientThreads where
  runtime := ⟨true, false, .zero⟩
  main := .between
  receiver := .reading
  received := 0
  looks := []
  calls := []

/-- The requests that were acked, in order. -/
def ClientThreads.acked (client : ClientThreads) : List (ChatRequest × ChatResponse) :=
  client.calls.filterMap AckCall.acked

/-- The main thread wakes up if it sleeps. -/
def MainPc.wake : MainPc → MainPc
  | .asleep request => .looking request
  | pc => pc

/-! ## What the threads do under the lock -/

/-- `send_request_and_wait_ack` returns; behind `-1` all loops of `main` end. -/
def ClientThreads.returned (client : ClientThreads) (request : ChatRequest) (written : Bool)
    (result : AckResult) : ClientThreads :=
  { client with
    main := if result = .failed then .leaving else .between
    calls := client.calls ++ [⟨request, ⟨written, client.looks⟩, result⟩] }

/-- The condition of the loop, then `pthread_cond_wait` or what follows the loop. -/
def ClientThreads.look (client : ClientThreads) (request : ChatRequest) : ClientThreads :=
  let runtime := client.runtime
  let client := { client with looks := client.looks ++ [runtime] }
  if runtime.running ∧ (¬ runtime.ackReady ∨ runtime.lastAck.messageId ≠ request.messageId) then
    { client with main := .asleep request }
  else if ¬ runtime.running then client.returned request true .failed
  else
    { client with runtime := ⟨runtime.running, false, .zero⟩ }.returned request true
      (.acked runtime.lastAck)

/-- `receiver_thread_main` stores an ack and broadcasts. -/
def ClientThreads.post (client : ClientThreads) (response : ChatResponse) : ClientThreads :=
  { client with
    runtime := ⟨client.runtime.running, true, response⟩
    receiver := .reading
    main := client.main.wake }

/-- The end of `receiver_thread_main`. -/
def ClientThreads.stopReceiver (client : ClientThreads) : ClientThreads :=
  { client with
    runtime := { client.runtime with running := false }
    receiver := .ended
    main := client.main.wake }

/-! ## The client and the server -/

/-- The server and the client of one of its connections. -/
structure ChatLink where
  server : ReadingServer
  client : ClientThreads

/-- The client is about to connect to a server that starts. -/
def ChatLink.start (userDb : List UInt8) : ChatLink := ⟨.start userDb, .start⟩

/-- A step of the client. -/
inductive ClientEvent where
  /-- `send_request_and_wait_ack` is called. -/
  | call (request : ChatRequest)
  /-- A `write` returns a count. -/
  | write (count : Nat)
  /-- A `write` returns 0 or -1. -/
  | writeFails
  /-- The main thread has the lock and looks. -/
  | look
  /-- The main thread wakes up without a broadcast. -/
  | wake
  /-- The loops of `main` end. -/
  | leave
  /-- `running = 0` and `shutdown` -/
  | stop
  /-- `read_full` of the receiver returns 0. -/
  | receive
  /-- `read_full` of the receiver fails. -/
  | receiveEnd
  /-- The receiver has the lock and stores its ack. -/
  | post
  /-- The receiver has the lock and sets `running = 0`. -/
  | stopReceiver
deriving DecidableEq

/-- A step of the client, or of the server and its other clients. -/
inductive LinkEvent where
  | server (event : ReadingEvent)
  | client (event : ClientEvent)

/-- What only the client itself does to its connection. -/
def madeByClient (index : Nat) : ReadingEvent → Bool
  | .send i _ | .close i => i = index
  | _ => false

/-- The server has closed its end of the connection. -/
def ReadingServer.hasClosed (system : ReadingServer) (index : Nat) : Bool :=
  match system.server.threads[index]? with
  | some thread => thread.pc = .ended
  | none => false

/-- One step of the client of connection `index`; `none` when it cannot happen. -/
def terminalStep (index : Nat) (link : ChatLink) : ClientEvent → Option ChatLink
  | .call request =>
    if link.client.main = .between ∧ index < link.server.server.threads.length then
      some { link with client := { link.client with
        main := .writing request request.toBytes
        looks := [] } }
    else none
  | .write count =>
    match link.client.main with
    | .writing request left =>
      if 0 < count ∧ count ≤ left.length then
        -- `write_full` goes on until nothing is left
        let main :=
          if count = left.length then .looking request else .writing request (left.drop count)
        (readingStep link.server (.send index (left.take count))).map fun server =>
          ⟨server, { link.client with main := main }⟩
      else none
    | _ => none
  | .writeFails =>
    match link.client.main with
    | .writing request _ => some { link with client := link.client.returned request false .failed }
    | _ => none
  | .look =>
    match link.client.main with
    | .looking request => some { link with client := link.client.look request }
    | _ => none
  | .wake =>
    match link.client.main with
    | .asleep request =>
      some { link with client := { link.client with main := .looking request } }
    | _ => none
  | .leave =>
    if link.client.main = .between ∧ index < link.server.server.threads.length then
      some { link with client := { link.client with main := .leaving } }
    else none
  | .stop =>
    if link.client.main = .leaving then
      (readingStep link.server (.close index)).map fun server =>
        ⟨server, { link.client with
          runtime := { link.client.runtime with running := false }
          main := .joining }⟩
    else none
  | .receive =>
    match link.client.receiver, (link.server.streams index).responses[link.client.received]? with
    | .reading, some response =>
      let receiver :=
        if response.responseType = ResponseType.chatDelivery.code then .reading
        else .posting response
      some { link with client := { link.client with
        received := link.client.received + 1
        receiver := receiver } }
    | _, _ => none
  | .receiveEnd =>
    -- one of the two sides has closed the connection
    if link.client.receiver = .reading ∧
        (link.server.hasClosed index ∨ link.client.main = .joining) then
      some { link with client := { link.client with receiver := .stopping } }
    else none
  | .post =>
    match link.client.receiver with
    | .posting response => some { link with client := link.client.post response }
    | _ => none
  | .stopReceiver =>
    if link.client.receiver = .stopping then
      some { link with client := link.client.stopReceiver }
    else none

/-- One step of the whole; `none` when the event cannot happen. -/
def linkStep (index : Nat) (link : ChatLink) : LinkEvent → Option ChatLink
  | .server event =>
    if madeByClient index event then none
    else (readingStep link.server event).map fun server => { link with server := server }
  | .client event => terminalStep index link event

end ChatSC.Native
