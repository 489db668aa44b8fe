import ChatSC.Backend.ChatGateway

/-!
# The client's end of a socket (`frontend/src/services/chat-socket.service.ts`)

`ChatSocketService` with the socket of socket.io that it holds, and the gateway at the other end.
Events arrive at the gateway in the order in which they were sent; those under way when the
connection goes down are lost.  Several connections may follow each other.

A call stands in `waitForConnection` until the socket is connected; what happens between two events
of the browser is one step, so a call that finds the socket connected emits at once.  Listeners, the
answers to the calls and the tokens are left out: none of them changes what is sent.  The page never
joins the empty id, which is the only one that the `connect` listener would not join again.
-/

namespace ChatSC.Frontend

open Backend

/-! ## The socket of socket.io -/

/-- `Socket` of socket.io-client. -/
structure ClientSocket where
  connected : Bool
  /-- the heartbeat of the connection is overdue: the socket is about to close -/
  pingExpired : Bool
  /-- what was emitted then, to be sent over the next connection -/
  sendBuffer : List ClientEvent
deriving DecidableEq

/-- `socket.emit` of a connected socket: the socket and what it sends. -/
def ClientSocket.emit (socket : ClientSocket) (event : ClientEvent) :
    ClientSocket × List ClientEvent :=
  if socket.pingExpired then
    ({ socket with sendBuffer := socket.sendBuffer ++ [event] }, [])
  else (socket, [event])

/-! ## The service -/

/-- `ChatConnectionState` -/
inductive ChatConnectionState where
  | connecting
  | connected
  | reconnecting
  | disconnected
deriving DecidableEq

/-- `ChatSocketService` -/
structure ChatSocketService where
  socket : Option ClientSocket
  connectionState : ChatConnectionState
  activeConversationId : Option JsString
  /-- the calls in `waitForConnection`, oldest first -/
  waiting : List ClientEvent
deriving DecidableEq

/-- A call of the page. -/
inductive SocketCall where
  | connect
  | disconnect
  | joinConversation (conversationId : JsString)
  | leaveConversation (conversationId : JsString)
  | sendMessage (conversationId content attachmentId : JsString)
  | markConversationRead (conversationId : JsString)
  | updateTypingPresence (conversationId : JsString) (isTyping : Bool)
deriving DecidableEq

namespace ChatSocketService

/-- A service that has not connected yet. -/
def start : ChatSocketService := ⟨none, .disconnected, none, []⟩

/-- `connect`; a socket that is there and not connected tries again, which changes nothing here. -/
def connect (service : ChatSocketService) : ChatSocketService :=
  match service.socket with
  | none =>
    { service with connectionState := .connecting, socket := some ⟨false, false, []⟩ }
  | some _ => service

/-- `disconnect`.  The listeners of the calls that wait are removed with all others, so those calls
    never send. -/
def disconnect (_ : ChatSocketService) : ChatSocketService := start

/-- `emitWithAck`: the service and what its socket sends. -/
def emitWithAck (service : ChatSocketService) (event : ClientEvent) :
    ChatSocketService × List ClientEvent :=
  match service.socket with
  -- `SOCKET_NOT_READY`
  | none => (service, [])
  | some socket =>
    if socket.connected then
      let (socket, sent) := socket.emit event
      ({ service with socket := some socket }, sent)
    else ({ service with waiting := service.waiting ++ [event] }, [])

/-- `joinConversation` -/
def joinConversation (service : ChatSocketService) (conversationId : JsString) :
    ChatSocketService × List ClientEvent :=
  { service with activeConversationId := some conversationId }.emitWithAck
    (.joinConversation conversationId)

/-- `leaveConversation` -/
def leaveConversation (service : ChatSocketService) (conversationId : JsString) :
    ChatSocketService × List ClientEvent :=
  let service :=
    if service.activeConversationId = some conversationId then
      { service with activeConversationId := none }
    else service
  service.emitWithAck (.leaveConversation conversationId)

/-- A call of the page. -/
def call (service : ChatSocketService) : SocketCall → ChatSocketService × List ClientEvent
  | .connect => (service.connect, [])
  | .disconnect => (service.disconnect, [])
  | .joinConversation conversationId => service.joinConversation conversationId
  | .leaveConversation conversationId => service.leaveConversation conversationId
  | .sendMessage conversationId content attachmentId =>
    service.emitWithAck (.sendMessage conversationId content attachmentId)
  | .markConversationRead conversationId =>
    service.emitWithAck (.markConversationRead conversationId)
  | .updateTypingPresence conversationId isTyping =>
    service.emitWithAck (.typingPresenceUpdated conversationId isTyping)

/-- The socket gets connected: it sends what it has kept, then its listeners run.  The first one
    joins the active conversation, then the calls that wait go on, each at its own listener. -/
def onConnect (service : ChatSocketService) (socket : ClientSocket) :
    ChatSocketService × List ClientEvent :=
  let service' := { service with
    socket := some ⟨true, false, []⟩, connectionState := .connected, waiting := [] }
  match service.activeConversationId with
  | none => (service', socket.sendBuffer ++ service.waiting)
  | some conversationId =>
    let (service', sent) := service'.joinConversation conversationId
    (service', socket.sendBuffer ++ sent ++ service.waiting)

/-- The listeners of `disconnect`: the calls that wait are rejected. -/
def onDisconnect (service : ChatSocketService) (socket : ClientSocket) : ChatSocketService :=
  { service with
    socket := some ⟨false, false, socket.sendBuffer⟩
    connectionState := .disconnected
    waiting := [] }

/-- The listener of `reconnect_attempt`. -/
def onReconnectAttempt (service : ChatSocketService) : ChatSocketService :=
  { service with connectionState := .reconnecting }

/-- The listeners of `connect_error`, with `this.socket?.active`: the calls that wait are
    rejected. -/
def onConnectError (service : ChatSocketService) (active : Bool) : ChatSocketService :=
  { service with
    connectionState := if active then .reconnecting else .disconnected
    waiting := [] }

/-- The listener of `connection_status_changed`. -/
def onConnectionStatusChanged (service : ChatSocketService) (state : ChatConnectionState) :
    ChatSocketService :=
  { service with connectionState := state }

/-- The timer of the call that has waited longest: all of them run for 5000 ms. -/
def onWaitTimeout (service : ChatSocketService) : ChatSocketService :=
  { service with waiting := service.waiting.tail }

/-- The timer of `socket.timeout(5000)` for the event that the socket has kept longest. -/
def onAckTimeout (service : ChatSocketService) (socket : ClientSocket) : ChatSocketService :=
  { service with socket := some { socket with sendBuffer := socket.sendBuffer.tail } }

end ChatSocketService

/-! ## The connection -/

/-- The client, the gateway and what is between them. -/
structure SocketSystem where
  gateway : ChatGateway
  service : ChatSocketService
  /-- the gateway's socket for the connection that the client has or is opening -/
  client : Option Nat
  /-- what the client has sent over this connection and the gateway has not received -/
  inFlight : List ClientEvent

/-- A gateway with these collections that nobody is connected to. -/
def SocketSystem.start (db : ChatDb) : SocketSystem := ⟨⟨db, [], []⟩, .start, none, []⟩

/-- What happens at the client, at the gateway or between them. -/
inductive SocketSystemEvent where
  | call (call : SocketCall)
  /-- the gateway lets the client in, as this user -/
  | accept (user : ObjectId)
  /-- the client learns that it is in -/
  | connect
  /-- the gateway receives the oldest event -/
  | receive
  /-- the time for the next heartbeat passes -/
  | pingExpired
  /-- the client loses the connection, or an attempt to open it -/
  | disconnect
  | reconnectAttempt
  | connectError (active : Bool)
  /-- `connection_status_changed` of `handleConnection` -/
  | statusChanged
  | waitTimeout
  | ackTimeout
  /-- whatever else happens at the gateway: other clients, requests over HTTP, steps of tasks, and
      that it drops the client -/
  | gateway (event : GatewayEvent)

/-- The events of this client's connection are not for others to send. -/
def SocketSystem.forges (system : SocketSystem) : GatewayEvent → Bool
  | .receive client _ => system.client = some client
  | _ => false

/-- What happens next; `none` when the event cannot happen. -/
def socketSystemStep (env : BackendEnv) (config : AiConfig) (system : SocketSystem) :
    SocketSystemEvent → Option SocketSystem
  | .call .disconnect =>
    some { system with service := system.service.disconnect, client := none, inFlight := [] }
  | .call call =>
    let (service, sent) := system.service.call call
    some { system with service := service, inFlight := system.inFlight ++ sent }
  | .accept user =>
    match system.service.socket with
    | some ⟨false, _, _⟩ =>
      (gatewayStep env config system.gateway (.connect user)).map fun gateway =>
        { system with gateway := gateway, client := some system.gateway.sockets.length }
    | _ => none
  | .connect =>
    match system.service.socket, system.client with
    | some ⟨false, pingExpired, sendBuffer⟩, some _ =>
      let (service, sent) := system.service.onConnect ⟨false, pingExpired, sendBuffer⟩
      some { system with service := service, inFlight := sent }
    | _, _ => none
  | .receive =>
    match system.client, system.inFlight with
    | some client, event :: rest =>
      (gatewayStep env config system.gateway (.receive client event)).map fun gateway =>
        { system with gateway := gateway, inFlight := rest }
    | _, _ => none
  | .pingExpired =>
    match system.service.socket with
    | some ⟨true, _, sendBuffer⟩ =>
      some { system with
        service := { system.service with socket := some ⟨true, true, sendBuffer⟩ } }
    | _ => none
  | .disconnect =>
    match system.service.socket with
    | some socket =>
      some { system with
        service := system.service.onDisconnect socket, client := none, inFlight := [] }
    | none => none
  | .reconnectAttempt =>
    match system.service.socket with
    | some ⟨false, _, _⟩ => some { system with service := system.service.onReconnectAttempt }
    | _ => none
  | .connectError active =>
    match system.service.socket with
    | some ⟨false, _, _⟩ =>
      some { system with service := system.service.onConnectError active, client := none }
    | _ => none
  | .statusChanged =>
    match system.service.socket with
    | some ⟨true, _, _⟩ =>
      some { system with service := system.service.onConnectionStatusChanged .connected }
    | _ => none
  | .waitTimeout => some { system with service := system.service.onWaitTimeout }
  | .ackTimeout =>
    match system.service.socket with
    -- a connection whose heartbeat is overdue closes before a timer runs out
    | some ⟨false, pingExpired, sendBuffer⟩ =>
      some { system with
        service := system.service.onAckTimeout ⟨false, pingExpired, sendBuffer⟩ }
    | _ => none
  | .gateway event =>
    if system.forges event then none
    else
      (gatewayStep env config system.gateway event).map fun gateway =>
        { system with gateway := gateway }

end ChatSC.Frontend
