import Mathlib.Data.Fin.Basic
import ChatSC.Native.ServerProtocol

/-!
# The chat server (`app/server/server.c`)

`g_online_users` is a table of 32 slots; its three functions hold `g_online_users_lock` and are
functions of the table here.  Each request handler is one function from what it reads (the users
file, the table, the session of its connection and the request) to what it changes and to the
responses it writes.  `ChatServer` runs whole handlers as steps.

`args->client_fd` and `session.client_fd` hold the same descriptor from the first lines of
`client_thread_main` on, so the session's field stands for both.  The lines logged to `stderr` are
left out.
-/

namespace ChatSC.Native

abbrev chatMaxOnlineUsers : Nat := 32

/-- `client_session_t` -/
structure ClientSession where
  authenticated : Bool
  clientFd : Nat
  username : CString chatMaxUsername
  selectedPeer : CString chatMaxUsername
deriving DecidableEq

/-- `online_user_t` -/
structure OnlineUser where
  active : Bool
  clientFd : Nat
  username : CString chatMaxUsername
deriving DecidableEq

/-- `g_online_users` -/
abbrev OnlineUsers := Vector OnlineUser chatMaxOnlineUsers

/-- `memset(&session, 0, sizeof(session))`, then the descriptor. -/
def ClientSession.fresh (clientFd : Nat) : ClientSession where
  authenticated := false
  clientFd := clientFd
  username := .empty _
  selectedPeer := .empty _

/-- A slot that is all zero. -/
def OnlineUser.zero : OnlineUser where
  active := false
  clientFd := 0
  username := .empty _

/-- The static table when the server starts. -/
def OnlineUsers.zero : OnlineUsers := Vector.replicate _ .zero

/-- `g_online_users[index]` -/
abbrev OnlineUsers.slot (online : OnlineUsers) (index : Fin chatMaxOnlineUsers) : OnlineUser :=
  online[index]

/-! ## The table of online users -/

/-- The slot is active and `strcmp` finds the name in it. -/
def OnlineUser.names (user : OnlineUser) (username : List UInt8) : Bool :=
  user.active && user.username.val = username

/-- `find_online_user_index`; `none` is `-1`. -/
def findOnlineUserIndex (online : OnlineUsers) (username : List UInt8) :
    Option (Fin chatMaxOnlineUsers) :=
  Fin.find? fun index => online[index].names username

/-- The first slot that is not active. -/
def findFreeIndex (online : OnlineUsers) : Option (Fin chatMaxOnlineUsers) :=
  Fin.find? fun index => !online[index].active

/-- `register_online_user` -/
def registerOnlineUser (online : OnlineUsers) (username : List UInt8) (clientFd : Nat) :
    Bool × OnlineUsers :=
  match findOnlineUserIndex online username with
  | some _ => (false, online)
  | none =>
    match findFreeIndex online with
    | some index => (true, online.set index ⟨true, clientFd, .ofStr _ username⟩)
    | none => (false, online)

/-- `unregister_online_user` -/
def unregisterOnlineUser (online : OnlineUsers) (username : List UInt8) : OnlineUsers :=
  if username = [] then online
  else
    match findOnlineUserIndex online username with
    | some index => online.set index .zero
    | none => online

/-- `get_online_user_fd`; `none` is `-1`. -/
def getOnlineUserFd (online : OnlineUsers) (username : List UInt8) : Option Nat :=
  (findOnlineUserIndex online username).map fun index => online[index].clientFd

/-! ## Request handlers -/

/-- A call of `write_full`: the descriptor and the response. -/
structure Write where
  clientFd : Nat
  response : ChatResponse
deriving DecidableEq

/-- `send_ack` -/
def sendAck (clientFd : Nat) (messageId : UInt32) (status : ResponseStatus)
    (fromUsername peerUsername : Option (List UInt8)) (payload : String) : Write where
  clientFd := clientFd
  response :=
    serverFillResponse messageId .ack status fromUsername peerUsername (some (ascii payload))

/-- `handle_register_request`: the users file afterwards and the ack. -/
def handleRegisterRequest (access : FileAccess) (userDb : List UInt8) (session : ClientSession)
    (request : RequestPtr) : List UInt8 × List Write :=
  let (status, userDb) := serverRegisterUser access userDb request
  let ack := sendAck session.clientFd request.messageId status (some request.usernameStr) none
  match status with
  | .registerSuccess => (userDb, [ack "register-success"])
  | .userExists => (userDb, [ack "user-exists"])
  | _ => (userDb, [ack "register-failed"])

/-- The failure branch of `handle_login_request`: the session is reset. -/
def loginFailed (session : ClientSession) (request : RequestPtr) (status : ResponseStatus) :
    ClientSession × List Write :=
  let session := { session with authenticated := false, username := .empty _ }
  let ack := sendAck session.clientFd request.messageId status (some request.usernameStr) none
  match status with
  | .userNotFound => (session, [ack "user-not-found"])
  | _ => (session, [ack "login-failed"])

/-- The branch of `handle_login_request` where the user is online already or the table is full. -/
def loginRefused (session : ClientSession) (request : RequestPtr) : List Write :=
  [sendAck session.clientFd request.messageId .alreadyOnline (some request.usernameStr) none
    "already-online"]

/-- The success branch of `handle_login_request`. -/
def loginSucceeded (session : ClientSession) (request : RequestPtr) : ClientSession × List Write :=
  let session := { session with authenticated := true, username := .ofStr _ request.usernameStr }
  (session, [sendAck session.clientFd request.messageId .ok (some session.username.val) none
    "login-success"])

/-- `handle_login_request`: the session and the table afterwards, and the ack. -/
def handleLoginRequest (access : FileAccess) (userDb : List UInt8) (online : OnlineUsers)
    (session : ClientSession) (request : RequestPtr) :
    ClientSession × OnlineUsers × List Write :=
  match serverValidateLogin access userDb request with
  | .ok =>
    match registerOnlineUser online request.usernameStr session.clientFd with
    | (false, online) => (session, online, loginRefused session request)
    | (true, online) =>
      let (session, writes) := loginSucceeded session request
      (session, online, writes)
  | status =>
    let (session, writes) := loginFailed session request status
    (session, online, writes)

/-- The ack of `handle_select_peer_request` when the peer cannot be selected. -/
def selectPeerAck (session : ClientSession) (request : RequestPtr) (status : ResponseStatus)
    (payload : String) : Write :=
  sendAck session.clientFd request.messageId status (some session.username.val)
    (some request.peerUsernameStr) payload

/-- The part of `handle_select_peer_request` behind the look into the users file. -/
def selectOnlinePeer (online : OnlineUsers) (session : ClientSession) (request : RequestPtr) :
    ClientSession × List Write :=
  match getOnlineUserFd online request.peerUsernameStr with
  | none => (session, [selectPeerAck session request .peerOffline "peer-offline"])
  | some _ =>
    let session := { session with selectedPeer := .ofStr _ request.peerUsernameStr }
    (session, [sendAck session.clientFd request.messageId .ok (some session.username.val)
      (some session.selectedPeer.val) "peer-selected"])

/-- `handle_select_peer_request` -/
def handleSelectPeerRequest (access : FileAccess) (userDb : List UInt8) (online : OnlineUsers)
    (session : ClientSession) (request : RequestPtr) : ClientSession × List Write :=
  if !session.authenticated then
    (session, [selectPeerAck session request .authRequired "auth-required"])
  else if !serverUserExists access userDb request.peerUsernameStr then
    (session, [selectPeerAck session request .userNotFound "peer-not-found"])
  else selectOnlinePeer online session request

/-- The `RESPONSE_CHAT_DELIVERY` that `handle_chat_request` fills in. -/
def chatDelivery (session : ClientSession) (request : RequestPtr) : ChatResponse :=
  serverFillResponse request.messageId .chatDelivery .ok (some session.username.val)
    (some request.peerUsernameStr) (some request.payloadStr)

/-- The ack of `handle_chat_request` behind the delivery, for the outcome of its `write_full`. -/
def chatAck (session : ClientSession) (request : RequestPtr) (written : Bool) : Write :=
  if written then
    sendAck session.clientFd request.messageId .delivered (some session.username.val)
      (some request.peerUsernameStr) "delivered"
  else
    sendAck session.clientFd request.messageId .peerOffline (some session.username.val)
      (some request.peerUsernameStr) "peer-offline"

/-- The answers of `handle_chat_request` before a descriptor is looked up. -/
def chatRefused (session : ClientSession) (request : RequestPtr) : Option Write :=
  if !session.authenticated then
    some (sendAck session.clientFd request.messageId .authRequired (some session.username.val)
      (some request.peerUsernameStr) "auth-required")
  else if request.peerUsernameStr = [] then
    some (sendAck session.clientFd request.messageId .peerRequired (some session.username.val) none
      "peer-required")
  else none

/-- `handle_chat_request`; `written` is the outcome of the `write_full` to the peer. -/
def handleChatRequest (online : OnlineUsers) (session : ClientSession) (request : RequestPtr)
    (written : Bool) : List Write :=
  match chatRefused session request with
  | some ack => [ack]
  | none =>
    match getOnlineUserFd online request.peerUsernameStr with
    | none => [chatAck session request false]
    | some peerFd => [⟨peerFd, chatDelivery session request⟩, chatAck session request written]

/-- The ack to `REQUEST_LOGOUT`. -/
def logoutAck (session : ClientSession) (request : RequestPtr) : Write :=
  sendAck session.clientFd request.messageId .ok (some session.username.val)
    (some session.selectedPeer.val) "logout"

/-- The ack to a request of an unknown type. -/
def invalidRequestAck (session : ClientSession) (request : RequestPtr) : Write :=
  sendAck session.clientFd request.messageId .invalidRequest (some session.username.val)
    (some session.selectedPeer.val) "invalid-request"

/-! ## Handlers as steps -/

/-- A connection that `main` has accepted; `isOpen` ends with `close`. -/
structure Connection where
  session : ClientSession
  isOpen : Bool
deriving DecidableEq

/-- The state of the server between two handlers. -/
structure ChatServer where
  userDb : List UInt8
  online : OnlineUsers
  connections : List Connection

/-- The server when it starts, with the users file it finds. -/
def ChatServer.start (userDb : List UInt8) : ChatServer := ⟨userDb, .zero, []⟩

/-- A descriptor that `accept` can return: no open connection has it. -/
def ChatServer.Closed (server : ChatServer) (fd : Nat) : Prop :=
  ∀ connection ∈ server.connections, connection.isOpen = true → connection.session.clientFd ≠ fd

instance (server : ChatServer) (fd : Nat) : Decidable (server.Closed fd) :=
  inferInstanceAs (Decidable (∀ connection ∈ server.connections, _))

/-- What happens at the server between two handlers. -/
inductive ServerEvent where
  /-- `accept` returns a descriptor and the client thread starts. -/
  | accept (fd : Nat)
  /-- The connection's thread reads a request and handles it. -/
  | request (connection : Nat) (access : FileAccess) (request : RequestPtr) (written : Bool)
  /-- `read_full` fails in the connection's thread. -/
  | disconnect (connection : Nat)

/-- The end of `client_thread_main`: unregister and close. -/
def ChatServer.leave (server : ChatServer) (index : Nat) (session : ClientSession) : ChatServer where
  userDb := server.userDb
  online := unregisterOnlineUser server.online session.username.val
  connections := server.connections.set index ⟨session, false⟩

/-- The connection's session after a handler. -/
def ChatServer.setSession (server : ChatServer) (index : Nat) (session : ClientSession) :
    ChatServer :=
  { server with connections := server.connections.set index ⟨session, true⟩ }

/-- The loop body of `client_thread_main` for one request: the server afterwards and the responses
    written. -/
def handleRequest (server : ChatServer) (index : Nat) (session : ClientSession)
    (access : FileAccess) (request : RequestPtr) (written : Bool) : ChatServer × List Write :=
  if request.requestType = RequestType.authRegister.code then
    let (userDb, writes) := handleRegisterRequest access server.userDb session request
    ({ server with userDb := userDb }, writes)
  else if request.requestType = RequestType.authLogin.code then
    let (session, online, writes) :=
      handleLoginRequest access server.userDb server.online session request
    ({ server with online := online }.setSession index session, writes)
  else if request.requestType = RequestType.chatSelectPeer.code then
    let (session, writes) :=
      handleSelectPeerRequest access server.userDb server.online session request
    (server.setSession index session, writes)
  else if request.requestType = RequestType.chatMessage.code then
    (server, handleChatRequest server.online session request written)
  else if request.requestType = RequestType.logout.code then
    (server.leave index session, [logoutAck session request])
  else (server, [invalidRequestAck session request])

/-- One step of the server; `none` when the event cannot happen. -/
def serverStep (server : ChatServer) : ServerEvent → Option (ChatServer × List Write)
  | .accept fd =>
    if server.Closed fd then
      some ({ server with connections := server.connections ++ [⟨.fresh fd, true⟩] }, [])
    else none
  | .request index access request written =>
    match server.connections[index]? with
    | some ⟨session, true⟩ => some (handleRequest server index session access request written)
    | _ => none
  | .disconnect index =>
    match server.connections[index]? with
    | some ⟨session, true⟩ => some (server.leave index session, [])
    | _ => none

end ChatSC.Native
