import ChatSC.Native.Server

/-!
# The threads of the chat server

`client_thread_main` runs once for each connection, and the threads meet at the users file (under
`k_user_db_lock`), at the table (under `g_online_users_lock`) and at the descriptors.  Here every
such access is a step of its own: a thread stops before it, at a `ThreadPc`, and any other thread
may go first.  What a thread does to its own session and the acks it sends to its own connection
belong to the step before.

`accept` returns a number that no open connection has, in particular one that was just closed.
-/

namespace ChatSC.Native

/-- Where a thread of `client_thread_main` stands. -/
inductive ThreadPc where
  /-- at `read_full` in the loop head -/
  | reading
  /-- a request was read -/
  | handling (request : RequestPtr)
  /-- `handle_login_request`: before `register_online_user` -/
  | loginValidated (request : RequestPtr)
  /-- `handle_login_request`: before the session is set -/
  | loginRegistered (request : RequestPtr)
  /-- `handle_select_peer_request`: before `get_online_user_fd` -/
  | selecting (request : RequestPtr)
  /-- `handle_chat_request`: before the `write_full` to `peer_fd`.  `holder` is the connection that
      had the descriptor at the lookup; the program does not know it. -/
  | delivering (request : RequestPtr) (peerFd : Nat) (holder : Option Nat)
  /-- behind the loop: before `unregister_online_user` -/
  | leaving
  /-- before `close` -/
  | closing
  | ended
deriving DecidableEq

/-- A thread of `client_thread_main`. -/
structure ClientThread where
  session : ClientSession
  pc : ThreadPc
deriving DecidableEq

/-- The shared state and all threads. -/
structure ThreadedServer where
  userDb : List UInt8
  online : OnlineUsers
  threads : List ClientThread

/-- The server when it starts, with the users file it finds. -/
def ThreadedServer.start (userDb : List UInt8) : ThreadedServer := ⟨userDb, .zero, []⟩

/-- The descriptor of the connection is open. -/
def ThreadPc.isOpen : ThreadPc → Bool
  | .ended => false
  | _ => true

/-- The connection has not unregistered yet. -/
def ThreadPc.isLive : ThreadPc → Bool
  | .closing | .ended => false
  | _ => true

/-- The connection that has the descriptor. -/
def holderOf (threads : List ClientThread) (fd : Nat) : Option Nat :=
  threads.findIdx? fun thread => thread.pc.isOpen && thread.session.clientFd = fd

/-- A step of the server: the accept loop, the result of a `read_full`, or the next piece of the
    handler that a thread is in. -/
inductive ThreadEvent where
  | accept (fd : Nat)
  /-- `read_full` returns with a request or fails. -/
  | read (thread : Nat) (request : Option RequestPtr)
  /-- The thread goes on up to behind its next shared access; `access` and `written` are the
      outcomes of its file operations and of its `write_full` to a peer. -/
  | advance (thread : Nat) (access : FileAccess) (written : Bool)

/-- What a step of one thread leaves: the shared state, the thread and the responses written. -/
structure ThreadStep where
  userDb : List UInt8
  online : OnlineUsers
  thread : ClientThread
  writes : List Write

/-- The next piece of `client_thread_main` behind a read. -/
def advanceThread (server : ThreadedServer) (thread : ClientThread) (access : FileAccess)
    (written : Bool) : Option ThreadStep :=
  let session := thread.session
  -- a step that leaves the shared state alone
  let goOn (thread : ClientThread) (writes : List Write) : Option ThreadStep :=
    some ⟨server.userDb, server.online, thread, writes⟩
  match thread.pc with
  | .reading => none
  | .handling request =>
    if request.requestType = RequestType.authRegister.code then
      let (userDb, writes) := handleRegisterRequest access server.userDb session request
      some ⟨userDb, server.online, ⟨session, .reading⟩, writes⟩
    else if request.requestType = RequestType.authLogin.code then
      match serverValidateLogin access server.userDb request with
      | .ok => goOn ⟨session, .loginValidated request⟩ []
      | status =>
        let (session, writes) := loginFailed session request status
        goOn ⟨session, .reading⟩ writes
    else if request.requestType = RequestType.chatSelectPeer.code then
      if !session.authenticated then
        goOn ⟨session, .reading⟩ [selectPeerAck session request .authRequired "auth-required"]
      else if !serverUserExists access server.userDb request.peerUsernameStr then
        goOn ⟨session, .reading⟩ [selectPeerAck session request .userNotFound "peer-not-found"]
      else goOn ⟨session, .selecting request⟩ []
    else if request.requestType = RequestType.chatMessage.code then
      match chatRefused session request with
      | some ack => goOn ⟨session, .reading⟩ [ack]
      | none =>
        match getOnlineUserFd server.online request.peerUsernameStr with
        | none => goOn ⟨session, .reading⟩ [chatAck session request false]
        | some peerFd =>
          goOn ⟨session, .delivering request peerFd (holderOf server.threads peerFd)⟩ []
    else if request.requestType = RequestType.logout.code then
      goOn ⟨session, .leaving⟩ [logoutAck session request]
    else goOn ⟨session, .reading⟩ [invalidRequestAck session request]
  | .loginValidated request =>
    match registerOnlineUser server.online request.usernameStr session.clientFd with
    | (false, _) => goOn ⟨session, .reading⟩ (loginRefused session request)
    | (true, online) => some ⟨server.userDb, online, ⟨session, .loginRegistered request⟩, []⟩
  | .loginRegistered request =>
    let (session, writes) := loginSucceeded session request
    goOn ⟨session, .reading⟩ writes
  | .selecting request =>
    let (session, writes) := selectOnlinePeer server.online session request
    goOn ⟨session, .reading⟩ writes
  | .delivering request peerFd _ =>
    goOn ⟨session, .reading⟩
      [⟨peerFd, chatDelivery session request⟩, chatAck session request written]
  | .leaving =>
    some ⟨server.userDb, unregisterOnlineUser server.online session.username.val,
      ⟨session, .closing⟩, []⟩
  | .closing => goOn ⟨session, .ended⟩ []
  | .ended => none

/-- One step of the server; `none` when the event cannot happen. -/
def threadedStep (server : ThreadedServer) : ThreadEvent → Option (ThreadedServer × List Write)
  | .accept fd =>
    match holderOf server.threads fd with
    -- `accept` gives no descriptor that is still open
    | some _ => none
    | none => some ({ server with threads := server.threads ++ [⟨.fresh fd, .reading⟩] }, [])
  | .read index request =>
    match server.threads[index]? with
    | some ⟨session, .reading⟩ =>
      let pc := match request with
        | some request => .handling request
        -- `read_full` has not read a whole request
        | none => .leaving
      some ({ server with threads := server.threads.set index ⟨session, pc⟩ }, [])
    | _ => none
  | .advance index access written =>
    match server.threads[index]? with
    | none => none
    | some thread =>
      match advanceThread server thread access written with
      | none => none
      | some step =>
        some (⟨step.userDb, step.online, server.threads.set index step.thread⟩, step.writes)

end ChatSC.Native
