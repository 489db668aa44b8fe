import ChatSC.Backend.RealtimeMessage
import Mathlib.Data.List.Infix

/-!
# The chat gateway (`chat.gateway.ts`, `utils/socket-conversation.util.ts`)

A socket is in rooms: its user's from the start, those of the conversations that it joins.  Events
of clients and requests over HTTP are answered by tasks, which stop at every `await` as the calls of
the service do; `gatewayStep` interleaves any number of them.  A step says what it emits to which
socket.

`join` and `leave` are those of socket.io: a socket that is gone is in no room and joins none.  Of a
preview only the conversation is here, and of a moderation result only the message.
-/

namespace ChatSC.Backend

open JsString

/-! ## Sockets -/

/-- A socket of the namespace with its `ChatSocketData`. -/
structure ChatSocket where
  user : ObjectId
  rooms : List JsString
  joinedConversationIds : List JsString
  connected : Bool
deriving DecidableEq

/-- `getConversationRoom` -/
def getConversationRoom (conversationId : JsString) : JsString := js "conversation:" ++ conversationId

/-- `getUserRoom` -/
def getUserRoom (userId : JsString) : JsString := js "user:" ++ userId

namespace ChatSocket

/-- `client.join` -/
def join (client : ChatSocket) (room : JsString) : ChatSocket :=
  if client.connected then { client with rooms := client.rooms ++ [room] } else client

/-- `client.leave` -/
def leave (client : ChatSocket) (room : JsString) : ChatSocket :=
  { client with rooms := client.rooms.filter (· ≠ room) }

/-- `markConversationJoined` -/
def markConversationJoined (client : ChatSocket) (conversationId : JsString) : ChatSocket :=
  if conversationId ∈ client.joinedConversationIds then client
  else
    { client with joinedConversationIds := client.joinedConversationIds ++ [conversationId] }

/-- `markConversationLeft` -/
def markConversationLeft (client : ChatSocket) (conversationId : JsString) : ChatSocket :=
  { client with
    joinedConversationIds := client.joinedConversationIds.filter (· ≠ conversationId) }

/-- A socket after `handleConnection`. -/
def handleConnection (user : ObjectId) : ChatSocket :=
  ChatSocket.join ⟨user, [], [], true⟩ (getUserRoom user.toString)

/-- What both `handleLeaveConversation` and the loop of `handleDisconnect` do. -/
def leaveConversation (client : ChatSocket) (conversationId : JsString) : ChatSocket :=
  (client.leave (getConversationRoom conversationId)).markConversationLeft conversationId

/-- The socket has left its rooms, then `handleDisconnect` runs. -/
def handleDisconnect (client : ChatSocket) : ChatSocket :=
  client.joinedConversationIds.foldl leaveConversation
    { client with rooms := [], connected := false }

end ChatSocket

/-! ## Events of the server -/

/-- What the server emits. -/
inductive ServerEvent where
  | connectionStatusChanged
  | conversationPreviewUpdated (conversationId : JsString)
  | messageDelivered (message : RealtimeMessagePayload)
  /-- the reader's counter is zero -/
  | conversationReadUpdated (conversationId : JsString) (lastReadMessageId : Option ObjectId)
  | typingPresenceUpdated (conversationId userId : JsString) (isTyping : Bool) (expiresAt : Date)
  | aiModerationResult (conversationId messageId : JsString)
deriving DecidableEq

/-- An event that one socket gets. -/
structure SocketDelivery where
  client : Nat
  event : ServerEvent
deriving DecidableEq

/-- `this.server.to(room).emit` -/
def emitTo (sockets : List ChatSocket) (room : JsString) (event : ServerEvent) :
    List SocketDelivery :=
  (sockets.zipIdx.filter fun x => decide (room ∈ x.1.rooms)).map fun x => ⟨x.2, event⟩

/-- `emitConversationPreviews` -/
def emitConversationPreviews (sockets : List ChatSocket) (conversationId : JsString)
    (userIds : List JsString) : List SocketDelivery :=
  userIds.flatMap fun userId =>
    emitTo sockets (getUserRoom userId) (.conversationPreviewUpdated conversationId)

/-- `emitRealtimeMessage` -/
def emitRealtimeMessage (sockets : List ChatSocket) (conversationId : JsString)
    (participantUserIds : List JsString) (message : RealtimeMessagePayload) :
    List SocketDelivery :=
  emitTo sockets (getConversationRoom conversationId) (.messageDelivered message) ++
    participantUserIds.flatMap fun userId =>
      emitTo sockets (getUserRoom userId) (.messageDelivered message)

/-! ## Tasks -/

/-- The switches of `AiConfigService`. -/
structure AiConfig where
  isModerationEnabled : Bool
  isChatbotEnabled : Bool
deriving DecidableEq

/-- `shouldReply` of `AiChatbotService` -/
def shouldReply (content : JsString) : Bool :=
  (js "/ai").isPrefixOf (trim content) || decide (js "@chatai" <:+: trim content)

/-- What the environment gives to a step of a task. -/
structure GatewayInput where
  call : CallInput
  /-- the user that `findById` finds for the sender -/
  sender : SenderPresentation
  /-- the answer of the AI service; `none` when the call to it fails -/
  aiAnswer : Option JsString

/-- Where `handleJoinConversation` or `handleTypingPresence` stands. -/
inductive GuardedPc where
  /-- before `getRequiredActiveParticipant` -/
  | checking
  /-- behind it -/
  | checked
  | returned
  | threw (error : ChatError)
deriving DecidableEq

/-- From a stored message to the sockets: the second half of `sendRealtimeMessage` and of
    `sendAiBotMessage`, and what the gateway or the controller does with the result. -/
inductive EmitPc where
  /-- in `toRealtimeMessagePayload` -/
  | presenting (message : Message)
  /-- before `getActiveParticipants` -/
  | findingActive (conversation : ObjectId) (message : RealtimeMessagePayload)
  /-- before `emitConversationPreviews`, with the users of `previewByUserId` -/
  | emittingPreviews (message : RealtimeMessagePayload) (userIds : List JsString)
  /-- before `emitRealtimeMessage` -/
  | emittingMessage (message : RealtimeMessagePayload) (userIds : List JsString)
  | emitted (message : RealtimeMessagePayload)
deriving DecidableEq

/-- Where `handleSendMessage` or `confirmAttachment` stands. -/
inductive SendTaskPc where
  | sending (pc : SendPc)
  | emitting (pc : EmitPc)
  | returned (message : RealtimeMessagePayload)
  | threw (error : ChatError)
deriving DecidableEq

/-- Where `handleMarkConversationRead` stands. -/
inductive ReadTaskPc where
  | marking (pc : MarkReadPc)
  /-- before `getActiveParticipants` -/
  | findingActive (lastReadMessageId : Option ObjectId)
  | emittingPreviews (lastReadMessageId : Option ObjectId) (userIds : List JsString)
  | emitting (lastReadMessageId : Option ObjectId)
  | returned (lastReadMessageId : Option ObjectId)
  | threw (error : ChatError)
deriving DecidableEq

/-- Where the moderation of a message stands. -/
inductive ModerationPc where
  /-- in `analyzeMessage` -/
  | analyzing
  /-- before `saveMessageModerationResult` -/
  | saving
  | emitting
  | ended
deriving DecidableEq

/-- Where the answer of the chat bot stands. -/
inductive ChatbotPc where
  /-- in `generateResponse` -/
  | generating
  | sending (args : AiBotArgs) (pc : AiBotPc)
  | emitting (pc : EmitPc)
  | ended
deriving DecidableEq

/-- What the server is working on. -/
inductive GatewayTask where
  /-- a request over HTTP that emits nothing -/
  | request (call : ChatCall)
  | joinConversation (client : Nat) (conversationId : JsString) (pc : GuardedPc)
  | sendMessage (args : SendArgs) (fromSocket : Bool) (pc : SendTaskPc)
  | markConversationRead (args : MemberArgs) (pc : ReadTaskPc)
  | typingPresence (client : Nat) (conversationId : JsString) (isTyping : Bool) (pc : GuardedPc)
  | moderation (conversationId userId messageId : JsString) (pc : ModerationPc)
  | chatbot (conversationId userId : JsString) (pc : ChatbotPc)
deriving DecidableEq

/-- What a step of a task comes to. -/
structure TaskStep where
  db : ChatDb
  sockets : List ChatSocket
  task : GatewayTask
  spawned : List GatewayTask
  deliveries : List SocketDelivery

/-- One step of `handleJoinConversation` or `handleTypingPresence` up to the check. -/
def guardStep (db : ChatDb) (sockets : List ChatSocket) (client : Nat) (conversationId : JsString) :
    Option GuardedPc :=
  sockets[client]?.map fun socket =>
    match getRequiredActiveParticipant db conversationId socket.user.toString with
    | .error error => .threw error
    | .ok _ => .checked

/-- One step from a stored message to the sockets. -/
def emitStep (env : BackendEnv) (db : ChatDb) (sockets : List ChatSocket)
    (conversationId : JsString) (input : GatewayInput) : EmitPc → Option (EmitPc × List SocketDelivery)
  | .presenting message =>
    (toRealtimeMessagePayload env input.call.exchange input.call.encryption input.sender
      message).map fun payload => (.findingActive message.conversationId payload, [])
  | .findingActive conversation payload =>
    some (.emittingPreviews payload
      ((db.findActiveParticipants conversation).map (·.userId.toString)), [])
  | .emittingPreviews payload userIds =>
    some (.emittingMessage payload userIds, emitConversationPreviews sockets conversationId userIds)
  | .emittingMessage payload userIds =>
    some (.emitted payload, emitRealtimeMessage sockets conversationId userIds payload)
  | .emitted _ => none

/-- The moderation and the answer of the chat bot that `handleSendMessage` starts. -/
def followUps (config : AiConfig) (args : SendArgs) (message : RealtimeMessagePayload) :
    List GatewayTask :=
  (if config.isModerationEnabled && args.content ≠ [] then
    [.moderation args.conversationId args.senderId message.messageId .analyzing] else []) ++
  (if config.isChatbotEnabled && shouldReply args.content then
    [.chatbot args.conversationId args.senderId .generating] else [])

/-- `handleSendMessage` or `confirmAttachment` where `sendMessage` has come to `pc`. -/
def afterSend : SendPc → SendTaskPc
  | .returned message _ => .emitting (.presenting message)
  | .threw error => .threw error
  | pc => .sending pc

/-- `handleMarkConversationRead` where `markConversationRead` has come to `pc`. -/
def afterMarkRead : MarkReadPc → ReadTaskPc
  | .returned lastReadMessageId => .findingActive lastReadMessageId
  | .threw error => .threw error
  | pc => .marking pc

/-- The chat bot where `sendAiBotMessage` has come to `pc`. -/
def afterAiBot (args : AiBotArgs) : AiBotPc → ChatbotPc
  | .returned message => .emitting (.presenting message)
  | .threw _ => .ended
  | pc => .sending args pc

/-- One step of a task; `none` when it has ended, or with an input that is not possible. -/
def taskStep (env : BackendEnv) (config : AiConfig) (db : ChatDb) (sockets : List ChatSocket)
    (input : GatewayInput) : GatewayTask → Option TaskStep
  | .request call =>
    (callStep env db call input.call).map fun (db, call) => ⟨db, sockets, .request call, [], []⟩
  | .joinConversation client conversationId pc =>
    match pc with
    | .checking =>
      (guardStep db sockets client conversationId).map fun pc =>
        ⟨db, sockets, .joinConversation client conversationId pc, [], []⟩
    | .checked =>
      let sockets := sockets.modify client fun socket =>
        (socket.join (getConversationRoom conversationId)).markConversationJoined conversationId
      some ⟨db, sockets, .joinConversation client conversationId .returned, [], []⟩
    | .returned | .threw _ => none
  | .sendMessage args fromSocket pc =>
    match pc with
    | .sending pc =>
      (sendStep env db args input.call pc).map fun (db, pc) =>
        ⟨db, sockets, .sendMessage args fromSocket (afterSend pc), [], []⟩
    | .emitting (.emitted message) =>
      -- nobody waits for the moderation and for the chat bot
      let spawned := if fromSocket then followUps config args message else []
      some ⟨db, sockets, .sendMessage args fromSocket (.returned message), spawned, []⟩
    | .emitting pc =>
      (emitStep env db sockets args.conversationId input pc).map fun (pc, deliveries) =>
        ⟨db, sockets, .sendMessage args fromSocket (.emitting pc), [], deliveries⟩
    | .returned _ | .threw _ => none
  | .markConversationRead args pc =>
    match pc with
    | .marking pc =>
      (markReadStep db args input.call pc).map fun (db, pc) =>
        ⟨db, sockets, .markConversationRead args (afterMarkRead pc), [], []⟩
    | .findingActive last =>
      let pc := match ObjectId.ofString? args.conversationId with
        | none => .threw .invalidObjectId
        | some conversation =>
          .emittingPreviews last ((db.findActiveParticipants conversation).map (·.userId.toString))
      some ⟨db, sockets, .markConversationRead args pc, [], []⟩
    | .emittingPreviews last userIds =>
      some ⟨db, sockets, .markConversationRead args (.emitting last), [],
        emitConversationPreviews sockets args.conversationId userIds⟩
    | .emitting last =>
      let event := .conversationReadUpdated args.conversationId last
      some ⟨db, sockets, .markConversationRead args (.returned last), [],
        -- to the reader's own sockets, and to everybody in the conversation
        emitTo sockets (getUserRoom args.userId) event ++
          emitTo sockets (getConversationRoom args.conversationId) event⟩
    | .returned _ | .threw _ => none
  | .typingPresence client conversationId isTyping pc =>
    match pc with
    | .checking =>
      (guardStep db sockets client conversationId).map fun pc =>
        ⟨db, sockets, .typingPresence client conversationId isTyping pc, [], []⟩
    | .checked =>
      sockets[client]?.map fun socket =>
        let event := .typingPresenceUpdated conversationId socket.user.toString isTyping
          (input.call.now + 4000)
        -- `client.to(room)` leaves out the socket itself
        ⟨db, sockets, .typingPresence client conversationId isTyping .returned, [],
          (emitTo sockets (getConversationRoom conversationId) event).filter (·.client ≠ client)⟩
    | .returned | .threw _ => none
  | .moderation conversationId userId messageId pc =>
    match pc with
    | .analyzing =>
      let pc := if input.aiAnswer.isSome then .saving else .ended
      some ⟨db, sockets, .moderation conversationId userId messageId pc, [], []⟩
    | .saving => some ⟨db, sockets, .moderation conversationId userId messageId .emitting, [], []⟩
    | .emitting =>
      let event := .aiModerationResult conversationId messageId
      some ⟨db, sockets, .moderation conversationId userId messageId .ended, [],
        emitTo sockets (getConversationRoom conversationId) event ++
          emitTo sockets (getUserRoom userId) event⟩
    | .ended => none
  | .chatbot conversationId userId pc =>
    match pc with
    | .generating =>
      let pc := match input.aiAnswer with
        -- a call that fails and an empty answer end it
        | none | some [] => .ended
        | some content => .sending ⟨conversationId, userId, content⟩ .start
      some ⟨db, sockets, .chatbot conversationId userId pc, [], []⟩
    | .sending args pc =>
      (aiBotStep db args input.call pc).map fun (db, pc) =>
        ⟨db, sockets, .chatbot conversationId userId (afterAiBot args pc), [], []⟩
    | .emitting pc =>
      (emitStep env db sockets conversationId input pc).map fun (pc, deliveries) =>
        ⟨db, sockets, .chatbot conversationId userId (.emitting pc), [], deliveries⟩
    | .ended => none

/-! ## The gateway -/

/-- The database, all the sockets there have been, and all the tasks. -/
structure ChatGateway where
  db : ChatDb
  sockets : List ChatSocket
  tasks : List GatewayTask

/-- An event that a client sends; an attachment id that is missing is the empty string. -/
inductive ClientEvent where
  | joinConversation (conversationId : JsString)
  | leaveConversation (conversationId : JsString)
  | sendMessage (conversationId content attachmentId : JsString)
  | markConversationRead (conversationId : JsString)
  | typingPresenceUpdated (conversationId : JsString) (isTyping : Bool)
deriving DecidableEq

/-- What happens at the gateway. -/
inductive GatewayEvent where
  /-- a socket whose token `authenticateSocketClient` has accepted -/
  | connect (user : ObjectId)
  | disconnect (client : Nat)
  | receive (client : Nat) (event : ClientEvent)
  /-- a request over HTTP that emits nothing -/
  | request (call : ChatCall)
  /-- `confirmAttachment` of the controller -/
  | confirmAttachment (user : ObjectId) (conversationId attachmentId : JsString)
  | step (index : Nat) (input : GatewayInput)

/-- The calls that the controller makes without the gateway, not started yet. -/
def ChatCall.isRequest : ChatCall → Bool
  | .sendMessage _ _ => false
  | .markConversationRead _ pc => pc = .guarding
  | call => call.isStart

/-- The task of a client's event. -/
def clientTask (client : Nat) (socket : ChatSocket) : ClientEvent → Option GatewayTask
  | .joinConversation conversationId => some (.joinConversation client conversationId .checking)
  | .leaveConversation _ => none
  | .sendMessage conversationId content attachmentId =>
    let content := trim content
    some (.sendMessage ⟨conversationId, socket.user.toString, content, attachmentId,
      shouldReply content⟩ true (.sending .start))
  | .markConversationRead conversationId =>
    some (.markConversationRead ⟨conversationId, socket.user.toString⟩ (.marking .start))
  | .typingPresenceUpdated conversationId isTyping =>
    some (.typingPresence client conversationId isTyping .checking)

/-- What happens next and what is emitted; `none` when the event cannot happen. -/
def gatewayNext (env : BackendEnv) (config : AiConfig) (gateway : ChatGateway) :
    GatewayEvent → Option (ChatGateway × List SocketDelivery)
  | .connect user =>
    some ({ gateway with sockets := gateway.sockets ++ [.handleConnection user] },
      [⟨gateway.sockets.length, .connectionStatusChanged⟩])
  | .disconnect client =>
    match gateway.sockets[client]? with
    | some ⟨_, _, _, true⟩ =>
      some ({ gateway with
        sockets := gateway.sockets.modify client ChatSocket.handleDisconnect }, [])
    | _ => none
  | .receive client event =>
    match gateway.sockets[client]? with
    | none => none
    | some socket =>
      if socket.connected then
        match event with
        | .leaveConversation conversationId =>
          some ({ gateway with
            sockets := gateway.sockets.modify client (·.leaveConversation conversationId) }, [])
        | event =>
          some ({ gateway with
            tasks := gateway.tasks ++ (clientTask client socket event).toList }, [])
      else none
  | .request call =>
    if call.isRequest then
      some ({ gateway with tasks := gateway.tasks ++ [.request call] }, [])
    else none
  | .confirmAttachment user conversationId attachmentId =>
    some ({ gateway with
      tasks := gateway.tasks ++ [.sendMessage ⟨conversationId, user.toString, [], attachmentId,
        false⟩ false (.sending .start)] }, [])
  | .step index input =>
    match gateway.tasks[index]? with
    | none => none
    | some task =>
      (taskStep env config gateway.db gateway.sockets input task).map fun next =>
        (⟨next.db, next.sockets, gateway.tasks.set index next.task ++ next.spawned⟩,
          next.deliveries)

/-- The gateway after an event. -/
def gatewayStep (env : BackendEnv) (config : AiConfig) (gateway : ChatGateway)
    (event : GatewayEvent) : Option ChatGateway :=
  (gatewayNext env config gateway event).map Prod.fst

end ChatSC.Backend
