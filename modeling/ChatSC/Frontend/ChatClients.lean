import ChatSC.Backend.ChatGateway
import ChatSC.Frontend.ChatPage

/-!
# The gateway with the pages behind its sockets

A client is a socket of the gateway and the state of the page that has opened it.  An operation is
made from its start to its end, with the database for itself, and all its events are delivered
before the next one: the rooms decide which sockets get an event, and the handlers of `ChatPage`
what becomes of it.

Conversations and users have the ids of the server, as pages send them.  An operation that is
refused emits nothing and is not one here.  A preview of a conversation that the page does not list
makes it load its list again (`loadConversations`), which is left out here.
-/

namespace ChatSC.Frontend

open Backend Transition

/-- A socket with the state of its page. -/
structure ChatClient where
  socket : ChatSocket
  state : ChatState

/-! ## Events -/

/-- What the page does with an event of its socket; the preview is that for its user. -/
def ChatClient.receive (preview : ObjectId → Option ConversationPreviewPayload)
    (client : ChatClient) : ServerEvent → ChatClient
  | .conversationPreviewUpdated _ =>
    match preview client.socket.user with
    | some preview => { client with state := client.state.handlePreviewUpdate preview }
    | none => client
  | .messageDelivered message => { client with state := client.state.handleIncomingMessage message }
  | .conversationReadUpdated conversationId _ =>
    { client with state := client.state.handleConversationRead conversationId }
  | .connectionStatusChanged | .typingPresenceUpdated _ _ _ _ | .aiModerationResult _ _ => client

/-- The events that a client gets, in the order of emission. -/
def receivedBy (deliveries : List SocketDelivery) (client : Nat) : List ServerEvent :=
  (deliveries.filter (·.client = client)).map SocketDelivery.event

/-- All events are delivered. -/
def deliverAll (previews : List (ObjectId × ConversationPreviewPayload))
    (clients : List ChatClient) (deliveries : List SocketDelivery) : List ChatClient :=
  clients.mapIdx fun index client =>
    (receivedBy deliveries index).foldl
      (ChatClient.receive fun user => (previews.find? (·.1 = user)).map Prod.snd) client

/-! ## Operations -/

/-- What the environment gives when events are built. -/
structure EmitInput where
  message : DisplayInput
  previews : ObjectId → DisplayInput
  now : Date

/-- The database and the clients. -/
structure ClientSystem where
  db : ChatDb
  clients : List ChatClient

/-- The sockets of the clients. -/
def socketsOf (clients : List ChatClient) : List ChatSocket := clients.map ChatClient.socket

/-- The second half of `sendRealtimeMessage` or of `sendAiBotMessage`, and the events of the
    message. -/
def emitMessage (env : BackendEnv) (system : ClientSystem) (message : Backend.Message)
    (input : EmitInput) : Option ClientSystem :=
  let conversationId := message.conversationId.toString
  (toRealtimeMessagePayload env input.message.exchange input.message.encryption
    input.message.sender message).bind fun payload =>
      (buildConversationPreviewPayloads env input.previews system.db conversationId
        message.conversationId input.now).map fun previews =>
          let userIds := previews.map (·.1.toString)
          let sockets := socketsOf system.clients
          { system with
            clients := deliverAll previews system.clients
              (emitConversationPreviews sockets conversationId userIds ++
                emitRealtimeMessage sockets conversationId userIds payload) }

/-- `handleSendMessage`, or `confirmAttachment` of the controller. -/
def handleSendMessage (env : BackendEnv) (system : ClientSystem) (args : SendArgs)
    (inputs : List CallInput) (input : EmitInput) : Option ClientSystem :=
  match run (aloneStep env) (system.db, .sendMessage args .start) inputs with
  | some (db, .sendMessage _ (.returned message _)) =>
    emitMessage env { system with db := db } message input
  | _ => none

/-- The answer of the chat bot. -/
def sendAiBotMessage (env : BackendEnv) (system : ClientSystem) (args : AiBotArgs)
    (inputs : List CallInput) (input : EmitInput) : Option ClientSystem :=
  match run (fun state input => aiBotStep state.1 args input state.2) (system.db, .start) inputs with
  | some (db, .returned message) => emitMessage env { system with db := db } message input
  | _ => none

/-- `markConversationRead` from a pc on. -/
def markRead (env : BackendEnv) (db : ChatDb) (args : MemberArgs) (pc : MarkReadPc)
    (inputs : List CallInput) : Option (ChatDb × Option ObjectId) :=
  match run (aloneStep env) (db, .markConversationRead args pc) inputs with
  | some (db, .markConversationRead _ (.returned lastReadMessageId)) => some (db, lastReadMessageId)
  | _ => none

/-- `handleMarkConversationRead`, and the answer to the page that has asked for it. -/
def handleMarkConversationRead (env : BackendEnv) (system : ClientSystem) (client : Nat)
    (conversation : ObjectId) (inputs : List CallInput) (input : EmitInput) :
    Option ClientSystem :=
  match system.clients[client]? with
  | none => none
  | some caller =>
    let conversationId := conversation.toString
    let userId := caller.socket.user.toString
    (markRead env system.db ⟨conversationId, userId⟩ .start inputs).bind
      fun (db, lastReadMessageId) =>
        (buildConversationPreviewPayloads env input.previews db conversationId conversation
          input.now).map fun previews =>
            let sockets := socketsOf system.clients
            let event := .conversationReadUpdated conversationId lastReadMessageId
            let clients := deliverAll previews system.clients
              (emitConversationPreviews sockets conversationId (previews.map (·.1.toString)) ++
                (emitTo sockets (getUserRoom userId) event ++
                  emitTo sockets (getConversationRoom conversationId) event))
            ⟨db, clients.modify client fun caller =>
              { caller with state := caller.state.showReadState conversationId 0 }⟩

/-- One operation of the gateway or of the controller. -/
inductive ClientOperation where
  | sendMessage (conversation sender : ObjectId) (content attachmentId : JsString)
      (isAICommand : Bool) (inputs : List CallInput) (input : EmitInput)
  | sendAiBotMessage (conversation requester : ObjectId) (content : JsString)
      (inputs : List CallInput) (input : EmitInput)
  | markConversationRead (client : Nat) (conversation : ObjectId) (inputs : List CallInput)
      (input : EmitInput)
  /-- `markConversationRead` of the controller, which emits nothing -/
  | readOverHttp (user conversation : ObjectId) (inputs : List CallInput)
  | joinConversation (client : Nat) (conversation : ObjectId)
  | leaveConversation (client : Nat) (conversation : ObjectId)

/-- The state after an operation; `none` when it is refused. -/
def clientStep (env : BackendEnv) (system : ClientSystem) :
    ClientOperation → Option ClientSystem
  | .sendMessage conversation sender content attachmentId isAICommand inputs input =>
    handleSendMessage env system
      ⟨conversation.toString, sender.toString, content, attachmentId, isAICommand⟩ inputs input
  | .sendAiBotMessage conversation requester content inputs input =>
    sendAiBotMessage env system ⟨conversation.toString, requester.toString, content⟩ inputs input
  | .markConversationRead client conversation inputs input =>
    handleMarkConversationRead env system client conversation inputs input
  | .readOverHttp user conversation inputs =>
    (markRead env system.db ⟨conversation.toString, user.toString⟩ .guarding inputs).map
      fun (db, _) => { system with db := db }
  | .joinConversation client conversation =>
    match system.clients[client]? with
    | none => none
    | some joining =>
      match getRequiredActiveParticipant system.db conversation.toString
          joining.socket.user.toString with
      -- a join that is refused changes nothing and is left out
      | .error _ => none
      | .ok _ =>
        some { system with
          clients := system.clients.modify client fun joining =>
            { joining with
              socket := (joining.socket.join (getConversationRoom conversation.toString)).markConversationJoined
                conversation.toString } }
  | .leaveConversation client conversation =>
    some { system with
      clients := system.clients.modify client fun leaving =>
        { leaving with socket := leaving.socket.leaveConversation conversation.toString } }

end ChatSC.Frontend
