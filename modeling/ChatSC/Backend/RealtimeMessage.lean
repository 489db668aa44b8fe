import ChatSC.Backend.ChatCalls

/-!
# Messages for the sockets (`chat.service.ts`)

`toRealtimeMessagePayload` makes the payload of a stored message, and `sendAiBotMessage` stores the
answer of the chat bot.  The author's name and picture come from the users, whom `AuthService` looks
up; times stay numbers, where the source writes them with `toISOString`.  Moderation results are
left out of the payload: no message has one when it is sent.
-/

namespace ChatSC.Backend

open JsString

/-- What `buildSenderPresentation` makes of the user that `AuthService.findById` finds. -/
structure SenderPresentation where
  senderDisplayName : Option JsString
  senderAvatarUrl : Option JsString
deriving DecidableEq

/-- `ChatAttachmentPayload` -/
structure ChatAttachmentPayload where
  attachmentId : JsString
  fileName : JsString
  mimeType : JsString
  sizeBytes : Nat
  isImage : Bool
  uploaderId : JsString
  conversationId : JsString
  messageId : JsString
deriving DecidableEq

/-- `MessageDisplayState` -/
inductive MessageDisplayState where
  | ready
  | decodeFailed
deriving DecidableEq, Repr

/-- `RealtimeMessagePayload`; its `isTailOfSenderGroup` is `true` throughout. -/
structure RealtimeMessagePayload where
  messageId : JsString
  conversationId : JsString
  senderId : JsString
  senderDisplayName : Option JsString
  senderAvatarUrl : Option JsString
  content : JsString
  sentAt : Date
  seenState : SeenState
  attachment : Option ChatAttachmentPayload
  decodeErrorCode : Option String
  displayState : MessageDisplayState
  isAIBotMessage : Bool
  isAICommand : Bool
deriving DecidableEq

/-- `buildAttachmentPayload` -/
def buildAttachmentPayload (message : Message) : Option ChatAttachmentPayload :=
  message.attachment.map fun attachment =>
    ⟨attachment.attachmentId.toString, attachment.fileName, attachment.mimeType,
      attachment.sizeBytes, attachment.isImage, message.senderId.toString,
      message.conversationId.toString, message.id.toString⟩

/-- `error.code` -/
def ProcessingError.code : ProcessingError → String
  | .chat code _ => code
  | .outOfRange => "ERR_OUT_OF_RANGE"

/-- The payload of a message with what is shown of its text. -/
def realtimePayload (message : Message) (presentation : SenderPresentation) (content : JsString)
    (decodeErrorCode : Option String) (displayState : MessageDisplayState) :
    RealtimeMessagePayload where
  messageId := message.id.toString
  conversationId := message.conversationId.toString
  senderId := message.senderId.toString
  senderDisplayName :=
    if message.isAIBotMessage then some (js "ChatAI") else presentation.senderDisplayName
  senderAvatarUrl := if message.isAIBotMessage then none else presentation.senderAvatarUrl
  content := content
  sentAt := message.sentAt
  seenState := message.seenState
  attachment := buildAttachmentPayload message
  decodeErrorCode := decodeErrorCode
  displayState := displayState
  isAIBotMessage := message.isAIBotMessage
  isAICommand := message.isAICommand

/-- `toRealtimeMessagePayload`; `none` while the processor has not answered. -/
def toRealtimeMessagePayload (env : BackendEnv) (io : ExchangeIo) (service : ChatEncryptionService)
    (presentation : SenderPresentation) (message : Message) : Option RealtimeMessagePayload :=
  match (decryptForDisplay env io service message.content (some message.reverseEncryptionState)
      ⟨message.senderId.toString, message.conversationId.toString⟩).2 with
  | .pending => none
  | .resolved display =>
    some (realtimePayload message presentation display.content display.decodeErrorCode .ready)
  -- the stored text stays in the payload
  | .rejected error =>
    some (realtimePayload message presentation message.content (some error.code) .decodeFailed)

/-! ## The messages of the chat bot -/

/-- The document that `sendAiBotMessage` creates. -/
def newAiBotMessage (conversation requester : ObjectId) (content : JsString) (sentAt : Date)
    (id : ObjectId) : Message where
  id := id
  conversationId := conversation
  senderId := requester
  content := content
  reverseEncryptionState := .legacy
  encryptedContentVersion := none
  sentAt := sentAt
  seenState := .sent
  decodeErrorCode := none
  isAIBotMessage := true
  isAICommand := false
  attachment := none

/-- The arguments of `sendAiBotMessage`. -/
structure AiBotArgs where
  conversationId : JsString
  requesterId : JsString
  content : JsString
deriving DecidableEq

/-- Where `sendAiBotMessage` stands. -/
inductive AiBotPc where
  /-- before `messageModel.create` -/
  | start
  /-- before the update of `lastMessageAt` -/
  | updatingConversation (message : Message)
  /-- in `incrementUnreadForOtherParticipants` -/
  | incrementing (message : Message)
  | returned (message : Message)
  | threw (error : ChatError)
deriving DecidableEq

/-- One step of `sendAiBotMessage`; the first one looks at no participant. -/
def aiBotStep (db : ChatDb) (args : AiBotArgs) (input : CallInput) :
    AiBotPc → Option (ChatDb × AiBotPc)
  | .start =>
    match ObjectId.ofString? args.conversationId, ObjectId.ofString? args.requesterId with
    | some conversation, some requester =>
      if input.newId ∈ db.messages.map Message.id then none
      else
        let message := newAiBotMessage conversation requester args.content input.now input.newId
        some (db.createMessage message, .updatingConversation message)
    | _, _ => some (db, .threw .invalidObjectId)
  | .updatingConversation message =>
    some (db.touchConversation message.conversationId message.sentAt input.now,
      .incrementing message)
  | .incrementing message =>
    some (db.incrementUnread message.conversationId message.senderId, .returned message)
  | .returned _ | .threw _ => none

end ChatSC.Backend
