import ChatSC.Backend.ChatEncryption
import ChatSC.Backend.ObjectId
import ChatSC.ForStd.Collection

/-!
# The chat collections (`backend/src/modules/chat/schemas`)

The documents of the five collections of the chat module, and the single database operations that
`ChatService` makes on them.  Times are in milliseconds.  `createdAt` of the documents, the r2 key
of an attachment and the moderation result of a message are used by nothing below and left out.
-/

namespace ChatSC.Backend

open Collection

abbrev Date := Nat

/-- `ConversationType` -/
inductive ConversationType where
  | direct
  | group
deriving DecidableEq, Repr

/-- `Conversation` -/
structure Conversation where
  id : ObjectId
  type : ConversationType
  title : Option JsString
  createdBy : ObjectId
  lastMessageAt : Option Date
  updatedAt : Date
deriving DecidableEq

/-- `ParticipantRole` -/
inductive ParticipantRole where
  | member
  | admin
  | owner
deriving DecidableEq, Repr

/-- `ParticipantStatus` -/
inductive ParticipantStatus where
  | active
  | left
  | removed
deriving DecidableEq, Repr

/-- `ConversationParticipant` -/
structure ConversationParticipant where
  id : ObjectId
  conversationId : ObjectId
  userId : ObjectId
  role : ParticipantRole
  status : ParticipantStatus
  addedBy : Option ObjectId
  joinedAt : Date
  leftAt : Option Date
  lastReadMessageId : Option ObjectId
  lastReadAt : Option Date
  unreadCount : Nat
deriving DecidableEq

/-- `SeenState` -/
inductive SeenState where
  | sent
  | seen
deriving DecidableEq, Repr

/-- `MessageAttachment` -/
structure MessageAttachment where
  attachmentId : ObjectId
  fileName : JsString
  mimeType : JsString
  sizeBytes : Nat
  isImage : Bool
deriving DecidableEq

/-- `Message`; its `deliveryStatus` is `'sent'` throughout. -/
structure Message where
  id : ObjectId
  conversationId : ObjectId
  senderId : ObjectId
  content : JsString
  reverseEncryptionState : ReverseEncryptionState
  encryptedContentVersion : Option String
  sentAt : Date
  seenState : SeenState
  decodeErrorCode : Option String
  isAIBotMessage : Bool
  isAICommand : Bool
  attachment : Option MessageAttachment
deriving DecidableEq

/-- `MembershipEventType` -/
inductive MembershipEventType where
  | added
  | joined
  | left
  | removed
deriving DecidableEq, Repr

/-- `MembershipEvent` -/
structure MembershipEvent where
  id : ObjectId
  conversationId : ObjectId
  type : MembershipEventType
  targetUserId : ObjectId
  actorUserId : Option ObjectId
  occurredAt : Date
deriving DecidableEq

/-- `ChatAttachmentStatus` -/
inductive ChatAttachmentStatus where
  | draft
  | uploaded
  | attached
deriving DecidableEq, Repr

/-- `ChatAttachment` -/
structure ChatAttachment where
  id : ObjectId
  conversationId : ObjectId
  messageId : Option ObjectId
  uploaderId : ObjectId
  originalName : JsString
  mimeType : JsString
  sizeBytes : Nat
  isImage : Bool
  status : ChatAttachmentStatus
  uploadedAt : Option Date
  confirmedAt : Option Date
deriving DecidableEq

/-- The collections of the chat module. -/
structure ChatDb where
  conversations : List Conversation
  participants : List ConversationParticipant
  messages : List Message
  membershipEvents : List MembershipEvent
  attachments : List ChatAttachment
deriving DecidableEq

namespace ChatDb

/-- The collections before the first conversation, with the attachments there are. -/
def start (attachments : List ChatAttachment) : ChatDb := ⟨[], [], [], [], attachments⟩

/-! ## Queries -/

/-- The filter `{ conversationId, userId, status: 'active' }`. -/
def isActiveOf (conversation user : ObjectId) (p : ConversationParticipant) : Bool :=
  p.conversationId = conversation && p.userId = user && p.status = .active

/-- `participantModel.findOne({ conversationId, userId, status: 'active' })` -/
def findActive (db : ChatDb) (conversation user : ObjectId) : Option ConversationParticipant :=
  db.participants.find? (isActiveOf conversation user)

/-- `participantModel.find({ conversationId })` -/
def findParticipants (db : ChatDb) (conversation : ObjectId) : List ConversationParticipant :=
  db.participants.filter (·.conversationId = conversation)

/-- `participantModel.find({ conversationId, status: 'active' })` -/
def findActiveParticipants (db : ChatDb) (conversation : ObjectId) :
    List ConversationParticipant :=
  db.participants.filter fun p => p.conversationId = conversation && p.status = .active

/-- `conversationModel.findById(id)` -/
def findConversation (db : ChatDb) (conversation : ObjectId) : Option Conversation :=
  db.conversations.find? (·.id = conversation)

/-- `attachmentModel.findById(id)` -/
def findAttachment (db : ChatDb) (attachment : ObjectId) : Option ChatAttachment :=
  db.attachments.find? (·.id = attachment)

/-- `messageModel.findOne({ conversationId }).sort({ sentAt: -1 })` -/
def findLatestMessage (db : ChatDb) (conversation : ObjectId) : Option Message :=
  findLatest Message.sentAt (db.messages.filter (·.conversationId = conversation))

/-! ## Updates -/

/-- `conversationModel.create` -/
def createConversation (db : ChatDb) (conversation : Conversation) : ChatDb :=
  { db with conversations := db.conversations ++ [conversation] }

/-- `participantModel.insertMany` -/
def insertParticipants (db : ChatDb) (participants : List ConversationParticipant) : ChatDb :=
  { db with participants := db.participants ++ participants }

/-- `membershipEventModel.insertMany` -/
def insertEvents (db : ChatDb) (events : List MembershipEvent) : ChatDb :=
  { db with membershipEvents := db.membershipEvents ++ events }

/-- `messageModel.create` -/
def createMessage (db : ChatDb) (message : Message) : ChatDb :=
  { db with messages := db.messages ++ [message] }

/-- `participantModel.updateOne(match, ..)` -/
def updateParticipant (db : ChatDb) (isMatch : ConversationParticipant → Bool)
    (change : ConversationParticipant → ConversationParticipant) : ChatDb :=
  { db with participants := updateOne isMatch change db.participants }

/-- `participantModel.updateOne({ conversationId, userId, status: 'active' }, { status, leftAt })` -/
def endMembership (db : ChatDb) (conversation user : ObjectId) (status : ParticipantStatus)
    (leftAt : Date) : ChatDb :=
  db.updateParticipant (isActiveOf conversation user) fun p =>
    { p with status := status, leftAt := some leftAt }

/-- `participantModel.updateOne({ _id }, { status: 'active', leftAt: undefined })`; the key without
    a value is not sent. -/
def restoreParticipant (db : ChatDb) (participant : ObjectId) : ChatDb :=
  db.updateParticipant (·.id = participant) fun p => { p with status := .active }

/-- `participantModel.updateOne({ _id }, { lastReadMessageId, lastReadAt, unreadCount: 0 })` -/
def moveMarker (db : ChatDb) (participant message : ObjectId) (lastReadAt : Date) : ChatDb :=
  db.updateParticipant (·.id = participant) fun p =>
    { p with
      lastReadMessageId := some message
      lastReadAt := some lastReadAt
      unreadCount := 0 }

/-- `participantModel.updateOne({ _id }, { unreadCount: 0 })` -/
def resetUnread (db : ChatDb) (participant : ObjectId) : ChatDb :=
  db.updateParticipant (·.id = participant) fun p => { p with unreadCount := 0 }

/-- The filter `{ conversationId, userId: { $ne: sender }, status: 'active' }`. -/
def isOtherActive (conversation sender : ObjectId) (p : ConversationParticipant) : Bool :=
  p.conversationId = conversation && p.userId ≠ sender && p.status = .active

/-- The update of `incrementUnreadForOtherParticipants`. -/
def incrementUnread (db : ChatDb) (conversation sender : ObjectId) : ChatDb :=
  { db with
    participants := updateMany (isOtherActive conversation sender)
      (fun p => { p with unreadCount := p.unreadCount + 1 }) db.participants }

/-- `conversationModel.updateOne({ _id }, { lastMessageAt })` -/
def touchConversation (db : ChatDb) (conversation : ObjectId) (lastMessageAt now : Date) :
    ChatDb :=
  { db with
    conversations := updateOne (·.id = conversation)
      (fun c => { c with lastMessageAt := some lastMessageAt, updatedAt := now })
      db.conversations }

/-- `attachmentDocument.save()` after `messageId`, `status` and `confirmedAt` were set. -/
def saveAttached (db : ChatDb) (attachment message : ObjectId) (confirmedAt : Date) : ChatDb :=
  { db with
    attachments := updateOne (·.id = attachment)
      (fun a => { a with
        messageId := some message
        status := .attached
        confirmedAt := some confirmedAt })
      db.attachments }

/-- `messageModel.updateMany({ conversationId, senderId: { $in }, sentAt: { $lte } }, { seenState:
    'seen' })` -/
def markSeen (db : ChatDb) (conversation : ObjectId) (senders : List ObjectId) (upTo : Date) :
    ChatDb :=
  { db with
    messages := updateMany
      (fun m => m.conversationId = conversation && m.senderId ∈ senders && m.sentAt ≤ upTo)
      (fun m => { m with seenState := .seen }) db.messages }

end ChatDb

end ChatSC.Backend
