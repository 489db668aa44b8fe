import ChatSC.Backend.AuthService
import ChatSC.Backend.MessageHistory
import Mathlib.Order.WithBot

/-!
# Lists and previews of conversations (`chat.service.ts`)

What `listConversationsForUser` and `buildConversationPreviewPayload` read in one state of the
database.  The user is the one of a token, whose id is the string of an `ObjectId`.
-/

namespace ChatSC.Backend

open JsString Pagination

/-- `buildMessagePreview` -/
def buildMessagePreview (message : Message) : JsString :=
  match message.attachment with
  | some attachment =>
    (if attachment.isImage then js "[Ảnh] " else js "[Tệp] ") ++ attachment.fileName
  | none => message.content

/-- The preview of the latest message, `none` where there is no message; `none` for both while it
    cannot be displayed. -/
def latestPreview (env : BackendEnv) (input : DisplayInput) (latest : Option Message) :
    Option (Option JsString) :=
  match latest with
  | none => some none
  | some message => (input.display env message).map fun display =>
    some (buildMessagePreview display.message)

/-! ## `listConversationsForUser` -/

/-- `ConversationSummary` -/
structure ConversationSummary where
  id : ObjectId
  type : ConversationType
  title : Option JsString
  createdBy : ObjectId
  updatedAt : Date
  lastMessageAt : Option Date
  displayTitle : JsString
  displayAvatarUrl : Option JsString
  lastMessagePreview : Option JsString
  unreadCount : Nat
  hasUnread : Bool
  directPeer : Option SessionUser
deriving DecidableEq

/-- Where a conversation stands in `.sort({ lastMessageAt: -1 })`: one without a value comes last. -/
def recency (lastMessageAt : Option Date) : WithBot Date :=
  match lastMessageAt with
  | none => ⊥
  | some date => WithBot.some date

/-- The other participant of a direct conversation, as `authService.findById` finds the user. -/
def directPeer (users : ObjectId → Option SessionUser) (db : ChatDb) (conversation user : ObjectId) :
    Option SessionUser :=
  ((db.findActiveParticipants conversation).find? (·.userId ≠ user)).bind fun peer =>
    users peer.userId

/-- What is shown of a conversation. -/
def summarize (env : BackendEnv) (users : ObjectId → Option SessionUser) (input : DisplayInput)
    (db : ChatDb) (user : ObjectId) (participations : List ConversationParticipant)
    (conversation : Conversation) : Option ConversationSummary :=
  let latestMessage := db.findLatestMessage conversation.id
  -- the last participation of a conversation stays in the map
  let participant := (participations.filter (·.conversationId = conversation.id)).getLast?
  let unreadCount := (participant.map ConversationParticipant.unreadCount).getD 0
  (latestPreview env input latestMessage).map fun preview =>
    { id := conversation.id
      type := conversation.type
      title := conversation.title
      createdBy := conversation.createdBy
      updatedAt := conversation.updatedAt
      lastMessageAt := (latestMessage.map Message.sentAt).or conversation.lastMessageAt
      displayTitle :=
        match conversation.type with
        | .direct => (((directPeer users db conversation.id user).map SessionUser.displayName).or
            conversation.title).getD (js "Đoạn chat mới")
        | .group => conversation.title.getD (js "Nhóm chat")
      displayAvatarUrl :=
        match conversation.type with
        | .direct => (directPeer users db conversation.id user).bind SessionUser.avatarUrl
        | .group => none
      lastMessagePreview := preview
      unreadCount := unreadCount
      hasUnread := 0 < unreadCount
      directPeer :=
        match conversation.type with
        | .direct => directPeer users db conversation.id user
        | .group => none }

/-- `listConversationsForUser`; `none` while a message cannot be displayed. -/
def listConversationsForUser (env : BackendEnv) (users : ObjectId → Option SessionUser)
    (input : ObjectId → DisplayInput) (db : ChatDb) (user : ObjectId) :
    Option (List ConversationSummary) :=
  let participations := db.participants.filter fun p => p.userId = user && p.status = .active
  let conversationIds := participations.map ConversationParticipant.conversationId
  let conversations := newestFirst (fun c : Conversation => recency c.lastMessageAt)
    (db.conversations.filter fun c => c.id ∈ conversationIds)
  conversations.mapM fun conversation =>
    summarize env users (input conversation.id) db user participations conversation

/-! ## `buildConversationPreviewPayload` -/

/-- `ConversationPreviewPayload` -/
structure ConversationPreviewPayload where
  conversationId : JsString
  lastMessagePreview : JsString
  lastMessageAt : Date
  unreadCount : Nat
  hasUnread : Bool
deriving DecidableEq

/-- `buildConversationPreviewPayload` of the conversation with the parsed id; `now` stands in where
    nothing has a time. -/
def buildConversationPreviewPayload (env : BackendEnv) (input : DisplayInput) (db : ChatDb)
    (conversationId : JsString) (conversation user : ObjectId) (now : Date) :
    Option ConversationPreviewPayload :=
  let latestMessage := db.findLatestMessage conversation
  let lastMessageAt := (db.findConversation conversation).bind Conversation.lastMessageAt
  let unreadCount :=
    ((db.findActive conversation user).map ConversationParticipant.unreadCount).getD 0
  (latestPreview env input latestMessage).map fun preview =>
    { conversationId := conversationId
      lastMessagePreview := preview.getD []
      lastMessageAt := ((latestMessage.map Message.sentAt).or lastMessageAt).getD now
      unreadCount := unreadCount
      hasUnread := 0 < unreadCount }

/-- `buildConversationPreviewPayloads`: the previews of the active participants, each with its
    user. -/
def buildConversationPreviewPayloads (env : BackendEnv) (input : ObjectId → DisplayInput)
    (db : ChatDb) (conversationId : JsString) (conversation : ObjectId) (now : Date) :
    Option (List (ObjectId × ConversationPreviewPayload)) :=
  (db.findActiveParticipants conversation).mapM fun participant =>
    (buildConversationPreviewPayload env (input participant.userId) db conversationId conversation
      participant.userId now).map fun preview => (participant.userId, preview)

end ChatSC.Backend
