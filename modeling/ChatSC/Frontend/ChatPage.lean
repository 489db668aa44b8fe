import ChatSC.Backend.ConversationPreviews

/-!
# The chat page (`frontend/src/features/chat/chat.page.tsx`)

The conversations and the messages that `ChatPage` shows, and every update of its state that touches
them.  An update starts from the state there is, while a callback sees the state of the last render;
requests go out and are answered in any order.

Conversations have the ids of the server: the page knows only those that the server has listed.
Membership events, suggestions, typing, drafts, the scroll position and moderation results are left
out: no update of them reads or writes what is here.
-/

namespace ChatSC.Frontend

open Backend Pagination

/-- `Message` of the page; its `deliveryStatus` is `'sent'` throughout. -/
structure Message where
  id : JsString
  conversationId : JsString
  senderId : JsString
  senderDisplayName : Option JsString
  senderAvatarUrl : Option JsString
  content : JsString
  sentAt : Date
  seenState : SeenState
  attachment : Option ChatAttachmentPayload
  isTailOfSenderGroup : Bool
  decodeErrorCode : Option String
  displayState : MessageDisplayState
  isAIBotMessage : Bool
  isAICommand : Bool
deriving DecidableEq

/-- `mapRealtimeMessage`; the server sends `isTailOfSenderGroup` as `true`. -/
def mapRealtimeMessage (message : RealtimeMessagePayload) : Message where
  id := message.messageId
  conversationId := message.conversationId
  senderId := message.senderId
  senderDisplayName := message.senderDisplayName
  senderAvatarUrl := message.senderAvatarUrl
  content := message.content
  sentAt := message.sentAt
  seenState := message.seenState
  attachment := message.attachment
  isTailOfSenderGroup := true
  decodeErrorCode := message.decodeErrorCode
  displayState := message.displayState
  isAIBotMessage := message.isAIBotMessage
  isAICommand := message.isAICommand

/-- A message of an answer to `getMessages`. -/
def Message.ofPayload (payload : ChatMessagePayload) : Message where
  id := payload.display.message.id.toString
  conversationId := payload.display.message.conversationId.toString
  senderId := payload.display.message.senderId.toString
  senderDisplayName := payload.display.sender.senderDisplayName
  senderAvatarUrl := payload.display.sender.senderAvatarUrl
  content := payload.display.message.content
  sentAt := payload.display.message.sentAt
  seenState := payload.display.message.seenState
  attachment := payload.attachment
  isTailOfSenderGroup := payload.isTailOfSenderGroup
  decodeErrorCode := payload.display.message.decodeErrorCode
  displayState := payload.display.displayState
  isAIBotMessage := payload.display.message.isAIBotMessage
  isAICommand := payload.display.message.isAICommand

/-- `Conversation` of the page, as far as a message or a preview changes it. -/
structure Conversation where
  id : JsString
  lastMessagePreview : Option JsString
  lastMessageAt : Option Date
  unreadCount : Nat
  hasUnread : Bool
deriving DecidableEq

/-- `upsertMessage` -/
def upsertMessage (messages : List Message) (message : Message) : List Message :=
  if messages.any (·.id = message.id) then messages
  else (messages ++ [message]).insertionSort fun a b => a.sentAt ≤ b.sentAt

/-- `updateConversationPreview`; `none` when the page does not have the conversation. -/
def updateConversationPreview (conversations : List Conversation)
    (preview : ConversationPreviewPayload) : Option (List Conversation) :=
  if conversations.any (·.id = preview.conversationId) then
    some (newestFirst (fun conversation => conversation.lastMessageAt.getD 0)
      (conversations.map fun conversation =>
        if conversation.id = preview.conversationId then
          { conversation with
            lastMessagePreview := some preview.lastMessagePreview
            lastMessageAt := some preview.lastMessageAt
            unreadCount := preview.unreadCount
            hasUnread := preview.hasUnread }
        else conversation))
  else none

/-! ## The state -/

/-- `ChatState` -/
structure ChatState where
  conversations : List Conversation
  selectedConversationId : Option JsString
  messages : List Message
  loadingMessages : Bool
  hasMoreMessages : Bool
deriving DecidableEq

namespace ChatState

/-- The argument of `useState`. -/
def start : ChatState := ⟨[], none, [], false, true⟩

/-- The first update of `selectConversation`. -/
def selectConversation (prev : ChatState) (conversationId : JsString) : ChatState :=
  { prev with
    selectedConversationId := some conversationId
    loadingMessages := true
    messages := []
    hasMoreMessages := true }

/-- The update of `selectConversation` with the history. -/
def showHistory (prev : ChatState) (messages : List Message) : ChatState :=
  { prev with
    messages := messages
    loadingMessages := false
    hasMoreMessages := 10 ≤ messages.length }

/-- The update of `selectConversation` with the answer to `markConversationRead`. -/
def showReadState (prev : ChatState) (conversationId : JsString) (unreadCount : Nat) : ChatState :=
  { prev with
    conversations := prev.conversations.map fun conversation =>
      if conversation.id = conversationId then
        { conversation with unreadCount := unreadCount, hasUnread := 0 < unreadCount }
      else conversation }

/-- `setState((prev) => ({ ...prev, loadingMessages }))` -/
def setLoading (prev : ChatState) (loadingMessages : Bool) : ChatState :=
  { prev with loadingMessages := loadingMessages }

/-- The update of `handleIncomingMessage`. -/
def handleIncomingMessage (prev : ChatState) (incomingMessage : RealtimeMessagePayload) :
    ChatState :=
  let message := mapRealtimeMessage incomingMessage
  { prev with
    conversations :=
      match prev.conversations.find? (·.id = message.conversationId) with
      | none => prev.conversations
      | some existing =>
        -- the message leaves the counter as it is
        (updateConversationPreview prev.conversations ⟨message.conversationId, message.content,
          message.sentAt, existing.unreadCount, existing.hasUnread⟩).getD prev.conversations
    messages :=
      if prev.selectedConversationId = some message.conversationId then
        upsertMessage prev.messages message
      else prev.messages }

/-- The update of `handlePreviewUpdate`. -/
def handlePreviewUpdate (prev : ChatState) (preview : ConversationPreviewPayload) : ChatState :=
  { prev with
    conversations :=
      (updateConversationPreview prev.conversations preview).getD prev.conversations }

/-- The first update of `handleConversationRead`. -/
def handleConversationRead (prev : ChatState) (conversationId : JsString) : ChatState :=
  { prev with
    conversations := prev.conversations.map fun conversation =>
      if conversation.id = conversationId then
        { conversation with unreadCount := 0, hasUnread := false }
      else conversation }

/-- The update of `handleConversationRead` with the messages. -/
def replaceMessages (prev : ChatState) (messages : List Message) : ChatState :=
  { prev with messages := messages }

/-- The update of `loadMoreMessages` with the older messages. -/
def showOlder (prev : ChatState) (olderMessages : List Message) : ChatState :=
  { prev with
    messages := olderMessages ++ prev.messages
    loadingMessages := false
    hasMoreMessages := 10 ≤ olderMessages.length }

/-- The update of `loadConversations`. -/
def showConversations (prev : ChatState) (conversations : List Conversation) : ChatState :=
  { prev with conversations := conversations }

/-- The update of `handleLeave`. -/
def handleLeave (prev : ChatState) : ChatState :=
  { prev with selectedConversationId := none, messages := [] }

/-- The update of `handleDeleteConversation` with the conversations that are left. -/
def handleDeleteConversation (prev : ChatState) (conversationId : JsString)
    (conversations : List Conversation) : ChatState :=
  if prev.selectedConversationId = some conversationId then
    { prev with conversations := conversations, selectedConversationId := none, messages := [] }
  else { prev with conversations := conversations }

end ChatState

/-! ## Requests -/

/-- What a request for messages is for. -/
inductive FetchPurpose where
  | selectConversation
  | handleConversationRead
  | loadMoreMessages (before : Date)
deriving DecidableEq

/-- `query.before` -/
def FetchPurpose.before : FetchPurpose → Option Date
  | .loadMoreMessages before => some before
  | .selectConversation | .handleConversationRead => none

/-- Where a request stands. -/
inductive FetchStatus where
  | requested
  /-- the server has answered from this database -/
  | served (db : ChatDb) (messages : List ChatMessagePayload)
  | ended
deriving DecidableEq

/-- A call of `getMessages`, of the page and, where it is answered, of the server. -/
structure Fetch where
  purpose : FetchPurpose
  conversation : ObjectId
  status : FetchStatus
deriving DecidableEq

/-- What the page does with an answer. -/
def FetchPurpose.resolve (purpose : FetchPurpose) (prev : ChatState) (messages : List Message) :
    ChatState :=
  match purpose with
  | .selectConversation => prev.showHistory messages
  | .handleConversationRead => prev.replaceMessages messages
  | .loadMoreMessages _ => prev.showOlder messages

/-- What the page does with a failure. -/
def FetchPurpose.reject (purpose : FetchPurpose) (prev : ChatState) : ChatState :=
  match purpose with
  | .selectConversation | .loadMoreMessages _ => prev.setLoading false
  | .handleConversationRead => prev

/-- `loadMoreMessages` with the state of the last render: the conversation and the cursor of its
    request, if it makes one. -/
def loadMoreMessages (state : ChatState) : Option (ObjectId × Date) :=
  if state.hasMoreMessages && !state.loadingMessages then
    match state.selectedConversationId.bind ObjectId.ofString?, state.messages with
    | some conversation, oldestMessage :: _ => some (conversation, oldestMessage.sentAt)
    | _, _ => none
  else none

/-! ## The page -/

/-- The page: its state, the state that its callbacks see, and its requests. -/
structure ChatPage where
  state : ChatState
  rendered : ChatState
  fetches : List Fetch

/-- What happens at a page. -/
inductive PageEvent where
  | render
  /-- the answer to `listConversations` in `loadConversations` -/
  | listLoaded (conversations : List Conversation)
  /-- `selectConversation`, by hand or from the address -/
  | select (conversation : ObjectId)
  /-- the server answers a request from the messages that it has -/
  | serve (index : Nat) (db : ChatDb) (input : ObjectId → DisplayInput)
  /-- an answer arrives -/
  | complete (index : Nat)
  | fail (index : Nat)
  /-- the answer to the `markConversationRead` of `selectConversation` arrives, or its failure -/
  | readReturned (conversationId : JsString) (unreadCount : Option Nat)
  /-- `message_delivered` -/
  | deliver (message : RealtimeMessagePayload)
  /-- `conversation_preview_updated` -/
  | preview (preview : ConversationPreviewPayload)
  /-- `conversation_read_updated` -/
  | read (conversationId : JsString)
  /-- `handleScroll` at the top -/
  | scroll
  | leave
  | delete (conversationId : JsString) (conversations : List Conversation)

namespace ChatPage

/-- The page when it is opened. -/
def start : ChatPage := ⟨.start, .start, []⟩

/-- A request more. -/
def request (page : ChatPage) (purpose : FetchPurpose) (conversation : ObjectId) : ChatPage :=
  { page with fetches := page.fetches ++ [⟨purpose, conversation, .requested⟩] }

/-- An update of the state. -/
def setState (page : ChatPage) (update : ChatState → ChatState) : ChatPage :=
  { page with state := update page.state }

/-- A request gets another status. -/
def setStatus (page : ChatPage) (index : Nat) (status : FetchStatus) : ChatPage :=
  { page with fetches := page.fetches.modify index fun fetch => { fetch with status := status } }

end ChatPage

/-- What happens at a page; `none` when it cannot happen.  The ids of the messages that the server
    has are unique. -/
def pageStep (env : BackendEnv) (page : ChatPage) : PageEvent → Option ChatPage
  | .render => some { page with rendered := page.state }
  | .listLoaded conversations => some (page.setState (·.showConversations conversations))
  | .select conversation =>
    some ((page.setState (·.selectConversation conversation.toString)).request .selectConversation
      conversation)
  | .serve index db input =>
    match page.fetches[index]? with
    | some ⟨purpose, conversation, .requested⟩ =>
      if (db.messages.map Backend.Message.id).Nodup then
        (getMessages env input db conversation purpose.before 10).map fun messages =>
          page.setStatus index (.served db messages)
      else none
    | _ => none
  | .complete index =>
    match page.fetches[index]? with
    | some ⟨purpose, _, .served _ messages⟩ =>
      some ((page.setState (purpose.resolve · (messages.map .ofPayload))).setStatus index .ended)
    | _ => none
  | .fail index =>
    match page.fetches[index]? with
    | none | some ⟨_, _, .ended⟩ => none
    | some fetch => some ((page.setState fetch.purpose.reject).setStatus index .ended)
  | .readReturned conversationId (some unreadCount) =>
    some (page.setState (·.showReadState conversationId unreadCount))
  | .readReturned _ none => some (page.setState (·.setLoading false))
  | .deliver message => some (page.setState (·.handleIncomingMessage message))
  | .preview preview => some (page.setState (·.handlePreviewUpdate preview))
  | .read conversationId =>
    let page' := page.setState (·.handleConversationRead conversationId)
    if page.rendered.selectedConversationId = some conversationId then
      match ObjectId.ofString? conversationId with
      | some conversation => some (page'.request .handleConversationRead conversation)
      | none => some page'
    else some page'
  | .scroll =>
    match loadMoreMessages page.rendered with
    | some (conversation, before) =>
      some ((page.setState (·.setLoading true)).request (.loadMoreMessages before) conversation)
    | none => some page
  | .leave => some (page.setState ChatState.handleLeave)
  | .delete conversationId conversations =>
    some (page.setState (·.handleDeleteConversation conversationId conversations))

end ChatSC.Frontend
