import ChatSC.ForStd.Keyed
import ChatSC.Frontend.ChatClients
import ChatSC.Spec.GatewayTasks
import ChatSC.Spec.StoredCounts

/-!
# Events at the pages

Which events of an operation a client gets, and what its page makes of them.  Every handler changes
the conversations with one id and leaves the others as they are (`changes_receive`), whatever field
of them is looked at.
-/

namespace ChatSC.Spec

open Backend Frontend JsString Keyed Pagination Transition

/-! ## Handlers -/

/-- The rows of a page that show a field of its conversations. -/
def shown {α : Type} (field : Frontend.Conversation → α) (state : ChatState) :
    List (JsString × α) :=
  rowsOf Frontend.Conversation.id field state.conversations

/-- An update changes the conversations with one id. -/
def ChangesConversation (id : JsString) (change : Frontend.Conversation → Frontend.Conversation)
    (state state' : ChatState) : Prop :=
  Changes Frontend.Conversation.id id change state.conversations state'.conversations

/-- A conversation with what a preview says of it. -/
def showPreview (preview : ConversationPreviewPayload) (conversation : Frontend.Conversation) :
    Frontend.Conversation :=
  { conversation with
    lastMessagePreview := some preview.lastMessagePreview
    lastMessageAt := some preview.lastMessageAt
    unreadCount := preview.unreadCount
    hasUnread := preview.hasUnread }

section Handlers

variable {state : ChatState}

theorem changes_updateConversationPreview (conversations : List Frontend.Conversation)
    (preview : ConversationPreviewPayload) :
    Changes Frontend.Conversation.id preview.conversationId (showPreview preview) conversations
      ((updateConversationPreview conversations preview).getD conversations) := by
  unfold updateConversationPreview
  split
  · -- the list is sorted again
    exact ⟨perm_newestFirst _ _, fun _ => rfl⟩
  · rename_i hnone
    refine Changes.of_notMem (fun conversation hmem heq => hnone ?_) fun _ => rfl
    exact List.any_eq_true.mpr ⟨conversation, hmem, decide_eq_true heq⟩

theorem changes_handlePreviewUpdate (state : ChatState) (preview : ConversationPreviewPayload) :
    ChangesConversation preview.conversationId (showPreview preview) state
      (state.handlePreviewUpdate preview) :=
  changes_updateConversationPreview state.conversations preview

/-- A message makes a preview of its own, with a counter that the page shows already. -/
theorem changes_handleIncomingMessage (state : ChatState) (message : RealtimeMessagePayload) :
    ∃ count hasUnread,
      ChangesConversation message.conversationId
        (showPreview ⟨message.conversationId, message.content, message.sentAt, count, hasUnread⟩)
        state (state.handleIncomingMessage message) ∧
      ((message.conversationId, count) ∈ shown Frontend.Conversation.unreadCount state ∨
        message.conversationId ∉ (shown Frontend.Conversation.unreadCount state).map Prod.fst) := by
  have hconversation : (mapRealtimeMessage message).conversationId = message.conversationId := rfl
  cases hfind : state.conversations.find? fun conversation =>
      decide (conversation.id = message.conversationId) with
  | none =>
    -- the page does not list the conversation
    have hnone : ∀ conversation ∈ state.conversations, conversation.id ≠ message.conversationId :=
      fun conversation hmem heq => List.find?_eq_none.mp hfind conversation hmem (decide_eq_true heq)
    have hsame : (state.handleIncomingMessage message).conversations = state.conversations := by
      rw [ChatState.handleIncomingMessage, hconversation, hfind]
    refine ⟨0, false, ?_, .inr ?_⟩
    · rw [ChangesConversation, hsame]
      exact Changes.of_notMem hnone fun _ => rfl
    · rw [shown, mem_fst_rowsOf]
      rintro ⟨conversation, hmem, heq⟩
      exact hnone conversation hmem heq
  | some existing =>
    have hid : existing.id = message.conversationId := by simpa using List.find?_some hfind
    refine ⟨existing.unreadCount, existing.hasUnread, ?_, .inl ?_⟩
    · have hchanges := changes_updateConversationPreview state.conversations
        ⟨message.conversationId, message.content, message.sentAt, existing.unreadCount,
          existing.hasUnread⟩
      rw [ChangesConversation, ChatState.handleIncomingMessage, hconversation, hfind]
      exact hchanges
    · rw [← hid]
      exact List.mem_map_of_mem (List.mem_of_find?_eq_some hfind)

theorem changes_showReadState (state : ChatState) (conversationId : JsString) (count : Nat) :
    ChangesConversation conversationId
      (fun conversation => { conversation with unreadCount := count, hasUnread := 0 < count }) state
      (state.showReadState conversationId count) :=
  ⟨List.Perm.refl _, fun _ => rfl⟩

theorem changes_handleConversationRead (state : ChatState) (conversationId : JsString) :
    ChangesConversation conversationId
      (fun conversation => { conversation with unreadCount := 0, hasUnread := false }) state
      (state.handleConversationRead conversationId) :=
  ⟨List.Perm.refl _, fun _ => rfl⟩

/-- A change of one conversation leaves the rows of the others. -/
theorem ChangesConversation.sameElsewhere {id : JsString}
    {change : Frontend.Conversation → Frontend.Conversation} {state state' : ChatState}
    (h : ChangesConversation id change state state') {α : Type}
    (field : Frontend.Conversation → α) : SameElsewhere id (shown field state) (shown field state') :=
  Changes.sameElsewhere h

end Handlers

/-! ## The events that a client gets -/

section Received

variable {clients : List ChatClient} {index : Nat} {client : ChatClient}

theorem mem_receivedBy {deliveries : List SocketDelivery} {event : ServerEvent} :
    event ∈ receivedBy deliveries index ↔ ⟨index, event⟩ ∈ deliveries := by
  rw [receivedBy, List.mem_map]
  constructor
  · rintro ⟨delivery, hmem, rfl⟩
    obtain ⟨hdelivery, hindex⟩ := List.mem_filter.mp hmem
    rwa [← of_decide_eq_true hindex]
  · intro h
    exact ⟨⟨index, event⟩, List.mem_filter.mpr ⟨h, decide_eq_true rfl⟩, rfl⟩

theorem receivedBy_append (first second : List SocketDelivery) :
    receivedBy (first ++ second) index = receivedBy first index ++ receivedBy second index := by
  rw [receivedBy, List.filter_append, List.map_append]
  rfl

/-- A client gets what is emitted to its rooms. -/
theorem mem_emitTo_iff (hclient : clients[index]? = some client) {room : JsString}
    {event event' : ServerEvent} :
    (⟨index, event'⟩ : SocketDelivery) ∈ emitTo (socketsOf clients) room event ↔
      event' = event ∧ room ∈ client.socket.rooms := by
  have hsocket : (socketsOf clients)[index]? = some client.socket := by
    rw [socketsOf, List.getElem?_map, hclient]
    rfl
  rw [mem_emitTo]
  constructor
  · rintro ⟨rfl, socket, hat, hroom⟩
    cases hsocket.symm.trans hat
    exact ⟨rfl, hroom⟩
  · rintro ⟨rfl, hroom⟩
    exact ⟨rfl, client.socket, hsocket, hroom⟩

/-- The client is in the room of its own user and of no other. -/
def InOwnRoom (client : ChatClient) : Prop :=
  ∀ user : ObjectId, getUserRoom user.toString ∈ client.socket.rooms ↔ user = client.socket.user

/-- A client gets what is emitted to the rooms of users exactly when its own user is one of them. -/
theorem mem_emitTo_users_iff (hclient : clients[index]? = some client) (hroom : InOwnRoom client)
    {users : List ObjectId} {event event' : ServerEvent} :
    (∃ userId ∈ users.map ObjectId.toString,
      (⟨index, event'⟩ : SocketDelivery) ∈ emitTo (socketsOf clients) (getUserRoom userId) event) ↔
        event' = event ∧ client.socket.user ∈ users := by
  constructor
  · rintro ⟨userId, hmem, hevent⟩
    obtain ⟨user, huser, rfl⟩ := List.mem_map.mp hmem
    obtain ⟨rfl, hin⟩ := (mem_emitTo_iff hclient).mp hevent
    exact ⟨rfl, (hroom user).mp hin ▸ huser⟩
  · rintro ⟨rfl, huser⟩
    refine ⟨client.socket.user.toString, List.mem_map_of_mem huser, ?_⟩
    exact (mem_emitTo_iff hclient).mpr ⟨rfl, (hroom _).mpr rfl⟩

/-- The previews that a client gets are for its user. -/
theorem mem_emitConversationPreviews_iff (hclient : clients[index]? = some client)
    (hroom : InOwnRoom client) {conversationId : JsString} {users : List ObjectId}
    {event : ServerEvent} :
    (⟨index, event⟩ : SocketDelivery) ∈ emitConversationPreviews (socketsOf clients) conversationId
        (users.map ObjectId.toString) ↔
      event = .conversationPreviewUpdated conversationId ∧ client.socket.user ∈ users := by
  rw [emitConversationPreviews, List.mem_flatMap]
  exact mem_emitTo_users_iff hclient hroom

/-- The messages that a client gets. -/
theorem mem_emitRealtimeMessage_iff (hclient : clients[index]? = some client)
    (hroom : InOwnRoom client) {conversationId : JsString} {users : List ObjectId}
    {message : RealtimeMessagePayload} {event : ServerEvent} :
    (⟨index, event⟩ : SocketDelivery) ∈ emitRealtimeMessage (socketsOf clients) conversationId
        (users.map ObjectId.toString) message ↔
      event = .messageDelivered message ∧
        (getConversationRoom conversationId ∈ client.socket.rooms ∨
          client.socket.user ∈ users) := by
  rw [emitRealtimeMessage, List.mem_append, List.mem_flatMap, mem_emitTo_iff hclient, and_or_left]
  exact or_congr Iff.rfl (mem_emitTo_users_iff hclient hroom)

end Received

/-! ## What the events do -/

section Events

variable {preview : ObjectId → Option ConversationPreviewPayload} {conversationId : JsString}
  {events : List ServerEvent} {client : ChatClient}

/-- The event is about the conversation, in the handlers of the client. -/
def IsAbout (preview : ObjectId → Option ConversationPreviewPayload) (conversationId : JsString) :
    ServerEvent → Prop
  | .conversationPreviewUpdated _ =>
    ∀ user payload, preview user = some payload → payload.conversationId = conversationId
  | .messageDelivered message => message.conversationId = conversationId
  | .conversationReadUpdated id _ => id = conversationId
  | _ => True

@[simp] theorem socket_receive (client : ChatClient) (event : ServerEvent) :
    (client.receive preview event).socket = client.socket := by
  unfold ChatClient.receive
  split
  · split
    · rfl
    · rfl
  all_goals rfl

theorem socket_foldl_receive (events : List ServerEvent) (client : ChatClient) :
    (events.foldl (ChatClient.receive preview) client).socket = client.socket := by
  induction events generalizing client with
  | nil => rfl
  | cons event events ih => rw [List.foldl_cons, ih, socket_receive]

/-- An event about a conversation changes it and no other. -/
theorem changes_receive {event : ServerEvent} (h : IsAbout preview conversationId event)
    (client : ChatClient) :
    ∃ change, ChangesConversation conversationId change client.state
      (client.receive preview event).state := by
  -- an event that the page does not take up changes nothing
  have hsame : ∃ change, ChangesConversation conversationId change client.state client.state := by
    refine ⟨id, ?_, fun _ => rfl⟩
    simp
  cases event with
  | conversationPreviewUpdated id =>
    simp only [ChatClient.receive]
    split
    · rename_i payload hpayload
      rw [← h _ payload hpayload]
      exact ⟨_, changes_handlePreviewUpdate client.state payload⟩
    · exact hsame
  | messageDelivered message =>
    obtain ⟨count, hasUnread, hchanges, -⟩ := changes_handleIncomingMessage client.state message
    rw [← show message.conversationId = conversationId from h]
    exact ⟨_, hchanges⟩
  | conversationReadUpdated id last =>
    obtain rfl : id = conversationId := h
    exact ⟨_, changes_handleConversationRead client.state id⟩
  | connectionStatusChanged => exact hsame
  | typingPresenceUpdated conversationId userId isTyping expiresAt => exact hsame
  | aiModerationResult conversationId messageId => exact hsame

/-- Events about a conversation leave the rows of the others. -/
theorem sameRows_foldl_receive {α : Type} (field : Frontend.Conversation → α)
    (h : ∀ event ∈ events, IsAbout preview conversationId event) (client : ChatClient) :
    SameElsewhere conversationId (shown field client.state)
      (shown field (events.foldl (ChatClient.receive preview) client).state) := by
  induction events generalizing client with
  | nil => exact .refl _ _
  | cons event events ih =>
    rw [List.foldl_cons]
    obtain ⟨change, hchanges⟩ := changes_receive (h event List.mem_cons_self) client
    exact (hchanges.sameElsewhere field).trans
      (ih (fun other hother => h other (List.mem_cons_of_mem event hother)) _)

/-- An event that each time gives the state of a client's user a property gives it in the end. -/
theorem foldl_receive_of_forall {P : ChatState → Prop} {user : ObjectId}
    (h : ∀ event ∈ events, ∀ client : ChatClient, client.socket.user = user →
      P (client.receive preview event).state)
    (hne : events ≠ []) (huser : client.socket.user = user) :
    P (events.foldl (ChatClient.receive preview) client).state := by
  induction events generalizing client with
  | nil => exact absurd rfl hne
  | cons event events ih =>
    rw [List.foldl_cons]
    by_cases hlast : events = []
    · rw [hlast]
      exact h event List.mem_cons_self client huser
    · refine ih (fun other hother => h other (List.mem_cons_of_mem event hother)) hlast ?_
      rw [socket_receive, huser]

end Events

/-! ## Deliveries -/

/-- The preview for a user. -/
def previewOf (previews : List (ObjectId × ConversationPreviewPayload)) (user : ObjectId) :
    Option ConversationPreviewPayload :=
  (previews.find? (·.1 = user)).map Prod.snd

theorem getElem?_deliverAll {previews : List (ObjectId × ConversationPreviewPayload)}
    {clients : List ChatClient} {deliveries : List SocketDelivery} {index : Nat} :
    (deliverAll previews clients deliveries)[index]? = clients[index]?.map fun client =>
      (receivedBy deliveries index).foldl (ChatClient.receive (previewOf previews)) client := by
  rw [deliverAll, List.getElem?_mapIdx]
  rfl

/-- A client after the deliveries is one that was there before. -/
theorem exists_of_mem_deliverAll {previews : List (ObjectId × ConversationPreviewPayload)}
    {clients : List ChatClient} {deliveries : List SocketDelivery} {client' : ChatClient}
    (h : client' ∈ deliverAll previews clients deliveries) :
    ∃ index client, clients[index]? = some client ∧
      (receivedBy deliveries index).foldl (ChatClient.receive (previewOf previews)) client =
        client' := by
  obtain ⟨index, hindex⟩ := List.mem_iff_getElem?.mp h
  rw [getElem?_deliverAll, Option.map_eq_some_iff] at hindex
  exact ⟨index, hindex⟩

theorem map_toString_users (previews : List (ObjectId × ConversationPreviewPayload)) :
    previews.map (·.1.toString) = (previews.map Prod.fst).map ObjectId.toString := by
  rw [List.map_map]
  rfl

section Previews

variable {env : BackendEnv} {input : ObjectId → DisplayInput} {db : ChatDb} {c : ObjectId}
  {now : Date} {previews : List (ObjectId × ConversationPreviewPayload)}

/-- A preview is built for its user. -/
theorem mem_of_previewOf {user : ObjectId} {payload : ConversationPreviewPayload}
    (h : previewOf previews user = some payload) : (user, payload) ∈ previews := by
  obtain ⟨entry, hentry, rfl⟩ := Option.map_eq_some_iff.mp h
  obtain rfl : entry.1 = user := by simpa using List.find?_some hentry
  exact List.mem_of_find?_eq_some hentry

theorem previewOf_spec
    (h : buildConversationPreviewPayloads env input db c.toString c now = some previews)
    {user : ObjectId} {payload : ConversationPreviewPayload}
    (hpayload : previewOf previews user = some payload) :
    payload.conversationId = c.toString ∧
      payload.unreadCount = (storedCount db c user).getD 0 :=
  preview_spec h (mem_of_previewOf hpayload)

/-- The previews are about the conversation. -/
theorem isAbout_previews
    (h : buildConversationPreviewPayloads env input db c.toString c now = some previews)
    {clients : List ChatClient} {index : Nat} {client : ChatClient}
    (hclient : clients[index]? = some client) (hroom : InOwnRoom client) :
    ∀ event ∈ receivedBy (emitConversationPreviews (socketsOf clients) c.toString
      (previews.map (·.1.toString))) index, IsAbout (previewOf previews) c.toString event := by
  intro event hevent
  rw [map_toString_users, mem_receivedBy] at hevent
  obtain ⟨rfl, -⟩ := (mem_emitConversationPreviews_iff hclient hroom).mp hevent
  exact fun user payload hpayload => (previewOf_spec h hpayload).1

/-- What its preview gives every state, the previews give the page of an active participant. -/
theorem foldl_receive_previews {P : ChatState → Prop}
    (h : buildConversationPreviewPayloads env input db c.toString c now = some previews)
    {clients : List ChatClient} {index : Nat} {client : ChatClient}
    (hclient : clients[index]? = some client) (hroom : InOwnRoom client) {count : Nat}
    (hcount : storedCount db c client.socket.user = some count)
    (hP : ∀ (payload : ConversationPreviewPayload) (state : ChatState),
      previewOf previews client.socket.user = some payload → P (state.handlePreviewUpdate payload)) :
    P ((receivedBy (emitConversationPreviews (socketsOf clients) c.toString
      (previews.map (·.1.toString))) index).foldl (ChatClient.receive (previewOf previews))
        client).state := by
  have hmem := mem_previews_of_storedCount h hcount
  rw [map_toString_users]
  refine foldl_receive_of_forall (fun event hevent receiver huser => ?_) ?_ rfl
  · -- every preview that comes is one of the conversation, with what it says for the user
    obtain ⟨rfl, -⟩ :=
      (mem_emitConversationPreviews_iff hclient hroom).mp (mem_receivedBy.mp hevent)
    obtain ⟨entry, hentry, hfst⟩ := List.mem_map.mp hmem
    obtain ⟨payload, hpayload⟩ : ∃ payload,
        previewOf previews client.socket.user = some payload := by
      have hfound : (previews.find? fun entry => decide (entry.1 = client.socket.user)).isSome :=
        List.find?_isSome.mpr ⟨entry, hentry, decide_eq_true hfst⟩
      obtain ⟨found, hfound⟩ := Option.isSome_iff_exists.mp hfound
      exact ⟨found.2, by rw [previewOf, hfound]; rfl⟩
    simp only [ChatClient.receive, huser, hpayload]
    exact hP payload receiver.state hpayload
  · -- and one comes, to the own room of the user
    have hreceived : (.conversationPreviewUpdated c.toString : ServerEvent) ∈
        receivedBy (emitConversationPreviews (socketsOf clients) c.toString
          ((previews.map Prod.fst).map ObjectId.toString)) index :=
      mem_receivedBy.mpr ((mem_emitConversationPreviews_iff hclient hroom).mpr ⟨rfl, hmem⟩)
    exact List.ne_nil_of_mem hreceived

end Previews

/-! ## Rooms -/

section Rooms

variable {client : ChatClient}

theorem inOwnRoom_handleConnection (user : ObjectId) (state : ChatState) :
    InOwnRoom ⟨.handleConnection user, state⟩ := by
  intro other
  show getUserRoom other.toString ∈ [getUserRoom user.toString] ↔ other = user
  rw [List.mem_singleton]
  constructor
  · exact fun h => ObjectId.toString_injective (getUserRoom_injective h)
  · rintro rfl
    rfl

theorem inOwnRoom_join (h : InOwnRoom client) (s : JsString) : InOwnRoom { client with
    socket := (client.socket.join (getConversationRoom s)).markConversationJoined s } := by
  intro user
  show getUserRoom user.toString ∈ ChatSocket.rooms _ ↔ user = ChatSocket.user _
  rw [user_markConversationJoined, user_join, rooms_markConversationJoined, ← h user,
    ChatSocket.join]
  split
  · have hne : getUserRoom user.toString ≠ getConversationRoom s :=
      fun heq => getConversationRoom_ne_getUserRoom s user.toString heq.symm
    simp [hne]
  · rfl

theorem inOwnRoom_leave (h : InOwnRoom client) (s : JsString) :
    InOwnRoom { client with socket := client.socket.leaveConversation s } := by
  intro user
  show getUserRoom user.toString ∈ client.socket.rooms.filter (· ≠ getConversationRoom s) ↔
    user = client.socket.user
  rw [← h user, List.mem_filter]
  have hne : getUserRoom user.toString ≠ getConversationRoom s :=
    fun heq => getConversationRoom_ne_getUserRoom s user.toString heq.symm
  simp [hne]

end Rooms

end ChatSC.Spec
