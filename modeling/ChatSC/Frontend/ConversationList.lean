import ChatSC.Frontend.ChatPage

/-!
# The list of conversations (`frontend/src/features/chat/chat.page.tsx`)

`updateConversationPreview` with all fields of a conversation and with the previews that have no
counter.  The model of the page has only the fields that its updates change; it shows these lists
(`map_toConversation_updateConversationPreview`).
-/

namespace ChatSC.Frontend

open Backend Pagination

/-- `ConversationPeer` -/
structure ConversationPeer where
  id : JsString
  username : JsString
  displayName : JsString
  email : Option JsString
  avatarUrl : Option JsString
deriving DecidableEq

/-- `Conversation`, with `none` for `undefined`. -/
structure FullConversation where
  id : JsString
  type : ConversationType
  title : Option JsString
  createdBy : JsString
  lastMessageAt : Option Date
  createdAt : Date
  updatedAt : Date
  displayTitle : Option JsString
  displayAvatarUrl : Option JsString
  lastMessagePreview : Option JsString
  unreadCount : Option Nat
  hasUnread : Option Bool
  directPeer : Option ConversationPeer
deriving DecidableEq

/-- `ConversationPreviewUpdate` -/
structure ConversationPreviewUpdate where
  conversationId : JsString
  lastMessagePreview : JsString
  lastMessageAt : Date
  unreadCount : Option Nat
  hasUnread : Option Bool
deriving DecidableEq

namespace FullConversation

/-- The conversation with what a preview says of it. -/
def withPreview (preview : ConversationPreviewUpdate) (conversation : FullConversation) :
    FullConversation :=
  { conversation with
    lastMessagePreview := some preview.lastMessagePreview
    lastMessageAt := some preview.lastMessageAt
    unreadCount := preview.unreadCount
    hasUnread := preview.hasUnread }

/-- What the list is sorted by. -/
def sortKey (conversation : FullConversation) : Date := conversation.lastMessageAt.getD 0

/-- `updateConversationPreview`; `none` is `null`. -/
def updateConversationPreview (conversations : List FullConversation)
    (preview : ConversationPreviewUpdate) : Option (List FullConversation) :=
  match conversations.find? (·.id = preview.conversationId) with
  | none => none
  | some _ =>
    let next := conversations.map fun conversation =>
      if conversation.id = preview.conversationId then conversation.withPreview preview
      else conversation
    some (newestFirst sortKey next)

/-- What the model of the page has of a conversation. -/
def toConversation (conversation : FullConversation) : Conversation where
  id := conversation.id
  lastMessagePreview := conversation.lastMessagePreview
  lastMessageAt := conversation.lastMessageAt
  unreadCount := conversation.unreadCount.getD 0
  hasUnread := conversation.hasUnread.getD false

end FullConversation

/-- A preview of the server. -/
def ConversationPreviewUpdate.ofPayload (preview : ConversationPreviewPayload) :
    ConversationPreviewUpdate where
  conversationId := preview.conversationId
  lastMessagePreview := preview.lastMessagePreview
  lastMessageAt := preview.lastMessageAt
  unreadCount := some preview.unreadCount
  hasUnread := some preview.hasUnread

/-- A preview is refused exactly when the list does not have its conversation. -/
theorem FullConversation.updateConversationPreview_eq (conversations : List FullConversation)
    (preview : ConversationPreviewUpdate) :
    updateConversationPreview conversations preview =
      if conversations.any (·.id = preview.conversationId) then
        some (newestFirst sortKey (conversations.map fun conversation =>
          if conversation.id = preview.conversationId then conversation.withPreview preview
          else conversation))
      else none := by
  rw [updateConversationPreview, ← List.isSome_find?]
  cases conversations.find? (·.id = preview.conversationId) with
  | none => rfl
  | some conversation => rfl

/-- The model of the page shows the list after a preview of the server. -/
theorem map_toConversation_updateConversationPreview (conversations : List FullConversation)
    (preview : ConversationPreviewPayload) :
    (FullConversation.updateConversationPreview conversations (.ofPayload preview)).map
        (List.map FullConversation.toConversation) =
      updateConversationPreview (conversations.map FullConversation.toConversation) preview := by
  have hlisted : (conversations.map FullConversation.toConversation).any
      (·.id = preview.conversationId) =
        conversations.any (·.id = (ConversationPreviewUpdate.ofPayload preview).conversationId) :=
    List.any_map
  rw [FullConversation.updateConversationPreview_eq, updateConversationPreview, hlisted]
  split
  · have hsort (xs : List FullConversation) :
        newestFirst (fun shown : Conversation => shown.lastMessageAt.getD 0)
            (xs.map FullConversation.toConversation) =
          (newestFirst FullConversation.sortKey xs).map FullConversation.toConversation :=
      map_newestFirst _ (fun _ => rfl) xs
    rw [Option.map_some, ← hsort, List.map_map, List.map_map]
    congr 2
    -- each conversation is changed alike
    refine List.map_congr_left fun conversation _ => ?_
    simp only [Function.comp_apply]
    split
    · next hid => exact (if_pos hid).symm
    · next hid => exact (if_neg hid).symm
  · rfl

end ChatSC.Frontend
