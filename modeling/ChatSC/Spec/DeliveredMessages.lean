import ChatSC.ForStd.SortedLists
import ChatSC.Frontend.ChatPage

/-!
# Delivered messages in the pane

The server emits a message to overlapping rooms, so it comes more than once and in any order.
`upsertMessage` is `SortedLists.upsert` for the ids and the times of messages: what the pane shows
after any deliveries is every message once, sorted, and without ties it is a function of the messages
delivered.
-/

namespace ChatSC.Spec

open Backend Frontend SortedLists

/-- Deliveries are folded into the messages that are shown. -/
theorem messages_foldl_handleIncomingMessage (deliveries : List RealtimeMessagePayload)
    (state : ChatState) :
    (deliveries.foldl ChatState.handleIncomingMessage state).messages =
      ((deliveries.filter fun message =>
          state.selectedConversationId = some message.conversationId).map
        mapRealtimeMessage).foldl upsertMessage state.messages := by
  induction deliveries generalizing state with
  | nil => rfl
  | cons message deliveries ih =>
    have hselected : (state.handleIncomingMessage message).selectedConversationId =
        state.selectedConversationId := rfl
    rw [List.foldl_cons, ih, hselected, List.filter_cons]
    by_cases hshown : state.selectedConversationId = some message.conversationId
    · have hmessages : (state.handleIncomingMessage message).messages =
          upsertMessage state.messages (mapRealtimeMessage message) := if_pos hshown
      rw [if_pos (decide_eq_true hshown), hmessages]
      rfl
    · have hmessages : (state.handleIncomingMessage message).messages = state.messages :=
        if_neg hshown
      rw [if_neg (by simpa using hshown), hmessages]

section Deliveries

variable {messages deliveries : List Frontend.Message}

/-- **Deliveries converge**: from a pane that is sorted and has every id once, any deliveries lead to
    such a pane, with exactly the messages that were there or were delivered; and when no two of them
    have the same time, the pane depends only on which messages were delivered. -/
theorem deliveries_converge (hsorted : messages.Pairwise fun a b => a.sentAt ≤ b.sentAt)
    (hids : (messages.map Frontend.Message.id).Nodup)
    (hsame : ∀ a ∈ messages ++ deliveries, ∀ b ∈ messages ++ deliveries, a.id = b.id → a = b) :
    ((deliveries.foldl upsertMessage messages).map Frontend.Message.id).Nodup ∧
      ((deliveries.foldl upsertMessage messages).Pairwise fun a b => a.sentAt ≤ b.sentAt) ∧
      (∀ message, message ∈ deliveries.foldl upsertMessage messages ↔
        message ∈ messages ∨ message ∈ deliveries) ∧
      ((∀ a ∈ messages ++ deliveries, ∀ b ∈ messages ++ deliveries, a.sentAt = b.sentAt → a = b) →
        ∀ deliveries' : List Frontend.Message,
          (∀ message, message ∈ deliveries' ↔ message ∈ deliveries) →
          deliveries'.foldl upsertMessage messages = deliveries.foldl upsertMessage messages) := by
  have htidy : Tidy Frontend.Message.id Frontend.Message.sentAt messages := ⟨hids, hsorted⟩
  have hshown := htidy.foldl_upsert deliveries
  refine ⟨hshown.nodup, hshown.sorted, fun message => mem_foldl_upsert hsame, ?_⟩
  intro htimes deliveries' hmem'
  have hsub (message : Frontend.Message) :
      message ∈ messages ++ deliveries' ↔ message ∈ messages ++ deliveries := by
    rw [List.mem_append, List.mem_append, hmem']
  have hsame' : ∀ a ∈ messages ++ deliveries', ∀ b ∈ messages ++ deliveries', a.id = b.id → a = b :=
    fun a ha b hb => hsame a ((hsub a).mp ha) b ((hsub b).mp hb)
  -- both panes have the messages that were there or were delivered
  have hshown' (message : Frontend.Message) :
      message ∈ deliveries'.foldl upsertMessage messages ↔ message ∈ messages ++ deliveries := by
    rw [← hsub, List.mem_append]
    exact mem_foldl_upsert hsame'
  refine (htidy.foldl_upsert deliveries').eq_of_mem_iff hshown (fun message => ?_) ?_
  · refine (hshown' message).trans ?_
    rw [List.mem_append]
    exact (mem_foldl_upsert hsame).symm
  · exact fun a ha b hb => htimes a ((hshown' a).mp ha) b ((hshown' b).mp hb)

end Deliveries

/-- A message with its number as the id and as the time. -/
def numbered (n : Nat) : Frontend.Message :=
  mapRealtimeMessage
    { messageId := [UInt16.ofNat n]
      conversationId := []
      senderId := []
      senderDisplayName := none
      senderAvatarUrl := none
      content := []
      sentAt := n
      seenState := .sent
      attachment := none
      decodeErrorCode := none
      displayState := .ready
      isAIBotMessage := false
      isAICommand := false }

/-- `deliveries_converge` for two messages that are shown, one of them delivered again, and others that
    come in two orders. -/
theorem numbered_converge :
    [numbered 4, numbered 2, numbered 3, numbered 4].foldl upsertMessage [numbered 1, numbered 3] =
      [numbered 3, numbered 2, numbered 4].foldl upsertMessage [numbered 1, numbered 3] := by
  refine (deliveries_converge (by decide) (by decide) (by decide)).2.2.2 (by decide) _
    fun message => ?_
  simp only [List.mem_cons, List.not_mem_nil, or_false]
  tauto

end ChatSC.Spec
