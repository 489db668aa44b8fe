import ChatSC.ForStd.Resorted
import ChatSC.Frontend.ConversationList

/-!
# Previews in any interleaving

`updateConversationPreview` changes one conversation and sorts the whole list, which is an update of
`Resorted`.  What the list shows in the end depends on the last preview of each conversation; only
ties with an updated conversation could depend on more.
-/

namespace ChatSC.Spec

open Backend Frontend Resorted

/-- The updates of the list by previews. -/
def previewUpdates : Updates FullConversation ConversationPreviewUpdate JsString Date where
  id := FullConversation.id
  key := FullConversation.sortKey
  target := ConversationPreviewUpdate.conversationId
  change := FullConversation.withPreview
  id_change _ _ := rfl

/-- Two conversations differ in the fields of a preview only. -/
def SameButPreview (conversation conversation' : FullConversation) : Prop :=
  { conversation with
    lastMessagePreview := conversation'.lastMessagePreview
    lastMessageAt := conversation'.lastMessageAt
    unreadCount := conversation'.unreadCount
    hasUnread := conversation'.hasUnread } = conversation'

theorem SameButPreview.trans {a b c : FullConversation} (h : SameButPreview a b)
    (h' : SameButPreview b c) : SameButPreview a c := by
  -- the fields of a preview are replaced twice
  have hreplace := congrArg (fun conversation : FullConversation =>
    { conversation with
      lastMessagePreview := c.lastMessagePreview
      lastMessageAt := c.lastMessageAt
      unreadCount := c.unreadCount
      hasUnread := c.hasUnread }) h
  exact hreplace.trans h'

theorem sameButPreview_apply (preview : ConversationPreviewUpdate)
    (conversation : FullConversation) :
    SameButPreview (previewUpdates.apply preview conversation) conversation := by
  unfold Updates.apply
  split
  · rfl
  · rfl

section Previews

variable {conversations : List FullConversation} {previews : List ConversationPreviewUpdate}

theorem updateConversationPreview_eq_some {preview : ConversationPreviewUpdate}
    (h : preview.conversationId ∈ conversations.map FullConversation.id) :
    FullConversation.updateConversationPreview conversations preview =
      some (previewUpdates.update conversations preview) := by
  obtain ⟨conversation, hmem, hid⟩ := List.mem_map.mp h
  rw [FullConversation.updateConversationPreview_eq,
    if_pos (List.any_eq_true.mpr ⟨conversation, hmem, decide_eq_true hid⟩)]
  rfl

/-- Previews of listed conversations are folded without a refusal. -/
theorem foldlM_updateConversationPreview
    (h : ∀ preview ∈ previews, preview.conversationId ∈ conversations.map FullConversation.id) :
    previews.foldlM FullConversation.updateConversationPreview conversations =
      some (previews.foldl previewUpdates.update conversations) := by
  induction previews generalizing conversations with
  | nil => rfl
  | cons preview previews ih =>
    obtain ⟨hlisted, hrest⟩ := List.forall_mem_cons.mp h
    have hids := Updates.perm_id_foldl_update (u := previewUpdates) conversations [preview]
    rw [List.foldlM_cons, updateConversationPreview_eq_some hlisted]
    exact ih fun next hnext => hids.mem_iff.mpr (hrest next hnext)

/-- Previews change the fields of a preview only. -/
theorem sameButPreview_final (previews : List ConversationPreviewUpdate)
    (conversation : FullConversation) :
    SameButPreview (previewUpdates.final previews conversation) conversation := by
  induction previews generalizing conversation with
  | nil => rfl
  | cons preview previews ih =>
    exact (ih (previewUpdates.apply preview conversation)).trans (sameButPreview_apply _ _)

/-- **Previews commute**: previews of listed conversations are all folded into the list.  It has the
    same ids as before, a conversation without a preview is as before, and one with a preview is
    but for the fields of a preview.  After a preview it is sorted, the newest first.  When no
    conversation with a preview ends with the time of another one, previews in any order lead to
    the same list, as long as those of each conversation keep theirs. -/
theorem previews_commute (hids : (conversations.map FullConversation.id).Nodup)
    (hlisted : ∀ preview ∈ previews,
      preview.conversationId ∈ conversations.map FullConversation.id) :
    ∃ shown, previews.foldlM FullConversation.updateConversationPreview conversations = some shown ∧
      (shown.map FullConversation.id).Perm (conversations.map FullConversation.id) ∧
      (∀ after ∈ shown, ∃ before ∈ conversations, after.id = before.id ∧ SameButPreview after before ∧
        (before.id ∉ previews.map ConversationPreviewUpdate.conversationId → after = before)) ∧
      (previews ≠ [] → shown.Pairwise fun a b => b.sortKey ≤ a.sortKey) ∧
      ((∀ a ∈ shown, a.id ∈ previews.map ConversationPreviewUpdate.conversationId →
          ∀ b ∈ shown, a.sortKey = b.sortKey → a = b) →
        ∀ previews' : List ConversationPreviewUpdate,
          (∀ id, (previews'.filter fun preview => preview.conversationId = id) =
            previews.filter fun preview => preview.conversationId = id) →
          previews'.foldlM FullConversation.updateConversationPreview conversations = some shown) := by
  refine ⟨_, foldlM_updateConversationPreview hlisted,
    Updates.perm_id_foldl_update (u := previewUpdates) conversations previews, ?_,
    fun h => Updates.pairwise_foldl_update (u := previewUpdates) conversations h, ?_⟩
  · intro after hafter
    -- up to its order the list is that of the final conversations
    obtain ⟨before, hbefore, rfl⟩ :=
      List.mem_map.mp ((Updates.perm_foldl_update conversations previews).mem_iff.mp hafter)
    exact ⟨before, hbefore, Updates.id_final (u := previewUpdates) previews before,
      sameButPreview_final previews before,
      fun h => Updates.final_of_notMem (u := previewUpdates) h⟩
  · intro hkey previews' hfilter
    -- the other order has the same previews, so none of them is for a conversation that is not listed
    have hlisted' : ∀ preview ∈ previews',
        preview.conversationId ∈ conversations.map FullConversation.id := by
      intro preview hpreview
      have hmem : preview ∈ previews.filter
          fun other => other.conversationId = preview.conversationId := by
        rw [← hfilter]
        exact List.mem_filter.mpr ⟨hpreview, decide_eq_true rfl⟩
      exact hlisted preview (List.mem_of_mem_filter hmem)
    rw [foldlM_updateConversationPreview hlisted',
      Updates.foldl_update_congr conversations hids hfilter hkey]

end Previews

/-- A conversation with a number as its id and as the time of its last message. -/
def conversationAt (n : Nat) : FullConversation where
  id := [UInt16.ofNat n]
  type := .group
  title := none
  createdBy := []
  lastMessageAt := some n
  createdAt := 0
  updatedAt := 0
  displayTitle := none
  displayAvatarUrl := none
  lastMessagePreview := none
  unreadCount := none
  hasUnread := none
  directPeer := none

/-- A preview of such a conversation. -/
def previewAt (n lastMessageAt : Nat) : ConversationPreviewUpdate where
  conversationId := [UInt16.ofNat n]
  lastMessagePreview := []
  lastMessageAt := lastMessageAt
  unreadCount := some 1
  hasUnread := some true

/-- `previews_commute` for two conversations of three, one of them with two previews. -/
theorem previewAt_commute : ∃ shown,
    [previewAt 2 6, previewAt 1 7, previewAt 1 5].foldlM
        FullConversation.updateConversationPreview ([1, 2, 3].map conversationAt) = some shown ∧
      [previewAt 1 7, previewAt 1 5, previewAt 2 6].foldlM
        FullConversation.updateConversationPreview ([1, 2, 3].map conversationAt) = some shown := by
  let previews := [previewAt 2 6, previewAt 1 7, previewAt 1 5]
  let conversations := [1, 2, 3].map conversationAt
  obtain ⟨shown, hshown, -, -, -, hcommute⟩ :=
    @previews_commute conversations previews (by decide) (by decide)
  have hfinal : shown =
      (previews.foldlM FullConversation.updateConversationPreview conversations).getD [] := by
    rw [hshown, Option.getD_some]
  refine ⟨shown, hshown, hcommute ?_ _ fun id => ?_⟩
  · rw [hfinal]
    decide
  · by_cases hone : (previewAt 1 0).conversationId = id
    · subst hone
      decide
    by_cases htwo : (previewAt 2 0).conversationId = id
    · subst htwo
      decide
    -- no preview has another id
    have hone' (lastMessageAt : Nat) : (previewAt 1 lastMessageAt).conversationId ≠ id := hone
    have htwo' (lastMessageAt : Nat) : (previewAt 2 lastMessageAt).conversationId ≠ id := htwo
    simp [previews, hone', htwo']

end ChatSC.Spec
