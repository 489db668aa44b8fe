import ChatSC.Backend.ChatAttachments
import ChatSC.ForStd.Records
import ChatSC.Spec.DirectPairs

/-!
# The references between the stored documents

A document of the chat collections refers to others by their ids: a participant to its conversation,
to who added it and to the message it has read, a message to its sender and its attachment, an
attachment to its message, an event of the log to its actor and its target.  `StoreSound` says that
none of these ids dangles.  No operation removes a document or changes what the others refer to
(`Grows`), so each of them has to be looked at for what it writes only.
-/

namespace ChatSC.Spec

open Backend Collection Records

/-! ## What no operation changes -/

/-- The key of a conversation. -/
structure ConversationKey where
  id : ObjectId
  createdBy : ObjectId

def conversationKey (c : Conversation) : ConversationKey := ⟨c.id, c.createdBy⟩

/-- The key of a participant. -/
structure RecordKey where
  id : ObjectId
  conversationId : ObjectId
  userId : ObjectId

def recordKey (p : ConversationParticipant) : RecordKey := ⟨p.id, p.conversationId, p.userId⟩

/-- The key of a message. -/
structure MessageKey where
  id : ObjectId
  conversationId : ObjectId
  senderId : ObjectId
  sentAt : Date
  attachment : Option MessageAttachment

def messageKey (m : Message) : MessageKey :=
  ⟨m.id, m.conversationId, m.senderId, m.sentAt, m.attachment⟩

/-- What `sendMessage` copies of an attachment. -/
def attachmentCopy (a : ChatAttachment) : MessageAttachment :=
  ⟨a.id, a.originalName, a.mimeType, a.sizeBytes, a.isImage⟩

/-- The key of an attachment. -/
structure AttachmentKey where
  conversationId : ObjectId
  uploaderId : ObjectId
  copy : MessageAttachment

def attachmentKey (a : ChatAttachment) : AttachmentKey :=
  ⟨a.conversationId, a.uploaderId, attachmentCopy a⟩

/-- Every document is still there, with its key. -/
structure Grows (db db' : ChatDb) : Prop where
  conversations : db.conversations.map conversationKey ⊆ db'.conversations.map conversationKey
  records : db.participants.map recordKey ⊆ db'.participants.map recordKey
  messages : db.messages.map messageKey ⊆ db'.messages.map messageKey
  attachments : db.attachments.map attachmentKey ⊆ db'.attachments.map attachmentKey

/-! ## References -/

section References

variable (db : ChatDb)

/-- The conversation exists, and this user has created it. -/
def CreatedBy (c u : ObjectId) : Prop := ∃ d ∈ db.conversations, d.id = c ∧ d.createdBy = u

/-- The participant is one of the conversation. -/
def IsRecord (id c : ObjectId) : Prop := ∃ p ∈ db.participants, p.id = id ∧ p.conversationId = c

/-- The message is one of the conversation. -/
def HasMessage (c id : ObjectId) : Prop := ∃ m ∈ db.messages, m.id = id ∧ m.conversationId = c

/-- The attachment is one of the user in the conversation, and this is its copy. -/
def HasAttachment (c u : ObjectId) (copy : MessageAttachment) : Prop :=
  ∃ a ∈ db.attachments, a.conversationId = c ∧ a.uploaderId = u ∧ attachmentCopy a = copy

/-- The message was stored with these fields. -/
def WasStored (m : Message) : Prop := ∃ m' ∈ db.messages, messageKey m' = messageKey m

/-- The time of the last message is that of one of its messages. -/
def ConversationSound (c : Conversation) : Prop :=
  ∀ t, c.lastMessageAt = some t → ∃ m ∈ db.messages, m.conversationId = c.id ∧ m.sentAt = t

/-- What a participant refers to. -/
structure ParticipantSound (p : ConversationParticipant) : Prop where
  /-- its conversation exists, and the one who created that was a member from the beginning -/
  conversation : ∃ creator, CreatedBy db p.conversationId creator ∧
    HasRecord db p.conversationId creator
  addedBy : ∀ u, p.addedBy = some u → HasRecord db p.conversationId u
  marker : ∀ id, p.lastReadMessageId = some id → HasMessage db p.conversationId id
  /-- nobody is an admin, and only the one who created the conversation is its owner -/
  role : p.role = .member ∨ p.role = .owner ∧ CreatedBy db p.conversationId p.userId

/-- What a message refers to. -/
structure MessageSound (m : Message) : Prop where
  sender : HasRecord db m.conversationId m.senderId
  attachment : ∀ copy, m.attachment = some copy →
    HasAttachment db m.conversationId m.senderId copy

/-- What an event of the log refers to. -/
structure EventSound (e : MembershipEvent) : Prop where
  conversation : ∃ creator, CreatedBy db e.conversationId creator
  actor : ∀ u, e.actorUserId = some u → HasRecord db e.conversationId u
  /-- `removeMember` logs whatever id it was given -/
  target : e.type ≠ .removed → HasRecord db e.conversationId e.targetUserId
  /-- only the one who created the conversation removes others -/
  removed : e.type = .removed → ∃ u, e.actorUserId = some u ∧ CreatedBy db e.conversationId u

/-- What an attachment refers to: its message has its copy. -/
structure AttachmentSound (a : ChatAttachment) : Prop where
  uploader : HasRecord db a.conversationId a.uploaderId
  message : ∀ id, a.messageId = some id → ∃ m ∈ db.messages, m.id = id ∧
    m.conversationId = a.conversationId ∧ m.senderId = a.uploaderId ∧
    m.attachment = some (attachmentCopy a)

/-- The documents of a collection have different ids. -/
structure IdsUnique : Prop where
  conversations : (db.conversations.map Conversation.id).Nodup
  participants : (db.participants.map ConversationParticipant.id).Nodup
  messages : (db.messages.map Message.id).Nodup
  events : (db.membershipEvents.map MembershipEvent.id).Nodup
  attachments : (db.attachments.map ChatAttachment.id).Nodup

/-- No reference dangles. -/
structure StoreSound : Prop where
  ids : IdsUnique db
  conversations : ∀ c ∈ db.conversations, ConversationSound db c
  participants : ∀ p ∈ db.participants, ParticipantSound db p
  messages : ∀ m ∈ db.messages, MessageSound db m
  events : ∀ e ∈ db.membershipEvents, EventSound db e
  attachments : ∀ a ∈ db.attachments, AttachmentSound db a

end References

/-! ## References into a store that grows -/

section Grows

variable {db db' db'' : ChatDb} {c u id : ObjectId}

theorem Grows.refl (db : ChatDb) : Grows db db :=
  ⟨List.Subset.refl _, List.Subset.refl _, List.Subset.refl _, List.Subset.refl _⟩

theorem Grows.trans (h : Grows db db') (h' : Grows db' db'') : Grows db db'' where
  conversations := List.Subset.trans h.conversations h'.conversations
  records := List.Subset.trans h.records h'.records
  messages := List.Subset.trans h.messages h'.messages
  attachments := List.Subset.trans h.attachments h'.attachments

theorem CreatedBy.mono (hgrows : Grows db db') (h : CreatedBy db c u) : CreatedBy db' c u :=
  exists_of_map_subset (P := fun k : ConversationKey => k.id = c ∧ k.createdBy = u)
    hgrows.conversations h

theorem HasRecord.mono (hgrows : Grows db db') (h : HasRecord db c u) : HasRecord db' c u :=
  exists_of_map_subset (P := fun k : RecordKey => k.conversationId = c ∧ k.userId = u)
    hgrows.records h

theorem IsRecord.mono (hgrows : Grows db db') (h : IsRecord db id c) : IsRecord db' id c :=
  exists_of_map_subset (P := fun k : RecordKey => k.id = id ∧ k.conversationId = c)
    hgrows.records h

theorem HasMessage.mono (hgrows : Grows db db') (h : HasMessage db c id) : HasMessage db' c id :=
  exists_of_map_subset (P := fun k : MessageKey => k.id = id ∧ k.conversationId = c)
    hgrows.messages h

theorem HasAttachment.mono {copy : MessageAttachment} (hgrows : Grows db db')
    (h : HasAttachment db c u copy) : HasAttachment db' c u copy :=
  exists_of_map_subset
    (P := fun k : AttachmentKey => k.conversationId = c ∧ k.uploaderId = u ∧ k.copy = copy)
    hgrows.attachments h

theorem WasStored.mono {m : Message} (hgrows : Grows db db') (h : WasStored db m) :
    WasStored db' m :=
  exists_of_map_subset (P := fun k => k = messageKey m) hgrows.messages h

theorem WasStored.hasMessage {m : Message} (h : WasStored db m) :
    HasMessage db m.conversationId m.id := by
  obtain ⟨m', hm', hkey⟩ := h
  exact ⟨m', hm', congrArg MessageKey.id hkey, congrArg MessageKey.conversationId hkey⟩

theorem ConversationSound.mono {d : Conversation} (hgrows : Grows db db')
    (h : ConversationSound db d) : ConversationSound db' d := fun t ht =>
  exists_of_map_subset (P := fun k : MessageKey => k.conversationId = d.id ∧ k.sentAt = t)
    hgrows.messages (h t ht)

theorem ParticipantSound.mono {p : ConversationParticipant} (hgrows : Grows db db')
    (h : ParticipantSound db p) : ParticipantSound db' p where
  conversation := by
    obtain ⟨creator, hcreated, hrecord⟩ := h.conversation
    exact ⟨creator, hcreated.mono hgrows, hrecord.mono hgrows⟩
  addedBy := fun u hu => (h.addedBy u hu).mono hgrows
  marker := fun id hid => (h.marker id hid).mono hgrows
  role := h.role.imp_right fun hrole => ⟨hrole.1, hrole.2.mono hgrows⟩

theorem MessageSound.mono {m : Message} (hgrows : Grows db db') (h : MessageSound db m) :
    MessageSound db' m where
  sender := h.sender.mono hgrows
  attachment := fun copy hcopy => (h.attachment copy hcopy).mono hgrows

theorem EventSound.mono {e : MembershipEvent} (hgrows : Grows db db') (h : EventSound db e) :
    EventSound db' e where
  conversation := h.conversation.imp fun _ hcreated => hcreated.mono hgrows
  actor := fun u hu => (h.actor u hu).mono hgrows
  target := fun htype => (h.target htype).mono hgrows
  removed := fun htype => (h.removed htype).imp fun _ hu => ⟨hu.1, hu.2.mono hgrows⟩

theorem AttachmentSound.mono {a : ChatAttachment} (hgrows : Grows db db')
    (h : AttachmentSound db a) : AttachmentSound db' a where
  uploader := h.uploader.mono hgrows
  message := fun id hid =>
    exists_of_map_subset
      (P := fun k : MessageKey => k.id = id ∧ k.conversationId = a.conversationId ∧
        k.senderId = a.uploaderId ∧ k.attachment = some (attachmentCopy a))
      hgrows.messages (h.message id hid)

theorem grows_insertParticipants (db : ChatDb) (participants : List ConversationParticipant) :
    Grows db (db.insertParticipants participants) := by
  refine ⟨List.Subset.refl _, ?_, List.Subset.refl _, List.Subset.refl _⟩
  rw [ChatDb.insertParticipants, List.map_append]
  exact List.subset_append_left _ _

/-- A store that has grown is sound when its new documents are. -/
theorem StoreSound.grow (h : StoreSound db) (hgrows : Grows db db') (hids : IdsUnique db')
    (hconversations : ∀ c ∈ db'.conversations, c ∈ db.conversations ∨ ConversationSound db' c)
    (hparticipants : ∀ p ∈ db'.participants, p ∈ db.participants ∨ ParticipantSound db' p)
    (hmessages : ∀ m ∈ db'.messages, m ∈ db.messages ∨ MessageSound db' m)
    (hevents : ∀ e ∈ db'.membershipEvents, e ∈ db.membershipEvents ∨ EventSound db' e)
    (hattachments : ∀ a ∈ db'.attachments, a ∈ db.attachments ∨ AttachmentSound db' a) :
    StoreSound db' where
  -- what was sound before refers to documents that are still there
  ids := hids
  conversations := fun c hc =>
    (hconversations c hc).elim (fun hold => (h.conversations c hold).mono hgrows) id
  participants := fun p hp =>
    (hparticipants p hp).elim (fun hold => (h.participants p hold).mono hgrows) id
  messages := fun m hm => (hmessages m hm).elim (fun hold => (h.messages m hold).mono hgrows) id
  events := fun e he => (hevents e he).elim (fun hold => (h.events e hold).mono hgrows) id
  attachments := fun a ha =>
    (hattachments a ha).elim (fun hold => (h.attachments a hold).mono hgrows) id

end Grows

/-! ## The operations -/

/-- An operation loses nothing and leaves a sound store. -/
structure StoreKept (db db' : ChatDb) : Prop where
  sound : StoreSound db'
  grows : Grows db db'

section Operations

variable {db : ChatDb} (h : StoreSound db)

include h

theorem StoreSound.refl : StoreKept db db := ⟨h, .refl db⟩

/-- A participant that is updated keeps its key and refers to what there is. -/
theorem StoreSound.participants_update {participants : List ConversationParticipant}
    (hkeys : participants.map recordKey = db.participants.map recordKey)
    (hall : ∀ p ∈ participants, ParticipantSound db p) :
    StoreKept db { db with participants := participants } := by
  have hgrows : Grows db { db with participants := participants } :=
    ⟨List.Subset.refl _, hkeys ▸ List.Subset.refl _, List.Subset.refl _, List.Subset.refl _⟩
  -- the key of a record begins with its id
  have hids : participants.map ConversationParticipant.id =
      db.participants.map ConversationParticipant.id := by
    have hmap := congrArg (List.map RecordKey.id) hkeys
    rwa [List.map_map, List.map_map] at hmap
  refine ⟨h.grow hgrows ⟨h.ids.conversations, ?_, h.ids.messages, h.ids.events,
    h.ids.attachments⟩ (fun _ => .inl) (fun p hp => .inr ((hall p hp).mono hgrows)) (fun _ => .inl)
    (fun _ => .inl) (fun _ => .inl), hgrows⟩
  rw [hids]
  exact h.ids.participants

/-- The update of one participant. -/
theorem StoreSound.updateParticipant {isMatch : ConversationParticipant → Bool}
    {change : ConversationParticipant → ConversationParticipant}
    (hkey : ∀ p, recordKey (change p) = recordKey p)
    (hchange : ∀ p ∈ db.participants, isMatch p = true → ParticipantSound db (change p)) :
    StoreKept db (db.updateParticipant isMatch change) := by
  refine h.participants_update (map_updateOne hkey) fun p hp => ?_
  rcases mem_of_mem_updateOne hp with hp | ⟨q, hq, hmatch, rfl⟩
  · exact h.participants p hp
  · exact hchange q hq hmatch

/-- The end of a membership. -/
theorem StoreSound.endMembership (c u : ObjectId) (status : ParticipantStatus) (leftAt : Date) :
    StoreKept db (db.endMembership c u status leftAt) :=
  h.updateParticipant (fun _ => rfl) fun p hp _ =>
    have hsound := h.participants p hp
    ⟨hsound.conversation, hsound.addedBy, hsound.marker, hsound.role⟩

theorem StoreSound.restoreParticipant (participant : ObjectId) :
    StoreKept db (db.restoreParticipant participant) :=
  h.updateParticipant (fun _ => rfl) fun p hp _ =>
    have hsound := h.participants p hp
    ⟨hsound.conversation, hsound.addedBy, hsound.marker, hsound.role⟩

theorem StoreSound.resetUnread (participant : ObjectId) :
    StoreKept db (db.resetUnread participant) :=
  h.updateParticipant (fun _ => rfl) fun p hp _ =>
    have hsound := h.participants p hp
    ⟨hsound.conversation, hsound.addedBy, hsound.marker, hsound.role⟩

/-- A marker is set to a message of the participant's conversation. -/
theorem StoreSound.moveMarker {participant message c : ObjectId} (lastReadAt : Date)
    (hrecord : IsRecord db participant c) (hmessage : HasMessage db c message) :
    StoreKept db (db.moveMarker participant message lastReadAt) := by
  refine h.updateParticipant (fun _ => rfl) fun p hp hmatch => ?_
  have hsound := h.participants p hp
  refine ⟨hsound.conversation, hsound.addedBy, fun id hid => ?_, hsound.role⟩
  cases hid
  -- the participant is the only one with its id
  obtain ⟨q, hq, hid, rfl⟩ := hrecord
  have hsame : p = q := List.inj_on_of_nodup_map h.ids.participants hp hq
    ((of_decide_eq_true hmatch).trans hid.symm)
  exact hsame ▸ hmessage

theorem StoreSound.incrementUnread (c sender : ObjectId) :
    StoreKept db (db.incrementUnread c sender) := by
  refine h.participants_update (map_updateMany fun _ => rfl) fun p hp => ?_
  obtain ⟨q, hq, rfl⟩ := mem_updateMany.mp hp
  have hsound := h.participants q hq
  split
  · exact ⟨hsound.conversation, hsound.addedBy, hsound.marker, hsound.role⟩
  · exact hsound

/-- New participants. -/
theorem StoreSound.insertParticipants {participants : List ConversationParticipant}
    (hfresh : ((db.participants ++ participants).map ConversationParticipant.id).Nodup)
    (hsound : ∀ p ∈ participants, ParticipantSound (db.insertParticipants participants) p) :
    StoreKept db (db.insertParticipants participants) := by
  have hgrows := grows_insertParticipants db participants
  refine ⟨h.grow hgrows ⟨h.ids.conversations, hfresh, h.ids.messages, h.ids.events,
    h.ids.attachments⟩ (fun _ => .inl) (fun p hp => ?_) (fun _ => .inl) (fun _ => .inl)
    (fun _ => .inl), hgrows⟩
  exact (List.mem_append.mp hp).imp_right (hsound p)

/-- New events. -/
theorem StoreSound.insertEvents {events : List MembershipEvent}
    (hfresh : ((db.membershipEvents ++ events).map MembershipEvent.id).Nodup)
    (hsound : ∀ e ∈ events, EventSound db e) : StoreKept db (db.insertEvents events) := by
  have hgrows : Grows db (db.insertEvents events) :=
    ⟨List.Subset.refl _, List.Subset.refl _, List.Subset.refl _, List.Subset.refl _⟩
  refine ⟨h.grow hgrows ⟨h.ids.conversations, h.ids.participants, h.ids.messages, hfresh,
    h.ids.attachments⟩ (fun _ => .inl) (fun _ => .inl) (fun _ => .inl) (fun e he => ?_)
    (fun _ => .inl), hgrows⟩
  exact (List.mem_append.mp he).imp_right fun hnew => (hsound e hnew).mono hgrows

/-- A new conversation, without a message. -/
theorem StoreSound.createConversation {c : Conversation}
    (hfresh : c.id ∉ db.conversations.map Conversation.id) (hlast : c.lastMessageAt = none) :
    StoreKept db (db.createConversation c) := by
  have hgrows : Grows db (db.createConversation c) := by
    refine ⟨?_, List.Subset.refl _, List.Subset.refl _, List.Subset.refl _⟩
    rw [ChatDb.createConversation, List.map_append]
    exact List.subset_append_left _ _
  refine ⟨h.grow hgrows ⟨nodup_map_concat h.ids.conversations hfresh, h.ids.participants,
    h.ids.messages, h.ids.events, h.ids.attachments⟩ (fun d hd => ?_) (fun _ => .inl)
    (fun _ => .inl) (fun _ => .inl) (fun _ => .inl), hgrows⟩
  refine (List.mem_append.mp hd).imp_right fun hnew t ht => ?_
  rw [List.mem_singleton.mp hnew, hlast] at ht
  cases ht

/-- A new message. -/
theorem StoreSound.createMessage {m : Message} (hfresh : m.id ∉ db.messages.map Message.id)
    (hsound : MessageSound db m) : StoreKept db (db.createMessage m) := by
  have hgrows : Grows db (db.createMessage m) := by
    refine ⟨List.Subset.refl _, List.Subset.refl _, ?_, List.Subset.refl _⟩
    rw [ChatDb.createMessage, List.map_append]
    exact List.subset_append_left _ _
  refine ⟨h.grow hgrows ⟨h.ids.conversations, h.ids.participants,
    nodup_map_concat h.ids.messages hfresh, h.ids.events, h.ids.attachments⟩ (fun _ => .inl)
    (fun _ => .inl) (fun m' hm' => ?_) (fun _ => .inl) (fun _ => .inl), hgrows⟩
  rcases List.mem_append.mp hm' with hold | hnew
  · exact .inl hold
  · rw [List.mem_singleton.mp hnew]
    exact .inr (hsound.mono hgrows)

/-- A new attachment. -/
theorem StoreSound.createAttachment {a : ChatAttachment}
    (hfresh : a.id ∉ db.attachments.map ChatAttachment.id) (hsound : AttachmentSound db a) :
    StoreKept db (db.createAttachment a) := by
  have hgrows : Grows db (db.createAttachment a) := by
    refine ⟨List.Subset.refl _, List.Subset.refl _, List.Subset.refl _, ?_⟩
    rw [ChatDb.createAttachment, List.map_append]
    exact List.subset_append_left _ _
  refine ⟨h.grow hgrows ⟨h.ids.conversations, h.ids.participants, h.ids.messages, h.ids.events,
    nodup_map_concat h.ids.attachments hfresh⟩ (fun _ => .inl) (fun _ => .inl) (fun _ => .inl)
    (fun _ => .inl) (fun a' ha' => ?_), hgrows⟩
  -- an old attachment, or the new one
  rcases List.mem_append.mp ha' with hold | hnew
  · exact .inl hold
  · rw [List.mem_singleton.mp hnew]
    exact .inr (hsound.mono hgrows)

/-- The time of a stored message becomes that of its conversation. -/
theorem StoreSound.touchConversation {m : Message} (hstored : WasStored db m) (now : Date) :
    StoreKept db (db.touchConversation m.conversationId m.sentAt now) := by
  -- the update changes times, which are no part of the keys
  have hkeys : (db.touchConversation m.conversationId m.sentAt now).conversations.map
      conversationKey = db.conversations.map conversationKey := map_updateOne fun _ => rfl
  have hids : (db.touchConversation m.conversationId m.sentAt now).conversations.map
      Conversation.id = db.conversations.map Conversation.id := map_updateOne fun _ => rfl
  have hgrows : Grows db (db.touchConversation m.conversationId m.sentAt now) :=
    ⟨hkeys ▸ List.Subset.refl _, List.Subset.refl _, List.Subset.refl _, List.Subset.refl _⟩
  refine ⟨h.grow hgrows ⟨hids ▸ h.ids.conversations, h.ids.participants, h.ids.messages,
    h.ids.events, h.ids.attachments⟩ (fun d hd => ?_) (fun _ => .inl) (fun _ => .inl)
    (fun _ => .inl) (fun _ => .inl), hgrows⟩
  -- the conversation whose time was set, or another one
  rcases mem_of_mem_updateOne hd with hd | ⟨d, hd, hmatch, rfl⟩
  · exact .inl hd
  · refine .inr fun t ht => ?_
    cases ht
    obtain ⟨m', hm', hkey⟩ := hstored
    exact ⟨m', hm', (congrArg MessageKey.conversationId hkey).trans (of_decide_eq_true hmatch).symm,
      congrArg MessageKey.sentAt hkey⟩

/-- Messages are seen. -/
theorem StoreSound.markSeen (c : ObjectId) (senders : List ObjectId) (upTo : Date) :
    StoreKept db (db.markSeen c senders upTo) := by
  -- who has seen a message is no part of its key
  have hkeys : (db.markSeen c senders upTo).messages.map messageKey = db.messages.map messageKey :=
    map_updateMany fun _ => rfl
  have hids : (db.markSeen c senders upTo).messages.map Message.id = db.messages.map Message.id :=
    map_updateMany fun _ => rfl
  have hgrows : Grows db (db.markSeen c senders upTo) :=
    ⟨List.Subset.refl _, List.Subset.refl _, hkeys ▸ List.Subset.refl _, List.Subset.refl _⟩
  refine ⟨h.grow hgrows ⟨h.ids.conversations, h.ids.participants, hids ▸ h.ids.messages,
    h.ids.events, h.ids.attachments⟩ (fun _ => .inl) (fun _ => .inl) (fun m hm => ?_)
    (fun _ => .inl) (fun _ => .inl), hgrows⟩
  obtain ⟨m', hm', rfl⟩ := mem_updateMany.mp hm
  -- a message that was seen keeps its sender and its attachment
  split
  · have hsound := (h.messages m' hm').mono hgrows
    exact .inr ⟨hsound.sender, hsound.attachment⟩
  · exact .inl hm'

/-- An attachment that is saved keeps its key and refers to what there is. -/
theorem StoreSound.attachments_update {id : ObjectId} {change : ChatAttachment → ChatAttachment}
    (hkey : ∀ a, attachmentKey (change a) = attachmentKey a)
    (hchange : ∀ a ∈ db.attachments, a.id = id → AttachmentSound db (change a)) :
    StoreKept db { db with attachments := updateOne (·.id = id) change db.attachments } := by
  have hkeys : (updateOne (fun a => decide (a.id = id)) change db.attachments).map attachmentKey =
      db.attachments.map attachmentKey := map_updateOne hkey
  have hids : (updateOne (fun a => decide (a.id = id)) change db.attachments).map
      ChatAttachment.id = db.attachments.map ChatAttachment.id :=
    map_updateOne fun a => congrArg (fun k => k.copy.attachmentId) (hkey a)
  have hgrows : Grows db
      { db with attachments := updateOne (fun a => decide (a.id = id)) change db.attachments } :=
    ⟨List.Subset.refl _, List.Subset.refl _, List.Subset.refl _, hkeys ▸ List.Subset.refl _⟩
  refine ⟨h.grow hgrows ⟨h.ids.conversations, h.ids.participants, h.ids.messages, h.ids.events,
    hids ▸ h.ids.attachments⟩ (fun _ => .inl) (fun _ => .inl) (fun _ => .inl) (fun _ => .inl)
    (fun a ha => ?_), hgrows⟩
  -- the attachment that is saved, or another one
  rcases mem_of_mem_updateOne ha with ha | ⟨a', ha', hmatch, rfl⟩
  · exact .inl ha
  · exact .inr ((hchange a' ha' (of_decide_eq_true hmatch)).mono hgrows)

/-- An attachment is attached to the message that has its copy. -/
theorem StoreSound.saveAttached {m : Message} {copy : MessageAttachment} (hstored : WasStored db m)
    (hcopy : m.attachment = some copy)
    (hattachment : HasAttachment db m.conversationId m.senderId copy) (confirmedAt : Date) :
    StoreKept db (db.saveAttached copy.attachmentId m.id confirmedAt) := by
  refine h.attachments_update (fun _ => rfl) fun a ha hid => ⟨(h.attachments a ha).uploader, ?_⟩
  intro id hmessage
  cases hmessage
  obtain ⟨b, hb, hconversation, huploader, rfl⟩ := hattachment
  -- ids are unique, so it is the attachment that the message was created with
  have hsame : a = b := List.inj_on_of_nodup_map h.ids.attachments ha hb hid
  obtain ⟨m', hm', hkey⟩ := hstored
  rw [messageKey, messageKey, MessageKey.mk.injEq] at hkey
  obtain ⟨hid', hconversation', hsender', -, hattachment'⟩ := hkey
  subst hsame
  exact ⟨m', hm', hid', hconversation'.trans hconversation.symm, hsender'.trans huploader.symm,
    hattachment'.trans hcopy⟩

theorem StoreSound.saveUploaded (loaded : ChatAttachment) (uploadedAt : Date) :
    StoreKept db (db.saveUploaded loaded uploadedAt) :=
  h.attachments_update (fun _ => rfl) fun a ha _ =>
    have hsound := h.attachments a ha
    ⟨hsound.uploader, hsound.message⟩

end Operations

end ChatSC.Spec
