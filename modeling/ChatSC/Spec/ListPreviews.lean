import ChatSC.Spec.DisplayRule
import ChatSC.Spec.StoreProgress
import ChatSC.Spec.UnreadBadges

/-!
# Previews of the list

What a page shows of the last message of a conversation against what `listConversationsForUser`
would answer.  A message reaches a page twice: its preview has the text of the list, and then the
message itself puts its own content in the place of that.  `previewsRight_of_guarded` says when this
is the same: the message has no attachment, it is later than all others of the conversation, and
what the sockets get of it can be decrypted.
-/

namespace ChatSC.Spec

open Backend Collection Frontend JsString Keyed Native Transition

/-! ## Texts -/

/-- The text of a stored message for its readers. -/
def readableText (message : Backend.Message) : JsString :=
  if message.reverseEncryptionState = .encrypted then
    ofUtf8 ((cstr ((toUtf8 message.content).take 511)).map mapReverse)
  else message.content

/-- What a list shows of a stored message: the name of its attachment, or its text. -/
def previewText (message : Backend.Message) : JsString :=
  buildMessagePreview { message with content := readableText message }

section Texts

variable {env : BackendEnv} {message : Backend.Message}

/-- A decryption that succeeds gives the readable text. -/
theorem decryptWith_resolved {io : ExchangeIo} {service : ChatEncryptionService}
    {display : DisplayContent}
    (h : decryptWith env (exchange io) service message = .resolved display) :
    display.content = readableText message := by
  unfold readableText
  -- the answer of the processor, or the stored text itself
  split
  · rename_i hencrypted
    rw [← decryptForDisplay_eq, hencrypted] at h
    exact decryptForDisplay_resolved h
  · rename_i hplain
    rw [decryptWith, if_pos hplain] at h
    cases h
    rfl

/-- What the sockets get of a message that can be decrypted. -/
theorem content_toRealtimeMessagePayload {input : DisplayInput} {payload : RealtimeMessagePayload}
    (h : toRealtimeMessagePayload env input.exchange input.encryption input.sender message =
      some payload)
    (hreadable : ¬ DecryptionFails env (exchange input.exchange) input.encryption message) :
    payload.content = readableText message ∧ payload.sentAt = message.sentAt := by
  rw [toRealtimeMessagePayload_eq] at h
  cases hdecrypted : decryptWith env (exchange input.exchange) input.encryption message with
  -- a decryption that has no answer yet gives no payload
  | pending =>
    rw [hdecrypted] at h
    cases h
  | resolved display =>
    rw [hdecrypted] at h
    cases h
    exact ⟨decryptWith_resolved hdecrypted, rfl⟩
  -- that is the failure that is excluded
  | rejected error => exact absurd (decryptWith_rejected_iff.mp ⟨error, hdecrypted⟩) hreadable

/-- What a list and a preview have of a message that can be decrypted. -/
theorem buildMessagePreview_display {input : DisplayInput} {display : DisplayMessage}
    (h : input.display env message = some display)
    (hreadable : ¬ DecryptionFails env (exchange input.exchange) input.encryption message) :
    buildMessagePreview display.message = previewText message := by
  rw [DisplayInput.display, toDisplayMessage_eq] at h
  cases hdecrypted : decryptWith env (exchange input.exchange) input.encryption message with
  | pending =>
    rw [hdecrypted] at h
    cases h
  | resolved display' =>
    rw [hdecrypted] at h
    cases h
    rw [previewText, ← decryptWith_resolved hdecrypted]
    rfl
  -- that is the failure that is excluded
  | rejected error => exact absurd (decryptWith_rejected_iff.mp ⟨error, hdecrypted⟩) hreadable

/-- A preview is asked of a message that can be decrypted, if there is one. -/
def CanPreview (env : BackendEnv) (input : DisplayInput) (latest : Option Backend.Message) : Prop :=
  ∀ message, latest = some message →
    ¬ DecryptionFails env (exchange input.exchange) input.encryption message

theorem latestPreview_spec {input : DisplayInput} {latest : Option Backend.Message}
    {preview : Option JsString} (h : latestPreview env input latest = some preview)
    (hreadable : CanPreview env input latest) : preview = latest.map previewText := by
  unfold latestPreview at h
  split at h
  · cases h
    rfl
  · rename_i message
    obtain ⟨display, hdisplay, rfl⟩ := Option.map_eq_some_iff.mp h
    rw [buildMessagePreview_display hdisplay (hreadable message rfl)]
    rfl

end Texts

/-! ## Lists -/

/-- What a page shows of the last message of a conversation. -/
def lastMessage (conversation : Frontend.Conversation) : Option JsString × Option Date :=
  (conversation.lastMessagePreview, conversation.lastMessageAt)

/-- What a list says of the last message of a stored conversation. -/
def listedFor (db : ChatDb) (conversation : Backend.Conversation) :
    Option JsString × Option Date :=
  ((db.findLatestMessage conversation.id).map previewText,
    ((db.findLatestMessage conversation.id).map Backend.Message.sentAt).or
      conversation.lastMessageAt)

/-- The user is an active participant of the conversation. -/
def IsActive (db : ChatDb) (c u : ObjectId) : Prop := ∃ count, storedCount db c u = some count

/-- The previews of a page are those of the list of its user. -/
def PreviewsMatch (db : ChatDb) (client : ChatClient) : Prop :=
  ∀ conversation ∈ db.conversations, IsActive db conversation.id client.socket.user →
    ∀ row, (conversation.id.toString, row) ∈ shown lastMessage client.state →
      row = listedFor db conversation

/-- What every page shows of a last message is what `listConversationsForUser` would answer to its
    user, whatever users there are, if it can decrypt the last messages. -/
def PreviewsRight (env : BackendEnv) (system : ClientSystem) : Prop :=
  ∀ client ∈ system.clients, ∀ users input list,
    listConversationsForUser env users input system.db client.socket.user = some list →
    (∀ c, CanPreview env (input c) (system.db.findLatestMessage c)) →
    ∀ summary ∈ list, ∀ conversation ∈ client.state.conversations,
      conversation.id = summary.id.toString →
        conversation.lastMessagePreview = summary.lastMessagePreview ∧
          conversation.lastMessageAt = summary.lastMessageAt

section Lists

variable {env : BackendEnv} {db : ChatDb} {user : ObjectId}

theorem summarize_spec {users : ObjectId → Option SessionUser} {input : DisplayInput}
    {participations : List ConversationParticipant} {conversation : Backend.Conversation}
    {summary : ConversationSummary}
    (h : summarize env users input db user participations conversation = some summary)
    (hreadable : CanPreview env input (db.findLatestMessage conversation.id)) :
    summary.id = conversation.id ∧
      (summary.lastMessagePreview, summary.lastMessageAt) = listedFor db conversation := by
  obtain ⟨preview, hpreview, rfl⟩ := Option.map_eq_some_iff.mp h
  refine ⟨rfl, ?_⟩
  rw [listedFor, ← latestPreview_spec hpreview hreadable]

/-- What is listed for a user is stored, and the user is an active participant. -/
theorem listed_spec {users : ObjectId → Option SessionUser} {input : ObjectId → DisplayInput}
    {list : List ConversationSummary}
    (h : listConversationsForUser env users input db user = some list)
    (hreadable : ∀ c, CanPreview env (input c) (db.findLatestMessage c))
    {summary : ConversationSummary} (hsummary : summary ∈ list) :
    ∃ conversation ∈ db.conversations, conversation.id = summary.id ∧
      IsActive db conversation.id user ∧
        (summary.lastMessagePreview, summary.lastMessageAt) = listedFor db conversation := by
  obtain ⟨conversation, hmem, hsummarize⟩ := Records.exists_of_mem_mapM h hsummary
  obtain ⟨hstored, hlisted⟩ := List.mem_filter.mp (Pagination.mem_newestFirst.mp hmem)
  obtain ⟨hid, hlast⟩ := summarize_spec hsummarize (hreadable _)
  refine ⟨conversation, hstored, hid.symm, ?_, hlast⟩
  -- the participation is an active record, so one is found
  obtain ⟨p, hp, hpc⟩ := List.mem_map.mp (of_decide_eq_true hlisted)
  obtain ⟨hpmem, hactive⟩ := List.mem_filter.mp hp
  simp only [Bool.and_eq_true, decide_eq_true_eq] at hactive
  have hfound : (db.findActive conversation.id user).isSome := by
    refine List.find?_isSome.mpr ⟨p, hpmem, ?_⟩
    simp [ChatDb.isActiveOf, hpc, hactive]
  obtain ⟨found, hfound⟩ := Option.isSome_iff_exists.mp hfound
  exact ⟨found.unreadCount, by rw [storedCount, hfound]; rfl⟩

theorem previewsRight_of_match {system : ClientSystem}
    (h : ∀ client ∈ system.clients, PreviewsMatch system.db client) : PreviewsRight env system := by
  intro client hclient users input list hlist hreadable summary hsummary shown hshown hid
  obtain ⟨conversation, hstored, hsame, hactive, hlast⟩ := listed_spec hlist hreadable hsummary
  have hrow : (conversation.id.toString, lastMessage shown) ∈
      Spec.shown lastMessage client.state := by
    rw [hsame, ← hid]
    exact List.mem_map_of_mem hshown
  have heq := (h client hclient conversation hstored hactive _ hrow).trans hlast.symm
  exact ⟨congrArg Prod.fst heq, congrArg Prod.snd heq⟩

/-- A conversation of the page as a list answers it. -/
def shownSummary (summary : ConversationSummary) : Frontend.Conversation :=
  ⟨summary.id.toString, summary.lastMessagePreview, summary.lastMessageAt, summary.unreadCount,
    summary.hasUnread⟩

/-- A page that has just loaded its list shows it, if the ids of conversations are unique. -/
theorem previewsMatch_showConversations {users : ObjectId → Option SessionUser}
    {input : ObjectId → DisplayInput} {list : List ConversationSummary}
    (hids : (db.conversations.map Backend.Conversation.id).Nodup) (socket : ChatSocket)
    (state : ChatState)
    (h : listConversationsForUser env users input db socket.user = some list)
    (hreadable : ∀ c, CanPreview env (input c) (db.findLatestMessage c)) :
    PreviewsMatch db ⟨socket, state.showConversations (list.map shownSummary)⟩ := by
  intro conversation hstored _ row hrow
  -- the row of the page is a summary of the list
  obtain ⟨shown, hshown, heq⟩ := List.mem_map.mp hrow
  obtain ⟨summary, hsummary, rfl⟩ := List.mem_map.mp hshown
  obtain ⟨hid, rfl⟩ := Prod.mk.inj heq
  obtain ⟨conversation', hstored', hsame, -, hlast⟩ := listed_spec h hreadable hsummary
  -- two conversations of one id are one
  have hsameid : conversation'.id = conversation.id := by
    rw [hsame]
    exact ObjectId.toString_injective hid
  obtain rfl := List.inj_on_of_nodup_map hids hstored' hstored hsameid
  exact hlast

end Lists

/-! ## A conversation changes -/

section Update

variable {before db : ChatDb} {c : ObjectId}

/-- The latest messages of other conversations are as before. -/
theorem listedFor_of_stored {message : Backend.Message} (h : MessageStored before db message)
    {conversation : Backend.Conversation} (hne : conversation.id ≠ message.conversationId) :
    listedFor db conversation = listedFor before conversation := by
  have hlatest : db.findLatestMessage conversation.id =
      before.findLatestMessage conversation.id := by
    rw [ChatDb.findLatestMessage, h.messages, List.filter_append,
      List.filter_singleton, decide_eq_false (Ne.symm hne), cond_false, List.append_nil,
      ChatDb.findLatestMessage]
  rw [listedFor, listedFor, hlatest]

/-- A message that is later than all others of its conversation is what the list has. -/
theorem listedFor_of_later {message : Backend.Message} (h : MessageStored before db message)
    (hlater : ∀ m ∈ before.messages, m.conversationId = message.conversationId →
      m.sentAt < message.sentAt)
    {conversation : Backend.Conversation} (hid : conversation.id = message.conversationId) :
    listedFor db conversation = (some (previewText message), some message.sentAt) := by
  -- the latest of the conversation is the last one stored
  have hlatest : db.findLatestMessage conversation.id = some message := by
    rw [ChatDb.findLatestMessage, h.messages, List.filter_append, List.filter_singleton,
      decide_eq_true hid.symm, cond_true]
    refine findLatest_concat fun m hm => ?_
    obtain ⟨hmem, hm⟩ := List.mem_filter.mp hm
    exact hlater m hmem ((of_decide_eq_true hm).trans hid)
  rw [listedFor, hlatest]
  rfl

/-- Whether a message was seen is nothing to the list. -/
theorem findLatestMessage_of_seen (h : OnlySeen before db) (c : ObjectId) :
    (db.findLatestMessage c).map unseen = (before.findLatestMessage c).map unseen := by
  have hmap : ∀ messages : List Backend.Message,
      (findLatest Backend.Message.sentAt (messages.filter (·.conversationId = c))).map unseen =
        findLatest Backend.Message.sentAt ((messages.map unseen).filter (·.conversationId = c)) := by
    intro messages
    have hsentAt : ∀ m, Backend.Message.sentAt (unseen m) = m.sentAt := fun _ => rfl
    rw [← findLatest_map hsentAt, List.filter_map]
    rfl
  rw [ChatDb.findLatestMessage, ChatDb.findLatestMessage, hmap, hmap, h.messages]

theorem listedFor_of_seen (h : OnlySeen before db) (conversation : Backend.Conversation) :
    listedFor db conversation = listedFor before conversation := by
  have hview : ∀ (latest : Option Backend.Message),
      latest.map previewText = (latest.map unseen).map previewText ∧
        latest.map Backend.Message.sentAt = (latest.map unseen).map Backend.Message.sentAt := by
    intro latest
    cases latest <;> exact ⟨rfl, rfl⟩
  rw [listedFor, listedFor, (hview _).1, (hview _).2, findLatestMessage_of_seen h, ← (hview _).1,
    ← (hview _).2]

/-- The previews of a page stay right when that of one conversation becomes so. -/
theorem PreviewsMatch.update {client client' : ChatClient} (h : PreviewsMatch before client)
    (hothers : ∀ conversation ∈ db.conversations, conversation.id ≠ c →
      conversation ∈ before.conversations ∧ listedFor db conversation = listedFor before conversation)
    (hactive : ∀ c', c' ≠ c → ∀ u, IsActive db c' u → IsActive before c' u)
    (hsocket : client'.socket = client.socket)
    (helsewhere : SameElsewhere c.toString (shown lastMessage client.state)
      (shown lastMessage client'.state))
    (hrow : ∀ conversation ∈ db.conversations, conversation.id = c →
      IsActive db c client.socket.user →
        ∀ row, (c.toString, row) ∈ shown lastMessage client'.state →
          row = listedFor db conversation) : PreviewsMatch db client' := by
  intro conversation hstored hmember row hmem
  rw [hsocket] at hmember
  -- the conversation itself, or one whose rows and whose last message stay
  by_cases hc : conversation.id = c
  · rw [hc] at hmember hmem
    exact hrow conversation hstored hc hmember row hmem
  · obtain ⟨hold, hlisted⟩ := hothers conversation hstored hc
    have hne : conversation.id.toString ≠ c.toString := fun heq =>
      hc (ObjectId.toString_injective heq)
    rw [hlisted]
    exact h conversation hold (hactive _ hc _ hmember) row (helsewhere.elsewhere _ _ hne hmem)

end Update

/-! ## Events -/

section Events

variable {env : BackendEnv} {db : ChatDb} {c : ObjectId} {input : ObjectId → DisplayInput}
  {now : Date} {previews : List (ObjectId × ConversationPreviewPayload)}
  {clients : List ChatClient} {index : Nat} {client : ChatClient}

/-- All rows of the conversation are the given one. -/
def ShowsLast (c : ObjectId) (row : Option JsString × Option Date) (state : ChatState) : Prop :=
  ∀ row', (c.toString, row') ∈ shown lastMessage state → row' = row

theorem setsLast_handlePreviewUpdate (state : ChatState) (preview : ConversationPreviewPayload) :
    Sets preview.conversationId (some preview.lastMessagePreview, some preview.lastMessageAt)
      (shown lastMessage state) (shown lastMessage (state.handlePreviewUpdate preview)) :=
  Changes.sets (changes_handlePreviewUpdate state preview) fun _ _ => rfl

/-- A message puts its own content in the place of the preview. -/
theorem setsLast_handleIncomingMessage (state : ChatState) (message : RealtimeMessagePayload) :
    Sets message.conversationId (some message.content, some message.sentAt)
      (shown lastMessage state) (shown lastMessage (state.handleIncomingMessage message)) := by
  obtain ⟨count, hasUnread, hchanges, -⟩ := changes_handleIncomingMessage state message
  exact Changes.sets hchanges fun _ _ => rfl

/-- What a preview says of a conversation with a message that can be decrypted. -/
theorem showsLast_preview
    (h : buildConversationPreviewPayloads env input db c.toString c now = some previews)
    {user : ObjectId} {payload : ConversationPreviewPayload}
    (hpayload : previewOf previews user = some payload) {latest : Backend.Message}
    (hlatest : db.findLatestMessage c = some latest)
    (hreadable : CanPreview env (input user) (some latest)) (state : ChatState) :
    ShowsLast c (some (previewText latest), some latest.sentAt)
      (state.handlePreviewUpdate payload) := by
  -- the preview of this user is one of those that were built
  obtain ⟨p, -, hp⟩ := Records.exists_of_mem_mapM h (mem_of_previewOf hpayload)
  obtain ⟨preview, hpreview, heq⟩ := Option.map_eq_some_iff.mp hp
  obtain ⟨rfl, rfl⟩ := Prod.mk.inj heq
  obtain ⟨text, htext, rfl⟩ := Option.map_eq_some_iff.mp hpreview
  rw [hlatest] at htext
  obtain rfl := latestPreview_spec htext hreadable
  -- the row that was changed has the text of the latest message
  intro row hrow
  rw [(setsLast_handlePreviewUpdate state _).eq_of_mem hrow, hlatest]
  rfl

/-- After the events of a message an active participant's page shows the message. -/
theorem showsLast_messages
    (h : buildConversationPreviewPayloads env input db c.toString c now = some previews)
    (hclient : clients[index]? = some client) (hroom : InOwnRoom client)
    (hactive : IsActive db c client.socket.user) {payload : RealtimeMessagePayload}
    (hpayload : payload.conversationId = c.toString)
    {preview : ObjectId → Option ConversationPreviewPayload}
    (receiver : ChatClient) :
    ShowsLast c (some payload.content, some payload.sentAt)
      ((receivedBy (emitRealtimeMessage (socketsOf clients) c.toString
        (previews.map (·.1.toString)) payload) index).foldl (ChatClient.receive preview)
          receiver).state := by
  -- he has a count, so a preview was built for him
  obtain ⟨count, hcount⟩ := hactive
  have hmem := mem_previews_of_storedCount h hcount
  rw [map_toString_users]
  refine foldl_receive_of_forall (fun event hevent receiver _ => ?_) ?_ rfl
  · -- every event is about this message
    obtain ⟨rfl, -⟩ := (mem_emitRealtimeMessage_iff hclient hroom).mp (mem_receivedBy.mp hevent)
    intro row hrow
    rw [← hpayload] at hrow
    exact (setsLast_handleIncomingMessage receiver.state payload).eq_of_mem hrow
  · -- a user who gets a preview gets the message in their own room
    have hreceived : .messageDelivered payload ∈ receivedBy (emitRealtimeMessage (socketsOf clients)
        c.toString ((previews.map Prod.fst).map ObjectId.toString) payload) index :=
      mem_receivedBy.mpr ((mem_emitRealtimeMessage_iff hclient hroom).mpr ⟨rfl, .inr hmem⟩)
    exact List.ne_nil_of_mem hreceived

/-- Read receipts leave what is shown of the last message. -/
theorem ShowsLast.reads {row : Option JsString × Option Date} {events : List Backend.ServerEvent}
    {preview : ObjectId → Option ConversationPreviewPayload} (h : ShowsLast c row client.state)
    (hevents : ∀ event ∈ events, ∃ id last, event = .conversationReadUpdated id last) :
    ShowsLast c row (events.foldl (ChatClient.receive preview) client).state := by
  refine List.foldlRecOn (motive := fun client : ChatClient => ShowsLast c row client.state) events _ h
    fun client h event hevent => ?_
  obtain ⟨id, last, rfl⟩ := hevents event hevent
  have hrows : (shown lastMessage (client.state.handleConversationRead id)).Perm
      (shown lastMessage client.state) :=
    Changes.rows_perm (changes_handleConversationRead client.state id) fun _ => rfl
  exact fun row' hrow => h row' (hrows.mem_iff.mp hrow)

end Events

/-! ## Runs -/

/-- What the operations keep: the records have different ids, every socket is in its user's room,
    and the previews are right. -/
structure Previewed (system : ClientSystem) : Prop where
  ids : (system.db.participants.map ConversationParticipant.id).Nodup
  rooms : ∀ client ∈ system.clients, InOwnRoom client
  previews : ∀ client ∈ system.clients, PreviewsMatch system.db client

section Runs

variable {env : BackendEnv} {system system' : ClientSystem} {db : ChatDb}
  {message : Backend.Message} {input : EmitInput}

/-- A message is later than all others of its conversation, and what the sockets get of it can be
    decrypted. -/
structure ShownAsListed (env : BackendEnv) (db : ChatDb) (message : Backend.Message)
    (input : EmitInput) : Prop where
  later : ∀ m ∈ db.messages, m.conversationId = message.conversationId → m.sentAt < message.sentAt
  readable : ¬ DecryptionFails env (exchange input.message.exchange) input.message.encryption message

/-- The events of a message without an attachment. -/
theorem previewed_emitMessage (h : Previewed system)
    (hkeeps : KeepsOthers message.conversationId system.db db)
    (hstored : MessageStored system.db db message) (hattachment : message.attachment = none)
    (hok : ShownAsListed env system.db message input)
    (hemit : emitMessage env { system with db := db } message input = some system') :
    Previewed system' := by
  obtain ⟨payload, hpayload, hemit⟩ := Option.bind_eq_some_iff.mp hemit
  obtain ⟨previews, hpreviews, rfl⟩ := Option.map_eq_some_iff.mp hemit
  have hconversation := conversationId_toRealtimeMessagePayload hpayload
  obtain ⟨hcontent, hsentAt⟩ := content_toRealtimeMessagePayload hpayload hok.readable
  have hclient : ∀ client' ∈ deliverAll previews system.clients
      (emitConversationPreviews (socketsOf system.clients) message.conversationId.toString
        (previews.map (·.1.toString)) ++ emitRealtimeMessage (socketsOf system.clients)
          message.conversationId.toString (previews.map (·.1.toString)) payload),
      InOwnRoom client' ∧ PreviewsMatch db client' := by
    intro client' hmem
    obtain ⟨index, client, hat, rfl⟩ := exists_of_mem_deliverAll hmem
    have hin := List.mem_of_getElem? hat
    have hroom := h.rooms client hin
    rw [receivedBy_append, List.foldl_append]
    refine ⟨?_, ?_⟩
    · intro user
      rw [socket_foldl_receive, socket_foldl_receive]
      exact hroom user
    · refine (h.previews client hin).update (c := message.conversationId) ?_ ?_ ?_ ?_ ?_
      · exact fun conversation hmem hne =>
          ⟨hstored.others conversation hmem hne, listedFor_of_stored hstored hne⟩
      · rintro c' hne u ⟨count, hcount⟩
        exact ⟨count, hkeeps.storedCount_eq hne u ▸ hcount⟩
      · rw [socket_foldl_receive, socket_foldl_receive]
      · refine (sameRows_foldl_receive lastMessage (isAbout_previews hpreviews hat hroom)
          client).trans (sameRows_foldl_receive lastMessage ?_ _)
        intro event hevent
        rw [mem_receivedBy, map_toString_users] at hevent
        obtain ⟨rfl, -⟩ := (mem_emitRealtimeMessage_iff hat hroom).mp hevent
        exact hconversation
      · intro conversation hmem hid hactive row hrow
        rw [listedFor_of_later hstored hok.later hid]
        -- the message has the last word, with its own text
        have hlast := showsLast_messages hpreviews hat hroom hactive hconversation _ row hrow
        rw [hlast, hcontent, hsentAt, previewText, buildMessagePreview, hattachment]
  exact ⟨hkeeps.ids ▸ h.ids, fun client hmem => (hclient client hmem).1,
    fun client hmem => (hclient client hmem).2⟩

/-- The conversation has a message, and the previews of its active participants can be made of it. -/
def PreviewsAsListed (env : BackendEnv) (db : ChatDb) (c : ObjectId) (input : EmitInput) : Prop :=
  ∃ latest, db.findLatestMessage c = some latest ∧
    ∀ user, IsActive db c user → CanPreview env (input.previews user) (some latest)

/-- A reading changes neither who is active nor what is listed. -/
theorem PreviewsMatch.read {before : ChatDb} {c reader : ObjectId} {client client' : ChatClient}
    (h : PreviewsMatch before client)
    (hids : (before.participants.map ConversationParticipant.id).Nodup)
    (hreset : CountReset before c reader db) (hseen : OnlySeen before db)
    (hsocket : client'.socket = client.socket)
    (helsewhere : SameElsewhere c.toString (shown lastMessage client.state)
      (shown lastMessage client'.state))
    (hrow : ∀ conversation ∈ before.conversations, conversation.id = c →
      IsActive before c client.socket.user →
        ∀ row, (c.toString, row) ∈ shown lastMessage client'.state →
          row = listedFor before conversation) : PreviewsMatch db client' := by
  -- a reader who is active now was so before
  have hactive : ∀ c' u, IsActive db c' u → IsActive before c' u := by
    rintro c' u ⟨count, hcount⟩
    rw [hreset.storedCount_eq hids] at hcount
    split at hcount
    · rename_i heq
      obtain ⟨p, hfound, -⟩ := hreset
      exact ⟨p.unreadCount, by rw [heq.1, heq.2, storedCount, hfound]; rfl⟩
    · exact ⟨count, hcount⟩
  refine h.update (c := c) ?_ (fun c' _ u => hactive c' u) hsocket helsewhere ?_
  · intro conversation hmem _
    rw [hseen.conversations] at hmem
    exact ⟨hmem, listedFor_of_seen hseen conversation⟩
  · intro conversation hmem hid hmember row hmem'
    rw [hseen.conversations] at hmem
    rw [listedFor_of_seen hseen]
    exact hrow conversation hmem hid (hactive _ _ hmember) row hmem'

/-- Whether a message was seen is nothing to its decryption. -/
theorem canPreview_of_unseen {display : DisplayInput} {m m' : Backend.Message}
    (hsame : unseen m = unseen m') (h : CanPreview env display (some m)) :
    CanPreview env display (some m') := by
  intro found hfound hfails
  obtain rfl := Option.some.inj hfound
  have hunseen : DecryptionFails env (exchange display.exchange) display.encryption (unseen m') :=
    hfails
  rw [← hsame] at hunseen
  exact h m rfl hunseen

/-- After a reading the latest message is the same, but for who has seen it. -/
theorem PreviewsAsListed.after_reading {before : ChatDb} {c reader : ObjectId}
    (h : PreviewsAsListed env before c input)
    (hids : (before.participants.map ConversationParticipant.id).Nodup)
    (hreset : CountReset before c reader db) (hseen : OnlySeen before db) (user : ObjectId)
    (hactive : IsActive before c user) :
    ∃ latest count, db.findLatestMessage c = some latest ∧ storedCount db c user = some count ∧
      CanPreview env (input.previews user) (some latest) := by
  obtain ⟨latest, hlatest, hreadable⟩ := h
  -- who has seen it is all that has changed
  have hmap := findLatestMessage_of_seen hseen c
  rw [hlatest] at hmap
  obtain ⟨latest', hlatest', hsame⟩ := Option.map_eq_some_iff.mp hmap
  obtain ⟨count, hcount⟩ := hactive
  -- the reader's count is zero now, the others have theirs
  have hcount' : ∃ count, storedCount db c user = some count := by
    rw [hreset.storedCount_eq hids]
    split
    · exact ⟨0, rfl⟩
    · exact ⟨count, hcount⟩
  obtain ⟨count', hcount'⟩ := hcount'
  exact ⟨latest', count', hlatest', hcount',
    canPreview_of_unseen hsame.symm (hreadable user ⟨count, hcount⟩)⟩

/-- A page after the events of a reading. -/
theorem previewsMatch_events {before : ChatDb} {c reader : ObjectId} {last : Option ObjectId}
    {previews : List (ObjectId × ConversationPreviewPayload)} {clients : List ChatClient}
    {index : Nat} {client : ChatClient} (h : PreviewsMatch before client)
    (hok : PreviewsAsListed env before c input)
    (hids : (before.participants.map ConversationParticipant.id).Nodup)
    (hreset : CountReset before c reader db) (hseen : OnlySeen before db)
    (hpreviews : buildConversationPreviewPayloads env input.previews db c.toString c input.now =
      some previews)
    (hclient : clients[index]? = some client) (hroom : InOwnRoom client) :
    PreviewsMatch db ((receivedBy (readingEvents clients c reader last previews) index).foldl
      (ChatClient.receive (previewOf previews)) client) := by
  rw [readingEvents, receivedBy_append, List.foldl_append]
  have hreceipts : ∀ event ∈ receivedBy (emitTo (socketsOf clients)
      (getUserRoom reader.toString) (.conversationReadUpdated c.toString last) ++
        emitTo (socketsOf clients) (getConversationRoom c.toString)
          (.conversationReadUpdated c.toString last)) index,
      event = .conversationReadUpdated c.toString last :=
    fun event hevent => ((mem_receipts_iff hclient hroom).mp hevent).1
  refine h.read hids hreset hseen ?_ ?_ ?_
  · rw [socket_foldl_receive, socket_foldl_receive]
  · refine (sameRows_foldl_receive lastMessage (isAbout_previews hpreviews hclient hroom)
      client).trans (sameRows_foldl_receive lastMessage ?_ _)
    intro event hevent
    rw [hreceipts event hevent]
    rfl
  · intro conversation _ hid hactive row hrow
    obtain ⟨latest, count, hlatest, hcount, hreadable⟩ :=
      hok.after_reading hids hreset hseen client.socket.user hactive
    -- an active participant has got a preview, and the receipts leave it
    have hshown := foldl_receive_previews (P := ShowsLast c (some (previewText latest),
      some latest.sentAt)) hpreviews hclient hroom hcount fun payload state hpayload =>
        showsLast_preview hpreviews hpayload hlatest hreadable state
    rw [hshown.reads (fun event hevent => ⟨_, _, hreceipts event hevent⟩) row hrow,
      ← listedFor_of_seen hseen, listedFor, hid, hlatest]
    rfl

/-- The page that has asked for a reading sets its counter once more, which is no preview. -/
theorem PreviewsMatch.showReadState {client : ChatClient} (h : PreviewsMatch db client)
    (conversationId : JsString) (count : Nat) :
    PreviewsMatch db { client with state := client.state.showReadState conversationId count } := by
  have hrows : (shown lastMessage (client.state.showReadState conversationId count)).Perm
      (shown lastMessage client.state) :=
    Changes.rows_perm (changes_showReadState client.state conversationId count) fun _ => rfl
  exact fun conversation hstored hactive row hrow =>
    h conversation hstored hactive row (hrows.mem_iff.mp hrow)

/-- A reading of a conversation with a message. -/
theorem Previewed.markRead (h : Previewed system) {index : Nat} {c : ObjectId}
    {inputs : List CallInput} (hok : PreviewsAsListed env system.db c input)
    (hstep : handleMarkConversationRead env system index c inputs input = some system') :
    Previewed system' := by
  obtain ⟨caller, last, previews, _, -, hrun, hreset, hpreviews, hclients⟩ :=
    handleMarkConversationRead_eq_some hstep
  -- each page agrees after the events, before the asking page sets its counter
  have hclient : ∀ client' ∈ deliverAll previews system.clients
      (readingEvents system.clients c caller.socket.user last previews),
      InOwnRoom client' ∧ PreviewsMatch system'.db client' := by
    intro client' hmem
    obtain ⟨i, client, hat, rfl⟩ := exists_of_mem_deliverAll hmem
    have hin := List.mem_of_getElem? hat
    refine ⟨fun user => ?_, previewsMatch_events (h.previews client hin) hok h.ids hreset
      (onlySeen_of_run hrun) hpreviews hat (h.rooms client hin)⟩
    rw [socket_foldl_receive]
    exact h.rooms client hin user
  have hall : ∀ client' ∈ system'.clients, InOwnRoom client' ∧ PreviewsMatch system'.db client' := by
    rw [hclients]
    refine Records.forall_mem_modify hclient fun old hold => ?_
    obtain ⟨hroom, hmatch⟩ := hclient old (List.mem_of_getElem? hold)
    exact ⟨hroom, hmatch.showReadState c.toString 0⟩
  exact ⟨hreset.ids ▸ h.ids, fun client hmem => (hall client hmem).1,
    fun client hmem => (hall client hmem).2⟩

/-- A change of one socket that keeps its user and its user's room. -/
theorem Previewed.modify (h : Previewed system) (index : Nat) (change : ChatSocket → ChatSocket)
    (huser : ∀ socket, (change socket).user = socket.user)
    (hroom : ∀ client, InOwnRoom client → InOwnRoom { client with socket := change client.socket }) :
    Previewed { system with
      clients := system.clients.modify index fun client =>
        { client with socket := change client.socket } } where
  ids := h.ids
  rooms := Records.forall_mem_modify h.rooms fun old hold =>
    hroom old (h.rooms old (List.mem_of_getElem? hold))
  -- the user of the socket is the one he was
  previews := by
    refine Records.forall_mem_modify h.previews fun old hold => ?_
    intro conversation hstored hactive row hrow
    rw [huser] at hactive
    exact h.previews old (List.mem_of_getElem? hold) conversation hstored hactive row hrow

/-- The condition on an operation.  A message has no attachment, it is later than all others of its
    conversation, and what the sockets get of it can be decrypted; a reading is of a conversation
    with a message, of which the previews can be made. -/
def KeepsPreviews (env : BackendEnv) (system : ClientSystem) : ClientOperation → Prop
  | .sendMessage conversation sender content attachmentId isAICommand inputs input =>
    attachmentId = [] ∧ ∀ db args message restored,
      run (aloneStep env) (system.db, .sendMessage ⟨conversation.toString, sender.toString, content,
        attachmentId, isAICommand⟩ .start) inputs =
          some (db, .sendMessage args (.returned message restored)) →
        ShownAsListed env system.db message input
  | .sendAiBotMessage conversation requester content inputs _ =>
    ∀ db message, run (fun state input => aiBotStep state.1
        ⟨conversation.toString, requester.toString, content⟩ input state.2)
          (system.db, .start) inputs = some (db, .returned message) →
      ∀ m ∈ system.db.messages, m.conversationId = conversation → m.sentAt < message.sentAt
  | .markConversationRead _ conversation _ input =>
    PreviewsAsListed env system.db conversation input
  | .readOverHttp _ _ _ | .joinConversation _ _ | .leaveConversation _ _ => True

/-- What an operation that meets its condition makes of the system. -/
theorem Previewed.step {operation : ClientOperation} (h : Previewed system)
    (hok : KeepsPreviews env system operation)
    (hstep : clientStep env system operation = some system') : Previewed system' := by
  cases operation with
  | sendMessage c sender content attachmentId isAICommand inputs input =>
    simp only [clientStep, handleSendMessage] at hstep
    split at hstep
    · rename_i db args' message restored hrun
      obtain ⟨hkeeps, rfl⟩ := keepsOthers_send h.ids (ObjectId.ofString?_toString c) hrun
      obtain ⟨pc, hpc, hprogress⟩ := storeProgress_of_run hrun
      cases hpc
      exact previewed_emitMessage h hkeeps hprogress.1 (hprogress.2 hok.1)
        (hok.2 db _ message restored hrun) hstep
    · cases hstep
  | sendAiBotMessage c requester content inputs input =>
    simp only [clientStep, Frontend.sendAiBotMessage] at hstep
    split at hstep
    · rename_i db message hrun
      obtain ⟨hkeeps, rfl⟩ := keepsOthers_aiBot (ObjectId.ofString?_toString c) hrun
      obtain ⟨hstored, hattachment, hlegacy⟩ := aiBotProgress_of_run hrun
      -- the answer is not encrypted
      have hreadable : ¬ DecryptionFails env (exchange input.message.exchange)
          input.message.encryption message := by
        intro hfails
        have hencrypted := hfails.1
        rw [hlegacy] at hencrypted
        cases hencrypted
      exact previewed_emitMessage h hkeeps hstored hattachment ⟨hok db message hrun, hreadable⟩ hstep
    · cases hstep
  | markConversationRead index c inputs input => exact h.markRead hok hstep
  | readOverHttp reader c inputs =>
    obtain ⟨⟨db, last⟩, hread, rfl⟩ := Option.map_eq_some_iff.mp hstep
    obtain ⟨args', hrun⟩ := markRead_eq_some hread
    have hreset := countReset_markRead (ObjectId.ofString?_toString c)
      (ObjectId.ofString?_toString reader) (.inl rfl) hrun
    refine ⟨hreset.ids ▸ h.ids, h.rooms, fun client hmem => ?_⟩
    exact (h.previews client hmem).read h.ids hreset (onlySeen_of_run hrun) rfl (.refl _ _)
      fun conversation hstored hid hactive row hrow =>
        h.previews client hmem conversation hstored (hid ▸ hactive) row (hid ▸ hrow)
  | joinConversation index c =>
    simp only [clientStep] at hstep
    split at hstep
    · cases hstep
    · split at hstep
      · cases hstep
      · cases hstep
        exact h.modify index
          (fun socket =>
            (socket.join (getConversationRoom c.toString)).markConversationJoined c.toString)
          (fun socket => by rw [user_markConversationJoined, user_join])
          (fun client hroom => inOwnRoom_join hroom c.toString)
  | leaveConversation index c =>
    cases hstep
    exact h.modify index (·.leaveConversation c.toString) (fun _ => rfl)
      (fun client hroom => inOwnRoom_leave hroom c.toString)

/-- **What the pages show of the last messages is what the lists would answer**, after every run of
    operations that meet their conditions: for any messages, answers of the chat bot and readings of
    any members, whichever rooms the sockets are in and however often a socket gets an event. -/
theorem previewsRight_of_guarded {operations : List ClientOperation} (h0 : Previewed system)
    (hok : Guarded (clientStep env) (KeepsPreviews env) system operations)
    (hrun : run (clientStep env) system operations = some system') : PreviewsRight env system' := by
  have hkeep : ∀ (system : ClientSystem) (operation : ClientOperation) (system' : ClientSystem),
      Previewed system → KeepsPreviews env system operation →
      clientStep env system operation = some system' → Previewed system' :=
    fun _ _ _ h hok hstep => h.step hok hstep
  exact previewsRight_of_match (run_invariant_of_guarded hkeep h0 hok hrun).previews

end Runs

/-! ## A file in a group -/

/-- The two members, after user 1 has uploaded a file. -/
def fileClients : ClientSystem :=
  { groupClients with
    db := { newGroupDb with
      attachments := [⟨digitId 9, digitId 3, none, digitId 1, js "a.pdf", js "application/pdf", 10,
        false, .uploaded, some 4, none⟩] } }

theorem previewed_fileClients : Previewed fileClients where
  ids := by decide
  rooms := settled_groupClients.rooms
  previews := by
    have hpage : ∀ user, PreviewsMatch fileClients.db (groupPage user) := by
      intro user conversation hstored _ row hrow
      -- nothing has been said yet
      obtain rfl := List.mem_singleton.mp hstored
      obtain ⟨-, rfl⟩ := Prod.mk.inj (List.mem_singleton.mp hrow)
      rfl
    intro client hmem
    simp only [fileClients, groupClients, List.mem_cons, List.not_mem_nil, or_false] at hmem
    rcases hmem with rfl | rfl
    · exact hpage _
    · exact hpage _

/-- The message with which a call returns. -/
def returnedMessage? : ChatCall → Option Backend.Message
  | .sendMessage _ (.returned message _) => some message
  | _ => none

/-- User 1 sends a message, which both pages then show as their lists would. -/
theorem previewsRight_after_message :
    ∃ system, run (clientStep plainEnv) fileClients [sendHello] = some system ∧
      PreviewsRight plainEnv system := by
  obtain ⟨system, hrun⟩ : ∃ system, run (clientStep plainEnv) fileClients [sendHello] = some system :=
    ⟨_, rfl⟩
  refine ⟨system, hrun, previewsRight_of_guarded previewed_fileClients ?_ hrun⟩
  refine ⟨⟨rfl, fun db args message restored hsent => ?_⟩, fun _ _ => trivial⟩
  refine ⟨fun m hm => absurd hm List.not_mem_nil, fun hfails => ?_⟩
  -- nothing is encrypted here
  have hstate : (run (aloneStep plainEnv) (fileClients.db, .sendMessage helloArgs .start)
      helloInputs).bind (fun state =>
        (returnedMessage? state.2).map Backend.Message.reverseEncryptionState) = some .legacy := rfl
  rw [show run (aloneStep plainEnv) (fileClients.db, .sendMessage helloArgs .start) helloInputs =
    some (db, .sendMessage args (.returned message restored)) from hsent] at hstate
  have hlegacy : message.reverseEncryptionState = .legacy := Option.some.inj hstate
  have hencrypted := hfails.1
  rw [hlegacy] at hencrypted
  cases hencrypted

/-- User 1 sends the file without a text. -/
def sendFileMessage : ClientOperation :=
  .sendMessage (digitId 3) (digitId 1) [] (digitId 9).toString false
    ((List.range 8).map fun i => plainInput (5 + i) (digitId 8) []) plainEmit

/-- The list of user 2 has the name of the file, and the page of user 2 shows an empty text. -/
theorem preview_lost_with_file :
    Previewed fileClients ∧
      ∃ system, run (clientStep plainEnv) fileClients [sendFileMessage] = some system ∧
        ¬ PreviewsRight plainEnv system := by
  refine ⟨previewed_fileClients, ?_⟩
  -- the run is evaluated: both pages show an empty text, while the list has the name
  have hrun : (run (clientStep plainEnv) fileClients [sendFileMessage]).map (fun system =>
      (system.clients.map fun client =>
          (client.socket.user, client.state.conversations.map fun conversation =>
            (conversation.id, conversation.lastMessagePreview)),
        (listConversationsForUser plainEnv (fun _ => none) (fun _ => plainEmit.message) system.db
          (digitId 2)).map fun list => list.map fun summary =>
            (summary.id, summary.lastMessagePreview),
        system.db.messages.map Backend.Message.reverseEncryptionState)) =
      some ([(digitId 1, [((digitId 3).toString, some [])]),
          (digitId 2, [((digitId 3).toString, some [])])],
        some [(digitId 3, some (js "[Tệp] a.pdf"))], [.legacy]) := by
    rfl
  obtain ⟨system, hsystem, hresult⟩ := Option.map_eq_some_iff.mp hrun
  obtain ⟨hclients, hresult⟩ := Prod.mk.inj hresult
  obtain ⟨hlists, hstates⟩ := Prod.mk.inj hresult
  obtain ⟨list, hlist, hsummaries⟩ := Option.map_eq_some_iff.mp hlists
  -- the rows that differ are found on the page and in the list
  refine ⟨system, hsystem, fun h => ?_⟩
  obtain ⟨client, hclient, hpage⟩ : ∃ client ∈ system.clients,
      (client.socket.user, client.state.conversations.map fun conversation =>
        (conversation.id, conversation.lastMessagePreview)) =
        (digitId 2, [((digitId 3).toString, some [])]) := by
    apply List.mem_map.mp
    rw [hclients]
    exact List.mem_cons_of_mem _ List.mem_cons_self
  obtain ⟨huser, hshown⟩ := Prod.mk.inj hpage
  obtain ⟨conversation, hconversation, hrow⟩ := List.mem_map.mp
    (hshown ▸ List.mem_cons_self : ((digitId 3).toString, some []) ∈ _)
  obtain ⟨summary, hsummary, hlisted⟩ := List.mem_map.mp
    (hsummaries ▸ List.mem_cons_self : (digitId 3, some (js "[Tệp] a.pdf")) ∈ _)
  obtain ⟨hid, hempty⟩ := Prod.mk.inj hrow
  obtain ⟨hid', hname⟩ := Prod.mk.inj hlisted
  -- nothing is encrypted, so nothing can fail to decrypt
  have hreadable : ∀ c, CanPreview plainEnv plainEmit.message (system.db.findLatestMessage c) := by
    intro c message hlatest hfails
    have hmem := List.mem_map_of_mem (f := Backend.Message.reverseEncryptionState)
      (List.mem_filter.mp (mem_of_findLatest hlatest)).1
    rw [hstates, hfails.1] at hmem
    cases List.mem_singleton.mp hmem
  -- with that the claim would make the two texts one
  have hsame := (h client hclient (fun _ => none) (fun _ => plainEmit.message) list
    (huser ▸ hlist) hreadable summary hsummary conversation hconversation
    (hid.trans (hid' ▸ rfl))).1
  rw [hempty, hname] at hsame
  exact absurd hsame (by decide)

end ChatSC.Spec
