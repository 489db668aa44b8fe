import ChatSC.Spec.GroupMembership
import ChatSC.Spec.PageEvents

/-!
# Unread badges

The counter that a page shows for a conversation against the one that is stored for its user.  After
every operation each active participant's pages get a preview with the stored counter, and a
delivered message leaves the counter alone; but a reading is also sent to everybody in the room of
the conversation, and whoever gets it sets the counter to zero.  `badgesRight_iff_readsInOrder` says
when this is right in a whole run.
-/

namespace ChatSC.Spec

open Backend Frontend JsString Keyed Pagination Transition

/-! ## The badges of a page -/

/-- The conversations of a page with their counters. -/
def badges (state : ChatState) : List (JsString × Nat) :=
  state.conversations.map fun conversation => (conversation.id, conversation.unreadCount)

/-- The badge of one conversation is set. -/
def setBadge (id : JsString) (count : Nat) (badge : JsString × Nat) : JsString × Nat :=
  if badge.1 = id then (id, count) else badge

/-- An update sets the badge of a conversation, as far as the page has it. -/
def SetsBadge (id : JsString) (count : Nat) (state state' : ChatState) : Prop :=
  (badges state').Perm ((badges state).map (setBadge id count))

section Badges

variable {id : JsString} {count : Nat} {state state' : ChatState}

theorem setsBadge_handlePreviewUpdate (state : ChatState) (preview : ConversationPreviewPayload) :
    SetsBadge preview.conversationId preview.unreadCount state (state.handlePreviewUpdate preview) :=
  Changes.sets (changes_handlePreviewUpdate state preview) fun _ _ => rfl

/-- A message sets its badge to one that the page shows already. -/
theorem setsBadge_handleIncomingMessage (state : ChatState) (message : RealtimeMessagePayload) :
    ∃ count, SetsBadge message.conversationId count state (state.handleIncomingMessage message) ∧
      ((message.conversationId, count) ∈ badges state ∨
        message.conversationId ∉ (badges state).map Prod.fst) := by
  obtain ⟨count, hasUnread, hchanges, hshown⟩ := changes_handleIncomingMessage state message
  exact ⟨count, Changes.sets hchanges fun _ _ => rfl, hshown⟩

theorem setsBadge_showReadState (state : ChatState) (conversationId : JsString) (count : Nat) :
    SetsBadge conversationId count state (state.showReadState conversationId count) :=
  Changes.sets (changes_showReadState state conversationId count) fun _ _ => rfl

theorem setsBadge_handleConversationRead (state : ChatState) (conversationId : JsString) :
    SetsBadge conversationId 0 state (state.handleConversationRead conversationId) :=
  Changes.sets (changes_handleConversationRead state conversationId) fun _ _ => rfl

end Badges

/-! ## What the events do -/

section Events

variable {preview : ObjectId → Option ConversationPreviewPayload} {conversationId : JsString}
  {count : Nat} {events : List ServerEvent} {client : ChatClient}

/-- The badges of the two states agree outside the conversation, and the conversations are the
    same. -/
structure SameBadgesElsewhere (conversationId : JsString) (state state' : ChatState) : Prop where
  elsewhere : ∀ id count, id ≠ conversationId → (id, count) ∈ badges state' →
    (id, count) ∈ badges state
  listed : ∀ id, id ∈ (badges state').map Prod.fst ↔ id ∈ (badges state).map Prod.fst

/-- All badges of the conversation are the given one. -/
def AllAt (conversationId : JsString) (count : Nat) (state : ChatState) : Prop :=
  ∀ n, (conversationId, n) ∈ badges state → n = count

theorem SameBadgesElsewhere.of_rows {state state' : ChatState}
    (h : SameElsewhere conversationId (badges state) (badges state')) :
    SameBadgesElsewhere conversationId state state' := ⟨h.elsewhere, h.keys⟩

theorem SameBadgesElsewhere.refl (conversationId : JsString) (state : ChatState) :
    SameBadgesElsewhere conversationId state state := .of_rows (.refl _ _)

theorem SameBadgesElsewhere.trans {state state' state'' : ChatState}
    (h : SameBadgesElsewhere conversationId state state')
    (h' : SameBadgesElsewhere conversationId state' state'') :
    SameBadgesElsewhere conversationId state state'' where
  elsewhere id count hne hmem := h.elsewhere id count hne (h'.elsewhere id count hne hmem)
  listed id := (h'.listed id).trans (h.listed id)

theorem sameElsewhere_foldl_receive (h : ∀ event ∈ events, IsAbout preview conversationId event)
    (client : ChatClient) :
    SameBadgesElsewhere conversationId client.state
      (events.foldl (ChatClient.receive preview) client).state :=
  .of_rows (sameRows_foldl_receive Frontend.Conversation.unreadCount h client)

/-- Delivered messages leave the badge alone. -/
theorem AllAt.messages (h : AllAt conversationId count client.state)
    (hevents : ∀ event ∈ events, ∃ message, event = .messageDelivered message ∧
      message.conversationId = conversationId) :
    AllAt conversationId count (events.foldl (ChatClient.receive preview) client).state := by
  -- induction on the events, which change text and time of the row only
  refine List.foldlRecOn (motive := fun client : ChatClient => AllAt conversationId count client.state)
    events _ h fun client h event hevent => ?_
  obtain ⟨message, rfl, hmessage⟩ := hevents event hevent
  obtain ⟨shown, hset, hshown⟩ := setsBadge_handleIncomingMessage client.state message
  rw [hmessage] at hset hshown
  intro n hn
  rcases hshown with hlisted | hnot
  · rw [Sets.eq_of_mem hset hn]
    exact h shown hlisted
  · have hfst : conversationId ∈ (badges (client.state.handleIncomingMessage message)).map
        Prod.fst := List.mem_map_of_mem hn
    exact absurd ((Sets.mem_fst_iff hset _).mp hfst) hnot

/-- A read receipt sets the badge to zero, whoever has read. -/
theorem allAt_reads (hevents : ∀ event ∈ events, ∃ last,
      event = .conversationReadUpdated conversationId last)
    (hne : events ≠ []) :
    AllAt conversationId 0 (events.foldl (ChatClient.receive preview) client).state := by
  refine foldl_receive_of_forall (fun event hevent client _ => ?_) hne rfl
  obtain ⟨last, rfl⟩ := hevents event hevent
  exact fun _ hn =>
    Sets.eq_of_mem (setsBadge_handleConversationRead client.state conversationId) hn

end Events

/-! ## Previews -/

section Previews

variable {env : BackendEnv} {input : ObjectId → DisplayInput} {db : ChatDb} {c : ObjectId}
  {now : Date} {previews : List (ObjectId × ConversationPreviewPayload)}

/-- After the previews the badge of an active participant is the stored counter. -/
theorem allAt_previews
    (h : buildConversationPreviewPayloads env input db c.toString c now = some previews)
    {clients : List ChatClient} {index : Nat} {client : ChatClient}
    (hclient : clients[index]? = some client) (hroom : InOwnRoom client) {count : Nat}
    (hcount : storedCount db c client.socket.user = some count) :
    AllAt c.toString count ((receivedBy (emitConversationPreviews (socketsOf clients) c.toString
      (previews.map (·.1.toString))) index).foldl (ChatClient.receive (previewOf previews))
        client).state := by
  refine foldl_receive_previews h hclient hroom hcount fun payload state hpayload => ?_
  obtain ⟨hconversation, hunread⟩ := previewOf_spec h hpayload
  -- the preview of the user carries the stored counter
  have hset := setsBadge_handlePreviewUpdate state payload
  rw [hconversation, hunread, hcount] at hset
  exact fun _ hn => Sets.eq_of_mem hset hn

end Previews

/-! ## Badges that match -/

/-- The badges of a page are the counters stored for its user. -/
def BadgesMatch (db : ChatDb) (client : ChatClient) : Prop :=
  ∀ c count n, storedCount db c client.socket.user = some count →
    (c.toString, n) ∈ badges client.state → n = count

/-- The badges of all pages are right. -/
def BadgesRight (system : ClientSystem) : Prop :=
  ∀ client ∈ system.clients, BadgesMatch system.db client

/-- What the operations keep: records have different ids, every socket is in its user's room, and
    the badges are right. -/
structure Settled (system : ClientSystem) : Prop where
  ids : (system.db.participants.map ConversationParticipant.id).Nodup
  rooms : ∀ client ∈ system.clients, InOwnRoom client
  badges : BadgesRight system

/-- The page shows the conversation. -/
def Lists (client : ChatClient) (c : ObjectId) : Prop :=
  c.toString ∈ (badges client.state).map Prod.fst

/-- The badges of a page stay right when those of one conversation become so. -/
theorem BadgesMatch.update {before db : ChatDb} {client client' : ChatClient} {c : ObjectId}
    (h : BadgesMatch before client)
    (hothers : ∀ c', c' ≠ c → ∀ u, storedCount db c' u = storedCount before c' u)
    (hsocket : client'.socket = client.socket)
    (helsewhere : SameBadgesElsewhere c.toString client.state client'.state)
    (hcount : ∀ count, storedCount db c client.socket.user = some count →
      AllAt c.toString count client'.state) : BadgesMatch db client' := by
  intro c' count n hstored hmem
  rw [hsocket] at hstored
  -- the conversation itself, or another one
  by_cases hc : c' = c
  · subst hc
    exact hcount count hstored n hmem
  · rw [hothers c' hc] at hstored
    have hne : c'.toString ≠ c.toString := fun heq => hc (ObjectId.toString_injective heq)
    exact h c' count n hstored (helsewhere.elsewhere _ _ hne hmem)

/-! ## A message -/

section Message

variable {env : BackendEnv} {db : ChatDb} {system system' : ClientSystem}
  {message : Backend.Message} {input : EmitInput}

/-- The events of a message, once it is stored and counted. -/
theorem settled_emitMessage (h : Settled system)
    (hkeeps : KeepsOthers message.conversationId system.db db)
    (hemit : emitMessage env { system with db := db } message input = some system') :
    Settled system' := by
  obtain ⟨payload, hpayload, hemit⟩ := Option.bind_eq_some_iff.mp hemit
  obtain ⟨previews, hpreviews, rfl⟩ := Option.map_eq_some_iff.mp hemit
  have hconversation := conversationId_toRealtimeMessagePayload hpayload
  have hclient : ∀ client' ∈ deliverAll previews system.clients
      (emitConversationPreviews (socketsOf system.clients) message.conversationId.toString
        (previews.map (·.1.toString)) ++ emitRealtimeMessage (socketsOf system.clients)
          message.conversationId.toString (previews.map (·.1.toString)) payload),
      InOwnRoom client' ∧ BadgesMatch db client' := by
    intro client' hmem
    obtain ⟨index, client, hat, rfl⟩ := exists_of_mem_deliverAll hmem
    have hin := List.mem_of_getElem? hat
    rw [receivedBy_append, List.foldl_append]
    -- what comes behind the previews is the message
    have hmessages : ∀ event ∈ receivedBy (emitRealtimeMessage (socketsOf system.clients)
        message.conversationId.toString (previews.map (·.1.toString)) payload) index,
        ∃ delivered, event = .messageDelivered delivered ∧
          delivered.conversationId = message.conversationId.toString := by
      intro event hevent
      rw [mem_receivedBy, map_toString_users] at hevent
      obtain ⟨rfl, -⟩ := (mem_emitRealtimeMessage_iff hat (h.rooms client hin)).mp hevent
      exact ⟨payload, rfl, hconversation⟩
    refine ⟨?_, ?_⟩
    · intro user
      rw [socket_foldl_receive, socket_foldl_receive]
      exact h.rooms client hin user
    · refine (h.badges client hin).update (c := message.conversationId)
        (fun c' hne u => hkeeps.storedCount_eq hne u) ?_ ?_ ?_
      · rw [socket_foldl_receive, socket_foldl_receive]
      · have habout := isAbout_previews hpreviews hat (h.rooms client hin)
        refine (sameElsewhere_foldl_receive habout client).trans (sameElsewhere_foldl_receive ?_ _)
        intro event hevent
        obtain ⟨delivered, rfl, hdelivered⟩ := hmessages event hevent
        exact hdelivered
      · intro count hcount
        exact (allAt_previews hpreviews hat (h.rooms client hin) hcount).messages hmessages
  exact ⟨hkeeps.ids ▸ h.ids, fun client hmem => (hclient client hmem).1,
    fun client hmem => (hclient client hmem).2⟩

end Message

/-! ## A reading -/

section Reading

variable {env : BackendEnv} {system system' : ClientSystem} {c reader : ObjectId} {db : ChatDb}

/-- Everybody else in the room of the conversation who shows it and is an active participant has
    nothing unread in it. -/
def ReceiptFits (system : ClientSystem) (reader c : ObjectId) : Prop :=
  ∀ client ∈ system.clients, client.socket.user ≠ reader →
    getConversationRoom c.toString ∈ client.socket.rooms → Lists client c →
    ∀ count, storedCount system.db c client.socket.user = some count → count = 0

/-- The reader has nothing unread, or no page that shows the conversation. -/
def SilentReadFits (system : ClientSystem) (reader c : ObjectId) : Prop :=
  ∀ client ∈ system.clients, client.socket.user = reader → Lists client c →
    ∀ count, storedCount system.db c reader = some count → count = 0

/-- The client gets the receipt of the reader. -/
def GetsReceipt (client : ChatClient) (reader c : ObjectId) : Prop :=
  client.socket.user = reader ∨ getConversationRoom c.toString ∈ client.socket.rooms

/-- A page after a reading: its badge of the conversation is zero where the receipt arrives, and the
    stored counter elsewhere. -/
structure AfterReading (db : ChatDb) (reader c : ObjectId) (client client' : ChatClient) : Prop where
  socket : client'.socket = client.socket
  elsewhere : SameBadgesElsewhere c.toString client.state client'.state
  zero : GetsReceipt client reader c → AllAt c.toString 0 client'.state
  stored : ¬ GetsReceipt client reader c → ∀ count,
    storedCount db c client.socket.user = some count → AllAt c.toString count client'.state

/-- What is sent for a reading: a preview to every active participant, and then the receipt. -/
def readingEvents (clients : List ChatClient) (c reader : ObjectId) (last : Option ObjectId)
    (previews : List (ObjectId × ConversationPreviewPayload)) : List SocketDelivery :=
  emitConversationPreviews (socketsOf clients) c.toString (previews.map (·.1.toString)) ++
    (emitTo (socketsOf clients) (getUserRoom reader.toString)
        (.conversationReadUpdated c.toString last) ++
      emitTo (socketsOf clients) (getConversationRoom c.toString)
        (.conversationReadUpdated c.toString last))

/-- The receipts that a client gets. -/
theorem mem_receipts_iff {clients : List ChatClient} {index : Nat} {client : ChatClient}
    (hclient : clients[index]? = some client) (hroom : InOwnRoom client) {event event' : ServerEvent} :
    event' ∈ receivedBy (emitTo (socketsOf clients) (getUserRoom reader.toString) event ++
        emitTo (socketsOf clients) (getConversationRoom c.toString) event) index ↔
      event' = event ∧ GetsReceipt client reader c := by
  rw [mem_receivedBy, List.mem_append, mem_emitTo_iff hclient, mem_emitTo_iff hclient, hroom reader,
    GetsReceipt, eq_comm (a := reader), ← and_or_left]

theorem afterReading_deliverAll (reader : ObjectId) (last : Option ObjectId)
    {input : ObjectId → DisplayInput} {now : Date}
    {previews : List (ObjectId × ConversationPreviewPayload)}
    (hpreviews : buildConversationPreviewPayloads env input db c.toString c now = some previews)
    {clients : List ChatClient} {index : Nat} {client : ChatClient}
    (hclient : clients[index]? = some client) (hroom : InOwnRoom client) :
    AfterReading db reader c client
      ((receivedBy (readingEvents clients c reader last previews) index).foldl
        (ChatClient.receive (previewOf previews)) client) := by
  rw [readingEvents, receivedBy_append, List.foldl_append]
  -- the previews come first, and the receipts behind them
  generalize hreceipts : receivedBy (emitTo (socketsOf clients) (getUserRoom reader.toString)
    (.conversationReadUpdated c.toString last) ++ emitTo (socketsOf clients)
      (getConversationRoom c.toString) (.conversationReadUpdated c.toString last)) index = receipts
  have hmem : ∀ event, event ∈ receipts ↔
      event = .conversationReadUpdated c.toString last ∧ GetsReceipt client reader c := by
    intro event
    rw [← hreceipts]
    exact mem_receipts_iff hclient hroom
  refine ⟨?_, ?_, ?_, ?_⟩
  · rw [socket_foldl_receive, socket_foldl_receive]
  · refine (sameElsewhere_foldl_receive (isAbout_previews hpreviews hclient hroom) client).trans
      (sameElsewhere_foldl_receive ?_ _)
    intro event hevent
    obtain ⟨rfl, -⟩ := (hmem event).mp hevent
    rfl
  · intro hgets
    refine allAt_reads (fun event hevent => ⟨last, ((hmem event).mp hevent).1⟩) ?_
    exact List.ne_nil_of_mem ((hmem _).mpr ⟨rfl, hgets⟩)
  · intro hnot count hcount
    have hnone : receipts = [] :=
      List.eq_nil_iff_forall_not_mem.mpr fun event hevent => hnot ((hmem event).mp hevent).2
    rw [hnone, List.foldl_nil]
    -- without a receipt the preview has the last word
    exact allAt_previews hpreviews hclient hroom hcount

/-- The page that has asked for the reading sets its badge once more. -/
theorem AfterReading.asked {client client' : ChatClient}
    (h : AfterReading db reader c client client') (hreader : client.socket.user = reader) :
    AfterReading db reader c client
      { client' with state := client'.state.showReadState c.toString 0 } where
  socket := h.socket
  elsewhere := h.elsewhere.trans (.of_rows
    (Sets.sameElsewhere (setsBadge_showReadState client'.state c.toString 0)))
  zero := fun _ _ hn => Sets.eq_of_mem (setsBadge_showReadState client'.state c.toString 0) hn
  stored := fun hnot => absurd (.inl hreader) hnot

theorem markRead_eq_some {before : ChatDb} {args : MemberArgs} {pc : MarkReadPc}
    {inputs : List CallInput} {last : Option ObjectId}
    (h : markRead env before args pc inputs = some (db, last)) :
    ∃ args', run (aloneStep env) (before, .markConversationRead args pc) inputs =
      some (db, .markConversationRead args' (.returned last)) := by
  unfold markRead at h
  split at h
  · rename_i db' args' last' hrun
    cases h
    exact ⟨args', hrun⟩
  · cases h

/-- A reading that is not refused: it resets the counter of the reader, every page gets the events,
    and the one of the caller sets its badge once more. -/
theorem handleMarkConversationRead_eq_some {index : Nat} {inputs : List CallInput}
    {input : EmitInput}
    (h : handleMarkConversationRead env system index c inputs input = some system') :
    ∃ caller last previews args, system.clients[index]? = some caller ∧
      run (aloneStep env) (system.db, .markConversationRead
          ⟨c.toString, caller.socket.user.toString⟩ .start) inputs =
        some (system'.db, .markConversationRead args (.returned last)) ∧
      CountReset system.db c caller.socket.user system'.db ∧
      buildConversationPreviewPayloads env input.previews system'.db c.toString c input.now =
        some previews ∧
      system'.clients = (deliverAll previews system.clients
        (readingEvents system.clients c caller.socket.user last previews)).modify index
          fun caller => { caller with state := caller.state.showReadState c.toString 0 } := by
  unfold handleMarkConversationRead at h
  split at h
  · cases h
  · rename_i caller hcaller
    -- the call is run as a whole, then every page receives the events
    obtain ⟨⟨db, last⟩, hread, h⟩ := Option.bind_eq_some_iff.mp h
    obtain ⟨previews, hpreviews, rfl⟩ := Option.map_eq_some_iff.mp h
    obtain ⟨args, hrun⟩ := markRead_eq_some hread
    exact ⟨caller, last, previews, args, hcaller, hrun,
      countReset_markRead (ObjectId.ofString?_toString c) (ObjectId.ofString?_toString _)
        (.inr rfl) hrun, hpreviews, rfl⟩

/-- A reading resets the counter of the reader and changes every page as `AfterReading` says. -/
structure IsReading (system : ClientSystem) (reader c : ObjectId) (system' : ClientSystem) :
    Prop where
  reset : CountReset system.db c reader system'.db
  length : system'.clients.length = system.clients.length
  page : ∀ (i : Nat) (client client' : ChatClient), system.clients[i]? = some client →
    system'.clients[i]? = some client' → AfterReading system'.db reader c client client'

/-- What a reading makes of a page. -/
theorem IsReading.exists_after (h : IsReading system reader c system') {client : ChatClient}
    (hmem : client ∈ system.clients) :
    ∃ client' ∈ system'.clients, AfterReading system'.db reader c client client' := by
  obtain ⟨i, client', hi, hi'⟩ := Records.exists_getElem?_of_mem h.length.symm hmem
  exact ⟨client', List.mem_of_getElem? hi', h.page i client client' hi hi'⟩

/-- What a reading has made a page of. -/
theorem IsReading.exists_before (h : IsReading system reader c system') {client' : ChatClient}
    (hmem : client' ∈ system'.clients) :
    ∃ client ∈ system.clients, AfterReading system'.db reader c client client' := by
  obtain ⟨i, client, hi', hi⟩ := Records.exists_getElem?_of_mem h.length hmem
  exact ⟨client, List.mem_of_getElem? hi, h.page i client client' hi hi'⟩

/-- What a reading makes of the system. -/
theorem handleMarkConversationRead_spec (h : Settled system) {index : Nat}
    {inputs : List CallInput} {input : EmitInput}
    (hstep : handleMarkConversationRead env system index c inputs input = some system') :
    ∃ caller, system.clients[index]? = some caller ∧
      IsReading system caller.socket.user c system' := by
  obtain ⟨caller, last, previews, -, hcaller, -, hreset, hpreviews, hclients⟩ :=
    handleMarkConversationRead_eq_some hstep
  refine ⟨caller, hcaller, hreset, ?_, ?_⟩
  · rw [hclients, List.length_modify, deliverAll, List.length_mapIdx]
  · intro i client client' hclient hclient'
    have hroom := h.rooms client (List.mem_of_getElem? hclient)
    -- every page gets its events, and the one of the caller sets its badge once more
    have hafter := afterReading_deliverAll caller.socket.user last hpreviews hclient hroom
    rw [hclients, List.getElem?_modify, getElem?_deliverAll, hclient, Option.map_eq_map,
      Option.map_some, Option.map_some] at hclient'
    obtain rfl := Option.some.inj hclient'
    split
    · rename_i hi
      obtain rfl : caller = client := Option.some.inj (hcaller.symm.trans (hi ▸ hclient))
      exact hafter.asked rfl
    · exact hafter

/-- The badges are right after a reading exactly when its receipt fits. -/
theorem badgesRight_reading_iff (h : Settled system) (hread : IsReading system reader c system') :
    BadgesRight system' ↔ ReceiptFits system reader c := by
  have hcounts := hread.reset.storedCount_eq h.ids
  constructor
  · intro hright client hmem hother hroom hlists count hcount
    obtain ⟨client', hmem', hpage⟩ := hread.exists_after hmem
    -- the badge is zero now, and the stored counter is what it was
    obtain ⟨badge, hbadge, hfst⟩ := List.mem_map.mp ((hpage.elsewhere.listed _).mpr hlists)
    have hshown : (c.toString, badge.2) ∈ badges client'.state := hfst ▸ hbadge
    have hstored : storedCount system'.db c client'.socket.user = some count := by
      rw [hpage.socket, hcounts, if_neg fun heq => hother heq.2]
      exact hcount
    rw [← hright client' hmem' c count badge.2 hstored hshown]
    exact hpage.zero (.inr hroom) badge.2 hshown
  · intro hfits client' hmem'
    obtain ⟨client, hmem, hpage⟩ := hread.exists_before hmem'
    refine (h.badges client hmem).update (c := c) ?_ hpage.socket hpage.elsewhere ?_
    · intro c' hne u
      rw [hcounts, if_neg fun heq => hne heq.1]
    · intro count hcount
      -- with the receipt the page shows zero, without it the stored counter
      by_cases hgets : GetsReceipt client reader c
      · intro n hn
        rw [hpage.zero hgets n hn]
        rw [hcounts] at hcount
        split at hcount
        · exact Option.some.inj hcount
        · rename_i hne
          have hother : client.socket.user ≠ reader := fun heq => hne ⟨rfl, heq⟩
          have hlists : Lists client c := (hpage.elsewhere.listed _).mp (List.mem_map_of_mem hn)
          exact (hfits client hmem hother (hgets.resolve_left hother) hlists count hcount).symm
      · exact hpage.stored hgets count hcount

/-- The badges are right after a reading without events exactly when nothing was unread. -/
theorem badgesRight_silent_iff (h : Settled system) (hreset : CountReset system.db c reader db) :
    BadgesRight { system with db := db } ↔ SilentReadFits system reader c := by
  have hcounts := hreset.storedCount_eq h.ids
  constructor
  · intro hright client hmem hreader hlists count hcount
    obtain ⟨badge, hbadge, hfst⟩ := List.mem_map.mp hlists
    have hshown : (c.toString, badge.2) ∈ badges client.state := hfst ▸ hbadge
    have hzero : storedCount db c client.socket.user = some 0 := by
      rw [hcounts, if_pos ⟨rfl, hreader⟩]
    -- the page still shows what was stored before, and zero is stored now
    rw [← h.badges client hmem c count badge.2 (hreader ▸ hcount) hshown]
    exact hright client hmem c 0 badge.2 hzero hshown
  · intro hfits client hmem
    refine (h.badges client hmem).update (c := c) ?_ rfl (.refl _ _) ?_
    · intro c' hne u
      show storedCount db c' u = _
      rw [hcounts, if_neg fun heq => hne heq.1]
    · intro count hcount n hn
      have hcount' : storedCount db c client.socket.user = some count := hcount
      rw [hcounts] at hcount'
      split at hcount'
      · -- the reader's own page shows what was stored before
        rename_i hreader
        obtain ⟨p, hfound, -⟩ := hreset
        have hbefore : storedCount system.db c reader = some p.unreadCount := by
          rw [storedCount, hfound]
          rfl
        rw [h.badges client hmem c _ n (hreader.2 ▸ hbefore) hn,
          hfits client hmem hreader.2 (List.mem_map_of_mem hn) _ hbefore]
        exact Option.some.inj hcount'
      · exact h.badges client hmem c count n hcount' hn

end Reading

/-! ## Rooms -/

section Rooms

variable {system : ClientSystem}

/-- A change of one socket that keeps its user and its user's room. -/
theorem Settled.modify (h : Settled system) (index : Nat) (change : ChatSocket → ChatSocket)
    (huser : ∀ socket, (change socket).user = socket.user)
    (hroom : ∀ client, InOwnRoom client → InOwnRoom { client with socket := change client.socket }) :
    Settled { system with
      clients := system.clients.modify index fun client =>
        { client with socket := change client.socket } } where
  ids := h.ids
  rooms := Records.forall_mem_modify h.rooms fun old hold =>
    hroom old (h.rooms old (List.mem_of_getElem? hold))
  badges := by
    refine Records.forall_mem_modify h.badges fun old hold => ?_
    intro c count n hcount hn
    rw [huser] at hcount
    exact h.badges old (List.mem_of_getElem? hold) c count n hcount hn

end Rooms

/-! ## Runs -/

section Runs

variable {env : BackendEnv} {system system' : ClientSystem} {operation : ClientOperation}

/-- The condition on an operation: whoever gets a read receipt of somebody else for a conversation
    that the page shows has nothing unread there, and a reading over HTTP, which has no events, is
    one of nothing or of a conversation that no page of the reader shows. -/
def ReadsInOrder (system : ClientSystem) : ClientOperation → Prop
  | .markConversationRead index c _ _ =>
    ∀ caller, system.clients[index]? = some caller → ReceiptFits system caller.socket.user c
  | .readOverHttp reader c _ => SilentReadFits system reader c
  | _ => True

/-- A message leaves the badges right. -/
theorem Settled.sendMessage (h : Settled system) {args : SendArgs} {c : ObjectId}
    (hc : ObjectId.ofString? args.conversationId = some c) {inputs : List CallInput}
    {input : EmitInput} (hstep : handleSendMessage env system args inputs input = some system') :
    Settled system' := by
  unfold handleSendMessage at hstep
  split at hstep
  · rename_i db args' message restored hrun
    obtain ⟨hkeeps, rfl⟩ := keepsOthers_send h.ids hc hrun
    exact settled_emitMessage h hkeeps hstep
  · cases hstep

/-- An answer of the chat bot leaves the badges right. -/
theorem Settled.sendAiBotMessage (h : Settled system) {args : AiBotArgs} {c : ObjectId}
    (hc : ObjectId.ofString? args.conversationId = some c) {inputs : List CallInput}
    {input : EmitInput} (hstep : Frontend.sendAiBotMessage env system args inputs input =
      some system') : Settled system' := by
  unfold Frontend.sendAiBotMessage at hstep
  split at hstep
  · rename_i db message hrun
    obtain ⟨hkeeps, rfl⟩ := keepsOthers_aiBot hc hrun
    exact settled_emitMessage h hkeeps hstep
  · cases hstep

/-- What an operation makes of the system: the records and the rooms stay in order, and the badges
    are right exactly when its condition is met. -/
theorem clientStep_spec (h : Settled system) (hstep : clientStep env system operation = some system') :
    (system'.db.participants.map ConversationParticipant.id).Nodup ∧
      (∀ client ∈ system'.clients, InOwnRoom client) ∧
      (BadgesRight system' ↔ ReadsInOrder system operation) := by
  cases operation with
  | sendMessage c sender content attachmentId isAICommand inputs input =>
    have hsettled := h.sendMessage (ObjectId.ofString?_toString c) hstep
    exact ⟨hsettled.ids, hsettled.rooms, iff_of_true hsettled.badges trivial⟩
  | sendAiBotMessage c requester content inputs input =>
    have hsettled := h.sendAiBotMessage (ObjectId.ofString?_toString c) hstep
    exact ⟨hsettled.ids, hsettled.rooms, iff_of_true hsettled.badges trivial⟩
  | markConversationRead index c inputs input =>
    obtain ⟨caller, hcaller, hread⟩ := handleMarkConversationRead_spec h hstep
    refine ⟨hread.reset.ids ▸ h.ids, ?_, ?_⟩
    · intro client' hmem' user
      obtain ⟨client, hmem, hpage⟩ := hread.exists_before hmem'
      rw [hpage.socket]
      exact h.rooms client hmem user
    · rw [badgesRight_reading_iff h hread]
      constructor
      · intro hfits caller' hcaller'
        obtain rfl : caller = caller' := Option.some.inj (hcaller.symm.trans hcaller')
        exact hfits
      · exact fun hok => hok caller hcaller
  | readOverHttp reader c inputs =>
    obtain ⟨⟨db, last⟩, hread, rfl⟩ := Option.map_eq_some_iff.mp hstep
    -- over HTTP the counter is reset and nobody is told
    obtain ⟨args', hrun⟩ := markRead_eq_some hread
    have hreset := countReset_markRead (ObjectId.ofString?_toString c)
      (ObjectId.ofString?_toString reader) (.inl rfl) hrun
    exact ⟨hreset.ids ▸ h.ids, h.rooms, badgesRight_silent_iff h hreset⟩
  | joinConversation index c =>
    simp only [clientStep] at hstep
    split at hstep
    · cases hstep
    · split at hstep
      · cases hstep
      · cases hstep
        have hsettled := h.modify index
          (fun socket =>
            (socket.join (getConversationRoom c.toString)).markConversationJoined c.toString)
          (fun socket => by rw [user_markConversationJoined, user_join])
          (fun client hroom => inOwnRoom_join hroom c.toString)
        exact ⟨hsettled.ids, hsettled.rooms, iff_of_true hsettled.badges trivial⟩
  | leaveConversation index c =>
    cases hstep
    have hsettled := h.modify index (·.leaveConversation c.toString) (fun _ => rfl)
      (fun client hroom => inOwnRoom_leave hroom c.toString)
    exact ⟨hsettled.ids, hsettled.rooms, iff_of_true hsettled.badges trivial⟩

/-- **The badges of all pages are right after every operation of a run exactly when its readings are
    in order**: for any messages, answers of the chat bot and readings of any members, whichever
    rooms the sockets are in. -/
theorem badgesRight_iff_readsInOrder {operations : List ClientOperation} (h0 : Settled system)
    (hrun : run (clientStep env) system operations = some system') :
    Along (clientStep env) BadgesRight system operations ↔
      Guarded (clientStep env) ReadsInOrder system operations := by
  refine along_iff_guarded (fun _ h => h.badges) (fun before operation after h hok hstep => ?_)
    (fun before operation after h hno hstep => ?_) h0 hrun
  · obtain ⟨hids, hrooms, hiff⟩ := clientStep_spec h hstep
    exact ⟨hids, hrooms, hiff.mpr hok⟩
  · exact mt (clientStep_spec h hstep).2.2.mp hno

end Runs

/-! ## Two members of a group -/

/-- The page of a user that shows the group and is in its room. -/
def groupPage (user : ObjectId) : ChatClient where
  socket := ((ChatSocket.handleConnection user).join
    (getConversationRoom (digitId 3).toString)).markConversationJoined (digitId 3).toString
  state :=
    { ChatState.start with
      conversations := [⟨(digitId 3).toString, none, none, 0, false⟩]
      selectedConversationId := some (digitId 3).toString }

/-- The new group with the pages of its two members. -/
def groupClients : ClientSystem := ⟨newGroupDb, [groupPage (digitId 1), groupPage (digitId 2)]⟩

theorem settled_groupClients : Settled groupClients where
  ids := by decide
  rooms := by
    intro client hmem
    -- each page has only just joined the room
    have hpage : ∀ user, InOwnRoom (groupPage user) := fun user =>
      inOwnRoom_join (inOwnRoom_handleConnection user (groupPage user).state) (digitId 3).toString
    simp only [groupClients, List.mem_cons, List.not_mem_nil, or_false] at hmem
    rcases hmem with rfl | rfl
    · exact hpage _
    · exact hpage _
  badges := by
    -- nothing is unread, and the badge of the one conversation is zero
    have hpage : ∀ user, storedCount newGroupDb (digitId 3) user = some 0 →
        BadgesMatch newGroupDb (groupPage user) := by
      intro user hzero c count n hcount hn
      obtain ⟨hid, rfl⟩ := Prod.mk.inj (List.mem_singleton.mp hn)
      rw [ObjectId.toString_injective hid] at hcount
      exact Option.some.inj (hzero.symm.trans hcount)
    intro client hmem
    simp only [groupClients, List.mem_cons, List.not_mem_nil, or_false] at hmem
    rcases hmem with rfl | rfl
    · exact hpage _ (by decide)
    · exact hpage _ (by decide)

/-- What the environment gives where nothing is encrypted. -/
def plainEmit : EmitInput :=
  let display : DisplayInput := ⟨(plainInput 0 (digitId 0) []).exchange, ⟨1⟩, ⟨none, none⟩⟩
  ⟨display, fun _ => display, 0⟩

/-- User 1 sends a message. -/
def sendHello : ClientOperation :=
  .sendMessage (digitId 3) (digitId 1) (js "hello") [] false helloInputs plainEmit

/-- The client reads the group. -/
def readGroupFrom (client : Nat) : ClientOperation :=
  .markConversationRead client (digitId 3)
    ((List.range 5).map fun i => plainInput (20 + i) (digitId 0) []) plainEmit

/-- User 1 sends a message, and user 2 reads it. -/
theorem badgesRight_after_reading :
    ∃ system, run (clientStep plainEnv) groupClients [sendHello, readGroupFrom 1] = some system ∧
      (Along (clientStep plainEnv) BadgesRight groupClients [sendHello, readGroupFrom 1] ↔
        Guarded (clientStep plainEnv) ReadsInOrder groupClients [sendHello, readGroupFrom 1]) := by
  obtain ⟨system, hrun⟩ :
      ∃ system, run (clientStep plainEnv) groupClients [sendHello, readGroupFrom 1] = some system :=
    ⟨_, rfl⟩
  exact ⟨system, hrun, badgesRight_iff_readsInOrder settled_groupClients hrun⟩

/-- User 1 sends a message and reads the group: the badge of user 2, who has read nothing, becomes
    zero. -/
theorem badge_zeroed_by_sender :
    Settled groupClients ∧
      ∃ system, run (clientStep plainEnv) groupClients [sendHello, readGroupFrom 0] = some system ∧
        ¬ BadgesRight system := by
  refine ⟨settled_groupClients, ?_⟩
  -- the run is evaluated: one message is unread, and both badges are zero
  have hrun : (run (clientStep plainEnv) groupClients [sendHello, readGroupFrom 0]).map (fun system =>
      (storedCount system.db (digitId 3) (digitId 2),
        system.clients.map fun client => (client.socket.user, badges client.state))) =
      some (some 1, [(digitId 1, [((digitId 3).toString, 0)]),
        (digitId 2, [((digitId 3).toString, 0)])]) := by
    rfl
  obtain ⟨system, hsystem, hpages⟩ := Option.map_eq_some_iff.mp hrun
  obtain ⟨hcount, hclients⟩ := Prod.mk.inj hpages
  refine ⟨system, hsystem, fun h => ?_⟩
  obtain ⟨client, hmem, hclient⟩ : ∃ client ∈ system.clients,
      (client.socket.user, badges client.state) = (digitId 2, [((digitId 3).toString, 0)]) := by
    apply List.mem_map.mp
    rw [hclients]
    exact List.mem_cons_of_mem _ List.mem_cons_self
  obtain ⟨huser, hbadges⟩ := Prod.mk.inj hclient
  -- the badge that is shown is not the stored count
  have hshown : ((digitId 3).toString, 0) ∈ badges client.state := by
    rw [hbadges]
    exact List.mem_cons_self
  exact absurd (h client hmem (digitId 3) 1 0 (huser ▸ hcount) hshown) (by decide)

end ChatSC.Spec
