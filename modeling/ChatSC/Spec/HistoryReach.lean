import ChatSC.ForStd.PageWindows
import ChatSC.Spec.SettledPage

/-!
# How far back a page reaches

`hasMoreMessages` says whether scrolling up may bring older messages.  Once it is `false` nothing asks
for them any more, so the oldest message shown should be the oldest one of the conversation.  A read
receipt puts the newest page in the place of everything shown and leaves `hasMoreMessages` as it is:
`reachesOldest_iff_reachKept` says that this is what breaks it, in a conversation of more than a page.
-/

namespace ChatSC.Spec

open Backend Frontend JsString Pagination Transition

/-! ## Pages and the messages of the server -/

/-- A page, and what the server has. -/
structure ServedPage where
  db : ChatDb
  page : ChatPage

/-- What happens, each time with the answer to the request that it makes, or its failure. -/
inductive HistoryEvent where
  | select (conversation : ObjectId) (answer : Option (ObjectId → DisplayInput))
  | scroll (answer : Option (ObjectId → DisplayInput))
  /-- a message is stored, and `message_delivered` comes to the page or not -/
  | sent (message : Backend.Message) (delivery : Option RealtimeMessagePayload)
  /-- `message_delivered` for a message that was stored before -/
  | delivered (message : RealtimeMessagePayload)
  /-- `conversation_read_updated`, whoever has read -/
  | read (conversation : ObjectId) (answer : Option (ObjectId → DisplayInput))

/-- A message is delivered with its id, its conversation and its time. -/
def Describes (payload : RealtimeMessagePayload) (message : Backend.Message) : Prop :=
  payload.messageId = message.id.toString ∧
    payload.conversationId = message.conversationId.toString ∧ payload.sentAt = message.sentAt

instance (payload : RealtimeMessagePayload) (message : Backend.Message) :
    Decidable (Describes payload message) := inferInstanceAs (Decidable (_ ∧ _ ∧ _))

/-- A message has an id, and in its conversation a time, that no stored message has. -/
def NewTo (db : ChatDb) (message : Backend.Message) : Prop :=
  message.id ∉ db.messages.map Backend.Message.id ∧
    message.sentAt ∉ (conversationMessages db message.conversationId).map Backend.Message.sentAt

instance (db : ChatDb) (message : Backend.Message) : Decidable (NewTo db message) :=
  inferInstanceAs (Decidable (_ ∧ _))

/-- Messages are stored once, and only stored messages are delivered. -/
def Possible (db : ChatDb) : HistoryEvent → Prop
  | .sent message delivery => NewTo db message ∧ ∀ payload ∈ delivery, Describes payload message
  | .delivered payload => ∃ message ∈ db.messages, Describes payload message
  | .select _ _ | .scroll _ | .read _ _ => True

instance (db : ChatDb) : (event : HistoryEvent) → Decidable (Possible db event)
  | .sent message delivery =>
    inferInstanceAs (Decidable (NewTo db message ∧ ∀ payload ∈ delivery, Describes payload message))
  | .delivered payload =>
    inferInstanceAs (Decidable (∃ message ∈ db.messages, Describes payload message))
  | .select _ _ | .scroll _ | .read _ _ => isTrue trivial

/-- What the server has afterwards. -/
def storedAfter (db : ChatDb) : HistoryEvent → ChatDb
  | .sent message _ => db.createMessage message
  | .select _ _ | .scroll _ | .delivered _ | .read _ _ => db

/-- What happens at the page. -/
def pageEvents (served : ServedPage) : HistoryEvent → List PageEvent
  | .select conversation answer =>
    .select conversation :: fetchEvents served.page.fetches.length served.db answer
  | .scroll answer =>
    if (loadMoreMessages served.page.rendered).isSome then
      .scroll :: fetchEvents served.page.fetches.length served.db answer
    else [.scroll, .render]
  | .sent _ (some payload) | .delivered payload => [.deliver payload, .render]
  | .sent _ none => []
  | .read conversation answer =>
    if served.page.rendered.selectedConversationId = some conversation.toString then
      .read conversation.toString :: fetchEvents served.page.fetches.length served.db answer
    else [.read conversation.toString, .render]

/-- A step of the page and the server; `none` when it cannot happen. -/
def historyStep (env : BackendEnv) (served : ServedPage) (event : HistoryEvent) :
    Option ServedPage :=
  if Possible served.db event then
    (run (pageStep env) served.page (pageEvents served event)).map fun page =>
      ⟨storedAfter served.db event, page⟩
  else none

/-! ## What is to hold -/

/-- What identifies a message that is shown. -/
def shownEntry (message : Frontend.Message) : JsString × Date := (message.id, message.sentAt)

/-- What identifies a message that is stored. -/
def storedEntry (message : Backend.Message) : JsString × Date :=
  (message.id.toString, message.sentAt)

def shownEntries (state : ChatState) : List (JsString × Date) := state.messages.map shownEntry

def storedEntries (db : ChatDb) (conversation : ObjectId) : List (JsString × Date) :=
  (conversationMessages db conversation).map storedEntry

/-- The messages have different ids, and different times in a conversation. -/
structure DistinctTimes (db : ChatDb) : Prop where
  ids : (db.messages.map Backend.Message.id).Nodup
  times : ∀ conversation,
    ((conversationMessages db conversation).map Backend.Message.sentAt).Nodup

/-- When there is no more to load, the oldest message shown is the oldest one of the selected
    conversation. -/
def ReachesOldest (served : ServedPage) : Prop :=
  ∀ conversation, served.page.state.selectedConversationId = some conversation.toString →
    served.page.state.hasMoreMessages = false →
    (shownEntries served.page.state).argmin Prod.snd =
      (storedEntries served.db conversation).argmin Prod.snd

/-- While there is no more to load: a read receipt of the selected conversation, answered, comes in a
    conversation of at most a page; and a message that is stored there without being delivered is not
    older than everything shown. -/
def ReachKept (served : ServedPage) : HistoryEvent → Prop
  | .read conversation (some _) =>
    served.page.state.selectedConversationId = some conversation.toString →
    served.page.state.hasMoreMessages = false →
    (conversationMessages served.db conversation).length ≤ 10
  | .sent message none =>
    served.page.state.selectedConversationId = some message.conversationId.toString →
    served.page.state.hasMoreMessages = false →
    ∃ shown ∈ served.page.state.messages, shown.sentAt ≤ message.sentAt
  | .read _ none | .sent _ (some _) | .select _ _ | .scroll _ | .delivered _ => True

/-! ## The state after an event -/

/-- What the state of the page is afterwards; `none` while a message cannot be displayed. -/
def settled (env : BackendEnv) (db : ChatDb) (state : ChatState) : HistoryEvent → Option ChatState
  | .select conversation answer =>
    afterAnswer env db .selectConversation conversation
      (state.selectConversation conversation.toString) answer
  | .scroll answer =>
    match loadMoreMessages state with
    | some (conversation, before) =>
      afterAnswer env db (.loadMoreMessages before) conversation (state.setLoading true) answer
    | none => some state
  | .sent _ (some payload) | .delivered payload => some (state.handleIncomingMessage payload)
  | .sent _ none => some state
  | .read conversation answer =>
    if state.selectedConversationId = some conversation.toString then
      afterAnswer env db .handleConversationRead conversation
        (state.handleConversationRead conversation.toString) answer
    else some (state.handleConversationRead conversation.toString)

/-- A page that has rendered its state. -/
def Rendered (page : ChatPage) : Prop := page.rendered = page.state

section Settled

variable {env : BackendEnv} {served served' : ServedPage} {event : HistoryEvent}

variable (env event) in
/-- The events at the page, one after the other. -/
theorem run_pageEvents (hids : (served.db.messages.map Backend.Message.id).Nodup)
    (hrendered : Rendered served.page) :
    ∃ fetches, run (pageStep env) served.page (pageEvents served event) =
      (settled env served.db served.page.state event).map fun state => ⟨state, state, fetches⟩ := by
  obtain ⟨db, ⟨state, rendered, fetches⟩⟩ := served
  obtain rfl : rendered = state := hrendered
  cases event with
  | select conversation answer =>
    exact ⟨_, run_fetchEvents env hids ⟨rendered.selectConversation conversation.toString, rendered,
      fetches⟩ .selectConversation conversation answer⟩
  | scroll answer =>
    simp only [pageEvents, settled]
    cases hmore : loadMoreMessages rendered with
    | none =>
      -- nothing is asked for, and nothing changes
      refine ⟨fetches, ?_⟩
      simp [run, pageStep, hmore]
    | some asked =>
      refine ⟨_, Eq.trans ?_ (run_fetchEvents env hids ⟨rendered.setLoading true, rendered, fetches⟩
        (.loadMoreMessages asked.2) asked.1 answer)⟩
      simp [run, pageStep, hmore, ChatPage.setState]
  | sent message delivery =>
    cases delivery with
    | none => exact ⟨fetches, rfl⟩
    | some payload => exact ⟨fetches, rfl⟩
  | delivered payload => exact ⟨fetches, rfl⟩
  | read conversation answer =>
    by_cases hselected : rendered.selectedConversationId = some conversation.toString
    · simp only [pageEvents, settled, if_pos hselected]
      refine ⟨_, Eq.trans ?_ (run_fetchEvents env hids
        ⟨rendered.handleConversationRead conversation.toString, rendered, fetches⟩
        .handleConversationRead conversation answer)⟩
      simp [run, pageStep, hselected, ChatPage.setState]
    · refine ⟨fetches, ?_⟩
      simp [pageEvents, settled, run, pageStep, hselected, ChatPage.setState]

/-- What a step does. -/
theorem historyStep_spec (hids : (served.db.messages.map Backend.Message.id).Nodup)
    (hrendered : Rendered served.page) (hstep : historyStep env served event = some served') :
    Possible served.db event ∧ served'.db = storedAfter served.db event ∧ Rendered served'.page ∧
      settled env served.db served.page.state event = some served'.page.state := by
  unfold historyStep at hstep
  split at hstep
  · rename_i hpossible
    obtain ⟨fetches, hrun⟩ := run_pageEvents env event hids hrendered
    rw [hrun] at hstep
    obtain ⟨page, hpage, rfl⟩ := Option.map_eq_some_iff.mp hstep
    obtain ⟨state, hstate, rfl⟩ := Option.map_eq_some_iff.mp hpage
    exact ⟨hpossible, rfl, rfl, hstate⟩
  · cases hstep

end Settled

/-! ## What is shown of the conversation -/

/-- What the selected conversation has among the messages that are shown. -/
def ShowsStored (db : ChatDb) (state : ChatState) : Prop :=
  ∀ conversation, state.selectedConversationId = some conversation.toString →
    ∀ entry ∈ shownEntries state, entry ∈ storedEntries db conversation

/-- When there is no more to load, nothing is stored before everything that is shown. -/
def ReachesEnd (db : ChatDb) (state : ChatState) : Prop :=
  ∀ conversation, state.selectedConversationId = some conversation.toString →
    state.hasMoreMessages = false →
    Reached Prod.snd (shownEntries state) (storedEntries db conversation)

section Entries

variable {env : BackendEnv} {db : ChatDb} {state : ChatState} {conversation : ObjectId}

theorem keys_storedEntries (db : ChatDb) (conversation : ObjectId) :
    (storedEntries db conversation).map Prod.snd =
      (conversationMessages db conversation).map Backend.Message.sentAt := by
  rw [storedEntries, List.map_map]
  rfl

theorem length_storedEntries (db : ChatDb) (conversation : ObjectId) :
    (storedEntries db conversation).length = (conversationMessages db conversation).length :=
  List.length_map storedEntry

/-- In a conversation with distinct times, an entry is known by its time. -/
theorem DistinctTimes.eq_of_snd_eq (h : DistinctTimes db) (conversation : ObjectId) :
    ∀ x ∈ storedEntries db conversation, ∀ y ∈ storedEntries db conversation, x.2 = y.2 → x = y := by
  have hnodup : ((storedEntries db conversation).map Prod.snd).Nodup := by
    rw [keys_storedEntries]
    exact h.times conversation
  exact fun x hx y hy hxy => List.inj_on_of_nodup_map hnodup hx hy hxy

/-- The oldest message shown is the oldest one exactly when nothing is before what is shown. -/
theorem reachesOldest_iff {served : ServedPage} (hdb : DistinctTimes served.db)
    (hshown : ShowsStored served.db served.page.state) :
    ReachesOldest served ↔ ReachesEnd served.db served.page.state := by
  refine forall₃_congr fun conversation hselected _ => ?_
  exact argmin_eq_iff_reached (hshown conversation hselected) (hdb.eq_of_snd_eq conversation)

theorem kept_entry : Kept shownEntry storedEntry := by
  intro payload message content code h
  simp only [shownEntry, Message.ofPayload, storedEntry, h]

/-- The entries of an answer are a page of those stored. -/
theorem entries_getMessages {input : ObjectId → DisplayInput} {before : Option Date}
    {payloads : List ChatMessagePayload}
    (h : getMessages env input db conversation before 10 = some payloads) :
    (payloads.map Message.ofPayload).map shownEntry =
      (page Prod.snd 10 (storedEntries db conversation) before).reverse := by
  have hkey : ∀ message : Backend.Message, (storedEntry message).2 = message.sentAt := fun _ => rfl
  rw [map_ofPayload_getMessages kept_entry h,
    findHistory_eq db conversation before (by omega) (by omega), List.map_reverse, storedEntries,
    page_map storedEntry hkey]

theorem length_getMessages {input : ObjectId → DisplayInput} {before : Option Date}
    {payloads : List ChatMessagePayload}
    (h : getMessages env input db conversation before 10 = some payloads) :
    (payloads.map Message.ofPayload).length =
      (page Prod.snd 10 (storedEntries db conversation) before).length := by
  rw [← List.length_map shownEntry, entries_getMessages h, List.length_reverse]

end Entries

/-! ## Steps -/

section Steps

variable {env : BackendEnv} {db : ChatDb} {state state' : ChatState} {conversation : ObjectId}
  {input : ObjectId → DisplayInput} {payloads : List ChatMessagePayload}

/-- The only conversation that is selected. -/
theorem eq_of_selected {conversation' : ObjectId}
    (h : state.selectedConversationId = some conversation.toString)
    (h' : state.selectedConversationId = some conversation'.toString) :
    conversation' = conversation :=
  ObjectId.toString_injective (Option.some.inj (h'.symm.trans h))

/-- Older messages are asked for in the selected conversation. -/
theorem eq_of_asked {conversation' : ObjectId}
    (h : state.selectedConversationId.bind ObjectId.ofString? = some conversation)
    (h' : state.selectedConversationId = some conversation'.toString) :
    conversation' = conversation := by
  rw [h', Option.bind_some, ObjectId.ofString?_toString] at h
  exact Option.some.inj h

/-- The newest page in the place of what was shown. -/
theorem showsStored_newest (h : getMessages env input db conversation none 10 = some payloads)
    (hselected : state'.selectedConversationId = some conversation.toString)
    (hmessages : state'.messages = payloads.map Message.ofPayload) : ShowsStored db state' := by
  intro conversation' hselected' entry hentry
  obtain rfl := eq_of_selected hselected hselected'
  rw [shownEntries, hmessages, entries_getMessages h, List.mem_reverse] at hentry
  exact (mem_behind.mp (mem_of_mem_page hentry)).1

/-- It reaches the end when it is not full. -/
theorem reachesEnd_showHistory (h : getMessages env input db conversation none 10 = some payloads)
    (hselected : state.selectedConversationId = some conversation.toString) :
    ReachesEnd db (state.showHistory (payloads.map Message.ofPayload)) := by
  intro conversation' hselected' hmore
  obtain rfl := eq_of_selected hselected hselected'
  have hlt : (page Prod.snd 10 (storedEntries db conversation') none).length < 10 := by
    rw [← length_getMessages h]
    exact Nat.lt_of_not_le (of_decide_eq_false hmore)
  refine (reached_of_length_lt hlt).of_subset fun entry hentry => ?_
  show entry ∈ (payloads.map Message.ofPayload).map shownEntry
  rw [entries_getMessages h]
  exact List.mem_reverse.mpr hentry

/-- As an answer to a read receipt, it reaches the end when there is no other page. -/
theorem reachesEnd_replaceMessages (hdb : DistinctTimes db)
    (h : getMessages env input db conversation none 10 = some payloads)
    (hselected : state.selectedConversationId = some conversation.toString) :
    ReachesEnd db (state.replaceMessages (payloads.map Message.ofPayload)) ↔
      (state.hasMoreMessages = false → (conversationMessages db conversation).length ≤ 10) := by
  have hentries : shownEntries (state.replaceMessages (payloads.map Message.ofPayload)) =
      (page Prod.snd 10 (storedEntries db conversation) none).reverse := entries_getMessages h
  have hreached : Reached Prod.snd (page Prod.snd 10 (storedEntries db conversation) none).reverse
      (storedEntries db conversation) ↔ (conversationMessages db conversation).length ≤ 10 := by
    have hkeys : ((storedEntries db conversation).map Prod.snd).Nodup := by
      rw [keys_storedEntries]
      exact hdb.times conversation
    rw [← length_storedEntries, ← reached_page_iff hkeys]
    simp only [Reached, List.mem_reverse]
  constructor
  · intro hend hmore
    -- `hasMoreMessages` is as it was before the receipt
    have hshown := hend conversation hselected hmore
    rw [hentries] at hshown
    exact hreached.mp hshown
  · intro hlength conversation' hselected' hmore
    obtain rfl := eq_of_selected hselected hselected'
    rw [hentries]
    exact hreached.mpr (hlength hmore)

theorem shownEntries_showOlder (state : ChatState) (older : List Frontend.Message) :
    shownEntries (state.showOlder older) = older.map shownEntry ++ shownEntries state :=
  List.map_append

/-- Older messages before what is shown. -/
theorem showsStored_showOlder {oldest : Frontend.Message}
    (h : getMessages env input db conversation (some oldest.sentAt) 10 = some payloads)
    (hasked : state.selectedConversationId.bind ObjectId.ofString? = some conversation)
    (hshown : ShowsStored db state) :
    ShowsStored db (state.showOlder (payloads.map Message.ofPayload)) := by
  intro conversation' hselected entry hentry
  obtain rfl := eq_of_asked hasked hselected
  rw [shownEntries_showOlder, entries_getMessages h, List.mem_append, List.mem_reverse] at hentry
  rcases hentry with hentry | hentry
  · exact (mem_behind.mp (mem_of_mem_page hentry)).1
  · exact hshown conversation' hselected entry hentry

theorem reachesEnd_showOlder {oldest : Frontend.Message} (holdest : oldest ∈ state.messages)
    (h : getMessages env input db conversation (some oldest.sentAt) 10 = some payloads)
    (hasked : state.selectedConversationId.bind ObjectId.ofString? = some conversation) :
    ReachesEnd db (state.showOlder (payloads.map Message.ofPayload)) := by
  intro conversation' hselected hmore
  obtain rfl := eq_of_asked hasked hselected
  have hlt :
      (page Prod.snd 10 (storedEntries db conversation') (some oldest.sentAt)).length < 10 := by
    rw [← length_getMessages h]
    exact Nat.lt_of_not_le (of_decide_eq_false hmore)
  rw [shownEntries_showOlder]
  -- what was shown reaches the cursor, the page that is not full reaches the end behind it
  refine reached_append_of_length_lt (List.mem_map_of_mem holdest) hlt fun entry hentry => ?_
  rw [entries_getMessages h]
  exact List.mem_reverse.mpr hentry

/-- What is asked for. -/
theorem loadMoreMessages_eq_some {before : Date}
    (h : loadMoreMessages state = some (conversation, before)) :
    state.selectedConversationId.bind ObjectId.ofString? = some conversation ∧
      ∃ oldest, oldest ∈ state.messages ∧ oldest.sentAt = before := by
  unfold loadMoreMessages at h
  split at h
  · split at h
    · rename_i hasked hmessages
      cases h
      exact ⟨hasked, _, hmessages ▸ List.mem_cons_self, rfl⟩
    · cases h
  · cases h

/-- What is shown after a delivery. -/
theorem mem_handleIncomingMessage {payload : RealtimeMessagePayload}
    (hselected : state.selectedConversationId = some payload.conversationId)
    (entry : JsString × Date) :
    (entry ∈ shownEntries state → entry ∈ shownEntries (state.handleIncomingMessage payload)) ∧
      (entry ∈ shownEntries (state.handleIncomingMessage payload) →
        entry ∈ shownEntries state ∨ entry = (payload.messageId, payload.sentAt)) ∧
      (payload.messageId ∉ state.messages.map Frontend.Message.id →
        (payload.messageId, payload.sentAt) ∈
          shownEntries (state.handleIncomingMessage payload)) := by
  have hmessages : (state.handleIncomingMessage payload).messages =
      upsertMessage state.messages (mapRealtimeMessage payload) := if_pos hselected
  rw [shownEntries, shownEntries, hmessages]
  -- a message whose id is shown already is dropped
  by_cases hmem : payload.messageId ∈ state.messages.map Frontend.Message.id
  · have hsame : upsertMessage state.messages (mapRealtimeMessage payload) = state.messages :=
      upsertMessage_of_mem hmem
    rw [hsame]
    exact ⟨id, .inl, absurd hmem⟩
  · have hperm : (upsertMessage state.messages (mapRealtimeMessage payload)).Perm
        (state.messages ++ [mapRealtimeMessage payload]) := perm_upsertMessage hmem
    have hentries (other : JsString × Date) :
        other ∈ (upsertMessage state.messages (mapRealtimeMessage payload)).map shownEntry ↔
          other ∈ state.messages.map shownEntry ∨ other = (payload.messageId, payload.sentAt) := by
      rw [(hperm.map shownEntry).mem_iff, List.map_append, List.mem_append, List.map_singleton,
        List.mem_singleton]
      rfl
    exact ⟨fun h => (hentries entry).mpr (.inl h), (hentries entry).mp,
      fun _ => (hentries _).mpr (.inr rfl)⟩

/-- A message of another conversation is not shown. -/
theorem messages_handleIncomingMessage_of_ne {payload : RealtimeMessagePayload}
    (hother : state.selectedConversationId ≠ some payload.conversationId) :
    (state.handleIncomingMessage payload).messages = state.messages := if_neg hother

/-! ### Messages that are stored -/

theorem conversationMessages_createMessage (db : ChatDb) (message : Backend.Message)
    (conversation : ObjectId) :
    conversationMessages (db.createMessage message) conversation =
      if message.conversationId = conversation then conversationMessages db conversation ++ [message]
      else conversationMessages db conversation := by
  rw [conversationMessages, ChatDb.createMessage, List.filter_append, List.filter_singleton]
  split
  · rename_i h
    simp [conversationMessages, h]
  · rename_i h
    simp [conversationMessages, h]

theorem storedEntries_createMessage (db : ChatDb) (message : Backend.Message)
    (conversation : ObjectId) :
    storedEntries (db.createMessage message) conversation =
      if message.conversationId = conversation then
        storedEntries db conversation ++ [storedEntry message]
      else storedEntries db conversation := by
  rw [storedEntries, conversationMessages_createMessage]
  split
  · rw [List.map_append]
    rfl
  · rfl

theorem DistinctTimes.createMessage (h : DistinctTimes db) {message : Backend.Message}
    (hnew : NewTo db message) : DistinctTimes (db.createMessage message) where
  ids := by
    rw [ChatDb.createMessage, List.map_append, List.nodup_append]
    refine ⟨h.ids, List.nodup_singleton _, fun id hid other hother heq => ?_⟩
    rw [List.mem_singleton.mp hother] at heq
    exact hnew.1 (heq ▸ hid)
  times := by
    intro conversation
    rw [conversationMessages_createMessage]
    split
    · rename_i hconversation
      rw [List.map_append, List.nodup_append]
      refine ⟨h.times conversation, List.nodup_singleton _, fun time htime other hother heq => ?_⟩
      rw [List.mem_singleton.mp hother] at heq
      exact hnew.2 (hconversation ▸ heq ▸ htime)
    · exact h.times conversation

theorem ShowsStored.createMessage (h : ShowsStored db state) (message : Backend.Message) :
    ShowsStored (db.createMessage message) state := by
  intro conversation hselected entry hentry
  rw [storedEntries_createMessage]
  split
  · exact List.mem_append_left _ (h conversation hselected entry hentry)
  · exact h conversation hselected entry hentry

/-- A message that is stored and not delivered is reached if something that is shown is not newer. -/
theorem reachesEnd_createMessage (h : ReachesEnd db state) (message : Backend.Message) :
    ReachesEnd (db.createMessage message) state ↔
      (state.selectedConversationId = some message.conversationId.toString →
        state.hasMoreMessages = false →
        ∃ shown ∈ state.messages, shown.sentAt ≤ message.sentAt) := by
  have hshown : (∃ entry ∈ shownEntries state, entry.2 ≤ (storedEntry message).2) ↔
      ∃ shown ∈ state.messages, shown.sentAt ≤ message.sentAt := by
    simp [shownEntries, shownEntry, storedEntry]
  rw [← hshown]
  constructor
  · intro hend hselected hmore
    have hreached := hend message.conversationId hselected hmore
    -- what was reached before stays so; the new message is the last one stored
    rw [storedEntries_createMessage, if_pos rfl, reached_concat_iff] at hreached
    exact hreached.2
  · intro hnewest conversation hselected hmore
    rw [storedEntries_createMessage]
    split
    · rename_i hconversation
      subst hconversation
      exact reached_concat_iff.mpr ⟨h _ hselected hmore, hnewest hselected hmore⟩
    · exact h conversation hselected hmore

/-! ### Messages that are delivered -/

/-- A message that the server has is delivered. -/
theorem ShowsStored.deliver (h : ShowsStored db state) {payload : RealtimeMessagePayload}
    {message : Backend.Message} (hstored : message ∈ db.messages)
    (hdescribes : Describes payload message) :
    ShowsStored db (state.handleIncomingMessage payload) := by
  intro conversation hselected entry hentry
  by_cases hown : state.selectedConversationId = some payload.conversationId
  · rcases (mem_handleIncomingMessage hown entry).2.1 hentry with hold | rfl
    · exact h conversation hselected entry hold
    · obtain ⟨hid, hconversation, htime⟩ := hdescribes
      have heq : message.conversationId = conversation := by
        -- the selected conversation is the one of the message
        apply ObjectId.toString_injective
        rw [← hconversation]
        exact Option.some.inj (hown.symm.trans hselected)
      rw [hid, htime]
      exact List.mem_map_of_mem (List.mem_filter.mpr ⟨hstored, decide_eq_true heq⟩)
  · rw [shownEntries, messages_handleIncomingMessage_of_ne hown] at hentry
    exact h conversation hselected entry hentry

/-- What was reached stays so. -/
theorem ReachesEnd.deliver (h : ReachesEnd db state) (payload : RealtimeMessagePayload) :
    ReachesEnd db (state.handleIncomingMessage payload) := by
  intro conversation hselected hmore
  refine (h conversation hselected hmore).of_subset fun entry hentry => ?_
  by_cases hown : state.selectedConversationId = some payload.conversationId
  · exact (mem_handleIncomingMessage hown entry).1 hentry
  · rwa [shownEntries, messages_handleIncomingMessage_of_ne hown]

/-- A message that is stored and delivered is reached. -/
theorem reachesEnd_sent (hshows : ShowsStored db state) (h : ReachesEnd db state)
    {message : Backend.Message} {payload : RealtimeMessagePayload} (hnew : NewTo db message)
    (hdescribes : Describes payload message) :
    ReachesEnd (db.createMessage message) (state.handleIncomingMessage payload) := by
  obtain ⟨hid, hconversation, htime⟩ := hdescribes
  intro conversation hselected hmore
  have hold := h.deliver payload conversation hselected hmore
  rw [storedEntries_createMessage]
  -- a message of another conversation stores nothing in this one
  split
  · rename_i heq
    subst heq
    have hown : state.selectedConversationId = some payload.conversationId := by
      rw [hconversation]
      exact hselected
    -- its id is not shown yet, for it is not stored yet
    have hfresh : payload.messageId ∉ state.messages.map Frontend.Message.id := by
      intro hmem
      obtain ⟨shown, hshown, hshownId⟩ := List.mem_map.mp hmem
      obtain ⟨stored, hstored, hentry⟩ := List.mem_map.mp
        (hshows message.conversationId hselected (shownEntry shown) (List.mem_map_of_mem hshown))
      refine hnew.1 (List.mem_map.mpr ⟨stored, List.mem_of_mem_filter hstored, ?_⟩)
      apply ObjectId.toString_injective
      rw [← hid, ← hshownId]
      exact congrArg Prod.fst hentry
    have hentry := (mem_handleIncomingMessage hown (payload.messageId, payload.sentAt)).2.2 hfresh
    exact reached_concat_iff.mpr ⟨hold, _, hentry, le_of_eq htime⟩
  · exact hold

/-! ### One step -/

/-- A conversation that is opened, with its newest page or with nothing. -/
theorem settled_select {answer : Option (ObjectId → DisplayInput)}
    (hsettled : settled env db state (.select conversation answer) = some state') :
    ShowsStored db state' ∧ ReachesEnd db state' := by
  cases answer with
  | none =>
    cases hsettled
    exact ⟨fun _ _ entry hentry => absurd hentry List.not_mem_nil, fun _ _ hmore => nomatch hmore⟩
  | some input =>
    obtain ⟨payloads, hpayloads, rfl⟩ := Option.map_eq_some_iff.mp hsettled
    have hselected : (state.selectConversation conversation.toString).selectedConversationId =
        some conversation.toString := rfl
    exact ⟨showsStored_newest hpayloads rfl rfl, reachesEnd_showHistory hpayloads hselected⟩

/-- Scrolling up, with or without more to load. -/
theorem settled_scroll {answer : Option (ObjectId → DisplayInput)} (hshows : ShowsStored db state)
    (hreaches : ReachesEnd db state)
    (hsettled : settled env db state (.scroll answer) = some state') :
    ShowsStored db state' ∧ ReachesEnd db state' := by
  simp only [settled] at hsettled
  split at hsettled
  · rename_i conversation before hmore
    obtain ⟨hasked, oldest, holdest, rfl⟩ := loadMoreMessages_eq_some hmore
    cases answer with
    -- a request that fails leaves the messages as they are
    | none =>
      cases hsettled
      exact ⟨hshows, hreaches⟩
    | some input =>
      obtain ⟨payloads, hpayloads, rfl⟩ := Option.map_eq_some_iff.mp hsettled
      exact ⟨showsStored_showOlder hpayloads hasked hshows,
        reachesEnd_showOlder holdest hpayloads hasked⟩
  · cases hsettled
    exact ⟨hshows, hreaches⟩

/-- A read receipt; it matters when it is of the selected conversation, and answered. -/
theorem settled_read {answer : Option (ObjectId → DisplayInput)} (hdb : DistinctTimes db)
    (hshows : ShowsStored db state) (hreaches : ReachesEnd db state)
    (hsettled : settled env db state (.read conversation answer) = some state') :
    ShowsStored db state' ∧
      (ReachesEnd db state' ↔ (answer.isSome →
        state.selectedConversationId = some conversation.toString →
        state.hasMoreMessages = false → (conversationMessages db conversation).length ≤ 10)) := by
  simp only [settled] at hsettled
  split at hsettled
  · rename_i hselected
    cases answer with
    | none =>
      cases hsettled
      exact ⟨hshows, iff_of_true hreaches nofun⟩
    | some input =>
      -- the newest page takes the place of everything, `hasMoreMessages` stays
      obtain ⟨payloads, hpayloads, rfl⟩ := Option.map_eq_some_iff.mp hsettled
      have hread : (state.handleConversationRead conversation.toString).selectedConversationId =
          some conversation.toString := hselected
      refine ⟨showsStored_newest hpayloads hselected rfl, ?_⟩
      refine (reachesEnd_replaceMessages hdb hpayloads hread).trans ?_
      exact ⟨fun h _ _ => h, fun h => h rfl hselected⟩
  · rename_i hother
    cases hsettled
    exact ⟨hshows, iff_of_true hreaches fun _ hselected => absurd hselected hother⟩

/-- What is shown stays stored, and what becomes of the end depends on the event. -/
theorem settled_spec {served : ServedPage} {event : HistoryEvent}
    (hdb : DistinctTimes served.db) (hshows : ShowsStored served.db served.page.state)
    (hreaches : ReachesEnd served.db served.page.state) (hpossible : Possible served.db event)
    (hsettled : settled env served.db served.page.state event = some state') :
    DistinctTimes (storedAfter served.db event) ∧ ShowsStored (storedAfter served.db event) state' ∧
      (ReachesEnd (storedAfter served.db event) state' ↔ ReachKept served event) := by
  cases event with
  | select conversation answer =>
    obtain ⟨hshows', hreaches'⟩ := settled_select hsettled
    exact ⟨hdb, hshows', iff_of_true hreaches' trivial⟩
  | scroll answer =>
    obtain ⟨hshows', hreaches'⟩ := settled_scroll hshows hreaches hsettled
    exact ⟨hdb, hshows', iff_of_true hreaches' trivial⟩
  | sent message delivery =>
    have hnew : NewTo served.db message := hpossible.1
    cases delivery with
    | none =>
      -- stored, but nothing comes to the page
      cases hsettled
      exact ⟨hdb.createMessage hnew, hshows.createMessage message,
        reachesEnd_createMessage hreaches message⟩
    | some payload =>
      cases hsettled
      have hdescribes : Describes payload message := hpossible.2 payload rfl
      have hstored : message ∈ (served.db.createMessage message).messages :=
        List.mem_append_right _ List.mem_cons_self
      exact ⟨hdb.createMessage hnew,
        (hshows.createMessage message).deliver hstored hdescribes,
        iff_of_true (reachesEnd_sent hshows hreaches hnew hdescribes) trivial⟩
  | delivered payload =>
    cases hsettled
    obtain ⟨message, hstored, hdescribes⟩ := hpossible
    exact ⟨hdb, hshows.deliver hstored hdescribes, iff_of_true (hreaches.deliver payload) trivial⟩
  | read conversation answer =>
    obtain ⟨hshows', hreaches'⟩ := settled_read hdb hshows hreaches hsettled
    refine ⟨hdb, hshows', hreaches'.trans ?_⟩
    cases answer with
    | none => exact iff_of_true nofun trivial
    | some input => exact ⟨fun h => h rfl, fun h _ => h⟩

end Steps

/-! ## Runs -/

/-- What the steps keep, the end apart. -/
structure GoodHistory (served : ServedPage) : Prop where
  distinct : DistinctTimes served.db
  rendered : Rendered served.page
  shows : ShowsStored served.db served.page.state
  reaches : ReachesEnd served.db served.page.state

theorem history_step {env : BackendEnv} {served served' : ServedPage} {event : HistoryEvent}
    (h : GoodHistory served) (hstep : historyStep env served event = some served') :
    DistinctTimes served'.db ∧ Rendered served'.page ∧ ShowsStored served'.db served'.page.state ∧
      (ReachesEnd served'.db served'.page.state ↔ ReachKept served event) := by
  obtain ⟨hpossible, hdb, hrendered, hsettled⟩ := historyStep_spec h.distinct.ids h.rendered hstep
  rw [hdb]
  obtain ⟨hdistinct, hshows, hreaches⟩ :=
    settled_spec h.distinct h.shows h.reaches hpossible hsettled
  exact ⟨hdistinct, hrendered, hshows, hreaches⟩

/-- **History stays reachable exactly while no read receipt takes it away**: in every run of the page
    in which requests are answered at once, from any messages with distinct times. -/
theorem reachesOldest_iff_reachKept {env : BackendEnv} {db : ChatDb} (hdb : DistinctTimes db)
    {events : List HistoryEvent} {served : ServedPage}
    (hrun : run (historyStep env) ⟨db, .start⟩ events = some served) :
    Along (historyStep env) ReachesOldest ⟨db, .start⟩ events ↔
      Guarded (historyStep env) ReachKept ⟨db, .start⟩ events := by
  have hstart : GoodHistory ⟨db, .start⟩ :=
    ⟨hdb, rfl, fun _ _ entry hentry => absurd hentry List.not_mem_nil, fun _ _ hmore => nomatch hmore⟩
  have hP (served : ServedPage) (h : GoodHistory served) : ReachesOldest served :=
    -- the other two invariants hold in any case, so an event decides about the end alone
    (reachesOldest_iff h.distinct h.shows).mpr h.reaches
  refine along_iff_guarded hP ?_ ?_ hstart hrun
  · intro served event served' h hok hstep
    obtain ⟨hdistinct, hrendered, hshows, hreaches⟩ := history_step h hstep
    exact ⟨hdistinct, hrendered, hshows, hreaches.mpr hok⟩
  · intro served event served' h hno hstep holdest
    obtain ⟨hdistinct, -, hshows, hreaches⟩ := history_step h hstep
    exact hno (hreaches.mp ((reachesOldest_iff hdistinct hshows).mp holdest))

/-! ## A read receipt -/

/-- Messages with different times. -/
theorem DistinctTimes.of_nodup {db : ChatDb} (hids : (db.messages.map Backend.Message.id).Nodup)
    (htimes : (db.messages.map Backend.Message.sentAt).Nodup) : DistinctTimes db where
  ids := hids
  times := fun _ => (List.filter_sublist.map Backend.Message.sentAt).nodup htimes

/-- A conversation is opened, read to its end, and read by another member. -/
def readToTheEnd : List HistoryEvent :=
  [.select zeroId (some (quietDisplay none)), .scroll (some (quietDisplay none)),
    .read zeroId (some (quietDisplay none))]

/-- `reachesOldest_iff_reachKept` for a conversation of two messages. -/
theorem reachesOldest_iff_reachKept_two :
    Along (historyStep encryptingEnv) ReachesOldest ⟨historyDb [1, 2], .start⟩ readToTheEnd ↔
      Guarded (historyStep encryptingEnv) ReachKept ⟨historyDb [1, 2], .start⟩ readToTheEnd := by
  have hruns : (run (historyStep encryptingEnv) ⟨historyDb [1, 2], .start⟩ readToTheEnd).isSome =
      true := by decide +kernel
  obtain ⟨served, hserved⟩ := Option.isSome_iff_exists.mp hruns
  exact reachesOldest_iff_reachKept (.of_nodup (by decide) (by decide)) hserved

/-- A conversation of eleven messages. -/
def elevenMessages : ChatDb := historyDb [1, 2, 3, 4, 5, 6, 7, 8, 9, 10, 11]

/-- After the read receipt the oldest of eleven messages is not shown, and cannot be loaded. -/
theorem readReceipt_hides_oldest :
    DistinctTimes elevenMessages ∧
      ∃ served, run (historyStep encryptingEnv) ⟨elevenMessages, .start⟩ readToTheEnd = some served ∧
        ¬ ReachesOldest served := by
  refine ⟨.of_nodup (by decide) (by decide), ?_⟩
  have hend : (run (historyStep encryptingEnv) ⟨elevenMessages, .start⟩ readToTheEnd).map
      (fun served => (served.page.state.selectedConversationId, served.page.state.hasMoreMessages,
        ((shownEntries served.page.state).argmin Prod.snd).map Prod.snd,
        ((storedEntries served.db zeroId).argmin Prod.snd).map Prod.snd)) =
      some (some zeroId.toString, false, some 2, some 1) := by decide +kernel
  obtain ⟨served, hserved, heq⟩ := Option.map_eq_some_iff.mp hend
  simp only [Prod.mk.injEq] at heq
  obtain ⟨hselected, hmore, hshown, hstored⟩ := heq
  refine ⟨served, hserved, fun h => ?_⟩
  rw [h zeroId hselected hmore, hstored] at hshown
  exact absurd hshown (by decide)

end ChatSC.Spec
