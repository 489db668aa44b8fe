import ChatSC.ForStd.Transition
import ChatSC.Frontend.ChatPage
import ChatSC.Spec.MessageHistory

/-!
# The message pane

What `ChatPage` shows of a conversation is written from four sides: a history replaces it, older
messages go before it, a read receipt has it fetched again, and delivered messages are inserted.  An
answer is shown whatever the page has come to since its request.  `faithful_iff_inOrder` says which
answers the pane survives: in every run it stays a window on the selected conversation as long as
every answer is for that conversation, brings back what was delivered, and has nothing twice.
-/

namespace ChatSC.Spec

open Backend Frontend Transition

/-! ## A faithful window -/

/-- The ids of the messages in the pane. -/
def paneIds (state : ChatState) : List JsString := state.messages.map Frontend.Message.id

/-- The pane has messages of the selected conversation only, no message twice, and every message of
    `delivered`, those that were delivered since the history was shown. -/
structure Faithful (state : ChatState) (delivered : Option (List JsString)) : Prop where
  selected : ∀ message ∈ state.messages, state.selectedConversationId = some message.conversationId
  nodup : (paneIds state).Nodup
  present : ∀ id ∈ delivered.getD [], id ∈ paneIds state

/-- A page with the ids of the messages delivered for the selected conversation since its history
    was shown, `none` before it is. -/
structure WatchedPage where
  page : ChatPage
  delivered : Option (List JsString)

/-- A page that is opened. -/
def WatchedPage.start : WatchedPage := ⟨.start, none⟩

/-- What is delivered, after an answer to a request: a history of the selected conversation is
    shown from then on. -/
def watchAnswer (state : ChatState) (delivered : Option (List JsString)) (fetch : Fetch) :
    Option (List JsString) :=
  match fetch.purpose with
  | .selectConversation | .handleConversationRead =>
    if state.selectedConversationId = some fetch.conversation.toString then
      some (delivered.getD [])
    else delivered
  | .loadMoreMessages _ => delivered

/-- What is delivered, after a message. -/
def watchMessage (state : ChatState) (delivered : Option (List JsString))
    (message : RealtimeMessagePayload) : Option (List JsString) :=
  if state.selectedConversationId = some message.conversationId then
    delivered.map (· ++ [message.messageId])
  else delivered

/-- What is delivered, after an event. -/
def watch (page : ChatPage) (delivered : Option (List JsString)) :
    PageEvent → Option (List JsString)
  | .select _ | .leave => none
  | .delete conversationId _ =>
    if page.state.selectedConversationId = some conversationId then none else delivered
  | .deliver message => watchMessage page.state delivered message
  | .complete index =>
    match page.fetches[index]? with
    | some fetch => watchAnswer page.state delivered fetch
    | none => delivered
  | _ => delivered

/-- A step of the page, watched. -/
def watchedStep (env : BackendEnv) (watched : WatchedPage) (event : PageEvent) :
    Option WatchedPage :=
  (pageStep env watched.page event).map fun page =>
    ⟨page, watch watched.page watched.delivered event⟩

/-! ## Answers in order -/

/-- The messages that the server has for a request: the newest ten of its conversation, before its
    cursor. -/
def askedFor (fetch : Fetch) (db : ChatDb) : List Backend.Message :=
  findHistory db fetch.conversation fetch.purpose.before 10

/-- The ids under which they come. -/
def askedIds (fetch : Fetch) (db : ChatDb) : List JsString :=
  (askedFor fetch db).map (·.id.toString)

/-- The condition on an answer that arrives: it is for the selected conversation, or has no messages,
    and a history has every message that was delivered, while older messages are new to the pane. -/
def Fits (state : ChatState) (delivered : Option (List JsString)) (fetch : Fetch) (db : ChatDb) :
    Prop :=
  (state.selectedConversationId = some fetch.conversation.toString ∨ askedFor fetch db = []) ∧
    match fetch.purpose with
    | .selectConversation | .handleConversationRead =>
      ∀ id ∈ delivered.getD [], id ∈ askedIds fetch db
    | .loadMoreMessages _ => ∀ id ∈ askedIds fetch db, id ∉ paneIds state

/-- Every answer that arrives fits. -/
def InOrder (watched : WatchedPage) : PageEvent → Prop
  | .complete index =>
    ∀ fetch db messages, watched.page.fetches[index]? = some fetch →
      fetch.status = .served db messages → Fits watched.page.state watched.delivered fetch db
  | _ => True

instance (state : ChatState) (delivered : Option (List JsString)) (db : ChatDb) :
    (fetch : Fetch) → Decidable (Fits state delivered fetch db)
  | ⟨.selectConversation, conversation, status⟩ => inferInstanceAs (Decidable (_ ∧
      ∀ id ∈ delivered.getD [], id ∈ askedIds ⟨.selectConversation, conversation, status⟩ db))
  | ⟨.handleConversationRead, conversation, status⟩ => inferInstanceAs (Decidable (_ ∧
      ∀ id ∈ delivered.getD [], id ∈ askedIds ⟨.handleConversationRead, conversation, status⟩ db))
  | ⟨.loadMoreMessages before, conversation, status⟩ => inferInstanceAs (Decidable (_ ∧
      ∀ id ∈ askedIds ⟨.loadMoreMessages before, conversation, status⟩ db, id ∉ paneIds state))

/-- The answer of a request that has one. -/
def servedFrom : FetchStatus → Option ChatDb
  | .served db _ => some db
  | .requested | .ended => none

theorem inOrder_complete_iff {watched : WatchedPage} {index : Nat} :
    InOrder watched (.complete index) ↔ ∀ fetch ∈ watched.page.fetches[index]?,
      ∀ db ∈ servedFrom fetch.status, Fits watched.page.state watched.delivered fetch db := by
  constructor
  · -- only an answer that was served can arrive
    intro h fetch hfetch db hdb
    cases hstatus : fetch.status with
    | served db' messages =>
      rw [hstatus] at hdb
      obtain rfl := Option.some.inj hdb
      exact h fetch db' messages hfetch hstatus
    | requested => rw [hstatus] at hdb; cases hdb
    | ended => rw [hstatus] at hdb; cases hdb
  · intro h fetch db messages hfetch hstatus
    exact h fetch hfetch db (by rw [hstatus]; rfl)

instance (watched : WatchedPage) : (event : PageEvent) → Decidable (InOrder watched event)
  | .complete _ => decidable_of_iff _ inOrder_complete_iff.symm
  | .render | .listLoaded _ | .select _ | .serve _ _ _ | .fail _ | .readReturned _ _ | .deliver _
  | .preview _ | .read _ | .scroll | .leave | .delete _ _ => .isTrue trivial

/-! ## What the server answers -/

section Answers

variable {env : BackendEnv} {db : ChatDb} {conversation : ObjectId} {input : ObjectId → DisplayInput}

/-- A field that showing a message keeps. -/
def Kept {β : Type} (field : Frontend.Message → β) (field' : Backend.Message → β) : Prop :=
  ∀ payload message content code,
    payload.display.message = { message with content := content, decodeErrorCode := code } →
    field (Message.ofPayload payload) = field' message

theorem map_ofPayload_buildPage {β : Type} {field : Frontend.Message → β}
    {field' : Backend.Message → β} (hkeep : Kept field field') {messages : List Backend.Message} :
    ∀ {displays : List DisplayMessage},
      (messages.mapM fun message => (input message.id).display env message) = some displays →
      ((buildPage displays).map Message.ofPayload).map field = messages.map field' := by
  -- induction on the stored messages, with their copies for the reader
  induction messages with
  | nil =>
    intro displays h
    cases h
    rfl
  | cons message messages ih =>
    intro displays h
    obtain ⟨display, hdisplay, rest, hrest, rfl⟩ := Records.mapM_cons_eq_some.mp h
    obtain ⟨content, code, hmessage⟩ := message_display hdisplay
    rw [buildPage, List.map_cons, List.map_cons, List.map_cons, ih hrest,
      hkeep _ message content code hmessage]

/-- The messages of an answer have what showing keeps of those that the server has. -/
theorem map_ofPayload_getMessages {β : Type} {field : Frontend.Message → β}
    {field' : Backend.Message → β} (hkeep : Kept field field') {before : Option Date} {size : Nat}
    {payloads : List ChatMessagePayload}
    (h : getMessages env input db conversation before size = some payloads) :
    (payloads.map Message.ofPayload).map field =
      (findHistory db conversation before size).map field' := by
  obtain ⟨displays, hdisplays, rfl⟩ := Option.map_eq_some_iff.mp h
  exact map_ofPayload_buildPage hkeep hdisplays

end Answers

/-- The messages of an answer are those asked for. -/
structure AnsweredFrom (fetch : Fetch) (db : ChatDb) (messages : List ChatMessagePayload) : Prop where
  ids : (messages.map Message.ofPayload).map Frontend.Message.id = askedIds fetch db
  nodup : (askedIds fetch db).Nodup
  conversation : ∀ message ∈ messages.map Message.ofPayload,
    message.conversationId = fetch.conversation.toString

/-- A request is answered, if it is, with what it asks for. -/
def FetchAnswered (fetch : Fetch) : Prop :=
  ∀ db messages, fetch.status = .served db messages → AnsweredFrom fetch db messages

theorem kept_id : Kept Frontend.Message.id fun message => message.id.toString := by
  intro payload message content code hmessage
  show payload.display.message.id.toString = _
  rw [hmessage]

theorem kept_conversationId :
    Kept Frontend.Message.conversationId fun message => message.conversationId.toString := by
  intro payload message content code hmessage
  show payload.display.message.conversationId.toString = _
  rw [hmessage]

/-- An answer of `getMessages`. -/
theorem answeredFrom_getMessages {env : BackendEnv} {input : ObjectId → DisplayInput} {db : ChatDb}
    {fetch : Fetch} {messages : List ChatMessagePayload}
    (hids : (db.messages.map Backend.Message.id).Nodup)
    (h : getMessages env input db fetch.conversation fetch.purpose.before 10 = some messages) :
    AnsweredFrom fetch db messages := by
  refine ⟨map_ofPayload_getMessages kept_id h, ?_, ?_⟩
  · -- the page has no message twice, because the collection has none
    have hnodup := nodup_findHistory hids fetch.conversation fetch.purpose.before
      (show 0 < 10 by omega) (show 10 ≤ 50 by omega)
    have htoString := hnodup.map fun a b => ObjectId.toString_injective
    rwa [List.map_map] at htoString
  · -- every message of the page was found in the conversation that was asked for
    intro message hmessage
    have hfield := List.mem_map_of_mem (f := Frontend.Message.conversationId) hmessage
    rw [map_ofPayload_getMessages kept_conversationId h] at hfield
    obtain ⟨stored, hstored, heq⟩ := List.mem_map.mp hfield
    have hconversation := List.of_mem_filter (mem_findHistory (show 0 < 10 by omega)
      (show 10 ≤ 50 by omega) hstored)
    rw [← heq, of_decide_eq_true hconversation]

/-! ## Updates of the pane -/

section Updates

variable {state state' : ChatState} {delivered : Option (List JsString)}

/-- An update that leaves the pane and the selection alone. -/
theorem Faithful.keep (h : Faithful state delivered) (hmessages : state'.messages = state.messages)
    (hselected : state'.selectedConversationId = state.selectedConversationId) :
    Faithful state' delivered where
  selected := by
    rw [hmessages, hselected]
    exact h.selected
  nodup := by
    rw [paneIds, hmessages]
    exact h.nodup
  present := by
    rw [paneIds, hmessages]
    exact h.present

/-- An empty pane, before a history is shown in it. -/
theorem Faithful.empty (hmessages : state.messages = []) : Faithful state none where
  selected := by simp [hmessages]
  nodup := by simp [paneIds, hmessages]
  present := by simp

theorem any_id_iff {messages : List Frontend.Message} {id : JsString} :
    messages.any (fun message => message.id = id) = true ↔
      id ∈ messages.map Frontend.Message.id := by
  rw [List.any_eq_true, List.mem_map]
  simp only [decide_eq_true_eq]

theorem upsertMessage_of_mem {messages : List Frontend.Message} {message : Frontend.Message}
    (h : message.id ∈ messages.map Frontend.Message.id) :
    upsertMessage messages message = messages :=
  if_pos (any_id_iff.mpr h)

theorem perm_upsertMessage {messages : List Frontend.Message} {message : Frontend.Message}
    (h : message.id ∉ messages.map Frontend.Message.id) :
    (upsertMessage messages message).Perm (messages ++ [message]) := by
  rw [upsertMessage, if_neg (mt any_id_iff.mp h)]
  exact List.perm_insertionSort _ _

theorem mem_getD_map_concat {id new : JsString}
    (h : id ∈ (delivered.map (· ++ [new])).getD []) : id ∈ delivered.getD [] ∨ id = new := by
  cases delivered with
  | none => exact absurd h List.not_mem_nil
  | some ids => simpa using h

/-- A message is delivered. -/
theorem Faithful.deliver (h : Faithful state delivered) (message : RealtimeMessagePayload) :
    Faithful (state.handleIncomingMessage message) (watchMessage state delivered message) := by
  unfold watchMessage
  by_cases hselected : state.selectedConversationId = some message.conversationId
  · rw [if_pos hselected]
    have hmessages : (state.handleIncomingMessage message).messages =
        upsertMessage state.messages (mapRealtimeMessage message) := if_pos hselected
    by_cases hmem : message.messageId ∈ paneIds state
    · -- it is in the pane already
      rw [upsertMessage_of_mem hmem] at hmessages
      refine ⟨(h.keep hmessages rfl).selected, (h.keep hmessages rfl).nodup, ?_⟩
      intro id hid
      rw [paneIds, hmessages]
      rcases mem_getD_map_concat hid with hold | rfl
      · exact h.present id hold
      · exact hmem
    · -- a new message is put somewhere into the pane
      have hperm : (upsertMessage state.messages (mapRealtimeMessage message)).Perm
          (state.messages ++ [mapRealtimeMessage message]) := perm_upsertMessage hmem
      have hids : (paneIds (state.handleIncomingMessage message)).Perm
          (paneIds state ++ [message.messageId]) := by
        have hmap := hperm.map Frontend.Message.id
        rw [List.map_append] at hmap
        rwa [paneIds, hmessages]
      refine ⟨?_, ?_, ?_⟩
      · intro shown hshown
        rw [hmessages, hperm.mem_iff, List.mem_append, List.mem_singleton] at hshown
        rcases hshown with hold | rfl
        · exact h.selected shown hold
        · exact hselected
      · rw [hids.nodup_iff, List.nodup_append]
        refine ⟨h.nodup, List.nodup_singleton _, ?_⟩
        intro old hold new hnew heq
        rw [List.mem_singleton.mp hnew] at heq
        exact hmem (heq ▸ hold)
      · intro id hid
        rw [hids.mem_iff, List.mem_append, List.mem_singleton]
        exact (mem_getD_map_concat hid).imp_left (h.present id)
  · -- a message of another conversation does not touch the pane
    rw [if_neg hselected]
    exact h.keep (if_neg hselected) rfl

/-- The messages of an answer are of the selected conversation. -/
theorem answer_selected_iff {fetch : Fetch} {db : ChatDb} {messages : List ChatMessagePayload}
    (h : AnsweredFrom fetch db messages) (selected : Option JsString) :
    (∀ message ∈ messages.map Message.ofPayload, selected = some message.conversationId) ↔
      selected = some fetch.conversation.toString ∨ askedFor fetch db = [] := by
  have hempty : askedFor fetch db = [] ↔ messages.map Message.ofPayload = [] := by
    rw [← List.map_eq_nil_iff (f := Frontend.Message.id), h.ids, askedIds, List.map_eq_nil_iff]
  rw [hempty]
  -- a pane with a message in it tells which conversation was answered
  constructor
  · intro hall
    cases hmessages : messages.map Message.ofPayload with
    | nil => exact .inr rfl
    | cons message rest =>
      have hmem : message ∈ messages.map Message.ofPayload := hmessages ▸ List.mem_cons_self
      rw [hall message hmem, h.conversation message hmem]
      exact .inl rfl
  · rintro (hselected | hnone) message hmessage
    · rw [hselected, h.conversation message hmessage]
    · rw [hnone] at hmessage
      exact absurd hmessage List.not_mem_nil

/-- What is delivered stays the same when a history is shown. -/
theorem getD_watchAnswer (fetch : Fetch) :
    (watchAnswer state delivered fetch).getD [] = delivered.getD [] := by
  unfold watchAnswer
  split
  · split
    · rfl
    · rfl
  · split
    · rfl
    · rfl
  · rfl

/-- A history in the place of the pane. -/
theorem faithful_replace_iff {fetch : Fetch} {db : ChatDb} {messages : List ChatMessagePayload}
    (h : AnsweredFrom fetch db messages)
    (hmessages : state'.messages = messages.map Message.ofPayload)
    (hselected : state'.selectedConversationId = state.selectedConversationId) :
    Faithful state' (watchAnswer state delivered fetch) ↔
      (state.selectedConversationId = some fetch.conversation.toString ∨
        askedFor fetch db = []) ∧ ∀ id ∈ delivered.getD [], id ∈ askedIds fetch db := by
  -- what is in the pane now is what was asked for
  have hids : paneIds state' = askedIds fetch db := by rw [paneIds, hmessages, h.ids]
  rw [← answer_selected_iff h, ← hselected, ← hmessages, ← hids, ← getD_watchAnswer fetch]
  constructor
  · intro hf
    exact ⟨hf.selected, hf.present⟩
  · rintro ⟨hconversation, hpresent⟩
    exact ⟨hconversation, hids ▸ h.nodup, hpresent⟩

/-- Older messages before the pane. -/
theorem faithful_older_iff (hstate : Faithful state delivered) {fetch : Fetch} {db : ChatDb}
    {messages : List ChatMessagePayload} (h : AnsweredFrom fetch db messages)
    (hmessages : state'.messages = messages.map Message.ofPayload ++ state.messages)
    (hselected : state'.selectedConversationId = state.selectedConversationId) :
    Faithful state' delivered ↔
      (state.selectedConversationId = some fetch.conversation.toString ∨
        askedFor fetch db = []) ∧ ∀ id ∈ askedIds fetch db, id ∉ paneIds state := by
  have hids : paneIds state' = askedIds fetch db ++ paneIds state := by
    rw [paneIds, hmessages, List.map_append, h.ids]
    rfl
  -- the conversation of the answer and its new ids are what the pane can lose
  rw [← answer_selected_iff h, ← hselected]
  constructor
  · intro hf
    refine ⟨fun message hmessage => hf.selected message ?_, ?_⟩
    · rw [hmessages]
      exact List.mem_append_left _ hmessage
    · have hnodup := hf.nodup
      rw [hids, List.nodup_append] at hnodup
      exact fun id hnew hold => hnodup.2.2 id hnew id hold rfl
  · rintro ⟨hconversation, hnew⟩
    refine ⟨?_, ?_, ?_⟩
    · intro message hmessage
      rw [hmessages] at hmessage
      rcases List.mem_append.mp hmessage with holder | hold
      · exact hconversation message holder
      · rw [hselected]
        exact hstate.selected message hold
    · rw [hids, List.nodup_append]
      refine ⟨h.nodup, hstate.nodup, ?_⟩
      rintro id holder id' hold rfl
      exact hnew id holder hold
    · intro id hid
      rw [hids]
      exact List.mem_append_right _ (hstate.present id hid)

/-- An answer leaves the pane faithful exactly when it fits. -/
theorem faithful_answer_iff (hstate : Faithful state delivered) {fetch : Fetch} {db : ChatDb}
    {messages : List ChatMessagePayload} (h : AnsweredFrom fetch db messages) :
    Faithful (fetch.purpose.resolve state (messages.map Message.ofPayload))
      (watchAnswer state delivered fetch) ↔ Fits state delivered fetch db := by
  unfold Fits
  cases hpurpose : fetch.purpose with
  -- both of them put the answer in the place of what was shown
  | selectConversation => exact faithful_replace_iff h rfl rfl
  | handleConversationRead => exact faithful_replace_iff h rfl rfl
  | loadMoreMessages before =>
    -- older messages are put in front of what is there
    have hsame : watchAnswer state delivered fetch = delivered := by
      rw [watchAnswer, hpurpose]
    rw [hsame]
    exact faithful_older_iff hstate h rfl rfl

end Updates

/-! ## Steps of the page -/

section Steps

variable {env : BackendEnv} {page page' : ChatPage} {event : PageEvent}

variable (env page) in
/-- What happens at a page, with one rule for each branch. -/
inductive PageMove : PageEvent → ChatPage → Prop where
  | rendered : PageMove .render { page with rendered := page.state }
  | listLoaded (conversations : List Frontend.Conversation) :
      PageMove (.listLoaded conversations) (page.setState (·.showConversations conversations))
  | selected (conversation : ObjectId) :
      PageMove (.select conversation)
        ((page.setState (·.selectConversation conversation.toString)).request .selectConversation
          conversation)
  | served (index : Nat) (db : ChatDb) (input : ObjectId → DisplayInput) (purpose : FetchPurpose)
      (conversation : ObjectId) (messages : List ChatMessagePayload)
      (hfetch : page.fetches[index]? = some ⟨purpose, conversation, .requested⟩)
      (hids : (db.messages.map Backend.Message.id).Nodup)
      (hmessages : getMessages env input db conversation purpose.before 10 = some messages) :
      PageMove (.serve index db input) (page.setStatus index (.served db messages))
  | completed (index : Nat) (fetch : Fetch) (db : ChatDb) (messages : List ChatMessagePayload)
      (hfetch : page.fetches[index]? = some fetch) (hserved : fetch.status = .served db messages) :
      PageMove (.complete index)
        ((page.setState (fetch.purpose.resolve · (messages.map .ofPayload))).setStatus index .ended)
  | failed (index : Nat) (fetch : Fetch) :
      PageMove (.fail index) ((page.setState fetch.purpose.reject).setStatus index .ended)
  | readShown (conversationId : JsString) (unreadCount : Nat) :
      PageMove (.readReturned conversationId (some unreadCount))
        (page.setState (·.showReadState conversationId unreadCount))
  | readFailed (conversationId : JsString) :
      PageMove (.readReturned conversationId none) (page.setState (·.setLoading false))
  | delivered (message : RealtimeMessagePayload) :
      PageMove (.deliver message) (page.setState (·.handleIncomingMessage message))
  | previewed (preview : ConversationPreviewPayload) :
      PageMove (.preview preview) (page.setState (·.handlePreviewUpdate preview))
  | readAndFetched (conversationId : JsString) (conversation : ObjectId) :
      PageMove (.read conversationId)
        ((page.setState (·.handleConversationRead conversationId)).request .handleConversationRead
          conversation)
  | read (conversationId : JsString) :
      PageMove (.read conversationId) (page.setState (·.handleConversationRead conversationId))
  | scrolled (conversation : ObjectId) (before : Date) :
      PageMove .scroll
        ((page.setState (·.setLoading true)).request (.loadMoreMessages before) conversation)
  | notScrolled : PageMove .scroll page
  | left : PageMove .leave (page.setState ChatState.handleLeave)
  | deleted (conversationId : JsString) (conversations : List Frontend.Conversation) :
      PageMove (.delete conversationId conversations)
        (page.setState (·.handleDeleteConversation conversationId conversations))

theorem pageStep_cases (h : pageStep env page event = some page') :
    PageMove env page event page' := by
  cases event with
  | render =>
    cases h
    exact .rendered
  | listLoaded conversations =>
    cases h
    exact .listLoaded conversations
  | select conversation =>
    cases h
    exact .selected conversation
  -- a request is served from the database of that moment
  | serve index db input =>
    rw [pageStep] at h
    split at h
    · rename_i purpose conversation hfetch
      split at h
      · rename_i hids
        obtain ⟨messages, hmessages, rfl⟩ := Option.map_eq_some_iff.mp h
        exact .served index db input purpose conversation messages hfetch hids hmessages
      · cases h
    · cases h
  -- only an answer that is on its way can arrive
  | complete index =>
    rw [pageStep] at h
    split at h
    · rename_i purpose conversation db messages hfetch
      cases h
      exact .completed index _ db messages hfetch rfl
    · cases h
  -- a request that has ended cannot fail any more
  | fail index =>
    rw [pageStep] at h
    split at h
    · cases h
    · cases h
    · rename_i fetch hended hfetch
      cases h
      exact .failed index fetch
  -- the answer of the server may say how many are unread, or fail
  | readReturned conversationId answer =>
    cases answer with
    | none =>
      cases h
      exact .readFailed conversationId
    | some unreadCount =>
      cases h
      exact .readShown conversationId unreadCount
  | deliver message =>
    cases h
    exact .delivered message
  | preview preview =>
    cases h
    exact .previewed preview
  | read conversationId =>
    -- a read receipt of the selected conversation loads the history again
    simp only [pageStep] at h
    split at h
    · split at h
      · cases h
        exact .readAndFetched conversationId _
      · cases h
        exact .read conversationId
    · cases h
      exact .read conversationId
  -- the page scrolls to the top only where there may be more
  | scroll =>
    rw [pageStep] at h
    split at h
    · cases h
      exact .scrolled _ _
    · cases h
      exact .notScrolled
  | leave =>
    cases h
    exact .left
  | delete conversationId conversations =>
    cases h
    exact .deleted conversationId conversations

/-- Every request of a page is answered, if it is, with what it asks for. -/
def AllAnswered (page : ChatPage) : Prop := ∀ fetch ∈ page.fetches, FetchAnswered fetch

theorem AllAnswered.request (h : AllAnswered page) (purpose : FetchPurpose)
    (conversation : ObjectId) : AllAnswered (page.request purpose conversation) := by
  intro fetch hfetch
  rcases List.mem_append.mp hfetch with hold | hnew
  · exact h fetch hold
  · rw [List.mem_singleton.mp hnew]
    intro db messages hserved
    cases hserved

theorem AllAnswered.setStatus (h : AllAnswered page) {index : Nat} {status : FetchStatus}
    (hstatus : ∀ fetch, page.fetches[index]? = some fetch →
      FetchAnswered { fetch with status := status }) : AllAnswered (page.setStatus index status) :=
  Records.forall_mem_modify h hstatus

/-- A request that has ended has no answer to come. -/
theorem fetchAnswered_ended (fetch : Fetch) : FetchAnswered { fetch with status := .ended } := by
  intro db messages hserved
  cases hserved

theorem AllAnswered.step (h : AllAnswered page) (hstep : pageStep env page event = some page') :
    AllAnswered page' := by
  cases pageStep_cases hstep with
  | selected conversation => exact AllAnswered.request h .selectConversation conversation
  -- the answer that is served now is one of `getMessages`
  | served index db input purpose conversation messages hfetch hids hmessages =>
    refine h.setStatus fun fetch hsame => ?_
    cases hfetch.symm.trans hsame
    intro db' messages' hserved
    cases hserved
    exact answeredFrom_getMessages hids hmessages
  | completed index fetch db messages hfetch hserved =>
    exact AllAnswered.setStatus h fun fetch _ => fetchAnswered_ended fetch
  | failed index fetch => exact AllAnswered.setStatus h fun fetch _ => fetchAnswered_ended fetch
  | readAndFetched conversationId conversation =>
    exact AllAnswered.request h .handleConversationRead conversation
  | scrolled conversation before => exact AllAnswered.request h (.loadMoreMessages before) conversation
  -- nothing else touches the requests
  | _ => exact h

variable {delivered : Option (List JsString)}

/-- No event but an answer takes anything from the pane that was delivered for it. -/
theorem Faithful.step (h : Faithful page.state delivered)
    (hstep : pageStep env page event = some page') (hother : ∀ index, event ≠ .complete index) :
    Faithful page'.state (watch page delivered event) := by
  cases pageStep_cases hstep with
  | completed index fetch db messages hfetch hserved => exact absurd rfl (hother index)
  | selected conversation => exact .empty rfl
  | left => exact .empty rfl
  | deleted conversationId conversations =>
    show Faithful (page.state.handleDeleteConversation conversationId conversations)
      (if page.state.selectedConversationId = some conversationId then none else delivered)
    unfold ChatState.handleDeleteConversation
    split
    · exact .empty rfl
    · exact h.keep rfl rfl
  | delivered message => exact h.deliver message
  | failed index fetch =>
    -- a failure leaves the pane as it is, whatever the request was for
    show Faithful (fetch.purpose.reject page.state) delivered
    cases fetch.purpose with
    | handleConversationRead => exact h
    | selectConversation => exact h.keep rfl rfl
    | loadMoreMessages before => exact h.keep rfl rfl
  | rendered => exact h
  | served index db input purpose conversation messages hfetch hids hmessages => exact h
  | notScrolled => exact h
  | _ => exact h.keep rfl rfl

end Steps

/-! ## Runs of the page -/

/-- What the steps keep: the pane is faithful, and every answer is what was asked for. -/
structure GoodPane (watched : WatchedPage) : Prop where
  faithful : Faithful watched.page.state watched.delivered
  answered : AllAnswered watched.page

theorem goodPane_start : GoodPane .start where
  faithful := .empty rfl
  answered := fun _ h => absurd h List.not_mem_nil

variable {env : BackendEnv} {watched watched' : WatchedPage} {event : PageEvent}

/-- After a step that is possible the pane is faithful exactly when the step is in order. -/
theorem faithful_watchedStep_iff (h : GoodPane watched)
    (hstep : watchedStep env watched event = some watched') :
    Faithful watched'.page.state watched'.delivered ↔ InOrder watched event := by
  obtain ⟨page', hpage, rfl⟩ := Option.map_eq_some_iff.mp hstep
  by_cases hcomplete : ∃ index, event = .complete index
  · obtain ⟨index, rfl⟩ := hcomplete
    cases pageStep_cases hpage with
    | completed _ fetch db messages hfetch hserved =>
      -- the answer holds what its request asked for
      have hanswered := h.answered fetch (List.mem_of_getElem? hfetch) db messages hserved
      have hwatch : watch watched.page watched.delivered (.complete index) =
          watchAnswer watched.page.state watched.delivered fetch := by
        simp only [watch, hfetch]
      show Faithful (fetch.purpose.resolve watched.page.state (messages.map Message.ofPayload))
        (watch watched.page watched.delivered (.complete index)) ↔ InOrder watched (.complete index)
      rw [hwatch, faithful_answer_iff h.faithful hanswered]
      constructor
      · intro hfits fetch' db' messages' hfetch' hserved'
        obtain rfl : fetch = fetch' := Option.some.inj (hfetch.symm.trans hfetch')
        obtain ⟨rfl, -⟩ := FetchStatus.served.inj (hserved.symm.trans hserved')
        exact hfits
      · exact fun hok => hok fetch db messages hfetch hserved
  · have hother : ∀ index, event ≠ .complete index := fun index heq => hcomplete ⟨index, heq⟩
    -- every other event is in order
    have htrue : InOrder watched event := by
      cases event with
      | complete index => exact absurd rfl (hother index)
      | _ => trivial
    exact iff_of_true (h.faithful.step hpage hother) htrue

theorem GoodPane.step (h : GoodPane watched) (hok : InOrder watched event)
    (hstep : watchedStep env watched event = some watched') : GoodPane watched' where
  faithful := (faithful_watchedStep_iff h hstep).mpr hok
  answered := by
    obtain ⟨page', hpage, rfl⟩ := Option.map_eq_some_iff.mp hstep
    exact h.answered.step hpage

/-- **The pane is faithful in every state of a run exactly when every answer fits where it
    arrives**: for every order of selections, requests, answers, failures, deliveries and receipts,
    each answer with the messages that the server had. -/
theorem faithful_iff_inOrder {events : List PageEvent}
    (hrun : run (watchedStep env) .start events = some watched) :
    Along (watchedStep env) (fun watched => Faithful watched.page.state watched.delivered) .start
        events ↔
      Guarded (watchedStep env) InOrder .start events :=
  along_iff_guarded (fun _ h => h.faithful) (fun _ _ _ h hok hstep => h.step hok hstep)
    (fun _ _ _ h hno hstep => mt (faithful_watchedStep_iff h hstep).mp hno) goodPane_start hrun

/-! ## Two conversations -/

/-- A conversation without messages. -/
def emptyConversation : ObjectId := (plainMessage 1 0).id

/-- The thirteenth message, as it is delivered. -/
def newestPayload : RealtimeMessagePayload where
  messageId := (plainMessage 12 13).id.toString
  conversationId := zeroId.toString
  senderId := zeroId.toString
  senderDisplayName := none
  senderAvatarUrl := none
  content := JsString.js "hi"
  sentAt := 13
  seenState := .sent
  attachment := none
  decodeErrorCode := none
  displayState := .ready
  isAIBotMessage := false
  isAICommand := false

/-- A conversation is selected, and the last ten of its twelve messages are shown; the other two are
    loaded, one more is delivered, and behind a read receipt the last ten are fetched again. -/
def openConversation : List PageEvent :=
  [.select zeroId, .render, .serve 0 (historyDb (List.range' 1 12)) (quietDisplay none), .complete 0,
    .render, .scroll, .serve 1 (historyDb (List.range' 1 12)) (quietDisplay none), .complete 1,
    .deliver newestPayload, .render, .read zeroId.toString,
    .serve 2 (historyDb (List.range' 1 13)) (quietDisplay none), .complete 2]

/-- Every answer fits, and the pane is faithful all the time. -/
theorem faithful_openConversation :
    ∃ watched, run (watchedStep encryptingEnv) .start openConversation = some watched ∧
      watched.delivered = some [newestPayload.messageId] ∧
      Along (watchedStep encryptingEnv)
        (fun watched => Faithful watched.page.state watched.delivered) .start openConversation := by
  have hsome : (run (watchedStep encryptingEnv) .start openConversation).map
      WatchedPage.delivered = some (some [newestPayload.messageId]) := by
    decide +kernel
  obtain ⟨watched, hrun, hdelivered⟩ := Option.map_eq_some_iff.mp hsome
  exact ⟨watched, hrun, hdelivered, (faithful_iff_inOrder hrun).mpr (by decide +kernel)⟩

/-- Another conversation is selected before the history of the first one has arrived. -/
def reselect : List PageEvent :=
  [.select zeroId, .select emptyConversation, .serve 0 (historyDb [5]) (quietDisplay none),
    .complete 0]

/-- The pane of one conversation shows the message of another. -/
theorem wrong_conversation_shown :
    ∃ watched, run (watchedStep encryptingEnv) .start reselect = some watched ∧
      ¬ Faithful watched.page.state watched.delivered := by
  have hrun : (run (watchedStep encryptingEnv) .start reselect).map (fun watched =>
      (watched.page.state.selectedConversationId,
        watched.page.state.messages.map Frontend.Message.conversationId)) =
      some (some emptyConversation.toString, [zeroId.toString]) := by
    decide +kernel
  obtain ⟨watched, hwatched, hpane⟩ := Option.map_eq_some_iff.mp hrun
  obtain ⟨hselected, hmessages⟩ := Prod.mk.inj hpane
  -- the one message in the pane is of the other conversation
  refine ⟨watched, hwatched, fun h => ?_⟩
  obtain ⟨message, hmessage, hconversation⟩ : ∃ message ∈ watched.page.state.messages,
      message.conversationId = zeroId.toString := by
    apply List.mem_map.mp
    rw [hmessages]
    exact List.mem_cons_self
  have hsame := h.selected message hmessage
  rw [hselected, hconversation] at hsame
  exact absurd hsame (by decide)

end ChatSC.Spec
