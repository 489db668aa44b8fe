import ChatSC.ForStd.Followers
import ChatSC.ForStd.SortedLists
import ChatSC.Spec.SettledPage

/-!
# Sender groups in the pane

The label under a message is for the last one of a group of consecutive messages of a sender.  The
server marks it page by page, and marks every delivered message; the page joins what it gets and marks
nothing anew.  `tailsShown_iff_tailsKept` says which joins keep the marks right: an older page must end
with another sender than the one it is put before, and a delivered message must come between two
different senders, neither of them its own.
-/

namespace ChatSC.Spec

open Backend Followers Frontend JsString Pagination SortedLists Transition

/-! ## The shown timeline -/

/-- A message is marked as it should be, before the one that follows it. -/
def TailOf (message : Frontend.Message) (next : Option Frontend.Message) : Prop :=
  message.isTailOfSenderGroup = true ↔ ∀ other ∈ next, other.senderId ≠ message.senderId

/-- A message is marked exactly when it is the last one, or the next one has another sender. -/
def TailsShown (messages : List Frontend.Message) : Prop :=
  ∀ i message, messages[i]? = some message → TailOf message messages[i + 1]?

/-- What changes the messages of a conversation that is open. -/
inductive TimelineEvent where
  /-- `loadMoreMessages`, answered from this database -/
  | loadMore (db : ChatDb) (input : ObjectId → DisplayInput)
  /-- `message_delivered` -/
  | delivered (message : RealtimeMessagePayload)

/-- Pages of this size are loaded and messages are delivered, one after the other.  Older messages may
    be asked for at any time, not only while the page expects more. -/
def timelineStep (env : BackendEnv) (size : Nat) (state : ChatState) :
    TimelineEvent → Option ChatState
  | .loadMore db input =>
    match state.selectedConversationId.bind ObjectId.ofString?, state.messages with
    | some conversation, oldestMessage :: _ =>
      (getMessages env input db conversation (some oldestMessage.sentAt) size).map
        fun olderMessages => state.showOlder (olderMessages.map .ofPayload)
    | _, _ => none
  | .delivered message => some (state.handleIncomingMessage message)

/-! ## What keeps the marks right -/

/-- The newest message of a conversation before a time. -/
def newestBefore (db : ChatDb) (conversation : ObjectId) (before : Date) : Option Backend.Message :=
  (newestFirst Backend.Message.sentAt
    (behind Backend.Message.sentAt (some before) (conversationMessages db conversation))).head?

/-- The senders of the message that is to come before a new one, of the new one, and of the one after
    it. -/
def sendersAround (messages : List Frontend.Message) (message : Frontend.Message) : List JsString :=
  ((messages.filter fun shown => shown.sentAt ≤ message.sentAt).getLast?.toList ++ message ::
    (messages.filter fun shown => message.sentAt < shown.sentAt).head?.toList).map
    Frontend.Message.senderId

/-- The newest older message has another sender than the oldest one shown; a message that is new to the
    pane is the only one of its sender there, and it parts no group. -/
def TailsKept (state : ChatState) : TimelineEvent → Prop
  | .loadMore db _ =>
    ∀ conversation oldest newest,
      state.selectedConversationId.bind ObjectId.ofString? = some conversation →
      state.messages.head? = some oldest →
      newestBefore db conversation oldest.sentAt = some newest →
      newest.senderId.toString ≠ oldest.senderId
  | .delivered message =>
    state.selectedConversationId = some message.conversationId →
    message.messageId ∉ state.messages.map Frontend.Message.id →
    (sendersAround state.messages (mapRealtimeMessage message)).Nodup

@[simp] theorem tailOf_none {message : Frontend.Message} :
    TailOf message none ↔ message.isTailOfSenderGroup = true := by simp [TailOf]

@[simp] theorem tailOf_some {message other : Frontend.Message} :
    TailOf message (some other) ↔
      (message.isTailOfSenderGroup = true ↔ other.senderId ≠ message.senderId) := by simp [TailOf]

theorem tailsShown_iff_followed {messages : List Frontend.Message} :
    TailsShown messages ↔ Followed TailOf none messages :=
  followed_none_iff.symm

/-! ## Pages -/

theorem limitTo_sublist {α : Type} (count : Nat) (xs : List α) : (limitTo count xs).Sublist xs := by
  rw [limitTo]
  split
  · exact List.Sublist.refl xs
  · exact List.take_sublist count xs

theorem head?_limitTo {α : Type} (count : Nat) (xs : List α) :
    (limitTo count xs).head? = xs.head? := by
  rw [limitTo]
  split
  · rfl
  · rename_i hcount
    rw [List.head?_take, if_neg hcount]

section Page

variable {env : BackendEnv} {input : ObjectId → DisplayInput} {db : ChatDb} {conversation : ObjectId}
  {before : Option Date} {size : Nat} {payloads : List ChatMessagePayload}

/-- A page stands in the order of the times. -/
theorem pairwise_findHistory :
    (findHistory db conversation before size).Pairwise fun a b => a.sentAt ≤ b.sentAt :=
  List.pairwise_reverse.mpr
    ((pairwise_newestFirst Backend.Message.sentAt _).sublist (limitTo_sublist _ _))

/-- A page is before its cursor. -/
theorem sentAt_lt_of_mem_findHistory {cursor : Date} {message : Backend.Message}
    (h : message ∈ findHistory db conversation (some cursor) size) : message.sentAt < cursor := by
  have hmem := mem_newestFirst.mp ((limitTo_sublist _ _).subset (List.mem_reverse.mp h))
  simpa [behind] using List.of_mem_filter hmem

/-- A page ends with the newest message, whatever its size. -/
theorem getLast?_findHistory (db : ChatDb) (conversation : ObjectId) (cursor : Date) (size : Nat) :
    (findHistory db conversation (some cursor) size).getLast? =
      newestBefore db conversation cursor := by
  rw [findHistory, List.getLast?_reverse, head?_limitTo]
  rfl

/-- The sender and the time of a message are shown as they are stored. -/
theorem kept_sender : Kept (fun message => (message.senderId, message.sentAt))
    (fun message => (message.senderId.toString, message.sentAt)) := by
  intro payload message content code h
  simp only [Message.ofPayload, h]

/-- The server marks the messages of a page as if it were everything. -/
theorem followed_buildPage (displays : List DisplayMessage) :
    Followed TailOf none ((buildPage displays).map Message.ofPayload) := by
  induction displays with
  | nil => trivial
  | cons display rest ih =>
    refine ⟨?_, ih⟩
    cases rest with
    | nil => simp [TailOf, buildPage, Message.ofPayload, isTailOfSenderGroup]
    | cons next rest =>
      simp [TailOf, buildPage, Message.ofPayload, isTailOfSenderGroup, ObjectId.toString_inj]

theorem followed_getMessages
    (h : getMessages env input db conversation before size = some payloads) :
    Followed TailOf none (payloads.map Message.ofPayload) := by
  obtain ⟨displays, -, rfl⟩ := Option.map_eq_some_iff.mp h
  exact followed_buildPage displays

/-- The last message of an older page is the newest one there is. -/
theorem getLast?_getMessages {cursor : Date}
    (h : getMessages env input db conversation (some cursor) size = some payloads) :
    ((payloads.map Message.ofPayload).getLast?).map
        (fun message => (message.senderId, message.sentAt)) =
      (newestBefore db conversation cursor).map fun message =>
        (message.senderId.toString, message.sentAt) := by
  rw [← getLast?_findHistory db conversation cursor size, ← List.getLast?_map,
    map_ofPayload_getMessages kept_sender h, List.getLast?_map]

/-- The messages of an older page are before its cursor. -/
theorem sentAt_lt_of_mem_getMessages {cursor : Date} {message : Frontend.Message}
    (h : getMessages env input db conversation (some cursor) size = some payloads)
    (hmessage : message ∈ payloads.map Message.ofPayload) : message.sentAt < cursor := by
  have hmem := List.mem_map_of_mem (f := fun message : Frontend.Message =>
    (message.senderId, message.sentAt)) hmessage
  rw [map_ofPayload_getMessages kept_sender h] at hmem
  obtain ⟨stored, hstored, heq⟩ := List.mem_map.mp hmem
  have htime : stored.sentAt = message.sentAt := congrArg Prod.snd heq
  exact htime ▸ sentAt_lt_of_mem_findHistory hstored

end Page

/-! ## Steps -/

/-- An older page is marked as it should be exactly when it ends with another sender. -/
theorem followed_older {older shown : List Frontend.Message} (holder : Followed TailOf none older)
    (hshown : Followed TailOf none shown) :
    Followed TailOf none (older ++ shown) ↔
      ∀ newest ∈ older.getLast?, ∀ oldest ∈ shown.head?, newest.senderId ≠ oldest.senderId := by
  rw [followed_append, Option.or_none, and_iff_left hshown, holder.next_iff]
  refine forall₂_congr fun newest hnewest => ?_
  -- the server took it for the last one
  have hmarked : newest.isTailOfSenderGroup = true :=
    (holder.getLast? newest hnewest).mpr fun _ hother => nomatch hother
  rw [TailOf, iff_true_left hmarked]
  exact forall₂_congr fun _ _ => ne_comm

/-- A new message, which is marked, leaves everything marked as it should be exactly when the senders
    around its place are different. -/
theorem followed_upsertMessage {shown : List Frontend.Message} {message : Frontend.Message}
    (hsorted : shown.Pairwise fun a b => a.sentAt ≤ b.sentAt) (hshown : Followed TailOf none shown)
    (hmarked : message.isTailOfSenderGroup = true)
    (hnew : message.id ∉ shown.map Frontend.Message.id) :
    Followed TailOf none (upsertMessage shown message) ↔ (sendersAround shown message).Nodup := by
  have hplace : upsertMessage shown message =
      shown.filter (fun other => other.sentAt ≤ message.sentAt) ++
        message :: shown.filter (fun other => message.sentAt < other.sentAt) :=
    (upsert_of_notMem hnew).trans (insertionSort_concat hsorted message)
  rw [hplace, sendersAround]
  rw [← filter_le_append_filter_lt hsorted message.sentAt, followed_append, Option.or_none] at hshown
  generalize shown.filter (fun other => other.sentAt ≤ message.sentAt) = earlier at hshown ⊢
  generalize shown.filter (fun other => message.sentAt < other.sentAt) = later at hshown ⊢
  rw [followed_append, followed_cons, and_iff_left hshown.2, hshown.1.next_iff, List.head?_cons,
    Option.some_or, Option.or_none]
  -- only the message before the new one and the new one itself have another message after them
  have hlast := hshown.1.getLast?
  cases hprevious : earlier.getLast? with
  | none =>
    cases later.head? with
    | none => simp [hmarked]
    | some next =>
      simp only [hmarked, Option.mem_def, reduceCtorEq, false_implies, implies_true, tailOf_some,
        Option.toList_none, Option.toList_some, List.nil_append, List.map_cons, List.map_nil,
        List.nodup_cons, List.mem_cons, List.not_mem_nil, or_false, List.nodup_nil]
      grind
  | some previous =>
    have hmark := hlast previous hprevious
    cases hnext : later.head? with
    | none =>
      rw [hnext, tailOf_none] at hmark
      simp [hmarked, hmark, eq_comm (a := previous.senderId)]
    | some next =>
      rw [hnext, tailOf_some] at hmark
      simp only [Option.mem_def, Option.some.injEq, forall_eq', tailOf_some, hmark, hmarked,
        Option.toList_some, List.cons_append, List.nil_append, List.map_cons, List.map_nil,
        List.nodup_cons, List.mem_cons, List.not_mem_nil, or_false, not_or, List.nodup_nil]
      grind

/-- The messages stand in the order of their times, and every one is marked as it should be. -/
structure Timeline (messages : List Frontend.Message) : Prop where
  sorted : messages.Pairwise fun a b => a.sentAt ≤ b.sentAt
  tails : Followed TailOf none messages

/-- An answer is a timeline. -/
theorem timeline_getMessages {env : BackendEnv} {input : ObjectId → DisplayInput} {db : ChatDb}
    {conversation : ObjectId} {before : Option Date} {size : Nat} {payloads : List ChatMessagePayload}
    (h : getMessages env input db conversation before size = some payloads) :
    Timeline (payloads.map Message.ofPayload) := by
  refine ⟨?_, followed_getMessages h⟩
  have htimes : ((payloads.map Message.ofPayload).map fun message =>
      (message.senderId, message.sentAt)).Pairwise fun a b => a.2 ≤ b.2 := by
    rw [map_ofPayload_getMessages kept_sender h]
    exact List.pairwise_map.mpr pairwise_findHistory
  have hsorted := List.pairwise_map.mp htimes
  exact hsorted

/-- Older messages that an answer puts before the ones shown. -/
theorem timeline_showOlder {env : BackendEnv} {input : ObjectId → DisplayInput} {db : ChatDb}
    {conversation : ObjectId} {size : Nat} {payloads : List ChatMessagePayload}
    {oldest : Frontend.Message} {shown : List Frontend.Message} (hshown : Timeline (oldest :: shown))
    (h : getMessages env input db conversation (some oldest.sentAt) size = some payloads) :
    ((payloads.map Message.ofPayload ++ oldest :: shown).Pairwise fun a b => a.sentAt ≤ b.sentAt) ∧
      (Followed TailOf none (payloads.map Message.ofPayload ++ oldest :: shown) ↔
        ∀ newest, newestBefore db conversation oldest.sentAt = some newest →
          newest.senderId.toString ≠ oldest.senderId) := by
  have hpage := timeline_getMessages h
  -- only the seam between the page and what was shown is new
  have hlast := getLast?_getMessages h
  have hbefore : ∀ message ∈ payloads.map Message.ofPayload, message.sentAt < oldest.sentAt :=
    fun _ => sentAt_lt_of_mem_getMessages h
  constructor
  · refine List.pairwise_append.mpr ⟨hpage.sorted, hshown.sorted, fun a ha b hb => ?_⟩
    rcases List.mem_cons.mp hb with rfl | hb
    · exact Nat.le_of_lt (hbefore a ha)
    · exact Nat.le_trans (Nat.le_of_lt (hbefore a ha)) ((List.pairwise_cons.mp hshown.sorted).1 b hb)
  · rw [followed_older hpage.tails hshown.tails, List.head?_cons]
    cases hgetLast : (payloads.map Message.ofPayload).getLast? with
    | none =>
      rw [hgetLast, Option.map_none, eq_comm, Option.map_eq_none_iff] at hlast
      simp [hlast]
    | some last =>
      rw [hgetLast, Option.map_some, eq_comm, Option.map_eq_some_iff] at hlast
      obtain ⟨newest, hnewest, heq⟩ := hlast
      have hsender : newest.senderId.toString = last.senderId := congrArg Prod.fst heq
      simp [hnewest, hsender]

/-- A delivered message. -/
theorem timeline_upsertMessage {shown : List Frontend.Message} {message : Frontend.Message}
    (hshown : Timeline shown) (hmarked : message.isTailOfSenderGroup = true) :
    ((upsertMessage shown message).Pairwise fun a b => a.sentAt ≤ b.sentAt) ∧
      (Followed TailOf none (upsertMessage shown message) ↔
        (message.id ∉ shown.map Frontend.Message.id → (sendersAround shown message).Nodup)) := by
  by_cases hnew : message.id ∈ shown.map Frontend.Message.id
  · have hsame : upsertMessage shown message = shown := upsert_of_mem hnew
    rw [hsame]
    exact ⟨hshown.sorted, iff_of_true hshown.tails fun h => absurd hnew h⟩
  · have hplace : upsertMessage shown message =
        (shown ++ [message]).insertionSort fun a b => a.sentAt ≤ b.sentAt := upsert_of_notMem hnew
    refine ⟨hplace ▸ List.pairwise_insertionSort _ _, ?_⟩
    rw [followed_upsertMessage hshown.sorted hshown.tails hmarked hnew]
    exact ⟨fun h _ => h, fun h => h hnew⟩

/-- A step leaves the messages in order; what it does to the marks depends on where it joins. -/
theorem timeline_step {env : BackendEnv} {size : Nat} {state state' : ChatState}
    {event : TimelineEvent} (hstate : Timeline state.messages)
    (hstep : timelineStep env size state event = some state') :
    (state'.messages.Pairwise fun a b => a.sentAt ≤ b.sentAt) ∧
      (Followed TailOf none state'.messages ↔ TailsKept state event) := by
  cases event with
  | loadMore db input =>
    simp only [timelineStep] at hstep
    split at hstep
    · -- the condition is about the one conversation and the one message at the top
      rename_i conversation oldest shown hconversation hmessages
      obtain ⟨payloads, hpayloads, rfl⟩ := Option.map_eq_some_iff.mp hstep
      have hjoined : (state.showOlder (payloads.map Message.ofPayload)).messages =
          payloads.map Message.ofPayload ++ oldest :: shown := by rw [← hmessages]; rfl
      have hfirst : state.messages.head? = some oldest := by rw [hmessages]; rfl
      obtain ⟨hsorted, htails⟩ := timeline_showOlder (hmessages ▸ hstate) hpayloads
      rw [hjoined, htails]
      refine ⟨hsorted, ?_, ?_⟩
      · intro h conversation' oldest' newest hconversation' hfirst' hnewest
        obtain rfl := Option.some.inj (hconversation.symm.trans hconversation')
        obtain rfl := Option.some.inj (hfirst.symm.trans hfirst')
        exact h newest hnewest
      · exact fun h newest hnewest => h conversation oldest newest hconversation hfirst hnewest
    · cases hstep
  | delivered message =>
    obtain rfl : state.handleIncomingMessage message = state' := Option.some.inj hstep
    by_cases hselected : state.selectedConversationId = some message.conversationId
    · have hmessages : (state.handleIncomingMessage message).messages =
          upsertMessage state.messages (mapRealtimeMessage message) := if_pos hselected
      -- the server marks it, whatever comes before and after it
      have hmarked : (mapRealtimeMessage message).isTailOfSenderGroup = true := rfl
      obtain ⟨hsorted, htails⟩ := timeline_upsertMessage hstate hmarked
      rw [hmessages, htails]
      exact ⟨hsorted, fun h _ => h, fun h => h hselected⟩
    · -- the message is of another conversation
      have hmessages : (state.handleIncomingMessage message).messages = state.messages :=
        if_neg hselected
      rw [hmessages]
      exact ⟨hstate.sorted, iff_of_true hstate.tails fun h => absurd h hselected⟩

/-! ## Runs -/

/-- **The marks describe the shown timeline exactly while every join is between different senders**:
    for every history, every size of a page, and every run of older pages and delivered messages that
    come one after the other. -/
theorem tailsShown_iff_tailsKept {env : BackendEnv} {input : ObjectId → DisplayInput} {db : ChatDb}
    {conversation : ObjectId} {size : Nat} {payloads : List ChatMessagePayload}
    (hpayloads : getMessages env input db conversation none size = some payloads) (prev : ChatState)
    {events : List TimelineEvent} {state : ChatState}
    (hrun : run (timelineStep env size)
      ((prev.selectConversation conversation.toString).showHistory (payloads.map .ofPayload)) events =
        some state) :
    Along (timelineStep env size) (fun state => TailsShown state.messages)
        ((prev.selectConversation conversation.toString).showHistory (payloads.map .ofPayload))
        events ↔
      Guarded (timelineStep env size) TailsKept
        ((prev.selectConversation conversation.toString).showHistory (payloads.map .ofPayload))
        events := by
  have hP (state : ChatState) (h : Timeline state.messages) : TailsShown state.messages :=
    tailsShown_iff_followed.mpr h.tails
  -- the order of the times carries the marks: it holds whether a step keeps them or not
  refine along_iff_guarded hP ?_ ?_ (timeline_getMessages hpayloads) hrun
  · intro state event state' h hok hstep
    obtain ⟨hsorted, htails⟩ := timeline_step h hstep
    exact ⟨hsorted, htails.mpr hok⟩
  · intro state event state' h hno hstep htails
    exact hno ((timeline_step h hstep).2.mp (tailsShown_iff_followed.mp htails))

/-- The page takes such steps: older messages that it asks for at the top of the pane, with nothing in
    between. -/
theorem run_pageStep_loadMore {env : BackendEnv} {page : ChatPage} {db : ChatDb}
    {input : ObjectId → DisplayInput} {state : ChatState} (hrendered : page.rendered = page.state)
    (hmore : (loadMoreMessages page.state).isSome) (hids : (db.messages.map Backend.Message.id).Nodup)
    (hstep : timelineStep env 10 page.state (.loadMore db input) = some state) :
    ∃ page', run (pageStep env) page
        (.scroll :: fetchEvents page.fetches.length db (some input)) = some page' ∧
      page'.state = state := by
  simp only [timelineStep] at hstep
  split at hstep
  · rename_i conversation oldest shown hconversation hmessages
    obtain ⟨payloads, hpayloads, rfl⟩ := Option.map_eq_some_iff.mp hstep
    have hcursor : loadMoreMessages page.rendered = some (conversation, oldest.sentAt) := by
      rw [hrendered]
      unfold loadMoreMessages at hmore ⊢
      split at hmore
      · rename_i hmay
        rw [if_pos hmay, hconversation, hmessages]
      · cases hmore
    have hscroll : pageStep env page .scroll = some ((page.setState (·.setLoading true)).request
        (.loadMoreMessages oldest.sentAt) conversation) := by
      simp only [pageStep, hcursor]
    have hanswer : afterAnswer env db (.loadMoreMessages oldest.sentAt) conversation
        (page.state.setLoading true) (some input) =
          some (page.state.showOlder (payloads.map .ofPayload)) := by
      rw [afterAnswer, FetchPurpose.before, hpayloads]
      rfl
    have hrun := run_fetchEvents env hids (page.setState (·.setLoading true))
      (.loadMoreMessages oldest.sentAt) conversation (some input)
    rw [ChatPage.setState, hanswer] at hrun
    exact ⟨_, run_cons_eq_some.mpr ⟨_, hscroll, hrun⟩, rfl⟩
  · cases hstep

/-! ## Two messages of one sender -/

/-- A user who has sent one message sends another. -/
def secondMessage : RealtimeMessagePayload where
  messageId := js "a"
  conversationId := zeroId.toString
  senderId := zeroId.toString
  senderDisplayName := none
  senderAvatarUrl := none
  content := js "hi"
  sentAt := 2
  seenState := .sent
  attachment := none
  decodeErrorCode := none
  displayState := .ready
  isAIBotMessage := false
  isAICommand := false

/-- A conversation that has just been opened. -/
def opened (payloads : List ChatMessagePayload) : ChatState :=
  (ChatState.start.selectConversation zeroId.toString).showHistory (payloads.map .ofPayload)

/-- `tailsShown_iff_tailsKept` for a page of one message, an older one and a delivered one. -/
theorem tailsShown_iff_tailsKept_three :
    ∃ payloads, getMessages encryptingEnv (quietDisplay none) (historyDb [0, 1]) zeroId none 1 =
        some payloads ∧
      (Along (timelineStep encryptingEnv 1) (fun state => TailsShown state.messages)
          (opened payloads)
          [.loadMore (historyDb [0, 1]) (quietDisplay none), .delivered secondMessage] ↔
        Guarded (timelineStep encryptingEnv 1) TailsKept (opened payloads)
          [.loadMore (historyDb [0, 1]) (quietDisplay none), .delivered secondMessage]) := by
  have hruns : ((getMessages encryptingEnv (quietDisplay none) (historyDb [0, 1]) zeroId none 1).bind
      fun payloads => run (timelineStep encryptingEnv 1) (opened payloads)
        [.loadMore (historyDb [0, 1]) (quietDisplay none), .delivered secondMessage]).isSome =
          true := by
    decide +kernel
  obtain ⟨state, hstate⟩ := Option.isSome_iff_exists.mp hruns
  obtain ⟨payloads, hpayloads, hrun⟩ := Option.bind_eq_some_iff.mp hstate
  exact ⟨payloads, hpayloads, tailsShown_iff_tailsKept hpayloads ChatState.start hrun⟩

/-- The first of two messages of a user keeps the mark that it had as the last one. -/
theorem secondMessage_mismarked :
    ∃ payloads state,
      getMessages encryptingEnv (quietDisplay none) (historyDb [1]) zeroId none 10 = some payloads ∧
      run (timelineStep encryptingEnv 10) (opened payloads) [.delivered secondMessage] = some state ∧
      ¬ TailsShown state.messages := by
  have hmarks : ((getMessages encryptingEnv (quietDisplay none) (historyDb [1]) zeroId none 10).bind
      fun payloads => run (timelineStep encryptingEnv 10) (opened payloads)
        [.delivered secondMessage]).map (fun state => state.messages.map fun message =>
          (message.senderId, message.isTailOfSenderGroup)) =
      some [(zeroId.toString, true), (zeroId.toString, true)] := by decide +kernel
  obtain ⟨state, hstate, hmarks⟩ := Option.map_eq_some_iff.mp hmarks
  obtain ⟨payloads, hpayloads, hrun⟩ := Option.bind_eq_some_iff.mp hstate
  refine ⟨payloads, state, hpayloads, hrun, fun h => ?_⟩
  obtain ⟨first, rest, hmessages, hfirst, hrest⟩ := List.map_eq_cons_iff.mp hmarks
  obtain ⟨second, rest', rfl, hsecond, -⟩ := List.map_eq_cons_iff.mp hrest
  have htail := h 0 first (by rw [hmessages]; rfl)
  rw [hmessages] at htail
  have hmarked : first.isTailOfSenderGroup = true := congrArg Prod.snd hfirst
  exact htail.mp hmarked second rfl
    ((congrArg Prod.fst hsecond).trans (congrArg Prod.fst hfirst).symm)

end ChatSC.Spec
