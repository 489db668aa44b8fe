import ChatSC.Backend.MessageHistory
import ChatSC.ForStd.Records
import ChatSC.Spec.StoredMessages

/-!
# Histories page by page

A client that reads a history with `getMessages` gets every message once exactly when no two messages
with the same `sentAt` stand on the two sides of a page boundary: the cursor is a time, and what has
the time of the cursor is left out of the next page.
-/

namespace ChatSC.Spec

open Backend JsString Pagination

/-- What identifies a message in a history. -/
def historyEntry (message : Message) : ObjectId × Date := (message.id, message.sentAt)

/-- What identifies a message in a page. -/
def pageEntry (payload : ChatMessagePayload) : ObjectId × Date := historyEntry payload.display.message

/-- The messages of a conversation. -/
def conversationMessages (db : ChatDb) (conversation : ObjectId) : List Message :=
  db.messages.filter (·.conversationId = conversation)

/-- The pages have every message of the conversation once, each page is in ascending order of
    `sentAt`, and it is older than the pages before it. -/
def HistoryComplete (db : ChatDb) (conversation : ObjectId)
    (pages : List (List ChatMessagePayload)) : Prop :=
  Complete Prod.snd ((conversationMessages db conversation).map historyEntry)
    (pages.map (List.map pageEntry))

/-- Every message can be displayed in every call: the processor answers, or the exchange with it
    fails. -/
def Answered (env : BackendEnv) (input : Option Date → ObjectId → DisplayInput) (db : ChatDb) :
    Prop :=
  ∀ before, ∀ message ∈ db.messages, ((input before message.id).display env message).isSome = true

/-- Only the text of a message and its error change when it is displayed. -/
theorem message_display {env : BackendEnv} {input : DisplayInput} {message : Message}
    {display : DisplayMessage} (h : input.display env message = some display) :
    ∃ content code,
      display.message = { message with content := content, decodeErrorCode := code } := by
  unfold DisplayInput.display toDisplayMessage at h
  split at h
  · cases h
  · cases h
    exact ⟨_, _, rfl⟩
  · cases h
    exact ⟨_, _, rfl⟩

/-- A message is displayed with its id and its time. -/
theorem historyEntry_display {env : BackendEnv} {input : DisplayInput} {message : Message}
    {display : DisplayMessage} (h : input.display env message = some display) :
    historyEntry display.message = historyEntry message := by
  obtain ⟨content, code, hmessage⟩ := message_display h
  rw [hmessage]
  rfl

/-- The messages of a page are those that were displayed. -/
theorem display_buildPage (displays : List DisplayMessage) :
    (buildPage displays).map ChatMessagePayload.display = displays := by
  induction displays with
  | nil => rfl
  | cons display rest ih => rw [buildPage, List.map_cons, ih]

theorem pageEntry_buildPage (displays : List DisplayMessage) :
    (buildPage displays).map pageEntry = displays.map fun display => historyEntry display.message := by
  conv_rhs => rw [← display_buildPage displays, List.map_map]
  rfl

/-- Messages that can all be displayed. -/
theorem mapM_display {env : BackendEnv} {input : ObjectId → DisplayInput} {messages : List Message}
    (h : ∀ message ∈ messages, ((input message.id).display env message).isSome = true) :
    ∃ displays, (messages.mapM fun message => (input message.id).display env message) =
        some displays ∧
      (displays.map fun display => historyEntry display.message) = messages.map historyEntry := by
  obtain ⟨displays, hdisplays⟩ : ∃ displays,
      (messages.mapM fun message => (input message.id).display env message) = some displays := by
    induction messages with
    | nil => exact ⟨[], rfl⟩
    | cons message messages ih =>
      obtain ⟨display, hdisplay⟩ := Option.isSome_iff_exists.mp (h message List.mem_cons_self)
      obtain ⟨displays, hdisplays⟩ :=
        ih fun other hother => h other (List.mem_cons_of_mem message hother)
      refine ⟨display :: displays, ?_⟩
      rw [List.mapM_cons, hdisplay, hdisplays]
      rfl
  exact ⟨displays, hdisplays, Records.map_mapM (fun _ _ => historyEntry_display) hdisplays⟩

/-- A page of `getMessages` with a size that the limit allows. -/
theorem findHistory_eq (db : ChatDb) (conversation : ObjectId) (before : Option Date) {size : Nat}
    (hsize : 0 < size) (hmax : size ≤ 50) :
    findHistory db conversation before size =
      (page Message.sentAt size (conversationMessages db conversation) before).reverse := by
  have hmin : min size 50 = size := Nat.min_eq_left hmax
  rw [findHistory, limitTo, hmin, if_neg (Nat.ne_of_gt hsize)]
  rfl

/-- A page has messages of the conversation only. -/
theorem mem_findHistory {db : ChatDb} {conversation : ObjectId} {before : Option Date} {size : Nat}
    (hsize : 0 < size) (hmax : size ≤ 50) {message : Message}
    (h : message ∈ findHistory db conversation before size) :
    message ∈ conversationMessages db conversation := by
  rw [findHistory_eq db conversation before hsize hmax, List.mem_reverse] at h
  exact List.mem_of_mem_filter (mem_newestFirst.mp (List.mem_of_mem_take h))

/-- A page has every message once. -/
theorem nodup_findHistory {db : ChatDb} (hids : (db.messages.map Message.id).Nodup)
    (conversation : ObjectId) (before : Option Date) {size : Nat} (hsize : 0 < size)
    (hmax : size ≤ 50) : ((findHistory db conversation before size).map Message.id).Nodup := by
  rw [findHistory_eq db conversation before hsize hmax, List.map_reverse, List.nodup_reverse]
  have hpage : (page Message.sentAt size (conversationMessages db conversation) before).Sublist
      (newestFirst Message.sentAt
        (behind Message.sentAt before (conversationMessages db conversation))) :=
    List.take_sublist _ _
  refine (hpage.map Message.id).nodup ?_
  rw [((perm_newestFirst Message.sentAt _).map Message.id).nodup_iff]
  refine ((List.Sublist.map Message.id ?_).nodup hids)
  exact (List.filter_sublist).trans List.filter_sublist

/-- What identifies the messages of a page of `getMessages`. -/
theorem pageEntry_getMessages {env : BackendEnv} {input : Option Date → ObjectId → DisplayInput}
    {db : ChatDb} (hanswered : Answered env input db) (conversation : ObjectId) {size : Nat}
    (hsize : 0 < size) (hmax : size ≤ 50) (before : Option Date) :
    (getMessages env (input before) db conversation before size).map (List.map pageEntry) =
      some (page Prod.snd size ((conversationMessages db conversation).map historyEntry)
        before).reverse := by
  have hmem : ∀ message ∈ findHistory db conversation before size, message ∈ db.messages := by
    intro message hmessage
    exact List.mem_of_mem_filter (mem_findHistory hsize hmax hmessage)
  have hkey : ∀ message : Message, (historyEntry message).2 = message.sentAt := fun _ => rfl
  obtain ⟨displays, hdisplays, hentries⟩ :=
    mapM_display fun message hmessage => hanswered before message (hmem message hmessage)
  rw [getMessages, hdisplays, Option.map_some, Option.map_some, pageEntry_buildPage, hentries,
    findHistory_eq db conversation before hsize hmax, List.map_reverse,
    page_map historyEntry hkey]

/-- **A history read page by page is complete exactly when no page boundary is tied**: for all
    messages, and every size of a page from 1 to 50. -/
theorem historyComplete_iff {env : BackendEnv} {input : Option Date → ObjectId → DisplayInput}
    {db : ChatDb} (hanswered : Answered env input db) (conversation : ObjectId) {size : Nat}
    (hsize : 1 ≤ size) (hmax : size ≤ 50) {calls : Nat}
    (hcalls : (conversationMessages db conversation).length < calls) :
    ∃ pages, loadHistory env input db conversation size calls = some pages ∧
      (HistoryComplete db conversation pages ↔
        Untied size ((newestFirst Message.sentAt (conversationMessages db conversation)).map
          Message.sentAt)) := by
  have hlen : ((conversationMessages db conversation).map historyEntry).length < calls := by
    rwa [List.length_map]
  -- the ids and times alone are loaded as pages of a list
  obtain ⟨entries, hentries, hiff⟩ := complete_iff Prod.snd hsize _ hlen
  have hkey : ∀ payload : ChatMessagePayload,
      (pageEntry payload).2 = payload.display.message.sentAt := fun _ => rfl
  -- and so are the pages that the server sends, seen as ids and times
  have hview := loadAll_map pageEntry hkey
    (fun before => (pageEntry_getMessages hanswered conversation hsize hmax before).symm) size calls
    none
  rw [hentries] at hview
  obtain ⟨pages, hpages, rfl⟩ := Option.map_eq_some_iff.mp hview.symm
  refine ⟨pages, hpages, hiff.trans ?_⟩
  have hkeys : (newestFirst Prod.snd ((conversationMessages db conversation).map historyEntry)).map
      Prod.snd = (newestFirst Message.sentAt (conversationMessages db conversation)).map
        Message.sentAt := by
    rw [keys_newestFirst (((perm_newestFirst Message.sentAt _).map historyEntry))
      (List.pairwise_map.mpr (pairwise_newestFirst Message.sentAt _)), List.map_map]
    rfl
  rw [hkeys]

/-! ## A tie -/

/-- A message that is stored as it was sent; its id ends in the given digit. -/
def plainMessage (digit sentAt : Nat) : Message where
  id := ⟨List.replicate 23 0 ++ [Fin.ofNat 16 digit], rfl⟩
  conversationId := zeroId
  senderId := zeroId
  content := js "hi"
  reverseEncryptionState := .legacy
  encryptedContentVersion := none
  sentAt := sentAt
  seenState := .sent
  decodeErrorCode := none
  isAIBotMessage := false
  isAICommand := false
  attachment := none

/-- A conversation with messages that were sent at the given times. -/
def historyDb (times : List Date) : ChatDb where
  conversations := []
  participants := []
  messages := times.zipIdx.map fun x => plainMessage x.2 x.1
  membershipEvents := []
  attachments := []

/-- Nothing fails while a message is displayed. -/
def quietDisplay (_ : Option Date) (_ : ObjectId) : DisplayInput := ⟨quietIo, ⟨1⟩, ⟨none, none⟩⟩

/-- Three messages in pages of two. -/
theorem historyComplete_iff_three :
    ∃ pages, loadHistory encryptingEnv quietDisplay (historyDb [1, 2, 3]) zeroId 2 4 = some pages ∧
      (HistoryComplete (historyDb [1, 2, 3]) zeroId pages ↔
        Untied 2 ((newestFirst Message.sentAt
          (conversationMessages (historyDb [1, 2, 3]) zeroId)).map Message.sentAt)) := by
  refine historyComplete_iff ?_ zeroId (by decide) (by decide) (by decide)
  intro before message hmessage
  obtain ⟨x, -, rfl⟩ := List.mem_map.mp hmessage
  rfl

/-- Of two messages with the same time, one is in no page of one message. -/
theorem tied_message_lost :
    ∃ pages, loadHistory encryptingEnv quietDisplay (historyDb [5, 5]) zeroId 1 3 = some pages ∧
      ¬ HistoryComplete (historyDb [5, 5]) zeroId pages := by
  have hpages : (loadHistory encryptingEnv quietDisplay (historyDb [5, 5]) zeroId 1 3).map
      (List.map (List.map pageEntry)) = some [[(zeroId, 5)], []] := by decide +kernel
  obtain ⟨pages, hpages, hentries⟩ := Option.map_eq_some_iff.mp hpages
  refine ⟨pages, hpages, fun h => ?_⟩
  have hlen := h.all.length_eq
  rw [hentries] at hlen
  exact absurd hlen (by decide)

end ChatSC.Spec
