import ChatSC.Spec.CallsAlone
import ChatSC.Spec.ChatRuns
import ChatSC.Spec.GroupMembership

/-!
# Read markers and seen flags

How far the participants have read is stored twice: as a marker on each participant and as a flag on
each message.  `markConversationRead` moves a marker and sets the flags of the messages it covers;
`sendMessage` moves the sender's marker to the new message and sets no flag.  `SeenAgrees` says that
flags and markers agree.

The participants are taken as far as markers go (`readMarks`), the messages as far as they are read
(`sentMessages`).  `read_move` says which messages are read once a marker is at the latest message,
`MarksRight` is what the operations keep of both, and `MessagingChange` is what an operation does.
-/

namespace ChatSC.Spec

open Backend Collection JsString Transition

/-- The participant's marker is the message or a newer one. -/
def Covers (db : ChatDb) (p : ConversationParticipant) (m : Message) : Prop :=
  ∃ r ∈ db.messages, p.lastReadMessageId = some r.id ∧ (r.id = m.id ∨ m.sentAt < r.sentAt)

/-- The marker of some other participant is the message or a newer one. -/
def ReadByOther (db : ChatDb) (m : Message) : Prop :=
  ∃ p ∈ db.participants, p.conversationId = m.conversationId ∧ p.userId ≠ m.senderId ∧ Covers db p m

/-- The flags of the messages agree with the markers of the participants. -/
def SeenAgrees (db : ChatDb) : Prop :=
  ∀ m ∈ db.messages, m.seenState = .seen ↔ ReadByOther db m

instance decidableReadByOther (db : ChatDb) (m : Message) : Decidable (ReadByOther db m) :=
  inferInstanceAs (Decidable (∃ p ∈ db.participants, _ ∧ _ ∧ ∃ r ∈ db.messages, _))

instance decidableSeenAgrees (db : ChatDb) : Decidable (SeenAgrees db) :=
  inferInstanceAs (Decidable (∀ m ∈ db.messages, _))

/-! ## Marks -/

/-- A participant, as far as the marker goes. -/
structure ReadMark where
  record : ObjectId
  conversation : ObjectId
  user : ObjectId
  status : ParticipantStatus
  marker : Option ObjectId
deriving DecidableEq

def toMark (p : ConversationParticipant) : ReadMark :=
  ⟨p.id, p.conversationId, p.userId, p.status, p.lastReadMessageId⟩

def readMarks (db : ChatDb) : List ReadMark := db.participants.map toMark

/-- The marker of one record is moved to a message. -/
def ReadMark.move (record message : ObjectId) (k : ReadMark) : ReadMark :=
  if k.record = record then { k with marker := some message } else k

section Move

variable {record message : ObjectId} {k : ReadMark}

@[simp] theorem ReadMark.record_move : (k.move record message).record = k.record := by
  unfold ReadMark.move
  split <;> rfl

@[simp] theorem ReadMark.conversation_move :
    (k.move record message).conversation = k.conversation := by
  unfold ReadMark.move
  split <;> rfl

@[simp] theorem ReadMark.user_move : (k.move record message).user = k.user := by
  unfold ReadMark.move
  split <;> rfl

@[simp] theorem ReadMark.status_move : (k.move record message).status = k.status := by
  unfold ReadMark.move
  split <;> rfl

theorem ReadMark.marker_move :
    (k.move record message).marker = if k.record = record then some message else k.marker := by
  unfold ReadMark.move
  split <;> rfl

end Move

theorem records_readMarks (db : ChatDb) :
    (readMarks db).map ReadMark.record = db.participants.map ConversationParticipant.id := by
  rw [readMarks, List.map_map]
  rfl

theorem readMarks_incrementUnread (db : ChatDb) (c sender : ObjectId) :
    readMarks (db.incrementUnread c sender) = readMarks db :=
  map_updateMany fun _ => rfl

theorem readMarks_resetUnread (db : ChatDb) (record : ObjectId) :
    readMarks (db.resetUnread record) = readMarks db :=
  map_updateOne fun _ => rfl

theorem readMarks_moveMarker {db : ChatDb} (hids : ((readMarks db).map ReadMark.record).Nodup)
    (record message : ObjectId) (lastReadAt : Date) :
    readMarks (db.moveMarker record message lastReadAt) =
      (readMarks db).map (ReadMark.move record message) := by
  rw [records_readMarks] at hids
  -- one record has the id, so the update of one is an update of all that match
  have hall : (db.moveMarker record message lastReadAt).participants =
      updateMany (fun p => p.id = record) (fun p =>
        { p with
          lastReadMessageId := some message
          lastReadAt := some lastReadAt
          unreadCount := 0 }) db.participants :=
    updateOne_eq_updateMany hids fun x _ y _ hx hy =>
      (of_decide_eq_true hx).trans (of_decide_eq_true hy).symm
  rw [readMarks, hall, updateMany, readMarks, List.map_map, List.map_map]
  apply List.map_congr_left
  intro p _
  by_cases h : p.id = record <;> simp [ReadMark.move, toMark, h]

/-! ## What is read -/

/-- The mark of some other user is at the message or at a newer one. -/
def Read (marks : List ReadMark) (sent : List SentMessage) (x : SentMessage) : Prop :=
  ∃ k ∈ marks, k.conversation = x.conversation ∧ k.user ≠ x.sender ∧
    ∃ r ∈ sent, k.marker = some r.id ∧ (r.id = x.id ∨ x.sentAt < r.sentAt)

theorem readByOther_iff {db : ChatDb} {m : Message} :
    ReadByOther db m ↔ Read (readMarks db) (sentMessages db) (toSent m) := by
  simp only [ReadByOther, Covers, Read, readMarks, sentMessages, List.mem_map,
    exists_exists_and_eq_and]
  rfl

/-- What holds of the marks and the messages after the operations. -/
structure MarksRight (marks : List ReadMark) (sent : List SentMessage) : Prop where
  records_nodup : (marks.map ReadMark.record).Nodup
  ids_nodup : (sent.map SentMessage.id).Nodup
  active : ∀ k ∈ marks, k.status = .active
  marker_here : ∀ k ∈ marks, ∀ id, k.marker = some id →
    ∃ r ∈ sent, r.id = id ∧ r.conversation = k.conversation
  sender_here : ∀ x ∈ sent, ∃ k ∈ marks, k.conversation = x.conversation ∧ k.user = x.sender
  times : ∀ x ∈ sent, ∀ y ∈ sent, x.conversation = y.conversation → x.sentAt = y.sentAt → x.id = y.id

section Marks

variable {marks : List ReadMark} {sent : List SentMessage} {k : ReadMark} {r : SentMessage}

/-- Once a marker is at the latest message of its conversation, the messages of the others there are
    read. -/
theorem read_move (hids : (marks.map ReadMark.record).Nodup) (hk : k ∈ marks)
    (hconv : k.conversation = r.conversation) (hr : r ∈ sent)
    (hlatest : ∀ y ∈ sent, y.conversation = r.conversation → y.id = r.id ∨ y.sentAt < r.sentAt)
    {x : SentMessage} (hx : x ∈ sent) :
    Read (marks.map (ReadMark.move k.record r.id)) sent x ↔
      Read marks sent x ∨ (x.conversation = r.conversation ∧ x.sender ≠ k.user) := by
  have hown : ∀ l ∈ marks, l.record = k.record → l = k :=
    fun l hl heq => List.inj_on_of_nodup_map hids hl hk heq
  constructor
  · rintro ⟨l', hl', hc, hu, y, hy, hmarker, hcovers⟩
    obtain ⟨l, hl, rfl⟩ := List.mem_map.mp hl'
    rw [ReadMark.conversation_move] at hc
    rw [ReadMark.user_move] at hu
    rw [ReadMark.marker_move] at hmarker
    by_cases hrecord : l.record = k.record
    · obtain rfl := hown l hl hrecord
      exact .inr ⟨hc.symm.trans hconv, fun h => hu h.symm⟩
    · rw [if_neg hrecord] at hmarker
      exact .inl ⟨l, hl, hc, hu, y, hy, hmarker, hcovers⟩
  · -- the moved mark covers every message of the others
    have hmoved : x.conversation = r.conversation ∧ x.sender ≠ k.user →
        Read (marks.map (ReadMark.move k.record r.id)) sent x := by
      rintro ⟨hc, hu⟩
      refine ⟨_, List.mem_map_of_mem hk, ?_, ?_, r, hr, ?_, ?_⟩
      · rw [ReadMark.conversation_move, hconv, hc]
      · rw [ReadMark.user_move]
        exact fun h => hu h.symm
      · rw [ReadMark.marker_move, if_pos rfl]
      · exact (hlatest x hx hc).imp Eq.symm id
    -- a message that was read stays so: its mark is kept, or moves to the latest message
    rintro (⟨l, hl, hc, hu, y, hy, hmarker, hcovers⟩ | hother)
    · by_cases hrecord : l.record = k.record
      · obtain rfl := hown l hl hrecord
        exact hmoved ⟨hc.symm.trans hconv, fun h => hu h.symm⟩
      · refine ⟨_, List.mem_map_of_mem hl, ?_, ?_, y, hy, ?_, hcovers⟩
        · rw [ReadMark.conversation_move, hc]
        · rwa [ReadMark.user_move]
        · rw [ReadMark.marker_move, if_neg hrecord, hmarker]
    · exact hmoved hother

/-- New participants have read nothing. -/
theorem read_append {new : List ReadMark} (hnone : ∀ k ∈ new, k.marker = none) {x : SentMessage} :
    Read (marks ++ new) sent x ↔ Read marks sent x := by
  constructor
  · rintro ⟨k, hk, hc, hu, r, hr, hmarker, hcovers⟩
    cases List.mem_append.mp hk with
    | inl hold => exact ⟨k, hold, hc, hu, r, hr, hmarker, hcovers⟩
    | inr hnew =>
      rw [hnone k hnew] at hmarker
      cases hmarker
  · rintro ⟨k, hk, hc, hu, hrest⟩
    exact ⟨k, List.mem_append_left _ hk, hc, hu, hrest⟩

/-- New participants that have read nothing. -/
theorem MarksRight.append (hm : MarksRight marks sent) {new : List ReadMark}
    (hids : (new.map ReadMark.record).Nodup)
    (hfresh : ∀ k ∈ new, k.record ∉ marks.map ReadMark.record)
    (hactive : ∀ k ∈ new, k.status = .active) (hnone : ∀ k ∈ new, k.marker = none) :
    MarksRight (marks ++ new) sent where
  records_nodup := by
    rw [List.map_append, List.nodup_append]
    refine ⟨hm.records_nodup, hids, fun a ha b hb heq => ?_⟩
    obtain ⟨k, hk, rfl⟩ := List.mem_map.mp hb
    exact hfresh k hk (heq ▸ ha)
  ids_nodup := hm.ids_nodup
  active := by
    intro k hk
    cases List.mem_append.mp hk with
    | inl hold => exact hm.active k hold
    | inr hnew => exact hactive k hnew
  marker_here := by
    intro k hk id hid
    -- a new record is active and has no marker yet
    cases List.mem_append.mp hk with
    | inl hold => exact hm.marker_here k hold id hid
    | inr hnew =>
      rw [hnone k hnew] at hid
      cases hid
  sender_here := by
    intro x hx
    obtain ⟨k, hk, hsender⟩ := hm.sender_here x hx
    exact ⟨k, List.mem_append_left _ hk, hsender⟩
  times := hm.times

/-- A marker that is moved within its conversation. -/
theorem MarksRight.move (hm : MarksRight marks sent) (hk : k ∈ marks) (hr : r ∈ sent)
    (hconv : k.conversation = r.conversation) :
    MarksRight (marks.map (ReadMark.move k.record r.id)) sent where
  records_nodup := by
    have hsame : (marks.map (ReadMark.move k.record r.id)).map ReadMark.record =
        marks.map ReadMark.record := by
      rw [List.map_map]
      exact List.map_congr_left fun l _ => ReadMark.record_move
    rw [hsame]
    exact hm.records_nodup
  ids_nodup := hm.ids_nodup
  active := by
    intro l' hl'
    obtain ⟨l, hl, rfl⟩ := List.mem_map.mp hl'
    rw [ReadMark.status_move]
    exact hm.active l hl
  marker_here := by
    intro l' hl' id hid
    obtain ⟨l, hl, rfl⟩ := List.mem_map.mp hl'
    rw [ReadMark.marker_move] at hid
    rw [ReadMark.conversation_move]
    -- the moved mark is at the message, every other one where it was
    split at hid
    · rename_i hrecord
      obtain rfl := List.inj_on_of_nodup_map hm.records_nodup hl hk hrecord
      exact ⟨r, hr, Option.some.inj hid, hconv.symm⟩
    · exact hm.marker_here l hl id hid
  sender_here := by
    intro x hx
    obtain ⟨l, hl, hc, hu⟩ := hm.sender_here x hx
    exact ⟨_, List.mem_map_of_mem hl, by simp [hc, hu]⟩
  times := hm.times

section Send

variable {x : SentMessage} (hm : MarksRight marks sent) (hfresh : x.id ∉ sent.map SentMessage.id)
  (hlater : ∀ y ∈ sent, y.conversation = x.conversation → y.sentAt < x.sentAt)

include hm hlater in
/-- A message that is later than those of its conversation. -/
theorem MarksRight.send (hfresh : x.id ∉ sent.map SentMessage.id) (hk : k ∈ marks)
    (hconv : k.conversation = x.conversation) (huser : k.user = x.sender) :
    MarksRight marks (sent ++ [x]) where
  records_nodup := hm.records_nodup
  ids_nodup := by
    rw [List.map_append, List.nodup_append]
    refine ⟨hm.ids_nodup, List.nodup_singleton _, fun a ha b hb heq => hfresh ?_⟩
    obtain rfl : b = x.id := List.mem_singleton.mp hb
    exact heq ▸ ha
  active := hm.active
  marker_here := by
    intro l hl id hid
    obtain ⟨y, hy, hrest⟩ := hm.marker_here l hl id hid
    exact ⟨y, List.mem_append_left _ hy, hrest⟩
  sender_here := by
    intro y hy
    cases List.mem_append.mp hy with
    | inl hold => exact hm.sender_here y hold
    | inr hnew =>
      obtain rfl := List.mem_singleton.mp hnew
      exact ⟨k, hk, hconv, huser⟩
  times := by
    -- the new message is later than all others of its conversation
    intro y hy z hz hc ht
    cases List.mem_append.mp hy with
    | inl hyold =>
      cases List.mem_append.mp hz with
      | inl hzold => exact hm.times y hyold z hzold hc ht
      | inr hznew =>
        obtain rfl := List.mem_singleton.mp hznew
        exact absurd ht (Nat.ne_of_lt (hlater y hyold hc))
    | inr hynew =>
      obtain rfl := List.mem_singleton.mp hynew
      cases List.mem_append.mp hz with
      | inl hzold =>
        exact absurd ht (Nat.ne_of_gt (hlater z hzold hc.symm))
      | inr hznew =>
        obtain rfl := List.mem_singleton.mp hznew
        rfl

include hm hfresh in
/-- No marker is at the new message yet. -/
theorem read_send {y : SentMessage} : Read marks (sent ++ [x]) y ↔ Read marks sent y := by
  constructor
  · rintro ⟨l, hl, hc, hu, r, hr, hmarker, hcovers⟩
    cases List.mem_append.mp hr with
    | inl hold => exact ⟨l, hl, hc, hu, r, hold, hmarker, hcovers⟩
    | inr hnew =>
      obtain rfl := List.mem_singleton.mp hnew
      obtain ⟨z, hz, hid, -⟩ := hm.marker_here l hl _ hmarker
      exact absurd (hid ▸ List.mem_map_of_mem hz) hfresh
  · rintro ⟨l, hl, hc, hu, r, hr, hrest⟩
    exact ⟨l, hl, hc, hu, r, List.mem_append_left _ hr, hrest⟩

include hm hfresh hlater in
/-- Nobody has read the new message. -/
theorem not_read_new : ¬ Read marks sent x := by
  rintro ⟨l, hl, hc, hu, r, hr, hmarker, hcovers⟩
  obtain ⟨z, hz, hid, hconv⟩ := hm.marker_here l hl _ hmarker
  obtain rfl := List.inj_on_of_nodup_map hm.ids_nodup hz hr hid
  cases hcovers with
  | inl hsame => exact hfresh (hsame ▸ List.mem_map_of_mem hr)
  | inr hnewer =>
    exact absurd hnewer (Nat.lt_asymm (hlater z hz (hconv.trans hc)))

include hm hfresh hlater in
/-- Once the sender's marker is at the new message, the messages of the others are read. -/
theorem read_after_send (hk : k ∈ marks) (hconv : k.conversation = x.conversation) {y : SentMessage}
    (hy : y ∈ sent ++ [x]) :
    Read (marks.map (ReadMark.move k.record x.id)) (sent ++ [x]) y ↔
      Read marks sent y ∨ (y.conversation = x.conversation ∧ y.sender ≠ k.user) := by
  have hlatest : ∀ z ∈ sent ++ [x], z.conversation = x.conversation →
      z.id = x.id ∨ z.sentAt < x.sentAt := by
    intro z hz hc
    cases List.mem_append.mp hz with
    | inl hold => exact .inr (hlater z hold hc)
    | inr hnew => exact .inl (congrArg SentMessage.id (List.mem_singleton.mp hnew))
  have hx : x ∈ sent ++ [x] := List.mem_append_right _ List.mem_cons_self
  rw [read_move hm.records_nodup hk hconv hx hlatest hy, read_send hm hfresh]

end Send

end Marks

/-! ## Operations -/

/-- The flags agree with the markers, and both are right. -/
structure SeenInv (db : ChatDb) : Prop where
  marks : MarksRight (readMarks db) (sentMessages db)
  agrees : SeenAgrees db

/-- The message comes after those of its conversation, and those of the others there are seen. -/
def ComesAfterReading (db : ChatDb) (conversation sender : ObjectId) (sentAt : Date) : Prop :=
  ∀ x ∈ db.messages, x.conversationId = conversation →
    x.sentAt < sentAt ∧ (x.senderId ≠ sender → x.seenState = .seen)

/-- What an operation that sends in order does to markers and messages. -/
inductive MessagingChange (before db : ChatDb) : Prop where
  | quiet (hmarks : readMarks db = readMarks before) (hmessages : db.messages = before.messages)
  | joined (new : List ReadMark) (hids : (new.map ReadMark.record).Nodup)
      (hfresh : ∀ k ∈ new, k.record ∉ (readMarks before).map ReadMark.record)
      (hactive : ∀ k ∈ new, k.status = .active) (hnone : ∀ k ∈ new, k.marker = none)
      (hmarks : readMarks db = readMarks before ++ new) (hmessages : db.messages = before.messages)
  | sent (k : ReadMark) (m : Message) (hk : k ∈ readMarks before)
      (hconv : k.conversation = m.conversationId) (huser : k.user = m.senderId)
      (hunseen : m.seenState = .sent) (hfresh : m.id ∉ messageIds before)
      (hmarks : readMarks db = (readMarks before).map (ReadMark.move k.record m.id))
      (hmessages : db.messages = before.messages ++ [m])
      (hafter : ComesAfterReading before m.conversationId m.senderId m.sentAt)
  | read (k : ReadMark) (latest : Message) (others : List ObjectId) (hk : k ∈ readMarks before)
      (hlatest : before.findLatestMessage k.conversation = some latest)
      (hothers : ∀ u, u ∈ others ↔ ∃ l ∈ readMarks before, l.conversation = k.conversation ∧
        l.status = .active ∧ l.user ≠ k.user ∧ l.user = u)
      (hmarks : readMarks db = (readMarks before).map (ReadMark.move k.record latest.id))
      (hmessages : db.messages = (before.markSeen k.conversation others latest.sentAt).messages)

theorem sentMessages_of_messages {db db' : ChatDb} (h : db'.messages = db.messages) :
    sentMessages db' = sentMessages db := by
  rw [sentMessages, h, sentMessages]

/-- The latest message is later than the others of the conversation. -/
theorem MarksRight.latest {db : ChatDb} (hm : MarksRight (readMarks db) (sentMessages db))
    {c : ObjectId} {latest : Message} (h : db.findLatestMessage c = some latest) :
    toSent latest ∈ sentMessages db ∧ latest.conversationId = c ∧
      ∀ y ∈ sentMessages db, y.conversation = latest.conversationId →
        y.id = latest.id ∨ y.sentAt < latest.sentAt := by
  obtain ⟨hmem, hc⟩ := List.mem_filter.mp (mem_of_findLatest h)
  have hc : latest.conversationId = c := of_decide_eq_true hc
  refine ⟨List.mem_map_of_mem hmem, hc, ?_⟩
  intro y hy hyc
  -- the other message was looked at too, so it is not later
  obtain ⟨x, hx, rfl⟩ := List.mem_map.mp hy
  have hxc : x.conversationId = c := hyc.trans hc
  have hle : x.sentAt ≤ latest.sentAt :=
    le_of_findLatest h x (List.mem_filter.mpr ⟨hx, decide_eq_true hxc⟩)
  -- two messages of one time are one, by the invariant
  rcases Nat.lt_or_eq_of_le hle with hlt | heq
  · exact .inr hlt
  · exact .inl (hm.times (toSent x) (List.mem_map_of_mem hx) (toSent latest)
      (List.mem_map_of_mem hmem) hyc heq)

/-- The flags agree where the messages that are read, and the flags, are as before. -/
theorem SeenAgrees.congr {before db : ChatDb} (h : SeenAgrees before)
    (hmessages : db.messages = before.messages)
    (hread : ∀ x, Read (readMarks db) (sentMessages db) x ↔
      Read (readMarks before) (sentMessages before) x) : SeenAgrees db := by
  intro m hm
  rw [hmessages] at hm
  rw [h m hm, readByOther_iff, readByOther_iff, hread]

section Change

variable {before db : ChatDb} {k : ReadMark}

/-- A message that is sent after those of the others are seen. -/
theorem SeenInv.sent (hinv : SeenInv before) {m : Message} (hk : k ∈ readMarks before)
    (hconv : k.conversation = m.conversationId) (huser : k.user = m.senderId)
    (hunseen : m.seenState = .sent) (hfresh : m.id ∉ messageIds before)
    (hmarks : readMarks db = (readMarks before).map (ReadMark.move k.record m.id))
    (hmessages : db.messages = before.messages ++ [m])
    (hafter : ComesAfterReading before m.conversationId m.senderId m.sentAt) : SeenInv db := by
  have hsent : sentMessages db = sentMessages before ++ [toSent m] := by
    rw [sentMessages, hmessages, List.map_append]
    rfl
  have hlater : ∀ y ∈ sentMessages before, y.conversation = (toSent m).conversation →
      y.sentAt < (toSent m).sentAt := by
    intro y hy hc
    obtain ⟨x, hx, rfl⟩ := List.mem_map.mp hy
    exact (hafter x hx hc).1
  -- who has read what, after the new message and the move of the sender's mark
  have hread : ∀ y ∈ sentMessages db, Read (readMarks db) (sentMessages db) y ↔
      Read (readMarks before) (sentMessages before) y ∨
        (y.conversation = m.conversationId ∧ y.sender ≠ k.user) := by
    intro y hy
    rw [hsent] at hy
    rw [hmarks, hsent]
    exact read_after_send hinv.marks hfresh hlater hk hconv hy
  refine ⟨?_, ?_⟩
  · -- the marks: first the message, then the move
    rw [hmarks, hsent]
    exact (hinv.marks.send hlater hfresh hk hconv huser).move hk
      (List.mem_append_right _ List.mem_cons_self) hconv
  · intro x hx
    rw [readByOther_iff, hread (toSent x) (List.mem_map_of_mem hx)]
    rw [hmessages] at hx
    cases List.mem_append.mp hx with
    | inl hold =>
      rw [← readByOther_iff, ← hinv.agrees x hold]
      constructor
      · exact .inl
      · -- the marker passes only messages that are seen already
        rintro (hseen | ⟨hc, hother⟩)
        · exact hseen
        · exact (hafter x hold hc).2 (huser ▸ hother)
    | inr hnew =>
      obtain rfl := List.mem_singleton.mp hnew
      rw [hunseen]
      constructor
      · intro hseen
        cases hseen
      · rintro (hread | ⟨-, hother⟩)
        · exact absurd hread (not_read_new hinv.marks hfresh hlater)
        · exact absurd huser.symm hother

/-- A reading up to the latest message. -/
theorem SeenInv.read (hinv : SeenInv before) {latest : Message} {others : List ObjectId}
    (hk : k ∈ readMarks before) (hlatest : before.findLatestMessage k.conversation = some latest)
    (hothers : ∀ u, u ∈ others ↔ ∃ l ∈ readMarks before, l.conversation = k.conversation ∧
      l.status = .active ∧ l.user ≠ k.user ∧ l.user = u)
    (hmarks : readMarks db = (readMarks before).map (ReadMark.move k.record latest.id))
    (hmessages : db.messages = (before.markSeen k.conversation others latest.sentAt).messages) :
    SeenInv db := by
  obtain ⟨hmem, hc, hlast⟩ := hinv.marks.latest hlatest
  have hsent : sentMessages db = sentMessages before := by
    rw [sentMessages, hmessages]
    exact sentMessages_markSeen before k.conversation others latest.sentAt
  refine ⟨?_, ?_⟩
  · rw [hmarks, hsent]
    exact hinv.marks.move (r := toSent latest) hk hmem hc.symm
  · intro x' hx'
    rw [hmessages] at hx'
    obtain ⟨x, hx, rfl⟩ := mem_updateMany.mp hx'
    have hx' : toSent x ∈ sentMessages before := List.mem_map_of_mem hx
    -- the flags that are set are those of the messages of the others
    have hflag : (x.conversationId = k.conversation && x.senderId ∈ others &&
        x.sentAt ≤ latest.sentAt) = true ↔
          x.conversationId = latest.conversationId ∧ x.senderId ≠ k.user := by
      simp only [Bool.and_eq_true, decide_eq_true_eq, hothers, hc]
      constructor
      · rintro ⟨⟨hxc, l, -, -, -, hother, hl⟩, -⟩
        exact ⟨hxc, hl ▸ hother⟩
      · rintro ⟨hxc, hother⟩
        obtain ⟨l, hl, hlc, hlu⟩ := hinv.marks.sender_here (toSent x) hx'
        have hlu : l.user = x.senderId := hlu
        refine ⟨⟨hxc, l, hl, hlc.trans hxc, hinv.marks.active l hl, hlu ▸ hother, hlu⟩, ?_⟩
        exact le_of_findLatest hlatest x (List.mem_filter.mpr ⟨hx, decide_eq_true hxc⟩)
    have hread : ReadByOther db x ↔ x.seenState = .seen ∨
        (x.conversationId = latest.conversationId ∧ x.senderId ≠ k.user) := by
      rw [readByOther_iff, hmarks, hsent, hinv.agrees x hx, readByOther_iff]
      exact read_move (r := toSent latest) hinv.marks.records_nodup hk hc.symm hmem hlast hx'
    by_cases hset : (x.conversationId = k.conversation && x.senderId ∈ others &&
        x.sentAt ≤ latest.sentAt) = true
    · rw [if_pos hset]
      exact ⟨fun _ => hread.mpr (.inr (hflag.mp hset)), fun _ => rfl⟩
    · rw [if_neg hset, hread, ← hflag]
      exact ⟨.inl, fun h => h.resolve_right hset⟩

/-- Every such operation keeps the invariant. -/
theorem SeenInv.change (hinv : SeenInv before) (hchange : MessagingChange before db) :
    SeenInv db := by
  cases hchange with
  -- neither markers nor messages
  | quiet hmarks hmessages =>
    have hsent := sentMessages_of_messages hmessages
    refine ⟨hmarks ▸ hsent ▸ hinv.marks, hinv.agrees.congr hmessages fun x => ?_⟩
    rw [hmarks, hsent]
  -- somebody has been added, who has read nothing
  | joined new hids hfresh hactive hnone hmarks hmessages =>
    have hsent := sentMessages_of_messages hmessages
    refine ⟨?_, hinv.agrees.congr hmessages fun x => ?_⟩
    · rw [hmarks, hsent]
      exact hinv.marks.append hids hfresh hactive hnone
    · rw [hmarks, hsent]
      exact read_append hnone
  -- a message is sent, or somebody reads
  | sent k m hk hconv huser hunseen hfresh hmarks hmessages hafter =>
    exact hinv.sent hk hconv huser hunseen hfresh hmarks hmessages hafter
  | read k latest others hk hlatest hothers hmarks hmessages =>
    exact hinv.read hk hlatest hothers hmarks hmessages

end Change

/-! ## `createConversation` -/

/-- The participants of a new conversation have read nothing. -/
theorem messagingChange_create {before db : ChatDb} {args : CreateArgs} {pc : CreatePc}
    (hended : ChatCall.ended (.createConversation args pc) = true)
    (hprogress : CreateProgress before args db pc) : MessagingChange before db := by
  cases pc with
  | returned conversation =>
    rcases hprogress with ⟨rfl, -⟩ | ⟨creator, users, hnew, ids, joinedAt, eventIds, occurredAt, hids,
      -, rfl⟩
    · exact .quiet rfl rfl
    · obtain ⟨hlen, hnodup, hunused⟩ := hids
      -- the records of the marks are the ids of the new participants
      have hnewMarks : ((List.zipWith (NewParticipant.document conversation.id creator joinedAt) users
          ids).map toMark).map ReadMark.record = ids := by
        rw [List.map_map]
        exact map_zipWith_right (by intro user id; rfl) hlen
      refine .joined ((List.zipWith (NewParticipant.document conversation.id creator joinedAt) users
        ids).map toMark) (hnewMarks.symm ▸ hnodup) ?_ ?_ ?_ List.map_append rfl
      · intro k hk
        rw [records_readMarks]
        exact hunused k.record (hnewMarks ▸ List.mem_map_of_mem hk)
      · intro k hk
        obtain ⟨p, hp, rfl⟩ := List.mem_map.mp hk
        obtain ⟨user, -, id, -, rfl⟩ := exists_of_mem_zipWith hp
        rfl
      · intro k hk
        obtain ⟨p, hp, rfl⟩ := List.mem_map.mp hk
        obtain ⟨user, -, id, -, rfl⟩ := exists_of_mem_zipWith hp
        rfl
  | threw error =>
    rcases hprogress with rfl | ⟨conversation, creator, -, -, -, -, -, rfl⟩
    · exact .quiet rfl rfl
    · exact .quiet rfl rfl
  | _ => cases hended

/-! ## `sendMessage` -/

/-- The mark of the sender. -/
def IsSenderMark (before : ChatDb) (args : SendArgs) (ctx : SendContext) (k : ReadMark) : Prop :=
  k ∈ readMarks before ∧ k.record = ctx.activeSender ∧ k.conversation = ctx.conversation ∧
    k.user = ctx.sender ∧ ObjectId.ofString? args.conversationId = some ctx.conversation ∧
    ObjectId.ofString? args.senderId = some ctx.sender

/-- The message is stored, and was sent in order. -/
def IsStored (before : ChatDb) (args : SendArgs) (ctx : SendContext) (m : Message) (db : ChatDb) :
    Prop :=
  (∃ k, IsSenderMark before args ctx k) ∧ m.conversationId = ctx.conversation ∧
    m.senderId = ctx.sender ∧ m.seenState = .sent ∧ m.id ∉ messageIds before ∧
    db.messages = before.messages ++ [m] ∧
    ComesAfterReading before m.conversationId m.senderId m.sentAt

/-- What a message has done so far to markers and messages. -/
def SendMarks (before : ChatDb) (args : SendArgs) (db : ChatDb) : SendPc → Prop
  | .start => db = before
  | .findingConversation ctx | .findingParticipants ctx | .findingAttachment ctx _
  | .encrypting ctx _ => db = before ∧ ∃ k, IsSenderMark before args ctx k
  | .restoring _ _ left => left = []
  | .refetching _ _ => False
  | .creating ctx _ _ sentAt => db = before ∧ (∃ k, IsSenderMark before args ctx k) ∧
      ComesAfterReading before ctx.conversation ctx.sender sentAt
  | .savingAttachment ctx m _ _ | .updatingConversation ctx m | .updatingSender ctx m =>
    readMarks db = readMarks before ∧ IsStored before args ctx m db
  | .incrementing ctx m =>
    readMarks db = (readMarks before).map (ReadMark.move ctx.activeSender m.id) ∧
      IsStored before args ctx m db
  | .returned m _ => ∃ ctx,
    readMarks db = (readMarks before).map (ReadMark.move ctx.activeSender m.id) ∧
      IsStored before args ctx m db
  | .threw _ => db = before

/-- The time that a message gets. -/
def GivesTime (before : ChatDb) (args : SendArgs) (input : CallInput) : Prop :=
  ∀ c u, ObjectId.ofString? args.conversationId = some c → ObjectId.ofString? args.senderId = some u →
    ComesAfterReading before c u input.now

section Send

variable {before db : ChatDb} {args : SendArgs} {ctx : SendContext} {k : ReadMark}
  {input : CallInput}

theorem IsSenderMark.comesAfterReading (hk : IsSenderMark before args ctx k)
    (hok : GivesTime before args input) :
    ComesAfterReading before ctx.conversation ctx.sender input.now := by
  obtain ⟨-, -, -, -, hc, hu⟩ := hk
  exact hok _ _ hc hu

theorem sendMarks_sendEncrypt (hk : IsSenderMark before args ctx k)
    (hok : GivesTime before args input) (attachment : Option ChatAttachment) :
    SendMarks before args before (sendEncrypt args ctx attachment input.now) := by
  unfold sendEncrypt
  split
  · rfl
  · split
    · exact ⟨rfl, k, hk⟩
    · exact ⟨rfl, ⟨k, hk⟩, hk.comesAfterReading hok⟩

theorem sendMarks_sendAttachment (hk : IsSenderMark before args ctx k)
    (hok : GivesTime before args input) :
    SendMarks before args before (sendAttachment args ctx input.now) := by
  unfold sendAttachment
  split
  · exact sendMarks_sendEncrypt hk hok none
  · split
    · rfl
    · exact ⟨rfl, k, hk⟩

/-- A step of `sendMessage` where nobody has to be restored. -/
theorem SendMarks.step {env : BackendEnv} {db' : ChatDb} {pc pc' : SendPc}
    (hm : MarksRight (readMarks before) (sentMessages before)) (hok : GivesTime before args input)
    (hmarks : SendMarks before args db pc) (h : sendStep env db args input pc = some (db', pc')) :
    SendMarks before args db' pc' := by
  cases sendStep_cases h with
  | refused error => exact hmarks
  | sender participant hnonempty hsender =>
    obtain rfl : db = before := hmarks
    obtain ⟨hc, hu, hfound⟩ := getRequiredActiveParticipant_ok hsender
    exact ⟨rfl, toMark participant, List.mem_map_of_mem (findActive_eq_some hfound).1, rfl, rfl, rfl,
      hc, hu⟩
  | direct ctx conversation hfound hdirect => exact hmarks
  | notDirect ctx =>
    obtain ⟨rfl, k, hk⟩ := hmarks
    exact sendMarks_sendAttachment hk hok
  | nothingToRestore ctx =>
    obtain ⟨rfl, k, hk⟩ := hmarks
    exact sendMarks_sendAttachment hk hok
  | toRestore ctx =>
    obtain ⟨rfl, k, hk⟩ := hmarks
    -- all participants are active
    show participantsToRestore db ctx.conversation args.senderId = []
    rw [participantsToRestore, List.map_eq_nil_iff, List.filter_eq_nil_iff]
    intro p hp
    have hmem : p ∈ db.participants :=
      (List.mem_filter.mp ((List.mergeSort_perm _ _).mem_iff.mp hp)).1
    have hactive : p.status = .active := hm.active (toMark p) (List.mem_map_of_mem hmem)
    simp [hactive]
  | restoredLast ctx toRestore left record hrecord =>
    have hnone : left = [] := hmarks
    exact absurd (hnone ▸ hrecord) List.not_mem_nil
  | restored ctx toRestore left record hrecord =>
    have hnone : left = [] := hmarks
    exact absurd (hnone ▸ hrecord) List.not_mem_nil
  | refetched ctx toRestore => exact hmarks.elim
  | badAttachment ctx attachment error => exact hmarks.1
  | attachment ctx attachment found hfound =>
    obtain ⟨rfl, k, hk⟩ := hmarks
    exact sendMarks_sendEncrypt hk hok (some found)
  | encryptionFailed ctx attachment error => exact hmarks.1
  | encrypted ctx attachment encrypted hencrypted =>
    obtain ⟨rfl, k, hk⟩ := hmarks
    exact ⟨rfl, ⟨k, hk⟩, hk.comesAfterReading hok⟩
  | createdWith ctx attachment encrypted sentAt hfresh =>
    obtain ⟨rfl, hk, hafter⟩ := hmarks
    exact ⟨rfl, hk, rfl, rfl, rfl, messageIds_eq db ▸ hfresh, rfl, hafter⟩
  | created ctx encrypted sentAt hfresh =>
    obtain ⟨rfl, hk, hafter⟩ := hmarks
    exact ⟨rfl, hk, rfl, rfl, rfl, messageIds_eq db ▸ hfresh, rfl, hafter⟩
  | attached ctx message attachment confirmedAt => exact hmarks
  | touched ctx message => exact hmarks
  | marked ctx message =>
    obtain ⟨hsame, hstored⟩ := hmarks
    refine ⟨?_, hstored⟩
    rw [readMarks_moveMarker (hsame ▸ hm.records_nodup), hsame]
  | counted ctx message =>
    obtain ⟨hmoved, hstored⟩ := hmarks
    refine ⟨ctx, ?_, hstored⟩
    rw [readMarks_incrementUnread, hmoved]

/-- A message as a whole. -/
theorem messagingChange_send {env : BackendEnv} {inputs : List CallInput} {call : ChatCall}
    (hm : MarksRight (readMarks before) (sentMessages before))
    (hok : ∀ input ∈ inputs, GivesTime before args input)
    (hrun : run (aloneStep env) (before, .sendMessage args .start) inputs = some (db, call))
    (hended : call.ended = true) : MessagingChange before db := by
  have hstart : SendMarks before args before .start := rfl
  obtain ⟨pc, rfl, hmarks⟩ := run_alone_of_inputs (fun _ _ _ => rfl)
    (fun _ _ _ _ _ hinput hmarks hstep => hmarks.step hm hinput hstep) hstart hok hrun
  cases pc with
  | returned m restored =>
    -- the sender's marker stands at the message that is stored
    obtain ⟨ctx, hmoved, ⟨k, hk, hrecord, hc, hu, -, -⟩, hmc, hmu, hunseen, hfresh, hmessages, hafter⟩ :=
      hmarks
    rw [← hrecord] at hmoved
    exact .sent k m hk (hc.trans hmc.symm) (hu.trans hmu.symm) hunseen hfresh hmoved hmessages hafter
  | threw error =>
    -- a refusal has changed nothing
    obtain rfl : db = before := hmarks
    exact .quiet rfl rfl
  | _ => cases hended

end Send

/-! ## `markConversationRead` -/

/-- The mark of the reader. -/
def IsReaderMark (before : ChatDb) (args : MemberArgs) (c record : ObjectId) (k : ReadMark) : Prop :=
  k ∈ readMarks before ∧ k.record = record ∧ k.conversation = c ∧
    ObjectId.ofString? args.userId = some k.user

/-- The marker of the reader is at the latest message. -/
def IsMoved (before : ChatDb) (args : MemberArgs) (c : ObjectId) (latest : Message) (db : ChatDb) :
    Prop :=
  ∃ k, IsReaderMark before args c k.record k ∧ before.findLatestMessage c = some latest ∧
    readMarks db = (readMarks before).map (ReadMark.move k.record latest.id)

/-- The other users of the conversation. -/
def otherUsers (db : ChatDb) (args : MemberArgs) (c : ObjectId) : List ObjectId :=
  ((db.findActiveParticipants c).filter (·.userId.toString ≠ args.userId)).map
    ConversationParticipant.userId

/-- What a reading has done so far to markers and messages. -/
def ReadMarks (before : ChatDb) (args : MemberArgs) (db : ChatDb) : MarkReadPc → Prop
  | .guarding | .start | .threw _ => db = before
  | .findingLatest c record => db = before ∧ ∃ k, IsReaderMark before args c record k
  | .updatingMarker c record latest _ => db = before ∧ (∃ k, IsReaderMark before args c record k) ∧
      before.findLatestMessage c = latest
  | .findingParticipants c latest =>
    db.messages = before.messages ∧ IsMoved before args c latest db
  | .updatingMessages c latest others =>
    db.messages = before.messages ∧ IsMoved before args c latest db ∧ others = otherUsers db args c
  | .returned _ => (readMarks db = readMarks before ∧ db.messages = before.messages) ∨
    ∃ c latest, IsMoved before args c latest db ∧
      db.messages = (before.markSeen c (otherUsers db args c) latest.sentAt).messages

section Reading

variable {before db : ChatDb} {args : MemberArgs} {input : CallInput}

/-- With nobody else there are no flags to set. -/
theorem markSeen_nil (db : ChatDb) (c : ObjectId) (upTo : Date) :
    (db.markSeen c [] upTo).messages = db.messages :=
  updateMany_eq_self fun x _ => by simp

/-- A step of `markConversationRead`. -/
theorem ReadMarks.step {db' : ChatDb} {pc pc' : MarkReadPc}
    (hids : ((readMarks before).map ReadMark.record).Nodup) (hmarks : ReadMarks before args db pc)
    (h : markReadStep db args input pc = some (db', pc')) : ReadMarks before args db' pc' := by
  cases markReadStep_cases h with
  | refused error => exact hmarks
  | passed participant hguard => exact hmarks
  | notMember error => exact hmarks
  | member participant hmember =>
    obtain rfl : db = before := hmarks
    obtain ⟨-, hu, hfound⟩ := getRequiredActiveParticipant_ok hmember
    exact ⟨rfl, toMark participant, List.mem_map_of_mem (findActive_eq_some hfound).1, rfl, rfl, hu⟩
  | latest c record =>
    obtain ⟨rfl, hk⟩ := hmarks
    exact ⟨rfl, hk, rfl⟩
  | reset c record lastReadAt =>
    obtain ⟨rfl, -⟩ := hmarks
    exact .inl ⟨readMarks_resetUnread db record, rfl⟩
  | marked c record latest lastReadAt =>
    obtain ⟨rfl, ⟨k, hk, rfl, hrest⟩, hlatest⟩ := hmarks
    exact ⟨rfl, k, ⟨hk, rfl, hrest⟩, hlatest, readMarks_moveMarker hids _ _ _⟩
  -- with nobody else in the conversation there is nothing to be seen
  | noOthers c latest hnone =>
    obtain ⟨hsame, hmoved⟩ := hmarks
    have hnone : otherUsers db args c = [] := hnone
    refine .inr ⟨c, latest, hmoved, ?_⟩
    rw [hnone, markSeen_nil]
    exact hsame
  | others c latest =>
    obtain ⟨hsame, hmoved⟩ := hmarks
    exact ⟨hsame, hmoved, rfl⟩
  | seen c latest others =>
    obtain ⟨hsame, hmoved, rfl⟩ := hmarks
    refine .inr ⟨c, latest, hmoved, ?_⟩
    show updateMany _ _ db.messages = updateMany _ _ before.messages
    rw [hsame]
    rfl

/-- Moving a marker leaves alone who is in a conversation. -/
theorem mem_otherUsers {record message : ObjectId} {c u reader : ObjectId}
    (hreader : args.userId = reader.toString)
    (hmoved : readMarks db = (readMarks before).map (ReadMark.move record message)) :
    u ∈ otherUsers db args c ↔ ∃ l ∈ readMarks before, l.conversation = c ∧ l.status = .active ∧
      l.user ≠ reader ∧ l.user = u := by
  have hmarks : u ∈ otherUsers db args c ↔ ∃ l ∈ readMarks db, l.conversation = c ∧
      l.status = .active ∧ l.user ≠ reader ∧ l.user = u := by
    simp only [otherUsers, ChatDb.findActiveParticipants, readMarks, List.mem_map, List.mem_filter,
      Bool.and_eq_true, decide_eq_true_eq, exists_exists_and_eq_and, toMark, hreader, ne_eq,
      ObjectId.toString_inj, and_assoc]
  rw [hmarks, hmoved]
  simp only [List.mem_map, exists_exists_and_eq_and, ReadMark.conversation_move,
    ReadMark.status_move, ReadMark.user_move]

/-- A reading as a whole. -/
theorem messagingChange_read {env : BackendEnv} {inputs : List CallInput} {call : ChatCall}
    {pc : MarkReadPc} (hids : ((readMarks before).map ReadMark.record).Nodup)
    (huser : HandedOut args.userId)
    (hstart : ChatCall.isStart (.markConversationRead args pc) = true)
    (hrun : run (aloneStep env) (before, .markConversationRead args pc) inputs = some (db, call))
    (hended : call.ended = true) : MessagingChange before db := by
  have hstart : ReadMarks before args before pc := by
    simp only [ChatCall.isStart, Bool.or_eq_true, decide_eq_true_eq] at hstart
    rcases hstart with rfl | rfl <;> rfl
  obtain ⟨pc', rfl, hmarks⟩ := run_alone (fun _ _ _ => rfl)
    (fun _ _ _ _ _ hmarks hstep => hmarks.step hids hstep) hstart hrun
  cases pc' with
  | returned lastRead =>
    -- there was nothing to read, or the marker stands at the latest message
    rcases hmarks with ⟨hsame, hmessages⟩ | ⟨c, latest, ⟨k, hk, hlatest, hmoved⟩, hmessages⟩
    · exact .quiet hsame hmessages
    · -- the reader's id is written out and read back
      obtain ⟨hk, -, rfl, hu⟩ := hk
      obtain ⟨reader, hreader⟩ := huser
      rw [hreader, ObjectId.ofString?_toString] at hu
      obtain rfl := Option.some.inj hu
      exact .read k latest _ hk hlatest (fun u => mem_otherUsers hreader hmoved) hmoved hmessages
  | threw error =>
    obtain rfl : db = before := hmarks
    exact .quiet rfl rfl
  | _ => cases hended

end Reading

/-! ## Operations one after another -/

/-- The operations of users with a session that keep all members active. -/
def IsMessaging : ChatCall → Prop
  | .createConversation _ _ => True
  | .sendMessage args _ => HandedOut args.senderId
  | .markConversationRead args _ => HandedOut args.userId
  | _ => False

/-- A message is sent when the clock has moved on since the messages of its conversation, and those
    of the others there are seen. -/
def SendsAfterReading (db : ChatDb) (operation : Operation) : Prop :=
  match operation.call with
  | .sendMessage args _ =>
    ∀ x ∈ db.messages, ObjectId.ofString? args.conversationId = some x.conversationId →
      (∀ input ∈ operation.inputs, x.sentAt < input.now) ∧
        (args.senderId ≠ x.senderId.toString → x.seenState = .seen)
  | _ => True

instance decidableSendsAfterReading (db : ChatDb) :
    (operation : Operation) → Decidable (SendsAfterReading db operation)
  | ⟨.sendMessage args _, inputs⟩ => inferInstanceAs (Decidable (∀ x ∈ db.messages,
      ObjectId.ofString? args.conversationId = some x.conversationId →
        (∀ input ∈ inputs, x.sentAt < input.now) ∧
          (args.senderId ≠ x.senderId.toString → x.seenState = .seen)))
  | ⟨.createConversation _ _, _⟩ | ⟨.addMember _ _, _⟩ | ⟨.removeMember _ _, _⟩
  | ⟨.markConversationLeft _ _, _⟩ | ⟨.markConversationRead _ _, _⟩ =>
    inferInstanceAs (Decidable True)

/-- Every operation of this kind keeps the invariant. -/
theorem SeenInv.step {env : BackendEnv} {before db : ChatDb} {operation : Operation}
    (hinv : SeenInv before) (hcall : IsMessaging operation.call)
    (hok : SendsAfterReading before operation)
    (h : operationStep env before operation = some db) : SeenInv db := by
  obtain ⟨call, inputs⟩ := operation
  obtain ⟨hstart, call', hrun, hended⟩ := operationStep_eq_some.mp h
  apply hinv.change
  cases call with
  | createConversation args pc =>
    obtain rfl : pc = .start := of_decide_eq_true hstart
    obtain ⟨pc', rfl, hprogress⟩ := createProgress_of_run hrun
    exact messagingChange_create hended hprogress
  | sendMessage args pc =>
    obtain rfl : pc = .start := of_decide_eq_true hstart
    obtain ⟨sender, hsender⟩ : HandedOut args.senderId := hcall
    -- the session hands the sender's id out, so the condition speaks of the same user
    refine messagingChange_send hinv.marks (fun input hinput c u hc hu x hx hxc => ?_) hrun hended
    rw [hsender, ObjectId.ofString?_toString] at hu
    obtain rfl := Option.some.inj hu
    obtain ⟨hlater, hseen⟩ := hok x hx (hxc ▸ hc)
    refine ⟨hlater input hinput, fun hother => hseen fun heq => hother ?_⟩
    exact (ObjectId.toString_injective (hsender.symm.trans heq)).symm
  | markConversationRead args pc =>
    exact messagingChange_read hinv.marks.records_nodup hcall hstart hrun hended
  | addMember args pc => exact hcall.elim
  | removeMember args pc => exact hcall.elim
  | markConversationLeft args pc => exact hcall.elim

/-- **Flags and markers agree** after any conversations, messages and readings, one after another,
    in which every message is sent when the clock has moved on since the messages of its
    conversation, and those of the others there are seen. -/
theorem seen_agrees {env : BackendEnv} {attachments : List ChatAttachment}
    {operations : List Operation} {db : ChatDb}
    (hcalls : ∀ operation ∈ operations, IsMessaging operation.call)
    (hok : Guarded (operationStep env) SendsAfterReading (ChatDb.start attachments) operations)
    (hrun : run (operationStep env) (ChatDb.start attachments) operations = some db) :
    SeenAgrees db := by
  have hguarded : Guarded (operationStep env) (fun _ operation => IsMessaging operation.call)
      (ChatDb.start attachments) operations :=
    Guarded.of_forall fun operation hmem _ => hcalls operation hmem
  -- nothing is stored, so nothing can disagree
  have hstart : SeenInv (ChatDb.start attachments) := by
    refine ⟨⟨List.nodup_nil, List.nodup_nil, ?_, ?_, ?_, ?_⟩, ?_⟩
    · exact fun _ h => absurd h List.not_mem_nil
    · exact fun _ h => absurd h List.not_mem_nil
    · exact fun _ h => absurd h List.not_mem_nil
    · exact fun _ h => absurd h List.not_mem_nil
    · exact fun _ h => absurd h List.not_mem_nil
  exact (run_invariant_of_guarded (fun _ _ _ hinv hok h => hinv.step hok.1 hok.2 h) hstart
    (hguarded.and hok) hrun).agrees

/-- A message to the group as an operation. -/
def sayHello (sender : ObjectId) (id : ObjectId) (now : Date) : Operation where
  call := .sendMessage ⟨(digitId 3).toString, sender.toString, js "hello", [], false⟩ .start
  inputs := List.replicate 7 (plainInput now id [])

/-- User 2 reads the group. -/
def readGroup (now : Date) : Operation where
  call := .markConversationRead ⟨(digitId 3).toString, (digitId 2).toString⟩ .start
  inputs := List.replicate 5 (plainInput now (digitId 0) [])

/-- User 1 sends a message, user 2 reads it and answers. -/
theorem seen_agrees_answered : ∃ db,
    run (operationStep plainEnv) (ChatDb.start [])
      [createGroup, sayHello (digitId 1) (digitId 8) 10, readGroup 20,
        sayHello (digitId 2) (digitId 9) 30] = some db ∧ SeenAgrees db := by
  obtain ⟨db, hrun⟩ : ∃ db, run (operationStep plainEnv) (ChatDb.start [])
      [createGroup, sayHello (digitId 1) (digitId 8) 10, readGroup 20,
        sayHello (digitId 2) (digitId 9) 30] = some db := ⟨_, rfl⟩
  have hcalls : ∀ operation ∈ [createGroup, sayHello (digitId 1) (digitId 8) 10, readGroup 20,
      sayHello (digitId 2) (digitId 9) 30], IsMessaging operation.call := by
    simp only [List.forall_mem_cons]
    exact ⟨trivial, ⟨digitId 1, rfl⟩, ⟨digitId 2, rfl⟩, ⟨digitId 2, rfl⟩,
      fun _ h => absurd h List.not_mem_nil⟩
  exact ⟨db, hrun, seen_agrees hcalls (by decide +kernel) hrun⟩

/-- User 2 answers without reading: the marker is newer than the message of user 1, which stays
    unseen. -/
theorem answered_message_unseen : ∃ db,
    run (operationStep plainEnv) (ChatDb.start [])
      [createGroup, sayHello (digitId 1) (digitId 8) 10, sayHello (digitId 2) (digitId 9) 30] =
        some db ∧
      (∃ m ∈ db.messages, m.seenState = .sent ∧ ReadByOther db m) ∧ ¬ SeenAgrees db := by
  refine ⟨_, rfl, ?_⟩
  decide +kernel

end ChatSC.Spec
