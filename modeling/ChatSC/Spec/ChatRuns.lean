import ChatSC.Spec.MembershipSteps
import ChatSC.ForStd.Records

/-!
# Calls at the same time

What the steps of the calls do to the participants and the messages, said once for each call
(`RosterEffect`, `SendEffect`, `MarkReadEffect`), and what holds in every state of every run of the
interleaved calls (`Consistent`): ids are unique, markers and local variables refer to messages that
are stored, and every message is stored by one call.
-/

namespace ChatSC.Spec

open Backend Collection JsString Records Transition

/-! ## Messages -/

/-- A stored message, as far as counters and markers go. -/
structure SentMessage where
  id : ObjectId
  conversation : ObjectId
  sender : ObjectId
  sentAt : Date
deriving DecidableEq

def toSent (m : Message) : SentMessage := ⟨m.id, m.conversationId, m.senderId, m.sentAt⟩

/-- The stored messages. -/
def sentMessages (db : ChatDb) : List SentMessage := db.messages.map toSent

/-- The ids of the stored messages. -/
def messageIds (db : ChatDb) : List ObjectId := (sentMessages db).map SentMessage.id

theorem messageIds_eq (db : ChatDb) : messageIds db = db.messages.map Message.id := by
  rw [messageIds, sentMessages, List.map_map]
  rfl

@[simp] theorem sentMessages_createMessage (db : ChatDb) (m : Message) :
    sentMessages (db.createMessage m) = sentMessages db ++ [toSent m] := by
  simp [sentMessages, ChatDb.createMessage]

@[simp] theorem sentMessages_markSeen (db : ChatDb) (c : ObjectId) (senders : List ObjectId)
    (upTo : Date) : sentMessages (db.markSeen c senders upTo) = sentMessages db := by
  simp only [sentMessages, ChatDb.markSeen]
  rw [map_updateMany (f := toSent)]
  intro x
  rfl

/-! ## Effects -/

/-- What a step of a call that makes or ends memberships does to the participants. -/
inductive RosterEffect (db : ChatDb) : ChatDb → Prop where
  | same {db' : ChatDb} (h : db'.participants = db.participants) : RosterEffect db db'
  | joined {db' : ChatDb} (ps : List ConversationParticipant)
      (h : db'.participants = db.participants ++ ps)
      (hids : (ps.map ConversationParticipant.id).Nodup)
      (hfresh : ∀ p ∈ ps, p.id ∉ db.participants.map ConversationParticipant.id)
      (hmarker : ∀ p ∈ ps, p.lastReadMessageId = none) : RosterEffect db db'
  | ended {db' : ChatDb} (c u : ObjectId) (status : ParticipantStatus) (leftAt : Date)
      (h : db'.participants = (db.endMembership c u status leftAt).participants) :
      RosterEffect db db'

theorem createStep_effect {db db' : ChatDb} {args : CreateArgs} {pc pc' : CreatePc}
    {input : CallInput} (h : createStep db args input pc = some (db', pc')) :
    db'.messages = db.messages ∧ RosterEffect db db' := by
  cases createStep_cases h with
  -- the only step that adds records
  | participants conversation creator users joinedAt hfresh =>
    obtain ⟨hlen, hnodup, hunused⟩ := hfresh
    have hids : (List.zipWith (NewParticipant.document conversation.id creator joinedAt) users
        input.newIds).map ConversationParticipant.id = input.newIds :=
      map_zipWith_right (by intro user id; rfl) hlen
    refine ⟨rfl, .joined _ rfl (hids.symm ▸ hnodup) ?_ ?_⟩
    · intro p hp
      exact hunused p.id (hids ▸ List.mem_map_of_mem hp)
    · -- a new record has no read marker
      intro p hp
      obtain ⟨user, -, id, -, rfl⟩ := exists_of_mem_zipWith hp
      rfl
  -- the other steps read, or write conversations and events
  | _ => exact ⟨rfl, .same rfl⟩

theorem addMemberStep_effect {db db' : ChatDb} {args : MembershipArgs} {pc pc' : AddMemberPc}
    {input : CallInput} (h : addMemberStep db args input pc = some (db', pc')) :
    db'.messages = db.messages ∧ RosterEffect db db' := by
  cases addMemberStep_cases h with
  | created c u actor joinedAt hfresh =>
    refine ⟨rfl, .joined _ rfl (List.nodup_singleton _) ?_ ?_⟩
    · intro p hp
      obtain rfl := List.mem_singleton.mp hp
      exact hfresh
    · intro p hp
      obtain rfl := List.mem_singleton.mp hp
      rfl
  | _ => exact ⟨rfl, .same rfl⟩

theorem endStep_effect {ending : Ending} {guard : ChatDb → Except ChatError ConversationParticipant}
    {userId : JsString} {db db' : ChatDb} {pc pc' : EndPc} {input : CallInput}
    (h : endStep ending guard userId db input pc = some (db', pc')) :
    db'.messages = db.messages ∧ RosterEffect db db' := by
  cases endStep_cases h with
  | updated c u actor leftAt huser => exact ⟨rfl, .ended c u _ leftAt rfl⟩
  | _ => exact ⟨rfl, .same rfl⟩

/-- The message of `sendMessage` that is stored, while the counters do not have it yet. -/
def uncounted : SendPc → Option (SendContext × Message)
  | .savingAttachment ctx message _ _ | .updatingConversation ctx message
  | .updatingSender ctx message | .incrementing ctx message => some (ctx, message)
  | _ => none

/-- What a step of `sendMessage` does to the participants and the messages. -/
inductive SendEffect (db : ChatDb) (args : SendArgs) : SendPc → ChatDb → SendPc → Prop where
  | quiet {pc pc' : SendPc} {db' : ChatDb} (hparticipants : db'.participants = db.participants)
      (hmessages : db'.messages = db.messages) (huncounted : uncounted pc' = uncounted pc) :
      SendEffect db args pc db' pc'
  | restored {pc' : SendPc} (ctx : SendContext) (toRestore left : List ObjectId) (record : ObjectId)
      (huncounted : uncounted pc' = none) :
      SendEffect db args (.restoring ctx toRestore left) (db.restoreParticipant record) pc'
  | created {pc' : SendPc} (ctx : SendContext) (attachment : Option ChatAttachment)
      (encrypted : EncryptedContent) (sentAt : Date) (id : ObjectId)
      (hfresh : id ∉ messageIds db)
      (huncounted : uncounted pc' =
        some (ctx, newMessage args ctx attachment encrypted sentAt id)) :
      SendEffect db args (.creating ctx attachment encrypted sentAt)
        (db.createMessage (newMessage args ctx attachment encrypted sentAt id)) pc'
  | marked (ctx : SendContext) (message : Message) :
      SendEffect db args (.updatingSender ctx message)
        (db.moveMarker ctx.activeSender message.id message.sentAt) (.incrementing ctx message)
  | counted (ctx : SendContext) (message : Message) :
      SendEffect db args (.incrementing ctx message)
        (db.incrementUnread ctx.conversation ctx.sender) (.returned message ctx.restored)

theorem uncounted_sendEncrypt (args : SendArgs) (ctx : SendContext)
    (attachment : Option ChatAttachment) (now : Date) :
    uncounted (sendEncrypt args ctx attachment now) = none := by
  unfold sendEncrypt
  split
  · rfl
  · split <;> rfl

theorem uncounted_sendAttachment (args : SendArgs) (ctx : SendContext) (now : Date) :
    uncounted (sendAttachment args ctx now) = none := by
  unfold sendAttachment
  split
  · exact uncounted_sendEncrypt args ctx none now
  · split <;> rfl

theorem sendStep_effect {env : BackendEnv} {db db' : ChatDb} {args : SendArgs} {pc pc' : SendPc}
    {input : CallInput} (h : sendStep env db args input pc = some (db', pc')) :
    SendEffect db args pc db' pc' := by
  -- before the message there are at most records that are restored
  cases sendStep_cases h with
  | notDirect ctx => exact .quiet rfl rfl (uncounted_sendAttachment _ _ _)
  | nothingToRestore ctx => exact .quiet rfl rfl (uncounted_sendAttachment _ _ _)
  | restoredLast ctx toRestore left record hrecord =>
    exact .restored ctx toRestore left record rfl
  | restored ctx toRestore left record hrecord => exact .restored ctx toRestore left record rfl
  | refetched ctx toRestore => exact .quiet rfl rfl (uncounted_sendAttachment _ _ _)
  -- the checks of the attachment
  | attachment ctx attachment found hfound =>
    exact .quiet rfl rfl (uncounted_sendEncrypt _ _ _ _)
  -- the two ways to create the message
  | createdWith ctx attachment encrypted sentAt hfresh =>
    exact .created ctx (some attachment) encrypted sentAt input.newId (messageIds_eq db ▸ hfresh) rfl
  | created ctx encrypted sentAt hfresh =>
    exact .created ctx none encrypted sentAt input.newId (messageIds_eq db ▸ hfresh) rfl
  -- what follows a message that is stored: the attachment is marked, the members count it
  | marked ctx message => exact .marked ctx message
  | counted ctx message => exact .counted ctx message
  | _ => exact .quiet rfl rfl rfl

/-- The message that `markConversationRead` has found. -/
def foundLatest : MarkReadPc → Option Message
  | .updatingMarker _ _ latest _ => latest
  | _ => none

/-- What a step of `markConversationRead` does to the participants and the messages. -/
inductive MarkReadEffect (db : ChatDb) : MarkReadPc → ChatDb → MarkReadPc → Prop where
  | quiet {pc pc' : MarkReadPc} {db' : ChatDb} (hparticipants : db'.participants = db.participants)
      (hmessages : sentMessages db' = sentMessages db) (hfound : foundLatest pc' = none) :
      MarkReadEffect db pc db' pc'
  | found (c participant : ObjectId) (lastReadAt : Date) :
      MarkReadEffect db (.findingLatest c participant) db
        (.updatingMarker c participant (db.findLatestMessage c) lastReadAt)
  | reset (c participant : ObjectId) (lastReadAt : Date) :
      MarkReadEffect db (.updatingMarker c participant none lastReadAt)
        (db.resetUnread participant) (.returned none)
  | marked (c participant : ObjectId) (latest : Message) (lastReadAt : Date) :
      MarkReadEffect db (.updatingMarker c participant (some latest) lastReadAt)
        (db.moveMarker participant latest.id lastReadAt) (.findingParticipants c latest)

theorem markReadStep_effect {db db' : ChatDb} {args : MemberArgs} {pc pc' : MarkReadPc}
    {input : CallInput} (h : markReadStep db args input pc = some (db', pc')) :
    MarkReadEffect db pc db' pc' := by
  cases markReadStep_cases h with
  | latest c participant => exact .found c participant input.now
  | reset c participant lastReadAt => exact .reset c participant lastReadAt
  | marked c participant message lastReadAt => exact .marked c participant message lastReadAt
  | seen c message others => exact .quiet rfl (sentMessages_markSeen _ _ _ _) rfl
  | _ => exact .quiet rfl rfl rfl

/-! ## Stored documents -/

/-- The participants' ids with their markers. -/
def markers (db : ChatDb) : List (ObjectId × Option ObjectId) :=
  db.participants.map fun p => (p.id, p.lastReadMessageId)

/-- Ids are unique, and every marker is a stored message. -/
structure DbConsistent (db : ChatDb) : Prop where
  participants_nodup : (db.participants.map ConversationParticipant.id).Nodup
  messages_nodup : (messageIds db).Nodup
  marker_stored : ∀ p ∈ db.participants, ∀ id, p.lastReadMessageId = some id → id ∈ messageIds db

/-- Nothing else of the documents matters. -/
theorem DbConsistent.congr {db db' : ChatDb} (hdb : DbConsistent db)
    (hmarkers : markers db' = markers db) (hsent : sentMessages db' = sentMessages db) :
    DbConsistent db' where
  participants_nodup := by
    -- the ids of the records are a part of their markers
    have hids : ∀ db : ChatDb, db.participants.map ConversationParticipant.id =
        (markers db).map Prod.fst := by
      intro db
      rw [markers, List.map_map]
      rfl
    rw [hids db', hmarkers, ← hids db]
    exact hdb.participants_nodup
  messages_nodup := by
    rw [messageIds, hsent]
    exact hdb.messages_nodup
  -- a marker of the new state is one of the old state
  marker_stored := by
    intro p hp id hmarker
    have hmem : (p.id, some id) ∈ markers db' :=
      List.mem_map.mpr ⟨p, hp, by rw [hmarker]⟩
    rw [hmarkers] at hmem
    obtain ⟨q, hq, heq⟩ := List.mem_map.mp hmem
    rw [messageIds, hsent]
    exact hdb.marker_stored q hq id (congrArg Prod.snd heq)

theorem DbConsistent.roster {db db' : ChatDb} (hdb : DbConsistent db)
    (hmessages : db'.messages = db.messages) (heffect : RosterEffect db db') :
    DbConsistent db' := by
  have hsent : sentMessages db' = sentMessages db := by rw [sentMessages, hmessages, sentMessages]
  -- one case for each way the records change
  cases heffect with
  | same h => exact hdb.congr (by rw [markers, h, markers]) hsent
  | joined ps h hids hfresh hmarker =>
    -- the new ids are new, and different from each other
    refine ⟨?_, ?_, ?_⟩
    · rw [h, List.map_append, List.nodup_append]
      refine ⟨hdb.participants_nodup, hids, fun a ha b hb heq => ?_⟩
      obtain ⟨p, hp, rfl⟩ := List.mem_map.mp hb
      exact hfresh p hp (heq ▸ ha)
    · rw [messageIds, hsent]
      exact hdb.messages_nodup
    · -- an old record keeps its marker, and a new one has none
      intro p hp id hid
      rw [h] at hp
      rw [messageIds, hsent]
      cases List.mem_append.mp hp with
      | inl hold => exact hdb.marker_stored p hold id hid
      | inr hnew => exact absurd (hid.symm.trans (hmarker p hnew)) nofun
  -- to end a membership changes neither ids nor markers
  | ended c u status leftAt h =>
    refine hdb.congr ?_ hsent
    rw [markers, h]
    exact map_updateOne fun _ => rfl

theorem DbConsistent.createMessage {db : ChatDb} (hdb : DbConsistent db) {m : Message}
    (hfresh : m.id ∉ messageIds db) : DbConsistent (db.createMessage m) where
  participants_nodup := hdb.participants_nodup
  messages_nodup := by
    rw [messageIds, sentMessages_createMessage, List.map_append, List.nodup_append]
    refine ⟨hdb.messages_nodup, List.nodup_singleton _, fun a ha b hb heq => hfresh ?_⟩
    obtain rfl : b = m.id := List.mem_singleton.mp hb
    exact heq ▸ ha
  marker_stored := by
    intro p hp id hid
    rw [messageIds, sentMessages_createMessage, List.map_append]
    exact List.mem_append_left _ (hdb.marker_stored p hp id hid)

theorem DbConsistent.moveMarker {db : ChatDb} (hdb : DbConsistent db) {message : ObjectId}
    (hstored : message ∈ messageIds db) (record : ObjectId) (lastReadAt : Date) :
    DbConsistent (db.moveMarker record message lastReadAt) where
  participants_nodup := by
    -- the update changes markers, not ids
    have hids : (db.moveMarker record message lastReadAt).participants.map
        ConversationParticipant.id = db.participants.map ConversationParticipant.id :=
      map_updateOne fun _ => rfl
    rw [hids]
    exact hdb.participants_nodup
  messages_nodup := hdb.messages_nodup
  marker_stored := by
    intro p hp id hid
    -- the record that moves points at the message, which is stored
    cases mem_of_mem_updateOne hp with
    | inl hold => exact hdb.marker_stored p hold id hid
    | inr hchanged =>
      obtain ⟨q, -, -, rfl⟩ := hchanged
      obtain rfl : message = id := Option.some.inj hid
      exact hstored

/-! The record of a participant after the updates of one record. -/

theorem mem_restoreParticipant {db : ChatDb} (hdb : DbConsistent db) (record : ObjectId)
    {p : ConversationParticipant} (hp : p ∈ db.participants) :
    (if p.id = record then { p with status := .active } else p) ∈
      (db.restoreParticipant record).participants :=
  mem_updateOne_key hdb.participants_nodup record hp

theorem mem_moveMarker {db : ChatDb} (hdb : DbConsistent db) (record message : ObjectId)
    (lastReadAt : Date) {p : ConversationParticipant} (hp : p ∈ db.participants) :
    (if p.id = record then
      { p with
        lastReadMessageId := some message
        lastReadAt := some lastReadAt
        unreadCount := 0 }
      else p) ∈ (db.moveMarker record message lastReadAt).participants :=
  mem_updateOne_key hdb.participants_nodup record hp

theorem mem_resetUnread {db : ChatDb} (hdb : DbConsistent db) (record : ObjectId)
    {p : ConversationParticipant} (hp : p ∈ db.participants) :
    (if p.id = record then { p with unreadCount := 0 } else p) ∈
      (db.resetUnread record).participants :=
  mem_updateOne_key hdb.participants_nodup record hp

/-! ## Calls under way -/

/-- The stored message of a call that the counters do not have yet. -/
def uncountedBy : ChatCall → Option (SendContext × Message)
  | .sendMessage _ pc => uncounted pc
  | _ => none

/-- The latest message that a call has found. -/
def foundBy : ChatCall → Option Message
  | .markConversationRead _ pc => foundLatest pc
  | _ => none

/-- What the local variables of a call refer to is stored. -/
structure CallStored (db : ChatDb) (call : ChatCall) : Prop where
  uncounted_stored : ∀ ctx m, uncountedBy call = some (ctx, m) →
    toSent m ∈ sentMessages db ∧ m.conversationId = ctx.conversation ∧ m.senderId = ctx.sender
  found_stored : ∀ m, foundBy call = some m → m.id ∈ messageIds db

/-- What holds in every state of every run. -/
structure Consistent (system : ChatSystem) : Prop where
  db : DbConsistent system.db
  stored : ∀ call ∈ system.calls, CallStored system.db call
  once : ∀ (i j : Nat) (call call' : ChatCall) (ctx ctx' : SendContext) (m m' : Message),
    system.calls[i]? = some call → system.calls[j]? = some call' →
    uncountedBy call = some (ctx, m) → uncountedBy call' = some (ctx', m') → m.id = m'.id → i = j

theorem CallStored.of_none {db : ChatDb} {call : ChatCall} (huncounted : uncountedBy call = none)
    (hfound : foundBy call = none) : CallStored db call where
  uncounted_stored := by
    intro ctx m h
    exact absurd (huncounted.symm.trans h) nofun
  found_stored := by
    intro m h
    exact absurd (hfound.symm.trans h) nofun

/-- Messages are never deleted. -/
theorem CallStored.mono {db db' : ChatDb} {call : ChatCall} (h : CallStored db call)
    (hgrows : ∀ m ∈ sentMessages db, m ∈ sentMessages db') : CallStored db' call where
  uncounted_stored := by
    intro ctx m hm
    obtain ⟨hstored, hctx⟩ := h.uncounted_stored ctx m hm
    exact ⟨hgrows _ hstored, hctx⟩
  found_stored := by
    intro m hm
    obtain ⟨x, hx, hid⟩ := List.mem_map.mp (h.found_stored m hm)
    exact List.mem_map.mpr ⟨x, hgrows x hx, hid⟩

/-- A step of one call, given what it does to the documents and to the call itself. -/
theorem Consistent.of_step {db db' : ChatDb} {calls : List ChatCall} {index : Nat}
    {call call' : ChatCall} (hinv : Consistent ⟨db, calls⟩) (hcall : calls[index]? = some call)
    (hdb : DbConsistent db') (hgrows : ∀ m ∈ sentMessages db, m ∈ sentMessages db')
    (hstored : CallStored db' call')
    (hnew : ∀ ctx m, uncountedBy call' = some (ctx, m) →
      uncountedBy call = some (ctx, m) ∨ m.id ∉ messageIds db) :
    Consistent ⟨db', calls.set index call'⟩ where
  db := hdb
  stored := by
    intro other hother
    cases List.mem_or_eq_of_mem_set hother with
    | inl hold => exact (hinv.stored other hold).mono hgrows
    | inr heq => exact heq ▸ hstored
  once := by
    -- the message of the call against that of another one
    have hagainst : ∀ (j : Nat) (other : ChatCall) (ctx ctx' : SendContext) (m m' : Message),
        calls[j]? = some other → uncountedBy call' = some (ctx, m) →
        uncountedBy other = some (ctx', m') → m.id = m'.id → j = index := by
      intro j other ctx ctx' m m' hother hm hm' hid
      cases hnew ctx m hm with
      | inl hsame => exact (hinv.once index j call other ctx ctx' m m' hcall hother hsame hm' hid).symm
      | inr hfresh =>
        obtain ⟨hmem, -⟩ := (hinv.stored other (List.mem_of_getElem? hother)).uncounted_stored
          ctx' m' hm'
        exact absurd (hid ▸ List.mem_map_of_mem hmem) hfresh
    intro i j c c' ctx ctx' m m' hi hj hm hm' hid
    cases (getElem?_set_eq_some hcall).mp hi with
    | inl hfirst =>
      obtain ⟨rfl, rfl⟩ := hfirst
      cases (getElem?_set_eq_some hcall).mp hj with
      | inl hsecond => exact hsecond.1.symm
      | inr hsecond => exact (hagainst j c' ctx ctx' m m' hsecond.2 hm hm' hid).symm
    | inr hfirst =>
      cases (getElem?_set_eq_some hcall).mp hj with
      | inl hsecond =>
        obtain ⟨rfl, rfl⟩ := hsecond
        exact hagainst i c ctx' ctx m' m hfirst.2 hm' hm hid.symm
      | inr hsecond => exact hinv.once i j c c' ctx ctx' m m' hfirst.2 hsecond.2 hm hm' hid

/-- A step that leaves the messages and the local variables alone. -/
theorem Consistent.of_quiet {db db' : ChatDb} {calls : List ChatCall} {index : Nat}
    {call call' : ChatCall} (hinv : Consistent ⟨db, calls⟩) (hcall : calls[index]? = some call)
    (hdb : DbConsistent db') (hsent : sentMessages db' = sentMessages db)
    (huncounted : uncountedBy call' = uncountedBy call) (hfound : foundBy call' = none) :
    Consistent ⟨db', calls.set index call'⟩ := by
  have hgrows : ∀ m ∈ sentMessages db, m ∈ sentMessages db' := fun m hm => hsent.symm ▸ hm
  have hold := (hinv.stored call (List.mem_of_getElem? hcall)).mono hgrows
  -- what the call knew before is still stored
  refine hinv.of_step hcall hdb hgrows ⟨?_, ?_⟩ ?_
  · intro ctx m hm
    exact hold.uncounted_stored ctx m (huncounted ▸ hm)
  · intro m hm
    exact absurd (hfound.symm.trans hm) nofun
  · -- a message that is still to be counted was so before
    intro ctx m hm
    exact .inl (huncounted ▸ hm)

theorem Consistent.send {env : BackendEnv} {db db' : ChatDb} {calls : List ChatCall} {index : Nat}
    {args : SendArgs} {pc pc' : SendPc} {input : CallInput} (hinv : Consistent ⟨db, calls⟩)
    (hcall : calls[index]? = some (.sendMessage args pc))
    (h : sendStep env db args input pc = some (db', pc')) :
    Consistent ⟨db', calls.set index (.sendMessage args pc')⟩ := by
  cases sendStep_effect h with
  | quiet hparticipants hmessages huncounted =>
    have hsent : sentMessages db' = sentMessages db := by
      rw [sentMessages, hmessages, sentMessages]
    exact hinv.of_quiet hcall (hinv.db.congr (by rw [markers, hparticipants, markers]) hsent) hsent
      huncounted rfl
  | restored ctx toRestore left record huncounted =>
    have hmarkers : markers (db.restoreParticipant record) = markers db :=
      map_updateOne fun _ => rfl
    exact hinv.of_quiet hcall (hinv.db.congr hmarkers rfl) rfl huncounted rfl
  | created ctx attachment encrypted sentAt id hfresh huncounted =>
    -- only the new message becomes uncounted, and it is stored
    have hgrows : ∀ m ∈ sentMessages db, m ∈ sentMessages
        (db.createMessage (newMessage args ctx attachment encrypted sentAt id)) := by
      intro m hm
      rw [sentMessages_createMessage]
      exact List.mem_append_left _ hm
    have hfound : foundBy (.sendMessage args pc') = none := rfl
    refine hinv.of_step hcall (hinv.db.createMessage hfresh) hgrows ⟨?_, ?_⟩ ?_
    · intro ctx' m hm
      cases huncounted.symm.trans hm
      rw [sentMessages_createMessage]
      exact ⟨List.mem_append_right _ List.mem_cons_self, rfl, rfl⟩
    · intro m hm
      cases hfound.symm.trans hm
    · intro ctx' m hm
      cases huncounted.symm.trans hm
      exact .inr hfresh
  | marked ctx message =>
    -- the marker moves to a message that is stored
    obtain ⟨hstored, -⟩ := (hinv.stored _ (List.mem_of_getElem? hcall)).uncounted_stored
      ctx message rfl
    exact hinv.of_quiet hcall
      (hinv.db.moveMarker (List.mem_map_of_mem hstored) ctx.activeSender message.sentAt) rfl rfl rfl
  | counted ctx message =>
    have hmarkers : markers (db.incrementUnread ctx.conversation ctx.sender) = markers db :=
      map_updateMany fun _ => rfl
    refine hinv.of_step hcall (hinv.db.congr hmarkers rfl) (fun m hm => hm) (.of_none rfl rfl) ?_
    intro ctx' m hm
    cases hm

theorem Consistent.markRead {db db' : ChatDb} {calls : List ChatCall} {index : Nat}
    {args : MemberArgs} {pc pc' : MarkReadPc} {input : CallInput} (hinv : Consistent ⟨db, calls⟩)
    (hcall : calls[index]? = some (.markConversationRead args pc))
    (h : markReadStep db args input pc = some (db', pc')) :
    Consistent ⟨db', calls.set index (.markConversationRead args pc')⟩ := by
  cases markReadStep_effect h with
  | quiet hparticipants hsent hfound =>
    exact hinv.of_quiet hcall (hinv.db.congr (by rw [markers, hparticipants, markers]) hsent) hsent
      rfl hfound
  -- the latest message is looked up, so it is stored now
  | found c participant lastReadAt =>
    have huncounted : uncountedBy (.markConversationRead args
        (.updatingMarker c participant (db.findLatestMessage c) lastReadAt)) = none := rfl
    refine hinv.of_step hcall hinv.db (fun m hm => hm) ⟨?_, ?_⟩ ?_
    · intro ctx m hm
      cases huncounted.symm.trans hm
    · intro m hm
      have hlatest : db.findLatestMessage c = some m := hm
      rw [messageIds_eq]
      exact List.mem_map_of_mem (List.mem_filter.mp (mem_of_findLatest hlatest)).1
    · intro ctx m hm
      -- this call creates nothing
      cases huncounted.symm.trans hm
  | reset c participant lastReadAt =>
    have hmarkers : markers (db.resetUnread participant) = markers db := map_updateOne fun _ => rfl
    exact hinv.of_quiet hcall (hinv.db.congr hmarkers rfl) rfl rfl rfl
  -- the message was stored when it was found
  | marked c participant latest lastReadAt =>
    have hstored := (hinv.stored _ (List.mem_of_getElem? hcall)).found_stored latest rfl
    exact hinv.of_quiet hcall (hinv.db.moveMarker hstored participant lastReadAt) rfl rfl rfl

/-- A step of any call. -/
theorem Consistent.call {env : BackendEnv} {db db' : ChatDb} {calls : List ChatCall} {index : Nat}
    {call call' : ChatCall} {input : CallInput} (hinv : Consistent ⟨db, calls⟩)
    (hcall : calls[index]? = some call) (h : callStep env db call input = some (db', call')) :
    Consistent ⟨db', calls.set index call'⟩ := by
  -- four of the calls only change records and events, and know no message
  have hroster : ∀ {call'' : ChatCall}, db'.messages = db.messages → RosterEffect db db' →
      uncountedBy call'' = uncountedBy call → foundBy call'' = none →
      Consistent ⟨db', calls.set index call''⟩ := by
    intro call'' hmessages heffect huncounted hfound
    have hsent : sentMessages db' = sentMessages db := by
      rw [sentMessages, hmessages, sentMessages]
    exact hinv.of_quiet hcall (hinv.db.roster hmessages heffect) hsent huncounted hfound
  cases callStep_cases h with
  | createConversation hstep =>
    exact hroster (createStep_effect hstep).1 (createStep_effect hstep).2 rfl rfl
  | addMember hstep =>
    exact hroster (addMemberStep_effect hstep).1 (addMemberStep_effect hstep).2 rfl rfl
  | removeMember hstep => exact hroster (endStep_effect hstep).1 (endStep_effect hstep).2 rfl rfl
  | markConversationLeft hstep =>
    exact hroster (endStep_effect hstep).1 (endStep_effect hstep).2 rfl rfl
  | sendMessage hstep => exact hinv.send hcall hstep
  -- the two that know messages
  | markConversationRead hstep => exact hinv.markRead hcall hstep

/-- A call that starts has no local variables. -/
theorem callStored_of_isStart (db : ChatDb) {call : ChatCall} (h : call.isStart = true) :
    uncountedBy call = none ∧ CallStored db call := by
  -- one case for each kind of call
  cases call with
  | sendMessage args pc =>
    obtain rfl : pc = .start := of_decide_eq_true h
    exact ⟨rfl, .of_none rfl rfl⟩
  -- the read may start behind its guard or in front of it
  | markConversationRead args pc =>
    refine ⟨rfl, .of_none rfl ?_⟩
    simp only [ChatCall.isStart, Bool.or_eq_true, decide_eq_true_eq] at h
    cases h with
    | inl hguard => rw [hguard]; rfl
    | inr hstart => rw [hstart]; rfl
  | createConversation args pc => exact ⟨rfl, .of_none rfl rfl⟩
  | addMember args pc => exact ⟨rfl, .of_none rfl rfl⟩
  | removeMember args pc => exact ⟨rfl, .of_none rfl rfl⟩
  | markConversationLeft args pc => exact ⟨rfl, .of_none rfl rfl⟩

/-- Every step of the system keeps `Consistent`. -/
theorem Consistent.step {env : BackendEnv} {system system' : ChatSystem} {event : ChatEvent}
    (hinv : Consistent system) (h : systemStep env system event = some system') :
    Consistent system' := by
  cases event with
  | call call =>
    -- the call that starts has no local variables yet
    obtain ⟨hstart, rfl⟩ := systemStep_call_eq_some.mp h
    obtain ⟨hnone, hstored⟩ := callStored_of_isStart system.db hstart
    refine ⟨hinv.db, ?_, ?_⟩
    · intro other hother
      cases List.mem_append.mp hother with
      | inl hold => exact hinv.stored other hold
      | inr hnew => exact List.mem_singleton.mp hnew ▸ hstored
    · -- the new call has created nothing, so the two calls are old ones
      intro i j c c' ctx ctx' m m' hi hj hm hm' hid
      cases getElem?_concat_eq_some.mp hi with
      | inl hfirst =>
        rw [hfirst.2, hnone] at hm
        cases hm
      | inr hfirst =>
        cases getElem?_concat_eq_some.mp hj with
        | inl hsecond =>
          rw [hsecond.2, hnone] at hm'
          cases hm'
        | inr hsecond => exact hinv.once i j c c' ctx ctx' m m' hfirst hsecond hm hm' hid
  | step index input =>
    -- one of the calls moves
    obtain ⟨call, db', call', hcall, hstep, rfl⟩ := systemStep_step_eq_some.mp h
    have hinv' : Consistent ⟨system.db, system.calls⟩ := hinv
    exact hinv'.call hcall hstep

/-- It holds in every state of every run from the empty collections. -/
theorem consistent_of_run {env : BackendEnv} {attachments : List ChatAttachment}
    {events : List ChatEvent} {system : ChatSystem}
    (hrun : run (systemStep env) ⟨ChatDb.start attachments, []⟩ events = some system) :
    Consistent system := by
  -- the invariant is preserved by every step
  have hkeep : ∀ (system : ChatSystem) (event : ChatEvent) (system' : ChatSystem),
      Consistent system → systemStep env system event = some system' → Consistent system' :=
    fun _ _ _ hinv hstep => hinv.step hstep
  -- there is nothing stored at the start
  have hdb : DbConsistent (ChatDb.start attachments) :=
    ⟨List.nodup_nil, List.nodup_nil, fun p hp => absurd hp List.not_mem_nil⟩
  have hstart : Consistent ⟨ChatDb.start attachments, []⟩ := by
    refine ⟨hdb, fun call hcall => absurd hcall List.not_mem_nil, ?_⟩
    intro i j call call' ctx ctx' m m' hi
    simp at hi
  exact run_invariant hkeep hstart hrun

end ChatSC.Spec
