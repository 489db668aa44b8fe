import ChatSC.ForStd.Tally
import ChatSC.Spec.ChatRuns
import ChatSC.Spec.GroupMembership

/-!
# Unread counters

The counter of a participant should be the number of messages of other users that are newer than
the participant's marker (`unreadMessages`).  A message is stored first, and counted by a later step
of the same call; a reader sets the counter to zero in a step after the one that has found the
latest message.  Between these steps other calls may run.

The counter is a `Tally`: it is right as long as every message of another user is newer than the
marker when it is stored, and every reset comes at a moment at which exactly the messages that are
not yet counted are newer than the new marker (`CountsInOrder`).  A reset that is overtaken by a
message makes it wrong for good: `overtaken_read_loses_message`.
-/

namespace ChatSC.Spec

open Backend Collection JsString Records Transition

/-- The time of a message. -/
def sentAtOf (sent : List SentMessage) (id : ObjectId) : Option Date :=
  (sent.find? (·.id = id)).map SentMessage.sentAt

/-- Sent after the message of the marker, or since the participant joined when there is none. -/
def isNewer (sent : List SentMessage) (p : ConversationParticipant) (sentAt : Date) : Bool :=
  match p.lastReadMessageId.bind (sentAtOf sent) with
  | none => p.joinedAt ≤ sentAt
  | some readAt => readAt < sentAt

/-- A message of another user in the participant's conversation. -/
def isFromOther (p : ConversationParticipant) (m : SentMessage) : Bool :=
  m.conversation = p.conversationId && m.sender ≠ p.userId

/-- The number of messages of other users that are newer than the participant's marker. -/
def unreadMessages (db : ChatDb) (p : ConversationParticipant) : Nat :=
  ((sentMessages db).filter (isFromOther p)).countP fun m => isNewer (sentMessages db) p m.sentAt

/-- The message is stored, but its call has not yet incremented the counters. -/
def isUncounted (calls : List ChatCall) (m : SentMessage) : Bool :=
  calls.any fun call => (uncountedBy call).any fun stored => stored.2.id = m.id

/-- The counter of a participant. -/
def tally (system : ChatSystem) (p : ConversationParticipant) : Tally SentMessage where
  items := (sentMessages system.db).filter (isFromOther p)
  isNew := fun m => isNewer (sentMessages system.db) p m.sentAt
  isPending := isUncounted system.calls
  count := p.unreadCount

/-! ## The condition on the schedule -/

/-- A message of another user is newer than the participant's marker. -/
def ArrivesNewer (pid : ObjectId) (system : ChatSystem) (ctx : SendContext) (sentAt : Date) : Prop :=
  ∀ p ∈ system.db.participants, p.id = pid → ctx.conversation = p.conversationId →
    ctx.sender ≠ p.userId → isNewer (sentMessages system.db) p sentAt = true

/-- Of the messages of other users, exactly those not yet counted are newer than the new marker; a
    reset without a message keeps the marker. -/
def ResetsInOrder (pid : ObjectId) (system : ChatSystem) (marker : Option ObjectId) : Prop :=
  ∀ p ∈ system.db.participants, p.id = pid →
    ∀ m ∈ sentMessages system.db, isFromOther p m = true →
      isNewer (sentMessages system.db)
        { p with lastReadMessageId := marker.or p.lastReadMessageId } m.sentAt =
          isUncounted system.calls m

/-- The next step of the call does not get the counter of the participant out of order. -/
def CallInOrder (pid : ObjectId) (system : ChatSystem) : ChatCall → Prop
  | .sendMessage _ (.creating ctx _ _ sentAt) => ArrivesNewer pid system ctx sentAt
  | .sendMessage _ (.updatingSender ctx message) =>
    ctx.activeSender = pid → ResetsInOrder pid system (some message.id)
  | .markConversationRead _ (.updatingMarker _ record latest _) =>
    record = pid → ResetsInOrder pid system (latest.map Message.id)
  | _ => True

/-- The step does not get the counter of the participant out of order. -/
def CountsInOrder (pid : ObjectId) (system : ChatSystem) : ChatEvent → Prop
  | .call _ => True
  | .step index _ => ∀ call ∈ system.calls[index]?, CallInOrder pid system call

instance (pid : ObjectId) (system : ChatSystem) (ctx : SendContext) (sentAt : Date) :
    Decidable (ArrivesNewer pid system ctx sentAt) :=
  inferInstanceAs (Decidable (∀ p ∈ system.db.participants, _ → _ → _ → _))

instance (pid : ObjectId) (system : ChatSystem) (marker : Option ObjectId) :
    Decidable (ResetsInOrder pid system marker) :=
  inferInstanceAs (Decidable (∀ p ∈ system.db.participants, _ → ∀ m ∈ sentMessages system.db, _ → _))

instance (pid : ObjectId) (system : ChatSystem) (call : ChatCall) :
    Decidable (CallInOrder pid system call) := by
  unfold CallInOrder
  split <;> infer_instance

instance (pid : ObjectId) (system : ChatSystem) :
    (event : ChatEvent) → Decidable (CountsInOrder pid system event)
  | .call _ => inferInstanceAs (Decidable True)
  | .step index _ => inferInstanceAs (Decidable (∀ call ∈ system.calls[index]?, _))

/-! ## What a step leaves alone -/

theorem isUncounted_iff {calls : List ChatCall} {m : SentMessage} :
    isUncounted calls m = true ↔ ∃ (i : Nat) (call : ChatCall) (ctx : SendContext) (x : Message),
      calls[i]? = some call ∧ uncountedBy call = some (ctx, x) ∧ x.id = m.id := by
  simp only [isUncounted, List.any_eq_true, Option.any_eq_true, decide_eq_true_eq,
    List.mem_iff_getElem?]
  constructor
  · rintro ⟨call, ⟨i, hi⟩, ⟨ctx, x⟩, hx, hid⟩
    exact ⟨i, call, ctx, x, hi, hx, hid⟩
  · rintro ⟨i, call, ctx, x, hi, hx, hid⟩
    exact ⟨call, ⟨i, hi⟩, (ctx, x), hx, hid⟩

/-- After a step of one call: its own message, or that of another call. -/
theorem isUncounted_set {calls : List ChatCall} {index : Nat} {call call' : ChatCall}
    (hcall : calls[index]? = some call) {m : SentMessage} :
    isUncounted (calls.set index call') m = true ↔
      (∃ (ctx : SendContext) (x : Message), uncountedBy call' = some (ctx, x) ∧ x.id = m.id) ∨
      ∃ (i : Nat) (other : ChatCall) (ctx : SendContext) (x : Message), i ≠ index ∧
        calls[i]? = some other ∧ uncountedBy other = some (ctx, x) ∧ x.id = m.id := by
  rw [isUncounted_iff]
  constructor
  · -- the call of the message is the one that moved, or another one
    rintro ⟨i, other, ctx, x, hi, hx, hid⟩
    cases (getElem?_set_eq_some hcall).mp hi with
    | inl hsame => exact .inl ⟨ctx, x, hsame.2 ▸ hx, hid⟩
    | inr hother => exact .inr ⟨i, other, ctx, x, hother.1, hother.2, hx, hid⟩
  · rintro (⟨ctx, x, hx, hid⟩ | ⟨i, other, ctx, x, hne, hi, hx, hid⟩)
    · exact ⟨index, call', ctx, x, (getElem?_set_eq_some hcall).mpr (.inl ⟨rfl, rfl⟩), hx, hid⟩
    · exact ⟨i, other, ctx, x, (getElem?_set_eq_some hcall).mpr (.inr ⟨hne, hi⟩), hx, hid⟩

/-- The message of one call, or that of another one. -/
theorem isUncounted_split {calls : List ChatCall} {index : Nat} {call : ChatCall}
    (hcall : calls[index]? = some call) {m : SentMessage} :
    isUncounted calls m = true ↔
      (∃ (ctx : SendContext) (x : Message), uncountedBy call = some (ctx, x) ∧ x.id = m.id) ∨
      ∃ (i : Nat) (other : ChatCall) (ctx : SendContext) (x : Message), i ≠ index ∧
        calls[i]? = some other ∧ uncountedBy other = some (ctx, x) ∧ x.id = m.id := by
  have hset := @isUncounted_set calls index call call hcall m
  rwa [Records.set_self hcall] at hset

/-- A step that keeps the local variables keeps what is uncounted. -/
theorem isUncounted_set_same {calls : List ChatCall} {index : Nat} {call call' : ChatCall}
    (hcall : calls[index]? = some call) (hsame : uncountedBy call' = uncountedBy call)
    (m : SentMessage) : isUncounted (calls.set index call') m = isUncounted calls m := by
  rw [Bool.eq_iff_iff, isUncounted_set hcall, isUncounted_split hcall, hsame]

/-- A marker that is stored keeps its time. -/
theorem sentAtOf_append {sent : List SentMessage} {id : ObjectId}
    (hid : id ∈ sent.map SentMessage.id) (more : List SentMessage) :
    sentAtOf (sent ++ more) id = sentAtOf sent id := by
  have hfound : (sent.find? fun m => decide (m.id = id)).isSome = true := by
    obtain ⟨m, hm, rfl⟩ := List.mem_map.mp hid
    rw [List.find?_isSome]
    exact ⟨m, hm, decide_eq_true rfl⟩
  rw [sentAtOf, List.find?_append, Option.or_of_isSome hfound, sentAtOf]

/-- The counter of a record with the same data, when nothing was stored or counted. -/
theorem right_of_same {system system' : ChatSystem} {p p' : ConversationParticipant}
    (hright : (tally system p).Right)
    (hsent : sentMessages system'.db = sentMessages system.db)
    (huncounted : ∀ m, isUncounted system'.calls m = isUncounted system.calls m)
    (hconversation : p'.conversationId = p.conversationId) (huser : p'.userId = p.userId)
    (hjoined : p'.joinedAt = p.joinedAt) (hmarker : p'.lastReadMessageId = p.lastReadMessageId)
    (hcount : p'.unreadCount = p.unreadCount) : (tally system' p').Right := by
  -- whose messages count depends on the conversation and the user alone
  have hother : isFromOther p' = isFromOther p := by
    funext m
    rw [isFromOther, isFromOther, hconversation, huser]
  refine hright.congr ?_ hcount (fun m _ => ?_) (fun m _ => huncounted m)
  · show (sentMessages system'.db).filter (isFromOther p') = _
    rw [hsent, hother]
    rfl
  · show isNewer (sentMessages system'.db) p' m.sentAt = isNewer (sentMessages system.db) p m.sentAt
    rw [hsent, isNewer, isNewer, hmarker, hjoined]

/-- The counter after a reset that is in order. -/
theorem right_of_reset {db db' : ChatDb} {calls calls' : List ChatCall}
    {p p' : ConversationParticipant} {marker : Option ObjectId} (hp : p ∈ db.participants)
    (horder : ResetsInOrder p.id ⟨db, calls⟩ marker) (hsent : sentMessages db' = sentMessages db)
    (huncounted : ∀ m, isUncounted calls' m = isUncounted calls m)
    (hp' : p' = { p with
      lastReadMessageId := marker.or p.lastReadMessageId
      lastReadAt := p'.lastReadAt
      unreadCount := 0 }) : (tally ⟨db', calls'⟩ p').Right := by
  have hother : isFromOther p' = isFromOther p := by
    rw [hp']
    rfl
  refine Tally.right_of_reset ?_ fun m hm => ?_
  · show p'.unreadCount = 0
    rw [hp']
  · -- only messages that are new, or still to be counted, could make a difference
    have hm' : m ∈ (sentMessages db').filter (isFromOther p') := hm
    rw [hsent, hother] at hm'
    obtain ⟨hstored, hfrom⟩ := List.mem_filter.mp hm'
    show isNewer (sentMessages db') p' m.sentAt = isUncounted calls' m
    rw [hsent, huncounted, hp']
    exact horder p hp rfl m hstored hfrom

/-! ## The counter along a run -/

/-- The participant is active, and the counter is right. -/
def CounterRight (pid : ObjectId) (system : ChatSystem) : Prop :=
  ∃ p ∈ system.db.participants, p.id = pid ∧ p.status = .active ∧ (tally system p).Right

section Steps

variable {env : BackendEnv} {db db' : ChatDb} {calls : List ChatCall} {index : Nat} {pid : ObjectId}

/-- A message is stored. -/
theorem counterRight_create {args : SendArgs} {ctx : SendContext}
    {attachment : Option ChatAttachment} {encrypted : EncryptedContent} {sentAt : Date}
    {id : ObjectId} {call' : ChatCall} (hinv : Consistent ⟨db, calls⟩)
    (hright : CounterRight pid ⟨db, calls⟩)
    (hcall : calls[index]? = some (.sendMessage args (.creating ctx attachment encrypted sentAt)))
    (horder : ArrivesNewer pid ⟨db, calls⟩ ctx sentAt) (hfresh : id ∉ messageIds db)
    (huncounted : uncountedBy call' =
      some (ctx, newMessage args ctx attachment encrypted sentAt id)) :
    CounterRight pid ⟨db.createMessage (newMessage args ctx attachment encrypted sentAt id),
      calls.set index call'⟩ := by
  obtain ⟨p, hp, hid, hactive, htally⟩ := hright
  refine ⟨p, hp, hid, hactive, ?_⟩
  have hsent := sentMessages_createMessage db (newMessage args ctx attachment encrypted sentAt id)
  -- the messages that were stored before stay as new and as uncounted as they were
  have hnewer : ∀ at' : Date, isNewer (sentMessages db ++
      [toSent (newMessage args ctx attachment encrypted sentAt id)]) p at' =
        isNewer (sentMessages db) p at' := by
    intro at'
    have hmarker : p.lastReadMessageId.bind (sentAtOf (sentMessages db ++
        [toSent (newMessage args ctx attachment encrypted sentAt id)])) =
          p.lastReadMessageId.bind (sentAtOf (sentMessages db)) := by
      cases hlast : p.lastReadMessageId with
      | none => rfl
      | some marker => exact sentAtOf_append (hinv.db.marker_stored p hp marker hlast) _
    rw [isNewer, hmarker, isNewer]
  have hold : ∀ m ∈ (sentMessages db).filter (isFromOther p),
      isUncounted (calls.set index call') m = isUncounted calls m := by
    intro m hm
    have hne : id ≠ m.id := fun heq =>
      hfresh (heq ▸ List.mem_map_of_mem (List.mem_filter.mp hm).1)
    rw [Bool.eq_iff_iff, isUncounted_set hcall, isUncounted_split hcall, huncounted]
    constructor
    · rintro (⟨ctx', x, hx, hxid⟩ | hother)
      · cases hx
        exact absurd hxid hne
      · exact .inr hother
    · rintro (⟨ctx', x, hx, -⟩ | hother)
      · cases hx
      · exact .inr hother
  by_cases hother : isFromOther p (toSent (newMessage args ctx attachment encrypted sentAt id)) = true
  · obtain ⟨hconversation, hsender⟩ := Bool.and_eq_true_iff.mp hother
    have hitems : (sentMessages (db.createMessage
        (newMessage args ctx attachment encrypted sentAt id))).filter (isFromOther p) =
          (sentMessages db).filter (isFromOther p) ++
            [toSent (newMessage args ctx attachment encrypted sentAt id)] := by
      rw [hsent, List.filter_append, List.filter_singleton, hother]
      rfl
    refine htally.arrive hitems rfl (fun m _ => ?_) hold ?_ ?_
    · show isNewer (sentMessages _) p m.sentAt = isNewer (sentMessages db) p m.sentAt
      rw [hsent, hnewer]
    · show isNewer (sentMessages _) p sentAt = true
      rw [hsent, hnewer]
      exact horder p hp hid (of_decide_eq_true hconversation) (of_decide_eq_true hsender)
    · exact (isUncounted_set hcall).mpr (.inl ⟨ctx, _, huncounted, rfl⟩)
  · rw [Bool.not_eq_true] at hother
    refine htally.congr ?_ rfl (fun m _ => ?_) hold
    · show (sentMessages _).filter (isFromOther p) = _
      rw [hsent, List.filter_append, List.filter_singleton, hother]
      exact List.append_nil _
    · show isNewer (sentMessages _) p m.sentAt = isNewer (sentMessages db) p m.sentAt
      rw [hsent, hnewer]

/-- A message is counted. -/
theorem counterRight_count {args : SendArgs} {ctx : SendContext} {message : Message}
    (hinv : Consistent ⟨db, calls⟩) (hright : CounterRight pid ⟨db, calls⟩)
    (hcall : calls[index]? = some (.sendMessage args (.incrementing ctx message))) :
    CounterRight pid ⟨db.incrementUnread ctx.conversation ctx.sender,
      calls.set index (.sendMessage args (.returned message ctx.restored))⟩ := by
  obtain ⟨p, hp, hid, hactive, htally⟩ := hright
  obtain ⟨hstored, hconversation, hsender⟩ :=
    (hinv.stored _ (List.mem_of_getElem? hcall)).uncounted_stored ctx message rfl
  have hmem : (if ChatDb.isOtherActive ctx.conversation ctx.sender p then
      { p with unreadCount := p.unreadCount + 1 } else p) ∈
        (db.incrementUnread ctx.conversation ctx.sender).participants :=
    mem_updateMany.mpr ⟨p, hp, rfl⟩
  have hother : ChatDb.isOtherActive ctx.conversation ctx.sender p =
      isFromOther p (toSent message) := by
    simp [ChatDb.isOtherActive, isFromOther, toSent, hactive, hconversation, hsender, eq_comm]
  -- another message is uncounted after the step exactly when it was before
  have hothers : ∀ m ∈ sentMessages db, m ≠ toSent message →
      isUncounted (calls.set index (.sendMessage args (.returned message ctx.restored))) m =
        isUncounted calls m := by
    intro m hm hne
    have hmid : message.id ≠ m.id := fun heq =>
      hne (List.inj_on_of_nodup_map hinv.db.messages_nodup hm hstored heq.symm)
    rw [Bool.eq_iff_iff, isUncounted_set hcall, isUncounted_split hcall]
    constructor
    · rintro (⟨ctx', x, hx, -⟩ | hrest)
      · cases hx
      · exact .inr hrest
    · rintro (⟨ctx', x, hx, hxid⟩ | hrest)
      · cases hx
        exact absurd hxid hmid
      · exact .inr hrest
  by_cases hfrom : isFromOther p (toSent message) = true
  · rw [hother, hfrom, if_pos rfl] at hmem
    refine ⟨_, hmem, hid, hactive, ?_⟩
    have hnodup : ((sentMessages db).filter (isFromOther p)).Nodup :=
      (List.Nodup.of_map _ hinv.db.messages_nodup).filter _
    refine htally.count hnodup (List.mem_filter.mpr ⟨hstored, hfrom⟩) rfl rfl (fun _ _ => rfl) ?_ ?_ ?_
    · exact isUncounted_iff.mpr ⟨index, _, ctx, message, hcall, rfl, rfl⟩
    · -- no other call has the same message
      show isUncounted _ (toSent message) = false
      rw [← Bool.not_eq_true]
      intro hstill
      cases (isUncounted_set hcall).mp hstill with
      | inl hown =>
        obtain ⟨ctx', x, hx, -⟩ := hown
        cases hx
      | inr hrest =>
        obtain ⟨i, other, ctx', x, hne, hi, hx, hxid⟩ := hrest
        exact hne (hinv.once i index other _ ctx' ctx x message hi hcall hx rfl hxid)
    · intro m hm hne
      exact hothers m (List.mem_filter.mp hm).1 hne
  · rw [hother, if_neg hfrom] at hmem
    refine ⟨p, hmem, hid, hactive, htally.congr rfl rfl (fun _ _ => rfl) ?_⟩
    intro m hm
    obtain ⟨hm, hmfrom⟩ := List.mem_filter.mp hm
    exact hothers m hm fun heq => hfrom (heq ▸ hmfrom)

/-- The counter of one record is reset, in order if it is the participant's. -/
theorem counterRight_reset {calls' : List ChatCall} {record : ObjectId} {marker : Option ObjectId}
    (hright : CounterRight pid ⟨db, calls⟩)
    (horder : record = pid → ResetsInOrder pid ⟨db, calls⟩ marker)
    (hsent : sentMessages db' = sentMessages db)
    (huncounted : ∀ m, isUncounted calls' m = isUncounted calls m)
    (hreset : ∀ p ∈ db.participants, ∃ lastReadAt, (if p.id = record then
      { p with
        lastReadMessageId := marker.or p.lastReadMessageId
        lastReadAt := lastReadAt
        unreadCount := 0 }
      else p) ∈ db'.participants) : CounterRight pid ⟨db', calls'⟩ := by
  obtain ⟨p, hp, hid, hactive, htally⟩ := hright
  obtain ⟨lastReadAt, hmem⟩ := hreset p hp
  -- the record of the participant, or another one
  by_cases hrecord : p.id = record
  · rw [if_pos hrecord] at hmem
    subst hid
    exact ⟨_, hmem, rfl, hactive, right_of_reset hp (horder hrecord.symm) hsent huncounted rfl⟩
  · rw [if_neg hrecord] at hmem
    exact ⟨p, hmem, hid, hactive, right_of_same htally hsent huncounted rfl rfl rfl rfl rfl⟩

/-- A step of `sendMessage`. -/
theorem CounterRight.send {args : SendArgs} {pc pc' : SendPc} {input : CallInput}
    (hinv : Consistent ⟨db, calls⟩) (hright : CounterRight pid ⟨db, calls⟩)
    (hcall : calls[index]? = some (.sendMessage args pc))
    (horder : CountsInOrder pid ⟨db, calls⟩ (.step index input))
    (h : sendStep env db args input pc = some (db', pc')) :
    CounterRight pid ⟨db', calls.set index (.sendMessage args pc')⟩ := by
  have hcallOrder := horder _ hcall
  cases sendStep_effect h with
  | quiet hparticipants hmessages huncounted =>
    obtain ⟨p, hp, hid, hactive, htally⟩ := hright
    have hsent : sentMessages db' = sentMessages db := by
      rw [sentMessages, hmessages, sentMessages]
    refine ⟨p, hparticipants.symm ▸ hp, hid, hactive, ?_⟩
    exact right_of_same htally hsent (isUncounted_set_same hcall huncounted) rfl rfl rfl rfl rfl
  | restored ctx toRestore left record huncounted =>
    obtain ⟨p, hp, hid, hactive, htally⟩ := hright
    have hmem := mem_restoreParticipant hinv.db record hp
    have hsame : ∀ m, isUncounted (calls.set index (.sendMessage args pc')) m = isUncounted calls m :=
      isUncounted_set_same hcall huncounted
    by_cases hrecord : p.id = record
    · rw [if_pos hrecord] at hmem
      exact ⟨_, hmem, hid, rfl, right_of_same htally rfl hsame rfl rfl rfl rfl rfl⟩
    · rw [if_neg hrecord] at hmem
      exact ⟨_, hmem, hid, hactive, right_of_same htally rfl hsame rfl rfl rfl rfl rfl⟩
  | created ctx attachment encrypted sentAt id hfresh huncounted =>
    exact counterRight_create hinv hright hcall hcallOrder hfresh huncounted
  | marked ctx message =>
    -- the sender's own record is reset, in order
    refine counterRight_reset hright hcallOrder rfl (isUncounted_set_same hcall rfl) fun p hp => ?_
    exact ⟨_, mem_moveMarker hinv.db ctx.activeSender message.id message.sentAt hp⟩
  | counted ctx message => exact counterRight_count hinv hright hcall

/-- A step of `markConversationRead`. -/
theorem CounterRight.markRead {args : MemberArgs} {pc pc' : MarkReadPc} {input : CallInput}
    (hinv : Consistent ⟨db, calls⟩) (hright : CounterRight pid ⟨db, calls⟩)
    (hcall : calls[index]? = some (.markConversationRead args pc))
    (horder : CountsInOrder pid ⟨db, calls⟩ (.step index input))
    (h : markReadStep db args input pc = some (db', pc')) :
    CounterRight pid ⟨db', calls.set index (.markConversationRead args pc')⟩ := by
  have hcallOrder := horder _ hcall
  -- a reading counts nothing
  have hsame : ∀ m, isUncounted (calls.set index (.markConversationRead args pc')) m =
      isUncounted calls m := isUncounted_set_same hcall rfl
  cases markReadStep_effect h with
  | quiet hparticipants hsent hfound =>
    obtain ⟨p, hp, hid, hactive, htally⟩ := hright
    refine ⟨p, hparticipants.symm ▸ hp, hid, hactive, ?_⟩
    exact right_of_same htally hsent hsame rfl rfl rfl rfl rfl
  | found c participant lastReadAt =>
    obtain ⟨p, hp, hid, hactive, htally⟩ := hright
    exact ⟨p, hp, hid, hactive, right_of_same htally rfl hsame rfl rfl rfl rfl rfl⟩
  | reset c participant lastReadAt =>
    refine counterRight_reset hright hcallOrder rfl hsame fun p hp => ?_
    exact ⟨p.lastReadAt, mem_resetUnread hinv.db participant hp⟩
  | marked c participant latest lastReadAt =>
    refine counterRight_reset hright hcallOrder rfl hsame fun p hp => ?_
    exact ⟨_, mem_moveMarker hinv.db participant latest.id lastReadAt hp⟩

end Steps

/-- A call of `sendMessage` or `markConversationRead`. -/
def isChatting : ChatCall → Bool
  | .sendMessage _ _ | .markConversationRead _ _ => true
  | _ => false

/-- What holds along a run of messages and readings whose steps are in order for a participant. -/
structure CounterInv (pid : ObjectId) (system : ChatSystem) : Prop where
  consistent : Consistent system
  right : CounterRight pid system
  chatting : ∀ call ∈ system.calls, isChatting call = true ∨ call.ended = true

/-- Every step that is in order keeps it. -/
theorem CounterInv.step {env : BackendEnv} {system system' : ChatSystem} {event : ChatEvent}
    {pid : ObjectId} (hinv : CounterInv pid system)
    (hok : CountsInOrder pid system event ∧ ∀ call, event = .call call → isChatting call = true)
    (h : systemStep env system event = some system') : CounterInv pid system' := by
  obtain ⟨horder, hchatting⟩ := hok
  have hconsistent := hinv.consistent.step h
  cases event with
  | call call =>
    obtain ⟨hstart, rfl⟩ := systemStep_call_eq_some.mp h
    refine ⟨hconsistent, ?_, ?_⟩
    · -- a new call has stored nothing
      obtain ⟨p, hp, hid, hactive, htally⟩ := hinv.right
      have hnone := (callStored_of_isStart system.db hstart).1
      have hsame : ∀ m, isUncounted (system.calls ++ [call]) m = isUncounted system.calls m := by
        intro m
        rw [isUncounted, List.any_append, isUncounted]
        simp [hnone]
      exact ⟨p, hp, hid, hactive, right_of_same htally rfl hsame rfl rfl rfl rfl rfl⟩
    · intro other hother
      cases List.mem_append.mp hother with
      | inl hold => exact hinv.chatting other hold
      | inr hnew => exact .inl (List.mem_singleton.mp hnew ▸ hchatting call rfl)
  | step index input =>
    obtain ⟨call, db', call', hcall, hcallStep, rfl⟩ := systemStep_step_eq_some.mp h
    -- a call that has ended takes no step
    have hchat : isChatting call = true := by
      cases hinv.chatting call (List.mem_of_getElem? hcall) with
      | inl hchat => exact hchat
      | inr hended => exact absurd (hcallStep.symm.trans (callStep_ended hended)) nofun
    have hinv' : Consistent ⟨system.db, system.calls⟩ := hinv.consistent
    have hright : CounterRight pid ⟨system.db, system.calls⟩ := hinv.right
    have hsets : isChatting call' = true → ∀ other ∈ system.calls.set index call',
        isChatting other = true ∨ other.ended = true := by
      intro hchat' other hother
      cases List.mem_or_eq_of_mem_set hother with
      | inl hold => exact hinv.chatting other hold
      | inr heq => exact .inl (heq ▸ hchat')
    cases callStep_cases hcallStep with
    | sendMessage hsend =>
      exact ⟨hconsistent, hright.send hinv' hcall horder hsend, hsets rfl⟩
    | markConversationRead hmark =>
      exact ⟨hconsistent, hright.markRead hinv' hcall horder hmark, hsets rfl⟩
    | _ => cases hchat

/-- No message is uncounted when no call is under way. -/
theorem isUncounted_of_quiet {calls : List ChatCall} (h : ∀ call ∈ calls, call.ended = true)
    (m : SentMessage) : isUncounted calls m = false := by
  have hnone : ∀ call ∈ calls, uncountedBy call = none := by
    intro call hcall
    have hended := h call hcall
    cases call with
    | sendMessage args pc => cases pc <;> first | rfl | cases hended
    | _ => rfl
  rw [← Bool.not_eq_true, isUncounted_iff]
  intro ⟨i, call, ctx, x, hi, hx, _⟩
  exact absurd ((hnone call (List.mem_of_getElem? hi)).symm.trans hx) nofun

/-- From any state that the calls have led to, in which no call is under way and the counter of an
    active participant is right, messages and readings whose steps are in order for the participant
    lead only to states in which, when no call is under way, it is right again. -/
theorem unreadCount_of_inOrder {env : BackendEnv} {attachments : List ChatAttachment}
    {before events : List ChatEvent} {system system' : ChatSystem}
    (hbefore : run (systemStep env) ⟨ChatDb.start attachments, []⟩ before = some system)
    (hquiet : ∀ call ∈ system.calls, call.ended = true) {p : ConversationParticipant}
    (hp : p ∈ system.db.participants) (hactive : p.status = .active)
    (hright : p.unreadCount = unreadMessages system.db p)
    (hchatting : ∀ call, .call call ∈ events → isChatting call = true)
    (horder : Guarded (systemStep env) (CountsInOrder p.id) system events)
    (hrun : run (systemStep env) system events = some system')
    (hquiet' : ∀ call ∈ system'.calls, call.ended = true) :
    ∃ p' ∈ system'.db.participants, p'.id = p.id ∧ p'.status = .active ∧
      p'.unreadCount = unreadMessages system'.db p' := by
  have hstart : CounterInv p.id system := by
    refine ⟨consistent_of_run hbefore, ⟨p, hp, rfl, hactive, ?_⟩,
      fun call hcall => .inr (hquiet call hcall)⟩
    -- nothing is pending where all calls have ended
    have hnone : (tally system p).items.countP (tally system p).isPending = 0 := by
      rw [List.countP_eq_zero]
      intro m _
      rw [show (tally system p).isPending m = false from isUncounted_of_quiet hquiet m]
      exact Bool.false_ne_true
    show p.unreadCount + _ = _
    rw [hnone, hright]
    rfl
  have hcalls : Guarded (systemStep env)
      (fun _ event => ∀ call, event = .call call → isChatting call = true) system events :=
    Guarded.of_forall fun event hmem _ call heq => hchatting call (heq ▸ hmem)
  have hend := run_invariant_of_guarded (fun _ _ _ hinv hok hstep => CounterInv.step hinv hok hstep)
    hstart (horder.and hcalls) hrun
  obtain ⟨p', hp', hid, hactive', htally⟩ := hend.right
  exact ⟨p', hp', hid, hactive', htally.settled fun m _ => isUncounted_of_quiet hquiet' m⟩

/-! ## A reading that is overtaken -/

/-- User 1 makes a group with user 2. -/
def groupEvents : List ChatEvent := .call createGroup.call :: createGroup.inputs.map (.step 0)

/-- The steps of a message of user 1, as call `index`, from a time on. -/
def messageEvents (index : Nat) (now : Date) (id : ObjectId) : List ChatEvent :=
  .call (.sendMessage helloArgs .start) ::
    (List.range 7).map fun i => .step index (plainInput (now + i) id [])

/-- The call of user 2 who reads the group. -/
def readCall : ChatCall :=
  .markConversationRead ⟨(digitId 3).toString, (digitId 2).toString⟩ .start

/-- Steps of the reading, as call `index`. -/
def readEvents (index count : Nat) (now : Date) : List ChatEvent :=
  List.replicate count (.step index (plainInput now (digitId 0) []))

/-- The group, the call that has made it being over. -/
def groupSystem : ChatSystem where
  db := newGroupDb
  calls := [.createConversation
    ⟨.group, (digitId 1).toString, [(digitId 2).toString], none⟩ (.returned newGroup)]

/-- User 2 in the new group. -/
def reader : ConversationParticipant :=
  ⟨digitId 5, digitId 3, digitId 2, .member, .active, some (digitId 1), 2, none, none, none, 0⟩

/-- User 2 reads the first message, and a second one is sent afterwards. -/
def orderedEvents : List ChatEvent :=
  messageEvents 1 10 (digitId 8) ++ .call readCall :: readEvents 2 5 20 ++
    messageEvents 3 30 (digitId 9)

theorem orderedEvents_unreadCount :
    ∃ system', run (systemStep plainEnv) groupSystem orderedEvents = some system' ∧
      ∃ p' ∈ system'.db.participants, p'.id = digitId 5 ∧ p'.status = .active ∧
        p'.unreadCount = unreadMessages system'.db p' := by
  have hbefore : run (systemStep plainEnv) ⟨ChatDb.start [], []⟩ groupEvents = some groupSystem := rfl
  -- the calls are those of a chat: messages and readings
  have hchatting : ∀ call, .call call ∈ orderedEvents → isChatting call = true := by
    intro call hcall
    simp only [orderedEvents, messageEvents, readEvents, List.mem_append, List.mem_cons,
      List.mem_map, List.mem_replicate, ChatEvent.call.injEq, reduceCtorEq, and_false, exists_false,
      or_false] at hcall
    obtain (rfl | rfl) | rfl := hcall <;> rfl
  have horder : Guarded (systemStep plainEnv) (CountsInOrder reader.id) groupSystem orderedEvents := by
    decide +kernel
  -- the run is evaluated: in the end all calls have ended
  obtain ⟨system', hrun, hquiet⟩ : ∃ system',
      run (systemStep plainEnv) groupSystem orderedEvents = some system' ∧
        ∀ call ∈ system'.calls, call.ended = true := ⟨_, rfl, by decide +kernel⟩
  exact ⟨system', hrun, unreadCount_of_inOrder (p := reader) hbefore (by decide) (by decide) rfl
    (by decide) hchatting horder hrun hquiet⟩

/-- User 2 reads while a second message is sent: the latest message is found before it, the counter
    is set to zero after it.  Two messages, one newer than the marker, and a counter of zero. -/
theorem overtaken_read_loses_message :
    ∃ system, run (systemStep plainEnv) ⟨ChatDb.start [], []⟩
        (groupEvents ++ messageEvents 1 10 (digitId 8) ++ .call readCall :: readEvents 2 2 20 ++
          messageEvents 3 30 (digitId 9) ++ readEvents 2 3 40) = some system ∧
      (∀ call ∈ system.calls, call.ended = true) ∧ (system.db.messages.map Message.sentAt).Nodup ∧
      ∃ p ∈ system.db.participants, p.status = .active ∧ p.unreadCount = 0 ∧
        unreadMessages system.db p = 1 := by
  refine ⟨_, rfl, ?_⟩
  decide +kernel

end ChatSC.Spec
