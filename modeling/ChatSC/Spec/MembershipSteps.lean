import ChatSC.Spec.CallSteps
import ChatSC.Spec.Membership

/-!
# The calls keep records and log in agreement

`membership` is what the stored documents say about membership.  Most database operations leave it
alone, the others are the operations of `Membership`.  `StepInv` is what holds between the steps of
a call that has the database for itself: the invariant, with the entries that the call has still to
write, and what its local variables say about the database.
-/

namespace ChatSC.Spec

open Backend Collection

/-- The record of a participant. -/
def toMember (p : ConversationParticipant) : Member := ⟨p.id, p.conversationId, p.userId, p.status⟩

/-- The entry of an event. -/
def toEntry (e : MembershipEvent) : LogEntry := ⟨e.conversationId, e.targetUserId, e.type⟩

/-- What the stored documents say about membership. -/
def membership (db : ChatDb) : Membership where
  conversations := db.conversations.map fun c => (c.id, c.type)
  members := db.participants.map toMember
  log := db.membershipEvents.map toEntry

/-! ## The database operations -/

section Operations

variable (db : ChatDb)

@[simp] theorem membership_createConversation (c : Conversation) :
    membership (db.createConversation c) = (membership db).addConversation c.id c.type := by
  simp [membership, ChatDb.createConversation, Membership.addConversation]

@[simp] theorem membership_insertParticipants (ps : List ConversationParticipant) :
    membership (db.insertParticipants ps) = (membership db).addMembers (ps.map toMember) := by
  simp [membership, ChatDb.insertParticipants, Membership.addMembers]

@[simp] theorem membership_insertEvents (es : List MembershipEvent) :
    membership (db.insertEvents es) = (membership db).write (es.map toEntry) := by
  simp [membership, ChatDb.insertEvents, Membership.write]

@[simp] theorem membership_endMembership (c u : ObjectId) (status : ParticipantStatus)
    (leftAt : Date) :
    membership (db.endMembership c u status leftAt) = (membership db).endMember c u status := by
  have hmembers : (updateOne (ChatDb.isActiveOf c u)
      (fun p => { p with status := status, leftAt := some leftAt }) db.participants).map toMember =
      updateOne (Member.isActiveOf c u) (fun x => { x with status := status })
        (db.participants.map toMember) := map_updateOne_comm (fun _ => rfl) fun _ => rfl
  simp only [membership, ChatDb.endMembership, ChatDb.updateParticipant, hmembers,
    Membership.endMember]

@[simp] theorem membership_restoreParticipant (record : ObjectId) :
    membership (db.restoreParticipant record) = (membership db).restore record := by
  have hmembers : (updateOne (fun p : ConversationParticipant => p.id = record)
      (fun p => { p with status := .active }) db.participants).map toMember =
      updateOne (fun x : Member => x.record = record) (fun x => { x with status := .active })
        (db.participants.map toMember) := map_updateOne_comm (fun _ => rfl) fun _ => rfl
  simp only [membership, ChatDb.restoreParticipant, ChatDb.updateParticipant, hmembers,
    Membership.restore]

@[simp] theorem membership_moveMarker (participant message : ObjectId) (lastReadAt : Date) :
    membership (db.moveMarker participant message lastReadAt) = membership db := by
  simp only [membership, ChatDb.moveMarker, ChatDb.updateParticipant]
  rw [map_updateOne (f := toMember)]
  intro x
  rfl

@[simp] theorem membership_resetUnread (participant : ObjectId) :
    membership (db.resetUnread participant) = membership db := by
  simp only [membership, ChatDb.resetUnread, ChatDb.updateParticipant]
  rw [map_updateOne (f := toMember)]
  intro x
  rfl

@[simp] theorem membership_incrementUnread (c sender : ObjectId) :
    membership (db.incrementUnread c sender) = membership db := by
  simp only [membership, ChatDb.incrementUnread]
  rw [map_updateMany (f := toMember)]
  intro x
  rfl

@[simp] theorem membership_touchConversation (c : ObjectId) (lastMessageAt now : Date) :
    membership (db.touchConversation c lastMessageAt now) = membership db := by
  simp only [membership, ChatDb.touchConversation]
  rw [map_updateOne (f := fun c : Conversation => (c.id, c.type))]
  intro x
  rfl

@[simp] theorem membership_createMessage (message : Message) :
    membership (db.createMessage message) = membership db := rfl

@[simp] theorem membership_saveAttached (attachment message : ObjectId) (confirmedAt : Date) :
    membership (db.saveAttached attachment message confirmedAt) = membership db := rfl

@[simp] theorem membership_markSeen (c : ObjectId) (senders : List ObjectId) (upTo : Date) :
    membership (db.markSeen c senders upTo) = membership db := rfl

end Operations

/-! ## The queries -/

/-- The active record that is found. -/
theorem findActive_eq_some {db : ChatDb} {c u : ObjectId} {p : ConversationParticipant}
    (h : db.findActive c u = some p) :
    p ∈ db.participants ∧ p.conversationId = c ∧ p.userId = u ∧ p.status = .active := by
  have hmatch := List.find?_some h
  simp only [ChatDb.isActiveOf, Bool.and_eq_true, decide_eq_true_eq] at hmatch
  exact ⟨List.mem_of_find?_eq_some h, hmatch.1.1, hmatch.1.2, hmatch.2⟩

/-- No active record is found exactly when there is none. -/
theorem findActive_eq_none {db : ChatDb} {c u : ObjectId} (h : db.findActive c u = none) :
    (membership db).activeRecords c u = 0 := by
  rw [Membership.activeRecords, membership, List.countP_map, List.countP_eq_zero]
  intro p hp
  exact List.find?_eq_none.mp h p hp

/-- The participant that a guard has found. -/
theorem getRequiredActiveParticipant_ok {db : ChatDb} {conversationId userId : JsString}
    {p : ConversationParticipant}
    (h : getRequiredActiveParticipant db conversationId userId = .ok p) :
    ObjectId.ofString? conversationId = some p.conversationId ∧
      ObjectId.ofString? userId = some p.userId ∧
      db.findActive p.conversationId p.userId = some p := by
  unfold getRequiredActiveParticipant at h
  split at h
  · rename_i c u hc hu
    split at h
    · rename_i q hfound
      cases h
      obtain ⟨-, hconv, huser, -⟩ := findActive_eq_some hfound
      rw [hconv, huser]
      exact ⟨hc, hu, hfound⟩
    · cases h
  · cases h

/-- The participant that the guard for admins and owners has found. -/
theorem requireAdminOrOwner_ok {db : ChatDb} {conversationId userId : JsString}
    {p : ConversationParticipant} (h : requireAdminOrOwner db conversationId userId = .ok p) :
    getRequiredActiveParticipant db conversationId userId = .ok p := by
  unfold requireAdminOrOwner at h
  unfold getRequiredActiveParticipant
  split at h
  · split at h
    · rename_i q hfound
      split at h
      · cases h
        rfl
      · cases h
    · cases h
  · cases h

/-- A participant's conversation is known. -/
theorem known_of_mem {db : ChatDb} {pending : List LogEntry} (hinv : (membership db).Inv pending)
    {p : ConversationParticipant} (hp : p ∈ db.participants) :
    p.conversationId ∈ (membership db).known :=
  hinv.member_known (toMember p) (List.mem_map_of_mem hp)

/-! ## Between the steps -/

/-- The strings that the server hands out for users. -/
def HandedOut (userId : JsString) : Prop := ∃ id : ObjectId, userId = id.toString

/-- The entry for a user of a new conversation. -/
def newEntry (c : ObjectId) (user : NewParticipant) : LogEntry :=
  ⟨c, user.userId, if user.isCreator then .joined else .added⟩

/-- The log entry that the end of a membership has still to write. -/
def endPending (ending : Ending) : EndPc → List LogEntry
  | .logging c u _ _ => [⟨c, u, ending.event⟩]
  | _ => []

/-- What the local variables of the end of a membership say about the database. -/
def EndFacts (m : Membership) : EndPc → Prop
  | .start c _ _ => c ∈ m.known
  | _ => True

/-- The log entries that a call has still to write. -/
def pending : ChatCall → List LogEntry
  | .createConversation _ (.addingEvents conversation _ users _) =>
    users.map (newEntry conversation.id)
  | .addMember _ (.logging c u _ _) => [⟨c, u, .added⟩]
  | .removeMember _ pc => endPending .removed pc
  | .markConversationLeft _ pc => endPending .left pc
  | _ => []

/-- What the local variables of a call say about the database. -/
def CallFacts (m : Membership) : ChatCall → Prop
  | .createConversation args pc =>
    (∀ userId ∈ args.creatorId :: args.participantIds, HandedOut userId) ∧
      match pc with
      | .addingParticipants conversation _ users _ =>
        conversation.id ∈ m.known ∧ (users.map NewParticipant.userId).Nodup ∧
          ∀ x ∈ m.members, x.conversation ≠ conversation.id
      | _ => True
  | .addMember _ (.start c _) => c ∈ m.known
  | .addMember _ (.creating c u _ _) => c ∈ m.known ∧ m.activeRecords c u = 0
  | .removeMember _ pc => EndFacts m pc
  | .markConversationLeft _ pc => EndFacts m pc
  | .sendMessage _ (.findingParticipants ctx) =>
    (ctx.conversation, ConversationType.direct) ∈ m.conversations
  | .sendMessage _ (.restoring _ _ left) =>
    ∀ record ∈ left, ∃ x ∈ m.members, x.record = record ∧
      (x.conversation, ConversationType.direct) ∈ m.conversations
  | _ => True

/-- What holds between the steps of a call that has the database for itself. -/
def StepInv (db : ChatDb) (call : ChatCall) : Prop :=
  (membership db).Inv (pending call) ∧ CallFacts (membership db) call

/-- `addMember` keeps it. -/
theorem StepInv.addMember {db db' : ChatDb} {args : MembershipArgs} {pc pc' : AddMemberPc}
    {input : CallInput} (hinv : StepInv db (.addMember args pc))
    (h : addMemberStep db args input pc = some (db', pc')) :
    StepInv db' (.addMember args pc') := by
  obtain ⟨hmem, hfacts⟩ := hinv
  cases addMemberStep_cases h with
  | refused error hguard => exact ⟨hmem, trivial⟩
  | passed actor hguard =>
    obtain ⟨-, -, hfound⟩ := getRequiredActiveParticipant_ok hguard
    exact ⟨hmem, known_of_mem hmem (findActive_eq_some hfound).1⟩
  | invalidUser c actor huser => exact ⟨hmem, trivial⟩
  | alreadyMember c u actor huser hfound => exact ⟨hmem, trivial⟩
  | notMember c u actor huser hnone => exact ⟨hmem, hfacts, findActive_eq_none hnone⟩
  -- from the insertion on the log is one entry behind
  | created c u actor joinedAt hfresh =>
    obtain ⟨hknown, hzero⟩ := hfacts
    refine ⟨?_, trivial⟩
    rw [membership_insertParticipants]
    apply hmem.addMembers hknown
    · simp
    · intro x hx
      obtain rfl : x = ⟨input.newId, c, u, .active⟩ := by simpa [toMember] using hx
      simpa [membership, toMember] using hfresh
    · intro x hx
      obtain rfl : x = ⟨input.newId, c, u, .active⟩ := by simpa [toMember] using hx
      exact ⟨rfl, rfl⟩
    · simp
    · intro x hx
      obtain rfl : x = ⟨input.newId, c, u, .active⟩ := by simpa [toMember] using hx
      exact hzero
    · intro e he
      obtain rfl := List.mem_singleton.mp he
      exact ⟨rfl, rfl⟩
    · rfl
  | logged c u actor occurredAt hfresh =>
    refine ⟨?_, trivial⟩
    rw [membership_insertEvents]
    exact hmem.write

/-- The end of a membership keeps it, behind a guard that finds a participant. -/
theorem endStep_keeps {ending : Ending} {guard : ChatDb → Except ChatError ConversationParticipant}
    (hguard : ∀ db p, guard db = .ok p → p ∈ db.participants) {userId : JsString}
    {db db' : ChatDb} {pc pc' : EndPc} {input : CallInput}
    (hmem : (membership db).Inv (endPending ending pc)) (hfacts : EndFacts (membership db) pc)
    (h : endStep ending guard userId db input pc = some (db', pc')) :
    (membership db').Inv (endPending ending pc') ∧ EndFacts (membership db') pc' := by
  cases endStep_cases h with
  | refused error hguard' => exact ⟨hmem, trivial⟩
  | passed actor hactor => exact ⟨hmem, known_of_mem hmem (hguard db actor hactor)⟩
  | invalidUser c actor leftAt huser => exact ⟨hmem, trivial⟩
  | updated c u actor leftAt huser =>
    refine ⟨?_, trivial⟩
    rw [membership_endMembership]
    apply hmem.endMember hfacts
    · cases ending <;> decide
    · cases ending <;> rfl
  | logged c u actor occurredAt event hfresh hevent =>
    have hentry : [⟨c, u, ending.event⟩] = [event].map toEntry := by
      rw [← hevent.1, ← hevent.2.1, ← hevent.2.2]
      rfl
    refine ⟨?_, trivial⟩
    rw [membership_insertEvents, ← hentry]
    exact hmem.write

/-- `markConversationRead` does not touch membership. -/
theorem membership_markReadStep {db db' : ChatDb} {args : MemberArgs} {pc pc' : MarkReadPc}
    {input : CallInput} (h : markReadStep db args input pc = some (db', pc')) :
    membership db' = membership db := by
  cases markReadStep_cases h with
  | reset c participant lastReadAt => exact membership_resetUnread db participant
  | marked c participant message lastReadAt =>
    exact membership_moveMarker db participant message.id lastReadAt
  | _ => rfl

/-- A conversation that is found is known with its type. -/
theorem findConversation_eq_some {db : ChatDb} {c : ObjectId} {conversation : Conversation}
    (h : db.findConversation c = some conversation) :
    (c, conversation.type) ∈ (membership db).conversations := by
  have hmatch := List.find?_some h
  have hid : conversation.id = c := of_decide_eq_true hmatch
  rw [← hid]
  exact List.mem_map_of_mem (f := fun c : Conversation => (c.id, c.type))
    (List.mem_of_find?_eq_some h)

/-- The participants to restore are records of the conversation. -/
theorem mem_participantsToRestore {db : ChatDb} {c record : ObjectId} {senderId : JsString}
    (h : record ∈ participantsToRestore db c senderId) :
    ∃ x ∈ (membership db).members, x.record = record ∧ x.conversation = c := by
  obtain ⟨p, hp, rfl⟩ := List.mem_map.mp h
  have hfound : p ∈ db.findParticipants c := List.mem_mergeSort.mp (List.mem_filter.mp hp).1
  obtain ⟨hmem, hconv⟩ := List.mem_filter.mp hfound
  exact ⟨toMember p, List.mem_map_of_mem hmem, rfl, of_decide_eq_true hconv⟩

theorem facts_sendEncrypt (m : Membership) (args : SendArgs) (ctx : SendContext)
    (attachment : Option ChatAttachment) (now : Date) :
    CallFacts m (.sendMessage args (sendEncrypt args ctx attachment now)) := by
  unfold sendEncrypt
  split
  · trivial
  · split <;> trivial

theorem facts_sendAttachment (m : Membership) (args : SendArgs) (ctx : SendContext) (now : Date) :
    CallFacts m (.sendMessage args (sendAttachment args ctx now)) := by
  unfold sendAttachment
  split
  · exact facts_sendEncrypt m args ctx none now
  · split <;> trivial

/-- `sendMessage` keeps it. -/
theorem StepInv.sendMessage {env : BackendEnv} {db db' : ChatDb} {args : SendArgs}
    {pc pc' : SendPc} {input : CallInput} (hinv : StepInv db (.sendMessage args pc))
    (h : sendStep env db args input pc = some (db', pc')) :
    StepInv db' (.sendMessage args pc') := by
  obtain ⟨hmem, hfacts⟩ := hinv
  change (membership db).Inv [] at hmem
  -- most steps leave membership alone
  have hquiet : ∀ {db'' : ChatDb} {pc'' : SendPc}, membership db'' = membership db →
      CallFacts (membership db) (.sendMessage args pc'') → StepInv db'' (.sendMessage args pc'') := by
    intro db'' pc'' hsame hfacts''
    exact ⟨hsame ▸ hmem, hsame ▸ hfacts''⟩
  cases sendStep_cases h with
  | direct ctx conversation hfound hdirect =>
    have hknown := findConversation_eq_some hfound
    rw [hdirect] at hknown
    exact hquiet rfl hknown
  | notDirect ctx => exact hquiet rfl (facts_sendAttachment _ _ _ _)
  | nothingToRestore ctx => exact hquiet rfl (facts_sendAttachment _ _ _ _)
  | toRestore ctx =>
    refine hquiet rfl fun record hrecord => ?_
    obtain ⟨x, hx, hxrecord, hconv⟩ := mem_participantsToRestore hrecord
    exact ⟨x, hx, hxrecord, hconv ▸ hfacts⟩
  | restoredLast ctx toRestore left record hrecord =>
    refine ⟨?_, trivial⟩
    rw [membership_restoreParticipant]
    exact hmem.restore (hfacts record hrecord)
  | restored ctx toRestore left record hrecord =>
    refine ⟨?_, ?_⟩
    · rw [membership_restoreParticipant]
      exact hmem.restore (hfacts record hrecord)
    · intro other hother
      obtain ⟨x, hx, hxrecord, hdirect⟩ := hfacts other (List.mem_of_mem_eraseIdx hother)
      rw [membership_restoreParticipant]
      rcases mem_updateOne_of_mem hx with hsame | ⟨-, hchanged⟩
      · exact ⟨x, hsame, hxrecord, hdirect⟩
      · exact ⟨_, hchanged, hxrecord, hdirect⟩
  | refetched ctx toRestore => exact hquiet rfl (facts_sendAttachment _ _ _ _)
  | attachment ctx attachment found hfound => exact hquiet rfl (facts_sendEncrypt _ _ _ _ _)
  | touched ctx message => exact hquiet (membership_touchConversation db _ _ _) trivial
  | marked ctx message => exact hquiet (membership_moveMarker db _ _ _) trivial
  | counted ctx message => exact hquiet (membership_incrementUnread db _ _) trivial
  | _ => exact hquiet rfl trivial

/-- The users of a new conversation are different, when their strings are the ones handed out. -/
theorem nodup_newParticipants {args : CreateArgs} {users : List NewParticipant}
    (hcanonical : ∀ userId ∈ args.creatorId :: args.participantIds, HandedOut userId)
    (h : newParticipants args = some users) : (users.map NewParticipant.userId).Nodup := by
  -- the strings of the parsed users are the strings of the request
  have hstrings : ∀ {strings : List JsString} {users : List NewParticipant},
      (∀ userId ∈ strings, HandedOut userId) →
      (strings.mapM fun uid => (ObjectId.ofString? uid).map fun user =>
        (⟨user, uid = args.creatorId⟩ : NewParticipant)) = some users →
      (users.map NewParticipant.userId).map ObjectId.toString = strings := by
    intro strings
    induction strings with
    | nil =>
      intro users _ hparsed
      obtain rfl : users = [] := by simpa using hparsed.symm
      rfl
    | cons uid strings ih =>
      intro users hall hparsed
      obtain ⟨id, rfl⟩ := hall uid List.mem_cons_self
      simp only [List.mapM_cons, ObjectId.ofString?_toString, Option.map_some, Option.pure_def,
        Option.bind_eq_bind, Option.bind_some, Option.bind_eq_some_iff, Option.some.injEq] at hparsed
      obtain ⟨rest, hrest, rfl⟩ := hparsed
      rw [List.map_cons, List.map_cons, ih (fun u hu => hall u (List.mem_cons_of_mem _ hu)) hrest]
  have hdistinct : ∀ userId ∈ distinct (args.creatorId :: args.participantIds),
      HandedOut userId := fun userId hmem => hcanonical userId (mem_distinct.mp hmem)
  apply List.Nodup.of_map ObjectId.toString
  rw [hstrings hdistinct h]
  exact nodup_distinct _

/-- `createConversation` keeps it. -/
theorem StepInv.createConversation {db db' : ChatDb} {args : CreateArgs} {pc pc' : CreatePc}
    {input : CallInput} (hinv : StepInv db (.createConversation args pc))
    (h : createStep db args input pc = some (db', pc')) :
    StepInv db' (.createConversation args pc') := by
  obtain ⟨hmem, hcanonical, hfacts⟩ := hinv
  -- the id of a new conversation is not known yet
  have hunknown : input.newId ∉ db.conversations.map Conversation.id →
      input.newId ∉ (membership db).known := by
    intro hfresh
    simpa [Membership.known, membership] using hfresh
  cases createStep_cases h with
  | invalidParticipant creator hcreator hfresh husers =>
    refine ⟨?_, hcanonical, trivial⟩
    rw [membership_createConversation]
    exact hmem.addConversation (hunknown hfresh) _
  | created creator users hcreator hfresh husers =>
    refine ⟨?_, hcanonical, ?_, nodup_newParticipants hcanonical husers, ?_⟩
    · rw [membership_createConversation]
      exact hmem.addConversation (hunknown hfresh) _
    · rw [membership_createConversation, Membership.known, Membership.addConversation,
        List.map_append]
      exact List.mem_append_right _ List.mem_cons_self
    · intro x hx heq
      rw [membership_createConversation] at hx
      have hconv := hmem.member_known x hx
      rw [heq] at hconv
      exact hunknown hfresh hconv
  | participants conversation creator users joinedAt hfresh =>
    obtain ⟨hlen, hnodup, hunused⟩ := hfresh
    obtain ⟨hknown, husers, hempty⟩ := hfacts
    refine ⟨?_, hcanonical, trivial⟩
    have hrecords : ((List.zipWith (NewParticipant.document conversation.id creator joinedAt)
        users input.newIds).map toMember).map Member.record = input.newIds := by
      rw [List.map_map]
      exact map_zipWith_right (by intro user id; rfl) hlen
    have huserIds : ((List.zipWith (NewParticipant.document conversation.id creator joinedAt)
        users input.newIds).map toMember).map Member.user =
          users.map NewParticipant.userId := by
      rw [List.map_map]
      exact map_zipWith_left (by intro user id; rfl) hlen
    have hdocuments : ∀ x ∈ (List.zipWith (NewParticipant.document conversation.id creator
        joinedAt) users input.newIds).map toMember,
        x.conversation = conversation.id ∧ x.status = .active := by
      intro x hx
      obtain ⟨p, hp, rfl⟩ := List.mem_map.mp hx
      obtain ⟨user, -, id, -, rfl⟩ := exists_of_mem_zipWith hp
      exact ⟨rfl, rfl⟩
    rw [membership_insertParticipants]
    apply hmem.addMembers hknown
    · rw [hrecords]
      exact hnodup
    · intro x hx
      have hid : x.record ∈ input.newIds := hrecords ▸ List.mem_map_of_mem hx
      simpa [membership, toMember] using hunused _ hid
    · exact hdocuments
    · rw [huserIds]
      exact husers
    · intro x _
      exact Membership.activeRecords_eq_zero hempty x.user
    · intro e he
      obtain ⟨user, -, rfl⟩ := List.mem_map.mp he
      refine ⟨rfl, ?_⟩
      cases hcreator : user.isCreator <;> simp [newEntry, hcreator, joins]
    · show (users.map (newEntry conversation.id)).map LogEntry.user = _
      rw [huserIds, List.map_map]
      rfl
  | events conversation creator users occurredAt hfresh =>
    obtain ⟨hlen, -, -⟩ := hfresh
    refine ⟨?_, hcanonical, trivial⟩
    have hentries : (List.zipWith (NewParticipant.event conversation.id creator occurredAt) users
        input.newIds).map toEntry = users.map (newEntry conversation.id) :=
      map_zipWith_left (by intro user id; rfl) hlen
    rw [membership_insertEvents, hentries]
    exact hmem.write
  | _ => exact ⟨hmem, hcanonical, trivial⟩

end ChatSC.Spec
