import ChatSC.Spec.Rosters

/-!
# Calls that have the database for themselves

What a call has done to the database at every point of its way from `before`, when nothing else
happens meanwhile: `CreateProgress`, `AddProgress`, `EndProgress` and `RestoreProgress`.  The
membership part of it is put together in `RosterChange`, the effect of a whole operation.
-/

namespace ChatSC.Spec

open Backend Collection JsString Transition

/-! ## `createConversation` -/

/-- The first conversation that has exactly one record of each user. -/
def firstDirect (db : ChatDb) (creatorId targetId : JsString) (conversations : List Conversation) :
    Option Conversation :=
  conversations.find? fun c => isDirectOf (db.findParticipants c.id) creatorId targetId

theorem firstDirect_cons_of_match {db : ChatDb} {creatorId targetId : JsString}
    {conversation : Conversation} {rest : List Conversation}
    (h : isDirectOf (db.findParticipants conversation.id) creatorId targetId = true) :
    firstDirect db creatorId targetId (conversation :: rest) = some conversation := by
  simp only [firstDirect, List.find?_cons, h]

theorem firstDirect_cons_of_not_match {db : ChatDb} {creatorId targetId : JsString}
    {conversation : Conversation} {rest : List Conversation}
    (h : isDirectOf (db.findParticipants conversation.id) creatorId targetId = false) :
    firstDirect db creatorId targetId (conversation :: rest) =
      firstDirect db creatorId targetId rest := by
  simp only [firstDirect, List.find?_cons, h]

/-- The direct conversation that `findDirectConversation` finds. -/
def directConversation (db : ChatDb) (creator target : ObjectId) (creatorId targetId : JsString) :
    Option Conversation :=
  firstDirect db creatorId targetId
    (directCandidates db (sharedConversations db creator target creatorId targetId))

/-- The two users of a direct conversation, as they are parsed from the request. -/
structure DirectArgs (args : CreateArgs) (creator target : ObjectId) (targetId : JsString) : Prop where
  direct : args.type = .direct
  participants : args.participantIds = [targetId]
  different : targetId ≠ args.creatorId
  creator_parsed : ObjectId.ofString? args.creatorId = some creator
  target_parsed : ObjectId.ofString? targetId = some target

/-- A new conversation may be made: for a direct one the lookup has found nothing. -/
def NothingFound (before : ChatDb) (args : CreateArgs) : Prop :=
  args.type = .group ∨ ∃ creator target targetId, DirectArgs args creator target targetId ∧
    directConversation before creator target args.creatorId targetId = none

/-- The documents of a new conversation. -/
structure NewConversation (before : ChatDb) (args : CreateArgs) (conversation : Conversation)
    (creator : ObjectId) (users : List NewParticipant) : Prop where
  nothing_found : NothingFound before args
  type_eq : conversation.type = args.type
  createdBy_eq : conversation.createdBy = creator
  creator_parsed : ObjectId.ofString? args.creatorId = some creator
  users_parsed : newParticipants args = some users
  id_fresh : conversation.id ∉ before.conversations.map Conversation.id

/-- The database with a new conversation and its participants. -/
def withParticipants (before : ChatDb) (conversation : Conversation) (creator : ObjectId)
    (users : List NewParticipant) (ids : List ObjectId) (joinedAt : Date) : ChatDb :=
  (before.createConversation conversation).insertParticipants
    (List.zipWith (NewParticipant.document conversation.id creator joinedAt) users ids)

/-- What `createConversation` has done so far. -/
def CreateProgress (before : ChatDb) (args : CreateArgs) (db : ChatDb) : CreatePc → Prop
  | .start => db = before
  | .findingShared creator target => db = before ∧ ∃ targetId, DirectArgs args creator target targetId
  | .findingDirect shared => db = before ∧ ∃ creator target targetId,
      DirectArgs args creator target targetId ∧
        shared = sharedConversations before creator target args.creatorId targetId
  | .checkingDirect conversations => db = before ∧ ∃ creator target targetId,
      DirectArgs args creator target targetId ∧
        directConversation before creator target args.creatorId targetId =
          firstDirect before args.creatorId targetId conversations
  | .creating => db = before ∧ NothingFound before args
  | .addingParticipants conversation creator users _ =>
    NewConversation before args conversation creator users ∧
      db = before.createConversation conversation
  | .addingEvents conversation creator users _ =>
    NewConversation before args conversation creator users ∧ ∃ ids joinedAt,
      FreshIds ids users.length (before.participants.map ConversationParticipant.id) ∧
        db = withParticipants before conversation creator users ids joinedAt
  | .returned conversation =>
    (db = before ∧ ∃ creator target targetId, DirectArgs args creator target targetId ∧
      directConversation before creator target args.creatorId targetId = some conversation) ∨
    ∃ creator users, NewConversation before args conversation creator users ∧
      ∃ ids joinedAt eventIds occurredAt,
        FreshIds ids users.length (before.participants.map ConversationParticipant.id) ∧
        FreshIds eventIds users.length (before.membershipEvents.map MembershipEvent.id) ∧
        db = (withParticipants before conversation creator users ids joinedAt).insertEvents
          (List.zipWith (NewParticipant.event conversation.id creator occurredAt) users eventIds)
  | .threw _ => db = before ∨ ∃ conversation creator, NothingFound before args ∧
      newParticipants args = none ∧ conversation.type = args.type ∧ conversation.createdBy = creator ∧
      conversation.id ∉ before.conversations.map Conversation.id ∧
      db = before.createConversation conversation

/-- A step of `createConversation`. -/
theorem CreateProgress.step {before db db' : ChatDb} {args : CreateArgs} {pc pc' : CreatePc}
    {input : CallInput} (hprogress : CreateProgress before args db pc)
    (h : createStep db args input pc = some (db', pc')) : CreateProgress before args db' pc' := by
  cases createStep_cases h with
  | group htype => exact ⟨hprogress, .inl htype⟩
  | refused error => exact .inl hprogress
  | direct targetId creator target htype hparticipants hother hcreator htarget =>
    exact ⟨hprogress, targetId, htype, hparticipants, hother, hcreator, htarget⟩
  | noneShared creator target hnone =>
    obtain ⟨rfl, targetId, hargs⟩ := hprogress
    rw [hargs.participants] at hnone
    have hshared : sharedConversations db creator target args.creatorId targetId = [] := hnone
    -- without a shared conversation there is no candidate
    refine ⟨rfl, .inr ⟨creator, target, targetId, hargs, ?_⟩⟩
    rw [directConversation, hshared]
    simp [directCandidates, firstDirect]
  | shared creator target =>
    obtain ⟨rfl, targetId, hargs⟩ := hprogress
    rw [hargs.participants]
    exact ⟨rfl, creator, target, targetId, hargs, rfl⟩
  | noCandidate shared hnone =>
    obtain ⟨rfl, creator, target, targetId, hargs, rfl⟩ := hprogress
    refine ⟨rfl, .inr ⟨creator, target, targetId, hargs, ?_⟩⟩
    rw [directConversation, hnone]
    rfl
  | candidates shared =>
    obtain ⟨rfl, creator, target, targetId, hargs, rfl⟩ := hprogress
    exact ⟨rfl, creator, target, targetId, hargs, rfl⟩
  | noneLeft =>
    obtain ⟨rfl, creator, target, targetId, hargs, hfirst⟩ := hprogress
    exact ⟨rfl, .inr ⟨creator, target, targetId, hargs, hfirst⟩⟩
  | found conversation rest hmatch =>
    obtain ⟨rfl, creator, target, targetId, hargs, hfirst⟩ := hprogress
    rw [hargs.participants, List.headD_cons] at hmatch
    refine .inl ⟨rfl, creator, target, targetId, hargs, ?_⟩
    rw [hfirst, firstDirect_cons_of_match hmatch]
  | lastOther conversation hmatch =>
    obtain ⟨rfl, creator, target, targetId, hargs, hfirst⟩ := hprogress
    rw [hargs.participants, List.headD_cons] at hmatch
    refine ⟨rfl, .inr ⟨creator, target, targetId, hargs, ?_⟩⟩
    rw [hfirst, firstDirect_cons_of_not_match hmatch]
    rfl
  | other conversation rest hmatch =>
    obtain ⟨rfl, creator, target, targetId, hargs, hfirst⟩ := hprogress
    rw [hargs.participants, List.headD_cons] at hmatch
    refine ⟨rfl, creator, target, targetId, hargs, ?_⟩
    rw [hfirst, firstDirect_cons_of_not_match hmatch]
  | invalidCreator hcreator => exact .inl hprogress.1
  | invalidParticipant creator hcreator hfresh husers =>
    obtain ⟨rfl, hnothing⟩ := hprogress
    exact .inr ⟨_, creator, hnothing, husers, rfl, rfl, hfresh, rfl⟩
  | created creator users hcreator hfresh husers =>
    obtain ⟨rfl, hnothing⟩ := hprogress
    exact ⟨⟨hnothing, rfl, rfl, hcreator, husers, hfresh⟩, rfl⟩
  | participants conversation creator users joinedAt hfresh =>
    obtain ⟨hnew, rfl⟩ := hprogress
    exact ⟨hnew, input.newIds, joinedAt, hfresh, rfl⟩
  | events conversation creator users occurredAt hfresh =>
    obtain ⟨hnew, ids, joinedAt, hids, rfl⟩ := hprogress
    exact .inr ⟨creator, users, hnew, ids, joinedAt, input.newIds, occurredAt, hids, hfresh, rfl⟩

/-! ## `addMember` -/

/-- What `addMember` has done so far. -/
def AddProgress (before : ChatDb) (args : MembershipArgs) (db : ChatDb) : AddMemberPc → Prop
  | .guarding => db = before
  | .start c _ => db = before ∧ ∃ actor,
      getRequiredActiveParticipant before args.conversationId args.actorId = .ok actor ∧
        actor.conversationId = c
  | .creating c u _ _ => db = before ∧ ObjectId.ofString? args.userId = some u ∧
      before.findActive c u = none ∧ ∃ actor,
      getRequiredActiveParticipant before args.conversationId args.actorId = .ok actor ∧
        actor.conversationId = c
  | .logging c u _ _ => ObjectId.ofString? args.userId = some u ∧ before.findActive c u = none ∧
      (∃ actor, getRequiredActiveParticipant before args.conversationId args.actorId = .ok actor ∧
        actor.conversationId = c) ∧
      ∃ p, p.id ∉ before.participants.map ConversationParticipant.id ∧
        toMember p = ⟨p.id, c, u, .active⟩ ∧ db = before.insertParticipants [p]
  | .returned alreadyMember => (alreadyMember = true ∧ db = before) ∨
      ∃ c u, ObjectId.ofString? args.userId = some u ∧ before.findActive c u = none ∧
      (∃ actor, getRequiredActiveParticipant before args.conversationId args.actorId = .ok actor ∧
        actor.conversationId = c) ∧
      ∃ p event, p.id ∉ before.participants.map ConversationParticipant.id ∧
        toMember p = ⟨p.id, c, u, .active⟩ ∧
        db = (before.insertParticipants [p]).insertEvents [event]
  | .threw _ => db = before

/-- A step of `addMember`. -/
theorem AddProgress.step {before db db' : ChatDb} {args : MembershipArgs} {pc pc' : AddMemberPc}
    {input : CallInput} (hprogress : AddProgress before args db pc)
    (h : addMemberStep db args input pc = some (db', pc')) : AddProgress before args db' pc' := by
  cases addMemberStep_cases h with
  | refused error hguard => exact hprogress
  | passed actor hguard =>
    obtain rfl : db = before := hprogress
    exact ⟨rfl, actor, hguard, rfl⟩
  | invalidUser c actor huser => exact hprogress.1
  | alreadyMember c u actor huser hfound => exact .inl ⟨rfl, hprogress.1⟩
  | notMember c u actor huser hnone =>
    obtain ⟨rfl, hactor⟩ := hprogress
    exact ⟨rfl, huser, hnone, hactor⟩
  | created c u actor joinedAt hfresh =>
    obtain ⟨rfl, hu, hnone, hactor⟩ := hprogress
    exact ⟨hu, hnone, hactor, _, hfresh, rfl, rfl⟩
  | logged c u actor occurredAt hfresh =>
    obtain ⟨hu, hnone, hactor, p, hp, hmember, rfl⟩ := hprogress
    exact .inr ⟨c, u, hu, hnone, hactor, p, _, hp, hmember, rfl⟩

/-! ## The end of a membership -/

/-- What the end of a membership has done so far. -/
def EndProgress (ending : Ending) (before : ChatDb) (db : ChatDb) : EndPc → Prop
  | .guarding | .start _ _ _ | .threw _ => db = before
  | .logging c u _ _ => ∃ leftAt, db = before.endMembership c u ending.status leftAt
  | .returned => ∃ c u leftAt event,
      db = (before.endMembership c u ending.status leftAt).insertEvents [event]

/-- A step of the end of a membership. -/
theorem EndProgress.step {ending : Ending}
    {guard : ChatDb → Except ChatError ConversationParticipant} {userId : JsString}
    {before db db' : ChatDb} {pc pc' : EndPc} {input : CallInput}
    (hprogress : EndProgress ending before db pc)
    (h : endStep ending guard userId db input pc = some (db', pc')) :
    EndProgress ending before db' pc' := by
  cases endStep_cases h with
  | refused error hguard => exact hprogress
  | passed actor hguard => exact hprogress
  | invalidUser c actor leftAt huser => exact hprogress
  | updated c u actor leftAt huser =>
    obtain rfl : db = before := hprogress
    exact ⟨leftAt, rfl⟩
  | logged c u actor occurredAt event hfresh hevent =>
    obtain ⟨leftAt, rfl⟩ := hprogress
    exact ⟨c, u, leftAt, event, rfl⟩

/-! ## The participants that a message restores -/

/-- The message is not refused before its sender is looked up, and the sender is found. -/
def SenderFound (before : ChatDb) (args : SendArgs) (c : ObjectId) : Prop :=
  ¬ (trim args.content = [] ∧ args.attachmentId = []) ∧ ∃ participant,
    getRequiredActiveParticipant before args.conversationId args.senderId = .ok participant ∧
      participant.conversationId = c

/-- Some of the participants that the message has to restore are restored. -/
def Restored (before : ChatDb) (args : SendArgs) (m : Membership) : Prop :=
  m = membership before ∨ ∃ c, SenderFound before args c ∧
    (c, ConversationType.direct) ∈ (membership before).conversations ∧
    ∃ done : List ObjectId, (∀ record ∈ done, record ∈ participantsToRestore before c args.senderId) ∧
      m = done.foldl Membership.restore (membership before)

/-- What `sendMessage` has done so far to membership. -/
def RestoreProgress (before : ChatDb) (args : SendArgs) (db : ChatDb) : SendPc → Prop
  | .start => db = before
  | .findingConversation ctx => db = before ∧ SenderFound before args ctx.conversation
  | .findingParticipants ctx => db = before ∧ SenderFound before args ctx.conversation ∧
      (ctx.conversation, ConversationType.direct) ∈ (membership before).conversations
  | .restoring ctx _ left => SenderFound before args ctx.conversation ∧
      (ctx.conversation, ConversationType.direct) ∈ (membership before).conversations ∧
      (∀ record ∈ left, record ∈ participantsToRestore before ctx.conversation args.senderId) ∧
      ∃ done : List ObjectId, (∀ record ∈ done, record ∈
          participantsToRestore before ctx.conversation args.senderId) ∧
        membership db = done.foldl Membership.restore (membership before)
  | _ => Restored before args (membership db)

theorem restoreProgress_sendEncrypt {before db : ChatDb} {args : SendArgs}
    (h : Restored before args (membership db)) (ctx : SendContext)
    (attachment : Option ChatAttachment) (now : Date) :
    RestoreProgress before args db (sendEncrypt args ctx attachment now) := by
  unfold sendEncrypt
  split
  · exact h
  · split <;> exact h

theorem restoreProgress_sendAttachment {before db : ChatDb} {args : SendArgs}
    (h : Restored before args (membership db)) (ctx : SendContext) (now : Date) :
    RestoreProgress before args db (sendAttachment args ctx now) := by
  unfold sendAttachment
  split
  · exact restoreProgress_sendEncrypt h ctx none now
  · split <;> exact h

/-- A step of `sendMessage`. -/
theorem RestoreProgress.step {env : BackendEnv} {before db db' : ChatDb} {args : SendArgs}
    {pc pc' : SendPc} {input : CallInput} (hprogress : RestoreProgress before args db pc)
    (h : sendStep env db args input pc = some (db', pc')) :
    RestoreProgress before args db' pc' := by
  -- one more of the participants is restored
  have hmore : ∀ {ctx : SendContext} {toRestore left : List ObjectId} {record : ObjectId},
      RestoreProgress before args db (.restoring ctx toRestore left) → record ∈ left →
      SenderFound before args ctx.conversation ∧
        (ctx.conversation, ConversationType.direct) ∈ (membership before).conversations ∧
        (∀ r ∈ left, r ∈ participantsToRestore before ctx.conversation args.senderId) ∧
        ∃ done : List ObjectId, (∀ r ∈ done, r ∈
            participantsToRestore before ctx.conversation args.senderId) ∧
          membership (db.restoreParticipant record) =
            done.foldl Membership.restore (membership before) := by
    intro ctx toRestore left record hprogress hrecord
    obtain ⟨hsender, hdirect, hleft, done, hdone, hmembership⟩ := hprogress
    refine ⟨hsender, hdirect, hleft, done ++ [record], ?_, ?_⟩
    · intro r hr
      cases List.mem_append.mp hr with
      | inl hold => exact hdone r hold
      | inr hnew => exact List.mem_singleton.mp hnew ▸ hleft record hrecord
    · rw [membership_restoreParticipant, hmembership, List.foldl_concat]
  cases sendStep_cases h with
  | refused error =>
    obtain rfl : db = before := hprogress
    exact .inl rfl
  | sender participant hnonempty hsender =>
    obtain rfl : db = before := hprogress
    exact ⟨rfl, hnonempty, participant, hsender, rfl⟩
  | direct ctx conversation hfound hdirect =>
    obtain ⟨rfl, hsender⟩ := hprogress
    exact ⟨rfl, hsender, hdirect ▸ findConversation_eq_some hfound⟩
  | notDirect ctx =>
    obtain ⟨rfl, hsender⟩ := hprogress
    exact restoreProgress_sendAttachment (.inl rfl) ctx _
  | nothingToRestore ctx =>
    obtain ⟨rfl, hsender, hdirect⟩ := hprogress
    exact restoreProgress_sendAttachment (.inl rfl) ctx _
  | toRestore ctx =>
    obtain ⟨rfl, hsender, hdirect⟩ := hprogress
    exact ⟨hsender, hdirect, fun record hrecord => hrecord, [],
      fun record hrecord => absurd hrecord List.not_mem_nil, rfl⟩
  | restoredLast ctx toRestore left record hrecord =>
    obtain ⟨hsender, hdirect, -, hdone⟩ := hmore hprogress hrecord
    exact .inr ⟨ctx.conversation, hsender, hdirect, hdone⟩
  | restored ctx toRestore left record hrecord =>
    obtain ⟨hsender, hdirect, hleft, hdone⟩ := hmore hprogress hrecord
    exact ⟨hsender, hdirect, fun r hr => hleft r (List.mem_of_mem_eraseIdx hr), hdone⟩
  | refetched ctx toRestore => exact restoreProgress_sendAttachment hprogress _ _
  | attachment ctx attachment found hfound => exact restoreProgress_sendEncrypt hprogress ctx _ _
  | touched ctx message =>
    show Restored before args (membership (db.touchConversation _ _ _))
    rw [membership_touchConversation]
    exact hprogress
  | marked ctx message =>
    show Restored before args (membership (db.moveMarker _ _ _))
    rw [membership_moveMarker]
    exact hprogress
  | counted ctx message =>
    show Restored before args (membership (db.incrementUnread _ _))
    rw [membership_incrementUnread]
    exact hprogress
  | _ => exact hprogress

/-! ## A whole operation -/

section Alone

variable {env : BackendEnv} {before db : ChatDb} {call : ChatCall} {inputs : List CallInput}

theorem createProgress_of_run {args : CreateArgs}
    (hrun : run (aloneStep env) (before, .createConversation args .start) inputs = some (db, call)) :
    ∃ pc, call = .createConversation args pc ∧ CreateProgress before args db pc := by
  have hstart : CreateProgress before args before .start := rfl
  exact run_alone (fun _ _ _ => rfl) (fun _ _ _ _ _ hprogress h => hprogress.step h) hstart hrun

theorem addProgress_of_run {args : MembershipArgs}
    (hrun : run (aloneStep env) (before, .addMember args .guarding) inputs = some (db, call)) :
    ∃ pc, call = .addMember args pc ∧ AddProgress before args db pc := by
  have hstart : AddProgress before args before .guarding := rfl
  exact run_alone (fun _ _ _ => rfl) (fun _ _ _ _ _ hprogress h => hprogress.step h) hstart hrun

theorem removeProgress_of_run {args : MembershipArgs}
    (hrun : run (aloneStep env) (before, .removeMember args .guarding) inputs = some (db, call)) :
    ∃ pc, call = .removeMember args pc ∧ EndProgress .removed before db pc := by
  have hstart : EndProgress .removed before before .guarding := rfl
  exact run_alone (fun _ _ _ => rfl) (fun _ _ _ _ _ hprogress h => hprogress.step h) hstart hrun

theorem leaveProgress_of_run {args : MemberArgs}
    (hrun : run (aloneStep env) (before, .markConversationLeft args .guarding) inputs =
      some (db, call)) :
    ∃ pc, call = .markConversationLeft args pc ∧ EndProgress .left before db pc := by
  have hstart : EndProgress .left before before .guarding := rfl
  exact run_alone (fun _ _ _ => rfl) (fun _ _ _ _ _ hprogress h => hprogress.step h) hstart hrun

theorem restoreProgress_of_run {args : SendArgs}
    (hrun : run (aloneStep env) (before, .sendMessage args .start) inputs = some (db, call)) :
    ∃ pc, call = .sendMessage args pc ∧ RestoreProgress before args db pc := by
  have hstart : RestoreProgress before args before .start := rfl
  exact run_alone (fun _ _ _ => rfl) (fun _ _ _ _ _ hprogress h => hprogress.step h) hstart hrun

theorem membership_of_markRead {args : MemberArgs} {pc : MarkReadPc}
    (hrun : run (aloneStep env) (before, .markConversationRead args pc) inputs = some (db, call)) :
    membership db = membership before := by
  have hkeep : ∀ (db : ChatDb) (input : CallInput) (pc : MarkReadPc) (db' : ChatDb)
      (pc' : MarkReadPc), membership db = membership before →
      markReadStep db args input pc = some (db', pc') → membership db' = membership before :=
    fun _ _ _ _ _ hsame h => (membership_markReadStep h).trans hsame
  obtain ⟨-, -, hsame⟩ := run_alone (fun _ _ _ => rfl) hkeep rfl hrun
  exact hsame

end Alone

/-- What an operation does to membership. -/
inductive RosterChange (before : ChatDb) (db : ChatDb) : ChatCall → Prop where
  | same {call : ChatCall} (h : membership db = membership before) : RosterChange before db call
  | created (args : CreateArgs) (conversation : Conversation) (creator : ObjectId)
      (users : List NewParticipant) (ids : List ObjectId) (entries : List LogEntry)
      (hnew : NewConversation before args conversation creator users)
      (hids : FreshIds ids users.length (before.participants.map ConversationParticipant.id))
      (h : membership db = (((membership before).addConversation conversation.id args.type).addMembers
        (newMembers conversation.id users ids)).write entries) :
      RosterChange before db (.createConversation args .start)
  | createdEmpty (args : CreateArgs) (c : ObjectId) (hnothing : NothingFound before args)
      (hparsed : newParticipants args = none)
      (hfresh : c ∉ (membership before).known)
      (h : membership db = (membership before).addConversation c args.type) :
      RosterChange before db (.createConversation args .start)
  | added (args : MembershipArgs) (actor : ConversationParticipant) (u id : ObjectId)
      (entries : List LogEntry)
      (hactor : getRequiredActiveParticipant before args.conversationId args.actorId = .ok actor)
      (hu : ObjectId.ofString? args.userId = some u)
      (hnone : before.findActive actor.conversationId u = none)
      (hfresh : id ∉ (membership before).members.map Member.record)
      (h : membership db = ((membership before).addMembers
        [⟨id, actor.conversationId, u, .active⟩]).write entries) :
      RosterChange before db (.addMember args .guarding)
  | ended {call : ChatCall} (c u : ObjectId) (status : ParticipantStatus) (entries : List LogEntry)
      (hstatus : status ≠ .active)
      (h : membership db = ((membership before).endMember c u status).write entries) :
      RosterChange before db call
  | restored (args : SendArgs) (c : ObjectId) (done : List ObjectId)
      (hsender : SenderFound before args c)
      (hdirect : (c, ConversationType.direct) ∈ (membership before).conversations)
      (hdone : ∀ record ∈ done, record ∈ participantsToRestore before c args.senderId)
      (h : membership db = done.foldl Membership.restore (membership before)) :
      RosterChange before db (.sendMessage args .start)

theorem rosterChange_create {before db : ChatDb} {args : CreateArgs} {pc : CreatePc}
    (hended : ChatCall.ended (.createConversation args pc) = true)
    (hprogress : CreateProgress before args db pc) :
    RosterChange before db (.createConversation args .start) := by
  cases pc with
  | returned conversation =>
    cases hprogress with
    | inl hsame => exact .same (congrArg membership hsame.1)
    | inr hcreated =>
      obtain ⟨creator, users, hnew, ids, joinedAt, eventIds, occurredAt, hids, -, rfl⟩ := hcreated
      have hmembers : (List.zipWith (NewParticipant.document conversation.id creator joinedAt) users
          ids).map toMember = newMembers conversation.id users ids := by
        rw [List.map_zipWith]
        rfl
      refine .created args conversation creator users ids ((List.zipWith
        (NewParticipant.event conversation.id creator occurredAt) users eventIds).map toEntry)
        hnew hids ?_
      rw [membership_insertEvents, withParticipants, membership_insertParticipants, hmembers,
        membership_createConversation, hnew.type_eq]
  | threw error =>
    cases hprogress with
    | inl hsame => exact .same (congrArg membership hsame)
    | inr hcreated =>
      -- the conversation was stored, and then an id did not parse
      obtain ⟨conversation, creator, hnothing, hparsed, htype, -, hfresh, rfl⟩ := hcreated
      refine .createdEmpty args conversation.id hnothing hparsed (known_membership before ▸ hfresh) ?_
      rw [membership_createConversation, htype]
  | _ => cases hended

theorem rosterChange_add {before db : ChatDb} {args : MembershipArgs} {pc : AddMemberPc}
    (hended : ChatCall.ended (.addMember args pc) = true)
    (hprogress : AddProgress before args db pc) :
    RosterChange before db (.addMember args .guarding) := by
  cases pc with
  | returned alreadyMember =>
    cases hprogress with
    | inl hsame => exact .same (congrArg membership hsame.2)
    | inr hadded =>
      obtain ⟨c, u, hu, hnone, ⟨actor, hactor, rfl⟩, p, event, hfresh, hp, rfl⟩ := hadded
      refine .added args actor u p.id ([event].map toEntry) hactor hu hnone
        (records_membership before ▸ hfresh) ?_
      rw [membership_insertEvents, membership_insertParticipants, List.map_singleton, hp]
  | threw error => exact .same (congrArg membership hprogress)
  | _ => cases hended

theorem rosterChange_end {ending : Ending} {before db : ChatDb} {pc : EndPc} {call : ChatCall}
    (hended : pc = .returned ∨ ∃ error, pc = .threw error)
    (hprogress : EndProgress ending before db pc) : RosterChange before db call := by
  cases hended with
  | inl hreturned =>
    obtain rfl := hreturned
    obtain ⟨c, u, leftAt, event, rfl⟩ := hprogress
    have hstatus : ending.status ≠ .active := by cases ending <;> decide
    refine .ended c u ending.status ([event].map toEntry) hstatus ?_
    rw [membership_insertEvents, membership_endMembership]
  | inr hthrew =>
    obtain ⟨error, rfl⟩ := hthrew
    exact .same (congrArg membership hprogress)

theorem rosterChange_send {before db : ChatDb} {args : SendArgs} {pc : SendPc}
    (hended : ChatCall.ended (.sendMessage args pc) = true)
    (hprogress : RestoreProgress before args db pc) :
    RosterChange before db (.sendMessage args .start) := by
  have hrestored : Restored before args (membership db) := by
    cases pc with
    | returned message restored => exact hprogress
    | threw error => exact hprogress
    | _ => cases hended
  cases hrestored with
  | inl hsame => exact .same hsame
  | inr hrestored =>
    obtain ⟨c, hsender, hdirect, done, hdone, h⟩ := hrestored
    exact .restored args c done hsender hdirect hdone h

theorem endPc_of_ended {pc : EndPc} {args : MembershipArgs}
    (h : ChatCall.ended (.removeMember args pc) = true) :
    pc = .returned ∨ ∃ error, pc = .threw error := by
  cases pc with
  | returned => exact .inl rfl
  | threw error => exact .inr ⟨error, rfl⟩
  | _ => cases h

/-- Every operation is one of these. -/
theorem operation_roster {env : BackendEnv} {before db : ChatDb} {operation : Operation}
    (h : operationStep env before operation = some db) :
    RosterChange before db operation.call := by
  obtain ⟨call, inputs⟩ := operation
  -- the call as a whole, from its start to its end
  obtain ⟨hstart, call', hrun, hended⟩ := operationStep_eq_some.mp h
  cases call with
  | createConversation args pc =>
    obtain rfl : pc = .start := of_decide_eq_true hstart
    obtain ⟨pc', rfl, hprogress⟩ := createProgress_of_run hrun
    exact rosterChange_create hended hprogress
  | addMember args pc =>
    obtain rfl : pc = .guarding := of_decide_eq_true hstart
    obtain ⟨pc', rfl, hprogress⟩ := addProgress_of_run hrun
    exact rosterChange_add hended hprogress
  | removeMember args pc =>
    obtain rfl : pc = .guarding := of_decide_eq_true hstart
    obtain ⟨pc', rfl, hprogress⟩ := removeProgress_of_run hrun
    exact rosterChange_end (endPc_of_ended hended) hprogress
  | markConversationLeft args pc =>
    obtain rfl : pc = .guarding := of_decide_eq_true hstart
    obtain ⟨pc', rfl, hprogress⟩ := leaveProgress_of_run hrun
    have hpc : pc' = .returned ∨ ∃ error, pc' = .threw error := by
      cases pc' with
      | returned => exact .inl rfl
      | threw error => exact .inr ⟨error, rfl⟩
      | _ => cases hended
    exact rosterChange_end hpc hprogress
  | sendMessage args pc =>
    obtain rfl : pc = .start := of_decide_eq_true hstart
    obtain ⟨pc', rfl, hprogress⟩ := restoreProgress_of_run hrun
    exact rosterChange_send hended hprogress
  | markConversationRead args pc => exact .same (membership_of_markRead hrun)

/-- The rosters stay well formed. -/
theorem wellFormed_of_change {before db : ChatDb} {call : ChatCall}
    (hm : (membership before).WellFormed) (h : RosterChange before db call) :
    (membership db).WellFormed := by
  cases h with
  | same h =>
    rw [h]
    exact hm
  | created args conversation creator users ids entries hnew hids h =>
    have hfresh := known_membership before ▸ hnew.id_fresh
    have hadded := hm.addConversation hfresh args.type
    -- the records of the new members are the fresh ids
    have hrecords : (newMembers conversation.id users ids).map Member.record = ids :=
      map_zipWith_right (by intro user id; rfl) hids.1
    have hall : (((membership before).addConversation conversation.id args.type).addMembers
        (newMembers conversation.id users ids)).WellFormed := by
      apply hadded.addMembers
      · rw [hrecords]
        exact hids.2.1
      · intro x hx
        have hx' : x.record ∈ ids := hrecords ▸ List.mem_map_of_mem hx
        have hunused := hids.2.2 x.record hx'
        rwa [← records_membership] at hunused
      · intro x hx
        obtain ⟨user, -, id, -, rfl⟩ := exists_of_mem_zipWith hx
        rw [Membership.known, Membership.addConversation, List.map_append]
        exact List.mem_append_right _ List.mem_cons_self
    rw [h]
    exact ⟨hall.known_nodup, hall.records_nodup, hall.member_known⟩
  | createdEmpty args c hnothing hparsed hfresh h =>
    rw [h]
    exact hm.addConversation hfresh args.type
  | added args actor u id entries hactor hu hnone hfresh h =>
    obtain ⟨-, -, hfound⟩ := getRequiredActiveParticipant_ok hactor
    have hknown := hm.member_known (toMember actor)
      (List.mem_map_of_mem (findActive_eq_some hfound).1)
    have hrecords : ([(⟨id, actor.conversationId, u, .active⟩ : Member)].map Member.record).Nodup :=
      List.nodup_singleton _
    have hall := hm.addMembers hrecords
      (fun x hx => List.mem_singleton.mp hx ▸ hfresh)
      (fun x hx => List.mem_singleton.mp hx ▸ hknown)
    rw [h]
    exact ⟨hall.known_nodup, hall.records_nodup, hall.member_known⟩
  | ended c u status entries hstatus h =>
    have hall := hm.endMember c u status
    rw [h]
    exact ⟨hall.known_nodup, hall.records_nodup, hall.member_known⟩
  | restored args c done hsender hdirect hdone h =>
    rw [h]
    exact List.foldlRecOn done Membership.restore hm fun m hm record _ => hm.restore record

end ChatSC.Spec
