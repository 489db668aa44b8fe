import ChatSC.Spec.MembershipSteps

/-!
# Groups, one call after another

However the calls of the service follow each other, in every group the membership log and the
participant records agree, and a message raises the counters of the other members by one.  Both
are read off the stored documents: `ActiveMember`, `lastEvent` and `countAfterMessage`.
-/

namespace ChatSC.Spec

open Backend Collection JsString Transition

/-! ## The calls keep the invariant -/

/-- The user ids of the call are strings that the server hands out. -/
def UsesHandedOut : ChatCall → Prop
  | .createConversation args _ => ∀ userId ∈ args.creatorId :: args.participantIds, HandedOut userId
  | .addMember args _ | .removeMember args _ => HandedOut args.userId ∧ HandedOut args.actorId
  | .markConversationLeft args _ | .markConversationRead args _ => HandedOut args.userId
  | .sendMessage args _ => HandedOut args.senderId

/-- Every step of a call keeps `StepInv`. -/
theorem StepInv.step {env : BackendEnv} {db db' : ChatDb} {call call' : ChatCall}
    {input : CallInput} (hinv : StepInv db call)
    (h : callStep env db call input = some (db', call')) : StepInv db' call' := by
  cases callStep_cases h with
  | createConversation hstep => exact hinv.createConversation hstep
  | addMember hstep => exact hinv.addMember hstep
  -- the guard asks for an active member, who is an admin or the owner
  | removeMember hstep =>
    refine endStep_keeps (fun db p hp => ?_) hinv.1 hinv.2 hstep
    obtain ⟨-, -, hfound⟩ := getRequiredActiveParticipant_ok (requireAdminOrOwner_ok hp)
    exact (findActive_eq_some hfound).1
  | markConversationLeft hstep =>
    -- the guard asks for an active member only
    refine endStep_keeps (fun db p hp => ?_) hinv.1 hinv.2 hstep
    obtain ⟨-, -, hfound⟩ := getRequiredActiveParticipant_ok hp
    exact (findActive_eq_some hfound).1
  | sendMessage hstep => exact hinv.sendMessage hstep
  -- to read changes no membership
  | markConversationRead hstep =>
    have hsame := membership_markReadStep hstep
    exact ⟨hsame ▸ hinv.1, trivial⟩

/-- A call that starts has nothing to write and no local variables. -/
theorem stepInv_start {db : ChatDb} {call : ChatCall} (hinv : (membership db).Inv [])
    (hstart : call.isStart = true) (hids : UsesHandedOut call) : StepInv db call := by
  -- a call starts in front of its guard, or has none
  cases call with
  | createConversation args pc =>
    obtain rfl : pc = .start := of_decide_eq_true hstart
    exact ⟨hinv, hids, trivial⟩
  | addMember args pc =>
    obtain rfl : pc = .guarding := of_decide_eq_true hstart
    exact ⟨hinv, trivial⟩
  | removeMember args pc =>
    obtain rfl : pc = .guarding := of_decide_eq_true hstart
    exact ⟨hinv, trivial⟩
  | markConversationLeft args pc =>
    obtain rfl : pc = .guarding := of_decide_eq_true hstart
    exact ⟨hinv, trivial⟩
  | sendMessage args pc =>
    obtain rfl : pc = .start := of_decide_eq_true hstart
    exact ⟨hinv, trivial⟩
  | markConversationRead args pc => exact ⟨hinv, trivial⟩

/-- A call that has ended has written everything. -/
theorem pending_of_ended {call : ChatCall} (h : call.ended = true) : pending call = [] := by
  cases call with
  | createConversation args pc => cases pc <;> first | rfl | cases h
  | addMember args pc => cases pc <;> first | rfl | cases h
  | removeMember args pc => cases pc <;> first | rfl | cases h
  | markConversationLeft args pc => cases pc <;> first | rfl | cases h
  | sendMessage args pc => rfl
  | markConversationRead args pc => rfl

/-- A call from its start to its end keeps the invariant. -/
theorem inv_of_operation {env : BackendEnv} {db db' : ChatDb} {operation : Operation}
    (hinv : (membership db).Inv []) (hids : UsesHandedOut operation.call)
    (h : operationStep env db operation = some db') : (membership db').Inv [] := by
  obtain ⟨hstart, call, hrun, hended⟩ := operationStep_eq_some.mp h
  have hkeep : ∀ (state : ChatDb × ChatCall) (input : CallInput) (state' : ChatDb × ChatCall),
      StepInv state.1 state.2 → aloneStep env state input = some state' →
      StepInv state'.1 state'.2 := fun _ _ _ hinv hstep => hinv.step hstep
  have hend := run_invariant hkeep (stepInv_start hinv hstart hids) hrun
  exact pending_of_ended hended ▸ hend.1

/-- The collections at the start have no members. -/
theorem inv_start (attachments : List ChatAttachment) :
    (membership (ChatDb.start attachments)).Inv [] where
  known_nodup := List.nodup_nil
  records_nodup := List.nodup_nil
  member_known := fun _ hx => absurd hx List.not_mem_nil
  entry_known := fun _ he => absurd he List.not_mem_nil
  agrees := fun _ hc => absurd hc List.not_mem_nil

/-- The invariant holds after any calls. -/
theorem inv_of_run {env : BackendEnv} {attachments : List ChatAttachment}
    {operations : List Operation} {db : ChatDb}
    (hids : ∀ operation ∈ operations, UsesHandedOut operation.call)
    (hrun : run (operationStep env) (ChatDb.start attachments) operations = some db) :
    (membership db).Inv [] := by
  have hkeep : ∀ (db : ChatDb) (operation : Operation) (db' : ChatDb), (membership db).Inv [] →
      UsesHandedOut operation.call → operationStep env db operation = some db' →
      (membership db').Inv [] := fun _ _ _ => inv_of_operation
  have hguarded : Guarded (operationStep env) (fun _ operation => UsesHandedOut operation.call)
      (ChatDb.start attachments) operations :=
    Guarded.of_forall fun operation hmem _ => hids operation hmem
  exact run_invariant_of_guarded hkeep (inv_start attachments) hguarded hrun

/-! ## Records and log -/

/-- The user has an active participant record in the conversation. -/
def ActiveMember (db : ChatDb) (c u : ObjectId) : Prop :=
  ∃ p ∈ db.participants, p.conversationId = c ∧ p.userId = u ∧ p.status = .active

/-- The type of the last membership event about the user in the conversation. -/
def lastEvent (db : ChatDb) (c u : ObjectId) : Option MembershipEventType :=
  ((db.membershipEvents.filter fun e =>
    e.conversationId = c && e.targetUserId = u).getLast?).map MembershipEvent.type

/-- In the conversation the membership log and the participant records agree. -/
structure LogAgrees (db : ChatDb) (c : ObjectId) : Prop where
  active_iff : ∀ u, ActiveMember db c u ↔
    lastEvent db c u = some .joined ∨ lastEvent db c u = some .added
  unique : ∀ u, (db.participants.filter (ChatDb.isActiveOf c u)).length ≤ 1

theorem isActiveOf_eq_true {c u : ObjectId} {p : ConversationParticipant} :
    ChatDb.isActiveOf c u p = true ↔
      p.conversationId = c ∧ p.userId = u ∧ p.status = .active := by
  simp [ChatDb.isActiveOf, and_assoc]

/-- The active records are those of the view. -/
theorem activeRecords_membership (db : ChatDb) (c u : ObjectId) :
    (membership db).activeRecords c u =
      (db.participants.filter (ChatDb.isActiveOf c u)).length := by
  rw [Membership.activeRecords, membership, List.countP_map, List.countP_eq_length_filter]
  rfl

/-- A user is an active member when the number of active records is not zero. -/
theorem activeMember_iff {db : ChatDb} {c u : ObjectId} :
    ActiveMember db c u ↔ 0 < (membership db).activeRecords c u := by
  rw [activeRecords_membership, List.length_pos_iff_exists_mem]
  simp only [List.mem_filter, isActiveOf_eq_true]
  rfl

/-- What is about all active members is about the active records. -/
theorem forall_activeMember_iff {db : ChatDb} {P : ObjectId → ObjectId → Prop} :
    (∀ c u, ActiveMember db c u → P c u) ↔
      ∀ p ∈ db.participants, p.status = .active → P p.conversationId p.userId := by
  constructor
  · intro h p hp hactive
    exact h p.conversationId p.userId ⟨p, hp, rfl, rfl, hactive⟩
  · intro h c u hactive
    obtain ⟨p, hp, rfl, rfl, hstatus⟩ := hactive
    exact h p hp hstatus

/-- The last entry of the view is the one of the last event. -/
theorem isMemberByLog_membership {db : ChatDb} {c u : ObjectId} :
    isMemberByLog (membership db).log c u = true ↔
      lastEvent db c u = some .joined ∨ lastEvent db c u = some .added := by
  have hfilter : (membership db).log.filter (LogEntry.isAbout c u) =
      (db.membershipEvents.filter fun e =>
        e.conversationId = c && e.targetUserId = u).map toEntry := by
    rw [membership, List.filter_map]
    rfl
  rw [isMemberByLog, hfilter, List.getLast?_map, lastEvent]
  cases (db.membershipEvents.filter fun e =>
      e.conversationId = c && e.targetUserId = u).getLast? with
  | none => simp
  | some e => cases htype : e.type <;> simp [toEntry, joins, htype]

/-- The invariant, read off the documents of a group. -/
theorem logAgrees_of_inv {db : ChatDb} (hinv : (membership db).Inv []) {c : ObjectId}
    (hgroup : (c, ConversationType.group) ∈ (membership db).conversations) : LogAgrees db c := by
  have hagrees := hinv.agrees c hgroup
  rw [List.append_nil] at hagrees
  constructor
  · intro u
    rw [activeMember_iff, ← isMemberByLog_membership, hagrees u]
    cases isMemberByLog (membership db).log c u <;> simp
  · intro u
    rw [← activeRecords_membership, hagrees u]
    exact Bool.toNat_le _

/-! ## What a message does to the counters -/

/-- The counter of a record after a message of `sender` in the conversation. -/
def countAfterMessage (c sender : ObjectId) (p : ConversationParticipant) : Nat :=
  if p.conversationId = c ∧ p.status = .active then
    if p.userId = sender then 0 else p.unreadCount + 1
  else p.unreadCount

/-- The context of a message is the conversation, and the sender with an active record. -/
def IsSender (db : ChatDb) (c sender : ObjectId) (ctx : SendContext) : Prop :=
  ctx.conversation = c ∧ ctx.sender = sender ∧
    ∃ p ∈ db.participants, p.id = ctx.activeSender ∧ ChatDb.isActiveOf c sender p = true

/-- What a message in a group has done so far to the participants there were in `before`. -/
def SendProgress (before : ChatDb) (c sender : ObjectId) (db : ChatDb) : SendPc → Prop
  | .start => db = before
  | .findingConversation ctx => db = before ∧ IsSender before c sender ctx
  | .findingParticipants _ | .restoring _ _ _ | .refetching _ _ => False
  | .findingAttachment ctx _ | .encrypting ctx _ | .creating ctx _ _ _ | .savingAttachment ctx _ _ _
  | .updatingConversation ctx _ | .updatingSender ctx _ =>
    db.participants = before.participants ∧ IsSender before c sender ctx
  | .incrementing ctx message =>
    db.participants =
        (before.moveMarker ctx.activeSender message.id message.sentAt).participants ∧
      IsSender before c sender ctx
  | .returned _ _ =>
    db.participants.map (fun p => (p.id, p.unreadCount)) =
        before.participants.map (fun p => (p.id, countAfterMessage c sender p)) ∧
      ActiveMember before c sender
  | .threw _ => db.participants = before.participants

/-- The marker of the sender and the counters of the others, together. -/
theorem counters_after_message {before : ChatDb} {c sender : ObjectId} {ctx : SendContext}
    (hids : (before.participants.map ConversationParticipant.id).Nodup)
    (hunique : (before.participants.filter (ChatDb.isActiveOf c sender)).length ≤ 1)
    (hsender : IsSender before c sender ctx) (message : ObjectId) (lastReadAt : Date) :
    ((before.moveMarker ctx.activeSender message lastReadAt).incrementUnread c sender).participants.map
        (fun p => (p.id, p.unreadCount)) =
      before.participants.map (fun p => (p.id, countAfterMessage c sender p)) := by
  obtain ⟨-, -, own, hown, hid, hactive⟩ := hsender
  -- ids are unique, so both updates are updates of all records that match
  have hmarker : (before.moveMarker ctx.activeSender message lastReadAt).participants =
      updateMany (fun p => p.id = ctx.activeSender) (fun p =>
        { p with
          lastReadMessageId := some message
          lastReadAt := some lastReadAt
          unreadCount := 0 }) before.participants :=
    updateOne_eq_updateMany hids fun x _ y _ hx hy =>
      (of_decide_eq_true hx).trans (of_decide_eq_true hy).symm
  show (updateMany _ _ (before.moveMarker _ _ _).participants).map _ = _
  rw [hmarker, updateMany, updateMany, List.map_map, List.map_map]
  apply List.map_congr_left
  intro p hp
  obtain ⟨hconv, huser, hstatus⟩ := isActiveOf_eq_true.mp hactive
  by_cases hsame : p.id = ctx.activeSender
  · -- the record of the sender, which the second update leaves alone
    obtain rfl : p = own := List.inj_on_of_nodup_map hids hp hown (hsame.trans hid.symm)
    simp [countAfterMessage, ChatDb.isOtherActive, hsame, hconv, huser, hstatus]
  · -- any other record, which is not an active one of the sender
    have hother : ¬ (p.conversationId = c ∧ p.userId = sender ∧ p.status = .active) := by
      intro h
      have hpown := eq_of_length_filter_le_one hunique hp hown (isActiveOf_eq_true.mpr h) hactive
      exact hsame (hpown ▸ hid)
    by_cases hmember : p.conversationId = c ∧ p.status = .active
    · have huser' : p.userId ≠ sender := fun h => hother ⟨hmember.1, h, hmember.2⟩
      simp [countAfterMessage, ChatDb.isOtherActive, hsame, hmember.1, hmember.2, huser']
    · have hnomatch : ¬ (p.conversationId = c ∧ ¬ p.userId = sender ∧ p.status = .active) :=
        fun h => hmember ⟨h.1, h.2.2⟩
      simp [countAfterMessage, ChatDb.isOtherActive, hsame, hmember, and_assoc, hnomatch]

section Message

variable {before : ChatDb} {c sender : ObjectId}

theorem sendProgress_sendEncrypt {db : ChatDb} {args : SendArgs} {ctx : SendContext}
    {attachment : Option ChatAttachment} {now : Date}
    (h : db.participants = before.participants) (hsender : IsSender before c sender ctx) :
    SendProgress before c sender db (sendEncrypt args ctx attachment now) := by
  unfold sendEncrypt
  split
  · exact h
  · split <;> exact ⟨h, hsender⟩

theorem sendProgress_sendAttachment {db : ChatDb} {args : SendArgs} {ctx : SendContext} {now : Date}
    (h : db.participants = before.participants) (hsender : IsSender before c sender ctx) :
    SendProgress before c sender db (sendAttachment args ctx now) := by
  unfold sendAttachment
  split
  · exact sendProgress_sendEncrypt h hsender
  · split
    · exact h
    · exact ⟨h, hsender⟩

/-- A step of `sendMessage` in a group. -/
theorem SendProgress.step {env : BackendEnv} {args : SendArgs} {db db' : ChatDb}
    {pc pc' : SendPc} {input : CallInput} (hinv : (membership before).Inv [])
    (hgroup : (c, ConversationType.group) ∈ (membership before).conversations)
    (hc : ObjectId.ofString? args.conversationId = some c)
    (hsender : ObjectId.ofString? args.senderId = some sender)
    (hprogress : SendProgress before c sender db pc)
    (h : sendStep env db args input pc = some (db', pc')) :
    SendProgress before c sender db' pc' := by
  cases sendStep_cases h with
  | refused error =>
    obtain rfl : db = before := hprogress
    rfl
  | sender p hnonempty hp =>
    obtain rfl : db = before := hprogress
    obtain ⟨hpc, hpu, hfound⟩ := getRequiredActiveParticipant_ok hp
    obtain rfl : c = p.conversationId := Option.some.inj (hc.symm.trans hpc)
    obtain rfl : sender = p.userId := Option.some.inj (hsender.symm.trans hpu)
    obtain ⟨hmem, hactive⟩ := findActive_eq_some hfound
    exact ⟨rfl, rfl, rfl, p, hmem, rfl, isActiveOf_eq_true.mpr hactive⟩
  | direct ctx conversation hfound hdirect =>
    obtain ⟨rfl, hctx⟩ := hprogress
    -- the conversation is a group
    have hknown := findConversation_eq_some hfound
    rw [hctx.1] at hknown
    have hsame := List.inj_on_of_nodup_map hinv.known_nodup hgroup hknown rfl
    have htype : ConversationType.group = conversation.type := congrArg Prod.snd hsame
    exact absurd (htype.trans hdirect) nofun
  | notDirect ctx =>
    obtain ⟨rfl, hctx⟩ := hprogress
    exact sendProgress_sendAttachment rfl hctx
  | nothingToRestore ctx => exact hprogress.elim
  | toRestore ctx => exact hprogress.elim
  | restoredLast ctx toRestore left record hrecord => exact hprogress.elim
  | restored ctx toRestore left record hrecord => exact hprogress.elim
  | refetched ctx toRestore => exact hprogress.elim
  | badAttachment ctx attachment error => exact hprogress.1
  | attachment ctx attachment found hfound =>
    obtain ⟨hsame, hctx⟩ := hprogress
    exact sendProgress_sendEncrypt hsame hctx
  | encryptionFailed ctx attachment error => exact hprogress.1
  | marked ctx message =>
    obtain ⟨hsame, hctx⟩ := hprogress
    refine ⟨?_, hctx⟩
    show updateOne _ _ db.participants = updateOne _ _ before.participants
    rw [hsame]
  | counted ctx message =>
    obtain ⟨hsame, hctx⟩ := hprogress
    obtain ⟨rfl, rfl, own, hown, hid, hactive⟩ := hctx
    have hids : (before.participants.map ConversationParticipant.id).Nodup := by
      have hrecords := hinv.records_nodup
      rwa [membership, List.map_map] at hrecords
    refine ⟨?_, own, hown, isActiveOf_eq_true.mp hactive⟩
    show (updateMany _ _ db.participants).map _ = _
    rw [hsame]
    exact counters_after_message hids ((logAgrees_of_inv hinv hgroup).unique _)
      ⟨rfl, rfl, own, hown, hid, hactive⟩ message.id message.sentAt
  | _ => exact hprogress

/-- `sendMessage` from its start in a group. -/
theorem sendProgress_of_run {env : BackendEnv} {args : SendArgs} {inputs : List CallInput}
    {db' : ChatDb} {pc : SendPc} (hinv : (membership before).Inv [])
    (hgroup : (c, ConversationType.group) ∈ (membership before).conversations)
    (hc : ObjectId.ofString? args.conversationId = some c)
    (hsender : ObjectId.ofString? args.senderId = some sender)
    (hrun : run (aloneStep env) (before, .sendMessage args .start) inputs =
      some (db', .sendMessage args pc)) : SendProgress before c sender db' pc := by
  have hstart : SendProgress before c sender before .start := rfl
  obtain ⟨pc', hcall, hprogress⟩ := run_alone (fun _ _ _ => rfl)
    (fun _ _ _ _ _ hprogress hsend => hprogress.step hinv hgroup hc hsender hsend) hstart hrun
  cases hcall
  exact hprogress

end Message

/-! ## After any calls -/

/-- After any calls, one after another, in every group the log and the records agree, and the next
    message raises the counter of every other active member by one and of nobody else, and sets the
    sender's to zero; a message that is rejected changes no participant. -/
theorem group_after_operations {env : BackendEnv} {attachments : List ChatAttachment}
    {operations : List Operation} {db : ChatDb}
    (hids : ∀ operation ∈ operations, UsesHandedOut operation.call)
    (hrun : run (operationStep env) (ChatDb.start attachments) operations = some db)
    {conversation : Conversation} (hmem : conversation ∈ db.conversations)
    (hgroup : conversation.type = .group) :
    LogAgrees db conversation.id ∧
      ∀ (args : SendArgs) (sender : ObjectId) (inputs : List CallInput) (db' : ChatDb) (pc : SendPc),
        ObjectId.ofString? args.conversationId = some conversation.id →
        args.senderId = sender.toString →
        run (aloneStep env) (db, .sendMessage args .start) inputs =
          some (db', .sendMessage args pc) →
        (∀ message restored, pc = .returned message restored →
          ActiveMember db conversation.id sender ∧
            db'.participants.map (fun p => (p.id, p.unreadCount)) =
              db.participants.map fun p => (p.id, countAfterMessage conversation.id sender p)) ∧
        (∀ error, pc = .threw error → db'.participants = db.participants) := by
  have hinv := inv_of_run hids hrun
  -- a group is known as one to the roster
  have hknown : (conversation.id, ConversationType.group) ∈ (membership db).conversations := by
    rw [← hgroup]
    exact List.mem_map_of_mem hmem
  refine ⟨logAgrees_of_inv hinv hknown, ?_⟩
  intro args sender inputs db' pc hc hsender hsend
  -- the sender's id is written out and read back
  have hparsed : ObjectId.ofString? args.senderId = some sender := by
    rw [hsender, ObjectId.ofString?_toString]
  have hprogress := sendProgress_of_run hinv hknown hc hparsed hsend
  constructor
  · -- the message is stored, or the call has thrown
    intro message restored hpc
    rw [hpc] at hprogress
    exact ⟨hprogress.2, hprogress.1⟩
  · intro error hpc
    rw [hpc] at hprogress
    exact hprogress

/-- A configuration with encryption disabled. -/
def plainEnv : BackendEnv where
  chatReverseEncryptionEnabled := false
  processorRemoteHost := []
  processorRemotePort := 0
  host_of_enabled := nofun
  port_of_enabled := nofun

/-- An object id of one digit. -/
def digitId (d : Fin 16) : ObjectId := ⟨List.replicate 24 d, List.length_replicate⟩

/-- What a step gets without encryption: the time and new object ids. -/
def plainInput (now : Date) (newId : ObjectId) (newIds : List ObjectId) : CallInput where
  now := now
  newId := newId
  newIds := newIds
  pick := 0
  exchange := ⟨[], ⟨true, [], none, none⟩, .init⟩
  encryption := ⟨1⟩

/-- User 1 makes a group with user 2. -/
def createGroup : Operation where
  call := .createConversation ⟨.group, (digitId 1).toString, [(digitId 2).toString], none⟩ .start
  inputs := [plainInput 1 (digitId 0) [], plainInput 2 (digitId 3) [],
    plainInput 3 (digitId 0) [digitId 4, digitId 5],
    plainInput 4 (digitId 0) [digitId 6, digitId 7]]

/-- The group of user 1 and user 2. -/
def newGroup : Conversation where
  id := digitId 3
  type := .group
  title := none
  createdBy := digitId 1
  lastMessageAt := none
  updatedAt := 2

/-- The collections with the new group. -/
def newGroupDb : ChatDb where
  conversations := [newGroup]
  participants :=
    [⟨digitId 4, digitId 3, digitId 1, .owner, .active, none, 2, none, none, none, 0⟩,
      ⟨digitId 5, digitId 3, digitId 2, .member, .active, some (digitId 1), 2, none, none, none, 0⟩]
  messages := []
  membershipEvents :=
    [⟨digitId 6, digitId 3, .joined, digitId 1, none, 3⟩,
      ⟨digitId 7, digitId 3, .added, digitId 2, some (digitId 1), 3⟩]
  attachments := []

/-- A message of user 1 to the group. -/
def helloArgs : SendArgs :=
  ⟨(digitId 3).toString, (digitId 1).toString, js "hello", [], false⟩

def helloInputs : List CallInput :=
  (List.range 7).map fun i => plainInput (5 + i) (digitId 8) []

/-- The members of the new group are those of the log, and the first message counts for user 2. -/
theorem newGroup_after_operations :
    run (operationStep plainEnv) (ChatDb.start []) [createGroup] = some newGroupDb ∧
      LogAgrees newGroupDb (digitId 3) ∧
      ∃ db' message restored, run (aloneStep plainEnv) (newGroupDb, .sendMessage helloArgs .start)
          helloInputs = some (db', .sendMessage helloArgs (.returned message restored)) ∧
        db'.participants.map (fun p => (p.id, p.unreadCount)) = [(digitId 4, 0), (digitId 5, 1)] := by
  have hrun : run (operationStep plainEnv) (ChatDb.start []) [createGroup] = some newGroupDb := by
    decide +kernel
  -- both ids of the request were handed out
  have hids : ∀ operation ∈ [createGroup], UsesHandedOut operation.call := by
    intro operation hmem
    obtain rfl := List.mem_singleton.mp hmem
    intro userId huser
    rcases List.mem_cons.mp huser with rfl | huser
    · exact ⟨digitId 1, rfl⟩
    · obtain rfl := List.mem_singleton.mp huser
      exact ⟨digitId 2, rfl⟩
  have hgroup : newGroup ∈ newGroupDb.conversations := List.mem_cons_self
  obtain ⟨hagrees, hmessage⟩ := group_after_operations hids hrun hgroup rfl
  -- the run is evaluated up to the message
  obtain ⟨db', message, restored, hsend⟩ : ∃ db' message restored,
      run (aloneStep plainEnv) (newGroupDb, .sendMessage helloArgs .start) helloInputs =
        some (db', .sendMessage helloArgs (.returned message restored)) := ⟨_, _, _, rfl⟩
  have hcounters := (hmessage helloArgs (digitId 1) helloInputs db' _
    (ObjectId.ofString?_toString _) rfl hsend).1 message restored rfl
  exact ⟨hrun, hagrees, db', message, restored, hsend, hcounters.2⟩

end ChatSC.Spec
