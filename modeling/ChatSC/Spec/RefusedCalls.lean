import ChatSC.ForStd.Records
import ChatSC.Spec.DirectPairs

/-!
# Calls that are refused

What is left behind of a call that throws.  A message has created nothing then, but it may have
restored the peer of a direct conversation, which comes before the attachment is looked at and before
the text is encrypted: `unchanged_iff_of_refused`.  A new conversation is stored before the ids of its
participants are parsed, so that a group with an id that is none leaves it behind:
`createdWhole_iff`.
-/

namespace ChatSC.Spec

open Backend Collection JsString Transition

/-! ## Who a message restores -/

/-- The call reaches `restoreDirectParticipantsIfNeeded` with somebody to restore: it has a text or an
    attachment, the sender is an active participant, and somebody else has left the conversation,
    which is a direct one. -/
def RestoresPeer (before : ChatDb) (args : SendArgs) : Prop :=
  ¬ (trim args.content = [] ∧ args.attachmentId = []) ∧
    ∃ sender, getRequiredActiveParticipant before args.conversationId args.senderId = .ok sender ∧
      (∃ conversation, before.findConversation sender.conversationId = some conversation ∧
        conversation.type = .direct) ∧
      participantsToRestore before sender.conversationId args.senderId ≠ []

/-- Somebody who had left is active again. -/
def PeerRestored (before db : ChatDb) : Prop :=
  ∃ p ∈ before.participants, p.status = .left ∧
    ∃ q ∈ db.participants, q.id = p.id ∧ q.status = .active

/-- The sender that the call has found. -/
def IsSenderOf (before : ChatDb) (args : SendArgs) (ctx : SendContext) : Prop :=
  ∃ sender, getRequiredActiveParticipant before args.conversationId args.senderId = .ok sender ∧
    ctx.conversation = sender.conversationId

section Restored

variable {before db : ChatDb} {args : SendArgs}

/-- With unique ids nobody has both states. -/
theorem PeerRestored.ne (h : PeerRestored before db)
    (hids : (before.participants.map ConversationParticipant.id).Nodup) : db ≠ before := by
  rintro rfl
  obtain ⟨p, hp, hleft, q, hq, hid, hactive⟩ := h
  obtain rfl := List.inj_on_of_nodup_map hids hq hp hid
  rw [hleft] at hactive
  cases hactive

/-- Those who are active stay so. -/
theorem PeerRestored.restore (h : PeerRestored before db) (record : ObjectId) :
    PeerRestored before (db.restoreParticipant record) := by
  obtain ⟨p, hp, hleft, q, hq, hid, hactive⟩ := h
  have hstays : q ∈ (db.restoreParticipant record).participants ∨ decide (q.id = record) = true ∧
      { q with status := .active } ∈ (db.restoreParticipant record).participants :=
    mem_updateOne_of_mem hq
  rcases hstays with hsame | ⟨-, hchanged⟩
  · exact ⟨p, hp, hleft, q, hsame, hid, hactive⟩
  · exact ⟨p, hp, hleft, _, hchanged, hid, rfl⟩

/-- The records that are restored are those of participants who have left. -/
theorem left_of_mem_toRestore {c record : ObjectId} {senderId : JsString}
    (h : record ∈ participantsToRestore before c senderId) :
    ∃ p ∈ before.participants, p.id = record ∧ p.status = .left := by
  obtain ⟨p, hp, hid⟩ := List.mem_map.mp h
  obtain ⟨hsorted, hfilter⟩ := List.mem_filter.mp hp
  have hfound := (List.mergeSort_perm _ _).mem_iff.mp hsorted
  simp only [Bool.and_eq_true, decide_eq_true_eq] at hfilter
  exact ⟨p, (List.mem_filter.mp hfound).1, hid, hfilter.2⟩

theorem PeerRestored.first (hids : (before.participants.map ConversationParticipant.id).Nodup)
    {record : ObjectId} (h : ∃ p ∈ before.participants, p.id = record ∧ p.status = .left) :
    PeerRestored before (before.restoreParticipant record) := by
  obtain ⟨p, hp, hid, hleft⟩ := h
  have hmem : (if p.id = record then { p with status := .active } else p) ∈
      (before.restoreParticipant record).participants := mem_updateOne_key hids record hp
  rw [if_pos hid] at hmem
  exact ⟨p, hp, hleft, _, hmem, rfl, rfl⟩

end Restored

/-! ## The way of a message -/

section Steps

variable {env : BackendEnv} {before db db' : ChatDb} {args : SendArgs} {input : CallInput}
  {ctx : SendContext} {pc' : SendPc}

/-- The first step finds the sender or refuses the call. -/
theorem sendStep_start (h : sendStep env db args input .start = some (db', pc')) :
    db' = db ∧ ((∃ error, pc' = .threw error ∧ ¬ RestoresPeer db args) ∨
      ∃ ctx, pc' = .findingConversation ctx ∧ IsSenderOf db args ctx ∧
        ¬ (trim args.content = [] ∧ args.attachmentId = [])) := by
  simp only [sendStep] at h
  -- neither text nor attachment, so nobody would be restored
  split at h
  · rename_i hempty
    cases h
    exact ⟨rfl, .inl ⟨_, rfl, fun hrestores => hrestores.1 hempty⟩⟩
  · rename_i hnonempty
    -- not a member, so nobody would be restored either
    split at h
    · rename_i error herror
      cases h
      refine ⟨rfl, .inl ⟨_, rfl, fun hrestores => ?_⟩⟩
      obtain ⟨-, sender, hsender, -⟩ := hrestores
      rw [herror] at hsender
      cases hsender
    · rename_i sender hsender
      cases h
      exact ⟨rfl, .inr ⟨_, rfl, ⟨sender, hsender, rfl⟩, hnonempty⟩⟩

/-- The second step goes on to the participants of a direct conversation, and past them otherwise. -/
theorem sendStep_findingConversation
    (h : sendStep env db args input (.findingConversation ctx) = some (db', pc')) :
    db' = db ∧
      ((∃ conversation, db.findConversation ctx.conversation = some conversation ∧
          conversation.type = .direct ∧ pc' = .findingParticipants ctx) ∨
        (∀ conversation, db.findConversation ctx.conversation = some conversation →
          conversation.type ≠ .direct) ∧ pc' = sendAttachment args ctx input.now) := by
  simp only [sendStep] at h
  split at h
  · rename_i conversation hfound
    -- the type decides whether those who left come back
    split at h
    · rename_i hdirect
      cases h
      exact ⟨rfl, .inl ⟨conversation, hfound, hdirect, rfl⟩⟩
    · rename_i hdirect
      cases h
      refine ⟨rfl, .inr ⟨fun other hother => ?_, rfl⟩⟩
      obtain rfl := Option.some.inj (hfound.symm.trans hother)
      exact hdirect
  · -- a conversation that is not found is not direct either
    rename_i hnone
    cases h
    refine ⟨rfl, .inr ⟨fun other hother => ?_, rfl⟩⟩
    rw [hnone] at hother
    cases hother

/-- The third step begins to restore, if there is anybody to restore. -/
theorem sendStep_findingParticipants
    (h : sendStep env db args input (.findingParticipants ctx) = some (db', pc')) :
    db' = db ∧
      ((participantsToRestore db ctx.conversation args.senderId = [] ∧
          pc' = sendAttachment args ctx input.now) ∨
        (participantsToRestore db ctx.conversation args.senderId ≠ [] ∧
          pc' = .restoring ctx (participantsToRestore db ctx.conversation args.senderId)
            (participantsToRestore db ctx.conversation args.senderId))) := by
  simp only [sendStep] at h
  -- nobody has left
  split at h
  · rename_i hnone
    cases h
    exact ⟨rfl, .inl ⟨hnone, rfl⟩⟩
  · rename_i hsome
    cases h
    exact ⟨rfl, .inr ⟨hsome, rfl⟩⟩

/-- Nothing has changed and nobody was to be restored, or somebody has been. -/
def RestoredIfNeeded (before : ChatDb) (args : SendArgs) (db : ChatDb) : Prop :=
  (db = before ∧ ¬ RestoresPeer before args) ∨ (RestoresPeer before args ∧ PeerRestored before db)

/-- What a call has done to the participants, up to the creation of the message. -/
def RefusalProgress (before : ChatDb) (args : SendArgs) (db : ChatDb) : SendPc → Prop
  | .start => db = before
  | .findingConversation ctx =>
    db = before ∧ IsSenderOf before args ctx ∧ ¬ (trim args.content = [] ∧ args.attachmentId = [])
  | .findingParticipants ctx =>
    db = before ∧ IsSenderOf before args ctx ∧
      ¬ (trim args.content = [] ∧ args.attachmentId = []) ∧
        ∃ conversation, before.findConversation ctx.conversation = some conversation ∧
          conversation.type = .direct
  | .restoring _ _ left =>
    RestoresPeer before args ∧ (PeerRestored before db ∨ (db = before ∧ ∀ record ∈ left,
      ∃ p ∈ before.participants, p.id = record ∧ p.status = .left))
  | .refetching _ _ => RestoresPeer before args ∧ PeerRestored before db
  | .findingAttachment _ _ | .encrypting _ _ | .creating _ _ _ _ | .threw _ =>
    RestoredIfNeeded before args db
  | .savingAttachment _ _ _ _ | .updatingConversation _ _ | .updatingSender _ _ | .incrementing _ _
  | .returned _ _ => True

theorem refusalProgress_sendEncrypt (h : RestoredIfNeeded before args db) (ctx : SendContext)
    (attachment : Option ChatAttachment) (now : Date) :
    RefusalProgress before args db (sendEncrypt args ctx attachment now) := by
  unfold sendEncrypt
  split
  · exact h
  · split <;> exact h

theorem refusalProgress_sendAttachment (h : RestoredIfNeeded before args db) (ctx : SendContext)
    (now : Date) : RefusalProgress before args db (sendAttachment args ctx now) := by
  unfold sendAttachment
  split
  · exact refusalProgress_sendEncrypt h ctx none now
  · split <;> exact h

/-- A sender in a conversation with nobody to restore. -/
theorem not_restoresPeer (hsender : IsSenderOf before args ctx)
    (hnone : (∃ conversation, before.findConversation ctx.conversation = some conversation ∧
        conversation.type = .direct) →
      participantsToRestore before ctx.conversation args.senderId = []) :
    ¬ RestoresPeer before args := by
  rintro ⟨-, sender, hfound, hdirect, hrestore⟩
  obtain ⟨sender', hfound', hctx⟩ := hsender
  obtain rfl : sender' = sender := Except.ok.inj (hfound'.symm.trans hfound)
  rw [hctx] at hnone
  exact hrestore (hnone hdirect)

/-- A step of `sendMessage`. -/
theorem RefusalProgress.step (hids : (before.participants.map ConversationParticipant.id).Nodup)
    {pc : SendPc} (h : RefusalProgress before args db pc)
    (hstep : sendStep env db args input pc = some (db', pc')) :
    RefusalProgress before args db' pc' := by
  cases pc with
  | start =>
    obtain rfl : db = before := h
    obtain ⟨rfl, ⟨error, rfl, hnot⟩ | ⟨ctx, rfl, hsender, hnonempty⟩⟩ := sendStep_start hstep
    · -- refused before anything has been written
      exact .inl ⟨rfl, hnot⟩
    · exact ⟨rfl, hsender, hnonempty⟩
  | findingConversation ctx =>
    obtain ⟨rfl, hsender, hnonempty⟩ := h
    obtain ⟨rfl, ⟨conversation, hfound, hdirect, rfl⟩ | ⟨hnot, rfl⟩⟩ :=
      sendStep_findingConversation hstep
    · exact ⟨rfl, hsender, hnonempty, conversation, hfound, hdirect⟩
    · refine refusalProgress_sendAttachment (.inl ⟨rfl, not_restoresPeer hsender ?_⟩) ctx _
      rintro ⟨conversation, hfound, hdirect⟩
      exact absurd hdirect (hnot conversation hfound)
  | findingParticipants ctx =>
    obtain ⟨rfl, hsender, hnonempty, hdirect⟩ := h
    obtain ⟨rfl, ⟨hnone, rfl⟩ | ⟨hsome, rfl⟩⟩ := sendStep_findingParticipants hstep
    · exact refusalProgress_sendAttachment (.inl ⟨rfl, not_restoresPeer hsender fun _ => hnone⟩) ctx _
    · refine ⟨⟨hnonempty, ?_⟩, .inr ⟨rfl, fun record hrecord => left_of_mem_toRestore hrecord⟩⟩
      obtain ⟨sender, hfound, hctx⟩ := hsender
      rw [hctx] at hdirect hsome
      exact ⟨sender, hfound, hdirect, hsome⟩
  | restoring ctx toRestore left =>
    obtain ⟨hrestores, hrestored⟩ := h
    -- the first of the restored records makes the difference, the others keep it
    have hrestore : ∀ record ∈ left, PeerRestored before (db.restoreParticipant record) := by
      intro record hrecord
      rcases hrestored with hrestored | ⟨rfl, hleft⟩
      · exact hrestored.restore record
      · exact .first hids (hleft record hrecord)
    cases sendStep_cases hstep with
    | restoredLast _ _ _ record hrecord => exact ⟨hrestores, hrestore record hrecord⟩
    | restored _ _ _ record hrecord => exact ⟨hrestores, .inl (hrestore record hrecord)⟩
  | refetching ctx toRestore =>
    cases hstep
    exact refusalProgress_sendAttachment (.inr h) _ _
  -- from here on a refusal leaves what has been restored
  | findingAttachment ctx attachment =>
    cases sendStep_cases hstep with
    | badAttachment _ _ error => exact h
    | attachment _ _ found hfound => exact refusalProgress_sendEncrypt h ctx _ _
  | encrypting ctx attachment =>
    cases sendStep_cases hstep with
    | encryptionFailed _ _ error => exact h
    | encrypted _ _ encrypted hencrypted => exact h
  -- a call that has come so far is not refused any more
  | creating ctx attachment encrypted sentAt => cases sendStep_cases hstep <;> trivial
  | savingAttachment ctx message attachment confirmedAt => cases hstep; trivial
  | updatingConversation ctx message => cases hstep; trivial
  | updatingSender ctx message => cases hstep; trivial
  | incrementing ctx message => cases hstep; trivial
  | returned message restored => cases hstep
  | threw error => cases hstep

/-- **A call of `sendMessage` that is refused leaves the database as it was exactly when there was
    nobody to restore**, whatever it is refused for. -/
theorem unchanged_iff_of_refused
    (hids : (before.participants.map ConversationParticipant.id).Nodup) {inputs : List CallInput}
    {args' : SendArgs} {error : ChatError}
    (hrun : run (aloneStep env) (before, .sendMessage args .start) inputs =
      some (db, .sendMessage args' (.threw error))) :
    db = before ↔ ¬ RestoresPeer before args := by
  have hstart : RefusalProgress before args before .start := rfl
  obtain ⟨pc, hpc, hprogress⟩ := run_alone (fun _ _ _ => rfl)
    (fun _ _ _ _ _ h hstep => RefusalProgress.step hids h hstep) hstart hrun
  cases hpc
  rcases hprogress with ⟨rfl, hnot⟩ | ⟨hrestores, hrestored⟩
  · exact iff_of_true rfl hnot
  · exact iff_of_false (hrestored.ne hids) fun hnot => hnot hrestores

end Steps

/-! ## A chat whose peer has left -/

/-- User 1 sends a message with an attachment id that is none. -/
def badAttachmentArgs : SendArgs :=
  ⟨(digitId 3).toString, (digitId 1).toString, js "hello", js "x", false⟩

/-- The message is refused in a group, which is as before. -/
theorem unchanged_in_group : ∃ db error,
    run (aloneStep plainEnv) (newGroupDb, .sendMessage badAttachmentArgs .start)
        ((List.range 2).map fun i => plainInput (5 + i) (digitId 8) []) =
      some (db, .sendMessage badAttachmentArgs (.threw error)) ∧
    (db = newGroupDb ↔ ¬ RestoresPeer newGroupDb badAttachmentArgs) := by
  obtain ⟨db, error, hrun⟩ : ∃ db error,
      run (aloneStep plainEnv) (newGroupDb, .sendMessage badAttachmentArgs .start)
        ((List.range 2).map fun i => plainInput (5 + i) (digitId 8) []) =
      some (db, .sendMessage badAttachmentArgs (.threw error)) := ⟨_, _, rfl⟩
  exact ⟨db, error, hrun, unchanged_iff_of_refused (by decide) hrun⟩

/-- The message is refused, and user 2, who had left, is back in the chat. -/
theorem peer_restored_by_refused : ∃ db error,
    run (aloneStep plainEnv) (leftDb, .sendMessage badAttachmentArgs .start)
        ((List.range 5).map fun i => plainInput (12 + i) (digitId 8) []) =
      some (db, .sendMessage badAttachmentArgs (.threw error)) ∧
    db.participants.map ConversationParticipant.status = [.active, .active] ∧ db ≠ leftDb := by
  -- the step that lists those who left is a sort, which has its own lemma
  have hmiddle : aloneStep plainEnv (leftDb, .sendMessage badAttachmentArgs
      (.findingParticipants ⟨digitId 3, digitId 1, digitId 4, []⟩)) (plainInput 14 (digitId 8) []) =
        some (leftDb, .sendMessage badAttachmentArgs
          (.restoring ⟨digitId 3, digitId 1, digitId 4, []⟩ [digitId 5] [digitId 5])) := by
    have hsender : badAttachmentArgs.senderId = (digitId 1).toString := rfl
    simp only [aloneStep, callStep, sendStep, hsender, participantsToRestore_leftDb, Option.map_some]
  have hrun : run (aloneStep plainEnv) (leftDb, .sendMessage badAttachmentArgs .start)
      ([plainInput 12 (digitId 8) [], plainInput 13 (digitId 8) []] ++ plainInput 14 (digitId 8) [] ::
        [plainInput 15 (digitId 8) [], plainInput 16 (digitId 8) []]) =
      some (leftDb.restoreParticipant (digitId 5), .sendMessage badAttachmentArgs (.threw
        (.badRequest "INVALID_ATTACHMENT_ID" "Attachment ID is invalid"))) :=
    run_append_eq_some.mpr ⟨_, rfl, run_cons_eq_some.mpr ⟨_, hmiddle, rfl⟩⟩
  have hstatus : (leftDb.restoreParticipant (digitId 5)).participants.map
      ConversationParticipant.status = [.active, .active] := by decide
  -- the record is active now, and it was not
  refine ⟨_, _, hrun, hstatus, fun heq => ?_⟩
  rw [heq] at hstatus
  exact absurd hstatus (by decide)

/-! ## New conversations -/

/-- A user of a new conversation: the creator, or one that is listed. -/
def IsListed (args : CreateArgs) (user : ObjectId) : Prop :=
  ∃ uid ∈ args.creatorId :: args.participantIds, ObjectId.ofString? uid = some user

/-- A new conversation with an active record and an event for each of its users, and for no other. -/
def CreatedWith (before : ChatDb) (args : CreateArgs) (conversation : Conversation) (db : ChatDb) :
    Prop :=
  ∃ (records : List ConversationParticipant) (events : List MembershipEvent),
    db = ((before.createConversation conversation).insertParticipants records).insertEvents events ∧
    (∀ record ∈ records, record.conversationId = conversation.id ∧ record.status = .active) ∧
    (∀ event ∈ events, event.conversationId = conversation.id) ∧
    ∀ user, (user ∈ records.map ConversationParticipant.userId ↔ IsListed args user) ∧
      (user ∈ events.map MembershipEvent.targetUserId ↔ IsListed args user)

/-- A call that has thrown has left nothing behind, and a conversation that it returns and that is new
    has its records and events. -/
def CreatedWhole (before : ChatDb) (args : CreateArgs) (db : ChatDb) : CreatePc → Prop
  | .threw _ => db = before
  | .returned conversation => conversation ∉ before.conversations →
      CreatedWith before args conversation db
  | _ => True

/-- The ids are parsed before anything is stored, the creator's is none, or all others are ids. -/
def ParsedFirst (args : CreateArgs) : Prop :=
  args.type = .direct ∨ ObjectId.ofString? args.creatorId = none ∨
    ∀ uid ∈ args.participantIds, (ObjectId.ofString? uid).isSome

section Create

variable {env : BackendEnv} {before db : ChatDb} {args : CreateArgs}

/-- The users are what the ids are parsed to. -/
theorem ofString?_newParticipants {users : List NewParticipant}
    (h : newParticipants args = some users) :
    (distinct (args.creatorId :: args.participantIds)).map ObjectId.ofString? =
      users.map fun user => some user.userId := by
  refine (Records.map_mapM (fun uid user huser => ?_) h).symm
  obtain ⟨id, hid, rfl⟩ := Option.map_eq_some_iff.mp huser
  exact hid.symm

/-- The users of a conversation are those whose ids are listed. -/
theorem mem_users_iff {users : List NewParticipant} (h : newParticipants args = some users)
    (user : ObjectId) : user ∈ users.map NewParticipant.userId ↔ IsListed args user := by
  have hparsed : some user ∈ (distinct (args.creatorId :: args.participantIds)).map
      ObjectId.ofString? ↔ IsListed args user := by
    simp only [List.mem_map, mem_distinct, IsListed]
  rw [← hparsed, ofString?_newParticipants h, List.mem_map, List.mem_map]
  simp only [Option.some.injEq]

/-- The users are not parsed exactly when an id is none. -/
theorem newParticipants_eq_none_iff :
    newParticipants args = none ↔
      ∃ uid ∈ args.creatorId :: args.participantIds, ObjectId.ofString? uid = none := by
  constructor
  · intro h
    -- `mapM` gives a list when each id is parsed
    by_contra hall
    have hsome : ∀ uid ∈ distinct (args.creatorId :: args.participantIds), ∃ user,
        ((ObjectId.ofString? uid).map fun user => (⟨user, uid = args.creatorId⟩ : NewParticipant)) =
          some user := by
      intro uid huid
      cases hparsed : ObjectId.ofString? uid with
      | none => exact absurd ⟨uid, mem_distinct.mp huid, hparsed⟩ hall
      | some user => exact ⟨_, rfl⟩
    obtain ⟨users, husers⟩ := Records.exists_mapM hsome
    rw [newParticipants, husers] at h
    cases h
  · rintro ⟨uid, huid, hnone⟩
    cases husers : newParticipants args with
    | none => rfl
    | some users =>
      -- and a list of users has a user for each id
      have hmem := List.mem_map_of_mem (f := ObjectId.ofString?) (mem_distinct.mpr huid)
      rw [ofString?_newParticipants husers, hnone] at hmem
      obtain ⟨user, -, heq⟩ := List.mem_map.mp hmem
      cases heq

/-- Where the ids are parsed first, they are parsed when a conversation has been stored. -/
theorem ParsedFirst.parsed (h : ParsedFirst args) (hnothing : NothingFound before args)
    {creator : ObjectId} (hcreator : ObjectId.ofString? args.creatorId = some creator) :
    newParticipants args ≠ none := by
  intro hnone
  rcases h with hdirect | hinvalid | hall
  · -- the lookup of a direct conversation has parsed both ids
    rcases hnothing with hgroup | ⟨creator, target, targetId, hargs, -⟩
    · rw [hdirect] at hgroup
      cases hgroup
    · rw [newParticipants_direct hargs] at hnone
      cases hnone
  · -- the creator's id was parsed before anything was written
    rw [hinvalid] at hcreator
    cases hcreator
  · -- some id could not be parsed, and it is the creator's or another's
    obtain ⟨uid, huid, hinvalid⟩ := newParticipants_eq_none_iff.mp hnone
    rcases List.mem_cons.mp huid with rfl | huid
    · rw [hinvalid] at hcreator
      cases hcreator
    · have hsome := hall uid huid
      rw [hinvalid] at hsome
      cases hsome

/-- The records and events of a new conversation. -/
theorem createdWith_of_new {conversation : Conversation} {creator : ObjectId}
    {users : List NewParticipant} (husers : newParticipants args = some users)
    {ids eventIds : List ObjectId} (hids : ids.length = users.length)
    (heventIds : eventIds.length = users.length) (joinedAt occurredAt : Date) :
    CreatedWith before args conversation
      ((withParticipants before conversation creator users ids joinedAt).insertEvents
        (List.zipWith (NewParticipant.event conversation.id creator occurredAt) users eventIds)) := by
  refine ⟨_, _, rfl, ?_, ?_, fun user => ?_⟩
  · intro record hrecord
    obtain ⟨u, -, id, -, rfl⟩ := exists_of_mem_zipWith hrecord
    exact ⟨rfl, rfl⟩
  · intro event hevent
    obtain ⟨u, -, id, -, rfl⟩ := exists_of_mem_zipWith hevent
    rfl
  · -- a record and an event for each user that was parsed
    have hrecords : (List.zipWith (NewParticipant.document conversation.id creator joinedAt) users
        ids).map ConversationParticipant.userId = users.map NewParticipant.userId :=
      map_zipWith_left (by intro user id; rfl) hids
    have hevents : (List.zipWith (NewParticipant.event conversation.id creator occurredAt) users
        eventIds).map MembershipEvent.targetUserId = users.map NewParticipant.userId :=
      map_zipWith_left (by intro user id; rfl) heventIds
    rw [hrecords, hevents]
    exact ⟨mem_users_iff husers user, mem_users_iff husers user⟩

/-- A candidate is a stored conversation. -/
theorem mem_of_directConversation {creator target : ObjectId} {creatorId targetId : JsString}
    {conversation : Conversation}
    (h : directConversation before creator target creatorId targetId = some conversation) :
    conversation ∈ before.conversations :=
  (List.mem_filter.mp (List.mem_mergeSort.mp (List.mem_of_find?_eq_some h))).1

/-- Only a call for a direct conversation is refused before the first operation. -/
theorem type_of_refused {input : CallInput} {db' : ChatDb} {error : ChatError}
    (h : createStep db args input .start = some (db', .threw error)) : args.type = .direct := by
  cases htype : args.type with
  | direct => rfl
  | group =>
    simp only [createStep, htype] at h
    cases h

/-- A call that throws has left nothing behind exactly when the ids are parsed first. -/
def ThrowProgress (before : ChatDb) (args : CreateArgs) (db : ChatDb) (pc : CreatePc) : Prop :=
  CreateProgress before args db pc ∧ ∀ error, pc = .threw error → (db = before ↔ ParsedFirst args)

/-- A step of `createConversation`. -/
theorem ThrowProgress.step {db' : ChatDb} {input : CallInput} {pc pc' : CreatePc}
    (h : ThrowProgress before args db pc) (hstep : createStep db args input pc = some (db', pc')) :
    ThrowProgress before args db' pc' := by
  refine ⟨h.1.step hstep, ?_⟩
  rintro error rfl
  cases createStep_cases hstep with
  | refused _ => exact iff_of_true h.1 (.inl (type_of_refused hstep))
  | invalidCreator hcreator => exact iff_of_true h.1.1 (.inr (.inl hcreator))
  | invalidParticipant creator hcreator hfresh husers =>
    obtain ⟨rfl, hnothing⟩ := h.1
    refine iff_of_false (fun heq => ?_) fun hparsed => hparsed.parsed hnothing hcreator husers
    -- the conversation is there, and no call deletes one
    have hlength := congrArg (fun db => db.conversations.length) heq
    simp [ChatDb.createConversation] at hlength

/-- What is returned is whole. -/
theorem CreateProgress.returned {conversation : Conversation}
    (h : CreateProgress before args db (.returned conversation)) :
    CreatedWhole before args db (.returned conversation) ∧ ParsedFirst args := by
  -- an old conversation was found, or a new one is whole
  rcases h with ⟨-, creator, target, targetId, hargs, hfound⟩ | ⟨creator, users, hnew, ids, joinedAt,
    eventIds, occurredAt, hids, heventIds, rfl⟩
  · exact ⟨fun hnot => absurd (mem_of_directConversation hfound) hnot, .inl hargs.direct⟩
  · refine ⟨fun _ => createdWith_of_new hnew.users_parsed hids.1 heventIds.1 joinedAt occurredAt,
      .inr (.inr fun uid huid => ?_)⟩
    -- an id that was not parsed would have stopped the call
    by_contra hnone
    have hinvalid : ∃ uid ∈ args.creatorId :: args.participantIds,
        ObjectId.ofString? uid = none :=
      ⟨uid, List.mem_cons_of_mem _ huid, Option.not_isSome_iff_eq_none.mp hnone⟩
    rw [← newParticipants_eq_none_iff, hnew.users_parsed] at hinvalid
    cases hinvalid

/-- **A call of `createConversation` leaves nothing behind when it throws, and makes the whole of a
    new conversation, exactly when the ids are parsed before the conversation is stored or all of
    them are ids.** -/
theorem createdWhole_iff {inputs : List CallInput} {args' : CreateArgs} {pc : CreatePc}
    (hended : ChatCall.ended (.createConversation args' pc) = true)
    (hrun : run (aloneStep env) (before, .createConversation args .start) inputs =
      some (db, .createConversation args' pc)) :
    CreatedWhole before args db pc ↔ ParsedFirst args := by
  have hstart : ThrowProgress before args before .start := ⟨rfl, nofun⟩
  obtain ⟨pc', hpc, hprogress, hthrew⟩ := run_alone (fun _ _ _ => rfl)
    (fun _ _ _ _ _ h hstep => ThrowProgress.step h hstep) hstart hrun
  cases hpc
  cases pc with
  | threw error => exact hthrew error rfl
  | returned conversation => exact iff_of_true hprogress.returned.1 hprogress.returned.2
  | _ => cases hended

end Create

/-- User 1 makes a group with somebody whose id is none. -/
def badGroupArgs : CreateArgs := ⟨.group, (digitId 1).toString, [js "x"], none⟩

/-- The group of users 1 and 2 is made with both of them. -/
theorem createdWhole_group : ∃ db conversation,
    run (aloneStep plainEnv) (ChatDb.start [], createGroup.call) createGroup.inputs =
      some (db, .createConversation ⟨.group, (digitId 1).toString, [(digitId 2).toString], none⟩
        (.returned conversation)) ∧
    (CreatedWhole (ChatDb.start []) ⟨.group, (digitId 1).toString, [(digitId 2).toString], none⟩ db
        (.returned conversation) ↔
      ParsedFirst ⟨.group, (digitId 1).toString, [(digitId 2).toString], none⟩) := by
  obtain ⟨db, conversation, hrun⟩ : ∃ db conversation,
      run (aloneStep plainEnv) (ChatDb.start [], createGroup.call) createGroup.inputs =
        some (db, .createConversation ⟨.group, (digitId 1).toString, [(digitId 2).toString], none⟩
          (.returned conversation)) := ⟨_, _, rfl⟩
  exact ⟨db, conversation, hrun, createdWhole_iff rfl hrun⟩

/-- The call throws, and a conversation without participants is left behind. -/
theorem orphan_of_invalid_id : ∃ db error,
    run (aloneStep plainEnv) (ChatDb.start [], .createConversation badGroupArgs .start)
        [plainInput 1 (digitId 3) [], plainInput 2 (digitId 3) []] =
      some (db, .createConversation badGroupArgs (.threw error)) ∧
    db.conversations.length = 1 ∧ db.participants = [] ∧
      ¬ CreatedWhole (ChatDb.start []) badGroupArgs db (.threw error) := by
  refine ⟨_, _, rfl, rfl, rfl, fun hsame => ?_⟩
  exact absurd (congrArg (fun db => db.conversations.length) hsame) (by decide)

end ChatSC.Spec
