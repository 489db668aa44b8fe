import ChatSC.Backend.RealtimeMessage

/-!
# The steps of the calls, rule by rule

What each step of a call needs and does, as a relation with one rule for each branch of the code.
`createStep_cases` and its siblings say that every step is by one of the rules, so an invariant is
proved by cases on the rules and the step functions are not taken apart again.
-/

namespace ChatSC.Spec

open Backend Collection JsString Transition

/-! ## `createConversation` -/

/-- The conversations of both users, of any status. -/
def sharedConversations (db : ChatDb) (creator target : ObjectId) (creatorId targetId : JsString) :
    List ObjectId :=
  let found := db.participants.filter fun p => p.userId = creator || p.userId = target
  (conversationIdsOf found creatorId).filter (conversationIdsOf found targetId).contains

/-- The direct ones among them, the one updated last first. -/
def directCandidates (db : ChatDb) (shared : List ObjectId) : List Conversation :=
  (db.conversations.filter fun c => shared.contains c.id && c.type = .direct).mergeSort
    fun c d => d.updatedAt ≤ c.updatedAt

section Create

variable (db : ChatDb) (args : CreateArgs) (input : CallInput)

/-- The document of a new conversation. -/
def newConversation (creator : ObjectId) : Conversation :=
  ⟨input.newId, args.type, args.title, creator, none, input.now⟩

/-- A step of `createConversation`. -/
inductive CreateStep : CreatePc → ChatDb → CreatePc → Prop where
  | group (htype : args.type = .group) : CreateStep .start db .creating
  | refused (error : ChatError) : CreateStep .start db (.threw error)
  | direct (targetId : JsString) (creator target : ObjectId) (htype : args.type = .direct)
      (hparticipants : args.participantIds = [targetId]) (hother : targetId ≠ args.creatorId)
      (hcreator : ObjectId.ofString? args.creatorId = some creator)
      (htarget : ObjectId.ofString? targetId = some target) :
      CreateStep .start db (.findingShared creator target)
  | noneShared (creator target : ObjectId)
      (hnone : sharedConversations db creator target args.creatorId
        (args.participantIds.headD []) = []) :
      CreateStep (.findingShared creator target) db .creating
  | shared (creator target : ObjectId) :
      CreateStep (.findingShared creator target) db
        (.findingDirect (sharedConversations db creator target args.creatorId
          (args.participantIds.headD [])))
  | noCandidate (shared : List ObjectId) (hnone : directCandidates db shared = []) :
      CreateStep (.findingDirect shared) db .creating
  | candidates (shared : List ObjectId) :
      CreateStep (.findingDirect shared) db (.checkingDirect (directCandidates db shared))
  | noneLeft : CreateStep (.checkingDirect []) db .creating
  | found (conversation : Conversation) (rest : List Conversation)
      (hmatch : isDirectOf (db.findParticipants conversation.id) args.creatorId
        (args.participantIds.headD []) = true) :
      CreateStep (.checkingDirect (conversation :: rest)) db (.returned conversation)
  | lastOther (conversation : Conversation)
      (hmatch : isDirectOf (db.findParticipants conversation.id) args.creatorId
        (args.participantIds.headD []) = false) :
      CreateStep (.checkingDirect [conversation]) db .creating
  | other (conversation : Conversation) (rest : List Conversation)
      (hmatch : isDirectOf (db.findParticipants conversation.id) args.creatorId
        (args.participantIds.headD []) = false) :
      CreateStep (.checkingDirect (conversation :: rest)) db (.checkingDirect rest)
  | invalidCreator (hcreator : ObjectId.ofString? args.creatorId = none) :
      CreateStep .creating db (.threw .invalidObjectId)
  | invalidParticipant (creator : ObjectId)
      (hcreator : ObjectId.ofString? args.creatorId = some creator)
      (hfresh : input.newId ∉ db.conversations.map Conversation.id)
      (husers : newParticipants args = none) :
      CreateStep .creating (db.createConversation (newConversation args input creator))
        (.threw .invalidObjectId)
  | created (creator : ObjectId) (users : List NewParticipant)
      (hcreator : ObjectId.ofString? args.creatorId = some creator)
      (hfresh : input.newId ∉ db.conversations.map Conversation.id)
      (husers : newParticipants args = some users) :
      CreateStep .creating (db.createConversation (newConversation args input creator))
        (.addingParticipants (newConversation args input creator) creator users input.now)
  | participants (conversation : Conversation) (creator : ObjectId) (users : List NewParticipant)
      (joinedAt : Date)
      (hfresh : FreshIds input.newIds users.length
        (db.participants.map ConversationParticipant.id)) :
      CreateStep (.addingParticipants conversation creator users joinedAt)
        (db.insertParticipants (List.zipWith
          (NewParticipant.document conversation.id creator joinedAt) users input.newIds))
        (.addingEvents conversation creator users input.now)
  | events (conversation : Conversation) (creator : ObjectId) (users : List NewParticipant)
      (occurredAt : Date)
      (hfresh : FreshIds input.newIds users.length (db.membershipEvents.map MembershipEvent.id)) :
      CreateStep (.addingEvents conversation creator users occurredAt)
        (db.insertEvents (List.zipWith
          (NewParticipant.event conversation.id creator occurredAt) users input.newIds))
        (.returned conversation)

variable {db args input}

theorem createStep_cases {db' : ChatDb} {pc pc' : CreatePc}
    (h : createStep db args input pc = some (db', pc')) :
    CreateStep db args input pc db' pc' := by
  cases pc with
  | start =>
    simp only [createStep] at h
    split at h
    · -- a group
      rename_i htype
      cases h
      exact .group htype
    · -- a direct conversation must name somebody else
      rename_i htype
      split at h
      · rename_i targetId hparticipants
        split at h
        · cases h
          exact .refused _
        · rename_i hother
          -- both ids have to be well formed
          split at h
          · rename_i creator target hcreator htarget
            cases h
            exact .direct targetId creator target htype hparticipants hother hcreator htarget
          · cases h
            exact .refused _
      · cases h
        exact .refused _
  | findingShared creator target =>
    -- the records of the two are looked at first
    simp only [createStep] at h
    split at h
    · rename_i hnone
      cases h
      exact .noneShared creator target hnone
    · cases h
      exact .shared creator target
  | findingDirect shared =>
    -- then the direct conversations among these
    simp only [createStep] at h
    split at h
    · rename_i hnone
      cases h
      exact .noCandidate shared hnone
    · cases h
      exact .candidates shared
  | checkingDirect conversations =>
    simp only [createStep] at h
    split at h
    · cases h
      exact .noneLeft
    · rename_i conversation rest
      -- the candidates are looked at one after the other
      split at h
      · rename_i hmatch
        cases h
        exact .found conversation rest hmatch
      · rename_i hmatch
        have hother := Bool.eq_false_iff.mpr hmatch
        split at h
        · rename_i hrest
          cases h
          subst hrest
          exact .lastOther conversation hother
        · cases h
          exact .other conversation rest hother
  | creating =>
    simp only [createStep] at h
    split at h
    · -- the creator's id is checked before anything is written
      rename_i hcreator
      cases h
      exact .invalidCreator hcreator
    · rename_i creator hcreator
      split at h
      · cases h
      · rename_i hfresh
        split at h
        · -- the other ids are checked together
          rename_i husers
          cases h
          exact .invalidParticipant creator hcreator hfresh husers
        · rename_i users husers
          cases h
          exact .created creator users hcreator hfresh husers
  | addingParticipants conversation creator users joinedAt =>
    simp only [createStep] at h
    split at h
    · rename_i hfresh
      cases h
      exact .participants conversation creator users joinedAt hfresh
    · cases h
  | addingEvents conversation creator users occurredAt =>
    simp only [createStep] at h
    split at h
    · rename_i hfresh
      cases h
      exact .events conversation creator users occurredAt hfresh
    · cases h
  | returned conversation => cases h
  | threw error => cases h

end Create

/-! ## `addMember` -/

section Add

variable (db : ChatDb) (args : MembershipArgs) (input : CallInput)

/-- A step of `addMember`. -/
inductive AddMemberStep : AddMemberPc → ChatDb → AddMemberPc → Prop where
  | refused (error : ChatError)
      (hguard : getRequiredActiveParticipant db args.conversationId args.actorId = .error error) :
      AddMemberStep .guarding db (.threw error)
  | passed (actor : ConversationParticipant)
      (hguard : getRequiredActiveParticipant db args.conversationId args.actorId = .ok actor) :
      AddMemberStep .guarding db (.start actor.conversationId actor.userId)
  | invalidUser (c actor : ObjectId) (huser : ObjectId.ofString? args.userId = none) :
      AddMemberStep (.start c actor) db (.threw .invalidObjectId)
  | alreadyMember (c u actor : ObjectId) (huser : ObjectId.ofString? args.userId = some u)
      (hfound : db.findActive c u ≠ none) :
      AddMemberStep (.start c actor) db (.returned true)
  | notMember (c u actor : ObjectId) (huser : ObjectId.ofString? args.userId = some u)
      (hnone : db.findActive c u = none) :
      AddMemberStep (.start c actor) db (.creating c u actor input.now)
  | created (c u actor : ObjectId) (joinedAt : Date)
      (hfresh : input.newId ∉ db.participants.map ConversationParticipant.id) :
      AddMemberStep (.creating c u actor joinedAt)
        (db.insertParticipants [⟨input.newId, c, u, .member, .active, some actor, joinedAt, none,
          none, none, 0⟩])
        (.logging c u actor input.now)
  | logged (c u actor : ObjectId) (occurredAt : Date)
      (hfresh : input.newId ∉ db.membershipEvents.map MembershipEvent.id) :
      AddMemberStep (.logging c u actor occurredAt)
        (db.insertEvents [⟨input.newId, c, .added, u, some actor, occurredAt⟩]) (.returned false)

variable {db args input}

theorem addMemberStep_cases {db' : ChatDb} {pc pc' : AddMemberPc}
    (h : addMemberStep db args input pc = some (db', pc')) :
    AddMemberStep db args input pc db' pc' := by
  cases pc with
  | guarding =>
    simp only [addMemberStep] at h
    split at h
    · -- the guard asks for an active membership
      rename_i error hguard
      cases h
      exact .refused error hguard
    · rename_i actor hguard
      cases h
      exact .passed actor hguard
  | start c actor =>
    simp only [addMemberStep] at h
    split at h
    · -- the new member comes from the URL, which may be no id
      rename_i huser
      cases h
      exact .invalidUser c actor huser
    · rename_i u huser
      split at h
      · -- somebody who is a member already is not added again
        rename_i p hfound
        cases h
        exact .alreadyMember c u actor huser (by rw [hfound]; nofun)
      · rename_i hnone
        cases h
        exact .notMember c u actor huser hnone
  | creating c u actor joinedAt =>
    simp only [addMemberStep] at h
    split at h
    · cases h
    · rename_i hfresh
      cases h
      exact .created c u actor joinedAt hfresh
  | logging c u actor occurredAt =>
    simp only [addMemberStep] at h
    split at h
    · cases h
    · rename_i hfresh
      cases h
      exact .logged c u actor occurredAt hfresh
  | returned alreadyMember => cases h
  | threw error => cases h

end Add

/-! ## The end of a membership -/

section End

variable (ending : Ending) (guard : ChatDb → Except ChatError ConversationParticipant)
  (userId : JsString) (db : ChatDb) (input : CallInput)

/-- A step of `removeMember`, or of one of the two ways to leave. -/
inductive EndStep : EndPc → ChatDb → EndPc → Prop where
  | refused (error : ChatError) (hguard : guard db = .error error) :
      EndStep .guarding db (.threw error)
  | passed (actor : ConversationParticipant) (hguard : guard db = .ok actor) :
      EndStep .guarding db (.start actor.conversationId actor.userId input.now)
  | invalidUser (c actor : ObjectId) (leftAt : Date) (huser : ObjectId.ofString? userId = none) :
      EndStep (.start c actor leftAt) db (.threw .invalidObjectId)
  | updated (c u actor : ObjectId) (leftAt : Date) (huser : ObjectId.ofString? userId = some u) :
      EndStep (.start c actor leftAt) (db.endMembership c u ending.status leftAt)
        (.logging c u actor input.now)
  | logged (c u actor : ObjectId) (occurredAt : Date) (event : MembershipEvent)
      (hfresh : input.newId ∉ db.membershipEvents.map MembershipEvent.id)
      (hevent : event.conversationId = c ∧ event.targetUserId = u ∧ event.type = ending.event) :
      EndStep (.logging c u actor occurredAt) (db.insertEvents [event]) .returned

variable {ending guard userId db input}

theorem endStep_cases {db' : ChatDb} {pc pc' : EndPc}
    (h : endStep ending guard userId db input pc = some (db', pc')) :
    EndStep ending guard userId db input pc db' pc' := by
  cases pc with
  | guarding =>
    simp only [endStep] at h
    split at h
    · -- the guard of the controller
      rename_i error hguard
      cases h
      exact .refused error hguard
    · rename_i actor hguard
      cases h
      exact .passed actor hguard
  | start c actor leftAt =>
    simp only [endStep] at h
    -- the member comes from the URL, which may be no id
    split at h
    · rename_i huser
      cases h
      exact .invalidUser c actor leftAt huser
    · rename_i u huser
      cases h
      exact .updated c u actor leftAt huser
  | logging c u actor occurredAt =>
    simp only [endStep] at h
    split at h
    · cases h
    · rename_i hfresh
      cases h
      exact .logged c u actor occurredAt _ hfresh ⟨rfl, rfl, rfl⟩
  | returned => cases h
  | threw error => cases h

end End

/-! ## `sendMessage` -/

section Send

variable (env : BackendEnv) (db : ChatDb) (args : SendArgs) (input : CallInput)

/-- A step of `sendMessage`. -/
inductive SendStep : SendPc → ChatDb → SendPc → Prop where
  | refused (error : ChatError) : SendStep .start db (.threw error)
  | sender (participant : ConversationParticipant)
      (hnonempty : ¬ (trim args.content = [] ∧ args.attachmentId = []))
      (hsender : getRequiredActiveParticipant db args.conversationId args.senderId =
        .ok participant) :
      SendStep .start db (.findingConversation
        ⟨participant.conversationId, participant.userId, participant.id, []⟩)
  | direct (ctx : SendContext) (conversation : Conversation)
      (hfound : db.findConversation ctx.conversation = some conversation)
      (hdirect : conversation.type = .direct) :
      SendStep (.findingConversation ctx) db (.findingParticipants ctx)
  | notDirect (ctx : SendContext) :
      SendStep (.findingConversation ctx) db (sendAttachment args ctx input.now)
  | nothingToRestore (ctx : SendContext) :
      SendStep (.findingParticipants ctx) db (sendAttachment args ctx input.now)
  | toRestore (ctx : SendContext) :
      SendStep (.findingParticipants ctx) db
        (.restoring ctx (participantsToRestore db ctx.conversation args.senderId)
          (participantsToRestore db ctx.conversation args.senderId))
  | restoredLast (ctx : SendContext) (toRestore left : List ObjectId) (record : ObjectId)
      (hrecord : record ∈ left) :
      SendStep (.restoring ctx toRestore left) (db.restoreParticipant record)
        (.refetching ctx toRestore)
  | restored (ctx : SendContext) (toRestore left : List ObjectId) (record : ObjectId)
      (hrecord : record ∈ left) :
      SendStep (.restoring ctx toRestore left) (db.restoreParticipant record)
        (.restoring ctx toRestore (left.eraseIdx input.pick))
  | refetched (ctx : SendContext) (toRestore : List ObjectId) :
      SendStep (.refetching ctx toRestore) db
        (sendAttachment args
          { ctx with restored := db.participants.filter (·.id ∈ toRestore) } input.now)
  | badAttachment (ctx : SendContext) (attachment : ObjectId) (error : ChatError) :
      SendStep (.findingAttachment ctx attachment) db (.threw error)
  | attachment (ctx : SendContext) (attachment : ObjectId) (found : ChatAttachment)
      (hfound : checkAttachment args (db.findAttachment attachment) = .ok found) :
      SendStep (.findingAttachment ctx attachment) db
        (sendEncrypt args ctx (some found) input.now)
  | encryptionFailed (ctx : SendContext) (attachment : Option ChatAttachment)
      (error : ProcessingError) :
      SendStep (.encrypting ctx attachment) db (.threw (.processing error))
  | encrypted (ctx : SendContext) (attachment : Option ChatAttachment)
      (encrypted : EncryptedContent)
      (hencrypted : (encryptForStorage env input.exchange input.encryption (trim args.content)
        ⟨args.senderId, args.conversationId⟩).2 = .resolved encrypted) :
      SendStep (.encrypting ctx attachment) db (.creating ctx attachment encrypted input.now)
  | createdWith (ctx : SendContext) (attachment : ChatAttachment) (encrypted : EncryptedContent)
      (sentAt : Date) (hfresh : input.newId ∉ db.messages.map Message.id) :
      SendStep (.creating ctx (some attachment) encrypted sentAt)
        (db.createMessage (newMessage args ctx (some attachment) encrypted sentAt input.newId))
        (.savingAttachment ctx (newMessage args ctx (some attachment) encrypted sentAt input.newId)
          attachment.id input.now)
  | created (ctx : SendContext) (encrypted : EncryptedContent) (sentAt : Date)
      (hfresh : input.newId ∉ db.messages.map Message.id) :
      SendStep (.creating ctx none encrypted sentAt)
        (db.createMessage (newMessage args ctx none encrypted sentAt input.newId))
        (.updatingConversation ctx (newMessage args ctx none encrypted sentAt input.newId))
  | attached (ctx : SendContext) (message : Message) (attachment : ObjectId) (confirmedAt : Date) :
      SendStep (.savingAttachment ctx message attachment confirmedAt)
        (db.saveAttached attachment message.id confirmedAt) (.updatingConversation ctx message)
  | touched (ctx : SendContext) (message : Message) :
      SendStep (.updatingConversation ctx message)
        (db.touchConversation ctx.conversation message.sentAt input.now)
        (.updatingSender ctx message)
  | marked (ctx : SendContext) (message : Message) :
      SendStep (.updatingSender ctx message)
        (db.moveMarker ctx.activeSender message.id message.sentAt) (.incrementing ctx message)
  | counted (ctx : SendContext) (message : Message) :
      SendStep (.incrementing ctx message) (db.incrementUnread ctx.conversation ctx.sender)
        (.returned message ctx.restored)

variable {env db args input}

theorem sendStep_cases {db' : ChatDb} {pc pc' : SendPc}
    (h : sendStep env db args input pc = some (db', pc')) :
    SendStep env db args input pc db' pc' := by
  cases pc with
  | start =>
    simp only [sendStep] at h
    split at h
    · -- neither text nor attachment
      cases h
      exact .refused _
    · rename_i hnonempty
      split at h
      · -- the sender has to be an active member
        cases h
        exact .refused _
      · rename_i participant hsender
        cases h
        exact .sender participant hnonempty hsender
  | findingConversation ctx =>
    simp only [sendStep] at h
    split at h
    · -- only a direct conversation brings back those who left
      rename_i conversation hfound
      split at h
      · rename_i hdirect
        cases h
        exact .direct ctx conversation hfound hdirect
      · cases h
        exact .notDirect ctx
    · cases h
      exact .notDirect ctx
  | findingParticipants ctx =>
    simp only [sendStep] at h
    split at h
    · -- nobody has left
      cases h
      exact .nothingToRestore ctx
    · cases h
      exact .toRestore ctx
  | restoring ctx toRestore left =>
    simp only [sendStep] at h
    split at h
    · cases h
    · -- the loop picks one of the records that are still to be restored
      rename_i record hpick
      have hrecord := List.mem_of_getElem? hpick
      cases h
      split
      · exact .restoredLast ctx toRestore left record hrecord
      · exact .restored ctx toRestore left record hrecord
  | refetching ctx toRestore =>
    cases h
    exact .refetched ctx toRestore
  | findingAttachment ctx attachment =>
    simp only [sendStep] at h
    -- an attachment that is found, uploaded and the sender's own
    split at h
    · cases h
      exact .badAttachment ctx attachment _
    · rename_i found hfound
      cases h
      exact .attachment ctx attachment found hfound
  | encrypting ctx attachment =>
    simp only [sendStep] at h
    -- the processor may be silent, fail or answer
    split at h
    · cases h
    · cases h
      exact .encryptionFailed ctx attachment _
    · rename_i encrypted hencrypted
      cases h
      exact .encrypted ctx attachment encrypted hencrypted
  | creating ctx attachment encrypted sentAt =>
    simp only [sendStep] at h
    -- a new id is in no document
    split at h
    · cases h
    · rename_i hfresh
      cases h
      cases attachment with
      | none => exact .created ctx encrypted sentAt hfresh
      | some attachment => exact .createdWith ctx attachment encrypted sentAt hfresh
  | savingAttachment ctx message attachment confirmedAt =>
    cases h
    exact .attached ctx message attachment confirmedAt
  | updatingConversation ctx message =>
    cases h
    exact .touched ctx message
  | updatingSender ctx message =>
    cases h
    exact .marked ctx message
  | incrementing ctx message =>
    cases h
    exact .counted ctx message
  | returned message restored => cases h
  | threw error => cases h

end Send

/-! ## `markConversationRead` -/

section Read

variable (db : ChatDb) (args : MemberArgs) (input : CallInput)

/-- A step of `markConversationRead`. -/
inductive MarkReadStep : MarkReadPc → ChatDb → MarkReadPc → Prop where
  | refused (error : ChatError) : MarkReadStep .guarding db (.threw error)
  | passed (participant : ConversationParticipant)
      (hguard : getRequiredActiveParticipant db args.conversationId args.userId =
        .ok participant) : MarkReadStep .guarding db .start
  | notMember (error : ChatError) : MarkReadStep .start db (.threw error)
  | member (participant : ConversationParticipant)
      (hmember : getRequiredActiveParticipant db args.conversationId args.userId =
        .ok participant) :
      MarkReadStep .start db (.findingLatest participant.conversationId participant.id)
  | latest (c participant : ObjectId) :
      MarkReadStep (.findingLatest c participant) db
        (.updatingMarker c participant (db.findLatestMessage c) input.now)
  | reset (c participant : ObjectId) (lastReadAt : Date) :
      MarkReadStep (.updatingMarker c participant none lastReadAt) (db.resetUnread participant)
        (.returned none)
  | marked (c participant : ObjectId) (message : Message) (lastReadAt : Date) :
      MarkReadStep (.updatingMarker c participant (some message) lastReadAt)
        (db.moveMarker participant message.id lastReadAt) (.findingParticipants c message)
  | noOthers (c : ObjectId) (message : Message)
      (hnone : ((db.findActiveParticipants c).filter (·.userId.toString ≠ args.userId)).map
        ConversationParticipant.userId = []) :
      MarkReadStep (.findingParticipants c message) db (.returned (some message.id))
  | others (c : ObjectId) (message : Message) :
      MarkReadStep (.findingParticipants c message) db (.updatingMessages c message
        (((db.findActiveParticipants c).filter (·.userId.toString ≠ args.userId)).map
          ConversationParticipant.userId))
  | seen (c : ObjectId) (message : Message) (others : List ObjectId) :
      MarkReadStep (.updatingMessages c message others) (db.markSeen c others message.sentAt)
        (.returned (some message.id))

variable {db args input}

theorem markReadStep_cases {db' : ChatDb} {pc pc' : MarkReadPc}
    (h : markReadStep db args input pc = some (db', pc')) :
    MarkReadStep db args input pc db' pc' := by
  cases pc with
  | guarding =>
    simp only [markReadStep] at h
    split at h
    · cases h
      exact .refused _
    · rename_i participant hguard
      cases h
      exact .passed participant hguard
  | start =>
    simp only [markReadStep] at h
    split at h
    · cases h
      exact .notMember _
    · rename_i participant hmember
      cases h
      exact .member participant hmember
  | findingLatest c participant =>
    cases h
    exact .latest c participant
  | updatingMarker c participant latest lastReadAt =>
    -- a conversation without messages has no latest one
    simp only [markReadStep] at h
    split at h
    · cases h
      exact .reset c participant lastReadAt
    · cases h
      exact .marked c participant _ lastReadAt
  | findingParticipants c latest =>
    simp only [markReadStep] at h
    -- nobody else is an active member
    split at h
    · rename_i hnone
      cases h
      exact .noOthers c latest hnone
    · cases h
      exact .others c latest
  | updatingMessages c latest others =>
    cases h
    exact .seen c latest others
  | returned lastReadMessageId => cases h
  | threw error => cases h

end Read

/-! ## `sendAiBotMessage` -/

section AiBot

variable (db : ChatDb) (args : AiBotArgs) (input : CallInput)

/-- A step of `sendAiBotMessage`. -/
inductive AiBotStep : AiBotPc → ChatDb → AiBotPc → Prop where
  | invalidIds
      (hinvalid : ∀ c requester, ObjectId.ofString? args.conversationId = some c →
        ObjectId.ofString? args.requesterId = some requester → False) :
      AiBotStep .start db (.threw .invalidObjectId)
  | created (c requester : ObjectId) (hc : ObjectId.ofString? args.conversationId = some c)
      (hrequester : ObjectId.ofString? args.requesterId = some requester)
      (hfresh : input.newId ∉ db.messages.map Message.id) :
      AiBotStep .start
        (db.createMessage (newAiBotMessage c requester args.content input.now input.newId))
        (.updatingConversation (newAiBotMessage c requester args.content input.now input.newId))
  | touched (message : Message) :
      AiBotStep (.updatingConversation message)
        (db.touchConversation message.conversationId message.sentAt input.now)
        (.incrementing message)
  | counted (message : Message) :
      AiBotStep (.incrementing message)
        (db.incrementUnread message.conversationId message.senderId) (.returned message)

variable {db args input}

theorem aiBotStep_cases {db' : ChatDb} {pc pc' : AiBotPc}
    (h : aiBotStep db args input pc = some (db', pc')) : AiBotStep db args input pc db' pc' := by
  cases pc with
  | start =>
    simp only [aiBotStep] at h
    -- both ids have to be well formed
    split at h
    · rename_i c requester hc hrequester
      split at h
      · cases h
      · rename_i hfresh
        cases h
        exact .created c requester hc hrequester hfresh
    · rename_i hinvalid
      cases h
      exact .invalidIds hinvalid
  | updatingConversation message =>
    cases h
    exact .touched message
  | incrementing message =>
    cases h
    exact .counted message
  | returned message => cases h
  | threw error => cases h

end AiBot

/-! ## Any call -/

section Call

variable (env : BackendEnv) (db : ChatDb) (input : CallInput)

/-- A step of a call is a step of its method. -/
inductive CallMove : ChatCall → ChatDb → ChatCall → Prop where
  | createConversation {args : CreateArgs} {pc pc' : CreatePc} {db' : ChatDb}
      (h : createStep db args input pc = some (db', pc')) :
      CallMove (.createConversation args pc) db' (.createConversation args pc')
  | addMember {args : MembershipArgs} {pc pc' : AddMemberPc} {db' : ChatDb}
      (h : addMemberStep db args input pc = some (db', pc')) :
      CallMove (.addMember args pc) db' (.addMember args pc')
  | removeMember {args : MembershipArgs} {pc pc' : EndPc} {db' : ChatDb}
      (h : removeMemberStep db args input pc = some (db', pc')) :
      CallMove (.removeMember args pc) db' (.removeMember args pc')
  | markConversationLeft {args : MemberArgs} {pc pc' : EndPc} {db' : ChatDb}
      (h : markConversationLeftStep db args input pc = some (db', pc')) :
      CallMove (.markConversationLeft args pc) db' (.markConversationLeft args pc')
  | sendMessage {args : SendArgs} {pc pc' : SendPc} {db' : ChatDb}
      (h : sendStep env db args input pc = some (db', pc')) :
      CallMove (.sendMessage args pc) db' (.sendMessage args pc')
  | markConversationRead {args : MemberArgs} {pc pc' : MarkReadPc} {db' : ChatDb}
      (h : markReadStep db args input pc = some (db', pc')) :
      CallMove (.markConversationRead args pc) db' (.markConversationRead args pc')

variable {env db input}

theorem callStep_cases {db' : ChatDb} {call call' : ChatCall}
    (h : callStep env db call input = some (db', call')) : CallMove env db input call db' call' := by
  cases call with
  | createConversation args pc =>
    obtain ⟨⟨db'', pc'⟩, hstep, heq⟩ := Option.map_eq_some_iff.mp h
    cases heq
    exact .createConversation hstep
  | addMember args pc =>
    obtain ⟨⟨db'', pc'⟩, hstep, heq⟩ := Option.map_eq_some_iff.mp h
    cases heq
    exact .addMember hstep
  | removeMember args pc =>
    obtain ⟨⟨db'', pc'⟩, hstep, heq⟩ := Option.map_eq_some_iff.mp h
    cases heq
    exact .removeMember hstep
  | markConversationLeft args pc =>
    obtain ⟨⟨db'', pc'⟩, hstep, heq⟩ := Option.map_eq_some_iff.mp h
    cases heq
    exact .markConversationLeft hstep
  | sendMessage args pc =>
    obtain ⟨⟨db'', pc'⟩, hstep, heq⟩ := Option.map_eq_some_iff.mp h
    cases heq
    exact .sendMessage hstep
  | markConversationRead args pc =>
    obtain ⟨⟨db'', pc'⟩, hstep, heq⟩ := Option.map_eq_some_iff.mp h
    cases heq
    exact .markConversationRead hstep

/-- A call that has ended takes no step. -/
theorem callStep_ended {call : ChatCall} (h : call.ended = true) :
    callStep env db call input = none := by
  cases call with
  | createConversation args pc => cases pc <;> first | rfl | cases h
  | addMember args pc => cases pc <;> first | rfl | cases h
  | removeMember args pc => cases pc <;> first | rfl | cases h
  | markConversationLeft args pc => cases pc <;> first | rfl | cases h
  | sendMessage args pc => cases pc <;> first | rfl | cases h
  | markConversationRead args pc => cases pc <;> first | rfl | cases h

end Call

/-! ## Calls on one database -/

section Runs

variable {env : BackendEnv}

/-- An operation is a run of its call from its start to its end. -/
theorem operationStep_eq_some {db db' : ChatDb} {operation : Operation} :
    operationStep env db operation = some db' ↔ operation.call.isStart = true ∧
      ∃ call, run (aloneStep env) (db, operation.call) operation.inputs = some (db', call) ∧
        call.ended = true := by
  unfold operationStep
  by_cases hstart : operation.call.isStart = true
  · rw [if_pos hstart]
    cases hrun : run (aloneStep env) (db, operation.call) operation.inputs with
    | none => simp [hstart]
    | some state =>
      obtain ⟨db'', call⟩ := state
      -- a call that has not ended is no operation yet
      by_cases hended : call.ended = true
      · constructor
        · intro h
          simp only [hended, if_true, Option.some.injEq] at h
          exact ⟨hstart, call, by rw [h], hended⟩
        · rintro ⟨-, call', heq, -⟩
          cases heq
          simp [hended]
      · constructor
        · intro h
          simp [hended] at h
        · rintro ⟨-, call', heq, hended'⟩
          cases heq
          exact absurd hended' hended
  · simp [hstart]

/-- What the steps of a method keep, given what the environment gives to them, holds while its call
    has the database for itself. -/
theorem run_alone_of_inputs {π : Type} {make : π → ChatCall}
    {step : ChatDb → CallInput → π → Option (ChatDb × π)} {P : ChatDb → π → Prop}
    {ok : CallInput → Prop}
    (hmethod : ∀ db input pc, callStep env db (make pc) input =
      (step db input pc).map fun (db, pc) => (db, make pc))
    (hkeep : ∀ db input pc db' pc', ok input → P db pc → step db input pc = some (db', pc') →
      P db' pc')
    {before db : ChatDb} {pc : π} {call : ChatCall} {inputs : List CallInput} (hstart : P before pc)
    (hok : ∀ input ∈ inputs, ok input)
    (hrun : run (aloneStep env) (before, make pc) inputs = some (db, call)) :
    ∃ pc', call = make pc' ∧ P db pc' := by
  -- the state of the call is the method's own, so only the method's step can be taken
  have hstep : ∀ (state : ChatDb × ChatCall) (input : CallInput) (state' : ChatDb × ChatCall),
      (∃ pc, state.2 = make pc ∧ P state.1 pc) → ok input →
      aloneStep env state input = some state' → ∃ pc, state'.2 = make pc ∧ P state'.1 pc := by
    rintro ⟨db, call⟩ input state' ⟨pc, rfl, hpc⟩ hinput h
    rw [aloneStep, hmethod] at h
    obtain ⟨⟨db', pc'⟩, hmove, rfl⟩ := Option.map_eq_some_iff.mp h
    exact ⟨pc', rfl, hkeep db input pc db' pc' hinput hpc hmove⟩
  have hguarded : Guarded (aloneStep env) (fun _ input => ok input) (before, make pc) inputs :=
    Guarded.of_forall fun input hinput _ => hok input hinput
  exact run_invariant_of_guarded hstep ⟨pc, rfl, hstart⟩ hguarded hrun

/-- What the steps of a method keep holds while its call has the database for itself. -/
theorem run_alone {π : Type} {make : π → ChatCall}
    {step : ChatDb → CallInput → π → Option (ChatDb × π)} {P : ChatDb → π → Prop}
    (hmethod : ∀ db input pc, callStep env db (make pc) input =
      (step db input pc).map fun (db, pc) => (db, make pc))
    (hkeep : ∀ db input pc db' pc', P db pc → step db input pc = some (db', pc') → P db' pc')
    {before db : ChatDb} {pc : π} {call : ChatCall} {inputs : List CallInput} (hstart : P before pc)
    (hrun : run (aloneStep env) (before, make pc) inputs = some (db, call)) :
    ∃ pc', call = make pc' ∧ P db pc' := by
  have hok : ∀ input ∈ inputs, (fun _ : CallInput => True) input := fun _ _ => trivial
  exact run_alone_of_inputs hmethod
    (fun db input pc db' pc' _ hpc hmove => hkeep db input pc db' pc' hpc hmove) hstart hok hrun

/-- A new call joins the others. -/
theorem systemStep_call_eq_some {system system' : ChatSystem} {call : ChatCall} :
    systemStep env system (.call call) = some system' ↔
      call.isStart = true ∧ system' = ⟨system.db, system.calls ++ [call]⟩ := by
  by_cases hstart : call.isStart = true
  · simp [systemStep, hstart, eq_comm]
  · simp [systemStep, hstart]

/-- One of the calls takes its next step. -/
theorem systemStep_step_eq_some {system system' : ChatSystem} {index : Nat} {input : CallInput} :
    systemStep env system (.step index input) = some system' ↔
      ∃ call db' call', system.calls[index]? = some call ∧
        callStep env system.db call input = some (db', call') ∧
        system' = ⟨db', system.calls.set index call'⟩ := by
  cases hcall : system.calls[index]? with
  | none => simp [systemStep, hcall]
  | some call =>
    constructor
    · intro h
      simp only [systemStep, hcall] at h
      obtain ⟨⟨db', call'⟩, hstep, rfl⟩ := Option.map_eq_some_iff.mp h
      exact ⟨call, db', call', rfl, hstep, rfl⟩
    · rintro ⟨call'', db', call', heq, hstep, rfl⟩
      cases heq
      simp only [systemStep, hcall, hstep, Option.map_some]

end Runs

end ChatSC.Spec
