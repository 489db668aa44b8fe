import ChatSC.Backend.ChatDb
import ChatSC.ForStd.Transition

/-!
# The calls of the chat service (`chat.service.ts`, `chat.controller.ts`)

A call of a service method stops at every `await` of a database operation and of the encryption.
Its pc says which operation comes next and holds the local variables that are still used; a step
makes that operation and runs the code behind it up to the next `await`.  `CallInput` is what the
environment gives to a step: the clock, new object ids (which no document has), the exchange with
the processor.  Calls that come through a controller first pass its guard.

The strings of a request are parsed at every use.  The guard or the first operation of each method
has parsed them, so the steps behind it use the ids.
-/

namespace ChatSC.Backend

open JsString

/-- What a call rejects with. -/
inductive ChatError where
  /-- `BadRequestException` with its `code` or `error`, and its `message` -/
  | badRequest (code message : String)
  | forbidden (message : String)
  | processing (error : ProcessingError)
  /-- `new Types.ObjectId(s)` throws -/
  | invalidObjectId
deriving DecidableEq

/-- What the environment gives to a step. -/
structure CallInput where
  /-- `new Date()` -/
  now : Date
  /-- the `_id` of a new document -/
  newId : ObjectId
  /-- the `_id`s of the documents of an `insertMany` -/
  newIds : List ObjectId
  /-- which of the operations of a `Promise.all` is made -/
  pick : Nat
  exchange : ExchangeIo
  encryption : ChatEncryptionService

def notActiveParticipant : ChatError :=
  .forbidden "You are not an active participant of this conversation"

def emptyMessage : ChatError := .badRequest "EMPTY_MESSAGE" "Message content cannot be empty"

/-- `getRequiredActiveParticipant` -/
def getRequiredActiveParticipant (db : ChatDb) (conversationId userId : JsString) :
    Except ChatError ConversationParticipant :=
  match ObjectId.ofString? conversationId, ObjectId.ofString? userId with
  | some conversation, some user =>
    match db.findActive conversation user with
    | some participant => .ok participant
    | none => .error notActiveParticipant
  | _, _ => .error .invalidObjectId

/-- `requireAdminOrOwner` -/
def requireAdminOrOwner (db : ChatDb) (conversationId userId : JsString) :
    Except ChatError ConversationParticipant :=
  match ObjectId.ofString? conversationId, ObjectId.ofString? userId with
  | some conversation, some user =>
    match db.findActive conversation user with
    | some participant =>
      if participant.role = .admin ∨ participant.role = .owner then .ok participant
      else .error (.forbidden "You do not have permission to perform this action")
    | none => .error (.forbidden "You do not have permission to perform this action")
  | _, _ => .error .invalidObjectId

/-! ## `sendMessage` -/

/-- The arguments of `sendMessage`; an attachment id that is missing is the empty string. -/
structure SendArgs where
  conversationId : JsString
  senderId : JsString
  content : JsString
  attachmentId : JsString
  isAICommand : Bool
deriving DecidableEq

/-- The parsed ids, `activeSender._id` and `restoredParticipants`. -/
structure SendContext where
  conversation : ObjectId
  sender : ObjectId
  activeSender : ObjectId
  restored : List ConversationParticipant
deriving DecidableEq

/-- Where `sendMessage` stands. -/
inductive SendPc where
  /-- before `getRequiredActiveParticipant` -/
  | start
  /-- `restoreDirectParticipantsIfNeeded`: before `findById` -/
  | findingConversation (ctx : SendContext)
  /-- before the `find` of the participants -/
  | findingParticipants (ctx : SendContext)
  /-- in the `Promise.all` of the updates, with those that are left -/
  | restoring (ctx : SendContext) (toRestore left : List ObjectId)
  /-- before the last `find` -/
  | refetching (ctx : SendContext) (toRestore : List ObjectId)
  /-- before `attachmentModel.findById` -/
  | findingAttachment (ctx : SendContext) (attachment : ObjectId)
  /-- in `encryptForStorage` -/
  | encrypting (ctx : SendContext) (attachment : Option ChatAttachment)
  /-- before `messageModel.create`, with the `sentAt` of the document -/
  | creating (ctx : SendContext) (attachment : Option ChatAttachment)
      (encrypted : EncryptedContent) (sentAt : Date)
  /-- before `attachmentDocument.save` -/
  | savingAttachment (ctx : SendContext) (message : Message) (attachment : ObjectId)
      (confirmedAt : Date)
  /-- before the update of `lastMessageAt` -/
  | updatingConversation (ctx : SendContext) (message : Message)
  /-- before the update of the sender's marker -/
  | updatingSender (ctx : SendContext) (message : Message)
  /-- in `incrementUnreadForOtherParticipants` -/
  | incrementing (ctx : SendContext) (message : Message)
  | returned (message : Message) (restored : List ConversationParticipant)
  | threw (error : ChatError)
deriving DecidableEq

/-- `sendMessage` behind the attachment: up to the encryption or the creation. -/
def sendEncrypt (args : SendArgs) (ctx : SendContext) (attachment : Option ChatAttachment)
    (now : Date) : SendPc :=
  if trim args.content = [] ∧ attachment = none then .threw emptyMessage
  else if trim args.content ≠ [] then .encrypting ctx attachment
  -- an attachment without text: there is nothing to encrypt
  else .creating ctx attachment ⟨[], .legacy, none⟩ now

/-- `sendMessage` behind `restoreDirectParticipantsIfNeeded`. -/
def sendAttachment (args : SendArgs) (ctx : SendContext) (now : Date) : SendPc :=
  if args.attachmentId = [] then sendEncrypt args ctx none now
  else
    match ObjectId.ofString? args.attachmentId with
    | none => .threw (.badRequest "INVALID_ATTACHMENT_ID" "Attachment ID is invalid")
    | some attachment => .findingAttachment ctx attachment

/-- The checks of an attachment that was looked up. -/
def checkAttachment (args : SendArgs) (found : Option ChatAttachment) :
    Except ChatError ChatAttachment :=
  match found with
  | none => .error (.badRequest "ATTACHMENT_NOT_FOUND" "Attachment not found")
  | some attachment =>
    if attachment.conversationId.toString ≠ args.conversationId then
      .error (.badRequest "ATTACHMENT_NOT_FOUND" "Attachment not found")
    else if attachment.uploaderId.toString ≠ args.senderId then
      .error (.forbidden "Attachment does not belong to this user")
    else if attachment.status ≠ .uploaded then
      .error (.badRequest "ATTACHMENT_NOT_READY" "Attachment upload is not ready")
    else .ok attachment

/-- The document that `sendMessage` creates. -/
def newMessage (args : SendArgs) (ctx : SendContext) (attachment : Option ChatAttachment)
    (encrypted : EncryptedContent) (sentAt : Date) (id : ObjectId) : Message where
  id := id
  conversationId := ctx.conversation
  senderId := ctx.sender
  content := encrypted.content
  reverseEncryptionState := encrypted.reverseEncryptionState
  encryptedContentVersion :=
    if encrypted.reverseEncryptionState = .encrypted then some "reverse-v1" else none
  sentAt := sentAt
  seenState := .sent
  decodeErrorCode := encrypted.decodeErrorCode
  isAIBotMessage := false
  isAICommand := args.isAICommand
  attachment := attachment.map fun a => ⟨a.id, a.originalName, a.mimeType, a.sizeBytes, a.isImage⟩

/-- The participants that `restoreDirectParticipantsIfNeeded` restores. -/
def participantsToRestore (db : ChatDb) (conversation : ObjectId) (senderId : JsString) :
    List ObjectId :=
  (((db.findParticipants conversation).mergeSort fun p q => p.joinedAt ≤ q.joinedAt).filter
    fun p => p.userId.toString ≠ senderId && p.status = .left).map ConversationParticipant.id

/-- One step of `sendMessage`. -/
def sendStep (env : BackendEnv) (db : ChatDb) (args : SendArgs) (input : CallInput) :
    SendPc → Option (ChatDb × SendPc)
  | .start =>
    if trim args.content = [] ∧ args.attachmentId = [] then some (db, .threw emptyMessage)
    else
      match getRequiredActiveParticipant db args.conversationId args.senderId with
      | .error error => some (db, .threw error)
      | .ok participant =>
        some (db, .findingConversation
          ⟨participant.conversationId, participant.userId, participant.id, []⟩)
  | .findingConversation ctx =>
    match db.findConversation ctx.conversation with
    | some conversation =>
      if conversation.type = .direct then some (db, .findingParticipants ctx)
      else some (db, sendAttachment args ctx input.now)
    | none => some (db, sendAttachment args ctx input.now)
  | .findingParticipants ctx =>
    match participantsToRestore db ctx.conversation args.senderId with
    | [] => some (db, sendAttachment args ctx input.now)
    | toRestore => some (db, .restoring ctx toRestore toRestore)
  | .restoring ctx toRestore left =>
    -- the updates of the `Promise.all` land in any order
    match left[input.pick]? with
    | none => none
    | some participant =>
      some (db.restoreParticipant participant,
        if left.length = 1 then .refetching ctx toRestore
        else .restoring ctx toRestore (left.eraseIdx input.pick))
  | .refetching ctx toRestore =>
    let ctx := { ctx with restored := db.participants.filter (·.id ∈ toRestore) }
    some (db, sendAttachment args ctx input.now)
  | .findingAttachment ctx attachment =>
    match checkAttachment args (db.findAttachment attachment) with
    | .error error => some (db, .threw error)
    | .ok attachment => some (db, sendEncrypt args ctx (some attachment) input.now)
  | .encrypting ctx attachment =>
    match (encryptForStorage env input.exchange input.encryption (trim args.content)
        ⟨args.senderId, args.conversationId⟩).2 with
    | .pending => none
    | .rejected error => some (db, .threw (.processing error))
    | .resolved encrypted => some (db, .creating ctx attachment encrypted input.now)
  | .creating ctx attachment encrypted sentAt =>
    -- the new `_id` is not in use
    if input.newId ∈ db.messages.map Message.id then none
    else
      let message := newMessage args ctx attachment encrypted sentAt input.newId
      some (db.createMessage message,
        match attachment with
        | some attachment => .savingAttachment ctx message attachment.id input.now
        | none => .updatingConversation ctx message)
  | .savingAttachment ctx message attachment confirmedAt =>
    some (db.saveAttached attachment message.id confirmedAt, .updatingConversation ctx message)
  | .updatingConversation ctx message =>
    -- whatever `lastMessageAt` is now, it becomes the time of this message
    some (db.touchConversation ctx.conversation message.sentAt input.now,
      .updatingSender ctx message)
  | .updatingSender ctx message =>
    some (db.moveMarker ctx.activeSender message.id message.sentAt, .incrementing ctx message)
  | .incrementing ctx message =>
    some (db.incrementUnread ctx.conversation ctx.sender, .returned message ctx.restored)
  | .returned _ _ | .threw _ => none

/-! ## `markConversationRead` -/

/-- The arguments of `markConversationRead` and of the two ways to leave. -/
structure MemberArgs where
  conversationId : JsString
  userId : JsString
deriving DecidableEq

/-- Where `markConversationRead` stands. -/
inductive MarkReadPc where
  /-- the controller's `requireActiveParticipant`; the gateway has none -/
  | guarding
  /-- before `getRequiredActiveParticipant` -/
  | start
  /-- before the `findOne` of the latest message -/
  | findingLatest (conversation participant : ObjectId)
  /-- before the `updateOne` of the participant, with `latestMessage` -/
  | updatingMarker (conversation participant : ObjectId) (latest : Option Message)
      (lastReadAt : Date)
  /-- before the `find` of the participants -/
  | findingParticipants (conversation : ObjectId) (latest : Message)
  /-- before the `updateMany` of the messages -/
  | updatingMessages (conversation : ObjectId) (latest : Message) (others : List ObjectId)
  | returned (lastReadMessageId : Option ObjectId)
  | threw (error : ChatError)
deriving DecidableEq

/-- One step of `markConversationRead`. -/
def markReadStep (db : ChatDb) (args : MemberArgs) (input : CallInput) :
    MarkReadPc → Option (ChatDb × MarkReadPc)
  | .guarding =>
    match getRequiredActiveParticipant db args.conversationId args.userId with
    | .error error => some (db, .threw error)
    | .ok _ => some (db, .start)
  | .start =>
    match getRequiredActiveParticipant db args.conversationId args.userId with
    | .error error => some (db, .threw error)
    | .ok participant => some (db, .findingLatest participant.conversationId participant.id)
  | .findingLatest conversation participant =>
    -- what is read here is written by the later steps, whatever comes in between
    some (db, .updatingMarker conversation participant (db.findLatestMessage conversation)
      input.now)
  | .updatingMarker conversation participant latest lastReadAt =>
    match latest with
    | none => some (db.resetUnread participant, .returned none)
    | some latest =>
      some (db.moveMarker participant latest.id lastReadAt,
        .findingParticipants conversation latest)
  | .findingParticipants conversation latest =>
    let others := ((db.findActiveParticipants conversation).filter
      (·.userId.toString ≠ args.userId)).map ConversationParticipant.userId
    if others = [] then some (db, .returned (some latest.id))
    else some (db, .updatingMessages conversation latest others)
  | .updatingMessages conversation latest others =>
    some (db.markSeen conversation others latest.sentAt, .returned (some latest.id))
  | .returned _ | .threw _ => none

/-! ## Membership -/

/-- The arguments of `addMember` and `removeMember`. -/
structure MembershipArgs where
  conversationId : JsString
  userId : JsString
  actorId : JsString
deriving DecidableEq

/-- Where `addMember` stands. -/
inductive AddMemberPc where
  /-- `requireActiveParticipant` of the controller -/
  | guarding
  /-- before the `findOne` -/
  | start (conversation actor : ObjectId)
  /-- before `participantModel.create` -/
  | creating (conversation user actor : ObjectId) (joinedAt : Date)
  /-- before `membershipEventModel.create` -/
  | logging (conversation user actor : ObjectId) (occurredAt : Date)
  | returned (alreadyMember : Bool)
  | threw (error : ChatError)
deriving DecidableEq

/-- One step of `addMember` behind its controller. -/
def addMemberStep (db : ChatDb) (args : MembershipArgs) (input : CallInput) :
    AddMemberPc → Option (ChatDb × AddMemberPc)
  | .guarding =>
    match getRequiredActiveParticipant db args.conversationId args.actorId with
    | .error error => some (db, .threw error)
    | .ok actor => some (db, .start actor.conversationId actor.userId)
  | .start conversation actor =>
    match ObjectId.ofString? args.userId with
    | none => some (db, .threw .invalidObjectId)
    | some user =>
      match db.findActive conversation user with
      -- `alreadyMember`: nothing is logged
      | some _ => some (db, .returned true)
      | none => some (db, .creating conversation user actor input.now)
  | .creating conversation user actor joinedAt =>
    if input.newId ∈ db.participants.map ConversationParticipant.id then none
    else
      some (db.insertParticipants [⟨input.newId, conversation, user, .member, .active, some actor,
        joinedAt, none, none, none, 0⟩], .logging conversation user actor input.now)
  | .logging conversation user actor occurredAt =>
    if input.newId ∈ db.membershipEvents.map MembershipEvent.id then none
    else
      some (db.insertEvents [⟨input.newId, conversation, .added, user, some actor, occurredAt⟩],
        .returned false)
  | .returned _ | .threw _ => none

/-- How a membership ends: `removeMember`, or `markConversationLeft` for the two ways to leave. -/
inductive Ending where
  | removed
  | left
deriving DecidableEq, Repr

/-- The `status` of the participant. -/
def Ending.status : Ending → ParticipantStatus
  | .removed => .removed
  | .left => .left

/-- The `type` of the event. -/
def Ending.event : Ending → MembershipEventType
  | .removed => .removed
  | .left => .left

/-- Where `removeMember` or `markConversationLeft` stands. -/
inductive EndPc where
  /-- `requireAdminOrOwner` or `requireActiveParticipant` of the controller -/
  | guarding
  /-- before the `updateOne` -/
  | start (conversation actor : ObjectId) (leftAt : Date)
  /-- before `membershipEventModel.create` -/
  | logging (conversation user actor : ObjectId) (occurredAt : Date)
  | returned
  | threw (error : ChatError)
deriving DecidableEq

/-- One step of the two methods, with the guard of the controller. -/
def endStep (ending : Ending) (guard : ChatDb → Except ChatError ConversationParticipant)
    (userId : JsString) (db : ChatDb) (input : CallInput) : EndPc → Option (ChatDb × EndPc)
  | .guarding =>
    match guard db with
    | .error error => some (db, .threw error)
    | .ok actor => some (db, .start actor.conversationId actor.userId input.now)
  | .start conversation actor leftAt =>
    match ObjectId.ofString? userId with
    | none => some (db, .threw .invalidObjectId)
    | some user =>
      -- the event is logged even where no active participant is found
      some (db.endMembership conversation user ending.status leftAt,
        .logging conversation user actor input.now)
  | .logging conversation user actor occurredAt =>
    if input.newId ∈ db.membershipEvents.map MembershipEvent.id then none
    else
      let actorUserId := match ending with
        | .removed => some actor
        | .left => none
      some (db.insertEvents [⟨input.newId, conversation, ending.event, user, actorUserId,
        occurredAt⟩], .returned)
  | .returned | .threw _ => none

/-- One step of `removeMember` behind its controller. -/
def removeMemberStep (db : ChatDb) (args : MembershipArgs) (input : CallInput) :
    EndPc → Option (ChatDb × EndPc) :=
  endStep .removed (fun db => requireAdminOrOwner db args.conversationId args.actorId) args.userId
    db input

/-- One step of `leaveConversation` or `deleteConversationForUser` behind its controller. -/
def markConversationLeftStep (db : ChatDb) (args : MemberArgs) (input : CallInput) :
    EndPc → Option (ChatDb × EndPc) :=
  endStep .left (fun db => getRequiredActiveParticipant db args.conversationId args.userId)
    args.userId db input

end ChatSC.Backend
