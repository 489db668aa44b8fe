import ChatSC.Backend.ChatService

/-!
# `createConversation`, and all the calls together

`ChatCall` is a call of any of the methods, `callStep` its next step.  The calls meet at the
database in two ways: `systemStep` interleaves the steps of any number of calls, and `operationStep`
makes one call from its start to its end with nothing in between.
-/

namespace ChatSC.Backend

open Collection

/-! ## `createConversation` -/

/-- The arguments of `createConversation`. -/
structure CreateArgs where
  type : ConversationType
  creatorId : JsString
  participantIds : List JsString
  title : Option JsString
deriving DecidableEq

/-- A user of a new conversation, and whether `uid === creatorId`. -/
structure NewParticipant where
  userId : ObjectId
  isCreator : Bool
deriving DecidableEq

/-- Where `createConversation` stands. -/
inductive CreatePc where
  /-- the count in the controller and the checks before the first operation -/
  | start
  /-- `findDirectConversation`: before the `find` of the participants of the two users -/
  | findingShared (creator target : ObjectId)
  /-- before the `find` of the direct conversations among those -/
  | findingDirect (shared : List ObjectId)
  /-- in the loop, before the `find` of the participants of the first conversation -/
  | checkingDirect (conversations : List Conversation)
  /-- before `conversationModel.create` -/
  | creating
  /-- before `participantModel.insertMany` -/
  | addingParticipants (conversation : Conversation) (creator : ObjectId)
      (users : List NewParticipant) (joinedAt : Date)
  /-- before `membershipEventModel.insertMany` -/
  | addingEvents (conversation : Conversation) (creator : ObjectId) (users : List NewParticipant)
      (occurredAt : Date)
  | returned (conversation : Conversation)
  | threw (error : ChatError)
deriving DecidableEq

/-- The conversations of one user in the map of `findDirectConversation`, under the user's string. -/
def conversationIdsOf (participants : List ConversationParticipant) (userId : JsString) :
    List ObjectId :=
  distinct ((participants.filter (·.userId.toString = userId)).map
    ConversationParticipant.conversationId)

/-- The documents of the two users in the conversation are exactly two, one for each of them. -/
def isDirectOf (participants : List ConversationParticipant) (userAId userBId : JsString) : Bool :=
  participants.length = 2 && (participants.map (·.userId.toString)).contains userAId &&
    (participants.map (·.userId.toString)).contains userBId

/-- `allParticipantIds`, parsed; `none` when an id is invalid. -/
def newParticipants (args : CreateArgs) : Option (List NewParticipant) :=
  (distinct (args.creatorId :: args.participantIds)).mapM fun uid =>
    (ObjectId.ofString? uid).map fun user => ⟨user, uid = args.creatorId⟩

/-- The document of a participant of a new conversation. -/
def NewParticipant.document (conversation creator : ObjectId) (joinedAt : Date)
    (user : NewParticipant) (id : ObjectId) : ConversationParticipant where
  id := id
  conversationId := conversation
  userId := user.userId
  role := if user.isCreator then .owner else .member
  status := .active
  addedBy := if user.isCreator then none else some creator
  joinedAt := joinedAt
  leftAt := none
  lastReadMessageId := none
  lastReadAt := none
  unreadCount := 0

/-- The event for a participant of a new conversation. -/
def NewParticipant.event (conversation creator : ObjectId) (occurredAt : Date)
    (user : NewParticipant) (id : ObjectId) : MembershipEvent where
  id := id
  conversationId := conversation
  type := if user.isCreator then .joined else .added
  targetUserId := user.userId
  actorUserId := if user.isCreator then none else some creator
  occurredAt := occurredAt

/-- The ids are new to a collection: as many as documents, different, and none of them used. -/
def FreshIds (ids : List ObjectId) (count : Nat) (used : List ObjectId) : Prop :=
  ids.length = count ∧ ids.Nodup ∧ ∀ id ∈ ids, id ∉ used

instance (ids : List ObjectId) (count : Nat) (used : List ObjectId) :
    Decidable (FreshIds ids count used) :=
  inferInstanceAs (Decidable (_ ∧ _ ∧ _))

/-- One step of `createConversation` behind its controller. -/
def createStep (db : ChatDb) (args : CreateArgs) (input : CallInput) :
    CreatePc → Option (ChatDb × CreatePc)
  | .start =>
    match args.type with
    | .group => some (db, .creating)
    | .direct =>
      match args.participantIds with
      | [targetUserId] =>
        if targetUserId = args.creatorId then
          some (db, .threw (.badRequest "INVALID_DIRECT_CONVERSATION"
            "Cannot create a direct conversation with yourself"))
        else
          match ObjectId.ofString? args.creatorId, ObjectId.ofString? targetUserId with
          | some creator, some target => some (db, .findingShared creator target)
          | _, _ => some (db, .threw .invalidObjectId)
      | _ =>
        some (db, .threw (.badRequest "INVALID_PARTICIPANT_COUNT"
          "Direct conversation requires exactly one other participant"))
  | .findingShared creator target =>
    let found := db.participants.filter fun p => p.userId = creator || p.userId = target
    let targetUserId := args.participantIds.headD []
    let shared := (conversationIdsOf found args.creatorId).filter
      (conversationIdsOf found targetUserId).contains
    if shared = [] then some (db, .creating) else some (db, .findingDirect shared)
  | .findingDirect shared =>
    let conversations := (db.conversations.filter fun c =>
      shared.contains c.id && c.type = .direct).mergeSort fun c d => d.updatedAt ≤ c.updatedAt
    if conversations = [] then some (db, .creating)
    else some (db, .checkingDirect conversations)
  | .checkingDirect conversations =>
    match conversations with
    | [] => some (db, .creating)
    | conversation :: rest =>
      if isDirectOf (db.findParticipants conversation.id) args.creatorId
          (args.participantIds.headD []) then
        some (db, .returned conversation)
      -- the loop of the source, one candidate a step
      else if rest = [] then some (db, .creating)
      else some (db, .checkingDirect rest)
  | .creating =>
    match ObjectId.ofString? args.creatorId with
    | none => some (db, .threw .invalidObjectId)
    | some creator =>
      if input.newId ∈ db.conversations.map Conversation.id then none
      else
        let conversation : Conversation :=
          ⟨input.newId, args.type, args.title, creator, none, input.now⟩
        -- the conversation is stored before the other ids are parsed
        let db := db.createConversation conversation
        match newParticipants args with
        | none => some (db, .threw .invalidObjectId)
        | some users => some (db, .addingParticipants conversation creator users input.now)
  | .addingParticipants conversation creator users joinedAt =>
    if FreshIds input.newIds users.length (db.participants.map ConversationParticipant.id) then
      some (db.insertParticipants (List.zipWith
          (NewParticipant.document conversation.id creator joinedAt) users input.newIds),
        .addingEvents conversation creator users input.now)
    else none
  | .addingEvents conversation creator users occurredAt =>
    if FreshIds input.newIds users.length (db.membershipEvents.map MembershipEvent.id) then
      some (db.insertEvents (List.zipWith
          (NewParticipant.event conversation.id creator occurredAt) users input.newIds),
        .returned conversation)
    else none
  | .returned _ | .threw _ => none

/-! ## Any call -/

/-- A call of a service method. -/
inductive ChatCall where
  | createConversation (args : CreateArgs) (pc : CreatePc)
  | addMember (args : MembershipArgs) (pc : AddMemberPc)
  | removeMember (args : MembershipArgs) (pc : EndPc)
  /-- `leaveConversation` or `deleteConversationForUser` -/
  | markConversationLeft (args : MemberArgs) (pc : EndPc)
  | sendMessage (args : SendArgs) (pc : SendPc)
  | markConversationRead (args : MemberArgs) (pc : MarkReadPc)
deriving DecidableEq

/-- The next step of a call; `none` when it has ended, or with an input that is not possible. -/
def callStep (env : BackendEnv) (db : ChatDb) (call : ChatCall) (input : CallInput) :
    Option (ChatDb × ChatCall) :=
  match call with
  | .createConversation args pc =>
    (createStep db args input pc).map fun (db, pc) => (db, .createConversation args pc)
  | .addMember args pc => (addMemberStep db args input pc).map fun (db, pc) => (db, .addMember args pc)
  | .removeMember args pc =>
    (removeMemberStep db args input pc).map fun (db, pc) => (db, .removeMember args pc)
  | .markConversationLeft args pc =>
    (markConversationLeftStep db args input pc).map fun (db, pc) =>
      (db, .markConversationLeft args pc)
  | .sendMessage args pc =>
    (sendStep env db args input pc).map fun (db, pc) => (db, .sendMessage args pc)
  | .markConversationRead args pc =>
    (markReadStep db args input pc).map fun (db, pc) => (db, .markConversationRead args pc)

/-- A call that has not started. -/
def ChatCall.isStart : ChatCall → Bool
  | .createConversation _ pc => pc = .start
  | .addMember _ pc => pc = .guarding
  | .removeMember _ pc => pc = .guarding
  | .markConversationLeft _ pc => pc = .guarding
  | .sendMessage _ pc => pc = .start
  | .markConversationRead _ pc => pc = .guarding || pc = .start

/-- A call that has returned or thrown. -/
def ChatCall.ended : ChatCall → Bool
  | .createConversation _ (.returned _) | .createConversation _ (.threw _) => true
  | .addMember _ (.returned _) | .addMember _ (.threw _) => true
  | .removeMember _ .returned | .removeMember _ (.threw _) => true
  | .markConversationLeft _ .returned | .markConversationLeft _ (.threw _) => true
  | .sendMessage _ (.returned _ _) | .sendMessage _ (.threw _) => true
  | .markConversationRead _ (.returned _) | .markConversationRead _ (.threw _) => true
  | _ => false

/-! ## One call after another -/

/-- One step of a call that has the database for itself. -/
def aloneStep (env : BackendEnv) (state : ChatDb × ChatCall) (input : CallInput) :
    Option (ChatDb × ChatCall) :=
  callStep env state.1 state.2 input

/-- A call with the inputs of its steps. -/
structure Operation where
  call : ChatCall
  inputs : List CallInput

/-- The database after a call that is made from its start to its end. -/
def operationStep (env : BackendEnv) (db : ChatDb) (operation : Operation) : Option ChatDb :=
  if operation.call.isStart then
    match Transition.run (aloneStep env) (db, operation.call) operation.inputs with
    | some (db, call) => if call.ended then some db else none
    | none => none
  else none

/-! ## Calls at the same time -/

/-- The database and all the calls made so far. -/
structure ChatSystem where
  db : ChatDb
  calls : List ChatCall

/-- A new call, or the next step of one that is under way. -/
inductive ChatEvent where
  | call (call : ChatCall)
  | step (index : Nat) (input : CallInput)

/-- One step of the system; `none` when the event cannot happen. -/
def systemStep (env : BackendEnv) (system : ChatSystem) : ChatEvent → Option ChatSystem
  | .call call => if call.isStart then some { system with calls := system.calls ++ [call] } else none
  | .step index input =>
    match system.calls[index]? with
    | none => none
    | some call =>
      (callStep env system.db call input).map fun (db, call) =>
        ⟨db, system.calls.set index call⟩

end ChatSC.Backend
