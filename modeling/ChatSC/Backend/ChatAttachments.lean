import ChatSC.Backend.ChatCalls

/-!
# Attachments (`chat-attachment.service.ts`)

An attachment starts as a draft with `generatePresignedUploadUrl`, `markAttachmentUploaded` makes it
uploaded, and `sendMessage` attaches it to a message.  The calls stop at every `await` of a database
operation; the signing of the URL behind the creation touches no document and is left out, as is the
check that a size is finite.  `attachmentStep` interleaves the calls of both services.
-/

namespace ChatSC.Backend

open Collection JsString

/-- What a call of the attachment service rejects with. -/
inductive AttachmentError where
  | chat (error : ChatError)
  /-- `NotFoundException` with its `error` and its `message` -/
  | notFound (code message : String)
deriving DecidableEq

def attachmentNotFound : AttachmentError := .notFound "ATTACHMENT_NOT_FOUND" "Attachment not found"

/-- `requireObjectId` -/
def requireObjectId (value : JsString) (code message : String) : Except AttachmentError ObjectId :=
  match ObjectId.ofString? value with
  | none => .error (.chat (.badRequest code message))
  | some id => .ok id

def maxFileSizeBytes : Nat := 25 * 1024 * 1024

namespace ChatDb

/-- `attachmentModel.create` -/
def createAttachment (db : ChatDb) (attachment : ChatAttachment) : ChatDb :=
  { db with attachments := db.attachments ++ [attachment] }

/-- `attachment.save()` after `status` and `uploadedAt` were set in the copy. -/
def saveUploaded (db : ChatDb) (loaded : ChatAttachment) (uploadedAt : Date) : ChatDb :=
  { db with
    attachments := updateOne (·.id = loaded.id)
      (fun a => { a with
        status := saveField loaded.status .uploaded a.status
        uploadedAt := saveField loaded.uploadedAt (some uploadedAt) a.uploadedAt })
      db.attachments }

end ChatDb

/-! ## `generatePresignedUploadUrl` -/

/-- The arguments of `generatePresignedUploadUrl`. -/
structure UploadArgs where
  userId : JsString
  conversationId : JsString
  fileName : JsString
  mimeType : JsString
  sizeBytes : Nat
deriving DecidableEq

/-- Where `generatePresignedUploadUrl` stands. -/
inductive UploadPc where
  /-- before `conversationModel.findById` -/
  | start
  /-- before `getRequiredActiveParticipant` -/
  | checkingMember (conversation : ObjectId)
  /-- before `attachmentModel.create` -/
  | creating (conversation uploader : ObjectId)
  | returned (attachment : ObjectId)
  | threw (error : AttachmentError)
deriving DecidableEq

/-- The checks of the arguments. -/
def checkUpload (args : UploadArgs) : Except AttachmentError ObjectId :=
  match requireObjectId args.conversationId "INVALID_CONVERSATION_ID" "Conversation ID is invalid" with
  | .error error => .error error
  | .ok conversation =>
    if trim args.fileName = [] then
      .error (.chat (.badRequest "INVALID_FILE_NAME" "File name is required"))
    else if trim args.mimeType = [] then
      .error (.chat (.badRequest "INVALID_MIME_TYPE" "MIME type is required"))
    else if args.sizeBytes = 0 ∨ maxFileSizeBytes < args.sizeBytes then
      .error (.chat (.badRequest "INVALID_FILE_SIZE"
        "File size must be greater than 0 and no larger than 25MB"))
    else .ok conversation

/-- The document that `generatePresignedUploadUrl` creates. -/
def draftAttachment (args : UploadArgs) (conversation uploader id : ObjectId) : ChatAttachment where
  id := id
  conversationId := conversation
  messageId := none
  uploaderId := uploader
  originalName := trim args.fileName
  mimeType := trim args.mimeType
  sizeBytes := args.sizeBytes
  isImage := (js "image/").isPrefixOf (trim args.mimeType)
  status := .draft
  uploadedAt := none
  confirmedAt := none

/-- One step of `generatePresignedUploadUrl`. -/
def uploadStep (db : ChatDb) (args : UploadArgs) (input : CallInput) :
    UploadPc → Option (ChatDb × UploadPc)
  | .start =>
    match checkUpload args with
    | .error error => some (db, .threw error)
    | .ok conversation =>
      match db.findConversation conversation with
      | none => some (db, .threw (.notFound "CONVERSATION_NOT_FOUND" "Conversation not found"))
      | some _ => some (db, .checkingMember conversation)
  | .checkingMember conversation =>
    match getRequiredActiveParticipant db conversation.toString args.userId with
    | .error error => some (db, .threw (.chat error))
    | .ok participant => some (db, .creating conversation participant.userId)
  | .creating conversation uploader =>
    if input.newId ∈ db.attachments.map ChatAttachment.id then none
    else
      some (db.createAttachment (draftAttachment args conversation uploader input.newId),
        .returned input.newId)
  | .returned _ | .threw _ => none

/-! ## `markAttachmentUploaded` -/

/-- The arguments of `markAttachmentUploaded`. -/
structure UploadedArgs where
  conversationId : JsString
  attachmentId : JsString
  userId : JsString
deriving DecidableEq

/-- Where `markAttachmentUploaded` stands. -/
inductive UploadedPc where
  /-- before `getRequiredActiveParticipant` -/
  | start
  /-- before `attachmentModel.findById` -/
  | findingAttachment (conversation attachment : ObjectId)
  /-- before `attachment.save`, with the document as it was loaded -/
  | saving (loaded : ChatAttachment) (uploadedAt : Date)
  | returned (attachment : ObjectId)
  | threw (error : AttachmentError)
deriving DecidableEq

/-- The checks of an attachment that was looked up. -/
def checkUploaded (args : UploadedArgs) (conversation : ObjectId) (found : Option ChatAttachment) :
    Except AttachmentError ChatAttachment :=
  match found with
  | none => .error attachmentNotFound
  | some attachment =>
    if attachment.conversationId.toString ≠ conversation.toString then .error attachmentNotFound
    else if attachment.uploaderId.toString ≠ args.userId then
      .error (.chat (.forbidden "Attachment does not belong to this user"))
    else if attachment.status = .attached then
      .error (.chat (.badRequest "ATTACHMENT_ALREADY_ATTACHED" "Attachment was already attached"))
    else .ok attachment

/-- One step of `markAttachmentUploaded`. -/
def uploadedStep (db : ChatDb) (args : UploadedArgs) (input : CallInput) :
    UploadedPc → Option (ChatDb × UploadedPc)
  | .start =>
    match requireObjectId args.conversationId "INVALID_CONVERSATION_ID" "Conversation ID is invalid",
        requireObjectId args.attachmentId "INVALID_ATTACHMENT_ID" "Attachment ID is invalid" with
    | .error error, _ => some (db, .threw error)
    | .ok _, .error error => some (db, .threw error)
    | .ok conversation, .ok attachment =>
      match getRequiredActiveParticipant db conversation.toString args.userId with
      | .error error => some (db, .threw (.chat error))
      | .ok _ => some (db, .findingAttachment conversation attachment)
  | .findingAttachment conversation attachment =>
    match checkUploaded args conversation (db.findAttachment attachment) with
    | .error error => some (db, .threw error)
    | .ok loaded => some (db, .saving loaded input.now)
  | .saving loaded uploadedAt => some (db.saveUploaded loaded uploadedAt, .returned loaded.id)
  | .returned _ | .threw _ => none

/-! ## The calls of both services -/

/-- A call of one of the services. -/
inductive AttachmentCall where
  | chat (call : ChatCall)
  | generatePresignedUploadUrl (args : UploadArgs) (pc : UploadPc)
  | markAttachmentUploaded (args : UploadedArgs) (pc : UploadedPc)
deriving DecidableEq

/-- A call that has not started. -/
def AttachmentCall.isStart : AttachmentCall → Bool
  | .chat call => call.isStart
  | .generatePresignedUploadUrl _ pc => pc = .start
  | .markAttachmentUploaded _ pc => pc = .start

/-- The next step of a call. -/
def attachmentCallStep (env : BackendEnv) (db : ChatDb) (call : AttachmentCall) (input : CallInput) :
    Option (ChatDb × AttachmentCall) :=
  match call with
  | .chat call => (callStep env db call input).map fun (db, call) => (db, .chat call)
  | .generatePresignedUploadUrl args pc =>
    (uploadStep db args input pc).map fun (db, pc) => (db, .generatePresignedUploadUrl args pc)
  | .markAttachmentUploaded args pc =>
    (uploadedStep db args input pc).map fun (db, pc) => (db, .markAttachmentUploaded args pc)

/-- The database and all the calls made so far. -/
structure AttachmentSystem where
  db : ChatDb
  calls : List AttachmentCall

/-- A new call, or the next step of one that is under way. -/
inductive AttachmentEvent where
  | call (call : AttachmentCall)
  | step (index : Nat) (input : CallInput)

/-- One step of the system; `none` when the event cannot happen. -/
def attachmentStep (env : BackendEnv) (system : AttachmentSystem) :
    AttachmentEvent → Option AttachmentSystem
  | .call call => if call.isStart then some { system with calls := system.calls ++ [call] } else none
  | .step index input =>
    match system.calls[index]? with
    | none => none
    | some call =>
      (attachmentCallStep env system.db call input).map fun (db, call) =>
        ⟨db, system.calls.set index call⟩

end ChatSC.Backend
