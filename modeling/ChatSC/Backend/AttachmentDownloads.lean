import ChatSC.Backend.AttachmentKeys
import ChatSC.Backend.ChatBackend

/-!
# Reading attachments (`chat-attachment.service.ts`)

`getAttachmentStatus` and `generatePresignedDownloadUrl` look an attachment up and answer to members
of its conversation only; between the two the other calls go on.  `getSignedUrl` of the R2 client is
not in the repository and a parameter, as is `normalize`.
-/

namespace ChatSC.Backend

open JsString

/-! ## R2 -/

/-- The settings of R2 in `backendEnv`. -/
structure R2Env where
  accountId : JsString
  accessKeyId : JsString
  secretAccessKey : JsString
  bucketName : JsString

/-- `S3Client` -/
structure S3Client where
  endpoint : JsString
  accessKeyId : JsString
  secretAccessKey : JsString
deriving DecidableEq

/-- `GetObjectCommand` -/
structure GetObjectCommand where
  bucket : JsString
  key : JsString
  responseContentType : JsString
  responseContentDisposition : JsString
deriving DecidableEq

/-- The settings, and what is not in the repository. -/
structure DownloadEnv where
  r2 : R2Env
  normalize : JsString → JsString
  getSignedUrl : S3Client → GetObjectCommand → Nat → Date → JsString

/-- `getBucketName` -/
def getBucketName (env : R2Env) : Except AttachmentError JsString :=
  if env.bucketName = [] then
    .error (.chat (.badRequest "R2_BUCKET_MISSING" "R2 bucket name is missing"))
  else .ok env.bucketName

/-- `getS3Client` -/
def getS3Client (env : R2Env) : Except AttachmentError S3Client :=
  if env.accountId = [] ∨ env.accessKeyId = [] ∨ env.secretAccessKey = [] ∨ env.bucketName = [] then
    .error (.chat (.badRequest "R2_CONFIG_MISSING" "R2 configuration is incomplete"))
  else
    .ok ⟨js "https://" ++ env.accountId ++ js ".r2.cloudflarestorage.com", env.accessKeyId,
      env.secretAccessKey⟩

/-- `"` -/
def quote : UInt16 := 0x22

/-- `buildContentDisposition` -/
def buildContentDisposition (fileName : JsString) : JsString :=
  js "attachment; filename=" ++ quote :: fileName.filter (· ≠ quote) ++ [quote]

example : buildContentDisposition (js "a \"b\".txt") = js "attachment; filename=\"a b.txt\"" := by
  decide

def presignedUrlTtlSeconds : Nat := 15 * 60

/-! ## The two calls -/

/-- The answer of `getAttachmentStatus`. -/
structure AttachmentStatusPayload where
  attachmentId : JsString
  status : ChatAttachmentStatus
  messageId : Option JsString
  uploadedAt : Option Date
  confirmedAt : Option Date
deriving DecidableEq

/-- The answer of `generatePresignedDownloadUrl`. -/
structure PresignedDownload where
  presignedUrl : JsString
  expiresAt : Date
  fileName : JsString
  mimeType : JsString
  sizeBytes : Nat
deriving DecidableEq

/-- `getAttachmentStatus` behind the check of the member. -/
def attachmentStatusPayload (attachment : ChatAttachment) : AttachmentStatusPayload where
  attachmentId := attachment.id.toString
  status := attachment.status
  messageId := attachment.messageId.map ObjectId.toString
  uploadedAt := attachment.uploadedAt
  confirmedAt := attachment.confirmedAt

/-- The command of `generatePresignedDownloadUrl`. -/
def getObjectCommand (env : DownloadEnv) (bucket : JsString) (attachment : ChatAttachment) :
    GetObjectCommand where
  bucket := bucket
  key := r2Key env.normalize attachment
  responseContentType := attachment.mimeType
  responseContentDisposition := buildContentDisposition attachment.originalName

/-- `generatePresignedDownloadUrl` behind the check of the member. -/
def presignDownload (env : DownloadEnv) (attachment : ChatAttachment) (now : Date) :
    Except AttachmentError PresignedDownload := do
  -- the bucket is asked for first, in the arguments of the command
  let bucket ← getBucketName env.r2
  let client ← getS3Client env.r2
  return {
    presignedUrl := env.getSignedUrl client (getObjectCommand env bucket attachment)
      presignedUrlTtlSeconds now
    expiresAt := now + presignedUrlTtlSeconds * 1000
    fileName := attachment.originalName
    mimeType := attachment.mimeType
    sizeBytes := attachment.sizeBytes }

/-- Where one of the two calls stands. -/
inductive ReadAttachmentPc (ρ : Type) where
  /-- before `attachmentModel.findById` -/
  | start
  /-- before `getRequiredActiveParticipant`, with the document as it was loaded -/
  | checkingMember (attachment : ChatAttachment)
  | returned (result : ρ)
  | threw (error : AttachmentError)
deriving DecidableEq

/-- One step of a call that reads an attachment: which documents it has an answer for, and the
    answer. -/
def readAttachmentStep {ρ : Type} (isServed : ChatAttachment → Bool)
    (respond : ChatAttachment → Date → Except AttachmentError ρ) (db : ChatDb)
    (attachmentId userId : JsString) (now : Date) :
    ReadAttachmentPc ρ → Option (ReadAttachmentPc ρ)
  | .start =>
    match requireObjectId attachmentId "INVALID_ATTACHMENT_ID" "Attachment ID is invalid" with
    | .error error => some (.threw error)
    | .ok id =>
      match db.findAttachment id with
      | none => some (.threw attachmentNotFound)
      | some attachment =>
        if isServed attachment then some (.checkingMember attachment)
        else some (.threw attachmentNotFound)
  | .checkingMember attachment =>
    match getRequiredActiveParticipant db attachment.conversationId.toString userId with
    | .error error => some (.threw (.chat error))
    | .ok _ =>
      match respond attachment now with
      | .error error => some (.threw error)
      | .ok result => some (.returned result)
  | .returned _ | .threw _ => none

/-- `getAttachmentStatus` -/
def attachmentStatusStep (db : ChatDb) (attachmentId userId : JsString) (now : Date) :
    ReadAttachmentPc AttachmentStatusPayload → Option (ReadAttachmentPc AttachmentStatusPayload) :=
  readAttachmentStep (fun _ => true) (fun attachment _ => .ok (attachmentStatusPayload attachment))
    db attachmentId userId now

/-- `generatePresignedDownloadUrl` -/
def downloadStep (env : DownloadEnv) (db : ChatDb) (attachmentId userId : JsString) (now : Date) :
    ReadAttachmentPc PresignedDownload → Option (ReadAttachmentPc PresignedDownload) :=
  readAttachmentStep (·.status = .attached) (presignDownload env) db attachmentId userId now

/-! ## Beside the rest of the chat module -/

/-- A call that reads an attachment. -/
inductive AttachmentRead where
  | getAttachmentStatus (attachmentId userId : JsString)
      (pc : ReadAttachmentPc AttachmentStatusPayload)
  | generatePresignedDownloadUrl (attachmentId userId : JsString)
      (pc : ReadAttachmentPc PresignedDownload)
deriving DecidableEq

/-- A call that has not started. -/
def AttachmentRead.isStart : AttachmentRead → Bool
  | .getAttachmentStatus _ _ pc => pc = .start
  | .generatePresignedDownloadUrl _ _ pc => pc = .start

/-- The next step of a call. -/
def attachmentReadStep (env : DownloadEnv) (db : ChatDb) (now : Date) :
    AttachmentRead → Option AttachmentRead
  | .getAttachmentStatus attachmentId userId pc =>
    (attachmentStatusStep db attachmentId userId now pc).map
      (.getAttachmentStatus attachmentId userId)
  | .generatePresignedDownloadUrl attachmentId userId pc =>
    (downloadStep env db attachmentId userId now pc).map
      (.generatePresignedDownloadUrl attachmentId userId)

/-- The chat module, and the calls that read attachments made so far. -/
structure ReadingBackend where
  backend : ChatBackend
  reads : List AttachmentRead

/-- The backend when it starts. -/
def ReadingBackend.start : ReadingBackend := ⟨.start, []⟩

/-- Something in the rest of the module, a new call, or the next step of one. -/
inductive AttachmentReadEvent where
  | backend (event : ChatBackendEvent)
  | read (read : AttachmentRead)
  | step (index : Nat) (now : Date)

/-- One step; `none` when the event cannot happen. -/
def readingBackendStep (env : BackendEnv) (config : AiConfig) (download : DownloadEnv)
    (system : ReadingBackend) : AttachmentReadEvent → Option ReadingBackend
  | .backend event =>
    (chatBackendStep env config system.backend event).map fun backend =>
      { system with backend := backend }
  | .read read =>
    if read.isStart then some { system with reads := system.reads ++ [read] } else none
  | .step index now =>
    match system.reads[index]? with
    | none => none
    | some read =>
      (attachmentReadStep download system.backend.gateway.db now read).map fun read =>
        { system with reads := system.reads.set index read }

end ChatSC.Backend
