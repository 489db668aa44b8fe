import ChatSC.Backend.ChatAttachments
import ChatSC.Spec.CallSteps

/-!
# The steps of the calls about attachments, rule by rule

What each step of `generatePresignedUploadUrl` and of `markAttachmentUploaded` needs and does, as in
`CallSteps` for the calls of the chat service, and that a step of a call of both services is a step of
its method.
-/

namespace ChatSC.Spec

open Backend JsString

/-! ## `generatePresignedUploadUrl` -/

section Upload

variable (db : ChatDb) (args : UploadArgs) (input : CallInput)

/-- A step of `generatePresignedUploadUrl`. -/
inductive UploadStep : UploadPc → ChatDb → UploadPc → Prop where
  | invalid (error : AttachmentError) (hargs : checkUpload args = .error error) :
      UploadStep .start db (.threw error)
  | unknown (conversation : ObjectId) (hargs : checkUpload args = .ok conversation)
      (hnone : db.findConversation conversation = none) :
      UploadStep .start db (.threw (.notFound "CONVERSATION_NOT_FOUND" "Conversation not found"))
  | found (conversation : ObjectId) (stored : Conversation)
      (hargs : checkUpload args = .ok conversation)
      (hfound : db.findConversation conversation = some stored) :
      UploadStep .start db (.checkingMember conversation)
  | notMember (conversation : ObjectId) (error : ChatError)
      (hmember : getRequiredActiveParticipant db conversation.toString args.userId = .error error) :
      UploadStep (.checkingMember conversation) db (.threw (.chat error))
  | member (conversation : ObjectId) (participant : ConversationParticipant)
      (hmember : getRequiredActiveParticipant db conversation.toString args.userId =
        .ok participant) :
      UploadStep (.checkingMember conversation) db (.creating conversation participant.userId)
  | created (conversation uploader : ObjectId)
      (hfresh : input.newId ∉ db.attachments.map ChatAttachment.id) :
      UploadStep (.creating conversation uploader)
        (db.createAttachment (draftAttachment args conversation uploader input.newId))
        (.returned input.newId)

variable {db args input}

theorem uploadStep_cases {db' : ChatDb} {pc pc' : UploadPc}
    (h : uploadStep db args input pc = some (db', pc')) : UploadStep db args input pc db' pc' := by
  cases pc with
  | start =>
    simp only [uploadStep] at h
    split at h
    · rename_i error hargs
      cases h
      exact .invalid error hargs
    · -- the conversation has to exist before anybody is looked up in it
      rename_i conversation hargs
      split at h
      · rename_i hnone
        cases h
        exact .unknown conversation hargs hnone
      · rename_i stored hfound
        cases h
        exact .found conversation stored hargs hfound
  | checkingMember conversation =>
    simp only [uploadStep] at h
    split at h
    · rename_i error hmember
      cases h
      exact .notMember conversation error hmember
    · rename_i participant hmember
      cases h
      exact .member conversation participant hmember
  | creating conversation uploader =>
    simp only [uploadStep] at h
    split at h
    · cases h
    · rename_i hfresh
      cases h
      exact .created conversation uploader hfresh
  | returned attachment => cases h
  | threw error => cases h

end Upload

/-! ## `markAttachmentUploaded` -/

section Uploaded

variable (db : ChatDb) (args : UploadedArgs) (input : CallInput)

/-- A step of `markAttachmentUploaded`. -/
inductive UploadedStep : UploadedPc → ChatDb → UploadedPc → Prop where
  | refused (error : AttachmentError) : UploadedStep .start db (.threw error)
  | member (conversation attachment : ObjectId) (participant : ConversationParticipant)
      (hconversation : ObjectId.ofString? args.conversationId = some conversation)
      (hattachment : ObjectId.ofString? args.attachmentId = some attachment)
      (hmember : getRequiredActiveParticipant db conversation.toString args.userId =
        .ok participant) :
      UploadedStep .start db (.findingAttachment conversation attachment)
  | rejected (conversation attachment : ObjectId) (error : AttachmentError)
      (hchecked : checkUploaded args conversation (db.findAttachment attachment) = .error error) :
      UploadedStep (.findingAttachment conversation attachment) db (.threw error)
  | loaded (conversation attachment : ObjectId) (copy : ChatAttachment)
      (hchecked : checkUploaded args conversation (db.findAttachment attachment) = .ok copy) :
      UploadedStep (.findingAttachment conversation attachment) db (.saving copy input.now)
  | saved (copy : ChatAttachment) (uploadedAt : Date) :
      UploadedStep (.saving copy uploadedAt) (db.saveUploaded copy uploadedAt) (.returned copy.id)

variable {db args input}

theorem requireObjectId_ok {value : JsString} {code message : String} {id : ObjectId}
    (h : requireObjectId value code message = .ok id) : ObjectId.ofString? value = some id := by
  unfold requireObjectId at h
  split at h
  · cases h
  · rename_i hparsed
    cases h
    exact hparsed

theorem uploadedStep_cases {db' : ChatDb} {pc pc' : UploadedPc}
    (h : uploadedStep db args input pc = some (db', pc')) :
    UploadedStep db args input pc db' pc' := by
  cases pc with
  | start =>
    simp only [uploadedStep] at h
    -- both ids are parsed before the member is looked up
    split at h
    · cases h
      exact .refused _
    · cases h
      exact .refused _
    · rename_i conversation attachment hconversation hattachment
      split at h
      · cases h
        exact .refused _
      · rename_i participant hmember
        cases h
        exact .member conversation attachment participant (requireObjectId_ok hconversation)
          (requireObjectId_ok hattachment) hmember
  | findingAttachment conversation attachment =>
    simp only [uploadedStep] at h
    split at h
    · rename_i error hchecked
      cases h
      exact .rejected conversation attachment error hchecked
    · rename_i copy hchecked
      cases h
      exact .loaded conversation attachment copy hchecked
  | saving copy uploadedAt =>
    cases h
    exact .saved copy uploadedAt
  | returned attachment => cases h
  | threw error => cases h

end Uploaded

/-! ## Any call -/

section AnyCall

variable (env : BackendEnv) (db : ChatDb) (input : CallInput)

/-- A step of a call of one of the services is a step of its method. -/
inductive AttachmentCallMove : AttachmentCall → ChatDb → AttachmentCall → Prop where
  | chat {call call' : ChatCall} {db' : ChatDb}
      (h : callStep env db call input = some (db', call')) :
      AttachmentCallMove (.chat call) db' (.chat call')
  | generatePresignedUploadUrl {args : UploadArgs} {pc pc' : UploadPc} {db' : ChatDb}
      (h : uploadStep db args input pc = some (db', pc')) :
      AttachmentCallMove (.generatePresignedUploadUrl args pc) db'
        (.generatePresignedUploadUrl args pc')
  | markAttachmentUploaded {args : UploadedArgs} {pc pc' : UploadedPc} {db' : ChatDb}
      (h : uploadedStep db args input pc = some (db', pc')) :
      AttachmentCallMove (.markAttachmentUploaded args pc) db' (.markAttachmentUploaded args pc')

variable {env db input}

theorem attachmentCallStep_cases {db' : ChatDb} {call call' : AttachmentCall}
    (h : attachmentCallStep env db call input = some (db', call')) :
    AttachmentCallMove env db input call db' call' := by
  cases call with
  | chat call =>
    obtain ⟨⟨db'', call''⟩, hstep, heq⟩ := Option.map_eq_some_iff.mp h
    cases heq
    exact .chat hstep
  | generatePresignedUploadUrl args pc =>
    obtain ⟨⟨db'', pc'⟩, hstep, heq⟩ := Option.map_eq_some_iff.mp h
    cases heq
    exact .generatePresignedUploadUrl hstep
  | markAttachmentUploaded args pc =>
    obtain ⟨⟨db'', pc'⟩, hstep, heq⟩ := Option.map_eq_some_iff.mp h
    cases heq
    exact .markAttachmentUploaded hstep

end AnyCall

end ChatSC.Spec
