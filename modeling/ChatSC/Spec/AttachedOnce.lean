import ChatSC.ForStd.Records
import ChatSC.Spec.AttachmentSteps
import ChatSC.Spec.GroupMembership

/-!
# Attachments and the messages that they are sent with

`sendMessage` and `markAttachmentUploaded` both load an attachment, check its status and write later.
`AttachmentInv` says what holds as long as no message is created with an attachment that a message has
already, and no copy that was loaded as a draft is saved over one that was attached: every attachment
is sent at most once, and stays attached.
-/

namespace ChatSC.Spec

open Backend Collection JsString Transition Records

/-! ## What is kept of messages and attachments -/

/-- What no update changes in a message. -/
structure MessageRef where
  id : ObjectId
  conversationId : ObjectId
  senderId : ObjectId
  attachmentId : Option ObjectId
deriving DecidableEq

def messageRef (message : Message) : MessageRef :=
  ⟨message.id, message.conversationId, message.senderId,
    message.attachment.map MessageAttachment.attachmentId⟩

def messageRefs (db : ChatDb) : List MessageRef := db.messages.map messageRef

/-- The message references the attachment. -/
def references (attachment : ObjectId) (message : Message) : Bool :=
  (messageRef message).attachmentId = some attachment

/-- Whose an attachment is, and where: no update changes it. -/
structure Ownership where
  id : ObjectId
  conversationId : ObjectId
  uploaderId : ObjectId
deriving DecidableEq

def ownership (attachment : ChatAttachment) : Ownership :=
  ⟨attachment.id, attachment.conversationId, attachment.uploaderId⟩

def ownerships (db : ChatDb) : List Ownership := db.attachments.map ownership

/-- The attachments with the status `'attached'`. -/
def attachedIds (db : ChatDb) : List ObjectId :=
  (db.attachments.filter (·.status = .attached)).map ChatAttachment.id

theorem countP_references (db : ChatDb) (attachment : ObjectId) :
    db.messages.countP (references attachment) =
      (messageRefs db).countP (·.attachmentId = some attachment) := by
  rw [messageRefs, List.countP_map]
  rfl

theorem mem_attachedIds {db : ChatDb} {id : ObjectId} :
    id ∈ attachedIds db ↔ ∃ a ∈ db.attachments, a.status = .attached ∧ a.id = id := by
  simp [attachedIds, and_assoc]

/-- Two attachments with the same id are the same. -/
theorem eq_of_attachment_id {db : ChatDb} (hids : (db.attachments.map ChatAttachment.id).Nodup)
    {a b : ChatAttachment} (ha : a ∈ db.attachments) (hb : b ∈ db.attachments)
    (h : a.id = b.id) : a = b :=
  List.inj_on_of_nodup_map hids ha hb h

/-! ## What a call has in its hands -/

/-- The parsed ids are those of the arguments. -/
def Parsed (args : SendArgs) (ctx : SendContext) : Prop :=
  ObjectId.ofString? args.conversationId = some ctx.conversation ∧
    ObjectId.ofString? args.senderId = some ctx.sender

/-- An attachment that `sendMessage` has loaded is one of the sender in the conversation, and a
    message that is created has the attachment that is saved next. -/
def SendPc.Holds (db : ChatDb) (args : SendArgs) : SendPc → Prop
  | .findingConversation ctx | .findingParticipants ctx | .restoring ctx _ _ | .refetching ctx _
  | .findingAttachment ctx _ => Parsed args ctx
  | .encrypting ctx attachment | .creating ctx attachment _ _ =>
    ∀ a, attachment = some a → ⟨a.id, ctx.conversation, ctx.sender⟩ ∈ ownerships db
  | .savingAttachment _ message attachment _ =>
    ⟨message.id, message.conversationId, message.senderId, some attachment⟩ ∈ messageRefs db ∧
      ⟨attachment, message.conversationId, message.senderId⟩ ∈ ownerships db
  | _ => True

/-- A copy that `markAttachmentUploaded` saves was not loaded as attached. -/
def AttachmentCall.Holds (db : ChatDb) : AttachmentCall → Prop
  | .chat (.sendMessage args pc) => SendPc.Holds db args pc
  | .markAttachmentUploaded _ (.saving loaded _) => loaded.status ≠ .attached
  | _ => True

/-- Messages and attachments stay, so what a call has in its hands stays right. -/
theorem AttachmentCall.Holds.mono {db db' : ChatDb} {call : AttachmentCall}
    (hrefs : messageRefs db ⊆ messageRefs db') (howners : ownerships db ⊆ ownerships db')
    (h : AttachmentCall.Holds db call) : AttachmentCall.Holds db' call := by
  -- only a call that sends has something in its hands
  cases call with
  | chat call =>
    cases call with
    | sendMessage args pc =>
      -- the attachment was checked, and after the creation its message is there too
      cases pc with
      | encrypting ctx attachment => exact fun a ha => howners (h a ha)
      | creating ctx attachment encrypted sentAt => exact fun a ha => howners (h a ha)
      | savingAttachment ctx message attachment confirmedAt => exact ⟨hrefs h.1, howners h.2⟩
      | _ => exact h
    | _ => trivial
  | generatePresignedUploadUrl args pc => trivial
  | markAttachmentUploaded args pc => cases pc <;> exact h

theorem holds_sendEncrypt {db : ChatDb} {args : SendArgs} {ctx : SendContext}
    {attachment : Option ChatAttachment} {now : Date}
    (h : ∀ a, attachment = some a → ⟨a.id, ctx.conversation, ctx.sender⟩ ∈ ownerships db) :
    SendPc.Holds db args (sendEncrypt args ctx attachment now) := by
  unfold sendEncrypt
  split
  · trivial
  · split <;> exact h

theorem holds_sendAttachment {db : ChatDb} {args : SendArgs} {ctx : SendContext} {now : Date}
    (h : Parsed args ctx) : SendPc.Holds db args (sendAttachment args ctx now) := by
  unfold sendAttachment
  split
  · apply holds_sendEncrypt
    intro a ha
    cases ha
  · split
    · trivial
    · exact h

/-- The checks of `sendMessage` are about the owner of the attachment. -/
theorem checkAttachment_ok {args : SendArgs} {found : Option ChatAttachment}
    {attachment : ChatAttachment} (h : checkAttachment args found = .ok attachment) :
    found = some attachment ∧ attachment.conversationId.toString = args.conversationId ∧
      attachment.uploaderId.toString = args.senderId ∧ attachment.status = .uploaded := by
  -- the checks in the order of the source: found, conversation, uploader, status
  unfold checkAttachment at h
  split at h
  · cases h
  · split at h
    · cases h
    · rename_i hconversation
      split at h
      · cases h
      · rename_i huploader
        split at h
        · cases h
        · rename_i hstatus
          cases h
          exact ⟨rfl, not_not.mp hconversation, not_not.mp huploader, not_not.mp hstatus⟩

/-- The checks of `markAttachmentUploaded` let no attached attachment pass. -/
theorem checkUploaded_ok {args : UploadedArgs} {conversation : ObjectId}
    {found : Option ChatAttachment} {attachment : ChatAttachment}
    (h : checkUploaded args conversation found = .ok attachment) :
    found = some attachment ∧ attachment.status ≠ .attached := by
  -- the last check is the one that counts here
  unfold checkUploaded at h
  split at h
  · cases h
  · split at h
    · cases h
    · split at h
      · cases h
      · split at h
        · cases h
        · rename_i hstatus
          cases h
          exact ⟨rfl, hstatus⟩

/-- An attachment that is found belongs to its owner. -/
theorem ownership_of_checkAttachment {db : ChatDb} {args : SendArgs} {ctx : SendContext}
    {id : ObjectId} {attachment : ChatAttachment} (hparsed : Parsed args ctx)
    (h : checkAttachment args (db.findAttachment id) = .ok attachment) :
    ⟨attachment.id, ctx.conversation, ctx.sender⟩ ∈ ownerships db := by
  obtain ⟨hfound, hconversation, huploader, -⟩ := checkAttachment_ok h
  obtain ⟨hc, hs⟩ := hparsed
  rw [← hconversation, ObjectId.ofString?_toString] at hc
  rw [← huploader, ObjectId.ofString?_toString] at hs
  rw [← Option.some.inj hc, ← Option.some.inj hs]
  exact List.mem_map_of_mem (List.mem_of_find?_eq_some hfound)

/-! ## The condition -/

/-- A step sends nothing twice: no message is created with an attachment that a message has, and no
    copy of a draft is saved over an attachment that was attached. -/
def AttachmentCall.SendsOnce (db : ChatDb) : AttachmentCall → Prop
  | .chat (.sendMessage _ (.creating _ (some attachment) _ _)) =>
    ∀ message ∈ db.messages, references attachment.id message = false
  | .markAttachmentUploaded _ (.saving loaded _) =>
    loaded.status = .draft → loaded.id ∉ attachedIds db
  | _ => True

/-- The call that takes the step sends nothing twice. -/
def SendsOnce (system : AttachmentSystem) : AttachmentEvent → Prop
  | .call _ => True
  | .step index _ => ∀ call, system.calls[index]? = some call →
    AttachmentCall.SendsOnce system.db call

/-! ## What a step does -/

/-- What a step of a call does to the messages and the attachments. -/
inductive AttachmentEffect (db : ChatDb) : AttachmentCall → ChatDb → Prop where
  | quiet {call : AttachmentCall} {db' : ChatDb} (hrefs : messageRefs db' = messageRefs db)
      (hattachments : db'.attachments = db.attachments)
      (honce : AttachmentCall.SendsOnce db call) : AttachmentEffect db call db'
  | created (args : SendArgs) (ctx : SendContext) (attachment : Option ChatAttachment)
      (encrypted : EncryptedContent) (sentAt : Date) (id : ObjectId) :
      AttachmentEffect db (.chat (.sendMessage args (.creating ctx attachment encrypted sentAt)))
        (db.createMessage (newMessage args ctx attachment encrypted sentAt id))
  | attached (args : SendArgs) (ctx : SendContext) (message : Message) (attachment : ObjectId)
      (confirmedAt : Date) :
      AttachmentEffect db
        (.chat (.sendMessage args (.savingAttachment ctx message attachment confirmedAt)))
        (db.saveAttached attachment message.id confirmedAt)
  | drafted (args : UploadArgs) (conversation uploader id : ObjectId)
      (hfresh : id ∉ db.attachments.map ChatAttachment.id) :
      AttachmentEffect db (.generatePresignedUploadUrl args (.creating conversation uploader))
        (db.createAttachment (draftAttachment args conversation uploader id))
  | uploaded (args : UploadedArgs) (loaded : ChatAttachment) (uploadedAt : Date) :
      AttachmentEffect db (.markAttachmentUploaded args (.saving loaded uploadedAt))
        (db.saveUploaded loaded uploadedAt)

theorem messageRefs_markSeen (db : ChatDb) (c : ObjectId) (senders : List ObjectId) (upTo : Date) :
    messageRefs (db.markSeen c senders upTo) = messageRefs db :=
  map_updateMany fun _ => rfl

/-- A step of a call of the chat service. -/
theorem callStep_attachmentEffect {env : BackendEnv} {db db' : ChatDb} {call call' : ChatCall}
    {input : CallInput} (h : callStep env db call input = some (db', call')) :
    AttachmentEffect db (.chat call) db' := by
  -- every call but `sendMessage` leaves the messages and the attachments alone
  cases callStep_cases h with
  | createConversation hstep => cases createStep_cases hstep <;> exact .quiet rfl rfl trivial
  | addMember hstep => cases addMemberStep_cases hstep <;> exact .quiet rfl rfl trivial
  | removeMember hstep => cases endStep_cases hstep <;> exact .quiet rfl rfl trivial
  | markConversationLeft hstep => cases endStep_cases hstep <;> exact .quiet rfl rfl trivial
  | sendMessage hstep =>
    cases sendStep_cases hstep with
    | createdWith ctx attachment encrypted sentAt hfresh =>
      exact .created _ ctx (some attachment) encrypted sentAt _
    -- without an attachment nothing can be attached
    | created ctx encrypted sentAt hfresh => exact .created _ ctx none encrypted sentAt _
    | attached ctx message attachment confirmedAt =>
      exact .attached _ ctx message attachment confirmedAt
    | _ => exact .quiet rfl rfl trivial
  | markConversationRead hstep =>
    cases markReadStep_cases hstep with
    -- only who has seen a message changes, which is no part of what is kept
    | seen c message others =>
      exact .quiet (messageRefs_markSeen db c others message.sentAt) rfl trivial
    | _ => exact .quiet rfl rfl trivial

/-- A step of a call of one of the services. -/
theorem attachmentCallStep_effect {env : BackendEnv} {db db' : ChatDb} {call call' : AttachmentCall}
    {input : CallInput} (h : attachmentCallStep env db call input = some (db', call')) :
    AttachmentEffect db call db' := by
  cases attachmentCallStep_cases h with
  | chat hstep => exact callStep_attachmentEffect hstep
  | generatePresignedUploadUrl hstep =>
    cases uploadStep_cases hstep with
    -- a draft is stored; everything before it only checks
    | created conversation uploader hfresh => exact .drafted _ conversation uploader _ hfresh
    | _ => exact .quiet rfl rfl trivial
  | markAttachmentUploaded hstep =>
    cases uploadedStep_cases hstep with
    | saved copy uploadedAt => exact .uploaded _ copy uploadedAt
    | _ => exact .quiet rfl rfl trivial

/-- What a call has in its hands after a step, as far as the documents before it go. -/
theorem AttachmentCall.Holds.step {env : BackendEnv} {db db' : ChatDb}
    {call call' : AttachmentCall} {input : CallInput} (hholds : AttachmentCall.Holds db call)
    (h : attachmentCallStep env db call input = some (db', call')) :
    (∃ args ctx attachment encrypted sentAt, call = .chat (.sendMessage args
      (.creating ctx attachment encrypted sentAt))) ∨ AttachmentCall.Holds db call' := by
  cases attachmentCallStep_cases h with
  | chat hstep =>
    cases callStep_cases hstep with
    | sendMessage hsend =>
      cases sendStep_cases hsend with
      | createdWith ctx attachment encrypted sentAt hfresh =>
        exact .inl ⟨_, ctx, some attachment, encrypted, sentAt, rfl⟩
      | created ctx encrypted sentAt hfresh => exact .inl ⟨_, ctx, none, encrypted, sentAt, rfl⟩
      | sender participant hnonempty hsender =>
        -- from here on the context is what the arguments parse to
        have hok := getRequiredActiveParticipant_ok hsender
        exact .inr ⟨hok.1, hok.2.1⟩
      | notDirect ctx => exact .inr (holds_sendAttachment hholds)
      | nothingToRestore ctx => exact .inr (holds_sendAttachment hholds)
      | refetched ctx toRestore => exact .inr (holds_sendAttachment hholds)
      | attachment ctx attachment found hfound =>
        right
        apply holds_sendEncrypt
        intro a ha
        obtain rfl := Option.some.inj ha
        exact ownership_of_checkAttachment hholds hfound
      | direct ctx conversation hfound hdirect => exact .inr hholds
      | toRestore ctx => exact .inr hholds
      | restoredLast ctx toRestore left record hrecord => exact .inr hholds
      | restored ctx toRestore left record hrecord => exact .inr hholds
      | encrypted ctx attachment encrypted hencrypted => exact .inr hholds
      | _ => exact .inr trivial
    | _ => exact .inr trivial
  | generatePresignedUploadUrl hstep => exact .inr trivial
  | markAttachmentUploaded hstep =>
    right
    cases uploadedStep_cases hstep with
    -- an attached attachment does not pass the check
    | loaded conversation attachment copy hchecked => exact (checkUploaded_ok hchecked).2
    | _ => trivial

/-! ## Sound documents -/

/-- Attachments are told apart by their ids, no two messages have the same one, and an attached one
    knows its message, which is one of its conversation and of its uploader. -/
structure AttachmentsSound (db : ChatDb) : Prop where
  attachments_nodup : (db.attachments.map ChatAttachment.id).Nodup
  once : ∀ a, (messageRefs db).countP (·.attachmentId = some a) ≤ 1
  linked : ∀ a ∈ db.attachments, a.status = .attached → ∃ message, a.messageId = some message ∧
    ⟨message, a.conversationId, a.uploaderId, some a.id⟩ ∈ messageRefs db

/-- An attached attachment has no other status. -/
theorem AttachmentsSound.status_eq {db : ChatDb} (hdb : AttachmentsSound db) {a : ChatAttachment}
    (ha : a ∈ db.attachments) (hid : a.id ∈ attachedIds db) : a.status = .attached := by
  obtain ⟨b, hb, hstatus, heq⟩ := mem_attachedIds.mp hid
  rwa [← eq_of_attachment_id hdb.attachments_nodup hb ha heq]

/-- An update of an attachment by its id keeps what no update changes. -/
theorem ownerships_updateOne {db : ChatDb} (id : ObjectId)
    {change : ChatAttachment → ChatAttachment} (hkeep : ∀ a, ownership (change a) = ownership a) :
    (updateOne (·.id = id) change db.attachments).map ownership = ownerships db :=
  map_updateOne hkeep

theorem attachmentIds_eq (db : ChatDb) :
    db.attachments.map ChatAttachment.id = (ownerships db).map Ownership.id := by
  rw [ownerships, List.map_map]
  rfl

/-- Saving attachments keeps the attached ones attached when the save does. -/
theorem attachedIds_updateOne {db db' : ChatDb} (hdb : AttachmentsSound db) {id : ObjectId}
    {change : ChatAttachment → ChatAttachment}
    (hattachments : db'.attachments = updateOne (·.id = id) change db.attachments)
    (hid : ∀ a, (change a).id = a.id)
    (hkeep : ∀ a ∈ db.attachments, a.id = id → a.status = .attached →
      (change a).status = .attached) : attachedIds db ⊆ attachedIds db' := by
  intro b hb
  -- the attachment that is attached is the one that is saved, or another one
  obtain ⟨a, ha, hstatus, rfl⟩ := mem_attachedIds.mp hb
  have hmem : (if a.id = id then change a else a) ∈ updateOne (·.id = id) change db.attachments :=
    mem_updateOne_key hdb.attachments_nodup id ha
  rw [← hattachments] at hmem
  by_cases hsame : a.id = id
  · rw [if_pos hsame] at hmem
    exact mem_attachedIds.mpr ⟨change a, hmem, hkeep a ha hsame hstatus, hid a⟩
  · rw [if_neg hsame] at hmem
    exact mem_attachedIds.mpr ⟨a, hmem, hstatus, rfl⟩

/-- The documents stay sound, and nothing that was attached, sent or owned is lost. -/
structure KeepsSound (db db' : ChatDb) : Prop where
  sound : AttachmentsSound db'
  attached : attachedIds db ⊆ attachedIds db'
  refs : messageRefs db ⊆ messageRefs db'
  owners : ownerships db ⊆ ownerships db'

section KeepsSound

variable {db db' : ChatDb}

theorem AttachmentsSound.quiet (hdb : AttachmentsSound db) (hrefs : messageRefs db' = messageRefs db)
    (hattachments : db'.attachments = db.attachments) : KeepsSound db db' where
  sound :=
    { attachments_nodup := by
        rw [hattachments]
        exact hdb.attachments_nodup
      once := by
        rw [hrefs]
        exact hdb.once
      linked := by
        rw [hattachments, hrefs]
        exact hdb.linked }
  attached := by
    rw [attachedIds, attachedIds, hattachments]
    exact List.Subset.refl _
  refs := by
    rw [hrefs]
    exact List.Subset.refl _
  owners := by
    rw [ownerships, ownerships, hattachments]
    exact List.Subset.refl _

/-- A message is created with an attachment that no message has yet. -/
theorem AttachmentsSound.created (hdb : AttachmentsSound db) (args : SendArgs) (ctx : SendContext)
    (attachment : Option ChatAttachment) (encrypted : EncryptedContent) (sentAt : Date)
    (id : ObjectId)
    (hfresh : ∀ a, attachment = some a →
      ∀ message ∈ db.messages, references a.id message = false) :
    KeepsSound db (db.createMessage (newMessage args ctx attachment encrypted sentAt id)) := by
  have hrefs : messageRefs (db.createMessage (newMessage args ctx attachment encrypted sentAt id)) =
      messageRefs db ++ [⟨id, ctx.conversation, ctx.sender, attachment.map ChatAttachment.id⟩] := by
    rw [messageRefs, messageRefs, ChatDb.createMessage, List.map_append]
    cases attachment <;> rfl
  have hgrows : messageRefs db ⊆
      messageRefs (db.createMessage (newMessage args ctx attachment encrypted sentAt id)) := by
    rw [hrefs]
    exact List.subset_append_left _ _
  refine ⟨⟨hdb.attachments_nodup, ?_, ?_⟩, fun _ h => h, hgrows, fun _ h => h⟩
  · intro a
    have hold := hdb.once a
    rw [hrefs, List.countP_append]
    cases attachment with
    | none => simpa using hold
    | some attachment =>
      by_cases ha : attachment.id = a
      · subst ha
        -- no message has the attachment yet
        have hnone : (messageRefs db).countP (·.attachmentId = some attachment.id) = 0 := by
          rw [← countP_references, List.countP_eq_zero]
          intro message hmessage
          rw [hfresh attachment rfl message hmessage]
          exact Bool.false_ne_true
        rw [hnone]
        simp
      · simpa [ha] using hold
  · intro a ha hstatus
    obtain ⟨message, hmessage, hmem⟩ := hdb.linked a ha hstatus
    exact ⟨message, hmessage, hgrows hmem⟩

/-- An attachment is added that is a draft. -/
theorem AttachmentsSound.drafted (hdb : AttachmentsSound db) {attachment : ChatAttachment}
    (hfresh : attachment.id ∉ db.attachments.map ChatAttachment.id)
    (hdraft : attachment.status = .draft) : KeepsSound db (db.createAttachment attachment) := by
  refine ⟨⟨?_, hdb.once, ?_⟩, ?_, fun _ h => h, ?_⟩
  · -- the new attachment has an id of its own
    rw [ChatDb.createAttachment, List.map_append]
    refine List.nodup_append.mpr ⟨hdb.attachments_nodup, List.nodup_singleton _, ?_⟩
    intro a ha b hb heq
    obtain rfl := List.mem_singleton.mp hb
    exact hfresh (heq ▸ ha)
  · -- a draft is attached to nothing
    intro a ha hstatus
    rcases List.mem_append.mp ha with hold | hnew
    · exact hdb.linked a hold hstatus
    · obtain rfl := List.mem_singleton.mp hnew
      cases hdraft.symm.trans hstatus
  · -- the others are where they were
    intro a ha
    obtain ⟨b, hb, hb'⟩ := mem_attachedIds.mp ha
    exact mem_attachedIds.mpr ⟨b, List.mem_append_left _ hb, hb'⟩
  · rw [ownerships, ownerships, ChatDb.createAttachment, List.map_append]
    exact List.subset_append_left _ _

/-- An attachment is saved: an attached one stays so, and whatever is attached knows its message. -/
theorem AttachmentsSound.saved (hdb : AttachmentsSound db) {id : ObjectId}
    {change : ChatAttachment → ChatAttachment} (hmessages : db'.messages = db.messages)
    (hattachments : db'.attachments = updateOne (·.id = id) change db.attachments)
    (howner : ∀ a, ownership (change a) = ownership a)
    (hkeep : ∀ a ∈ db.attachments, a.id = id → a.status = .attached →
      (change a).status = .attached)
    (hlinked : ∀ a ∈ db.attachments, a.id = id → (change a).status = .attached →
      ∃ message, (change a).messageId = some message ∧
        ⟨message, a.conversationId, a.uploaderId, some a.id⟩ ∈ messageRefs db) :
    KeepsSound db db' := by
  have hrefs : messageRefs db' = messageRefs db := by rw [messageRefs, hmessages, messageRefs]
  have howners : ownerships db' = ownerships db := by
    rw [ownerships, hattachments, ownerships_updateOne id howner]
  refine ⟨⟨?_, ?_, ?_⟩, ?_, fun _ h => hrefs ▸ h, fun _ h => howners ▸ h⟩
  · rw [attachmentIds_eq, howners, ← attachmentIds_eq]
    exact hdb.attachments_nodup
  · rw [hrefs]
    exact hdb.once
  · intro a ha hstatus
    rw [hattachments] at ha
    rw [hrefs]
    -- an attachment that was not saved is as before
    rcases mem_of_mem_updateOne ha with hold | ⟨b, hb, hmatch, rfl⟩
    · exact hdb.linked a hold hstatus
    · obtain ⟨message, hmessage, hmem⟩ := hlinked b hb (of_decide_eq_true hmatch) hstatus
      obtain ⟨hid, hconversation, huploader⟩ := Ownership.mk.inj (howner b)
      exact ⟨message, hmessage, by rwa [hid, hconversation, huploader]⟩
  · exact attachedIds_updateOne hdb hattachments
      (fun a => congrArg Ownership.id (howner a)) hkeep

end KeepsSound

/-- The save of `markAttachmentUploaded` itself attaches nothing. -/
theorem attached_of_saveUploaded {loaded stored : ChatAttachmentStatus}
    (h : saveField loaded .uploaded stored = .attached) : stored = .attached := by
  by_contra hne
  refine saveField_of_stored (fun s : ChatAttachmentStatus => s ≠ .attached) ?_ hne h
  intro _ huploaded
  cases huploaded

/-- A step that sends nothing twice keeps the documents sound and the attached ones attached. -/
theorem AttachmentsSound.step {db db' : ChatDb} {call : AttachmentCall} (hdb : AttachmentsSound db)
    (hholds : AttachmentCall.Holds db call) (hok : AttachmentCall.SendsOnce db call)
    (heffect : AttachmentEffect db call db') : KeepsSound db db' := by
  cases heffect with
  | quiet hrefs hattachments honce => exact hdb.quiet hrefs hattachments
  | created args ctx attachment encrypted sentAt id =>
    refine hdb.created args ctx attachment encrypted sentAt id ?_
    rintro a rfl
    exact hok
  | attached args ctx message attachment confirmedAt =>
    obtain ⟨href, howner⟩ := hholds
    refine hdb.saved rfl rfl (fun _ => rfl) (fun _ _ _ _ => rfl) ?_
    intro b hb hid _
    -- the attachment that is saved is the one of the message
    obtain ⟨c, hc, heq⟩ := List.mem_map.mp howner
    have hcid : c.id = attachment := congrArg Ownership.id heq
    obtain rfl := eq_of_attachment_id hdb.attachments_nodup hb hc (hid.trans hcid.symm)
    have hconversation : b.conversationId = message.conversationId :=
      congrArg Ownership.conversationId heq
    have huploader : b.uploaderId = message.senderId := congrArg Ownership.uploaderId heq
    refine ⟨message.id, rfl, ?_⟩
    rw [hconversation, huploader, hid]
    exact href
  | drafted args conversation uploader id hfresh => exact hdb.drafted hfresh rfl
  | uploaded args loaded uploadedAt =>
    refine hdb.saved rfl rfl (fun _ => rfl) ?_ ?_
    · intro a ha hid hstatus
      show saveField loaded.status .uploaded a.status = .attached
      have hloaded : loaded.status ≠ .draft := by
        intro hdraft
        exact hok hdraft (mem_attachedIds.mpr ⟨a, ha, hstatus, hid⟩)
      cases hcopy : loaded.status with
      | draft => exact absurd hcopy hloaded
      | uploaded => exact hstatus
      | attached => exact absurd hcopy hholds
    · intro b hb _ hstatus
      exact hdb.linked b hb (attached_of_saveUploaded hstatus)

/-! ## Runs -/

/-- The system with a note of what was attached before each step. -/
def notingAttached (env : BackendEnv) :
    AttachmentSystem × List (List ObjectId) → AttachmentEvent →
      Option (AttachmentSystem × List (List ObjectId)) :=
  noting (attachmentStep env) fun system _ => some (attachedIds system.db)

/-- No calls and an empty database. -/
def emptyAttachments : AttachmentSystem × List (List ObjectId) := (⟨ChatDb.start [], []⟩, [])

/-- Every attachment is in one message at most; what was attached before is attached; and an attached
    attachment has the id of a message that references it, in its conversation and of its
    uploader. -/
structure AttachedOnce (state : AttachmentSystem × List (List ObjectId)) : Prop where
  once : ∀ a, state.1.db.messages.countP (references a) ≤ 1
  stays : ∀ ids ∈ state.2, ∀ a ∈ state.1.db.attachments, a.id ∈ ids → a.status = .attached
  linked : ∀ a ∈ state.1.db.attachments, a.status = .attached →
    ∃ message ∈ state.1.db.messages, references a.id message = true ∧
      a.messageId = some message.id ∧ message.conversationId = a.conversationId ∧
      message.senderId = a.uploaderId

/-- What holds in every state of a run whose steps send nothing twice. -/
structure AttachmentInv (state : AttachmentSystem × List (List ObjectId)) : Prop where
  db : AttachmentsSound state.1.db
  holds : ∀ call ∈ state.1.calls, AttachmentCall.Holds state.1.db call
  noted : ∀ ids ∈ state.2, ids ⊆ attachedIds state.1.db

theorem AttachmentInv.attachedOnce {state : AttachmentSystem × List (List ObjectId)}
    (hinv : AttachmentInv state) : AttachedOnce state where
  once := by
    -- what the claim counts in the messages the invariant counts in the references
    intro a
    rw [countP_references]
    exact hinv.db.once a
  -- an attachment that was seen attached is stored once, so this is the same one
  stays := by
    intro ids hids a ha hid
    exact hinv.db.status_eq ha (hinv.noted ids hids hid)
  -- the reference is one of a stored message
  linked := by
    intro a ha hstatus
    obtain ⟨id, hid, href⟩ := hinv.db.linked a ha hstatus
    obtain ⟨message, hmessage, heq⟩ := List.mem_map.mp href
    have hmid : message.id = id := congrArg MessageRef.id heq
    refine ⟨message, hmessage, ?_, hid.trans (congrArg some hmid.symm),
      congrArg MessageRef.conversationId heq, congrArg MessageRef.senderId heq⟩
    rw [references, heq]
    simp

/-- A step of the system is a new call or a step of one of its calls. -/
theorem attachmentStep_eq_some {env : BackendEnv} {system system' : AttachmentSystem}
    {event : AttachmentEvent} (h : attachmentStep env system event = some system') :
    (∃ call, event = .call call ∧ call.isStart = true ∧
        system' = ⟨system.db, system.calls ++ [call]⟩) ∨
      ∃ index input call db' call', event = .step index input ∧
        system.calls[index]? = some call ∧
        attachmentCallStep env system.db call input = some (db', call') ∧
        system' = ⟨db', system.calls.set index call'⟩ := by
  -- a call starts only at its start
  cases event with
  | call call =>
    by_cases hstart : call.isStart = true
    · rw [attachmentStep, if_pos hstart] at h
      exact .inl ⟨call, rfl, hstart, (Option.some.inj h).symm⟩
    · rw [attachmentStep, if_neg hstart] at h
      cases h
  | step index input =>
    rw [attachmentStep] at h
    split at h
    · cases h
    · rename_i call hcall
      -- the call that moves is one of those there are
      obtain ⟨⟨db', call'⟩, hstep, rfl⟩ := Option.map_eq_some_iff.mp h
      exact .inr ⟨index, input, call, db', call', rfl, hcall, hstep, rfl⟩

/-- A call that has not started has nothing in its hands. -/
theorem AttachmentCall.Holds.of_isStart {db : ChatDb} {call : AttachmentCall}
    (h : call.isStart = true) : AttachmentCall.Holds db call := by
  cases call with
  | chat call =>
    cases call with
    | sendMessage args pc =>
      obtain rfl : pc = .start := of_decide_eq_true h
      trivial
    | _ => trivial
  | generatePresignedUploadUrl args pc => trivial
  | markAttachmentUploaded args pc =>
    obtain rfl : pc = .start := of_decide_eq_true h
    trivial

/-- A message that `sendMessage` has created is there, with the attachment that it saves next. -/
theorem holds_created {env : BackendEnv} {db db' : ChatDb} {args : SendArgs} {ctx : SendContext}
    {attachment : Option ChatAttachment} {encrypted : EncryptedContent} {sentAt : Date}
    {input : CallInput} {call' : AttachmentCall}
    (hholds : ∀ a, attachment = some a → ⟨a.id, ctx.conversation, ctx.sender⟩ ∈ ownerships db)
    (h : attachmentCallStep env db
      (.chat (.sendMessage args (.creating ctx attachment encrypted sentAt))) input =
        some (db', call')) : AttachmentCall.Holds db' call' := by
  -- only the step that creates the message can have been taken here
  cases attachmentCallStep_cases h with
  | chat hstep =>
    cases callStep_cases hstep with
    | sendMessage hsend =>
      cases sendStep_cases hsend with
      | createdWith _ attachment _ _ hfresh =>
        refine ⟨?_, hholds attachment rfl⟩
        rw [messageRefs, ChatDb.createMessage, List.map_append]
        exact List.mem_append_right _ List.mem_cons_self
      | created _ _ _ hfresh => trivial

/-- A step that sends nothing twice keeps the invariant. -/
theorem AttachmentInv.step {env : BackendEnv} {state state' : AttachmentSystem × List (List ObjectId)}
    {event : AttachmentEvent} (hinv : AttachmentInv state) (hok : SendsOnce state.1 event)
    (h : notingAttached env state event = some state') : AttachmentInv state' := by
  obtain ⟨hstep, hnotes⟩ := noting_eq_some.mp h
  -- what was noted before this step was attached before it
  have hnoted : ∀ ids ∈ state'.2, ids ⊆ attachedIds state.1.db := by
    intro ids hids
    rw [hnotes] at hids
    rcases List.mem_append.mp hids with hold | hnew
    · exact hinv.noted ids hold
    · obtain rfl := List.mem_singleton.mp hnew
      exact fun _ h => h
  rcases attachmentStep_eq_some hstep with ⟨call, -, hstart, hnext⟩ |
    ⟨index, input, call, db', call', rfl, hcall, hmove, hnext⟩
  · rw [← Prod.eta state', hnext]
    refine ⟨hinv.db, ?_, hnoted⟩
    intro other hother
    rcases List.mem_append.mp hother with hold | hnew
    · exact hinv.holds other hold
    · obtain rfl := List.mem_singleton.mp hnew
      exact AttachmentCall.Holds.of_isStart hstart
  · rw [← Prod.eta state', hnext]
    have hholds := hinv.holds call (List.mem_of_getElem? hcall)
    obtain ⟨hdb, hattached, hrefs, howners⟩ :=
      hinv.db.step hholds (hok call hcall) (attachmentCallStep_effect hmove)
    refine ⟨hdb, ?_, fun ids hids => List.Subset.trans (hnoted ids hids) hattached⟩
    intro other hother
    rcases List.mem_or_eq_of_mem_set hother with hold | rfl
    · exact (hinv.holds other hold).mono hrefs howners
    · -- the call that has moved, with its message if it has just created one
      rcases hholds.step hmove with ⟨args, ctx, attachment, encrypted, sentAt, rfl⟩ | hnext'
      · exact holds_created hholds hmove
      · exact hnext'.mono hrefs howners

end ChatSC.Spec
