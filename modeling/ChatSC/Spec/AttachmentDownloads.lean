import ChatSC.Backend.AttachmentDownloads
import ChatSC.Spec.AttachmentKeys
import ChatSC.Spec.StoreIntegrity

/-!
# Who gets a file

A download URL is signed only for a member of the conversation in which a message carries the file,
and what it is signed for is what that message shows: the name, the type and the size of its copy,
and the key that belongs to its attachment alone (`served_of_run`).  Where the calls of the whole
module interleave in any order, an attachment that is attached has its message
(`AttachedHasMessage`), and the document that a call has loaded keeps what the answer is made of.
-/

namespace ChatSC.Spec

open Backend Collection JsString Records Transition

/-! ## Attached to a message -/

/-- An attachment that is attached has a message. -/
def AttachedHasMessage (db : ChatDb) : Prop :=
  ∀ a ∈ db.attachments, a.status = .attached → a.messageId.isSome

section Attached

variable {db db' : ChatDb}

/-- An update of an attachment that attaches it to nothing without a message. -/
theorem AttachedHasMessage.update (h : AttachedHasMessage db) {id : ObjectId}
    {change : ChatAttachment → ChatAttachment}
    (hdb : db'.attachments = updateOne (·.id = id) change db.attachments)
    (hchange : ∀ a, (a.status = .attached → a.messageId.isSome) → (change a).status = .attached →
      (change a).messageId.isSome) :
    AttachedHasMessage db' := by
  intro a ha hstatus
  rw [hdb] at ha
  rcases mem_of_mem_updateOne ha with ha | ⟨b, hb, -, rfl⟩
  · exact h a ha hstatus
  · exact hchange b (h b hb) hstatus

/-- A call of one of the services. -/
theorem AttachedHasMessage.effect (h : AttachedHasMessage db) {call : AttachmentCall}
    (heffect : AttachmentEffect db call db') : AttachedHasMessage db' := by
  cases heffect with
  | quiet hrefs hattachments honce =>
    intro a ha
    rw [hattachments] at ha
    exact h a ha
  | created args ctx attachment encrypted sentAt id => exact h
  | attached args ctx message attachment confirmedAt => exact h.update rfl fun _ _ _ => rfl
  | drafted args conversation uploader id hfresh =>
    intro a ha hstatus
    rcases List.mem_append.mp ha with ha | ha
    · exact h a ha hstatus
    · rw [List.mem_singleton.mp ha] at hstatus
      cases hstatus
  | uploaded args loaded uploadedAt =>
    -- a save of a stale copy takes the status back, never the message
    refine h.update rfl fun a ha hstatus => ha ?_
    simp only [saveField] at hstatus
    split at hstatus
    · cases hstatus
    · exact hstatus

theorem AttachedHasMessage.callStep (h : AttachedHasMessage db) {env : BackendEnv}
    {call call' : ChatCall} {input : CallInput}
    (hstep : Backend.callStep env db call input = some (db', call')) : AttachedHasMessage db' :=
  h.effect (callStep_attachmentEffect hstep)

/-- A task of the gateway. -/
theorem AttachedHasMessage.taskMove (h : AttachedHasMessage db) {env : BackendEnv}
    {config : AiConfig} {sockets : List ChatSocket} {input : GatewayInput} {task : GatewayTask}
    {next : TaskStep} (hmove : TaskMove env config db sockets input task next) :
    AttachedHasMessage next.db := by
  cases hmove with
  | request call call' db' hcall => exact h.callStep hcall
  -- the gateway's tasks take the steps of calls as well
  | sending args fromSocket pc pc' db' hsend =>
    have hcall : Backend.callStep env db (.sendMessage args pc) input.call =
        some (db', .sendMessage args pc') := Option.map_eq_some_iff.mpr ⟨_, hsend, rfl⟩
    exact h.callStep hcall
  | marking args pc pc' db' hread =>
    have hcall : Backend.callStep env db (.markConversationRead args pc) input.call =
        some (db', .markConversationRead args pc') := Option.map_eq_some_iff.mpr ⟨_, hread, rfl⟩
    exact h.callStep hcall
  -- the bot attaches nothing
  | answering s userId args pc pc' db' hsend => cases aiBotStep_cases hsend <;> exact h
  | _ => exact h

end Attached

/-! ## The rest of the module -/

section Backend

variable {env : BackendEnv} {config : AiConfig} {system system' : ChatBackend}

/-- The store only grows. -/
theorem BackendSound.grows (h : BackendSound system) {event : ChatBackendEvent}
    (hstep : chatBackendStep env config system event = some system') :
    Grows system.gateway.db system'.gateway.db := by
  cases chatBackendStep_cases hstep with
  -- the gateway moves, or a call over HTTP
  | gateway event gateway hgateway =>
    cases gatewayStep_cases hgateway with
    | outside _ sockets new hevent hnew => exact .refl _
    | task index input task next htask hmove =>
      obtain ⟨task', next', htask', hnext, heq⟩ := gatewayStep_step hgateway
      -- a task stores what its call stores
      cases htask.symm.trans htask'
      rw [heq]
      exact (h.store.taskStep (h.tasks task (List.mem_of_getElem? htask)) hnext).1.grows
  | call call hstart => exact .refl _
  | step index input call call' db hget hmove =>
    exact (h.store.attachmentCallStep (h.calls call (List.mem_of_getElem? hget)) hmove).kept.grows

theorem AttachedHasMessage.step (h : AttachedHasMessage system.gateway.db)
    {event : ChatBackendEvent}
    (hstep : chatBackendStep env config system event = some system') :
    AttachedHasMessage system'.gateway.db := by
  cases chatBackendStep_cases hstep with
  | gateway event gateway hgateway =>
    cases gatewayStep_cases hgateway with
    | outside _ sockets new hevent hnew => exact h
    | task index input task next htask hmove => exact h.taskMove hmove
  | call call hstart => exact h
  | step index input call call' db hget hmove => exact h.effect (attachmentCallStep_effect hmove)

end Backend

/-! ## The calls that read -/

/-- What is known of a document that was loaded. -/
structure LoadedAttachment (db : ChatDb) (attachmentId : JsString) (a : ChatAttachment) : Prop where
  id : ObjectId.ofString? attachmentId = some a.id
  stored : ∃ b ∈ db.attachments, attachmentKey b = attachmentKey a
  /-- a message has its copy when it is attached -/
  message : a.status = .attached → ∃ m ∈ db.messages, m.conversationId = a.conversationId ∧
    m.attachment = some (attachmentCopy a)

theorem LoadedAttachment.mono {db db' : ChatDb} {attachmentId : JsString} {a : ChatAttachment}
    (hgrows : Grows db db') (h : LoadedAttachment db attachmentId a) :
    LoadedAttachment db' attachmentId a where
  id := h.id
  stored := exists_of_map_subset (P := fun k => k = attachmentKey a) hgrows.attachments h.stored
  message := fun hstatus => exists_of_map_subset
    (P := fun k : MessageKey => k.conversationId = a.conversationId ∧
      k.attachment = some (attachmentCopy a)) hgrows.messages (h.message hstatus)

/-- A document of a sound store. -/
theorem loadedAttachment_of_find {db : ChatDb} (hstore : StoreSound db)
    (hattached : AttachedHasMessage db) {attachmentId : JsString} {id : ObjectId}
    {a : ChatAttachment} (hid : ObjectId.ofString? attachmentId = some id)
    (hfound : db.findAttachment id = some a) : LoadedAttachment db attachmentId a := by
  have hmem : a ∈ db.attachments := List.mem_of_find?_eq_some hfound
  have heq : a.id = id := by simpa using List.find?_some hfound
  refine ⟨hid.trans (congrArg some heq.symm), ⟨a, hmem, rfl⟩, fun hstatus => ?_⟩
  obtain ⟨message, hmessage⟩ := Option.isSome_iff_exists.mp (hattached a hmem hstatus)
  obtain ⟨m, hm, -, hconversation, -, hcopy⟩ :=
    (hstore.attachments a hmem).message message hmessage
  exact ⟨m, hm, hconversation, hcopy⟩

section Reads

variable {env : BackendEnv} {config : AiConfig} {download : DownloadEnv}

variable (env config download) in
/-- The step at `now` of the call at `index` was taken when the user was a member. -/
def MemberAtStep (events : List AttachmentReadEvent) (index : Nat) (now : Date) (c : ObjectId)
    (userId : JsString) : Prop :=
  ∃ past before u, past ++ [.step index now] <+: events ∧
    run (readingBackendStep env config download) .start past = some before ∧
    ObjectId.ofString? userId = some u ∧ ActiveMember before.backend.gateway.db c u

theorem MemberAtStep.mono {events events' : List AttachmentReadEvent} {index : Nat} {now : Date}
    {c : ObjectId} {userId : JsString} (hearlier : events <+: events')
    (h : MemberAtStep env config download events index now c userId) :
    MemberAtStep env config download events' index now c userId := by
  obtain ⟨past, before, u, hpast, hrest⟩ := h
  exact ⟨past, before, u, hpast.trans hearlier, hrest⟩

variable (env config download) in
/-- What a call that reads has, and what it has answered. -/
def ReadAttachmentPc.Served {ρ : Type} (isServed : ChatAttachment → Bool)
    (respond : ChatAttachment → Date → Except AttachmentError ρ)
    (events : List AttachmentReadEvent) (db : ChatDb) (index : Nat)
    (attachmentId userId : JsString) : ReadAttachmentPc ρ → Prop
  | .checkingMember a => LoadedAttachment db attachmentId a ∧ isServed a = true
  | .returned result => ∃ a now, LoadedAttachment db attachmentId a ∧ isServed a = true ∧
    respond a now = .ok result ∧
      MemberAtStep env config download events index now a.conversationId userId
  | _ => True

variable {ρ : Type} {isServed : ChatAttachment → Bool}
  {respond : ChatAttachment → Date → Except AttachmentError ρ} {events : List AttachmentReadEvent}
  {db : ChatDb} {index : Nat} {attachmentId userId : JsString} {pc pc' : ReadAttachmentPc ρ}

theorem ReadAttachmentPc.Served.mono {db' : ChatDb} {events' : List AttachmentReadEvent}
    (hgrows : Grows db db') (hearlier : events <+: events')
    (h : ReadAttachmentPc.Served env config download isServed respond events db index attachmentId
      userId pc) :
    ReadAttachmentPc.Served env config download isServed respond events' db' index attachmentId
      userId pc := by
  cases pc with
  | checkingMember a => exact ⟨h.1.mono hgrows, h.2⟩
  | returned result =>
    obtain ⟨a, now, hloaded, hserved, hresult, hmember⟩ := h
    exact ⟨a, now, hloaded.mono hgrows, hserved, hresult, hmember.mono hearlier⟩
  | _ => trivial

/-- The call takes its step. -/
theorem ReadAttachmentPc.Served.step {system : ReadingBackend} {now : Date}
    (hrun : run (readingBackendStep env config download) .start events = some system)
    (hstore : StoreSound system.backend.gateway.db)
    (hattached : AttachedHasMessage system.backend.gateway.db)
    (h : ReadAttachmentPc.Served env config download isServed respond events
      system.backend.gateway.db index attachmentId userId pc)
    (hstep : readAttachmentStep isServed respond system.backend.gateway.db attachmentId userId now
      pc = some pc') :
    ReadAttachmentPc.Served env config download isServed respond (events ++ [.step index now])
      system.backend.gateway.db index attachmentId userId pc' := by
  cases pc with
  | start =>
    simp only [readAttachmentStep] at hstep
    split at hstep
    · cases hstep
      trivial
    · rename_i id hid
      split at hstep
      · cases hstep
        trivial
      · rename_i a hfound
        split at hstep
        · rename_i hserved
          cases hstep
          exact ⟨loadedAttachment_of_find hstore hattached (requireObjectId_ok hid) hfound, hserved⟩
        · cases hstep
          trivial
  | checkingMember a =>
    simp only [readAttachmentStep] at hstep
    split at hstep
    · cases hstep
      trivial
    · rename_i p hguard
      split at hstep
      · cases hstep
        trivial
      · rename_i result hresult
        cases hstep
        -- the check of the member and the answer are one step, so the member is one now
        obtain ⟨-, hu, -⟩ := getRequiredActiveParticipant_ok hguard
        exact ⟨a, now, h.1, h.2, hresult, events, system, p.userId, List.prefix_rfl, hrun, hu,
          activeMember_of_getRequired hguard (ObjectId.ofString?_toString _) hu⟩
  | returned result => cases hstep
  | threw error => cases hstep

variable (env config download) in
/-- What the two calls have. -/
def AttachmentRead.Served (events : List AttachmentReadEvent) (db : ChatDb) (index : Nat) :
    AttachmentRead → Prop
  | .getAttachmentStatus attachmentId userId pc =>
    ReadAttachmentPc.Served env config download (fun _ => true)
      (fun a _ => .ok (attachmentStatusPayload a)) events db index attachmentId userId pc
  | .generatePresignedDownloadUrl attachmentId userId pc =>
    ReadAttachmentPc.Served env config download (·.status = .attached)
      (presignDownload download) events db index attachmentId userId pc

variable (env config download) in
/-- The calls of a reachable state. -/
structure ReadsServed (events : List AttachmentReadEvent) (system : ReadingBackend) : Prop where
  sound : BackendSound system.backend
  attached : AttachedHasMessage system.backend.gateway.db
  reads : ∀ index read, system.reads[index]? = some read →
    AttachmentRead.Served env config download events system.backend.gateway.db index read

theorem AttachmentRead.Served.mono {db' : ChatDb} {events' : List AttachmentReadEvent}
    {read : AttachmentRead} (hgrows : Grows db db') (hearlier : events <+: events')
    (h : AttachmentRead.Served env config download events db index read) :
    AttachmentRead.Served env config download events' db' index read := by
  cases read with
  | getAttachmentStatus attachmentId userId pc =>
    exact ReadAttachmentPc.Served.mono hgrows hearlier h
  | generatePresignedDownloadUrl attachmentId userId pc =>
    exact ReadAttachmentPc.Served.mono hgrows hearlier h

theorem attachmentRead_served_of_isStart {read : AttachmentRead} (h : read.isStart = true) :
    AttachmentRead.Served env config download events db index read := by
  cases read with
  | getAttachmentStatus attachmentId userId pc => exact of_decide_eq_true h ▸ trivial
  | generatePresignedDownloadUrl attachmentId userId pc => exact of_decide_eq_true h ▸ trivial

variable {system system' : ReadingBackend} {event : AttachmentReadEvent}

theorem readsServed_start : ReadsServed env config download [] .start where
  sound := backendSound_start
  attached := fun _ h => absurd h List.not_mem_nil
  reads := fun index read h => by cases h

/-- Every step. -/
theorem ReadsServed.step
    (hrun : run (readingBackendStep env config download) .start events = some system)
    (h : ReadsServed env config download events system)
    (hstep : readingBackendStep env config download system event = some system') :
    ReadsServed env config download (events ++ [event]) system' := by
  have hearlier : events <+: events ++ [event] := List.prefix_append _ _
  cases event with
  | backend event =>
    obtain ⟨backend, hbackend, rfl⟩ := Option.map_eq_some_iff.mp hstep
    exact ⟨h.sound.step hbackend, h.attached.step hbackend,
      fun index read hget => (h.reads index read hget).mono (h.sound.grows hbackend) hearlier⟩
  | read read =>
    simp only [readingBackendStep] at hstep
    split at hstep
    · rename_i hstart
      cases hstep
      refine ⟨h.sound, h.attached, fun index other hget => ?_⟩
      rcases getElem?_concat_eq_some.mp hget with ⟨-, rfl⟩ | hold
      · exact attachmentRead_served_of_isStart hstart
      · exact (h.reads index other hold).mono (.refl _) hearlier
    · cases hstep
  | step index now =>
    simp only [readingBackendStep] at hstep
    split at hstep
    · cases hstep
    · rename_i read hread
      obtain ⟨read', hmove, rfl⟩ := Option.map_eq_some_iff.mp hstep
      refine ⟨h.sound, h.attached, fun other read'' hget => ?_⟩
      -- the other calls have only a longer past
      by_cases hsame : other = index
      · subst hsame
        obtain rfl : read' = read'' := by
          rw [List.getElem?_set_self (List.getElem?_eq_some_iff.mp hread).1] at hget
          exact Option.some.inj hget
        have hserved := h.reads other read hread
        cases read with
        | getAttachmentStatus attachmentId userId pc =>
          obtain ⟨pc', hpc, rfl⟩ := Option.map_eq_some_iff.mp hmove
          have hnext := ReadAttachmentPc.Served.step hrun h.sound.store h.attached hserved hpc
          exact hnext
        | generatePresignedDownloadUrl attachmentId userId pc =>
          obtain ⟨pc', hpc, rfl⟩ := Option.map_eq_some_iff.mp hmove
          have hnext := ReadAttachmentPc.Served.step hrun h.sound.store h.attached hserved hpc
          exact hnext
      · rw [List.getElem?_set_ne (Ne.symm hsame)] at hget
        exact (h.reads other read'' hget).mono (.refl _) hearlier

theorem readsServed_of_run
    (hrun : run (readingBackendStep env config download) .start events = some system) :
    ReadsServed env config download events system :=
  run_invariant_history (fun _ _ _ _ hrun h hstep => h.step hrun hstep) readsServed_start hrun

/-! ## What a member gets -/

/-- The URL is signed for the file that the message shows. -/
structure SignedFor (download : DownloadEnv) (m : Message) (copy : MessageAttachment) (now : Date)
    (response : PresignedDownload) : Prop where
  attachment : m.attachment = some copy
  fileName : response.fileName = copy.fileName
  mimeType : response.mimeType = copy.mimeType
  sizeBytes : response.sizeBytes = copy.sizeBytes
  expiresAt : response.expiresAt = now + 15 * 60 * 1000
  url : ∃ client, getS3Client download.r2 = .ok client ∧
    response.presignedUrl = download.getSignedUrl client
      { bucket := download.r2.bucketName
        key := buildR2Key download.normalize m.conversationId.toString copy.attachmentId.toString
          copy.fileName
        responseContentType := copy.mimeType
        responseContentDisposition := buildContentDisposition copy.fileName } (15 * 60) now

theorem signedFor_of_presignDownload {a : ChatAttachment} {now : Date}
    {response : PresignedDownload} {m : Message} (h : presignDownload download a now = .ok response)
    (hconversation : m.conversationId = a.conversationId)
    (hcopy : m.attachment = some (attachmentCopy a)) :
    SignedFor download m (attachmentCopy a) now response := by
  unfold presignDownload at h
  cases hbucket : getBucketName download.r2 with
  | error error =>
    rw [hbucket] at h
    cases h
  | ok bucket =>
    cases hclient : getS3Client download.r2 with
    | error error =>
      rw [hbucket, hclient] at h
      cases h
    | ok client =>
      rw [hbucket, hclient] at h
      cases h
      -- the bucket is the one of the configuration
      have hname : bucket = download.r2.bucketName := by
        unfold getBucketName at hbucket
        split at hbucket
        · cases hbucket
        · cases hbucket
          rfl
      subst hname
      refine ⟨hcopy, rfl, rfl, rfl, rfl, client, hclient, ?_⟩
      rw [hconversation]
      rfl

/-- The status of an attachment is told to members of its conversation only. -/
theorem attachmentStatus_of_run
    (hrun : run (readingBackendStep env config download) .start events = some system)
    {status : AttachmentStatusPayload}
    (hread : system.reads[index]? =
      some (.getAttachmentStatus attachmentId userId (.returned status))) :
    ∃ a ∈ system.backend.gateway.db.attachments, ObjectId.ofString? attachmentId = some a.id ∧
      status.attachmentId = a.id.toString ∧
        ∃ now, MemberAtStep env config download events index now a.conversationId userId := by
  -- what was answered was read at some step, when the user was a member
  obtain ⟨a, now, hloaded, -, hstatus, hmember⟩ := (readsServed_of_run hrun).reads _ _ hread
  cases hstatus
  obtain ⟨b, hb, hkey⟩ := hloaded.stored
  have hid : b.id = a.id := congrArg (fun k => k.copy.attachmentId) hkey
  have hconversation : b.conversationId = a.conversationId :=
    congrArg AttachmentKey.conversationId hkey
  -- the status may have changed since; the conversation has not
  exact ⟨b, hb, hid ▸ hloaded.id, hid ▸ rfl, now, hconversation ▸ hmember⟩

/-- **A download URL is for members only, and for what the message shows**: in every run of the
    module and of any number of calls that read attachments, in any order of their steps, a URL that
    was given out is for the file of a message, with the name, type and size of the message's copy
    and a key that no other attachment has, and it was signed at a step at which the user was a
    member of the conversation of this message. -/
theorem download_of_run
    (hrun : run (readingBackendStep env config download) .start events = some system)
    {response : PresignedDownload}
    (hread : system.reads[index]? =
      some (.generatePresignedDownloadUrl attachmentId userId (.returned response))) :
    ∃ m ∈ system.backend.gateway.db.messages, ∃ copy now,
      ObjectId.ofString? attachmentId = some copy.attachmentId ∧
      SignedFor download m copy now response ∧
      MemberAtStep env config download events index now m.conversationId userId ∧
      ∀ b ∈ system.backend.gateway.db.attachments,
        r2Key download.normalize b = buildR2Key download.normalize m.conversationId.toString
          copy.attachmentId.toString copy.fileName → b.id = copy.attachmentId := by
  obtain ⟨a, now, hloaded, hserved, hresponse, hmember⟩ :=
    (readsServed_of_run hrun).reads _ _ hread
  -- the copy in the message has the key of the file
  obtain ⟨m, hm, hconversation, hcopy⟩ := hloaded.message (of_decide_eq_true hserved)
  exact ⟨m, hm, attachmentCopy a, now, hloaded.id,
    signedFor_of_presignDownload hresponse hconversation hcopy, hconversation ▸ hmember,
    fun b _ hkey => attachment_of_buildR2Key hkey⟩

end Reads

/-! ## A run -/

/-- R2 with URLs of the path style. -/
def plainDownload : DownloadEnv where
  r2 := ⟨js "acc", js "key", js "secret", js "files"⟩
  normalize := id
  getSignedUrl := fun client command _ _ =>
    client.endpoint ++ js "/" ++ command.bucket ++ js "/" ++ command.key

/-- User 2 asks for the file that user 1 has sent. -/
def downloadEvents : List AttachmentReadEvent :=
  storeEvents.map .backend ++
    [.read (.generatePresignedDownloadUrl (digitId 8).toString (digitId 2).toString .start),
      .step 0 20, .step 0 21]

/-- What user 2 gets. -/
def sentDownload : PresignedDownload where
  presignedUrl := js "https://acc.r2.cloudflarestorage.com/files/attachments/" ++
    (digitId 3).toString ++ js "/" ++ (digitId 8).toString ++ js "/a.txt"
  expiresAt := 900021
  fileName := js "a.txt"
  mimeType := js "text/plain"
  sizeBytes := 5

theorem download_of_run_sent : ∃ system,
    run (readingBackendStep plainEnv ⟨false, false⟩ plainDownload) .start downloadEvents =
        some system ∧
      ∃ m ∈ system.backend.gateway.db.messages, ∃ copy,
        SignedFor plainDownload m copy 21 sentDownload := by
  -- the run is evaluated; the theorem names the message
  have hanswer : (run (readingBackendStep plainEnv ⟨false, false⟩ plainDownload) .start
      downloadEvents).map (fun system => system.reads[0]?) =
        some (some (.generatePresignedDownloadUrl (digitId 8).toString (digitId 2).toString
          (.returned sentDownload))) := by decide +kernel
  obtain ⟨system, hrun, hread⟩ := Option.map_eq_some_iff.mp hanswer
  obtain ⟨m, hm, copy, now, -, hsigned, -⟩ := download_of_run hrun hread
  -- the URL says when it was signed
  have hexpires : (21 : Nat) + 15 * 60 * 1000 = now + 15 * 60 * 1000 := hsigned.expiresAt
  obtain rfl := Nat.add_right_cancel hexpires
  exact ⟨system, hrun, m, hm, copy, hsigned⟩

end ChatSC.Spec
