import ChatSC.Backend.ChatBackend
import ChatSC.Spec.OverlappingSends
import ChatSC.Spec.FormerMembers
import ChatSC.Spec.GatewayRuns
import ChatSC.Spec.RefusedCalls
import ChatSC.Spec.StoredDocuments

/-!
# No reference dangles

The references between the stored documents through every run of the backend: sockets, requests over
HTTP, the chat bot and the attachment service, with their database operations in any order
(`storeSound_of_run`).  A method reads a document at one step and writes its id at a later one, so
what its local variables refer to is followed from step to step (`Refers`); as the store only grows,
the steps of other calls in between do no harm.
-/

namespace ChatSC.Spec

open Backend Collection JsString Records Transition

/-! ## What the local variables refer to -/

section Refers

variable (db : ChatDb)

/-- The strings name a user and a conversation that he is, or was, in. -/
def NamesRecord (conversationId userId : JsString) : Prop :=
  ∃ c u, ObjectId.ofString? conversationId = some c ∧ ObjectId.ofString? userId = some u ∧
    HasRecord db c u

/-- Between the steps of `createConversation`. -/
def CreatePc.Refers : CreatePc → Prop
  | .addingParticipants conversation creator users _ =>
    CreatedBy db conversation.id creator ∧ creator ∈ users.map NewParticipant.userId ∧
      ∀ user ∈ users, user.isCreator = true → user.userId = creator
  | .addingEvents conversation creator users _ =>
    CreatedBy db conversation.id creator ∧ HasRecord db conversation.id creator ∧
      ∀ user ∈ users, HasRecord db conversation.id user.userId
  | _ => True

/-- Between the steps of `addMember`. -/
def AddMemberPc.Refers : AddMemberPc → Prop
  | .start c actor | .creating c _ actor _ => HasRecord db c actor
  | .logging c u actor _ => HasRecord db c actor ∧ HasRecord db c u
  | _ => True

/-- Between the steps of `removeMember`, or of one of the two ways to leave. -/
def EndPc.Refers (ending : Ending) (userId : JsString) : EndPc → Prop
  | .start c actor _ => HasRecord db c actor ∧ (ending = .removed → CreatedBy db c actor) ∧
    (ending = .left → ObjectId.ofString? userId = some actor)
  | .logging c u actor _ => HasRecord db c actor ∧ (ending = .removed → CreatedBy db c actor) ∧
    (ending = .left → HasRecord db c u)
  | _ => True

/-- The parsed ids, and the participant of the sender. -/
structure ContextRefers (args : SendArgs) (ctx : SendContext) : Prop where
  parsed : Parsed args ctx
  record : HasRecord db ctx.conversation ctx.sender
  active : IsRecord db ctx.activeSender ctx.conversation

/-- The attachment is the sender's own. -/
def OwnAttachment (ctx : SendContext) (attachment : Option ChatAttachment) : Prop :=
  ∀ a, attachment = some a → HasAttachment db ctx.conversation ctx.sender (attachmentCopy a)

/-- Between the steps of `sendMessage`. -/
def SendPc.Refers (args : SendArgs) : SendPc → Prop
  | .start | .threw _ => True
  | .returned _ _ => NamesRecord db args.conversationId args.senderId
  | .findingConversation ctx | .findingParticipants ctx | .restoring ctx _ _ | .refetching ctx _
  | .findingAttachment ctx _ | .incrementing ctx _ => ContextRefers db args ctx
  | .encrypting ctx attachment | .creating ctx attachment _ _ =>
    ContextRefers db args ctx ∧ OwnAttachment db ctx attachment
  | .savingAttachment ctx message attachment _ =>
    (ContextRefers db args ctx ∧ WasStored db message ∧ message.conversationId = ctx.conversation) ∧
      ∃ copy, message.attachment = some copy ∧ copy.attachmentId = attachment ∧
        HasAttachment db message.conversationId message.senderId copy
  | .updatingConversation ctx message | .updatingSender ctx message =>
    ContextRefers db args ctx ∧ WasStored db message ∧ message.conversationId = ctx.conversation

/-- Between the steps of `markConversationRead`. -/
def MarkReadPc.Refers : MarkReadPc → Prop
  | .findingLatest c participant => IsRecord db participant c
  | .updatingMarker c participant latest _ =>
    IsRecord db participant c ∧ ∀ m, latest = some m → HasMessage db c m.id
  | _ => True

/-- Between the steps of `sendAiBotMessage`. -/
def AiBotPc.Refers (args : AiBotArgs) : AiBotPc → Prop
  | .start => NamesRecord db args.conversationId args.requesterId
  | .updatingConversation message => WasStored db message
  | _ => True

/-- Between the steps of `generatePresignedUploadUrl`. -/
def UploadPc.Refers : UploadPc → Prop
  | .creating c uploader => HasRecord db c uploader
  | _ => True

def ChatCall.Refers : ChatCall → Prop
  | .createConversation _ pc => CreatePc.Refers db pc
  | .addMember _ pc => AddMemberPc.Refers db pc
  | .removeMember args pc => EndPc.Refers db .removed args.userId pc
  | .markConversationLeft args pc => EndPc.Refers db .left args.userId pc
  | .sendMessage args pc => SendPc.Refers db args pc
  | .markConversationRead _ pc => MarkReadPc.Refers db pc

def AttachmentCall.Refers : AttachmentCall → Prop
  | .chat call => ChatCall.Refers db call
  | .generatePresignedUploadUrl _ pc => UploadPc.Refers db pc
  | .markAttachmentUploaded _ _ => True

def GatewayTask.Refers : GatewayTask → Prop
  | .request call => ChatCall.Refers db call
  | .sendMessage args _ (.sending pc) => SendPc.Refers db args pc
  | .sendMessage args _ (.emitting _) => NamesRecord db args.conversationId args.senderId
  | .markConversationRead _ (.marking pc) => MarkReadPc.Refers db pc
  | .chatbot conversationId userId .generating => NamesRecord db conversationId userId
  | .chatbot _ _ (.sending args pc) => AiBotPc.Refers db args pc
  | _ => True

end Refers

section Mono

variable {db db' : ChatDb} (hgrows : Grows db db')

include hgrows

theorem NamesRecord.mono {conversationId userId : JsString}
    (h : NamesRecord db conversationId userId) : NamesRecord db' conversationId userId := by
  obtain ⟨c, u, hc, hu, hrecord⟩ := h
  exact ⟨c, u, hc, hu, hrecord.mono hgrows⟩

theorem ContextRefers.mono {args : SendArgs} {ctx : SendContext} (h : ContextRefers db args ctx) :
    ContextRefers db' args ctx := ⟨h.parsed, h.record.mono hgrows, h.active.mono hgrows⟩

theorem OwnAttachment.mono {ctx : SendContext} {attachment : Option ChatAttachment}
    (h : OwnAttachment db ctx attachment) : OwnAttachment db' ctx attachment :=
  fun a ha => (h a ha).mono hgrows

theorem CreatePc.Refers.mono {pc : CreatePc} (h : CreatePc.Refers db pc) :
    CreatePc.Refers db' pc := by
  cases pc with
  | addingParticipants conversation creator users joinedAt => exact ⟨h.1.mono hgrows, h.2⟩
  | addingEvents conversation creator users occurredAt =>
    exact ⟨h.1.mono hgrows, h.2.1.mono hgrows, fun user hmem => (h.2.2 user hmem).mono hgrows⟩
  | _ => trivial

theorem AddMemberPc.Refers.mono {pc : AddMemberPc} (h : AddMemberPc.Refers db pc) :
    AddMemberPc.Refers db' pc := by
  cases pc with
  | start c actor => exact HasRecord.mono hgrows h
  | creating c u actor joinedAt => exact HasRecord.mono hgrows h
  | logging c u actor occurredAt => exact ⟨h.1.mono hgrows, h.2.mono hgrows⟩
  | _ => trivial

theorem EndPc.Refers.mono {ending : Ending} {userId : JsString} {pc : EndPc}
    (h : EndPc.Refers db ending userId pc) : EndPc.Refers db' ending userId pc := by
  cases pc with
  | start c actor leftAt =>
    exact ⟨h.1.mono hgrows, fun he => (h.2.1 he).mono hgrows, h.2.2⟩
  | logging c u actor occurredAt =>
    exact ⟨h.1.mono hgrows, fun he => (h.2.1 he).mono hgrows, fun he => (h.2.2 he).mono hgrows⟩
  | _ => trivial

theorem SendPc.Refers.mono {args : SendArgs} {pc : SendPc} (h : SendPc.Refers db args pc) :
    SendPc.Refers db' args pc := by
  cases pc with
  | start => trivial
  | threw error => trivial
  | returned message restored => exact NamesRecord.mono hgrows h
  -- what a call names it names in a store that has grown, too
  | encrypting ctx attachment => exact ⟨h.1.mono hgrows, h.2.mono hgrows⟩
  | creating ctx attachment encrypted sentAt => exact ⟨h.1.mono hgrows, h.2.mono hgrows⟩
  | savingAttachment ctx message attachment confirmedAt =>
    obtain ⟨⟨hctx, hstored, hconversation⟩, copy, hcopy, hid, hattachment⟩ := h
    exact ⟨⟨hctx.mono hgrows, hstored.mono hgrows, hconversation⟩, copy, hcopy, hid,
      hattachment.mono hgrows⟩
  | updatingConversation ctx message => exact ⟨h.1.mono hgrows, h.2.1.mono hgrows, h.2.2⟩
  | updatingSender ctx message => exact ⟨h.1.mono hgrows, h.2.1.mono hgrows, h.2.2⟩
  | _ => exact ContextRefers.mono hgrows h

theorem MarkReadPc.Refers.mono {pc : MarkReadPc} (h : MarkReadPc.Refers db pc) :
    MarkReadPc.Refers db' pc := by
  cases pc with
  | findingLatest c participant => exact IsRecord.mono hgrows h
  | updatingMarker c participant latest lastReadAt =>
    exact ⟨h.1.mono hgrows, fun m hm => (h.2 m hm).mono hgrows⟩
  | _ => trivial

theorem AiBotPc.Refers.mono {args : AiBotArgs} {pc : AiBotPc} (h : AiBotPc.Refers db args pc) :
    AiBotPc.Refers db' args pc := by
  cases pc with
  | start => exact NamesRecord.mono hgrows h
  | updatingConversation message => exact WasStored.mono hgrows h
  | _ => trivial

theorem ChatCall.Refers.mono {call : ChatCall} (h : ChatCall.Refers db call) :
    ChatCall.Refers db' call := by
  cases call with
  | createConversation args pc => exact CreatePc.Refers.mono hgrows h
  | addMember args pc => exact AddMemberPc.Refers.mono hgrows h
  | removeMember args pc => exact EndPc.Refers.mono hgrows h
  | markConversationLeft args pc => exact EndPc.Refers.mono hgrows h
  | sendMessage args pc => exact SendPc.Refers.mono hgrows h
  | markConversationRead args pc => exact MarkReadPc.Refers.mono hgrows h

theorem AttachmentCall.Refers.mono {call : AttachmentCall} (h : AttachmentCall.Refers db call) :
    AttachmentCall.Refers db' call := by
  cases call with
  | chat call => exact ChatCall.Refers.mono hgrows h
  | generatePresignedUploadUrl args pc =>
    cases pc with
    | creating c uploader => exact HasRecord.mono hgrows h
    | _ => trivial
  | markAttachmentUploaded args pc => trivial

theorem GatewayTask.Refers.mono {task : GatewayTask} (h : GatewayTask.Refers db task) :
    GatewayTask.Refers db' task := by
  cases task with
  | request call => exact ChatCall.Refers.mono hgrows h
  -- a task of the gateway names what its call of the service does
  | sendMessage args fromSocket pc =>
    cases pc with
    | sending pc => exact SendPc.Refers.mono hgrows h
    | emitting pc => exact NamesRecord.mono hgrows h
    | _ => trivial
  | markConversationRead args pc =>
    cases pc with
    | marking pc => exact MarkReadPc.Refers.mono hgrows h
    | _ => trivial
  | chatbot conversationId userId pc =>
    cases pc with
    | generating => exact NamesRecord.mono hgrows h
    | sending args pc => exact AiBotPc.Refers.mono hgrows h
    | _ => trivial
  | _ => trivial

end Mono

/-! ## Steps -/

section Steps

variable {env : BackendEnv} {db db' : ChatDb} {input : CallInput}

/-- A step of a method: the store stays sound, and what the method goes on with refers to it. -/
structure StepKept (db db' : ChatDb) (refers : ChatDb → Prop) : Prop where
  kept : StoreKept db db'
  refers : refers db'

/-- A step that writes nothing. -/
theorem StoreSound.quiet (h : StoreSound db) {refers : ChatDb → Prop} (hrefers : refers db) :
    StepKept db db refers := ⟨h.refl, hrefers⟩

/-- A membership is one of a conversation that exists, with the one who created it. -/
theorem StoreSound.conversation (h : StoreSound db) {c u : ObjectId} (hrecord : HasRecord db c u) :
    ∃ creator, CreatedBy db c creator ∧ HasRecord db c creator := by
  obtain ⟨p, hp, rfl, -⟩ := hrecord
  exact (h.participants p hp).conversation

/-- What `getRequiredActiveParticipant` has found. -/
theorem record_of_guard {conversationId userId : JsString} {p : ConversationParticipant}
    (h : getRequiredActiveParticipant db conversationId userId = .ok p) :
    HasRecord db p.conversationId p.userId ∧ IsRecord db p.id p.conversationId := by
  have hmem := (findActive_eq_some (getRequiredActiveParticipant_ok h).2.2).1
  exact ⟨⟨p, hmem, rfl, rfl⟩, p, hmem, rfl, rfl⟩

/-- `requireAdminOrOwner` lets only the one pass who created the conversation. -/
theorem StoreSound.createdBy_of_owner (h : StoreSound db) {conversationId userId : JsString}
    {p : ConversationParticipant} (hguard : requireAdminOrOwner db conversationId userId = .ok p) :
    CreatedBy db p.conversationId p.userId := by
  have hmem := (findActive_eq_some
    (getRequiredActiveParticipant_ok (requireAdminOrOwner_ok hguard)).2.2).1
  -- nobody is an admin, so the guard lets only owners pass
  have hrole : p.role = .admin ∨ p.role = .owner := by
    unfold requireAdminOrOwner at hguard
    split at hguard
    · split at hguard
      · split at hguard
        · rename_i hrole
          cases hguard
          exact hrole
        · cases hguard
      · cases hguard
    · cases hguard
  -- and an owner has created the conversation
  rcases (h.participants p hmem).role with hmember | ⟨-, hcreated⟩
  · rw [hmember] at hrole
    exact absurd hrole (by decide)
  · exact hcreated

/-- The ids of new documents are told apart from the old ones. -/
theorem nodup_append_of_fresh {α : Type*} {f : α → ObjectId} {xs ys : List α}
    {ids : List ObjectId} {count : Nat} (h : FreshIds ids count (xs.map f))
    (hxs : (xs.map f).Nodup) (hys : ys.map f = ids) : ((xs ++ ys).map f).Nodup := by
  rw [List.map_append, hys, List.nodup_append]
  exact ⟨hxs, h.2.1, fun a ha b hb heq => h.2.2 b hb (heq ▸ ha)⟩

/-- The users of a new conversation: the one who creates it is one, and no other is marked. -/
theorem creator_of_newParticipants {args : CreateArgs} {creator : ObjectId}
    {users : List NewParticipant} (h : newParticipants args = some users)
    (hcreator : ObjectId.ofString? args.creatorId = some creator) :
    creator ∈ users.map NewParticipant.userId ∧
      ∀ user ∈ users, user.isCreator = true → user.userId = creator := by
  constructor
  · exact (mem_users_iff h creator).mpr ⟨args.creatorId, List.mem_cons_self, hcreator⟩
  · intro user hmem hmarked
    obtain ⟨uid, -, huser⟩ := exists_of_mem_mapM h hmem
    obtain ⟨id, hid, rfl⟩ := Option.map_eq_some_iff.mp huser
    rw [of_decide_eq_true hmarked, hcreator] at hid
    exact (Option.some.inj hid).symm

/-- `createConversation` -/
theorem StoreSound.createStep (h : StoreSound db) {args : CreateArgs} {pc pc' : CreatePc}
    (hpc : CreatePc.Refers db pc) (hstep : createStep db args input pc = some (db', pc')) :
    StepKept db db' fun db => CreatePc.Refers db pc' := by
  cases createStep_cases hstep with
  | invalidParticipant creator hcreator hfresh husers =>
    exact ⟨h.createConversation hfresh rfl, trivial⟩
  | created creator users hcreator hfresh husers =>
    refine ⟨h.createConversation hfresh rfl, ?_, creator_of_newParticipants husers hcreator⟩
    exact ⟨_, List.mem_append_right _ List.mem_cons_self, rfl, rfl⟩
  | participants conversation creator users joinedAt hfresh =>
    obtain ⟨hcreated, hcreator, hmarked⟩ := hpc
    have hlength := hfresh.1
    -- every user has a document now
    have hrecords : ∀ u ∈ users.map NewParticipant.userId,
        HasRecord (db.insertParticipants (List.zipWith
          (NewParticipant.document conversation.id creator joinedAt) users input.newIds))
          conversation.id u := by
      intro u hu
      have husers : (List.zipWith (NewParticipant.document conversation.id creator joinedAt) users
          input.newIds).map ConversationParticipant.userId = users.map NewParticipant.userId :=
        map_zipWith_left (by intro user id; rfl) hlength
      obtain ⟨p, hp, rfl⟩ := List.mem_map.mp (husers ▸ hu)
      obtain ⟨user, -, id, -, rfl⟩ := exists_of_mem_zipWith hp
      exact ⟨_, List.mem_append_right _ hp, rfl, rfl⟩
    have hkept : StoreKept db (db.insertParticipants (List.zipWith
        (NewParticipant.document conversation.id creator joinedAt) users input.newIds)) := by
      refine h.insertParticipants (nodup_append_of_fresh hfresh h.ids.participants
        (map_zipWith_right (by intro user id; rfl) hlength)) fun p hp => ?_
      obtain ⟨user, huser, id, -, rfl⟩ := exists_of_mem_zipWith hp
      refine ⟨⟨creator, hcreated, hrecords creator hcreator⟩, fun u hu => ?_, nofun, ?_⟩
      · simp only [NewParticipant.document] at hu
        split at hu
        · cases hu
        · cases hu
          exact hrecords creator hcreator
      · cases hmark : user.isCreator with
        | true =>
          have hrole : user.userId = creator := hmarked user huser hmark
          exact .inr ⟨by simp only [NewParticipant.document, hmark, if_true], hrole ▸ hcreated⟩
        | false => exact .inl (by simp only [NewParticipant.document, hmark]; rfl)
    exact ⟨hkept, hcreated.mono hkept.grows, hrecords creator hcreator,
      fun user huser => hrecords _ (List.mem_map_of_mem huser)⟩
  | events conversation creator users occurredAt hfresh =>
    obtain ⟨hcreated, hcreator, hrecords⟩ := hpc
    refine ⟨h.insertEvents (nodup_append_of_fresh hfresh h.ids.events
      (map_zipWith_right (by intro user id; rfl) hfresh.1)) fun e he => ?_, trivial⟩
    obtain ⟨user, huser, id, -, rfl⟩ := exists_of_mem_zipWith he
    refine ⟨⟨creator, hcreated⟩, fun u hu => ?_, fun _ => hrecords user huser, fun htype => ?_⟩
    · simp only [NewParticipant.event] at hu
      split at hu
      · cases hu
      · cases hu
        exact hcreator
    · simp only [NewParticipant.event] at htype
      split at htype <;> cases htype
  | _ => exact h.quiet trivial

/-- `addMember` -/
theorem StoreSound.addMemberStep (h : StoreSound db) {args : MembershipArgs} {pc pc' : AddMemberPc}
    (hpc : AddMemberPc.Refers db pc) (hstep : addMemberStep db args input pc = some (db', pc')) :
    StepKept db db' fun db => AddMemberPc.Refers db pc' := by
  cases addMemberStep_cases hstep with
  | passed actor hguard => exact h.quiet (record_of_guard hguard).1
  | notMember c u actor huser hnone => exact h.quiet hpc
  -- the conversation has a creator already, and the new member is none
  | created c u actor joinedAt hfresh =>
    obtain ⟨creator, hcreated, hcreator⟩ := h.conversation hpc
    have hkept : StoreKept db (db.insertParticipants [⟨input.newId, c, u, .member, .active,
        some actor, joinedAt, none, none, none, 0⟩]) := by
      have hgrows : Grows db (db.insertParticipants [⟨input.newId, c, u, .member, .active,
          some actor, joinedAt, none, none, none, 0⟩]) := grows_insertParticipants db _
      refine h.insertParticipants (nodup_map_concat h.ids.participants hfresh) fun p hp => ?_
      rw [List.mem_singleton.mp hp]
      refine ⟨⟨creator, hcreated.mono hgrows, hcreator.mono hgrows⟩, fun u hu => ?_, nofun,
        .inl rfl⟩
      cases hu
      exact HasRecord.mono hgrows hpc
    exact ⟨hkept, HasRecord.mono hkept.grows hpc, _, List.mem_append_right _ List.mem_cons_self,
      rfl, rfl⟩
  -- the actor was let in as a member, and the user has just become one
  | logged c u actor occurredAt hfresh =>
    obtain ⟨hactor, huser⟩ := hpc
    obtain ⟨creator, hcreated, -⟩ := h.conversation hactor
    refine ⟨h.insertEvents (nodup_map_concat h.ids.events hfresh) fun e he => ?_, trivial⟩
    rw [List.mem_singleton.mp he]
    refine ⟨⟨creator, hcreated⟩, fun u hu => ?_, fun _ => huser, nofun⟩
    cases hu
    exact hactor
  | _ => exact h.quiet trivial

/-- The two ways a membership ends. -/
theorem StoreSound.endStep (h : StoreSound db) {ending : Ending}
    {guard : ChatDb → Except ChatError ConversationParticipant} {userId : JsString}
    (hguard : ∀ p, guard db = .ok p → EndPc.Refers db ending userId
      (.start p.conversationId p.userId input.now))
    {pc pc' : EndPc} (hpc : EndPc.Refers db ending userId pc)
    (hstep : endStep ending guard userId db input pc = some (db', pc')) :
    StepKept db db' fun db => EndPc.Refers db ending userId pc' := by
  cases pc with
  | guarding =>
    simp only [Backend.endStep] at hstep
    split at hstep
    · cases hstep
      exact h.quiet trivial
    · rename_i actor hok
      cases hstep
      exact h.quiet (hguard actor hok)
  | start c actor leftAt =>
    simp only [Backend.endStep] at hstep
    split at hstep
    · cases hstep
      exact h.quiet trivial
    · rename_i u huser
      cases hstep
      obtain ⟨hactor, hcreated, hself⟩ := hpc
      have hkept := h.endMembership c u ending.status leftAt
      refine ⟨hkept, hactor.mono hkept.grows, fun he => (hcreated he).mono hkept.grows,
        fun he => ?_⟩
      -- who leaves ends his own membership
      cases huser.symm.trans (hself he)
      exact hactor.mono hkept.grows
  | logging c u actor occurredAt =>
    simp only [Backend.endStep] at hstep
    split at hstep
    · cases hstep
    · rename_i hfresh
      cases hstep
      obtain ⟨hactor, hcreated, hself⟩ := hpc
      obtain ⟨creator, hcreator, -⟩ := h.conversation hactor
      refine ⟨h.insertEvents (nodup_map_concat h.ids.events hfresh) fun e he => ?_, trivial⟩
      rw [List.mem_singleton.mp he]
      cases ending with
      | removed =>
        refine ⟨⟨creator, hcreator⟩, fun u hu => ?_, fun htype => absurd rfl htype, fun _ =>
          ⟨actor, rfl, hcreated rfl⟩⟩
        cases hu
        exact hactor
      | left => exact ⟨⟨creator, hcreator⟩, by simp, fun _ => hself rfl, by simp [Ending.event]⟩
  | returned => cases hstep
  | threw error => cases hstep

/-- An attachment that has passed the checks is the sender's own. -/
theorem ownAttachment_of_check {args : SendArgs} {ctx : SendContext} {id : ObjectId}
    {found : ChatAttachment} (hparsed : Parsed args ctx)
    (hfound : checkAttachment args (db.findAttachment id) = .ok found) :
    OwnAttachment db ctx (some found) := by
  obtain ⟨hget, hconversation, huploader, -⟩ := checkAttachment_ok hfound
  obtain ⟨hc, hu⟩ := hparsed
  rw [← hconversation, ObjectId.ofString?_toString] at hc
  rw [← huploader, ObjectId.ofString?_toString] at hu
  intro a ha
  cases ha
  exact ⟨found, List.mem_of_find?_eq_some hget, Option.some.inj hc, Option.some.inj hu, rfl⟩

theorem refers_sendEncrypt {args : SendArgs} {ctx : SendContext}
    {attachment : Option ChatAttachment} {now : Date} (hctx : ContextRefers db args ctx)
    (hattachment : OwnAttachment db ctx attachment) :
    SendPc.Refers db args (sendEncrypt args ctx attachment now) := by
  unfold sendEncrypt
  split
  · trivial
  · split <;> exact ⟨hctx, hattachment⟩

theorem refers_sendAttachment {args : SendArgs} {ctx : SendContext} {now : Date}
    (hctx : ContextRefers db args ctx) :
    SendPc.Refers db args (sendAttachment args ctx now) := by
  unfold sendAttachment
  split
  · exact refers_sendEncrypt hctx fun a ha => nomatch ha
  · split
    · trivial
    · exact hctx

/-- The message that is created. -/
theorem StoreSound.createNewMessage (h : StoreSound db) {args : SendArgs} {ctx : SendContext}
    {attachment : Option ChatAttachment} {id : ObjectId} (hctx : ContextRefers db args ctx)
    (hattachment : OwnAttachment db ctx attachment) (encrypted : EncryptedContent) (sentAt : Date)
    (hfresh : id ∉ db.messages.map Message.id) :
    StoreKept db (db.createMessage (newMessage args ctx attachment encrypted sentAt id)) ∧
      WasStored (db.createMessage (newMessage args ctx attachment encrypted sentAt id))
        (newMessage args ctx attachment encrypted sentAt id) := by
  refine ⟨h.createMessage hfresh ⟨hctx.record, fun copy hcopy => ?_⟩, _,
    List.mem_append_right _ List.mem_cons_self, rfl⟩
  obtain ⟨a, ha, rfl⟩ := Option.map_eq_some_iff.mp hcopy
  exact hattachment a ha

/-- `sendMessage` -/
theorem StoreSound.sendStep (h : StoreSound db) {args : SendArgs} {pc pc' : SendPc}
    (hpc : SendPc.Refers db args pc) (hstep : sendStep env db args input pc = some (db', pc')) :
    StepKept db db' fun db => SendPc.Refers db args pc' := by
  cases sendStep_cases hstep with
  | refused error => exact h.quiet trivial
  -- the context is that of an active member
  | sender participant hnonempty hsender =>
    obtain ⟨hrecord, hactive⟩ := record_of_guard hsender
    have hok := getRequiredActiveParticipant_ok hsender
    exact h.quiet ⟨⟨hok.1, hok.2.1⟩, hrecord, hactive⟩
  | direct ctx conversation hfound hdirect => exact h.quiet hpc
  | notDirect ctx => exact h.quiet (refers_sendAttachment hpc)
  | nothingToRestore ctx => exact h.quiet (refers_sendAttachment hpc)
  | toRestore ctx => exact h.quiet hpc
  | restoredLast ctx toRestore left record hrecord =>
    have hkept := h.restoreParticipant record
    exact ⟨hkept, ContextRefers.mono hkept.grows hpc⟩
  | restored ctx toRestore left record hrecord =>
    have hkept := h.restoreParticipant record
    exact ⟨hkept, ContextRefers.mono hkept.grows hpc⟩
  | refetched ctx toRestore =>
    exact h.quiet (refers_sendAttachment ⟨hpc.parsed, hpc.record, hpc.active⟩)
  | badAttachment ctx attachment error => exact h.quiet trivial
  -- the checks of the attachment are about its owner and its conversation
  | attachment ctx attachment found hfound =>
    exact h.quiet (refers_sendEncrypt hpc (ownAttachment_of_check hpc.parsed hfound))
  | encryptionFailed ctx attachment error => exact h.quiet trivial
  | encrypted ctx attachment encrypted hencrypted => exact h.quiet hpc
  -- the message and its copy of the attachment come in with one write
  | createdWith ctx attachment encrypted sentAt hfresh =>
    obtain ⟨hctx, hattachment⟩ := hpc
    obtain ⟨hkept, hstored⟩ := h.createNewMessage hctx hattachment encrypted sentAt hfresh
    exact ⟨hkept, ⟨hctx.mono hkept.grows, hstored, rfl⟩, attachmentCopy attachment, rfl, rfl,
      (hattachment attachment rfl).mono hkept.grows⟩
  | created ctx encrypted sentAt hfresh =>
    obtain ⟨hctx, hattachment⟩ := hpc
    obtain ⟨hkept, hstored⟩ := h.createNewMessage hctx hattachment encrypted sentAt hfresh
    exact ⟨hkept, hctx.mono hkept.grows, hstored, rfl⟩
  -- the link back to the message
  | attached ctx message attachment confirmedAt =>
    obtain ⟨⟨hctx, hstored, hconversation⟩, copy, hcopy, rfl, hattachment⟩ := hpc
    have hkept := h.saveAttached hstored hcopy hattachment confirmedAt
    exact ⟨hkept, hctx.mono hkept.grows, hstored.mono hkept.grows, hconversation⟩
  | touched ctx message =>
    obtain ⟨hctx, hstored, hconversation⟩ := hpc
    have hkept := h.touchConversation hstored input.now
    rw [hconversation] at hkept
    exact ⟨hkept, hctx.mono hkept.grows, hstored.mono hkept.grows, hconversation⟩
  -- the marker of the sender moves to the new message
  | marked ctx message =>
    obtain ⟨hctx, hstored, hconversation⟩ := hpc
    have hkept := h.moveMarker message.sentAt hctx.active (hconversation ▸ hstored.hasMessage)
    exact ⟨hkept, hctx.mono hkept.grows⟩
  | counted ctx message =>
    have hkept := h.incrementUnread ctx.conversation ctx.sender
    exact ⟨hkept, ctx.conversation, ctx.sender, hpc.parsed.1, hpc.parsed.2,
      hpc.record.mono hkept.grows⟩

/-- `markConversationRead` -/
theorem StoreSound.markReadStep (h : StoreSound db) {args : MemberArgs} {pc pc' : MarkReadPc}
    (hpc : MarkReadPc.Refers db pc) (hstep : markReadStep db args input pc = some (db', pc')) :
    StepKept db db' fun db => MarkReadPc.Refers db pc' := by
  cases markReadStep_cases hstep with
  | member participant hmember => exact h.quiet (record_of_guard hmember).2
  | latest c participant =>
    refine h.quiet ⟨hpc, fun m hm => ?_⟩
    have hmem := mem_of_findLatest hm
    exact ⟨m, List.mem_of_mem_filter hmem, rfl, of_decide_eq_true (List.mem_filter.mp hmem).2⟩
  | reset c participant lastReadAt => exact ⟨h.resetUnread participant, trivial⟩
  | marked c participant message lastReadAt =>
    exact ⟨h.moveMarker lastReadAt hpc.1 (hpc.2 message rfl), trivial⟩
  | seen c message others => exact ⟨h.markSeen c others message.sentAt, trivial⟩
  | _ => exact h.quiet trivial

/-- `sendAiBotMessage` -/
theorem StoreSound.aiBotStep (h : StoreSound db) {args : AiBotArgs} {pc pc' : AiBotPc}
    (hpc : AiBotPc.Refers db args pc) (hstep : aiBotStep db args input pc = some (db', pc')) :
    StepKept db db' fun db => AiBotPc.Refers db args pc' := by
  cases aiBotStep_cases hstep with
  | invalidIds hinvalid => exact h.quiet trivial
  | created c requester hc hrequester hfresh =>
    obtain ⟨c', u', hc', hu', hrecord⟩ := hpc
    cases hc.symm.trans hc'
    cases hrequester.symm.trans hu'
    exact ⟨h.createMessage hfresh ⟨hrecord, nofun⟩, _, List.mem_append_right _ List.mem_cons_self,
      rfl⟩
  | touched message => exact ⟨h.touchConversation hpc input.now, trivial⟩
  | counted message => exact ⟨h.incrementUnread _ _, trivial⟩

/-- `generatePresignedUploadUrl` -/
theorem StoreSound.uploadStep (h : StoreSound db) {args : UploadArgs} {pc pc' : UploadPc}
    (hpc : UploadPc.Refers db pc) (hstep : uploadStep db args input pc = some (db', pc')) :
    StepKept db db' fun db => UploadPc.Refers db pc' := by
  cases uploadStep_cases hstep with
  -- the uploader is a member of the conversation
  | member conversation participant hmember =>
    have hok := (getRequiredActiveParticipant_ok hmember).1
    rw [ObjectId.ofString?_toString] at hok
    cases hok
    exact h.quiet (record_of_guard hmember).1
  -- a draft has no message yet
  | created conversation uploader hfresh =>
    exact ⟨h.createAttachment hfresh ⟨hpc, fun _ hlinked => by cases hlinked⟩, trivial⟩
  | _ => exact h.quiet trivial

/-- `markAttachmentUploaded` -/
theorem StoreSound.uploadedStep (h : StoreSound db) {args : UploadedArgs} {pc pc' : UploadedPc}
    (hstep : uploadedStep db args input pc = some (db', pc')) : StoreKept db db' := by
  cases uploadedStep_cases hstep with
  -- the save leaves what the attachment refers to
  | saved copy uploadedAt => exact h.saveUploaded copy uploadedAt
  | _ => exact h.refl

/-- A call of the chat service. -/
theorem StoreSound.callStep (h : StoreSound db) {call call' : ChatCall}
    (hcall : ChatCall.Refers db call) (hstep : callStep env db call input = some (db', call')) :
    StepKept db db' fun db => ChatCall.Refers db call' := by
  cases callStep_cases hstep with
  | createConversation hmove => exact h.createStep hcall hmove
  | addMember hmove => exact h.addMemberStep hcall hmove
  -- the owner who removes, or the member who leaves, was let in by its guard
  | @removeMember args pc pc' db' hmove =>
    have hguard : ∀ p, requireAdminOrOwner db args.conversationId args.actorId = .ok p →
        EndPc.Refers db .removed args.userId (.start p.conversationId p.userId input.now) :=
      fun p hok => ⟨(record_of_guard (requireAdminOrOwner_ok hok)).1,
        fun _ => h.createdBy_of_owner hok, nofun⟩
    exact h.endStep hguard hcall hmove
  | @markConversationLeft args pc pc' db' hmove =>
    have hguard : ∀ p, getRequiredActiveParticipant db args.conversationId args.userId = .ok p →
        EndPc.Refers db .left args.userId (.start p.conversationId p.userId input.now) :=
      fun p hok => ⟨(record_of_guard hok).1, nofun,
        fun _ => (getRequiredActiveParticipant_ok hok).2.1⟩
    exact h.endStep hguard hcall hmove
  | sendMessage hmove => exact h.sendStep hcall hmove
  | markConversationRead hmove => exact h.markReadStep hcall hmove

/-- A call of one of the services. -/
theorem StoreSound.attachmentCallStep (h : StoreSound db) {call call' : AttachmentCall}
    (hcall : AttachmentCall.Refers db call)
    (hstep : attachmentCallStep env db call input = some (db', call')) :
    StepKept db db' fun db => AttachmentCall.Refers db call' := by
  cases attachmentCallStep_cases hstep with
  | chat hmove => exact h.callStep hcall hmove
  | generatePresignedUploadUrl hmove => exact h.uploadStep hcall hmove
  | markAttachmentUploaded hmove => exact ⟨h.uploadedStep hmove, trivial⟩

end Steps

/-! ## Tasks -/

section Tasks

variable {env : BackendEnv} {config : AiConfig} {db : ChatDb} {sockets : List ChatSocket}
  {input : GatewayInput} {task : GatewayTask} {next : TaskStep}

/-- What `handleSendMessage` goes on with. -/
theorem refers_afterSend {args : SendArgs} {fromSocket : Bool} {pc : SendPc}
    (h : SendPc.Refers db args pc) :
    GatewayTask.Refers db (.sendMessage args fromSocket (afterSend pc)) := by
  cases pc <;> exact h

theorem refers_afterMarkRead {args : MemberArgs} {pc : MarkReadPc} (h : MarkReadPc.Refers db pc) :
    GatewayTask.Refers db (.markConversationRead args (afterMarkRead pc)) := by
  cases pc <;> exact h

theorem refers_afterAiBot {conversationId userId : JsString} {args : AiBotArgs} {pc : AiBotPc}
    (h : AiBotPc.Refers db args pc) :
    GatewayTask.Refers db (.chatbot conversationId userId (afterAiBot args pc)) := by
  cases pc <;> exact h

/-- The chat bot answers in the conversation of the message, for its sender. -/
theorem refers_of_mem_followUps {args : SendArgs} {message : RealtimeMessagePayload}
    (h : NamesRecord db args.conversationId args.senderId)
    (hmem : task ∈ followUps config args message) : GatewayTask.Refers db task := by
  rcases mem_followUps hmem with rfl | ⟨-, rfl⟩
  · trivial
  · exact h

/-- A call before its first step refers to nothing. -/
theorem refers_of_isStart {call : ChatCall} (h : call.isStart = true) :
    ChatCall.Refers db call := by
  cases call with
  | createConversation args pc => exact of_decide_eq_true h ▸ trivial
  | addMember args pc => exact of_decide_eq_true h ▸ trivial
  | removeMember args pc => exact of_decide_eq_true h ▸ trivial
  | markConversationLeft args pc => exact of_decide_eq_true h ▸ trivial
  | sendMessage args pc => exact of_decide_eq_true h ▸ trivial
  | markConversationRead args pc =>
    cases pc with
    | guarding | start => trivial
    | _ => cases h

theorem isStart_of_isRequest {call : ChatCall} (h : call.isRequest = true) :
    call.isStart = true := by
  cases call with
  | sendMessage args pc => cases h
  | markConversationRead args pc => exact of_decide_eq_true h ▸ rfl
  | _ => exact h

/-- A task before its first step refers to nothing. -/
theorem refers_of_unstarted (h : Unstarted task) : GatewayTask.Refers db task := by
  cases h with
  | request call hcall => exact refers_of_isStart (isStart_of_isRequest hcall)
  | _ => trivial

/-- A step of a task, and the tasks that it starts. -/
theorem StoreSound.taskStep (h : StoreSound db) (htask : GatewayTask.Refers db task)
    (hstep : taskStep env config db sockets input task = some next) :
    StoreKept db next.db ∧ GatewayTask.Refers next.db next.task ∧
      ∀ spawned ∈ next.spawned, GatewayTask.Refers next.db spawned := by
  -- most steps start no task
  have hnone : ∀ spawned ∈ ([] : List GatewayTask), GatewayTask.Refers next.db spawned :=
    fun _ hmem => absurd hmem List.not_mem_nil
  cases taskStep_cases hstep with
  | request call call' db' hcall =>
    have hkept := h.callStep htask hcall
    exact ⟨hkept.kept, hkept.refers, hnone⟩
  | sending args fromSocket pc pc' db' hsend =>
    have hkept := h.sendStep htask hsend
    exact ⟨hkept.kept, refers_afterSend hkept.refers, hnone⟩
  | emitting args fromSocket pc pc' deliveries hemit => exact ⟨h.refl, htask, hnone⟩
  -- the chat bot and the moderation are started for messages of sockets only
  | emitted args fromSocket message =>
    refine ⟨h.refl, trivial, fun spawned hmem => ?_⟩
    cases fromSocket with
    | true => exact refers_of_mem_followUps htask hmem
    | false => exact absurd hmem List.not_mem_nil
  | marking args pc pc' db' hread =>
    have hkept := h.markReadStep htask hread
    exact ⟨hkept.kept, refers_afterMarkRead hkept.refers, hnone⟩
  | readListed args last pc =>
    simp only [Backend.taskStep] at hstep
    cases hstep
    refine ⟨h.refl, ?_, hnone⟩
    split <;> trivial
  | generated s userId content => exact ⟨h.refl, htask, hnone⟩
  -- the answer of the chat bot is stored like a message
  | answering s userId args pc pc' db' hsend =>
    have hkept := h.aiBotStep htask hsend
    exact ⟨hkept.kept, refers_afterAiBot hkept.refers, hnone⟩
  | _ => exact ⟨h.refl, trivial, hnone⟩

end Tasks

/-! ## Runs -/

section Runs

variable {env : BackendEnv} {config : AiConfig} {system system' : ChatBackend}

/-- The store is sound, and what the tasks and the calls go on with refers to it. -/
structure BackendSound (system : ChatBackend) : Prop where
  store : StoreSound system.gateway.db
  tasks : ∀ task ∈ system.gateway.tasks, GatewayTask.Refers system.gateway.db task
  calls : ∀ call ∈ system.calls, AttachmentCall.Refers system.gateway.db call

theorem storeSound_start : StoreSound (.start []) where
  ids := ⟨.nil, .nil, .nil, .nil, .nil⟩
  conversations := fun _ h => absurd h List.not_mem_nil
  participants := fun _ h => absurd h List.not_mem_nil
  messages := fun _ h => absurd h List.not_mem_nil
  events := fun _ h => absurd h List.not_mem_nil
  attachments := fun _ h => absurd h List.not_mem_nil

theorem backendSound_start : BackendSound .start where
  store := storeSound_start
  tasks := fun _ h => absurd h List.not_mem_nil
  calls := fun _ h => absurd h List.not_mem_nil

theorem attachmentCall_refers_of_isStart {db : ChatDb} {call : AttachmentCall}
    (h : call.isStart = true) : AttachmentCall.Refers db call := by
  cases call with
  | chat call =>
    have hcall : ChatCall.Refers db call := refers_of_isStart h
    exact hcall
  | generatePresignedUploadUrl args pc => exact of_decide_eq_true h ▸ trivial
  | markAttachmentUploaded args pc => trivial

/-- One of the tasks takes its next step. -/
theorem gatewayStep_step {gateway gateway' : ChatGateway} {index : Nat} {input : GatewayInput}
    (h : gatewayStep env config gateway (.step index input) = some gateway') :
    ∃ task next, gateway.tasks[index]? = some task ∧
      taskStep env config gateway.db gateway.sockets input task = some next ∧
      gateway' = ⟨next.db, next.sockets, gateway.tasks.set index next.task ++ next.spawned⟩ := by
  obtain ⟨⟨gateway'', deliveries⟩, hnext, rfl⟩ := Option.map_eq_some_iff.mp h
  cases gatewayNext_cases hnext with
  | stepped _ _ task next htask hstep => exact ⟨task, next, htask, hstep, rfl⟩

/-- Something happens at the gateway. -/
theorem BackendSound.gateway {event : GatewayEvent} {gateway : ChatGateway}
    (h : BackendSound system) (hstep : gatewayStep env config system.gateway event = some gateway) :
    BackendSound { system with gateway := gateway } := by
  -- outside of the tasks the gateway does not touch the store
  cases gatewayStep_cases hstep with
  | outside _ sockets new hevent hnew =>
    refine ⟨h.store, fun task hmem => ?_, h.calls⟩
    rcases List.mem_append.mp hmem with hmem | hmem
    · exact h.tasks task hmem
    · exact refers_of_unstarted (hnew task hmem)
  -- a task takes a step, and may start others
  | task index input task next htask hmove =>
    obtain ⟨task', next', htask', hnext, heq⟩ := gatewayStep_step hstep
    cases htask.symm.trans htask'
    rw [heq]
    obtain ⟨hkept, hrefers, hspawned⟩ :=
      h.store.taskStep (h.tasks task (List.mem_of_getElem? htask)) hnext
    refine ⟨hkept.sound, fun other hmem => ?_,
      fun call hmem => (h.calls call hmem).mono hkept.grows⟩
    rcases List.mem_append.mp hmem with hmem | hmem
    · rcases List.mem_or_eq_of_mem_set hmem with hmem | rfl
      · exact (h.tasks other hmem).mono hkept.grows
      · exact hrefers
    · exact hspawned other hmem

variable (env config system) in
/-- What an event does to the gateway and the calls of the services. -/
inductive ChatBackendMove : ChatBackendEvent → ChatBackend → Prop where
  | gateway (event : GatewayEvent) (gateway : ChatGateway)
      (h : gatewayStep env config system.gateway event = some gateway) :
      ChatBackendMove (.gateway event) { system with gateway := gateway }
  | call (call : AttachmentCall) (hstart : call.isStart = true) :
      ChatBackendMove (.call call) { system with calls := system.calls ++ [call] }
  | step (index : Nat) (input : CallInput) (call call' : AttachmentCall) (db : ChatDb)
      (hget : system.calls[index]? = some call)
      (hmove : attachmentCallStep env system.gateway.db call input = some (db, call')) :
      ChatBackendMove (.step index input)
        ⟨{ system.gateway with db := db }, system.calls.set index call'⟩

theorem chatBackendStep_cases {event : ChatBackendEvent}
    (hstep : chatBackendStep env config system event = some system') :
    ChatBackendMove env config system event system' := by
  cases event with
  -- each event is a step of the gateway or of a call beside it
  | gateway event =>
    simp only [chatBackendStep, Option.bind_eq_bind, Option.bind_eq_some_iff, Option.pure_def,
      Option.some.injEq] at hstep
    obtain ⟨gateway, hgateway, rfl⟩ := hstep
    exact .gateway event gateway hgateway
  | call call =>
    simp only [chatBackendStep] at hstep
    split at hstep
    · rename_i hstart
      cases hstep
      exact .call call hstart
    · cases hstep
  | step index input =>
    simp only [chatBackendStep, Option.bind_eq_bind, Option.bind_eq_some_iff, Option.pure_def,
      Option.some.injEq] at hstep
    obtain ⟨call, hget, ⟨db, call'⟩, hmove, rfl⟩ := hstep
    exact .step index input call call' db hget hmove

/-- Every step. -/
theorem BackendSound.step {event : ChatBackendEvent} (h : BackendSound system)
    (hstep : chatBackendStep env config system event = some system') : BackendSound system' := by
  cases chatBackendStep_cases hstep with
  | gateway event gateway hgateway => exact h.gateway hgateway
  | call call hstart =>
    refine ⟨h.store, h.tasks, fun other hmem => ?_⟩
    rcases List.mem_append.mp hmem with hmem | hmem
    · exact h.calls other hmem
    · rw [List.mem_singleton.mp hmem]
      exact attachmentCall_refers_of_isStart hstart
  | step index input call call' db hget hmove =>
    obtain ⟨hkept, hrefers⟩ :=
      h.store.attachmentCallStep (h.calls call (List.mem_of_getElem? hget)) hmove
    -- the store has grown under all other calls
    refine ⟨hkept.sound, fun task hmem => (h.tasks task hmem).mono hkept.grows,
      fun other hmem => ?_⟩
    rcases List.mem_or_eq_of_mem_set hmem with hmem | rfl
    · exact (h.calls other hmem).mono hkept.grows
    · exact hrefers

/-- **No reference dangles** in any reachable state: sockets, requests over HTTP, the chat bot and
    the attachment service, in any order of their database operations. -/
theorem storeSound_of_run {events : List ChatBackendEvent}
    (hrun : run (chatBackendStep env config) .start events = some system) :
    StoreSound system.gateway.db := by
  have hinv : BackendSound system :=
    run_invariant (fun _ _ _ hinv hstep => hinv.step hstep) backendSound_start hrun
  exact hinv.store

end Runs

/-! ## A run -/

/-- A call of the chat service or the attachment service as an event of the backend. -/
def backendEvent : AttachmentEvent → ChatBackendEvent
  | .call call => .call call
  | .step index input => .step index input

/-- User 1 sends the file that is uploaded, and user 2 marks the group as read in between. -/
def sendingEvents : List GatewayEvent :=
  [.confirmAttachment (digitId 1) (digitId 3).toString (digitId 8).toString, .connect (digitId 2),
      .receive 0 (.markConversationRead (digitId 3).toString)] ++
    taskSteps 0 (List.replicate 6 (plainInput 7 (digitId 9) [])) ++
    taskSteps 1 (plainInputs 5 8 (digitId 0)) ++ taskSteps 0 (plainInputs 2 9 (digitId 0))

/-- User 1 makes a group, uploads a file for it and sends it. -/
def storeEvents : List ChatBackendEvent :=
  uploadEvents.map backendEvent ++ sendingEvents.map .gateway

theorem storeSound_of_run_sent : ∃ system,
    run (chatBackendStep plainEnv ⟨false, false⟩) .start storeEvents = some system ∧
      system.gateway.db.attachments.map ChatAttachment.messageId = [some (digitId 9)] ∧
      StoreSound system.gateway.db := by
  have hattached : (run (chatBackendStep plainEnv ⟨false, false⟩) .start storeEvents).map
      (fun system => system.gateway.db.attachments.map ChatAttachment.messageId) =
        some [some (digitId 9)] := by decide +kernel
  obtain ⟨system, hrun, hmessages⟩ := Option.map_eq_some_iff.mp hattached
  exact ⟨system, hrun, hmessages, storeSound_of_run hrun⟩

end ChatSC.Spec
