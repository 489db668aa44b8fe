import ChatSC.Spec.AttachedOnce

/-!
# Overlapping calls with the same attachment

`sendMessage` lets only an uploaded attachment pass, and attaches it after its message was created;
`markAttachmentUploaded` refuses one that is attached.  Both checks are made when the attachment is
loaded.  `attachedOnce_of_apart` shows that they are enough for calls that keep apart: no call creates
a message with an attachment, or saves it as attached, while another call has loaded it and not yet
saved it.  Two calls that overlap so both send it (`file_sent_twice`).
-/

namespace ChatSC.Spec

open Backend Collection JsString Transition Records

/-! ## What a call does with an attachment -/

/-- The attachment that `sendMessage` has loaded for a message that it has not yet created. -/
def loadedBy : AttachmentCall → Option ObjectId
  | .chat (.sendMessage _ (.encrypting _ (some attachment)))
  | .chat (.sendMessage _ (.creating _ (some attachment) _ _)) => some attachment.id
  | _ => none

/-- The attachment with which the next step of `sendMessage` creates a message. -/
def createdBy : AttachmentCall → Option ObjectId
  | .chat (.sendMessage _ (.creating _ (some attachment) _ _)) => some attachment.id
  | _ => none

/-- The attachment that the next step of `sendMessage` saves as attached. -/
def savedBy : AttachmentCall → Option ObjectId
  | .chat (.sendMessage _ (.savingAttachment _ _ attachment _)) => some attachment
  | _ => none

/-- The attachment of which `markAttachmentUploaded` saves a copy that it has loaded as a draft. -/
def draftOf : AttachmentCall → Option ObjectId
  | .markAttachmentUploaded _ (.saving copy _) =>
    if copy.status = .draft then some copy.id else none
  | _ => none

/-- No other call of `sendMessage` is between its load and its save of the attachment. -/
def SentAlone (system : AttachmentSystem) (index : Nat) (attachment : ObjectId) : Prop :=
  ∀ i < system.calls.length, i ≠ index → ∀ other ∈ system.calls[i]?,
    loadedBy other ≠ some attachment ∧ savedBy other ≠ some attachment

/-- Calls with the same attachment do not overlap in the step: a message is created with it, or it is
    saved as attached, when no other `sendMessage` is between its load and its save of it; and it is
    saved as attached when no `markAttachmentUploaded` is before its save of a draft. -/
def Apart (system : AttachmentSystem) : AttachmentEvent → Prop
  | .call _ => True
  | .step index _ => ∀ call ∈ system.calls[index]?,
    (∀ a ∈ createdBy call, SentAlone system index a) ∧
      ∀ a ∈ savedBy call, SentAlone system index a ∧
        ∀ other ∈ system.calls, draftOf other ≠ some a

instance (system : AttachmentSystem) (index : Nat) (attachment : ObjectId) :
    Decidable (SentAlone system index attachment) :=
  inferInstanceAs (Decidable (∀ i < system.calls.length, i ≠ index → ∀ other ∈ system.calls[i]?,
    loadedBy other ≠ some attachment ∧ savedBy other ≠ some attachment))

instance (system : AttachmentSystem) : (event : AttachmentEvent) → Decidable (Apart system event)
  | .call _ => inferInstanceAs (Decidable True)
  | .step index _ => inferInstanceAs (Decidable (∀ call ∈ system.calls[index]?,
    (∀ a ∈ createdBy call, SentAlone system index a) ∧
      ∀ a ∈ savedBy call, SentAlone system index a ∧
        ∀ other ∈ system.calls, draftOf other ≠ some a))

/-! ## What a step does -/

/-- A step of a call: what it does to the messages and the attached attachments, and what the checks
    let it load. -/
structure AttachmentMove (db db' : ChatDb) (call call' : AttachmentCall) : Prop where
  refs : ∀ ref ∈ messageRefs db', ref ∈ messageRefs db ∨
    ∀ a, ref.attachmentId = some a → createdBy call = some a ∧ savedBy call' = some a
  attached : ∀ a ∈ attachedIds db', a ∈ attachedIds db ∨ savedBy call = some a
  saved : ∀ a, savedBy call = some a → a ∈ attachedIds db'
  loaded : ∀ a, loadedBy call' = some a → loadedBy call = some a ∨
    savedBy call = none ∧ ∃ x ∈ db.attachments, x.id = a ∧ x.status = .uploaded
  drafts : ∀ a, draftOf call' = some a →
    savedBy call = none ∧ ∃ x ∈ db.attachments, x.id = a ∧ x.status = .draft

theorem loadedBy_sendEncrypt (args : SendArgs) (ctx : SendContext)
    (attachment : Option ChatAttachment) (now : Date) {a : ObjectId}
    (h : loadedBy (.chat (.sendMessage args (sendEncrypt args ctx attachment now))) =
      some a) : attachment.map ChatAttachment.id = some a := by
  unfold sendEncrypt at h
  cases attachment with
  | none => split at h <;> [cases h; (split at h <;> cases h)]
  | some attachment => split at h <;> [cases h; (split at h <;> exact h)]

theorem loadedBy_sendAttachment (args : SendArgs) (ctx : SendContext) (now : Date) :
    loadedBy (.chat (.sendMessage args (sendAttachment args ctx now))) = none := by
  unfold sendAttachment
  split
  · rw [Option.eq_none_iff_forall_ne_some]
    intro a h
    cases loadedBy_sendEncrypt args ctx none now h
  · split <;> rfl

/-- `sendMessage` holds what it held, or has just loaded an attachment that is uploaded. -/
theorem loadedBy_of_sendStep {env : BackendEnv} {db db' : ChatDb} {args : SendArgs}
    {input : CallInput} {pc pc' : SendPc} (h : sendStep env db args input pc = some (db', pc'))
    {a : ObjectId} (hloaded : loadedBy (.chat (.sendMessage args pc')) = some a) :
    loadedBy (.chat (.sendMessage args pc)) = some a ∨
      savedBy (.chat (.sendMessage args pc)) = none ∧
        ∃ x ∈ db.attachments, x.id = a ∧ x.status = .uploaded := by
  cases sendStep_cases h with
  | notDirect ctx => rw [loadedBy_sendAttachment] at hloaded; cases hloaded
  | nothingToRestore ctx => rw [loadedBy_sendAttachment] at hloaded; cases hloaded
  | refetched ctx toRestore => rw [loadedBy_sendAttachment] at hloaded; cases hloaded
  | attachment ctx attachment found hfound =>
    -- the status is checked here, and only here
    have hid := Option.some.inj (loadedBy_sendEncrypt args ctx (some found) input.now hloaded)
    obtain ⟨hfind, -, -, hstatus⟩ := checkAttachment_ok hfound
    exact .inr ⟨rfl, found, List.mem_of_find?_eq_some hfind, hid, hstatus⟩
  | encrypted ctx attachment encrypted hencrypted =>
    cases attachment with
    | none => cases hloaded
    | some attachment => exact .inl hloaded
  | _ => cases hloaded

/-- `markAttachmentUploaded` has just loaded a draft. -/
theorem draftOf_of_uploadedStep {db db' : ChatDb} {args : UploadedArgs} {input : CallInput}
    {pc pc' : UploadedPc} (h : uploadedStep db args input pc = some (db', pc')) {a : ObjectId}
    (hcopy : draftOf (.markAttachmentUploaded args pc') = some a) :
    ∃ x ∈ db.attachments, x.id = a ∧ x.status = .draft := by
  cases uploadedStep_cases h with
  | loaded conversation attachment copy hchecked =>
    rw [draftOf] at hcopy
    split at hcopy
    · rename_i hdraft
      exact ⟨copy, List.mem_of_find?_eq_some (checkUploaded_ok hchecked).1, Option.some.inj hcopy,
        hdraft⟩
    · cases hcopy
  | _ => cases hcopy

theorem savedBy_eq_some {call : AttachmentCall} {a : ObjectId} :
    savedBy call = some a ↔ ∃ args ctx message confirmedAt,
      call = .chat (.sendMessage args (.savingAttachment ctx message a confirmedAt)) := by
  constructor
  · intro h
    unfold savedBy at h
    split at h
    · cases h
      exact ⟨_, _, _, _, rfl⟩
    · cases h
  · rintro ⟨args, ctx, message, confirmedAt, rfl⟩
    rfl

section Moves

variable {env : BackendEnv} {db db' : ChatDb} {call call' : AttachmentCall} {input : CallInput}

/-- What a step holds, it held, or it has checked the status. -/
theorem loadedBy_of_step (h : attachmentCallStep env db call input = some (db', call'))
    {a : ObjectId} (hloaded : loadedBy call' = some a) : loadedBy call = some a ∨
      savedBy call = none ∧ ∃ x ∈ db.attachments, x.id = a ∧ x.status = .uploaded := by
  -- only a step of `sendMessage` holds an attachment afterwards
  cases attachmentCallStep_cases h with
  | chat hstep =>
    cases callStep_cases hstep with
    | sendMessage hsend => exact loadedBy_of_sendStep hsend hloaded
    | _ => cases hloaded
  | generatePresignedUploadUrl hstep => cases hloaded
  | markAttachmentUploaded hstep => cases hloaded

theorem draftOf_of_step (h : attachmentCallStep env db call input = some (db', call'))
    {a : ObjectId} (hcopy : draftOf call' = some a) :
    savedBy call = none ∧ ∃ x ∈ db.attachments, x.id = a ∧ x.status = .draft := by
  -- only a step of `markAttachmentUploaded` holds a copy afterwards
  cases attachmentCallStep_cases h with
  | chat hstep => cases hcopy
  | generatePresignedUploadUrl hstep => cases hcopy
  | markAttachmentUploaded hstep => exact ⟨rfl, draftOf_of_uploadedStep hstep hcopy⟩

/-- A message that is created has the attachment that is saved next. -/
theorem refs_created {args : SendArgs} {ctx : SendContext} {attachment : Option ChatAttachment}
    {encrypted : EncryptedContent} {sentAt : Date}
    (h : attachmentCallStep env db
      (.chat (.sendMessage args (.creating ctx attachment encrypted sentAt))) input =
        some (db', call')) {ref : MessageRef} (href : ref ∈ messageRefs db') :
    ref ∈ messageRefs db ∨ ∀ a, ref.attachmentId = some a →
      createdBy (.chat (.sendMessage args (.creating ctx attachment encrypted sentAt))) = some a ∧
        savedBy call' = some a := by
  -- only the step that creates the message can have been taken here
  cases attachmentCallStep_cases h with
  | chat hstep =>
    cases callStep_cases hstep with
    | sendMessage hsend =>
      cases sendStep_cases hsend with
      | createdWith _ attachment _ _ hfresh =>
        rw [messageRefs, ChatDb.createMessage, List.map_append] at href
        refine (List.mem_append.mp href).imp_right fun hnew a ha => ?_
        obtain rfl := List.mem_singleton.mp hnew
        exact ⟨ha, ha⟩
      -- without an attachment the new reference names none
      | created _ _ _ hfresh =>
        rw [messageRefs, ChatDb.createMessage, List.map_append] at href
        refine (List.mem_append.mp href).imp_right fun hnew a ha => ?_
        obtain rfl := List.mem_singleton.mp hnew
        cases ha

theorem refs_of_step (h : attachmentCallStep env db call input = some (db', call'))
    {ref : MessageRef} (href : ref ∈ messageRefs db') : ref ∈ messageRefs db ∨
      ∀ a, ref.attachmentId = some a → createdBy call = some a ∧ savedBy call' = some a := by
  cases attachmentCallStep_effect h with
  | quiet hrefs hattachments honce => exact .inl (hrefs ▸ href)
  | created args ctx attachment encrypted sentAt id => exact refs_created h href
  | attached args ctx message attachment confirmedAt => exact .inl href
  | drafted args conversation uploader id hfresh => exact .inl href
  | uploaded args loaded uploadedAt => exact .inl href

/-- Only `sendMessage` attaches. -/
theorem attachedIds_of_effect (h : AttachmentEffect db call db') {a : ObjectId}
    (ha : a ∈ attachedIds db') : a ∈ attachedIds db ∨ savedBy call = some a := by
  cases h with
  | quiet hrefs hattachments honce =>
    rw [attachedIds, hattachments] at ha
    exact .inl ha
  | created args ctx attachment encrypted sentAt id => exact .inl ha
  -- the save attaches the one that it saves
  | attached args ctx message attachment confirmedAt =>
    obtain ⟨x, hx, hstatus, rfl⟩ := mem_attachedIds.mp ha
    rcases mem_of_mem_updateOne hx with hold | ⟨y, hy, hmatch, rfl⟩
    · exact .inl (mem_attachedIds.mpr ⟨x, hold, hstatus, rfl⟩)
    · exact .inr (congrArg some (of_decide_eq_true hmatch).symm)
  | drafted args conversation uploader id hfresh =>
    obtain ⟨x, hx, hstatus, rfl⟩ := mem_attachedIds.mp ha
    rcases List.mem_append.mp hx with hold | hnew
    · exact .inl (mem_attachedIds.mpr ⟨x, hold, hstatus, rfl⟩)
    · -- a draft is not attached
      obtain rfl := List.mem_singleton.mp hnew
      cases hstatus
  | uploaded args loaded uploadedAt =>
    obtain ⟨x, hx, hstatus, rfl⟩ := mem_attachedIds.mp ha
    rcases mem_of_mem_updateOne hx with hold | ⟨y, hy, -, rfl⟩
    · exact .inl (mem_attachedIds.mpr ⟨x, hold, hstatus, rfl⟩)
    · -- to save an uploaded copy attaches nothing
      exact .inl (mem_attachedIds.mpr ⟨y, hy, attached_of_saveUploaded hstatus, rfl⟩)

/-- An attachment that `sendMessage` saves is attached. -/
theorem mem_attachedIds_of_saved (hdb : AttachmentsSound db)
    (hholds : AttachmentCall.Holds db call)
    (h : attachmentCallStep env db call input = some (db', call')) {a : ObjectId}
    (hsaved : savedBy call = some a) : a ∈ attachedIds db' := by
  obtain ⟨args, ctx, message, confirmedAt, rfl⟩ := savedBy_eq_some.mp hsaved
  have hstep : some (db.saveAttached a message.id confirmedAt,
      AttachmentCall.chat (.sendMessage args (.updatingConversation ctx message))) =
        some (db', call') := h
  cases hstep
  -- the attachment of the call is one of the stored ones
  obtain ⟨x, hx, hownership⟩ := List.mem_map.mp hholds.2
  have hid : x.id = a := congrArg Ownership.id hownership
  let save (x : ChatAttachment) : ChatAttachment :=
    { x with messageId := some message.id, status := .attached, confirmedAt := some confirmedAt }
  have hmem : (if x.id = a then save x else x) ∈
      (db.saveAttached a message.id confirmedAt).attachments :=
    mem_updateOne_key hdb.attachments_nodup a hx
  rw [if_pos hid] at hmem
  exact mem_attachedIds.mpr ⟨save x, hmem, rfl, hid⟩

theorem attachmentMove (hdb : AttachmentsSound db) (hholds : AttachmentCall.Holds db call)
    (h : attachmentCallStep env db call input = some (db', call')) :
    AttachmentMove db db' call call' where
  refs := fun _ href => refs_of_step h href
  attached := fun _ ha => attachedIds_of_effect (attachmentCallStep_effect h) ha
  saved := fun _ hsaved => mem_attachedIds_of_saved hdb hholds h hsaved
  loaded := fun _ hloaded => loadedBy_of_step h hloaded
  drafts := fun _ hcopy => draftOf_of_step h hcopy

end Moves

/-! ## What the checks keep -/

/-- A call other than the one at the index is about to save the attachment. -/
def SavedElsewhere (calls : List AttachmentCall) (index : Nat) (attachment : ObjectId) : Prop :=
  ∃ j other, j ≠ index ∧ calls[j]? = some other ∧ savedBy other = some attachment

/-- What the checks of the status keep as long as calls with the same attachment keep apart: a
    referenced attachment is attached, or its `sendMessage` is about to save it; one that is loaded
    for a message is in no other, except in one whose `sendMessage` is about to save it; and one that
    is held as a draft is not attached. -/
structure OverlapInv (system : AttachmentSystem) : Prop where
  sent : ∀ ref ∈ messageRefs system.db, ∀ a, ref.attachmentId = some a →
    a ∈ attachedIds system.db ∨ ∃ call ∈ system.calls, savedBy call = some a
  unsent : ∀ (i : Nat) (call : AttachmentCall), system.calls[i]? = some call →
    ∀ a, loadedBy call = some a → ∀ ref ∈ messageRefs system.db, ref.attachmentId = some a →
      SavedElsewhere system.calls i a
  drafts : ∀ call ∈ system.calls, ∀ a, draftOf call = some a → a ∉ attachedIds system.db

section Overlap

variable {system : AttachmentSystem} {index : Nat} {db' : ChatDb} {call call' : AttachmentCall}

/-- An attachment has one status. -/
theorem AttachmentsSound.not_mem_attachedIds {db : ChatDb} (hdb : AttachmentsSound db)
    {x : ChatAttachment} (hx : x ∈ db.attachments) (hstatus : x.status ≠ .attached) :
    x.id ∉ attachedIds db :=
  fun hid => hstatus (hdb.status_eq hx hid)

/-- A call that is about to save an attachment has created its message already. -/
theorem loadedBy_of_savedBy {a : ObjectId} (h : savedBy call = some a) : loadedBy call = none := by
  obtain ⟨args, ctx, message, confirmedAt, rfl⟩ := savedBy_eq_some.mp h
  rfl

/-- A call that has not started holds nothing. -/
theorem holdsNothing_of_isStart (hstart : call.isStart = true) :
    loadedBy call = none ∧ savedBy call = none ∧ draftOf call = none := by
  cases call with
  | chat call =>
    cases call with
    | sendMessage args pc =>
      obtain rfl : pc = .start := of_decide_eq_true hstart
      exact ⟨rfl, rfl, rfl⟩
    | _ => exact ⟨rfl, rfl, rfl⟩
  | generatePresignedUploadUrl args pc => exact ⟨rfl, rfl, rfl⟩
  | markAttachmentUploaded args pc =>
    obtain rfl : pc = .start := of_decide_eq_true hstart
    exact ⟨rfl, rfl, rfl⟩

/-- A new call. -/
theorem OverlapInv.newCall (h : OverlapInv system) (hstart : call.isStart = true) :
    OverlapInv ⟨system.db, system.calls ++ [call]⟩ := by
  obtain ⟨hloaded, hsaved, hdraft⟩ := holdsNothing_of_isStart hstart
  refine ⟨?_, ?_, ?_⟩
  · -- the call that is to save an attachment is still there
    intro ref href a ha
    refine (h.sent ref href a ha).imp_right ?_
    rintro ⟨other, hother, hsaves⟩
    exact ⟨other, List.mem_append_left _ hother, hsaves⟩
  · intro i other hother a hloads ref href ha
    -- the new call holds nothing, the old ones hold what they held
    rcases getElem?_concat_eq_some.mp hother with ⟨-, rfl⟩ | hold
    · cases hloaded.symm.trans hloads
    · obtain ⟨j, third, hne, hthird, hsaves⟩ := h.unsent i other hold a hloads ref href ha
      exact ⟨j, third, hne, getElem?_concat_eq_some.mpr (.inr hthird), hsaves⟩
  · intro other hother a hcopy
    rcases List.mem_append.mp hother with hold | hnew
    · exact h.drafts other hold a hcopy
    · obtain rfl := List.mem_singleton.mp hnew
      cases hdraft.symm.trans hcopy

/-- No message has the attachment that a call holds for a message, when no other call does. -/
theorem OverlapInv.not_referenced (h : OverlapInv system)
    (hcall : system.calls[index]? = some call) {a : ObjectId} (hloaded : loadedBy call = some a)
    (halone : SentAlone system index a) {ref : MessageRef} (href : ref ∈ messageRefs system.db) :
    ref.attachmentId ≠ some a := by
  intro ha
  obtain ⟨j, other, hne, hother, hsaved⟩ := h.unsent index call hcall a hloaded ref href ha
  exact (halone j (List.getElem?_eq_some_iff.mp hother).1 hne other hother).2 hsaved

/-- A call that moves takes away only what it saves itself. -/
theorem SavedElsewhere.set {calls : List AttachmentCall} {k : Nat} {a : ObjectId}
    (h : SavedElsewhere calls k a) (hcall : calls[index]? = some call)
    (hother : savedBy call = some a → k = index) : SavedElsewhere (calls.set index call') k a := by
  obtain ⟨j, other, hne, hj, hsaves⟩ := h
  have hji : j ≠ index := by
    rintro rfl
    obtain rfl : call = other := Option.some.inj (hcall.symm.trans hj)
    exact hne (hother hsaves).symm
  exact ⟨j, other, hne, (List.getElem?_set_ne (Ne.symm hji)).trans hj, hsaves⟩

/-- The move of a call that keeps apart from the others. -/
theorem OverlapInv.move (h : OverlapInv system) (hdb : AttachmentsSound system.db)
    (hcall : system.calls[index]? = some call) (hmove : AttachmentMove system.db db' call call')
    (hkeep : attachedIds system.db ⊆ attachedIds db')
    (hcreated : ∀ a ∈ createdBy call, SentAlone system index a)
    (hsaved : ∀ a ∈ savedBy call, SentAlone system index a ∧
      ∀ other ∈ system.calls, draftOf other ≠ some a) :
    OverlapInv ⟨db', system.calls.set index call'⟩ := by
  have hself : call' ∈ system.calls.set index call' :=
    List.mem_set (List.getElem?_eq_some_iff.mp hcall).1 _
  refine ⟨?_, ?_, ?_⟩
  · intro ref href a ha
    -- the reference is an old one, or the one this step has created
    rcases hmove.refs ref href with hold | hnew
    · rcases h.sent ref hold a ha with hattached | ⟨other, hother, hsaves⟩
      · exact .inl (hkeep hattached)
      · obtain ⟨j, hj⟩ := List.mem_iff_getElem?.mp hother
        by_cases hji : j = index
        · -- the call that was about to save the attachment has saved it
          obtain rfl : call = other := Option.some.inj (hcall.symm.trans (hji ▸ hj))
          exact .inl (hmove.saved a hsaves)
        · have hj' := (List.getElem?_set_ne (a := call') (Ne.symm hji)).trans hj
          exact .inr ⟨other, List.mem_of_getElem? hj', hsaves⟩
    · exact .inr ⟨call', hself, (hnew a ha).2⟩
  · intro k other hother a hloads ref href ha
    -- the call that moves, or another one
    rcases (getElem?_set_eq_some hcall).mp hother with ⟨rfl, rfl⟩ | ⟨hk, hother⟩
    · rcases hmove.refs ref href with hold | hnew
      · rcases hmove.loaded a hloads with hloaded | ⟨hnone, x, hx, rfl, hstatus⟩
        · exact (h.unsent k call hcall a hloaded ref hold ha).set hcall fun _ => rfl
        · -- the check let an uploaded one pass, so it is not attached
          rcases h.sent ref hold x.id ha with hattached | ⟨other', hother', hsaves⟩
          · exact absurd hattached (hdb.not_mem_attachedIds hx (by rw [hstatus]; nofun))
          · obtain ⟨j, hj⟩ := List.mem_iff_getElem?.mp hother'
            have hne : j ≠ k := by
              rintro rfl
              obtain rfl : call = other' := Option.some.inj (hcall.symm.trans hj)
              cases hnone.symm.trans hsaves
            exact SavedElsewhere.set ⟨j, other', hne, hj, hsaves⟩ hcall fun _ => rfl
      · cases (loadedBy_of_savedBy (hnew a ha).2).symm.trans hloads
    · -- another call still holds the attachment, so this one neither creates nor saves with it
      have hlt := (List.getElem?_eq_some_iff.mp hother).1
      rcases hmove.refs ref href with hold | hnew
      · refine (h.unsent k other hother a hloads ref hold ha).set hcall fun hsaves => ?_
        exact absurd hloads ((hsaved a hsaves).1 k hlt hk other hother).1
      · exact absurd hloads (hcreated a (hnew a ha).1 k hlt hk other hother).1
  · intro other hother a hcopy hattached
    rcases List.mem_or_eq_of_mem_set hother with hold | rfl
    · -- the copy was there before, so nobody may save over it now
      rcases hmove.attached a hattached with hbefore | hsaves
      · exact h.drafts other hold a hcopy hbefore
      · exact (hsaved a hsaves).2 other hold hcopy
    · -- the copy was loaded in this step
      obtain ⟨hnone, x, hx, rfl, hstatus⟩ := hmove.drafts a hcopy
      rcases hmove.attached x.id hattached with hbefore | hsaves
      · exact hdb.not_mem_attachedIds hx (by rw [hstatus]; nofun) hbefore
      · cases hnone.symm.trans hsaves

/-- Calls that keep apart send nothing twice. -/
theorem OverlapInv.sendsOnce (h : OverlapInv system) {event : AttachmentEvent}
    (hok : Apart system event) : SendsOnce system event := by
  cases event with
  | call call => trivial
  | step index input =>
    intro call hcall
    unfold AttachmentCall.SendsOnce
    -- the creation comes after the check, and nobody else has created since
    split
    · rename_i args ctx attachment encrypted sentAt
      intro message hmessage
      have hne := h.not_referenced hcall rfl ((hok _ hcall).1 attachment.id rfl)
        (List.mem_map_of_mem hmessage)
      exact decide_eq_false hne
    · -- the save of a draft comes while the attachment is not attached
      rename_i args loaded uploadedAt
      intro hdraft
      exact h.drafts _ (List.mem_of_getElem? hcall) _ (if_pos hdraft)
    · trivial

end Overlap

/-! ## Runs -/

/-- What holds in every state of a run of calls that keep apart. -/
structure ApartInv (state : AttachmentSystem × List (List ObjectId)) : Prop where
  sound : AttachmentInv state
  overlap : OverlapInv state.1

theorem apartInv_start : ApartInv emptyAttachments where
  sound := ⟨⟨List.nodup_nil, fun _ => Nat.zero_le 1, fun _ ha => absurd ha List.not_mem_nil⟩,
    fun _ hcall => absurd hcall List.not_mem_nil, fun _ hids => absurd hids List.not_mem_nil⟩
  overlap :=
    { sent := fun _ href => absurd href List.not_mem_nil
      unsent := fun i _ hcall => by
        rw [emptyAttachments, List.getElem?_nil] at hcall
        cases hcall
      drafts := fun _ hcall => absurd hcall List.not_mem_nil }

theorem ApartInv.step {env : BackendEnv} {state state' : AttachmentSystem × List (List ObjectId)}
    {event : AttachmentEvent} (h : ApartInv state) (hok : Apart state.1 event)
    (hstep : notingAttached env state event = some state') : ApartInv state' := by
  refine ⟨h.sound.step (h.overlap.sendsOnce hok) hstep, ?_⟩
  obtain ⟨hnext, -⟩ := noting_eq_some.mp hstep
  -- a new call, or one of them moves
  rcases attachmentStep_eq_some hnext with ⟨call, -, hstart, heq⟩ |
    ⟨index, input, call, db', call', rfl, hcall, hmove, heq⟩
  · rw [heq]
    exact h.overlap.newCall hstart
  · have hholds := h.sound.holds call (List.mem_of_getElem? hcall)
    have hkeep := (h.sound.db.step hholds (h.overlap.sendsOnce hok call hcall)
      (attachmentCallStep_effect hmove)).attached
    rw [heq]
    exact h.overlap.move h.sound.db hcall (attachmentMove h.sound.db hholds hmove) hkeep
      (hok call hcall).1 (hok call hcall).2

/-- **Every attachment is sent at most once, and stays attached, when the calls with it do not
    overlap**: in every state of a run of both services from an empty database. -/
theorem attachedOnce_of_apart {env : BackendEnv} {events : List AttachmentEvent}
    {state : AttachmentSystem × List (List ObjectId)}
    (hok : Guarded (notingAttached env) (fun state event => Apart state.1 event) emptyAttachments
      events)
    (hrun : run (notingAttached env) emptyAttachments events = some state) : AttachedOnce state :=
  (run_invariant_of_guarded (fun _ _ _ h hok hstep => h.step hok hstep) apartInv_start hok
    hrun).sound.attachedOnce

/-! ## An attachment in two messages -/

/-- The next `count` steps of a call with the same input. -/
def callSteps (index count : Nat) (input : CallInput) : List AttachmentEvent :=
  List.replicate count (.step index input)

/-- User 1 makes a group, uploads a file for it and marks it as uploaded. -/
def uploadEvents : List AttachmentEvent :=
  .call (.chat createGroup.call) :: createGroup.inputs.map (.step 0) ++
    .call (.generatePresignedUploadUrl
      ⟨(digitId 1).toString, (digitId 3).toString, js "a.txt", js "text/plain", 5⟩ .start) ::
    callSteps 1 3 (plainInput 5 (digitId 8) []) ++
    .call (.markAttachmentUploaded
      ⟨(digitId 3).toString, (digitId 8).toString, (digitId 1).toString⟩ .start) ::
    callSteps 2 3 (plainInput 6 (digitId 0) [])

/-- User 1 sends the file to the group. -/
def sendFile : AttachmentEvent :=
  .call (.chat (.sendMessage
    ⟨(digitId 3).toString, (digitId 1).toString, [], (digitId 8).toString, false⟩ .start))

/-- User 1 sends the file, and then once more. -/
def sentAgain : List AttachmentEvent :=
  uploadEvents ++ sendFile :: callSteps 3 8 (plainInput 7 (digitId 9) []) ++
    sendFile :: callSteps 4 3 (plainInput 8 (digitId 10) [])

/-- The second call is refused. -/
theorem attachedOnce_sentAgain :
    ∃ state, run (notingAttached plainEnv) emptyAttachments sentAgain = some state ∧
      state.1.calls[4]? = some (.chat (.sendMessage
        ⟨(digitId 3).toString, (digitId 1).toString, [], (digitId 8).toString, false⟩
        (.threw (.badRequest "ATTACHMENT_NOT_READY" "Attachment upload is not ready")))) ∧
      AttachedOnce state := by
  obtain ⟨state, hrun, hcall⟩ : ∃ state,
      run (notingAttached plainEnv) emptyAttachments sentAgain = some state ∧
        state.1.calls[4]? = some (.chat (.sendMessage
          ⟨(digitId 3).toString, (digitId 1).toString, [], (digitId 8).toString, false⟩
          (.threw (.badRequest "ATTACHMENT_NOT_READY" "Attachment upload is not ready")))) :=
    ⟨_, rfl, by decide +kernel⟩
  exact ⟨state, hrun, hcall, attachedOnce_of_apart (by decide +kernel) hrun⟩

/-- Two requests that send the file at the same time both send it. -/
theorem file_sent_twice :
    ∃ state, run (notingAttached plainEnv) emptyAttachments
        (uploadEvents ++ [sendFile, sendFile] ++ callSteps 3 3 (plainInput 7 (digitId 0) []) ++
          callSteps 4 3 (plainInput 8 (digitId 0) []) ++
          callSteps 3 5 (plainInput 9 (digitId 9) []) ++
          callSteps 4 5 (plainInput 10 (digitId 10) [])) = some state ∧
      state.1.db.messages.map (fun m => (m.id, m.attachment.map MessageAttachment.attachmentId)) =
        [(digitId 9, some (digitId 8)), (digitId 10, some (digitId 8))] ∧
      ¬ AttachedOnce state := by
  refine ⟨_, rfl, rfl, fun h => ?_⟩
  exact absurd (h.once (digitId 8)) (by decide +kernel)

end ChatSC.Spec
