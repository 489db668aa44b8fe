import ChatSC.Spec.GatewayRuns

/-!
# What a message does to the collections

`sendMessage` changes nothing but participants until it creates the message (`OnlyParticipants`), and
what follows leaves the documents of other conversations as they are (`MessageStored`).  The answer
of the chat bot is stored alike, and a reading changes nothing of a message but whether it was seen
(`OnlySeen`).
-/

namespace ChatSC.Spec

open Backend Collection Transition

/-- Nothing but the participants has changed. -/
def OnlyParticipants (before db : ChatDb) : Prop :=
  db = { before with participants := db.participants }

/-- A message has been added, and the other conversations are as before. -/
structure MessageStored (before db : ChatDb) (message : Message) : Prop where
  messages : db.messages = before.messages ++ [message]
  others : ∀ conversation ∈ db.conversations, conversation.id ≠ message.conversationId →
    conversation ∈ before.conversations

section Stored

variable {before db : ChatDb} {message : Message}

theorem OnlyParticipants.refl (db : ChatDb) : OnlyParticipants db db := rfl

theorem OnlyParticipants.update (h : OnlyParticipants before db)
    (isMatch : ConversationParticipant → Bool)
    (change : ConversationParticipant → ConversationParticipant) :
    OnlyParticipants before (db.updateParticipant isMatch change) := by
  unfold OnlyParticipants at h ⊢
  rw [h]
  rfl

theorem OnlyParticipants.stored (h : OnlyParticipants before db) (message : Message) :
    MessageStored before (db.createMessage message) message := by
  rw [h]
  exact ⟨rfl, fun _ hmem _ => hmem⟩

theorem MessageStored.congr {db' : ChatDb} (h : MessageStored before db message)
    (hmessages : db'.messages = db.messages) (hconversations : db'.conversations = db.conversations) :
    MessageStored before db' message where
  messages := by rw [hmessages, h.messages]
  others := by
    rw [hconversations]
    exact h.others

theorem MessageStored.touch (h : MessageStored before db message) (lastMessageAt now : Date) :
    MessageStored before (db.touchConversation message.conversationId lastMessageAt now) message where
  messages := h.messages
  others := by
    intro conversation hmem hne
    rcases mem_of_mem_updateOne hmem with hold | ⟨old, -, hid, rfl⟩
    · exact h.others conversation hold hne
    · exact absurd (of_decide_eq_true hid) hne

end Stored

/-! ## `sendMessage` -/

section Send

variable {env : BackendEnv} {before db : ChatDb} {args : SendArgs}

/-- An attachment is one that was asked for. -/
def AskedFor (args : SendArgs) (attachment : Option ChatAttachment) : Prop :=
  args.attachmentId = [] → attachment = none

/-- What a call has stored so far. -/
def StoreProgress (before : ChatDb) (args : SendArgs) (db : ChatDb) : SendPc → Prop
  | .start | .findingConversation _ | .findingParticipants _ | .restoring _ _ _ | .refetching _ _
  | .threw _ => OnlyParticipants before db
  | .findingAttachment _ _ => OnlyParticipants before db ∧ args.attachmentId ≠ []
  | .encrypting _ attachment | .creating _ attachment _ _ =>
    OnlyParticipants before db ∧ AskedFor args attachment
  | .savingAttachment ctx message _ _ | .updatingConversation ctx message =>
    MessageStored before db message ∧ ctx.conversation = message.conversationId ∧
      (args.attachmentId = [] → message.attachment = none)
  | .updatingSender _ message | .incrementing _ message | .returned message _ =>
    MessageStored before db message ∧ (args.attachmentId = [] → message.attachment = none)

theorem storeProgress_sendEncrypt (h : OnlyParticipants before db) (ctx : SendContext)
    {attachment : Option ChatAttachment} (hasked : AskedFor args attachment) (now : Date) :
    StoreProgress before args db (sendEncrypt args ctx attachment now) := by
  unfold sendEncrypt
  split
  · exact h
  · split <;> exact ⟨h, hasked⟩

theorem storeProgress_sendAttachment (h : OnlyParticipants before db) (ctx : SendContext)
    (now : Date) : StoreProgress before args db (sendAttachment args ctx now) := by
  unfold sendAttachment
  split
  · exact storeProgress_sendEncrypt h ctx (fun _ => rfl) now
  · rename_i hnonempty
    split
    · exact h
    · exact ⟨h, hnonempty⟩

theorem attachment_newMessage {attachment : Option ChatAttachment} (hasked : AskedFor args attachment)
    (ctx : SendContext) (encrypted : EncryptedContent) (sentAt : Date) (id : ObjectId)
    (hempty : args.attachmentId = []) :
    (newMessage args ctx attachment encrypted sentAt id).attachment = none := by
  rw [hasked hempty]
  rfl

/-- A step of `sendMessage`. -/
theorem StoreProgress.step {db' : ChatDb} {input : CallInput} {pc pc' : SendPc}
    (h : StoreProgress before args db pc) (hstep : sendStep env db args input pc = some (db', pc')) :
    StoreProgress before args db' pc' := by
  cases sendStep_cases hstep with
  | refused error => exact h
  | sender participant hnonempty hsender => exact h
  | direct ctx conversation hfound hdirect => exact h
  | notDirect ctx => exact storeProgress_sendAttachment h ctx _
  | nothingToRestore ctx => exact storeProgress_sendAttachment h ctx _
  | toRestore ctx => exact h
  | restoredLast ctx toRestore left record hrecord => exact h.update _ _
  | restored ctx toRestore left record hrecord => exact h.update _ _
  | refetched ctx toRestore => exact storeProgress_sendAttachment h _ _
  | badAttachment ctx attachment error => exact h.1
  | attachment ctx attachment found hfound =>
    exact storeProgress_sendEncrypt h.1 ctx (fun hempty => absurd hempty h.2) _
  | encryptionFailed ctx attachment error => exact h.1
  | encrypted ctx attachment encrypted hencrypted => exact h
  | createdWith ctx attachment encrypted sentAt hfresh =>
    exact ⟨h.1.stored _, rfl, attachment_newMessage h.2 ctx encrypted sentAt _⟩
  | created ctx encrypted sentAt hfresh =>
    exact ⟨h.1.stored _, rfl, attachment_newMessage h.2 ctx encrypted sentAt _⟩
  | attached ctx message attachment confirmedAt => exact ⟨h.1.congr rfl rfl, h.2⟩
  | touched ctx message =>
    obtain ⟨hstored, hctx, hattachment⟩ := h
    rw [hctx]
    exact ⟨hstored.touch _ _, hattachment⟩
  | marked ctx message => exact ⟨h.1.congr rfl rfl, h.2⟩
  | counted ctx message => exact ⟨h.1.congr rfl rfl, h.2⟩

/-- A call that has the database for itself. -/
theorem storeProgress_of_run {inputs : List CallInput} {call : ChatCall}
    (hrun : run (aloneStep env) (before, .sendMessage args .start) inputs = some (db, call)) :
    ∃ pc, call = .sendMessage args pc ∧ StoreProgress before args db pc := by
  have hstart : StoreProgress before args before .start := OnlyParticipants.refl before
  exact run_alone (fun _ _ _ => rfl) (fun _ _ _ _ _ hprogress h => hprogress.step h) hstart hrun

end Send

/-! ## `sendAiBotMessage` -/

section AiBot

variable {before db : ChatDb} {args : AiBotArgs}

/-- What an answer of the chat bot has stored so far. -/
def AiBotProgress (before db : ChatDb) : AiBotPc → Prop
  | .start | .threw _ => db = before
  | .updatingConversation message | .incrementing message | .returned message =>
    MessageStored before db message ∧ message.attachment = none ∧
      message.reverseEncryptionState = .legacy

/-- A step of `sendAiBotMessage`. -/
theorem AiBotProgress.step {db' : ChatDb} {input : CallInput} {pc pc' : AiBotPc}
    (h : AiBotProgress before db pc) (hstep : aiBotStep db args input pc = some (db', pc')) :
    AiBotProgress before db' pc' := by
  cases aiBotStep_cases hstep with
  | invalidIds hinvalid => exact h
  | created c requester hc hrequester hfresh =>
    obtain rfl : db = before := h
    exact ⟨(OnlyParticipants.refl db).stored _, rfl, rfl⟩
  | touched message => exact ⟨h.1.touch _ _, h.2⟩
  | counted message => exact ⟨h.1.congr rfl rfl, h.2⟩

/-- An answer as a whole. -/
theorem aiBotProgress_of_run {inputs : List CallInput} {pc : AiBotPc}
    (hrun : run (fun (state : ChatDb × AiBotPc) input => aiBotStep state.1 args input state.2)
      (before, .start) inputs = some (db, pc)) : AiBotProgress before db pc := by
  have hstart : AiBotProgress before before .start := rfl
  have hkeep : ∀ (state : ChatDb × AiBotPc) (input : CallInput) (state' : ChatDb × AiBotPc),
      AiBotProgress before state.1 state.2 →
      aiBotStep state.1 args input state.2 = some state' →
      AiBotProgress before state'.1 state'.2 := fun _ _ _ h hstep => h.step hstep
  exact run_invariant hkeep (s := (before, AiBotPc.start)) hstart hrun

end AiBot

/-! ## `markConversationRead` -/

section Read

variable {env : BackendEnv} {before db : ChatDb} {args : MemberArgs}

/-- The conversations are the same, and of a message only whether it was seen has changed. -/
structure OnlySeen (before db : ChatDb) : Prop where
  messages : db.messages.map unseen = before.messages.map unseen
  conversations : db.conversations = before.conversations

/-- A step of `markConversationRead`. -/
theorem OnlySeen.step {db' : ChatDb} {input : CallInput} {pc pc' : MarkReadPc}
    (h : OnlySeen before db) (hstep : markReadStep db args input pc = some (db', pc')) :
    OnlySeen before db' := by
  cases markReadStep_cases hstep with
  | seen c message others =>
    refine ⟨?_, h.conversations⟩
    rw [← h.messages]
    exact map_updateMany fun _ => rfl
  | _ => exact ⟨h.messages, h.conversations⟩

/-- A reading that has the database for itself. -/
theorem onlySeen_of_run {pc : MarkReadPc} {inputs : List CallInput} {call : ChatCall}
    (hrun : run (aloneStep env) (before, .markConversationRead args pc) inputs = some (db, call)) :
    OnlySeen before db := by
  have hstart : OnlySeen before before := ⟨rfl, rfl⟩
  obtain ⟨-, -, hseen⟩ := run_alone (P := fun db _ => OnlySeen before db) (fun _ _ _ => rfl)
    (fun _ _ _ _ _ hseen h => hseen.step h) hstart hrun
  exact hseen

end Read

end ChatSC.Spec
