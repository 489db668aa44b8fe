import ChatSC.ForStd.Records
import ChatSC.Spec.CallSteps
import ChatSC.Spec.MembershipSteps
import ChatSC.Backend.ConversationPreviews

/-!
# What messages and readings do to the stored counters

`storedCount` is the counter of an active participant.  A message changes counters of its own
conversation only (`keepsOthers_send`, `keepsOthers_aiBot`), a reading only that of the reader
(`countReset_markRead`), and a preview has the counter of its user (`preview_spec`).
-/

namespace ChatSC.Spec

open Backend Collection Transition

/-- The counter that is stored for a user who is an active participant. -/
def storedCount (db : ChatDb) (c u : ObjectId) : Option Nat :=
  (db.findActive c u).map ConversationParticipant.unreadCount

/-! ## Other conversations -/

/-- The conversation of each record. -/
def recordKeys (db : ChatDb) : List (ObjectId × ObjectId) :=
  db.participants.map fun p => (p.id, p.conversationId)

/-- The participants of other conversations are as before, and no record has changed its
    conversation. -/
structure KeepsOthers (c : ObjectId) (before db : ChatDb) : Prop where
  keys : recordKeys db = recordKeys before
  others : db.participants.filter (·.conversationId ≠ c) =
    before.participants.filter (·.conversationId ≠ c)

/-- A record is one of the conversation. -/
def InConversation (before : ChatDb) (c record : ObjectId) : Prop :=
  ∀ key ∈ recordKeys before, key.1 = record → key.2 = c

section Frame

variable {c : ObjectId} {before db : ChatDb}

theorem KeepsOthers.refl (c : ObjectId) (db : ChatDb) : KeepsOthers c db db := ⟨rfl, rfl⟩

theorem KeepsOthers.ids (h : KeepsOthers c before db) :
    db.participants.map ConversationParticipant.id =
      before.participants.map ConversationParticipant.id := by
  have hfst := congrArg (List.map Prod.fst) h.keys
  rwa [recordKeys, recordKeys, List.map_map, List.map_map] at hfst

theorem KeepsOthers.of_participants {db' : ChatDb} (h : KeepsOthers c before db)
    (hsame : db'.participants = db.participants) : KeepsOthers c before db' where
  keys := by
    rw [recordKeys, hsame]
    exact h.keys
  others := by
    rw [hsame]
    exact h.others

/-- Counters of other conversations are as before. -/
theorem KeepsOthers.storedCount_eq (h : KeepsOthers c before db) {c' : ObjectId} (hne : c' ≠ c)
    (u : ObjectId) : storedCount db c' u = storedCount before c' u := by
  have hfind : ∀ db : ChatDb, db.findActive c' u =
      (db.participants.filter (·.conversationId ≠ c)).find? (ChatDb.isActiveOf c' u) := by
    intro db
    rw [List.find?_filter, ChatDb.findActive]
    congr 1
    funext p
    by_cases hp : p.conversationId = c'
    · simp [ChatDb.isActiveOf, hp, hne]
    · simp [ChatDb.isActiveOf, hp]
  rw [storedCount, storedCount, hfind, hfind, h.others]

theorem inConversation_of_mem (hids : (before.participants.map ConversationParticipant.id).Nodup)
    (hkeys : recordKeys db = recordKeys before) {p : ConversationParticipant}
    (hp : p ∈ db.participants) : InConversation before p.conversationId p.id := by
  intro key hkey hid
  have hmem : (p.id, p.conversationId) ∈ recordKeys before := hkeys ▸ List.mem_map_of_mem hp
  have hnodup : ((recordKeys before).map Prod.fst).Nodup := by
    rw [recordKeys, List.map_map]
    exact hids
  rw [List.inj_on_of_nodup_map hnodup hkey hmem hid]

/-- An update of a record of the conversation. -/
theorem KeepsOthers.update (h : KeepsOthers c before db) {record : ObjectId}
    (hrecord : InConversation before c record)
    {change : ConversationParticipant → ConversationParticipant}
    (hkeep : ∀ p, (change p).id = p.id ∧ (change p).conversationId = p.conversationId) :
    KeepsOthers c before (db.updateParticipant (·.id = record) change) where
  keys := by
    rw [← h.keys]
    refine map_updateOne fun p => ?_
    rw [(hkeep p).1, (hkeep p).2]
  others := by
    rw [← h.others]
    refine filter_updateOne fun p hp hid => ?_
    have hmem : (p.id, p.conversationId) ∈ recordKeys before := h.keys ▸ List.mem_map_of_mem hp
    have hconversation : p.conversationId = c := hrecord _ hmem (of_decide_eq_true hid)
    simp [hkeep p, hconversation]

theorem KeepsOthers.incrementUnread (h : KeepsOthers c before db) (sender : ObjectId) :
    KeepsOthers c before (db.incrementUnread c sender) where
  keys := by
    rw [← h.keys]
    exact map_updateMany fun _ => rfl
  others := by
    rw [← h.others]
    refine filter_updateMany fun p _ hmatch => ?_
    simp only [ChatDb.isOtherActive, Bool.and_eq_true, decide_eq_true_eq] at hmatch
    simp [hmatch.1.1]

end Frame

/-! ## Messages -/

section Send

variable {env : BackendEnv} {c : ObjectId} {before db db' : ChatDb} {args : SendArgs}
  {input : CallInput}

/-- The conversation and the sender's record of a call. -/
def OfConversation (before : ChatDb) (c : ObjectId) (ctx : SendContext) : Prop :=
  ctx.conversation = c ∧ InConversation before c ctx.activeSender

/-- The records that `sendMessage` has still to update are of the conversation. -/
def SendRecords (before : ChatDb) (c : ObjectId) : SendPc → Prop
  | .start | .threw _ => True
  | .findingConversation ctx | .findingParticipants ctx | .refetching ctx _
  | .findingAttachment ctx _ | .encrypting ctx _ | .creating ctx _ _ _ =>
    OfConversation before c ctx
  | .restoring ctx _ left =>
    OfConversation before c ctx ∧ ∀ record ∈ left, InConversation before c record
  | .savingAttachment ctx message _ _ | .updatingConversation ctx message
  | .updatingSender ctx message | .incrementing ctx message =>
    OfConversation before c ctx ∧ message.conversationId = c
  | .returned message _ => message.conversationId = c

theorem sendRecords_sendEncrypt {ctx : SendContext} (h : OfConversation before c ctx)
    (attachment : Option ChatAttachment) (now : Date) :
    SendRecords before c (sendEncrypt args ctx attachment now) := by
  unfold sendEncrypt
  split
  · trivial
  · split <;> exact h

theorem sendRecords_sendAttachment {ctx : SendContext} (h : OfConversation before c ctx)
    (now : Date) : SendRecords before c (sendAttachment args ctx now) := by
  unfold sendAttachment
  split
  · exact sendRecords_sendEncrypt h none now
  · split
    · trivial
    · exact h

/-- A step of `sendMessage` keeps the other conversations. -/
theorem keepsOthers_sendStep
    (hids : (before.participants.map ConversationParticipant.id).Nodup)
    (hc : ObjectId.ofString? args.conversationId = some c) {pc pc' : SendPc}
    (h : KeepsOthers c before db ∧ SendRecords before c pc)
    (hstep : sendStep env db args input pc = some (db', pc')) :
    KeepsOthers c before db' ∧ SendRecords before c pc' := by
  obtain ⟨hkeeps, hrecords⟩ := h
  cases sendStep_cases hstep with
  | refused error => exact ⟨hkeeps, trivial⟩
  | sender participant hnonempty hsender =>
    obtain ⟨hconversation, -, hfound⟩ := getRequiredActiveParticipant_ok hsender
    obtain rfl : c = participant.conversationId := Option.some.inj (hc.symm.trans hconversation)
    exact ⟨hkeeps, rfl, inConversation_of_mem hids hkeeps.keys (findActive_eq_some hfound).1⟩
  | direct ctx conversation hfound hdirect => exact ⟨hkeeps, hrecords⟩
  | notDirect ctx => exact ⟨hkeeps, sendRecords_sendAttachment hrecords _⟩
  | nothingToRestore ctx => exact ⟨hkeeps, sendRecords_sendAttachment hrecords _⟩
  | toRestore ctx =>
    refine ⟨hkeeps, hrecords, fun record hrecord => ?_⟩
    -- those to restore are participants of the conversation
    obtain ⟨p, hp, rfl⟩ := List.mem_map.mp hrecord
    have hfound := (List.mergeSort_perm _ _).mem_iff.mp (List.mem_of_mem_filter hp)
    obtain ⟨hmem, hconversation⟩ := List.mem_filter.mp hfound
    have hin := inConversation_of_mem hids hkeeps.keys hmem
    rwa [of_decide_eq_true hconversation, hrecords.1] at hin
  | restoredLast ctx toRestore left record hrecord =>
    exact ⟨hkeeps.update (hrecords.2 record hrecord) fun _ => ⟨rfl, rfl⟩, hrecords.1⟩
  | restored ctx toRestore left record hrecord =>
    refine ⟨hkeeps.update (hrecords.2 record hrecord) fun _ => ⟨rfl, rfl⟩, hrecords.1, ?_⟩
    exact fun other hother => hrecords.2 other (List.mem_of_mem_eraseIdx hother)
  | refetched ctx toRestore =>
    have hctx : OfConversation before c
        { ctx with restored := db.participants.filter (·.id ∈ toRestore) } := hrecords
    exact ⟨hkeeps, sendRecords_sendAttachment hctx _⟩
  | badAttachment ctx attachment error => exact ⟨hkeeps, trivial⟩
  | attachment ctx attachment found hfound => exact ⟨hkeeps, sendRecords_sendEncrypt hrecords _ _⟩
  | encryptionFailed ctx attachment error => exact ⟨hkeeps, trivial⟩
  | encrypted ctx attachment encrypted hencrypted => exact ⟨hkeeps, hrecords⟩
  | createdWith ctx attachment encrypted sentAt hfresh =>
    exact ⟨hkeeps.of_participants rfl, hrecords, hrecords.1⟩
  | created ctx encrypted sentAt hfresh =>
    exact ⟨hkeeps.of_participants rfl, hrecords, hrecords.1⟩
  | attached ctx message attachment confirmedAt => exact ⟨hkeeps.of_participants rfl, hrecords⟩
  | touched ctx message => exact ⟨hkeeps.of_participants rfl, hrecords⟩
  | marked ctx message =>
    exact ⟨hkeeps.update hrecords.1.2 fun _ => ⟨rfl, rfl⟩, hrecords⟩
  | counted ctx message =>
    obtain ⟨⟨rfl, -⟩, hmessage⟩ := hrecords
    exact ⟨hkeeps.incrementUnread ctx.sender, hmessage⟩

/-- A message as a whole. -/
theorem keepsOthers_send (hids : (before.participants.map ConversationParticipant.id).Nodup)
    (hc : ObjectId.ofString? args.conversationId = some c) {inputs : List CallInput}
    {args' : SendArgs} {message : Message} {restored : List ConversationParticipant}
    (hrun : run (aloneStep env) (before, .sendMessage args .start) inputs =
      some (db, .sendMessage args' (.returned message restored))) :
    KeepsOthers c before db ∧ message.conversationId = c := by
  have hstart : KeepsOthers c before before ∧ SendRecords before c .start := ⟨.refl c before, trivial⟩
  obtain ⟨pc, hpc, hkeeps⟩ := run_alone (fun _ _ _ => rfl)
    (fun _ _ _ _ _ h hstep => keepsOthers_sendStep hids hc h hstep) hstart hrun
  cases hpc
  exact hkeeps

end Send

/-! ## Answers of the chat bot -/

section AiBot

variable {c : ObjectId} {before db : ChatDb} {args : AiBotArgs}

/-- The message of a call is of the conversation. -/
def AiBotRecords (c : ObjectId) : AiBotPc → Prop
  | .start | .threw _ => True
  | .updatingConversation message | .incrementing message | .returned message =>
    message.conversationId = c

/-- A step of `sendAiBotMessage` keeps the other conversations. -/
theorem keepsOthers_aiBotStep (hc : ObjectId.ofString? args.conversationId = some c)
    {db' : ChatDb} {input : CallInput} {pc pc' : AiBotPc}
    (h : KeepsOthers c before db ∧ AiBotRecords c pc)
    (hstep : aiBotStep db args input pc = some (db', pc')) :
    KeepsOthers c before db' ∧ AiBotRecords c pc' := by
  obtain ⟨hkeeps, hrecords⟩ := h
  cases aiBotStep_cases hstep with
  | invalidIds hinvalid => exact ⟨hkeeps, trivial⟩
  | created conversation requester hconversation hrequester hfresh =>
    -- the message is of the conversation that the call is for
    exact ⟨hkeeps.of_participants rfl, Option.some.inj (hconversation.symm.trans hc)⟩
  | touched message => exact ⟨hkeeps.of_participants rfl, hrecords⟩
  | counted message =>
    obtain rfl : message.conversationId = c := hrecords
    exact ⟨hkeeps.incrementUnread message.senderId, rfl⟩

/-- An answer as a whole. -/
theorem keepsOthers_aiBot (hc : ObjectId.ofString? args.conversationId = some c)
    {inputs : List CallInput} {message : Message}
    (hrun : run (fun (state : ChatDb × AiBotPc) input => aiBotStep state.1 args input state.2)
      (before, .start) inputs = some (db, .returned message)) :
    KeepsOthers c before db ∧ message.conversationId = c := by
  have hstart : KeepsOthers c before before ∧ AiBotRecords c .start := ⟨.refl c before, trivial⟩
  have hkeep : ∀ (state : ChatDb × AiBotPc) (input : CallInput) (state' : ChatDb × AiBotPc),
      KeepsOthers c before state.1 ∧ AiBotRecords c state.2 →
      aiBotStep state.1 args input state.2 = some state' →
      KeepsOthers c before state'.1 ∧ AiBotRecords c state'.2 :=
    fun _ _ _ h hstep => keepsOthers_aiBotStep hc h hstep
  exact run_invariant hkeep (s := (before, AiBotPc.start)) hstart hrun

end AiBot

/-! ## Readings -/

section Reading

variable {env : BackendEnv} {c u : ObjectId} {before db : ChatDb} {args : MemberArgs}

/-- The reader's counter is set to zero, in the active record that is found. -/
def CountReset (before : ChatDb) (c u : ObjectId) (db : ChatDb) : Prop :=
  ∃ p, before.findActive c u = some p ∧
    ∃ change : ConversationParticipant → ConversationParticipant,
      (∀ q, (change q).id = q.id ∧ (change q).conversationId = q.conversationId ∧
        (change q).userId = q.userId ∧ (change q).status = q.status ∧ (change q).unreadCount = 0) ∧
      db.participants = updateOne (·.id = p.id) change before.participants

/-- What `markConversationRead` has done so far to the participants. -/
def ReadProgress (before : ChatDb) (c u : ObjectId) (db : ChatDb) : MarkReadPc → Prop
  | .guarding | .start | .threw _ => db = before
  | .findingLatest _ record | .updatingMarker _ record _ _ =>
    db = before ∧ ∃ p, before.findActive c u = some p ∧ p.id = record
  | .findingParticipants _ _ | .updatingMessages _ _ _ | .returned _ => CountReset before c u db

/-- A step of `markConversationRead`. -/
theorem ReadProgress.step (hc : ObjectId.ofString? args.conversationId = some c)
    (hu : ObjectId.ofString? args.userId = some u) {db' : ChatDb} {input : CallInput}
    {pc pc' : MarkReadPc} (h : ReadProgress before c u db pc)
    (hstep : markReadStep db args input pc = some (db', pc')) : ReadProgress before c u db' pc' := by
  cases markReadStep_cases hstep with
  | refused error => exact h
  | passed participant hguard => exact h
  | notMember error => exact h
  | member participant hmember =>
    obtain rfl : db = before := h
    obtain ⟨hconversation, huser, hfound⟩ := getRequiredActiveParticipant_ok hmember
    -- the record that is found is the one of the reader
    cases hc.symm.trans hconversation
    cases hu.symm.trans huser
    exact ⟨rfl, participant, hfound, rfl⟩
  | latest c participant => exact h
  | reset c participant lastReadAt =>
    obtain ⟨rfl, p, hfound, rfl⟩ := h
    refine ⟨p, hfound, fun q => { q with unreadCount := 0 }, fun q => ?_, rfl⟩
    exact ⟨rfl, rfl, rfl, rfl, rfl⟩
  | marked c participant message lastReadAt =>
    obtain ⟨rfl, p, hfound, rfl⟩ := h
    refine ⟨p, hfound, fun q =>
      { q with
        lastReadMessageId := some message.id
        lastReadAt := some lastReadAt
        unreadCount := 0 }, fun q => ?_, rfl⟩
    exact ⟨rfl, rfl, rfl, rfl, rfl⟩
  | noOthers c message hnone => exact h
  | others c message => exact h
  | seen c message others => exact h

/-- A reading as a whole. -/
theorem countReset_markRead (hc : ObjectId.ofString? args.conversationId = some c)
    (hu : ObjectId.ofString? args.userId = some u) {pc : MarkReadPc}
    (hpc : pc = .guarding ∨ pc = .start) {inputs : List CallInput} {args' : MemberArgs}
    {last : Option ObjectId}
    (hrun : run (aloneStep env) (before, .markConversationRead args pc) inputs =
      some (db, .markConversationRead args' (.returned last))) : CountReset before c u db := by
  have hstart : ReadProgress before c u before pc := by
    rcases hpc with rfl | rfl
    · rfl
    · rfl
  obtain ⟨pc', hpc', hprogress⟩ := run_alone (fun _ _ _ => rfl)
    (fun _ _ _ _ _ h hstep => ReadProgress.step hc hu h hstep) hstart hrun
  cases hpc'
  exact hprogress

/-- A reading keeps the ids of the records. -/
theorem CountReset.ids (h : CountReset before c u db) :
    db.participants.map ConversationParticipant.id =
      before.participants.map ConversationParticipant.id := by
  obtain ⟨p, -, change, hchange, hparticipants⟩ := h
  rw [hparticipants]
  exact map_updateOne fun q => (hchange q).1

/-- A reading sets one counter to zero, and leaves all others. -/
theorem CountReset.storedCount_eq (h : CountReset before c u db)
    (hids : (before.participants.map ConversationParticipant.id).Nodup) (c' u' : ObjectId) :
    storedCount db c' u' = if c' = c ∧ u' = u then some 0 else storedCount before c' u' := by
  obtain ⟨p, hfound, change, hchange, hparticipants⟩ := h
  obtain ⟨hp, hpc, hpu, -⟩ := findActive_eq_some hfound
  -- ids are unique, so the update of one record is an update of all with its id
  have hmany : db.participants = before.participants.map fun q =>
      if q.id = p.id then change q else q := by
    rw [hparticipants, updateOne_eq_updateMany hids fun x _ y _ hx hy =>
      (of_decide_eq_true hx).trans (of_decide_eq_true hy).symm, updateMany]
    simp only [decide_eq_true_eq]
  -- the change keeps what a record is found by
  have hfind : db.findActive c' u' = (before.findActive c' u').map fun q =>
      if q.id = p.id then change q else q := by
    rw [ChatDb.findActive, hmany, List.find?_map, ChatDb.findActive]
    congr 2
    funext q
    obtain ⟨-, hconversation, huser, hstatus, -⟩ := hchange q
    by_cases hq : q.id = p.id
    · simp [ChatDb.isActiveOf, hq, hconversation, huser, hstatus]
    · simp [ChatDb.isActiveOf, hq]
  rw [storedCount, hfind]
  by_cases hreader : c' = c ∧ u' = u
  · obtain ⟨rfl, rfl⟩ := hreader
    simp [hfound, hchange p]
  · rw [if_neg hreader, storedCount, Option.map_map]
    cases hother : before.findActive c' u' with
    | none => rfl
    | some q =>
      obtain ⟨hq, hqc, hqu, -⟩ := findActive_eq_some hother
      -- another participant has another record
      have hne : q.id ≠ p.id := by
        intro heq
        obtain rfl := List.inj_on_of_nodup_map hids hq hp heq
        exact hreader ⟨hqc.symm.trans hpc, hqu.symm.trans hpu⟩
      simp [hne]

end Reading

/-! ## Previews -/

section Previews

variable {env : BackendEnv} {input : ObjectId → DisplayInput} {db : ChatDb}
  {conversationId : JsString} {c : ObjectId} {now : Date}
  {previews : List (ObjectId × ConversationPreviewPayload)}

/-- Each preview is one of the conversation, with the counter of its user. -/
theorem preview_spec
    (h : buildConversationPreviewPayloads env input db conversationId c now = some previews)
    {entry : ObjectId × ConversationPreviewPayload} (hentry : entry ∈ previews) :
    entry.2.conversationId = conversationId ∧
      entry.2.unreadCount = (storedCount db c entry.1).getD 0 := by
  obtain ⟨p, -, hp⟩ := Records.exists_of_mem_mapM h hentry
  obtain ⟨preview, hpreview, rfl⟩ := Option.map_eq_some_iff.mp hp
  obtain ⟨text, -, rfl⟩ := Option.map_eq_some_iff.mp hpreview
  exact ⟨rfl, rfl⟩

/-- Every active participant has a preview. -/
theorem mem_previews_of_storedCount
    (h : buildConversationPreviewPayloads env input db conversationId c now = some previews)
    {u : ObjectId} {count : Nat} (hcount : storedCount db c u = some count) :
    u ∈ previews.map Prod.fst := by
  have husers : previews.map Prod.fst =
      (db.findActiveParticipants c).map ConversationParticipant.userId := by
    refine Records.map_mapM (fun p entry hp => ?_) h
    obtain ⟨preview, -, rfl⟩ := Option.map_eq_some_iff.mp hp
    rfl
  obtain ⟨p, hfound, -⟩ := Option.map_eq_some_iff.mp hcount
  obtain ⟨hp, hconversation, rfl, hactive⟩ := findActive_eq_some hfound
  rw [husers]
  refine List.mem_map_of_mem (List.mem_filter.mpr ⟨hp, ?_⟩)
  simp [hconversation, hactive]

end Previews

end ChatSC.Spec
