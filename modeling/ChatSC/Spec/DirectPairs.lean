import ChatSC.Spec.DirectConversations
import Mathlib.Data.List.Induction

/-!
# The two users of a direct conversation

The records of a direct conversation belong to the user who created it and to the one user named in
the request, as long as `addMember` is not called for anybody else.  Records are never deleted and
never change their user, so `HasRecord` only grows.
-/

namespace ChatSC.Spec

open Backend Collection JsString Transition

/-- The user has a record in the conversation, of any status. -/
def HasRecord (db : ChatDb) (c u : ObjectId) : Prop :=
  ∃ p ∈ db.participants, p.conversationId = c ∧ p.userId = u

/-- The conversation and the user of every record. -/
def Membership.places (m : Membership) : List (ObjectId × ObjectId) :=
  m.members.map fun x => (x.conversation, x.user)

theorem hasRecord_iff {db : ChatDb} {c u : ObjectId} :
    HasRecord db c u ↔ (c, u) ∈ (membership db).places := by
  rw [Membership.places, membership, List.map_map, List.mem_map]
  constructor
  · rintro ⟨p, hp, rfl, rfl⟩
    exact ⟨p, hp, rfl⟩
  · rintro ⟨p, hp, heq⟩
    exact ⟨p, hp, congrArg Prod.fst heq, congrArg Prod.snd heq⟩

@[simp] theorem places_endMember (m : Membership) (c u : ObjectId) (status : ParticipantStatus) :
    (m.endMember c u status).places = m.places :=
  map_updateOne fun _ => rfl

@[simp] theorem places_restore (m : Membership) (record : ObjectId) :
    (m.restore record).places = m.places :=
  map_updateOne fun _ => rfl

@[simp] theorem places_addMembers (m : Membership) (members : List Member) :
    (m.addMembers members).places = m.places ++ members.map fun x => (x.conversation, x.user) := by
  simp [Membership.places, Membership.addMembers]

@[simp] theorem places_foldl_restore (m : Membership) (done : List ObjectId) :
    (done.foldl Membership.restore m).places = m.places := by
  induction done generalizing m with
  | nil => rfl
  | cons record done ih => rw [List.foldl_cons, ih, places_restore]

@[simp] theorem conversations_foldl_restore (m : Membership) (done : List ObjectId) :
    (done.foldl Membership.restore m).conversations = m.conversations := by
  induction done generalizing m with
  | nil => rfl
  | cons record done ih => exact ih (m.restore record)

/-- The users of a new direct conversation. -/
theorem newParticipants_direct {args : CreateArgs} {creator target : ObjectId} {targetId : JsString}
    (hargs : DirectArgs args creator target targetId) :
    newParticipants args = some [⟨creator, true⟩, ⟨target, false⟩] := by
  have hdistinct : distinct (args.creatorId :: args.participantIds) = [args.creatorId, targetId] := by
    rw [hargs.participants]
    simp [distinct, hargs.different]
  rw [newParticipants, hdistinct]
  simp [List.mapM_cons, hargs.creator_parsed, hargs.target_parsed, hargs.different]

/-- The operation that has made the conversation was a request of `creator` for a direct one with
    `target`. -/
def CreatedFor (env : BackendEnv) (attachments : List ChatAttachment) (operations : List Operation)
    (c creator target : ObjectId) : Prop :=
  ∃ (pre post : List Operation) (operation : Operation) (before after : ChatDb) (args : CreateArgs)
      (targetId : JsString),
    operations = pre ++ operation :: post ∧
    run (operationStep env) (ChatDb.start attachments) pre = some before ∧
    operationStep env before operation = some after ∧
    c ∉ before.conversations.map Conversation.id ∧ c ∈ after.conversations.map Conversation.id ∧
    operation.call = .createConversation args .start ∧ DirectArgs args creator target targetId

theorem CreatedFor.concat {env : BackendEnv} {attachments : List ChatAttachment}
    {operations : List Operation} {c creator target : ObjectId}
    (h : CreatedFor env attachments operations c creator target) (operation : Operation) :
    CreatedFor env attachments (operations ++ [operation]) c creator target := by
  obtain ⟨pre, post, first, before, after, args, targetId, rfl, hrest⟩ := h
  exact ⟨pre, post ++ [operation], first, before, after, args, targetId, by simp, hrest⟩

/-- The operation brings no third user into a direct conversation. -/
def KeepsPair (db : ChatDb) : ChatCall → Prop
  | .createConversation args _ => args.type = .direct → SpelledOnce args
  | .addMember args _ => ∀ actor u,
    getRequiredActiveParticipant db args.conversationId args.actorId = .ok actor →
      ObjectId.ofString? args.userId = some u → IsDirect db actor.conversationId →
        HasRecord db actor.conversationId u
  | _ => True

/-- The records of the conversation belong to two users. -/
def HasPair (db : ChatDb) (c creator target : ObjectId) : Prop :=
  creator ≠ target ∧ ∀ u, HasRecord db c u ↔ u = creator ∨ u = target

/-- The records of a new conversation. -/
theorem places_addConversation (m : Membership) (c : ObjectId) (type : ConversationType)
    {users : List NewParticipant} {ids : List ObjectId} (hids : ids.length = users.length) :
    ((m.addConversation c type).addMembers (newMembers c users ids)).places =
      m.places ++ users.map fun user => (c, user.userId) := by
  have hmembers : (newMembers c users ids).map (fun x => (x.conversation, x.user)) =
      users.map fun user => (c, user.userId) := map_zipWith_left (by intro user id; rfl) hids
  rw [places_addMembers, hmembers]
  rfl

/-- A new direct conversation has the records of the two users of its request. -/
theorem hasPair_new {before db : ChatDb} {args : CreateArgs} {creator target c : ObjectId}
    {targetId : JsString} {users : List NewParticipant} (hm : (membership before).WellFormed)
    (hspelled : SpelledOnce args) (hargs : DirectArgs args creator target targetId)
    (hfresh : c ∉ before.conversations.map Conversation.id)
    (husers : newParticipants args = some users)
    (hplaces : (membership db).places =
      (membership before).places ++ users.map fun user => (c, user.userId)) :
    HasPair db c creator target := by
  constructor
  · -- two different strings are not two spellings of one id
    intro hids
    have honce := hspelled args.creatorId List.mem_cons_self targetId (by
      rw [hargs.participants]
      exact List.mem_cons_of_mem _ List.mem_cons_self)
    apply hargs.different
    rw [hargs.creator_parsed, hargs.target_parsed, hids] at honce
    exact (honce rfl).symm
  · -- nobody has a record in a conversation that is new
    intro u
    have hempty : (c, u) ∉ (membership before).places := by
      intro hmem
      obtain ⟨x, hx, hxeq⟩ := List.mem_map.mp hmem
      have hconversation : x.conversation = c := congrArg Prod.fst hxeq
      have hknown := hm.member_known x hx
      rw [known_membership, hconversation] at hknown
      exact hfresh hknown
    have hboth := husers.symm.trans (newParticipants_direct hargs)
    rw [hasRecord_iff, hplaces, Option.some.inj hboth, List.mem_append]
    simp [hempty]

/-- What an operation does to a direct conversation: it was there and its users stay the same, or
    it is a new one of the two users of the request. -/
theorem pair_of_change {before db : ChatDb} {call : ChatCall} {c : ObjectId}
    (hm : (membership before).WellFormed) (hok : KeepsPair before call)
    (h : RosterChange before db call) (hdirect : IsDirect db c) :
    (IsDirect before c ∧ ∀ u, HasRecord db c u ↔ HasRecord before c u) ∨
    ∃ args creator target targetId, call = .createConversation args .start ∧
      DirectArgs args creator target targetId ∧ c ∉ before.conversations.map Conversation.id ∧
      HasPair db c creator target := by
  rw [isDirect_iff] at hdirect
  simp only [hasRecord_iff, isDirect_iff]
  cases h with
  | same h =>
    rw [h] at hdirect ⊢
    exact .inl ⟨hdirect, fun u => Iff.rfl⟩
  | created args conversation creator users ids entries hnew hids h =>
    have hplaces : (membership db).places = (membership before).places ++
        users.map fun user => (conversation.id, user.userId) := by
      rw [h]
      exact places_addConversation _ _ _ hids.1
    rw [h] at hdirect
    cases List.mem_append.mp hdirect with
    | inl hold =>
      -- an old conversation, in which the new records are not
      refine .inl ⟨hold, fun u => ?_⟩
      have hne : c ≠ conversation.id := by
        intro heq
        have hknown : c ∈ (membership before).known := List.mem_map_of_mem (f := Prod.fst) hold
        rw [known_membership, heq] at hknown
        exact hnew.id_fresh hknown
      rw [hplaces, List.mem_append]
      simp [hne.symm]
    | inr hsame =>
      have heq := List.mem_singleton.mp hsame
      obtain rfl : c = conversation.id := congrArg Prod.fst heq
      have htype : args.type = .direct := (congrArg Prod.snd heq).symm
      cases hnew.nothing_found with
      | inl hgroup => exact absurd (hgroup.symm.trans htype) nofun
      | inr hfound =>
        obtain ⟨creator', target, targetId, hargs, -⟩ := hfound
        exact .inr ⟨args, creator', target, targetId, rfl, hargs, hnew.id_fresh,
          hasPair_new hm (hok htype) hargs hnew.id_fresh hnew.users_parsed hplaces⟩
  | createdEmpty args c' hnothing hparsed hfresh h =>
    rw [h] at hdirect
    cases List.mem_append.mp hdirect with
    | inl hold =>
      refine .inl ⟨hold, fun u => ?_⟩
      rw [h]
      exact Iff.rfl
    | inr hsame =>
      have htype : args.type = .direct := (congrArg Prod.snd (List.mem_singleton.mp hsame)).symm
      cases hnothing with
      | inl hgroup => exact absurd (hgroup.symm.trans htype) nofun
      | inr hfound =>
        obtain ⟨creator, target, targetId, hargs, -⟩ := hfound
        exact absurd (hparsed.symm.trans (newParticipants_direct hargs)) nofun
  | added args actor u id entries hactor hu hnone hfresh h =>
    have hplaces : (membership db).places =
        (membership before).places ++ [(actor.conversationId, u)] := by
      rw [h]
      exact places_addMembers _ _
    rw [h] at hdirect
    have hold : (c, ConversationType.direct) ∈ (membership before).conversations := hdirect
    refine .inl ⟨hold, fun v => ?_⟩
    rw [hplaces, List.mem_append, List.mem_singleton, Prod.mk.injEq]
    constructor
    · rintro (hmem | ⟨rfl, rfl⟩)
      · exact hmem
      · exact hasRecord_iff.mp (hok actor v hactor hu (isDirect_iff.mpr hold))
    · exact .inl
  | ended c' u status entries hstatus h =>
    rw [h] at hdirect ⊢
    refine .inl ⟨hdirect, fun v => ?_⟩
    show (c, v) ∈ ((membership before).endMember c' u status).places ↔ _
    rw [places_endMember]
  | restored args c' done hsender hdirect' hdone h =>
    rw [h] at hdirect ⊢
    rw [conversations_foldl_restore] at hdirect
    refine .inl ⟨hdirect, fun v => ?_⟩
    rw [places_foldl_restore]

/-- Rosters are well formed after any operations. -/
theorem wellFormed_of_operations {env : BackendEnv} {attachments : List ChatAttachment}
    {operations : List Operation} {db : ChatDb}
    (hrun : run (operationStep env) (ChatDb.start attachments) operations = some db) :
    (membership db).WellFormed := by
  have hkeep : ∀ (db : ChatDb) (operation : Operation) (db' : ChatDb),
      (membership db).WellFormed → operationStep env db operation = some db' →
      (membership db').WellFormed :=
    fun _ _ _ hm hstep => wellFormed_of_change hm (operation_roster hstep)
  exact run_invariant hkeep (inv_start attachments).wellFormed hrun

/-- After any calls that meet the condition, every direct conversation was made by a request of one
    user for another one, and these two are all that have records in it. -/
theorem direct_between_two {env : BackendEnv} {attachments : List ChatAttachment}
    {operations : List Operation} {db : ChatDb}
    (hok : Guarded (operationStep env) (fun db operation => KeepsPair db operation.call)
      (ChatDb.start attachments) operations)
    (hrun : run (operationStep env) (ChatDb.start attachments) operations = some db)
    {c : ObjectId} (hdirect : IsDirect db c) :
    ∃ creator target, CreatedFor env attachments operations c creator target ∧
      HasPair db c creator target := by
  induction operations using List.reverseRecOn generalizing db with
  | nil =>
    cases hrun
    obtain ⟨conversation, hmem, -⟩ := hdirect
    exact absurd hmem List.not_mem_nil
  | append_singleton operations operation ih =>
    obtain ⟨before, hbefore, hstep⟩ := run_concat_eq_some.mp hrun
    have hlast : KeepsPair before operation.call := (hok.right hbefore).1
    have hm := wellFormed_of_operations hbefore
    -- the last operation has made the conversation or kept its users
    cases pair_of_change hm hlast (operation_roster hstep) hdirect with
    | inl hold =>
      obtain ⟨hdirect', hsame⟩ := hold
      obtain ⟨creator, target, hcreated, hne, hpair⟩ := ih hok.left hbefore hdirect'
      exact ⟨creator, target, hcreated.concat operation, hne, fun u => (hsame u).trans (hpair u)⟩
    | inr hnew =>
      obtain ⟨args, creator, target, targetId, hcall, hargs, hfresh, hpair⟩ := hnew
      obtain ⟨conversation, hmem, hid, -⟩ := hdirect
      have hknown : c ∈ db.conversations.map Conversation.id := hid ▸ List.mem_map_of_mem hmem
      exact ⟨creator, target, ⟨operations, [], operation, before, db, args, targetId, rfl, hbefore,
        hstep, hfresh, hknown, hcall, hargs⟩, hpair⟩

/-- User 2 leaves and is added again: the records still belong to the users 1 and 2. -/
theorem direct_between_two_rejoined :
    ∃ db, run (operationStep plainEnv) (ChatDb.start []) [openDirect, leaveDirect, addAgain] =
        some db ∧ IsDirect db (digitId 3) ∧ ∃ creator target,
          CreatedFor plainEnv [] [openDirect, leaveDirect, addAgain] (digitId 3) creator target ∧
            HasPair db (digitId 3) creator target := by
  have hrun : run (operationStep plainEnv) (ChatDb.start []) [openDirect, leaveDirect, addAgain] =
      some rejoinedDb := by decide +kernel
  have hdirect : IsDirect rejoinedDb (digitId 3) := ⟨_, List.mem_cons_self, rfl, rfl⟩
  have hleft : run (operationStep plainEnv) (ChatDb.start []) [openDirect, leaveDirect] =
      some leftDb := by decide +kernel
  have hadd : operationStep plainEnv leftDb addAgain = some rejoinedDb := by decide +kernel
  have hok : Guarded (operationStep plainEnv) (fun db operation => KeepsPair db operation.call)
      (ChatDb.start []) [openDirect, leaveDirect, addAgain] := by
    obtain ⟨openedDb, hopen, hrest⟩ := run_cons_eq_some.mp hleft
    obtain ⟨db, hleave, hsame⟩ := run_cons_eq_some.mp hrest
    obtain rfl : db = leftDb := Option.some.inj hsame
    have honce : KeepsPair (ChatDb.start []) openDirect.call := fun _ => by
      show ∀ s ∈ _, ∀ t ∈ _, _
      decide
    -- only the addition has a condition: the member is one of the two
    refine .cons honce hopen (.cons trivial hleave (.cons ?_ hadd trivial))
    intro actor u hactor hu hdirect
    obtain rfl : digitId 2 = u := Option.some.inj ((ObjectId.ofString?_toString _).symm.trans hu)
    obtain ⟨hc, -, -⟩ := getRequiredActiveParticipant_ok hactor
    obtain hc : digitId 3 = actor.conversationId :=
      Option.some.inj ((ObjectId.ofString?_toString _).symm.trans hc)
    rw [← hc]
    exact ⟨_, List.mem_cons_of_mem _ List.mem_cons_self, rfl, rfl⟩
  exact ⟨rejoinedDb, hrun, hdirect, direct_between_two hok hrun hdirect⟩

/-- User 1 adds user 12 to the direct conversation with user 2. -/
def addThird : Operation where
  call := .addMember ⟨(digitId 3).toString, (digitId 12).toString, (digitId 1).toString⟩ .guarding
  inputs := [plainInput 8 (digitId 0) [], plainInput 9 (digitId 0) [], plainInput 10 (digitId 9) [],
    plainInput 11 (digitId 10) []]

/-- A third user is an active participant of a direct conversation. -/
theorem third_user_in_direct :
    ∃ db, run (operationStep plainEnv) (ChatDb.start []) [openDirect, addThird] = some db ∧
      IsDirect db (digitId 3) ∧ (db.findActive (digitId 3) (digitId 12)).isSome ∧
      ¬ ∃ creator target, HasPair db (digitId 3) creator target := by
  obtain ⟨db, hrun, hdirect, hactive, hrecords⟩ : ∃ db,
      run (operationStep plainEnv) (ChatDb.start []) [openDirect, addThird] = some db ∧
      (∃ conversation ∈ db.conversations, conversation.id = digitId 3 ∧
        conversation.type = .direct) ∧ (db.findActive (digitId 3) (digitId 12)).isSome ∧
      ∀ u ∈ [digitId 1, digitId 2, digitId 12], ∃ p ∈ db.participants,
        p.conversationId = digitId 3 ∧ p.userId = u :=
    ⟨_, rfl, by decide +kernel, by decide +kernel, by decide +kernel⟩
  refine ⟨db, hrun, hdirect, hactive, ?_⟩
  -- three users would be two
  intro ⟨creator, target, _, hpair⟩
  have hfirst := (hpair (digitId 1)).mp (hrecords _ (by decide))
  have hsecond := (hpair (digitId 2)).mp (hrecords _ (by decide))
  have hthird := (hpair (digitId 12)).mp (hrecords _ (by decide))
  have h12 : digitId 1 ≠ digitId 2 := by decide
  have h1c : digitId 1 ≠ digitId 12 := by decide
  have h2c : digitId 2 ≠ digitId 12 := by decide
  grind

end ChatSC.Spec
