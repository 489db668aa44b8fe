import ChatSC.Spec.DirectPairs

/-!
# Opening a direct conversation

`createConversation` returns the direct conversation of the two users when the lookup finds one, and
makes a new one otherwise.  The lookup counts records of any status, so the conversation it finds may
be one that the user has left.
-/

namespace ChatSC.Spec

open Backend Collection JsString Transition

/-- The request of user `a` for a direct conversation with user `b`. -/
def directArgs (a b : ObjectId) (title : Option JsString) : CreateArgs :=
  ⟨.direct, a.toString, [b.toString], title⟩

theorem directArgs_parsed {a b creator target : ObjectId} {title : Option JsString}
    {targetId : JsString} (h : DirectArgs (directArgs a b title) creator target targetId) :
    a = creator ∧ b = target ∧ targetId = b.toString := by
  have hid : targetId = b.toString := (List.singleton_inj.mp h.participants).symm
  have hcreator : ObjectId.ofString? a.toString = some creator := h.creator_parsed
  have htarget : ObjectId.ofString? b.toString = some target := hid ▸ h.target_parsed
  rw [ObjectId.ofString?_toString] at hcreator htarget
  exact ⟨Option.some.inj hcreator, Option.some.inj htarget, hid⟩

/-- Whoever opens a direct conversation is an active participant of the conversation that is
    returned exactly when this is a new one, or one that the user has not left. -/
theorem opener_active_iff {env : BackendEnv} {before db : ChatDb} {a b : ObjectId}
    {title : Option JsString} {inputs : List CallInput} {conversation : Conversation}
    (hne : a ≠ b)
    (hrun : run (aloneStep env) (before, .createConversation (directArgs a b title) .start) inputs =
      some (db, .createConversation (directArgs a b title) (.returned conversation))) :
    ActiveMember db conversation.id a ↔
      ∀ found, directConversation before a b a.toString b.toString = some found →
        ActiveMember before found.id a := by
  obtain ⟨pc, hcall, hprogress⟩ := createProgress_of_run hrun
  cases hcall
  cases hprogress with
  | inl hfound =>
    obtain ⟨rfl, creator, target, targetId, hargs, hlookup⟩ := hfound
    obtain ⟨rfl, rfl, rfl⟩ := directArgs_parsed hargs
    have hlookup' : directConversation db a b a.toString b.toString = some conversation := hlookup
    constructor
    · intro hactive found hsome
      obtain rfl : conversation = found := Option.some.inj (hlookup'.symm.trans hsome)
      exact hactive
    · intro hall
      exact hall conversation hlookup'
  | inr hcreated =>
    obtain ⟨creator, users, hnew, ids, joinedAt, eventIds, occurredAt, hids, -, rfl⟩ := hcreated
    have hargs : DirectArgs (directArgs a b title) a b b.toString := by
      refine ⟨rfl, rfl, ?_, ObjectId.ofString?_toString a, ObjectId.ofString?_toString b⟩
      exact fun heq => hne (ObjectId.toString_injective heq.symm)
    have hnone : directConversation before a b a.toString b.toString = none := by
      cases hnew.nothing_found with
      | inl hgroup => cases hgroup
      | inr hlookup =>
        obtain ⟨creator', target, targetId, hargs', hnone⟩ := hlookup
        obtain ⟨rfl, rfl, rfl⟩ := directArgs_parsed hargs'
        exact hnone
    -- the new records are those of the two users
    have husers := Option.some.inj (hnew.users_parsed.symm.trans (newParticipants_direct hargs))
    subst husers
    have hactive : ActiveMember ((withParticipants before conversation creator
        [⟨a, true⟩, ⟨b, false⟩] ids joinedAt).insertEvents (List.zipWith
          (NewParticipant.event conversation.id creator occurredAt) [⟨a, true⟩, ⟨b, false⟩]
          eventIds)) conversation.id a := by
      match ids, hids.1 with
      | first :: rest, _ =>
        refine ⟨NewParticipant.document conversation.id creator joinedAt ⟨a, true⟩ first, ?_, rfl, rfl,
          rfl⟩
        exact List.mem_append_right _ List.mem_cons_self
    constructor
    · intro _ found hsome
      exact absurd (hnone.symm.trans hsome) nofun
    · exact fun _ => hactive

/-- User 1 leaves the direct conversation. -/
def leaveSelf : Operation where
  call := .markConversationLeft ⟨(digitId 3).toString, (digitId 1).toString⟩ .guarding
  inputs := [plainInput 5 (digitId 0) [], plainInput 6 (digitId 0) [], plainInput 7 (digitId 8) []]

/-- The collections with the direct conversation, which user 1 has left. -/
def selfLeftDb : ChatDb where
  conversations := [⟨digitId 3, .direct, none, digitId 1, none, 2⟩]
  participants :=
    [⟨digitId 4, digitId 3, digitId 1, .owner, .left, none, 2, some 5, none, none, 0⟩,
      ⟨digitId 5, digitId 3, digitId 2, .member, .active, some (digitId 1), 2, none, none, none, 0⟩]
  messages := []
  membershipEvents :=
    [⟨digitId 6, digitId 3, .joined, digitId 1, none, 3⟩,
      ⟨digitId 7, digitId 3, .added, digitId 2, some (digitId 1), 3⟩,
      ⟨digitId 8, digitId 3, .left, digitId 1, none, 6⟩]
  attachments := []

/-- The steps of a lookup that finds the first conversation it looks at. -/
theorem run_lookup (db : ChatDb) (a b : ObjectId) (title : Option JsString) (input : CallInput)
    {shared : List ObjectId} {conversation : Conversation}
    (hshared : run (aloneStep plainEnv) (db, .createConversation (directArgs a b title) .start)
      [input, input] = some (db, .createConversation (directArgs a b title) (.findingDirect shared)))
    (hcandidates : directCandidates db shared = [conversation])
    (hdirect : isDirectOf (db.findParticipants conversation.id) a.toString b.toString = true) :
    run (aloneStep plainEnv) (db, .createConversation (directArgs a b title) .start)
      [input, input, input, input] =
        some (db, .createConversation (directArgs a b title) (.returned conversation)) := by
  -- the candidates are looked up
  have hfind : aloneStep plainEnv (db, .createConversation (directArgs a b title)
      (.findingDirect shared)) input = some (db, .createConversation (directArgs a b title)
        (.checkingDirect [conversation])) := by
    have hstep : createStep db (directArgs a b title) input (.findingDirect shared) =
        if directCandidates db shared = [] then some (db, .creating)
        else some (db, .checkingDirect (directCandidates db shared)) := rfl
    rw [aloneStep, callStep, hstep, hcandidates]
    rfl
  -- and the participants of the first are the two users
  have hcheck : aloneStep plainEnv (db, .createConversation (directArgs a b title)
      (.checkingDirect [conversation])) input = some (db, .createConversation (directArgs a b title)
        (.returned conversation)) := by
    have hhead : (directArgs a b title).participantIds.headD [] = b.toString := rfl
    have hcreator : (directArgs a b title).creatorId = a.toString := rfl
    simp only [aloneStep, callStep, createStep, hhead, hcreator, hdirect, if_true, Option.map_some]
  exact run_append_eq_some.mpr ⟨_, hshared,
    run_cons_eq_some.mpr ⟨_, hfind, run_cons_eq_some.mpr ⟨_, hcheck, rfl⟩⟩⟩

/-- User 1 opens the conversation that user 2 has left. -/
theorem opener_active_leftDb :
    ∃ db conversation, run (aloneStep plainEnv)
        (leftDb, .createConversation (directArgs (digitId 1) (digitId 2) none) .start)
        (List.replicate 4 (plainInput 20 (digitId 0) [])) = some (db,
          .createConversation (directArgs (digitId 1) (digitId 2) none) (.returned conversation)) ∧
      (ActiveMember db conversation.id (digitId 1) ↔
        ∀ found, directConversation leftDb (digitId 1) (digitId 2) (digitId 1).toString
          (digitId 2).toString = some found → ActiveMember leftDb found.id (digitId 1)) := by
  have hcandidates : directCandidates leftDb [digitId 3] =
      [⟨digitId 3, .direct, none, digitId 1, none, 2⟩] := List.mergeSort_singleton _
  have hrun := run_lookup leftDb (digitId 1) (digitId 2) none (plainInput 20 (digitId 0) []) rfl
    hcandidates (by decide)
  exact ⟨_, _, hrun, opener_active_iff (by decide) hrun⟩

/-- User 1 has left the conversation with user 2 and opens it again: the old conversation is
    returned, and user 1 is not an active participant of it. -/
theorem opener_not_active :
    run (operationStep plainEnv) (ChatDb.start []) [openDirect, leaveSelf] = some selfLeftDb ∧
      ∃ conversation, run (aloneStep plainEnv)
        (selfLeftDb, .createConversation (directArgs (digitId 1) (digitId 2) none) .start)
        (List.replicate 4 (plainInput 20 (digitId 0) [])) = some (selfLeftDb,
          .createConversation (directArgs (digitId 1) (digitId 2) none) (.returned conversation)) ∧
      ¬ ActiveMember selfLeftDb conversation.id (digitId 1) ∧
      getRequiredActiveParticipant selfLeftDb conversation.id.toString (digitId 1).toString =
        .error notActiveParticipant := by
  have hcandidates : directCandidates selfLeftDb [digitId 3] =
      [⟨digitId 3, .direct, none, digitId 1, none, 2⟩] := List.mergeSort_singleton _
  have hrun := run_lookup selfLeftDb (digitId 1) (digitId 2) none (plainInput 20 (digitId 0) []) rfl
    hcandidates (by decide)
  refine ⟨by decide +kernel, _, hrun, ?_, rfl⟩
  unfold ActiveMember
  decide

end ChatSC.Spec
