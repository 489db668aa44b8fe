import ChatSC.Spec.OpeningDirect
import ChatSC.ForStd.Records

/-!
# Direct conversations that are created at the same time

`createConversation` looks for a direct conversation of the two users before it makes one.  The
lookup asks for exactly two records, with the two id strings of the request, and other calls may run
between it and the creation.  `creationOf` notes every direct conversation that is made, with the two
users it is made for; `OpensInOrder` is what keeps the notes free of duplicates.
-/

namespace ChatSC.Spec

open Backend Collection JsString Records Transition

/-- A direct conversation, and the two users of the request it was made for. -/
structure Creation where
  conversation : ObjectId
  creator : ObjectId
  target : ObjectId
deriving DecidableEq

/-- The conversation was made for the two users, by one or the other. -/
def Creation.IsFor (x : Creation) (a b : ObjectId) : Prop :=
  (x.creator = a ∧ x.target = b) ∨ (x.creator = b ∧ x.target = a)

instance (x : Creation) (a b : ObjectId) : Decidable (x.IsFor a b) :=
  inferInstanceAs (Decidable (_ ∨ _))

/-- The two users of a request for a direct conversation. -/
def pairOf (args : CreateArgs) : Option (ObjectId × ObjectId) :=
  match args.type, args.participantIds with
  | .direct, [targetId] =>
    match ObjectId.ofString? args.creatorId, ObjectId.ofString? targetId with
    | some creator, some target => some (creator, target)
    | _, _ => none
  | _, _ => none

/-- The direct conversation that a step makes. -/
def creationOf (system : ChatSystem) : ChatEvent → Option Creation
  | .call _ => none
  | .step index input =>
    match system.calls[index]? with
    | some (.createConversation args .creating) =>
      (pairOf args).map fun pair => ⟨input.newId, pair.1, pair.2⟩
    | _ => none

/-- The system, with the direct conversations that were made so far. -/
def creatingStep (env : BackendEnv) :
    ChatSystem × List Creation → ChatEvent → Option (ChatSystem × List Creation) :=
  noting (systemStep env) creationOf

/-! ## The condition on the schedule -/

/-- The direct conversations made for the users of the request have exactly two records, with the
    two id strings of the request. -/
def PairFound (db : ChatDb) (creations : List Creation) (args : CreateArgs) : Prop :=
  ∀ pair ∈ pairOf args, ∀ x ∈ creations, x.IsFor pair.1 pair.2 →
    isDirectOf (db.findParticipants x.conversation) args.creatorId (args.participantIds.headD []) =
      true

/-- The call has made its lookup, and may still make a conversation. -/
def mayCreate : ChatCall → Option (ObjectId × ObjectId)
  | .createConversation args (.findingDirect _) | .createConversation args (.checkingDirect _)
  | .createConversation args .creating => pairOf args
  | _ => none

/-- No other call that may still make a conversation is for the same two users. -/
def CreatesAlone (calls : List ChatCall) (index : Nat) (args : CreateArgs) : Prop :=
  ∀ pair ∈ pairOf args, ∀ other ∈ calls.eraseIdx index, ∀ pair' ∈ mayCreate other,
    pair' ≠ pair ∧ pair' ≠ pair.swap

/-- The next step of the call does not lead to a second conversation. -/
def CreateInOrder (system : ChatSystem) (creations : List Creation) (index : Nat) : ChatCall → Prop
  | .createConversation args (.findingShared _ _)
  | .createConversation args (.checkingDirect _) => PairFound system.db creations args
  | .createConversation args .creating => CreatesAlone system.calls index args
  | _ => True

/-- The step does not lead to a second conversation. -/
def OpensInOrder (state : ChatSystem × List Creation) : ChatEvent → Prop
  | .call _ => True
  | .step index _ => ∀ call ∈ state.1.calls[index]?, CreateInOrder state.1 state.2 index call

instance (db : ChatDb) (creations : List Creation) (args : CreateArgs) :
    Decidable (PairFound db creations args) :=
  inferInstanceAs (Decidable (∀ pair ∈ pairOf args, ∀ x ∈ creations, _ → _))

instance (calls : List ChatCall) (index : Nat) (args : CreateArgs) :
    Decidable (CreatesAlone calls index args) :=
  inferInstanceAs (Decidable (∀ pair ∈ pairOf args, ∀ other ∈ calls.eraseIdx index,
    ∀ pair' ∈ mayCreate other, _))

instance (system : ChatSystem) (creations : List Creation) (index : Nat) (call : ChatCall) :
    Decidable (CreateInOrder system creations index call) := by
  unfold CreateInOrder
  split <;> infer_instance

instance (state : ChatSystem × List Creation) :
    (event : ChatEvent) → Decidable (OpensInOrder state event)
  | .call _ => inferInstanceAs (Decidable True)
  | .step index _ => inferInstanceAs (Decidable (∀ call ∈ state.1.calls[index]?, _))

/-! ## What a call knows of the conversations made so far -/

/-- Behind its lookup a call still has in its hands every conversation made for its two users. -/
def LookupKnows (creations : List Creation) (args : CreateArgs) : CreatePc → Prop
  | .findingShared creator target => pairOf args = some (creator, target)
  | .findingDirect shared => ∃ creator target, pairOf args = some (creator, target) ∧
      ∀ x ∈ creations, x.IsFor creator target → x.conversation ∈ shared
  | .checkingDirect conversations => ∃ creator target, pairOf args = some (creator, target) ∧
      ∀ x ∈ creations, x.IsFor creator target → ∃ c ∈ conversations, c.id = x.conversation
  | .creating => args.type = .direct → ∃ creator target, pairOf args = some (creator, target) ∧
      ∀ x ∈ creations, ¬ x.IsFor creator target
  | _ => True

def CallKnows (creations : List Creation) : ChatCall → Prop
  | .createConversation args pc => LookupKnows creations args pc
  | _ => True

/-- What holds along a run whose steps are in order. -/
structure CreationInv (state : ChatSystem × List Creation) : Prop where
  no_duplicate : state.2.Pairwise fun x y => ¬ x.IsFor y.creator y.target
  stored : ∀ x ∈ state.2, (x.conversation, ConversationType.direct) ∈
    (membership state.1.db).conversations
  noted : ∀ c, (c, ConversationType.direct) ∈ (membership state.1.db).conversations →
    ∃ x ∈ state.2, x.conversation = c
  known : ∀ call ∈ state.1.calls, CallKnows state.2 call

theorem Creation.IsFor.symm {x y : Creation} {a b : ObjectId} (hx : x.IsFor a b)
    (hy : y.IsFor a b) : x.IsFor y.creator y.target := by
  cases hx with
  | inl hx =>
    cases hy with
    | inl hy => exact .inl ⟨hx.1.trans hy.1.symm, hx.2.trans hy.2.symm⟩
    | inr hy => exact .inr ⟨hx.1.trans hy.2.symm, hx.2.trans hy.1.symm⟩
  | inr hx =>
    cases hy with
    | inl hy => exact .inr ⟨hx.1.trans hy.2.symm, hx.2.trans hy.1.symm⟩
    | inr hy => exact .inl ⟨hx.1.trans hy.1.symm, hx.2.trans hy.2.symm⟩

theorem pairOf_eq_some {args : CreateArgs} {creator target : ObjectId}
    (h : pairOf args = some (creator, target)) :
    args.type = .direct ∧ ∃ targetId, args.participantIds = [targetId] ∧
      ObjectId.ofString? args.creatorId = some creator ∧
      ObjectId.ofString? targetId = some target := by
  unfold pairOf at h
  split at h
  · rename_i targetId hdirect hparticipants
    split at h
    · rename_i creator' target' hcreator htarget
      cases h
      exact ⟨hdirect, targetId, hparticipants, hcreator, htarget⟩
    · cases h
  · cases h

/-- A conversation with exactly the records of the two users is one of their shared ones. -/
theorem mem_shared_of_isDirectOf {db : ChatDb} {creator target c : ObjectId}
    {creatorId targetId : JsString} (hcreator : ObjectId.ofString? creatorId = some creator)
    (htarget : ObjectId.ofString? targetId = some target)
    (h : isDirectOf (db.findParticipants c) creatorId targetId = true) :
    c ∈ sharedConversations db creator target creatorId targetId := by
  simp only [isDirectOf, Bool.and_eq_true, List.contains_iff_mem] at h
  obtain ⟨⟨-, hfirst⟩, hsecond⟩ := h
  -- a record with the string of one of the two users
  have hrecord : ∀ {userId : JsString} {user : ObjectId}, ObjectId.ofString? userId = some user →
      user = creator ∨ user = target →
      userId ∈ (db.findParticipants c).map (·.userId.toString) →
      c ∈ conversationIdsOf (db.participants.filter fun p => p.userId = creator || p.userId = target)
        userId := by
    intro userId user hparsed huser hmem
    obtain ⟨p, hp, rfl⟩ := List.mem_map.mp hmem
    obtain ⟨hstored, hconv⟩ := List.mem_filter.mp hp
    have hid : p.userId = user :=
      Option.some.inj ((ObjectId.ofString?_toString p.userId).symm.trans hparsed)
    rw [conversationIdsOf, mem_distinct, List.mem_map]
    refine ⟨p, List.mem_filter.mpr ⟨List.mem_filter.mpr ⟨hstored, ?_⟩, by simp⟩,
      of_decide_eq_true hconv⟩
    rw [hid]
    simpa using huser
  rw [sharedConversations, List.mem_filter, List.contains_iff_mem]
  exact ⟨hrecord hcreator (.inl rfl) hfirst, hrecord htarget (.inr rfl) hsecond⟩

section Lookup

variable {db : ChatDb} {creations : List Creation} {args : CreateArgs} {creator target : ObjectId}

/-- The conversations made for the two users are among the shared ones. -/
theorem mem_sharedConversations (hfound : PairFound db creations args)
    (hpair : pairOf args = some (creator, target)) :
    ∀ x ∈ creations, x.IsFor creator target → x.conversation ∈
      sharedConversations db creator target args.creatorId (args.participantIds.headD []) := by
  intro x hx hfor
  obtain ⟨-, targetId, hparticipants, hcreator, htarget⟩ := pairOf_eq_some hpair
  have hrecords := hfound _ hpair x hx hfor
  rw [hparticipants] at hrecords ⊢
  exact mem_shared_of_isDirectOf hcreator htarget hrecords

/-- They are among the candidates when they are shared. -/
theorem mem_directCandidates {shared : List ObjectId}
    (hstored : ∀ x ∈ creations, (x.conversation, ConversationType.direct) ∈
      (membership db).conversations)
    (hshared : ∀ x ∈ creations, x.IsFor creator target → x.conversation ∈ shared) :
    ∀ x ∈ creations, x.IsFor creator target →
      ∃ c ∈ directCandidates db shared, c.id = x.conversation := by
  intro x hx hfor
  obtain ⟨c, hc, heq⟩ := List.mem_map.mp (hstored x hx)
  have hid : c.id = x.conversation := congrArg Prod.fst heq
  have htype : c.type = .direct := congrArg Prod.snd heq
  refine ⟨c, List.mem_mergeSort.mpr (List.mem_filter.mpr ⟨hc, ?_⟩), hid⟩
  simp [hid, htype, hshared x hx hfor]

/-- The conversation that is dropped is none of those made for the two users. -/
theorem mem_rest {conversation : Conversation} {rest : List Conversation}
    (hfound : PairFound db creations args) (hpair : pairOf args = some (creator, target))
    (hall : ∀ x ∈ creations, x.IsFor creator target →
      ∃ c ∈ conversation :: rest, c.id = x.conversation)
    (hmatch : isDirectOf (db.findParticipants conversation.id) args.creatorId
      (args.participantIds.headD []) = false) :
    ∀ x ∈ creations, x.IsFor creator target → ∃ c ∈ rest, c.id = x.conversation := by
  intro x hx hfor
  obtain ⟨c, hc, hid⟩ := hall x hx hfor
  cases List.mem_cons.mp hc with
  | inl hfirst =>
    have hrecords := hfound _ hpair x hx hfor
    rw [← hid, hfirst, hmatch] at hrecords
    cases hrecords
  | inr hmem => exact ⟨c, hmem, hid⟩

end Lookup

/-- A step of a call before it makes a conversation, from a lookup that is in order. -/
theorem LookupKnows.step {db db' : ChatDb} {creations : List Creation} {args : CreateArgs}
    {pc pc' : CreatePc} {input : CallInput}
    (hstored : ∀ x ∈ creations, (x.conversation, ConversationType.direct) ∈
      (membership db).conversations)
    (hfound : (∃ creator target, pc = .findingShared creator target) ∨
      (∃ conversations, pc = .checkingDirect conversations) → PairFound db creations args)
    (hknows : LookupKnows creations args pc) (hpc : pc ≠ .creating)
    (h : createStep db args input pc = some (db', pc')) : LookupKnows creations args pc' := by
  cases createStep_cases h with
  | group htype => exact fun hdirect => absurd (htype.symm.trans hdirect) nofun
  | direct targetId creator target htype hparticipants hother hcreator htarget =>
    show pairOf args = _
    rw [pairOf, htype, hparticipants]
    simp [hcreator, htarget]
  -- where the lookup ends without a match, none was made for the two users
  | noneShared creator target hnone =>
    refine fun _ => ⟨creator, target, hknows, fun x hx hfor => ?_⟩
    have hmem := mem_sharedConversations (hfound (.inl ⟨creator, target, rfl⟩)) hknows x hx hfor
    rw [hnone] at hmem
    exact absurd hmem List.not_mem_nil
  | shared creator target =>
    exact ⟨creator, target, hknows,
      mem_sharedConversations (hfound (.inl ⟨creator, target, rfl⟩)) hknows⟩
  | noCandidate shared hnone =>
    obtain ⟨creator, target, hpair, hall⟩ := hknows
    refine fun _ => ⟨creator, target, hpair, fun x hx hfor => ?_⟩
    obtain ⟨c, hc, -⟩ := mem_directCandidates hstored hall x hx hfor
    rw [hnone] at hc
    exact absurd hc List.not_mem_nil
  | candidates shared =>
    obtain ⟨creator, target, hpair, hall⟩ := hknows
    exact ⟨creator, target, hpair, mem_directCandidates hstored hall⟩
  | noneLeft =>
    obtain ⟨creator, target, hpair, hall⟩ := hknows
    refine fun _ => ⟨creator, target, hpair, fun x hx hfor => ?_⟩
    obtain ⟨c, hc, -⟩ := hall x hx hfor
    exact absurd hc List.not_mem_nil
  | lastOther conversation hmatch =>
    obtain ⟨creator, target, hpair, hall⟩ := hknows
    refine fun _ => ⟨creator, target, hpair, fun x hx hfor => ?_⟩
    obtain ⟨c, hc, -⟩ := mem_rest (hfound (.inr ⟨_, rfl⟩)) hpair hall hmatch x hx hfor
    exact absurd hc List.not_mem_nil
  | other conversation rest hmatch =>
    obtain ⟨creator, target, hpair, hall⟩ := hknows
    exact ⟨creator, target, hpair, mem_rest (hfound (.inr ⟨_, rfl⟩)) hpair hall hmatch⟩
  | invalidCreator hcreator => exact absurd rfl hpc
  | invalidParticipant creator hcreator hfresh husers => exact absurd rfl hpc
  | created creator users hcreator hfresh husers => exact absurd rfl hpc
  | _ => trivial

/-! ## Along a run -/

/-- A step that makes no direct conversation. -/
theorem CreationInv.of_direct {db db' : ChatDb} {calls : List ChatCall} {creations : List Creation}
    {index : Nat} {call' : ChatCall} (hinv : CreationInv (⟨db, calls⟩, creations))
    (hdirect : ∀ c, (c, ConversationType.direct) ∈ (membership db').conversations ↔
      (c, ConversationType.direct) ∈ (membership db).conversations)
    (hknows : CallKnows creations call') :
    CreationInv (⟨db', calls.set index call'⟩, creations) where
  no_duplicate := hinv.no_duplicate
  stored := by
    -- what is direct is as before, so nothing has to be noted
    intro x hx
    exact (hdirect x.conversation).mpr (hinv.stored x hx)
  noted := by
    intro c hc
    exact hinv.noted c ((hdirect c).mp hc)
  known := by
    intro other hother
    -- the other calls know what they knew
    cases List.mem_or_eq_of_mem_set hother with
    | inl hold => exact hinv.known other hold
    | inr heq => exact heq ▸ hknows

/-- A step that makes no conversation. -/
theorem CreationInv.of_quiet {db db' : ChatDb} {calls : List ChatCall} {creations : List Creation}
    {index : Nat} {call' : ChatCall} (hinv : CreationInv (⟨db, calls⟩, creations))
    (hsame : (membership db').conversations = (membership db).conversations)
    (hknows : CallKnows creations call') :
    CreationInv (⟨db', calls.set index call'⟩, creations) :=
  hinv.of_direct (fun c => by rw [hsame]) hknows

/-- A call that has nothing to do with the two users keeps what it knows. -/
theorem CallKnows.concat {creations : List Creation} {call : ChatCall} {x : Creation}
    (h : CallKnows creations call) (hother : ∀ pair ∈ mayCreate call, ¬ x.IsFor pair.1 pair.2) :
    CallKnows (creations ++ [x]) call := by
  -- the new conversation was not made for the users of the call
  have hmem : ∀ {creator target : ObjectId}, ¬ x.IsFor creator target →
      ∀ y ∈ creations ++ [x], y.IsFor creator target → y ∈ creations := by
    intro creator target hnot y hy hfor
    cases List.mem_append.mp hy with
    | inl hold => exact hold
    | inr hnew => exact absurd (List.mem_singleton.mp hnew ▸ hfor) hnot
  cases call with
  | createConversation args pc =>
    cases pc with
    | findingDirect shared =>
      obtain ⟨creator, target, hpair, hall⟩ := h
      exact ⟨creator, target, hpair, fun y hy hfor =>
        hall y (hmem (hother _ hpair) y hy hfor) hfor⟩
    | checkingDirect conversations =>
      obtain ⟨creator, target, hpair, hall⟩ := h
      exact ⟨creator, target, hpair, fun y hy hfor =>
        hall y (hmem (hother _ hpair) y hy hfor) hfor⟩
    | creating =>
      intro hdirect
      obtain ⟨creator, target, hpair, hall⟩ := h hdirect
      exact ⟨creator, target, hpair, fun y hy hfor =>
        hall y (hmem (hother _ hpair) y hy hfor) hfor⟩
    | _ => exact h
  | _ => trivial

/-- The step that makes a conversation adds it, unless the id of the creator is not one. -/
theorem conversations_creating {db db' : ChatDb} {args : CreateArgs} {pc' : CreatePc}
    {input : CallInput} (h : createStep db args input .creating = some (db', pc')) :
    db' = db ∧ pairOf args = none ∨
      (membership db').conversations =
        (membership db).conversations ++ [(input.newId, args.type)] := by
  cases createStep_cases h with
  -- the creator's id is checked before anything is written
  | invalidCreator hcreator =>
    refine .inl ⟨rfl, ?_⟩
    rw [pairOf]
    split
    · simp [hcreator]
    · rfl
  | invalidParticipant creator hcreator hfresh husers =>
    right
    rw [membership_createConversation]
    rfl
  | created creator users hcreator hfresh husers =>
    right
    rw [membership_createConversation]
    rfl

/-- Behind that step the call has nothing in its hands. -/
theorem lookupKnows_created {db db' : ChatDb} {args : CreateArgs} {pc' : CreatePc}
    {input : CallInput} (creations : List Creation)
    (h : createStep db args input .creating = some (db', pc')) :
    LookupKnows creations args pc' := by
  cases createStep_cases h with
  | invalidCreator hcreator => trivial
  | invalidParticipant creator hcreator hfresh husers => trivial
  | created creator users hcreator hfresh husers => trivial

section Created

variable {db db' : ChatDb} {calls : List ChatCall} {creations : List Creation} {index : Nat}
  {call call' : ChatCall}

/-- A group is made. -/
theorem CreationInv.createGroup {id : ObjectId} (hinv : CreationInv (⟨db, calls⟩, creations))
    (hconversations : (membership db').conversations =
      (membership db).conversations ++ [(id, .group)])
    (hknows : CallKnows creations call') :
    CreationInv (⟨db', calls.set index call'⟩, creations) := by
  refine hinv.of_direct (fun c => ?_) hknows
  rw [hconversations, List.mem_append, List.mem_singleton]
  refine or_iff_left fun hnew => ?_
  cases congrArg Prod.snd hnew

/-- A conversation is made for two users who have none, while no other call may make one for them. -/
theorem CreationInv.createDirect (hinv : CreationInv (⟨db, calls⟩, creations))
    (hcall : calls[index]? = some call) (x : Creation)
    (hconversations : (membership db').conversations =
      (membership db).conversations ++ [(x.conversation, .direct)])
    (hfirst : ∀ y ∈ creations, ¬ y.IsFor x.creator x.target)
    (halone : ∀ other ∈ calls.eraseIdx index, ∀ pair ∈ mayCreate other, ¬ x.IsFor pair.1 pair.2)
    (hknows : CallKnows (creations ++ [x]) call') :
    CreationInv (⟨db', calls.set index call'⟩, creations ++ [x]) where
  no_duplicate := by
    rw [List.pairwise_append]
    refine ⟨hinv.no_duplicate, List.pairwise_singleton _ _, ?_⟩
    intro y hy z hz
    obtain rfl := List.mem_singleton.mp hz
    exact hfirst y hy
  stored := by
    intro y hy
    show _ ∈ (membership db').conversations
    rw [hconversations]
    cases List.mem_append.mp hy with
    | inl hold => exact List.mem_append_left _ (hinv.stored y hold)
    | inr hnew =>
      obtain rfl := List.mem_singleton.mp hnew
      exact List.mem_append_right _ List.mem_cons_self
  noted := by
    intro c hc
    have hc' : (c, ConversationType.direct) ∈ (membership db').conversations := hc
    rw [hconversations] at hc'
    cases List.mem_append.mp hc' with
    | inl hold =>
      obtain ⟨y, hy, hid⟩ := hinv.noted c hold
      exact ⟨y, List.mem_append_left _ hy, hid⟩
    | inr hnew =>
      have hid : c = x.conversation := congrArg Prod.fst (List.mem_singleton.mp hnew)
      exact ⟨x, List.mem_append_right _ List.mem_cons_self, hid.symm⟩
  known := by
    -- the call itself has nothing in its hands, and the others are for other users
    intro other hother
    obtain ⟨i, hi⟩ := List.mem_iff_getElem?.mp hother
    cases (getElem?_set_eq_some hcall).mp hi with
    | inl hself => exact hself.2 ▸ hknows
    | inr hne =>
      obtain ⟨hne, hi⟩ := hne
      have hrest : other ∈ calls.eraseIdx index :=
        List.mem_eraseIdx_iff_getElem?.mpr ⟨i, hne, hi⟩
      exact (hinv.known other (List.mem_of_getElem? hi)).concat (halone other hrest)

/-- The step that makes a conversation. -/
theorem CreationInv.create {args : CreateArgs} {pc' : CreatePc} {input : CallInput}
    (hinv : CreationInv (⟨db, calls⟩, creations))
    (hcall : calls[index]? = some (.createConversation args .creating))
    (halone : CreatesAlone calls index args)
    (h : createStep db args input .creating = some (db', pc')) :
    CreationInv (⟨db', calls.set index (.createConversation args pc')⟩, creations ++
      ((pairOf args).map fun pair => (⟨input.newId, pair.1, pair.2⟩ : Creation)).toList) := by
  have hknows := hinv.known _ (List.mem_of_getElem? hcall)
  have hnext : ∀ creations, CallKnows creations (.createConversation args pc') := fun creations =>
    lookupKnows_created creations h
  cases hpair : pairOf args with
  | none =>
    rw [Option.map_none, Option.toList_none, List.append_nil]
    cases conversations_creating h with
    | inl hsame =>
      obtain ⟨rfl, -⟩ := hsame
      exact hinv.of_quiet rfl (hnext creations)
    | inr hconversations =>
      have hgroup : args.type = .group := by
        cases htype : args.type with
        | group => rfl
        | direct =>
          obtain ⟨creator, target, hsome, -⟩ := hknows htype
          exact absurd (hpair.symm.trans hsome) nofun
      exact hinv.createGroup (hgroup ▸ hconversations) (hnext creations)
  | some pair =>
    obtain ⟨creator, target⟩ := pair
    obtain ⟨hdirect, -⟩ := pairOf_eq_some hpair
    cases conversations_creating h with
    | inl hsame => exact absurd (hpair.symm.trans hsame.2) nofun
    | inr hconversations =>
      rw [hdirect] at hconversations
      -- the lookup of the call has found nothing
      obtain ⟨creator', target', hsome, hfirst⟩ := hknows hdirect
      cases hpair.symm.trans hsome
      refine hinv.createDirect hcall ⟨input.newId, creator, target⟩ hconversations hfirst ?_
        (hnext _)
      intro other hother pair' hmay hfor
      obtain ⟨hsame, hswap⟩ := halone _ hpair other hother pair' hmay
      cases hfor with
      | inl h => exact hsame (Prod.ext h.1.symm h.2.symm)
      | inr h => exact hswap (Prod.ext h.2.symm h.1.symm)

end Created

/-- A step of the system that is in order. -/
theorem CreationInv.step {env : BackendEnv} {state state' : ChatSystem × List Creation}
    {event : ChatEvent} (hinv : CreationInv state) (hok : OpensInOrder state event)
    (h : creatingStep env state event = some state') : CreationInv state' := by
  obtain ⟨system, creations⟩ := state
  obtain ⟨hstep, hnotes⟩ := noting_eq_some.mp h
  obtain ⟨system', creations'⟩ := state'
  cases event with
  | call call =>
    obtain ⟨hstart, rfl⟩ := systemStep_call_eq_some.mp hstep
    obtain rfl : creations' = creations := by simpa [creationOf] using hnotes
    refine ⟨hinv.no_duplicate, hinv.stored, hinv.noted, ?_⟩
    intro other hother
    cases List.mem_append.mp hother with
    | inl hold => exact hinv.known other hold
    | inr hnew =>
      obtain rfl := List.mem_singleton.mp hnew
      cases other with
      | createConversation args pc =>
        obtain rfl : pc = .start := of_decide_eq_true hstart
        trivial
      | _ => trivial
  | step index input =>
    obtain ⟨call, db', call', hcall, hcallStep, rfl⟩ := systemStep_step_eq_some.mp hstep
    have hinv' : CreationInv (⟨system.db, system.calls⟩, creations) := hinv
    have horder := hok call hcall
    have hroster := callStep_roster hcallStep
    -- a step of any other kind makes no conversation
    have hquiet : (∀ args, call ≠ .createConversation args .creating) →
        CallKnows creations call' → CreationInv (⟨db', system.calls.set index call'⟩, creations') := by
      intro hne hknows
      have hnone : creationOf system (.step index input) = none := by
        simp only [creationOf, hcall]
        split
        · rename_i args heq
          exact absurd (Option.some.inj heq) (hne args)
        · rfl
      obtain rfl : creations' = creations := by
        rw [hnone] at hnotes
        simpa using hnotes
      exact hinv'.of_quiet (hroster.conversations hne) hknows
    cases callStep_cases hcallStep with
    | @createConversation args pc pc' _ hcreate =>
      by_cases hpc : pc = .creating
      · obtain rfl := hpc
        have hnote : creationOf system (.step index input) =
            (pairOf args).map fun pair => ⟨input.newId, pair.1, pair.2⟩ := by
          simp only [creationOf, hcall]
        obtain rfl : creations' = creations ++ ((pairOf args).map fun pair =>
            (⟨input.newId, pair.1, pair.2⟩ : Creation)).toList := hnote ▸ hnotes
        exact hinv'.create hcall horder hcreate
      · apply hquiet
        · intro args' heq
          cases heq
          exact hpc rfl
        · refine LookupKnows.step hinv.stored ?_ (hinv.known _ (List.mem_of_getElem? hcall)) hpc
            hcreate
          intro hlookup
          cases hlookup with
          | inl h =>
            obtain ⟨creator, target, rfl⟩ := h
            exact horder
          | inr h =>
            obtain ⟨conversations, rfl⟩ := h
            exact horder
    | _ => exact hquiet nofun trivial

/-- The system before the first call. -/
def emptySystem (attachments : List ChatAttachment) : ChatSystem × List Creation :=
  (⟨ChatDb.start attachments, []⟩, [])

/-- In a run whose steps are in order every direct conversation is noted, and no two were made for
    the same two users. -/
theorem one_direct_for_two {env : BackendEnv} {attachments : List ChatAttachment}
    {events : List ChatEvent} {system : ChatSystem} {creations : List Creation}
    (hok : Guarded (creatingStep env) OpensInOrder (emptySystem attachments) events)
    (hrun : run (creatingStep env) (emptySystem attachments) events = some (system, creations)) :
    (∀ c, IsDirect system.db c → ∃ x ∈ creations, x.conversation = c) ∧
      creations.Pairwise fun x y => ¬ x.IsFor y.creator y.target := by
  have hstart : CreationInv (emptySystem attachments) :=
    ⟨List.Pairwise.nil, fun x hx => absurd hx List.not_mem_nil,
      fun c hc => absurd hc List.not_mem_nil, fun call hcall => absurd hcall List.not_mem_nil⟩
  have hinv := run_invariant_of_guarded
    (fun _ _ _ hinv hok hstep => hinv.step hok hstep) hstart hok hrun
  exact ⟨fun c hc => hinv.noted c (isDirect_iff.mp hc), hinv.no_duplicate⟩

/-- The request of one user for a direct conversation with another one. -/
def openCall (a b : ObjectId) : ChatCall := .createConversation (directArgs a b none) .start

/-- The steps of such a request, as call `index`, when the lookup finds nothing: up to the creation,
    and from there on. -/
def lookupEvents (index : Nat) : List ChatEvent :=
  List.replicate 2 (.step index (plainInput 1 (digitId 0) []))

def createEvents (index : Nat) (id p₁ p₂ : Fin 16) : List ChatEvent :=
  [.step index (plainInput 2 (digitId id) []),
    .step index (plainInput 3 (digitId 0) [digitId p₁, digitId p₂]),
    .step index (plainInput 4 (digitId 0) [digitId p₁, digitId p₂])]

/-- User 1 opens a direct conversation with user 2, user 2 opens it again, and user 1 opens one with
    user 12. -/
def reopenEvents : List ChatEvent :=
  .call (openCall (digitId 1) (digitId 2)) :: lookupEvents 0 ++ createEvents 0 3 4 5 ++
    .call (openCall (digitId 2) (digitId 1)) ::
      List.replicate 4 (.step 1 (plainInput 5 (digitId 0) [])) ++
    .call (openCall (digitId 1) (digitId 12)) :: lookupEvents 2 ++ createEvents 2 6 7 8

/-- The conversation that a call has returned. -/
def returnedId : ChatCall → Option ObjectId
  | .createConversation _ (.returned conversation) => some conversation.id
  | _ => none

/-- User 2 gets the conversation that user 1 has opened. -/
theorem one_direct_for_two_sequential :
    ∃ system creations,
      run (creatingStep plainEnv) (emptySystem []) reopenEvents = some (system, creations) ∧
      system.calls.map returnedId = [some (digitId 3), some (digitId 3), some (digitId 6)] ∧
      (∀ c, IsDirect system.db c → ∃ x ∈ creations, x.conversation = c) ∧
      creations.Pairwise fun x y => ¬ x.IsFor y.creator y.target := by
  have hcalls : (run (creatingStep plainEnv) (emptySystem []) reopenEvents).map
      (fun state => state.1.calls.map returnedId) =
        some [some (digitId 3), some (digitId 3), some (digitId 6)] := by
    decide +kernel
  obtain ⟨⟨system, creations⟩, hrun, hcalls⟩ := Option.map_eq_some_iff.mp hcalls
  exact ⟨system, creations, hrun, hcalls, one_direct_for_two (by decide +kernel) hrun⟩

/-- The users 1 and 2 open a direct conversation with each other at the same time, and get two. -/
theorem two_direct_at_once :
    ∃ system, run (creatingStep plainEnv) (emptySystem [])
        (.call (openCall (digitId 1) (digitId 2)) :: .call (openCall (digitId 2) (digitId 1)) ::
          lookupEvents 0 ++ lookupEvents 1 ++ createEvents 0 3 4 5 ++ createEvents 1 6 7 8) =
        some (system, [⟨digitId 3, digitId 1, digitId 2⟩, ⟨digitId 6, digitId 2, digitId 1⟩]) ∧
      IsDirect system.db (digitId 3) ∧ IsDirect system.db (digitId 6) ∧
      Creation.IsFor ⟨digitId 3, digitId 1, digitId 2⟩ (digitId 2) (digitId 1) := by
  refine ⟨_, rfl, ?_, ?_, .inr ⟨rfl, rfl⟩⟩
  · exact ⟨_, List.mem_cons_self, rfl, rfl⟩
  · exact ⟨_, List.mem_cons_of_mem _ List.mem_cons_self, rfl, rfl⟩

end ChatSC.Spec
