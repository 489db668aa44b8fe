import ChatSC.Spec.CallsAlone
import ChatSC.Spec.GroupMembership

/-!
# Direct conversations, one call after another

Two laws of direct conversations, and what the calls have to keep to for them.

* A user has one active record at most (`OneActive`).  A message restores every record with status
  `left`, so a user who was added again while an old record was still there gets two.
* The participants are the creator and the one other user (`direct_between_two`).  Nothing but
  `addMember` brings in a third one.

Both fail when the two ids of a new conversation are two spellings of one id.
-/

namespace ChatSC.Spec

open Backend Collection JsString Transition

/-- The conversation is a direct one. -/
def IsDirect (db : ChatDb) (c : ObjectId) : Prop :=
  ∃ conversation ∈ db.conversations, conversation.id = c ∧ conversation.type = .direct

theorem isDirect_iff {db : ChatDb} {c : ObjectId} :
    IsDirect db c ↔ (c, ConversationType.direct) ∈ (membership db).conversations := by
  rw [membership, List.mem_map]
  constructor
  · rintro ⟨conversation, hmem, rfl, htype⟩
    exact ⟨conversation, hmem, by rw [htype]⟩
  · rintro ⟨conversation, hmem, heq⟩
    exact ⟨conversation, hmem, congrArg Prod.fst heq, congrArg Prod.snd heq⟩

/-- The ids of the request that are parsed to the same id are the same string. -/
def SpelledOnce (args : CreateArgs) : Prop :=
  ∀ s ∈ args.creatorId :: args.participantIds, ∀ t ∈ args.creatorId :: args.participantIds,
    ObjectId.ofString? s = ObjectId.ofString? t → s = t

/-- The users of a new conversation are different when no id is spelled twice. -/
theorem nodup_users {args : CreateArgs} {users : List NewParticipant} (honce : SpelledOnce args)
    (h : newParticipants args = some users) : (users.map NewParticipant.userId).Nodup := by
  -- the strings of the request are parsed to the users
  have hparsed : ∀ {strings : List JsString} {users : List NewParticipant},
      (strings.mapM fun uid => (ObjectId.ofString? uid).map fun user =>
        (⟨user, uid = args.creatorId⟩ : NewParticipant)) = some users →
      strings.map ObjectId.ofString? = (users.map NewParticipant.userId).map some := by
    intro strings
    induction strings with
    | nil =>
      intro users hparsed
      obtain rfl : users = [] := by simpa using hparsed.symm
      rfl
    | cons uid strings ih =>
      intro users hparsed
      simp only [List.mapM_cons, Option.pure_def, Option.bind_eq_bind, Option.bind_eq_some_iff,
        Option.map_eq_some_iff, Option.some.injEq] at hparsed
      obtain ⟨user, ⟨id, hid, rfl⟩, rest, hrest, rfl⟩ := hparsed
      rw [List.map_cons, List.map_cons, List.map_cons, ih hrest, hid]
  have hnodup : ((distinct (args.creatorId :: args.participantIds)).map ObjectId.ofString?).Nodup :=
    (nodup_distinct _).map_on fun s hs t ht heq =>
      honce s (mem_distinct.mp hs) t (mem_distinct.mp ht) heq
  rw [hparsed h] at hnodup
  exact hnodup.of_map

/-! ## One active record -/

/-- In direct conversations a user has one active record at most. -/
def Membership.OneActive (m : Membership) : Prop :=
  ∀ c, (c, ConversationType.direct) ∈ m.conversations → ∀ u, m.activeRecords c u ≤ 1

/-- The record is not removed, and the user's other records in the conversation all are. -/
def Membership.Lone (m : Membership) (record : ObjectId) : Prop :=
  ∃ x ∈ m.members, x.record = record ∧ x.status ≠ .removed ∧ ∀ y ∈ m.members,
    y.conversation = x.conversation → y.user = x.user → y.status ≠ .removed → y.record = record

namespace Membership.OneActive

variable {m : Membership}

/-- New records for users without an active one. -/
theorem addMembers (h : m.OneActive) {c : ObjectId} {members : List Member}
    (hmembers : ∀ x ∈ members, x.conversation = c)
    (husers : (c, ConversationType.direct) ∈ m.conversations → (members.map Member.user).Nodup)
    (hinactive : ∀ x ∈ members, m.activeRecords c x.user = 0) :
    (m.addMembers members).OneActive := by
  intro d hd u
  have hdirect : (d, ConversationType.direct) ∈ m.conversations := hd
  have hold : m.activeRecords d u ≤ 1 := h d hdirect u
  have hcount : (m.addMembers members).activeRecords d u =
      m.activeRecords d u + members.countP (Member.isActiveOf d u) := List.countP_append
  rw [hcount]
  -- the new members are counted only where one of them is about the user
  by_cases habout : ∃ x ∈ members, x.isActiveOf d u = true
  · obtain ⟨x, hx, hactive⟩ := habout
    simp only [Member.isActiveOf, Bool.and_eq_true, decide_eq_true_eq] at hactive
    obtain ⟨⟨hxd, hxu⟩, -⟩ := hactive
    obtain rfl : c = d := (hmembers x hx).symm.trans hxd
    have hzero : m.activeRecords c u = 0 := hxu ▸ hinactive x hx
    have hone : members.countP (Member.isActiveOf c u) ≤ 1 := by
      apply countP_le_one (husers hdirect)
      intro y _ z _ hy hz
      simp only [Member.isActiveOf, Bool.and_eq_true, decide_eq_true_eq] at hy hz
      rw [hy.1.2, hz.1.2]
    omega
  · have hnone : members.countP (Member.isActiveOf d u) = 0 := by
      rw [List.countP_eq_zero]
      exact fun x hx hactive => habout ⟨x, hx, hactive⟩
    omega

/-- A membership ends. -/
theorem endMember (h : m.OneActive) {c u : ObjectId} {status : ParticipantStatus}
    (hstatus : status ≠ .active) : (m.endMember c u status).OneActive := by
  intro d hd v
  have hold : m.activeRecords d v ≤ 1 := h d hd v
  have hle : (m.endMember c u status).activeRecords d v ≤ m.activeRecords d v :=
    countP_updateOne_le fun x _ _ hactive => by
      simp [Member.isActiveOf, hstatus] at hactive
  omega

/-- A record becomes active again, when the user has no other one that could be. -/
theorem restore (h : m.OneActive) (hm : m.WellFormed) {record : ObjectId} (hlone : m.Lone record) :
    (m.restore record).OneActive := by
  intro d hd u
  obtain ⟨x, hx, rfl, -, hothers⟩ := hlone
  have hone : ∀ y ∈ m.members, y.record = x.record → y = x := fun y hy heq =>
    List.inj_on_of_nodup_map hm.records_nodup hy hx heq
  by_cases habout : x.conversation = d ∧ x.user = u
  · obtain ⟨rfl, rfl⟩ := habout
    have hrecords : ((m.restore x.record).members.map Member.record).Nodup := by
      rw [records_restore]
      exact hm.records_nodup
    -- an active record of the user is the one that was restored
    have hsame : ∀ y ∈ (m.restore x.record).members,
        y.isActiveOf x.conversation x.user = true → y.record = x.record := by
      intro y hy hactive
      simp only [Member.isActiveOf, Bool.and_eq_true, decide_eq_true_eq] at hactive
      cases mem_of_mem_updateOne hy with
      | inl hold => exact hothers y hold hactive.1.1 hactive.1.2 (by simp [hactive.2])
      | inr hchanged =>
        obtain ⟨z, -, hz, rfl⟩ := hchanged
        exact of_decide_eq_true hz
    exact countP_le_one hrecords fun y hy z hz hya hza =>
      (hsame y hy hya).trans (hsame z hz hza).symm
  · have hcount : (m.restore x.record).activeRecords d u = m.activeRecords d u := by
      apply countP_updateOne
      intro y hy hyrecord
      obtain rfl := hone y hy (of_decide_eq_true hyrecord)
      rw [Bool.eq_iff_iff]
      simp only [Member.isActiveOf, Bool.and_eq_true, decide_eq_true_eq]
      exact ⟨fun hactive => absurd hactive.1 habout, fun hactive => absurd hactive.1 habout⟩
    rw [hcount]
    exact h d hd u

end Membership.OneActive

/-- The restoration of one record leaves the others alone. -/
theorem Membership.Lone.restore {m : Membership} {record other : ObjectId} (hother : m.Lone other)
    (hm : m.WellFormed) (hrecord : m.Lone record) : (m.restore record).Lone other := by
  obtain ⟨x, hx, rfl, hxstatus, hxothers⟩ := hother
  obtain ⟨r, hr, rfl, hrstatus, -⟩ := hrecord
  -- a record that is not removed was not removed before
  have hbefore : ∀ y ∈ (m.restore r.record).members, y.status ≠ .removed →
      ∃ z ∈ m.members, z.record = y.record ∧ z.conversation = y.conversation ∧ z.user = y.user ∧
        z.status ≠ .removed := by
    intro y hy hystatus
    cases mem_of_mem_updateOne hy with
    | inl hold => exact ⟨y, hold, rfl, rfl, rfl, hystatus⟩
    | inr hchanged =>
      obtain ⟨z, hz, hzrecord, rfl⟩ := hchanged
      obtain rfl : z = r :=
        List.inj_on_of_nodup_map hm.records_nodup hz hr (of_decide_eq_true hzrecord)
      exact ⟨z, hz, rfl, rfl, rfl, hrstatus⟩
  have hothers : ∀ y ∈ (m.restore r.record).members, y.conversation = x.conversation →
      y.user = x.user → y.status ≠ .removed → y.record = x.record := by
    intro y hy hconv huser hystatus
    obtain ⟨z, hz, hzrecord, hzconv, hzuser, hzstatus⟩ := hbefore y hy hystatus
    exact hzrecord ▸ hxothers z hz (hzconv.trans hconv) (hzuser.trans huser) hzstatus
  cases mem_updateOne_of_mem hx with
  | inl hsame => exact ⟨x, hsame, rfl, hxstatus, hothers⟩
  | inr hchanged => exact ⟨_, hchanged.2, rfl, by simp, hothers⟩

/-- Beside a record that the message restores the user has no other one that is active or left. -/
def RestoresAlone (db : ChatDb) (c : ObjectId) (senderId : JsString) : Prop :=
  ∀ p ∈ db.participants, p.conversationId = c → p.userId.toString ≠ senderId → p.status = .left →
    ∀ q ∈ db.participants, q.conversationId = c → q.userId = p.userId → q.status ≠ .removed → q = p

/-- The operation does not give a user of a direct conversation a second active record. -/
def KeepsOneActive (db : ChatDb) : ChatCall → Prop
  | .createConversation args _ => args.type = .direct → SpelledOnce args
  | .sendMessage args _ => ∀ c, SenderFound db args c → IsDirect db c →
    RestoresAlone db c args.senderId
  | _ => True

/-- The records that the message restores are the only ones of their users. -/
theorem lone_of_restoresAlone {db : ChatDb} {c : ObjectId} {senderId : JsString}
    (h : RestoresAlone db c senderId) {record : ObjectId}
    (hrecord : record ∈ participantsToRestore db c senderId) : (membership db).Lone record := by
  obtain ⟨p, hp, rfl⟩ := List.mem_map.mp hrecord
  obtain ⟨hfound, hleft⟩ := List.mem_filter.mp hp
  obtain ⟨hmem, hconv⟩ := List.mem_filter.mp (List.mem_mergeSort.mp hfound)
  simp only [Bool.and_eq_true, decide_eq_true_eq] at hleft hconv
  refine ⟨toMember p, List.mem_map_of_mem hmem, rfl, by simp [toMember, hleft.2], ?_⟩
  intro y hy hyconv hyuser hystatus
  obtain ⟨q, hq, rfl⟩ := List.mem_map.mp hy
  have hsame := h p hmem hconv hleft.1 hleft.2 q hq (hyconv.trans hconv) hyuser hystatus
  rw [hsame]
  rfl

/-- What holds after every operation. -/
structure DirectInv (db : ChatDb) : Prop where
  wellFormed : (membership db).WellFormed
  oneActive : (membership db).OneActive

/-- Restoring records, one after another. -/
theorem restore_all {m : Membership} (hm : m.WellFormed) (h : m.OneActive) {done : List ObjectId}
    (hlone : ∀ record ∈ done, m.Lone record) :
    (done.foldl Membership.restore m).WellFormed ∧ (done.foldl Membership.restore m).OneActive := by
  induction done generalizing m with
  | nil => exact ⟨hm, h⟩
  | cons record done ih =>
    have hrecord := hlone record List.mem_cons_self
    apply ih (hm.restore record) (h.restore hm hrecord)
    intro other hother
    exact (hlone other (List.mem_cons_of_mem record hother)).restore hm hrecord

/-- An operation that meets the condition keeps one active record. -/
theorem oneActive_of_change {before db : ChatDb} {call : ChatCall} (hinv : DirectInv before)
    (hok : KeepsOneActive before call) (h : RosterChange before db call) :
    (membership db).OneActive := by
  obtain ⟨hm, hone⟩ := hinv
  -- a new conversation is empty
  have hnewConversation : ∀ {c : ObjectId}, c ∉ (membership before).known →
      ∀ (type : ConversationType) (u : ObjectId),
        ((membership before).addConversation c type).activeRecords c u = 0 := by
    intro c hfresh type u
    apply Membership.activeRecords_eq_zero
    intro x hx heq
    exact hfresh (heq ▸ hm.member_known x hx)
  have haddConversation : ∀ {c : ObjectId}, c ∉ (membership before).known →
      ∀ type : ConversationType, ((membership before).addConversation c type).OneActive := by
    intro c hfresh type d hd u
    cases List.mem_append.mp hd with
    | inl hold => exact hone d hold u
    | inr hnew =>
      obtain rfl : d = c := congrArg Prod.fst (List.mem_singleton.mp hnew)
      rw [hnewConversation hfresh type u]
      exact Nat.zero_le 1
  cases h with
  | same h =>
    rw [h]
    exact hone
  | created args conversation creator users ids entries hnew hids h =>
    have hfresh := known_membership before ▸ hnew.id_fresh
    have hmembers : ∀ x ∈ newMembers conversation.id users ids, x.conversation = conversation.id := by
      intro x hx
      obtain ⟨user, -, id, -, rfl⟩ := exists_of_mem_zipWith hx
      rfl
    have husers : (conversation.id, ConversationType.direct) ∈
        ((membership before).addConversation conversation.id args.type).conversations →
          ((newMembers conversation.id users ids).map Member.user).Nodup := by
      intro hdirect
      have hsame : (newMembers conversation.id users ids).map Member.user =
          users.map NewParticipant.userId := map_zipWith_left (by intro user id; rfl) hids.1
      have htype : args.type = .direct := by
        cases List.mem_append.mp hdirect with
        | inl hold => exact absurd (List.mem_map_of_mem (f := Prod.fst) hold) hfresh
        | inr hsame => exact (congrArg Prod.snd (List.mem_singleton.mp hsame)).symm
      rw [hsame]
      exact nodup_users (hok htype) hnew.users_parsed
    rw [h]
    exact (haddConversation hfresh args.type).addMembers hmembers husers
      fun x _ => hnewConversation hfresh args.type x.user
  | createdEmpty args c hnothing hparsed hfresh h =>
    rw [h]
    exact haddConversation hfresh args.type
  | added args actor u id entries hactor hu hnone hfresh h =>
    have hmembers : ∀ x ∈ [(⟨id, actor.conversationId, u, .active⟩ : Member)],
        x.conversation = actor.conversationId := fun x hx => List.mem_singleton.mp hx ▸ rfl
    rw [h]
    exact hone.addMembers hmembers (fun _ => List.nodup_singleton _)
      fun x hx => List.mem_singleton.mp hx ▸ findActive_eq_none hnone
  | ended c u status entries hstatus h =>
    rw [h]
    exact hone.endMember hstatus
  | restored args c done hsender hdirect hdone h =>
    rw [h]
    have hlone : ∀ record ∈ done, (membership before).Lone record := fun record hrecord =>
      lone_of_restoresAlone (hok c hsender (isDirect_iff.mpr hdirect)) (hdone record hrecord)
    exact (restore_all hm hone hlone).2

/-- In every direct conversation every user has one active record at most, after any calls that meet
    the condition. -/
theorem oneActive_of_operations {env : BackendEnv} {attachments : List ChatAttachment}
    {operations : List Operation} {db : ChatDb}
    (hok : Guarded (operationStep env) (fun db operation => KeepsOneActive db operation.call)
      (ChatDb.start attachments) operations)
    (hrun : run (operationStep env) (ChatDb.start attachments) operations = some db)
    {c : ObjectId} (hdirect : IsDirect db c) (u : ObjectId) :
    (db.participants.filter (ChatDb.isActiveOf c u)).length ≤ 1 := by
  -- the two parts of the invariant are kept by what an operation does to the rosters
  have hkeep : ∀ (db : ChatDb) (operation : Operation) (db' : ChatDb), DirectInv db →
      KeepsOneActive db operation.call → operationStep env db operation = some db' →
      DirectInv db' := by
    intro db operation db' hinv hok hstep
    have hchange := operation_roster hstep
    exact ⟨wellFormed_of_change hinv.wellFormed hchange, oneActive_of_change hinv hok hchange⟩
  have hstart : DirectInv (ChatDb.start attachments) :=
    ⟨(inv_start attachments).wellFormed, fun c hc => absurd hc List.not_mem_nil⟩
  have hinv := run_invariant_of_guarded hkeep hstart hok hrun
  rw [← activeRecords_membership]
  exact hinv.oneActive c (isDirect_iff.mp hdirect) u

/-! ## A user who left and was added again -/

/-- User 1 opens a direct conversation with user 2. -/
def openDirect : Operation where
  call := .createConversation ⟨.direct, (digitId 1).toString, [(digitId 2).toString], none⟩ .start
  inputs := [plainInput 1 (digitId 0) [], plainInput 1 (digitId 0) [], plainInput 2 (digitId 3) [],
    plainInput 3 (digitId 0) [digitId 4, digitId 5],
    plainInput 4 (digitId 0) [digitId 6, digitId 7]]

/-- User 2 leaves the conversation. -/
def leaveDirect : Operation where
  call := .markConversationLeft ⟨(digitId 3).toString, (digitId 2).toString⟩ .guarding
  inputs := [plainInput 5 (digitId 0) [], plainInput 6 (digitId 0) [], plainInput 7 (digitId 8) []]

/-- User 1 adds user 2 again. -/
def addAgain : Operation where
  call := .addMember ⟨(digitId 3).toString, (digitId 2).toString, (digitId 1).toString⟩ .guarding
  inputs := [plainInput 8 (digitId 0) [], plainInput 9 (digitId 0) [], plainInput 10 (digitId 9) [],
    plainInput 11 (digitId 10) []]

/-- User 1 sends a message. -/
def sendDirect : Operation where
  call := .sendMessage helloArgs .start
  inputs := (List.range 10).map fun i => plainInput (12 + i) (digitId 11) []

/-- The collections with the direct conversation, which user 2 has left. -/
def leftDb : ChatDb where
  conversations := [⟨digitId 3, .direct, none, digitId 1, none, 2⟩]
  participants :=
    [⟨digitId 4, digitId 3, digitId 1, .owner, .active, none, 2, none, none, none, 0⟩,
      ⟨digitId 5, digitId 3, digitId 2, .member, .left, some (digitId 1), 2, some 5, none, none, 0⟩]
  messages := []
  membershipEvents :=
    [⟨digitId 6, digitId 3, .joined, digitId 1, none, 3⟩,
      ⟨digitId 7, digitId 3, .added, digitId 2, some (digitId 1), 3⟩,
      ⟨digitId 8, digitId 3, .left, digitId 2, none, 6⟩]
  attachments := []

/-- The same after user 2 was added again. -/
def rejoinedDb : ChatDb :=
  (leftDb.insertParticipants
    [⟨digitId 9, digitId 3, digitId 2, .member, .active, some (digitId 1), 9, none, none, none,
      0⟩]).insertEvents [⟨digitId 10, digitId 3, .added, digitId 2, some (digitId 1), 10⟩]

/-- There is one participant to restore. -/
theorem participantsToRestore_leftDb :
    participantsToRestore leftDb (digitId 3) (digitId 1).toString = [digitId 5] := by
  have hsorted : (leftDb.findParticipants (digitId 3)).mergeSort
      (fun p q => p.joinedAt ≤ q.joinedAt) = leftDb.participants :=
    List.mergeSort_of_pairwise (by decide)
  rw [participantsToRestore, hsorted]
  decide

/-- A message of user 1 restores the record with status `left`. -/
theorem run_sendDirect {db : ChatDb}
    (hstart : run (aloneStep plainEnv) (db, .sendMessage helloArgs .start)
      (sendDirect.inputs.take 2) =
        some (db, .sendMessage helloArgs (.findingParticipants ⟨digitId 3, digitId 1, digitId 4, []⟩)))
    (hrestore : participantsToRestore db (digitId 3) (digitId 1).toString = [digitId 5])
    {db' : ChatDb} {call : ChatCall} (hended : call.ended = true)
    (hend : run (aloneStep plainEnv) (db, .sendMessage helloArgs
      (.restoring ⟨digitId 3, digitId 1, digitId 4, []⟩ [digitId 5] [digitId 5]))
        (sendDirect.inputs.drop 3) = some (db', call)) :
    operationStep plainEnv db sendDirect = some db' := by
  -- the sort of the restored records is left to a lemma of its own
  have hmiddle : aloneStep plainEnv (db, .sendMessage helloArgs
      (.findingParticipants ⟨digitId 3, digitId 1, digitId 4, []⟩)) (plainInput 14 (digitId 11) []) =
        some (db, .sendMessage helloArgs
          (.restoring ⟨digitId 3, digitId 1, digitId 4, []⟩ [digitId 5] [digitId 5])) := by
    have hsender : helloArgs.senderId = (digitId 1).toString := rfl
    simp only [aloneStep, callStep, sendStep, hsender, hrestore, Option.map_some]
  have hrun : run (aloneStep plainEnv) (db, sendDirect.call) sendDirect.inputs = some (db', call) := by
    show run _ _ (sendDirect.inputs.take 2 ++ plainInput 14 (digitId 11) [] ::
      sendDirect.inputs.drop 3) = _
    exact run_append_eq_some.mpr ⟨_, hstart, run_cons_eq_some.mpr ⟨_, hmiddle, hend⟩⟩
  have hcall : sendDirect.call.isStart = true := rfl
  rw [operationStep, if_pos hcall, hrun]
  exact if_pos hended

/-- User 2 leaves, and the next message brings user 2 back. -/
theorem oneActive_of_operations_left :
    ∃ db, run (operationStep plainEnv) (ChatDb.start []) [openDirect, leaveDirect, sendDirect] =
        some db ∧ IsDirect db (digitId 3) ∧
      (db.participants.filter (ChatDb.isActiveOf (digitId 3) (digitId 2))).length ≤ 1 := by
  have hleft : run (operationStep plainEnv) (ChatDb.start []) [openDirect, leaveDirect] =
      some leftDb := by decide +kernel
  obtain ⟨db, hsend, hdirect⟩ : ∃ db, operationStep plainEnv leftDb sendDirect = some db ∧
      ∃ conversation ∈ db.conversations, conversation.id = digitId 3 ∧
        conversation.type = .direct :=
    ⟨_, run_sendDirect rfl participantsToRestore_leftDb rfl rfl, by decide +kernel⟩
  have hrun : run (operationStep plainEnv) (ChatDb.start []) [openDirect, leaveDirect, sendDirect] =
      some db := run_append_eq_some.mpr ⟨leftDb, hleft, run_cons_eq_some.mpr ⟨db, hsend, rfl⟩⟩
  -- the condition is met by each of the three
  have hok : Guarded (operationStep plainEnv) (fun db operation => KeepsOneActive db operation.call)
      (ChatDb.start []) [openDirect, leaveDirect, sendDirect] := by
    obtain ⟨openedDb, hopen, hleave⟩ := run_cons_eq_some.mp hleft
    obtain ⟨db', hleave, hsame⟩ := run_cons_eq_some.mp hleave
    obtain rfl : db' = leftDb := Option.some.inj hsame
    have honce : KeepsOneActive (ChatDb.start []) openDirect.call := fun _ => by
      show ∀ s ∈ _, ∀ t ∈ _, _
      decide
    -- the only record that is to be restored is the user's only record
    have halone : ∀ p ∈ leftDb.participants, p.status = .left → ∀ q ∈ leftDb.participants,
        q.userId = p.userId → q = p := by decide
    refine .cons honce hopen (.cons trivial hleave (.cons ?_ hsend trivial))
    intro c _ _ p hp _ _ hleft q hq _ huser _
    exact halone p hp hleft q hq huser
  exact ⟨db, hrun, hdirect, oneActive_of_operations hok hrun hdirect (digitId 2)⟩

/-- User 2 leaves and is added again, and the next message activates the old record, too. -/
theorem rejoined_twice_active :
    ∃ db, run (operationStep plainEnv) (ChatDb.start [])
        [openDirect, leaveDirect, addAgain, sendDirect] = some db ∧ IsDirect db (digitId 3) ∧
      (db.participants.filter (ChatDb.isActiveOf (digitId 3) (digitId 2))).length = 2 := by
  have hrejoined : run (operationStep plainEnv) (ChatDb.start [])
      [openDirect, leaveDirect, addAgain] = some rejoinedDb := by decide +kernel
  -- the sort leaves the two records in their order
  have hrestore : participantsToRestore rejoinedDb (digitId 3) (digitId 1).toString =
      [digitId 5] := by
    have hsorted : (rejoinedDb.findParticipants (digitId 3)).mergeSort
        (fun p q => p.joinedAt ≤ q.joinedAt) = rejoinedDb.participants :=
      List.mergeSort_of_pairwise (by decide)
    rw [participantsToRestore, hsorted]
    decide
  obtain ⟨db, hsend, hdirect, htwice⟩ : ∃ db,
      operationStep plainEnv rejoinedDb sendDirect = some db ∧
      (∃ conversation ∈ db.conversations, conversation.id = digitId 3 ∧
        conversation.type = .direct) ∧
      (db.participants.filter (ChatDb.isActiveOf (digitId 3) (digitId 2))).length = 2 :=
    ⟨_, run_sendDirect rfl hrestore rfl rfl, by decide +kernel, by decide +kernel⟩
  exact ⟨db, run_append_eq_some.mpr ⟨rejoinedDb, hrejoined, run_cons_eq_some.mpr ⟨db, hsend, rfl⟩⟩,
    hdirect, htwice⟩

end ChatSC.Spec
