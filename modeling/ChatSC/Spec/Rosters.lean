import ChatSC.Spec.MembershipSteps

/-!
# Rosters

The part of membership that every conversation has, direct or group: conversations are known once,
records have different ids and belong to known conversations (`Membership.WellFormed`).
`RosterStep` says once what the steps of the calls do to membership, and with which local variables.
-/

namespace ChatSC.Spec

open Backend Collection JsString Transition

/-! ## What a step does -/

/-- The records of a new conversation. -/
def newMembers (c : ObjectId) (users : List NewParticipant) (ids : List ObjectId) : List Member :=
  List.zipWith (fun user id => ⟨id, c, user.userId, .active⟩) users ids

/-- What a step of a call does to membership. -/
inductive RosterStep (m : Membership) : ChatCall → Membership → Prop where
  | same {call : ChatCall} : RosterStep m call m
  | conversation (args : CreateArgs) (c : ObjectId) (hnew : c ∉ m.known) :
      RosterStep m (.createConversation args .creating) (m.addConversation c args.type)
  | members (args : CreateArgs) (conversation : Conversation) (creator : ObjectId)
      (users : List NewParticipant) (joinedAt : Date) (ids : List ObjectId)
      (hlen : ids.length = users.length) (hnodup : ids.Nodup)
      (hfresh : ∀ id ∈ ids, id ∉ m.members.map Member.record) :
      RosterStep m (.createConversation args (.addingParticipants conversation creator users joinedAt))
        (m.addMembers (newMembers conversation.id users ids))
  | entries {call : ChatCall} (entries : List LogEntry) : RosterStep m call (m.write entries)
  | added (args : MembershipArgs) (c u actor : ObjectId) (joinedAt : Date) (id : ObjectId)
      (hfresh : id ∉ m.members.map Member.record) :
      RosterStep m (.addMember args (.creating c u actor joinedAt))
        (m.addMembers [⟨id, c, u, .active⟩])
  | ended {call : ChatCall} (c u : ObjectId) (status : ParticipantStatus)
      (hstatus : status ≠ .active) : RosterStep m call (m.endMember c u status)
  | restored (args : SendArgs) (ctx : SendContext) (toRestore left : List ObjectId)
      (record : ObjectId) (hrecord : record ∈ left) :
      RosterStep m (.sendMessage args (.restoring ctx toRestore left)) (m.restore record)

theorem records_membership (db : ChatDb) :
    (membership db).members.map Member.record =
      db.participants.map ConversationParticipant.id := by
  rw [membership, List.map_map]
  rfl

theorem known_membership (db : ChatDb) :
    (membership db).known = db.conversations.map Conversation.id := by
  rw [Membership.known, membership, List.map_map]
  rfl

theorem createStep_roster {db db' : ChatDb} {args : CreateArgs} {pc pc' : CreatePc}
    {input : CallInput} (h : createStep db args input pc = some (db', pc')) :
    RosterStep (membership db) (.createConversation args pc) (membership db') := by
  -- the id of a new conversation is not known yet
  have hunknown : input.newId ∉ db.conversations.map Conversation.id →
      input.newId ∉ (membership db).known := by
    intro hfresh
    rw [known_membership]
    exact hfresh
  cases createStep_cases h with
  | invalidParticipant creator hcreator hfresh husers =>
    rw [membership_createConversation]
    exact .conversation args input.newId (hunknown hfresh)
  | created creator users hcreator hfresh husers =>
    rw [membership_createConversation]
    exact .conversation args input.newId (hunknown hfresh)
  | participants conversation creator users joinedAt hfresh =>
    obtain ⟨hlen, hnodup, hunused⟩ := hfresh
    have hmembers : (List.zipWith (NewParticipant.document conversation.id creator joinedAt)
        users input.newIds).map toMember = newMembers conversation.id users input.newIds := by
      rw [List.map_zipWith]
      rfl
    rw [membership_insertParticipants, hmembers]
    apply RosterStep.members args conversation creator users joinedAt input.newIds hlen hnodup
    intro id hid
    rw [records_membership]
    exact hunused id hid
  | events conversation creator users occurredAt hfresh =>
    rw [membership_insertEvents]
    exact .entries _
  | _ => exact .same

theorem addMemberStep_roster {db db' : ChatDb} {args : MembershipArgs} {pc pc' : AddMemberPc}
    {input : CallInput} (h : addMemberStep db args input pc = some (db', pc')) :
    RosterStep (membership db) (.addMember args pc) (membership db') := by
  cases addMemberStep_cases h with
  | created c u actor joinedAt hfresh =>
    rw [membership_insertParticipants]
    apply RosterStep.added
    rw [records_membership]
    exact hfresh
  | logged c u actor occurredAt hfresh =>
    rw [membership_insertEvents]
    exact .entries _
  | _ => exact .same

theorem endStep_roster {ending : Ending} {guard : ChatDb → Except ChatError ConversationParticipant}
    {userId : JsString} {db db' : ChatDb} {pc pc' : EndPc} {input : CallInput} (call : ChatCall)
    (h : endStep ending guard userId db input pc = some (db', pc')) :
    RosterStep (membership db) call (membership db') := by
  cases endStep_cases h with
  | updated c u actor leftAt huser =>
    rw [membership_endMembership]
    apply RosterStep.ended
    cases ending <;> decide
  | logged c u actor occurredAt event hfresh hevent =>
    rw [membership_insertEvents]
    exact .entries _
  | _ => exact .same

theorem sendStep_roster {env : BackendEnv} {db db' : ChatDb} {args : SendArgs} {pc pc' : SendPc}
    {input : CallInput} (h : sendStep env db args input pc = some (db', pc')) :
    RosterStep (membership db) (.sendMessage args pc) (membership db') := by
  cases sendStep_cases h with
  -- only a restored participant changes his place in the roster
  | restoredLast ctx toRestore left record hrecord =>
    rw [membership_restoreParticipant]
    exact .restored args ctx toRestore left record hrecord
  | restored ctx toRestore left record hrecord =>
    rw [membership_restoreParticipant]
    exact .restored args ctx toRestore left record hrecord
  -- the time, the marker and the counters are no part of it
  | touched ctx message =>
    rw [membership_touchConversation]
    exact .same
  | marked ctx message =>
    rw [membership_moveMarker]
    exact .same
  | counted ctx message =>
    rw [membership_incrementUnread]
    exact .same
  | _ => exact .same

/-- Every step of every call is one of these. -/
theorem callStep_roster {env : BackendEnv} {db db' : ChatDb} {call call' : ChatCall}
    {input : CallInput} (h : callStep env db call input = some (db', call')) :
    RosterStep (membership db) call (membership db') := by
  cases callStep_cases h with
  | createConversation hstep => exact createStep_roster hstep
  | addMember hstep => exact addMemberStep_roster hstep
  | removeMember hstep => exact endStep_roster _ hstep
  | markConversationLeft hstep => exact endStep_roster _ hstep
  | sendMessage hstep => exact sendStep_roster hstep
  | markConversationRead hstep =>
    rw [membership_markReadStep hstep]
    exact .same

/-! ## Well-formed rosters -/

/-- The conversations that the local variables of a call refer to are known. -/
def CallKnown (m : Membership) : ChatCall → Prop
  | .createConversation _ (.addingParticipants conversation _ _ _) => conversation.id ∈ m.known
  | .addMember _ (.start c _) | .addMember _ (.creating c _ _ _) => c ∈ m.known
  | _ => True

namespace Membership.WellFormed

variable {m : Membership}

/-- A step of a call keeps rosters well formed. -/
theorem step {m' : Membership} {call : ChatCall} (hm : m.WellFormed) (hcall : CallKnown m call)
    (h : RosterStep m call m') : m'.WellFormed := by
  cases h with
  | same => exact hm
  | conversation args c hnew => exact hm.addConversation hnew args.type
  -- the new records have the ids that were handed out
  | members args conversation creator users joinedAt ids hlen hnodup hfresh =>
    have hrecords : (newMembers conversation.id users ids).map Member.record = ids :=
      map_zipWith_right (by intro user id; rfl) hlen
    apply hm.addMembers
    · rw [hrecords]
      exact hnodup
    · intro x hx
      exact hfresh x.record (hrecords ▸ List.mem_map_of_mem hx)
    · intro x hx
      obtain ⟨user, -, id, -, rfl⟩ := exists_of_mem_zipWith hx
      exact hcall
  | entries entries => exact ⟨hm.known_nodup, hm.records_nodup, hm.member_known⟩
  -- one new record
  | added args c u actor joinedAt id hfresh =>
    have hrecords : ([(⟨id, c, u, .active⟩ : Member)].map Member.record).Nodup :=
      List.nodup_singleton _
    apply hm.addMembers hrecords
    · intro x hx
      obtain rfl := List.mem_singleton.mp hx
      exact hfresh
    · intro x hx
      obtain rfl := List.mem_singleton.mp hx
      exact hcall
  | ended c u status hstatus => exact hm.endMember c u status
  | restored args ctx toRestore left record hrecord => exact hm.restore record

end Membership.WellFormed

/-- Only `createConversation` makes a conversation. -/
theorem RosterStep.conversations {m m' : Membership} {call : ChatCall} (h : RosterStep m call m')
    (hcall : ∀ args, call ≠ .createConversation args .creating) :
    m'.conversations = m.conversations := by
  cases h with
  | conversation args c hnew => exact absurd rfl (hcall args)
  | _ => rfl

/-- Conversations stay known. -/
theorem RosterStep.known {m m' : Membership} {call : ChatCall} (h : RosterStep m call m')
    {c : ObjectId} (hc : c ∈ m.known) : c ∈ m'.known := by
  cases h with
  | conversation args c' hnew =>
    rw [Membership.known, Membership.addConversation, List.map_append]
    exact List.mem_append_left _ hc
  | _ => exact hc

end ChatSC.Spec
