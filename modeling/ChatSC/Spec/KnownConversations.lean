import ChatSC.Spec.CurrentMembers

/-!
# Known conversations

In every run of the gateway, the participants, the messages and what the tasks are about to write
are of conversations that are stored.  `KnowsConversations.step` is the step lemma; it uses that a
call writes only for a participant that it has found.
-/

namespace ChatSC.Spec

open Backend Collection JsString Transition

/-- The ids of the stored conversations. -/
def conversationIds (db : ChatDb) : List ObjectId := db.conversations.map Conversation.id

/-- The conversations that participants are of. -/
def participations (db : ChatDb) : List ObjectId :=
  db.participants.map ConversationParticipant.conversationId

/-- The conversation to which a task is about to add participants. -/
def adds? : GatewayTask → Option ObjectId
  | .request (.createConversation _ (.addingParticipants conversation _ _ _)) =>
    some conversation.id
  | .request (.addMember _ (.start c _)) => some c
  | .request (.addMember _ (.creating c _ _ _)) => some c
  | _ => none

/-- Conversations and participations stay as they are. -/
structure SameConversations (db db' : ChatDb) : Prop where
  ids : conversationIds db' = conversationIds db
  participations : participations db' = participations db

theorem SameConversations.rfl {db : ChatDb} : SameConversations db db := ⟨Eq.refl _, Eq.refl _⟩

/-! ## Single operations -/

theorem sameConversations_updateParticipant {db : ChatDb} {isMatch : ConversationParticipant → Bool}
    {change : ConversationParticipant → ConversationParticipant}
    (hkeep : ∀ p, (change p).conversationId = p.conversationId) :
    SameConversations db (db.updateParticipant isMatch change) :=
  ⟨Eq.refl _, map_updateOne hkeep⟩

theorem sameConversations_incrementUnread (db : ChatDb) (c u : ObjectId) :
    SameConversations db (db.incrementUnread c u) :=
  ⟨Eq.refl _, map_updateMany fun _ => Eq.refl _⟩

theorem sameConversations_touchConversation (db : ChatDb) (c : ObjectId) (lastMessageAt now : Date) :
    SameConversations db (db.touchConversation c lastMessageAt now) :=
  ⟨map_updateOne fun _ => Eq.refl _, Eq.refl _⟩

/-! ## Steps of calls -/

section Steps

variable {env : BackendEnv} {db db' : ChatDb} {input : CallInput}

theorem sameConversations_sendStep {args : SendArgs} {pc pc' : SendPc}
    (h : sendStep env db args input pc = some (db', pc')) : SameConversations db db' := by
  cases sendStep_cases h with
  | restoredLast ctx toRestore left record hrecord =>
    exact sameConversations_updateParticipant fun _ => rfl
  | restored ctx toRestore left record hrecord =>
    exact sameConversations_updateParticipant fun _ => rfl
  | touched ctx message => exact sameConversations_touchConversation db _ _ _
  | marked ctx message => exact sameConversations_updateParticipant fun _ => rfl
  | counted ctx message => exact sameConversations_incrementUnread db _ _
  | _ => exact ⟨rfl, rfl⟩

theorem sameConversations_markReadStep {args : MemberArgs} {pc pc' : MarkReadPc}
    (h : markReadStep db args input pc = some (db', pc')) : SameConversations db db' := by
  cases markReadStep_cases h with
  | reset c participant lastReadAt => exact sameConversations_updateParticipant fun _ => rfl
  | marked c participant message lastReadAt =>
    exact sameConversations_updateParticipant fun _ => rfl
  | _ => exact ⟨rfl, rfl⟩

theorem sameConversations_endStep {ending : Ending}
    {guard : ChatDb → Except ChatError ConversationParticipant} {userId : JsString} {pc pc' : EndPc}
    (h : endStep ending guard userId db input pc = some (db', pc')) : SameConversations db db' := by
  cases endStep_cases h with
  | updated c u actor leftAt huser => exact sameConversations_updateParticipant fun _ => rfl
  | _ => exact ⟨rfl, rfl⟩

theorem sameConversations_aiBotStep {args : AiBotArgs} {pc pc' : AiBotPc}
    (h : aiBotStep db args input pc = some (db', pc')) : SameConversations db db' := by
  cases aiBotStep_cases h with
  | touched message => exact sameConversations_touchConversation db _ _ _
  | counted message => exact sameConversations_incrementUnread db _ _
  | _ => exact ⟨rfl, rfl⟩

/-- What a step does to the conversations and the participations: nothing, or it stores a new
    conversation, or it adds participants to the one that it has found. -/
inductive ConversationEffect (db : ChatDb) (task : GatewayTask) :
    ChatDb → GatewayTask → Prop where
  | same {db' : ChatDb} {task' : GatewayTask} (hsame : SameConversations db db')
      (hadds : ∀ c, adds? task' = some c → adds? task = some c ∨ c ∈ participations db) :
      ConversationEffect db task db' task'
  | opened {task' : GatewayTask} (conversation : Conversation)
      (hfresh : conversation.id ∉ conversationIds db)
      (hnone : conversation.lastMessageAt = none)
      (hadds : ∀ c, adds? task' = some c → c = conversation.id) :
      ConversationEffect db task (db.createConversation conversation) task'
  | added {task' : GatewayTask} (participants : List ConversationParticipant) (c : ObjectId)
      (hadds : adds? task = some c) (hparticipants : ∀ p ∈ participants, p.conversationId = c)
      (hadded : adds? task' = none) :
      ConversationEffect db task (db.insertParticipants participants) task'

/-- A request. -/
theorem conversationEffect_callStep {call call' : ChatCall}
    (h : callStep env db call input = some (db', call')) :
    ConversationEffect db (.request call) db' (.request call') := by
  cases callStep_cases h with
  | createConversation hstep =>
    cases createStep_cases hstep with
    | invalidParticipant creator hcreator hfresh husers =>
      exact .opened _ hfresh rfl (by intro c hc; cases hc)
    | created creator users hcreator hfresh husers =>
      exact .opened _ hfresh rfl (by intro c hc; exact (Option.some.inj hc).symm)
    | participants conversation creator users joinedAt hfresh =>
      refine .added _ conversation.id rfl ?_ rfl
      intro p hp
      obtain ⟨user, -, id, -, rfl⟩ := exists_of_mem_zipWith hp
      rfl
    | _ => exact .same ⟨rfl, rfl⟩ (by intro c hc; cases hc)
  | addMember hstep =>
    cases addMemberStep_cases hstep with
    | passed actor hguard =>
      refine .same .rfl fun c hc => ?_
      -- the actor of `addMember` was found as an active participant
      obtain rfl := Option.some.inj hc
      obtain ⟨-, -, hfound⟩ := getRequiredActiveParticipant_ok hguard
      exact .inr (List.mem_map_of_mem (List.mem_of_find?_eq_some hfound))
    | notMember c u actor huser hnone => exact .same .rfl fun c hc => .inl hc
    | created c u actor joinedAt hfresh =>
      refine .added _ c rfl ?_ rfl
      intro p hp
      obtain rfl := List.mem_singleton.mp hp
      rfl
    | _ => exact .same ⟨rfl, rfl⟩ (by intro c hc; cases hc)
  | removeMember hstep =>
    exact .same (sameConversations_endStep hstep) (by intro c hc; cases hc)
  | markConversationLeft hstep =>
    exact .same (sameConversations_endStep hstep) (by intro c hc; cases hc)
  | sendMessage hstep => exact .same (sameConversations_sendStep hstep) (by intro c hc; cases hc)
  | markConversationRead hstep =>
    exact .same (sameConversations_markReadStep hstep) (by intro c hc; cases hc)

/-- A step of any task. -/
theorem conversationEffect {config : AiConfig} {sockets : List ChatSocket} {input : GatewayInput}
    {task : GatewayTask} {next : TaskStep} (h : TaskMove env config db sockets input task next) :
    ConversationEffect db task next.db next.task := by
  cases h with
  | request call call' db' hcall => exact conversationEffect_callStep hcall
  | sending args fromSocket pc pc' db' hsend =>
    exact .same (sameConversations_sendStep hsend) (by intro c hc; cases hc)
  | marking args pc pc' db' hread =>
    exact .same (sameConversations_markReadStep hread) (by intro c hc; cases hc)
  | answering s userId args pc pc' db' hsend =>
    exact .same (sameConversations_aiBotStep hsend) (by intro c hc; cases hc)
  | _ => exact .same .rfl (by intro c hc; cases hc)

end Steps

/-! ## Runs -/

/-- Participants, messages and what is about to be written are of stored conversations. -/
structure KnowsConversations (config : AiConfig) (gateway : ChatGateway) : Prop where
  participants : ∀ c ∈ participations gateway.db, c ∈ conversationIds gateway.db
  messages : ∀ m ∈ gateway.db.messages, m.conversationId ∈ conversationIds gateway.db
  writers : ∀ task ∈ gateway.tasks, ∀ c u, GatewayTask.Writes config c u task →
    c ∈ conversationIds gateway.db
  adders : ∀ task ∈ gateway.tasks, ∀ c, adds? task = some c → c ∈ conversationIds gateway.db

theorem adds?_unstarted {task : GatewayTask} (h : Unstarted task) : adds? task = none := by
  cases h with
  | request call hcall =>
    cases call with
    | createConversation args pc =>
      obtain rfl : pc = .start := of_decide_eq_true hcall
      rfl
    | addMember args pc =>
      obtain rfl : pc = .guarding := of_decide_eq_true hcall
      rfl
    | _ => rfl
  | _ => rfl

theorem mem_participations_of_active {db : ChatDb} {c u : ObjectId} (h : ActiveMember db c u) :
    c ∈ participations db := by
  obtain ⟨p, hp, rfl, -⟩ := h
  exact List.mem_map_of_mem hp

section Runs

variable {env : BackendEnv} {config : AiConfig} {gateway gateway' : ChatGateway}
  {event : GatewayEvent}

/-- What a step of a task leaves known. -/
theorem KnowsConversations.effect {db' : ChatDb} {task task' : GatewayTask}
    (hinv : KnowsConversations config gateway) (htask : task ∈ gateway.tasks)
    (heffect : ConversationEffect gateway.db task db' task') :
    conversationIds gateway.db ⊆ conversationIds db' ∧
      (∀ c ∈ participations db', c ∈ conversationIds db') ∧
      ∀ c, adds? task' = some c → c ∈ conversationIds db' := by
  cases heffect with
  | same hsame hadds =>
    rw [hsame.ids, hsame.participations]
    refine ⟨fun _ hc => hc, hinv.participants, fun c hc => ?_⟩
    -- the task was going to add there before, or has found a participant there
    rcases hadds c hc with hbefore | hfound
    · exact hinv.adders task htask c hbefore
    · exact hinv.participants c hfound
  | opened conversation hfresh hnone hadds =>
    have hids : conversationIds (gateway.db.createConversation conversation) =
        conversationIds gateway.db ++ [conversation.id] := List.map_append
    rw [hids]
    refine ⟨List.subset_append_left _ _, fun c hc => ?_, fun c hc => ?_⟩
    · exact List.mem_append_left _ (hinv.participants c hc)
    · exact List.mem_append_right _ (List.mem_singleton.mpr (hadds c hc))
  | added participants c hadds hparticipants hadded =>
    refine ⟨fun _ hc => hc, fun c' hc' => ?_, fun c' hc' => ?_⟩
    · have hsplit : participations (gateway.db.insertParticipants participants) =
          participations gateway.db ++ participants.map ConversationParticipant.conversationId :=
        List.map_append
      rw [hsplit] at hc'
      rcases List.mem_append.mp hc' with hold | hnew
      · exact hinv.participants c' hold
      · obtain ⟨p, hp, rfl⟩ := List.mem_map.mp hnew
        rw [hparticipants p hp]
        exact hinv.adders task htask c hadds
    · rw [hadded] at hc'
      cases hc'

/-- Every event keeps the conversations known. -/
theorem KnowsConversations.step (hinv : KnowsConversations config gateway)
    (h : gatewayStep env config gateway event = some gateway') :
    KnowsConversations config gateway' ∧
      conversationIds gateway.db ⊆ conversationIds gateway'.db := by
  have hmove := gatewayStep_cases h
  have hgrows : conversationIds gateway.db ⊆ conversationIds gateway'.db := by
    cases hmove with
    | outside event sockets new hevent hnew => exact fun _ hc => hc
    | task index input task next htask hmove =>
      exact (hinv.effect (List.mem_of_getElem? htask) (conversationEffect hmove)).1
  have hparticipants : ∀ c ∈ participations gateway'.db, c ∈ conversationIds gateway'.db := by
    cases hmove with
    | outside event sockets new hevent hnew => exact hinv.participants
    | task index input task next htask hmove =>
      exact (hinv.effect (List.mem_of_getElem? htask) (conversationEffect hmove)).2.1
  have hwriters : ∀ task ∈ gateway.tasks, ∀ c u, GatewayTask.Writes config c u task →
      c ∈ conversationIds gateway'.db :=
    fun task htask c u hwrites => hgrows (hinv.writers task htask c u hwrites)
  have hadders : ∀ task ∈ gateway.tasks, ∀ c, adds? task = some c →
      c ∈ conversationIds gateway'.db :=
    fun task htask c hadds => hgrows (hinv.adders task htask c hadds)
  refine ⟨⟨hparticipants, ?_, ?_, ?_⟩, hgrows⟩
  · cases hmove with
    | outside event sockets new hevent hnew => exact hinv.messages
    | task index input task next htask hmove =>
      intro m hm
      have heffect := messageEffect hmove
      -- every message is an old one, or of a task that already writes in its conversation
      replace hm : m ∈ next.db.messages := hm
      replace hgrows : conversationIds gateway.db ⊆ conversationIds next.db := hgrows
      show m.conversationId ∈ conversationIds next.db
      apply hgrows
      generalize next.db = db' at heffect hm
      cases heffect with
      | quiet hmessages hnone =>
        have hmem : unseen m ∈ gateway.db.messages.map unseen :=
          hmessages ▸ List.mem_map_of_mem hm
        obtain ⟨old, hold, heq⟩ := List.mem_map.mp hmem
        have hsame : (unseen old).conversationId = (unseen m).conversationId :=
          congrArg Message.conversationId heq
        have hknown := hinv.messages old hold
        rwa [show old.conversationId = m.conversationId from hsame] at hknown
      | created message hcreates hfresh =>
        rcases List.mem_append.mp hm with hold | hnew
        · exact hinv.messages m hold
        · obtain rfl := List.mem_singleton.mp hnew
          exact hinv.writers task (List.mem_of_getElem? htask) _ _ hcreates.writes
  · refine hmove.forall_tasks hwriters ?_ (fun task htask => htask) ?_
    · exact fun task hnew c u hwrites => absurd hwrites (not_writes_unstarted hnew)
    · intro index input task next hevent htask hstep hdb
      have hmem := List.mem_of_getElem? htask
      refine ⟨fun c u hwrites => ?_, fun spawned hspawned c u hwrites => ?_⟩
      · -- a task begins to write only for an active participant
        rcases writes_step hstep hwrites with hbefore | hactive
        · exact hwriters task hmem c u hbefore
        · exact hparticipants c (hdb ▸ mem_participations_of_active hactive)
      · exact hwriters task hmem c u (writes_spawned hstep hspawned hwrites)
  · refine hmove.forall_tasks hadders ?_ (fun task htask => htask) ?_
    · intro task hnew c hadds
      rw [adds?_unstarted hnew] at hadds
      cases hadds
    · intro index input task next hevent htask hstep hdb
      have hmem := List.mem_of_getElem? htask
      refine ⟨fun c hadds => ?_, fun spawned hspawned c hadds => ?_⟩
      · rw [hdb]
        exact (hinv.effect hmem (conversationEffect hstep)).2.2 c hadds
      · obtain ⟨args, message, -, hfollows⟩ := hstep.mem_spawned hspawned
        rcases mem_followUps hfollows with rfl | ⟨-, rfl⟩ <;> cases hadds

/-- At the start there is nothing to know. -/
theorem knowsConversations_start (attachments : List ChatAttachment) :
    KnowsConversations config (startGateway attachments) :=
  ⟨fun _ h => absurd h List.not_mem_nil, fun _ h => absurd h List.not_mem_nil,
    fun _ h => absurd h List.not_mem_nil, fun _ h => absurd h List.not_mem_nil⟩

end Runs

end ChatSC.Spec
