import ChatSC.Spec.EncryptedAtRest
import ChatSC.Spec.FormerMembers
import ChatSC.Spec.GatewayRuns

/-!
# Only current members write

`sendMessage` checks the sender first and creates the message some `await`s later, and the answer of
the chat bot is stored in the name of the sender without a check.  `current_members_write` names what
keeps both right: no membership ends while a task is going to write for the member.
-/

namespace ChatSC.Spec

open Backend Collection JsString Records Transition

/-- Every message that the step creates is from an active member. -/
def WritesAsMember (env : BackendEnv) (config : AiConfig) (gateway : ChatGateway)
    (event : GatewayEvent) : Prop :=
  ∀ gateway', gatewayStep env config gateway event = some gateway' →
    ∀ message ∈ gateway'.db.messages, message.id ∉ gateway.db.messages.map Message.id →
      ActiveMember gateway.db message.conversationId message.senderId

/-! ## What is going to be written -/

/-- The parsed ids of a call that has found the sender and not yet created the message. -/
def SendPc.unsent? : SendPc → Option SendContext
  | .findingConversation ctx | .findingParticipants ctx | .restoring ctx _ _ | .refetching ctx _
  | .findingAttachment ctx _ | .encrypting ctx _ | .creating ctx _ _ _ => some ctx
  | _ => none

/-- The conversation and the sender of the message that a task is going to create. -/
def unsent? (task : GatewayTask) : Option (ObjectId × ObjectId) :=
  (sendCall? task).bind fun x => (SendPc.unsent? x.2).map fun ctx => (ctx.conversation, ctx.sender)

/-- The chat bot answers the message. -/
def answered (config : AiConfig) (args : SendArgs) (fromSocket : Bool) : Bool :=
  fromSocket && (config.isChatbotEnabled && shouldReply args.content)

/-- The task brings an answer of the chat bot, in the name of the user. -/
def GatewayTask.Answers (config : AiConfig) (c u : ObjectId) : GatewayTask → Prop
  | .sendMessage args fromSocket pc => (answered config args fromSocket ∧ SendTaskPc.passed pc) ∧
    ObjectId.ofString? args.conversationId = some c ∧ ObjectId.ofString? args.senderId = some u
  | .chatbot s u' .generating => ObjectId.ofString? s = some c ∧ ObjectId.ofString? u' = some u
  | .chatbot _ _ (.sending args .start) =>
    ObjectId.ofString? args.conversationId = some c ∧ ObjectId.ofString? args.requesterId = some u
  | _ => False

/-- The task is going to create a message of the user in the conversation. -/
def GatewayTask.Writes (config : AiConfig) (c u : ObjectId) (task : GatewayTask) : Prop :=
  unsent? task = some (c, u) ∨ GatewayTask.Answers config c u task

/-- A step that ends a membership is taken only when no task is going to write for the member. -/
def EndsUnwritten (env : BackendEnv) (config : AiConfig) (gateway : ChatGateway)
    (event : GatewayEvent) : Prop :=
  ∀ gateway', gatewayStep env config gateway event = some gateway' →
    ∀ c u, ActiveMember gateway.db c u → ¬ ActiveMember gateway'.db c u →
      ∀ task ∈ gateway.tasks, ¬ GatewayTask.Writes config c u task

/-! ## Checking the conditions -/

instance GatewayTask.decidableAnswers (config : AiConfig) (c u : ObjectId) :
    (task : GatewayTask) → Decidable (GatewayTask.Answers config c u task)
  | .sendMessage _ _ _ => inferInstanceAs (Decidable ((_ ∧ _) ∧ _ ∧ _))
  | .chatbot _ _ .generating => inferInstanceAs (Decidable (_ ∧ _))
  | .chatbot _ _ (.sending _ .start) => inferInstanceAs (Decidable (_ ∧ _))
  | .chatbot _ _ (.sending _ (.updatingConversation _))
  | .chatbot _ _ (.sending _ (.incrementing _)) | .chatbot _ _ (.sending _ (.returned _))
  | .chatbot _ _ (.sending _ (.threw _)) | .chatbot _ _ (.emitting _) | .chatbot _ _ .ended
  | .request _ | .joinConversation _ _ _ | .markConversationRead _ _ | .typingPresence _ _ _ _
  | .moderation _ _ _ _ => inferInstanceAs (Decidable False)

instance GatewayTask.decidableWrites (config : AiConfig) (c u : ObjectId) (task : GatewayTask) :
    Decidable (GatewayTask.Writes config c u task) :=
  inferInstanceAs (Decidable (_ ∨ _))

section Gateway

variable {env : BackendEnv} {config : AiConfig} {gateway gateway' : ChatGateway}
  {event : GatewayEvent}

theorem writesAsMember_iff : WritesAsMember env config gateway event ↔
    ∀ gateway' ∈ gatewayStep env config gateway event, ∀ message ∈ gateway'.db.messages,
      message.id ∉ gateway.db.messages.map Message.id →
        ActiveMember gateway.db message.conversationId message.senderId :=
  Iff.rfl

instance decidableWritesAsMember : Decidable (WritesAsMember env config gateway event) :=
  decidable_of_iff _ writesAsMember_iff.symm

/-- Only the users of the participants can lose a membership. -/
theorem endsUnwritten_iff : EndsUnwritten env config gateway event ↔
    ∀ gateway' ∈ gatewayStep env config gateway event, ∀ p ∈ gateway.db.participants,
      p.status = .active → ¬ ActiveMember gateway'.db p.conversationId p.userId →
        ∀ task ∈ gateway.tasks, ¬ GatewayTask.Writes config p.conversationId p.userId task :=
  forall₂_congr fun _ _ => forall_activeMember_iff

instance decidableEndsUnwritten : Decidable (EndsUnwritten env config gateway event) :=
  decidable_of_iff _ endsUnwritten_iff.symm

end Gateway

/-! ## Steps -/

theorem unsent?_sendEncrypt {args : SendArgs} {ctx ctx' : SendContext}
    {attachment : Option ChatAttachment} {now : Date}
    (h : SendPc.unsent? (sendEncrypt args ctx attachment now) = some ctx') : ctx' = ctx := by
  unfold sendEncrypt at h
  split at h
  · cases h
  · split at h <;> exact (Option.some.inj h).symm

theorem unsent?_sendAttachment {args : SendArgs} {ctx ctx' : SendContext} {now : Date}
    (h : SendPc.unsent? (sendAttachment args ctx now) = some ctx') : ctx' = ctx := by
  unfold sendAttachment at h
  split at h
  · exact unsent?_sendEncrypt h
  · split at h
    · cases h
    · exact (Option.some.inj h).symm

/-- A call that is going to write after a step was going to write before, or has found an active
    member. -/
theorem unsent?_sendStep {env : BackendEnv} {db db' : ChatDb} {args : SendArgs} {pc pc' : SendPc}
    {input : CallInput} {ctx' : SendContext} (h : sendStep env db args input pc = some (db', pc'))
    (hunsent : SendPc.unsent? pc' = some ctx') :
    (∃ ctx, SendPc.unsent? pc = some ctx ∧ ctx.conversation = ctx'.conversation ∧
        ctx.sender = ctx'.sender) ∨ ActiveMember db' ctx'.conversation ctx'.sender := by
  cases sendStep_cases h with
  | sender participant hnonempty hsender =>
    cases hunsent
    -- here the call begins to be unsent: the sender has just been found active
    obtain ⟨hc, hu, -⟩ := getRequiredActiveParticipant_ok hsender
    exact .inr (activeMember_of_getRequired hsender hc hu)
  | notDirect ctx =>
    obtain rfl := unsent?_sendAttachment hunsent
    exact .inl ⟨_, rfl, rfl, rfl⟩
  | nothingToRestore ctx =>
    obtain rfl := unsent?_sendAttachment hunsent
    exact .inl ⟨_, rfl, rfl, rfl⟩
  | refetched ctx toRestore =>
    obtain rfl := unsent?_sendAttachment hunsent
    exact .inl ⟨_, rfl, rfl, rfl⟩
  | attachment ctx attachment found hfound =>
    obtain rfl := unsent?_sendEncrypt hunsent
    exact .inl ⟨_, rfl, rfl, rfl⟩
  | direct ctx conversation hfound hdirect => exact .inl ⟨_, hunsent, rfl, rfl⟩
  | toRestore ctx => exact .inl ⟨_, hunsent, rfl, rfl⟩
  | restoredLast ctx toRestore left record hrecord => exact .inl ⟨_, hunsent, rfl, rfl⟩
  | restored ctx toRestore left record hrecord => exact .inl ⟨_, hunsent, rfl, rfl⟩
  | encrypted ctx attachment encrypted hencrypted => exact .inl ⟨_, hunsent, rfl, rfl⟩
  -- behind the creation, or refused, the call is not unsent any more
  | _ => cases hunsent

section Task

variable {env : BackendEnv} {config : AiConfig} {db : ChatDb} {sockets : List ChatSocket}
  {input : GatewayInput} {task : GatewayTask} {next : TaskStep} {c u : ObjectId}

/-- The message of a call of `sendMessage` after its step. -/
theorem unsent?_step {db' : ChatDb} {args : SendArgs} {pc pc' : SendPc} {input : CallInput}
    {task task' : GatewayTask} (htask : sendCall? task = some (args, pc))
    (htask' : sendCall? task' = some (args, pc'))
    (h : sendStep env db args input pc = some (db', pc')) (hunsent : unsent? task' = some (c, u)) :
    unsent? task = some (c, u) ∨ ActiveMember db' c u := by
  rw [unsent?, htask'] at hunsent
  obtain ⟨ctx', hctx', heq⟩ := Option.map_eq_some_iff.mp hunsent
  cases heq
  rcases unsent?_sendStep h hctx' with ⟨ctx, hctx, hc, hu⟩ | hactive
  · left
    rw [unsent?, htask, Option.bind_some, hctx, Option.map_some, hc, hu]
  · exact .inr hactive

/-- A task that is going to write after a step was going to write before, or the user is an active
    member now. -/
theorem writes_step (h : TaskMove env config db sockets input task next)
    (hwrites : GatewayTask.Writes config c u next.task) :
    GatewayTask.Writes config c u task ∨ ActiveMember next.db c u := by
  cases h with
  | request call call' db' hcall =>
    rcases hwrites with hunsent | hanswers
    · cases callStep_cases hcall with
      | sendMessage hstep =>
        exact (unsent?_step rfl rfl hstep hunsent).imp_left .inl
      | _ => cases hunsent
    · exact False.elim hanswers
  -- it sends, or its message is one that the chat bot is going to answer
  | sending args fromSocket pc pc' db' hsend =>
    rcases hwrites with hunsent | ⟨⟨hanswered, hpassed⟩, hc, hu⟩
    · cases hcall : sendCall? (.sendMessage args fromSocket (afterSend pc')) with
      | none =>
        rw [unsent?, hcall] at hunsent
        cases hunsent
      | some x =>
        obtain ⟨args', pc''⟩ := x
        obtain ⟨rfl, rfl⟩ := sendCall?_afterSend hcall
        exact (unsent?_step rfl hcall hsend hunsent).imp_left .inl
    · exact (passed_sendStep hsend hc hu hpassed).imp_left
        fun hbefore => .inr ⟨⟨hanswered, hbefore⟩, hc, hu⟩
  | emitting args fromSocket pc pc' deliveries hemit =>
    rcases hwrites with hunsent | ⟨⟨hanswered, -⟩, hc, hu⟩
    · cases hunsent
    · exact .inl (.inr ⟨⟨hanswered, rfl⟩, hc, hu⟩)
  -- the answer belongs to a task of its own from here on
  | emitted args fromSocket message =>
    rcases hwrites with hunsent | ⟨⟨-, hpassed⟩, -⟩
    · cases hunsent
    · cases hpassed
  | generated s userId content =>
    rcases hwrites with hunsent | hanswers
    · cases hunsent
    · exact .inl (.inr hanswers)
  | answering s userId args pc pc' db' hsend =>
    rcases hwrites with hunsent | hanswers
    · rw [unsent?, sendCall?_afterAiBot] at hunsent
      cases hunsent
    · -- no step leads back to the start
      cases aiBotStep_cases hsend with
      | _ => exact False.elim hanswers
  | marking args pc pc' db' hread =>
    rcases hwrites with hunsent | hanswers
    · cases hunsent
    · exact False.elim hanswers
  | readListed args last pc =>
    rcases hwrites with hunsent | hanswers
    · cases hunsent
    · exact False.elim hanswers
  | _ =>
    rcases hwrites with hunsent | hanswers
    · cases hunsent
    · exact False.elim hanswers

/-- A task that another one starts is going to write what the other one was. -/
theorem writes_spawned (h : TaskMove env config db sockets input task next)
    {spawned : GatewayTask} (hspawned : spawned ∈ next.spawned)
    (hwrites : GatewayTask.Writes config c u spawned) : GatewayTask.Writes config c u task := by
  obtain ⟨args, message, rfl, hfollows⟩ := h.mem_spawned hspawned
  rcases mem_followUps hfollows with rfl | ⟨hreply, rfl⟩
  · rcases hwrites with hunsent | hanswers
    · cases hunsent
    · exact False.elim hanswers
  · rcases hwrites with hunsent | ⟨hc, hu⟩
    · cases hunsent
    · exact .inr ⟨⟨hreply, rfl⟩, hc, hu⟩

/-- A new task is not going to write yet. -/
theorem not_writes_unstarted (h : Unstarted task) : ¬ GatewayTask.Writes config c u task := by
  intro hwrites
  cases h with
  | request call hcall =>
    rcases hwrites with hunsent | hanswers
    · cases call with
      | sendMessage args pc => cases hcall
      | _ => cases hunsent
    · exact hanswers
  | sendMessage args fromSocket =>
    rcases hwrites with hunsent | ⟨⟨-, hpassed⟩, -⟩
    · cases hunsent
    · cases hpassed
  | _ =>
    rcases hwrites with hunsent | hanswers
    · cases hunsent
    · exact hanswers

/-- A task that creates a message was going to write it. -/
theorem Creates.writes {input : CallInput} {message : Message} (h : Creates input task message) :
    GatewayTask.Writes config message.conversationId message.senderId task := by
  cases h with
  | send args ctx attachment encrypted sentAt htask =>
    left
    rw [unsent?, htask]
    rfl
  | chatbot s u args c r hc hr => exact .inr ⟨hc, hr⟩

end Task

/-! ## Runs -/

section Runs

variable {env : BackendEnv} {config : AiConfig} {gateway gateway' : ChatGateway}
  {event : GatewayEvent}

/-- Whoever a task is going to write for is an active member. -/
def WritersActive (config : AiConfig) (gateway : ChatGateway) : Prop :=
  ∀ task ∈ gateway.tasks, ∀ c u, GatewayTask.Writes config c u task → ActiveMember gateway.db c u

/-- A step that ends memberships only when nothing is written for the member keeps the writers
    active. -/
theorem WritersActive.step (hinv : WritersActive config gateway)
    (hok : EndsUnwritten env config gateway event)
    (h : gatewayStep env config gateway event = some gateway') : WritersActive config gateway' := by
  have hkept : ∀ task ∈ gateway.tasks, ∀ c u, GatewayTask.Writes config c u task →
      ActiveMember gateway'.db c u := by
    intro task htask c u hwrites
    by_contra hended
    exact hok gateway' h c u (hinv task htask c u hwrites) hended task htask hwrites
  refine (gatewayStep_cases h).forall_tasks hkept ?_ (fun task htask => htask) ?_
  · exact fun task hnew c u hwrites => absurd hwrites (not_writes_unstarted hnew)
  · intro index input task next hevent htask hmove hdb
    have hmem := List.mem_of_getElem? htask
    refine ⟨fun c u hwrites => ?_, fun spawned hspawned c u hwrites => ?_⟩
    · rcases writes_step hmove hwrites with hbefore | hactive
      · exact hkept task hmem c u hbefore
      · exact hdb ▸ hactive
    · exact hkept task hmem c u (writes_spawned hmove hspawned hwrites)

/-- Where the writers are active, only members write. -/
theorem WritersActive.writesAsMember (hinv : WritersActive config gateway) :
    WritesAsMember env config gateway event := by
  intro gateway' h message hmessage hnew
  have hold : ∀ {db' : ChatDb}, db'.messages.map unseen = gateway.db.messages.map unseen →
      message ∈ db'.messages → message.id ∈ gateway.db.messages.map Message.id := by
    intro db' hmessages hmem
    rw [← ids_of_unseen hmessages]
    exact List.mem_map_of_mem hmem
  cases gatewayStep_cases h with
  | outside event sockets new hevent htasks => exact absurd (hold rfl hmessage) hnew
  | task index input task next htask hmove =>
    have heffect := messageEffect hmove
    replace hmessage : message ∈ next.db.messages := hmessage
    generalize next.db = db' at heffect hmessage
    cases heffect with
    | quiet hmessages hnone => exact absurd (hold hmessages hmessage) hnew
    | created created hcreates hfresh =>
      rcases List.mem_append.mp hmessage with hbefore | hcreated
      · exact absurd (List.mem_map_of_mem hbefore) hnew
      · obtain rfl := List.mem_singleton.mp hcreated
        exact hinv task (List.mem_of_getElem? htask) _ _ hcreates.writes

/-- **Only current members write**, in every run in which no membership ends while a task is going to
    write for the member: a call of `sendMessage` between its check and the creation, or an answer of
    the chat bot that is still to come. -/
theorem current_members_write {attachments : List ChatAttachment} {events : List GatewayEvent}
    (hok : Guarded (gatewayStep env config) (EndsUnwritten env config) (startGateway attachments)
      events) :
    Guarded (gatewayStep env config) (WritesAsMember env config) (startGateway attachments)
      events := by
  have hstart : WritersActive config (startGateway attachments) :=
    fun task htask => absurd htask List.not_mem_nil
  exact hok.of_invariant (fun _ _ _ hinv hok h => hinv.step hok h)
    (fun _ _ hinv _ => hinv.writesAsMember) hstart

end Runs

/-! ## Two runs -/

/-- User 2 connects to the group of user 1 and asks the chat bot: up to the answer, which is task 2. -/
def askedEvents : List GatewayEvent :=
  .request createGroup.call :: taskSteps 0 createGroup.inputs ++
    [.connect (digitId 2), .receive 0 (.sendMessage (digitId 3).toString (js "/ai") [])] ++
    taskSteps 1 (plainInputs 12 5 (digitId 8))

/-- The chat bot answers with hello. -/
def answerEvents : List GatewayEvent :=
  List.replicate 2 (.step 2 ⟨plainInput 20 (digitId 9) [], ⟨none, none⟩, some (js "hello")⟩)

/-- User 2 is removed from the group after the answer. -/
theorem current_members_write_answered :
    Guarded (gatewayStep plainEnv chatbotAi) (WritesAsMember plainEnv chatbotAi) (startGateway [])
      (askedEvents ++ answerEvents ++ removeEvents 3) :=
  current_members_write (by decide +kernel)

/-- User 2 is removed from the group before the answer, which is stored in the user's name. -/
theorem answer_stored_for_removed_member :
    ¬ Guarded (gatewayStep plainEnv chatbotAi) (WritesAsMember plainEnv chatbotAi) (startGateway [])
      (askedEvents ++ removeEvents 3 ++ answerEvents) := by
  decide +kernel

end ChatSC.Spec
