import ChatSC.ForStd.Records
import ChatSC.Spec.GatewayTasks

/-!
# Runs of the gateway

`gatewayStep_cases` says what one event does to the database and the tasks: either only new tasks
come, before their first step, or one task takes a step.  `messageEffect` says what the step of a
task does to the messages: it creates one, or changes nothing but who has seen them.
-/

namespace ChatSC.Spec

open Backend Collection JsString Records Transition

/-! ## Events -/

/-- A task of an event from outside, before its first step. -/
inductive Unstarted : GatewayTask → Prop where
  | request (call : ChatCall) (hcall : call.isRequest = true) : Unstarted (.request call)
  | joinConversation (client : Nat) (s : JsString) : Unstarted (.joinConversation client s .checking)
  | sendMessage (args : SendArgs) (fromSocket : Bool) :
      Unstarted (.sendMessage args fromSocket (.sending .start))
  | markConversationRead (args : MemberArgs) :
      Unstarted (.markConversationRead args (.marking .start))
  | typingPresence (client : Nat) (s : JsString) (isTyping : Bool) :
      Unstarted (.typingPresence client s isTyping .checking)

theorem unstarted_clientTask {client : Nat} {socket : ChatSocket} {event : ClientEvent}
    {task : GatewayTask} (h : task ∈ (clientTask client socket event).toList) : Unstarted task := by
  -- the one event that starts no task is that a socket leaves
  cases event with
  | joinConversation s =>
    obtain rfl := List.mem_singleton.mp h
    exact .joinConversation client s
  | leaveConversation s => exact absurd h List.not_mem_nil
  | sendMessage s content attachmentId =>
    obtain rfl := List.mem_singleton.mp h
    exact .sendMessage _ true
  | markConversationRead s =>
    obtain rfl := List.mem_singleton.mp h
    exact .markConversationRead _
  | typingPresenceUpdated s isTyping =>
    obtain rfl := List.mem_singleton.mp h
    exact .typingPresence client s isTyping

/-- What a message from a socket starts: its moderation, and the answer of the chat bot. -/
theorem mem_followUps {config : AiConfig} {args : SendArgs} {message : RealtimeMessagePayload}
    {task : GatewayTask} (h : task ∈ followUps config args message) :
    task = .moderation args.conversationId args.senderId message.messageId .analyzing ∨
      (config.isChatbotEnabled && shouldReply args.content) = true ∧
        task = .chatbot args.conversationId args.senderId .generating := by
  rw [followUps, List.mem_append] at h
  rcases h with h | h
  · split at h
    · exact .inl (List.mem_singleton.mp h)
    · exact absurd h List.not_mem_nil
  · split at h
    · rename_i hreply
      exact .inr ⟨hreply, List.mem_singleton.mp h⟩
    · exact absurd h List.not_mem_nil

section Gateway

variable {env : BackendEnv} {config : AiConfig} {gateway gateway' : ChatGateway}
  {event : GatewayEvent}

variable (env config gateway) in
/-- What an event does to the database and the tasks. -/
inductive GatewayMove : GatewayEvent → ChatGateway → Prop where
  | outside (event : GatewayEvent) (sockets : List ChatSocket) (new : List GatewayTask)
      (hevent : ∀ index input, event ≠ .step index input) (hnew : ∀ task ∈ new, Unstarted task) :
      GatewayMove event ⟨gateway.db, sockets, gateway.tasks ++ new⟩
  | task (index : Nat) (input : GatewayInput) (task : GatewayTask) (next : TaskStep)
      (htask : gateway.tasks[index]? = some task)
      (hmove : TaskMove env config gateway.db gateway.sockets input task next) :
      GatewayMove (.step index input)
        ⟨next.db, next.sockets, gateway.tasks.set index next.task ++ next.spawned⟩

theorem gatewayStep_cases (h : gatewayStep env config gateway event = some gateway') :
    GatewayMove env config gateway event gateway' := by
  have hnone : ∀ task ∈ ([] : List GatewayTask), Unstarted task :=
    fun _ hmem => absurd hmem List.not_mem_nil
  -- an event without a task adds the empty list
  have hquiet : ∀ (event : GatewayEvent) (sockets : List ChatSocket),
      (∀ index input, event ≠ .step index input) →
        GatewayMove env config gateway event ⟨gateway.db, sockets, gateway.tasks⟩ := by
    intro event sockets hevent
    have hmove : GatewayMove env config gateway event ⟨gateway.db, sockets, gateway.tasks ++ []⟩ :=
      .outside event sockets [] hevent hnone
    rwa [List.append_nil] at hmove
  obtain ⟨⟨gateway'', deliveries⟩, hnext, rfl⟩ := Option.map_eq_some_iff.mp h
  cases gatewayNext_cases hnext with
  | connected | disconnected | left => exact hquiet _ _ (by intro _ _ heq; cases heq)
  | received client event socket hsocket hconnected hevent =>
    exact .outside _ _ _ (by intro _ _ heq; cases heq) fun task => unstarted_clientTask
  | requested call hcall =>
    refine .outside _ _ _ (by intro _ _ heq; cases heq) fun task htask => ?_
    obtain rfl := List.mem_singleton.mp htask
    exact .request call hcall
  | confirmed user s attachmentId =>
    refine .outside _ _ _ (by intro _ _ heq; cases heq) fun task htask => ?_
    obtain rfl := List.mem_singleton.mp htask
    exact .sendMessage _ false
  | stepped index input task next htask hstep =>
    exact .task index input task next htask (taskStep_cases hstep)

end Gateway

/-! ## Tasks after a step -/

section Task

variable {env : BackendEnv} {config : AiConfig} {db : ChatDb} {sockets : List ChatSocket}
  {input : GatewayInput} {task : GatewayTask} {next : TaskStep}

/-- Only a message from a socket starts tasks. -/
theorem TaskMove.mem_spawned (h : TaskMove env config db sockets input task next)
    {spawned : GatewayTask} (hspawned : spawned ∈ next.spawned) :
    ∃ args message, task = .sendMessage args true (.emitting (.emitted message)) ∧
      spawned ∈ followUps config args message := by
  cases h with
  | emitted args fromSocket message =>
    cases fromSocket with
    | true => exact ⟨args, message, rfl, hspawned⟩
    | false => exact absurd hspawned List.not_mem_nil
  | _ => exact absurd hspawned List.not_mem_nil

/-- What every new task has, what every task keeps in its steps and in those of the others, and what
    it gives to the tasks that it starts, all tasks have after an event. -/
theorem GatewayMove.forall_tasks {gateway gateway' : ChatGateway} {event : GatewayEvent}
    {P P' : GatewayTask → Prop} (h : GatewayMove env config gateway event gateway')
    (hall : ∀ task ∈ gateway.tasks, P task) (hstart : ∀ task, Unstarted task → P' task)
    (hothers : ∀ task, P task → P' task)
    (hstep : ∀ index input task next, event = .step index input → gateway.tasks[index]? = some task →
      TaskMove env config gateway.db gateway.sockets input task next → gateway'.db = next.db →
        P' next.task ∧ ∀ spawned ∈ next.spawned, P' spawned) :
    ∀ task ∈ gateway'.tasks, P' task := by
  cases h with
  | outside event sockets new hevent hnew =>
    -- an event from outside adds tasks that have not started
    intro task htask
    rcases List.mem_append.mp htask with hold | hadded
    · exact hothers task (hall task hold)
    · exact hstart task (hnew task hadded)
  | task index input task next htask hmove =>
    obtain ⟨hself, hspawned⟩ := hstep index input task next rfl htask hmove rfl
    intro other hother
    -- the others, the one that moved, and those it has started
    rcases List.mem_append.mp hother with hold | hadded
    · rcases List.mem_or_eq_of_mem_set hold with hsame | rfl
      · exact hothers other (hall other hsame)
      · exact hself
    · exact hspawned other hadded

/-! ## The messages -/

/-- A message but for who has seen it. -/
def unseen (message : Message) : Message := { message with seenState := .sent }

theorem ids_of_unseen {db db' : ChatDb} (h : db'.messages.map unseen = db.messages.map unseen) :
    db'.messages.map Message.id = db.messages.map Message.id := by
  have hids : ∀ messages : List Message,
      messages.map Message.id = (messages.map unseen).map Message.id := by
    intro messages
    rw [List.map_map]
    rfl
  rw [hids, h, ← hids]

/-- The call of `sendMessage` that a task makes. -/
def sendCall? : GatewayTask → Option (SendArgs × SendPc)
  | .request (.sendMessage args pc) => some (args, pc)
  | .sendMessage args _ (.sending pc) => some (args, pc)
  | _ => none

/-- The call of `sendMessage` behind a step. -/
theorem sendCall?_afterSend {args args' : SendArgs} {fromSocket : Bool} {pc pc' : SendPc}
    (h : sendCall? (.sendMessage args fromSocket (afterSend pc)) = some (args', pc')) :
    args' = args ∧ pc' = pc := by
  cases pc <;> cases h <;> exact ⟨rfl, rfl⟩

theorem sendCall?_afterAiBot (s u : JsString) (args : AiBotArgs) (pc : AiBotPc) :
    sendCall? (.chatbot s u (afterAiBot args pc)) = none := by
  cases pc <;> rfl

/-- A task that another one starts makes no call of `sendMessage`. -/
theorem sendCall?_spawned (h : TaskMove env config db sockets input task next)
    {spawned : GatewayTask} (hspawned : spawned ∈ next.spawned) : sendCall? spawned = none := by
  obtain ⟨args, message, -, hfollows⟩ := h.mem_spawned hspawned
  rcases mem_followUps hfollows with rfl | ⟨-, rfl⟩ <;> rfl

/-- The message that the next step of a task creates. -/
inductive Creates (input : CallInput) : GatewayTask → Message → Prop where
  | send {task : GatewayTask} (args : SendArgs) (ctx : SendContext)
      (attachment : Option ChatAttachment) (encrypted : EncryptedContent) (sentAt : Date)
      (htask : sendCall? task = some (args, .creating ctx attachment encrypted sentAt)) :
      Creates input task (newMessage args ctx attachment encrypted sentAt input.newId)
  | chatbot (s u : JsString) (args : AiBotArgs) (c r : ObjectId)
      (hc : ObjectId.ofString? args.conversationId = some c)
      (hr : ObjectId.ofString? args.requesterId = some r) :
      Creates input (.chatbot s u (.sending args .start))
        (newAiBotMessage c r args.content input.now input.newId)

theorem Creates.id_eq {input : CallInput} {message : Message} (h : Creates input task message) :
    message.id = input.newId := by
  cases h <;> rfl

/-- What a step of a task does to the messages. -/
inductive MessageEffect (db : ChatDb) (input : CallInput) (task : GatewayTask) : ChatDb → Prop where
  | quiet {db' : ChatDb} (hmessages : db'.messages.map unseen = db.messages.map unseen)
      (hnone : ∀ message, ¬ Creates input task message) : MessageEffect db input task db'
  | created (message : Message) (hcreates : Creates input task message)
      (hfresh : message.id ∉ db.messages.map Message.id) :
      MessageEffect db input task (db.createMessage message)

/-- What a step of `sendMessage` does to the messages. -/
theorem messageEffect_sendStep {db' : ChatDb} {args : SendArgs} {pc pc' : SendPc} {input : CallInput}
    (htask : sendCall? task = some (args, pc))
    (h : sendStep env db args input pc = some (db', pc')) : MessageEffect db input task db' := by
  -- every step but the creation leaves the messages alone
  have hquiet : ∀ db' : ChatDb, db'.messages = db.messages →
      (∀ ctx attachment encrypted sentAt, pc ≠ .creating ctx attachment encrypted sentAt) →
        MessageEffect db input task db' := by
    intro db' hmessages hpc
    refine .quiet (by rw [hmessages]) fun message hcreates => ?_
    cases hcreates with
    | send args' ctx attachment encrypted sentAt htask' =>
      rw [htask] at htask'
      cases htask'
      exact hpc ctx attachment encrypted sentAt rfl
    | chatbot s u args' c r hc hr => cases htask
  cases sendStep_cases h with
  | createdWith ctx attachment encrypted sentAt hfresh =>
    exact .created _ (.send args ctx (some attachment) encrypted sentAt htask) hfresh
  | created ctx encrypted sentAt hfresh =>
    exact .created _ (.send args ctx none encrypted sentAt htask) hfresh
  | _ => exact hquiet _ rfl (by intro _ _ _ _ heq; cases heq)

/-- Every step of every task creates a message, or changes nothing but who has seen them. -/
theorem messageEffect (h : TaskMove env config db sockets input task next) :
    MessageEffect db input.call task next.db := by
  -- a task that is neither sending nor answering creates nothing
  have hquiet : ∀ db' : ChatDb, db'.messages.map unseen = db.messages.map unseen →
      sendCall? task = none → (∀ s u args, task ≠ .chatbot s u (.sending args .start)) →
        MessageEffect db input.call task db' := by
    intro db' hmessages hsend hbot
    refine .quiet hmessages fun message hcreates => ?_
    cases hcreates with
    | send args ctx attachment encrypted sentAt htask =>
      rw [hsend] at htask
      cases htask
    | chatbot s u args c r hc hr => exact hbot s u args rfl
  -- a reading changes nothing of a message but whether it was seen
  have hseen : ∀ {args : MemberArgs} {pc pc' : MarkReadPc} {db' : ChatDb},
      markReadStep db args input.call pc = some (db', pc') →
        db'.messages.map unseen = db.messages.map unseen := by
    intro args pc pc' db' hread
    cases markReadStep_cases hread with
    | seen c message others => exact map_updateMany fun _ => rfl
    | _ => rfl
  cases h with
  | request call call' db' hcall =>
    cases callStep_cases hcall with
    | createConversation hstep =>
      cases createStep_cases hstep <;>
        exact hquiet _ rfl rfl (by intro _ _ _ heq; cases heq)
    | addMember hstep =>
      cases addMemberStep_cases hstep <;>
        exact hquiet _ rfl rfl (by intro _ _ _ heq; cases heq)
    | removeMember hstep =>
      cases endStep_cases hstep <;>
        exact hquiet _ rfl rfl (by intro _ _ _ heq; cases heq)
    | markConversationLeft hstep =>
      cases endStep_cases hstep <;>
        exact hquiet _ rfl rfl (by intro _ _ _ heq; cases heq)
    | sendMessage hstep => exact messageEffect_sendStep rfl hstep
    | markConversationRead hstep =>
      exact hquiet _ (hseen hstep) rfl (by intro _ _ _ heq; cases heq)
  | sending args fromSocket pc pc' db' hsend => exact messageEffect_sendStep rfl hsend
  | marking args pc pc' db' hread =>
    exact hquiet _ (hseen hread) rfl (by intro _ _ _ heq; cases heq)
  | answering s userId args pc pc' db' hsend =>
    cases aiBotStep_cases hsend with
    | invalidIds hinvalid =>
      -- the answer of a task with ids that do not parse is never stored
      refine .quiet rfl fun message hcreates => ?_
      cases hcreates with
      | send args' ctx attachment encrypted sentAt htask => cases htask
      | chatbot s u args c r hc hr => exact hinvalid c r hc hr
    | created c r hc hr hfresh => exact .created _ (.chatbot s userId args c r hc hr) hfresh
    | touched message => exact hquiet _ rfl rfl (by intro _ _ _ heq; cases heq)
    | counted message => exact hquiet _ rfl rfl (by intro _ _ _ heq; cases heq)
  | _ => exact hquiet _ rfl rfl (by intro _ _ _ heq; cases heq)

end Task

end ChatSC.Spec
