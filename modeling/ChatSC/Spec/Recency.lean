import ChatSC.Backend.ConversationPreviews
import ChatSC.Spec.KnownConversations
import Mathlib.Data.List.Perm.Basic

/-!
# The time of the last message

A message is created first and its conversation is touched later, with the message's own `sentAt`.
`recency_kept` says when nothing is lost: a touch may move `lastMessageAt` back only while a message
at least as late is still to touch the conversation.  Then the stored times are those of the latest
messages, and `listConversationsForUser` shows them in order.
-/

namespace ChatSC.Spec

open Backend Collection JsString Pagination Records Transition

/-! ## Touches -/

/-- The conversation and the time with which a call of `sendMessage` is going to touch it. -/
def SendPc.touch? : SendPc → Option (ObjectId × Date)
  | .savingAttachment ctx message _ _ | .updatingConversation ctx message =>
    some (ctx.conversation, message.sentAt)
  | _ => none

/-- The touch that a task has still to make for a message that it has created. -/
def touch? : GatewayTask → Option (ObjectId × Date)
  | .request (.sendMessage _ pc) => SendPc.touch? pc
  | .sendMessage _ _ (.sending pc) => SendPc.touch? pc
  | .chatbot _ _ (.sending _ (.updatingConversation message)) =>
    some (message.conversationId, message.sentAt)
  | _ => none

/-- The touch that a task makes in its next step. -/
def touchNext? : GatewayTask → Option (ObjectId × Date)
  | .request (.sendMessage _ (.updatingConversation ctx message)) =>
    some (ctx.conversation, message.sentAt)
  | .sendMessage _ _ (.sending (.updatingConversation ctx message)) =>
    some (ctx.conversation, message.sentAt)
  | .chatbot _ _ (.sending _ (.updatingConversation message)) =>
    some (message.conversationId, message.sentAt)
  | _ => none

/-- When messages of which conversations were sent. -/
def sentTimes (db : ChatDb) : List (ObjectId × Date) :=
  db.messages.map fun m => (m.conversationId, m.sentAt)

/-- The stored times of the conversations. -/
def storedTimes (db : ChatDb) : List (ObjectId × Option Date) :=
  db.conversations.map fun c => (c.id, c.lastMessageAt)

theorem touch?_eq_of_sendCall? {task : GatewayTask} {args : SendArgs} {pc : SendPc}
    (h : sendCall? task = some (args, pc)) : touch? task = SendPc.touch? pc := by
  unfold sendCall? at h
  split at h
  · cases h
    rfl
  · cases h
    rfl
  · cases h

theorem touch?_afterSend (args : SendArgs) (fromSocket : Bool) (pc : SendPc) :
    touch? (.sendMessage args fromSocket (afterSend pc)) = SendPc.touch? pc := by
  cases pc <;> rfl

theorem touch?_sendEncrypt (args : SendArgs) (ctx : SendContext)
    (attachment : Option ChatAttachment) (now : Date) :
    SendPc.touch? (sendEncrypt args ctx attachment now) = none := by
  unfold sendEncrypt
  split
  · rfl
  · split <;> rfl

theorem touch?_sendAttachment (args : SendArgs) (ctx : SendContext) (now : Date) :
    SendPc.touch? (sendAttachment args ctx now) = none := by
  unfold sendAttachment
  split
  · exact touch?_sendEncrypt args ctx none now
  · split <;> rfl

/-- A touch of the next step is one that is to be made. -/
theorem touch?_of_touchNext? {task : GatewayTask} {x : ObjectId × Date}
    (h : touchNext? task = some x) : touch? task = some x := by
  unfold touchNext? at h
  split at h
  · exact h
  · exact h
  · exact h
  · cases h

/-! ## What a step does -/

/-- The stored times after a touch. -/
def touchTimes (c : ObjectId) (t : Date) (times : List (ObjectId × Option Date)) :
    List (ObjectId × Option Date) :=
  updateOne (·.1 = c) (fun x => (x.1, some t)) times

theorem storedTimes_touchConversation (db : ChatDb) (c : ObjectId) (t now : Date) :
    storedTimes (db.touchConversation c t now) = touchTimes c t (storedTimes db) :=
  map_updateOne_comm (fun _ => rfl) fun _ => rfl

theorem sentTimes_congr {db db' : ChatDb} (h : db'.messages.map unseen = db.messages.map unseen) :
    sentTimes db' = sentTimes db := by
  have hview : ∀ db : ChatDb, sentTimes db =
      (db.messages.map unseen).map fun m => (m.conversationId, m.sentAt) := by
    intro db
    rw [List.map_map]
    rfl
  rw [hview db', h, ← hview db]

/-- What a step does to the messages' times, the stored times and the touches to come. -/
inductive RecencyEffect (db : ChatDb) (input : CallInput) (task : GatewayTask) :
    ChatDb → GatewayTask → Prop where
  | quiet {db' : ChatDb} {task' : GatewayTask} (hsent : sentTimes db' = sentTimes db)
      (hstored : storedTimes db' = storedTimes db) (htouch : touch? task' = touch? task) :
      RecencyEffect db input task db' task'
  | created {task' : GatewayTask} (message : Message) (hcreates : Creates input task message)
      (hbefore : touch? task = none)
      (hafter : touch? task' = some (message.conversationId, message.sentAt)) :
      RecencyEffect db input task (db.createMessage message) task'
  | touched {task' : GatewayTask} (c : ObjectId) (t now : Date)
      (hnext : touchNext? task = some (c, t)) (hafter : touch? task' = none) :
      RecencyEffect db input task (db.touchConversation c t now) task'
  | opened {task' : GatewayTask} (conversation : Conversation)
      (hfresh : conversation.id ∉ conversationIds db)
      (hnone : conversation.lastMessageAt = none) (hbefore : touch? task = none)
      (hafter : touch? task' = none) :
      RecencyEffect db input task (db.createConversation conversation) task'

section Steps

variable {env : BackendEnv} {db db' : ChatDb} {input : CallInput}

/-- A step of a call of `sendMessage`. -/
theorem recencyEffect_sendStep {args : SendArgs} {pc pc' : SendPc} {task task' : GatewayTask}
    (htask : sendCall? task = some (args, pc)) (htask' : touch? task' = SendPc.touch? pc')
    (hnext : ∀ ctx message, pc = .updatingConversation ctx message →
      touchNext? task = some (ctx.conversation, message.sentAt))
    (h : sendStep env db args input pc = some (db', pc')) :
    RecencyEffect db input task db' task' := by
  have hbefore := touch?_eq_of_sendCall? htask
  cases sendStep_cases h with
  | createdWith ctx attachment encrypted sentAt hfresh =>
    exact .created _ (.send args ctx (some attachment) encrypted sentAt htask) hbefore htask'
  | created ctx encrypted sentAt hfresh =>
    exact .created _ (.send args ctx none encrypted sentAt htask) hbefore htask'
  | touched ctx message => exact .touched _ _ _ (hnext ctx message rfl) htask'
  -- up to the creation nothing is to be touched
  | notDirect ctx =>
    exact .quiet rfl rfl ((htask'.trans (touch?_sendAttachment args ctx input.now)).trans
      hbefore.symm)
  | nothingToRestore ctx =>
    exact .quiet rfl rfl ((htask'.trans (touch?_sendAttachment args ctx input.now)).trans
      hbefore.symm)
  | refetched ctx toRestore =>
    exact .quiet rfl rfl ((htask'.trans (touch?_sendAttachment args _ input.now)).trans
      hbefore.symm)
  | attachment ctx attachment found hfound =>
    exact .quiet rfl rfl ((htask'.trans (touch?_sendEncrypt args ctx (some found) input.now)).trans
      hbefore.symm)
  | _ => exact .quiet rfl rfl (htask'.trans hbefore.symm)

/-- A step of a request. -/
theorem recencyEffect_callStep {call call' : ChatCall}
    (h : callStep env db call input = some (db', call')) :
    RecencyEffect db input (.request call) db' (.request call') := by
  cases callStep_cases h with
  | createConversation hstep =>
    -- a new conversation has no time
    cases createStep_cases hstep with
    | invalidParticipant creator hcreator hfresh husers => exact .opened _ hfresh rfl rfl rfl
    | created creator users hcreator hfresh husers => exact .opened _ hfresh rfl rfl rfl
    | _ => exact .quiet rfl rfl rfl
  | addMember hstep => cases addMemberStep_cases hstep <;> exact .quiet rfl rfl rfl
  | removeMember hstep => cases endStep_cases hstep <;> exact .quiet rfl rfl rfl
  | markConversationLeft hstep => cases endStep_cases hstep <;> exact .quiet rfl rfl rfl
  -- `sendMessage` creates a message and touches its conversation
  | sendMessage hstep =>
    refine recencyEffect_sendStep rfl rfl ?_ hstep
    rintro ctx message rfl
    rfl
  | markConversationRead hstep =>
    cases markReadStep_cases hstep with
    -- who has seen a message is no part of its time
    | seen c message others => exact .quiet (sentTimes_congr (map_updateMany fun _ => rfl)) rfl rfl
    | _ => exact .quiet rfl rfl rfl

/-- A step of any task. -/
theorem recencyEffect {config : AiConfig} {sockets : List ChatSocket} {input : GatewayInput}
    {task : GatewayTask} {next : TaskStep} (h : TaskMove env config db sockets input task next) :
    RecencyEffect db input.call task next.db next.task := by
  cases h with
  | request call call' db' hcall => exact recencyEffect_callStep hcall
  -- the same method, called by the gateway
  | sending args fromSocket pc pc' db' hsend =>
    refine recencyEffect_sendStep rfl (touch?_afterSend args fromSocket pc') ?_ hsend
    rintro ctx message rfl
    rfl
  | marking args pc pc' db' hread =>
    cases markReadStep_cases hread with
    | seen c message others => exact .quiet (sentTimes_congr (map_updateMany fun _ => rfl)) rfl rfl
    | _ => exact .quiet rfl rfl rfl
  | answering s userId args pc pc' db' hsend =>
    cases aiBotStep_cases hsend with
    | invalidIds hinvalid => exact .quiet rfl rfl rfl
    -- the answer of the bot is a message as well
    | created c r hc hr hfresh => exact .created _ (.chatbot s userId args c r hc hr) rfl rfl
    | touched message => exact .touched _ _ _ rfl rfl
    | counted message => exact .quiet rfl rfl rfl
  | _ => exact .quiet rfl rfl rfl

end Steps

/-! ## The condition -/

/-- The touches that are still to be made by the other tasks. -/
def otherTouches (gateway : ChatGateway) (index : Nat) : List (ObjectId × Date) :=
  (gateway.tasks.eraseIdx index).filterMap touch?

/-- A touch moves the stored time of the conversation forward, or another task touches it later with
    a time that is not before the stored one. -/
def KeepsRecency (gateway : ChatGateway) : GatewayEvent → Prop
  | .step index _ => ∀ task ∈ gateway.tasks[index]?, ∀ x ∈ touchNext? task,
    ∀ stored ∈ storedTimes gateway.db, stored.1 = x.1 → ∀ last ∈ stored.2,
      last ≤ x.2 ∨ ∃ y ∈ otherTouches gateway index, y.1 = x.1 ∧ last ≤ y.2
  | _ => True

instance KeepsRecency.decidable (gateway : ChatGateway) :
    (event : GatewayEvent) → Decidable (KeepsRecency gateway event)
  | .step index _ => inferInstanceAs (Decidable (∀ task ∈ gateway.tasks[index]?, _))
  | .connect _ | .disconnect _ | .receive _ _ | .request _ | .confirmAttachment _ _ _ =>
    inferInstanceAs (Decidable True)

/-! ## Runs -/

/-- The touches that are still to be made. -/
def touches (gateway : ChatGateway) : List (ObjectId × Date) := gateway.tasks.filterMap touch?

/-- A message of the conversation has not touched it yet. -/
def InFlight (gateway : ChatGateway) (c : ObjectId) : Prop := ∃ x ∈ touches gateway, x.1 = c

/-- The time of the latest message of a conversation. -/
def latestSentAt (db : ChatDb) (c : ObjectId) : Option Date :=
  ((db.messages.filter (·.conversationId = c)).map Message.sentAt).max?

/-- A conversation without a message in flight has the time of its latest message, and a user with
    such conversations only is shown them in order. -/
structure Recent (gateway : ChatGateway) : Prop where
  stored : ∀ conversation ∈ gateway.db.conversations, ¬ InFlight gateway conversation.id →
    conversation.lastMessageAt = latestSentAt gateway.db conversation.id
  listed : ∀ (env : BackendEnv) (users : ObjectId → Option SessionUser)
    (input : ObjectId → DisplayInput) (user : ObjectId) (summaries : List ConversationSummary),
    (∀ c, ActiveMember gateway.db c user → ¬ InFlight gateway c) →
      listConversationsForUser env users input gateway.db user = some summaries →
        summaries.Pairwise fun x y => recency y.lastMessageAt ≤ recency x.lastMessageAt

/-- What holds in every state of a run that keeps the recency: every message is reached by the stored
    time or by a touch to come, and both are times of messages. -/
structure RecencyInv (config : AiConfig) (gateway : ChatGateway) : Prop where
  knows : KnowsConversations config gateway
  ids_nodup : (conversationIds gateway.db).Nodup
  reached : ∀ x ∈ sentTimes gateway.db,
    (∃ t, (x.1, some t) ∈ storedTimes gateway.db ∧ x.2 ≤ t) ∨
      ∃ y ∈ touches gateway, y.1 = x.1 ∧ x.2 ≤ y.2
  stored : ∀ c t, (c, some t) ∈ storedTimes gateway.db → (c, t) ∈ sentTimes gateway.db
  pending : ∀ x ∈ touches gateway, x ∈ sentTimes gateway.db

theorem storedTimes_fst (db : ChatDb) : (storedTimes db).map Prod.fst = conversationIds db := by
  rw [storedTimes, List.map_map]
  rfl

/-- The stored times after a touch. -/
theorem mem_touchTimes {c : ObjectId} {t : Date} {times : List (ObjectId × Option Date)}
    (hids : (times.map Prod.fst).Nodup) {x : ObjectId × Option Date} :
    x ∈ touchTimes c t times ↔ ∃ y ∈ times, (if y.1 = c then (y.1, some t) else y) = x := by
  have hall : touchTimes c t times = updateMany (·.1 = c) (fun x => (x.1, some t)) times :=
    updateOne_eq_updateMany hids fun y _ z _ hy hz =>
      (of_decide_eq_true hy).trans (of_decide_eq_true hz).symm
  rw [hall, mem_updateMany]
  simp only [decide_eq_true_eq]

/-! ## Times that are reached -/

/-- Messages that were sent at given times, the stored times of the conversations and the touches
    that are pending: every message is reached by a stored time or a pending touch, and both are
    times of messages. -/
structure TimesReached (sent : List (ObjectId × Date)) (stored : List (ObjectId × Option Date))
    (pending : ObjectId × Date → Prop) : Prop where
  ids_nodup : (stored.map Prod.fst).Nodup
  reached : ∀ x ∈ sent, (∃ t, (x.1, some t) ∈ stored ∧ x.2 ≤ t) ∨
    ∃ y, pending y ∧ y.1 = x.1 ∧ x.2 ≤ y.2
  stored : ∀ c t, (c, some t) ∈ stored → (c, t) ∈ sent
  pending : ∀ x, pending x → x ∈ sent

section Times

variable {sent : List (ObjectId × Date)} {stored : List (ObjectId × Option Date)}
  {pending pending' : ObjectId × Date → Prop} {c : ObjectId} {t : Date}

theorem TimesReached.congr (h : TimesReached sent stored pending)
    (hiff : ∀ x, pending' x ↔ pending x) : TimesReached sent stored pending' := by
  obtain rfl : pending' = pending := funext fun x => propext (hiff x)
  exact h

/-- A message is sent, and its touch is pending. -/
theorem TimesReached.send (h : TimesReached sent stored pending) (x : ObjectId × Date)
    (hiff : ∀ y, pending' y ↔ y = x ∨ pending y) : TimesReached (sent ++ [x]) stored pending' where
  ids_nodup := h.ids_nodup
  reached := by
    intro y hy
    -- the new message is reached by its own touch, the old ones as before
    rcases List.mem_append.mp hy with hold | hnew
    · refine (h.reached y hold).imp_right fun ⟨z, hz, hzy⟩ => ⟨z, ?_, hzy⟩
      exact (hiff z).mpr (.inr hz)
    · obtain rfl := List.mem_singleton.mp hnew
      exact .inr ⟨y, (hiff y).mpr (.inl rfl), rfl, Nat.le_refl _⟩
  stored := fun c t hmem => List.mem_append_left _ (h.stored c t hmem)
  pending := by
    intro y hy
    rcases (hiff y).mp hy with rfl | hold
    · exact List.mem_append_right _ List.mem_cons_self
    · exact List.mem_append_left _ (h.pending y hold)

/-- A pending touch is made, which moves the stored time back only below another one. -/
theorem TimesReached.touch (h : TimesReached sent stored pending)
    (hiff : ∀ y, pending y ↔ y = (c, t) ∨ pending' y) (hlisted : c ∈ stored.map Prod.fst)
    (hok : ∀ last, (c, some last) ∈ stored → last ≤ t ∨ ∃ y, pending' y ∧ y.1 = c ∧ last ≤ y.2) :
    TimesReached sent (touchTimes c t stored) pending' where
  ids_nodup := by
    have hfst : (touchTimes c t stored).map Prod.fst = stored.map Prod.fst :=
      map_updateOne fun _ => rfl
    rw [hfst]
    exact h.ids_nodup
  reached := by
    -- the conversation is there, so its time is the one of the touch now
    have hnow : (c, some t) ∈ touchTimes c t stored := by
      obtain ⟨y, hy, rfl⟩ := List.mem_map.mp hlisted
      exact (mem_touchTimes h.ids_nodup).mpr ⟨y, hy, if_pos rfl⟩
    intro x hx
    rcases h.reached x hx with ⟨s, hs, hle⟩ | ⟨y, hy, hyx, hle⟩
    · by_cases hc : x.1 = c
      · rcases hok s (hc ▸ hs) with hforward | ⟨y, hy, hyc, hys⟩
        · exact .inl ⟨t, hc ▸ hnow, Nat.le_trans hle hforward⟩
        · exact .inr ⟨y, hy, hyc.trans hc.symm, Nat.le_trans hle hys⟩
      · exact .inl ⟨s, (mem_touchTimes h.ids_nodup).mpr ⟨_, hs, if_neg hc⟩, hle⟩
    · rcases (hiff y).mp hy with rfl | hother
      · have hc : c = x.1 := hyx
        exact .inl ⟨t, hc ▸ hnow, hle⟩
      · exact .inr ⟨y, hother, hyx, hle⟩
  stored := by
    intro c' s hs
    obtain ⟨y, hy, heq⟩ := (mem_touchTimes h.ids_nodup).mp hs
    by_cases hc : y.1 = c
    · rw [if_pos hc] at heq
      cases heq
      rw [hc]
      exact h.pending _ ((hiff _).mpr (.inl rfl))
    · rw [if_neg hc] at heq
      subst heq
      exact h.stored c' s hy
  pending := fun x hx => h.pending x ((hiff x).mpr (.inr hx))

/-- A conversation without messages is opened. -/
theorem TimesReached.opened (h : TimesReached sent stored pending)
    (hfresh : c ∉ stored.map Prod.fst) : TimesReached sent (stored ++ [(c, none)]) pending where
  ids_nodup := by
    rw [List.map_append]
    refine List.nodup_append.mpr ⟨h.ids_nodup, List.nodup_singleton _, ?_⟩
    intro a ha b hb heq
    -- no conversation of this id has been stored before
    obtain rfl := List.mem_singleton.mp hb
    exact hfresh (heq ▸ ha)
  reached := by
    intro x hx
    refine (h.reached x hx).imp_left fun ⟨s, hs, hle⟩ => ⟨s, ?_, hle⟩
    exact List.mem_append_left _ hs
  stored := by
    intro c' s hmem
    rcases List.mem_append.mp hmem with hold | hnew
    · exact h.stored c' s hold
    · cases List.mem_singleton.mp hnew
  pending := h.pending

/-- What a step of a task that keeps the recency does to the times. -/
theorem TimesReached.effect {db db' : ChatDb} {input : CallInput} {task task' : GatewayTask}
    {others : List (ObjectId × Date)}
    (h : TimesReached (sentTimes db) (storedTimes db) fun x => touch? task = some x ∨ x ∈ others)
    (hlisted : ∀ x ∈ sentTimes db, x.1 ∈ (storedTimes db).map Prod.fst)
    (hok : ∀ x, touchNext? task = some x → ∀ stored ∈ storedTimes db, stored.1 = x.1 →
      ∀ last ∈ stored.2, last ≤ x.2 ∨ ∃ y ∈ others, y.1 = x.1 ∧ last ≤ y.2)
    (heffect : RecencyEffect db input task db' task') :
    TimesReached (sentTimes db') (storedTimes db')
      fun x => touch? task' = some x ∨ x ∈ others := by
  cases heffect with
  | quiet hsent hstored htouch =>
    rw [hsent, hstored, htouch]
    exact h
  -- the message that is stored has its update pending
  | created message hcreates hbefore hafter =>
    have hsent : sentTimes (db.createMessage message) =
        sentTimes db ++ [(message.conversationId, message.sentAt)] := List.map_append
    rw [hsent]
    refine h.send _ fun y => ?_
    simp [hbefore, hafter, eq_comm]
  -- the update of the conversation is done
  | touched c t now hnext hafter =>
    have htouch := touch?_of_touchNext? hnext
    have hmem : (c, t) ∈ sentTimes db := h.pending _ (.inl htouch)
    rw [storedTimes_touchConversation]
    refine h.touch (fun y => ?_) (hlisted _ hmem) fun last hlast => ?_
    · simp [htouch, hafter, eq_comm]
    · refine (hok _ hnext _ hlast rfl last rfl).imp_right fun ⟨y, hy, hyc⟩ => ⟨y, .inr hy, hyc⟩
  | opened conversation hfresh hnone hbefore hafter =>
    have hstored : storedTimes (db.createConversation conversation) =
        storedTimes db ++ [(conversation.id, conversation.lastMessageAt)] := List.map_append
    rw [hstored, hnone, hafter, ← hbefore]
    exact h.opened (by rwa [storedTimes_fst])

end Times

section Runs

variable {env : BackendEnv} {config : AiConfig} {gateway gateway' : ChatGateway}
  {event : GatewayEvent}

/-- The touches to come are those of one task and those of the others. -/
theorem mem_touches {index : Nat} {task : GatewayTask} (htask : gateway.tasks[index]? = some task)
    {x : ObjectId × Date} :
    x ∈ touches gateway ↔ touch? task = some x ∨ x ∈ otherTouches gateway index := by
  obtain ⟨hlt, rfl⟩ := List.getElem?_eq_some_iff.mp htask
  have hperm : gateway.tasks.Perm (gateway.tasks[index] :: gateway.tasks.eraseIdx index) :=
    (List.getElem_cons_eraseIdx_perm hlt).symm
  rw [touches, (hperm.filterMap touch?).mem_iff, otherTouches, List.mem_filterMap,
    List.mem_filterMap]
  simp

/-- The touches to come after a step of a task. -/
theorem mem_touches_step {index : Nat} {task task' : GatewayTask} {db' : ChatDb}
    {sockets : List ChatSocket} {spawned : List GatewayTask}
    (htask : gateway.tasks[index]? = some task) (hspawned : ∀ t ∈ spawned, touch? t = none)
    {x : ObjectId × Date} :
    x ∈ touches ⟨db', sockets, gateway.tasks.set index task' ++ spawned⟩ ↔
      touch? task' = some x ∨ x ∈ otherTouches gateway index := by
  -- the tasks that have just begun touch nothing
  have hlt := (List.getElem?_eq_some_iff.mp htask).1
  have hnone : spawned.filterMap touch? = [] := by
    rw [List.filterMap_eq_nil_iff]
    exact hspawned
  have hperm : (gateway.tasks.set index task').Perm (task' :: gateway.tasks.eraseIdx index) :=
    List.set_perm_cons_eraseIdx hlt task'
  -- the touch of the task that moves stands beside those of the others
  rw [touches, List.filterMap_append, hnone, List.append_nil, (hperm.filterMap touch?).mem_iff,
    otherTouches, List.mem_filterMap, List.mem_filterMap]
  simp

theorem touch?_unstarted {task : GatewayTask} (h : Unstarted task) : touch? task = none := by
  cases h with
  | request call hcall =>
    cases call with
    | sendMessage args pc => cases hcall
    | _ => rfl
  | _ => rfl

theorem touch?_spawned {db : ChatDb} {sockets : List ChatSocket} {input : GatewayInput}
    {task : GatewayTask} {next : TaskStep} (h : TaskMove env config db sockets input task next) :
    ∀ spawned ∈ next.spawned, touch? spawned = none := by
  intro spawned hspawned
  obtain ⟨args, message, -, hfollows⟩ := h.mem_spawned hspawned
  rcases mem_followUps hfollows with rfl | ⟨-, rfl⟩ <;> rfl

/-- New tasks have nothing to touch. -/
theorem touches_append (db : ChatDb) (sockets : List ChatSocket) {tasks new : List GatewayTask}
    (hnew : ∀ task ∈ new, Unstarted task) :
    touches ⟨db, sockets, tasks ++ new⟩ = tasks.filterMap touch? := by
  have hnone : new.filterMap touch? = [] := by
    rw [List.filterMap_eq_nil_iff]
    exact fun task htask => touch?_unstarted (hnew task htask)
  rw [touches, List.filterMap_append, hnone, List.append_nil]

/-- The times of the invariant. -/
theorem RecencyInv.times (hinv : RecencyInv config gateway) :
    TimesReached (sentTimes gateway.db) (storedTimes gateway.db) (· ∈ touches gateway) where
  ids_nodup := by
    rw [storedTimes_fst]
    exact hinv.ids_nodup
  reached := hinv.reached
  stored := hinv.stored
  pending := hinv.pending

/-- A step that keeps the recency keeps the invariant. -/
theorem RecencyInv.step (hinv : RecencyInv config gateway) (hok : KeepsRecency gateway event)
    (h : gatewayStep env config gateway event = some gateway') : RecencyInv config gateway' := by
  have hknows := (hinv.knows.step h).1
  -- only the times can change; who knows which conversation is kept on its own
  suffices htimes : TimesReached (sentTimes gateway'.db) (storedTimes gateway'.db)
      (· ∈ touches gateway') by
    refine ⟨hknows, ?_, htimes.reached, htimes.stored, htimes.pending⟩
    rw [← storedTimes_fst]
    exact htimes.ids_nodup
  cases gatewayStep_cases h with
  | outside event sockets new hevent hnew =>
    have htouches : touches ⟨gateway.db, sockets, gateway.tasks ++ new⟩ = touches gateway :=
      touches_append gateway.db sockets hnew
    rw [htouches]
    exact hinv.times
  | task index input task next htask hmove =>
    have hlisted : ∀ x ∈ sentTimes gateway.db, x.1 ∈ (storedTimes gateway.db).map Prod.fst := by
      intro x hx
      obtain ⟨message, hmessage, rfl⟩ := List.mem_map.mp hx
      rw [storedTimes_fst]
      exact hinv.knows.messages message hmessage
    have hbefore := hinv.times.congr fun x => (mem_touches htask).symm
    have hafter := hbefore.effect hlisted (fun x hx => hok task htask x hx) (recencyEffect hmove)
    exact hafter.congr fun x => mem_touches_step htask (touch?_spawned hmove)

/-- A conversation has one stored time. -/
theorem RecencyInv.stored_eq (hinv : RecencyInv config gateway) {c : ObjectId} {a b : Option Date}
    (ha : (c, a) ∈ storedTimes gateway.db) (hb : (c, b) ∈ storedTimes gateway.db) : a = b :=
  congrArg Prod.snd (List.inj_on_of_nodup_map hinv.times.ids_nodup ha hb rfl)

/-- Where nothing is in flight, the stored time is the one of the latest message. -/
theorem RecencyInv.lastMessageAt_eq (hinv : RecencyInv config gateway) {conversation : Conversation}
    (hmem : conversation ∈ gateway.db.conversations) (hflight : ¬ InFlight gateway conversation.id) :
    conversation.lastMessageAt = latestSentAt gateway.db conversation.id := by
  have hstored : (conversation.id, conversation.lastMessageAt) ∈ storedTimes gateway.db :=
    List.mem_map_of_mem hmem
  -- no touch is pending, so the stored time itself reaches every message
  have hreached : ∀ message ∈ gateway.db.messages, message.conversationId = conversation.id →
      ∃ t, conversation.lastMessageAt = some t ∧ message.sentAt ≤ t := by
    intro message hmessage hc
    have hsent : (conversation.id, message.sentAt) ∈ sentTimes gateway.db :=
      List.mem_map.mpr ⟨message, hmessage, by rw [hc]⟩
    rcases hinv.reached _ hsent with ⟨t, ht, hle⟩ | ⟨y, hy, hyc, -⟩
    · exact ⟨t, hinv.stored_eq hstored ht, hle⟩
    · exact absurd ⟨y, hy, hyc⟩ hflight
  have hmem_times : ∀ {t : Date}, t ∈ (gateway.db.messages.filter
      (·.conversationId = conversation.id)).map Message.sentAt ↔
        ∃ message ∈ gateway.db.messages, message.conversationId = conversation.id ∧
          message.sentAt = t := by
    intro t
    simp [and_assoc]
  -- the stored time is that of a message, and no message is later
  rw [latestSentAt]
  cases hlast : conversation.lastMessageAt with
  | none =>
    symm
    rw [List.max?_eq_none_iff, List.eq_nil_iff_forall_not_mem]
    intro t ht
    obtain ⟨message, hmessage, hc, rfl⟩ := hmem_times.mp ht
    obtain ⟨s, hs, -⟩ := hreached message hmessage hc
    rw [hlast] at hs
    cases hs
  | some t =>
    symm
    rw [List.max?_eq_some_iff]
    refine ⟨?_, fun s hs => ?_⟩
    · rw [hlast] at hstored
      obtain ⟨message, hmessage, heq⟩ := List.mem_map.mp (hinv.stored _ _ hstored)
      exact hmem_times.mpr ⟨message, hmessage, congrArg Prod.fst heq, congrArg Prod.snd heq⟩
    · obtain ⟨message, hmessage, hc, rfl⟩ := hmem_times.mp hs
      obtain ⟨s, hs, hle⟩ := hreached message hmessage hc
      rw [hlast] at hs
      cases hs
      exact hle

/-- The time that is shown of a conversation. -/
theorem lastMessageAt_summarize {users : ObjectId → Option SessionUser} {input : DisplayInput}
    {db : ChatDb} {user : ObjectId} {participations : List ConversationParticipant}
    {conversation : Conversation} {summary : ConversationSummary}
    (h : summarize env users input db user participations conversation = some summary) :
    summary.lastMessageAt = (latestSentAt db conversation.id).or conversation.lastMessageAt := by
  obtain ⟨preview, -, rfl⟩ := Option.map_eq_some_iff.mp h
  show ((db.findLatestMessage conversation.id).map Message.sentAt).or conversation.lastMessageAt = _
  rw [ChatDb.findLatestMessage, map_findLatest, latestSentAt]

theorem RecencyInv.recent (hinv : RecencyInv config gateway) : Recent gateway where
  stored := fun _ hmem hflight => hinv.lastMessageAt_eq hmem hflight
  listed := by
    intro env users input user summaries hquiet h
    refine pairwise_mapM ?_ h (pairwise_newestFirst _ _)
    -- the time that is shown is the stored one by which the list is sorted
    have hshown : ∀ c ∈ newestFirst (fun c : Conversation => recency c.lastMessageAt)
        (gateway.db.conversations.filter fun c => c.id ∈
          (gateway.db.participants.filter fun p => p.userId = user && p.status = .active).map
            ConversationParticipant.conversationId), ∀ summary,
        summarize env users (input c.id) gateway.db user
            (gateway.db.participants.filter fun p => p.userId = user && p.status = .active) c =
          some summary → summary.lastMessageAt = c.lastMessageAt := by
      intro c hc summary hsummary
      obtain ⟨hmem, hlisted⟩ := List.mem_filter.mp (mem_newestFirst.mp hc)
      obtain ⟨p, hp, hpc⟩ := List.mem_map.mp (of_decide_eq_true hlisted)
      obtain ⟨hpmem, hactive⟩ := List.mem_filter.mp hp
      simp only [Bool.and_eq_true, decide_eq_true_eq] at hactive
      have hstored := hinv.lastMessageAt_eq hmem (hquiet c.id ⟨p, hpmem, hpc, hactive⟩)
      rw [lastMessageAt_summarize hsummary, ← hstored, Option.or_self]
    -- so the order of the list is the order of what is shown
    intro x hx y hy a b ha hb hle
    rw [hshown x hx a ha, hshown y hy b hb]
    exact hle

end Runs

/-- **The stored times are those of the latest messages, and the list is shown in their order**, in
    every state that is reached by a run in which a touch moves `lastMessageAt` back only while a
    message at least as late is still to touch the conversation. -/
theorem recency_kept {env : BackendEnv} {config : AiConfig} {attachments : List ChatAttachment}
    {events : List GatewayEvent} {gateway : ChatGateway}
    (hok : Guarded (gatewayStep env config) KeepsRecency (startGateway attachments) events)
    (hrun : run (gatewayStep env config) (startGateway attachments) events = some gateway) :
    Recent gateway := by
  have hstart : RecencyInv config (startGateway attachments) :=
    ⟨knowsConversations_start attachments, List.nodup_nil,
      fun _ h => absurd h List.not_mem_nil, fun _ _ h => absurd h List.not_mem_nil,
      fun _ h => absurd h List.not_mem_nil⟩
  exact (run_invariant_of_guarded (fun _ _ _ hinv hok h => hinv.step hok h) hstart hok hrun).recent

/-! ## Two messages at once -/

/-- Users 1 and 2 of a group connect, and each of them sends a message; both are created, that of
    user 1 at time 20 and that of user 2 at time 30. -/
def twoMessageEvents : List GatewayEvent :=
  .request createGroup.call :: taskSteps 0 createGroup.inputs ++
    [.connect (digitId 1), .connect (digitId 2),
      .receive 0 (.sendMessage (digitId 3).toString (js "one") []),
      .receive 1 (.sendMessage (digitId 3).toString (js "two") [])] ++
    taskSteps 1 (List.replicate 4 (plainInput 20 (digitId 8) [])) ++
    taskSteps 2 (List.replicate 4 (plainInput 30 (digitId 9) []))

/-- The rest of the call of task `index`. -/
def touchEvents (index : Nat) : List GatewayEvent :=
  taskSteps index (List.replicate 3 (plainInput 40 (digitId 0) []))

/-- The messages touch the group in their order. -/
theorem recency_kept_in_order :
    ∃ gateway, run (gatewayStep plainEnv noAi) (startGateway [])
        (twoMessageEvents ++ touchEvents 1 ++ touchEvents 2) = some gateway ∧ Recent gateway := by
  have hsome : (run (gatewayStep plainEnv noAi) (startGateway [])
      (twoMessageEvents ++ touchEvents 1 ++ touchEvents 2)).isSome = true := by decide +kernel
  obtain ⟨gateway, hrun⟩ := Option.isSome_iff_exists.mp hsome
  exact ⟨gateway, hrun, recency_kept (by decide +kernel) hrun⟩

/-- The messages touch the group in the other order: nothing is in flight, and the stored time is
    that of the earlier one. -/
theorem recency_lost :
    ∃ gateway, run (gatewayStep plainEnv noAi) (startGateway [])
        (twoMessageEvents ++ touchEvents 2 ++ touchEvents 1) = some gateway ∧
      touches gateway = [] ∧ storedTimes gateway.db = [(digitId 3, some 20)] ∧
      latestSentAt gateway.db (digitId 3) = some 30 ∧ ¬ Recent gateway := by
  -- the run is evaluated: nothing is to come, and the earlier time is stored
  have hview : (run (gatewayStep plainEnv noAi) (startGateway [])
      (twoMessageEvents ++ touchEvents 2 ++ touchEvents 1)).map (fun gateway =>
        (touches gateway, storedTimes gateway.db, latestSentAt gateway.db (digitId 3))) =
      some ([], [(digitId 3, some 20)], some 30) := by decide +kernel
  obtain ⟨gateway, hrun, heq⟩ := Option.map_eq_some_iff.mp hview
  obtain ⟨htouches, heq⟩ := Prod.mk.inj heq
  obtain ⟨hstored, hlatest⟩ := Prod.mk.inj heq
  refine ⟨gateway, hrun, htouches, hstored, hlatest, fun hrecent => ?_⟩
  have hmem : (digitId 3, some 20) ∈ storedTimes gateway.db := by
    rw [hstored]
    exact List.mem_cons_self
  obtain ⟨conversation, hconversation, hsame⟩ := List.mem_map.mp hmem
  obtain ⟨hid, hlast⟩ := Prod.mk.inj hsame
  -- no touch is to come, so the claim speaks of this conversation
  have hquiet : ¬ InFlight gateway conversation.id := by
    rintro ⟨x, hx, -⟩
    rw [htouches] at hx
    exact absurd hx List.not_mem_nil
  have hsaid := hrecent.stored conversation hconversation hquiet
  rw [hid, hlast, hlatest] at hsaid
  cases hsaid

end ChatSC.Spec
