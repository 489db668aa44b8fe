import ChatSC.Backend.ChatGateway
import ChatSC.ForStd.Records
import ChatSC.Spec.MembershipSteps

/-!
# The tasks of the chat gateway

What the handlers of the gateway have in common: the rooms of the sockets, the conversation that a
task works in (`GatewayTask.Fits`), and, said once for all steps of all tasks, what a step does to
the sockets, which tasks it starts and which events it emits (`TaskEffect`).  `GatewayNext` says the
same of all events of the gateway.
-/

namespace ChatSC.Spec

open Backend JsString Records

/-! ## Rooms -/

theorem getConversationRoom_injective {s t : JsString}
    (h : getConversationRoom s = getConversationRoom t) : s = t :=
  List.append_cancel_left h

theorem getUserRoom_injective {s t : JsString} (h : getUserRoom s = getUserRoom t) : s = t :=
  List.append_cancel_left h

/-- A conversation's room is no user's room. -/
theorem getConversationRoom_ne_getUserRoom (s t : JsString) :
    getConversationRoom s ≠ getUserRoom t := by
  intro h
  have hconversation : js "conversation:" = 99 :: (js "conversation:").tail := by decide
  have huser : js "user:" = 117 :: (js "user:").tail := by decide
  rw [getConversationRoom, getUserRoom, hconversation, huser] at h
  exact absurd (List.cons.inj h).1 (by decide)

/-- Who gets an event that goes to a room. -/
theorem mem_emitTo {sockets : List ChatSocket} {room : JsString} {event : ServerEvent}
    {d : SocketDelivery} : d ∈ emitTo sockets room event ↔
      d.event = event ∧ ∃ socket, sockets[d.client]? = some socket ∧ room ∈ socket.rooms := by
  simp only [emitTo, List.mem_map, List.mem_filter, decide_eq_true_eq, Prod.exists,
    List.mem_zipIdx_iff_getElem?]
  constructor
  · intro h
    obtain ⟨socket, client, ⟨hsocket, hroom⟩, heq⟩ := h
    subst heq
    exact ⟨rfl, socket, hsocket, hroom⟩
  · intro h
    obtain ⟨hevent, socket, hsocket, hroom⟩ := h
    subst hevent
    exact ⟨socket, d.client, ⟨hsocket, hroom⟩, rfl⟩

/-- A socket gets an event that goes to a room it is in. -/
theorem room_of_delivery {sockets : List ChatSocket} {room : JsString} {event : ServerEvent}
    {d : SocketDelivery} {socket : ChatSocket} (h : d ∈ emitTo sockets room event)
    (hsocket : sockets[d.client]? = some socket) : d.event = event ∧ room ∈ socket.rooms := by
  obtain ⟨hevent, socket', hsocket', hroom⟩ := mem_emitTo.mp h
  cases hsocket.symm.trans hsocket'
  exact ⟨hevent, hroom⟩

/-- A room that a socket is in after joining one. -/
theorem mem_rooms_join {client : ChatSocket} {room room' : JsString}
    (h : room' ∈ (client.join room).rooms) : room' ∈ client.rooms ∨ room' = room := by
  unfold ChatSocket.join at h
  split at h
  · cases List.mem_append.mp h with
    | inl hold => exact .inl hold
    | inr hnew => exact .inr (List.mem_singleton.mp hnew)
  · exact .inl h

@[simp] theorem user_join (client : ChatSocket) (room : JsString) :
    (client.join room).user = client.user := by
  unfold ChatSocket.join
  split <;> rfl

@[simp] theorem user_markConversationJoined (client : ChatSocket) (conversationId : JsString) :
    (client.markConversationJoined conversationId).user = client.user := by
  unfold ChatSocket.markConversationJoined
  split <;> rfl

@[simp] theorem rooms_markConversationJoined (client : ChatSocket) (conversationId : JsString) :
    (client.markConversationJoined conversationId).rooms = client.rooms := by
  unfold ChatSocket.markConversationJoined
  split <;> rfl

@[simp] theorem user_leaveConversation (client : ChatSocket) (conversationId : JsString) :
    (client.leaveConversation conversationId).user = client.user := rfl

theorem mem_rooms_leaveConversation {client : ChatSocket} {conversationId room : JsString}
    (h : room ∈ (client.leaveConversation conversationId).rooms) : room ∈ client.rooms :=
  List.mem_of_mem_filter h

/-- A socket that is gone keeps its user and is in no room. -/
theorem handleDisconnect_spec (client : ChatSocket) :
    client.handleDisconnect.user = client.user ∧ client.handleDisconnect.rooms = [] := by
  -- induction on the rooms that are left: there are none to leave any more
  have hfold : ∀ (ids : List JsString) (socket : ChatSocket), socket.rooms = [] →
      (ids.foldl ChatSocket.leaveConversation socket).user = socket.user ∧
        (ids.foldl ChatSocket.leaveConversation socket).rooms = [] := by
    intro ids
    induction ids with
    | nil => exact fun socket h => ⟨rfl, h⟩
    | cons s ids ih =>
      intro socket h
      have hrooms : (socket.leaveConversation s).rooms = [] := by
        show socket.rooms.filter _ = []
        rw [h]
        rfl
      exact ih (socket.leaveConversation s) hrooms
  exact hfold client.joinedConversationIds { client with rooms := [], connected := false } rfl

/-! ## Events -/

/-- The conversation of an event that is for its members only. -/
def memberConversation? : ServerEvent → Option ObjectId
  | .messageDelivered message => ObjectId.ofString? message.conversationId
  | .conversationReadUpdated conversationId _ => ObjectId.ofString? conversationId
  | .typingPresenceUpdated conversationId _ _ _ => ObjectId.ofString? conversationId
  | .aiModerationResult conversationId _ => ObjectId.ofString? conversationId
  | .connectionStatusChanged | .conversationPreviewUpdated _ => none

/-! ## The conversation of a task -/

/-- The local variables of `sendMessage` are about the conversation of its argument. -/
def SendPc.Fits (s : JsString) : SendPc → Prop
  | .start | .threw _ => True
  | .findingConversation ctx | .findingParticipants ctx | .restoring ctx _ _ | .refetching ctx _
  | .findingAttachment ctx _ | .encrypting ctx _ | .creating ctx _ _ _ =>
    ObjectId.ofString? s = some ctx.conversation
  | .savingAttachment ctx message _ _ | .updatingConversation ctx message
  | .updatingSender ctx message | .incrementing ctx message =>
    ObjectId.ofString? s = some ctx.conversation ∧ message.conversationId = ctx.conversation
  | .returned message _ => ObjectId.ofString? s = some message.conversationId

/-- The local variables of `sendAiBotMessage` are about the conversation of its argument. -/
def AiBotPc.Fits (s : JsString) : AiBotPc → Prop
  | .start | .threw _ => True
  | .updatingConversation message | .incrementing message | .returned message =>
    ObjectId.ofString? s = some message.conversationId

/-- A message on its way to the sockets is one of the conversation. -/
def EmitPc.Fits (s : JsString) : EmitPc → Prop
  | .presenting message => ObjectId.ofString? s = some message.conversationId
  | .findingActive c message =>
    ObjectId.ofString? s = some c ∧ ObjectId.ofString? message.conversationId = some c
  | .emittingPreviews message _ | .emittingMessage message _ =>
    ObjectId.ofString? message.conversationId = ObjectId.ofString? s
  | .emitted _ => True

/-- What a task works on is in its conversation, and the client of a task that joins one is among
    the first `count` sockets. -/
def GatewayTask.Fits (count : Nat) : GatewayTask → Prop
  | .joinConversation client _ _ => client < count
  | .sendMessage args _ (.sending pc) => SendPc.Fits args.conversationId pc
  | .sendMessage args _ (.emitting pc) => EmitPc.Fits args.conversationId pc
  | .chatbot conversationId _ (.sending args pc) =>
    args.conversationId = conversationId ∧ AiBotPc.Fits conversationId pc
  | .chatbot conversationId _ (.emitting pc) => EmitPc.Fits conversationId pc
  | _ => True

/-- More sockets do no harm. -/
theorem GatewayTask.Fits.mono {count count' : Nat} {task : GatewayTask}
    (h : GatewayTask.Fits count task) (hle : count ≤ count') : GatewayTask.Fits count' task := by
  cases task with
  | joinConversation client s pc => exact Nat.lt_of_lt_of_le h hle
  | sendMessage args fromSocket pc => cases pc <;> exact h
  | chatbot conversationId userId pc => cases pc <;> exact h
  | _ => trivial

theorem fits_sendEncrypt {args : SendArgs} {ctx : SendContext} {attachment : Option ChatAttachment}
    {now : Date} {s : JsString} (h : ObjectId.ofString? s = some ctx.conversation) :
    SendPc.Fits s (sendEncrypt args ctx attachment now) := by
  unfold sendEncrypt
  split
  · trivial
  · split <;> exact h

theorem fits_sendAttachment {args : SendArgs} {ctx : SendContext} {now : Date} {s : JsString}
    (h : ObjectId.ofString? s = some ctx.conversation) :
    SendPc.Fits s (sendAttachment args ctx now) := by
  unfold sendAttachment
  split
  · exact fits_sendEncrypt h
  · split
    · trivial
    · exact h

/-- A step of `sendMessage` stays in the conversation. -/
theorem SendPc.Fits.step {env : BackendEnv} {db db' : ChatDb} {args : SendArgs} {pc pc' : SendPc}
    {input : CallInput} (hfits : SendPc.Fits args.conversationId pc)
    (h : sendStep env db args input pc = some (db', pc')) :
    SendPc.Fits args.conversationId pc' := by
  -- the check of the sender has parsed the id, and from there on it is handed on
  cases sendStep_cases h with
  | refused error => trivial
  | sender participant hnonempty hsender => exact (getRequiredActiveParticipant_ok hsender).1
  | notDirect ctx => exact fits_sendAttachment hfits
  | nothingToRestore ctx => exact fits_sendAttachment hfits
  | refetched ctx toRestore => exact fits_sendAttachment hfits
  | badAttachment ctx attachment error => trivial
  | attachment ctx attachment found hfound => exact fits_sendEncrypt hfits
  | encryptionFailed ctx attachment error => trivial
  | createdWith ctx attachment encrypted sentAt hfresh => exact ⟨hfits, rfl⟩
  | created ctx encrypted sentAt hfresh => exact ⟨hfits, rfl⟩
  -- the events go to the conversation of the message
  | counted ctx message =>
    show ObjectId.ofString? args.conversationId = some message.conversationId
    rw [hfits.2]
    exact hfits.1
  | _ => exact hfits

/-- A step of `sendAiBotMessage` stays in the conversation. -/
theorem AiBotPc.Fits.step {db db' : ChatDb} {args : AiBotArgs} {pc pc' : AiBotPc}
    {input : CallInput} (hfits : AiBotPc.Fits args.conversationId pc)
    (h : aiBotStep db args input pc = some (db', pc')) : AiBotPc.Fits args.conversationId pc' := by
  cases aiBotStep_cases h with
  | invalidIds hinvalid => trivial
  | created c requester hc hrequester hfresh => exact hc
  | touched message => exact hfits
  | counted message => exact hfits

/-- The payload of a message is one of its conversation. -/
theorem conversationId_toRealtimeMessagePayload {env : BackendEnv} {io : ExchangeIo}
    {service : ChatEncryptionService} {presentation : SenderPresentation} {message : Message}
    {payload : RealtimeMessagePayload}
    (h : toRealtimeMessagePayload env io service presentation message = some payload) :
    payload.conversationId = message.conversationId.toString := by
  unfold toRealtimeMessagePayload at h
  split at h
  · cases h
  · cases h
    rfl
  · cases h
    rfl

/-- A step towards the sockets stays in the conversation. -/
theorem EmitPc.Fits.step {env : BackendEnv} {db : ChatDb} {sockets : List ChatSocket}
    {s : JsString} {input : GatewayInput} {pc pc' : EmitPc} {deliveries : List SocketDelivery}
    (hfits : EmitPc.Fits s pc) (h : emitStep env db sockets s input pc = some (pc', deliveries)) :
    EmitPc.Fits s pc' := by
  -- the name of the room is the id of the message's conversation
  cases pc with
  | presenting message =>
    obtain ⟨payload, hpayload, heq⟩ := Option.map_eq_some_iff.mp h
    cases heq
    refine ⟨hfits, ?_⟩
    rw [conversationId_toRealtimeMessagePayload hpayload, ObjectId.ofString?_toString]
  | findingActive c message =>
    cases h
    exact hfits.2.trans hfits.1.symm
  | emittingPreviews message userIds =>
    cases h
    exact hfits
  | emittingMessage message userIds =>
    cases h
    trivial
  | emitted message => cases h

theorem fits_afterSend {count : Nat} {args : SendArgs} {fromSocket : Bool} {pc : SendPc}
    (h : SendPc.Fits args.conversationId pc) :
    GatewayTask.Fits count (.sendMessage args fromSocket (afterSend pc)) := by
  cases pc <;> exact h

theorem fits_afterAiBot {count : Nat} {conversationId userId : JsString} {args : AiBotArgs}
    {pc : AiBotPc} (hargs : args.conversationId = conversationId)
    (h : AiBotPc.Fits conversationId pc) :
    GatewayTask.Fits count (.chatbot conversationId userId (afterAiBot args pc)) := by
  cases pc with
  | returned message => exact h
  | threw error => trivial
  | _ => exact ⟨hargs, h⟩

/-- The tasks that a message starts have nothing of their own yet. -/
theorem fits_of_mem_followUps {count : Nat} {config : AiConfig} {args : SendArgs}
    {message : RealtimeMessagePayload} {task : GatewayTask}
    (h : task ∈ followUps config args message) : GatewayTask.Fits count task := by
  -- the moderation, or an answer of the bot
  rw [followUps, List.mem_append] at h
  cases h with
  | inl h =>
    split at h
    · obtain rfl := List.mem_singleton.mp h
      trivial
    · exact absurd h List.not_mem_nil
  | inr h =>
    split at h
    · obtain rfl := List.mem_singleton.mp h
      trivial
    · exact absurd h List.not_mem_nil

section Task

variable {env : BackendEnv} {config : AiConfig} {db : ChatDb} {sockets : List ChatSocket}
  {input : GatewayInput} {task : GatewayTask} {next : TaskStep} {count : Nat}

variable (env config db sockets input) in
/-- A step of a task, with one rule for each branch. -/
inductive TaskMove : GatewayTask → TaskStep → Prop where
  | request (call call' : ChatCall) (db' : ChatDb)
      (hcall : callStep env db call input.call = some (db', call')) :
      TaskMove (.request call) ⟨db', sockets, .request call', [], []⟩
  | joinChecked (client : Nat) (s : JsString) (pc : GuardedPc)
      (hguard : guardStep db sockets client s = some pc) :
      TaskMove (.joinConversation client s .checking)
        ⟨db, sockets, .joinConversation client s pc, [], []⟩
  | joined (client : Nat) (s : JsString) :
      TaskMove (.joinConversation client s .checked)
        ⟨db, sockets.modify client fun socket =>
            (socket.join (getConversationRoom s)).markConversationJoined s,
          .joinConversation client s .returned, [], []⟩
  | sending (args : SendArgs) (fromSocket : Bool) (pc pc' : SendPc) (db' : ChatDb)
      (hsend : sendStep env db args input.call pc = some (db', pc')) :
      TaskMove (.sendMessage args fromSocket (.sending pc))
        ⟨db', sockets, .sendMessage args fromSocket (afterSend pc'), [], []⟩
  | emitting (args : SendArgs) (fromSocket : Bool) (pc pc' : EmitPc)
      (deliveries : List SocketDelivery)
      (hemit : emitStep env db sockets args.conversationId input pc = some (pc', deliveries)) :
      TaskMove (.sendMessage args fromSocket (.emitting pc))
        ⟨db, sockets, .sendMessage args fromSocket (.emitting pc'), [], deliveries⟩
  | emitted (args : SendArgs) (fromSocket : Bool) (message : RealtimeMessagePayload) :
      TaskMove (.sendMessage args fromSocket (.emitting (.emitted message)))
        ⟨db, sockets, .sendMessage args fromSocket (.returned message),
          if fromSocket then followUps config args message else [], []⟩
  | marking (args : MemberArgs) (pc pc' : MarkReadPc) (db' : ChatDb)
      (hread : markReadStep db args input.call pc = some (db', pc')) :
      TaskMove (.markConversationRead args (.marking pc))
        ⟨db', sockets, .markConversationRead args (afterMarkRead pc'), [], []⟩
  | readListed (args : MemberArgs) (last : Option ObjectId) (pc : ReadTaskPc) :
      TaskMove (.markConversationRead args (.findingActive last))
        ⟨db, sockets, .markConversationRead args pc, [], []⟩
  | readPreviewed (args : MemberArgs) (last : Option ObjectId) (userIds : List JsString) :
      TaskMove (.markConversationRead args (.emittingPreviews last userIds))
        ⟨db, sockets, .markConversationRead args (.emitting last), [],
          emitConversationPreviews sockets args.conversationId userIds⟩
  | readEmitted (args : MemberArgs) (last : Option ObjectId) :
      TaskMove (.markConversationRead args (.emitting last))
        ⟨db, sockets, .markConversationRead args (.returned last), [],
          emitTo sockets (getUserRoom args.userId) (.conversationReadUpdated args.conversationId last)
            ++ emitTo sockets (getConversationRoom args.conversationId)
              (.conversationReadUpdated args.conversationId last)⟩
  | typingChecked (client : Nat) (s : JsString) (isTyping : Bool) (pc : GuardedPc)
      (hguard : guardStep db sockets client s = some pc) :
      TaskMove (.typingPresence client s isTyping .checking)
        ⟨db, sockets, .typingPresence client s isTyping pc, [], []⟩
  | typed (client : Nat) (s userId : JsString) (isTyping : Bool) (expiresAt : Date) :
      TaskMove (.typingPresence client s isTyping .checked)
        ⟨db, sockets, .typingPresence client s isTyping .returned, [],
          (emitTo sockets (getConversationRoom s)
            (.typingPresenceUpdated s userId isTyping expiresAt)).filter (·.client ≠ client)⟩
  | analyzed (s userId messageId : JsString) (pc : ModerationPc) :
      TaskMove (.moderation s userId messageId .analyzing)
        ⟨db, sockets, .moderation s userId messageId pc, [], []⟩
  | saved (s userId messageId : JsString) :
      TaskMove (.moderation s userId messageId .saving)
        ⟨db, sockets, .moderation s userId messageId .emitting, [], []⟩
  | moderated (s userId messageId : JsString) :
      TaskMove (.moderation s userId messageId .emitting)
        ⟨db, sockets, .moderation s userId messageId .ended, [],
          emitTo sockets (getConversationRoom s) (.aiModerationResult s messageId) ++
            emitTo sockets (getUserRoom userId) (.aiModerationResult s messageId)⟩
  | notGenerated (s userId : JsString) :
      TaskMove (.chatbot s userId .generating) ⟨db, sockets, .chatbot s userId .ended, [], []⟩
  | generated (s userId content : JsString) :
      TaskMove (.chatbot s userId .generating)
        ⟨db, sockets, .chatbot s userId (.sending ⟨s, userId, content⟩ .start), [], []⟩
  | answering (s userId : JsString) (args : AiBotArgs) (pc pc' : AiBotPc) (db' : ChatDb)
      (hsend : aiBotStep db args input.call pc = some (db', pc')) :
      TaskMove (.chatbot s userId (.sending args pc))
        ⟨db', sockets, .chatbot s userId (afterAiBot args pc'), [], []⟩
  | answerEmitting (s userId : JsString) (pc pc' : EmitPc) (deliveries : List SocketDelivery)
      (hemit : emitStep env db sockets s input pc = some (pc', deliveries)) :
      TaskMove (.chatbot s userId (.emitting pc))
        ⟨db, sockets, .chatbot s userId (.emitting pc'), [], deliveries⟩

theorem taskStep_cases (h : taskStep env config db sockets input task = some next) :
    TaskMove env config db sockets input task next := by
  cases task with
  | request call =>
    rw [taskStep] at h
    obtain ⟨⟨db', call'⟩, hcall, rfl⟩ := Option.map_eq_some_iff.mp h
    exact .request call call' db' hcall
  | joinConversation client s pc =>
    cases pc with
    | checking =>
      rw [taskStep] at h
      obtain ⟨pc', hguard, rfl⟩ := Option.map_eq_some_iff.mp h
      exact .joinChecked client s pc' hguard
    | checked =>
      cases h
      exact .joined client s
    | returned => cases h
    | threw error => cases h
  | sendMessage args fromSocket pc =>
    cases pc with
    | sending pc =>
      rw [taskStep] at h
      obtain ⟨⟨db', pc'⟩, hsend, rfl⟩ := Option.map_eq_some_iff.mp h
      exact .sending args fromSocket pc pc' db' hsend
    | emitting pc =>
      cases pc with
      -- the task goes on to what follows the message
      | emitted message =>
        cases h
        exact .emitted args fromSocket message
      | _ =>
        rw [taskStep] at h
        · obtain ⟨⟨pc', deliveries⟩, hemit, rfl⟩ := Option.map_eq_some_iff.mp h
          exact .emitting args fromSocket _ pc' deliveries hemit
        · intro message heq
          cases heq
    | returned message => cases h
    | threw error => cases h
  | markConversationRead args pc =>
    cases pc with
    | marking pc =>
      rw [taskStep] at h
      obtain ⟨⟨db', pc'⟩, hread, rfl⟩ := Option.map_eq_some_iff.mp h
      exact .marking args pc pc' db' hread
    | findingActive last =>
      cases h
      exact .readListed args last _
    | emittingPreviews last userIds =>
      cases h
      exact .readPreviewed args last userIds
    | emitting last =>
      cases h
      exact .readEmitted args last
    | returned last => cases h
    | threw error => cases h
  | typingPresence client s isTyping pc =>
    cases pc with
    | checking =>
      rw [taskStep] at h
      obtain ⟨pc', hguard, rfl⟩ := Option.map_eq_some_iff.mp h
      exact .typingChecked client s isTyping pc' hguard
    | checked =>
      rw [taskStep] at h
      obtain ⟨socket, -, rfl⟩ := Option.map_eq_some_iff.mp h
      exact .typed client s socket.user.toString isTyping (input.call.now + 4000)
    | returned => cases h
    | threw error => cases h
  | moderation s userId messageId pc =>
    cases pc with
    | analyzing =>
      cases h
      exact .analyzed s userId messageId _
    | saving =>
      cases h
      exact .saved s userId messageId
    | emitting =>
      cases h
      exact .moderated s userId messageId
    | ended => cases h
  | chatbot s userId pc =>
    cases pc with
    | generating =>
      simp only [taskStep] at h
      cases h
      split
      · exact .notGenerated s userId
      · exact .notGenerated s userId
      · exact .generated s userId _
    | sending args pc =>
      rw [taskStep] at h
      obtain ⟨⟨db', pc'⟩, hsend, rfl⟩ := Option.map_eq_some_iff.mp h
      exact .answering s userId args pc pc' db' hsend
    | emitting pc =>
      rw [taskStep] at h
      obtain ⟨⟨pc', deliveries⟩, hemit, rfl⟩ := Option.map_eq_some_iff.mp h
      exact .answerEmitting s userId pc pc' deliveries hemit
    | ended => cases h

/-- A step of a task stays in the conversation, and so do the tasks that it starts. -/
theorem GatewayTask.Fits.step (hfits : GatewayTask.Fits count task)
    (h : taskStep env config db sockets input task = some next) :
    GatewayTask.Fits count next.task ∧ ∀ spawned ∈ next.spawned, GatewayTask.Fits count spawned := by
  have hnone : ∀ spawned ∈ ([] : List GatewayTask), GatewayTask.Fits count spawned :=
    fun _ hmem => absurd hmem List.not_mem_nil
  cases taskStep_cases h with
  | joinChecked client s pc hguard => exact ⟨hfits, hnone⟩
  | joined client s => exact ⟨hfits, hnone⟩
  | sending args fromSocket pc pc' db' hsend =>
    exact ⟨fits_afterSend (SendPc.Fits.step hfits hsend), hnone⟩
  | emitting args fromSocket pc pc' deliveries hemit =>
    exact ⟨EmitPc.Fits.step hfits hemit, hnone⟩
  | emitted args fromSocket message =>
    refine ⟨trivial, fun spawned hspawned => ?_⟩
    -- only a message from a socket starts tasks
    cases fromSocket with
    | true => exact fits_of_mem_followUps hspawned
    | false => exact absurd hspawned List.not_mem_nil
  | generated s userId content => exact ⟨⟨rfl, trivial⟩, hnone⟩
  | answering s userId args pc pc' db' hsend =>
    obtain ⟨rfl, hpc⟩ := hfits
    exact ⟨fits_afterAiBot rfl (AiBotPc.Fits.step hpc hsend), hnone⟩
  | answerEmitting s userId pc pc' deliveries hemit =>
    exact ⟨EmitPc.Fits.step hfits hemit, hnone⟩
  | _ => exact ⟨trivial, hnone⟩

/-! ## What a step of a task does -/

/-- What a step of a task does beside its own affairs. -/
inductive TaskEffect (config : AiConfig) (db : ChatDb) (sockets : List ChatSocket) :
    GatewayTask → TaskStep → Prop where
  | inward {task : GatewayTask} (db' : ChatDb) (task' : GatewayTask)
      (deliveries : List SocketDelivery)
      (hquiet : ∀ d ∈ deliveries, memberConversation? d.event = none) :
      TaskEffect config db sockets task ⟨db', sockets, task', [], deliveries⟩
  | joined (client : Nat) (s : JsString) :
      TaskEffect config db sockets (.joinConversation client s .checked)
        ⟨db, sockets.modify client fun socket =>
            (socket.join (getConversationRoom s)).markConversationJoined s,
          .joinConversation client s .returned, [], []⟩
  | started (args : SendArgs) (message : RealtimeMessagePayload) :
      TaskEffect config db sockets (.sendMessage args true (.emitting (.emitted message)))
        ⟨db, sockets, .sendMessage args true (.returned message), followUps config args message, []⟩
  | delivered (args : SendArgs) (fromSocket : Bool) (message : RealtimeMessagePayload)
      (userIds : List JsString) (task' : GatewayTask) :
      TaskEffect config db sockets
        (.sendMessage args fromSocket (.emitting (.emittingMessage message userIds)))
        ⟨db, sockets, task', [], emitRealtimeMessage sockets args.conversationId userIds message⟩
  | answered (s userId : JsString) (message : RealtimeMessagePayload) (userIds : List JsString)
      (task' : GatewayTask) :
      TaskEffect config db sockets (.chatbot s userId (.emitting (.emittingMessage message userIds)))
        ⟨db, sockets, task', [], emitRealtimeMessage sockets s userIds message⟩
  | read (args : MemberArgs) (last : Option ObjectId) (task' : GatewayTask) :
      TaskEffect config db sockets (.markConversationRead args (.emitting last))
        ⟨db, sockets, task', [],
          emitTo sockets (getUserRoom args.userId) (.conversationReadUpdated args.conversationId last)
            ++ emitTo sockets (getConversationRoom args.conversationId)
              (.conversationReadUpdated args.conversationId last)⟩
  | typed (client : Nat) (s userId : JsString) (isTyping : Bool) (expiresAt : Date)
      (task' : GatewayTask) :
      TaskEffect config db sockets (.typingPresence client s isTyping .checked)
        ⟨db, sockets, task', [], (emitTo sockets (getConversationRoom s)
          (.typingPresenceUpdated s userId isTyping expiresAt)).filter (·.client ≠ client)⟩
  | moderated (s userId messageId : JsString) (task' : GatewayTask) :
      TaskEffect config db sockets (.moderation s userId messageId .emitting)
        ⟨db, sockets, task', [],
          emitTo sockets (getConversationRoom s) (.aiModerationResult s messageId) ++
            emitTo sockets (getUserRoom userId) (.aiModerationResult s messageId)⟩

/-- Previews are not among the events of members. -/
theorem quiet_emitConversationPreviews {s : JsString} {userIds : List JsString} :
    ∀ d ∈ emitConversationPreviews sockets s userIds, memberConversation? d.event = none := by
  intro d hd
  obtain ⟨userId, -, hd⟩ := List.mem_flatMap.mp hd
  rw [(mem_emitTo.mp hd).1]
  rfl

/-- What a step towards the sockets emits. -/
theorem deliveries_emitStep {s : JsString} {pc pc' : EmitPc} {deliveries : List SocketDelivery}
    (h : emitStep env db sockets s input pc = some (pc', deliveries)) :
    (∀ d ∈ deliveries, memberConversation? d.event = none) ∨
      ∃ message userIds, pc = .emittingMessage message userIds ∧
        deliveries = emitRealtimeMessage sockets s userIds message := by
  -- only the last step emits anything that is for members
  cases pc with
  | presenting message =>
    obtain ⟨payload, -, heq⟩ := Option.map_eq_some_iff.mp h
    cases heq
    exact .inl fun d hd => absurd hd List.not_mem_nil
  | findingActive c message =>
    cases h
    exact .inl fun d hd => absurd hd List.not_mem_nil
  | emittingPreviews message userIds =>
    cases h
    exact .inl quiet_emitConversationPreviews
  | emittingMessage message userIds =>
    cases h
    exact .inr ⟨message, userIds, rfl, rfl⟩
  | emitted message => cases h

/-- Every step of every task is one of these. -/
theorem taskStep_effect (h : taskStep env config db sockets input task = some next) :
    TaskEffect config db sockets task next := by
  have hnone : ∀ d ∈ ([] : List SocketDelivery), memberConversation? d.event = none :=
    fun _ hmem => absurd hmem List.not_mem_nil
  cases taskStep_cases h with
  | joined client s => exact .joined client s
  | emitting args fromSocket pc pc' deliveries hemit =>
    -- previews are quiet, the message itself is not
    cases deliveries_emitStep hemit with
    | inl hquiet => exact .inward _ _ _ hquiet
    | inr hmessage =>
      obtain ⟨message, userIds, rfl, rfl⟩ := hmessage
      exact .delivered args fromSocket message userIds _
  | emitted args fromSocket message =>
    cases fromSocket with
    | true => exact .started args message
    | false => exact .inward _ _ _ hnone
  | readPreviewed args last userIds => exact .inward _ _ _ quiet_emitConversationPreviews
  | readEmitted args last => exact .read args last _
  | typed client s userId isTyping expiresAt => exact .typed client s userId isTyping expiresAt _
  | moderated s userId messageId => exact .moderated s userId messageId _
  | answerEmitting s userId pc pc' deliveries hemit =>
    cases deliveries_emitStep hemit with
    | inl hquiet => exact .inward _ _ _ hquiet
    | inr hmessage =>
      obtain ⟨message, userIds, rfl, rfl⟩ := hmessage
      exact .answered s userId message userIds _
  | _ => exact .inward _ _ _ hnone

/-- The sockets keep their users. -/
theorem users_taskEffect (heffect : TaskEffect config db sockets task next) :
    next.sockets.map ChatSocket.user = sockets.map ChatSocket.user := by
  cases heffect with
  | joined client s =>
    apply map_modify
    intro socket
    simp
  | _ => rfl

/-- A socket gets into a room only by a handler that has checked. -/
theorem rooms_taskEffect {socket' : ChatSocket} {room : JsString}
    (heffect : TaskEffect config db sockets task next) (hmem : socket' ∈ next.sockets)
    (hroom : room ∈ socket'.rooms) :
    (∃ socket ∈ sockets, socket.user = socket'.user ∧ room ∈ socket.rooms) ∨
      ∃ client s, task = .joinConversation client s .checked ∧ room = getConversationRoom s ∧
        (sockets.map ChatSocket.user)[client]? = some socket'.user := by
  -- the one handler that lets into a room
  cases heffect with
  | joined client s =>
    cases mem_modify hmem with
    | inl hold => exact .inl ⟨socket', hold, rfl, hroom⟩
    | inr hnew =>
      obtain ⟨socket, hsocket, rfl⟩ := hnew
      rw [rooms_markConversationJoined] at hroom
      rw [user_markConversationJoined, user_join]
      -- the room is an old one or the one that was joined
      cases mem_rooms_join hroom with
      | inl hold => exact .inl ⟨socket, List.mem_of_getElem? hsocket, rfl, hold⟩
      | inr hnew =>
        refine .inr ⟨client, s, rfl, hnew, ?_⟩
        rw [List.getElem?_map, hsocket]
        rfl
  | _ => exact .inl ⟨socket', hmem, rfl, hroom⟩

end Task

/-! ## What an event does -/

section Gateway

variable {env : BackendEnv} {config : AiConfig} {gateway gateway' : ChatGateway}
  {event : GatewayEvent} {deliveries : List SocketDelivery}

variable (env config gateway) in
/-- What an event does to the gateway, with what is emitted. -/
inductive GatewayNext : GatewayEvent → ChatGateway → List SocketDelivery → Prop where
  | connected (user : ObjectId) :
      GatewayNext (.connect user)
        { gateway with sockets := gateway.sockets ++ [.handleConnection user] }
        [⟨gateway.sockets.length, .connectionStatusChanged⟩]
  | disconnected (client : Nat) (socket : ChatSocket)
      (hsocket : gateway.sockets[client]? = some socket) (hconnected : socket.connected = true) :
      GatewayNext (.disconnect client)
        { gateway with sockets := gateway.sockets.modify client ChatSocket.handleDisconnect } []
  | left (client : Nat) (conversationId : JsString) (socket : ChatSocket)
      (hsocket : gateway.sockets[client]? = some socket) (hconnected : socket.connected = true) :
      GatewayNext (.receive client (.leaveConversation conversationId))
        { gateway with
          sockets := gateway.sockets.modify client (·.leaveConversation conversationId) } []
  | received (client : Nat) (event : ClientEvent) (socket : ChatSocket)
      (hsocket : gateway.sockets[client]? = some socket) (hconnected : socket.connected = true)
      (hevent : ∀ s, event ≠ .leaveConversation s) :
      GatewayNext (.receive client event)
        { gateway with tasks := gateway.tasks ++ (clientTask client socket event).toList } []
  | requested (call : ChatCall) (hcall : call.isRequest = true) :
      GatewayNext (.request call) { gateway with tasks := gateway.tasks ++ [.request call] } []
  | confirmed (user : ObjectId) (conversationId attachmentId : JsString) :
      GatewayNext (.confirmAttachment user conversationId attachmentId)
        { gateway with
          tasks := gateway.tasks ++ [.sendMessage ⟨conversationId, user.toString, [], attachmentId,
            false⟩ false (.sending .start)] } []
  | stepped (index : Nat) (input : GatewayInput) (task : GatewayTask) (next : TaskStep)
      (htask : gateway.tasks[index]? = some task)
      (hnext : taskStep env config gateway.db gateway.sockets input task = some next) :
      GatewayNext (.step index input)
        ⟨next.db, next.sockets, gateway.tasks.set index next.task ++ next.spawned⟩ next.deliveries

theorem gatewayNext_cases
    (h : gatewayNext env config gateway event = some (gateway', deliveries)) :
    GatewayNext env config gateway event gateway' deliveries := by
  cases event with
  | connect user =>
    cases h
    exact .connected user
  -- a socket that never connected cannot go
  | disconnect client =>
    simp only [gatewayNext] at h
    split at h
    · rename_i hsocket
      cases h
      exact .disconnected client _ hsocket rfl
    · cases h
  -- a socket that is gone sends nothing
  | receive client event =>
    simp only [gatewayNext] at h
    split at h
    · cases h
    · rename_i socket hsocket
      split at h
      · rename_i hconnected
        -- to leave is not checked and needs no task
        split at h
        · cases h
          exact .left client _ socket hsocket hconnected
        · rename_i hevent
          cases h
          exact .received client event socket hsocket hconnected hevent
      · cases h
  -- a request over HTTP comes with a call that starts
  | request call =>
    simp only [gatewayNext] at h
    split at h
    · rename_i hcall
      cases h
      exact .requested call hcall
    · cases h
  | confirmAttachment user conversationId attachmentId =>
    cases h
    exact .confirmed user conversationId attachmentId
  -- a handler goes on
  | step index input =>
    simp only [gatewayNext] at h
    split at h
    · cases h
    · rename_i task htask
      obtain ⟨next, hnext, heq⟩ := Option.map_eq_some_iff.mp h
      cases heq
      exact .stepped index input task next htask hnext

end Gateway

end ChatSC.Spec
