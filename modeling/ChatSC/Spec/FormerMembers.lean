import ChatSC.Spec.GatewayTasks
import ChatSC.Spec.GroupMembership

/-!
# Former members and the events of a conversation

A user of a conversation is an active member, a former one, or neither.  The rooms of the sockets
are a second account of who is in a conversation, kept in step with the first one when a socket
joins and at no other time.

`ChatGateway.Holds` says how an earlier check can still bring events of a conversation to a user: a
socket in its room, or a task under way.  If memberships end only when nothing holds, everything
that holds belongs to active members, and only they get events.

## Key results

- `deliveries_active`: while that invariant holds, events go to active members
- `former_members_spared`: no event goes to a former member, in runs in which memberships end so
- `removed_member_gets_message`: in other runs one does
-/

namespace ChatSC.Spec

open Backend JsString Records Transition

/-! ## What is promised -/

/-- The user has been in the conversation and is no active member. -/
def FormerMember (db : ChatDb) (c u : ObjectId) : Prop :=
  (∃ p ∈ db.participants, p.conversationId = c ∧ p.userId = u) ∧ ¬ ActiveMember db c u

instance (db : ChatDb) (c u : ObjectId) : Decidable (ActiveMember db c u) :=
  inferInstanceAs (Decidable (∃ p ∈ db.participants, _))

instance (db : ChatDb) (c u : ObjectId) : Decidable (FormerMember db c u) :=
  inferInstanceAs (Decidable (_ ∧ _))

/-- What happens next brings no event of a conversation to a socket of a former member. -/
def SparesFormer (env : BackendEnv) (config : AiConfig) (gateway : ChatGateway)
    (event : GatewayEvent) : Prop :=
  ∀ gateway' deliveries, gatewayNext env config gateway event = some (gateway', deliveries) →
    ∀ d ∈ deliveries, ∀ socket c, gateway.sockets[d.client]? = some socket →
      memberConversation? d.event = some c → ¬ FormerMember gateway.db c socket.user

/-! ## What holds a user in a conversation -/

/-- The users that an event is about to go to. -/
def EmitPc.listed : EmitPc → List JsString
  | .emittingPreviews _ userIds | .emittingMessage _ userIds => userIds
  | .presenting _ | .findingActive _ _ | .emitted _ => []

/-- The users that an event of the message is about to go to. -/
def SendTaskPc.listed : SendTaskPc → List JsString
  | .emitting pc => EmitPc.listed pc
  | .sending _ | .returned _ | .threw _ => []

/-- The users that an event of the chat bot's message is about to go to. -/
def ChatbotPc.listed : ChatbotPc → List JsString
  | .emitting pc => EmitPc.listed pc
  | .generating | .sending _ _ | .ended => []

/-- `sendMessage` has found the sender in the conversation. -/
def SendPc.passed : SendPc → Bool
  | .start | .threw _ => false
  | _ => true

/-- The message has an answer of the moderation to come. -/
def SendTaskPc.passed : SendTaskPc → Bool
  | .sending pc => SendPc.passed pc
  | .emitting _ => true
  | .returned _ | .threw _ => false

/-- `markConversationRead` has found the reader in the conversation, who has an event to come. -/
def ReadTaskPc.passed : ReadTaskPc → Bool
  | .marking .guarding | .marking .start | .marking (.threw _) => false
  | .marking _ | .findingActive _ | .emittingPreviews _ _ | .emitting _ => true
  | .returned _ | .threw _ => false

/-- The moderation looks at the message. -/
def moderated (config : AiConfig) (args : SendArgs) (fromSocket : Bool) : Bool :=
  fromSocket && config.isModerationEnabled && args.content ≠ []

/-- The task can still bring an event of the conversation to the user, or to the user's socket that
    is to join; `users` are those of the sockets. -/
def GatewayTask.Holds (config : AiConfig) (users : List ObjectId) (c u : ObjectId) :
    GatewayTask → Prop
  | .joinConversation client conversationId pc =>
    pc = .checked ∧ ObjectId.ofString? conversationId = some c ∧ users[client]? = some u
  | .sendMessage args fromSocket pc =>
    ObjectId.ofString? args.conversationId = some c ∧
      (u.toString ∈ SendTaskPc.listed pc ∨
        moderated config args fromSocket ∧ SendTaskPc.passed pc ∧
          ObjectId.ofString? args.senderId = some u)
  | .markConversationRead args pc =>
    ReadTaskPc.passed pc ∧ ObjectId.ofString? args.conversationId = some c ∧
      ObjectId.ofString? args.userId = some u
  | .moderation conversationId userId _ pc =>
    pc ≠ .ended ∧ ObjectId.ofString? conversationId = some c ∧ ObjectId.ofString? userId = some u
  | .chatbot conversationId _ pc =>
    ObjectId.ofString? conversationId = some c ∧ u.toString ∈ ChatbotPc.listed pc
  | .request _ | .typingPresence _ _ _ _ => False

/-- The socket is in a room of the conversation. -/
def InRoomOf (c : ObjectId) (socket : ChatSocket) : Prop :=
  ∃ s, ObjectId.ofString? s = some c ∧ getConversationRoom s ∈ socket.rooms

/-- An earlier check still holds the user in the conversation. -/
def ChatGateway.Holds (config : AiConfig) (gateway : ChatGateway) (c u : ObjectId) : Prop :=
  (∃ socket ∈ gateway.sockets, socket.user = u ∧ InRoomOf c socket) ∨
    ∃ task ∈ gateway.tasks, GatewayTask.Holds config (gateway.sockets.map ChatSocket.user) c u task

/-- A step that ends a membership is taken only when nothing holds the user in the conversation. -/
def EndsUnheld (env : BackendEnv) (config : AiConfig) (gateway : ChatGateway)
    (event : GatewayEvent) : Prop :=
  ∀ gateway', gatewayStep env config gateway event = some gateway' →
    ∀ c u, ActiveMember gateway.db c u → ¬ ActiveMember gateway'.db c u →
      ¬ ChatGateway.Holds config gateway c u

/-! ## Checking the conditions -/

/-- The conversation that a room belongs to. -/
def conversationOfRoom? (room : JsString) : Option ObjectId :=
  if js "conversation:" <+: room then ObjectId.ofString? (room.drop 13) else none

theorem inRoomOf_iff {c : ObjectId} {socket : ChatSocket} :
    InRoomOf c socket ↔ ∃ room ∈ socket.rooms, conversationOfRoom? room = some c := by
  have hlength : (js "conversation:").length = 13 := by decide
  -- the prefix of a room of a conversation is of fixed length
  constructor
  · intro h
    obtain ⟨s, hs, hroom⟩ := h
    refine ⟨_, hroom, ?_⟩
    rw [getConversationRoom, conversationOfRoom?, if_pos (List.prefix_append _ _), ← hlength,
      List.drop_left]
    exact hs
  · intro h
    obtain ⟨room, hroom, hc⟩ := h
    unfold conversationOfRoom? at hc
    split at hc
    · rename_i hprefix
      obtain ⟨s, rfl⟩ := hprefix
      rw [← hlength, List.drop_left] at hc
      exact ⟨s, hc, hroom⟩
    · cases hc

instance (c : ObjectId) (socket : ChatSocket) : Decidable (InRoomOf c socket) :=
  decidable_of_iff _ inRoomOf_iff.symm

instance (config : AiConfig) (users : List ObjectId) (c u : ObjectId) :
    (task : GatewayTask) → Decidable (GatewayTask.Holds config users c u task)
  | .request _ | .typingPresence _ _ _ _ => inferInstanceAs (Decidable False)
  | .joinConversation _ _ _ | .markConversationRead _ _ | .moderation _ _ _ _ =>
    inferInstanceAs (Decidable (_ ∧ _ ∧ _))
  | .sendMessage _ _ _ => inferInstanceAs (Decidable (_ ∧ (_ ∨ _ ∧ _ ∧ _)))
  | .chatbot _ _ _ => inferInstanceAs (Decidable (_ ∧ _))

instance (config : AiConfig) (gateway : ChatGateway) (c u : ObjectId) :
    Decidable (ChatGateway.Holds config gateway c u) :=
  inferInstanceAs (Decidable ((∃ socket ∈ gateway.sockets, _) ∨ ∃ task ∈ gateway.tasks, _))

variable {env : BackendEnv} {config : AiConfig} {gateway : ChatGateway} {event : GatewayEvent}

theorem sparesFormer_iff : SparesFormer env config gateway event ↔
    ∀ x ∈ gatewayNext env config gateway event, ∀ d ∈ x.2,
      ∀ socket ∈ gateway.sockets[d.client]?, ∀ c ∈ memberConversation? d.event,
        ¬ FormerMember gateway.db c socket.user := by
  constructor
  · intro h x hx d hd socket hsocket c hc
    exact h x.1 x.2 hx d hd socket c hsocket hc
  · intro h gateway' deliveries hnext d hd socket c hsocket hc
    exact h (gateway', deliveries) hnext d hd socket hsocket c hc

instance : Decidable (SparesFormer env config gateway event) :=
  decidable_of_iff _ sparesFormer_iff.symm

/-- Only the users of the participants can lose a membership. -/
theorem endsUnheld_iff : EndsUnheld env config gateway event ↔
    ∀ gateway' ∈ gatewayStep env config gateway event, ∀ p ∈ gateway.db.participants,
      p.status = .active → ¬ ActiveMember gateway'.db p.conversationId p.userId →
        ¬ ChatGateway.Holds config gateway p.conversationId p.userId :=
  forall₂_congr fun _ _ => forall_activeMember_iff

instance : Decidable (EndsUnheld env config gateway event) :=
  decidable_of_iff _ endsUnheld_iff.symm

section Task

variable {env : BackendEnv} {config : AiConfig} {db : ChatDb} {sockets : List ChatSocket}
  {input : GatewayInput} {task : GatewayTask} {next : TaskStep} {count : Nat}

/-! ## What a step of a task lets hold -/

/-- A guard has found an active member. -/
theorem activeMember_of_getRequired {conversationId userId : JsString} {p : ConversationParticipant}
    {c u : ObjectId} (h : getRequiredActiveParticipant db conversationId userId = .ok p)
    (hc : ObjectId.ofString? conversationId = some c) (hu : ObjectId.ofString? userId = some u) :
    ActiveMember db c u := by
  obtain ⟨hpc, hpu, hfound⟩ := getRequiredActiveParticipant_ok h
  cases hc.symm.trans hpc
  cases hu.symm.trans hpu
  obtain ⟨hmem, hactive⟩ := findActive_eq_some hfound
  exact ⟨p, hmem, hactive⟩

/-- The check of a handler has found an active member. -/
theorem guardStep_checked {client : Nat} {conversationId : JsString} {c u : ObjectId}
    (h : guardStep db sockets client conversationId = some .checked)
    (hc : ObjectId.ofString? conversationId = some c)
    (hu : (sockets.map ChatSocket.user)[client]? = some u) : ActiveMember db c u := by
  obtain ⟨socket, hsocket, hpc⟩ := Option.map_eq_some_iff.mp h
  rw [List.getElem?_map, hsocket] at hu
  obtain rfl : socket.user = u := Option.some.inj hu
  split at hpc
  · cases hpc
  · rename_i p hp
    exact activeMember_of_getRequired hp hc (ObjectId.ofString?_toString _)

/-- The users of `getActiveParticipants` are active members. -/
theorem activeMember_of_mem_findActive {c u : ObjectId}
    (h : u.toString ∈ (db.findActiveParticipants c).map (·.userId.toString)) :
    ActiveMember db c u := by
  obtain ⟨p, hp, heq⟩ := List.mem_map.mp h
  rw [ChatDb.findActiveParticipants, List.mem_filter] at hp
  obtain ⟨hmem, hactive⟩ := hp
  simp only [Bool.and_eq_true, decide_eq_true_eq] at hactive
  exact ⟨p, hmem, hactive.1, ObjectId.toString_injective heq, hactive.2⟩

/-- A sender who is let pass by this step is an active member. -/
theorem passed_sendStep {db' : ChatDb} {args : SendArgs} {pc pc' : SendPc} {input : CallInput}
    {c u : ObjectId} (h : sendStep env db args input pc = some (db', pc'))
    (hc : ObjectId.ofString? args.conversationId = some c)
    (hu : ObjectId.ofString? args.senderId = some u) (hpc' : SendTaskPc.passed (afterSend pc')) :
    SendPc.passed pc ∨ ActiveMember db' c u := by
  cases sendStep_cases h with
  | refused error => cases hpc'
  | sender participant hnonempty hsender => exact .inr (activeMember_of_getRequired hsender hc hu)
  | _ => exact .inl rfl

/-- A reader who is let pass by this step is an active member. -/
theorem passed_markReadStep {db' : ChatDb} {args : MemberArgs} {pc pc' : MarkReadPc}
    {input : CallInput} {c u : ObjectId} (h : markReadStep db args input pc = some (db', pc'))
    (hc : ObjectId.ofString? args.conversationId = some c)
    (hu : ObjectId.ofString? args.userId = some u) (hpc' : ReadTaskPc.passed (afterMarkRead pc')) :
    ReadTaskPc.passed (.marking pc) ∨ ActiveMember db' c u := by
  cases markReadStep_cases h with
  | refused error => cases hpc'
  | passed participant hguard => exact absurd hpc' (by decide)
  | notMember error => cases hpc'
  | member participant hmember => exact .inr (activeMember_of_getRequired hmember hc hu)
  | _ => exact .inl rfl

/-- A user who is listed by this step is an active member. -/
theorem listed_emitStep {s : JsString} {pc pc' : EmitPc} {deliveries : List SocketDelivery}
    {c u : ObjectId} (hfits : EmitPc.Fits s pc)
    (h : emitStep env db sockets s input pc = some (pc', deliveries))
    (hc : ObjectId.ofString? s = some c) (hlisted : u.toString ∈ EmitPc.listed pc') :
    u.toString ∈ EmitPc.listed pc ∨ ActiveMember db c u := by
  -- the members are listed once, and the list is used twice
  cases pc with
  | presenting message =>
    obtain ⟨payload, -, heq⟩ := Option.map_eq_some_iff.mp h
    cases heq
    exact absurd hlisted List.not_mem_nil
  | findingActive c' message =>
    -- only who is active is found
    cases h
    cases hc.symm.trans hfits.1
    exact .inr (activeMember_of_mem_findActive hlisted)
  | emittingPreviews message userIds =>
    cases h
    exact .inl hlisted
  | emittingMessage message userIds =>
    cases h
    exact absurd hlisted List.not_mem_nil
  | emitted message => cases h

/-- What holds a user after a step of a task has held the user before, or the user is an active
    member now. -/
theorem holds_taskStep {users : List ObjectId} {c u : ObjectId}
    (husers : users = sockets.map ChatSocket.user) (hfits : GatewayTask.Fits count task)
    (h : taskStep env config db sockets input task = some next)
    (hholds : GatewayTask.Holds config users c u next.task) :
    GatewayTask.Holds config users c u task ∨ ActiveMember next.db c u := by
  cases taskStep_cases h with
  | request call call' db' hcall => exact False.elim hholds
  | joinChecked client s pc hguard =>
    obtain ⟨rfl, hc, hu⟩ := hholds
    subst husers
    exact .inr (guardStep_checked hguard hc hu)
  | joined client s => exact nomatch hholds.1
  | sending args fromSocket pc pc' db' hsend =>
    obtain ⟨hc, hreason⟩ := hholds
    cases hreason with
    | inl hlisted =>
      -- nobody is listed before the participants are looked up
      cases pc' <;> exact absurd hlisted List.not_mem_nil
    | inr hsender =>
      obtain ⟨hmoderated, hpassed, hu⟩ := hsender
      cases passed_sendStep hsend hc hu hpassed with
      | inl hbefore => exact .inl ⟨hc, .inr ⟨hmoderated, hbefore, hu⟩⟩
      | inr hactive => exact .inr hactive
  | emitting args fromSocket pc pc' deliveries hemit =>
    obtain ⟨hc, hreason⟩ := hholds
    cases hreason with
    | inl hlisted =>
      cases listed_emitStep hfits hemit hc hlisted with
      | inl hbefore => exact .inl ⟨hc, .inl hbefore⟩
      | inr hactive => exact .inr hactive
    | inr hsender => exact .inl ⟨hc, .inr ⟨hsender.1, rfl, hsender.2.2⟩⟩
  | emitted args fromSocket message =>
    obtain ⟨hc, hreason⟩ := hholds
    cases hreason with
    | inl hlisted => exact absurd hlisted List.not_mem_nil
    | inr hsender => exact nomatch hsender.2.1
  | marking args pc pc' db' hread =>
    obtain ⟨hpassed, hc, hu⟩ := hholds
    cases passed_markReadStep hread hc hu hpassed with
    | inl hbefore => exact .inl ⟨hbefore, hc, hu⟩
    | inr hactive => exact .inr hactive
  | readListed args last pc => exact .inl ⟨rfl, hholds.2⟩
  | readPreviewed args last userIds => exact .inl ⟨rfl, hholds.2⟩
  | readEmitted args last => exact nomatch hholds.1
  | typingChecked client s isTyping pc hguard => exact False.elim hholds
  | typed client s userId isTyping expiresAt => exact False.elim hholds
  | analyzed s userId messageId pc => exact .inl ⟨nofun, hholds.2⟩
  | saved s userId messageId => exact .inl ⟨nofun, hholds.2⟩
  | moderated s userId messageId => exact .inl ⟨nofun, hholds.2⟩
  | notGenerated s userId => exact absurd hholds.2 List.not_mem_nil
  | generated s userId content => exact absurd hholds.2 List.not_mem_nil
  | answering s userId args pc pc' db' hsend =>
    obtain ⟨-, hlisted⟩ := hholds
    cases pc' <;> exact absurd hlisted List.not_mem_nil
  | answerEmitting s userId pc pc' deliveries hemit =>
    obtain ⟨hc, hlisted⟩ := hholds
    cases listed_emitStep hfits hemit hc hlisted with
    | inl hbefore => exact .inl ⟨hc, hbefore⟩
    | inr hactive => exact .inr hactive

/-- The moderation of a message holds its sender as the message has. -/
theorem holds_followUps {users : List ObjectId} {c u : ObjectId} {args : SendArgs}
    {message : RealtimeMessagePayload} {spawned : GatewayTask}
    (hmem : spawned ∈ followUps config args message)
    (hholds : GatewayTask.Holds config users c u spawned) :
    GatewayTask.Holds config users c u
      (.sendMessage args true (.emitting (.emitted message))) := by
  -- the moderation knows the sender; the answer of the bot has looked nobody up yet
  rw [followUps, List.mem_append] at hmem
  cases hmem with
  | inl hmem =>
    split at hmem
    · rename_i hmoderated
      obtain rfl := List.mem_singleton.mp hmem
      exact ⟨hholds.2.1, .inr ⟨hmoderated, rfl, hholds.2.2⟩⟩
    · exact absurd hmem List.not_mem_nil
  | inr hmem =>
    split at hmem
    · obtain rfl := List.mem_singleton.mp hmem
      exact absurd hholds.2 List.not_mem_nil
    · exact absurd hmem List.not_mem_nil

/-! ## Who gets the events -/

/-- What a room of the conversation or a user's room brings to a socket. -/
theorem holds_emitRealtimeMessage {s : JsString} {userIds : List JsString}
    {message : RealtimeMessagePayload} {d : SocketDelivery} {socket : ChatSocket} {c : ObjectId}
    (hown : ∀ x, getUserRoom x ∈ socket.rooms → x = socket.user.toString)
    (hfits : ObjectId.ofString? message.conversationId = ObjectId.ofString? s)
    (hd : d ∈ emitRealtimeMessage sockets s userIds message)
    (hsocket : sockets[d.client]? = some socket) (hc : memberConversation? d.event = some c) :
    ObjectId.ofString? s = some c ∧ (InRoomOf c socket ∨ socket.user.toString ∈ userIds) := by
  -- the room of the conversation, or the members' own rooms
  cases List.mem_append.mp hd with
  | inl hroom =>
    obtain ⟨hevent, hmem⟩ := room_of_delivery hroom hsocket
    rw [hevent] at hc
    have hs := hfits.symm.trans hc
    exact ⟨hs, .inl ⟨s, hs, hmem⟩⟩
  | inr huser =>
    obtain ⟨userId, hlisted, hmem⟩ := List.mem_flatMap.mp huser
    obtain ⟨hevent, hmem⟩ := room_of_delivery hmem hsocket
    rw [hevent] at hc
    -- a user's room has only sockets of the user
    rw [hown userId hmem] at hlisted
    exact ⟨hfits.symm.trans hc, .inr hlisted⟩

/-- An event of a conversation goes to a socket in a room of it or to a user whom the task holds. -/
theorem holds_of_delivery {d : SocketDelivery} {socket : ChatSocket} {c : ObjectId}
    {users : List ObjectId}
    (hown : ∀ x, getUserRoom x ∈ socket.rooms → x = socket.user.toString)
    (hfits : GatewayTask.Fits count task) (heffect : TaskEffect config db sockets task next)
    (hd : d ∈ next.deliveries) (hsocket : sockets[d.client]? = some socket)
    (hc : memberConversation? d.event = some c) :
    InRoomOf c socket ∨ GatewayTask.Holds config users c socket.user task := by
  cases heffect with
  | inward db' task' deliveries hquiet => exact nomatch (hquiet d hd).symm.trans hc
  | joined client s => exact absurd hd List.not_mem_nil
  | started args message => exact absurd hd List.not_mem_nil
  | delivered args fromSocket message userIds task' =>
    obtain ⟨hs, hwho⟩ := holds_emitRealtimeMessage hown hfits hd hsocket hc
    cases hwho with
    | inl hroom => exact .inl hroom
    | inr hlisted => exact .inr ⟨hs, .inl hlisted⟩
  | answered s userId message userIds task' =>
    obtain ⟨hs, hwho⟩ := holds_emitRealtimeMessage hown hfits hd hsocket hc
    cases hwho with
    | inl hroom => exact .inl hroom
    | inr hlisted => exact .inr ⟨hs, hlisted⟩
  | read args last task' =>
    cases List.mem_append.mp hd with
    | inl huser =>
      obtain ⟨hevent, hmem⟩ := room_of_delivery huser hsocket
      rw [hevent] at hc
      -- the reader's own room is that of the socket's user
      have hu : ObjectId.ofString? args.userId = some socket.user := by
        rw [hown args.userId hmem, ObjectId.ofString?_toString]
      exact .inr ⟨rfl, hc, hu⟩
    | inr hroom =>
      obtain ⟨hevent, hmem⟩ := room_of_delivery hroom hsocket
      rw [hevent] at hc
      exact .inl ⟨args.conversationId, hc, hmem⟩
  | typed client s userId isTyping expiresAt task' =>
    obtain ⟨hevent, hmem⟩ := room_of_delivery (List.mem_of_mem_filter hd) hsocket
    rw [hevent] at hc
    exact .inl ⟨s, hc, hmem⟩
  | moderated s userId messageId task' =>
    cases List.mem_append.mp hd with
    | inl hroom =>
      obtain ⟨hevent, hmem⟩ := room_of_delivery hroom hsocket
      rw [hevent] at hc
      exact .inl ⟨s, hc, hmem⟩
    | inr huser =>
      obtain ⟨hevent, hmem⟩ := room_of_delivery huser hsocket
      rw [hevent] at hc
      have hu : ObjectId.ofString? userId = some socket.user := by
        rw [hown userId hmem, ObjectId.ofString?_toString]
      exact .inr ⟨nofun, hc, hu⟩

end Task

/-! ## Every run -/

/-- What holds while memberships end only when nothing holds the user. -/
structure GatewayInv (config : AiConfig) (gateway : ChatGateway) : Prop where
  held : ∀ c u, ChatGateway.Holds config gateway c u → ActiveMember gateway.db c u
  own_room : ∀ socket ∈ gateway.sockets, ∀ x, getUserRoom x ∈ socket.rooms →
    x = socket.user.toString
  fits : ∀ task ∈ gateway.tasks, GatewayTask.Fits gateway.sockets.length task

/-- While it holds, events of a conversation go to active members. -/
theorem deliveries_active {gateway gateway' : ChatGateway} {event : GatewayEvent}
    {deliveries : List SocketDelivery} (hinv : GatewayInv config gateway)
    (h : gatewayNext env config gateway event = some (gateway', deliveries))
    {d : SocketDelivery} {socket : ChatSocket} {c : ObjectId} (hd : d ∈ deliveries)
    (hsocket : gateway.sockets[d.client]? = some socket)
    (hc : memberConversation? d.event = some c) : ActiveMember gateway.db c socket.user := by
  have hmem := List.mem_of_getElem? hsocket
  cases gatewayNext_cases h with
  | connected user =>
    obtain rfl := List.mem_singleton.mp hd
    cases hc
  | disconnected | left | received | requested | confirmed => exact absurd hd List.not_mem_nil
  | stepped index input task next htask hnext =>
    have htask := List.mem_of_getElem? htask
    -- who gets the event held the conversation before the step, so is active in it
    cases holds_of_delivery (hinv.own_room socket hmem) (hinv.fits task htask)
        (taskStep_effect hnext) hd hsocket hc with
    | inl hroom => exact hinv.held c socket.user (.inl ⟨socket, hmem, rfl, hroom⟩)
    | inr hholds => exact hinv.held c socket.user (.inr ⟨task, htask, hholds⟩)

/-- Sockets that leave rooms. -/
theorem GatewayInv.leave {gateway : ChatGateway} (hinv : GatewayInv config gateway) (client : Nat)
    {f : ChatSocket → ChatSocket} (huser : ∀ socket, (f socket).user = socket.user)
    (hrooms : ∀ socket room, room ∈ (f socket).rooms → room ∈ socket.rooms) :
    GatewayInv config { gateway with sockets := gateway.sockets.modify client f } := by
  -- every socket has its user from before and no room more
  have hbefore : ∀ socket' ∈ gateway.sockets.modify client f, ∃ socket ∈ gateway.sockets,
      socket.user = socket'.user ∧ ∀ room ∈ socket'.rooms, room ∈ socket.rooms := by
    intro socket' hmem
    cases mem_modify hmem with
    | inl hold => exact ⟨socket', hold, rfl, fun _ h => h⟩
    | inr hnew =>
      obtain ⟨socket, hsocket, rfl⟩ := hnew
      exact ⟨socket, List.mem_of_getElem? hsocket, (huser socket).symm, hrooms socket⟩
  constructor
  · intro c u hholds
    apply hinv.held
    cases hholds with
    | inl hsocket =>
      obtain ⟨socket', hmem, hu, s, hs, hroom⟩ := hsocket
      obtain ⟨socket, hold, hsame, hsub⟩ := hbefore socket' hmem
      exact .inl ⟨socket, hold, hsame.trans hu, s, hs, hsub _ hroom⟩
    | inr htask =>
      obtain ⟨task, hmem, htask⟩ := htask
      rw [map_modify huser] at htask
      exact .inr ⟨task, hmem, htask⟩
  · intro socket' hmem x hx
    obtain ⟨socket, hold, hsame, hsub⟩ := hbefore socket' hmem
    rw [← hsame]
    exact hinv.own_room socket hold x (hsub _ hx)
  · intro task hmem
    show GatewayTask.Fits (gateway.sockets.modify client f).length task
    rw [List.length_modify]
    exact hinv.fits task hmem

/-- A new socket is in its user's room only. -/
theorem GatewayInv.connect {gateway : ChatGateway} (hinv : GatewayInv config gateway)
    (user : ObjectId) :
    GatewayInv config
      { gateway with sockets := gateway.sockets ++ [ChatSocket.handleConnection user] } := by
  have hrooms : ∀ room ∈ (ChatSocket.handleConnection user).rooms,
      room = getUserRoom user.toString := fun room h => List.mem_singleton.mp h
  constructor
  · intro c u hholds
    apply hinv.held
    cases hholds with
    | inl hsocket =>
      obtain ⟨socket, hmem, hu, s, hs, hroom⟩ := hsocket
      cases List.mem_append.mp hmem with
      | inl hold => exact .inl ⟨socket, hold, hu, s, hs, hroom⟩
      | inr hnew =>
        obtain rfl := List.mem_singleton.mp hnew
        exact absurd (hrooms _ hroom) (getConversationRoom_ne_getUserRoom s _)
    | inr htask =>
      obtain ⟨task, hmem, htask⟩ := htask
      refine .inr ⟨task, hmem, ?_⟩
      cases task with
      | joinConversation client s pc =>
        -- a task is about a socket that was there before
        have hlt : client < gateway.sockets.length := hinv.fits _ hmem
        obtain ⟨hpc, hc, hu⟩ := htask
        refine ⟨hpc, hc, ?_⟩
        rw [List.map_append, List.getElem?_append_left (by rwa [List.length_map])] at hu
        exact hu
      | _ => exact htask
  · intro socket hmem x hx
    cases List.mem_append.mp hmem with
    | inl hold => exact hinv.own_room socket hold x hx
    | inr hnew =>
      obtain rfl := List.mem_singleton.mp hnew
      exact getUserRoom_injective (hrooms _ hx)
  · intro task hmem
    apply (hinv.fits task hmem).mono
    show gateway.sockets.length ≤ (gateway.sockets ++ [ChatSocket.handleConnection user]).length
    simp

/-- A task that has not started. -/
theorem GatewayInv.addTask {gateway : ChatGateway} (hinv : GatewayInv config gateway)
    {task : GatewayTask} (hnothing : ∀ users c u, ¬ GatewayTask.Holds config users c u task)
    (hfits : GatewayTask.Fits gateway.sockets.length task) :
    GatewayInv config { gateway with tasks := gateway.tasks ++ [task] } := by
  constructor
  · intro c u hholds
    apply hinv.held
    -- the sockets are the same, and the new task holds nobody
    cases hholds with
    | inl hsocket => exact .inl hsocket
    | inr htask =>
      obtain ⟨task', hmem, htask⟩ := htask
      cases List.mem_append.mp hmem with
      | inl hold => exact .inr ⟨task', hold, htask⟩
      | inr hnew =>
        obtain rfl := List.mem_singleton.mp hnew
        exact absurd htask (hnothing _ c u)
  · exact hinv.own_room
  · intro task' hmem
    cases List.mem_append.mp hmem with
    | inl hold => exact hinv.fits task' hold
    | inr hnew =>
      obtain rfl := List.mem_singleton.mp hnew
      exact hfits

/-- What holds a user after a step of a task. -/
theorem holds_step {gateway : ChatGateway} {index : Nat} {task : GatewayTask} {input : GatewayInput}
    {next : TaskStep} (hinv : GatewayInv config gateway) (htask : task ∈ gateway.tasks)
    (hnext : taskStep env config gateway.db gateway.sockets input task = some next)
    {c u : ObjectId} (hholds : ChatGateway.Holds config
      ⟨next.db, next.sockets, gateway.tasks.set index next.task ++ next.spawned⟩ c u) :
    ChatGateway.Holds config gateway c u ∨ ActiveMember next.db c u := by
  have heffect := taskStep_effect hnext
  cases hholds with
  | inl hsocket =>
    left
    obtain ⟨socket', hmem, hu, s, hs, hroom⟩ := hsocket
    cases rooms_taskEffect heffect hmem hroom with
    | inl hbefore =>
      obtain ⟨socket, hold, hsame, hroom⟩ := hbefore
      exact .inl ⟨socket, hold, hsame.trans hu, s, hs, hroom⟩
    | inr hjoin =>
      -- the socket has just joined, so its task has passed the check
      obtain ⟨client, s', rfl, hsame, huser⟩ := hjoin
      rw [getConversationRoom_injective hsame] at hs
      rw [hu] at huser
      exact .inr ⟨_, htask, rfl, hs, huser⟩
  | inr hheld =>
    obtain ⟨task', hmem, hheld⟩ := hheld
    rw [users_taskEffect heffect] at hheld
    cases List.mem_append.mp hmem with
    | inl hset =>
      cases List.mem_or_eq_of_mem_set hset with
      | inl hold => exact .inl (.inr ⟨task', hold, hheld⟩)
      | inr heq =>
        subst heq
        cases holds_taskStep rfl (hinv.fits task htask) hnext hheld with
        | inl hbefore => exact .inl (.inr ⟨task, htask, hbefore⟩)
        | inr hactive => exact .inr hactive
    | inr hspawned =>
      cases heffect with
      | started args message =>
        exact .inl (.inr ⟨_, htask, holds_followUps hspawned hheld⟩)
      | _ => exact absurd hspawned List.not_mem_nil

/-- A step of a task, in which memberships end only when nothing holds the user. -/
theorem GatewayInv.taskStep {gateway : ChatGateway} {index : Nat} {task : GatewayTask}
    {input : GatewayInput} {next : TaskStep} (hinv : GatewayInv config gateway)
    (htask : task ∈ gateway.tasks)
    (hnext : taskStep env config gateway.db gateway.sockets input task = some next)
    (hends : ∀ c u, ActiveMember gateway.db c u → ¬ ActiveMember next.db c u →
      ¬ ChatGateway.Holds config gateway c u) :
    GatewayInv config
      ⟨next.db, next.sockets, gateway.tasks.set index next.task ++ next.spawned⟩ := by
  have heffect := taskStep_effect hnext
  have hlength : next.sockets.length = gateway.sockets.length := by
    rw [← List.length_map ChatSocket.user, users_taskEffect heffect, List.length_map]
  obtain ⟨hfits, hspawned⟩ := (hinv.fits task htask).step hnext
  constructor
  · intro c u hholds
    cases holds_step hinv htask hnext hholds with
    | inl hbefore =>
      -- who ends a membership now ends one that nobody holds
      by_contra hended
      exact hends c u (hinv.held c u hbefore) hended hbefore
    | inr hactive => exact hactive
  · intro socket' hmem x hx
    cases rooms_taskEffect heffect hmem hx with
    | inl hbefore =>
      obtain ⟨socket, hold, hsame, hroom⟩ := hbefore
      rw [← hsame]
      exact hinv.own_room socket hold x hroom
    | inr hjoin =>
      obtain ⟨client, s, -, hsame, -⟩ := hjoin
      exact absurd hsame.symm (getConversationRoom_ne_getUserRoom s x)
  · intro task' hmem
    show GatewayTask.Fits next.sockets.length task'
    rw [hlength]
    cases List.mem_append.mp hmem with
    | inl hset =>
      cases List.mem_or_eq_of_mem_set hset with
      | inl hold => exact hinv.fits task' hold
      | inr heq => exact heq ▸ hfits
    | inr hnew => exact hspawned task' hnew

/-- The task of a client's event has not started. -/
theorem GatewayInv.clientTask {gateway : ChatGateway} (hinv : GatewayInv config gateway)
    {client : Nat} {socket : ChatSocket} (hclient : client < gateway.sockets.length)
    (event : ClientEvent) :
    GatewayInv config
      { gateway with tasks := gateway.tasks ++ (clientTask client socket event).toList } := by
  -- none of the handlers has looked anything up
  cases event with
  | joinConversation s => exact hinv.addTask (fun _ _ _ h => nomatch h.1) hclient
  | leaveConversation s =>
    show GatewayInv config { gateway with tasks := gateway.tasks ++ [] }
    rw [List.append_nil]
    exact hinv
  | sendMessage s content attachmentId =>
    refine hinv.addTask (fun users c u hholds => ?_) trivial
    cases hholds.2 with
    | inl hlisted => exact absurd hlisted List.not_mem_nil
    | inr hsender => exact nomatch hsender.2.1
  | markConversationRead s => exact hinv.addTask (fun _ _ _ h => nomatch h.1) trivial
  | typingPresenceUpdated s isTyping => exact hinv.addTask (fun _ _ _ h => h) trivial

/-- A step of the gateway, in which memberships end only when nothing holds the user. -/
theorem GatewayInv.step {gateway gateway' : ChatGateway} {event : GatewayEvent}
    (hinv : GatewayInv config gateway) (hok : EndsUnheld env config gateway event)
    (h : gatewayStep env config gateway event = some gateway') : GatewayInv config gateway' := by
  have hends := hok gateway' h
  obtain ⟨⟨gateway'', deliveries⟩, hnext, rfl⟩ := Option.map_eq_some_iff.mp h
  cases gatewayNext_cases hnext with
  | connected user => exact hinv.connect user
  | disconnected client socket hsocket hconnected =>
    apply hinv.leave client
    · exact fun socket => (handleDisconnect_spec socket).1
    · intro socket room hroom
      rw [(handleDisconnect_spec socket).2] at hroom
      exact absurd hroom List.not_mem_nil
  | left client s socket hsocket hconnected =>
    exact hinv.leave client (fun _ => rfl) fun _ _ => mem_rooms_leaveConversation
  | received client event socket hsocket hconnected hevent =>
    exact hinv.clientTask (List.getElem?_eq_some_iff.mp hsocket).1 event
  | requested call hcall =>
    -- a request over HTTP brings nothing to a room
    exact hinv.addTask (fun _ _ _ h => h) trivial
  | confirmed user s attachmentId =>
    refine hinv.addTask (fun users c u hholds => ?_) trivial
    -- the task that confirms an attachment holds neither a list nor a sender
    cases hholds.2 with
    | inl hlisted => exact absurd hlisted List.not_mem_nil
    | inr hsender => exact nomatch hsender.1
  | stepped index input task next htask hstep =>
    exact hinv.taskStep (List.mem_of_getElem? htask) hstep hends

/-- The gateway before the first socket and the first conversation. -/
def startGateway (attachments : List ChatAttachment) : ChatGateway where
  db := ChatDb.start attachments
  sockets := []
  tasks := []

/-- In every run in which memberships end only when no socket of the user is in a room of the
    conversation and no task that has found the user there is under way, no event of a conversation
    goes to a former member of it. -/
theorem former_members_spared {attachments : List ChatAttachment} {events : List GatewayEvent}
    (hok : Guarded (gatewayStep env config) (EndsUnheld env config) (startGateway attachments)
      events) :
    Guarded (gatewayStep env config) (SparesFormer env config) (startGateway attachments) events := by
  -- no socket and no task is there
  have hstart : GatewayInv config (startGateway attachments) := by
    constructor
    · intro c u hholds
      cases hholds with
      | inl hsocket =>
        obtain ⟨socket, hmem, -⟩ := hsocket
        exact absurd hmem List.not_mem_nil
      | inr htask =>
        obtain ⟨task, hmem, -⟩ := htask
        exact absurd hmem List.not_mem_nil
    · exact fun socket hmem => absurd hmem List.not_mem_nil
    · exact fun task hmem => absurd hmem List.not_mem_nil
  -- who gets an event is active, so he is no former member
  have hspares : ∀ gateway event, GatewayInv config gateway →
      EndsUnheld env config gateway event → SparesFormer env config gateway event := by
    intro gateway event hinv _ gateway' deliveries hnext d hd socket c hsocket hc hformer
    exact hformer.2 (deliveries_active hinv hnext hd hsocket hc)
  exact hok.of_invariant (fun _ _ _ hinv hok h => hinv.step hok h) hspares hstart

/-! ## Two runs -/

/-- Without moderation and chat bot. -/
def noAi : AiConfig := ⟨false, false⟩

/-- Steps of one task, without encryption. -/
def taskSteps (index : Nat) (inputs : List CallInput) : List GatewayEvent :=
  inputs.map fun input => .step index ⟨input, ⟨none, none⟩, none⟩

/-- As many inputs as needed, from a time on. -/
def plainInputs (count start : Nat) (newId : ObjectId) : List CallInput :=
  (List.range count).map fun i => plainInput (start + i) newId []

/-- User 1 makes a group with user 2, whose socket joins it. -/
def joinedEvents : List GatewayEvent :=
  .request createGroup.call :: taskSteps 0 createGroup.inputs ++
    [.connect (digitId 2), .receive 0 (.joinConversation (digitId 3).toString)] ++
    taskSteps 1 (plainInputs 2 5 (digitId 0))

/-- User 1 removes user 2 from the group, as task `index`. -/
def removeEvents (index : Nat) : List GatewayEvent :=
  .request (.removeMember ⟨(digitId 3).toString, (digitId 2).toString, (digitId 1).toString⟩
    .guarding) :: taskSteps index (plainInputs 3 7 (digitId 8))

/-- User 1 connects and sends a message to the group. -/
def groupMessageEvents : List GatewayEvent :=
  [.connect (digitId 1), .receive 1 (.sendMessage (digitId 3).toString (js "hello") [])] ++
    taskSteps 3 (plainInputs 11 11 (digitId 9))

/-- The socket of user 2 leaves the room before the user is removed. -/
theorem former_members_spared_left :
    Guarded (gatewayStep plainEnv noAi) (SparesFormer plainEnv noAi) (startGateway [])
      (joinedEvents ++ [.receive 0 (.leaveConversation (digitId 3).toString)] ++ removeEvents 2 ++
        groupMessageEvents) :=
  former_members_spared (by decide +kernel)

/-- The socket of user 2 stays in the room when the user is removed, and gets the next message. -/
theorem removed_member_gets_message :
    ¬ Guarded (gatewayStep plainEnv noAi) (SparesFormer plainEnv noAi) (startGateway [])
      (joinedEvents ++ removeEvents 2 ++ groupMessageEvents) := by
  decide +kernel

end ChatSC.Spec
