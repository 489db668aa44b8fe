import ChatSC.Frontend.ChatSocketService
import ChatSC.Spec.FormerMembers
import ChatSC.Spec.GatewayRuns

/-!
# The open conversation stays subscribed

A client that has told its `ChatSocketService` which conversation is active has not to care about
the connection any more: over every loss and every new connection, once the gateway has caught up
with what was sent to it, the socket is in the room of the active conversation, unless the gateway
has refused to let it in (`subscribed_of_run`).  Catching up needs nothing from the client
(`subscription_settles`).

A leave takes effect when it arrives, a join only when its handler has checked, so a socket can be
in a room that it has left.  The other way round it counts: no leave of the active conversation may
arrive behind its last join (`Rejoined`).
-/

namespace ChatSC.Spec

open Backend Frontend JsString Records Transition

/-! ## Events under way -/

/-- Behind each leave of the conversation there is a join of it. -/
def Rejoined (conversationId : JsString) : List ClientEvent → Prop
  | [] => True
  | event :: rest =>
    (event = .leaveConversation conversationId → .joinConversation conversationId ∈ rest) ∧
      Rejoined conversationId rest

section Rejoined

variable {conversationId : JsString} {event : ClientEvent} {sent waiting : List ClientEvent}

/-- One more event that is no leave of the conversation. -/
theorem Rejoined.concat (h : Rejoined conversationId sent)
    (hevent : event ≠ .leaveConversation conversationId) :
    Rejoined conversationId (sent ++ [event]) := by
  induction sent with
  | nil => exact ⟨fun heq => absurd heq hevent, trivial⟩
  | cons first sent ih =>
    exact ⟨fun heq => List.mem_append_left _ (h.1 heq), ih h.2⟩

/-- A join behind everything else. -/
theorem rejoined_append (hwaiting : Rejoined conversationId waiting)
    (hjoin : .joinConversation conversationId ∈ waiting) :
    Rejoined conversationId (sent ++ waiting) := by
  induction sent with
  | nil => exact hwaiting
  | cons first sent ih => exact ⟨fun _ => List.mem_append_right _ hjoin, ih⟩

theorem rejoined_concat_join :
    Rejoined conversationId (sent ++ [.joinConversation conversationId]) := by
  refine rejoined_append ⟨fun heq => ?_, trivial⟩ List.mem_cons_self
  cases heq

theorem Rejoined.tail (h : Rejoined conversationId sent) : Rejoined conversationId sent.tail := by
  cases sent with
  | nil => exact h
  | cons first sent => exact h.2

end Rejoined

/-! ## What has arrived -/

/-- The gateway has received a join of the conversation by the client, and no leave since. -/
inductive JoinReceived (gateway : ChatGateway) (client : Nat) (conversationId : JsString) :
    Prop where
  | joining (pc : GuardedPc) (hpc : pc = .checking ∨ pc = .checked)
      (htask : .joinConversation client conversationId pc ∈ gateway.tasks)
  | refused (error : ChatError)
      (htask : .joinConversation client conversationId (.threw error) ∈ gateway.tasks)
  | joined (socket : ChatSocket) (hsocket : gateway.sockets[client]? = some socket)
      (hroom : getConversationRoom conversationId ∈ socket.rooms)
  /-- the socket is gone -/
  | gone (socket : ChatSocket) (hsocket : gateway.sockets[client]? = some socket)
      (hgone : socket.connected = false)

section Gateway

variable {env : BackendEnv} {config : AiConfig} {gateway gateway' : ChatGateway}
  {event : GatewayEvent} {client : Nat} {conversationId : JsString}

/-- What is kept of one socket. -/
def KeepsRoom (conversationId : JsString) (socket socket' : ChatSocket) : Prop :=
  (socket.connected = false → socket'.connected = false) ∧
    (getConversationRoom conversationId ∈ socket.rooms →
      getConversationRoom conversationId ∈ socket'.rooms ∨ socket'.connected = false)

theorem KeepsRoom.refl (socket : ChatSocket) : KeepsRoom conversationId socket socket :=
  ⟨id, .inl⟩

/-- Tasks are only added, and the socket stays in the room or goes. -/
theorem JoinReceived.mono (h : JoinReceived gateway client conversationId)
    (htasks : ∀ task ∈ gateway.tasks, task ∈ gateway'.tasks)
    (hsockets : ∀ socket, gateway.sockets[client]? = some socket →
      ∃ socket', gateway'.sockets[client]? = some socket' ∧
        KeepsRoom conversationId socket socket') :
    JoinReceived gateway' client conversationId := by
  cases h with
  -- a task that is kept is found in the same way
  | joining pc hpc htask => exact .joining pc hpc (htasks _ htask)
  | refused error htask => exact .refused error (htasks _ htask)
  -- the socket is in the room still, or its connection is gone
  | joined socket hsocket hroom =>
    obtain ⟨socket', hsocket', -, hkeep⟩ := hsockets socket hsocket
    cases hkeep hroom with
    | inl hroom' => exact .joined socket' hsocket' hroom'
    | inr hgone => exact .gone socket' hsocket' hgone
  | gone socket hsocket hgone =>
    obtain ⟨socket', hsocket', hkeep, -⟩ := hsockets socket hsocket
    exact .gone socket' hsocket' (hkeep hgone)

/-- An update of one of the sockets, seen from this one. -/
theorem socket_modify {sockets : List ChatSocket} {index : Nat} {f : ChatSocket → ChatSocket}
    {P : ChatSocket → ChatSocket → Prop} (hrefl : ∀ socket, P socket socket)
    (hf : index = client → ∀ socket, P socket (f socket)) {socket : ChatSocket}
    (hsocket : sockets[client]? = some socket) :
    ∃ socket', (sockets.modify index f)[client]? = some socket' ∧ P socket socket' := by
  rw [List.getElem?_modify, hsocket]
  by_cases heq : index = client
  · exact ⟨f socket, by simp [heq], hf heq socket⟩
  · exact ⟨socket, by simp [heq], hrefl socket⟩

/-- A socket that is gone stays gone. -/
theorem connected_handleDisconnect (client : ChatSocket) :
    client.handleDisconnect.connected = false := by
  have hfold : ∀ (ids : List JsString) (socket : ChatSocket),
      (ids.foldl ChatSocket.leaveConversation socket).connected = socket.connected := by
    intro ids
    induction ids with
    | nil => exact fun _ => rfl
    | cons s ids ih => exact fun socket => ih (socket.leaveConversation s)
  exact hfold client.joinedConversationIds _

/-- What `markConversationJoined` leaves. -/
@[simp] theorem connected_markConversationJoined (client : ChatSocket) (s : JsString) :
    (client.markConversationJoined s).connected = client.connected := by
  unfold ChatSocket.markConversationJoined
  split <;> rfl

@[simp] theorem connected_join (client : ChatSocket) (room : JsString) :
    (client.join room).connected = client.connected := by
  unfold ChatSocket.join
  split <;> rfl

theorem mem_join_of_mem {socket : ChatSocket} {room room' : JsString} (h : room ∈ socket.rooms) :
    room ∈ (socket.join room').rooms := by
  unfold ChatSocket.join
  split
  · exact List.mem_append_left _ h
  · exact h

theorem mem_join_self {socket : ChatSocket} {room : JsString} (h : socket.connected = true) :
    room ∈ (socket.join room).rooms := by
  rw [ChatSocket.join, if_pos h]
  exact List.mem_append_right _ List.mem_cons_self

/-- Leaving another conversation leaves the room as it is. -/
theorem mem_leaveConversation_of_ne {socket : ChatSocket} {s : JsString} (hne : s ≠ conversationId)
    (h : getConversationRoom conversationId ∈ socket.rooms) :
    getConversationRoom conversationId ∈ (socket.leaveConversation s).rooms :=
  List.mem_filter.mpr
    ⟨h, decide_eq_true fun heq => hne (getConversationRoom_injective heq).symm⟩

/-- A task after a step: it is there as it was, or it is the one that took the step. -/
theorem mem_set_of_mem {tasks : List GatewayTask} {index : Nat} {task : GatewayTask}
    (task' : GatewayTask) (h : task ∈ tasks) :
    task ∈ tasks.set index task' ∨ tasks[index]? = some task := by
  obtain ⟨i, hi⟩ := List.mem_iff_getElem?.mp h
  by_cases heq : index = i
  · exact .inr (heq ▸ hi)
  · exact .inl (List.mem_of_getElem? ((List.getElem?_set_ne heq).trans hi))

/-- A step of a task takes no socket out of a room. -/
theorem keepsRoom_taskEffect {db : ChatDb} {sockets : List ChatSocket} {task : GatewayTask}
    {next : TaskStep} (heffect : TaskEffect config db sockets task next) {socket : ChatSocket}
    (hsocket : sockets[client]? = some socket) :
    ∃ socket', next.sockets[client]? = some socket' ∧ KeepsRoom conversationId socket socket' := by
  cases heffect with
  | joined index s =>
    refine socket_modify KeepsRoom.refl (fun _ socket => ⟨fun hgone => ?_, fun hroom => .inl ?_⟩)
      hsocket
    · rwa [connected_markConversationJoined, connected_join]
    · rw [rooms_markConversationJoined]
      exact mem_join_of_mem hroom
  | _ => exact ⟨socket, hsocket, KeepsRoom.refl socket⟩

/-- A step of the handler of a join. -/
theorem joinReceived_of_taskMove {input : GatewayInput} {next : TaskStep} {pc : GuardedPc}
    {db : ChatDb} {tasks : List GatewayTask} {socket : ChatSocket}
    (hsocket : gateway.sockets[client]? = some socket)
    (hmove : TaskMove env config gateway.db gateway.sockets input
      (.joinConversation client conversationId pc) next)
    (htask : next.task ∈ tasks) :
    JoinReceived ⟨db, next.sockets, tasks⟩ client conversationId := by
  cases hmove with
  -- the membership is checked before the room is joined
  | joinChecked _ _ pc' hguard =>
    obtain ⟨socket', -, hpc⟩ := Option.map_eq_some_iff.mp hguard
    split at hpc
    · cases hpc
      exact .refused _ htask
    · cases hpc
      exact .joining .checked (.inr rfl) htask
  -- the socket joins its room, if it is connected still
  | joined =>
    have hjoined : (gateway.sockets.modify client fun socket =>
        (socket.join (getConversationRoom conversationId)).markConversationJoined
          conversationId)[client]? =
        some ((socket.join (getConversationRoom conversationId)).markConversationJoined
          conversationId) := by
      rw [List.getElem?_modify, hsocket]
      simp
    cases hconnected : socket.connected with
    | true =>
      refine .joined _ hjoined ?_
      rw [rooms_markConversationJoined]
      exact mem_join_self hconnected
    | false =>
      refine .gone _ hjoined ?_
      rwa [connected_markConversationJoined, connected_join]

/-- A task that has ended stays as it is. -/
theorem mem_tasks_of_ended {task : GatewayTask}
    (hended : ∀ db sockets input next, ¬ TaskMove env config db sockets input task next)
    (hmem : task ∈ gateway.tasks) (hstep : gatewayStep env config gateway event = some gateway') :
    task ∈ gateway'.tasks := by
  cases gatewayStep_cases hstep with
  | outside event sockets new hevent hnew => exact List.mem_append_left _ hmem
  | task index input task' next htask hmove =>
    rcases mem_set_of_mem next.task hmem with hsame | hself
    · exact List.mem_append_left _ hsame
    · cases htask.symm.trans hself
      exact absurd hmove (hended _ _ _ _)

/-- What was received stays received, as long as the client's leave is not. -/
theorem JoinReceived.step (h : JoinReceived gateway client conversationId)
    (hclient : ∃ socket, gateway.sockets[client]? = some socket)
    (hstep : gatewayStep env config gateway event = some gateway')
    (hevent : event ≠ .receive client (.leaveConversation conversationId)) :
    JoinReceived gateway' client conversationId := by
  have hsame : ∀ socket, gateway.sockets[client]? = some socket →
      ∃ socket', gateway.sockets[client]? = some socket' ∧
        KeepsRoom conversationId socket socket' :=
    fun socket hsocket => ⟨socket, hsocket, KeepsRoom.refl socket⟩
  obtain ⟨⟨gateway'', deliveries⟩, hnext, rfl⟩ := Option.map_eq_some_iff.mp hstep
  cases gatewayNext_cases hnext with
  | connected user =>
    refine h.mono (fun _ htask => htask) fun socket hsocket =>
      ⟨socket, ?_, KeepsRoom.refl socket⟩
    have hlt : client < gateway.sockets.length := (List.getElem?_eq_some_iff.mp hsocket).1
    show (gateway.sockets ++ [_])[client]? = some socket
    rw [List.getElem?_append_left hlt, hsocket]
  | disconnected index =>
    exact h.mono (fun _ htask => htask) fun socket hsocket =>
      socket_modify KeepsRoom.refl (fun _ socket => ⟨fun _ => connected_handleDisconnect socket,
        fun _ => .inr (connected_handleDisconnect socket)⟩) hsocket
  | left index s =>
    refine h.mono (fun _ htask => htask) fun socket hsocket =>
      socket_modify (f := (·.leaveConversation s)) KeepsRoom.refl
        (fun hindex socket => ⟨id, fun hroom => .inl ?_⟩) hsocket
    -- the leave is of another conversation
    have hne : s ≠ conversationId := fun heq => hevent (by rw [hindex, heq])
    exact mem_leaveConversation_of_ne hne hroom
  | received | requested | confirmed =>
    exact h.mono (fun _ htask => List.mem_append_left _ htask) hsame
  | stepped index input task next htask htaken =>
    have hself : next.task ∈ gateway.tasks.set index next.task ++ next.spawned :=
      List.mem_append_left _
        (List.mem_set (List.getElem?_eq_some_iff.mp htask).1 next.task)
    have hsockets : ∀ socket, gateway.sockets[client]? = some socket →
        ∃ socket', next.sockets[client]? = some socket' ∧
          KeepsRoom conversationId socket socket' :=
      fun socket hsocket => keepsRoom_taskEffect (taskStep_effect htaken) hsocket
    cases h with
    | joining pc hpc hold =>
      rcases mem_set_of_mem next.task hold with hkept | hself'
      · exact .joining pc hpc (List.mem_append_left _ hkept)
      · cases htask.symm.trans hself'
        obtain ⟨socket, hsocket⟩ := hclient
        exact joinReceived_of_taskMove hsocket (taskStep_cases htaken) hself
    | refused error hold =>
      rcases mem_set_of_mem next.task hold with hkept | hself'
      · exact .refused error (List.mem_append_left _ hkept)
      · cases htask.symm.trans hself'
        cases htaken
    | joined socket hsocket hroom =>
      obtain ⟨socket', hsocket', -, hkeep⟩ := hsockets socket hsocket
      cases hkeep hroom with
      | inl hroom' => exact .joined socket' hsocket' hroom'
      | inr hgone => exact .gone socket' hsocket' hgone
    | gone socket hsocket hgone =>
      obtain ⟨socket', hsocket', hkeep, -⟩ := hsockets socket hsocket
      exact .gone socket' hsocket' (hkeep hgone)

/-- Sockets stay in the list when they are gone. -/
theorem length_sockets_gatewayStep (hstep : gatewayStep env config gateway event = some gateway') :
    gateway.sockets.length ≤ gateway'.sockets.length := by
  obtain ⟨⟨gateway'', deliveries⟩, hnext, rfl⟩ := Option.map_eq_some_iff.mp hstep
  cases gatewayNext_cases hnext with
  | connected | disconnected | left => simp
  | received | requested | confirmed => exact le_rfl
  | stepped index input task next htask htaken =>
    have husers := users_taskEffect (taskStep_effect htaken)
    have hlength := congrArg List.length husers
    rw [List.length_map, List.length_map] at hlength
    exact hlength.ge

end Gateway

/-! ## The client and the gateway -/

/-- What the socket has sent, on the wire or kept for the next connection. -/
def unreceived (system : SocketSystem) (socket : ClientSocket) : List ClientEvent :=
  system.inFlight ++ socket.sendBuffer

/-- What holds between the steps of a client and the gateway. -/
structure SubscriptionInv (system : SocketSystem) : Prop where
  /-- calls wait only for a socket that is not connected -/
  waits : (∀ socket, system.service.socket = some socket → socket.connected = true) →
    system.service.waiting = []
  /-- and they lead back to the active conversation -/
  waiting : ∀ conversationId, system.service.activeConversationId = some conversationId →
    Rejoined conversationId system.service.waiting
  buffer : ∀ socket, system.service.socket = some socket → socket.connected = true →
    socket.pingExpired = false → socket.sendBuffer = []
  client : ∀ client, system.client = some client → client < system.gateway.sockets.length
  up : ∀ socket, system.service.socket = some socket → socket.connected = true →
    ∃ client, system.client = some client ∧
      ∀ conversationId, system.service.activeConversationId = some conversationId →
        Rejoined conversationId (unreceived system socket) ∧
          (.joinConversation conversationId ∈ unreceived system socket ∨
            JoinReceived system.gateway client conversationId)
  shown : system.service.connectionState = .connected ↔
    ∃ socket, system.service.socket = some socket ∧ socket.connected = true

section System

variable {env : BackendEnv} {config : AiConfig} {system system' : SocketSystem}

theorem subscriptionInv_start (db : ChatDb) : SubscriptionInv (.start db) where
  waits _ := rfl
  waiting _ hactive := by cases hactive
  buffer _ hsocket := by cases hsocket
  client _ hclient := by cases hclient
  up _ hsocket := by cases hsocket
  shown := by
    constructor
    · intro hstate
      cases hstate
    · rintro ⟨socket, hsocket, -⟩
      cases hsocket

/-- A call sends an event, and with it the active conversation may change: to the one that it joins,
    or away from the one that it leaves. -/
theorem SubscriptionInv.emit (h : SubscriptionInv system) {active : Option JsString}
    {event : ClientEvent}
    (hactive : ∀ conversationId, active = some conversationId →
      event = .joinConversation conversationId ∨
        (system.service.activeConversationId = some conversationId ∧
          event ≠ .leaveConversation conversationId)) :
    SubscriptionInv { system with
      service := ({ system.service with activeConversationId := active }.emitWithAck event).1
      inFlight := system.inFlight ++
        ({ system.service with activeConversationId := active }.emitWithAck event).2 } := by
  obtain ⟨gateway, ⟨own, state, active', waiting⟩, client, inFlight⟩ := system
  rcases own with _ | ⟨connected, pingExpired, sendBuffer⟩
  · -- there is no socket: the call is refused
    have hwaiting : waiting = [] := h.waits fun socket heq => by cases heq
    subst hwaiting
    simp only [ChatSocketService.emitWithAck, List.append_nil]
    refine ⟨fun _ => rfl, fun _ _ => trivial, h.buffer, h.client, fun socket heq => ?_, h.shown⟩
    cases heq
  · cases connected with
    | false =>
      simp only [ChatSocketService.emitWithAck, Bool.false_eq_true, if_false, List.append_nil]
      refine ⟨fun hall => absurd (hall _ rfl) Bool.false_ne_true, fun conversationId heq => ?_,
        h.buffer, h.client, fun socket heq hup => ?_, h.shown⟩
      · rcases hactive conversationId heq with rfl | ⟨hsame, hevent⟩
        · exact rejoined_concat_join
        · exact (h.waiting conversationId hsame).concat hevent
      · cases heq
        cases hup
    | true =>
      have hwaiting : waiting = [] := h.waits fun socket heq => by cases heq; rfl
      subst hwaiting
      obtain ⟨index, hclient, hup⟩ := h.up _ rfl rfl
      -- on the wire or in the buffer, the event comes behind all others
      have hlast : ∀ conversationId, active = some conversationId →
          Rejoined conversationId (inFlight ++ sendBuffer ++ [event]) ∧
            (.joinConversation conversationId ∈ inFlight ++ sendBuffer ++ [event] ∨
              JoinReceived gateway index conversationId) := by
        intro conversationId heq
        rcases hactive conversationId heq with rfl | ⟨hsame, hevent⟩
        · exact ⟨rejoined_concat_join, .inl (List.mem_append_right _ List.mem_cons_self)⟩
        · obtain ⟨hrejoined, hjoin⟩ := hup conversationId hsame
          exact ⟨hrejoined.concat hevent, hjoin.imp_left (List.mem_append_left _)⟩
      cases pingExpired with
      | false =>
        have hbuffer : sendBuffer = [] := h.buffer _ rfl rfl rfl
        subst hbuffer
        simp only [ChatSocketService.emitWithAck, ClientSocket.emit, Bool.false_eq_true, if_false,
          if_true]
        refine ⟨fun _ => rfl, fun _ _ => trivial, h.buffer, h.client, fun socket heq _ => ?_,
          h.shown⟩
        cases heq
        refine ⟨index, hclient, fun conversationId hc => ?_⟩
        simpa only [unreceived, List.append_nil] using hlast conversationId hc
      | true =>
        simp only [ChatSocketService.emitWithAck, ClientSocket.emit, if_true, List.append_nil]
        refine ⟨fun _ => rfl, fun _ _ => trivial, fun socket heq _ hping => ?_, h.client,
          fun socket heq _ => ?_, ?_⟩
        · cases heq
          cases hping
        · cases heq
          refine ⟨index, hclient, fun conversationId hc => ?_⟩
          simpa only [unreceived, List.append_assoc] using hlast conversationId hc
        · exact h.shown.trans ⟨fun _ => ⟨_, rfl, rfl⟩, fun _ => ⟨_, rfl, rfl⟩⟩

/-- A call of the page but `disconnect`. -/
theorem SubscriptionInv.call (h : SubscriptionInv system) {call : SocketCall}
    (hcall : call ≠ .disconnect) :
    SubscriptionInv { system with
      service := (system.service.call call).1
      inFlight := system.inFlight ++ (system.service.call call).2 } := by
  -- an event that neither joins nor leaves
  have hplain : ∀ event : ClientEvent, (∀ s, event ≠ .leaveConversation s) →
      SubscriptionInv { system with
        service := (system.service.emitWithAck event).1
        inFlight := system.inFlight ++ (system.service.emitWithAck event).2 } :=
    fun event hevent => h.emit fun s heq => .inr ⟨heq, hevent s⟩
  cases call with
  | connect =>
    obtain ⟨gateway, ⟨own, state, active, waiting⟩, client, inFlight⟩ := system
    simp only [ChatSocketService.call, List.append_nil]
    cases own with
    | some socket => exact h
    | none =>
      have hwaiting : waiting = [] := h.waits fun socket heq => by cases heq
      subst hwaiting
      refine ⟨fun _ => rfl, fun _ _ => trivial, fun socket heq hup => ?_, h.client,
        fun socket heq hup => ?_, ⟨fun hstate => ?_, ?_⟩⟩
      · cases heq
        cases hup
      · cases heq
        cases hup
      · cases hstate
      · rintro ⟨socket, heq, hup⟩
        cases heq
        cases hup
  | disconnect => exact absurd rfl hcall
  | joinConversation s => exact h.emit fun s' heq => .inl (by cases heq; rfl)
  | leaveConversation s =>
    simp only [ChatSocketService.call, ChatSocketService.leaveConversation]
    split
    · exact h.emit fun s' heq => by cases heq
    · rename_i hne
      refine h.emit fun s' heq => .inr ⟨heq, fun hleave => hne ?_⟩
      cases hleave
      exact heq
  | sendMessage s content attachmentId => exact hplain _ fun s heq => by cases heq
  | markConversationRead s => exact hplain _ fun s heq => by cases heq
  | updateTypingPresence s isTyping => exact hplain _ fun s heq => by cases heq

/-- Without a connection there is little to keep. -/
theorem SubscriptionInv.of_down {service : ChatSocketService} {gateway : ChatGateway}
    {client : Option Nat} {inFlight : List ClientEvent}
    (hwaits : service.socket = none → service.waiting = [])
    (hwaiting : ∀ conversationId, service.activeConversationId = some conversationId →
      Rejoined conversationId service.waiting)
    (hclient : ∀ index, client = some index → index < gateway.sockets.length)
    (hdown : ∀ socket, service.socket = some socket → socket.connected = false)
    (hshown : service.connectionState ≠ .connected) :
    SubscriptionInv ⟨gateway, service, client, inFlight⟩ := by
  have hup : ∀ socket, service.socket = some socket → socket.connected ≠ true := by
    intro socket heq htrue
    exact Bool.false_ne_true ((hdown socket heq).symm.trans htrue)
  -- the service is not connected, so the fields about a connection hold for nothing
  refine ⟨fun hall => ?_, hwaiting, fun socket heq htrue => absurd htrue (hup socket heq), hclient,
    fun socket heq htrue => absurd htrue (hup socket heq), ⟨fun hstate => absurd hstate hshown, ?_⟩⟩
  · cases hsocket : service.socket with
    | none => exact hwaits hsocket
    | some socket => exact absurd (hall socket hsocket) (hup socket hsocket)
  · rintro ⟨socket, heq, htrue⟩
    exact absurd htrue (hup socket heq)

/-- The socket gets connected. -/
theorem SubscriptionInv.onConnect (h : SubscriptionInv system) {socket : ClientSocket} {index : Nat}
    (hclient : system.client = some index) :
    SubscriptionInv { system with
      service := (system.service.onConnect socket).1
      inFlight := (system.service.onConnect socket).2 } := by
  obtain ⟨gateway, ⟨own, state, active, waiting⟩, client, inFlight⟩ := system
  cases active with
  | none =>
    refine ⟨fun _ => rfl, fun _ heq => ?_, fun other heq _ _ => ?_, h.client, fun other heq _ => ?_,
      ⟨fun _ => ⟨_, rfl, rfl⟩, fun _ => rfl⟩⟩
    · cases heq
    · cases heq
      rfl
    · exact ⟨index, hclient, fun _ heq => by cases heq⟩
  | some conversationId =>
    refine ⟨fun _ => rfl, fun _ _ => trivial, fun other heq _ _ => ?_, h.client,
      fun other heq _ => ?_, ⟨fun _ => ⟨_, rfl, rfl⟩, fun _ => rfl⟩⟩
    · cases heq
      rfl
    · cases heq
      refine ⟨index, hclient, fun s heq => ?_⟩
      cases heq
      -- what was kept, the join of the active conversation, then the calls that waited
      have hsent :
          (ChatSocketService.onConnect ⟨own, state, some conversationId, waiting⟩ socket).2 =
            socket.sendBuffer ++ (.joinConversation conversationId :: waiting) := by
        simp [ChatSocketService.onConnect, ChatSocketService.joinConversation,
          ChatSocketService.emitWithAck, ClientSocket.emit]
      simp only [unreceived, hsent, List.append_nil]
      refine ⟨rejoined_append ⟨fun heq => ?_, h.waiting conversationId rfl⟩ List.mem_cons_self,
        .inl (List.mem_append_right _ List.mem_cons_self)⟩
      cases heq

/-- The gateway takes a step that is not this client's leave of its active conversation. -/
theorem SubscriptionInv.gateway (h : SubscriptionInv system) {gateway' : ChatGateway}
    {event : GatewayEvent} (hstep : gatewayStep env config system.gateway event = some gateway')
    (hevent : ∀ client s, system.client = some client →
      event ≠ .receive client (.leaveConversation s)) :
    SubscriptionInv { system with gateway := gateway' } := by
  refine ⟨h.waits, h.waiting, h.buffer, fun client heq => ?_, fun socket heq hup => ?_, h.shown⟩
  · exact (h.client client heq).trans_le (length_sockets_gatewayStep hstep)
  · obtain ⟨client, hclient, hactive⟩ := h.up socket heq hup
    have hexists := List.getElem?_eq_getElem (h.client client hclient)
    refine ⟨client, hclient, fun s hs => ?_⟩
    obtain ⟨hrejoined, hjoin⟩ := hactive s hs
    exact ⟨hrejoined, hjoin.imp_right fun hreceived =>
      hreceived.step ⟨_, hexists⟩ hstep (hevent client s hclient)⟩

/-- The gateway receives the oldest event of the client. -/
theorem SubscriptionInv.receive (h : SubscriptionInv system) {gateway' : ChatGateway} {client : Nat}
    {event : ClientEvent} {rest : List ClientEvent} (hclient : system.client = some client)
    (hsent : system.inFlight = event :: rest)
    (hstep : gatewayStep env config system.gateway (.receive client event) = some gateway') :
    SubscriptionInv { system with gateway := gateway', inFlight := rest } := by
  -- only what is under way gets less
  refine ⟨h.waits, h.waiting, h.buffer, fun index heq => ?_, fun socket heq hup => ?_, h.shown⟩
  · exact (h.client index heq).trans_le (length_sockets_gatewayStep hstep)
  · -- the event that arrives may be the join of the active conversation
    obtain ⟨index, hindex, hactive⟩ := h.up socket heq hup
    cases hclient.symm.trans hindex
    refine ⟨client, hclient, fun s hs => ?_⟩
    obtain ⟨hrejoined, hjoin⟩ := hactive s hs
    rw [unreceived, hsent, List.cons_append] at hrejoined hjoin
    refine ⟨hrejoined.2, ?_⟩
    by_cases hleave : event = .leaveConversation s
    · -- the join that follows is still under way
      exact .inl (hrejoined.1 hleave)
    · have hexists := List.getElem?_eq_getElem (h.client client hclient)
      rcases hjoin with hmem | hreceived
      · rcases List.mem_cons.mp hmem with rfl | hrest
        · -- it has just arrived
          refine .inr (.joining .checking (.inl rfl) ?_)
          obtain ⟨⟨gateway'', deliveries⟩, hnext, rfl⟩ := Option.map_eq_some_iff.mp hstep
          simp only [gatewayNext, hexists] at hnext
          split at hnext
          · cases hnext
            exact List.mem_append_right _ List.mem_cons_self
          · cases hnext
        · exact .inl hrest
      · -- the join had arrived before
        refine .inr (hreceived.step ⟨_, hexists⟩ hstep fun heq => hleave ?_)
        cases heq
        rfl

/-- Every step keeps it. -/
theorem SubscriptionInv.step (h : SubscriptionInv system) {event : SocketSystemEvent}
    (hstep : socketSystemStep env config system event = some system') :
    SubscriptionInv system' := by
  cases event with
  | call call =>
    -- after `disconnect` there is no socket
    by_cases hcall : call = .disconnect
    · subst hcall
      cases hstep
      exact .of_down (fun _ => rfl) (fun _ _ => trivial) (fun _ heq => by cases heq)
        (fun _ heq => by cases heq)
        (by simp [ChatSocketService.disconnect, ChatSocketService.start])
    · have heq : socketSystemStep env config system (.call call) = some { system with
          service := (system.service.call call).1
          inFlight := system.inFlight ++ (system.service.call call).2 } := by
        cases call with
        | disconnect => exact absurd rfl hcall
        | _ => rfl
      cases heq.symm.trans hstep
      exact h.call hcall
  | accept user =>
    simp only [socketSystemStep] at hstep
    split at hstep
    · -- the socket was waiting for the connection
      rename_i hsocket
      obtain ⟨gateway', hgateway, rfl⟩ := Option.map_eq_some_iff.mp hstep
      refine .of_down (fun heq => ?_) h.waiting (fun index heq => ?_) (fun other heq => ?_)
        fun hstate => ?_
      · cases hsocket.symm.trans heq
      · cases heq
        cases hgateway
        simp
      · cases hsocket.symm.trans heq
        rfl
      · obtain ⟨other, heq, hup⟩ := h.shown.mp hstate
        cases hsocket.symm.trans heq
        cases hup
    · cases hstep
  | connect =>
    simp only [socketSystemStep] at hstep
    split at hstep
    · rename_i hclient
      cases hstep
      -- on connection the active conversation is joined again
      exact h.onConnect hclient
    · cases hstep
  | receive =>
    simp only [socketSystemStep] at hstep
    split at hstep
    · rename_i hclient hsent
      obtain ⟨gateway', hgateway, rfl⟩ := Option.map_eq_some_iff.mp hstep
      exact h.receive hclient hsent hgateway
    · cases hstep
  | pingExpired =>
    simp only [socketSystemStep] at hstep
    split at hstep
    · -- the connection counts as up until the client closes it
      rename_i expired sendBuffer hsocket
      cases hstep
      obtain ⟨client, hclient, hactive⟩ := h.up _ hsocket rfl
      refine ⟨fun _ => h.waits fun other heq => ?_, h.waiting, fun other heq _ hping => ?_,
        h.client, fun other heq _ => ?_,
        h.shown.trans ⟨fun _ => ⟨_, rfl, rfl⟩, fun _ => ⟨_, hsocket, rfl⟩⟩⟩
      · cases hsocket.symm.trans heq
        rfl
      · cases heq
        cases hping
      · cases heq
        exact ⟨client, hclient, hactive⟩
    · cases hstep
  | disconnect =>
    simp only [socketSystemStep] at hstep
    split at hstep
    · -- the waiting calls are rejected with the connection
      cases hstep
      refine .of_down (fun heq => ?_) (fun _ _ => trivial) (fun _ heq => ?_)
        (fun other heq => ?_) ?_
      · cases heq
      · cases heq
      · cases heq
        rfl
      · simp [ChatSocketService.onDisconnect]
    · cases hstep
  | reconnectAttempt =>
    simp only [socketSystemStep] at hstep
    split at hstep
    · rename_i hsocket
      cases hstep
      refine .of_down (fun heq => ?_) h.waiting h.client (fun other heq => ?_) ?_
      · cases hsocket.symm.trans heq
      · cases hsocket.symm.trans heq
        rfl
      · simp [ChatSocketService.onReconnectAttempt]
    · cases hstep
  | connectError active =>
    simp only [socketSystemStep] at hstep
    split at hstep
    · rename_i hsocket
      cases hstep
      refine .of_down (fun heq => ?_) (fun _ _ => trivial) (fun _ heq => ?_)
        (fun other heq => ?_) ?_
      · cases hsocket.symm.trans heq
      · cases heq
      · cases hsocket.symm.trans heq
        rfl
      · cases active <;> simp [ChatSocketService.onConnectError]
    · cases hstep
  | statusChanged =>
    simp only [socketSystemStep] at hstep
    split at hstep
    · rename_i hsocket
      cases hstep
      exact ⟨h.waits, h.waiting, h.buffer, h.client, h.up,
        ⟨fun _ => ⟨_, hsocket, rfl⟩, fun _ => rfl⟩⟩
    · cases hstep
  -- the oldest call that waits gives up
  | waitTimeout =>
    cases hstep
    refine ⟨fun hall => ?_, fun s hs => (h.waiting s hs).tail, h.buffer, h.client, h.up, h.shown⟩
    show system.service.waiting.tail = []
    rw [h.waits hall]
    rfl
  -- the acknowledgement never comes, and the socket is thrown away
  | ackTimeout =>
    simp only [socketSystemStep] at hstep
    split at hstep
    · rename_i hsocket
      cases hstep
      refine .of_down (fun heq => ?_) h.waiting h.client (fun other heq => ?_) fun hstate => ?_
      · cases heq
      · cases heq
        rfl
      · obtain ⟨other, heq, hup⟩ := h.shown.mp hstate
        cases hsocket.symm.trans heq
        cases hup
    · cases hstep
  | gateway event =>
    simp only [socketSystemStep] at hstep
    split at hstep
    · -- an event that the client has not made itself
      cases hstep
    · rename_i hforges
      obtain ⟨gateway', hgateway, rfl⟩ := Option.map_eq_some_iff.mp hstep
      refine h.gateway hgateway fun client s hclient heq => hforges ?_
      rw [heq]
      exact decide_eq_true hclient

end System

/-! ## The rooms of a socket -/

/-- Every socket is only in rooms of conversations that it has joined itself, and was let in to. -/
def RoomsAccepted (gateway : ChatGateway) : Prop :=
  ∀ client socket conversationId, gateway.sockets[client]? = some socket →
    getConversationRoom conversationId ∈ socket.rooms →
      .joinConversation client conversationId .returned ∈ gateway.tasks

section Rooms

variable {env : BackendEnv} {config : AiConfig} {gateway gateway' : ChatGateway}
  {event : GatewayEvent}

/-- Tasks are only added, and a socket gets into no room. -/
theorem RoomsAccepted.mono (h : RoomsAccepted gateway)
    (htasks : ∀ task ∈ gateway.tasks, task ∈ gateway'.tasks)
    (hsockets : ∀ (client : Nat) (socket' : ChatSocket) (conversationId : JsString),
      gateway'.sockets[client]? = some socket' →
        getConversationRoom conversationId ∈ socket'.rooms →
          ∃ socket, gateway.sockets[client]? = some socket ∧
            getConversationRoom conversationId ∈ socket.rooms) : RoomsAccepted gateway' := by
  intro client socket' conversationId hsocket' hroom
  obtain ⟨socket, hsocket, hroom⟩ := hsockets client socket' conversationId hsocket' hroom
  exact htasks _ (h client socket conversationId hsocket hroom)

/-- An update of a socket that gets it into no room. -/
theorem room_of_modify {sockets : List ChatSocket} {index client : Nat}
    {f : ChatSocket → ChatSocket} {socket' : ChatSocket} {room : JsString}
    (hf : ∀ socket : ChatSocket, room ∈ (f socket).rooms → room ∈ socket.rooms)
    (hsocket : (sockets.modify index f)[client]? = some socket') (hroom : room ∈ socket'.rooms) :
    ∃ socket, sockets[client]? = some socket ∧ room ∈ socket.rooms := by
  rw [List.getElem?_modify] at hsocket
  obtain ⟨socket, hget, heq⟩ := Option.map_eq_some_iff.mp hsocket
  refine ⟨socket, hget, ?_⟩
  rw [← heq] at hroom
  split at hroom
  · exact hf socket hroom
  · exact hroom

theorem RoomsAccepted.step (h : RoomsAccepted gateway)
    (hstep : gatewayStep env config gateway event = some gateway') : RoomsAccepted gateway' := by
  obtain ⟨⟨gateway'', deliveries⟩, hnext, rfl⟩ := Option.map_eq_some_iff.mp hstep
  cases gatewayNext_cases hnext with
  | connected user =>
    refine h.mono (fun _ htask => htask) fun client socket' s hsocket hroom => ?_
    rcases getElem?_concat_eq_some.mp hsocket with ⟨-, rfl⟩ | hold
    · -- a new socket is in its user's room only
      exact absurd (List.mem_singleton.mp hroom) (getConversationRoom_ne_getUserRoom s _)
    · exact ⟨socket', hold, hroom⟩
  -- a socket that goes leaves all rooms
  | disconnected index =>
    refine h.mono (fun _ htask => htask) fun client socket' s hsocket hroom =>
      room_of_modify (fun socket hin => ?_) hsocket hroom
    rw [(handleDisconnect_spec socket).2] at hin
    exact absurd hin List.not_mem_nil
  | left index s =>
    exact h.mono (fun _ htask => htask) fun client socket' s hsocket hroom =>
      room_of_modify (fun _ hin => mem_rooms_leaveConversation hin) hsocket hroom
  | received | requested | confirmed =>
    exact h.mono (fun _ htask => List.mem_append_left _ htask)
      fun client socket' s hsocket hroom => ⟨socket', hsocket, hroom⟩
  -- a step of a task lets a socket in only when it ends a join
  | stepped index input task next htask htaken =>
    have hkept : ∀ client s, .joinConversation client s .returned ∈ gateway.tasks →
        .joinConversation client s .returned ∈
          gateway.tasks.set index next.task ++ next.spawned :=
      fun client s hold => mem_tasks_of_ended (fun _ _ _ _ hmove => by cases hmove) hold hstep
    intro client socket' s hsocket hroom
    cases taskStep_effect htaken with
    | joined client' s' =>
      -- the join of this room, or one of another room or socket
      by_cases hsame : client' = client ∧ s' = s
      · obtain ⟨rfl, rfl⟩ := hsame
        exact List.mem_append_left _ (List.mem_set (List.getElem?_eq_some_iff.mp htask).1 _)
      · refine hkept client s ?_
        change (gateway.sockets.modify client' _)[client]? = some socket' at hsocket
        rw [List.getElem?_modify] at hsocket
        obtain ⟨socket, hget, heq⟩ := Option.map_eq_some_iff.mp hsocket
        refine h client socket s hget ?_
        rw [← heq] at hroom
        split at hroom
        · rename_i hclient
          rw [rooms_markConversationJoined] at hroom
          cases mem_rooms_join hroom with
          | inl hold => exact hold
          | inr hnew => exact absurd ⟨hclient, (getConversationRoom_injective hnew).symm⟩ hsame
        · exact hroom
      | _ => exact hkept client s (h client socket' s hsocket hroom)

end Rooms

/-! ## Runs -/

/-- Both ends have the connection, and nothing that was sent over it is still to be handled. -/
structure CaughtUp (system : SocketSystem) (client : Nat) (socket : ChatSocket) : Prop where
  index : system.client = some client
  found : system.gateway.sockets[client]? = some socket
  there : socket.connected = true
  connected : ∃ own, system.service.socket = some own ∧ own.connected = true ∧
    own.pingExpired = false
  received : system.inFlight = []
  handled : ∀ conversationId pc, .joinConversation client conversationId pc ∈ system.gateway.tasks →
    pc ≠ .checking ∧ pc ≠ .checked

/-- What a client can rely on. -/
structure Subscribed (system : SocketSystem) : Prop where
  /-- the active conversation is subscribed once the gateway has caught up, unless it refused -/
  active : ∀ client socket conversationId, CaughtUp system client socket →
    system.service.activeConversationId = some conversationId →
      getConversationRoom conversationId ∈ socket.rooms ∨
        ∃ error, .joinConversation client conversationId (.threw error) ∈ system.gateway.tasks
  /-- at any time, the rooms of the connection are those that it was let in to itself -/
  rooms : ∀ client socket conversationId, system.client = some client →
    system.gateway.sockets[client]? = some socket →
      getConversationRoom conversationId ∈ socket.rooms →
        .joinConversation client conversationId .returned ∈ system.gateway.tasks
  /-- the page is told that there is a connection when the socket has one -/
  shown : system.service.connectionState = .connected ↔
    ∃ socket, system.service.socket = some socket ∧ socket.connected = true

section Runs

variable {env : BackendEnv} {config : AiConfig} {system system' : SocketSystem} {db : ChatDb}
  {events : List SocketSystemEvent}

theorem subscriptionInv_of_run
    (hrun : run (socketSystemStep env config) (.start db) events = some system) :
    SubscriptionInv system :=
  run_invariant (fun _ _ _ h hstep => h.step hstep) (subscriptionInv_start db) hrun

/-- The gateway takes a step of its own in each step of the system, or none. -/
theorem gateway_of_socketSystemStep {event : SocketSystemEvent}
    (hstep : socketSystemStep env config system event = some system') :
    system'.gateway = system.gateway ∨
      ∃ event, gatewayStep env config system.gateway event = some system'.gateway := by
  cases event with
  -- the calls of the page do not reach the gateway
  | call call => cases call <;> cases hstep <;> exact .inl rfl
  | accept user =>
    simp only [socketSystemStep] at hstep
    split at hstep
    · obtain ⟨gateway', hgateway, rfl⟩ := Option.map_eq_some_iff.mp hstep
      exact .inr ⟨_, hgateway⟩
    · cases hstep
  | receive =>
    simp only [socketSystemStep] at hstep
    split at hstep
    · -- the oldest event under way arrives
      obtain ⟨gateway', hgateway, rfl⟩ := Option.map_eq_some_iff.mp hstep
      exact .inr ⟨_, hgateway⟩
    · cases hstep
  | gateway event =>
    simp only [socketSystemStep] at hstep
    split at hstep
    · cases hstep
    · obtain ⟨gateway', hgateway, rfl⟩ := Option.map_eq_some_iff.mp hstep
      exact .inr ⟨_, hgateway⟩
  | waitTimeout =>
    cases hstep
    exact .inl rfl
  | _ =>
    simp only [socketSystemStep] at hstep
    split at hstep
    · cases hstep
      exact .inl rfl
    · cases hstep

theorem roomsAccepted_of_run
    (hrun : run (socketSystemStep env config) (.start db) events = some system) :
    RoomsAccepted system.gateway := by
  have hkeep : ∀ system event system', RoomsAccepted system.gateway →
      socketSystemStep env config system event = some system' →
        RoomsAccepted system'.gateway := by
    intro system event system' h hstep
    rcases gateway_of_socketSystemStep hstep with heq | ⟨event, hgateway⟩
    · rwa [heq]
    · exact h.step hgateway
  refine run_invariant hkeep (fun client socket s hsocket => ?_) hrun
  cases hsocket

/-- Once the gateway has caught up, the active conversation is subscribed or was refused. -/
theorem SubscriptionInv.active (h : SubscriptionInv system) {client : Nat} {socket : ChatSocket}
    {conversationId : JsString} (hcaught : CaughtUp system client socket)
    (hactive : system.service.activeConversationId = some conversationId) :
    getConversationRoom conversationId ∈ socket.rooms ∨
      ∃ error, .joinConversation client conversationId (.threw error) ∈ system.gateway.tasks := by
  obtain ⟨own, hown, hconnected, hping⟩ := hcaught.connected
  obtain ⟨index, hindex, hup⟩ := h.up own hown hconnected
  cases hcaught.index.symm.trans hindex
  -- nothing of the client is under way, so the join has been received
  have hnothing : unreceived system own = [] := by
    rw [unreceived, hcaught.received, h.buffer own hown hconnected hping]
    rfl
  rcases (hup conversationId hactive).2 with hmem | hreceived
  · rw [hnothing] at hmem
    exact absurd hmem List.not_mem_nil
  · cases hreceived with
    -- the handler of a join has come to its end
    | joining pc hpc htask =>
      obtain ⟨hchecking, hchecked⟩ := hcaught.handled conversationId pc htask
      exact (hpc.elim hchecking hchecked).elim
    | refused error htask => exact .inr ⟨error, htask⟩
    | joined socket' hsocket' hroom =>
      cases hcaught.found.symm.trans hsocket'
      exact .inl hroom
    -- a connection that is there is not gone
    | gone socket' hsocket' hgone =>
      cases hcaught.found.symm.trans hsocket'
      exact absurd (hgone.symm.trans hcaught.there) Bool.false_ne_true

/-- In every run of a client and a gateway with any other clients: losses, new connections, calls
    and handlers in any order. -/
theorem subscribed_of_run
    (hrun : run (socketSystemStep env config) (.start db) events = some system) :
    Subscribed system where
  active _ _ _ := (subscriptionInv_of_run hrun).active
  rooms client socket conversationId _ := roomsAccepted_of_run hrun client socket conversationId
  shown := (subscriptionInv_of_run hrun).shown

end Runs

/-- User 2 opens the group and loses the connection; what it asks for next waits. -/
def lostEvents : List SocketSystemEvent :=
  .gateway (.request createGroup.call) :: (taskSteps 0 createGroup.inputs).map .gateway ++
    [.call .connect, .accept (digitId 2), .connect, .statusChanged,
      .call (.joinConversation (digitId 3).toString), .receive] ++
    (taskSteps 1 (plainInputs 2 5 (digitId 0))).map .gateway ++
    [.disconnect, .reconnectAttempt, .call (.updateTypingPresence (digitId 3).toString true),
      .gateway (.disconnect 0), .accept (digitId 2), .connect]

/-- The gateway receives what the client sends over its new connection. -/
def caughtUpEvents : List SocketSystemEvent :=
  lostEvents ++ [.receive, .receive] ++ (taskSteps 2 (plainInputs 2 7 (digitId 0))).map .gateway

/-- The second connection of user 2 is in the room again, as its second task. -/
theorem subscribed_of_run_reconnected : ∃ system,
    run (socketSystemStep plainEnv noAi) (.start (ChatDb.start [])) caughtUpEvents = some system ∧
      system.gateway.sockets[1]? = some ⟨digitId 2, [getUserRoom (digitId 2).toString,
        getConversationRoom (digitId 3).toString], [(digitId 3).toString], true⟩ ∧
      Subscribed system := by
  have hsocket : ((run (socketSystemStep plainEnv noAi) (.start (ChatDb.start []))
      caughtUpEvents).map fun system => system.gateway.sockets[1]?) =
        some (some ⟨digitId 2, [getUserRoom (digitId 2).toString,
          getConversationRoom (digitId 3).toString], [(digitId 3).toString], true⟩) := by
    decide +kernel
  obtain ⟨system, hrun, hfound⟩ := Option.map_eq_some_iff.mp hsocket
  exact ⟨system, hrun, hfound, subscribed_of_run hrun⟩

/-! ## Catching up -/

/-- The gateway gets from one state to the other by what it has to do anyway: it receives what the
    client has sent, and its handlers go on. -/
def GatewayGoesOn (env : BackendEnv) (config : AiConfig) (input : GatewayInput)
    (system system' : SocketSystem) : Prop :=
  system'.service = system.service ∧ system'.client = system.client ∧
    ∃ events, (∀ event ∈ events, event = .receive ∨ ∃ index, event = .gateway (.step index input)) ∧
      run (socketSystemStep env config) system events = some system'

section Settling

variable {env : BackendEnv} {config : AiConfig} {input : GatewayInput}
  {system system' system'' : SocketSystem} {gateway : ChatGateway} {client index : Nat}
  {socket : ChatSocket} {s : JsString}

theorem GatewayGoesOn.refl (system : SocketSystem) : GatewayGoesOn env config input system system :=
  ⟨rfl, rfl, [], fun _ hmem => absurd hmem List.not_mem_nil, rfl⟩

theorem GatewayGoesOn.trans (h : GatewayGoesOn env config input system system')
    (h' : GatewayGoesOn env config input system' system'') :
    GatewayGoesOn env config input system system'' := by
  obtain ⟨hservice, hclient, events, hevents, hrun⟩ := h
  obtain ⟨hservice', hclient', events', hevents', hrun'⟩ := h'
  refine ⟨hservice'.trans hservice, hclient'.trans hclient, events ++ events', fun event hmem => ?_,
    run_append_eq_some.mpr ⟨system', hrun, hrun'⟩⟩
  exact (List.mem_append.mp hmem).elim (hevents event) (hevents' event)

/-- A step of a task. -/
theorem goesOn_step {gateway' : ChatGateway}
    (hstep : gatewayStep env config system.gateway (.step index input) = some gateway') :
    GatewayGoesOn env config input system { system with gateway := gateway' } := by
  refine ⟨rfl, rfl, [.gateway (.step index input)], fun event hmem => .inr ⟨index, ?_⟩, ?_⟩
  · exact List.mem_singleton.mp hmem
  · simp [run, socketSystemStep, SocketSystem.forges, hstep]

/-- An event but a leave starts a task. -/
theorem receive_eq_of_ne (hsocket : gateway.sockets[client]? = some socket)
    (hthere : socket.connected = true) {event : ClientEvent}
    (hevent : ∀ s, event ≠ .leaveConversation s) :
    gatewayStep env config gateway (.receive client event) =
      some { gateway with tasks := gateway.tasks ++ (clientTask client socket event).toList } := by
  cases event with
  | leaveConversation s => exact absurd rfl (hevent s)
  | _ => simp [gatewayStep, gatewayNext, hsocket, hthere]

variable (env config) in
/-- A socket that is there can send. -/
theorem exists_receive (hsocket : gateway.sockets[client]? = some socket)
    (hthere : socket.connected = true) (event : ClientEvent) :
    ∃ gateway' socket', gatewayStep env config gateway (.receive client event) = some gateway' ∧
      gateway'.sockets[client]? = some socket' ∧ socket'.connected = true := by
  by_cases hleave : ∃ s, event = .leaveConversation s
  · obtain ⟨s, rfl⟩ := hleave
    refine ⟨{ gateway with sockets := gateway.sockets.modify client (·.leaveConversation s) },
      socket.leaveConversation s, ?_, ?_, hthere⟩
    · simp [gatewayStep, gatewayNext, hsocket, hthere]
    · simp [hsocket]
  · exact ⟨_, socket, receive_eq_of_ne hsocket hthere fun s heq => hleave ⟨s, heq⟩, hsocket, hthere⟩

variable (env config input) in
/-- The gateway can receive everything that is under way. -/
theorem exists_received (hclient : system.client = some client)
    (hsocket : system.gateway.sockets[client]? = some socket) (hthere : socket.connected = true) :
    ∃ system' socket', GatewayGoesOn env config input system system' ∧ system'.inFlight = [] ∧
      system'.gateway.sockets[client]? = some socket' ∧ socket'.connected = true := by
  -- by induction on what is under way
  induction hsent : system.inFlight generalizing system socket with
  | nil => exact ⟨system, socket, GatewayGoesOn.refl system, hsent, hsocket, hthere⟩
  | cons event rest ih =>
    obtain ⟨gateway', socket', hstep, hsocket', hthere'⟩ :=
      exists_receive env config hsocket hthere event
    -- the oldest event is received, then the rest
    have hfirst : GatewayGoesOn env config input system
        { system with gateway := gateway', inFlight := rest } := by
      refine ⟨rfl, rfl, [.receive], fun event hmem => .inl (List.mem_singleton.mp hmem), ?_⟩
      simp [run, socketSystemStep, hclient, hsent, hstep]
    obtain ⟨system', socket'', hgoes, hnothing, hfound⟩ :=
      @ih { system with gateway := gateway', inFlight := rest } socket' hclient hsocket' hthere' rfl
    exact ⟨system', socket'', hfirst.trans hgoes, hnothing, hfound⟩

/-- A task is not about to let the client in or to refuse it. -/
def Idle (client : Nat) (task : GatewayTask) : Prop :=
  ∀ s pc, task = .joinConversation client s pc → pc ≠ .checking ∧ pc ≠ .checked

/-- The gateway can bring one of its tasks to an end as far as it lets the client in. -/
structure IdleAt (env : BackendEnv) (config : AiConfig) (input : GatewayInput) (client index : Nat)
    (system system' : SocketSystem) : Prop where
  goesOn : GatewayGoesOn env config input system system'
  inFlight : system'.inFlight = system.inFlight
  found : ∃ socket, system'.gateway.sockets[client]? = some socket ∧ socket.connected = true
  others : ∀ i, i ≠ index → system'.gateway.tasks[i]? = system.gateway.tasks[i]?
  self : ∀ task, system'.gateway.tasks[index]? = some task → Idle client task

/-- A step of the task that leaves it idle. -/
theorem idleAt_of_step {gateway' : ChatGateway} {task : GatewayTask}
    (hstep : gatewayStep env config system.gateway (.step index input) = some gateway')
    (htasks : gateway'.tasks = system.gateway.tasks.set index task) (hidle : Idle client task)
    (hfound : ∃ socket, gateway'.sockets[client]? = some socket ∧ socket.connected = true) :
    IdleAt env config input client index system { system with gateway := gateway' } := by
  -- the step is about this task alone
  refine ⟨goesOn_step hstep, rfl, hfound, fun i hne => ?_, fun task' hself => ?_⟩
  · show gateway'.tasks[i]? = _
    rw [htasks, List.getElem?_set_ne (Ne.symm hne)]
  · change gateway'.tasks[index]? = some task' at hself
    rw [htasks] at hself
    rcases List.mem_or_eq_of_mem_set (List.mem_of_getElem? hself) with _ | rfl
    · have hlt : index < system.gateway.tasks.length := by
        simpa using (List.getElem?_eq_some_iff.mp hself).1
      rw [List.getElem?_set_self hlt] at hself
      cases hself
      exact hidle
    · exact hidle

/-- The handler has checked: it lets the client in. -/
theorem exists_idleAt_checked (hsocket : system.gateway.sockets[client]? = some socket)
    (hthere : socket.connected = true)
    (htask : system.gateway.tasks[index]? = some (.joinConversation client s .checked)) :
    ∃ system', IdleAt env config input client index system system' := by
  have hstep : gatewayStep env config system.gateway (.step index input) =
      some ⟨system.gateway.db,
        system.gateway.sockets.modify client fun socket =>
          (socket.join (getConversationRoom s)).markConversationJoined s,
        system.gateway.tasks.set index (.joinConversation client s .returned)⟩ := by
    simp [gatewayStep, gatewayNext, htask, taskStep]
  -- the handler ends, and the socket is in the room
  refine ⟨_, idleAt_of_step hstep rfl ?_ ?_⟩
  · intro s' pc heq
    cases heq
    simp
  · refine ⟨(socket.join (getConversationRoom s)).markConversationJoined s, ?_, ?_⟩
    · simp [hsocket]
    · rwa [connected_markConversationJoined, connected_join]

variable (env config input index) in
/-- Whatever the task is. -/
theorem exists_idleAt (hsocket : system.gateway.sockets[client]? = some socket)
    (hthere : socket.connected = true) :
    ∃ system', IdleAt env config input client index system system' := by
  -- a join that has passed its check, one before it, or any other task
  by_cases hchecked : ∃ s, system.gateway.tasks[index]? = some (.joinConversation client s .checked)
  · obtain ⟨s, htask⟩ := hchecked
    exact exists_idleAt_checked hsocket hthere htask
  by_cases hchecking :
      ∃ s, system.gateway.tasks[index]? = some (.joinConversation client s .checking)
  · obtain ⟨s, htask⟩ := hchecking
    have hlt : index < system.gateway.tasks.length := (List.getElem?_eq_some_iff.mp htask).1
    obtain ⟨pc, hguard, hpc⟩ : ∃ pc,
        guardStep system.gateway.db system.gateway.sockets client s = some pc ∧ pc ≠ .checking := by
      simp only [guardStep, hsocket, Option.map_some]
      refine ⟨_, rfl, ?_⟩
      split <;> simp
    have hstep : gatewayStep env config system.gateway (.step index input) =
        some { system.gateway with
          tasks := system.gateway.tasks.set index (.joinConversation client s pc) } := by
      simp [gatewayStep, gatewayNext, htask, taskStep, hguard]
    -- the guard lets the client in, or refuses
    by_cases hpc' : pc = .checked
    · -- two steps
      subst hpc'
      obtain ⟨system', hidle⟩ : ∃ system', IdleAt env config input client index
          { system with gateway := { system.gateway with
            tasks := system.gateway.tasks.set index (.joinConversation client s .checked) } }
          system' :=
        exists_idleAt_checked hsocket hthere (List.getElem?_set_self hlt)
      refine ⟨system', (goesOn_step hstep).trans hidle.goesOn, hidle.inFlight, hidle.found,
        fun i hne => (hidle.others i hne).trans ?_, hidle.self⟩
      exact List.getElem?_set_ne (Ne.symm hne)
    · refine ⟨_, idleAt_of_step hstep rfl (fun s' pc' heq => ?_) ⟨socket, hsocket, hthere⟩⟩
      cases heq
      exact ⟨hpc, hpc'⟩
  · refine ⟨system, GatewayGoesOn.refl system, rfl, ⟨socket, hsocket, hthere⟩, fun _ _ => rfl,
      fun task htask s pc heq => ⟨?_, ?_⟩⟩
    · rintro rfl
      exact hchecking ⟨s, heq ▸ htask⟩
    · rintro rfl
      exact hchecked ⟨s, heq ▸ htask⟩

variable (env config input) in
/-- One task after the other. -/
theorem exists_idle (hsocket : system.gateway.sockets[client]? = some socket)
    (hthere : socket.connected = true) (count : Nat) :
    ∃ system', GatewayGoesOn env config input system system' ∧ system'.inFlight = system.inFlight ∧
      (∃ socket, system'.gateway.sockets[client]? = some socket ∧ socket.connected = true) ∧
      (∀ i, count ≤ i → system'.gateway.tasks[i]? = system.gateway.tasks[i]?) ∧
      ∀ i < count, ∀ task, system'.gateway.tasks[i]? = some task → Idle client task := by
  -- by induction on the number of tasks that are idle already
  induction count with
  | zero =>
    exact ⟨system, GatewayGoesOn.refl system, rfl, ⟨socket, hsocket, hthere⟩, fun _ _ => rfl,
      fun _ hlt => absurd hlt (Nat.not_lt_zero _)⟩
  | succ count ih =>
    obtain ⟨system', hgoes, hsent, ⟨socket', hsocket', hthere'⟩, hothers, hidle⟩ := ih
    obtain ⟨system'', hat⟩ := exists_idleAt env config input count hsocket' hthere'
    refine ⟨system'', hgoes.trans hat.goesOn, hat.inFlight.trans hsent, hat.found,
      fun i hle => (hat.others i (by omega)).trans (hothers i (by omega)),
      fun i hlt task htask => ?_⟩
    -- the new one is idle now, and the others still are
    by_cases heq : i = count
    · subst heq
      exact hat.self task htask
    · rw [hat.others i heq] at htask
      exact hidle i (by omega) task htask

/-- From every state of every run in which both ends have the connection, the gateway can catch up
    with its own steps alone: nothing is asked of the client.  Then the client is in the room of its
    active conversation, unless it was refused. -/
theorem subscription_settles {db : ChatDb} {events : List SocketSystemEvent} {own : ClientSocket}
    (hrun : run (socketSystemStep env config) (.start db) events = some system)
    (hclient : system.client = some client)
    (hsocket : system.gateway.sockets[client]? = some socket) (hthere : socket.connected = true)
    (hown : system.service.socket = some own) (hconnected : own.connected = true)
    (hping : own.pingExpired = false) (input : GatewayInput) :
    ∃ system' socket', GatewayGoesOn env config input system system' ∧
      CaughtUp system' client socket' ∧
        ∀ conversationId, system.service.activeConversationId = some conversationId →
          getConversationRoom conversationId ∈ socket'.rooms ∨
            ∃ error,
              .joinConversation client conversationId (.threw error) ∈ system'.gateway.tasks := by
  -- first everything under way is received, then every task is brought to its end
  obtain ⟨received, socket', hgoes, hnothing, hsocket', hthere'⟩ :=
    exists_received env config input hclient hsocket hthere
  obtain ⟨system', hgoes', hsent, ⟨socket'', hsocket'', hthere''⟩, hothers, hidle⟩ :=
    exists_idle env config input hsocket' hthere' received.gateway.tasks.length
  have hall := hgoes.trans hgoes'
  -- no event is under way and no join is being handled
  have hcaught : CaughtUp system' client socket'' := by
    refine ⟨hall.2.1.trans hclient, hsocket'', hthere'', ⟨own, ?_, hconnected, hping⟩,
      hsent.trans hnothing, fun s pc htask => ?_⟩
    · rw [hall.1]
      exact hown
    · obtain ⟨i, hi⟩ := List.mem_iff_getElem?.mp htask
      by_cases hlt : i < received.gateway.tasks.length
      · exact hidle i hlt _ hi s pc rfl
      · rw [hothers i (Nat.le_of_not_lt hlt), List.getElem?_eq_none (Nat.le_of_not_lt hlt)] at hi
        cases hi
  refine ⟨system', socket'', hall, hcaught, fun s hactive => ?_⟩
  have hactive' : system'.service.activeConversationId = some s := by rwa [hall.1]
  obtain ⟨-, -, events', -, hrun'⟩ := hall
  -- the invariant holds at the end of the longer run
  have hinv := subscriptionInv_of_run (run_append_eq_some.mpr ⟨system, hrun, hrun'⟩)
  exact hinv.active hcaught hactive'

end Settling

/-- Right after its second connection, user 2 is not in the room yet. -/
theorem subscription_settles_reconnected : ∃ system,
    run (socketSystemStep plainEnv noAi) (.start (ChatDb.start [])) lostEvents = some system ∧
      ∃ system' socket', GatewayGoesOn plainEnv noAi
          ⟨plainInput 7 (digitId 0) [], ⟨none, none⟩, none⟩ system system' ∧
        CaughtUp system' 1 socket' ∧
          ∀ conversationId, system.service.activeConversationId = some conversationId →
            getConversationRoom conversationId ∈ socket'.rooms ∨
              ∃ error,
                .joinConversation 1 conversationId (.threw error) ∈ system'.gateway.tasks := by
  -- the second socket is connected, and in the room of its user only
  have hends : ((run (socketSystemStep plainEnv noAi) (.start (ChatDb.start [])) lostEvents).map
      fun system => (system.client, system.gateway.sockets[1]?, system.service.socket)) =
        some (some 1, some ⟨digitId 2, [getUserRoom (digitId 2).toString], [], true⟩,
          some ⟨true, false, []⟩) := by decide +kernel
  obtain ⟨system, hrun, heq⟩ := Option.map_eq_some_iff.mp hends
  obtain ⟨hclient, hsocket, hown⟩ : system.client = some 1 ∧
      system.gateway.sockets[1]? =
        some ⟨digitId 2, [getUserRoom (digitId 2).toString], [], true⟩ ∧
      system.service.socket = some ⟨true, false, []⟩ :=
    ⟨congrArg Prod.fst heq, congrArg (·.2.1) heq, congrArg (·.2.2) heq⟩
  exact ⟨system, hrun, subscription_settles hrun hclient hsocket rfl hown rfl rfl _⟩

end ChatSC.Spec
