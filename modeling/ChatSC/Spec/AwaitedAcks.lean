import ChatSC.Native.ClientThreads
import ChatSC.Spec.Acks

/-!
# The acks that the terminal client waits for

The two threads of the client, the threads of the server and all other clients, in any order of
their steps.  `LinkInv` follows the bytes of a request to the server and its ack back: the bytes
that the client has sent are those of the requests that were acked, then at most one more request,
and the acks that the receiver has read are those that were returned, then at most one that the main
thread has still to take.  The server answers block by block (`ReadingInv`), so the two lists stay
in step.  All this is about a server whose every `write` takes the whole response and returns
(`readingStep`): a torn response would be taken for others.
-/

namespace ChatSC.Spec

open Native Blocks Transition

/-! ## The responses of a connection -/

/-- The responses that the receiver takes for acks. -/
def acksOf (responses : List ChatResponse) : List ChatResponse :=
  responses.filter fun response => response.responseType ≠ ResponseType.chatDelivery.code

/-- A response of a type that the server knows. -/
def KnownType (response : ChatResponse) : Prop :=
  response.responseType = ResponseType.ack.code ∨
    response.responseType = ResponseType.chatDelivery.code

theorem acksOf_append (responses responses' : List ChatResponse) :
    acksOf (responses ++ responses') = acksOf responses ++ acksOf responses' :=
  List.filter_append ..

theorem acksOf_delivery {response : ChatResponse}
    (h : response.responseType = ResponseType.chatDelivery.code) : acksOf [response] = [] :=
  List.filter_cons_of_neg (by simp only [h, ne_eq, not_true_eq_false, decide_false,
    Bool.false_eq_true, not_false_eq_true])

theorem acksOf_other {response : ChatResponse}
    (h : response.responseType ≠ ResponseType.chatDelivery.code) : acksOf [response] = [response] :=
  List.filter_cons_of_pos (decide_eq_true h)

/-- What is no delivery is an ack. -/
theorem ackIds_eq_acksOf {responses : List ChatResponse}
    (h : ∀ response ∈ responses, KnownType response) :
    ackIds responses = (acksOf responses).map ChatResponse.messageId := by
  rw [ackIds, acksOf]
  refine congrArg _ (List.filter_congr fun response hresponse => ?_)
  have hcodes : ResponseType.ack.code ≠ ResponseType.chatDelivery.code := by decide
  rcases h response hresponse with htype | htype
  · simp only [htype, decide_true, hcodes, ne_eq, not_false_eq_true]
  · simp only [htype, hcodes.symm, decide_false, ne_eq, not_true_eq_false]

section Server

variable {system system' : ReadingServer} {index : Nat}

/-- What the server does to a connection: nothing is sent, and responses may come in. -/
structure Receives (stream stream' : ConnectionStream) : Prop where
  sent : stream'.sent = stream.sent
  closed : stream'.closed = stream.closed
  responses : ∃ new, stream'.responses = stream.responses ++ new ∧
    ∀ response ∈ new, KnownType response

theorem Receives.of_eq {stream stream' : ConnectionStream} (hsent : stream'.sent = stream.sent)
    (hclosed : stream'.closed = stream.closed) (hresponses : stream'.responses = stream.responses) :
    Receives stream stream' where
  sent := hsent
  closed := hclosed
  responses := ⟨[], hresponses.trans (List.append_nil _).symm, fun _ h => absurd h List.not_mem_nil⟩

/-- A thread writes acks and deliveries. -/
theorem knownType_of_write {server : ThreadedServer} {session : ClientSession} {pc : ThreadPc}
    {access : FileAccess} {written : Bool} {next : ThreadStep}
    (h : advanceThread server ⟨session, pc⟩ access written = some next) {write : Write}
    (hwrite : write ∈ next.writes) : KnownType write.response := by
  rcases write_cases h hwrite with hack | ⟨request, peerFd, holder, -, rfl⟩
  · exact .inl hack
  · exact .inr rfl

/-- Every step that the client does not make leaves what it has sent. -/
theorem receives_of_step {event : ReadingEvent} (hmade : madeByClient index event = false)
    (h : readingStep system event = some system') :
    Receives (system.streams index) (system'.streams index) := by
  have hsame : Receives (system.streams index) (system.streams index) := .of_eq rfl rfl rfl
  -- a step at one connection leaves the others as they are
  have hset : ∀ {system : ReadingServer} {i : Nat} {stream : ConnectionStream},
      (i = index → Receives (system.streams index) stream) →
      Receives (system.streams index) ((system.setStream i stream).streams index) := by
    intro system i stream hi
    by_cases heq : index = i
    · subst heq
      rw [streams_setStream_self]
      exact hi rfl
    · rw [streams_setStream_of_ne _ _ heq]
      exact .of_eq rfl rfl rfl
  cases readingEffect_of_step h with
  | accepted => exact hsame
  | sent => exact hset fun heq => absurd heq (of_decide_eq_false hmade)
  | closed => exact hset fun heq => absurd heq (of_decide_eq_false hmade)
  | part => exact hset fun heq => heq ▸ .of_eq rfl rfl rfl
  | whole => exact hset fun heq => heq ▸ .of_eq rfl rfl rfl
  | ended => exact hsame
  | advanced _ hadvance =>
    refine ⟨rfl, rfl, _, rfl, fun response hresponse => ?_⟩
    obtain ⟨write, hwrite, rfl⟩ := List.mem_map.mp hresponse
    exact knownType_of_write hadvance (List.mem_filter.mp hwrite).1

/-- Connections do not go away. -/
theorem length_threads_of_step {event : ReadingEvent}
    (h : readingStep system event = some system') :
    system.server.threads.length ≤ system'.server.threads.length := by
  cases readingEffect_of_step h with
  | accepted _ hthreads => simp only [hthreads, List.length_append, Nat.le_add_right]
  | sent => exact Nat.le_refl _
  | closed => exact Nat.le_refl _
  | part => exact Nat.le_refl _
  | whole _ _ _ _ _ hthreads =>
    simp only [ReadingServer.setStream, hthreads, List.length_set, le_refl]
  | ended _ _ _ _ hthreads => simp only [hthreads, List.length_set, le_refl]
  | advanced _ _ _ hthreads => simp only [hthreads, List.length_set, le_refl]

end Server

/-! ## The bookkeeping -/

/-- The acks between the connection and the main thread: first the one in `last_ack`, then the one
    that the receiver holds. -/
def waitingAcks (client : ClientThreads) : List ChatResponse :=
  (if client.runtime.ackReady then [client.runtime.lastAck] else []) ++
    match client.receiver with
    | .posting response => [response]
    | _ => []

/-- The request of the call under way. -/
def requestUnderWay : MainPc → Option ChatRequest
  | .writing request _ | .looking request | .asleep request => some request
  | .between | .leaving | .joining => none

/-- What the client has written behind the requests that were acked. -/
inductive Unacked : MainPc → List UInt8 → Prop
  | between : Unacked .between []
  | writing {request left written} (h : written ++ left = ChatRequest.toBytes request)
      (hleft : left ≠ []) : Unacked (.writing request left) written
  | looking {request} : Unacked (.looking request) (ChatRequest.toBytes request)
  | asleep {request} : Unacked (.asleep request) (ChatRequest.toBytes request)
  | leaving {bytes} (h : bytes.length ≤ sizeofChatRequest) : Unacked .leaving bytes
  | joining {bytes} (h : bytes.length ≤ sizeofChatRequest) : Unacked .joining bytes

/-- The requests that were acked, as they were written. -/
def ackedBlocks (client : ClientThreads) : List (List UInt8) :=
  client.acked.map fun call => call.1.toBytes

/-- What every step keeps of the client and its connection. -/
structure LinkInv (index : Nat) (link : ChatLink) : Prop where
  server : ReadingInv link.server
  connected : link.client.main ≠ .between → index < link.server.server.threads.length
  known : ∀ response ∈ (link.server.streams index).responses, KnownType response
  shut : (link.server.streams index).closed = true → link.client.main = .joining
  sent : ∃ unacked, Unacked link.client.main unacked ∧
    (link.server.streams index).sent = (ackedBlocks link.client).flatten ++ unacked
  received : link.client.received ≤ (link.server.streams index).responses.length
  acks : acksOf ((link.server.streams index).responses.take link.client.received) =
    link.client.acked.map Prod.snd ++ waitingAcks link.client
  asleep : ∀ request, link.client.main = .asleep request →
    link.client.runtime.running = true ∧ link.client.runtime.ackReady = false
  receiving : link.client.receiver = .ended → link.client.runtime.running = false
  looks : ∀ request, requestUnderWay link.client.main = some request →
    waitAck request link.client.looks = .waiting
  calls : ∀ call ∈ link.client.calls, call.result = sendRequestAndWaitAck call.request call.io
  ids : ∀ call ∈ link.client.acked, call.2.messageId = call.1.messageId

theorem linkInv_start (index : Nat) (userDb : List UInt8) : LinkInv index (.start userDb) where
  server := readingInv_start userDb
  connected := fun h => absurd rfl h
  known := fun _ h => absurd h List.not_mem_nil
  shut := nofun
  sent := ⟨[], .between, rfl⟩
  received := Nat.le_refl 0
  acks := rfl
  asleep := nofun
  receiving := nofun
  looks := nofun
  calls := fun _ h => absurd h List.not_mem_nil
  ids := fun _ h => absurd h List.not_mem_nil

theorem messageIdOf_toBytes (request : ChatRequest) :
    messageIdOf request.toBytes = request.messageId :=
  congrArg ChatRequest.messageId (request.ofBytes_toBytes request.length_toBytes)

/-- Nothing in `last_ack` and nothing in the receiver's hand. -/
theorem waitingAcks_eq_nil {client : ClientThreads} (hready : client.runtime.ackReady = false)
    (hnone : ∀ response, client.receiver ≠ .posting response) : waitingAcks client = [] := by
  cases hreceiver : client.receiver with
  | posting response => exact absurd hreceiver (hnone response)
  | reading | stopping | ended => simp only [waitingAcks, hready, hreceiver]; rfl

section Counting

variable {index : Nat} {link : ChatLink}

theorem length_blocks (n : Nat) (xs : List UInt8) : (blocks n xs).length = xs.length / n := by
  rw [blocks, List.length_map, List.length_range]

/-- At most one request is written and not acked. -/
theorem Unacked.length_le {main : MainPc} {unacked : List UInt8} (h : Unacked main unacked) :
    unacked.length ≤ sizeofChatRequest := by
  cases h with
  | between => exact Nat.zero_le _
  | @writing request left _ heq =>
    rw [← request.length_toBytes, ← heq, List.length_append]
    exact Nat.le_add_right _ _
  | looking => exact Nat.le_of_eq (ChatRequest.length_toBytes _)
  | asleep => exact Nat.le_of_eq (ChatRequest.length_toBytes _)
  | leaving hle => exact hle
  | joining hle => exact hle

/-- The blocks of the connection are the acked requests, then at most one more. -/
theorem blocks_acked (client : ClientThreads) (unacked : List UInt8) :
    blocks sizeofChatRequest ((ackedBlocks client).flatten ++ unacked) =
      ackedBlocks client ++ blocks sizeofChatRequest unacked := by
  refine (blocks_flatten_append_any (by decide) fun block hblock => ?_).1
  obtain ⟨call, -, rfl⟩ := List.mem_map.mp hblock
  exact call.1.length_toBytes

/-- The acks that have come are those of the first blocks. -/
theorem LinkInv.acks_first (h : LinkInv index link) :
    (acksOf (link.server.streams index).responses).map ChatResponse.messageId <+:
      (blocks sizeofChatRequest (link.server.streams index).sent).map messageIdOf := by
  rw [← ackIds_eq_acksOf h.known]
  by_cases hlt : index < link.server.server.threads.length
  · have hat : ∃ session pc, At link.server.server index session pc :=
      ⟨_, _, List.getElem?_eq_getElem hlt⟩
    obtain ⟨session, pc, hat⟩ := hat
    have hstream := h.server.streams index session pc hat
    rw [hstream.blocks_sent, List.map_append]
    exact hstream.place.acks_first.trans (List.prefix_append _ _)
  · rw [h.server.fresh index (Nat.not_lt.mp hlt)]
    exact List.nil_prefix

/-- No more acks wait than requests are written and not acked. -/
theorem LinkInv.length_waiting_le (h : LinkInv index link) {unacked : List UInt8}
    (hsent : (link.server.streams index).sent = (ackedBlocks link.client).flatten ++ unacked) :
    (waitingAcks link.client).length ≤ unacked.length / sizeofChatRequest := by
  have hfirst := h.acks_first.length_le
  rw [hsent, blocks_acked, List.length_map, List.length_map, List.length_append, length_blocks,
    ackedBlocks, List.length_map] at hfirst
  have htaken := congrArg List.length h.acks
  rw [List.length_append, List.length_map] at htaken
  have hle : (acksOf ((link.server.streams index).responses.take link.client.received)).length ≤
      (acksOf (link.server.streams index).responses).length :=
    ((List.take_sublist _ _).filter _).length_le
  omega

/-- One ack waits at most. -/
theorem LinkInv.length_waiting_le_one (h : LinkInv index link) :
    (waitingAcks link.client).length ≤ 1 := by
  obtain ⟨unacked, hunacked, hsent⟩ := h.sent
  refine (h.length_waiting_le hsent).trans ?_
  exact Nat.div_le_of_le_mul (by rw [Nat.mul_one]; exact hunacked.length_le)

/-- A receiver that holds an ack does not overwrite another one. -/
theorem LinkInv.ackReady_of_posting (h : LinkInv index link) {response : ChatResponse}
    (hposting : link.client.receiver = .posting response) :
    link.client.runtime.ackReady = false := by
  have hle := h.length_waiting_le_one
  simp only [waitingAcks, hposting] at hle
  by_contra hready
  rw [Bool.not_eq_false] at hready
  rw [if_pos hready] at hle
  exact absurd hle (Nat.not_succ_le_self 1)

/-- The ack that the main thread finds is the only one that waits. -/
theorem LinkInv.waiting_of_ready (h : LinkInv index link)
    (hready : link.client.runtime.ackReady = true) :
    waitingAcks link.client = [link.client.runtime.lastAck] ∧
      ∀ response, link.client.receiver ≠ .posting response := by
  have hnone : ∀ response, link.client.receiver ≠ .posting response := fun response hposting =>
    absurd (h.ackReady_of_posting hposting) (by rw [hready]; decide)
  refine ⟨?_, hnone⟩
  cases hreceiver : link.client.receiver with
  | posting response => exact absurd hreceiver (hnone response)
  | reading | stopping | ended => simp only [waitingAcks, hready, if_true, hreceiver]; rfl

/-- The ack that waits for a request has its id. -/
theorem LinkInv.lastAck_messageId (h : LinkInv index link) {request : ChatRequest}
    (hmain : link.client.main = .looking request) (hready : link.client.runtime.ackReady = true) :
    link.client.runtime.lastAck.messageId = request.messageId := by
  obtain ⟨unacked, hunacked, hsent⟩ := h.sent
  rw [hmain] at hunacked
  cases hunacked
  have hfirst := h.acks_first
  have hblock : blocks sizeofChatRequest request.toBytes = [request.toBytes] := by
    have hcons : blocks sizeofChatRequest (request.toBytes ++ []) =
        request.toBytes :: blocks sizeofChatRequest [] :=
      blocks_cons (by decide) request.length_toBytes
    rwa [List.append_nil, blocks_of_lt (by decide : ([] : List UInt8).length < _)] at hcons
  rw [hsent, blocks_acked, hblock, ← List.take_append_drop link.client.received
    (link.server.streams index).responses, acksOf_append, h.acks,
    (h.waiting_of_ready hready).1] at hfirst
  -- the ack stands in the list of acks where the request stands in the list of blocks
  simp only [List.map_append, List.map_map, List.append_assoc, List.map_cons,
    List.map_nil] at hfirst
  obtain ⟨rest, hrest⟩ := hfirst
  rw [List.append_assoc, List.append_assoc] at hrest
  have hlast := (List.append_inj hrest (by rw [ackedBlocks, List.length_map, List.length_map,
    List.length_map])).2
  exact (List.cons.inj hlast).1.trans (messageIdOf_toBytes request)

end Counting

/-! ## Every step -/

section Steps

variable {index : Nat} {link link' : ChatLink}

/-- A step of the server or of another client. -/
theorem LinkInv.server_step (h : LinkInv index link) {event : ReadingEvent}
    {server : ReadingServer} (hmade : madeByClient index event = false)
    (hstep : readingStep link.server event = some server) :
    LinkInv index { link with server := server } := by
  have hreceives := receives_of_step hmade hstep
  obtain ⟨new, hresponses, hnew⟩ := hreceives.responses
  -- the client's own part stays; responses are only appended
  exact { h with
    server := h.server.step hstep
    connected := fun hmain => Nat.lt_of_lt_of_le (h.connected hmain) (length_threads_of_step hstep)
    known := by
      intro response hresponse
      rw [hresponses] at hresponse
      rcases List.mem_append.mp hresponse with hold | hin
      · exact h.known response hold
      · exact hnew response hin
    shut := fun hclosed => h.shut (hreceives.closed ▸ hclosed)
    sent := hreceives.sent ▸ h.sent
    received := by
      rw [hresponses, List.length_append]
      exact Nat.le_add_right_of_le h.received
    -- what has been read was read before them
    acks := by
      show acksOf ((server.streams index).responses.take link.client.received) = _
      rw [hresponses, List.take_append_of_le_length h.received]
      exact h.acks }

/-- A call of `send_request_and_wait_ack`. -/
theorem LinkInv.call (h : LinkInv index link) (hmain : link.client.main = .between)
    (hlt : index < link.server.server.threads.length) (request : ChatRequest) :
    LinkInv index { link with client := { link.client with
      main := .writing request request.toBytes
      looks := [] } } := by
  -- between two calls every byte is of a request that was acked
  obtain ⟨unacked, hunacked, hsent⟩ := h.sent
  rw [hmain] at hunacked
  cases hunacked
  have hbytes : request.toBytes ≠ [] := by
    rw [← List.length_pos_iff, request.length_toBytes]
    decide
  -- the new request is not yet sent at all
  exact { h with
    connected := fun _ => hlt
    shut := fun hclosed => absurd ((h.shut hclosed).symm.trans hmain) (by decide)
    sent := ⟨[], .writing rfl hbytes, hsent⟩
    asleep := nofun
    looks := fun _ _ => rfl }

/-- A `write` of the main thread. -/
theorem LinkInv.write (h : LinkInv index link) {request : ChatRequest} {left : List UInt8}
    (hmain : link.client.main = .writing request left) {count : Nat} (hcount : count ≤ left.length)
    {server : ReadingServer}
    (hstep : readingStep link.server (.send index (left.take count)) = some server) :
    LinkInv index ⟨server, { link.client with
      main := if count = left.length then .looking request
        else .writing request (left.drop count) }⟩ := by
  obtain ⟨unacked, hunacked, hsent⟩ := h.sent
  rw [hmain] at hunacked
  cases hunacked with
  | writing hwritten hleft =>
    have hserver := h.server.step hstep
    -- the bytes of this `write` go behind those that are under way
    cases readingEffect_of_step hstep with
    | sent hlt hopen =>
      have hstream := streams_setStream_self link.server index
        { link.server.streams index with
          sent := (link.server.streams index).sent ++ left.take count
          unread := (link.server.streams index).unread ++ left.take count }
      exact { h with
        server := hserver
        connected := fun _ => hlt
        known := by rw [hstream]; exact h.known
        shut := by
          rw [hstream]
          exact fun hclosed => absurd (hopen.symm.trans hclosed) (by decide)
        sent := by
          rw [hstream]
          refine ⟨unacked ++ left.take count, ?_, by rw [hsent, List.append_assoc]; rfl⟩
          -- the request is sent whole now, or bytes are left
          split
          · rename_i heq
            rw [heq, List.take_length, hwritten]
            exact .looking
          · rename_i hne
            refine .writing ?_ ?_
            · rw [List.append_assoc, List.take_append_drop, hwritten]
            · rw [← List.length_pos_iff, List.length_drop]
              omega
        received := by rw [hstream]; exact h.received
        acks := by rw [hstream]; exact h.acks
        asleep := by
          intro r hr
          simp only at hr
          split at hr <;> cases hr
        looks := by
          intro r hr
          refine h.looks r ?_
          rw [hmain]
          simp only at hr
          split at hr <;> exact hr }

/-- What has returned is consistent with what it met. -/
theorem LinkInv.calls_returned (h : LinkInv index link) {request : ChatRequest} {io : AckIo}
    {result : AckResult} (hresult : result = sendRequestAndWaitAck request io) :
    ∀ call ∈ link.client.calls ++ [⟨request, io, result⟩],
      call.result = sendRequestAndWaitAck call.request call.io := by
  intro call hcall
  rcases List.mem_append.mp hcall with hcall | hcall
  · exact h.calls call hcall
  · rw [List.mem_singleton.mp hcall]
    exact hresult

/-- A call that fails is no call that was acked. -/
theorem acked_returned_failed (client : ClientThreads) (request : ChatRequest) (written : Bool) :
    (client.returned request written .failed).acked = client.acked := by
  simp only [ClientThreads.acked, ClientThreads.returned, List.filterMap_append]
  exact List.append_nil _

theorem acked_returned_acked (client : ClientThreads) (request : ChatRequest) (written : Bool)
    (response : ChatResponse) :
    (client.returned request written (.acked response)).acked =
      client.acked ++ [(request, response)] := by
  simp only [ClientThreads.acked, ClientThreads.returned, List.filterMap_append]
  rfl

/-- A call that fails. -/
theorem LinkInv.failed (h : LinkInv index link) {request : ChatRequest}
    (hrequest : requestUnderWay link.client.main = some request) {written : Bool}
    {looks : List AckLook}
    (hio : sendRequestAndWaitAck request ⟨written, looks⟩ = .failed) :
    LinkInv index { link with
      client :=
        ClientThreads.returned { link.client with looks := looks } request written .failed } := by
  -- a call that fails breaks the bytes off where they are
  obtain ⟨unacked, hunacked, hsent⟩ := h.sent
  have hacked := acked_returned_failed { link.client with looks := looks } request written
  have hbetween : link.client.main ≠ .between := fun hmain => by
    rw [hmain] at hrequest
    cases hrequest
  -- nothing was acked, and no call will follow
  exact { h with
    connected := fun _ => h.connected hbetween
    shut := fun hclosed => by
      rw [h.shut hclosed] at hrequest
      cases hrequest
    sent := by
      refine ⟨unacked, .leaving hunacked.length_le, ?_⟩
      rw [ackedBlocks, hacked]
      exact hsent
    acks := by
      rw [hacked]
      exact h.acks
    asleep := nofun
    looks := nofun
    calls := h.calls_returned hio.symm
    ids := by
      rw [hacked]
      exact h.ids }

/-- The loop goes on behind what it has met. -/
theorem waitAck_concat {request : ChatRequest} {looks : List AckLook}
    (h : waitAck request looks = .waiting) (look : AckLook) :
    waitAck request (looks ++ [look]) = waitAck request [look] := by
  -- by induction on the looks: the loop went on at each of them
  induction looks with
  | nil => rfl
  | cons first looks ih =>
    rw [waitAck] at h
    rw [List.cons_append, waitAck]
    split
    · rename_i hblocked
      rw [if_pos hblocked] at h
      exact ih h
    · rename_i hthrough
      rw [if_neg hthrough] at h
      split at h <;> cases h

/-- The main thread looks. -/
theorem LinkInv.look (h : LinkInv index link) {request : ChatRequest}
    (hmain : link.client.main = .looking request) :
    LinkInv index { link with client := link.client.look request } := by
  -- the look is put to those of the call so far
  have hrequest : requestUnderWay link.client.main = some request := by rw [hmain]; rfl
  have hconcat := waitAck_concat (h.looks request hrequest) link.client.runtime
  obtain ⟨unacked, hunacked, hsent⟩ := h.sent
  rw [hmain] at hunacked
  cases hunacked
  unfold ClientThreads.look
  simp only
  split
  · -- nothing there: asleep
    rename_i hblocked
    have hready : link.client.runtime.ackReady = false := by
      rcases hblocked.2 with hready | hid
      · exact Bool.eq_false_iff.mpr hready
      · by_contra hready
        exact hid (h.lastAck_messageId hmain (Bool.not_eq_false _ ▸ hready))
    exact { h with
      connected := fun _ => h.connected (by rw [hmain]; nofun)
      shut := fun hclosed => absurd ((h.shut hclosed).symm.trans hmain) (by nofun)
      sent := ⟨request.toBytes, .asleep, hsent⟩
      asleep := fun _ _ => ⟨hblocked.1, hready⟩
      looks := by
        intro r hr
        cases hr
        rw [hconcat, waitAck, if_pos hblocked]
        rfl }
  · split
    · -- the receiver has ended
      rename_i hnotBlocked hstopped
      refine h.failed hrequest ?_
      rw [sendRequestAndWaitAck, if_pos rfl, hconcat, waitAck, if_neg hnotBlocked, if_pos hstopped]
    · -- the ack of the request
      rename_i hnotBlocked hstopped
      have hthrough : link.client.runtime.ackReady = true ∧
          link.client.runtime.lastAck.messageId = request.messageId := by
        rw [not_not] at hstopped
        simpa [hstopped] using hnotBlocked
      obtain ⟨hwaiting, hnone⟩ := h.waiting_of_ready hthrough.1
      have htaken : ∀ client : ClientThreads, client.runtime.ackReady = false →
          client.receiver = link.client.receiver → waitingAcks client = [] :=
        fun client hready hreceiver => waitingAcks_eq_nil hready (hreceiver ▸ hnone)
      have hacked := acked_returned_acked { link.client with
        looks := link.client.looks ++ [link.client.runtime]
        runtime := ⟨link.client.runtime.running, false, .zero⟩ } request true
        link.client.runtime.lastAck
      exact { h with
        connected := fun _ => h.connected (by rw [hmain]; nofun)
        shut := fun hclosed => absurd ((h.shut hclosed).symm.trans hmain) (by nofun)
        sent := by
          refine ⟨[], .between, ?_⟩
          rw [ackedBlocks, hacked, List.map_append, List.flatten_append, List.append_nil, hsent]
          simp only [List.map_cons, List.map_nil, List.flatten_singleton]
          rfl
        acks := by
          refine h.acks.trans ((congrArg _ hwaiting).trans ?_)
          rw [hacked, List.map_append]
          refine (List.append_nil _).symm.trans (congrArg _ ?_)
          symm
          exact htaken _ rfl rfl
        asleep := nofun
        looks := nofun
        calls := by
          refine h.calls_returned ?_
          rw [sendRequestAndWaitAck, if_pos rfl, hconcat, waitAck, if_neg hnotBlocked,
            if_neg hstopped]
        ids := by
          rw [hacked]
          intro call hcall
          rcases List.mem_append.mp hcall with hcall | hcall
          · exact h.ids call hcall
          · rw [List.mem_singleton.mp hcall]
            exact hthrough.2 }

/-- The main thread wakes up. -/
theorem Unacked.wake {main : MainPc} {unacked : List UInt8} (h : Unacked main unacked) :
    Unacked main.wake unacked := by
  cases h with
  | between => exact .between
  | writing hwritten hleft => exact .writing hwritten hleft
  | looking => exact .looking
  | asleep => exact .looking
  | leaving hle => exact .leaving hle
  | joining hle => exact .joining hle

theorem requestUnderWay_wake (main : MainPc) :
    requestUnderWay main.wake = requestUnderWay main := by
  cases main <;> rfl

theorem wake_ne_asleep (main : MainPc) (request : ChatRequest) : main.wake ≠ .asleep request := by
  cases main <;> nofun

theorem wake_eq_between {main : MainPc} (h : main.wake ≠ .between) : main ≠ .between :=
  fun hmain => h (by rw [hmain]; rfl)

/-- The receiver does something that wakes the main thread up. -/
theorem LinkInv.wakes (h : LinkInv index link) {runtime : AckLook} {receiver : ReceiverPc}
    (hreceiver : receiver = .ended → runtime.running = false)
    (hwaiting : waitingAcks { link.client with runtime := runtime, receiver := receiver } =
      waitingAcks link.client) :
    LinkInv index { link with client := { link.client with
      runtime := runtime
      receiver := receiver
      main := link.client.main.wake } } :=
  -- only the place of the main thread and what the receiver holds change
  { h with
    connected := fun hmain => h.connected (wake_eq_between hmain)
    shut := fun hclosed => by
      show link.client.main.wake = _
      rw [h.shut hclosed]
      rfl
    sent := by
      obtain ⟨unacked, hunacked, hsent⟩ := h.sent
      exact ⟨unacked, hunacked.wake, hsent⟩
    acks := h.acks.trans (congrArg _ hwaiting.symm)
    asleep := fun request hmain => absurd hmain (wake_ne_asleep _ request)
    receiving := hreceiver
    looks := fun request hrequest =>
      h.looks request ((requestUnderWay_wake _).symm.trans hrequest) }

/-- The receiver stores an ack. -/
theorem LinkInv.post (h : LinkInv index link) {response : ChatResponse}
    (hposting : link.client.receiver = .posting response) :
    LinkInv index { link with client := link.client.post response } := by
  refine h.wakes nofun ?_
  simp only [waitingAcks, hposting, h.ackReady_of_posting hposting]
  rfl

/-- The receiver ends. -/
theorem LinkInv.stopReceiver (h : LinkInv index link)
    (hstopping : link.client.receiver = .stopping) :
    LinkInv index { link with client := link.client.stopReceiver } := by
  refine h.wakes (fun _ => rfl) ?_
  simp only [waitingAcks, hstopping]

/-- The receiver reads a response. -/
theorem LinkInv.receive (h : LinkInv index link) (hreading : link.client.receiver = .reading)
    {response : ChatResponse}
    (hresponse : (link.server.streams index).responses[link.client.received]? = some response) :
    LinkInv index { link with client := { link.client with
      received := link.client.received + 1
      receiver := if response.responseType = ResponseType.chatDelivery.code then .reading
        else .posting response } } := by
  -- the response is the next ack, or a delivery
  have htake : acksOf ((link.server.streams index).responses.take (link.client.received + 1)) =
      link.client.acked.map Prod.snd ++ waitingAcks link.client ++ acksOf [response] := by
    rw [List.take_add_one, hresponse, acksOf_append, h.acks]
    rfl
  exact { h with
    received := (List.getElem?_eq_some_iff.mp hresponse).1
    -- a delivery is shown, and an ack waits for the main thread
    acks := by
      refine htake.trans ?_
      rw [List.append_assoc]
      refine congrArg _ ?_
      by_cases htype : response.responseType = ResponseType.chatDelivery.code
      · rw [acksOf_delivery htype, List.append_nil]
        simp only [waitingAcks, hreading, htype, if_true]
      · rw [acksOf_other htype]
        simp only [waitingAcks, hreading, htype, if_false, List.append_nil]
    receiving := by
      intro hended
      simp only at hended
      split at hended <;> cases hended }

/-- The client stops. -/
theorem LinkInv.stop (h : LinkInv index link) {server : ReadingServer}
    (hstep : readingStep link.server (.close index) = some server) :
    LinkInv index ⟨server, { link.client with
      runtime := { link.client.runtime with running := false }
      main := .joining }⟩ := by
  obtain ⟨unacked, hunacked, hsent⟩ := h.sent
  have hserver := h.server.step hstep
  -- the stream is closed, and the main thread waits for the receiver
  cases readingEffect_of_step hstep with
  | closed hlt =>
    have hstream := streams_setStream_self link.server index
      { link.server.streams index with closed := true }
    exact { h with
      server := hserver
      connected := fun _ => hlt
      known := by rw [hstream]; exact h.known
      shut := fun _ => rfl
      sent := ⟨unacked, .joining hunacked.length_le, by rw [hstream]; exact hsent⟩
      received := by rw [hstream]; exact h.received
      acks := by rw [hstream]; exact h.acks
      asleep := nofun
      receiving := fun _ => rfl
      looks := nofun }

/-- Every step of the client. -/
theorem LinkInv.client_step (h : LinkInv index link) {event : ClientEvent}
    (hstep : terminalStep index link event = some link') : LinkInv index link' := by
  -- one lemma for each step of the two threads
  cases event with
  | call request =>
    simp only [terminalStep] at hstep
    split at hstep
    · rename_i hcall
      cases hstep
      exact h.call hcall.1 hcall.2 request
    · cases hstep
  | write count =>
    simp only [terminalStep] at hstep
    split at hstep
    · rename_i hmain
      split at hstep
      · rename_i hcount
        obtain ⟨server, hserver, rfl⟩ := Option.map_eq_some_iff.mp hstep
        exact h.write hmain hcount.2 hserver
      · cases hstep
    · cases hstep
  | writeFails =>
    simp only [terminalStep] at hstep
    split at hstep
    · rename_i request left hmain
      cases hstep
      exact h.failed (by rw [hmain]; rfl) rfl
    · cases hstep
  | look =>
    simp only [terminalStep] at hstep
    split at hstep
    · rename_i request hmain
      cases hstep
      exact h.look hmain
    · cases hstep
  -- without a broadcast nothing has changed
  | wake =>
    simp only [terminalStep] at hstep
    split at hstep
    · rename_i request hmain
      cases hstep
      have hwoken := h.wakes h.receiving rfl
      rw [hmain] at hwoken
      exact hwoken
    · cases hstep
  -- at the end of the loops no call is under way
  | leave =>
    simp only [terminalStep] at hstep
    split at hstep
    · rename_i hleave
      cases hstep
      obtain ⟨unacked, hunacked, hsent⟩ := h.sent
      exact { h with
        connected := fun _ => hleave.2
        shut := fun hclosed => absurd ((h.shut hclosed).symm.trans hleave.1) (by decide)
        sent := ⟨unacked, .leaving hunacked.length_le, hsent⟩
        asleep := nofun
        looks := nofun }
    · cases hstep
  | stop =>
    simp only [terminalStep] at hstep
    split at hstep
    · obtain ⟨server, hserver, rfl⟩ := Option.map_eq_some_iff.mp hstep
      exact h.stop hserver
    · cases hstep
  | receive =>
    simp only [terminalStep] at hstep
    split at hstep
    · rename_i response hreading hresponse
      cases hstep
      exact h.receive hreading hresponse
    · cases hstep
  -- the receiver leaves its loop
  | receiveEnd =>
    simp only [terminalStep] at hstep
    split at hstep
    · rename_i hend
      cases hstep
      exact { h with
        acks := h.acks.trans (congrArg _ (by simp only [waitingAcks, hend.1]))
        receiving := nofun }
    · cases hstep
  | post =>
    simp only [terminalStep] at hstep
    split at hstep
    · rename_i response hposting
      cases hstep
      exact h.post hposting
    · cases hstep
  | stopReceiver =>
    simp only [terminalStep] at hstep
    split at hstep
    · rename_i hstopping
      cases hstep
      exact h.stopReceiver hstopping
    · cases hstep

/-- Every step keeps the invariant. -/
theorem LinkInv.step (h : LinkInv index link) {event : LinkEvent}
    (hstep : linkStep index link event = some link') : LinkInv index link' := by
  cases event with
  | server event =>
    simp only [linkStep] at hstep
    split at hstep
    · cases hstep
    · rename_i hmade
      obtain ⟨server, hserver, rfl⟩ := Option.map_eq_some_iff.mp hstep
      exact h.server_step (Bool.eq_false_iff.mpr hmade) hserver
  | client event => exact h.client_step hstep

end Steps

theorem linkInv_of_run {index : Nat} {userDb : List UInt8} {events : List LinkEvent}
    {link : ChatLink} (h : run (linkStep index) (.start userDb) events = some link) :
    LinkInv index link :=
  run_invariant (fun _ _ _ hinv hstep => LinkInv.step hinv hstep) (linkInv_start index userDb) h

/-! ## The end of a call -/

/-- A step of the server's thread of the connection or of the two threads of the client, of which
    none is one that the user, an error or chance has to make. -/
def OfConnection (index : Nat) : LinkEvent → Prop
  | .server event => readingThread event = some index
  | .client (.write _) | .client .look | .client .receive | .client .receiveEnd | .client .post
  | .client .stopReceiver => True
  | .client _ => False

/-- The main thread is in the loop over `pthread_cond_wait`. -/
def InLoopFor (request : ChatRequest) (main : MainPc) : Prop :=
  main = .looking request ∨ main = .asleep request

/-- The way of the receiver to its end, with a response read being worth more than one posted. -/
def receiverLeft : ReceiverPc → Nat
  | .posting _ => 6
  | .reading => 3
  | .stopping => 2
  | .ended => 0

/-- What the client has still to do with what has come to it. -/
def clientLeft (index : Nat) (link : ChatLink) : Nat :=
  6 * ((link.server.streams index).responses.length - link.client.received) +
    receiverLeft link.client.receiver +
    match link.client.main with
    | .looking _ => 1
    | _ => 0

section Progress

variable {index : Nat} {link : ChatLink} {request : ChatRequest}

/-- A thread that is out of its loop goes on until it has closed its descriptor. -/
theorem able_leaving {system : ReadingServer} {session : ClientSession} {pc : ThreadPc}
    (hat : At system.server index session pc) (hpc : pc = .leaving ∨ pc = .closing) :
    (readingStep system (.advance index .all)).isSome = true := by
  unfold At at hat
  rcases hpc with rfl | rfl <;> simp only [readingStep, threadedStep, hat, advanceThread] <;> rfl

/-- When everything is read and nothing has come, the server has still to answer. -/
theorem LinkInv.not_answered (h : LinkInv index link) (hmain : link.client.main = .asleep request)
    (hreceiver : link.client.receiver = .reading)
    (hall : (link.server.streams index).responses.length ≤ link.client.received)
    {session : ClientSession} (hat : At link.server.server index session .reading) :
    (link.server.streams index).unread ≠ [] := by
  intro hunread
  obtain ⟨unacked, hunacked, hsent⟩ := h.sent
  rw [hmain] at hunacked
  cases hunacked
  have hstream := h.server.streams index session _ hat
  have hrest := hstream.atRest (.inl ⟨rfl, hunread⟩)
  have hblocks := hstream.blocks_sent
  rw [hunread, List.append_nil, blocks_of_lt hstream.short, List.append_nil, hsent,
    blocks_acked] at hblocks
  have hnone : waitingAcks link.client = [] :=
    waitingAcks_eq_nil (h.asleep request hmain).2 (by rw [hreceiver]; nofun)
  have hacks := h.acks
  rw [List.take_of_length_le hall, hnone, List.append_nil] at hacks
  -- one block more than acks
  have hlength := congrArg List.length hrest.2
  rw [ackIds_eq_acksOf h.known, hacks, ← hblocks, List.length_map, List.length_map, List.length_map,
    List.length_append, ackedBlocks, List.length_map, length_blocks, request.length_toBytes,
    Nat.div_self (by decide)] at hlength
  exact absurd hlength.symm (Nat.succ_ne_self _)

/-- A step of the connection that leaves the call nearer to its end. -/
structure Nearer (index : Nat) (request : ChatRequest) (link : ChatLink) (event : LinkEvent)
    (link' : ChatLink) : Prop where
  own : OfConnection index event
  step : linkStep index link event = some link'
  inLoop : requestUnderWay link'.client.main = none ∨ InLoopFor request link'.client.main
  less : workLeft link'.server index < workLeft link.server index ∨
    workLeft link'.server index = workLeft link.server index ∧
      clientLeft index link' < clientLeft index link

/-- The thread of the connection takes a step. -/
theorem LinkInv.server_nearer (h : LinkInv index link) (hmain : InLoopFor request link.client.main)
    {event : ReadingEvent} (hevent : readingThread event = some index)
    (hable : (readingStep link.server event).isSome = true) :
    ∃ event link', Nearer index request link event link' := by
  obtain ⟨server, hserver⟩ := Option.isSome_iff_exists.mp hable
  have hmade : madeByClient index event = false := by
    cases event with
    | send i bytes => cases hevent
    | close i => cases hevent
    | accept | read | readEnd | advance => rfl
  refine ⟨.server event, { link with server := server }, hevent, ?_, .inr hmain, .inl ?_⟩
  · simp only [linkStep, hmade, hserver]
    rfl
  · exact h.server.less hevent hserver

/-- The client takes a step on its own. -/
theorem Nearer.of_client {event : ClientEvent} {client : ClientThreads}
    (hstep : terminalStep index link event = some { link with client := client })
    (hown : OfConnection index (.client event))
    (hinLoop : requestUnderWay client.main = none ∨ InLoopFor request client.main)
    (hless : clientLeft index { link with client := client } < clientLeft index link) :
    Nearer index request link (.client event) { link with client := client } :=
  ⟨hown, hstep, hinLoop, .inr ⟨rfl, hless⟩⟩

/-- The connection is closed, and the receiver finds that out. -/
theorem LinkInv.closed_nearer (hmain : link.client.main = .asleep request)
    (hreceiver : link.client.receiver = .reading) {session : ClientSession}
    (hat : At link.server.server index session .ended) :
    ∃ event link', Nearer index request link event link' := by
  have hclosed : link.server.hasClosed index = true := by
    unfold At at hat
    simp only [ReadingServer.hasClosed, hat, decide_true]
  have hstep : terminalStep index link .receiveEnd =
      some { link with client := { link.client with receiver := .stopping } } := by
    simp only [terminalStep, hreceiver, hclosed, true_or, and_self, if_true]
  refine ⟨_, _, .of_client hstep trivial (.inr (.inr hmain)) ?_⟩
  simp only [clientLeft, hreceiver, receiverLeft]
  omega

/-- There is a response to read. -/
theorem LinkInv.receive_nearer (hmain : link.client.main = .asleep request)
    (hreceiver : link.client.receiver = .reading)
    (hleft : link.client.received < (link.server.streams index).responses.length) :
    ∃ event link', Nearer index request link event link' := by
  have hget := List.getElem?_eq_getElem hleft
  generalize hresponse :
    (link.server.streams index).responses[link.client.received] = response at hget
  have hstep : terminalStep index link .receive = some { link with client := { link.client with
      received := link.client.received + 1
      receiver := if response.responseType = ResponseType.chatDelivery.code then .reading
        else .posting response } } := by
    simp only [terminalStep, hreceiver, hget]
  -- a delivery brings the receiver back to its `read_full`, so it counts less than the response
  refine ⟨_, _, .of_client hstep trivial (.inr (.inr hmain)) ?_⟩
  have hle : receiverLeft (if response.responseType = ResponseType.chatDelivery.code then .reading
      else .posting response) ≤ 6 := by
    split
    · decide
    · exact Nat.le_refl 6
  simp only [clientLeft, hreceiver, hmain, receiverLeft] at hle ⊢
  omega

/-- A sleeping main thread has somebody who goes on for it. -/
theorem LinkInv.asleep_nearer (h : LinkInv index link)
    (hmain : link.client.main = .asleep request) :
    ∃ event link', Nearer index request link event link' := by
  have hin : InLoopFor request link.client.main := .inr hmain
  have hwoken : InLoopFor request link.client.main.wake := .inl (by rw [hmain]; rfl)
  -- the receiver posts, stops, or reads on
  cases hreceiver : link.client.receiver with
  | posting response =>
    have hstep : terminalStep index link .post =
        some { link with client := link.client.post response } := by
      simp only [terminalStep, hreceiver]
    refine ⟨_, _, .of_client hstep trivial (.inr hwoken) ?_⟩
    simp only [clientLeft, ClientThreads.post, hreceiver, hmain, MainPc.wake, receiverLeft]
    omega
  | stopping =>
    have hstep : terminalStep index link .stopReceiver =
        some { link with client := link.client.stopReceiver } := by
      simp only [terminalStep, hreceiver, if_true]
    refine ⟨_, _, .of_client hstep trivial (.inr hwoken) ?_⟩
    simp only [clientLeft, ClientThreads.stopReceiver, hreceiver, hmain, MainPc.wake, receiverLeft]
    omega
  | ended => exact absurd (h.receiving hreceiver) (by rw [(h.asleep request hmain).1]; decide)
  | reading =>
    by_cases hall : (link.server.streams index).responses.length ≤ link.client.received
    · -- everything is read: it is the server's turn
      have hlt : index < link.server.server.threads.length := h.connected (by rw [hmain]; nofun)
      obtain ⟨session, pc, hat⟩ : ∃ session pc, At link.server.server index session pc :=
        ⟨_, _, List.getElem?_eq_getElem hlt⟩
      by_cases hrest : AtRest (link.server.streams index) pc
      · rcases hrest with ⟨rfl, hunread⟩ | rfl | rfl | rfl
        · exact absurd hunread (h.not_answered hmain hreceiver hall hat)
        · exact h.server_nearer hin rfl (able_leaving hat (.inl rfl))
        · exact h.server_nearer hin rfl (able_leaving hat (.inr rfl))
        · exact LinkInv.closed_nearer hmain hreceiver hat
      · obtain ⟨event, hevent, hable⟩ := (h.server.comesToRest hlt).able session pc hat hrest
        exact h.server_nearer hin hevent hable
    · exact LinkInv.receive_nearer hmain hreceiver (Nat.not_le.mp hall)

/-- A main thread in the loop comes nearer to the end of its call. -/
theorem LinkInv.nearer (h : LinkInv index link) (hmain : InLoopFor request link.client.main) :
    ∃ event link', Nearer index request link event link' := by
  -- the main thread looks once more, or it sleeps
  rcases hmain with hmain | hmain
  · have hstep : terminalStep index link .look =
        some { link with client := link.client.look request } := by
      simp only [terminalStep, hmain]
    refine ⟨_, _, .of_client hstep trivial ?_ ?_⟩
    · simp only [ClientThreads.look]
      split
      · exact .inr (.inr rfl)
      · split <;> exact .inl rfl
    · -- a look is one step of what is left
      simp only [clientLeft, hmain, ClientThreads.look, ClientThreads.returned]
      split
      · exact Nat.lt_succ_self _
      · split
        · exact Nat.lt_succ_self _
        · exact Nat.lt_succ_self _
  · exact h.asleep_nearer hmain

/-- `write_full` can write all that is left. -/
theorem LinkInv.able_write (h : LinkInv index link) {left : List UInt8}
    (hmain : link.client.main = .writing request left) :
    ∃ link', linkStep index link (.client (.write left.length)) = some link' ∧
      link'.client.main = .looking request := by
  have hlt : index < link.server.server.threads.length := h.connected (by rw [hmain]; nofun)
  -- only the main thread itself closes the connection
  have hopen : (link.server.streams index).closed = false := by
    by_contra hclosed
    have hjoining := h.shut (Bool.not_eq_false _ ▸ hclosed)
    rw [hmain] at hjoining
    cases hjoining
  obtain ⟨unacked, hunacked, -⟩ := h.sent
  rw [hmain] at hunacked
  cases hunacked with
  | writing _ hleft =>
    have hsend : (readingStep link.server (.send index left)).isSome = true := by
      simp only [readingStep, hlt, hopen, and_self, if_true, Option.isSome_some]
    -- the kernel takes the bytes
    obtain ⟨server, hserver⟩ := Option.isSome_iff_exists.mp hsend
    refine ⟨⟨server, { link.client with main := .looking request }⟩, ?_, rfl⟩
    simp only [linkStep, terminalStep, hmain, List.take_length, hserver,
      List.length_pos_iff.mpr hleft, le_refl, and_self, if_true, Option.map_some]

/-- From the loop the call comes to its end. -/
theorem LinkInv.ends_inLoop (link : ChatLink) (h : LinkInv index link)
    (hmain : InLoopFor request link.client.main) :
    ∃ events link', (∀ event ∈ events, OfConnection index event) ∧
      run (linkStep index) link events = some link' ∧ requestUnderWay link'.client.main = none := by
  -- one step nearer, then by induction on what is left to do
  obtain ⟨event, link₁, hnearer⟩ := h.nearer hmain
  have hinv := h.step hnearer.step
  rcases hnearer.inLoop with hdone | hin
  · refine ⟨[event], link₁, ?_, run_cons_eq_some.mpr ⟨link₁, hnearer.step, rfl⟩, hdone⟩
    exact fun e he => List.mem_singleton.mp he ▸ hnearer.own
  · obtain ⟨events, link', hown, hrun, hdone⟩ := LinkInv.ends_inLoop link₁ hinv hin
    refine ⟨event :: events, link', ?_, run_cons_eq_some.mpr ⟨link₁, hnearer.step, hrun⟩, hdone⟩
    exact List.forall_mem_cons.mpr ⟨hnearer.own, hown⟩
termination_by (workLeft link.server index, clientLeft index link)
decreasing_by
  rcases hnearer.less with hless | ⟨heq, hless⟩
  · exact Prod.Lex.left _ _ hless
  · rw [heq]
    exact Prod.Lex.right _ hless

end Progress

/-! ## Runs -/

/-- The calls that are acked get the acks that the server writes to the connection, in the order in
    which it writes them, for the requests that it reads, in the order in which it reads them; and
    every call returns what the loop makes of the looks that it has taken. -/
structure AcksInOrder (index : Nat) (link : ChatLink) : Prop where
  requests : ackedBlocks link.client <+:
    blocks sizeofChatRequest (link.server.streams index).sent
  acks : link.client.acked.map Prod.snd <+: acksOf (link.server.streams index).responses
  ids : ∀ call ∈ link.client.acked, call.2.messageId = call.1.messageId
  returned : ∀ call ∈ link.client.calls,
    call.result = sendRequestAndWaitAck call.request call.io

/-- **Every call gets its own ack**: in every run of the client's two threads, the server and all
    its other clients. -/
theorem acksInOrder_of_run {index : Nat} {userDb : List UInt8} {events : List LinkEvent}
    {link : ChatLink} (h : run (linkStep index) (.start userDb) events = some link) :
    AcksInOrder index link := by
  have hinv := linkInv_of_run h
  obtain ⟨unacked, -, hsent⟩ := hinv.sent
  refine ⟨?_, ?_, hinv.ids, hinv.calls⟩
  · rw [hsent, blocks_acked]
    exact List.prefix_append _ _
  · refine List.IsPrefix.trans ?_ ((List.take_prefix link.client.received
      (link.server.streams index).responses).filter _)
    exact ⟨_, hinv.acks.symm⟩

/-- A request of an unknown type. -/
def unknownRequest : ChatRequest := { ChatRequest.zero with messageId := 7 }

/-- The client writes its request in two parts and falls asleep. -/
def sleepingCall : List LinkEvent :=
  [.server (.accept 4), .client (.call unknownRequest), .client (.write 1000), .client (.write 164),
    .client .look]

/-- The server reads it and answers, and the ack comes to the call. -/
def answeredCall : List LinkEvent :=
  sleepingCall ++ [.server (.read 0 600 []), .server (.read 0 564 []), .server (.advance 0 .all),
    .client .receive, .client .post, .client .look]

theorem acksInOrder_answeredCall :
    ∃ link, run (linkStep 0) (.start []) answeredCall = some link ∧
      link.client.acked.map (fun call => (call.1, call.2.messageId)) = [(unknownRequest, 7)] ∧
      AcksInOrder 0 link := by
  have hacked : (run (linkStep 0) (.start []) answeredCall).map
      (fun link => link.client.acked.map fun call => (call.1, call.2.messageId)) =
        some [(unknownRequest, 7)] := by
    decide +kernel
  obtain ⟨link, hlink, hcalls⟩ := Option.map_eq_some_iff.mp hacked
  exact ⟨link, hlink, hcalls, acksInOrder_of_run hlink⟩

/-- The call under way has no ack that it does not see: nothing overwrites one in `last_ack`, and
    the main thread does not sleep while one is there, or after the receiver has ended. -/
structure NoAckMissed (link : ChatLink) : Prop where
  kept : ∀ response, link.client.receiver = .posting response →
    link.client.runtime.ackReady = false
  awake : ∀ request, link.client.main = .asleep request →
    link.client.runtime.running = true ∧ link.client.runtime.ackReady = false

/-- The threads of the connection alone can bring the call under way to its end. -/
def CallCanEnd (index : Nat) (link : ChatLink) : Prop :=
  ∃ events link', (∀ event ∈ events, OfConnection index event) ∧
    run (linkStep index) link events = some link' ∧ requestUnderWay link'.client.main = none

/-- **No wake-up is lost**: in every run, whatever the threads, the server and the other clients
    have done so far, the call under way can end by steps of its own connection. -/
theorem callCanEnd_of_run {index : Nat} {userDb : List UInt8} {events : List LinkEvent}
    {link : ChatLink} (h : run (linkStep index) (.start userDb) events = some link) :
    NoAckMissed link ∧ CallCanEnd index link := by
  have hinv := linkInv_of_run h
  refine ⟨⟨fun _ hposting => hinv.ackReady_of_posting hposting, hinv.asleep⟩, ?_⟩
  cases hmain : link.client.main with
  | between | leaving | joining => exact ⟨[], link, nofun, rfl, by rw [hmain]; rfl⟩
  | looking request => exact hinv.ends_inLoop link (.inl hmain)
  | asleep request => exact hinv.ends_inLoop link (.inr hmain)
  | writing request left =>
    -- all that is left is written at once
    obtain ⟨link₁, hstep, hlooking⟩ := hinv.able_write hmain
    have hinv₁ := hinv.step hstep
    obtain ⟨events, link', hown, hrun, hdone⟩ := hinv₁.ends_inLoop link₁ (.inl hlooking)
    refine ⟨.client (.write left.length) :: events, link', ?_,
      run_cons_eq_some.mpr ⟨link₁, hstep, hrun⟩, hdone⟩
    exact List.forall_mem_cons.mpr ⟨trivial, hown⟩

theorem callCanEnd_sleepingCall :
    ∃ link, run (linkStep 0) (.start []) sleepingCall = some link ∧
      link.client.main = .asleep unknownRequest ∧ NoAckMissed link ∧ CallCanEnd 0 link := by
  have hmain : (run (linkStep 0) (.start []) sleepingCall).map (fun link => link.client.main) =
      some (.asleep unknownRequest) := by
    decide +kernel
  obtain ⟨link, hlink, hasleep⟩ := Option.map_eq_some_iff.mp hmain
  exact ⟨link, hlink, hasleep, callCanEnd_of_run hlink⟩

end ChatSC.Spec
