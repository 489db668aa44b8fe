import ChatSC.Spec.Delivery

/-!
# The pieces of a request handler

A handler of `client_thread_main` is cut into pieces by the accesses to what the threads share.
`HandlerPiece` says what a piece does to the request in hand: it keeps it and writes nothing, or it
writes one ack, with the request's id and to its own connection, and the handler ends.  So every exit
of every handler answers, and answers once.
-/

namespace ChatSC.Spec

open Native

instance (write : Write) : Decidable (IsAck write) :=
  inferInstanceAs (Decidable (write.response.responseType = ResponseType.ack.code))

/-- The request that a thread is handling. -/
def inHand : ThreadPc → Option RequestPtr
  | .handling request | .loginValidated request | .loginRegistered request | .selecting request
  | .delivering request _ _ => some request
  | .reading | .leaving | .closing | .ended => none

/-- The thread is out of its loop. -/
def HasLeft (pc : ThreadPc) : Prop := pc = .leaving ∨ pc = .closing ∨ pc = .ended

/-- Only the first piece of a handler may have a logout request. -/
def LogoutFirst : ThreadPc → Prop
  | .handling _ => True
  | pc => ∀ request, inHand pc = some request →
      request.requestType ≠ RequestType.logout.code

/-- The steps that a thread is away from its end, when it reads no more. -/
def stepsLeft : ThreadPc → Nat
  | .handling _ => 6
  | .loginValidated _ => 5
  | .loginRegistered _ | .selecting _ | .delivering _ _ _ => 4
  | .reading => 3
  | .leaving => 2
  | .closing => 1
  | .ended => 0

/-- An ack to the request, written to the session's connection. -/
structure AckTo (session : ClientSession) (request : RequestPtr) (write : Write) : Prop where
  isAck : IsAck write
  clientFd : write.clientFd = session.clientFd
  messageId : write.response.messageId = request.messageId

/-- A piece of a handler goes on with the request, or answers it and ends. -/
inductive HandlerPiece (session : ClientSession) (pc : ThreadPc) (request : RequestPtr)
    (next : ThreadStep) : Prop
  | goesOn (hhand : inHand next.thread.pc = some request) (hfirst : LogoutFirst next.thread.pc)
      (hsteps : stepsLeft next.thread.pc < stepsLeft pc) (hwrites : next.writes = []) :
      HandlerPiece session pc request next
  | reads (ack : Write) (hpc : next.thread.pc = .reading) (hto : AckTo session request ack)
      (hwrites : next.writes.filter IsAck = [ack])
      (htype : request.requestType ≠ RequestType.logout.code) :
      HandlerPiece session pc request next
  | leaves (ack : Write) (hpc : next.thread.pc = .leaving) (hto : AckTo session request ack)
      (hwrites : next.writes.filter IsAck = [ack])
      (htype : request.requestType = RequestType.logout.code) :
      HandlerPiece session pc request next

section Pieces

variable {server : ThreadedServer} {session : ClientSession} {request : RequestPtr}
  {access : FileAccess} {written : Bool} {next : ThreadStep}

/-- What `send_ack` writes for the request. -/
theorem ackTo_sendAck (session : ClientSession) (request : RequestPtr) (status : ResponseStatus)
    (fromUsername peerUsername : Option (List UInt8)) (payload : String) :
    AckTo session request
      (sendAck session.clientFd request.messageId status fromUsername peerUsername payload) :=
  ⟨rfl, rfl, rfl⟩

theorem ackTo_chatAck (session : ClientSession) (request : RequestPtr) (written : Bool) :
    AckTo session request (chatAck session request written) := by
  unfold chatAck
  split <;> exact ackTo_sendAck ..

theorem ackTo_chatRefused {ack : Write} (h : chatRefused session request = some ack) :
    AckTo session request ack := by
  unfold chatRefused at h
  split at h
  · cases h
    exact ackTo_sendAck ..
  · split at h <;> cases h
    exact ackTo_sendAck ..

theorem ackTo_register (access : FileAccess) (userDb : List UInt8) (session : ClientSession)
    (request : RequestPtr) :
    ∃ ack, AckTo session request ack ∧
      (handleRegisterRequest access userDb session request).2 = [ack] := by
  unfold handleRegisterRequest
  simp only
  split <;> exact ⟨_, ackTo_sendAck .., rfl⟩

theorem ackTo_loginFailed (session : ClientSession) (request : RequestPtr)
    (status : ResponseStatus) :
    ∃ ack, AckTo session request ack ∧ (loginFailed session request status).2 = [ack] := by
  unfold loginFailed
  simp only
  split <;> exact ⟨_, ackTo_sendAck .., rfl⟩

theorem ackTo_loginSucceeded (session : ClientSession) (request : RequestPtr) :
    ∃ ack, AckTo session request ack ∧ (loginSucceeded session request).2 = [ack] := by
  refine ⟨_, ?_, rfl⟩
  exact ⟨rfl, rfl, rfl⟩

theorem ackTo_selectOnlinePeer (online : OnlineUsers) (session : ClientSession)
    (request : RequestPtr) :
    ∃ ack, AckTo session request ack ∧ (selectOnlinePeer online session request).2 = [ack] := by
  unfold selectOnlinePeer
  split <;> exact ⟨_, ackTo_sendAck .., rfl⟩

/-- A piece that writes one ack and goes back to the loop. -/
theorem HandlerPiece.one {pc : ThreadPc} {ack : Write} (hto : AckTo session request ack)
    (hwrites : next.writes = [ack]) (hpc : next.thread.pc = .reading)
    (htype : request.requestType ≠ RequestType.logout.code) :
    HandlerPiece session pc request next := by
  refine .reads ack hpc hto ?_ htype
  rw [hwrites, List.filter_singleton, decide_eq_true hto.isAck]
  rfl

/-- The first piece of a handler. -/
theorem handlerPiece_handling
    (h : advanceThread server ⟨session, .handling request⟩ access written = some next) :
    HandlerPiece session (.handling request) request next := by
  cases firstPiece h with
  | registers htype =>
    obtain ⟨ack, hto, hwrites⟩ := ackTo_register access server.userDb session request
    exact .one hto hwrites rfl (by rw [htype]; decide)
  | validated htype =>
    have hne : request.requestType ≠ RequestType.logout.code := by rw [htype]; decide
    exact .goesOn rfl (fun r hr => Option.some.inj hr ▸ hne) (Nat.lt_succ_self 5) rfl
  | rejected status htype =>
    obtain ⟨ack, hto, hwrites⟩ := ackTo_loginFailed session request status
    exact .one hto hwrites rfl (by rw [htype]; decide)
  | unselected _ _ htype => exact .one (ackTo_sendAck ..) rfl rfl (by rw [htype]; decide)
  | selects htype =>
    have hne : request.requestType ≠ RequestType.logout.code := by rw [htype]; decide
    exact .goesOn rfl (fun r hr => Option.some.inj hr ▸ hne) (show 4 < 6 by decide) rfl
  | refused htype hrefused =>
    exact .one (ackTo_chatRefused hrefused) rfl rfl (by rw [htype]; decide)
  | offline htype => exact .one (ackTo_chatAck ..) rfl rfl (by rw [htype]; decide)
  | lookedUp htype =>
    have hne : request.requestType ≠ RequestType.logout.code := by rw [htype]; decide
    exact .goesOn rfl (fun r hr => Option.some.inj hr ▸ hne) (show 4 < 6 by decide) rfl
  | logsOut htype => exact .leaves _ rfl (ackTo_sendAck ..) rfl htype
  | invalid _ hlogout => exact .one (ackTo_sendAck ..) rfl rfl hlogout

/-- Every piece of a handler. -/
theorem handlerPiece {pc : ThreadPc} (hhand : inHand pc = some request) (hfirst : LogoutFirst pc)
    (h : advanceThread server ⟨session, pc⟩ access written = some next) :
    HandlerPiece session pc request next := by
  cases pc with
  | reading => cases hhand
  | handling request' =>
    cases hhand
    exact handlerPiece_handling h
  -- the table has room for the user, or the login is refused
  | loginValidated request' =>
    cases hhand
    have hne := hfirst request rfl
    rcases registerOnlineUser_cases server.online request.usernameStr session.clientFd with
      ⟨-, heq⟩ | ⟨-, slot, -, heq⟩ <;>
      simp only [advanceThread, heq] at h <;> cases h
    · exact .one (ackTo_sendAck ..) rfl rfl hne
    · exact .goesOn rfl (fun r hr => Option.some.inj hr ▸ hne) (Nat.lt_succ_self 4) rfl
  -- the pieces behind the first end the handler with its one ack
  | loginRegistered request' =>
    cases hhand
    obtain ⟨ack, hto, hwrites⟩ := ackTo_loginSucceeded session request
    cases h
    exact .one hto hwrites rfl (hfirst request rfl)
  | selecting request' =>
    cases hhand
    obtain ⟨ack, hto, hwrites⟩ := ackTo_selectOnlinePeer server.online session request
    cases h
    exact .one hto hwrites rfl (hfirst request rfl)
  | delivering request' peerFd holder =>
    cases hhand
    cases h
    have hto := ackTo_chatAck session request written
    refine .reads _ rfl hto ?_ (hfirst request rfl)
    -- the delivery before the ack is none
    have hdelivery : ¬ IsAck ⟨peerFd, chatDelivery session request⟩ := by
      show ResponseType.chatDelivery.code ≠ ResponseType.ack.code
      decide
    simp only [List.filter_cons, decide_eq_true hto.isAck, decide_eq_false hdelivery, if_true]
    rfl
  | leaving => cases hhand
  | closing => cases hhand
  | ended => cases hhand

/-- Behind the loop a thread writes nothing more and goes to its end. -/
theorem advanceThread_left {pc : ThreadPc} (hpc : HasLeft pc)
    (h : advanceThread server ⟨session, pc⟩ access written = some next) :
    next.writes = [] ∧ stepsLeft next.thread.pc < stepsLeft pc ∧ HasLeft next.thread.pc := by
  rcases hpc with rfl | rfl | rfl
  · cases h
    exact ⟨rfl, Nat.lt_succ_self 1, .inr (.inl rfl)⟩
  · cases h
    exact ⟨rfl, Nat.lt_succ_self 0, .inr (.inr rfl)⟩
  · cases h

/-- Only an open thread has a next piece. -/
theorem isOpen_of_advanceThread {pc : ThreadPc}
    (h : advanceThread server ⟨session, pc⟩ access written = some next) : pc.isOpen = true := by
  cases pc with
  | ended => cases h
  | _ => rfl

/-- A thread that is not before a `read` can go on. -/
theorem isSome_advanceThread (server : ThreadedServer) (session : ClientSession) {pc : ThreadPc}
    (hpc : (inHand pc).isSome = true) (access : FileAccess) (written : Bool) :
    (advanceThread server ⟨session, pc⟩ access written).isSome = true := by
  unfold advanceThread
  cases pc with
  | handling request =>
    simp only
    -- in each case of the request type the handler has a result
    split
    · rfl
    · split
      · split <;> rfl
      · split
        · split
          · rfl
          · split <;> rfl
        · split
          · split
            · rfl
            · split <;> rfl
          · split <;> rfl
  | loginValidated request =>
    simp only
    split <;> rfl
  | loginRegistered request => rfl
  | selecting request => rfl
  | delivering request peerFd holder => rfl
  | reading => cases hpc
  | leaving => cases hpc
  | closing => cases hpc
  | ended => cases hpc

end Pieces

end ChatSC.Spec
