import ChatSC.ForStd.Records
import ChatSC.ForStd.Transition
import ChatSC.Native.ServerThreads
import ChatSC.Spec.ServerLogins

/-!
# One live session for each account

The threads of the server under any schedule.  `ThreadEffect` says once what a step can do to the
table and to the threads.  `ThreadInv` is kept by every step of every thread: the open descriptors
are distinct, and every live session, and every thread between its registration and its session
update, has its pair in the table.  That two live sessions never share a name follows, since names
are distinct in the table and descriptors are distinct among the threads.
-/

namespace ChatSC.Spec

open Native

/-- The state part of a step. -/
def nextThreaded (server : ThreadedServer) (event : ThreadEvent) : Option ThreadedServer :=
  (threadedStep server event).map Prod.fst

/-- A thread with its session and its program counter. -/
def At (server : ThreadedServer) (index : Nat) (session : ClientSession) (pc : ThreadPc) : Prop :=
  server.threads[index]? = some ⟨session, pc⟩

/-- The thread that takes the step. -/
def eventThread : ThreadEvent → Option Nat
  | .accept _ => none
  | .read index _ => some index
  | .advance index _ _ => some index

/-! ## What a step can do -/

section Inversion

variable {server server' : ThreadedServer} {index : Nat} {writes : List Write}

/-- Every step has a state part. -/
theorem nextThreaded_of_step {event : ThreadEvent}
    (h : threadedStep server event = some (server', writes)) :
    nextThreaded server event = some server' := by
  rw [nextThreaded, h]
  rfl

/-- Accepting adds a thread that reads, for a descriptor that nobody has. -/
theorem threadedStep_accept {fd : Nat} (h : threadedStep server (.accept fd) = some (server', writes)) :
    holderOf server.threads fd = none ∧ writes = [] ∧
      server' = { server with threads := server.threads ++ [⟨.fresh fd, .reading⟩] } := by
  simp only [threadedStep] at h
  split at h
  · cases h
  · rename_i hfree
    cases h
    exact ⟨hfree, rfl, rfl⟩

/-- A thread that reads goes on with its request, or leaves its loop. -/
theorem threadedStep_read {request : Option RequestPtr}
    (h : threadedStep server (.read index request) = some (server', writes)) :
    ∃ session, At server index session .reading ∧ writes = [] ∧
      server' = { server with
        threads := server.threads.set index ⟨session, request.elim .leaving .handling⟩ } := by
  simp only [threadedStep] at h
  split at h
  · rename_i session hat
    cases h
    refine ⟨session, hat, rfl, ?_⟩
    cases request <;> rfl
  · cases h

/-- A thread that advances makes one piece of its handler. -/
theorem threadedStep_advance {access : FileAccess} {written : Bool}
    (h : threadedStep server (.advance index access written) = some (server', writes)) :
    ∃ session pc next, At server index session pc ∧
      advanceThread server ⟨session, pc⟩ access written = some next ∧ writes = next.writes ∧
      server' = ⟨next.userDb, next.online, server.threads.set index next.thread⟩ := by
  simp only [threadedStep] at h
  split at h
  · cases h
  · rename_i thread hat
    split at h
    · cases h
    · rename_i next hnext
      cases h
      exact ⟨thread.session, thread.pc, next, hat, hnext, rfl, rfl⟩

end Inversion

/-- The thread is in the loop, and not between its registration and its session update. -/
def InLoop : ThreadPc → Bool
  | .loginRegistered _ | .leaving | .closing | .ended => false
  | _ => true

/-- A place that says nothing about a login or a delivery. -/
def Plain : ThreadPc → Bool
  | .reading | .handling _ | .selecting _ | .leaving => true
  | _ => false

/-- All that a step can do to the table and to the threads. -/
inductive ThreadEffect (server : ThreadedServer) : ThreadEvent → ThreadedServer → Prop
  | accepted {fd server'} (hfree : holderOf server.threads fd = none)
      (honline : server'.online = server.online)
      (hthreads : server'.threads = server.threads ++ [⟨.fresh fd, .reading⟩]) :
      ThreadEffect server (.accept fd) server'
  | moved {event index session pc session' pc' server'} (hat : At server index session pc)
      (hevent : eventThread event = some index) (hpc : InLoop pc = true) (hpc' : Plain pc' = true)
      (hsame : SameLogin session session') (honline : server'.online = server.online)
      (hthreads : server'.threads = server.threads.set index ⟨session', pc'⟩) :
      ThreadEffect server event server'
  | validated {index access written session request server'}
      (hat : At server index session (.handling request))
      (hstatus : serverValidateLogin access server.userDb request = .ok)
      (honline : server'.online = server.online)
      (hthreads : server'.threads = server.threads.set index ⟨session, .loginValidated request⟩) :
      ThreadEffect server (.advance index access written) server'
  | lookedUp {index access written session request peerFd server'}
      (hat : At server index session (.handling request))
      (hfd : getOnlineUserFd server.online request.peerUsernameStr = some peerFd)
      (honline : server'.online = server.online)
      (hthreads : server'.threads = server.threads.set index
        ⟨session, .delivering request peerFd (holderOf server.threads peerFd)⟩) :
      ThreadEffect server (.advance index access written) server'
  | reset {index access written session request server'}
      (hat : At server index session (.handling request))
      (htype : request.requestType = RequestType.authLogin.code)
      (hstatus : serverValidateLogin access server.userDb request ≠ .ok)
      (honline : server'.online = server.online)
      (hthreads : server'.threads = server.threads.set index ⟨resetSession session, .reading⟩) :
      ThreadEffect server (.advance index access written) server'
  | registered {index access written session request server'} {slot : Fin chatMaxOnlineUsers}
      (hat : At server index session (.loginValidated request))
      (hnew : ∀ fd, ¬ Holds server.online request.usernameStr fd)
      (hfree : (server.online.slot slot).active = false)
      (honline : server'.online =
        server.online.set slot ⟨true, session.clientFd, .ofStr _ request.usernameStr⟩ slot.isLt)
      (hthreads : server'.threads =
        server.threads.set index ⟨session, .loginRegistered request⟩) :
      ThreadEffect server (.advance index access written) server'
  | loggedIn {index access written session request server'}
      (hat : At server index session (.loginRegistered request))
      (honline : server'.online = server.online)
      (hthreads : server'.threads =
        server.threads.set index ⟨loggedInSession session request, .reading⟩) :
      ThreadEffect server (.advance index access written) server'
  | left {index access written session server'} (hat : At server index session .leaving)
      (honline : server'.online = unregisterOnlineUser server.online session.username.val)
      (hthreads : server'.threads = server.threads.set index ⟨session, .closing⟩) :
      ThreadEffect server (.advance index access written) server'
  | closed {index access written session server'} (hat : At server index session .closing)
      (honline : server'.online = server.online)
      (hthreads : server'.threads = server.threads.set index ⟨session, .ended⟩) :
      ThreadEffect server (.advance index access written) server'

/-- Selecting an online peer leaves the login alone. -/
theorem sameLogin_selectOnlinePeer (online : OnlineUsers) (session : ClientSession)
    (request : RequestPtr) : SameLogin session (selectOnlinePeer online session request).1 := by
  unfold selectOnlinePeer
  split <;> exact ⟨rfl, rfl, rfl⟩

/-- A failed login resets the session. -/
theorem loginFailed_session (session : ClientSession) (request : RequestPtr)
    (status : ResponseStatus) : (loginFailed session request status).1 = resetSession session := by
  unfold loginFailed
  simp only
  split <;> rfl

/-- What a thread does with a request up to the next access to what the threads share, in the order
    in which it compares the types. -/
inductive FirstPiece (server : ThreadedServer) (session : ClientSession) (request : RequestPtr)
    (access : FileAccess) : ThreadStep → Prop
  | registers (htype : request.requestType = RequestType.authRegister.code) :
      FirstPiece server session request access
        ⟨(handleRegisterRequest access server.userDb session request).1, server.online,
          ⟨session, .reading⟩, (handleRegisterRequest access server.userDb session request).2⟩
  | validated (htype : request.requestType = RequestType.authLogin.code)
      (hstatus : serverValidateLogin access server.userDb request = .ok) :
      FirstPiece server session request access
        ⟨server.userDb, server.online, ⟨session, .loginValidated request⟩, []⟩
  | rejected (status : ResponseStatus) (htype : request.requestType = RequestType.authLogin.code)
      (hstatus : serverValidateLogin access server.userDb request ≠ .ok) :
      FirstPiece server session request access
        ⟨server.userDb, server.online, ⟨resetSession session, .reading⟩,
          (loginFailed session request status).2⟩
  | unselected (status : ResponseStatus) (payload : String)
      (htype : request.requestType = RequestType.chatSelectPeer.code) :
      FirstPiece server session request access
        ⟨server.userDb, server.online, ⟨session, .reading⟩,
          [selectPeerAck session request status payload]⟩
  | selects (htype : request.requestType = RequestType.chatSelectPeer.code) :
      FirstPiece server session request access
        ⟨server.userDb, server.online, ⟨session, .selecting request⟩, []⟩
  | refused {ack : Write} (htype : request.requestType = RequestType.chatMessage.code)
      (hrefused : chatRefused session request = some ack) :
      FirstPiece server session request access
        ⟨server.userDb, server.online, ⟨session, .reading⟩, [ack]⟩
  | offline (htype : request.requestType = RequestType.chatMessage.code) :
      FirstPiece server session request access
        ⟨server.userDb, server.online, ⟨session, .reading⟩, [chatAck session request false]⟩
  | lookedUp {peerFd : Nat} (htype : request.requestType = RequestType.chatMessage.code)
      (hrefused : chatRefused session request = none)
      (hfd : getOnlineUserFd server.online request.peerUsernameStr = some peerFd) :
      FirstPiece server session request access
        ⟨server.userDb, server.online,
          ⟨session, .delivering request peerFd (holderOf server.threads peerFd)⟩, []⟩
  | logsOut (htype : request.requestType = RequestType.logout.code) :
      FirstPiece server session request access
        ⟨server.userDb, server.online, ⟨session, .leaving⟩, [logoutAck session request]⟩
  | invalid (hlogin : request.requestType ≠ RequestType.authLogin.code)
      (hlogout : request.requestType ≠ RequestType.logout.code) :
      FirstPiece server session request access
        ⟨server.userDb, server.online, ⟨session, .reading⟩, [invalidRequestAck session request]⟩

theorem firstPiece {server : ThreadedServer} {session : ClientSession} {request : RequestPtr}
    {access : FileAccess} {written : Bool} {next : ThreadStep}
    (h : advanceThread server ⟨session, .handling request⟩ access written = some next) :
    FirstPiece server session request access next := by
  -- the branches of `client_thread_main` in their order, with those of each handler in it
  unfold advanceThread at h
  simp only at h
  split at h
  · rename_i htype
    cases h
    exact .registers htype
  · split at h
    · rename_i htype
      split at h
      · rename_i hstatus
        cases h
        exact .validated htype hstatus
      · rename_i hstatus
        cases h
        rw [loginFailed_session]
        exact .rejected _ htype hstatus
    · rename_i hlogin
      split at h
      · rename_i htype
        split at h
        · cases h
          exact .unselected _ _ htype
        · split at h <;> cases h
          · exact .unselected _ _ htype
          · exact .selects htype
      · split at h
        · rename_i htype
          split at h
          · rename_i hrefused
            cases h
            exact .refused htype hrefused
          · rename_i hrefused
            split at h
            · cases h
              exact .offline htype
            · rename_i hfd
              cases h
              exact .lookedUp htype hrefused hfd
        · split at h
          · rename_i htype
            cases h
            exact .logsOut htype
          · rename_i hlogout
            cases h
            exact .invalid hlogin hlogout

/-- The effect of the first piece of a handler. -/
theorem threadEffect_handling {server : ThreadedServer} {index : Nat} {session : ClientSession}
    {request : RequestPtr} {access : FileAccess} {written : Bool} {next : ThreadStep}
    (hat : At server index session (.handling request))
    (h : advanceThread server ⟨session, .handling request⟩ access written = some next) :
    ThreadEffect server (.advance index access written)
      ⟨next.userDb, next.online, server.threads.set index next.thread⟩ := by
  -- one case for each first piece that a handler can have
  cases firstPiece h with
  | registers => exact .moved hat rfl rfl rfl ⟨rfl, rfl, rfl⟩ rfl rfl
  | validated _ hstatus => exact .validated hat hstatus rfl rfl
  | rejected _ htype hstatus => exact .reset hat htype hstatus rfl rfl
  | unselected => exact .moved hat rfl rfl rfl ⟨rfl, rfl, rfl⟩ rfl rfl
  | selects => exact .moved hat rfl rfl rfl ⟨rfl, rfl, rfl⟩ rfl rfl
  | refused => exact .moved hat rfl rfl rfl ⟨rfl, rfl, rfl⟩ rfl rfl
  | offline => exact .moved hat rfl rfl rfl ⟨rfl, rfl, rfl⟩ rfl rfl
  | lookedUp _ _ hfd => exact .lookedUp hat hfd rfl rfl
  | logsOut => exact .moved hat rfl rfl rfl ⟨rfl, rfl, rfl⟩ rfl rfl
  | invalid => exact .moved hat rfl rfl rfl ⟨rfl, rfl, rfl⟩ rfl rfl

/-- The effect of an advancing thread. -/
theorem threadEffect_advance {server : ThreadedServer} {index : Nat} {session : ClientSession}
    {pc : ThreadPc} {access : FileAccess} {written : Bool} {next : ThreadStep}
    (hat : At server index session pc)
    (h : advanceThread server ⟨session, pc⟩ access written = some next) :
    ThreadEffect server (.advance index access written)
      ⟨next.userDb, next.online, server.threads.set index next.thread⟩ := by
  cases pc with
  | reading => cases h
  | handling request => exact threadEffect_handling hat h
  | loginValidated request =>
    -- the table of online users is full, or has a slot for the session
    rcases registerOnlineUser_cases server.online request.usernameStr session.clientFd with
      ⟨-, heq⟩ | ⟨hnew, slot, hfree, heq⟩ <;>
      simp only [advanceThread, heq] at h <;> cases h
    · exact .moved hat rfl rfl rfl ⟨rfl, rfl, rfl⟩ rfl rfl
    · exact .registered hat hnew hfree rfl rfl
  | loginRegistered request => cases h; exact .loggedIn hat rfl rfl
  | selecting request =>
    cases h
    exact .moved hat rfl rfl rfl (sameLogin_selectOnlinePeer ..) rfl rfl
  | delivering request peerFd holder =>
    cases h
    exact .moved hat rfl rfl rfl ⟨rfl, rfl, rfl⟩ rfl rfl
  | leaving => cases h; exact .left hat rfl rfl
  | closing => cases h; exact .closed hat rfl rfl
  | ended => cases h

/-- Every step has one of the effects. -/
theorem threadEffect_of_next {server server' : ThreadedServer} {event : ThreadEvent}
    (h : nextThreaded server event = some server') : ThreadEffect server event server' := by
  obtain ⟨⟨server', writes⟩, hstep, rfl⟩ := Option.map_eq_some_iff.mp h
  cases event with
  | accept fd =>
    obtain ⟨hfree, -, rfl⟩ := threadedStep_accept hstep
    exact .accepted hfree rfl rfl
  | read index request =>
    obtain ⟨session, hat, -, rfl⟩ := threadedStep_read hstep
    refine .moved hat rfl rfl ?_ ⟨rfl, rfl, rfl⟩ rfl rfl
    cases request <;> rfl
  | advance index access written =>
    obtain ⟨session, pc, next, hat, hnext, -, rfl⟩ := threadedStep_advance hstep
    exact threadEffect_advance hat hnext

/-! ## The invariant -/

/-- The request of a login whose credentials were found right. -/
def loginRequest : ThreadPc → Option RequestPtr
  | .loginValidated request | .loginRegistered request => some request
  | _ => none

/-- The name that the thread has registered and not yet put into its session. -/
def pendingName : ThreadPc → Option (List UInt8)
  | .loginRegistered request => some request.usernameStr
  | _ => none

/-- The session, or the login that it is about to complete, is under the name. -/
def Under (session : ClientSession) (pc : ThreadPc) (name : List UInt8) : Prop :=
  (session.authenticated = true ∧ session.username.val = name) ∨ pendingName pc = some name

/-- The claim of a live connection on a name. -/
def ThreadClaims (server : ThreadedServer) (index : Nat) (name : List UInt8) (fd : Nat) : Prop :=
  ∃ session pc, At server index session pc ∧ pc.isLive = true ∧ session.clientFd = fd ∧
    Under session pc name

/-- What every step of every thread keeps. -/
structure ThreadInv (server : ThreadedServer) : Prop where
  fds : ∀ i j session session' pc pc', At server i session pc → At server j session' pc' →
    pc.isOpen = true → pc'.isOpen = true → session.clientFd = session'.clientFd → i = j
  unnamed : ∀ i session pc, At server i session pc → session.authenticated = false →
    session.username.val = []
  requests : ∀ i session pc, At server i session pc → ∀ request, loginRequest pc = some request →
    request.usernameStr ≠ [] ∧ request.usernameStr.length ≤ 31
  claimed : Claimed server.online (ThreadClaims server)

theorem threadInv_start (userDb : List UInt8) : ThreadInv (.start userDb) where
  fds := fun i _ _ _ _ _ h => by simp [At, ThreadedServer.start] at h
  unnamed := fun i _ _ h => by simp [At, ThreadedServer.start] at h
  requests := fun i _ _ h => by simp [At, ThreadedServer.start] at h
  claimed := ⟨distinctNames_zero,
    fun i _ _ h => by simp [ThreadClaims, At, ThreadedServer.start] at h,
    fun i _ _ h => by simp [ThreadClaims, At, ThreadedServer.start] at h⟩

theorem isOpen_of_isLive {pc : ThreadPc} (h : pc.isLive = true) : pc.isOpen = true := by
  cases pc <;> first | rfl | exact h

theorem isLive_of_inLoop {pc : ThreadPc} (h : InLoop pc = true) : pc.isLive = true := by
  cases pc <;> first | rfl | exact h

theorem isOpen_of_inLoop {pc : ThreadPc} (h : InLoop pc = true) : pc.isOpen = true :=
  isOpen_of_isLive (isLive_of_inLoop h)

theorem plain_none {pc : ThreadPc} (h : Plain pc = true) :
    loginRequest pc = none ∧ pendingName pc = none := by
  cases pc <;> first | exact ⟨rfl, rfl⟩ | cases h

section Step

variable {server server' : ThreadedServer} {index : Nat} {session session' : ClientSession}
  {pc pc' : ThreadPc}

/-- One thread is at one place. -/
theorem At.unique (h : At server index session pc) (h' : At server index session' pc') :
    session' = session ∧ pc' = pc := by
  have := h'.symm.trans h
  simpa using this

/-- The threads after one of them has moved. -/
theorem at_set (hat : At server index session pc)
    (hthreads : server'.threads = server.threads.set index ⟨session', pc'⟩) {i : Nat}
    {s : ClientSession} {p : ThreadPc} :
    At server' i s p ↔
      (i = index ∧ s = session' ∧ p = pc') ∨ (i ≠ index ∧ At server i s p) := by
  unfold At
  rw [hthreads, Records.getElem?_set_eq_some hat]
  simp

/-- The claims after one thread has moved: its own, and the old ones of the others. -/
theorem ThreadClaims.of_set (hat : At server index session pc)
    (hthreads : server'.threads = server.threads.set index ⟨session', pc'⟩) {i : Nat}
    {name : List UInt8} {fd : Nat} (h : ThreadClaims server' i name fd) :
    (i = index ∧ pc'.isLive = true ∧ session'.clientFd = fd ∧ Under session' pc' name) ∨
      (i ≠ index ∧ ThreadClaims server i name fd) := by
  obtain ⟨s, p, hs, hlive, hfd, hunder⟩ := h
  rcases (at_set hat hthreads).mp hs with ⟨rfl, rfl, rfl⟩ | ⟨hi, hs⟩
  · exact .inl ⟨rfl, hlive, hfd, hunder⟩
  · exact .inr ⟨hi, s, p, hs, hlive, hfd, hunder⟩

/-- One descriptor cannot carry the claims of two connections. -/
theorem ThreadInv.claims_fds (h : ThreadInv server) (i j : Nat) (name name' : List UInt8) (fd : Nat)
    (hi : ThreadClaims server i name fd) (hj : ThreadClaims server j name' fd) : i = j := by
  obtain ⟨s, p, hs, hlive, hfd, -⟩ := hi
  obtain ⟨s', p', hs', hlive', hfd', -⟩ := hj
  exact h.fds i j s s' p p' hs hs' (isOpen_of_isLive hlive) (isOpen_of_isLive hlive')
    (hfd.trans hfd'.symm)

/-- A thread that has moved, in a table where all claims are still held, keeps the invariant. -/
theorem ThreadInv.set (h : ThreadInv server) (hat : At server index session pc)
    (hthreads : server'.threads = server.threads.set index ⟨session', pc'⟩)
    (hfd : session'.clientFd = session.clientFd)
    (hopen : pc'.isOpen = true → pc.isOpen = true)
    (hunnamed : session'.authenticated = false → session'.username.val = [])
    (hrequest : ∀ request, loginRequest pc' = some request →
      request.usernameStr ≠ [] ∧ request.usernameStr.length ≤ 31)
    (hclaimed : Claimed server'.online (ThreadClaims server')) : ThreadInv server' := by
  refine ⟨?_, ?_, ?_, hclaimed⟩
  · intro i j s s' p p' hi hj hp hp' hss
    -- one of the two has moved, or neither
    rcases (at_set hat hthreads).mp hi with ⟨rfl, rfl, rfl⟩ | ⟨-, hi⟩ <;>
      rcases (at_set hat hthreads).mp hj with ⟨rfl, rfl, rfl⟩ | ⟨-, hj⟩
    · rfl
    · -- the thread that has moved was open before, with the same descriptor
      exact h.fds _ _ _ _ _ _ hat hj (hopen hp) hp' (hfd.symm.trans hss)
    · exact h.fds _ _ _ _ _ _ hi hat hp (hopen hp') (hss.trans hfd)
    · exact h.fds _ _ _ _ _ _ hi hj hp hp' hss
  · -- a session without a name cannot have been given one by this step
    intro i s p hi hs
    rcases (at_set hat hthreads).mp hi with ⟨rfl, rfl, rfl⟩ | ⟨-, hi⟩
    · exact hunnamed hs
    · exact h.unnamed i s p hi hs
  · -- nor can a login have begun with a name that is too long
    intro i s p hi request hreq
    rcases (at_set hat hthreads).mp hi with ⟨rfl, rfl, rfl⟩ | ⟨-, hi⟩
    · exact hrequest request hreq
    · exact h.requests i s p hi request hreq

/-- The claims stay in a table that the step does not touch, when the thread claims nothing new. -/
theorem ThreadInv.claimed_quiet (h : ThreadInv server) (hat : At server index session pc)
    (hthreads : server'.threads = server.threads.set index ⟨session', pc'⟩)
    (hfd : session'.clientFd = session.clientFd) (honline : server'.online = server.online)
    (hlive : pc'.isLive = true → pc.isLive = true)
    (hunder : ∀ name, Under session' pc' name → Under session pc name) :
    Claimed server'.online (ThreadClaims server') := by
  rw [honline]
  apply h.claimed.mono
  intro i name fd hi
  rcases hi.of_set hat hthreads with ⟨rfl, hl, hf, hu⟩ | ⟨-, hi⟩
  · exact ⟨session, pc, hat, hlive hl, hfd.symm.trans hf, hunder name hu⟩
  · exact hi

/-- Without a pending name, a session with the same login is under the same name. -/
theorem Under.of_same (hsame : SameLogin session session') (hpc : pendingName pc' = none)
    {name : List UInt8} (h : Under session' pc' name) : Under session pc name := by
  rcases h with ⟨hauth, hname⟩ | hpending
  · exact .inl ⟨hsame.authenticated ▸ hauth, hsame.username ▸ hname⟩
  · rw [hpc] at hpending
    cases hpending

/-- Steps that change neither the table nor what the thread claims. -/
theorem ThreadInv.quiet (h : ThreadInv server) (hat : At server index session pc)
    (hthreads : server'.threads = server.threads.set index ⟨session', pc'⟩)
    (honline : server'.online = server.online) (hsame : SameLogin session session')
    (hopen : pc.isOpen = true) (hlive : pc'.isLive = true → pc.isLive = true)
    (hpending : pendingName pc' = none)
    (hrequest : ∀ request, loginRequest pc' = some request →
      request.usernameStr ≠ [] ∧ request.usernameStr.length ≤ 31) : ThreadInv server' := by
  refine h.set hat hthreads hsame.clientFd (fun _ => hopen) ?_ hrequest
    (h.claimed_quiet hat hthreads hsame.clientFd honline hlive fun _ => .of_same hsame hpending)
  intro hauth
  rw [hsame.username]
  exact h.unnamed _ _ _ hat (hsame.authenticated ▸ hauth)

end Step

/-- A descriptor without a holder is that of no open thread. -/
theorem holderOf_eq_none {server : ThreadedServer} {fd : Nat}
    (h : holderOf server.threads fd = none) {i : Nat} {s : ClientSession} {p : ThreadPc}
    (hat : At server i s p) (hopen : p.isOpen = true) : s.clientFd ≠ fd := by
  intro hfd
  have hfalse := List.findIdx?_eq_none_iff.mp h ⟨s, p⟩ (List.mem_of_getElem? hat)
  simp [hopen, hfd] at hfalse

/-- Accepting a connection keeps the invariant. -/
theorem ThreadInv.accept {server server' : ThreadedServer} (h : ThreadInv server) {fd : Nat}
    (hfree : holderOf server.threads fd = none) (honline : server'.online = server.online)
    (hthreads : server'.threads = server.threads ++ [⟨.fresh fd, .reading⟩]) :
    ThreadInv server' := by
  -- a thread is the new one or one of the old ones
  have hats : ∀ i s p, At server' i s p →
      (i = server.threads.length ∧ s = .fresh fd ∧ p = .reading) ∨ At server i s p := by
    intro i s p hi
    unfold At at hi ⊢
    rw [hthreads, Records.getElem?_concat_eq_some] at hi
    simpa using hi
  refine ⟨?_, ?_, ?_, ?_⟩
  · intro i j s s' p p' hi hj hp hp' hss
    rcases hats i s p hi with ⟨rfl, rfl, rfl⟩ | hi <;>
      rcases hats j s' p' hj with ⟨rfl, rfl, rfl⟩ | hj
    · rfl
    · -- no open thread has the descriptor that `accept` returns
      exact absurd hss.symm (holderOf_eq_none hfree hj hp')
    · exact absurd hss (holderOf_eq_none hfree hi hp)
    · exact h.fds _ _ _ _ _ _ hi hj hp hp' hss
  · intro i s p hi hs
    rcases hats i s p hi with ⟨-, rfl, -⟩ | hi
    · rfl
    · exact h.unnamed i s p hi hs
  · intro i s p hi request hreq
    rcases hats i s p hi with ⟨-, -, rfl⟩ | hi
    · cases hreq
    · exact h.requests i s p hi request hreq
  · rw [honline]
    apply h.claimed.mono
    rintro i name fd' ⟨s, p, hs, hlive, hfd', hunder⟩
    rcases hats i s p hs with ⟨-, rfl, rfl⟩ | hs
    · -- a fresh session is under no name
      rcases hunder with ⟨hauth, -⟩ | hpending
      · exact absurd hauth (by simp [ClientSession.fresh])
      · cases hpending
    · exact ⟨s, p, hs, hlive, hfd', hunder⟩

/-- A step of any thread keeps the invariant. -/
theorem ThreadInv.step {server server' : ThreadedServer} {event : ThreadEvent}
    (h : ThreadInv server) (hstep : nextThreaded server event = some server') :
    ThreadInv server' := by
  cases threadEffect_of_next hstep with
  | accepted hfree honline hthreads => exact h.accept hfree honline hthreads
  | moved hat _ hpc hpc' hsame honline hthreads =>
    obtain ⟨hrequest, hpending⟩ := plain_none hpc'
    exact h.quiet hat hthreads honline hsame (isOpen_of_inLoop hpc)
      (fun _ => isLive_of_inLoop hpc) hpending (fun request hr => by simp [hrequest] at hr)
  | validated hat hstatus honline hthreads =>
    refine h.quiet hat hthreads honline ⟨rfl, rfl, rfl⟩ rfl (fun _ => rfl) rfl ?_
    intro request' hrequest
    cases hrequest
    exact login_ok_length hstatus
  | lookedUp hat _ honline hthreads =>
    exact h.quiet hat hthreads honline ⟨rfl, rfl, rfl⟩ rfl (fun _ => rfl) rfl
      (fun _ hr => by cases hr)
  | reset hat _ _ honline hthreads =>
    refine h.set hat hthreads rfl (fun _ => rfl) (fun _ => rfl) (fun _ hr => by cases hr)
      (h.claimed_quiet hat hthreads rfl honline (fun _ => rfl) ?_)
    rintro name (⟨hauth, -⟩ | hpending)
    · exact absurd hauth (by simp [resetSession])
    · cases hpending
  | @registered index _ _ session request _ slot hat hnew hfree honline hthreads =>
    obtain ⟨hne, hlen⟩ := h.requests _ _ _ hat request rfl
    refine h.set hat hthreads rfl (fun _ => rfl) (h.unnamed _ _ _ hat)
      (fun request' hr => by cases hr; exact ⟨hne, hlen⟩) ?_
    rw [honline]
    apply h.claimed.register hfree (CString.zero_notMem_cstr _) hne hlen hnew
    intro i name fd hi
    rcases hi.of_set hat hthreads with ⟨rfl, -, hfd, hauth | hpending⟩ | ⟨-, hi⟩
    · exact .inl ⟨session, _, hat, rfl, hfd, .inl hauth⟩
    · cases hpending
      exact .inr ⟨rfl, hfd.symm⟩
    · exact .inl hi
  | @loggedIn index _ _ session request _ hat honline hthreads =>
    obtain ⟨hne, hlen⟩ := h.requests _ _ _ hat request rfl
    refine h.set hat hthreads rfl (fun _ => rfl) (fun hauth => by simp [loggedInSession] at hauth)
      (fun _ hr => by cases hr)
      (h.claimed_quiet hat hthreads rfl honline (fun _ => rfl) ?_)
    -- the name moves from the program counter into the session
    rintro name (⟨-, hname⟩ | hpending)
    · refine .inr ?_
      rw [← hname]
      exact congrArg some (ofStr_username_val (CString.zero_notMem_cstr _) hlen).symm
    · cases hpending
  | @left index _ _ session _ hat honline hthreads =>
    refine h.set hat hthreads rfl (fun _ => rfl) (h.unnamed _ _ _ hat)
      (fun _ hr => by cases hr) ?_
    rw [honline]
    apply h.claimed.unregister index _ h.claims_fds
    · intro i name fd hi
      rcases hi.of_set hat hthreads with ⟨-, hlive, -⟩ | ⟨hi, hold⟩
      · cases hlive
      · exact ⟨hold, hi⟩
    · cases hauth : session.authenticated with
      | false => exact .inl (h.unnamed _ _ _ hat hauth)
      | true => exact .inr ⟨_, session, _, hat, rfl, rfl, .inl ⟨hauth, rfl⟩⟩
  | @closed index _ _ session _ hat honline hthreads =>
    refine h.set hat hthreads rfl (fun hopen => by cases hopen) (h.unnamed _ _ _ hat)
      (fun _ hr => by cases hr)
      (h.claimed_quiet hat hthreads rfl honline (fun hlive => by cases hlive) ?_)
    rintro name (hauth | hpending)
    · exact .inl hauth
    · cases hpending

/-! ## One live session -/

/-- A live connection that is logged in, with the account in its session. -/
def LiveLogin (server : ThreadedServer) (index : Nat) (session : ClientSession) : Prop :=
  ∃ pc, At server index session pc ∧ pc.isLive = true ∧ session.authenticated = true

/-- The slot is active and carries the session's name and descriptor. -/
def SlotOf (session : ClientSession) (user : OnlineUser) : Prop :=
  user.active = true ∧ user.username = session.username ∧ user.clientFd = session.clientFd

/-- An account has one live session, and that session has a slot which no step of another thread
    touches. -/
structure OneSession (server : ThreadedServer) : Prop where
  sessions : ∀ i j session session', LiveLogin server i session → LiveLogin server j session' →
    session.username = session'.username → i = j
  slots : DistinctNames server.online
  owned : ∀ i session, LiveLogin server i session →
    ∃ slot : Fin chatMaxOnlineUsers, SlotOf session (server.online.slot slot)
  kept : ∀ i session, LiveLogin server i session →
    ∀ slot : Fin chatMaxOnlineUsers, SlotOf session (server.online.slot slot) →
      ∀ event server', eventThread event ≠ some i → nextThreaded server event = some server' →
        server'.online.slot slot = server.online.slot slot

/-- A live session has a claim on its name. -/
theorem LiveLogin.claims {server : ThreadedServer} {index : Nat} {session : ClientSession}
    (h : LiveLogin server index session) :
    ThreadClaims server index session.username.val session.clientFd := by
  obtain ⟨pc, hat, hlive, hauth⟩ := h
  exact ⟨session, pc, hat, hlive, rfl, .inl ⟨hauth, rfl⟩⟩

/-- A step of another thread leaves the slot of a live session alone. -/
theorem ThreadInv.slot_kept {server server' : ThreadedServer} (h : ThreadInv server)
    {event : ThreadEvent} {i : Nat} {session : ClientSession} (hlogin : LiveLogin server i session)
    {slot : Fin chatMaxOnlineUsers} (hslot : SlotOf session (server.online.slot slot))
    (hother : eventThread event ≠ some i) (hstep : nextThreaded server event = some server') :
    server'.online.slot slot = server.online.slot slot := by
  cases threadEffect_of_next hstep with
  | @registered _ _ _ _ _ _ free _ _ hfree honline _ =>
    have hne : (free : Nat) ≠ slot := by
      intro heq
      obtain rfl := Fin.ext heq
      exact absurd (hfree.symm.trans hslot.1) (by decide)
    rw [honline]
    exact Vector.getElem_set_ne _ _ hne
  | @left index _ _ leaver _ hat honline _ =>
    rw [honline]
    rcases unregisterOnlineUser_cases server.online leaver.username.val with
      ⟨-, heq⟩ | ⟨-, heq⟩ | ⟨hne, cleared, hactive, hname, heq⟩
    · rw [heq]
    · rw [heq]
    · rw [heq]
      apply Vector.getElem_set_ne
      intro hcleared
      obtain rfl := Fin.ext hcleared
      -- the leaver has the same name, hence the same descriptor, hence is the same connection
      have hauth : leaver.authenticated = true := by
        by_contra hno
        exact hne (h.unnamed _ _ _ hat (Bool.eq_false_iff.mpr hno))
      have hleaver : ThreadClaims server index leaver.username.val leaver.clientFd :=
        ⟨leaver, _, hat, rfl, rfl, .inl ⟨hauth, rfl⟩⟩
      have hnames : leaver.username.val = session.username.val := by rw [← hname, hslot.2.1]
      have hfds := h.claimed.distinct.holds_unique (h.claimed.holds _ _ _ hleaver)
        (hnames ▸ h.claimed.holds _ _ _ hlogin.claims)
      have hindex := h.claims_fds index i _ _ _ hleaver (hfds ▸ hlogin.claims)
      exact hother (congrArg some hindex)
  | accepted _ honline _ => rw [honline]
  | moved _ _ _ _ _ honline _ => rw [honline]
  | validated _ _ honline _ => rw [honline]
  | lookedUp _ _ honline _ => rw [honline]
  | reset _ _ _ honline _ => rw [honline]
  | loggedIn _ honline _ => rw [honline]
  | closed _ honline _ => rw [honline]

/-- The invariant gives the property. -/
theorem ThreadInv.oneSession {server : ThreadedServer} (h : ThreadInv server) :
    OneSession server where
  sessions := by
    intro i j session session' hi hj hname
    have hfds := h.claimed.distinct.holds_unique (h.claimed.holds _ _ _ hi.claims)
      (hname ▸ h.claimed.holds _ _ _ hj.claims)
    exact h.claims_fds i j _ _ _ hi.claims (hfds ▸ hj.claims)
  slots := h.claimed.distinct
  owned := by
    intro i session hi
    obtain ⟨slot, hactive, hname, hfd⟩ := h.claimed.holds _ _ _ hi.claims
    exact ⟨slot, hactive, CString.ext hname, hfd⟩
  kept := fun _ _ hi _ hslot _ _ hother hstep => h.slot_kept hi hslot hother hstep

/-- **One live session for each account**, in every state that any schedule of the threads
    reaches. -/
theorem oneSession_of_run {userDb : List UInt8} {events : List ThreadEvent}
    {server : ThreadedServer}
    (h : Transition.run nextThreaded (.start userDb) events = some server) : OneSession server :=
  (Transition.run_invariant (fun _ _ _ hinv hstep => hinv.step hstep) (threadInv_start userDb)
    h).oneSession

/-- A connection logs in as `amy`, piece by piece. -/
def amyLogsIn : List ThreadEvent :=
  [.accept 4, .read 0 (some (loginAs "amy" "ok")), .advance 0 .all true, .advance 0 .all true,
    .advance 0 .all true]

theorem oneSession_amy :
    ∃ server, Transition.run nextThreaded (.start amyDb) amyLogsIn = some server ∧
      OneSession server := by
  have hsome : (Transition.run nextThreaded (.start amyDb) amyLogsIn).isSome = true := by
    decide +kernel
  obtain ⟨server, hserver⟩ := Option.isSome_iff_exists.mp hsome
  exact ⟨server, hserver, oneSession_of_run hserver⟩

end ChatSC.Spec
