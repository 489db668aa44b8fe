import ChatSC.Spec.ServerThreads

/-!
# Deliveries and their addressees

`handle_chat_request` looks a descriptor up under the lock of the table and writes to it after the
lock is released.  `Addressed` says that a step writes a delivery only to a connection whose session
is logged in under the peer name in it.

Three kinds of step can lead to a delivery that goes elsewhere; `DeliverySafe` excludes them, and
`deliveries_addressed` shows that there are no others:

* a login request on a connection that is logged in and that is not refused leaves a slot behind
  that its session does not stand for any more,
* the descriptor is closed after the lookup and `accept` hands the number to another connection,
* the slot is written before the session is, so a peer can be found before it is logged in.
-/

namespace ChatSC.Spec

open Native

/-! ## What is written -/

/-- Every delivery that the step writes goes to a connection that is logged in under the peer name
    of the delivery at that moment. -/
def Addressed (server : ThreadedServer) (event : ThreadEvent) : Prop :=
  ∀ server' writes, threadedStep server event = some (server', writes) →
    ∀ write ∈ writes, write.response.responseType = ResponseType.chatDelivery.code →
      ∀ index session pc, At server index session pc → pc.isOpen = true →
        session.clientFd = write.clientFd →
        session.authenticated = true ∧
          session.username.val = cstr write.response.peerUsername.bytes

/-- The responses that `send_ack` writes. -/
def IsAck (write : Write) : Prop := write.response.responseType = ResponseType.ack.code

theorem isAck_chatAck (session : ClientSession) (request : RequestPtr) (written : Bool) :
    IsAck (chatAck session request written) := by
  unfold chatAck
  split <;> rfl

theorem isAck_chatRefused {session : ClientSession} {request : RequestPtr} {ack : Write}
    (h : chatRefused session request = some ack) : IsAck ack := by
  unfold chatRefused at h
  split at h
  · cases h; rfl
  · split at h
    · cases h; rfl
    · cases h

theorem isAck_register {access : FileAccess} {userDb : List UInt8} {session : ClientSession}
    {request : RequestPtr} {write : Write}
    (h : write ∈ (handleRegisterRequest access userDb session request).2) : IsAck write := by
  unfold handleRegisterRequest at h
  simp only at h
  split at h <;> (rw [List.mem_singleton.mp h]; rfl)

theorem isAck_loginFailed {session : ClientSession} {request : RequestPtr}
    {status : ResponseStatus} {write : Write}
    (h : write ∈ (loginFailed session request status).2) : IsAck write := by
  unfold loginFailed at h
  simp only at h
  split at h <;> (rw [List.mem_singleton.mp h]; rfl)

theorem isAck_selectOnlinePeer {online : OnlineUsers} {session : ClientSession}
    {request : RequestPtr} {write : Write}
    (h : write ∈ (selectOnlinePeer online session request).2) : IsAck write := by
  unfold selectOnlinePeer at h
  split at h <;> (rw [List.mem_singleton.mp h]; rfl)

/-- A thread that handles a request writes acks only. -/
theorem isAck_handling {server : ThreadedServer} {session : ClientSession} {request : RequestPtr}
    {access : FileAccess} {written : Bool} {next : ThreadStep}
    (h : advanceThread server ⟨session, .handling request⟩ access written = some next)
    {write : Write} (hwrite : write ∈ next.writes) : IsAck write := by
  cases firstPiece h with
  | registers => exact isAck_register hwrite
  | rejected => exact isAck_loginFailed hwrite
  | refused _ hrefused =>
    rw [List.mem_singleton.mp hwrite]
    exact isAck_chatRefused hrefused
  | offline =>
    rw [List.mem_singleton.mp hwrite]
    exact isAck_chatAck _ _ _
  -- the others write nothing, or an ack with fixed texts
  | validated => exact absurd hwrite List.not_mem_nil
  | selects => exact absurd hwrite List.not_mem_nil
  | lookedUp => exact absurd hwrite List.not_mem_nil
  | unselected => rw [List.mem_singleton.mp hwrite]; rfl
  | logsOut => rw [List.mem_singleton.mp hwrite]; rfl
  | invalid => rw [List.mem_singleton.mp hwrite]; rfl

/-- What a thread writes is an ack, or the delivery that it has looked the descriptor up for. -/
theorem write_cases {server : ThreadedServer} {session : ClientSession} {pc : ThreadPc}
    {access : FileAccess} {written : Bool} {next : ThreadStep}
    (h : advanceThread server ⟨session, pc⟩ access written = some next) {write : Write}
    (hwrite : write ∈ next.writes) :
    IsAck write ∨ ∃ request peerFd holder, pc = .delivering request peerFd holder ∧
      write = ⟨peerFd, chatDelivery session request⟩ := by
  cases pc with
  | reading => cases h
  | handling request => exact .inl (isAck_handling h hwrite)
  | loginValidated request =>
    rcases registerOnlineUser_cases server.online request.usernameStr session.clientFd with
      ⟨-, heq⟩ | ⟨-, slot, -, heq⟩ <;>
      simp only [advanceThread, heq] at h <;> cases h
    · exact .inl (by rw [List.mem_singleton.mp hwrite]; rfl)
    · exact absurd hwrite (List.not_mem_nil)
  | loginRegistered request =>
    cases h
    exact .inl (by rw [List.mem_singleton.mp hwrite]; rfl)
  | selecting request =>
    cases h
    exact .inl (isAck_selectOnlinePeer hwrite)
  | delivering request peerFd holder =>
    cases h
    -- the delivery comes first, then the acknowledgement to the sender
    rcases List.mem_cons.mp hwrite with rfl | hack
    · exact .inr ⟨request, peerFd, holder, rfl, rfl⟩
    · exact .inl (by rw [List.mem_singleton.mp hack]; exact isAck_chatAck _ _ _)
  | leaving => cases h; exact absurd hwrite (List.not_mem_nil)
  | closing => cases h; exact absurd hwrite (List.not_mem_nil)
  | ended => cases h

/-- A delivery is written by a thread that has looked its descriptor up. -/
theorem delivery_of_step {server server' : ThreadedServer} {event : ThreadEvent}
    {writes : List Write} (hstep : threadedStep server event = some (server', writes))
    {write : Write} (hwrite : write ∈ writes)
    (htype : write.response.responseType = ResponseType.chatDelivery.code) :
    ∃ index access written session request peerFd holder,
      event = .advance index access written ∧
        At server index session (.delivering request peerFd holder) ∧
        write = ⟨peerFd, chatDelivery session request⟩ := by
  cases event with
  -- to accept and to read write nothing
  | accept fd =>
    obtain ⟨-, rfl, -⟩ := threadedStep_accept hstep
    exact absurd hwrite List.not_mem_nil
  | read index request =>
    obtain ⟨-, -, rfl, -⟩ := threadedStep_read hstep
    exact absurd hwrite List.not_mem_nil
  | advance index access written =>
    obtain ⟨session, pc, next, hat, hnext, rfl, -⟩ := threadedStep_advance hstep
    -- every other response is an ack
    rcases write_cases hnext hwrite with hack | ⟨request, peerFd, holder, rfl, hdelivery⟩
    · exact absurd (hack.symm.trans htype) (by decide)
    · exact ⟨index, access, written, session, request, peerFd, holder, rfl, hat, hdelivery⟩

/-! ## The condition -/

/-- The next step of the thread does not lead to a delivery that goes astray: a login request on a
    connection that is logged in is refused after its credentials were found right, and when a
    delivery is written, the descriptor is still, if open at all, that of the connection that had it
    at the lookup, and that connection is not between its registration and its session update. -/
def ThreadSafe (server : ThreadedServer) (access : FileAccess) : ClientThread → Prop
  | ⟨session, .handling request⟩ =>
    request.requestType = RequestType.authLogin.code → session.authenticated = true →
      serverValidateLogin access server.userDb request = .ok
  | ⟨session, .loginValidated request⟩ =>
    session.authenticated = true → Refuses server.online request.usernameStr
  | ⟨_, .delivering _ peerFd holder⟩ =>
    ∀ peer (_ : peer < server.threads.length), server.threads[peer].pc.isOpen = true →
      server.threads[peer].session.clientFd = peerFd →
        holder = some peer ∧ pendingName server.threads[peer].pc = none
  | _ => True

instance (server : ThreadedServer) (access : FileAccess) :
    (thread : ClientThread) → Decidable (ThreadSafe server access thread)
  | ⟨session, .handling request⟩ => inferInstanceAs (Decidable
      (request.requestType = _ → session.authenticated = true → _ = ResponseStatus.ok))
  | ⟨session, .loginValidated request⟩ => inferInstanceAs (Decidable
      (session.authenticated = true → Refuses server.online request.usernameStr))
  | ⟨_, .delivering _ peerFd holder⟩ => inferInstanceAs (Decidable
      (∀ peer (_ : peer < server.threads.length), server.threads[peer].pc.isOpen = true →
        server.threads[peer].session.clientFd = peerFd →
          holder = some peer ∧ pendingName server.threads[peer].pc = none))
  | ⟨_, .reading⟩ | ⟨_, .loginRegistered _⟩ | ⟨_, .selecting _⟩ | ⟨_, .leaving⟩
  | ⟨_, .closing⟩ | ⟨_, .ended⟩ => inferInstanceAs (Decidable True)

/-- The step of a thread is safe; accepting and reading always are. -/
def DeliverySafe (server : ThreadedServer) : ThreadEvent → Prop
  | .advance index access _ => ∀ thread ∈ server.threads[index]?, ThreadSafe server access thread
  | _ => True

instance (server : ThreadedServer) : (event : ThreadEvent) → Decidable (DeliverySafe server event)
  | .accept _ | .read _ _ => inferInstanceAs (Decidable True)
  | .advance index access _ => inferInstanceAs (Decidable
      (∀ thread ∈ server.threads[index]?, ThreadSafe server access thread))

/-- Besides `ThreadInv`: the table holds nothing but claims, a login is only ever pending on a
    connection that is not logged in, and the connection that was found for a delivery has been
    under the peer name ever since. -/
structure DeliveryInv (server : ThreadedServer) : Prop extends ThreadInv server where
  backed : Backed server.online (ThreadClaims server)
  pending : ∀ i session pc, At server i session pc → ∀ name, pendingName pc = some name →
    session.authenticated = false
  found : ∀ i session request peerFd peer,
    At server i session (.delivering request peerFd (some peer)) →
    ∃ peerSession pc, At server peer peerSession pc ∧
      Under peerSession pc request.peerUsernameStr

theorem deliveryInv_start (userDb : List UInt8) : DeliveryInv (.start userDb) where
  toThreadInv := threadInv_start userDb
  backed := fun name fd h => absurd h (not_holds_zero name fd)
  pending := fun i _ _ h => by simp [At, ThreadedServer.start] at h
  found := fun i _ _ _ _ h => by simp [At, ThreadedServer.start] at h

section Step

variable {server server' : ThreadedServer} {index : Nat} {session session' : ClientSession}
  {pc pc' : ThreadPc}

/-- The claims stay when one thread moves and keeps what it is under. -/
theorem threadClaims_of_set (hat : At server index session pc)
    (hthreads : server'.threads = server.threads.set index ⟨session', pc'⟩)
    (hfd : session'.clientFd = session.clientFd)
    (hkeep : ∀ name, pc.isLive = true → Under session pc name →
      pc'.isLive = true ∧ Under session' pc' name) (i : Nat) (name : List UInt8) (fd : Nat)
    (h : ThreadClaims server i name fd) : ThreadClaims server' i name fd := by
  obtain ⟨s, p, hs, hlive, hsfd, hunder⟩ := h
  by_cases hi : i = index
  · subst hi
    obtain ⟨rfl, rfl⟩ := hat.unique hs
    obtain ⟨hlive', hunder'⟩ := hkeep name hlive hunder
    exact ⟨session', pc', (at_set hat hthreads).mpr (.inl ⟨rfl, rfl, rfl⟩), hlive',
      hfd.trans hsfd, hunder'⟩
  · exact ⟨s, p, (at_set hat hthreads).mpr (.inr ⟨hi, hs⟩), hlive, hsfd, hunder⟩

/-- The found connections stay under their names when one thread moves and keeps what it is under,
    and when a new delivery has found its connection under the name. -/
theorem DeliveryInv.found_set (h : DeliveryInv server) (hat : At server index session pc)
    (hthreads : server'.threads = server.threads.set index ⟨session', pc'⟩)
    (hkeep : ∀ name, Under session pc name → Under session' pc' name)
    (hnew : ∀ request peerFd peer, pc' = .delivering request peerFd (some peer) →
      ∃ peerSession p, At server peer peerSession p ∧ Under peerSession p request.peerUsernameStr) :
    ∀ i s request peerFd peer, At server' i s (.delivering request peerFd (some peer)) →
      ∃ peerSession p, At server' peer peerSession p ∧
        Under peerSession p request.peerUsernameStr := by
  intro i s request peerFd peer hi
  -- the delivery is the new one, or it was there before
  have hold : ∃ peerSession p, At server peer peerSession p ∧
      Under peerSession p request.peerUsernameStr := by
    rcases (at_set hat hthreads).mp hi with ⟨-, -, hpc⟩ | ⟨-, hi⟩
    · exact hnew request peerFd peer hpc.symm
    · exact h.found i s request peerFd peer hi
  obtain ⟨peerSession, p, hpeer, hunder⟩ := hold
  -- its connection has moved, or another one
  by_cases heq : peer = index
  · subst heq
    obtain ⟨rfl, rfl⟩ := hat.unique hpeer
    exact ⟨session', pc', (at_set hat hthreads).mpr (.inl ⟨rfl, rfl, rfl⟩), hkeep _ hunder⟩
  · exact ⟨peerSession, p, (at_set hat hthreads).mpr (.inr ⟨heq, hpeer⟩), hunder⟩

/-- A pending login stays on a connection that is not logged in. -/
theorem DeliveryInv.pending_set (h : DeliveryInv server) (hat : At server index session pc)
    (hthreads : server'.threads = server.threads.set index ⟨session', pc'⟩)
    (hnew : ∀ name, pendingName pc' = some name → session'.authenticated = false) :
    ∀ i s p, At server' i s p → ∀ name, pendingName p = some name → s.authenticated = false := by
  intro i s p hi name hname
  rcases (at_set hat hthreads).mp hi with ⟨-, rfl, rfl⟩ | ⟨-, hi⟩
  · exact hnew name hname
  · exact h.pending i s p hi name hname

/-- Under the name with the same login and no login pending before. -/
theorem Under.to_same (hsame : SameLogin session session') (hpc : pendingName pc = none)
    {name : List UInt8} (h : Under session pc name) : Under session' pc' name := by
  rcases h with ⟨hauth, hname⟩ | hpending
  · exact .inl ⟨hsame.authenticated.trans hauth, (congrArg CString.val hsame.username).trans hname⟩
  · rw [hpc] at hpending
    cases hpending

/-- Steps that change neither the table nor who is logged in. -/
theorem DeliveryInv.quiet (h : DeliveryInv server) (hinv : ThreadInv server')
    (hat : At server index session pc)
    (hthreads : server'.threads = server.threads.set index ⟨session', pc'⟩)
    (honline : server'.online = server.online) (hsame : SameLogin session session')
    (hlive : pc.isLive = true → pc'.isLive = true) (hpending : pendingName pc = none)
    (hpending' : pendingName pc' = none)
    (hnew : ∀ request peerFd peer, pc' = .delivering request peerFd (some peer) →
      ∃ peerSession p, At server peer peerSession p ∧ Under peerSession p request.peerUsernameStr) :
    DeliveryInv server' := by
  have hkeep : ∀ name, Under session pc name → Under session' pc' name :=
    fun _ hunder => hunder.to_same hsame hpending
  refine ⟨hinv, ?_, h.pending_set hat hthreads ?_, h.found_set hat hthreads hkeep hnew⟩
  · rw [honline]
    exact h.backed.mono (threadClaims_of_set hat hthreads hsame.clientFd fun name hl hunder =>
      ⟨hlive hl, hkeep name hunder⟩)
  · intro name hname
    rw [hpending'] at hname
    cases hname

end Step

theorem inLoop_pendingName {pc : ThreadPc} (h : InLoop pc = true) : pendingName pc = none := by
  cases pc <;> first | rfl | cases h

theorem plain_isLive {pc : ThreadPc} (h : Plain pc = true) : pc.isLive = true := by
  cases pc <;> first | rfl | cases h

/-- The connection that is found for a descriptor in the table is under the name. -/
theorem DeliveryInv.lookup_found {server : ThreadedServer} (h : DeliveryInv server)
    {username : List UInt8} {peerFd peer : Nat}
    (hfd : getOnlineUserFd server.online username = some peerFd)
    (hpeer : holderOf server.threads peerFd = some peer) :
    ∃ peerSession p, At server peer peerSession p ∧ Under peerSession p username := by
  obtain ⟨i, s, p, hat, hlive, hsfd, hunder⟩ := h.backed _ _ (holds_of_getOnlineUserFd hfd)
  -- the claim's connection has the descriptor, and so has the one that was found
  obtain ⟨hlt, hpred, -⟩ := List.findIdx?_eq_some_iff_getElem.mp hpeer
  simp only [Bool.and_eq_true, decide_eq_true_eq] at hpred
  have hatpeer : At server peer server.threads[peer].session server.threads[peer].pc :=
    List.getElem?_eq_getElem hlt
  obtain rfl := h.fds i peer _ _ _ _ hat hatpeer (isOpen_of_isLive hlive) hpred.1
    (hsfd.trans hpred.2.symm)
  exact ⟨s, p, hat, hunder⟩

/-- A step that meets the condition keeps the invariant. -/
theorem DeliveryInv.step {server server' : ThreadedServer} {event : ThreadEvent}
    (h : DeliveryInv server) (hok : DeliverySafe server event)
    (hstep : nextThreaded server event = some server') : DeliveryInv server' := by
  have hinv : ThreadInv server' := h.toThreadInv.step hstep
  cases threadEffect_of_next hstep with
  | @accepted fd _ _ honline hthreads =>
    have hats : ∀ i s p, At server' i s p ↔
        (i = server.threads.length ∧ s = .fresh fd ∧ p = .reading) ∨ At server i s p := by
      intro i s p
      unfold At
      rw [hthreads, Records.getElem?_concat_eq_some]
      simp
    refine ⟨hinv, ?_, ?_, ?_⟩
    · rw [honline]
      apply h.backed.mono
      rintro i name fd ⟨s, p, hs, hrest⟩
      exact ⟨s, p, (hats i s p).mpr (.inr hs), hrest⟩
    · intro i s p hi name hname
      rcases (hats i s p).mp hi with ⟨-, -, rfl⟩ | hi
      · cases hname
      · exact h.pending i s p hi name hname
    · intro i s request peerFd peer hi
      rcases (hats _ _ _).mp hi with ⟨-, -, hpc⟩ | hi
      · cases hpc
      · obtain ⟨peerSession, p, hpeer, hunder⟩ := h.found i s request peerFd peer hi
        exact ⟨peerSession, p, (hats _ _ _).mpr (.inr hpeer), hunder⟩
  | @moved _ _ _ _ _ pc' _ hat _ hpc hpc' hsame honline hthreads =>
    refine h.quiet hinv hat hthreads honline hsame (fun _ => plain_isLive hpc')
      (inLoop_pendingName hpc) (plain_none hpc').2 ?_
    rintro request peerFd peer rfl
    cases hpc'
  | validated hat _ honline hthreads =>
    exact h.quiet hinv hat hthreads honline ⟨rfl, rfl, rfl⟩ (fun _ => rfl) rfl rfl
      (fun _ _ _ hpc => nomatch hpc)
  | lookedUp hat hfd honline hthreads =>
    refine h.quiet hinv hat hthreads honline ⟨rfl, rfl, rfl⟩ (fun _ => rfl) rfl rfl ?_
    intro request peerFd peer hpc
    obtain ⟨rfl, rfl, hpeer⟩ := ThreadPc.delivering.inj hpc
    exact h.lookup_found hfd hpeer
  | @reset _ access _ session request _ hat htype hstatus honline hthreads =>
    have hauth : session.authenticated = false := by
      by_contra hno
      exact hstatus (hok _ hat htype (by simpa using hno))
    -- the session was not logged in, so the reset leaves it as it was
    have hsame : SameLogin session (resetSession session) :=
      ⟨hauth.symm, rfl, CString.ext (h.unnamed _ _ _ hat hauth).symm⟩
    exact h.quiet hinv hat hthreads honline hsame (fun _ => rfl) rfl rfl
      (fun _ _ _ hpc => nomatch hpc)
  | @registered index _ _ session request _ slot hat hnew hfree honline hthreads =>
    have hauth : session.authenticated = false := by
      by_contra hno
      exact not_refuses hnew hfree (hok _ hat (by simpa using hno))
    have hnone : ∀ name, ¬ Under session (.loginValidated request) name := by
      rintro name (⟨hyes, -⟩ | hpending)
      · exact absurd (hauth.symm.trans hyes) (by decide)
      · cases hpending
    refine ⟨hinv, ?_, h.pending_set hat hthreads fun _ _ => hauth,
      h.found_set hat hthreads (fun name hunder => absurd hunder (hnone name))
        (fun _ _ _ hpc => nomatch hpc)⟩
    rw [honline]
    refine h.backed.register hfree (CString.zero_notMem_cstr _) (h.requests _ _ _ hat request rfl).2
      index (threadClaims_of_set hat hthreads rfl fun name _ hunder => absurd hunder (hnone name)) ?_
    exact ⟨session, _, (at_set hat hthreads).mpr (.inl ⟨rfl, rfl, rfl⟩), rfl, rfl, .inr rfl⟩
  | @loggedIn _ _ _ session request _ hat honline hthreads =>
    have hauth : session.authenticated = false := h.pending _ _ _ hat _ rfl
    have hlen := (h.requests _ _ _ hat request rfl).2
    -- the name moves from the program counter into the session
    have hkeep : ∀ name, Under session (.loginRegistered request) name →
        Under (loggedInSession session request) .reading name := by
      rintro name (⟨hyes, -⟩ | hpending)
      · exact absurd (hauth.symm.trans hyes) (by decide)
      · cases hpending
        exact .inl ⟨rfl, ofStr_username_val (CString.zero_notMem_cstr _) hlen⟩
    refine ⟨hinv, ?_, h.pending_set hat hthreads (fun _ hp => nomatch hp),
      h.found_set hat hthreads hkeep (fun _ _ _ hpc => nomatch hpc)⟩
    rw [honline]
    exact h.backed.mono (threadClaims_of_set hat hthreads rfl fun name _ hunder =>
      ⟨rfl, hkeep name hunder⟩)
  | @left index _ _ session _ hat honline hthreads =>
    refine ⟨hinv, ?_, h.pending_set hat hthreads (fun _ hp => nomatch hp),
      h.found_set hat hthreads (fun _ hunder => hunder.to_same ⟨rfl, rfl, rfl⟩ rfl)
        (fun _ _ _ hpc => nomatch hpc)⟩
    rw [honline]
    apply h.backed.unregister h.claimed index
    · rintro name fd ⟨s, p, hs, -, -, hunder⟩
      obtain ⟨rfl, rfl⟩ := hat.unique hs
      rcases hunder with ⟨-, hname⟩ | hpending
      · exact hname.symm
      · cases hpending
    · rintro i name fd ⟨s, p, hs, hrest⟩ hi
      exact ⟨s, p, (at_set hat hthreads).mpr (.inr ⟨hi, hs⟩), hrest⟩
  | closed hat honline hthreads =>
    refine ⟨hinv, ?_, h.pending_set hat hthreads (fun _ hp => nomatch hp),
      h.found_set hat hthreads (fun _ hunder => hunder.to_same ⟨rfl, rfl, rfl⟩ rfl)
        (fun _ _ _ hpc => nomatch hpc)⟩
    rw [honline]
    exact h.backed.mono (threadClaims_of_set hat hthreads rfl fun _ hlive _ => nomatch hlive)

/-- A step that meets the condition writes deliveries only to their addressees. -/
theorem DeliveryInv.addressed {server : ThreadedServer} {event : ThreadEvent}
    (h : DeliveryInv server) (hok : DeliverySafe server event) : Addressed server event := by
  intro server' writes hstep write hwrite htype peer peerSession pc hpeer hopen hfd
  obtain ⟨index, access, written, session, request, peerFd, holder, rfl, hat, rfl⟩ :=
    delivery_of_step hstep hwrite htype
  -- the descriptor is the found connection's, which has been under the name since
  obtain ⟨hlt, hthread⟩ := List.getElem?_eq_some_iff.mp hpeer
  obtain ⟨rfl, hnone⟩ := hok _ hat peer hlt (by rwa [hthread]) (by rwa [hthread])
  rw [hthread] at hnone
  obtain ⟨s, p, hs, hunder⟩ := h.found _ _ _ _ _ hat
  obtain ⟨rfl, rfl⟩ := hpeer.unique hs
  rcases hunder with ⟨hauth, hname⟩ | hpending
  · refine ⟨hauth, ?_⟩
    show _ = cstr (CharArray.ofStr chatMaxUsername request.peerUsernameStr).bytes
    rw [← hname, CString.cstr_ofStr_val]
  · rw [hnone] at hpending
    cases hpending

/-- **Deliveries go to their addressees** in every run whose steps meet the condition. -/
theorem deliveries_addressed {userDb : List UInt8} {events : List ThreadEvent}
    (h : Transition.Guarded nextThreaded DeliverySafe (.start userDb) events) :
    Transition.Guarded nextThreaded Addressed (.start userDb) events :=
  h.of_invariant (fun _ _ _ hinv hok hstep => hinv.step hok hstep)
    (fun _ _ hinv hok => hinv.addressed hok) (deliveryInv_start userDb)

/-! ## A descriptor that is used again -/

/-- A chat request. -/
def chatTo (peer message : String) : RequestPtr where
  toChatRequest := { ChatRequest.zero with
    requestType := RequestType.chatMessage.code
    peerUsername := .ofStr _ (ascii peer)
    payload := .ofStr _ (ascii message) }
  after := []

/-- `amy` and `bob` log in, and the handler of a message from `amy` to `bob` looks up the descriptor
    of `bob`. -/
def lookUpEvents : List ThreadEvent :=
  amyLogsIn ++
    [.accept 5, .read 1 (some (loginAs "bob" "ok")), .advance 1 .all true, .advance 1 .all true,
      .advance 1 .all true,
      .read 0 (some (chatTo "bob" "hi")), .advance 0 .all true]

/-- Before the message is written, `bob` hangs up and a third connection gets his descriptor. -/
def reuseEvents : List ThreadEvent :=
  lookUpEvents ++
    [.read 1 none, .advance 1 .all true, .advance 1 .all true, .accept 5]

/-- How often the connection sends a login request. -/
def loginReads (index : Nat) (events : List ThreadEvent) : Nat :=
  events.countP fun event =>
    match event with
    | .read i (some request) => i = index ∧ request.requestType = RequestType.authLogin.code
    | _ => false

/-- When `bob` stays, the message is safe. -/
theorem deliveries_addressed_bob :
    Transition.Guarded nextThreaded Addressed (.start amyBobDb)
      (lookUpEvents ++ [.advance 0 .all true]) :=
  deliveries_addressed (by decide +kernel)

/-- What a run leaves of the threads, and what the step behind it writes. -/
def runWrites (events : List ThreadEvent) (event : ThreadEvent) :
    Option (List (Bool × Nat × Bool) × List (Nat × UInt32)) := do
  let server ← Transition.run nextThreaded (.start amyBobDb) events
  let (_, writes) ← threadedStep server event
  return (server.threads.map fun t => (t.pc.isOpen, t.session.clientFd, t.session.authenticated),
    writes.map fun w => (w.clientFd, w.response.responseType))

/-- With one login on each connection the message to `bob` is written to a connection that is not
    logged in at all. -/
theorem reused_descriptor_gets_message :
    ¬ ∀ (userDb : List UInt8) (events : List ThreadEvent),
      (∀ index, loginReads index events ≤ 1) →
        Transition.Guarded nextThreaded Addressed (.start userDb) events := by
  intro h
  have hlogins : ∀ index, loginReads index (reuseEvents ++ [.advance 0 .all true]) ≤ 1 := by
    intro index
    by_cases h0 : index = 0
    · subst h0; decide +kernel
    · by_cases h1 : index = 1
      · subst h1; decide +kernel
      · simp [loginReads, reuseEvents, lookUpEvents, amyLogsIn, Ne.symm h0, Ne.symm h1]
  have hwrites : runWrites reuseEvents (.advance 0 .all true) =
      some ([(true, 4, true), (false, 5, true), (true, 5, false)], [(5, 2), (4, 1)]) := by
    decide +kernel
  simp only [runWrites, Option.bind_eq_bind, Option.bind_eq_some_iff, Option.pure_def,
    Option.some.injEq, Prod.mk.injEq] at hwrites
  obtain ⟨server, hrun, ⟨server', writes⟩, hstep, hthreads, hwritten⟩ := hwrites
  have haddressed := ((h _ _ hlogins).right hrun).1 server' writes hstep
  -- the delivery is written to descriptor 5, which the third connection has
  obtain ⟨write, hwrite, hfd, htype⟩ :
      ∃ write ∈ writes, write.clientFd = 5 ∧ write.response.responseType = 2 := by
    have hmem : (5, 2) ∈ writes.map fun w => (w.clientFd, w.response.responseType) := by
      rw [hwritten]
      decide
    obtain ⟨write, hwrite, heq⟩ := List.mem_map.mp hmem
    exact ⟨write, hwrite, congrArg Prod.fst heq, congrArg Prod.snd heq⟩
  have hthird : (server.threads.map fun t =>
      (t.pc.isOpen, t.session.clientFd, t.session.authenticated))[2]? = some (true, 5, false) := by
    rw [hthreads]
    rfl
  rw [List.getElem?_map, Option.map_eq_some_iff] at hthird
  obtain ⟨⟨session, pc⟩, hat, heq⟩ := hthird
  simp only [Prod.mk.injEq] at heq
  obtain ⟨hopen, hsfd, hauth⟩ := heq
  have hyes := (haddressed write hwrite htype 2 session pc hat hopen (hsfd.trans hfd.symm)).1
  exact absurd (hauth.symm.trans hyes) (by decide)

end ChatSC.Spec
