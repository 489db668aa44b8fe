import ChatSC.Spec.Delivery

/-!
# The sender name of a delivery

`handle_chat_request` fills `from_username` from the session, and the session's name is set, cleared
or kept by the outcomes of `handle_login_request`.  `noting nextThreaded loginNote` runs the threads
of the server and writes down what `server_validate_login` answered to every login request.

`LoginsStand` relates a thread to these notes: the name in an authenticated session, and the name of
a login that is on its way into the session, was accepted on this connection and no login request on
it was rejected since.  A thread only gets to a delivery with an authenticated session.

That the `username` of the chat request plays no part is a statement about two runs: blanking that
field in every chat request is a map of the machine into itself that keeps what is written.
-/

namespace ChatSC.Spec

open Native

/-! ## The logins of a run -/

/-- What `server_validate_login` said of a login request. -/
structure LoginNote where
  thread : Nat
  username : List UInt8
  accepted : Bool

/-- The check of a login request that the step makes. -/
def loginNote (server : ThreadedServer) : ThreadEvent → Option LoginNote
  | .advance index access _ =>
    match server.threads[index]? with
    | some ⟨_, .handling request⟩ =>
      if request.requestType = RequestType.authLogin.code then
        some ⟨index, request.usernameStr, serverValidateLogin access server.userDb request = .ok⟩
      else none
    | _ => none
  | .accept _ | .read _ _ => none

/-- A login request of the thread was accepted under the name, and none of its login requests was
    rejected after that. -/
def StandingLogin (notes : List LoginNote) (thread : Nat) (username : List UInt8) : Prop :=
  ∃ earlier later, notes = earlier ++ ⟨thread, username, true⟩ :: later ∧
    ∀ note ∈ later, note.thread = thread → note.accepted = true

/-- A login stands as long as no login request of the thread is rejected. -/
theorem StandingLogin.append {notes : List LoginNote} {thread : Nat} {username : List UInt8}
    (h : StandingLogin notes thread username) {new : List LoginNote}
    (hnew : ∀ note ∈ new, note.thread = thread → note.accepted = true) :
    StandingLogin (notes ++ new) thread username := by
  obtain ⟨earlier, later, rfl, hlater⟩ := h
  refine ⟨earlier, later ++ new, by simp, fun note hnote => ?_⟩
  rcases List.mem_append.mp hnote with hnote | hnote
  · exact hlater note hnote
  · exact hnew note hnote

/-- A login that has just been accepted stands. -/
theorem standingLogin_concat (notes : List LoginNote) (thread : Nat) (username : List UInt8) :
    StandingLogin (notes ++ [⟨thread, username, true⟩]) thread username :=
  ⟨notes, [], rfl, fun _ h => absurd h List.not_mem_nil⟩

/-- Only the thread that takes the step makes a note. -/
theorem loginNote_thread {server : ThreadedServer} {index : Nat} {access : FileAccess}
    {written : Bool} {note : LoginNote}
    (h : loginNote server (.advance index access written) = some note) : note.thread = index := by
  simp only [loginNote] at h
  split at h
  · split at h <;> cases h
    rfl
  · cases h

/-- A thread that is not at a request makes no note. -/
theorem loginNote_of_at {server : ThreadedServer} {index : Nat} {session : ClientSession}
    {pc : ThreadPc} (hat : At server index session pc) (hpc : ∀ request, pc ≠ .handling request)
    (access : FileAccess) (written : Bool) :
    loginNote server (.advance index access written) = none := by
  unfold At at hat
  simp only [loginNote, hat]
  cases pc with
  | handling request => exact absurd rfl (hpc request)
  | _ => rfl

/-! ## What a thread is named by -/

/-- The names that a thread goes by, or is about to go by, are those of standing logins. -/
structure LoginsStand (notes : List LoginNote) (index : Nat) (session : ClientSession)
    (pc : ThreadPc) : Prop where
  name : session.authenticated = true → StandingLogin notes index session.username.val
  login : ∀ request, loginRequest pc = some request →
    StandingLogin notes index request.usernameStr
  sender : ∀ request peerFd holder, pc = .delivering request peerFd holder →
    session.authenticated = true

section

variable {server : ThreadedServer} {notes : List LoginNote} {index : Nat}
  {session session' : ClientSession} {pc : ThreadPc} {request : RequestPtr} {access : FileAccess}
  {written : Bool} {next : ThreadStep}

/-- The logins of a thread stand as long as none of its login requests is rejected. -/
theorem LoginsStand.append (h : LoginsStand notes index session pc) {new : List LoginNote}
    (hnew : ∀ note ∈ new, note.thread = index → note.accepted = true) :
    LoginsStand (notes ++ new) index session pc where
  name := fun hauth => (h.name hauth).append hnew
  login := fun request hr => (h.login request hr).append hnew
  sender := h.sender

/-- A place without a login on its way, and with a delivery only for an authenticated session. -/
theorem LoginsStand.move (h : LoginsStand notes index session pc) {pc' : ThreadPc}
    (hsame : SameLogin session session') (hlogin : loginRequest pc' = none)
    (hsender : ∀ request peerFd holder, pc' = .delivering request peerFd holder →
      session.authenticated = true) : LoginsStand notes index session' pc' where
  name := by
    intro hauth
    rw [hsame.username]
    exact h.name (hsame.authenticated ▸ hauth)
  login := fun request hr => by
    rw [hlogin] at hr
    cases hr
  sender := fun request peerFd holder hpc =>
    hsame.authenticated.trans (hsender request peerFd holder hpc)

/-- A request that is not refused comes from an authenticated session. -/
theorem authenticated_of_chatRefused (h : chatRefused session request = none) :
    session.authenticated = true := by
  unfold chatRefused at h
  split at h
  · cases h
  · rename_i hauth
    simpa using hauth

/-- The first piece of a handler, with the note it makes. -/
theorem LoginsStand.handling (h : LoginsStand notes index session (.handling request))
    (hat : At server index session (.handling request))
    (hnext : advanceThread server ⟨session, .handling request⟩ access written = some next) :
    LoginsStand (notes ++ (loginNote server (.advance index access written)).toList) index
      next.thread.session next.thread.pc := by
  unfold At at hat
  simp only [loginNote, hat]
  -- no login request: no note, and only a chat request goes on to a delivery
  have hmove : ∀ {pc : ThreadPc}, request.requestType ≠ RequestType.authLogin.code →
      loginRequest pc = none →
      (∀ r peerFd holder, pc = .delivering r peerFd holder → session.authenticated = true) →
      LoginsStand (notes ++ (if request.requestType = RequestType.authLogin.code then
        some (LoginNote.mk index request.usernameStr
          (serverValidateLogin access server.userDb request = .ok)) else none).toList)
        index session pc := by
    intro pc htype hlogin hsender
    rw [if_neg htype, Option.toList_none, List.append_nil]
    exact h.move ⟨rfl, rfl, rfl⟩ hlogin hsender
  cases firstPiece hnext with
  | validated htype hstatus =>
    rw [if_pos htype, hstatus]
    have hstands : ∀ name, StandingLogin notes index name → StandingLogin
        (notes ++ [⟨index, request.usernameStr, true⟩]) index name := fun name hname =>
      hname.append fun note hnote _ => by rw [List.mem_singleton.mp hnote]
    refine ⟨fun hauth => hstands _ (h.name hauth), fun r hr => ?_, fun _ _ _ hpc => by cases hpc⟩
    cases hr
    exact standingLogin_concat notes index request.usernameStr
  | rejected =>
    -- the session is reset, so nothing has to stand
    exact ⟨fun hauth => absurd hauth (by simp [resetSession]), (fun r hr => by cases hr),
      fun _ _ _ hpc => by cases hpc⟩
  | lookedUp htype hrefused =>
    exact hmove (by rw [htype]; decide) rfl fun _ _ _ _ => authenticated_of_chatRefused hrefused
  | registers htype => exact hmove (by rw [htype]; decide) rfl fun _ _ _ hpc => by cases hpc
  | unselected _ _ htype => exact hmove (by rw [htype]; decide) rfl fun _ _ _ hpc => by cases hpc
  | selects htype => exact hmove (by rw [htype]; decide) rfl fun _ _ _ hpc => by cases hpc
  | refused htype => exact hmove (by rw [htype]; decide) rfl fun _ _ _ hpc => by cases hpc
  | offline htype => exact hmove (by rw [htype]; decide) rfl fun _ _ _ hpc => by cases hpc
  | logsOut htype => exact hmove (by rw [htype]; decide) rfl fun _ _ _ hpc => by cases hpc
  | invalid hlogin => exact hmove hlogin rfl fun _ _ _ hpc => by cases hpc

/-- Every piece of `client_thread_main`, with the note it makes. -/
theorem LoginsStand.advance (h : LoginsStand notes index session pc) (hinv : ThreadInv server)
    (hat : At server index session pc)
    (hnext : advanceThread server ⟨session, pc⟩ access written = some next) :
    LoginsStand (notes ++ (loginNote server (.advance index access written)).toList) index
      next.thread.session next.thread.pc := by
  by_cases hpc : ∃ request, pc = .handling request
  · obtain ⟨request, rfl⟩ := hpc
    exact h.handling hat hnext
  · rw [loginNote_of_at hat (fun request heq => hpc ⟨request, heq⟩), Option.toList_none,
      List.append_nil]
    cases pc with
    | reading => cases hnext
    | handling request => exact absurd ⟨request, rfl⟩ hpc
    | loginValidated request =>
      rcases registerOnlineUser_cases server.online request.usernameStr session.clientFd with
        ⟨-, heq⟩ | ⟨-, slot, -, heq⟩ <;>
        simp only [advanceThread, heq] at hnext <;> cases hnext
      · exact h.move ⟨rfl, rfl, rfl⟩ rfl fun _ _ _ hpc' => by cases hpc'
      · exact ⟨h.name, fun r hr => h.login r hr, fun _ _ _ hpc' => by cases hpc'⟩
    | loginRegistered request =>
      cases hnext
      -- the name of the login moves into the session
      have hval : (CString.ofStr chatMaxUsername request.usernameStr).val = request.usernameStr :=
        ofStr_username_val (CString.zero_notMem_cstr _) (hinv.requests _ _ _ hat request rfl).2
      refine ⟨fun _ => ?_, (fun r hr => by cases hr), fun _ _ _ hpc' => by cases hpc'⟩
      exact hval.symm ▸ h.login request rfl
    | selecting request =>
      cases hnext
      refine h.move (sameLogin_selectOnlinePeer ..) rfl fun _ _ _ hpc' => by cases hpc'
    | delivering request peerFd holder =>
      cases hnext
      exact h.move ⟨rfl, rfl, rfl⟩ rfl fun _ _ _ hpc' => by cases hpc'
    | leaving =>
      cases hnext
      exact h.move ⟨rfl, rfl, rfl⟩ rfl fun _ _ _ hpc' => by cases hpc'
    | closing =>
      cases hnext
      exact h.move ⟨rfl, rfl, rfl⟩ rfl fun _ _ _ hpc' => by cases hpc'
    | ended => cases hnext

end

/-! ## All threads -/

/-- The names of all threads are those of standing logins. -/
structure NamesStand (server : ThreadedServer) (notes : List LoginNote) : Prop where
  inv : ThreadInv server
  stand : ∀ index session pc, At server index session pc → LoginsStand notes index session pc

theorem namesStand_start (userDb : List UInt8) : NamesStand (.start userDb) [] where
  inv := threadInv_start userDb
  stand := fun _ _ _ h => by simp [At, ThreadedServer.start] at h

/-- Every step keeps it. -/
theorem NamesStand.step {state state' : ThreadedServer × List LoginNote} {event : ThreadEvent}
    (h : NamesStand state.1 state.2)
    (hstep : Transition.noting nextThreaded loginNote state event = some state') :
    NamesStand state'.1 state'.2 := by
  obtain ⟨server, notes⟩ := state
  obtain ⟨server', notes'⟩ := state'
  obtain ⟨hnext, hnotes⟩ := Transition.noting_eq_some.mp hstep
  simp only at h hnext hnotes ⊢
  subst hnotes
  refine ⟨h.inv.step hnext, ?_⟩
  intro i s p hi
  obtain ⟨⟨_, writes⟩, hthreaded, rfl⟩ := Option.map_eq_some_iff.mp hnext
  cases event with
  | accept fd =>
    obtain ⟨-, -, rfl⟩ := threadedStep_accept hthreaded
    -- nothing is noted when a connection is accepted
    rw [loginNote, Option.toList_none, List.append_nil]
    unfold At at hi
    rw [Records.getElem?_concat_eq_some] at hi
    rcases hi with ⟨-, heq⟩ | hi
    · cases heq
      exact ⟨fun hauth => absurd hauth (by simp [ClientSession.fresh]), (fun _ hr => by cases hr),
        fun _ _ _ hpc => by cases hpc⟩
    · exact h.stand i s p hi
  | read index request =>
    obtain ⟨session, hat, -, rfl⟩ := threadedStep_read hthreaded
    rw [loginNote, Option.toList_none, List.append_nil]
    rcases (at_set hat rfl).mp hi with ⟨rfl, rfl, rfl⟩ | ⟨-, hi⟩
    · refine (h.stand i s .reading hat).move ⟨rfl, rfl, rfl⟩ ?_ ?_
      · cases request <;> rfl
      · intro r peerFd holder hpc
        cases request <;> cases hpc
    · exact h.stand i s p hi
  | advance index access written =>
    obtain ⟨session, pc, next, hat, hadvance, -, rfl⟩ := threadedStep_advance hthreaded
    rcases (at_set hat rfl).mp hi with ⟨rfl, rfl, rfl⟩ | ⟨hne, hi⟩
    · -- what the piece notes is about the thread itself
      exact (h.stand i session pc hat).advance h.inv hat hadvance
    · -- the note is about another thread
      refine (h.stand i s p hi).append fun note hnote hthread => ?_
      have hnoted := loginNote_thread (Option.mem_toList.mp hnote)
      exact absurd (hthread.symm.trans hnoted) hne

/-- The sender name of a delivery is that of a standing login of the sending connection. -/
theorem NamesStand.delivery {server server' : ThreadedServer} {notes : List LoginNote}
    (h : NamesStand server notes) {event : ThreadEvent} {writes : List Write}
    (hstep : threadedStep server event = some (server', writes)) {write : Write}
    (hwrite : write ∈ writes)
    (htype : write.response.responseType = ResponseType.chatDelivery.code) :
    ∃ index, eventThread event = some index ∧
      StandingLogin notes index (cstr write.response.fromUsername.bytes) := by
  obtain ⟨index, access, written, session, request, peerFd, holder, rfl, hat, rfl⟩ :=
    delivery_of_step hstep hwrite htype
  have hstand := h.stand index session _ hat
  have hstanding := hstand.name (hstand.sender request peerFd holder rfl)
  have hname : cstr (chatDelivery session request).fromUsername.bytes = session.username.val :=
    CString.cstr_ofStr_val session.username
  exact ⟨index, rfl, hname ▸ hstanding⟩

/-! ## The `username` of a chat request -/

/-- A chat request with a blank `username`; any other request as it is. -/
def blankSender (request : RequestPtr) : RequestPtr :=
  if request.requestType = RequestType.chatMessage.code then
    { request with username := .zero _ }
  else request

/-- The place of a thread that was given the blank request. -/
def blankPc : ThreadPc → ThreadPc
  | .handling request => .handling (blankSender request)
  | .delivering request peerFd holder => .delivering (blankSender request) peerFd holder
  | pc => pc

/-- The thread that was given the blank request. -/
def blankThread (thread : ClientThread) : ClientThread := ⟨thread.session, blankPc thread.pc⟩

/-- The server whose threads were given blank requests. -/
def blankServer (server : ThreadedServer) : ThreadedServer :=
  { server with threads := server.threads.map blankThread }

/-- The same step with a blank request. -/
def blankEvent : ThreadEvent → ThreadEvent
  | .read index request => .read index (request.map blankSender)
  | event => event

/-- What the step writes. -/
def stepWrites (server : ThreadedServer) (event : ThreadEvent) : Option (List Write) :=
  (threadedStep server event).map Prod.snd

section

variable (server : ThreadedServer) (session : ClientSession) (request : RequestPtr)

theorem blankSender_of_ne (h : request.requestType ≠ RequestType.chatMessage.code) :
    blankSender request = request := if_neg h

@[simp] theorem requestType_blankSender :
    (blankSender request).requestType = request.requestType := by
  unfold blankSender
  split <;> rfl

@[simp] theorem chatRefused_blankSender :
    chatRefused session (blankSender request) = chatRefused session request := by
  unfold blankSender
  split <;> rfl

@[simp] theorem peerUsernameStr_blankSender :
    (blankSender request).peerUsernameStr = request.peerUsernameStr := by
  unfold blankSender
  split <;> rfl

@[simp] theorem chatAck_blankSender (written : Bool) :
    chatAck session (blankSender request) written = chatAck session request written := by
  unfold blankSender
  split <;> rfl

@[simp] theorem chatDelivery_blankSender :
    chatDelivery session (blankSender request) = chatDelivery session request := by
  unfold blankSender
  split <;> rfl

@[simp] theorem isOpen_blankPc (pc : ThreadPc) : (blankPc pc).isOpen = pc.isOpen := by
  cases pc <;> rfl

@[simp] theorem holderOf_blankThread (threads : List ClientThread) (fd : Nat) :
    holderOf (threads.map blankThread) fd = holderOf threads fd := by
  unfold holderOf
  rw [List.findIdx?_map]
  simp only [Function.comp_def, blankThread, isOpen_blankPc]
  rfl

/-- The first piece of a handler does the same for the blank request. -/
theorem advanceThread_blank_handling (access : FileAccess) (written : Bool) :
    advanceThread (blankServer server) (blankThread ⟨session, .handling request⟩) access written =
      (advanceThread server ⟨session, .handling request⟩ access written).map fun next =>
        { next with thread := blankThread next.thread } := by
  by_cases htype : request.requestType = RequestType.chatMessage.code
  · have hregister : RequestType.chatMessage.code ≠ RequestType.authRegister.code := by decide
    have hlogin : RequestType.chatMessage.code ≠ RequestType.authLogin.code := by decide
    have hselect : RequestType.chatMessage.code ≠ RequestType.chatSelectPeer.code := by decide
    -- `handle_chat_request` takes the sender from its session, and only the peer from the request
    simp only [advanceThread, blankThread, blankPc, blankServer, requestType_blankSender, htype,
      hregister, hlogin, hselect, if_false, if_true, chatRefused_blankSender,
      peerUsernameStr_blankSender, chatAck_blankSender, holderOf_blankThread]
    split
    · rfl
    · split <;> rfl
  · -- the request stays as it is, and so does the place it leads to
    simp only [blankThread, blankPc, blankSender_of_ne request htype, advanceThread, blankServer]
    split
    · rfl
    · split
      · split <;> rfl
      · split
        · split
          · rfl
          · split <;> rfl
        · split <;> rfl

/-- Every piece of `client_thread_main` does the same for the blank request. -/
theorem advanceThread_blank (thread : ClientThread) (access : FileAccess) (written : Bool) :
    advanceThread (blankServer server) (blankThread thread) access written =
      (advanceThread server thread access written).map fun next =>
        { next with thread := blankThread next.thread } := by
  obtain ⟨session, pc⟩ := thread
  cases pc with
  | handling request => exact advanceThread_blank_handling server session request access written
  | loginValidated request =>
    simp only [advanceThread, blankThread, blankPc, blankServer]
    split <;> rfl
  | delivering request peerFd holder =>
    simp only [advanceThread, blankThread, blankPc, blankServer, chatDelivery_blankSender,
      chatAck_blankSender, Option.map_some]
  | reading => rfl
  | loginRegistered request => rfl
  | selecting request => rfl
  | leaving => rfl
  | closing => rfl
  | ended => rfl

/-- Every step of the server does the same for the blank request. -/
theorem threadedStep_blank (event : ThreadEvent) :
    threadedStep (blankServer server) (blankEvent event) =
      (threadedStep server event).map (Prod.map blankServer id) := by
  cases event with
  | accept fd =>
    simp only [threadedStep, blankEvent, blankServer, holderOf_blankThread]
    split
    · rfl
    · simp [blankThread, blankPc, blankServer]
  | read index request =>
    simp only [threadedStep, blankEvent, blankServer, List.getElem?_map]
    cases hat : server.threads[index]? with
    | none => rfl
    | some thread =>
      obtain ⟨session, pc⟩ := thread
      cases pc with
      -- a request that is read is blanked as it is put in the thread
      | reading => cases request <;> simp [blankThread, blankPc, blankServer]
      | _ => rfl
  | advance index access written =>
    simp only [threadedStep, blankEvent]
    rw [show (blankServer server).threads[index]? = server.threads[index]?.map blankThread from
      List.getElem?_map ..]
    cases hat : server.threads[index]? with
    | none => rfl
    | some thread =>
      simp only [Option.map_some, advanceThread_blank]
      cases advanceThread server thread access written with
      | none => rfl
      | some next => simp [blankServer]

end

/-- All that a run writes, step by step. -/
def writesOf (userDb : List UInt8) (events : List ThreadEvent) : Option (List (List Write)) :=
  (Transition.run (Transition.noting nextThreaded stepWrites) (.start userDb, []) events).map
    Prod.snd

/-- Every step writes the same for the blank request. -/
theorem noting_blank (state : ThreadedServer × List (List Write)) (event : ThreadEvent) :
    Transition.noting nextThreaded stepWrites (Prod.map blankServer id state) (blankEvent event) =
      (Transition.noting nextThreaded stepWrites state event).map (Prod.map blankServer id) := by
  simp only [Transition.noting, nextThreaded, stepWrites, Prod.map_fst, Prod.map_snd,
    threadedStep_blank, Option.map_map]
  cases threadedStep state.1 event <;> rfl

/-- A run writes the same for blank requests. -/
theorem writesOf_blank (userDb : List UInt8) (events : List ThreadEvent) :
    writesOf userDb (events.map blankEvent) = writesOf userDb events := by
  have hrun := Transition.run_map_events noting_blank (.start userDb, []) events
  unfold writesOf
  rw [show ((.start userDb, []) : ThreadedServer × List (List Write)) =
    Prod.map blankServer id (.start userDb, []) from rfl, hrun, Option.map_map]
  rfl

/-! ## Sender names -/

/-- Every delivery that a step can write now carries the name of a standing login of the sending
    connection. -/
def SendersStand (server : ThreadedServer) (notes : List LoginNote) : Prop :=
  ∀ event server' writes, threadedStep server event = some (server', writes) →
    ∀ write ∈ writes, write.response.responseType = ResponseType.chatDelivery.code →
      ∃ index, eventThread event = some index ∧
        StandingLogin notes index (cstr write.response.fromUsername.bytes)

/-- **Sender names cannot be forged**: in every run a delivery carries a name that the sending
    connection has logged in under and that no rejected login has taken back, and a run whose chat
    requests differ in nothing but their `username` writes the same. -/
theorem senderNames_of_run {userDb : List UInt8} {events : List ThreadEvent}
    {server : ThreadedServer} {notes : List LoginNote}
    (h : Transition.run (Transition.noting nextThreaded loginNote) (.start userDb, []) events =
      some (server, notes)) :
    SendersStand server notes ∧
      ∀ events', events'.map blankEvent = events.map blankEvent →
        writesOf userDb events' = writesOf userDb events := by
  let Inv := fun state : ThreadedServer × List LoginNote => NamesStand state.1 state.2
  have hinv : Inv (server, notes) :=
    Transition.run_invariant (fun _ _ _ hinv hstep => NamesStand.step hinv hstep)
      (namesStand_start userDb) h
  refine ⟨fun _ _ _ hstep _ hwrite htype => hinv.delivery hstep hwrite htype, ?_⟩
  intro events' hblank
  rw [← writesOf_blank userDb events', hblank, writesOf_blank]

/-- With `amy` and `bob` logged in and a message from `amy` on its way. -/
theorem senderNames_amy :
    ∃ server notes, Transition.run (Transition.noting nextThreaded loginNote) (.start amyBobDb, [])
        lookUpEvents = some (server, notes) ∧
      SendersStand server notes ∧
        ∀ events', events'.map blankEvent = lookUpEvents.map blankEvent →
          writesOf amyBobDb events' = writesOf amyBobDb lookUpEvents := by
  have hsome : (Transition.run (Transition.noting nextThreaded loginNote) (.start amyBobDb, [])
      lookUpEvents).isSome = true := by
    decide +kernel
  obtain ⟨⟨server, notes⟩, hserver⟩ := Option.isSome_iff_exists.mp hsome
  exact ⟨server, notes, hserver, senderNames_of_run hserver⟩

end ChatSC.Spec
