import ChatSC.ForStd.Records
import ChatSC.ForStd.Transition
import ChatSC.Spec.OnlineUsers
import ChatSC.Spec.UserDb

/-!
# The table of online users and the sessions

Handlers as steps: when does the table say who is logged in?  `Effect` says once what a step can do
to the table and to the sessions.  `LoginInv` is the invariant: open connections have distinct
descriptors, and the table holds exactly the claims of the open, authenticated connections.

The invariant survives every step but one kind: a login request on a connection that is logged in
already, unless the server refuses it without touching the session.  Such a request leaves the old
slot behind, so the condition is exact (`reflectsLogins_iff`).
-/

namespace ChatSC.Spec

open Native

/-- The state part of a step. -/
def nextServer (server : ChatServer) (event : ServerEvent) : Option ChatServer :=
  (serverStep server event).map Prod.fst

/-- An open connection and its session. -/
def Open (server : ChatServer) (index : Nat) (session : ClientSession) : Prop :=
  server.connections[index]? = some ⟨session, true⟩

/-! ## What a step can do -/

/-- The fields of a session that a login sets. -/
structure SameLogin (session session' : ClientSession) : Prop where
  authenticated : session'.authenticated = session.authenticated
  clientFd : session'.clientFd = session.clientFd
  username : session'.username = session.username

/-- The session that a failed login leaves. -/
def resetSession (session : ClientSession) : ClientSession :=
  { session with authenticated := false, username := .empty _ }

/-- The session that a successful login leaves. -/
def loggedInSession (session : ClientSession) (request : RequestPtr) : ClientSession :=
  { session with authenticated := true, username := .ofStr _ request.usernameStr }

/-- All that a step can do to the table and to the connections. -/
inductive Effect (server : ChatServer) : ServerEvent → ChatServer → Prop
  | accepted {fd server'} (hclosed : server.Closed fd)
      (honline : server'.online = server.online)
      (hconn : server'.connections = server.connections ++ [⟨.fresh fd, true⟩]) :
      Effect server (.accept fd) server'
  | quiet {index access request written session session' server'}
      (hopen : Open server index session) (hsame : SameLogin session session')
      (htype : request.requestType ≠ RequestType.authLogin.code)
      (honline : server'.online = server.online)
      (hconn : server'.connections = server.connections.set index ⟨session', true⟩) :
      Effect server (.request index access request written) server'
  | loginFailed {index access request written session server'}
      (hopen : Open server index session)
      (htype : request.requestType = RequestType.authLogin.code)
      (hstatus : serverValidateLogin access server.userDb request ≠ .ok)
      (honline : server'.online = server.online)
      (hconn : server'.connections = server.connections.set index ⟨resetSession session, true⟩) :
      Effect server (.request index access request written) server'
  | loginRefused {index access request written session server'}
      (hopen : Open server index session)
      (htype : request.requestType = RequestType.authLogin.code)
      (hstatus : serverValidateLogin access server.userDb request = .ok)
      (hrefused : Refuses server.online request.usernameStr)
      (honline : server'.online = server.online)
      (hconn : server'.connections = server.connections.set index ⟨session, true⟩) :
      Effect server (.request index access request written) server'
  | loginSucceeded {index access request written session server'} {slot : Fin chatMaxOnlineUsers}
      (hopen : Open server index session)
      (htype : request.requestType = RequestType.authLogin.code)
      (hstatus : serverValidateLogin access server.userDb request = .ok)
      (hnew : ∀ fd, ¬ Holds server.online request.usernameStr fd)
      (hfree : (server.online.slot slot).active = false)
      (honline : server'.online =
        server.online.set slot ⟨true, session.clientFd, .ofStr _ request.usernameStr⟩ slot.isLt)
      (hconn : server'.connections =
        server.connections.set index ⟨loggedInSession session request, true⟩) :
      Effect server (.request index access request written) server'
  | left {event index session server'} (hopen : Open server index session)
      (hevent : (∃ access request written, event = .request index access request written ∧
        request.requestType = RequestType.logout.code) ∨ event = .disconnect index)
      (honline : server'.online = unregisterOnlineUser server.online session.username.val)
      (hconn : server'.connections = server.connections.set index ⟨session, false⟩) :
      Effect server event server'

/-- Selecting a peer leaves the login alone. -/
theorem sameLogin_selectPeer (access : FileAccess) (userDb : List UInt8) (online : OnlineUsers)
    (session : ClientSession) (request : RequestPtr) :
    SameLogin session (handleSelectPeerRequest access userDb online session request).1 := by
  unfold handleSelectPeerRequest selectOnlinePeer
  split
  · exact ⟨rfl, rfl, rfl⟩
  · split
    · exact ⟨rfl, rfl, rfl⟩
    · split <;> exact ⟨rfl, rfl, rfl⟩

/-- The effect of a login request. -/
theorem effect_login {server : ChatServer} {index : Nat} {session : ClientSession}
    {access : FileAccess} {request : RequestPtr} {written : Bool} {server' : ChatServer}
    (hopen : Open server index session)
    (htype : request.requestType = RequestType.authLogin.code)
    (hserver : server' = { server with
        online := (handleLoginRequest access server.userDb server.online session request).2.1 }.setSession
          index (handleLoginRequest access server.userDb server.online session request).1) :
    Effect server (.request index access request written) server' := by
  cases hstatus : serverValidateLogin access server.userDb request with
  | ok =>
    rcases registerOnlineUser_cases server.online request.usernameStr session.clientFd with
      ⟨hrefused, heq⟩ | ⟨hnew, slot, hfree, heq⟩ <;>
      simp only [handleLoginRequest, hstatus, heq] at hserver <;> subst hserver
    · exact .loginRefused hopen htype hstatus hrefused rfl rfl
    · exact .loginSucceeded hopen htype hstatus hnew hfree rfl rfl
  | _ =>
    -- every other status takes the login away
    simp only [handleLoginRequest, hstatus] at hserver
    subst hserver
    exact .loginFailed hopen htype (by simp [hstatus]) rfl rfl

/-- Every step has one of the effects. -/
theorem effect_of_nextServer {server server' : ChatServer} {event : ServerEvent}
    (h : nextServer server event = some server') : Effect server event server' := by
  obtain ⟨⟨server', writes⟩, hstep, rfl⟩ := Option.map_eq_some_iff.mp h
  cases event with
  | accept fd =>
    simp only [serverStep] at hstep
    split at hstep
    · rename_i hclosed
      cases hstep
      exact .accepted hclosed rfl rfl
    · cases hstep
  | disconnect index =>
    simp only [serverStep] at hstep
    split at hstep
    · rename_i session hopen
      cases hstep
      exact .left hopen (.inr rfl) rfl rfl
    · cases hstep
  | request index access request written =>
    simp only [serverStep] at hstep
    split at hstep
    · rename_i session hopen
      have hserver := congrArg Prod.fst (Option.some.inj hstep)
      clear hstep h
      have hself : server.connections = server.connections.set index ⟨session, true⟩ :=
        (Records.set_self hopen).symm
      unfold handleRequest at hserver
      -- one case for each request type, in the order in which the thread compares them
      split at hserver
      · rename_i htype
        subst hserver
        exact .quiet hopen ⟨rfl, rfl, rfl⟩ (by rw [htype]; decide) rfl hself
      · split at hserver
        · rename_i htype
          exact effect_login hopen htype hserver.symm
        · rename_i hlogin
          split at hserver
          · subst hserver
            exact .quiet hopen (sameLogin_selectPeer ..) hlogin rfl rfl
          · split at hserver
            · subst hserver
              exact .quiet hopen ⟨rfl, rfl, rfl⟩ hlogin rfl hself
            · split at hserver
              · rename_i htype
                subst hserver
                exact .left hopen (.inl ⟨_, _, _, rfl, htype⟩) rfl rfl
              · subst hserver
                exact .quiet hopen ⟨rfl, rfl, rfl⟩ hlogin rfl hself
    · cases hstep

/-! ## The invariant -/

/-- The claim of an open connection that is logged in. -/
def LoggedIn (server : ChatServer) (index : Nat) (name : List UInt8) (fd : Nat) : Prop :=
  ∃ session, Open server index session ∧ session.authenticated = true ∧
    session.username.val = name ∧ session.clientFd = fd

/-- The table holds exactly the claims of the connections. -/
structure LoginInv (server : ChatServer) : Prop where
  fds : ∀ i j session session', Open server i session → Open server j session' →
    session.clientFd = session'.clientFd → i = j
  unnamed : ∀ i session, Open server i session → session.authenticated = false →
    session.username.val = []
  claimed : Claimed server.online (LoggedIn server)
  backed : Backed server.online (LoggedIn server)

theorem loginInv_start (userDb : List UInt8) : LoginInv (.start userDb) where
  fds := fun i _ _ _ h => by simp [Open, ChatServer.start] at h
  unnamed := fun i _ h => by simp [Open, ChatServer.start] at h
  claimed := ⟨distinctNames_zero, fun i _ _ h => by simp [LoggedIn, Open, ChatServer.start] at h,
    fun i _ _ h => by simp [LoggedIn, Open, ChatServer.start] at h⟩
  backed := fun name fd h => absurd h (not_holds_zero name fd)

/-- The open connections after one of them is given another session. -/
theorem open_set {server server' : ChatServer} {index : Nat} {session session' : ClientSession}
    (hopen : Open server index session)
    (hconn : server'.connections = server.connections.set index ⟨session', true⟩)
    {i : Nat} {s : ClientSession} :
    Open server' i s ↔ (i = index ∧ s = session') ∨ (i ≠ index ∧ Open server i s) := by
  unfold Open
  rw [hconn, Records.getElem?_set_eq_some hopen]
  simp

/-- The open connections after one of them is closed. -/
theorem open_close {server server' : ChatServer} {index : Nat} {session : ClientSession}
    (hopen : Open server index session)
    (hconn : server'.connections = server.connections.set index ⟨session, false⟩)
    {i : Nat} {s : ClientSession} :
    Open server' i s ↔ i ≠ index ∧ Open server i s := by
  unfold Open
  rw [hconn, Records.getElem?_set_eq_some hopen]
  simp

/-- An open connection has one session. -/
theorem open_unique {server : ChatServer} {index : Nat} {session session' : ClientSession}
    (h : Open server index session) (h' : Open server index session') : session = session' := by
  have hsame := Option.some.inj (h.symm.trans h')
  exact congrArg Connection.session hsame

/-- A session that keeps its descriptor keeps the descriptors apart. -/
theorem LoginInv.fds_set {server server' : ChatServer} (h : LoginInv server) {index : Nat}
    {session session' : ClientSession} (hopen : Open server index session)
    (hconn : server'.connections = server.connections.set index ⟨session', true⟩)
    (hfd : session'.clientFd = session.clientFd) (i j : Nat) (s s' : ClientSession)
    (hi : Open server' i s) (hj : Open server' j s') (hss : s.clientFd = s'.clientFd) : i = j := by
  rcases (open_set hopen hconn).mp hi with ⟨rfl, rfl⟩ | ⟨-, hi⟩ <;>
    rcases (open_set hopen hconn).mp hj with ⟨rfl, rfl⟩ | ⟨-, hj⟩
  · rfl
  · exact h.fds _ _ _ _ hopen hj (hfd.symm.trans hss)
  · exact h.fds _ _ _ _ hi hopen (hss.trans hfd)
  · exact h.fds _ _ _ _ hi hj hss

/-- One descriptor cannot carry two claims. -/
theorem LoginInv.loggedIn_fds {server : ChatServer} (h : LoginInv server) (i j : Nat)
    (name name' : List UInt8) (fd : Nat) (hi : LoggedIn server i name fd)
    (hj : LoggedIn server j name' fd) : i = j := by
  obtain ⟨s, hs, -, -, hfd⟩ := hi
  obtain ⟨s', hs', -, -, hfd'⟩ := hj
  exact h.fds i j s s' hs hs' (hfd.trans hfd'.symm)

/-- A step that neither touches the table nor who is logged in keeps the invariant. -/
theorem LoginInv.replace {server server' : ChatServer} (h : LoginInv server) {index : Nat}
    {session session' : ClientSession} (hopen : Open server index session)
    (honline : server'.online = server.online)
    (hconn : server'.connections = server.connections.set index ⟨session', true⟩)
    (hfd : session'.clientFd = session.clientFd)
    (hauth : session'.authenticated = session.authenticated)
    (hname : session'.username.val = session.username.val) : LoginInv server' := by
  -- who is logged in does not depend on what is replaced
  have hclaims : ∀ i name fd, LoggedIn server' i name fd ↔ LoggedIn server i name fd := by
    intro i name fd
    constructor
    · rintro ⟨s, hs, hrest⟩
      rcases (open_set hopen hconn).mp hs with ⟨rfl, rfl⟩ | ⟨-, hs⟩
      · exact ⟨session, hopen, by rwa [← hauth, ← hname, ← hfd]⟩
      · exact ⟨s, hs, hrest⟩
    · rintro ⟨s, hs, hrest⟩
      by_cases hi : i = index
      · subst hi
        obtain rfl : s = session := open_unique hs hopen
        exact ⟨session', (open_set hopen hconn).mpr (.inl ⟨rfl, rfl⟩), by rwa [hauth, hname, hfd]⟩
      · exact ⟨s, (open_set hopen hconn).mpr (.inr ⟨hi, hs⟩), hrest⟩
  refine ⟨h.fds_set hopen hconn hfd, ?_, ?_, ?_⟩
  · intro i s hi hs
    rcases (open_set hopen hconn).mp hi with ⟨rfl, rfl⟩ | ⟨-, hi⟩
    · rw [hname]
      exact h.unnamed _ _ hopen (hauth.symm.trans hs)
    · exact h.unnamed _ _ hi hs
  · rw [honline]
    exact h.claimed.mono fun i name fd => (hclaims i name fd).mp
  · rw [honline]
    exact h.backed.mono fun i name fd => (hclaims i name fd).mpr

/-- Accepting a connection keeps the invariant. -/
theorem LoginInv.accept {server server' : ChatServer} (h : LoginInv server) {fd : Nat}
    (hclosed : server.Closed fd) (honline : server'.online = server.online)
    (hconn : server'.connections = server.connections ++ [⟨.fresh fd, true⟩]) :
    LoginInv server' := by
  have hopens : ∀ i s, Open server' i s ↔
      (i = server.connections.length ∧ s = .fresh fd) ∨ Open server i s := by
    intro i s
    unfold Open
    rw [hconn, Records.getElem?_concat_eq_some]
    simp
  -- the new descriptor is nobody's
  have hfd : ∀ i s, Open server i s → s.clientFd ≠ fd := fun i s hi =>
    hclosed ⟨s, true⟩ (List.mem_of_getElem? hi) rfl
  refine ⟨?_, ?_, ?_, ?_⟩
  · intro i j s s' hi hj hss
    rcases (hopens i s).mp hi with ⟨rfl, rfl⟩ | hi <;>
      rcases (hopens j s').mp hj with ⟨rfl, rfl⟩ | hj
    · rfl
    · exact absurd hss.symm (hfd j s' hj)
    · exact absurd hss (hfd i s hi)
    · exact h.fds _ _ _ _ hi hj hss
  · intro i s hi hs
    rcases (hopens i s).mp hi with ⟨-, rfl⟩ | hi
    · rfl
    · exact h.unnamed _ _ hi hs
  · rw [honline]
    apply h.claimed.mono
    rintro i name fd' ⟨s, hs, hauth, hrest⟩
    rcases (hopens i s).mp hs with ⟨-, rfl⟩ | hs
    · exact absurd hauth (by simp [ClientSession.fresh])
    · exact ⟨s, hs, hauth, hrest⟩
  · rw [honline]
    apply h.backed.mono
    rintro i name fd' ⟨s, hs, hrest⟩
    exact ⟨s, (hopens i s).mpr (.inr hs), hrest⟩

/-- A login on a connection that is not logged in keeps the invariant. -/
theorem LoginInv.login {server server' : ChatServer} (h : LoginInv server) {index : Nat}
    {session : ClientSession} {access : FileAccess} {request : RequestPtr}
    {slot : Fin chatMaxOnlineUsers} (hopen : Open server index session)
    (hauth : session.authenticated = false)
    (hstatus : serverValidateLogin access server.userDb request = .ok)
    (hnew : ∀ fd, ¬ Holds server.online request.usernameStr fd)
    (hfree : (server.online.slot slot).active = false)
    (honline : server'.online =
      server.online.set slot ⟨true, session.clientFd, .ofStr _ request.usernameStr⟩ slot.isLt)
    (hconn : server'.connections =
      server.connections.set index ⟨loggedInSession session request, true⟩) :
    LoginInv server' := by
  obtain ⟨hne, hlen⟩ := login_ok_length hstatus
  have h0 : 0 ∉ request.usernameStr := CString.zero_notMem_cstr _
  have hval : (CString.ofStr chatMaxUsername request.usernameStr).val = request.usernameStr :=
    ofStr_username_val h0 hlen
  refine ⟨h.fds_set hopen hconn rfl, ?_, ?_, ?_⟩
  · intro i s hi hs
    rcases (open_set hopen hconn).mp hi with ⟨-, rfl⟩ | ⟨-, hi⟩
    · exact absurd hs (by simp [loggedInSession])
    · exact h.unnamed _ _ hi hs
  · rw [honline]
    apply h.claimed.register hfree h0 hne hlen hnew
    rintro i name fd ⟨s, hs, hsauth, hsname, hsfd⟩
    -- the new claim is that of the slot
    rcases (open_set hopen hconn).mp hs with ⟨-, rfl⟩ | ⟨-, hs⟩
    · exact .inr ⟨hsname.symm.trans hval, hsfd.symm⟩
    · exact .inl ⟨s, hs, hsauth, hsname, hsfd⟩
  · rw [honline]
    apply h.backed.register hfree h0 hlen index
    · rintro i name fd ⟨s, hs, hsauth, hrest⟩
      refine ⟨s, (open_set hopen hconn).mpr (.inr ⟨?_, hs⟩), hsauth, hrest⟩
      rintro rfl
      exact absurd (open_unique hs hopen ▸ hsauth) (by simp [hauth])
    · exact ⟨_, (open_set hopen hconn).mpr (.inl ⟨rfl, rfl⟩), rfl, hval, rfl⟩

/-- The end of a connection keeps the invariant. -/
theorem LoginInv.leave {server server' : ChatServer} (h : LoginInv server) {index : Nat}
    {session : ClientSession} (hopen : Open server index session)
    (honline : server'.online = unregisterOnlineUser server.online session.username.val)
    (hconn : server'.connections = server.connections.set index ⟨session, false⟩) :
    LoginInv server' := by
  refine ⟨?_, ?_, ?_, ?_⟩
  · intro i j s s' hi hj hss
    exact h.fds _ _ _ _ ((open_close hopen hconn).mp hi).2 ((open_close hopen hconn).mp hj).2 hss
  · intro i s hi hs
    exact h.unnamed _ _ ((open_close hopen hconn).mp hi).2 hs
  · rw [honline]
    apply h.claimed.unregister index _ h.loggedIn_fds
    · rintro i name fd ⟨s, hs, hrest⟩
      obtain ⟨hi, hs⟩ := (open_close hopen hconn).mp hs
      exact ⟨⟨s, hs, hrest⟩, hi⟩
    · -- a session that is not logged in has no name to take out
      cases hauth : session.authenticated with
      | false => exact .inl (h.unnamed _ _ hopen hauth)
      | true => exact .inr ⟨_, session, hopen, hauth, rfl, rfl⟩
  · rw [honline]
    apply h.backed.unregister h.claimed index
    · rintro name fd ⟨s, hs, -, hname, -⟩
      rw [← hname, open_unique hs hopen]
    · rintro i name fd ⟨s, hs, hrest⟩ hi
      exact ⟨s, (open_close hopen hconn).mpr ⟨hi, hs⟩, hrest⟩

/-! ## The condition -/

/-- A login request on a connection that is logged in already is one that the server refuses after
    its credentials were found right: the name is online or the table is full. -/
def LoginKept (server : ChatServer) : ServerEvent → Prop
  | .request index access request _ =>
    request.requestType = RequestType.authLogin.code →
      ∀ session, Open server index session → session.authenticated = true →
        serverValidateLogin access server.userDb request = .ok ∧
          Refuses server.online request.usernameStr
  | _ => True

/-- A step that meets the condition keeps the invariant. -/
theorem LoginInv.step {server server' : ChatServer} {event : ServerEvent} (h : LoginInv server)
    (hok : LoginKept server event) (hstep : nextServer server event = some server') :
    LoginInv server' := by
  cases effect_of_nextServer hstep with
  | accepted hclosed honline hconn => exact h.accept hclosed honline hconn
  | quiet hopen hsame _ honline hconn =>
    exact h.replace hopen honline hconn hsame.clientFd hsame.authenticated
      (congrArg CString.val hsame.username)
  | @loginFailed _ _ _ _ session _ hopen htype hstatus honline hconn =>
    cases hauth : session.authenticated with
    | true => exact absurd (hok htype session hopen hauth).1 hstatus
    | false =>
      -- the session has no name yet, so the reset changes nothing
      exact h.replace hopen honline hconn rfl hauth.symm (h.unnamed _ _ hopen hauth).symm
  | loginRefused hopen _ _ _ honline hconn => exact h.replace hopen honline hconn rfl rfl rfl
  | @loginSucceeded _ _ _ _ session _ _ hopen htype hstatus hnew hfree honline hconn =>
    cases hauth : session.authenticated with
    | true => exact absurd (hok htype session hopen hauth).2 (not_refuses hnew hfree)
    | false => exact h.login hopen hauth hstatus hnew hfree honline hconn
  | left hopen _ honline hconn => exact h.leave hopen honline hconn

/-! ## What the table says -/

/-- The table reflects the live logins: every active slot belongs to an open connection that is
    logged in under the name in it; so no slot carries the descriptor of a connection that has
    ended, and an account without a live login can log in while a slot is free. -/
structure ReflectsLogins (server : ChatServer) : Prop where
  slots : ∀ i : Fin chatMaxOnlineUsers, (server.online.slot i).active = true →
    ∃ index session, Open server index session ∧
      session.clientFd = (server.online.slot i).clientFd ∧ session.authenticated = true ∧
      session.username = (server.online.slot i).username
  ended : ∀ fd, server.Closed fd → ∀ i : Fin chatMaxOnlineUsers,
    (server.online.slot i).active = true → (server.online.slot i).clientFd ≠ fd
  accounts : ∀ username fd,
    (∀ index session, Open server index session → session.authenticated = true →
      session.username.val ≠ username) →
    (∃ i : Fin chatMaxOnlineUsers, (server.online.slot i).active = false) →
    (registerOnlineUser server.online username fd).1 = true

/-- The invariant gives the property. -/
theorem LoginInv.reflectsLogins {server : ChatServer} (h : LoginInv server) :
    ReflectsLogins server := by
  have hslots : ∀ i : Fin chatMaxOnlineUsers, (server.online.slot i).active = true →
      ∃ index session, Open server index session ∧
        session.clientFd = (server.online.slot i).clientFd ∧ session.authenticated = true ∧
        session.username = (server.online.slot i).username := by
    intro i hi
    obtain ⟨index, session, hopen, hauth, hname, hfd⟩ := h.backed _ _ ⟨i, hi, rfl, rfl⟩
    exact ⟨index, session, hopen, hfd, hauth, CString.ext hname⟩
  refine ⟨hslots, ?_, ?_⟩
  · intro fd hclosed i hi hfd
    obtain ⟨index, session, hopen, hsfd, -, -⟩ := hslots i hi
    exact hclosed ⟨session, true⟩ (List.mem_of_getElem? hopen) rfl (hsfd.trans hfd)
  · intro username fd hnobody hfree
    have hnew : ∀ fd', ¬ Holds server.online username fd' := by
      intro fd' hfd'
      obtain ⟨index, session, hopen, hauth, hname, -⟩ := h.backed _ _ hfd'
      exact hnobody index session hopen hauth hname
    obtain ⟨i, hi⟩ := hfree
    rcases registerOnlineUser_cases server.online username fd with ⟨hrefused, -⟩ | ⟨-, j, -, heq⟩
    · exact absurd hrefused (not_refuses hnew hi)
    · rw [heq]

/-- Only a login request on a connection that is logged in can fail the condition. -/
theorem authenticated_of_not_kept {server : ChatServer} {index : Nat} {access : FileAccess}
    {request : RequestPtr} {written : Bool} {session : ClientSession}
    (hopen : Open server index session)
    (hno : ¬ LoginKept server (.request index access request written)) :
    session.authenticated = true := by
  cases hauth : session.authenticated with
  | true => rfl
  | false =>
    refine absurd (fun _ s hs hsauth => ?_) hno
    obtain rfl : s = session := open_unique hs hopen
    exact absurd (hsauth.symm.trans hauth) (by decide)

/-- A step that does not meet the condition leaves a slot behind that nobody is logged in for. -/
theorem LoginInv.break {server server' : ChatServer} {event : ServerEvent} (h : LoginInv server)
    (hno : ¬ LoginKept server event) (hstep : nextServer server event = some server') :
    ¬ ReflectsLogins server' := by
  intro hreflects
  cases effect_of_nextServer hstep with
  | accepted => exact hno trivial
  | quiet _ _ htype => exact hno fun ht => absurd ht htype
  | loginRefused _ _ hstatus hrefused => exact hno fun _ _ _ _ => ⟨hstatus, hrefused⟩
  | left _ hevent =>
    rcases hevent with ⟨_, _, _, rfl, htype⟩ | rfl
    · exact hno fun ht => absurd (htype.symm.trans ht) (by decide)
    · exact hno trivial
  | @loginFailed index _ _ _ session _ hopen _ _ honline hconn =>
    have hauth := authenticated_of_not_kept hopen hno
    -- the slot of the session that was reset is still there
    obtain ⟨i, hi, -, hifd⟩ := h.claimed.holds _ _ _ ⟨session, hopen, hauth, rfl, rfl⟩
    obtain ⟨j, s, hs, hsfd, hsauth, -⟩ := hreflects.slots i (by rwa [honline])
    rw [honline, hifd] at hsfd
    rcases (open_set hopen hconn).mp hs with ⟨-, rfl⟩ | ⟨hj, hs⟩
    · exact absurd hsauth (by simp [resetSession])
    · exact hj (h.fds _ _ _ _ hs hopen hsfd)
  | @loginSucceeded index _ request _ session _ slot hopen _ hstatus hnew hfree honline hconn =>
    have hauth := authenticated_of_not_kept hopen hno
    -- the slot of the old name is still there, beside the one of the new name
    obtain ⟨i, hi, hiname, hifd⟩ := h.claimed.holds _ _ _ ⟨session, hopen, hauth, rfl, rfl⟩
    have hne : (slot : Nat) ≠ i := by
      intro heq
      obtain rfl := Fin.ext heq
      exact absurd (hfree.symm.trans hi) (by decide)
    have hold : server'.online.slot i = server.online.slot i := by
      rw [honline]
      exact Vector.getElem_set_ne _ _ hne
    obtain ⟨j, s, hs, hsfd, -, hsname⟩ := hreflects.slots i (by rwa [hold])
    rw [hold, hifd] at hsfd
    rcases (open_set hopen hconn).mp hs with ⟨-, rfl⟩ | ⟨hj, hs⟩
    · refine hnew session.clientFd ⟨i, hi, ?_, hifd⟩
      rw [← hold, ← hsname]
      exact ofStr_username_val (CString.zero_notMem_cstr _) (login_ok_length hstatus).2
    · exact hj (h.fds _ _ _ _ hs hopen hsfd)

/-- **The table reflects the live logins along a run exactly when no login request on a connection
    that is logged in goes further than being refused.** -/
theorem reflectsLogins_iff {userDb : List UInt8} {events : List ServerEvent} {server : ChatServer}
    (h : Transition.run nextServer (.start userDb) events = some server) :
    Transition.Along nextServer ReflectsLogins (.start userDb) events ↔
      Transition.Guarded nextServer LoginKept (.start userDb) events :=
  Transition.along_iff_guarded (fun _ hinv => hinv.reflectsLogins)
    (fun _ _ _ hinv hok hstep => hinv.step hok hstep)
    (fun _ _ _ hinv hno hstep => hinv.break hno hstep) (loginInv_start userDb) h

/-! ## Names -/

/-- Every open connection that is logged in has a name. -/
def Named (server : ChatServer) : Prop :=
  ∀ index session, Open server index session → session.authenticated = true →
    session.username.val ≠ []

/-- Every step keeps the names, also one that leaves a slot behind. -/
theorem Named.step {server server' : ChatServer} {event : ServerEvent} (h : Named server)
    (hstep : nextServer server event = some server') : Named server' := by
  intro i s hi hauth
  cases effect_of_nextServer hstep with
  | accepted _ _ hconn =>
    unfold Open at hi
    rw [hconn, Records.getElem?_concat_eq_some] at hi
    rcases hi with ⟨-, heq⟩ | hi
    · cases heq
      -- a fresh session is not logged in
      exact absurd hauth (by simp [ClientSession.fresh])
    · exact h i s hi hauth
  | quiet hopen hsame _ _ hconn =>
    rcases (open_set hopen hconn).mp hi with ⟨-, rfl⟩ | ⟨-, hi⟩
    · rw [hsame.username]
      exact h _ _ hopen (hsame.authenticated ▸ hauth)
    · exact h i s hi hauth
  | loginFailed hopen _ _ _ hconn =>
    rcases (open_set hopen hconn).mp hi with ⟨-, rfl⟩ | ⟨-, hi⟩
    · exact absurd hauth (by simp [resetSession])
    · exact h i s hi hauth
  | loginRefused hopen _ _ _ _ hconn =>
    rcases (open_set hopen hconn).mp hi with ⟨-, rfl⟩ | ⟨-, hi⟩
    · exact h _ _ hopen hauth
    · exact h i s hi hauth
  | @loginSucceeded _ _ request _ _ _ _ hopen _ hstatus _ _ _ hconn =>
    rcases (open_set hopen hconn).mp hi with ⟨-, rfl⟩ | ⟨-, hi⟩
    · -- a name that has been validated is not empty, and fits the session
      obtain ⟨hne, hlen⟩ := login_ok_length hstatus
      have hval := ofStr_username_val (CString.zero_notMem_cstr request.usernameMem) hlen
      exact fun hnil => hne (hval.symm.trans hnil)
    · exact h i s hi hauth
  | left hopen _ _ hconn => exact h i s ((open_close hopen hconn).mp hi).2 hauth

/-- In every reachable state, open connections that are logged in have names. -/
theorem named_of_run {userDb : List UInt8} {events : List ServerEvent} {server : ChatServer}
    (h : Transition.run nextServer (.start userDb) events = some server) : Named server :=
  Transition.run_invariant (fun _ _ _ hnamed hstep => hnamed.step hstep)
    (fun i _ hi => by simp [Open, ChatServer.start] at hi) h

/-! ## A second login request -/

/-- The users file with the account `amy`, whose hash is `ok`. -/
def amyDb : List UInt8 := userRecord (ascii "amy") (ascii "ok")

/-- The users file with the accounts `amy` and `bob`. -/
def amyBobDb : List UInt8 := amyDb ++ userRecord (ascii "bob") (ascii "ok")

/-- A login request. -/
def loginAs (username password : String) : RequestPtr where
  toChatRequest := { ChatRequest.zero with
    requestType := RequestType.authLogin.code
    username := .ofStr _ (ascii username)
    authPayload := .ofStr _ (ascii password) }
  after := []

/-- A connection logs in as `amy`. -/
def loginEvents : List ServerEvent :=
  [.accept 4, .request 0 .all (loginAs "amy" "ok") true]

/-- A connection logs in as `amy` and sends a login request with a wrong hash afterwards. -/
def secondLoginEvents : List ServerEvent :=
  loginEvents ++ [.request 0 .all (loginAs "amy" "no") true]

/-- The table and the sessions of a run. -/
def runSlots (events : List ServerEvent) : Option (OnlineUser × List ClientSession) :=
  (Transition.run nextServer (.start amyDb) events).map fun server =>
    (server.online[0], server.connections.map Connection.session)

theorem reflectsLogins_iff_login :
    ∃ server, Transition.run nextServer (.start amyDb) loginEvents = some server ∧
      (Transition.Along nextServer ReflectsLogins (.start amyDb) loginEvents ↔
        Transition.Guarded nextServer LoginKept (.start amyDb) loginEvents) := by
  have hsome : (Transition.run nextServer (.start amyDb) loginEvents).isSome = true := by
    decide +kernel
  obtain ⟨server, hserver⟩ := Option.isSome_iff_exists.mp hsome
  exact ⟨server, hserver, reflectsLogins_iff hserver⟩

/-- After the second request the slot is active and nobody is logged in. -/
theorem secondLogin_leaves_slot :
    ¬ ∀ (userDb : List UInt8) (events : List ServerEvent) (server : ChatServer),
      Transition.run nextServer (.start userDb) events = some server → ReflectsLogins server := by
  intro h
  have hslots : (runSlots secondLoginEvents).map (fun s => (s.1.active, s.2.map (·.authenticated))) =
      some (true, [false]) := by decide +kernel
  simp only [runSlots, Option.map_map, Option.map_eq_some_iff, Function.comp, Prod.mk.injEq] at hslots
  obtain ⟨server, hrun, hactive, hauth⟩ := hslots
  obtain ⟨index, session, hopen, -, hsauth, -⟩ := (h _ _ _ hrun).slots 0 hactive
  -- the only session is not authenticated
  have hmem : session.authenticated ∈
      (server.connections.map Connection.session).map (·.authenticated) :=
    List.mem_map_of_mem (List.mem_map_of_mem (List.mem_of_getElem? hopen))
  rw [hauth, hsauth] at hmem
  exact absurd hmem (by decide)

end ChatSC.Spec
