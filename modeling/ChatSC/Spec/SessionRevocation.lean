import ChatSC.Backend.AuthService
import ChatSC.ForStd.Records
import ChatSC.ForStd.Transition
import ChatSC.Spec.GroupMembership

/-!
# Revoked and expired sessions

A refresh session goes one way: once it is not active it never is again, once it has a time of
revocation it keeps one, and it expires when it always would have (`Later`).  Calls that hold a copy
of a session write back what they changed, and what they change goes the same way, whatever was
stored in the meantime (`CopyInv`).

## Key results

- `Later.writeModified`: saving a copy makes the stored session later than both were
- `authInv_of_run`, `laterDb_of_run`: in every run the sessions only get later
- `revocation_permanent`: what that means for the tokens of a session
-/

namespace ChatSC.Spec

open Backend Collection JsString Records Transition

/-! ## Sessions go one way -/

/-- A later version of a session. -/
structure Later (before after : RefreshSession) : Prop where
  id : after.id = before.id
  expiresAt : after.expiresAt = before.expiresAt
  ended : before.status ≠ .active → after.status ≠ .active
  revokedAt : before.revokedAt.isSome → after.revokedAt.isSome

theorem Later.refl (session : RefreshSession) : Later session session :=
  ⟨rfl, rfl, fun h => h, fun h => h⟩

theorem Later.trans {a b c : RefreshSession} (hab : Later a b) (hbc : Later b c) : Later a c :=
  ⟨hbc.id.trans hab.id, hbc.expiresAt.trans hab.expiresAt, fun h => hbc.ended (hab.ended h),
    fun h => hbc.revokedAt (hab.revokedAt h)⟩

/-- What a copy of a session was given: nothing, or an end. -/
structure Forward (document : LoadedSession) : Prop where
  id : document.current.id = document.loaded.id
  status : document.current.status ≠ document.loaded.status → document.current.status ≠ .active
  revokedAt : document.current.revokedAt ≠ document.loaded.revokedAt →
    document.current.revokedAt.isSome

/-- Saving a copy makes the stored session later. -/
theorem Later.writeModified {document : LoadedSession} {stored : RefreshSession}
    (hforward : Forward document) : Later stored (document.writeModified stored) where
  id := rfl
  expiresAt := rfl
  ended := fun h => saveField_of_stored (fun s : RefreshSessionStatus => s ≠ .active) hforward.status h
  revokedAt := fun h => saveField_of_stored (fun r : Option Date => r.isSome) hforward.revokedAt h

/-- Saving a copy that is revoked makes the stored session revoked, also when the copy was revoked
    when it was loaded. -/
theorem revoked_writeModified {document : LoadedSession} {stored : RefreshSession}
    (hstored : Later document.loaded stored) (hstatus : document.current.status ≠ .active)
    (hrevokedAt : document.current.revokedAt.isSome) :
    (document.writeModified stored).status ≠ .active ∧
      (document.writeModified stored).revokedAt.isSome :=
  ⟨saveField_of_current (fun s : RefreshSessionStatus => s ≠ .active) hstored.ended hstatus,
    saveField_of_current (fun r : Option Date => r.isSome) hstored.revokedAt hrevokedAt⟩

/-- The sessions of the one database are those of the other, later. -/
def LaterDb (db db' : AuthDb) : Prop :=
  ∀ sid session, db.findSession sid = some session →
    ∃ session', db'.findSession sid = some session' ∧ Later session session'

theorem LaterDb.refl (db : AuthDb) : LaterDb db db :=
  fun _ session h => ⟨session, h, .refl session⟩

theorem LaterDb.trans {a b c : AuthDb} (hab : LaterDb a b) (hbc : LaterDb b c) : LaterDb a c := by
  intro sid session h
  obtain ⟨session', h', hlater⟩ := hab sid session h
  obtain ⟨session'', h'', hlater'⟩ := hbc sid session' h'
  exact ⟨session'', h'', hlater.trans hlater'⟩

/-- A session that was found has the id it was looked up by. -/
theorem id_of_findSession {db : AuthDb} {sid : ObjectId} {session : RefreshSession}
    (h : db.findSession sid = some session) : session.id = sid := by
  have hmatch := List.find?_some (show db.refreshSessions.find? (·.id = sid) = some session from h)
  exact of_decide_eq_true hmatch

theorem laterDb_insertSession (db : AuthDb) (session : RefreshSession) :
    LaterDb db (db.insertSession session) := by
  intro sid found h
  refine ⟨found, ?_, .refl found⟩
  show (db.refreshSessions ++ [session]).find? _ = some found
  rw [List.find?_append, show db.refreshSessions.find? (·.id = sid) = some found from h]
  rfl

/-- What is found after a copy was saved. -/
theorem findSession_save (document : LoadedSession) (db : AuthDb) (sid : ObjectId) :
    (document.save db).findSession sid = (db.findSession sid).map fun stored =>
      if sid = document.loaded.id then document.writeModified stored else stored := by
  have hkeep : ∀ stored : RefreshSession, (document.writeModified stored).id = stored.id :=
    fun _ => rfl
  exact find?_updateOne_key hkeep document.loaded.id sid

theorem laterDb_save {document : LoadedSession} (hforward : Forward document) (db : AuthDb) :
    LaterDb db (document.save db) := by
  intro sid session h
  rw [findSession_save, h]
  refine ⟨_, rfl, ?_⟩
  split
  · exact .writeModified hforward
  · exact .refl session

/-! ## Copies in flight -/

/-- A copy of a session changes it forward, and what is stored is later than what was loaded. -/
structure CopyOk (db : AuthDb) (document : LoadedSession) : Prop where
  forward : Forward document
  stored : ∃ stored, db.findSession document.loaded.id = some stored ∧ Later document.loaded stored

theorem CopyOk.mono {db db' : AuthDb} {document : LoadedSession} (h : CopyOk db document)
    (hlater : LaterDb db db') : CopyOk db' document where
  forward := h.forward
  stored := by
    obtain ⟨stored, hfound, hstored⟩ := h.stored
    obtain ⟨stored', hfound', hstored'⟩ := hlater _ stored hfound
    exact ⟨stored', hfound', hstored.trans hstored'⟩

/-- A session that has just been loaded. -/
theorem CopyOk.of_found {db : AuthDb} {sid : ObjectId} {session current : RefreshSession}
    (hfound : db.findSession sid = some session) (hforward : Forward ⟨session, current⟩) :
    CopyOk db ⟨session, current⟩ where
  forward := hforward
  stored := by
    refine ⟨session, ?_, .refl session⟩
    show db.findSession session.id = some session
    rw [id_of_findSession hfound, hfound]

/-- The copy of a session that a call holds. -/
def documentOf : AuthCall → Option LoadedSession
  | .refreshAccessToken _ (.savingExpired _ document)
  | .refreshAccessToken _ (.findingUser _ document _)
  | .refreshAccessToken _ (.savingUsed document _)
  | .revokeRefreshToken _ (.saving _ document) => some document
  | _ => none

/-- The copy that a call of `revokeRefreshToken` is about to save is revoked, and of the session of
    its token. -/
def RevokesOwn : AuthCall → Prop
  | .revokeRefreshToken _ (.saving payload document) =>
    ObjectId.ofString? payload.sid = some document.loaded.id ∧
      document.current.status ≠ .active ∧ document.current.revokedAt.isSome
  | _ => True

/-- The copy of a call, if it holds one, is as it should be. -/
structure CallOk (db : AuthDb) (call : AuthCall) : Prop where
  copy : ∀ document, documentOf call = some document → CopyOk db document
  revokes : RevokesOwn call

theorem CallOk.of_none {db : AuthDb} {call : AuthCall} (h : documentOf call = none) :
    CallOk db call where
  copy := fun _ hdocument => nomatch h.symm.trans hdocument
  revokes := by
    unfold RevokesOwn
    split
    · cases h
    · trivial

theorem CallOk.of_copy {db : AuthDb} {call : AuthCall} {document : LoadedSession}
    (hcall : documentOf call = some document) (h : CopyOk db document) (hrevokes : RevokesOwn call) :
    CallOk db call where
  copy := by
    intro other hother
    cases hcall.symm.trans hother
    exact h
  revokes := hrevokes

theorem CallOk.mono {db db' : AuthDb} {call : AuthCall} (h : CallOk db call)
    (hlater : LaterDb db db') : CallOk db' call where
  copy := fun document hdocument => (h.copy document hdocument).mono hlater
  revokes := h.revokes

variable {tokens : Tokens} {env : TokenEnv} {db db' : AuthDb} {input : AuthInput}

/-- The sessions do not change with the attempts. -/
theorem laterDb_recordAttempt (db : AuthDb) (attempt : AuthAttempt) :
    LaterDb db (db.recordAttempt attempt) :=
  LaterDb.refl db

/-- A step of `issueTokenPair` changes no session that there is. -/
theorem issueStep_spec {user : SessionUser} {createdBy : String} {pc pc' : IssuePc}
    (h : issueStep tokens env user createdBy db input pc = some (db', pc')) : LaterDb db db' := by
  -- a session of a new id is stored, and the others stay
  cases pc with
  | start =>
    simp only [issueStep] at h
    split at h <;> (cases h; exact .refl db)
  | saving session refreshToken =>
    simp only [issueStep] at h
    split at h
    · cases h
    · cases h
      exact laterDb_insertSession db session
  | recording session refreshToken =>
    cases h
    exact laterDb_recordAttempt db _
  | returned refreshToken response => cases h
  | threw error => cases h

/-- The checks of a session that was found give it back as it was, or ended. -/
theorem checkSession_spec {refreshToken : JsString} {payload : RefreshTokenPayload} {sid : ObjectId}
    {session : RefreshSession} {now : Date} (hfound : db.findSession sid = some session) :
    CallOk db (.refreshAccessToken refreshToken
      (checkSession tokens refreshToken payload session now)) := by
  unfold checkSession
  split
  · exact .of_none rfl
  · split
    · exact .of_none rfl
    · split
      · -- the session has expired, and the copy says so
        have hforward : Forward ⟨session, { session with status := .expired }⟩ :=
          ⟨rfl, fun _ => nofun, fun h => absurd rfl h⟩
        exact .of_copy rfl (.of_found hfound hforward) trivial
      · -- the session is handed on as it was found
        have hforward : Forward ⟨session, session⟩ :=
          ⟨rfl, fun h => absurd rfl h, fun h => absurd rfl h⟩
        exact .of_copy rfl (.of_found hfound hforward) trivial

/-- A step of `refreshAccessToken` makes sessions later and holds a copy as it should be. -/
theorem refreshStep_spec {refreshToken : JsString} {pc pc' : RefreshPc}
    (hcopy : CallOk db (.refreshAccessToken refreshToken pc))
    (h : refreshStep tokens env refreshToken db input pc = some (db', pc')) :
    LaterDb db db' ∧ CallOk db' (.refreshAccessToken refreshToken pc') := by
  cases pc with
  | start =>
    simp only [refreshStep] at h
    split at h <;> (cases h; exact ⟨.refl db, .of_none rfl⟩)
  | loading payload =>
    simp only [refreshStep] at h
    split at h
    · cases h
      exact ⟨.refl db, .of_none rfl⟩
    · split at h
      · cases h
        exact ⟨.refl db, .of_none rfl⟩
      · rename_i session hfound
        cases h
        exact ⟨.refl db, checkSession_spec hfound⟩
  | savingExpired payload document =>
    cases h
    exact ⟨laterDb_save (hcopy.copy document rfl).forward db, .of_none rfl⟩
  | findingUser payload document now =>
    have hdocument := hcopy.copy document rfl
    simp only [refreshStep] at h
    split at h
    · cases h
      exact ⟨.refl db, .of_none rfl⟩
    · split at h
      · cases h
        exact ⟨.refl db, .of_none rfl⟩
      · cases h
        -- the time of use is no part of what goes one way
        have hforward := hdocument.forward
        exact ⟨.refl db, .of_copy rfl ⟨⟨hforward.id, hforward.status, hforward.revokedAt⟩,
          hdocument.stored⟩ trivial⟩
  | savingUsed document user =>
    cases h
    exact ⟨laterDb_save (hcopy.copy document rfl).forward db, .of_none rfl⟩
  | recording session user =>
    cases h
    exact ⟨laterDb_recordAttempt db _, .of_none rfl⟩
  | rejecting attempt error =>
    cases h
    exact ⟨laterDb_recordAttempt db _, .of_none rfl⟩
  | returned response => cases h
  | threw error => cases h

/-- A step of `revokeRefreshToken` makes sessions later and holds a copy as it should be. -/
theorem revokeStep_spec {refreshToken : JsString} {pc pc' : RevokePc}
    (hcopy : CallOk db (.revokeRefreshToken refreshToken pc))
    (h : revokeStep tokens refreshToken db input pc = some (db', pc')) :
    LaterDb db db' ∧ CallOk db' (.revokeRefreshToken refreshToken pc') := by
  cases pc with
  | start =>
    simp only [revokeStep] at h
    split at h <;> (cases h; exact ⟨.refl db, .of_none rfl⟩)
  | loading payload =>
    simp only [revokeStep] at h
    split at h
    · cases h
      exact ⟨.refl db, .of_none rfl⟩
    · rename_i sid hsid
      split at h
      · cases h
        exact ⟨.refl db, .of_none rfl⟩
      · rename_i session hfound
        cases h
        -- the copy is the one of the token's session
        have hown : ObjectId.ofString? payload.sid = some session.id := by
          rw [hsid, id_of_findSession hfound]
        exact ⟨.refl db, .of_copy rfl (.of_found hfound ⟨rfl, fun _ => nofun, fun _ => rfl⟩)
          ⟨hown, nofun, rfl⟩⟩
  | saving payload document =>
    cases h
    exact ⟨laterDb_save (hcopy.copy document rfl).forward db, .of_none rfl⟩
  | recording payload =>
    cases h
    exact ⟨laterDb_recordAttempt db _, .of_none rfl⟩
  | returned => cases h
  | threw error => cases h

/-- A step of `authenticateAccessToken` writes nothing. -/
theorem authenticateStep_spec {token : JsString} {pc pc' : AuthenticatePc}
    (h : authenticateStep tokens token db input pc = some (db', pc')) : db' = db := by
  -- the user and the session are only looked up
  cases pc with
  | start =>
    simp only [authenticateStep] at h
    split at h <;> (cases h; rfl)
  | loading payload =>
    simp only [authenticateStep] at h
    split at h
    · cases h
      rfl
    · split at h
      · cases h
        rfl
      · split at h
        · cases h
          rfl
        · split at h <;> (cases h; rfl)
  | findingUser payload =>
    simp only [authenticateStep] at h
    split at h <;> (cases h; rfl)
  | returned user => cases h
  | threw error => cases h

/-- Every step of every call makes sessions later and holds a copy as it should be. -/
theorem authCallStep_spec {call call' : AuthCall} (hcopy : CallOk db call)
    (h : authCallStep tokens env db input call = some (db', call')) :
    LaterDb db db' ∧ CallOk db' call' := by
  -- each of the four calls by its own lemma
  cases call with
  | issueTokenPair user createdBy pc =>
    obtain ⟨⟨db'', pc'⟩, hstep, heq⟩ := Option.map_eq_some_iff.mp h
    cases heq
    exact ⟨issueStep_spec hstep, .of_none rfl⟩
  | refreshAccessToken refreshToken pc =>
    obtain ⟨⟨db'', pc'⟩, hstep, heq⟩ := Option.map_eq_some_iff.mp h
    cases heq
    exact refreshStep_spec hcopy hstep
  | revokeRefreshToken refreshToken pc =>
    obtain ⟨⟨db'', pc'⟩, hstep, heq⟩ := Option.map_eq_some_iff.mp h
    cases heq
    exact revokeStep_spec hcopy hstep
  | authenticateAccessToken token pc =>
    obtain ⟨⟨db'', pc'⟩, hstep, heq⟩ := Option.map_eq_some_iff.mp h
    cases heq
    obtain rfl := authenticateStep_spec hstep
    exact ⟨.refl _, .of_none rfl⟩

/-! ## Every run -/

/-- All copies in flight are as they should be. -/
def AuthInv (system : AuthSystem) : Prop :=
  ∀ call ∈ system.calls, CallOk system.db call

/-- The collections before the first call. -/
def startAuth (db : AuthDb) : AuthSystem := ⟨db, []⟩

/-- One step of the system. -/
theorem AuthInv.step {system system' : AuthSystem} {event : AuthEvent} (hinv : AuthInv system)
    (h : authStep tokens env system event = some system') :
    AuthInv system' ∧ LaterDb system.db system'.db := by
  cases event with
  | call call =>
    simp only [authStep] at h
    split at h
    · rename_i hstart
      cases h
      refine ⟨?_, .refl _⟩
      intro other hother
      cases List.mem_append.mp hother with
      | inl hold => exact hinv other hold
      | inr hnew =>
        obtain rfl := List.mem_singleton.mp hnew
        -- a call at its start knows nothing yet
        apply CallOk.of_none
        cases other <;> (obtain rfl := of_decide_eq_true hstart; rfl)
    · cases h
  | step index input =>
    simp only [authStep] at h
    split at h
    · cases h
    · rename_i call hcall
      obtain ⟨⟨db', call'⟩, hstep, heq⟩ := Option.map_eq_some_iff.mp h
      cases heq
      obtain ⟨hlater, hok⟩ := authCallStep_spec (hinv call (List.mem_of_getElem? hcall)) hstep
      refine ⟨?_, hlater⟩
      intro other hother
      cases List.mem_or_eq_of_mem_set hother with
      | inl hold => exact (hinv other hold).mono hlater
      | inr hnew =>
        subst hnew
        exact hok

/-- In every run the copies in flight are as they should be. -/
theorem authInv_of_run {system : AuthSystem} {events : List AuthEvent}
    (hrun : run (authStep tokens env) (startAuth db) events = some system) : AuthInv system :=
  run_invariant (fun _ _ _ hinv h => (AuthInv.step hinv h).1)
    (fun _ hcall => absurd hcall List.not_mem_nil) hrun

/-- In every run the sessions get later. -/
theorem laterDb_of_run {system later : AuthSystem} {events : List AuthEvent}
    (hinv : AuthInv system) (hrun : run (authStep tokens env) system events = some later) :
    AuthInv later ∧ LaterDb system.db later.db := by
  have hkeep : ∀ (s : AuthSystem) (event : AuthEvent) (s' : AuthSystem),
      AuthInv s ∧ LaterDb system.db s.db → authStep tokens env s event = some s' →
      AuthInv s' ∧ LaterDb system.db s'.db := by
    intro s event s' hs h
    obtain ⟨hinv', hlater⟩ := AuthInv.step hs.1 h
    exact ⟨hinv', hs.2.trans hlater⟩
  exact run_invariant hkeep ⟨hinv, .refl _⟩ hrun

/-! ## What a session that has ended refuses -/

/-- The session is not active and has a time of revocation. -/
def Revoked (db : AuthDb) (sid : ObjectId) : Prop :=
  ∃ session, db.findSession sid = some session ∧ session.status ≠ .active ∧
    session.revokedAt.isSome

instance (db : AuthDb) (sid : ObjectId) : Decidable (Revoked db sid) :=
  decidable_of_iff (∃ session ∈ db.findSession sid,
    session.status ≠ .active ∧ session.revokedAt.isSome) Iff.rfl

theorem Revoked.mono {sid : ObjectId} (h : Revoked db sid) (hlater : LaterDb db db') :
    Revoked db' sid := by
  obtain ⟨session, hfound, hstatus, hrevokedAt⟩ := h
  obtain ⟨session', hfound', hsession'⟩ := hlater sid session hfound
  exact ⟨session', hfound', hsession'.ended hstatus, hsession'.revokedAt hrevokedAt⟩

/-- Saving a copy that is revoked revokes the session. -/
theorem revoked_save {document : LoadedSession} (hcopy : CopyOk db document)
    (hstatus : document.current.status ≠ .active) (hrevokedAt : document.current.revokedAt.isSome) :
    Revoked (document.save db) document.loaded.id := by
  obtain ⟨stored, hfound, hstored⟩ := hcopy.stored
  refine ⟨document.writeModified stored, ?_, revoked_writeModified hstored hstatus hrevokedAt⟩
  rw [findSession_save, hfound, Option.map_some, if_pos rfl]

/-- The call has been refused, or is about to reject. -/
def Rejects : AuthCall → Prop
  | .refreshAccessToken _ (.rejecting _ _) | .refreshAccessToken _ (.threw _) => True
  | _ => False

/-- A call of `refreshAccessToken` that loads the session now rejects, whatever happens then. -/
def RefusesRefresh (tokens : Tokens) (env : TokenEnv) (system : AuthSystem) (sid : ObjectId) :
    Prop :=
  ∀ index refreshToken payload input next,
    system.calls[index]? = some (.refreshAccessToken refreshToken (.loading payload)) →
    ObjectId.ofString? payload.sid = some sid →
    authStep tokens env system (.step index input) = some next →
    ∀ events final, run (authStep tokens env) next events = some final →
      ∃ call, final.calls[index]? = some call ∧ Rejects call

/-- A call of `authenticateAccessToken` that loads the session now, at a time as given, returns no
    user. -/
def RefusesAccess (tokens : Tokens) (env : TokenEnv) (system : AuthSystem) (sid : ObjectId)
    (time : Date → Prop) : Prop :=
  ∀ index token payload input next,
    system.calls[index]? = some (.authenticateAccessToken token (.loading payload)) →
    ObjectId.ofString? payload.sid = some sid → time input.now →
    authStep tokens env system (.step index input) = some next →
    next.calls[index]? = some (.authenticateAccessToken token (.returned none))

/-- The checks refuse a session that is revoked. -/
theorem rejects_checkSession {refreshToken : JsString} {payload : RefreshTokenPayload}
    {session : RefreshSession} {now : Date} (h : session.revokedAt.isSome) :
    Rejects (.refreshAccessToken refreshToken
      (checkSession tokens refreshToken payload session now)) := by
  unfold checkSession
  split
  · trivial
  · rw [if_pos (.inl h)]
    trivial

/-- A call that rejects goes on to reject. -/
theorem Rejects.step {call call' : AuthCall} (hrejects : Rejects call)
    (h : authCallStep tokens env db input call = some (db', call')) : Rejects call' := by
  unfold Rejects at hrejects
  split at hrejects
  · cases h
    trivial
  · cases h
  · exact False.elim hrejects

/-- It does so in every run. -/
theorem rejects_of_run {system later : AuthSystem} {events : List AuthEvent} {index : Nat}
    (hstart : ∃ call, system.calls[index]? = some call ∧ Rejects call)
    (hrun : run (authStep tokens env) system events = some later) :
    ∃ call, later.calls[index]? = some call ∧ Rejects call := by
  have hkeep : ∀ (s : AuthSystem) (event : AuthEvent) (s' : AuthSystem),
      (∃ call, s.calls[index]? = some call ∧ Rejects call) →
      authStep tokens env s event = some s' →
      ∃ call, s'.calls[index]? = some call ∧ Rejects call := by
    intro s event s' hs h
    obtain ⟨call, hcall, hrejects⟩ := hs
    cases event with
    | call new =>
      simp only [authStep] at h
      split at h
      · cases h
        exact ⟨call, getElem?_concat_eq_some.mpr (.inr hcall), hrejects⟩
      · cases h
    | step i input =>
      simp only [authStep] at h
      split at h
      · cases h
      · rename_i other hother
        obtain ⟨⟨db', call'⟩, hstep, heq⟩ := Option.map_eq_some_iff.mp h
        cases heq
        -- a step of the call itself, or of another one
        by_cases hi : index = i
        · subst hi
          cases hcall.symm.trans hother
          exact ⟨call', (getElem?_set_eq_some hother).mpr (.inl ⟨rfl, rfl⟩), hrejects.step hstep⟩
        · exact ⟨call, (getElem?_set_eq_some hother).mpr (.inr ⟨hi, hcall⟩), hrejects⟩
  exact run_invariant hkeep hstart hrun

/-- A step of a call, read off a step of the system. -/
theorem callStep_of_step {system next : AuthSystem} {index : Nat} {call : AuthCall}
    (hcall : system.calls[index]? = some call)
    (h : authStep tokens env system (.step index input) = some next) :
    ∃ call', authCallStep tokens env system.db input call = some (next.db, call') ∧
      next.calls[index]? = some call' := by
  simp only [authStep, hcall] at h
  obtain ⟨⟨db', call'⟩, hstep, heq⟩ := Option.map_eq_some_iff.mp h
  cases heq
  exact ⟨call', hstep, (getElem?_set_eq_some hcall).mpr (.inl ⟨rfl, rfl⟩)⟩

theorem refusesRefresh_of_revoked {system : AuthSystem} {sid : ObjectId}
    (h : Revoked system.db sid) : RefusesRefresh tokens env system sid := by
  intro index refreshToken payload input next hcall hsid hstep events final hrun
  obtain ⟨session, hfound, -, hrevokedAt⟩ := h
  obtain ⟨call', hcallStep, hnext⟩ := callStep_of_step hcall hstep
  refine rejects_of_run ⟨call', hnext, ?_⟩ hrun
  simp only [authCallStep, refreshStep, hsid, hfound, Option.map_some, Option.some.injEq,
    Prod.mk.injEq] at hcallStep
  rw [← hcallStep.2]
  exact rejects_checkSession hrevokedAt

/-- What makes `authenticateAccessToken` refuse: the session has ended, or its time is over. -/
theorem refusesAccess_of_found {system : AuthSystem} {sid : ObjectId} {session : RefreshSession}
    {time : Date → Prop} (hfound : system.db.findSession sid = some session)
    (hrefused : ∀ now, time now →
      session.status ≠ .active ∨ session.revokedAt.isSome ∨ session.expiresAt ≤ now) :
    RefusesAccess tokens env system sid time := by
  intro index token payload input next hcall hsid htime hstep
  obtain ⟨call', hcallStep, hnext⟩ := callStep_of_step hcall hstep
  rw [hnext]
  -- the session is found, and one of the three conditions turns it down
  have hreturned : authenticateStep tokens token system.db input (.loading payload) =
      some (system.db, .returned none) := by
    simp only [authenticateStep, hsid, hfound]
    split
    · rfl
    · rename_i hactive
      rw [not_or] at hactive
      cases hrefused input.now htime with
      | inl hstatus => exact absurd hstatus hactive.1
      | inr hrest =>
        cases hrest with
        | inl hrevokedAt => exact absurd hrevokedAt hactive.2
        | inr hexpired => rw [if_pos hexpired]
  simp only [authCallStep, hreturned, Option.map_some, Option.some.injEq, Prod.mk.injEq]
    at hcallStep
  rw [← hcallStep.2]

/-- In every run: a stored revocation revokes the session of its token; a session that is revoked
    stays so, every later load of it by `refreshAccessToken` ends in a rejection and every later
    load by `authenticateAccessToken` gives no user; and from the time on at which a session expires
    no load gives a user either. -/
theorem revocation_permanent {before after : List AuthEvent} {system later : AuthSystem}
    (hbefore : run (authStep tokens env) (startAuth db) before = some system)
    (hafter : run (authStep tokens env) system after = some later) :
    (∀ index refreshToken payload document input next,
      system.calls[index]? = some (.revokeRefreshToken refreshToken (.saving payload document)) →
      authStep tokens env system (.step index input) = some next →
      ∃ sid, ObjectId.ofString? payload.sid = some sid ∧ Revoked next.db sid) ∧
    (∀ sid, Revoked system.db sid →
      Revoked later.db sid ∧ RefusesRefresh tokens env later sid ∧
        RefusesAccess tokens env later sid fun _ => True) ∧
    ∀ sid session, system.db.findSession sid = some session →
      RefusesAccess tokens env later sid fun now => session.expiresAt ≤ now := by
  have hinv := authInv_of_run hbefore
  -- sessions only move forward from here on
  have hlater := (laterDb_of_run hinv hafter).2
  refine ⟨?_, ?_, ?_⟩
  · intro index refreshToken payload document input next hcall hstep
    have hok := hinv _ (List.mem_of_getElem? hcall)
    obtain ⟨hsid, hstatus, hrevokedAt⟩ := hok.revokes
    obtain ⟨call', hcallStep, -⟩ := callStep_of_step hcall hstep
    simp only [authCallStep, revokeStep, Option.map_some, Option.some.injEq, Prod.mk.injEq]
      at hcallStep
    rw [← hcallStep.1]
    exact ⟨_, hsid, revoked_save (hok.copy document rfl) hstatus hrevokedAt⟩
  · intro sid hrevoked
    have hrevoked' := hrevoked.mono hlater
    obtain ⟨session, hfound, hstatus, -⟩ := hrevoked'
    exact ⟨hrevoked.mono hlater, refusesRefresh_of_revoked (hrevoked.mono hlater),
      refusesAccess_of_found hfound fun _ _ => .inl hstatus⟩
  · intro sid session hfound
    obtain ⟨session', hfound', hsession'⟩ := hlater sid session hfound
    apply refusesAccess_of_found hfound'
    intro now hnow
    rw [hsession'.expiresAt]
    exact .inr (.inr hnow)

/-! ## A run -/

/-- Tokens that are their payload: two ids of 24 digits, and an identifier. -/
def plainTokens : Tokens where
  signRefreshToken payload _ := js "r." ++ payload.sub ++ payload.sid ++ payload.jti
  signAccessToken payload _ := js "a." ++ payload.sub ++ payload.sid
  verifyRefreshToken token _ :=
    if js "r." <+: token then
      .ok ⟨(token.drop 2).take 24, (token.drop 26).take 24, token.drop 50⟩
    else .error (.unauthorized "refresh_token_invalid" "Refresh token is invalid")
  verifyAccessToken token _ :=
    if js "a." <+: token then some ⟨(token.drop 2).take 24, token.drop 26⟩ else none
  hashToken token := token

/-- Half an hour and seven days. -/
def plainTokenEnv : TokenEnv := ⟨1800, 604800⟩

/-- User 1. -/
def amy : User := ⟨digitId 1, none, js "amy@mail", js "amy", js "Amy", none, js "active", none⟩

/-- The refresh token of user 1's session. -/
def amyToken : JsString :=
  plainTokens.signRefreshToken ⟨(digitId 1).toString, (digitId 3).toString, js "jti"⟩ 0

/-- Steps of one call. -/
def authSteps (index count start : Nat) : List AuthEvent :=
  (List.range count).map fun i => .step index ⟨start + i, digitId 3, js "jti"⟩

/-- User 1 signs in; a refresh loads the session, then a revocation loads and saves it. -/
def revokedEvents : List AuthEvent :=
  .call (.issueTokenPair (toSessionUser amy) "google-login" .start) :: authSteps 0 3 1000 ++
    .call (.refreshAccessToken amyToken .start) :: authSteps 1 2 2000 ++
    .call (.revokeRefreshToken amyToken .start) :: authSteps 2 3 3000

/-- The session stays revoked when the refresh that loaded it before saves its copy. -/
theorem revocation_permanent_amy :
    ∃ later, run (authStep plainTokens plainTokenEnv) (startAuth ⟨[amy], [], []⟩)
        (revokedEvents ++ authSteps 1 3 4000) = some later ∧
      Revoked later.db (digitId 3) ∧
      RefusesAccess plainTokens plainTokenEnv later (digitId 3) fun _ => True := by
  -- the run goes on after the revocation, so the theorem can be used behind it
  have hruns : (run (authStep plainTokens plainTokenEnv) (startAuth ⟨[amy], [], []⟩)
      (revokedEvents ++ authSteps 1 3 4000)).isSome := by decide +kernel
  have hrevoked : ∀ system ∈ run (authStep plainTokens plainTokenEnv)
      (startAuth ⟨[amy], [], []⟩) revokedEvents, Revoked system.db (digitId 3) := by
    decide +kernel
  obtain ⟨later, hlater⟩ := Option.isSome_iff_exists.mp hruns
  obtain ⟨system, hbefore, hafter⟩ := run_append_eq_some.mp hlater
  obtain ⟨hstays, -, haccess⟩ :=
    (revocation_permanent hbefore hafter).2.1 (digitId 3) (hrevoked system hbefore)
  exact ⟨later, hlater, hstays, haccess⟩

end ChatSC.Spec
