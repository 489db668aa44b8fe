import ChatSC.Backend.Registration
import ChatSC.ForStd.Records
import ChatSC.Spec.DisabledAccounts
import ChatSC.Spec.PasswordHashing

/-!
# Accounts

Any number of registrations, logins, Google logins, refreshes and logouts at once.  A registration
looks whether its address is free before it creates the account, and others create accounts in
between; still no two accounts ever share an address, a name or a Google profile, because every
write is checked again by the unique indexes.  `UsersChange` says once what a step can do to the
users.

## Key results

- `accountsKept_of_run`: accounts stay unique, and nothing but the profile of an account changes
- `registeredOnce_of_run`: of the registrations for one address or one name at most one succeeds
- `loginAfterRegister_of_run`: the password that was registered lets in, another one does not
-/

namespace ChatSC.Spec

open Backend Collection JsString Records Transition

/-! ## What a step does to the users -/

/-- The part of an account that no call changes: all but what Google says of it. -/
def lastingPart (user : User) : User :=
  { user with googleId := none, displayName := [], avatarUrl := none }

/-- No two accounts share a key of a unique index. -/
structure UniqueAccounts (users : List User) : Prop where
  ids : (users.map User.id).Nodup
  emails : (users.map User.email).Nodup
  usernames : (users.map User.username).Nodup
  googleIds : ∀ user ∈ users, ∀ other ∈ users, user.googleId.isSome →
    user.googleId = other.googleId → user.id = other.id

/-- No account has a key of this one. -/
structure FreeKeys (users : List User) (user : User) : Prop where
  id : user.id ∉ users.map User.id
  email : user.email ∉ users.map User.email
  username : user.username ∉ users.map User.username
  googleId : ∀ other ∈ users, other.googleId.isSome → other.googleId ≠ user.googleId

/-- What one step does to the users. -/
inductive UsersChange (users users' : List User) : Prop where
  | same (h : users' = users)
  | created (user : User) (hfree : FreeKeys users user) (h : users' = users ++ [user])
  | saved (document : LoadedUser)
      (hfree : document.current.googleId ≠ document.loaded.googleId → ∀ other ∈ users,
        other.id ≠ document.loaded.id → other.googleId.isSome →
        other.googleId ≠ document.current.googleId)
      (h : users' = updateOne (·.id = document.loaded.id) document.writeModified users)

section Changes

variable {users users' : List User} {user : User}

/-- A user that is created has keys of its own. -/
theorem createUser_ok {db created : SignInDb} (hid : user.id ∉ db.auth.users.map User.id)
    (h : db.createUser user = .ok created) :
    FreeKeys db.auth.users user ∧
      created = { db with auth := { db.auth with users := db.auth.users ++ [user] } } := by
  unfold SignInDb.createUser at h
  split at h
  · cases h
  -- the keys are compared with those of every stored user
  split at h
  · cases h
  · rename_i hany
    refine ⟨⟨hid, ?_, ?_, ?_⟩, (Except.ok.inj h).symm⟩
    · intro hmem
      obtain ⟨other, hother, hemail⟩ := List.mem_map.mp hmem
      exact hany (List.any_eq_true.mpr ⟨other, hother, decide_eq_true (.inl hemail)⟩)
    · intro hmem
      obtain ⟨other, hother, husername⟩ := List.mem_map.mp hmem
      exact hany (List.any_eq_true.mpr ⟨other, hother, decide_eq_true (.inr (.inl husername))⟩)
    · intro other hother hsome hsame
      exact hany (List.any_eq_true.mpr
        ⟨other, hother, decide_eq_true (.inr (.inr ⟨hsome, hsame⟩))⟩)

/-- A user that is saved takes no Google profile from another. -/
theorem usersChange_save {document : LoadedUser} {db saved : SignInDb}
    (h : document.save db = .ok saved) : UsersChange db.auth.users saved.auth.users := by
  obtain ⟨hname, hfree⟩ := canSave_of_ok h
  rw [LoadedUser.save, if_neg hname, if_neg hfree] at h
  refine .saved document (fun hmodified other hother hne hsome hsame => ?_)
    (congrArg (·.auth.users) (Except.ok.inj h).symm)
  exact hfree ⟨hmodified, other, hother, hne, hsome, hsame⟩

/-- Nothing but the profile changes, and no account goes. -/
theorem UsersChange.lasting (h : UsersChange users users') :
    users.map lastingPart <+: users'.map lastingPart := by
  cases h with
  | same h => exact h ▸ List.prefix_refl _
  | created user hfree h =>
    rw [h, List.map_append]
    exact List.prefix_append _ _
  | saved document hfree h =>
    have hkeep : ∀ stored, lastingPart (document.writeModified stored) = lastingPart stored :=
      fun _ => rfl
    rw [h, map_updateOne hkeep]

/-- Every step keeps the accounts unique. -/
theorem UniqueAccounts.change (hunique : UniqueAccounts users) (h : UsersChange users users') :
    UniqueAccounts users' := by
  cases h with
  | same h => exact h ▸ hunique
  | created user hfree h =>
    subst h
    refine ⟨nodup_map_concat hunique.ids hfree.id, nodup_map_concat hunique.emails hfree.email,
      nodup_map_concat hunique.usernames hfree.username, fun a ha b hb hsome hsame => ?_⟩
    rcases List.mem_append.mp ha with ha | ha
    · rcases List.mem_append.mp hb with hb | hb
      · exact hunique.googleIds a ha b hb hsome hsame
      · rw [List.mem_singleton.mp hb] at hsame
        exact absurd hsame (hfree.googleId a ha hsome)
    · rcases List.mem_append.mp hb with hb | hb
      · rw [List.mem_singleton.mp ha] at hsome hsame
        exact absurd hsame.symm (hfree.googleId b hb (hsame ▸ hsome))
      · rw [List.mem_singleton.mp ha, List.mem_singleton.mp hb]
  | saved document hfree h =>
    have hids : users'.map User.id = users.map User.id := h ▸ map_updateOne fun _ => rfl
    have hemails : users'.map User.email = users.map User.email := h ▸ map_updateOne fun _ => rfl
    have husernames : users'.map User.username = users.map User.username :=
      h ▸ map_updateOne fun _ => rfl
    refine ⟨hids ▸ hunique.ids, hemails ▸ hunique.emails, husernames ▸ hunique.usernames, ?_⟩
    -- every document is an old one, or the one that was written
    have hold : ∀ a ∈ users', ∃ stored ∈ users, a.id = stored.id ∧
        (a.googleId = stored.googleId ∨ (stored.id = document.loaded.id ∧
          a.googleId = document.current.googleId ∧
          document.current.googleId ≠ document.loaded.googleId)) := by
      intro a ha
      rcases mem_of_mem_updateOne (h ▸ ha) with hmem | ⟨stored, hmem, hmatch, rfl⟩
      · exact ⟨a, hmem, rfl, .inl rfl⟩
      · refine ⟨stored, hmem, rfl, ?_⟩
        by_cases hmodified : document.current.googleId ≠ document.loaded.googleId
        · exact .inr ⟨of_decide_eq_true hmatch, if_pos hmodified, hmodified⟩
        · exact .inl (if_neg hmodified)
    intro a ha b hb hsome hsame
    obtain ⟨storedA, hmemA, hidA, hA⟩ := hold a ha
    obtain ⟨storedB, hmemB, hidB, hB⟩ := hold b hb
    rw [hidA, hidB]
    rcases hA with hA | ⟨hmatchA, hA, hmodified⟩
    · rcases hB with hB | ⟨hmatchB, hB, hmodified⟩
      · exact hunique.googleIds storedA hmemA storedB hmemB (hA ▸ hsome)
          (hA.symm.trans (hsame.trans hB))
      · by_contra hne
        rw [hmatchB] at hne
        exact hfree hmodified storedA hmemA hne (hA ▸ hsome) (hA.symm.trans (hsame.trans hB))
    · rcases hB with hB | ⟨hmatchB, hB, -⟩
      · by_contra hne
        rw [hmatchA] at hne
        exact hfree hmodified storedB hmemB (Ne.symm hne) (hB ▸ hsame ▸ hsome)
          (hB.symm.trans (hsame.symm.trans hA))
      · rw [hmatchA, hmatchB]

end Changes

section Steps

variable {tokens : Tokens} {ttl : TokenEnv} {auth auth' : AuthDb} {time : AuthInput}

/-- A session that is issued changes no user. -/
theorem users_issueStep {user : SessionUser} {createdBy : String} {pc pc' : IssuePc}
    (h : issueStep tokens ttl user createdBy auth time pc = some (auth', pc')) :
    auth'.users = auth.users := by
  cases pc with
  -- only `saving` writes, and it writes a session
  | start =>
    simp only [issueStep] at h
    split at h <;> (cases h; rfl)
  | saving session refreshToken =>
    simp only [issueStep] at h
    split at h
    · cases h
    · cases h
      rfl
  | recording session refreshToken =>
    cases h
    rfl
  | returned refreshToken response => cases h
  | threw error => cases h

/-- A refresh changes no user. -/
theorem users_refreshStep {refreshToken : JsString} {pc pc' : RefreshPc}
    (h : refreshStep tokens ttl refreshToken auth time pc = some (auth', pc')) :
    auth'.users = auth.users := by
  cases pc with
  | start =>
    -- sessions and attempts are written, users never
    simp only [refreshStep] at h
    split at h <;> (cases h; rfl)
  | loading payload =>
    simp only [refreshStep] at h
    split at h
    · cases h
      rfl
    · split at h <;> (cases h; rfl)
  | findingUser payload document now =>
    simp only [refreshStep] at h
    split at h
    · cases h
      rfl
    · split at h <;> (cases h; rfl)
  | savingExpired payload document =>
    cases h
    rfl
  | savingUsed document user =>
    cases h
    rfl
  | recording session user =>
    cases h
    rfl
  | rejecting attempt error =>
    cases h
    rfl
  | returned response => cases h
  | threw error => cases h

/-- A logout changes no user. -/
theorem users_revokeStep {refreshToken : JsString} {pc pc' : RevokePc}
    (h : revokeStep tokens refreshToken auth time pc = some (auth', pc')) :
    auth'.users = auth.users := by
  cases pc with
  -- as in a refresh, only sessions and attempts are written
  | start =>
    simp only [revokeStep] at h
    split at h <;> (cases h; rfl)
  | loading payload =>
    simp only [revokeStep] at h
    split at h
    · cases h
      rfl
    · split at h <;> (cases h; rfl)
  | saving payload document =>
    cases h
    rfl
  | recording payload =>
    cases h
    rfl
  | returned => cases h
  | threw error => cases h

variable {env : SignInEnv} {db db' : SignInDb} {input : SignInInput}

/-- A login changes no user. -/
theorem users_loginStep {payload : LoginLocalAuthDto} {pc pc' : LoginPc}
    (h : loginStep env payload db input pc = some (db', pc')) :
    db'.auth.users = db.auth.users := by
  cases pc with
  -- the user is looked up, and only the tokens are issued from it
  | start =>
    simp only [loginStep] at h
    split at h <;> (cases h; rfl)
  | recordingStarted email =>
    cases h
    rfl
  | findingUser email =>
    cases h
    rfl
  | hashing email user expected =>
    simp only [loginStep] at h
    split at h
    · cases h
    · cases h
      rfl
    · split at h <;> (cases h; rfl)
  | issuing email user pc =>
    obtain ⟨⟨auth, pc'⟩, hissue, heq⟩ := Option.map_eq_some_iff.mp h
    cases heq
    exact users_issueStep hissue
  | recordingSucceeded email user session refreshToken response =>
    cases h
    rfl
  | rejecting attempt error =>
    cases h
    rfl
  | returned refreshToken response => cases h
  | threw error => cases h

/-- A Google login creates a user, or writes its profile. -/
theorem users_googleStep {payload : GoogleAuthUser} {pc pc' : GooglePc}
    (h : googleStep env payload db input pc = some (db', pc')) :
    UsersChange db.auth.users db'.auth.users := by
  cases pc with
  | start =>
    simp only [googleStep] at h
    split at h <;> (cases h; exact .same rfl)
  -- an account that is there is written; its id and its keys stay
  | savingUser document =>
    simp only [googleStep] at h
    split at h
    · cases h
      exact .same rfl
    · rename_i saved hsaved
      cases h
      exact usersChange_save hsaved
  | resolvingUsername email suffix =>
    simp only [googleStep] at h
    split at h <;> (cases h; exact .same rfl)
  -- a new account is created only with an id that is not in use
  | creatingUser email username =>
    simp only [googleStep] at h
    split at h
    · cases h
    · rename_i hid
      split at h
      · cases h
        exact .same rfl
      · rename_i created hcreated
        cases h
        obtain ⟨hfree, rfl⟩ := createUser_ok hid hcreated
        exact .created _ hfree rfl
  | issuing user pc =>
    obtain ⟨⟨auth, pc'⟩, hissue, heq⟩ := Option.map_eq_some_iff.mp h
    cases heq
    exact .same (users_issueStep hissue)
  | returned refreshToken response => cases h
  | threw error => cases h

/-- A registration that creates its account. -/
theorem registerStep_creating {payload : RegisterLocalAuthDto} {digest : JsString}
    {pc' : RegisterPc}
    (h : registerStep env payload db input (.creatingUser digest) = some (db', pc')) :
    (db' = db ∧ ∃ error, pc' = .threw (.signIn error) ∧
        (error = .validation ∨ error = .duplicateKey)) ∨
      ∃ user, user = registeredUser env.toLowerCase payload input.newUserId digest ∧
        FreeKeys db.auth.users user ∧
        db' = { db with auth := { db.auth with users := db.auth.users ++ [user] } } ∧
        pc' = .issuing (toSessionUser user) .start := by
  simp only [registerStep] at h
  split at h
  · cases h
  · rename_i hid
    -- the creation fails at the validation or at the unique keys, or adds the user
    split at h
    · rename_i error herror
      cases h
      refine .inl ⟨rfl, error, rfl, ?_⟩
      unfold SignInDb.createUser at herror
      split at herror
      · exact .inl (Except.error.inj herror).symm
      split at herror
      · exact .inr (Except.error.inj herror).symm
      · cases herror
    · rename_i created hcreated
      cases h
      obtain ⟨hfree, rfl⟩ := createUser_ok hid hcreated
      exact .inr ⟨_, rfl, hfree, rfl, rfl⟩

/-- A registration creates at most its account. -/
theorem users_registerStep {payload : RegisterLocalAuthDto} {pc pc' : RegisterPc}
    (h : registerStep env payload db input pc = some (db', pc')) :
    UsersChange db.auth.users db'.auth.users := by
  cases pc with
  -- everything before the creation only looks
  | start =>
    simp only [registerStep] at h
    split at h <;> (cases h; exact .same rfl)
  | recordingStarted =>
    cases h
    exact .same rfl
  | findingEmail =>
    simp only [registerStep] at h
    split at h <;> (cases h; exact .same rfl)
  | findingUsername =>
    simp only [registerStep] at h
    split at h <;> (cases h; exact .same rfl)
  | hashing =>
    simp only [registerStep] at h
    split at h
    · cases h
    · cases h
      exact .same rfl
    · cases h
      exact .same rfl
  | creatingUser digest =>
    rcases registerStep_creating h with ⟨rfl, -⟩ | ⟨user, -, hfree, rfl, -⟩
    · exact .same rfl
    · exact .created user hfree rfl
  | issuing user pc =>
    obtain ⟨⟨auth, pc'⟩, hissue, heq⟩ := Option.map_eq_some_iff.mp h
    cases heq
    exact .same (users_issueStep hissue)
  | recordingSucceeded user session refreshToken response =>
    cases h
    exact .same rfl
  | rejecting attempt error =>
    cases h
    exact .same rfl
  | returned refreshToken response => cases h
  | threw error => cases h

variable (env db input) in
/-- A step of a call is one of the service's function. -/
inductive AccountMove : AccountCall → SignInDb → AccountCall → Prop where
  | registerLocalAccount (payload : RegisterLocalAuthDto) (pc pc' : RegisterPc) (db' : SignInDb)
      (h : registerStep env payload db input pc = some (db', pc')) :
      AccountMove (.registerLocalAccount payload pc) db' (.registerLocalAccount payload pc')
  | revokeRefreshToken (refreshToken : JsString) (pc pc' : RevokePc) (auth : AuthDb)
      (h : revokeStep env.tokens refreshToken db.auth input.auth pc = some (auth, pc')) :
      AccountMove (.revokeRefreshToken refreshToken pc) { db with auth := auth }
        (.revokeRefreshToken refreshToken pc')
  | loginLocalAccount (payload : LoginLocalAuthDto) (pc pc' : LoginPc) (db' : SignInDb)
      (h : loginStep env payload db input pc = some (db', pc')) :
      AccountMove (.signIn (.loginLocalAccount payload pc)) db'
        (.signIn (.loginLocalAccount payload pc'))
  | googleLogin (payload : GoogleAuthUser) (pc pc' : GooglePc) (db' : SignInDb)
      (h : googleStep env payload db input pc = some (db', pc')) :
      AccountMove (.signIn (.googleLogin payload pc)) db' (.signIn (.googleLogin payload pc'))
  | refreshAccessToken (refreshToken : JsString) (pc pc' : RefreshPc) (auth : AuthDb)
      (h : refreshStep env.tokens env.token refreshToken db.auth input.auth pc =
        some (auth, pc')) :
      AccountMove (.signIn (.refreshAccessToken refreshToken pc)) { db with auth := auth }
        (.signIn (.refreshAccessToken refreshToken pc'))
  | authenticateAccessToken (token : JsString) (pc pc' : AuthenticatePc) (auth : AuthDb)
      (h : authenticateStep env.tokens token db.auth input.auth pc = some (auth, pc')) :
      AccountMove (.signIn (.authenticateAccessToken token pc)) { db with auth := auth }
        (.signIn (.authenticateAccessToken token pc'))

theorem accountCallStep_cases {call call' : AccountCall}
    (h : accountCallStep env db input call = some (db', call')) :
    AccountMove env db input call db' call' := by
  cases call with
  -- the step of the call is that of its service
  | registerLocalAccount payload pc =>
    obtain ⟨⟨db'', pc'⟩, hstep, heq⟩ := Option.map_eq_some_iff.mp h
    cases heq
    exact .registerLocalAccount payload pc pc' _ hstep
  | revokeRefreshToken refreshToken pc =>
    obtain ⟨⟨auth, pc'⟩, hstep, heq⟩ := Option.map_eq_some_iff.mp h
    cases heq
    exact .revokeRefreshToken refreshToken pc pc' auth hstep
  | signIn call =>
    obtain ⟨⟨db'', call''⟩, hstep, heq⟩ := Option.map_eq_some_iff.mp h
    cases heq
    cases call with
    -- the calls of the sign-in share one step function
    | loginLocalAccount payload pc =>
      obtain ⟨⟨db₁, pc'⟩, hlogin, heq⟩ := Option.map_eq_some_iff.mp hstep
      cases heq
      exact .loginLocalAccount payload pc pc' _ hlogin
    | googleLogin payload pc =>
      obtain ⟨⟨db₁, pc'⟩, hgoogle, heq⟩ := Option.map_eq_some_iff.mp hstep
      cases heq
      exact .googleLogin payload pc pc' _ hgoogle
    | refreshAccessToken refreshToken pc =>
      obtain ⟨⟨auth, pc'⟩, hrefresh, heq⟩ := Option.map_eq_some_iff.mp hstep
      cases heq
      exact .refreshAccessToken refreshToken pc pc' auth hrefresh
    | authenticateAccessToken token pc =>
      obtain ⟨⟨auth, pc'⟩, haccess, heq⟩ := Option.map_eq_some_iff.mp hstep
      cases heq
      exact .authenticateAccessToken token pc pc' auth haccess

/-- What a step of any call does to the users. -/
theorem users_accountCallStep {call call' : AccountCall}
    (h : accountCallStep env db input call = some (db', call')) :
    UsersChange db.auth.users db'.auth.users := by
  cases accountCallStep_cases h with
  | registerLocalAccount _ _ _ _ hregister => exact users_registerStep hregister
  | revokeRefreshToken _ _ _ _ hrevoke => exact .same (users_revokeStep hrevoke)
  | loginLocalAccount _ _ _ _ hlogin => exact .same (users_loginStep hlogin)
  | googleLogin _ _ _ _ hgoogle => exact users_googleStep hgoogle
  | refreshAccessToken _ _ _ _ hrefresh => exact .same (users_refreshStep hrefresh)
  | authenticateAccessToken _ _ _ _ haccess =>
    exact .same (congrArg AuthDb.users (authenticateStep_spec haccess))

/-- A step of the system is a new call, or a step of one. -/
theorem accountStep_cases {system system' : AccountSystem} {event : AccountEvent}
    (h : accountStep env system event = some system') :
    (∃ call, event = .call call ∧ call.isStart = true ∧
        system' = ⟨system.db, system.calls ++ [call]⟩) ∨
      ∃ index input call db' call', event = .step index input ∧
        system.calls[index]? = some call ∧
        accountCallStep env system.db input call = some (db', call') ∧
        system' = ⟨db', system.calls.set index call'⟩ := by
  cases event with
  | call call =>
    -- a call is added behind the others
    simp only [accountStep] at h
    split at h
    · rename_i hstart
      cases h
      exact .inl ⟨call, rfl, hstart, rfl⟩
    · cases h
  | step index input =>
    -- a step replaces its call at its index
    simp only [accountStep] at h
    split at h
    · cases h
    · rename_i call hcall
      obtain ⟨⟨db', call'⟩, hstep, rfl⟩ := Option.map_eq_some_iff.mp h
      exact .inr ⟨index, input, call, db', call', rfl, hcall, hstep, rfl⟩

/-- A call is as it was after a step of the system, unless the step was its own. -/
theorem call_of_accountStep {system system' : AccountSystem} {event : AccountEvent} {index : Nat}
    {call : AccountCall} (h : accountStep env system event = some system')
    (hcall : system.calls[index]? = some call) :
    system'.calls[index]? = some call ∨
      ∃ input db' call', event = .step index input ∧
        accountCallStep env system.db input call = some (db', call') ∧
        system'.calls[index]? = some call' := by
  rcases accountStep_cases h with ⟨new, -, -, rfl⟩ |
    ⟨other, input, stepped, db', call', rfl, hother, hmove, rfl⟩
  · exact .inl (getElem?_concat_eq_some.mpr (.inr hcall))
  · -- the step is its own, or that of another call
    by_cases hsame : index = other
    · subst hsame
      cases hcall.symm.trans hother
      exact .inr ⟨input, db', call', rfl, hmove, (getElem?_set_eq_some hcall).mpr (.inl ⟨rfl, rfl⟩)⟩
    · exact .inl ((getElem?_set_eq_some hother).mpr (.inr ⟨hsame, hcall⟩))

/-- What a step of the system does to the users. -/
theorem users_accountStep {system system' : AccountSystem} {event : AccountEvent}
    (h : accountStep env system event = some system') :
    UsersChange system.db.auth.users system'.db.auth.users := by
  rcases accountStep_cases h with ⟨call, -, -, rfl⟩ |
    ⟨index, input, call, db', call', -, -, hstep, rfl⟩
  · exact .same rfl
  · exact users_accountCallStep hstep

end Steps

/-! ## Two registrations at the same time -/

/-- Local logins are on, and the daemon answers. -/
def localSignIn : SignInEnv :=
  { plainSignIn with backend := encryptingEnv, toLowerCase := asciiLower }

/-- What a step gets at a time, with a new id. -/
def localInput (now : Date) (newId : Fin 16) : SignInInput where
  auth := ⟨now, digitId newId, js "jti"⟩
  newUserId := digitId newId
  exchange := quietIo
  processing := ⟨1⟩

/-- Nobody has an account. -/
def noAccounts : SignInDb := ⟨⟨[], [], []⟩, []⟩

/-- Two registrations for one address look for it before either creates an account; then the second
    creates its account, the first fails, and the second gets its tokens. -/
def amyTwice : List AccountEvent :=
  [.call (.registerLocalAccount (amyRegistered (js "secret")) .start),
    .call (.registerLocalAccount (amyRegistered (js "Secret")) .start)] ++
  (List.range 5).flatMap (fun t => [.step 0 (localInput t 1), .step 1 (localInput t 2)]) ++
  [.step 1 (localInput 6 2), .step 0 (localInput 7 1)] ++
  List.replicate 4 (.step 1 (localInput 8 3))

/-- The account of the second registration. -/
def secondAmy : SessionUser :=
  ⟨(digitId 2).toString, js "amy@chat.vn", js "amy", js "Amy", none⟩

/-- How the two end. -/
theorem run_amyTwice :
    (run (accountStep localSignIn) (.start noAccounts) amyTwice).map (·.calls) =
      some [.registerLocalAccount (amyRegistered (js "secret")) (.threw (.signIn .duplicateKey)),
        .registerLocalAccount (amyRegistered (js "Secret")) (.returned
          (plainTokens.signRefreshToken ⟨secondAmy.id, (digitId 3).toString, js "jti"⟩ 8)
          (buildRefreshSessionResponse plainTokens plainTokenEnv secondAmy (digitId 3) 8))] := by
  decide +kernel

theorem uniqueAccounts_noAccounts : UniqueAccounts noAccounts.auth.users :=
  ⟨List.nodup_nil, List.nodup_nil, List.nodup_nil, fun _ h => absurd h List.not_mem_nil⟩

/-! ## Accounts through a run -/

/-- The accounts are unique, and those from before are all there with the same address, name, status
    and password. -/
structure AccountsKept (before after : List User) : Prop where
  unique : UniqueAccounts after
  kept : before.map lastingPart <+: after.map lastingPart

theorem AccountsKept.change {before users users' : List User} (h : AccountsKept before users)
    (hchange : UsersChange users users') : AccountsKept before users' :=
  ⟨h.unique.change hchange, h.kept.trans hchange.lasting⟩

/-- **Accounts are kept**: whatever calls are made at once, in any order of their steps. -/
theorem accountsKept_of_run {env : SignInEnv} {system system' : AccountSystem}
    {events : List AccountEvent} (hunique : UniqueAccounts system.db.auth.users)
    (hrun : run (accountStep env) system events = some system') :
    AccountsKept system.db.auth.users system'.db.auth.users := by
  have hkeep : ∀ (s : AccountSystem) (event : AccountEvent) (s' : AccountSystem),
      AccountsKept system.db.auth.users s.db.auth.users → accountStep env s event = some s' →
      AccountsKept system.db.auth.users s'.db.auth.users :=
    fun _ _ _ hkept h => hkept.change (users_accountStep h)
  exact run_invariant hkeep ⟨hunique, List.prefix_refl _⟩ hrun

/-- There is one account after the two registrations. -/
theorem accountsKept_amyTwice : ∃ system,
    run (accountStep localSignIn) (.start noAccounts) amyTwice = some system ∧
      AccountsKept [] system.db.auth.users := by
  obtain ⟨system, hrun, -⟩ := Option.map_eq_some_iff.mp run_amyTwice
  exact ⟨system, hrun, accountsKept_of_run uniqueAccounts_noAccounts hrun⟩

/-! ## Registrations -/

/-- The digest of a password, as it is stored and compared. -/
def DigestOf (email password digest : JsString) : Prop :=
  ∃ s, (∀ messageId after, hashedBytes messageId after email password = some s) ∧
    digest = ofUtf8 (hexDigits (sha1Digest s))

/-- A password has one digest. -/
theorem DigestOf.unique {email password digest other : JsString}
    (h : DigestOf email password digest) (h' : DigestOf email password other) : digest = other := by
  obtain ⟨s, hs, rfl⟩ := h
  obtain ⟨t, ht, rfl⟩ := h'
  cases (hs 0 []).symm.trans (ht 0 [])
  rfl

/-- The account that a registration has made, with the session user that the call goes on with: it
    is a new account, of the address, the name and the password that were given. -/
structure Registered (env : SignInEnv) (payload : RegisterLocalAuthDto) (session : SessionUser)
    (before users : List User) (user : User) : Prop where
  mem : user ∈ users
  new : user.id ∉ before.map User.id
  id : session.id = user.id.toString
  account : ∃ digest,
    DigestOf (normalizeEmail env.toLowerCase payload.email) payload.password digest ∧
    lastingPart user = lastingPart (registeredUser env.toLowerCase payload user.id digest)

/-- The user that a registration has created. -/
def registeredSession : RegisterPc → Option SessionUser
  | .issuing user _ | .recordingSucceeded user _ _ _ => some user
  | .returned _ response => some response.user
  | _ => none

/-- What a registration knows. -/
structure RegisterOk (env : SignInEnv) (before users : List User) (payload : RegisterLocalAuthDto)
    (pc : RegisterPc) : Prop where
  digest : ∀ digest, pc = .creatingUser digest →
    DigestOf (normalizeEmail env.toLowerCase payload.email) payload.password digest
  registered : ∀ session, registeredSession pc = some session →
    ∃ user, Registered env payload session before users user
  issuing : ∀ session issue, pc = .issuing session issue → Issuing issue
  response : ∀ session sid refreshToken response,
    pc = .recordingSucceeded session sid refreshToken response → response.user = session

section Registrations

variable {env : SignInEnv} {before users users' : List User} {payload : RegisterLocalAuthDto}
  {pc pc' : RegisterPc}

/-- An account is found again after a step. -/
theorem exists_lastingPart {user : User} (hmem : user ∈ users)
    (hkept : users.map lastingPart <+: users'.map lastingPart) :
    ∃ user' ∈ users', lastingPart user' = lastingPart user :=
  List.mem_map.mp (hkept.subset (List.mem_map_of_mem hmem))

/-- The same lasting part is the same id. -/
theorem id_eq_of_lastingPart {user user' : User} (h : lastingPart user' = lastingPart user) :
    user'.id = user.id :=
  congrArg (·.id) h

theorem Registered.mono {session : SessionUser} {user : User}
    (h : Registered env payload session before users user)
    (hkept : users.map lastingPart <+: users'.map lastingPart) :
    ∃ user', Registered env payload session before users' user' := by
  obtain ⟨user', hmem, hsame⟩ := exists_lastingPart h.mem hkept
  have hid := id_eq_of_lastingPart hsame
  obtain ⟨digest, hdigest, haccount⟩ := h.account
  refine ⟨user', hmem, hid ▸ h.new, h.id.trans (congrArg ObjectId.toString hid.symm), digest,
    hdigest, ?_⟩
  rw [hid]
  exact hsame.trans haccount

theorem RegisterOk.mono (h : RegisterOk env before users payload pc)
    (hkept : users.map lastingPart <+: users'.map lastingPart) :
    RegisterOk env before users' payload pc :=
  { h with
    registered := fun session hsession => by
      obtain ⟨user, hregistered⟩ := h.registered session hsession
      exact hregistered.mono hkept }

/-- A registration that has created nothing, and is not about to. -/
theorem RegisterOk.of_none (hsession : registeredSession pc = none)
    (hcreating : ∀ digest, pc ≠ .creatingUser digest) : RegisterOk env before users payload pc where
  digest := fun digest h => absurd h (hcreating digest)
  registered := fun session h => nomatch hsession.symm.trans h
  issuing := fun session issue h => by
    subst h
    cases hsession
  response := fun session sid refreshToken response h => by
    subst h
    cases hsession

/-- What `issueTokenPair` returns is of the user that it was given. -/
theorem user_of_issueStep {tokens : Tokens} {ttl : TokenEnv} {auth auth' : AuthDb}
    {time : AuthInput} {user : SessionUser} {createdBy : String} {issue : IssuePc}
    {refreshToken : JsString}
    {response : RefreshSessionResponse}
    (h : issueStep tokens ttl user createdBy auth time issue =
      some (auth', .returned refreshToken response)) : response.user = user := by
  -- only the last step returns, with the user that was passed along
  cases issue with
  | start =>
    simp only [issueStep] at h
    split at h <;> cases h
  | saving session token =>
    simp only [issueStep] at h
    split at h <;> cases h
  | recording session token =>
    cases h
    rfl
  | returned token response => cases h
  | threw error => cases h

/-- A step of a registration: it knows what it should, and it has the session it had, or has just
    created a user that has an id of its own. -/
theorem RegisterOk.step {db db' : SignInDb} {input : SignInInput}
    (hkept : before.map lastingPart <+: db.auth.users.map lastingPart)
    (h : RegisterOk env before db.auth.users payload pc)
    (hstep : registerStep env payload db input pc = some (db', pc')) :
    RegisterOk env before db'.auth.users payload pc' ∧
      ∀ session, registeredSession pc' = some session →
        registeredSession pc = some session ∨
          ∃ id : ObjectId, id ∉ db.auth.users.map User.id ∧ session.id = id.toString := by
  cases pc with
  -- before the creation there is no session yet
  | start =>
    simp only [registerStep] at hstep
    split at hstep <;> (cases hstep; exact ⟨.of_none rfl nofun, nofun⟩)
  | recordingStarted =>
    cases hstep
    exact ⟨.of_none rfl nofun, nofun⟩
  | findingEmail =>
    simp only [registerStep] at hstep
    split at hstep <;> (cases hstep; exact ⟨.of_none rfl nofun, nofun⟩)
  | findingUsername =>
    simp only [registerStep] at hstep
    split at hstep <;> (cases hstep; exact ⟨.of_none rfl nofun, nofun⟩)
  | hashing =>
    simp only [registerStep] at hstep
    split at hstep
    · cases hstep
    · cases hstep
      exact ⟨.of_none rfl nofun, nofun⟩
    · rename_i digest hresolved
      cases hstep
      refine ⟨⟨fun other hother => ?_, nofun, nofun, nofun⟩, nofun⟩
      cases hother
      exact hashPasswordWithSha1_resolved hresolved
  | creatingUser digest =>
    rcases registerStep_creating hstep with ⟨rfl, error, rfl, -⟩ | ⟨user, huser, hfree, rfl, rfl⟩
    · exact ⟨.of_none rfl nofun, nofun⟩
    · have hid : user.id ∉ before.map User.id := by
        intro hmem
        obtain ⟨old, hold, hsame⟩ := List.mem_map.mp hmem
        obtain ⟨kept, hmem', hkept'⟩ := exists_lastingPart hold hkept
        exact hfree.id (List.mem_map.mpr ⟨kept, hmem', (id_eq_of_lastingPart hkept').trans hsame⟩)
      have hregistered : Registered env payload (toSessionUser user) before
          (db.auth.users ++ [user]) user :=
        ⟨List.mem_append_right _ (List.mem_singleton_self user), hid, rfl, digest,
          h.digest digest rfl, by rw [huser]; rfl⟩
      refine ⟨⟨nofun, ?_, ?_, nofun⟩, ?_⟩
      · rintro session ⟨⟩
        exact ⟨user, hregistered⟩
      · rintro session issue ⟨⟩
        trivial
      · rintro session ⟨⟩
        exact .inr ⟨user.id, hfree.id, rfl⟩
  | issuing session issue =>
    obtain ⟨⟨auth, issue'⟩, hissue, heq⟩ := Option.map_eq_some_iff.mp hstep
    obtain ⟨user, hregistered⟩ := h.registered session rfl
    have husers : auth.users = db.auth.users := users_issueStep hissue
    have hregistered' : ∃ user, Registered env payload session before auth.users user :=
      ⟨user, husers ▸ hregistered⟩
    have hid : session.id = user.id.toString := hregistered.id
    rcases (h.issuing session issue rfl).step hid hissue with
      hissuing | ⟨refreshToken, response, rfl⟩
    · -- the tokens are still to come
      cases issue' with
      | returned refreshToken response => exact hissuing.elim
      | threw error => exact hissuing.elim
      | _ =>
        cases heq
        refine ⟨⟨nofun, ?_, ?_, nofun⟩, fun _ => .inl⟩
        · rintro session' ⟨⟩
          exact hregistered'
        · rintro session' issue' ⟨⟩
          exact hissuing
    · cases heq
      refine ⟨⟨nofun, ?_, nofun, ?_⟩, fun _ => .inl⟩
      · rintro session' ⟨⟩
        exact hregistered'
      · rintro session' sid token response' ⟨⟩
        exact user_of_issueStep hissue
  | recordingSucceeded session sid refreshToken response =>
    cases hstep
    have hresponse := h.response session sid refreshToken response rfl
    have hsame : registeredSession (.returned refreshToken response) = some session :=
      congrArg some hresponse
    refine ⟨⟨nofun, ?_, nofun, nofun⟩, fun other hother => .inl (hsame.symm.trans hother)⟩
    intro other hother
    obtain rfl : session = other := Option.some.inj (hsame.symm.trans hother)
    exact h.registered session rfl
  | rejecting attempt error =>
    cases hstep
    exact ⟨.of_none rfl nofun, nofun⟩
  | returned refreshToken response => cases hstep
  | threw error => cases hstep

end Registrations

/-! ## Registrations at the same time -/

section Calls

variable {env : SignInEnv} {system system' : AccountSystem} {event : AccountEvent}

/-- What every call keeps through its own steps, and through those of the others. -/
theorem forall_calls_of_step {P Q : AccountCall → Prop}
    (h : accountStep env system event = some system') (hP : ∀ call ∈ system.calls, P call)
    (hkeep : ∀ call, P call → Q call) (hstart : ∀ call, call.isStart = true → Q call)
    (hstep : ∀ input call call', P call →
      accountCallStep env system.db input call = some (system'.db, call') → Q call') :
    ∀ call ∈ system'.calls, Q call := by
  rcases accountStep_cases h with ⟨new, -, hnew, rfl⟩ |
    ⟨index, input, call, db', call', -, hcall, hcallStep, rfl⟩
  · -- a new call
    intro other hother
    rcases List.mem_append.mp hother with hold | hnew'
    · exact hkeep other (hP other hold)
    · rw [List.mem_singleton.mp hnew']
      exact hstart new hnew
  · intro other hother
    -- the call that has moved, or one of the others
    rcases List.mem_or_eq_of_mem_set hother with hold | rfl
    · exact hkeep other (hP other hold)
    · exact hstep input call other (hP call (List.mem_of_getElem? hcall)) hcallStep

/-- A registration at its start. -/
theorem registerOk_of_isStart {before users : List User} {payload : RegisterLocalAuthDto}
    {pc : RegisterPc} (h : (AccountCall.registerLocalAccount payload pc).isStart = true) :
    RegisterOk env before users payload pc ∧ registeredSession pc = none := by
  obtain rfl : pc = .start := of_decide_eq_true h
  exact ⟨.of_none rfl nofun, rfl⟩

/-- The id of the user that a registration has created. -/
def registeredId : AccountCall → Option JsString
  | .registerLocalAccount _ pc => (registeredSession pc).map SessionUser.id
  | _ => none

/-- What is known of all registrations. -/
structure RegistrationsInv (env : SignInEnv) (before : List User) (system : AccountSystem) :
    Prop where
  accounts : AccountsKept before system.db.auth.users
  known : ∀ call ∈ system.calls, ∀ payload pc, call = .registerLocalAccount payload pc →
    RegisterOk env before system.db.auth.users payload pc
  once : ∀ (i j : Nat) (a b : AccountCall) (id : JsString), system.calls[i]? = some a →
    system.calls[j]? = some b → registeredId a = some id → registeredId b = some id → i = j

/-- The id of a call that has created a user is that of a user. -/
theorem RegistrationsInv.mem_ids {before : List User} (h : RegistrationsInv env before system)
    {call : AccountCall} (hcall : call ∈ system.calls) {id : ObjectId}
    (hid : registeredId call = some id.toString) : id ∈ system.db.auth.users.map User.id := by
  cases call with
  | registerLocalAccount payload pc =>
    obtain ⟨session, hsession, hsame⟩ := Option.map_eq_some_iff.mp hid
    obtain ⟨user, hregistered⟩ := (h.known _ hcall payload pc rfl).registered session hsession
    have huser : user.id = id :=
      ObjectId.toString_inj.mp (hregistered.id.symm.trans hsame)
    exact List.mem_map.mpr ⟨user, hregistered.mem, huser⟩
  | signIn call => cases hid
  | revokeRefreshToken refreshToken pc => cases hid

/-- A step of any call leaves the user that the call has created, or creates one with a new id. -/
theorem registeredId_accountCallStep {before : List User} {db db' : SignInDb} {input : SignInInput}
    {call call' : AccountCall} (hkept : before.map lastingPart <+: db.auth.users.map lastingPart)
    (hknown : ∀ payload pc, call = .registerLocalAccount payload pc →
      RegisterOk env before db.auth.users payload pc)
    (h : accountCallStep env db input call = some (db', call')) :
    (∀ payload pc, call' = .registerLocalAccount payload pc →
        RegisterOk env before db'.auth.users payload pc) ∧
      ∀ id, registeredId call' = some id → registeredId call = some id ∨
        ∃ new : ObjectId, new ∉ db.auth.users.map User.id ∧ id = new.toString := by
  cases accountCallStep_cases h with
  -- only a registration has an id of its own
  | registerLocalAccount payload pc pc' db' hregister =>
    obtain ⟨hok, hsession⟩ := (hknown payload pc rfl).step hkept hregister
    refine ⟨?_, fun id hid => ?_⟩
    · rintro _ _ ⟨⟩
      exact hok
    · obtain ⟨session, hsession', rfl⟩ := Option.map_eq_some_iff.mp hid
      rcases hsession session hsession' with hold | ⟨new, hnew, hid'⟩
      · exact .inl (congrArg (Option.map SessionUser.id) hold)
      · exact .inr ⟨new, hnew, hid'⟩
  | revokeRefreshToken | loginLocalAccount | googleLogin | refreshAccessToken |
    authenticateAccessToken =>
    exact ⟨fun _ _ heq => (by cases heq), fun _ hid => (by cases hid)⟩

theorem RegistrationsInv.step {before : List User} (h : RegistrationsInv env before system)
    (hstep : accountStep env system event = some system') :
    RegistrationsInv env before system' := by
  have hchange := users_accountStep hstep
  refine ⟨h.accounts.change hchange, ?_, ?_⟩
  · refine forall_calls_of_step hstep h.known (fun call hknown payload pc heq =>
      (hknown payload pc heq).mono hchange.lasting) ?_ ?_
    · rintro _ hstart payload pc rfl
      exact (registerOk_of_isStart hstart).1
    · intro input call call' hknown hcallStep
      exact (registeredId_accountCallStep h.accounts.kept hknown hcallStep).1
  · rcases accountStep_cases hstep with ⟨new, -, hnew, rfl⟩ |
      ⟨index, input, call, db', call', -, hcall, hcallStep, rfl⟩
    · -- a new call has created nobody
      have hnone : registeredId new = none := by
        cases new with
        | registerLocalAccount payload pc =>
          obtain rfl : pc = .start := of_decide_eq_true hnew
          rfl
        | signIn call => rfl
        | revokeRefreshToken refreshToken pc => rfl
      intro i j a b id ha hb hida hidb
      rcases getElem?_concat_eq_some.mp ha with ⟨-, rfl⟩ | ha
      · cases hnone.symm.trans hida
      · rcases getElem?_concat_eq_some.mp hb with ⟨-, rfl⟩ | hb
        · cases hnone.symm.trans hidb
        · exact h.once i j a b id ha hb hida hidb
    · have hknown := h.known call (List.mem_of_getElem? hcall)
      have hids := (registeredId_accountCallStep h.accounts.kept hknown hcallStep).2
      -- what the call has created now, no other call has created
      have hother : ∀ (i : Nat) (a : AccountCall) (id : JsString), system.calls[i]? = some a →
          registeredId a = some id → registeredId call' = some id → i = index := by
        intro i a id ha hida hid
        rcases hids id hid with hold | ⟨new, hnew, rfl⟩
        · exact h.once i index a call id ha hcall hida hold
        · exact absurd (h.mem_ids (List.mem_of_getElem? ha) hida) hnew
      intro i j a b id ha hb hida hidb
      rcases (getElem?_set_eq_some hcall).mp ha with ⟨hi, rfl⟩ | ⟨hi, holdA⟩
      · rcases (getElem?_set_eq_some hcall).mp hb with ⟨hj, -⟩ | ⟨hj, holdB⟩
        · exact hi.trans hj.symm
        · exact absurd (hother j b id holdB hidb hida) hj
      · rcases (getElem?_set_eq_some hcall).mp hb with ⟨hj, rfl⟩ | ⟨hj, holdB⟩
        · exact absurd (hother i a id holdA hida hidb) hi
        · exact h.once i j a b id holdA holdB hida hidb

/-- In every run this much is known of the registrations. -/
theorem registrationsInv_of_run {db : SignInDb} {events : List AccountEvent}
    (hunique : UniqueAccounts db.auth.users)
    (hrun : run (accountStep env) (.start db) events = some system) :
    RegistrationsInv env db.auth.users system := by
  have hstart : RegistrationsInv env db.auth.users (.start db) :=
    ⟨⟨hunique, List.prefix_refl _⟩, fun _ hcall => absurd hcall List.not_mem_nil,
      fun _ _ _ _ _ ha => by cases ha⟩
  exact run_invariant (fun _ _ _ hinv h => RegistrationsInv.step hinv h) hstart hrun

end Calls

/-- A registration that has come behind the creation of its account. -/
def RegistrationAt (system : AccountSystem) (index : Nat) (payload : RegisterLocalAuthDto)
    (session : SessionUser) : Prop :=
  ∃ pc, system.calls[index]? = some (.registerLocalAccount payload pc) ∧
    registeredSession pc = some session

/-- A registration succeeds with an account of its own, which is new and has the address, the name
    and the digest of the password that were given; and no other registration for this address or
    this name succeeds. -/
structure RegisteredOnce (env : SignInEnv) (before : List User) (system : AccountSystem) :
    Prop where
  account : ∀ index payload session, RegistrationAt system index payload session →
    ∃ user, Registered env payload session before system.db.auth.users user
  email : ∀ i j payload payload' session session', RegistrationAt system i payload session →
    RegistrationAt system j payload' session' →
    normalizeEmail env.toLowerCase payload.email = normalizeEmail env.toLowerCase payload'.email →
    i = j
  username : ∀ i j payload payload' session session', RegistrationAt system i payload session →
    RegistrationAt system j payload' session' →
    normalizeTextField payload.username = normalizeTextField payload'.username → i = j

/-- **A registration is exclusive**: of any number of registrations at once, among any other calls,
    at most one succeeds for an address, and at most one for a name. -/
theorem registeredOnce_of_run {env : SignInEnv} {db : SignInDb} {system : AccountSystem}
    {events : List AccountEvent} (hunique : UniqueAccounts db.auth.users)
    (hrun : run (accountStep env) (.start db) events = some system) :
    RegisteredOnce env db.auth.users system := by
  have hinv := registrationsInv_of_run hunique hrun
  have haccount : ∀ index payload session, RegistrationAt system index payload session →
      ∃ user, Registered env payload session db.auth.users system.db.auth.users user := by
    rintro index payload session ⟨pc, hcall, hsession⟩
    exact (hinv.known _ (List.mem_of_getElem? hcall) payload pc rfl).registered session hsession
  -- two registrations that have the same user are the same call
  have hsame : ∀ i j payload payload' session session', RegistrationAt system i payload session →
      RegistrationAt system j payload' session' → session.id = session'.id → i = j := by
    rintro i j payload payload' session session' ⟨pc, hi, hsi⟩ ⟨pc', hj, hsj⟩ hid
    exact hinv.once i j _ _ session.id hi hj (congrArg (Option.map SessionUser.id) hsi)
      (hid ▸ congrArg (Option.map SessionUser.id) hsj)
  refine ⟨haccount, ?_, ?_⟩
  · intro i j payload payload' session session' hi hj hemail
    obtain ⟨user, hregistered⟩ := haccount i payload session hi
    obtain ⟨user', hregistered'⟩ := haccount j payload' session' hj
    obtain ⟨_, -, huser⟩ := hregistered.account
    obtain ⟨_, -, huser'⟩ := hregistered'.account
    have heq : user.email = user'.email :=
      (congrArg (·.email) huser).trans (hemail.trans (congrArg (·.email) huser').symm)
    obtain rfl := List.inj_on_of_nodup_map hinv.accounts.unique.emails hregistered.mem
      hregistered'.mem heq
    exact hsame i j payload payload' session session' hi hj
      (hregistered.id.trans hregistered'.id.symm)
  · intro i j payload payload' session session' hi hj husername
    obtain ⟨user, hregistered⟩ := haccount i payload session hi
    obtain ⟨user', hregistered'⟩ := haccount j payload' session' hj
    obtain ⟨_, -, huser⟩ := hregistered.account
    obtain ⟨_, -, huser'⟩ := hregistered'.account
    have heq : user.username = user'.username :=
      (congrArg (·.username) huser).trans (husername.trans (congrArg (·.username) huser').symm)
    obtain rfl := List.inj_on_of_nodup_map hinv.accounts.unique.usernames hregistered.mem
      hregistered'.mem heq
    exact hsame i j payload payload' session session' hi hj
      (hregistered.id.trans hregistered'.id.symm)

/-- The second registration has succeeded. -/
theorem registeredOnce_amyTwice : ∃ system,
    run (accountStep localSignIn) (.start noAccounts) amyTwice = some system ∧
      RegisteredOnce localSignIn [] system ∧
      RegistrationAt system 1 (amyRegistered (js "Secret")) secondAmy := by
  obtain ⟨system, hrun, hcalls⟩ := Option.map_eq_some_iff.mp run_amyTwice
  exact ⟨system, hrun, registeredOnce_of_run uniqueAccounts_noAccounts hrun, _,
    congrArg (·[1]?) hcalls, rfl⟩

/-! ## Logging in with the password that was registered -/

/-- A digest is not the empty string, which would count as no password. -/
theorem DigestOf.ne_nil {email password digest : JsString} (h : DigestOf email password digest) :
    digest ≠ [] := by
  obtain ⟨s, -, rfl⟩ := h
  intro hnil
  have hbytes := toUtf8_ofUtf8 fun b hb => (hexDigits_ascii (sha1Digest s) b hb).2
  rw [hnil] at hbytes
  have hlength := length_hexDigits (sha1Digest s)
  rw [← hbytes, length_sha1Digest] at hlength
  cases hlength

/-- The two passwords have the same digest. -/
def SameDigest (email password other : JsString) : Prop :=
  ∃ digest, DigestOf email password digest ∧ DigestOf email other digest

/-- A login that is refused while the account has the digest: local logins are off, the digest could
    not be asked for, or it is another one. -/
def LoginRefusal (email password digest : JsString) (error : SignInError) : Prop :=
  error = .unauthorized "local_auth_disabled" "Local authentication is disabled" ∨
    (∃ processing, error = mapAuthProcessingError processing) ∨
    (error = invalidCredentials ∧ ∃ other, DigestOf email password other ∧ other ≠ digest)

/-- What a login with the address of an account comes to. -/
def LoginComesTo (account : User) (digest password : JsString) : LoginPc → Prop
  | .start => True
  | .recordingStarted email | .findingUser email => email = account.email
  | .hashing email user expected => email = account.email ∧ user.id = account.id ∧ expected = digest
  | .issuing _ session issue => Issuing issue ∧ session.id = account.id.toString ∧
    DigestOf account.email password digest
  | .recordingSucceeded _ session _ _ response => response.user = session ∧
    session.id = account.id.toString ∧ DigestOf account.email password digest
  | .returned _ response => response.user.id = account.id.toString ∧
    DigestOf account.email password digest
  | .rejecting _ error | .threw error => LoginRefusal account.email password digest error

/-- The accounts hold one that is active and has a password. -/
structure HasPassword (users : List User) (account : User) (digest : JsString) : Prop where
  mem : ∃ user ∈ users, lastingPart user = lastingPart account
  status : account.status = js "active"
  localAuth : account.localAuth = some ⟨true, some digest⟩
  digest : digest ≠ []

section Logins

variable {env : SignInEnv} {db db' : SignInDb} {input : SignInInput} {account : User}
  {digest : JsString} {payload : LoginLocalAuthDto} {pc pc' : LoginPc}

/-- The account is found by its address, and lets the login go on to the password. -/
theorem HasPassword.checkLoginUser (h : HasPassword db.auth.users account digest)
    (hunique : UniqueAccounts db.auth.users) :
    ∃ user, user.id = account.id ∧
      Backend.checkLoginUser account.email (db.findByEmail account.email) =
        .hashing account.email user digest := by
  obtain ⟨user, hmem, hsame⟩ := h.mem
  have hemail : user.email = account.email := congrArg (·.email) hsame
  have hstatus : user.status = js "active" := (congrArg (·.status) hsame).trans h.status
  have hlocal : user.localAuth = some ⟨true, some digest⟩ :=
    (congrArg (·.localAuth) hsame).trans h.localAuth
  -- the address is a key, so nobody else is found by it
  have hfound : db.findByEmail account.email = some user := by
    rw [← hemail]
    exact find?_key_of_mem hunique.emails hmem
  refine ⟨user, id_eq_of_lastingPart hsame, ?_⟩
  rw [hfound, Backend.checkLoginUser, if_neg (not_not.mpr hstatus), hlocal]
  exact if_neg h.digest

/-- A step of a login for the address of the account. -/
theorem LoginComesTo.step (haccount : HasPassword db.auth.users account digest)
    (hunique : UniqueAccounts db.auth.users)
    (hof : normalizeEmail env.toLowerCase payload.email = account.email)
    (h : LoginComesTo account digest payload.password pc)
    (hstep : loginStep env payload db input pc = some (db', pc')) :
    LoginComesTo account digest payload.password pc' := by
  cases pc with
  | start =>
    simp only [loginStep] at hstep
    split at hstep
    · cases hstep
      exact hof
    · cases hstep
      exact .inl rfl
  | recordingStarted email =>
    cases hstep
    exact h
  -- the account is found, whatever else was written since
  | findingUser email =>
    obtain rfl : email = account.email := h
    cases hstep
    obtain ⟨user, hid, hcheck⟩ := haccount.checkLoginUser hunique
    rw [hcheck]
    exact ⟨rfl, hid, rfl⟩
  | hashing email user expected =>
    obtain ⟨rfl, hid, rfl⟩ := h
    simp only [loginStep] at hstep
    split at hstep
    · cases hstep
    · rename_i error hrejected
      cases hstep
      exact .inr (.inl ⟨error, rfl⟩)
    · -- the password has a digest; the login goes on if it is that of the account
      rename_i computed hresolved
      have hcomputed : DigestOf account.email payload.password computed :=
        hashPasswordWithSha1_resolved hresolved
      split at hstep
      · rename_i hne
        cases hstep
        exact .inr (.inr ⟨rfl, computed, hcomputed, hne⟩)
      · rename_i heq
        cases hstep
        rw [not_not.mp heq] at hcomputed
        exact ⟨trivial, congrArg ObjectId.toString hid, hcomputed⟩
  -- from here on the login only hands the session through
  | issuing email session issue =>
    obtain ⟨hissuing, hid, hdigest⟩ := h
    obtain ⟨⟨auth, issue'⟩, hissue, heq⟩ := Option.map_eq_some_iff.mp hstep
    rcases hissuing.step hid hissue with hissuing' | ⟨token, response, rfl⟩
    · cases issue' with
      | returned token response => exact hissuing'.elim
      | threw error => exact hissuing'.elim
      | _ =>
        cases heq
        exact ⟨hissuing', hid, hdigest⟩
    · cases heq
      exact ⟨user_of_issueStep hissue, hid, hdigest⟩
  | recordingSucceeded email session sid refreshToken response =>
    obtain ⟨rfl, hid, hdigest⟩ := h
    cases hstep
    exact ⟨hid, hdigest⟩
  | rejecting attempt error =>
    cases hstep
    exact h
  | returned refreshToken response => cases hstep
  | threw error => cases hstep

/-- A login that is under way while any other calls take their steps. -/
structure LoginUnderWay (account : User) (digest : JsString) (index : Nat)
    (payload : LoginLocalAuthDto) (system : AccountSystem) : Prop where
  unique : UniqueAccounts system.db.auth.users
  hasPassword : HasPassword system.db.auth.users account digest
  login : ∃ pc, system.calls[index]? = some (.signIn (.loginLocalAccount payload pc)) ∧
    LoginComesTo account digest payload.password pc

theorem LoginUnderWay.step {index : Nat} {system system' : AccountSystem} {event : AccountEvent}
    (hof : normalizeEmail env.toLowerCase payload.email = account.email)
    (h : LoginUnderWay account digest index payload system)
    (hstep : accountStep env system event = some system') :
    LoginUnderWay account digest index payload system' := by
  -- the accounts change under the login, but not in what it relies on
  have hchange := users_accountStep hstep
  obtain ⟨user, hmem, hsame⟩ := h.hasPassword.mem
  obtain ⟨user', hmem', hsame'⟩ := exists_lastingPart hmem hchange.lasting
  refine ⟨h.unique.change hchange, { h.hasPassword with mem := ⟨user', hmem', hsame'.trans hsame⟩ },
    ?_⟩
  obtain ⟨pc, hcall, hlogin⟩ := h.login
  rcases call_of_accountStep hstep hcall with hsame | ⟨input, db', call', -, hmove, hcall'⟩
  · exact ⟨pc, hsame, hlogin⟩
  · cases accountCallStep_cases hmove with
    | loginLocalAccount _ _ pc' _ hloginStep =>
      exact ⟨pc', hcall', hlogin.step h.hasPassword h.unique hof hloginStep⟩

end Logins

/-- What a login comes to that uses the address of a registration: with a password of the same
    digest it gives tokens of the account that was registered, with another one it is refused;
    nothing else refuses it but that local logins are off, or that the password could not be
    hashed. -/
structure LoginAgrees (email : JsString) (payload : RegisterLocalAuthDto) (session : SessionUser)
    (login : LoginLocalAuthDto) (pc : LoginPc) : Prop where
  returned : ∀ refreshToken response, pc = .returned refreshToken response →
    response.user.id = session.id ∧ SameDigest email payload.password login.password
  refused : pc = .threw invalidCredentials → ¬ SameDigest email payload.password login.password
  threw : ∀ error, pc = .threw error → error = invalidCredentials ∨
    error = .unauthorized "local_auth_disabled" "Local authentication is disabled" ∨
    ∃ processing, error = mapAuthProcessingError processing

theorem loginAgrees_of_comesTo {account : User} {digest : JsString}
    {payload : RegisterLocalAuthDto} {session : SessionUser} {login : LoginLocalAuthDto}
    {pc : LoginPc} (hid : session.id = account.id.toString)
    (hdigest : DigestOf account.email payload.password digest)
    (h : LoginComesTo account digest login.password pc) :
    LoginAgrees account.email payload session login pc where
  returned := by
    rintro refreshToken response rfl
    exact ⟨h.1.trans hid.symm, digest, hdigest, h.2⟩
  refused := by
    rintro rfl ⟨same, hsame, hlogin⟩
    -- a refusal means that the digests differ, and equal passwords have equal digests
    rcases h with hdisabled | ⟨processing, hprocessing⟩ | ⟨-, other, hother, hne⟩
    · revert hdisabled
      decide
    · cases processing <;> cases hprocessing
    · exact hne ((hother.unique hlogin).trans (hsame.unique hdigest))
  threw := by
    rintro error rfl
    rcases h with hdisabled | hprocessing | ⟨hinvalid, -⟩
    · exact .inr (.inl hdisabled)
    · exact .inr (.inr hprocessing)
    · exact .inl hinvalid

/-- **The registered password lets in**: a login that starts after a registration for its address
    has succeeded, whatever other calls are made meanwhile. -/
theorem loginAfterRegister_of_run {env : SignInEnv} {db : SignInDb}
    {system system' : AccountSystem} {events later : List AccountEvent} {i j : Nat}
    {payload : RegisterLocalAuthDto} {session : SessionUser} {login : LoginLocalAuthDto}
    (hunique : UniqueAccounts db.auth.users)
    (hrun : run (accountStep env) (.start db) events = some system)
    (hregistered : RegistrationAt system i payload session)
    (hlogin : system.calls[j]? = some (.signIn (.loginLocalAccount login .start)))
    (hemail : normalizeEmail env.toLowerCase login.email =
      normalizeEmail env.toLowerCase payload.email)
    (hlater : run (accountStep env) system later = some system') :
    ∃ pc, system'.calls[j]? = some (.signIn (.loginLocalAccount login pc)) ∧
      LoginAgrees (normalizeEmail env.toLowerCase payload.email) payload session login pc := by
  -- what the registration has left behind
  have hinv := registrationsInv_of_run hunique hrun
  obtain ⟨pc, hcall, hsession⟩ := hregistered
  obtain ⟨user, hof⟩ :=
    (hinv.known _ (List.mem_of_getElem? hcall) payload pc rfl).registered session hsession
  obtain ⟨digest, hdigest, hsame⟩ := hof.account
  have haddress : user.email = normalizeEmail env.toLowerCase payload.email :=
    congrArg (·.email) hsame
  have hstart : LoginUnderWay user digest j login system :=
    ⟨hinv.accounts.unique, ⟨⟨user, hof.mem, rfl⟩, congrArg (·.status) hsame,
      congrArg (·.localAuth) hsame, hdigest.ne_nil⟩, .start, hlogin, trivial⟩
  -- and the login, step by step
  have hend : LoginUnderWay user digest j login system' :=
    run_invariant (fun _ _ _ h hstep => h.step (hemail.trans haddress.symm) hstep) hstart hlater
  obtain ⟨pc', hcall', hcomes⟩ := hend.login
  refine ⟨pc', hcall', ?_⟩
  rw [← haddress] at hdigest ⊢
  exact loginAgrees_of_comesTo hof.id hdigest hcomes

/-- A login of amy with a password. -/
def amyLogin (password : JsString) : SignInCall :=
  .loginLocalAccount ⟨js "AMY@chat.vn ", password⟩ .start

/-- The steps of a login. -/
def amyLoginSteps : List AccountEvent := (List.range 5).map fun t => .step 2 (localInput (10 + t) 4)

/-- The login with the password of the registration that failed is refused. -/
theorem loginAfterRegister_amyTwice : ∃ system system',
    run (accountStep localSignIn) (.start noAccounts)
        (amyTwice ++ [.call (.signIn (amyLogin (js "secret")))]) = some system ∧
      run (accountStep localSignIn) system (amyLoginSteps) = some system' ∧
      system'.calls[2]? = some (.signIn (.loginLocalAccount ⟨js "AMY@chat.vn ", js "secret"⟩
        (.threw invalidCredentials))) ∧
      LoginAgrees (js "amy@chat.vn") (amyRegistered (js "Secret")) secondAmy
        ⟨js "AMY@chat.vn ", js "secret"⟩ (.threw invalidCredentials) := by
  have hend : (run (accountStep localSignIn) (.start noAccounts)
      (amyTwice ++ [.call (.signIn (amyLogin (js "secret")))] ++ amyLoginSteps)).map
        (·.calls[2]?) = some (some (.signIn (.loginLocalAccount ⟨js "AMY@chat.vn ", js "secret"⟩
          (.threw invalidCredentials)))) := by
    decide +kernel
  -- the run is cut where the login starts
  obtain ⟨system', hrun', hcall⟩ := Option.map_eq_some_iff.mp hend
  obtain ⟨system, hrun, hlater⟩ := run_append_eq_some.mp hrun'
  obtain ⟨before, hbefore, hnew⟩ := run_concat_eq_some.mp hrun
  cases hnew
  obtain ⟨before', hbefore', hcalls⟩ := Option.map_eq_some_iff.mp run_amyTwice
  cases hbefore.symm.trans hbefore'
  have hregistered : RegistrationAt
      ⟨before.db, before.calls ++ [.signIn (amyLogin (js "secret"))]⟩ 1
      (amyRegistered (js "Secret")) secondAmy := by
    refine ⟨.returned (plainTokens.signRefreshToken
      ⟨secondAmy.id, (digitId 3).toString, js "jti"⟩ 8)
      (buildRefreshSessionResponse plainTokens plainTokenEnv secondAmy (digitId 3) 8), ?_, rfl⟩
    rw [hcalls]
    rfl
  have hlogin : (before.calls ++ [.signIn (amyLogin (js "secret"))])[2]? =
      some (.signIn (amyLogin (js "secret"))) := by
    rw [hcalls]
    rfl
  obtain ⟨pc, hcall', hagrees⟩ := loginAfterRegister_of_run uniqueAccounts_noAccounts hrun
    hregistered hlogin (by decide +kernel) hlater
  cases hcall.symm.trans hcall'
  have hemail : normalizeEmail localSignIn.toLowerCase (amyRegistered (js "Secret")).email =
      js "amy@chat.vn" := by
    decide +kernel
  exact ⟨_, system', hrun, hlater, hcall, hemail ▸ hagrees⟩

end ChatSC.Spec
