import ChatSC.Spec.Accounts

/-!
# The attempts of registrations and logins

A registration and a login record that they start, and how they end.  The log that they leave behind
is that of their states (`registerRecorded`, `loginRecorded`): every start is followed by one
outcome, with the reason of the error that the caller gets.  The one gap is a registration whose
account cannot be created, which leaves a start without an outcome.
-/

namespace ChatSC.Spec

open Backend Collection JsString Records Transition

/-! ## What a call has recorded -/

/-- The result of an attempt and the reason of a failure. -/
abbrev Outcome := String × Option String

/-- The reason that goes with the error of a login; none when nothing was recorded. -/
def loginReason : SignInError → Option String
  | .auth (.unauthorized "local_auth_invalid_credentials" _) => some "invalid-local-credentials"
  | .auth (.unauthorized "local_auth_account_disabled" _) => some "account-disabled"
  | .auth (.unauthorized "local_auth_not_enabled" _) => some "local-auth-not-enabled"
  | .serviceUnavailable _ _ => some "sha1-processing-unavailable"
  | _ => none

/-- The reason that goes with the error of a registration. -/
def registerReason : RegisterError → Option String
  | .conflict "email_already_exists" _ => some "email-already-exists"
  | .conflict "username_already_exists" _ => some "username-already-exists"
  | .signIn (.serviceUnavailable _ _) => some "sha1-processing-unavailable"
  | _ => none

/-- What a login has recorded. -/
def loginRecorded : LoginPc → List Outcome
  | .start | .recordingStarted _ => []
  | .returned _ _ => [("started", none), ("succeeded", none)]
  | .threw error =>
    match loginReason error with
    | none => []
    | some reason => [("started", none), ("failed", some reason)]
  | _ => [("started", none)]

/-- What a registration has recorded. -/
def registerRecorded : RegisterPc → List Outcome
  | .start | .recordingStarted | .threw (.badRequest _ _) => []
  | .returned _ _ => [("started", none), ("succeeded", none)]
  | .threw error =>
    match registerReason error with
    -- what `create` throws leaves a start alone
    | none => [("started", none)]
    | some reason => [("started", none), ("failed", some reason)]
  | _ => [("started", none)]

/-- The provider, the address and the outcome of an attempt. -/
abbrev Entry := String × Option JsString × Outcome

/-- The entry of an attempt. -/
def entryOf (attempt : SignInAttempt) : Entry :=
  (attempt.provider, attempt.emailCandidate, attempt.result, attempt.failureReason)

/-- What a call has recorded. -/
def recordedBy (env : SignInEnv) : AccountCall → List Entry
  | .registerLocalAccount payload pc => (registerRecorded pc).map fun outcome =>
    ("local-register", some (normalizeEmail env.toLowerCase payload.email), outcome)
  | .signIn (.loginLocalAccount payload pc) => (loginRecorded pc).map fun outcome =>
    ("local-login", some (normalizeEmail env.toLowerCase payload.email), outcome)
  | _ => []

/-! ## Logins -/

/-- What a login has recorded goes with what it is about to record. -/
def LoginLogs (env : SignInEnv) (payload : LoginLocalAuthDto) : LoginPc → Prop
  | .recordingStarted email | .findingUser email | .hashing email _ _ =>
    email = normalizeEmail env.toLowerCase payload.email
  | .issuing email session issue => email = normalizeEmail env.toLowerCase payload.email ∧
    Issuing issue ∧ ∃ user : User, session.id = user.id.toString
  | .recordingSucceeded email _ _ _ _ => email = normalizeEmail env.toLowerCase payload.email
  | .rejecting attempt error => ∃ reason, loginReason error = some reason ∧
    entryOf attempt = ("local-login", some (normalizeEmail env.toLowerCase payload.email),
      "failed", some reason)
  | _ => True

section Steps

variable {env : SignInEnv} {db db' : SignInDb} {input : SignInInput}

/-- The checks of the user lead to the password, or to a refusal with its reason. -/
theorem loginLogs_checkLoginUser {payload : LoginLocalAuthDto} {email : JsString}
    (hemail : email = normalizeEmail env.toLowerCase payload.email) (found : Option User) :
    LoginLogs env payload (checkLoginUser email found) ∧
      loginRecorded (checkLoginUser email found) = [("started", none)] := by
  subst hemail
  unfold checkLoginUser
  -- the checks in the order of the source, each with its reason
  split
  · exact ⟨⟨_, rfl, rfl⟩, rfl⟩
  · split
    · exact ⟨⟨_, rfl, rfl⟩, rfl⟩
    · split
      · split
        · exact ⟨⟨_, rfl, rfl⟩, rfl⟩
        · exact ⟨rfl, rfl⟩
      · exact ⟨⟨_, rfl, rfl⟩, rfl⟩

/-- A step of a login records what its state has more. -/
theorem LoginLogs.step {payload : LoginLocalAuthDto} {pc pc' : LoginPc}
    (h : LoginLogs env payload pc)
    (hstep : loginStep env payload db input pc = some (db', pc')) :
    LoginLogs env payload pc' ∧ ∃ new : List SignInAttempt,
      db'.signInAttempts = db.signInAttempts ++ new ∧
      recordedBy env (.signIn (.loginLocalAccount payload pc')) =
        recordedBy env (.signIn (.loginLocalAccount payload pc)) ++ new.map entryOf := by
  cases pc with
  -- nothing is recorded before the payload has passed
  | start =>
    simp only [loginStep] at hstep
    split at hstep
    · cases hstep
      exact ⟨rfl, [], (List.append_nil _).symm, rfl⟩
    · cases hstep
      exact ⟨trivial, [], (List.append_nil _).symm, rfl⟩
  -- the first entry says that the login has started
  | recordingStarted email =>
    obtain rfl : email = normalizeEmail env.toLowerCase payload.email := h
    cases hstep
    exact ⟨rfl, [_], rfl, rfl⟩
  | findingUser email =>
    cases hstep
    -- the lookup records nothing; what is refused is recorded in a step of its own
    obtain ⟨hlogs, hrecorded⟩ := loginLogs_checkLoginUser h (db.findByEmail email)
    refine ⟨hlogs, [], (List.append_nil _).symm, ?_⟩
    simp only [recordedBy, hrecorded]
    rfl
  | hashing email user expected =>
    obtain rfl : email = normalizeEmail env.toLowerCase payload.email := h
    simp only [loginStep] at hstep
    -- the digest is pending, has failed, or is compared
    split at hstep
    · cases hstep
    · rename_i error hrejected
      cases hstep
      refine ⟨⟨"sha1-processing-unavailable", ?_, rfl⟩, [], (List.append_nil _).symm, rfl⟩
      cases error <;> rfl
    · split at hstep
      · cases hstep
        exact ⟨⟨_, rfl, rfl⟩, [], (List.append_nil _).symm, rfl⟩
      · cases hstep
        exact ⟨⟨rfl, trivial, user, rfl⟩, [], (List.append_nil _).symm, rfl⟩
  | issuing email session issue =>
    obtain ⟨rfl, hissuing, user, hid⟩ := h
    obtain ⟨⟨auth, issue'⟩, hissue, heq⟩ := Option.map_eq_some_iff.mp hstep
    -- the issue of the session goes on, or it has returned
    rcases hissuing.step hid hissue with hissuing' | ⟨token, response, rfl⟩
    · cases issue' with
      | returned token response => exact hissuing'.elim
      | threw error => exact hissuing'.elim
      | _ =>
        cases heq
        exact ⟨⟨rfl, hissuing', user, hid⟩, [], (List.append_nil _).symm, rfl⟩
    · cases heq
      exact ⟨rfl, [], (List.append_nil _).symm, rfl⟩
  -- the last entry says that the login has succeeded
  | recordingSucceeded email session sid refreshToken response =>
    obtain rfl : email = normalizeEmail env.toLowerCase payload.email := h
    cases hstep
    exact ⟨trivial, [_], rfl, rfl⟩
  -- a refusal is recorded before it is thrown
  | rejecting attempt error =>
    obtain ⟨reason, hreason, hentry⟩ := h
    cases hstep
    refine ⟨trivial, [attempt], rfl, ?_⟩
    simp only [recordedBy, loginRecorded, hreason, List.map_cons, List.map_nil, hentry]
    rfl
  | returned refreshToken response => cases hstep
  | threw error => cases hstep

/-! ## Registrations -/

/-- What a registration has recorded goes with what it is about to record. -/
def RegisterLogs (env : SignInEnv) (payload : RegisterLocalAuthDto) : RegisterPc → Prop
  | .issuing session issue => Issuing issue ∧ ∃ user : User, session.id = user.id.toString
  | .rejecting attempt error => ∃ reason, registerReason error = some reason ∧
    entryOf attempt = ("local-register", some (normalizeEmail env.toLowerCase payload.email),
      "failed", some reason)
  | _ => True

/-- What a registration that was refused for a reason has recorded. -/
theorem recorded_of_registerReason {error : RegisterError} {reason : String}
    (h : registerReason error = some reason) :
    registerRecorded (.threw error) = [("started", none), ("failed", some reason)] := by
  cases error with
  | badRequest code message => cases h
  | conflict code message => simp only [registerRecorded, h]
  | signIn error => simp only [registerRecorded, h]

/-- A step of a registration records what its state has more. -/
theorem RegisterLogs.step {payload : RegisterLocalAuthDto} {pc pc' : RegisterPc}
    (h : RegisterLogs env payload pc)
    (hstep : registerStep env payload db input pc = some (db', pc')) :
    RegisterLogs env payload pc' ∧ ∃ new : List SignInAttempt,
      db'.signInAttempts = db.signInAttempts ++ new ∧
      recordedBy env (.registerLocalAccount payload pc') =
        recordedBy env (.registerLocalAccount payload pc) ++ new.map entryOf := by
  cases pc with
  | start =>
    simp only [registerStep] at hstep
    split at hstep <;> (cases hstep; exact ⟨trivial, [], (List.append_nil _).symm, rfl⟩)
  | recordingStarted =>
    cases hstep
    exact ⟨trivial, [_], rfl, rfl⟩
  -- the e-mail is looked up first, then the name, and each may be taken
  | findingEmail =>
    simp only [registerStep] at hstep
    split at hstep
    · cases hstep
      exact ⟨⟨_, rfl, rfl⟩, [], (List.append_nil _).symm, rfl⟩
    · cases hstep
      exact ⟨trivial, [], (List.append_nil _).symm, rfl⟩
  | findingUsername =>
    simp only [registerStep] at hstep
    split at hstep
    · cases hstep
      exact ⟨⟨_, rfl, rfl⟩, [], (List.append_nil _).symm, rfl⟩
    · cases hstep
      exact ⟨trivial, [], (List.append_nil _).symm, rfl⟩
  | hashing =>
    simp only [registerStep] at hstep
    -- the digest is pending, has failed, or goes on
    split at hstep
    · cases hstep
    · rename_i error hrejected
      cases hstep
      refine ⟨⟨"sha1-processing-unavailable", ?_, rfl⟩, [], (List.append_nil _).symm, rfl⟩
      cases error <;> rfl
    · cases hstep
      exact ⟨trivial, [], (List.append_nil _).symm, rfl⟩
  | creatingUser digest =>
    rcases registerStep_creating hstep with ⟨rfl, error, rfl, herror⟩ | ⟨user, -, -, rfl, rfl⟩
    · -- nothing is recorded of an account that cannot be created
      refine ⟨trivial, [], (List.append_nil _).symm, ?_⟩
      rcases herror with rfl | rfl <;> rfl
    · exact ⟨⟨trivial, user, rfl⟩, [], (List.append_nil _).symm, rfl⟩
  | issuing session issue =>
    obtain ⟨hissuing, user, hid⟩ := h
    -- the issue of the session goes on, or it has returned
    obtain ⟨⟨auth, issue'⟩, hissue, heq⟩ := Option.map_eq_some_iff.mp hstep
    rcases hissuing.step hid hissue with hissuing' | ⟨token, response, rfl⟩
    · cases issue' with
      | returned token response => exact hissuing'.elim
      | threw error => exact hissuing'.elim
      | _ =>
        cases heq
        exact ⟨⟨hissuing', user, hid⟩, [], (List.append_nil _).symm, rfl⟩
    · cases heq
      exact ⟨trivial, [], (List.append_nil _).symm, rfl⟩
  | recordingSucceeded session sid refreshToken response =>
    cases hstep
    exact ⟨trivial, [_], rfl, rfl⟩
  | rejecting attempt error =>
    obtain ⟨reason, hreason, hentry⟩ := h
    cases hstep
    refine ⟨trivial, [attempt], rfl, ?_⟩
    simp only [recordedBy, recorded_of_registerReason hreason, List.map_cons, List.map_nil, hentry]
    rfl
  | returned refreshToken response => cases hstep
  | threw error => cases hstep

/-! ## Any call -/

/-- What a call has recorded goes with what it is about to record. -/
def Logs (env : SignInEnv) : AccountCall → Prop
  | .registerLocalAccount payload pc => RegisterLogs env payload pc
  | .signIn (.loginLocalAccount payload pc) => LoginLogs env payload pc
  | _ => True

theorem logs_of_isStart {call : AccountCall} (h : call.isStart = true) :
    Logs env call ∧ recordedBy env call = [] := by
  cases call with
  | registerLocalAccount payload pc =>
    obtain rfl : pc = .start := of_decide_eq_true h
    exact ⟨trivial, rfl⟩
  | revokeRefreshToken refreshToken pc => exact ⟨trivial, rfl⟩
  | signIn call =>
    cases call with
    | loginLocalAccount payload pc =>
      obtain rfl : pc = .start := of_decide_eq_true h
      exact ⟨trivial, rfl⟩
    | googleLogin payload pc => exact ⟨trivial, rfl⟩
    | refreshAccessToken refreshToken pc => exact ⟨trivial, rfl⟩
    | authenticateAccessToken token pc => exact ⟨trivial, rfl⟩

/-- A Google login records nothing of these providers. -/
theorem signInAttempts_googleStep {payload : GoogleAuthUser} {pc pc' : GooglePc}
    (h : googleStep env payload db input pc = some (db', pc')) :
    db'.signInAttempts = db.signInAttempts := by
  cases pc with
  | start =>
    simp only [googleStep] at h
    split at h <;> (cases h; rfl)
  | savingUser document =>
    simp only [googleStep] at h
    split at h
    · cases h
      rfl
    · -- `save` writes to the users only
      rename_i saved hsaved
      cases h
      obtain ⟨hname, hfree⟩ := canSave_of_ok hsaved
      rw [LoadedUser.save, if_neg hname, if_neg hfree] at hsaved
      exact congrArg (·.signInAttempts) (Except.ok.inj hsaved).symm
  | resolvingUsername email suffix =>
    simp only [googleStep] at h
    split at h <;> (cases h; rfl)
  | creatingUser email username =>
    -- the account is created or refused, and neither is an attempt
    simp only [googleStep] at h
    split at h
    · cases h
    · rename_i hid
      split at h
      · cases h
        rfl
      · rename_i created hcreated
        cases h
        obtain ⟨-, rfl⟩ := createUser_ok hid hcreated
        rfl
  | issuing user pc =>
    obtain ⟨⟨auth, pc'⟩, -, heq⟩ := Option.map_eq_some_iff.mp h
    cases heq
    rfl
  | returned refreshToken response => cases h
  | threw error => cases h

/-- A step of any call records what its state has more. -/
theorem Logs.step {call call' : AccountCall} (h : Logs env call)
    (hstep : accountCallStep env db input call = some (db', call')) :
    Logs env call' ∧ ∃ new : List SignInAttempt,
      db'.signInAttempts = db.signInAttempts ++ new ∧
      recordedBy env call' = recordedBy env call ++ new.map entryOf := by
  -- three kinds of calls record nothing of these providers
  have hnothing : db'.signInAttempts = db.signInAttempts → recordedBy env call' = [] →
      recordedBy env call = [] → ∃ new : List SignInAttempt,
        db'.signInAttempts = db.signInAttempts ++ new ∧
        recordedBy env call' = recordedBy env call ++ new.map entryOf := by
    intro hsame hcall' hcall
    exact ⟨[], hsame.trans (List.append_nil _).symm, by rw [hcall', hcall]; rfl⟩
  cases accountCallStep_cases hstep with
  | registerLocalAccount _ _ _ _ hregister => exact RegisterLogs.step h hregister
  | loginLocalAccount _ _ _ _ hlogin => exact LoginLogs.step h hlogin
  | googleLogin _ _ _ _ hgoogle =>
    exact ⟨trivial, hnothing (signInAttempts_googleStep hgoogle) rfl rfl⟩
  | revokeRefreshToken | refreshAccessToken | authenticateAccessToken =>
    exact ⟨trivial, hnothing rfl rfl rfl⟩

end Steps

/-! ## The log of a run -/

/-- The attempts that were recorded since `before` are what the calls have recorded. -/
def LogAgreesWithCalls (env : SignInEnv) (before : List SignInAttempt) (system : AccountSystem) :
    Prop :=
  ∃ written, system.db.signInAttempts = before ++ written ∧
    (written.map entryOf).Perm (system.calls.flatMap (recordedBy env))

/-- **The log is that of the calls**: whatever registrations, logins and other calls are made at
    once, each has left its start and its outcome in the log, with the reason of the error that it
    ended with; only a registration whose account could not be created has left its start alone. -/
theorem logAgreesWithCalls_of_run {env : SignInEnv} {db : SignInDb} {system : AccountSystem}
    {events : List AccountEvent}
    (hrun : run (accountStep env) (.start db) events = some system) :
    LogAgreesWithCalls env db.signInAttempts system := by
  have hkeep : ∀ (s : AccountSystem) (event : AccountEvent) (s' : AccountSystem),
      (∀ call ∈ s.calls, Logs env call) ∧ LogAgreesWithCalls env db.signInAttempts s →
      accountStep env s event = some s' →
      (∀ call ∈ s'.calls, Logs env call) ∧ LogAgreesWithCalls env db.signInAttempts s' := by
    rintro s event s' ⟨hlogs, written, hwritten, hperm⟩ hstep
    refine ⟨forall_calls_of_step hstep hlogs (fun _ h => h)
      (fun _ hstart => (logs_of_isStart hstart).1) fun _ _ _ h hcall => (h.step hcall).1, ?_⟩
    -- a new call has recorded nothing
    rcases accountStep_cases hstep with ⟨call, -, hstart, rfl⟩ |
      ⟨index, input, call, db', call', -, hcall, hcallStep, rfl⟩
    · refine ⟨written, hwritten, ?_⟩
      rwa [List.flatMap_append, List.flatMap_singleton, (logs_of_isStart hstart).2,
        List.append_nil]
    · -- what the call has recorded now comes behind all that was recorded before
      obtain ⟨-, new, hnew, hrecorded⟩ := (hlogs call (List.mem_of_getElem? hcall)).step hcallStep
      refine ⟨written ++ new, by rw [hnew, hwritten, List.append_assoc], ?_⟩
      rw [List.map_append]
      exact (hperm.append_right _).trans (perm_flatMap_set hcall hrecorded).symm
  have hstart : LogAgreesWithCalls env db.signInAttempts (.start db) :=
    ⟨[], (List.append_nil _).symm, List.Perm.refl _⟩
  exact (run_invariant hkeep ⟨fun _ hcall => absurd hcall List.not_mem_nil, hstart⟩ hrun).2

/-- The failed registration of two for one address has left its start. -/
theorem logAgreesWithCalls_amyTwice : ∃ system,
    run (accountStep localSignIn) (.start noAccounts) amyTwice = some system ∧
      LogAgreesWithCalls localSignIn [] system := by
  obtain ⟨system, hrun, -⟩ := Option.map_eq_some_iff.mp run_amyTwice
  exact ⟨system, hrun, logAgreesWithCalls_of_run hrun⟩

end ChatSC.Spec
