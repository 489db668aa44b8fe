import ChatSC.Backend.SignIn

/-!
# Free usernames

`resolveUsernameCollision` counts up until a name is free.  The names that it tries are all different
(`usernameCandidate_injective`), so with finitely many names taken it ends, with the base itself or
with the first suffix that is free (`resolveUsernameCollision_free`).  The suffix is at most the number
of names that are taken, and a Google login comes to the same name (`googleLogin_resolves`).
-/

namespace ChatSC.Spec

open Backend JsString LinearSearch Transition

/-! ## The names -/

/-- Different suffixes make different names, and none makes the base. -/
theorem usernameCandidate_injective (baseUsername : JsString) :
    Function.Injective (usernameCandidate baseUsername) := by
  have hlong (suffix : Nat) : baseUsername ≠ baseUsername ++ js "-" ++ js (toString suffix) := by
    intro h
    have hlength := congrArg List.length h
    have hdash : (js "-").length = 1 := rfl
    rw [List.length_append, List.length_append, hdash] at hlength
    omega
  intro i j h
  by_cases hi : i = 0
  · by_cases hj : j = 0
    · rw [hi, hj]
    · rw [usernameCandidate, usernameCandidate, if_pos hi, if_neg hj] at h
      exact absurd h (hlong j)
  · by_cases hj : j = 0
    · rw [usernameCandidate, usernameCandidate, if_neg hi, if_pos hj] at h
      exact absurd h.symm (hlong i)
    · rw [usernameCandidate, usernameCandidate, if_neg hi, if_neg hj] at h
      -- the same digits are the same number
      have hdigits : toString i = toString j := js_injective (List.append_cancel_left h)
      have hvalue := congrArg (fun s : String => Nat.ofDigitChars 10 s.toList 0) hdigits
      simpa [Nat.toString_eq_ofList_toDigits] using hvalue

/-! ## The loop -/

section Loop

variable {baseUsername : JsString} {isTaken : JsString → Bool} {suffix : Nat}

/-- The suffix of the first name that is free, 0 standing for the base. -/
def FirstFree (baseUsername : JsString) (isTaken : JsString → Bool) (suffix : Nat) : Prop :=
  FirstWithout (fun k => isTaken (usernameCandidate baseUsername k)) 0 suffix

/-- The loop ends at the first name that is free, with as many rounds as its suffix. -/
theorem resolveUsernameCollision_of_first (h : FirstFree baseUsername isTaken suffix) {rounds : Nat}
    (hrounds : suffix ≤ rounds) :
    resolveUsernameCollision baseUsername isTaken rounds =
      some (usernameCandidate baseUsername suffix) := by
  rw [resolveUsernameCollision]
  by_cases hsuffix : suffix = 0
  · subst hsuffix
    have hfree : isTaken baseUsername = false := h.holds_not
    rw [hfree]
    rfl
  · have htaken : isTaken baseUsername = true := h.holds 0 (Nat.le_refl 0) (Nat.pos_of_ne_zero hsuffix)
    have hfirst : FirstWithout (fun k => isTaken (usernameCandidate baseUsername k)) 1 suffix :=
      ⟨Nat.pos_of_ne_zero hsuffix, h.holds_not, fun j _ hj => h.holds j (Nat.zero_le j) hj⟩
    rw [if_pos htaken, search_eq_some_iff.mpr ⟨hfirst, by omega⟩, Option.map_some]

/-- Of finitely many names that are taken, the suffix of the first free one is at most their number. -/
theorem exists_firstFree (baseUsername : JsString) (taken : Finset JsString) :
    ∃ suffix ≤ taken.card, FirstFree baseUsername (fun name => name ∈ taken) suffix :=
  exists_first_free taken (usernameCandidate_injective baseUsername)

end Loop

/-- **`resolveUsernameCollision` ends with a free name**, for every base and every finite set of names
    that are taken: with the base itself if it is free, and otherwise with the first suffix from 1 on
    that makes a free name.  The suffix is at most the number of names that are taken, and so many
    rounds are enough. -/
theorem resolveUsernameCollision_free (baseUsername : JsString) (taken : Finset JsString) :
    ∃ username ∉ taken,
      (∀ rounds, taken.card ≤ rounds →
        resolveUsernameCollision baseUsername (fun name => name ∈ taken) rounds = some username) ∧
      (baseUsername ∉ taken → username = baseUsername) ∧
      (baseUsername ∈ taken → ∃ suffix, 1 ≤ suffix ∧ suffix ≤ taken.card ∧
        username = baseUsername ++ js "-" ++ js (toString suffix) ∧
        ∀ k, 1 ≤ k → k < suffix → baseUsername ++ js "-" ++ js (toString k) ∈ taken) := by
  obtain ⟨suffix, hle, hfirst⟩ := exists_firstFree baseUsername taken
  have hcandidate (k : Nat) (hk : 1 ≤ k) : usernameCandidate baseUsername k =
      baseUsername ++ js "-" ++ js (toString k) := if_neg (Nat.ne_of_gt hk)
  refine ⟨usernameCandidate baseUsername suffix, of_decide_eq_false hfirst.holds_not,
    fun rounds hrounds => resolveUsernameCollision_of_first hfirst (Nat.le_trans hle hrounds), ?_, ?_⟩
  · -- the base is the first name that is tried
    intro hbase
    have hzero : suffix = 0 := by
      by_contra hne
      exact hbase (of_decide_eq_true (hfirst.holds 0 (Nat.le_refl 0) (Nat.pos_of_ne_zero hne)))
    rw [hzero]
    rfl
  · intro hbase
    have hpos : 1 ≤ suffix := by
      refine Nat.pos_of_ne_zero fun hzero => ?_
      subst hzero
      exact of_decide_eq_false hfirst.holds_not hbase
    refine ⟨suffix, hpos, hle, hcandidate suffix hpos, fun k hk hlt => ?_⟩
    rw [← hcandidate k hk]
    exact of_decide_eq_true (hfirst.holds k (Nat.zero_le k) hlt)

example : resolveUsernameCollision (js "alice")
    (fun name => name ∈ [js "alice", js "alice-1", js "alice-3"]) 3 = some (js "alice-2") := by decide

/-! ## The Google login -/

/-- `upsertGoogleUser` by itself. -/
def googleAlone (env : SignInEnv) (payload : GoogleAuthUser) (state : SignInDb × GooglePc)
    (input : SignInInput) : Option (SignInDb × GooglePc) :=
  googleStep env payload state.1 input state.2

/-- From a suffix on, each step tries one name. -/
theorem run_resolvingUsername (env : SignInEnv) (payload : GoogleAuthUser) {db : SignInDb}
    {email : JsString} {suffix : Nat}
    (h : FirstFree (deriveBaseUsername email) db.existsUsername suffix) (inputs : List SignInInput) :
    ∀ k, k + inputs.length = suffix + 1 → k ≤ suffix →
      run (googleAlone env payload) (db, .resolvingUsername email k) inputs =
        some (db, .creatingUser email (usernameCandidate (deriveBaseUsername email) suffix)) := by
  -- on the names that are left to try
  induction inputs with
  | nil =>
    intro k hlength hk
    rw [List.length_nil] at hlength
    omega
  | cons input inputs ih =>
    intro k hlength hk
    rw [List.length_cons] at hlength
    refine run_cons_eq_some.mpr ?_
    by_cases hlast : k = suffix
    · subst hlast
      obtain rfl : inputs = [] := List.eq_nil_of_length_eq_zero (by omega)
      refine ⟨_, ?_, rfl⟩
      have hfree := h.holds_not
      simp only [googleAlone, googleStep, hfree, Bool.false_eq_true, if_false]
    · have htaken := h.holds k (Nat.zero_le k) (by omega)
      refine ⟨(db, .resolvingUsername email (k + 1)), ?_, ih (k + 1) (by omega) (by omega)⟩
      simp only [googleAlone, googleStep, htaken, if_true]

/-- A Google login of a new user comes to the name of `resolveUsernameCollision`, a name of no user,
    when no user is stored in the meantime. -/
theorem googleLogin_resolves (env : SignInEnv) (payload : GoogleAuthUser) (db : SignInDb)
    (email : JsString) : ∃ suffix ≤ db.auth.users.length, ∃ username,
      db.existsUsername username = false ∧
      resolveUsernameCollision (deriveBaseUsername email) db.existsUsername suffix = some username ∧
      ∀ inputs : List SignInInput, inputs.length = suffix + 1 →
        run (googleAlone env payload) (db, .resolvingUsername email 0) inputs =
          some (db, .creatingUser email username) := by
  have htaken : db.existsUsername =
      fun name => decide (name ∈ (db.auth.users.map User.username).toFinset) := by
    funext name
    simp [SignInDb.existsUsername, List.any_eq]
  obtain ⟨suffix, hle, hfirst⟩ := exists_firstFree (deriveBaseUsername email)
    (db.auth.users.map User.username).toFinset
  rw [← htaken] at hfirst
  have hcard : suffix ≤ db.auth.users.length := by
    refine hle.trans ((List.toFinset_card_le _).trans ?_)
    rw [List.length_map]
  refine ⟨suffix, hcard, _, hfirst.holds_not,
    resolveUsernameCollision_of_first hfirst (Nat.le_refl suffix), fun inputs hlength => ?_⟩
  exact run_resolvingUsername env payload hfirst inputs 0 (by omega) (Nat.zero_le suffix)

end ChatSC.Spec
