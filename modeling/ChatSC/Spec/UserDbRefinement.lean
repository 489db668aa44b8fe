import Mathlib.Data.Finmap
import ChatSC.Spec.UserDb

/-!
# The users file is a map

For requests as the client builds them, the users file behaves as a finite map from names to
digests.  The map machine `mapCall` is the purpose of the file, stated without any text; the file
machine `userDbCall` calls the three functions of the server.  `Represents` relates a file to a map,
and `userDb_refines_map` compares the answers over runs of any length.
-/

namespace ChatSC.Spec

open Native Stdio

/-! ## Calls -/

/-- A call of one of the three functions. -/
inductive UserDbCall where
  | register (request : RequestPtr)
  | login (request : RequestPtr)
  | exists (username : List UInt8)

/-- What a call returns. -/
inductive UserDbResult where
  | status (status : ResponseStatus)
  | found (found : Bool)
deriving DecidableEq

/-- A character of a lowercase hexadecimal digest. -/
def isLowerHex (c : UInt8) : Bool := (48 ≤ c && c ≤ 57) || (97 ≤ c && c ≤ 102)

/-- The requests that `submit_auth_request` sends: a name that ends inside its field and a digest
    of 40 lowercase hexadecimal characters. -/
structure HonestRequest (request : RequestPtr) : Prop where
  username_ends : 0 ∈ request.username.bytes
  authPayload_ends : 0 ∈ request.authPayload.bytes
  digest_length : request.authPayloadStr.length = 40
  digest_hex : ∀ c ∈ request.authPayloadStr, isLowerHex c = true

/-- The calls of honest clients. -/
def HonestCall : UserDbCall → Prop
  | .register request => HonestRequest request
  | .login request => HonestRequest request
  | .exists username => 0 ∉ username ∧ username.length ≤ 31

/-- The users file as a service; every file operation succeeds. -/
def userDbCall (userDb : List UInt8) : UserDbCall → UserDbResult × List UInt8
  | .register request =>
    (.status (serverRegisterUser .all userDb request).1, (serverRegisterUser .all userDb request).2)
  | .login request => (.status (serverValidateLogin .all userDb request), userDb)
  | .exists username => (.found (serverUserExists .all userDb username), userDb)

/-! ## The map -/

/-- A finite map from names to digests. -/
abbrev UserMap := Finmap fun _ : List UInt8 => List UInt8

/-- Names outside the alphabet are refused, mapped names exist already, others are added. -/
def mapRegister (users : UserMap) (username digest : List UInt8) : ResponseStatus × UserMap :=
  if serverValidateUsername username = false then (.invalidRequest, users)
  else
    match users.lookup username with
    | some _ => (.userExists, users)
    | none => (.registerSuccess, users.insert username digest)

/-- Names outside the alphabet are refused, others are looked up. -/
def mapLogin (users : UserMap) (username digest : List UInt8) : ResponseStatus :=
  if serverValidateUsername username = false then .invalidRequest
  else
    match users.lookup username with
    | some mapped => if mapped = digest then .ok else .authFailed
    | none => .userNotFound

/-- The map as a service. -/
def mapCall (users : UserMap) : UserDbCall → UserDbResult × UserMap
  | .register request =>
    let result := mapRegister users request.usernameStr request.authPayloadStr
    (.status result.1, result.2)
  | .login request => (.status (mapLogin users request.usernameStr request.authPayloadStr), users)
  | .exists username => (.found (users.lookup username).isSome, users)

/-! ## The file represents the map -/

/-- The lines of the file are complete, they hold for every name what the map holds, and only valid
    names are mapped. -/
structure Represents (userDb : List UInt8) (users : UserMap) : Prop where
  terminated : Terminated userDb
  lookup : ∀ username, lookupUser userDb username = users.lookup username
  valid : ∀ username, users.lookup username ≠ none → serverValidateUsername username = true

/-- The empty file is the empty map. -/
theorem represents_empty : Represents [] ∅ where
  terminated := .inl rfl
  lookup := fun _ => rfl
  valid := fun username h => absurd (Finmap.lookup_empty username) h

/-- A digest is plain. -/
theorem HonestRequest.plainHash {request : RequestPtr} (h : HonestRequest request) :
    PlainHash request.authPayloadStr where
  ne_nil := by
    intro hnil
    have := h.digest_length
    simp [hnil] at this
  short := by rw [h.digest_length]; decide
  noSpace := by
    intro c hc
    have hex := h.digest_hex c hc
    simp only [isLowerHex, isSpace, Bool.or_eq_true, Bool.and_eq_true, decide_eq_true_eq,
      beq_eq_false_iff_ne, Bool.or_eq_false_iff, Bool.and_eq_false_iff,
      decide_eq_false_iff_not, UInt8.le_iff_toNat_le, ne_eq, ← UInt8.toNat_inj] at hex ⊢
    simp only [UInt8.reduceToNat] at hex ⊢
    omega
  noNul := CString.zero_notMem_cstr _

/-- The name of an honest request has at most 31 bytes. -/
theorem HonestRequest.username_length {request : RequestPtr} (h : HonestRequest request) :
    request.usernameStr.length ≤ 31 := by
  rw [RequestPtr.usernameStr_of_mem h.username_ends]
  have hlt := CString.length_cstr_lt h.username_ends
  rw [request.username.size_eq] at hlt
  exact Nat.le_of_lt_succ hlt

/-- The digest of an honest request is not empty. -/
theorem HonestRequest.authPayload_ne_nil {request : RequestPtr} (h : HonestRequest request) :
    request.authPayloadStr ≠ [] := h.plainHash.ne_nil

/-- Adding a record of an unmapped name is an insertion. -/
theorem Represents.insert {userDb : List UInt8} {users : UserMap} (h : Represents userDb users)
    {username digest : List UInt8} (hvalid : serverValidateUsername username = true)
    (hlen : username.length ≤ 31) (hdigest : PlainHash digest)
    (hfree : users.lookup username = none) :
    Represents (userDb ++ userRecord username digest) (users.insert username digest) where
  terminated := h.terminated.append (terminated_userRecord _ _)
  lookup := by
    intro other
    rw [lookupUser_append h.terminated, findRecord_userRecord hvalid hlen hdigest, h.lookup]
    by_cases heq : username = other
    · subst heq
      rw [hfree, if_pos rfl, Option.none_or, Finmap.lookup_insert]
    · rw [if_neg heq, Option.or_none, Finmap.lookup_insert_of_ne _ (Ne.symm heq)]
  valid := by
    intro other hother
    by_cases heq : username = other
    · subst heq; exact hvalid
    · rw [Finmap.lookup_insert_of_ne _ (Ne.symm heq)] at hother
      exact h.valid other hother

/-! ## The three calls -/

/-- Registration on the file and on the map. -/
theorem register_simulates {userDb : List UInt8} {users : UserMap} (h : Represents userDb users)
    {request : RequestPtr} (hreq : HonestRequest request) :
    (serverRegisterUser .all userDb request).1 =
        (mapRegister users request.usernameStr request.authPayloadStr).1 ∧
      Represents (serverRegisterUser .all userDb request).2
        (mapRegister users request.usernameStr request.authPayloadStr).2 := by
  simp only [serverRegisterUser, mapRegister, FileAccess.all, hreq.authPayload_ne_nil, h.lookup]
  cases hvalid : serverValidateUsername request.usernameStr with
  | false => simpa using h
  | true =>
    cases hold : users.lookup request.usernameStr with
    | some digest => simpa using h
    | none => simpa using h.insert hvalid hreq.username_length hreq.plainHash hold

/-- Login on the file and on the map. -/
theorem login_simulates {userDb : List UInt8} {users : UserMap} (h : Represents userDb users)
    {request : RequestPtr} (hreq : HonestRequest request) :
    serverValidateLogin .all userDb request =
      mapLogin users request.usernameStr request.authPayloadStr := by
  simp only [serverValidateLogin, mapLogin, FileAccess.all, hreq.authPayload_ne_nil, h.lookup]
  cases hvalid : serverValidateUsername request.usernameStr with
  | false => simp
  | true =>
    cases hold : users.lookup request.usernameStr with
    | some digest => simp
    | none => simp

/-- Looking for a user in the file and in the map. -/
theorem exists_simulates {userDb : List UInt8} {users : UserMap} (h : Represents userDb users)
    (username : List UInt8) :
    serverUserExists .all userDb username = (users.lookup username).isSome := by
  simp only [serverUserExists, FileAccess.all, h.lookup]
  cases hvalid : serverValidateUsername username with
  | true => simp
  | false =>
    cases hold : users.lookup username with
    | none => simp
    | some digest => simp [h.valid username (by simp [hold])] at hvalid

/-- One call on the file and on the map that it represents. -/
theorem userDbCall_simulates {userDb : List UInt8} {users : UserMap} {call : UserDbCall}
    (h : Represents userDb users) (hcall : HonestCall call) :
    (userDbCall userDb call).1 = (mapCall users call).1 ∧
      Represents (userDbCall userDb call).2 (mapCall users call).2 := by
  cases call with
  | register request =>
    obtain ⟨hres, hrep⟩ := register_simulates h hcall
    exact ⟨congrArg UserDbResult.status hres, hrep⟩
  | login request => exact ⟨congrArg UserDbResult.status (login_simulates h hcall), h⟩
  | «exists» username => exact ⟨congrArg UserDbResult.found (exists_simulates h username), h⟩

/-- **The users file refines the map.**  Whatever honest clients call, in whatever order, the
    functions of the server answer as the map does. -/
theorem userDb_refines_map (calls : List UserDbCall) (h : ∀ call ∈ calls, HonestCall call) :
    Transition.results userDbCall [] calls = Transition.results mapCall ∅ calls ∧
      Represents (Transition.after userDbCall [] calls) (Transition.after mapCall ∅ calls) :=
  Transition.simulates Represents (fun _ _ _ hrep => userDbCall_simulates hrep)
    represents_empty h

/-! ## Two clients -/

/-- The request that the client fills in from a name and a digest. -/
def authRequest (username digest : List UInt8) : RequestPtr where
  toChatRequest := { ChatRequest.zero with
    username := .ofStr _ username
    authPayload := .ofStr _ digest }
  after := []

/-- A digest: forty times the character `a`. -/
def sampleDigest : List UInt8 := List.replicate 40 97

theorem authPayloadStr_authRequest (username : List UInt8) :
    (authRequest username sampleDigest).authPayloadStr = sampleDigest := by
  rw [RequestPtr.authPayloadStr_of_mem (CharArray.zero_mem_ofStr (by decide) _)]
  show cstr (CharArray.ofStr chatMaxPassword sampleDigest).bytes = sampleDigest
  decide

theorem honestRequest_authRequest (username : List UInt8) :
    HonestRequest (authRequest username sampleDigest) where
  username_ends := CharArray.zero_mem_ofStr (by decide) _
  authPayload_ends := CharArray.zero_mem_ofStr (by decide) _
  digest_length := by rw [authPayloadStr_authRequest]; decide
  digest_hex := by
    intro c hc
    rw [authPayloadStr_authRequest] at hc
    rw [List.eq_of_mem_replicate hc]
    decide

/-- `amy` registers, logs in and is looked up: the file and the map answer alike. -/
theorem userDb_refines_map_amy :
    Transition.results userDbCall []
        [.register (authRequest [97, 109, 121] sampleDigest),
          .login (authRequest [97, 109, 121] sampleDigest), .exists [97, 109, 121]] =
      Transition.results mapCall ∅
        [.register (authRequest [97, 109, 121] sampleDigest),
          .login (authRequest [97, 109, 121] sampleDigest), .exists [97, 109, 121]] :=
  (userDb_refines_map
    [.register (authRequest [97, 109, 121] sampleDigest),
      .login (authRequest [97, 109, 121] sampleDigest), .exists [97, 109, 121]] (by
    intro call hcall
    simp only [List.mem_cons, List.not_mem_nil, or_false] at hcall
    rcases hcall with rfl | rfl | rfl
    · exact honestRequest_authRequest _
    · exact honestRequest_authRequest _
    · exact ⟨by decide, by decide⟩)).1

/-- A login under the name `a b`, which is not in the alphabet, is refused as invalid although the
    name is not mapped. -/
theorem invalid_name_login_not_userNotFound :
    ¬ ∀ (calls : List UserDbCall) (request : RequestPtr), (∀ call ∈ calls, HonestCall call) →
      HonestRequest request →
      (serverValidateLogin .all (Transition.after userDbCall [] calls) request = .userNotFound ↔
        (Transition.after mapCall ∅ calls).lookup request.usernameStr = none) := by
  intro h
  have hlogin := (h [] (authRequest [97, 32, 98] sampleDigest) (by simp)
    (honestRequest_authRequest _)).mpr (Finmap.lookup_empty _)
  revert hlogin
  decide +kernel

end ChatSC.Spec
