import ChatSC.Spec.UserDb

/-!
# One registration and the other users

`server_register_user` checks the user name but takes the bytes of `auth_payload` as they are, and
the file is read back line by line.  So the appended text can hold more than the record it is meant
to be: a newline in the payload starts another line, and `fgets` cuts a line that does not fit its
buffer.  `register_sameForOthers_iff` says when that changes a result for another user: exactly when
some piece of the appended text reads as the record of another user who could log in with it.
-/

namespace ChatSC.Spec

open Native Stdio

/-- No lookup of another user can tell the two files apart, whatever files can be opened and
    whatever the login request holds. -/
def SameForOthers (userDb userDb' username : List UInt8) : Prop :=
  ∀ access other, other ≠ username →
    serverUserExists access userDb' other = serverUserExists access userDb other ∧
    ∀ request : RequestPtr, request.usernameStr = other →
      serverValidateLogin access userDb' request = serverValidateLogin access userDb request

/-- A piece of the text that the registration of `request` appends reads as a record of another
    valid name that the file does not hold yet. -/
def SmugglesRecord (userDb : List UInt8) (request : RequestPtr) : Prop :=
  ∃ piece ∈ lines lineSize (userRecord request.usernameStr request.authPayloadStr),
    ∃ other hash, scanRecord (cstr piece) = some (other, hash) ∧ other ≠ request.usernameStr ∧
      serverValidateUsername other = true ∧ lookupUser userDb other = none

/-- Files that hold the same hash for every other valid name give the same results. -/
theorem sameForOthers_of_lookup {userDb userDb' username : List UInt8}
    (h : ∀ other, other ≠ username → serverValidateUsername other = true →
      lookupUser userDb' other = lookupUser userDb other) :
    SameForOthers userDb userDb' username := by
  intro access other hother
  refine ⟨?_, ?_⟩
  · cases hvalid : serverValidateUsername other with
    | false => simp [serverUserExists, hvalid]
    | true => simp only [serverUserExists, h other hother hvalid]
  · intro request hreq
    cases hvalid : serverValidateUsername other with
    | false => simp [serverValidateLogin, hreq, hvalid]
    | true => simp only [serverValidateLogin, hreq, h other hother hvalid]

/-- A file that newly holds another valid name gives another result. -/
theorem not_sameForOthers_of_new {userDb userDb' username other : List UInt8}
    (hother : other ≠ username) (hvalid : serverValidateUsername other = true)
    (hold : lookupUser userDb other = none) (hnew : lookupUser userDb' other ≠ none) :
    ¬ SameForOthers userDb userDb' username := by
  intro hsame
  have hexists := (hsame .all other hother).1
  obtain ⟨hash, hhash⟩ := Option.ne_none_iff_exists'.mp hnew
  simp [serverUserExists, FileAccess.all, hvalid, hold, hhash] at hexists

/-- **What a registration changes for the other users.**  On every file that registrations have
    written, a registration is invisible to the lookups of every other user exactly when it does not
    reach its append or no piece of the appended text reads as another valid, unknown user's
    record. -/
theorem register_sameForOthers_iff (calls : List (FileAccess × RequestPtr)) (access : FileAccess)
    (request : RequestPtr) :
    SameForOthers (Transition.after registerCall [] calls)
        (serverRegisterUser access (Transition.after registerCall [] calls) request).2
        request.usernameStr ↔
      ¬ (Appends access (Transition.after registerCall [] calls) request ∧
          SmugglesRecord (Transition.after registerCall [] calls) request) := by
  have hterm := terminated_after_registrations calls
  generalize Transition.after registerCall [] calls = userDb at hterm
  by_cases happ : Appends access userDb request
  · rw [serverRegisterUser_of_appends happ]
    constructor
    · -- the smuggled record answers for its user, who had none
      rintro hsame ⟨-, piece, hpiece, other, hash, hscan, hother, hvalid, hold⟩
      refine not_sameForOthers_of_new hother hvalid hold ?_ hsame
      rw [lookupUser_append hterm, hold, Option.none_or]
      -- without a smuggled record a lookup meets no new record but that of the user
      intro hnone
      exact findRecord_eq_none_iff.mp hnone piece hpiece hash hscan
    · intro hno
      apply sameForOthers_of_lookup
      intro other hother hvalid
      rw [lookupUser_append hterm]
      cases hold : lookupUser userDb other with
      | some hash => rfl
      | none =>
        rw [Option.none_or, findRecord_eq_none_iff]
        intro piece hpiece hash hscan
        exact hno ⟨happ, piece, hpiece, other, hash, hscan, hother, hvalid, hold⟩
  · rw [serverRegisterUser_of_not_appends happ]
    exact ⟨fun _ h => happ h.1, fun _ _ _ _ => ⟨rfl, fun _ _ => rfl⟩⟩

/-- The registration of `alice` with the payload `x`, newline, `bob:y`. -/
def twoLineRequest : RequestPtr where
  toChatRequest := { ChatRequest.zero with
    requestType := RequestType.authRegister.code
    username := .ofStr _ [97, 108, 105, 99, 101]
    authPayload := .ofStr _ [120, 10, 98, 111, 98, 58, 121] }
  after := []

/-- A payload with a newline in it registers a second user. -/
theorem twoLineRequest_registers_bob :
    ¬ ∀ (calls : List (FileAccess × RequestPtr)) (access : FileAccess) (request : RequestPtr),
      SameForOthers (Transition.after registerCall [] calls)
        (serverRegisterUser access (Transition.after registerCall [] calls) request).2
        request.usernameStr := by
  intro h
  have hbob := (h [] .all twoLineRequest .all [98, 111, 98] (by decide +kernel)).1
  revert hbob
  decide +kernel

end ChatSC.Spec
