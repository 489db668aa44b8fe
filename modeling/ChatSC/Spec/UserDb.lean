import ChatSC.ForStd.Transition
import ChatSC.Native.ServerProtocol

/-!
# The users file

What the lines of the users file mean to the functions that read it.  A registration appends one
record to a file in which every line is complete, so the records before it are read as before and
what the appended text adds can be computed from that text alone (`lookupUser_append`).
-/

namespace ChatSC.Spec

open Native Stdio

/-! ## Valid user names -/

/-- A valid name has only characters of the alphabet. -/
theorem isUsernameChar_of_valid {username : List UInt8} (h : serverValidateUsername username = true)
    {ch : UInt8} (hch : ch ∈ username) : isUsernameChar ch = true := by
  simp only [serverValidateUsername, Bool.and_eq_true, List.all_eq_true] at h
  exact h.2 ch hch

/-- A valid name is not empty. -/
theorem ne_nil_of_valid {username : List UInt8} (h : serverValidateUsername username = true) :
    username ≠ [] := by
  simp only [serverValidateUsername, Bool.and_eq_true, decide_eq_true_eq] at h
  exact h.1

/-- A valid name holds no byte outside the alphabet; `:`, the newline and NUL are such bytes. -/
theorem notMem_of_valid {username : List UInt8} (h : serverValidateUsername username = true)
    {ch : UInt8} (hch : isUsernameChar ch = false) : ch ∉ username := by
  intro hmem
  rw [isUsernameChar_of_valid h hmem] at hch
  exact absurd hch (by decide)

/-- A name that logs in is one the file holds. -/
theorem lookupUser_of_login_ok {access : FileAccess} {userDb : List UInt8} {request : RequestPtr}
    (h : serverValidateLogin access userDb request = .ok) :
    serverValidateUsername request.usernameStr = true ∧
      lookupUser userDb request.usernameStr = some request.authPayloadStr := by
  simp only [serverValidateLogin] at h
  split at h
  · cases h
  · -- the name is valid before the file is looked at
    rename_i hvalid
    simp only [Bool.or_eq_true, Bool.not_eq_eq_eq_not, Bool.not_true, decide_eq_true_eq,
      not_or, Bool.not_eq_false] at hvalid
    split at h
    · cases h
    · split at h
      · cases h
      · -- the hash of the record has to be the one of the request
        cases hl : lookupUser userDb request.usernameStr with
        | none => simp [hl] at h
        | some fileHash =>
          simp only [hl] at h
          split at h
          · rename_i heq
            exact ⟨hvalid.1, by rw [heq]⟩
          · cases h

/-- The record on a line has a name of at most 31 bytes. -/
theorem scanRecord_name_length {line name hash : List UInt8}
    (h : scanRecord line = some (name, hash)) : name ≠ [] ∧ name.length ≤ 31 := by
  simp only [scanRecord] at h
  split at h
  · cases h
  · -- the name of the record is scanned with a bound of 31 bytes
    rename_i fileUsername rest hspan
    obtain ⟨hne, hlen, -, -⟩ := scanSpan_eq_some hspan
    split at h
    · cases h
    · split at h
      · split at h
        · cases h
        · cases h
          exact ⟨hne, hlen⟩
      · cases h

/-- Only names of at most 31 bytes are found. -/
theorem findRecord_name_length {username hash : List UInt8} {lines : List (List UInt8)}
    (h : findRecord username lines = some hash) : username ≠ [] ∧ username.length ≤ 31 := by
  -- induction on the lines, up to the first record of that name
  induction lines with
  | nil => cases h
  | cons line lines ih =>
    simp only [findRecord] at h
    split at h
    · exact ih h
    · rename_i fileUsername fileHash hrec
      split at h
      · rename_i heq
        subst heq
        exact scanRecord_name_length hrec
      · exact ih h

/-- A login that succeeds is for a name that fits its field with a NUL. -/
theorem login_ok_length {access : FileAccess} {userDb : List UInt8} {request : RequestPtr}
    (h : serverValidateLogin access userDb request = .ok) :
    request.usernameStr ≠ [] ∧ request.usernameStr.length ≤ 31 :=
  findRecord_name_length (lookupUser_of_login_ok h).2

/-! ## Appending to the file -/

/-- The first line that holds the user decides, so lines are searched from the front. -/
theorem findRecord_append (username : List UInt8) (as bs : List (List UInt8)) :
    findRecord username (as ++ bs) = (findRecord username as).or (findRecord username bs) := by
  induction as with
  | nil => rfl
  | cons line as ih =>
    simp only [List.cons_append, findRecord, ih]
    split
    · rfl
    · split <;> rfl

/-- A user is in the lines exactly when one of them reads as a record of that name. -/
theorem findRecord_eq_none_iff {username : List UInt8} {lines : List (List UInt8)} :
    findRecord username lines = none ↔
      ∀ line ∈ lines, ∀ hash, scanRecord (cstr line) ≠ some (username, hash) := by
  -- induction on the lines
  induction lines with
  | nil => simp [findRecord]
  | cons line lines ih =>
    simp only [findRecord, List.forall_mem_cons]
    cases hrec : scanRecord (cstr line) with
    | none => simpa using ih
    | some record =>
      obtain ⟨fileUsername, fileHash⟩ := record
      by_cases heq : fileUsername = username
      · simp [heq]
      · simp [heq, ih]

theorem two_le_lineSize : 2 ≤ lineSize := by decide

/-- Appended text does not change the lines before it. -/
theorem lookupUser_append {userDb : List UInt8} (h : Terminated userDb)
    (text username : List UInt8) :
    lookupUser (userDb ++ text) username =
      (lookupUser userDb username).or (findRecord username (lines lineSize text)) := by
  rw [lookupUser, lines_append two_le_lineSize h, findRecord_append]
  rfl

/-- A record ends its line. -/
theorem terminated_userRecord (username authPayload : List UInt8) :
    Terminated (userRecord username authPayload) :=
  .inr ⟨username ++ (colon :: authPayload), by simp [userRecord]⟩

/-! ## Records that are read back -/

/-- A string that `%63s` reads whole: not empty, at most 63 bytes, no white space and no NUL. -/
structure PlainHash (hash : List UInt8) : Prop where
  ne_nil : hash ≠ []
  short : hash.length ≤ 63
  noSpace : ∀ c ∈ hash, isSpace c = false
  noNul : 0 ∉ hash

/-- The record of a valid name of at most 31 bytes and a plain hash is read back as written. -/
theorem scanRecord_userRecord {username hash : List UInt8}
    (hvalid : serverValidateUsername username = true) (hlen : username.length ≤ 31)
    (hhash : PlainHash hash) : scanRecord (userRecord username hash) = some (username, hash) := by
  have hname : ∀ c ∈ username, decide (c ≠ colon) = true := by
    intro c hc
    have hcolon : colon ∉ username := notMem_of_valid hvalid (by decide)
    simp only [ne_eq, decide_not, Bool.not_eq_true', decide_eq_false_iff_not]
    rintro rfl
    exact hcolon hc
  -- `%31[^:]` stops at the colon, `%63s` at the newline
  have hspan := scanSpan_of_stop (ne_nil_of_valid hvalid) hname (b := colon) (by decide) hlen
    (hash ++ [newline])
  have hskip : (hash ++ [newline]).dropWhile isSpace = hash ++ [newline] := by
    obtain ⟨c, hash', rfl⟩ := List.exists_cons_of_ne_nil hhash.ne_nil
    rw [List.cons_append, List.dropWhile_cons_of_neg]
    simp [hhash.noSpace c List.mem_cons_self]
  have hitem : ∀ c ∈ hash, (!isSpace c) = true := by
    intro c hc
    rw [hhash.noSpace c hc]
    rfl
  have hspan' := scanSpan_of_stop hhash.ne_nil hitem (b := newline) (by decide) hhash.short []
  simp only [scanRecord, userRecord, hspan, ↓reduceIte, hskip, hspan']

/-- Such a record is one piece for `fgets`. -/
theorem lines_userRecord {username hash : List UInt8}
    (hvalid : serverValidateUsername username = true) (hlen : username.length ≤ 31)
    (hhash : PlainHash hash) :
    lines lineSize (userRecord username hash) = [userRecord username hash] := by
  have hline : userRecord username hash = (username ++ colon :: hash) ++ [newline] := by
    simp [userRecord]
  rw [hline]
  apply lines_single
  · -- neither the name nor the hash has a line break
    intro hmem
    rcases List.mem_append.mp hmem with h | h
    · exact notMem_of_valid hvalid (by decide) h
    · rcases List.mem_cons.mp h with h | h
      · exact absurd h (by decide)
      · exact absurd (hhash.noSpace _ h) (by decide)
  · -- both are short enough for the line buffer
    have := hhash.short
    have hsize : lineSize = 104 := rfl
    simp only [List.length_append, List.length_cons]
    omega

/-- What such a record adds to the file: the user's hash, and nothing for anybody else. -/
theorem findRecord_userRecord {username hash : List UInt8}
    (hvalid : serverValidateUsername username = true) (hlen : username.length ≤ 31)
    (hhash : PlainHash hash) (other : List UInt8) :
    findRecord other (lines lineSize (userRecord username hash)) =
      if username = other then some hash else none := by
  -- the record has no NUL, so the line is read to its end
  have hcstr : cstr (userRecord username hash) = userRecord username hash := by
    apply CString.cstr_eq_self
    intro hmem
    rcases List.mem_append.mp hmem with h | h
    · exact notMem_of_valid hvalid (by decide) h
    · simp only [List.mem_cons, List.mem_append, List.not_mem_nil, or_false] at h
      rcases h with h | h | h
      · exact absurd h (by decide)
      · exact hhash.noNul h
      · exact absurd h (by decide)
  rw [lines_userRecord hvalid hlen hhash]
  simp only [findRecord, hcstr, scanRecord_userRecord hvalid hlen hhash]

/-! ## What a registration does -/

/-- The registration gets as far as the append: the request is valid, the files can be opened, and
    no line that could be read holds the user. -/
def Appends (access : FileAccess) (userDb : List UInt8) (request : RequestPtr) : Prop :=
  serverValidateUsername request.usernameStr = true ∧ request.authPayloadStr ≠ [] ∧
    access.create = true ∧ access.append = true ∧
    (access.read = true → lookupUser userDb request.usernameStr = none)

/-- A registration that gets as far as the append adds one record at the end. -/
theorem serverRegisterUser_of_appends {access : FileAccess} {userDb : List UInt8}
    {request : RequestPtr} (h : Appends access userDb request) :
    serverRegisterUser access userDb request =
      (.registerSuccess, userDb ++ userRecord request.usernameStr request.authPayloadStr) := by
  obtain ⟨hvalid, hpayload, hcreate, happend, hfree⟩ := h
  cases hread : access.read with
  | false => simp [serverRegisterUser, hvalid, hpayload, hcreate, happend, hread]
  | true => simp [serverRegisterUser, hvalid, hpayload, hcreate, happend, hread, hfree hread]

/-- Every other registration leaves the file alone. -/
theorem serverRegisterUser_of_not_appends {access : FileAccess} {userDb : List UInt8}
    {request : RequestPtr} (h : ¬ Appends access userDb request) :
    (serverRegisterUser access userDb request).2 = userDb := by
  simp only [serverRegisterUser]
  split
  · rfl
  · rename_i hvalid
    split
    · rfl
    · rename_i hcreate
      split
      · rfl
      · rename_i hfree
        split
        · rfl
        · rename_i happend
          -- no early return was taken, so the append is reached
          refine absurd ⟨?_, ?_, ?_, ?_, ?_⟩ h <;> simp_all

/-- A registration keeps the lines of the file complete. -/
theorem terminated_serverRegisterUser {userDb : List UInt8} (h : Terminated userDb)
    (access : FileAccess) (request : RequestPtr) :
    Terminated (serverRegisterUser access userDb request).2 := by
  by_cases happ : Appends access userDb request
  · rw [serverRegisterUser_of_appends happ]
    exact h.append (terminated_userRecord _ _)
  · rwa [serverRegisterUser_of_not_appends happ]

/-- One registration after another, as the server makes them. -/
def registerCall (userDb : List UInt8) (call : FileAccess × RequestPtr) :
    ResponseStatus × List UInt8 :=
  serverRegisterUser call.1 userDb call.2

/-- Every line of a file that only registrations have written is complete. -/
theorem terminated_after_registrations (calls : List (FileAccess × RequestPtr)) :
    Terminated (Transition.after registerCall [] calls) :=
  Transition.after_invariant Terminated (fun _ call h => terminated_serverRegisterUser h call.1 call.2)
    (.inl rfl) calls

end ChatSC.Spec
