import ChatSC.ForStd.Stdio
import ChatSC.Native.Protocol

/-!
# The server's protocol functions (`app/server/server_protocol.c`)

The users file is the list of its bytes; a file that does not exist yet is the empty one, since
`ensure_user_db_exists` creates it.  Opening it can fail in three places, and `FileAccess` says which
of the three `fopen` calls of a function succeed.  The three functions hold `k_user_db_lock` from
before the first `fopen` to the end, so each of them is one step on the file.

Pointers that no caller passes as null (the path, the request, the user name) are not options here.
-/

namespace ChatSC.Native

open Stdio

/-- `:` -/
def colon : UInt8 := 58

/-- `isalnum` in the "C" locale. -/
def isAlnum (ch : UInt8) : Bool :=
  (48 ≤ ch && ch ≤ 57) || (65 ≤ ch && ch ≤ 90) || (97 ≤ ch && ch ≤ 122)

/-- The characters `server_validate_username` lets pass: alphanumeric, `_`, `-` and `.` -/
def isUsernameChar (ch : UInt8) : Bool := isAlnum ch || ch == 95 || ch == 45 || ch == 46

/-- The outcome of the `fopen` calls of one function: `"a+"`, `"r"` and `"a"`. -/
structure FileAccess where
  create : Bool
  read : Bool
  append : Bool
deriving DecidableEq, Repr

/-- Every `fopen` succeeds. -/
def FileAccess.all : FileAccess := ⟨true, true, true⟩

/-- `sizeof(line)`: `CHAT_MAX_USERNAME + CHAT_MAX_PASSWORD + 8` -/
def lineSize : Nat := chatMaxUsername + chatMaxPassword + 8

/-- `server_fill_response`; `none` is a null pointer. -/
def serverFillResponse (messageId : UInt32) (responseType : ResponseType) (status : ResponseStatus)
    (fromUsername peerUsername payload : Option (List UInt8)) : ChatResponse where
  messageId := messageId
  responseType := responseType.code
  status := status.code
  fromUsername := match fromUsername with
    | some s => .ofStr _ s
    | none => .zero _
  peerUsername := match peerUsername with
    | some s => .ofStr _ s
    | none => .zero _
  payload := match payload with
    | some s => .ofStr _ s
    | none => .zero _

/-- `server_validate_username` -/
def serverValidateUsername (username : List UInt8) : Bool :=
  username ≠ [] && username.all isUsernameChar

/-- `sscanf(line, "%31[^:]:%63s", file_username, file_hash) == 2`: the two strings it stores. -/
def scanRecord (line : List UInt8) : Option (List UInt8 × List UInt8) :=
  match scanSpan (· ≠ colon) 31 line with
  | none => none
  | some (fileUsername, rest) =>
    match rest with
    | [] => none
    | b :: rest =>
      if b = colon then
        match scanSpan (fun c => !isSpace c) 63 (rest.dropWhile isSpace) with
        | none => none
        | some (fileHash, _) => some (fileUsername, fileHash)
      else none

/-- The `fgets` loop that the three functions share: the hash in the first line that holds the
    user. -/
def findRecord (username : List UInt8) : List (List UInt8) → Option (List UInt8)
  | [] => none
  | line :: lines =>
    match scanRecord (cstr line) with
    | none => findRecord username lines
    | some (fileUsername, fileHash) =>
      if fileUsername = username then some fileHash else findRecord username lines

/-- The hash that the users file holds for a user. -/
def lookupUser (userDb : List UInt8) (username : List UInt8) : Option (List UInt8) :=
  findRecord username (lines lineSize userDb)

/-- What `fprintf(file, "%s:%s\n", username, auth_payload)` appends. -/
def userRecord (username authPayload : List UInt8) : List UInt8 :=
  username ++ (colon :: (authPayload ++ [newline]))

/-- `server_user_exists` -/
def serverUserExists (access : FileAccess) (userDb username : List UInt8) : Bool :=
  if !serverValidateUsername username then false
  else if !access.create then false
  else if !access.read then false
  else (lookupUser userDb username).isSome

/-- `server_register_user`: the status and the users file afterwards. -/
def serverRegisterUser (access : FileAccess) (userDb : List UInt8) (request : RequestPtr) :
    ResponseStatus × List UInt8 :=
  if !serverValidateUsername request.usernameStr || request.authPayloadStr = [] then
    (.invalidRequest, userDb)
  else if !access.create then (.invalidRequest, userDb)
  else if access.read && (lookupUser userDb request.usernameStr).isSome then (.userExists, userDb)
  else if !access.append then (.invalidRequest, userDb)
  else (.registerSuccess, userDb ++ userRecord request.usernameStr request.authPayloadStr)

/-- `server_validate_login` -/
def serverValidateLogin (access : FileAccess) (userDb : List UInt8) (request : RequestPtr) :
    ResponseStatus :=
  if !serverValidateUsername request.usernameStr || request.authPayloadStr = [] then .invalidRequest
  else if !access.create then .invalidRequest
  else if !access.read then .authFailed
  else
    match lookupUser userDb request.usernameStr with
    | none => .userNotFound
    | some fileHash => if fileHash = request.authPayloadStr then .ok else .authFailed

end ChatSC.Native
