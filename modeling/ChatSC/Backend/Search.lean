import ChatSC.Backend.AuthService
import ChatSC.Backend.MessageHistory
import ChatSC.ForStd.RegExpMatch

/-!
# Searching (`chat.service.ts`, `auth.service.ts`)

`searchMessages` and `searchUsers` make a regular expression of what was typed.  The messages are
matched by the engine of JavaScript, the users by the one of the database, which gets the pattern with
the query and is taken to read it in the same way.
-/

namespace ChatSC.Backend

open JsString Pagination RegExp

/-- The characters of `/[.*+?^${}()|[\]\\]/`. -/
def escapedUnits : JsString := js ".*+?^$\x7b\x7d()|[]\\"

example : parse (fun _ => false) (fun _ => false) (js "[.*+?^$\x7b\x7d()|[\\]\\\\]") =
    some ⟨.seq .empty (.set false (escapedUnits.map .single)), 0⟩ := by decide +kernel

/-- `trimmedQuery.replace(/[.*+?^${}()|[\]\\]/g, '\\$&')` -/
def escapeQuery (trimmedQuery : JsString) : JsString :=
  trimmedQuery.flatMap fun u => if u ∈ escapedUnits then [unit '\\', u] else [u]

/-- `new RegExp(escapedQuery, 'i')` -/
def newSearchRegex (engine : Engine) (trimmedQuery : JsString) : Option Object :=
  newRegExp engine (escapeQuery trimmedQuery) true

/-- How a search ends; it is `pending` while a message cannot be displayed. -/
inductive SearchResult (α : Type) where
  | pending
  | syntaxError
  | resolved (found : List α)
deriving DecidableEq

/-! ## `searchMessages` -/

/-- `MessageSearchPayload` -/
structure MessageSearchPayload where
  messageId : JsString
  conversationId : JsString
  senderId : JsString
  senderDisplayName : Option JsString
  senderAvatarUrl : Option JsString
  content : JsString
  encryptedContent : JsString
  sentAt : Date
  decodeErrorCode : Option String
  displayState : MessageDisplayState
deriving DecidableEq

/-- What a search answers for a message that is displayed. -/
def searchPayload (message : Message) (display : DisplayMessage) : MessageSearchPayload where
  messageId := message.id.toString
  conversationId := message.conversationId.toString
  senderId := message.senderId.toString
  senderDisplayName := display.sender.senderDisplayName
  senderAvatarUrl := display.sender.senderAvatarUrl
  content := display.message.content
  encryptedContent := message.content
  sentAt := message.sentAt
  decodeErrorCode := display.message.decodeErrorCode
  displayState := display.displayState

/-- `searchMessages` -/
def searchMessages (engine : Engine) (env : BackendEnv) (input : ObjectId → DisplayInput)
    (db : ChatDb) (conversation : ObjectId) (query : JsString) :
    SearchResult MessageSearchPayload :=
  let trimmedQuery := trim query
  if trimmedQuery.length < 2 then .resolved []
  else
    match newSearchRegex engine trimmedQuery with
    | none => .syntaxError
    | some searchRegex =>
      -- only the newest hundred messages are decrypted and tested
      let messages := (newestFirst Message.sentAt
        (db.messages.filter (·.conversationId = conversation))).take 100
      match messages.mapM fun message =>
          ((input message.id).display env message).map (searchPayload message) with
      | none => .pending
      | some displayMessages =>
        .resolved ((displayMessages.filter fun message => searchRegex.test message.content).take 20)

/-! ## `searchUsers` -/

/-- `searchUsers`; the database has its own engine, and its order of names is the one of their bytes. -/
def searchUsers (engine databaseEngine : Engine) (db : AuthDb) (query : JsString)
    (currentUserId : ObjectId) : SearchResult SessionUser :=
  let trimmedQuery := trim query
  if trimmedQuery.length < 2 then .resolved []
  else
    match newSearchRegex engine trimmedQuery with
    | none => .syntaxError
    | some searchRegex =>
      let stored : Object := ⟨searchRegex.pattern, databaseEngine.flags true⟩
      let users := db.users.filter fun user =>
        user.id ≠ currentUserId &&
          (stored.test user.email || stored.test user.username || stored.test user.displayName)
      .resolved (((users.insertionSort fun a b => toUtf8 a.username ≤ toUtf8 b.username).take 10).map
        toSessionUser)

end ChatSC.Backend
