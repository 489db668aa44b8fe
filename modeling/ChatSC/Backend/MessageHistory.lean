import ChatSC.Backend.RealtimeMessage
import ChatSC.ForStd.Pagination

/-!
# Stored messages for display (`chat.service.ts`)

`toDisplayMessage` makes a stored message ready for a history or a preview, and `getMessages` is a
page of a history.  The conversation of a call is the parsed one: the controller's guard parses it
first.  Dates go out with `toISOString` and come back through `new Date`, which keeps them.
-/

namespace ChatSC.Backend

open JsString Pagination

/-- `displayMessage`: the stored message with the `content` and the `decodeErrorCode` for display. -/
structure DisplayMessage where
  message : Message
  sender : SenderPresentation
  displayState : MessageDisplayState
deriving DecidableEq

/-- What is shown of a message that cannot be decrypted. -/
def unrecoverable : JsString := js "[Không thể khôi phục nội dung tin nhắn]"

/-- `toDisplayMessage`; `none` while the processor has not answered. -/
def toDisplayMessage (env : BackendEnv) (io : ExchangeIo) (service : ChatEncryptionService)
    (presentation : SenderPresentation) (message : Message) : Option DisplayMessage :=
  match (decryptForDisplay env io service message.content (some message.reverseEncryptionState)
      ⟨message.senderId.toString, message.conversationId.toString⟩).2 with
  | .pending => none
  | .resolved display =>
    some
      { message :=
          { message with content := display.content, decodeErrorCode := display.decodeErrorCode }
        sender := presentation
        displayState := .ready }
  | .rejected error =>
    some
      { message := { message with content := unrecoverable, decodeErrorCode := some error.code }
        sender := presentation
        displayState := .decodeFailed }

/-- What the environment gives when a message is displayed. -/
structure DisplayInput where
  exchange : ExchangeIo
  encryption : ChatEncryptionService
  /-- the user that `findById` finds for the sender -/
  sender : SenderPresentation

/-- A message displayed with what the environment gives. -/
def DisplayInput.display (env : BackendEnv) (input : DisplayInput) (message : Message) :
    Option DisplayMessage :=
  toDisplayMessage env input.exchange input.encryption input.sender message

/-! ## `getMessages` -/

/-- `ChatMessagePayload` -/
structure ChatMessagePayload where
  display : DisplayMessage
  attachment : Option ChatAttachmentPayload
  isTailOfSenderGroup : Bool
deriving DecidableEq

/-- `nextMessage ? nextMessage.senderId !== message.senderId : true` -/
def isTailOfSenderGroup (message : Message) : Option DisplayMessage → Bool
  | none => true
  | some next => next.message.senderId ≠ message.senderId

/-- The payloads of a page. -/
def buildPage : List DisplayMessage → List ChatMessagePayload
  | [] => []
  | display :: rest =>
    ⟨display, buildAttachmentPayload display.message,
      isTailOfSenderGroup display.message rest.head?⟩ :: buildPage rest

/-- `.limit(count)`; zero is no limit. -/
def limitTo {α : Type} (count : Nat) (xs : List α) : List α := if count = 0 then xs else xs.take count

/-- `messageModel.find({ conversationId, sentAt: { $lt: before } }).sort({ sentAt: -1 }).limit(..)`,
    reversed. -/
def findHistory (db : ChatDb) (conversation : ObjectId) (before : Option Date) (limit : Nat) :
    List Message :=
  (limitTo (min limit 50) (newestFirst Message.sentAt (behind Message.sentAt before
    (db.messages.filter (·.conversationId = conversation))))).reverse

/-- `getMessages`; `none` while a message cannot be displayed. -/
def getMessages (env : BackendEnv) (input : ObjectId → DisplayInput) (db : ChatDb)
    (conversation : ObjectId) (before : Option Date) (limit : Nat) :
    Option (List ChatMessagePayload) :=
  ((findHistory db conversation before limit).mapM fun message =>
    (input message.id).display env message).map buildPage

/-- What a client gets that asks for one page after the other: first without `before`, then before
    the oldest message it has, until a page is short.  The environment is another one in every
    call. -/
def loadHistory (env : BackendEnv) (input : Option Date → ObjectId → DisplayInput) (db : ChatDb)
    (conversation : ObjectId) (size calls : Nat) : Option (List (List ChatMessagePayload)) :=
  loadAll (fun before => getMessages env (input before) db conversation before size)
    (fun payload => payload.display.message.sentAt) size calls none

end ChatSC.Backend
