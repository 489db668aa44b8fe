import ChatSC.ForStd.JsString
import ChatSC.Native.Processor

/-!
# Encryption of stored messages (`backend/src/modules/chat/chat-encryption.service.ts`)

The service builds a `chat_request_t` in a buffer, sends it to the processor daemon and reads a
`chat_response_t` from what comes back.  A promise is what it has come to when nothing more happens
on its socket; `ExchangeIo` says what happens there, and what the daemon's device calls return.
-/

namespace ChatSC.Backend

open Buffer JsString Native

def requestChatMessage : UInt32 := 2
def processSubstitution : UInt32 := 1
def processSubstitutionDecrypt : UInt32 := 3
def responseAck : UInt32 := 1
def statusOk : Int32 := 0

/-- `ReverseEncryptionState` -/
inductive ReverseEncryptionState where
  | legacy
  | encrypted
  | decodeFailed
deriving DecidableEq, Repr

/-- What a call rejects with. -/
inductive ProcessingError where
  /-- `ChatProcessingError` -/
  | chat (code : String) (message : JsString)
  /-- `writeUInt32LE` of a number that is too large -/
  | outOfRange
deriving DecidableEq

/-- A promise of the service. -/
inductive Promise (α : Type) where
  | pending
  | rejected (error : ProcessingError)
  | resolved (value : α)
deriving DecidableEq

/-- `await` -/
def Promise.andThen {α β : Type} (p : Promise α) (f : α → Promise β) : Promise β :=
  match p with
  | .pending => .pending
  | .rejected error => .rejected error
  | .resolved value => f value

/-- A `ChatProcessingError` with a fixed message. -/
def rejectWith {α : Type} (code message : String) : Promise α := .rejected (.chat code (js message))

/-- The configuration that the service reads, as `backendEnv` has checked it. -/
structure BackendEnv where
  chatReverseEncryptionEnabled : Bool
  processorRemoteHost : JsString
  processorRemotePort : Int
  host_of_enabled : chatReverseEncryptionEnabled = true → processorRemoteHost ≠ []
  port_of_enabled : chatReverseEncryptionEnabled = true → 0 < processorRemotePort
deriving DecidableEq

/-- `context` of the two calls. -/
structure EncryptionContext where
  senderId : JsString
  conversationId : JsString
deriving DecidableEq

/-! ## The buffers -/

/-- `writeCString`: the buffer afterwards. -/
def writeCString (buffer : List UInt8) (offset size : Nat) (value : JsString) : List UInt8 :=
  let encoded := (toUtf8 value).take (size - 1)
  writeAt (writeAt buffer offset encoded) (offset + encoded.length) [0]

/-- `readCString` -/
def readCString (buffer : List UInt8) (offset size : Nat) : JsString :=
  let bytes := slice buffer offset size
  match bytes.idxOf? 0 with
  | some stop => ofUtf8 (bytes.take stop)
  | none => ofUtf8 (bytes.take size)

/-- `buildRequest` with the message id from `nextId`. -/
def buildRequest (messageId : UInt32) (mode : UInt32) (content : JsString)
    (context : EncryptionContext) : List UInt8 :=
  let buffer := List.replicate sizeofChatRequest 0
  let buffer := writeAt buffer 0 (le32 messageId)
  let buffer := writeAt buffer 4 (le32 requestChatMessage)
  let buffer := writeAt buffer 8 (le32 mode)
  let buffer := writeCString buffer 12 chatMaxUsername context.senderId
  let buffer := writeCString buffer (12 + chatMaxUsername) chatMaxUsername context.conversationId
  writeCString buffer (12 + chatMaxUsername + chatMaxUsername + chatMaxPassword) chatMaxMessage
    content

/-- `RemoteResponse` -/
structure RemoteResponse where
  messageId : UInt32
  responseType : UInt32
  status : Int32
  payload : JsString
deriving DecidableEq

/-- `parseResponse` -/
def parseResponse (buffer : List UInt8) : RemoteResponse where
  messageId := readLe32 (slice buffer 0 4)
  responseType :=
    if readLe32 (slice buffer 4 4) = 0 then responseAck else readLe32 (slice buffer 4 4)
  status := (readLe32 (slice buffer 8 4)).toInt32
  payload := readCString buffer 76 chatMaxResult

/-! ## The exchange -/

/-- An event on the socket; `data` brings the next bytes of the answer, as many as the number. -/
inductive SocketEvent where
  | data (count : Nat)
  | timeout
  | error
  | close
deriving DecidableEq

/-- The handlers of `exchange` on the events after `connect`, for the bytes that are still to come
    and those received. -/
def exchangeFrom : (incoming received : List UInt8) → List SocketEvent → Promise RemoteResponse
  | _, _, [] => .pending
  | incoming, received, .data count :: events =>
    let received := received ++ incoming.take count
    if received.length < sizeofChatResponse then exchangeFrom (incoming.drop count) received events
    else .resolved (parseResponse (received.take sizeofChatResponse))
  | _, _, .timeout :: _ =>
    rejectWith "REVERSE_ENCRYPTION_TIMEOUT" "Hết thời gian chờ dịch vụ mã hoá ngược phản hồi"
  | _, _, .error :: _ =>
    rejectWith "REVERSE_ENCRYPTION_CONNECTION_FAILED"
      "Không kết nối được tới dịch vụ mã hoá ngược"
  | _, _, .close :: _ =>
    rejectWith "REVERSE_ENCRYPTION_IO_FAILED"
      "Kết nối tới dịch vụ mã hoá ngược bị đóng sớm"

/-- What happens during one exchange: the events on the socket, and on the daemon's host the driver
    with the outcomes of the device calls. -/
structure ExchangeIo where
  events : List SocketEvent
  deviceIo : DeviceIo
  driver : DriverState

/-- `exchange` with the daemon. -/
def exchange (io : ExchangeIo) (request : ChatRequest) : Promise RemoteResponse :=
  exchangeFrom (processorReply io.deviceIo io.driver request).2.toBytes [] io.events

/-! ## The two calls -/

/-- A string that is written into a field of the buffer keeps its size. -/
theorem length_writeCString {buffer : List UInt8} (offset size : Nat) (hsize : 0 < size)
    (h : offset + size ≤ buffer.length) (value : JsString) :
    (writeCString buffer offset size value).length = buffer.length := by
  have hlen : ((toUtf8 value).take (size - 1)).length ≤ size - 1 := List.length_take_le _ _
  have hcopied : (writeAt buffer offset ((toUtf8 value).take (size - 1))).length = buffer.length :=
    length_writeAt (by omega)
  rw [writeCString, length_writeAt (by rw [hcopied, List.length_singleton]; omega), hcopied]

/-- A word that is written into the buffer keeps its size. -/
theorem length_writeAt_le32 {buffer : List UInt8} (offset : Nat) (h : offset + 4 ≤ buffer.length)
    (w : UInt32) : (writeAt buffer offset (le32 w)).length = buffer.length :=
  length_writeAt (by rwa [length_le32])

/-- The buffer of a request has the size of the struct. -/
theorem length_buildRequest (messageId mode : UInt32) (content : JsString)
    (context : EncryptionContext) :
    (buildRequest messageId mode content context).length = sizeofChatRequest := by
  have hzero : (List.replicate sizeofChatRequest (0 : UInt8)).length = 1164 :=
    List.length_replicate
  have hid := length_writeAt_le32 0 (by rw [hzero]; decide) messageId
  rw [hzero] at hid
  have htype := length_writeAt_le32 4 (by rw [hid]; decide) requestChatMessage
  rw [hid] at htype
  have hmode := length_writeAt_le32 8 (by rw [htype]; decide) mode
  rw [htype] at hmode
  have hsender := length_writeCString 12 32 (by decide)
    (by rw [hmode]; decide) context.senderId
  rw [hmode] at hsender
  have hconversation := length_writeCString (12 + 32) 32 (by decide)
    (by rw [hsender]; decide) context.conversationId
  rw [hsender] at hconversation
  have hcontent := length_writeCString (12 + 32 + 32 + 64) 512 (by decide)
    (by rw [hconversation]; decide) content
  rw [hconversation] at hcontent
  exact hcontent

/-- The service, `nextMessageId` being all its state. -/
structure ChatEncryptionService where
  nextMessageId : Nat
deriving DecidableEq

/-- `processRemote` -/
def processRemote (env : BackendEnv) (io : ExchangeIo) (service : ChatEncryptionService)
    (mode : UInt32) (content : JsString) (context : EncryptionContext)
    (failureCode failureMessage : String) : ChatEncryptionService × Promise JsString :=
  if env.processorRemoteHost = [] then
    (service, rejectWith "REVERSE_ENCRYPTION_CONFIG_MISSING"
      "Thiếu cấu hình host của remote processor dùng chung")
  else if env.processorRemotePort ≤ 0 then
    (service, rejectWith "REVERSE_ENCRYPTION_CONFIG_INVALID"
      "Cấu hình cổng remote processor dùng chung không hợp lệ")
  else
    let messageId := service.nextMessageId
    let service : ChatEncryptionService := ⟨service.nextMessageId + 1⟩
    if messageId < 2 ^ 32 then
      let request := buildRequest (UInt32.ofNat messageId) mode content context
      (service,
        (exchange io (.ofBytes request (length_buildRequest _ _ _ _))).andThen fun response =>
          if response.status ≠ statusOk then
            .rejected (.chat failureCode (js failureMessage ++ js ": " ++
              if response.payload = [] then js "processor-error" else response.payload))
          else .resolved response.payload)
    else (service, .rejected .outOfRange)

/-- What `encryptForStorage` resolves with. -/
structure EncryptedContent where
  content : JsString
  reverseEncryptionState : ReverseEncryptionState
  decodeErrorCode : Option String
deriving DecidableEq

/-- `encryptForStorage` -/
def encryptForStorage (env : BackendEnv) (io : ExchangeIo) (service : ChatEncryptionService)
    (content : JsString) (context : EncryptionContext) :
    ChatEncryptionService × Promise EncryptedContent :=
  if !env.chatReverseEncryptionEnabled then (service, .resolved ⟨content, .legacy, none⟩)
  else
    match processRemote env io service processSubstitution content context
        "REVERSE_ENCRYPTION_UNAVAILABLE" "Không thể mã hoá ngược tin nhắn để lưu trữ" with
    | (service, payload) =>
      (service, payload.andThen fun payload => .resolved ⟨payload, .encrypted, none⟩)

/-- What `decryptForDisplay` resolves with; its `displayState` is `'ready'` throughout. -/
structure DisplayContent where
  content : JsString
  decodeErrorCode : Option String
deriving DecidableEq

/-- `decryptForDisplay` -/
def decryptForDisplay (env : BackendEnv) (io : ExchangeIo) (service : ChatEncryptionService)
    (content : JsString) (reverseEncryptionState : Option ReverseEncryptionState)
    (context : EncryptionContext) : ChatEncryptionService × Promise DisplayContent :=
  if reverseEncryptionState ≠ some .encrypted then (service, .resolved ⟨content, none⟩)
  else
    match processRemote env io service processSubstitutionDecrypt content context
        "REVERSE_DECRYPTION_UNAVAILABLE" "Không thể khôi phục nội dung tin nhắn để hiển thị" with
    | (service, payload) =>
      (service, payload.andThen fun payload => .resolved ⟨payload, none⟩)

end ChatSC.Backend
