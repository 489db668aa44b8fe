import ChatSC.Backend.ChatEncryption

/-!
# Password hashing (`backend/src/modules/auth/auth-processing.service.ts`, `dto/local-auth.dto.ts`)

The sign-in of local accounts sends the password to the processor daemon and keeps the SHA-1 that
comes back.  The service has copies of `writeCString`, `readCString` and `parseResponse` of the
message encryption, letter for letter, so these are the functions of that model; `exchange` has
texts of its own.  An `AuthProcessingError` is a code and a message like a `ChatProcessingError`.

`toLowerCase` of JavaScript, which goes by the tables of Unicode, is an argument.
-/

namespace ChatSC.Backend

open Buffer JsString Native

/-! ## The DTOs -/

/-- `RegisterLocalAuthDto` -/
structure RegisterLocalAuthDto where
  email : JsString
  username : JsString
  displayName : JsString
  password : JsString
  confirmPassword : JsString
deriving DecidableEq

/-- `LoginLocalAuthDto` -/
structure LoginLocalAuthDto where
  email : JsString
  password : JsString
deriving DecidableEq

/-- What a validation answers when it is not `ok`. -/
structure DtoRefusal where
  code : String
  message : String
deriving DecidableEq

/-- `normalizeEmail` -/
def normalizeEmail (toLowerCase : JsString → JsString) (value : JsString) : JsString :=
  toLowerCase (trim value)

/-- `normalizeTextField` -/
def normalizeTextField (value : JsString) : JsString := trim value

/-- `email.includes('@')` -/
def includesAt (email : JsString) : Bool := email.contains 0x40

/-- `validateRegisterLocalAuthDto` -/
def validateRegisterLocalAuthDto (toLowerCase : JsString → JsString)
    (payload : RegisterLocalAuthDto) : Except DtoRefusal RegisterLocalAuthDto :=
  let email := normalizeEmail toLowerCase payload.email
  let username := normalizeTextField payload.username
  let displayName := normalizeTextField payload.displayName
  let password := payload.password
  let confirmPassword := payload.confirmPassword
  if email = [] ∨ username = [] ∨ displayName = [] ∨ password = [] ∨ confirmPassword = [] then
    .error ⟨"local_auth_invalid_payload", "Missing required local registration fields"⟩
  else if !includesAt email then .error ⟨"local_auth_invalid_email", "Email is invalid"⟩
  else if password ≠ confirmPassword then
    .error ⟨"local_auth_password_confirm_mismatch", "Password confirmation does not match"⟩
  else .ok ⟨email, username, displayName, password, confirmPassword⟩

/-- `validateLoginLocalAuthDto` -/
def validateLoginLocalAuthDto (toLowerCase : JsString → JsString) (payload : LoginLocalAuthDto) :
    Except DtoRefusal LoginLocalAuthDto :=
  let email := normalizeEmail toLowerCase payload.email
  let password := payload.password
  if email = [] ∨ password = [] then
    .error ⟨"local_auth_invalid_payload", "Missing local login credentials"⟩
  else if !includesAt email then .error ⟨"local_auth_invalid_email", "Email is invalid"⟩
  else .ok ⟨email, password⟩

/-- What a registration that was let through looks like: the password is as it came, and neither it
    nor the address is empty. -/
theorem validateRegisterLocalAuthDto_ok {toLowerCase : JsString → JsString}
    {payload value : RegisterLocalAuthDto}
    (h : validateRegisterLocalAuthDto toLowerCase payload = .ok value) :
    value.password = payload.password ∧ value.email ≠ [] ∧ value.password ≠ [] := by
  simp only [validateRegisterLocalAuthDto] at h
  split at h
  · cases h
  · rename_i hfilled
    split at h
    · cases h
    split at h
    · cases h
    · have hvalue := Except.ok.inj h
      simp only [not_or] at hfilled
      rw [← hvalue]
      exact ⟨rfl, hfilled.1, hfilled.2.2.2.1⟩

/-- What a login that was let through looks like, likewise. -/
theorem validateLoginLocalAuthDto_ok {toLowerCase : JsString → JsString}
    {payload value : LoginLocalAuthDto}
    (h : validateLoginLocalAuthDto toLowerCase payload = .ok value) :
    value.password = payload.password ∧ value.email ≠ [] ∧ value.password ≠ [] := by
  simp only [validateLoginLocalAuthDto] at h
  split at h
  · cases h
  · rename_i hfilled
    split at h
    · cases h
    · have hvalue := Except.ok.inj h
      simp only [not_or] at hfilled
      rw [← hvalue]
      exact ⟨rfl, hfilled.1, hfilled.2⟩

/-! ## The request -/

def requestAuthLogin : UInt32 := 1
def processSha1 : UInt32 := 2

/-- `buildSha1Request` with the message id from `nextId`. -/
def buildSha1Request (messageId : UInt32) (email password : JsString) : List UInt8 :=
  let buffer := List.replicate sizeofChatRequest 0
  let buffer := writeAt buffer 0 (le32 messageId)
  let buffer := writeAt buffer 4 (le32 requestAuthLogin)
  let buffer := writeAt buffer 8 (le32 processSha1)
  let buffer := writeCString buffer 12 chatMaxUsername email
  writeCString buffer (12 + chatMaxUsername + chatMaxUsername) chatMaxPassword password

/-- The buffer of a request has the size of the struct. -/
theorem length_buildSha1Request (messageId : UInt32) (email password : JsString) :
    (buildSha1Request messageId email password).length = sizeofChatRequest := by
  have hzero : (List.replicate sizeofChatRequest (0 : UInt8)).length = 1164 :=
    List.length_replicate
  have hid := length_writeAt_le32 0 (by rw [hzero]; decide) messageId
  rw [hzero] at hid
  have htype := length_writeAt_le32 4 (by rw [hid]; decide) requestAuthLogin
  rw [hid] at htype
  have hmode := length_writeAt_le32 8 (by rw [htype]; decide) processSha1
  rw [htype] at hmode
  have hemail := length_writeCString 12 32 (by decide) (by rw [hmode]; decide) email
  rw [hmode] at hemail
  have hpassword := length_writeCString (12 + 32 + 32) 64 (by decide) (by rw [hemail]; decide)
    password
  rw [hemail] at hpassword
  exact hpassword

/-! ## The exchange -/

namespace AuthProcessing

/-- The handlers of `exchange` on the events after `connect`, for the bytes that are still to come
    and those received. -/
def exchangeFrom : (incoming received : List UInt8) → List SocketEvent → Promise RemoteResponse
  | _, _, [] => .pending
  | incoming, received, .data count :: events =>
    let received := received ++ incoming.take count
    if received.length < sizeofChatResponse then exchangeFrom (incoming.drop count) received events
    else .resolved (parseResponse (received.take sizeofChatResponse))
  | _, _, .timeout :: _ =>
    rejectWith "LOCAL_AUTH_SHA1_TIMEOUT"
      "Hết thời gian chờ dịch vụ SHA1 cho local auth phản hồi"
  | _, _, .error :: _ =>
    rejectWith "LOCAL_AUTH_SHA1_CONNECTION_FAILED"
      "Không kết nối được tới dịch vụ SHA1 cho local auth"
  | _, _, .close :: _ =>
    rejectWith "LOCAL_AUTH_SHA1_IO_FAILED"
      "Kết nối tới dịch vụ SHA1 cho local auth bị đóng sớm"

/-- `exchange` with the daemon. -/
def exchange (io : ExchangeIo) (request : ChatRequest) : Promise RemoteResponse :=
  exchangeFrom (processorReply io.deviceIo io.driver request).2.toBytes [] io.events

/-- The two services resolve with the same answers; only their refusals differ. -/
theorem exchangeFrom_resolved_iff {incoming received : List UInt8} {events : List SocketEvent}
    {response : RemoteResponse} :
    exchangeFrom incoming received events = .resolved response ↔
      Backend.exchangeFrom incoming received events = .resolved response := by
  induction events generalizing incoming received with
  | nil => rfl
  | cons event events ih =>
    cases event with
    | data count =>
      simp only [exchangeFrom, Backend.exchangeFrom]
      split
      · exact ih
      · rfl
    | timeout => simp [exchangeFrom, Backend.exchangeFrom, rejectWith]
    | error => simp [exchangeFrom, Backend.exchangeFrom, rejectWith]
    | close => simp [exchangeFrom, Backend.exchangeFrom, rejectWith]

end AuthProcessing

/-- The service, `nextMessageId` being all its state. -/
structure AuthProcessingService where
  nextMessageId : Nat
deriving DecidableEq

/-- `hashPasswordWithSha1` -/
def hashPasswordWithSha1 (env : BackendEnv) (io : ExchangeIo) (service : AuthProcessingService)
    (email password : JsString) : AuthProcessingService × Promise JsString :=
  if env.processorRemoteHost = [] then
    (service, rejectWith "LOCAL_AUTH_SHA1_CONFIG_MISSING"
      "Thiếu cấu hình host của remote processor dùng chung")
  else
    let messageId := service.nextMessageId
    let service : AuthProcessingService := ⟨service.nextMessageId + 1⟩
    if messageId < 2 ^ 32 then
      let request := buildSha1Request (UInt32.ofNat messageId) email password
      (service, (AuthProcessing.exchange io
          (.ofBytes request (length_buildSha1Request _ _ _))).andThen fun response =>
        if response.status ≠ statusOk then
          .rejected (.chat "LOCAL_AUTH_SHA1_UNAVAILABLE"
            (js "Không thể xử lý SHA1 cho local auth: " ++
              if response.payload = [] then js "processor-error" else response.payload))
        else .resolved response.payload)
    else (service, .rejected .outOfRange)

end ChatSC.Backend
