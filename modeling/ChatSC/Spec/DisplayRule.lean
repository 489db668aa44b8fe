import ChatSC.Backend.MessageHistory
import ChatSC.Spec.StoredMessages

/-!
# One display rule for two paths

`toRealtimeMessagePayload` shows a message to the sockets, `toDisplayMessage` shows it in a history.
They agree exactly when the message can be decrypted: on a failure the first one sends the stored
ciphertext where the second one has a placeholder.  The processor is any function from requests to
outcomes of an exchange, of which `exchange` with the daemon is one.
-/

namespace ChatSC.Spec

open Backend JsString Native

/-! ## Any processor -/

/-- The request for a stored message. -/
def decryptionRequest (service : ChatEncryptionService) (message : Message) : ChatRequest :=
  .ofBytes (buildRequest (UInt32.ofNat service.nextMessageId) processSubstitutionDecrypt
    message.content ⟨message.senderId.toString, message.conversationId.toString⟩)
    (length_buildRequest _ _ _ _)

/-- The error of a decryption that the processor refuses. -/
def decryptionError (payload : JsString) : ProcessingError :=
  .chat "REVERSE_DECRYPTION_UNAVAILABLE"
    (js "Không thể khôi phục nội dung tin nhắn để hiển thị" ++ js ": " ++
      if payload = [] then js "processor-error" else payload)

/-- `decryptForDisplay` of a stored message with a processor. -/
def decryptWith (env : BackendEnv) (processor : ChatRequest → Promise RemoteResponse)
    (service : ChatEncryptionService) (message : Message) : Promise DisplayContent :=
  if message.reverseEncryptionState ≠ .encrypted then .resolved ⟨message.content, none⟩
  else if env.processorRemoteHost = [] then
    rejectWith "REVERSE_ENCRYPTION_CONFIG_MISSING"
      "Thiếu cấu hình host của remote processor dùng chung"
  else if env.processorRemotePort ≤ 0 then
    rejectWith "REVERSE_ENCRYPTION_CONFIG_INVALID"
      "Cấu hình cổng remote processor dùng chung không hợp lệ"
  else if service.nextMessageId < 2 ^ 32 then
    (processor (decryptionRequest service message)).andThen fun response =>
      if response.status ≠ statusOk then .rejected (decryptionError response.payload)
      else .resolved ⟨response.payload, none⟩
  else .rejected .outOfRange

/-- `toRealtimeMessagePayload` behind `decryptForDisplay`. -/
def realtimeOf (presentation : SenderPresentation) (message : Message) :
    Promise DisplayContent → Option RealtimeMessagePayload
  | .pending => none
  | .resolved display =>
    some (realtimePayload message presentation display.content display.decodeErrorCode .ready)
  | .rejected error =>
    some (realtimePayload message presentation message.content (some error.code) .decodeFailed)

/-- `toDisplayMessage` behind `decryptForDisplay`. -/
def displayOf (presentation : SenderPresentation) (message : Message) :
    Promise DisplayContent → Option DisplayMessage
  | .pending => none
  | .resolved display =>
    some ⟨{ message with content := display.content, decodeErrorCode := display.decodeErrorCode },
      presentation, .ready⟩
  | .rejected error =>
    some ⟨{ message with content := unrecoverable, decodeErrorCode := some error.code },
      presentation, .decodeFailed⟩

variable {env : BackendEnv} {processor : ChatRequest → Promise RemoteResponse}
  {service : ChatEncryptionService} {presentation : SenderPresentation} {message : Message}

/-- The daemon is a processor. -/
theorem decryptForDisplay_eq (io : ExchangeIo) :
    (decryptForDisplay env io service message.content (some message.reverseEncryptionState)
      ⟨message.senderId.toString, message.conversationId.toString⟩).2 =
      decryptWith env (exchange io) service message := by
  unfold decryptForDisplay decryptWith processRemote
  simp only [ne_eq, Option.some.injEq]
  split
  · rfl
  split
  · rfl
  split
  · rfl
  split
  · show ((exchange io (decryptionRequest service message)).andThen _).andThen _ =
      (exchange io (decryptionRequest service message)).andThen _
    cases exchange io (decryptionRequest service message) with
    | pending => rfl
    | rejected error => rfl
    | resolved response =>
      by_cases hstatus : response.status = statusOk
      · simp [Promise.andThen, hstatus]
      · simp [Promise.andThen, hstatus, decryptionError]
  · rfl

theorem toRealtimeMessagePayload_eq (io : ExchangeIo) :
    toRealtimeMessagePayload env io service presentation message =
      realtimeOf presentation message (decryptWith env (exchange io) service message) := by
  rw [toRealtimeMessagePayload, decryptForDisplay_eq]
  cases decryptWith env (exchange io) service message <;> rfl

theorem toDisplayMessage_eq (io : ExchangeIo) :
    toDisplayMessage env io service presentation message =
      displayOf presentation message (decryptWith env (exchange io) service message) := by
  rw [toDisplayMessage, decryptForDisplay_eq]
  cases decryptWith env (exchange io) service message <;> rfl

/-! ## What the two paths show -/

/-- The two paths show the same of a message: both wait for the processor, or both have the same
    content, state and error code, and the stored text is not shown for what cannot be decrypted. -/
def SameDisplay (message : Message) : Option RealtimeMessagePayload → Option DisplayMessage → Prop
  | none, none => True
  | some payload, some display =>
    payload.content = display.message.content ∧ payload.displayState = display.displayState ∧
      payload.decodeErrorCode = display.message.decodeErrorCode ∧
      (payload.displayState = .decodeFailed → payload.content ≠ message.content)
  | _, _ => False

/-- The processor refuses a request: its exchange fails, or its answer has a bad status. -/
def Refused : Promise RemoteResponse → Prop
  | .pending => False
  | .rejected _ => True
  | .resolved response => response.status ≠ statusOk

/-- A message is stored encrypted and cannot be decrypted: the configuration is missing, the number
    of the request does not fit, or the processor refuses it. -/
def DecryptionFails (env : BackendEnv) (processor : ChatRequest → Promise RemoteResponse)
    (service : ChatEncryptionService) (message : Message) : Prop :=
  message.reverseEncryptionState = .encrypted ∧
    (env.processorRemoteHost = [] ∨ env.processorRemotePort ≤ 0 ∨
      2 ^ 32 ≤ service.nextMessageId ∨ Refused (processor (decryptionRequest service message)))

/-- The decryption rejects exactly when it fails. -/
theorem decryptWith_rejected_iff :
    (∃ error, decryptWith env processor service message = .rejected error) ↔
      DecryptionFails env processor service message := by
  unfold decryptWith DecryptionFails
  by_cases hstate : message.reverseEncryptionState = .encrypted
  case neg => simp [hstate]
  by_cases hhost : env.processorRemoteHost = []
  case pos => simp [hstate, hhost, rejectWith]
  by_cases hport : env.processorRemotePort ≤ 0
  case pos => simp [hstate, hhost, hport, rejectWith]
  by_cases hid : service.nextMessageId < 2 ^ 32
  case neg =>
    have hlarge : 2 ^ 32 ≤ service.nextMessageId := Nat.not_lt.mp hid
    rw [if_neg (not_not.mpr hstate), if_neg hhost, if_neg hport, if_neg hid]
    exact ⟨fun _ => ⟨hstate, .inr (.inr (.inl hlarge))⟩, fun _ => ⟨_, rfl⟩⟩
  have hsmall : ¬ 2 ^ 32 ≤ service.nextMessageId := Nat.not_le.mpr hid
  rw [if_neg (not_not.mpr hstate), if_neg hhost, if_neg hport, if_pos hid]
  simp only [hstate, hhost, hport, hsmall, true_and, false_or]
  -- what is left is the outcome of the exchange
  cases processor (decryptionRequest service message) with
  | pending => simp [Promise.andThen, Refused]
  | rejected error => simp [Promise.andThen, Refused]
  | resolved response =>
    by_cases hstatus : response.status = statusOk <;> simp [Promise.andThen, Refused, hstatus]

/-- The two paths agree exactly when the decryption does not reject. -/
theorem sameDisplay_of_promise (decrypted : Promise DisplayContent) :
    SameDisplay message (realtimeOf presentation message decrypted)
        (displayOf presentation message decrypted) ↔
      ¬ ∃ error, decrypted = .rejected error := by
  cases decrypted with
  | pending => simp [SameDisplay, realtimeOf, displayOf]
  | resolved display => simp [SameDisplay, realtimeOf, displayOf, realtimePayload]
  | rejected error => simp [SameDisplay, realtimeOf, displayOf, realtimePayload]

/-- **The two paths show the same exactly when the message can be decrypted**: with any processor,
    and with the daemon. -/
theorem sameDisplay_iff (env : BackendEnv) (service : ChatEncryptionService)
    (presentation : SenderPresentation) (message : Message) :
    (∀ processor, SameDisplay message
          (realtimeOf presentation message (decryptWith env processor service message))
          (displayOf presentation message (decryptWith env processor service message)) ↔
        ¬ DecryptionFails env processor service message) ∧
      (∀ io, SameDisplay message (toRealtimeMessagePayload env io service presentation message)
          (toDisplayMessage env io service presentation message) ↔
        ¬ DecryptionFails env (exchange io) service message) := by
  have hany : ∀ processor, SameDisplay message
        (realtimeOf presentation message (decryptWith env processor service message))
        (displayOf presentation message (decryptWith env processor service message)) ↔
      ¬ DecryptionFails env processor service message := by
    intro processor
    rw [sameDisplay_of_promise, decryptWith_rejected_iff]
  refine ⟨hany, fun io => ?_⟩
  rw [toRealtimeMessagePayload_eq, toDisplayMessage_eq]
  exact hany (exchange io)

/-- A stored message with the text `uryyb`. -/
def storedMessage : Message where
  id := zeroId
  conversationId := zeroId
  senderId := zeroId
  content := js "uryyb"
  reverseEncryptionState := .encrypted
  encryptedContentVersion := some "reverse-v1"
  sentAt := 0
  seenState := .sent
  decodeErrorCode := none
  isAIBotMessage := false
  isAICommand := false
  attachment := none

/-- The processor does not answer in time. -/
def timeoutIo : ExchangeIo := { quietIo with events := [.timeout] }

/-- After a timeout the ciphertext is sent to the sockets, and the history shows a placeholder. -/
theorem ciphertext_sent_on_timeout :
    ((toRealtimeMessagePayload encryptingEnv timeoutIo ⟨1⟩ ⟨none, none⟩ storedMessage).map
        RealtimeMessagePayload.content = some (js "uryyb") ∧
      (toDisplayMessage encryptingEnv timeoutIo ⟨1⟩ ⟨none, none⟩ storedMessage).map
        (fun display => display.message.content) = some unrecoverable) ∧
      ¬ SameDisplay storedMessage
        (toRealtimeMessagePayload encryptingEnv timeoutIo ⟨1⟩ ⟨none, none⟩ storedMessage)
        (toDisplayMessage encryptingEnv timeoutIo ⟨1⟩ ⟨none, none⟩ storedMessage) := by
  have hrejected : decryptWith encryptingEnv (exchange timeoutIo) ⟨1⟩ storedMessage =
      rejectWith "REVERSE_ENCRYPTION_TIMEOUT"
        "Hết thời gian chờ dịch vụ mã hoá ngược phản hồi" := rfl
  rw [toRealtimeMessagePayload_eq, toDisplayMessage_eq, sameDisplay_of_promise, hrejected]
  exact ⟨⟨rfl, rfl⟩, fun h => h ⟨_, rfl⟩⟩

end ChatSC.Spec
