import ChatSC.Backend.ChatEncryption
import ChatSC.Spec.Processing

/-!
# The buffers of the backend and the structs of the daemon

What the backend writes into its 1164 bytes is a `chat_request_t`, and what it reads from 588 bytes
are the fields of a `chat_response_t`.  From there the chain backend - daemon - driver is computed:
`processRemote` resolves exactly with the transformed string that the driver leaves.
-/

namespace ChatSC.Spec

open Backend Buffer JsString Native

/-! ## Requests -/

/-- The struct in the buffer of a request. -/
def wireRequest (messageId mode : UInt32) (content : JsString) (context : EncryptionContext) :
    ChatRequest where
  messageId := messageId
  requestType := RequestType.chatMessage.code
  mode := mode
  username := .padded _ (toUtf8 context.senderId)
  peerUsername := .padded _ (toUtf8 context.conversationId)
  authPayload := .zero _
  payload := .padded _ (toUtf8 content)
  plaintextPayload := .zero _

/-- A string that is written behind the first part of the buffer. -/
theorem writeCString_append {a : List UInt8} {offset : Nat} (h : a.length ≤ offset)
    (rest : List UInt8) (size : Nat) (value : JsString) :
    writeCString (a ++ rest) offset size value =
      a ++ writeCString rest (offset - a.length) size value := by
  simp only [writeCString]
  rw [writeAt_append_of_le h, writeAt_append_of_le (by omega), Nat.sub_add_comm h]

/-- A string that is written into a zeroed field. -/
theorem writeCString_zero {size : Nat} (hsize : 0 < size) (rest : List UInt8) (value : JsString) :
    writeCString (List.replicate size 0 ++ rest) 0 size value =
      (CharArray.padded size (toUtf8 value)).bytes ++ rest := by
  have hlen : ((toUtf8 value).take (size - 1)).length ≤ size - 1 := List.length_take_le _ _
  simp only [writeCString, CharArray.padded]
  generalize (toUtf8 value).take (size - 1) = encoded at hlen ⊢
  -- the field is what the string covers, its NUL and the zeros behind
  have hfield : List.replicate size (0 : UInt8) =
      List.replicate encoded.length 0 ++
        ([0] ++ List.replicate (size - encoded.length - 1) 0) := by
    rw [List.singleton_append, ← List.replicate_succ, List.replicate_append_replicate]
    congr 1
    omega
  have hpad : List.replicate (size - encoded.length) (0 : UInt8) =
      [0] ++ List.replicate (size - encoded.length - 1) 0 := by
    rw [List.singleton_append, ← List.replicate_succ]
    congr 1
    omega
  rw [hfield, hpad, List.append_assoc, writeAt_append_left List.length_replicate, Nat.zero_add,
    writeAt_append_of_le (Nat.le_refl _), Nat.sub_self, List.append_assoc,
    writeAt_append_left rfl, List.append_assoc, List.append_assoc]

/-- The zeroed buffer of a request, cut into its fields. -/
theorem zeroed_fields :
    List.replicate sizeofChatRequest (0 : UInt8) =
      List.replicate 4 0 ++ (List.replicate 4 0 ++ (List.replicate 4 0 ++
        (List.replicate 32 0 ++ (List.replicate 32 0 ++ (List.replicate 64 0 ++
          (List.replicate 512 0 ++ List.replicate 512 0)))))) := by
  simp only [List.replicate_append_replicate]
  rfl

/-- The buffer of a request is the struct. -/
theorem buildRequest_eq (messageId mode : UInt32) (content : JsString)
    (context : EncryptionContext) :
    buildRequest messageId mode content context =
      (wireRequest messageId mode content context).toBytes := by
  have huser : (CharArray.padded 32 (toUtf8 context.senderId)).bytes.length = 32 :=
    CharArray.size_eq _
  have hpeer : (CharArray.padded 32 (toUtf8 context.conversationId)).bytes.length = 32 :=
    CharArray.size_eq _
  have htype : requestChatMessage = RequestType.chatMessage.code := rfl
  simp only [buildRequest, zeroed_fields, wireRequest, ChatRequest.toBytes, chatMaxUsername,
    chatMaxPassword, chatMaxMessage, Nat.reduceAdd]
  simp only [writeAt_append_of_le, writeAt_append_left, writeCString_append, writeCString_zero,
    List.length_replicate, length_le32, huser, hpeer, htype, Nat.reduceLeDiff, Nat.reduceSub,
    Nat.le_refl, Nat.sub_self, Nat.reduceLT, CharArray.bytes_zero]

/-- The daemon reads the struct. -/
theorem ofBytes_buildRequest (messageId mode : UInt32) (content : JsString)
    (context : EncryptionContext)
    (h : (buildRequest messageId mode content context).length = sizeofChatRequest) :
    ChatRequest.ofBytes (buildRequest messageId mode content context) h =
      wireRequest messageId mode content context := by
  simp only [buildRequest_eq, ChatRequest.ofBytes_toBytes]

/-! ## Responses -/

/-- The bytes before the first NUL. -/
theorem take_idxOf?_eq_cstr (bytes : List UInt8) :
    (match bytes.idxOf? 0 with
      | some stop => bytes.take stop
      | none => bytes) = cstr bytes := by
  induction bytes with
  | nil => rfl
  | cons b bytes ih =>
    by_cases hb : b = 0
    · subst hb
      simp [List.idxOf?_cons]
    · rw [List.idxOf?_cons, if_neg (by simpa using hb), CString.cstr_cons_of_ne hb, ← ih]
      cases bytes.idxOf? 0 <;> rfl

/-- The string that is read from a field. -/
theorem readCString_eq {buffer bytes : List UInt8} {offset size : Nat}
    (h : slice buffer offset size = bytes) (hsize : bytes.length = size) :
    readCString buffer offset size = ofUtf8 (cstr bytes) := by
  rw [← take_idxOf?_eq_cstr bytes]
  simp only [readCString, h]
  cases bytes.idxOf? 0 with
  | some stop => rfl
  | none => rw [List.take_of_length_le (Nat.le_of_eq hsize)]

/-- What the backend reads from the bytes of a response. -/
theorem parseResponse_toBytes (r : ChatResponse) :
    parseResponse r.toBytes =
      ⟨r.messageId, if r.responseType = 0 then responseAck else r.responseType, r.status,
        ofUtf8 (cstr r.payload.bytes)⟩ := by
  -- the three fields of text have fixed sizes, which gives the offsets of all others
  have hfrom : r.fromUsername.bytes.length = 32 := r.fromUsername.size_eq
  have hpeer : r.peerUsername.bytes.length = 32 := r.peerUsername.size_eq
  have hpayload : r.payload.bytes.length = 512 := r.payload.size_eq
  -- the payload begins where the two names end
  have hslice : slice r.toBytes 76 chatMaxResult = r.payload.bytes := by
    simp [ChatResponse.toBytes, slice_append_of_le, hfrom, hpeer, slice_all hpayload]
  have hpayloadStr := readCString_eq hslice hpayload
  have hid : slice r.toBytes 0 4 = le32 r.messageId := slice_append_left (length_le32 _) _
  have htype : slice r.toBytes 4 4 = le32 r.responseType := by
    simp [ChatResponse.toBytes, slice_append_of_le, slice_append_left]
  have hstatus : slice r.toBytes 8 4 = le32 r.status.toUInt32 := by
    simp [ChatResponse.toBytes, slice_append_of_le, slice_append_left]
  simp only [parseResponse, hpayloadStr, hid, htype, hstatus, readLe32_le32]
  rfl

/-- An exchange resolves only when the whole answer has come, in whatever pieces. -/
theorem exchangeFrom_resolved {incoming received : List UInt8} {events : List SocketEvent}
    {response : RemoteResponse}
    (h : exchangeFrom incoming received events = .resolved response) :
    response = parseResponse ((received ++ incoming).take sizeofChatResponse) := by
  induction events generalizing incoming received with
  | nil => cases h
  | cons event events ih =>
    cases event with
    | data count =>
      simp only [exchangeFrom] at h
      split at h
      · rw [ih h, List.append_assoc, List.take_append_drop]
      · rename_i hlen
        -- what has not come yet is cut off
        have hall : received ++ incoming =
            (received ++ incoming.take count) ++ incoming.drop count := by
          rw [List.append_assoc, List.take_append_drop]
        rw [hall, List.take_append_of_le_length (Nat.not_lt.mp hlen)]
        exact (Promise.resolved.inj h).symm
    | timeout => cases h
    | error => cases h
    | close => cases h

/-- An exchange that resolves brings the daemon's answer. -/
theorem exchange_resolved {io : ExchangeIo} {request : ChatRequest} {response : RemoteResponse}
    (h : exchange io request = .resolved response) :
    response = parseResponse (processorReply io.deviceIo io.driver request).2.toBytes := by
  rw [exchangeFrom_resolved h, List.nil_append,
    List.take_of_length_le (Nat.le_of_eq (ChatResponse.length_toBytes _))]

/-- An exchange with one event that brings everything. -/
theorem exchange_data {io : ExchangeIo} (hevents : io.events = [.data sizeofChatResponse])
    (request : ChatRequest) :
    exchange io request =
      .resolved (parseResponse (processorReply io.deviceIo io.driver request).2.toBytes) := by
  have htake : (processorReply io.deviceIo io.driver request).2.toBytes.take sizeofChatResponse =
      (processorReply io.deviceIo io.driver request).2.toBytes :=
    List.take_of_length_le (Nat.le_of_eq (ChatResponse.length_toBytes _))
  rw [exchange, hevents, exchangeFrom, List.nil_append, htake,
    if_neg (by rw [ChatResponse.length_toBytes]; exact Nat.lt_irrefl _), htake]

/-! ## The daemon's answer -/

/-- Every refusal of the daemon's check has the status of an invalid request. -/
theorem status_of_validate {request : ChatRequest} {response : ChatResponse}
    (h : processorValidateRequest request = some response) :
    response.status = ResponseStatus.invalidRequest.code := by
  -- every refusal has the same status
  have hinvalid : ∀ payload, some (invalidResponse request.messageId payload) = some response →
      response.status = ResponseStatus.invalidRequest.code := by
    intro payload heq
    rw [← Option.some.inj heq]
    rfl
  unfold processorValidateRequest at h
  simp only at h
  split at h
  · exact hinvalid _ h
  split at h
  · cases h
  split at h
  · cases h
  split at h
  · cases h
  split at h
  · cases h
  split at h
  · exact hinvalid _ h
  split at h
  · exact hinvalid _ h
  split at h
  · exact hinvalid _ h
  · exact hinvalid _ h

/-- The daemon passes a message on exactly when it has a peer and a text. -/
theorem validate_message_iff {request : ChatRequest} {mode : ProcessingMode}
    (hmode : request.mode = mode.code)
    (htype : request.requestType = RequestType.chatMessage.code) :
    processorValidateRequest request = none ↔
      request.peerUsername.first ≠ 0 ∧ request.payload.first ≠ 0 := by
  have hsupported : isSupportedMode request.mode = true := by
    rw [hmode]
    cases mode <;> rfl
  by_cases hpeer : request.peerUsername.first = 0
  · simp [processorValidateRequest, hsupported, htype, hpeer, RequestType.code]
  · by_cases hpayload : request.payload.first = 0
    · simp [processorValidateRequest, hsupported, htype, hpeer, hpayload, RequestType.code]
    · simp [processorValidateRequest, hsupported, htype, hpeer, hpayload, RequestType.code]

/-- An answer with status OK is the response of the driver, to a request that has passed the
    daemon's check. -/
theorem processorReply_ok {io : DeviceIo} {driver : DriverState} {request : ChatRequest}
    (h : (processorReply io driver request).2.status = statusOk) :
    processorValidateRequest request = none ∧
      (processorReply io driver request).2 = driverResponse ⟨request, io.after⟩ := by
  -- the daemon refuses, or it asks the device
  cases hvalid : processorValidateRequest request with
  | some response =>
    have hrefused : (processorReply io driver request).2 = response := by
      rw [processorReply, hvalid]
    rw [hrefused, status_of_validate hvalid] at h
    exact absurd h (by decide)
  | none =>
    refine ⟨rfl, ?_⟩
    by_cases hresult : (deviceProcessMessage io driver request).2.1 = 0
    · rw [processorReply_eq (succeeds_of_result hresult) driver hvalid]
    · -- a device call that fails ends in the status of a driver error
      have hfailed : (processorReply io driver request).2 =
          deviceFailed request (deviceProcessMessage io driver request).2.2 := by
        simp only [processorReply, hvalid, if_pos hresult]
      rw [hfailed] at h
      exact absurd h (by decide : ResponseStatus.driverError.code ≠ statusOk)

/-! ## Remote processing -/

/-- The table that a mode applies. -/
def modeMap : ProcessingMode → UInt8 → UInt8
  | .substitution => mapForward
  | .substitutionDecrypt => mapReverse
  | .sha1 => id

/-- The string that the driver leaves for a message of the backend. -/
theorem cstr_payload_wireRequest {mode : ProcessingMode} (hmode : mode ≠ .sha1)
    (messageId : UInt32) (content : JsString) (context : EncryptionContext) (after : List UInt8) :
    cstr (driverResponse ⟨wireRequest messageId mode.code content context, after⟩).payload.bytes =
      (cstr ((toUtf8 content).take 511)).map (modeMap mode) := by
  -- the field holds the content up to its first NUL, cut to the size of the field
  have hpayload : RequestPtr.payloadStr ⟨wireRequest messageId mode.code content context, after⟩ =
      cstr ((toUtf8 content).take 511) := by
    rw [RequestPtr.payloadStr_of_mem (CharArray.zero_mem_padded (by decide) _), CString.cstr_take]
    exact CharArray.cstr_padded (by decide) _
  -- the cut of the driver is the same once more
  have hshort : (cstr ((toUtf8 content).take 511)).take 511 = cstr ((toUtf8 content).take 511) := by
    rw [← CString.cstr_take, List.take_take, Nat.min_self]
  cases mode with
  | substitution =>
    have h := (@payload_substitution
      ⟨wireRequest messageId ProcessingMode.substitution.code content context, after⟩ rfl).2
    rwa [hpayload, hshort] at h
  | substitutionDecrypt =>
    have h := (@payload_substitutionDecrypt
      ⟨wireRequest messageId ProcessingMode.substitutionDecrypt.code content context, after⟩ rfl).2
    rwa [hpayload, hshort] at h
  | sha1 => exact absurd rfl hmode

/-- What `processRemote` resolves with, when it resolves. -/
theorem processRemote_resolved {env : BackendEnv} {io : ExchangeIo}
    {service : ChatEncryptionService} (mode : ProcessingMode) (hmode : mode ≠ .sha1)
    {content payload : JsString} {context : EncryptionContext}
    {failureCode failureMessage : String}
    (h : (processRemote env io service mode.code content context failureCode failureMessage).2 =
      .resolved payload) :
    payload = ofUtf8 ((cstr ((toUtf8 content).take 511)).map (modeMap mode)) ∧
      (toUtf8 content).head?.getD 0 ≠ 0 := by
  simp only [processRemote] at h
  split at h
  · cases h
  split at h
  · cases h
  split at h
  · simp only [ofBytes_buildRequest] at h
    cases hex : exchange io (wireRequest (UInt32.ofNat service.nextMessageId) mode.code content
        context) with
    | pending => exact nomatch hex ▸ h
    | rejected error => exact nomatch hex ▸ h
    | resolved response =>
      rw [hex, Promise.andThen] at h
      split at h
      · cases h
      · rename_i hstatus
        have hresponse := exchange_resolved hex
        rw [parseResponse_toBytes] at hresponse
        rw [hresponse] at hstatus h
        -- an OK means that the daemon has validated the request
        obtain ⟨hvalid, hreply⟩ := processorReply_ok (Decidable.not_not.mp hstatus)
        have hpayload := Promise.resolved.inj h
        rw [hreply, cstr_payload_wireRequest hmode] at hpayload
        have hfirst := ((validate_message_iff rfl rfl).mp hvalid).2
        rw [wireRequest, CharArray.first_padded (by decide)] at hfirst
        exact ⟨hpayload.symm, hfirst⟩
  · cases h

/-- `processRemote` resolves for every text whose first byte is not a NUL, when nothing fails. -/
theorem processRemote_resolves {env : BackendEnv} (hhost : env.processorRemoteHost ≠ [])
    (hport : 0 < env.processorRemotePort) (io : ExchangeIo)
    (hevents : io.events = [.data sizeofChatResponse]) (hio : io.deviceIo.Succeeds)
    (service : ChatEncryptionService) (hid : service.nextMessageId < 2 ^ 32)
    (mode : ProcessingMode) (hmode : mode ≠ .sha1) {content : JsString}
    (context : EncryptionContext) (hpeer : (toUtf8 context.conversationId).head?.getD 0 ≠ 0)
    (hcontent : (toUtf8 content).head?.getD 0 ≠ 0) (failureCode failureMessage : String) :
    (processRemote env io service mode.code content context failureCode failureMessage).2 =
      .resolved (ofUtf8 ((cstr ((toUtf8 content).take 511)).map (modeMap mode))) := by
  -- neither the name nor the text starts with a NUL, so the daemon lets the request pass
  have hvalid : processorValidateRequest (wireRequest (UInt32.ofNat service.nextMessageId)
      mode.code content context) = none := by
    rw [validate_message_iff rfl rfl, wireRequest, CharArray.first_padded (by decide),
      CharArray.first_padded (by decide)]
    exact ⟨hpeer, hcontent⟩
  -- the driver answers with the status of its mode
  have hstatus : (driverResponse ⟨wireRequest (UInt32.ofNat service.nextMessageId) mode.code
      content context, io.deviceIo.after⟩).status = statusOk := status_of_mode rfl
  simp only [processRemote, if_neg hhost, if_neg (Int.not_le.mpr hport), if_pos hid,
    ofBytes_buildRequest, exchange_data hevents, Promise.andThen, parseResponse_toBytes,
    processorReply_eq hio io.driver hvalid, hstatus, cstr_payload_wireRequest hmode]
  rfl

end ChatSC.Spec
