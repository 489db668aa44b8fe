import ChatSC.Native.Client
import ChatSC.Spec.Substitution

/-!
# Processing a message

What a caller of the processing backend gets when its system calls succeed: the response that the
driver computes from the request, with the local device as with a remote daemon, since every
request that `format_device_request` builds passes `processor_validate_request`.
-/

namespace ChatSC.Spec

open Native

/-! ## The driver -/

/-- The payload of a substitution is the transformed payload of the request, as far as it fits. -/
theorem payload_substitution {request : RequestPtr}
    (hmode : request.mode = ProcessingMode.substitution.code) :
    0 ∈ (processPayload request).1.bytes ∧
      cstr (processPayload request).1.bytes = (request.payloadStr.take 511).map mapForward := by
  have hsha1 : ¬ request.mode = ProcessingMode.sha1.code := by rw [hmode]; decide
  simp only [processPayload, if_neg hsha1, if_pos hmode]
  exact ⟨zero_mem_transformLoop _ (by decide) _ _,
    cstr_transformLoop mapForward_eq_zero (by decide) _ _⟩

/-- The payload of a reverse substitution, likewise. -/
theorem payload_substitutionDecrypt {request : RequestPtr}
    (hmode : request.mode = ProcessingMode.substitutionDecrypt.code) :
    0 ∈ (processPayload request).1.bytes ∧
      cstr (processPayload request).1.bytes = (request.payloadStr.take 511).map mapReverse := by
  have hsha1 : ¬ request.mode = ProcessingMode.sha1.code := by rw [hmode]; decide
  have hsubst : ¬ request.mode = ProcessingMode.substitution.code := by rw [hmode]; decide
  simp only [processPayload, if_neg hsha1, if_neg hsubst, if_pos hmode]
  exact ⟨zero_mem_transformLoop _ (by decide) _ _,
    cstr_transformLoop mapReverse_eq_zero (by decide) _ _⟩

/-- The driver processes every mode of the protocol. -/
theorem status_of_mode {request : RequestPtr} {mode : ProcessingMode}
    (hmode : request.mode = mode.code) :
    (driverResponse request).status = ResponseStatus.ok.code := by
  simp only [driverResponse, processPayload, hmode]
  cases mode <;> rfl

/-! ## One call -/

/-- A call that is not disturbed returns the response that the driver computes. -/
theorem deviceProcessMessage_eq {io : DeviceIo} (hio : io.Succeeds) (driver : DriverState)
    (request : ChatRequest) :
    deviceProcessMessage io driver request =
      (⟨request, driverResponse ⟨request, io.after⟩⟩, 0, driverResponse ⟨request, io.after⟩) := by
  obtain ⟨hopened, hwrite, hread⟩ := hio
  simp [deviceProcessMessage, chatWrite, chatRead, hopened, hwrite, hread]

/-- A call returns 0 only when its system calls have succeeded. -/
theorem succeeds_of_result {io : DeviceIo} {driver : DriverState} {request : ChatRequest}
    (h : (deviceProcessMessage io driver request).2.1 = 0) : io.Succeeds := by
  have hopened : io.opened = true := by
    cases hclosed : io.opened with
    | false => simp [deviceProcessMessage, hclosed] at h
    | true => rfl
  have hwrite : io.writeFault = none := by
    cases hfault : io.writeFault with
    | none => rfl
    | some left => simp [deviceProcessMessage, hopened, chatWrite, hfault] at h
  have hread : io.readFault = none := by
    cases hfault : io.readFault with
    | none => rfl
    | some left => simp [deviceProcessMessage, hopened, chatWrite, chatRead, hwrite, hfault] at h
  exact ⟨hopened, hwrite, hread⟩

/-! ## The daemon -/

/-- What `format_device_request` builds, and what it has checked. -/
theorem formatDeviceRequest_eq_some {messageId : UInt32} {requestType : RequestType}
    {mode : ProcessingMode} {username peerUsername authPayload payload plaintextPayload :
      Option (List UInt8)} {request : ChatRequest}
    (h : formatDeviceRequest messageId requestType mode username peerUsername authPayload payload
      plaintextPayload = some request) :
    request = ⟨messageId, requestType.code, mode.code, copyField _ username,
        copyField _ peerUsername, copyField _ authPayload, copyField _ payload,
        copyField _ plaintextPayload⟩ ∧
      (requestType = .authLogin ∨ requestType = .authRegister →
        request.username.first ≠ 0 ∧ request.authPayload.first ≠ 0) ∧
      (requestType = .chatSelectPeer → request.peerUsername.first ≠ 0) ∧
      (requestType = .chatMessage →
        request.peerUsername.first ≠ 0 ∧ request.payload.first ≠ 0) := by
  -- the three checks of the source, one after another
  simp only [formatDeviceRequest] at h
  split at h
  · cases h
  · rename_i hauth
    split at h
    · cases h
    · rename_i hselect
      split at h
      · cases h
      · rename_i hmessage
        cases h
        refine ⟨rfl, fun ht => ?_, fun ht h0 => hselect ⟨ht, h0⟩, fun ht => ?_⟩
        · exact ⟨fun h0 => hauth ⟨ht, .inl h0⟩, fun h0 => hauth ⟨ht, .inr h0⟩⟩
        · exact ⟨fun h0 => hmessage ⟨ht, .inl h0⟩, fun h0 => hmessage ⟨ht, .inr h0⟩⟩

/-- Every request that `format_device_request` builds passes the daemon's check. -/
theorem validate_of_format {messageId : UInt32} {requestType : RequestType}
    {mode : ProcessingMode} {username peerUsername authPayload payload plaintextPayload :
      Option (List UInt8)} {request : ChatRequest}
    (h : formatDeviceRequest messageId requestType mode username peerUsername authPayload payload
      plaintextPayload = some request) : processorValidateRequest request = none := by
  obtain ⟨hrequest, hauth, hselect, hmessage⟩ := formatDeviceRequest_eq_some h
  have htype : request.requestType = requestType.code := by rw [hrequest]
  have hmode : isSupportedMode request.mode = true := by
    have : request.mode = mode.code := by rw [hrequest]
    rw [this]
    cases mode <;> rfl
  unfold processorValidateRequest
  cases requestType with
  | authLogin =>
    obtain ⟨huser, hpass⟩ := hauth (.inl rfl)
    simp [hmode, htype, huser, hpass]
  | authRegister =>
    obtain ⟨huser, hpass⟩ := hauth (.inr rfl)
    simp [hmode, htype, huser, hpass]
  | chatSelectPeer =>
    have hpeer := hselect rfl
    simp [hmode, htype, hpeer, RequestType.code]
  | chatMessage =>
    obtain ⟨hpeer, hpayload⟩ := hmessage rfl
    simp [hmode, htype, hpeer, hpayload, RequestType.code]
  | logout => simp [hmode, htype, RequestType.code]

/-- The daemon answers a request that passes its check with the response of its driver. -/
theorem processorReply_eq {io : DeviceIo} (hio : io.Succeeds) (driver : DriverState)
    {request : ChatRequest} (hvalid : processorValidateRequest request = none) :
    processorReply io driver request =
      (⟨request, driverResponse ⟨request, io.after⟩⟩, driverResponse ⟨request, io.after⟩) := by
  simp [processorReply, hvalid, deviceProcessMessage_eq hio]

/-! ## The backends -/

/-- Both backends return the response that the driver computes, for every request that passes the
    daemon's check. -/
theorem processingClientProcess_eq {b : Backend} (hb : b.Succeeds) {request : ChatRequest}
    (hvalid : processorValidateRequest request = none) :
    processingClientProcess b.backend b.io b.deviceIo b.driver request =
      (⟨request, driverResponse ⟨request, b.deviceIo.after⟩⟩, 0,
        driverResponse ⟨request, b.deviceIo.after⟩) := by
  obtain ⟨hconnected, hwritten, hread, hio⟩ := hb
  cases hbackend : b.backend with
  | remote =>
    simp [processingClientProcess, remoteProcessMessage, hconnected, hwritten, hread,
      processorReply_eq hio b.driver hvalid]
  | «local» => exact deviceProcessMessage_eq hio b.driver request

end ChatSC.Spec
