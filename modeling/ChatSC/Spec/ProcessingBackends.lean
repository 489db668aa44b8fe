import ChatSC.Spec.DriverReads
import ChatSC.Spec.Processing

/-!
# The local and the remote backend

`format_device_request` ends every field with a NUL, so the driver reads nothing behind the request:
its response is the same in the memory of every device.  What is formatted passes the daemon's check
too, and a daemon whose device answers rewrites nothing.
-/

namespace ChatSC.Spec

open Native

/-- A field that `format_device_request` fills ends inside. -/
theorem zero_mem_copyField {n : Nat} (hn : 0 < n) (s : Option (List UInt8)) :
    0 ∈ (copyField n s).bytes := by
  cases s with
  | some s => exact CharArray.zero_mem_ofStr hn s
  | none => exact List.mem_replicate.mpr ⟨Nat.ne_of_gt hn, rfl⟩

section Format

variable {messageId : UInt32} {requestType : RequestType} {mode : ProcessingMode}
  {username peerUsername authPayload payload plaintextPayload : Option (List UInt8)}
  {request : ChatRequest}

/-- The strings of a formatted request end where they should. -/
theorem fieldsTerminated_of_format
    (h : formatDeviceRequest messageId requestType mode username peerUsername authPayload payload
      plaintextPayload = some request) : FieldsTerminated request := by
  obtain ⟨rfl, -⟩ := formatDeviceRequest_eq_some h
  refine ⟨List.mem_append_left _ (zero_mem_copyField (by decide) _), fun _ => .inl ?_⟩
  unfold sha1Field
  split
  · exact zero_mem_copyField (by decide) _
  · exact zero_mem_copyField (by decide) _

/-- The response to a formatted request does not depend on the memory behind it. -/
theorem driverResponse_of_format
    (h : formatDeviceRequest messageId requestType mode username peerUsername authPayload payload
      plaintextPayload = some request) (after after' : List UInt8) :
    driverResponse ⟨request, after⟩ = driverResponse ⟨request, after'⟩ := by
  have hconfined := (confined_iff (validate_of_format h)).mpr (fieldsTerminated_of_format h)
  obtain ⟨⟨username, peerUsername, payload⟩, hread⟩ := Option.isSome_iff_exists.mp hconfined.inside
  obtain ⟨huser, hpeer, hpayload⟩ := driverResponse_of_read hread after
  obtain ⟨huser', hpeer', hpayload'⟩ := driverResponse_of_read hread after'
  have hmode : request.mode = mode.code := by
    obtain ⟨rfl, -⟩ := formatDeviceRequest_eq_some h
    rfl
  have hstatus (after : List UInt8) : (driverResponse ⟨request, after⟩).status =
      ResponseStatus.ok.code := status_of_mode hmode
  -- field by field; the message id is copied, and the type of a response is fixed
  rw [driverResponse, driverResponse, ChatResponse.mk.injEq]
  exact ⟨rfl, rfl, (hstatus after).trans (hstatus after').symm, huser.trans huser'.symm,
    hpeer.trans hpeer'.symm, CharArray.ext (hpayload.trans hpayload'.symm)⟩

/-- **Both backends process a message alike**: what `format_device_request` accepts passes the daemon's
    check, and the local backend and the remote one return 0 with the same response, whatever device
    each of them uses. -/
theorem local_eq_remote
    (h : formatDeviceRequest messageId requestType mode username peerUsername authPayload payload
      plaintextPayload = some request) :
    processorValidateRequest request = none ∧
      ∀ (io remoteIo : RemoteIo) (deviceIo daemonIo : DeviceIo) (driver daemonDriver : DriverState),
        deviceIo.Succeeds →
        remoteIo.connected = true ∧ remoteIo.written = true ∧ remoteIo.readFault = none →
        daemonIo.Succeeds →
        (processingClientProcess .local io deviceIo driver request).2 =
            (processingClientProcess .remote remoteIo daemonIo daemonDriver request).2 ∧
          (processingClientProcess .local io deviceIo driver request).2.1 = 0 := by
  have hvalid := validate_of_format h
  refine ⟨hvalid, fun io remoteIo deviceIo daemonIo driver daemonDriver hdevice hremote hdaemon => ?_⟩
  have hlocal : processingClientProcess .local io deviceIo driver request =
      (⟨request, driverResponse ⟨request, deviceIo.after⟩⟩, 0,
        driverResponse ⟨request, deviceIo.after⟩) := deviceProcessMessage_eq hdevice driver request
  -- the daemon checks the request again, and forwards what its device answers
  have hdaemonReply := @processingClientProcess_eq ⟨.remote, remoteIo, daemonIo, daemonDriver⟩
    ⟨hremote.1, hremote.2.1, hremote.2.2, hdaemon⟩ request hvalid
  rw [hlocal, hdaemonReply, driverResponse_of_format h deviceIo.after daemonIo.after]
  exact ⟨rfl, rfl⟩

end Format

/-- `local_eq_remote` for a message whose payload is too long for its field, with the daemon on a
    device that holds something else. -/
theorem local_eq_remote_longMessage :
    ∃ request, formatDeviceRequest 7 .chatMessage .substitution (some (ascii "ann"))
        (some (ascii "bob")) none (some (List.replicate 600 97)) none = some request ∧
      (processingClientProcess .local ⟨false, false, none⟩ ⟨true, [1, 2], none, none⟩ .init
          request).2 =
        (processingClientProcess .remote ⟨true, true, none⟩ ⟨true, [3], none, none⟩
          ⟨request, .zero⟩ request).2 := by
  let request : ChatRequest := ⟨7, RequestType.chatMessage.code, ProcessingMode.substitution.code,
    copyField _ (some (ascii "ann")), copyField _ (some (ascii "bob")), copyField _ none,
    copyField _ (some (List.replicate 600 97)), copyField _ none⟩
  have hformat : formatDeviceRequest 7 .chatMessage .substitution (some (ascii "ann"))
      (some (ascii "bob")) none (some (List.replicate 600 97)) none = some request := by
    decide +kernel
  exact ⟨request, hformat, ((local_eq_remote hformat).2 _ _ _ _ _ _ ⟨rfl, rfl, rfl⟩ ⟨rfl, rfl, rfl⟩
    ⟨rfl, rfl, rfl⟩).1⟩

end ChatSC.Spec
