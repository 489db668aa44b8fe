import ChatSC.Native.Driver

/-!
# Callers of the device (`app/client/device_client.c`)

`device_process_message` opens the device, writes the request, reads the response and closes.  Its
four system calls are the steps of `deviceStep`, a machine of one driver and any number of calls,
from any threads of any processes.  `deviceProcessMessage` is one call with nothing in between.
-/

namespace ChatSC.Native

/-- `snprintf` into a zeroed field unless the pointer is null. -/
def copyField (n : Nat) (s : Option (List UInt8)) : CharArray n :=
  match s with
  | some s => .ofStr n s
  | none => .zero n

/-- `format_device_request`; `none` arguments are null pointers, the result `none` is `-1`. -/
def formatDeviceRequest (messageId : UInt32) (requestType : RequestType) (mode : ProcessingMode)
    (username peerUsername authPayload payload plaintextPayload : Option (List UInt8)) :
    Option ChatRequest :=
  let request : ChatRequest :=
    { messageId := messageId
      requestType := requestType.code
      mode := mode.code
      username := copyField _ username
      peerUsername := copyField _ peerUsername
      authPayload := copyField _ authPayload
      payload := copyField _ payload
      plaintextPayload := copyField _ plaintextPayload }
  if (requestType = .authLogin ∨ requestType = .authRegister) ∧
      (request.username.first = 0 ∨ request.authPayload.first = 0) then none
  else if requestType = .chatSelectPeer ∧ request.peerUsername.first = 0 then none
  else if requestType = .chatMessage ∧
      (request.peerUsername.first = 0 ∨ request.payload.first = 0) then none
  else some request

/-! ## The four system calls -/

/-- Where a call of `device_process_message` stands. -/
inductive CallPc where
  /-- before `open` -/
  | opening
  /-- before `write`; every open file has an offset of its own -/
  | writing (offset : Nat)
  /-- before `read` -/
  | reading (offset : Nat)
  /-- before `close`, with the return value and `*response` -/
  | closing (result : Int) (response : ChatResponse)
  | returned (result : Int) (response : ChatResponse)
deriving DecidableEq

/-- A call of `device_process_message`. -/
structure DeviceCall where
  request : ChatRequest
  pc : CallPc
deriving DecidableEq

/-- `*response` as the call sets it up. -/
def DeviceCall.initResponse (call : DeviceCall) : ChatResponse :=
  { ChatResponse.zero with
    messageId := call.request.messageId
    responseType := ResponseType.ack.code }

/-- `response->status = STATUS_DRIVER_ERROR` -/
def driverError (response : ChatResponse) : ChatResponse :=
  { response with status := ResponseStatus.driverError.code }

/-- `open` -/
def callOpen (call : DeviceCall) (opened : Bool) : Option DeviceCall :=
  match call.pc with
  | .opening =>
    if opened then some { call with pc := .writing 0 }
    else some { call with pc := .returned (-1) (driverError call.initResponse) }
  | _ => none

/-- `write`; `after` is the memory behind the driver's request. -/
def callWrite (driver : DriverState) (call : DeviceCall) (after : List UInt8)
    (fault : Option ChatRequest) : Option (DriverState × DeviceCall) :=
  match call.pc with
  | .writing offset =>
    match chatWrite driver after call.request sizeofChatRequest fault with
    | (driver, .ok written) =>
      if written = sizeofChatRequest then some (driver, { call with pc := .reading offset })
      else some (driver, { call with pc := .closing (-1) (driverError call.initResponse) })
    | (driver, .error _) =>
      some (driver, { call with pc := .closing (-1) (driverError call.initResponse) })
  | _ => none

/-- `read`; `fault` is what a failing `copy_to_user` leaves in `*response`. -/
def callRead (driver : DriverState) (call : DeviceCall) (fault : Option ChatResponse) :
    Option DeviceCall :=
  match call.pc with
  | .reading offset =>
    match chatRead driver sizeofChatResponse offset fault.isSome with
    | .ok (some response, _) => some { call with pc := .closing 0 response }
    | .ok (none, _) =>
      some { call with pc := .closing (-1) (driverError call.initResponse) }
    | .error _ =>
      some { call with pc := .closing (-1) (driverError (fault.getD call.initResponse)) }
  | _ => none

/-- `close` -/
def callClose (call : DeviceCall) : Option DeviceCall :=
  match call.pc with
  | .closing result response => some { call with pc := .returned result response }
  | _ => none

/-! ## One device and its callers -/

/-- The driver and all the calls made so far. -/
structure DeviceSystem where
  driver : DriverState
  calls : List DeviceCall
deriving DecidableEq

/-- The device before anyone has called. -/
def DeviceSystem.init : DeviceSystem := ⟨.init, []⟩

/-- A new call, or the next system call of one that is under way. -/
inductive DeviceEvent where
  | call (request : ChatRequest)
  | open (call : Nat) (opened : Bool)
  | write (call : Nat) (after : List UInt8) (fault : Option ChatRequest)
  | read (call : Nat) (fault : Option ChatResponse)
  | close (call : Nat)

/-- Put the call back after its system call. -/
def DeviceSystem.setCall (system : DeviceSystem) (index : Nat) (call : DeviceCall) :
    DeviceSystem :=
  { system with calls := system.calls.set index call }

/-- One step of the system; `none` when the event cannot happen. -/
def deviceStep (system : DeviceSystem) : DeviceEvent → Option DeviceSystem
  | .call request => some { system with calls := system.calls ++ [⟨request, .opening⟩] }
  | .open index opened => do
    let call ← system.calls[index]?
    return system.setCall index (← callOpen call opened)
  | .write index after fault => do
    let call ← system.calls[index]?
    let (driver, call) ← callWrite system.driver call after fault
    return { system with driver := driver }.setCall index call
  | .read index fault => do
    let call ← system.calls[index]?
    return system.setCall index (← callRead system.driver call fault)
  | .close index => do
    let call ← system.calls[index]?
    return system.setCall index (← callClose call)

/-! ## A call that nobody disturbs -/

/-- The outcomes of the system calls of one `device_process_message`. -/
structure DeviceIo where
  opened : Bool
  after : List UInt8
  writeFault : Option ChatRequest
  readFault : Option ChatResponse

/-- All of them succeed. -/
def DeviceIo.Succeeds (io : DeviceIo) : Prop :=
  io.opened = true ∧ io.writeFault = none ∧ io.readFault = none

/-- `device_process_message` with no other use of the device in between: the driver, the return
    value and `*response`. -/
def deviceProcessMessage (io : DeviceIo) (driver : DriverState) (request : ChatRequest) :
    DriverState × Int × ChatResponse :=
  let call : DeviceCall := ⟨request, .opening⟩
  if !io.opened then (driver, -1, driverError call.initResponse)
  else
    match chatWrite driver io.after request sizeofChatRequest io.writeFault with
    | (driver, .error _) => (driver, -1, driverError call.initResponse)
    | (driver, .ok written) =>
      if written ≠ sizeofChatRequest then (driver, -1, driverError call.initResponse)
      else
        match chatRead driver sizeofChatResponse 0 io.readFault.isSome with
        | .error _ => (driver, -1, driverError (io.readFault.getD call.initResponse))
        | .ok (none, _) => (driver, -1, driverError call.initResponse)
        | .ok (some response, _) => (driver, 0, response)

end ChatSC.Native
