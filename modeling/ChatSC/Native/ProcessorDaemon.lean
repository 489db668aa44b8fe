import ChatSC.Native.Processor

/-!
# The processor daemon at work (`app/processor/processor_server.c`)

The daemon has a thread for each connection (`processor_client_main`).  A thread reads a request,
block by block of the stream that its client sends, answers it or has the device process it, and
writes the response back.  Every `read`, every `write` and every system call on the device is a step
of its own; the device is that of `deviceStep`, which other processes of the host use as well.

`processorReply` is the loop body with nothing in between.
-/

namespace ChatSC.Native

/-- Where `processor_client_main` stands. -/
inductive ProcessorPc where
  /-- in `read_full` -/
  | reading
  /-- in `device_process_message`, with the index of the call -/
  | processing (request : ChatRequest) (call : Nat)
  /-- in `write_full`, with the bytes that are left -/
  | writing (left : List UInt8)
  /-- behind `close` -/
  | ended
deriving DecidableEq

/-- A connection and its thread. -/
structure ProcessorConnection where
  /-- all that the client has sent -/
  sent : List UInt8
  /-- what no `read` has returned yet -/
  unread : List UInt8
  /-- the client has closed its end -/
  closed : Bool
  /-- what has been read -/
  received : List UInt8
  /-- what the `read_full` under way has put into its buffer -/
  filled : List UInt8
  /-- what has been written to the client -/
  written : List UInt8
  pc : ProcessorPc
deriving DecidableEq

/-- A connection that was accepted. -/
def ProcessorConnection.start : ProcessorConnection := ⟨[], [], false, [], [], [], .reading⟩

/-- The device and the connections of the daemon. -/
structure ProcessorDaemon where
  device : DeviceSystem
  connections : List ProcessorConnection
deriving DecidableEq

/-- The daemon when it starts, on a device that nobody has used. -/
def ProcessorDaemon.start : ProcessorDaemon := ⟨.init, []⟩

/-- A step of a client, of a thread of the daemon, or of the device. -/
inductive DaemonEvent where
  | accept
  | send (index : Nat) (bytes : List UInt8)
  | close (index : Nat)
  /-- a `read` of the thread returns a count -/
  | read (index : Nat) (count : Nat)
  /-- a `read` of the thread returns 0, or fails -/
  | readEnd (index : Nat) (failed : Bool)
  /-- a system call on the device, of the daemon or of another process -/
  | device (event : DeviceEvent)
  /-- the thread goes on behind `device_process_message` -/
  | processed (index : Nat)
  /-- a `write` of the thread returns a count -/
  | write (index : Nat) (count : Nat)
  /-- a `write` of the thread fails -/
  | writeFailed (index : Nat)

/-- Put the connection back after its step. -/
def ProcessorDaemon.setConnection (system : ProcessorDaemon) (index : Nat)
    (connection : ProcessorConnection) : ProcessorDaemon :=
  { system with connections := system.connections.set index connection }

/-- The loop body behind `read_full`, up to the device. -/
def answerRequest (system : ProcessorDaemon) (index : Nat) (connection : ProcessorConnection)
    (request : ChatRequest) : ProcessorDaemon :=
  match processorValidateRequest request with
  | some response => system.setConnection index { connection with pc := .writing response.toBytes }
  | none =>
    ProcessorDaemon.setConnection
      { system with
        device := { system.device with calls := system.device.calls ++ [⟨request, .opening⟩] } }
      index { connection with pc := .processing request system.device.calls.length }

/-- What is written back when `device_process_message` has returned. -/
def deviceAnswer (request : ChatRequest) (result : Int) (response : ChatResponse) : ChatResponse :=
  if result ≠ 0 then deviceFailed request response else response

/-- One step; `none` when the event cannot happen. -/
def daemonStep (system : ProcessorDaemon) : DaemonEvent → Option ProcessorDaemon
  | .accept => some { system with connections := system.connections ++ [.start] }
  | .send index bytes => do
    let connection ← system.connections[index]?
    if connection.closed then none
    else
      return system.setConnection index
        { connection with
          sent := connection.sent ++ bytes
          unread := connection.unread ++ bytes }
  | .close index => do
    let connection ← system.connections[index]?
    return system.setConnection index { connection with closed := true }
  | .read index count => do
    let connection ← system.connections[index]?
    -- `read` returns at most what was asked for and what has come
    if connection.pc = .reading ∧ 0 < count ∧
        count ≤ sizeofChatRequest - connection.filled.length ∧ count ≤ connection.unread.length then
      let buffer := connection.filled ++ connection.unread.take count
      let connection :=
        { connection with
          unread := connection.unread.drop count
          received := connection.received ++ connection.unread.take count }
      if h : buffer.length = sizeofChatRequest then
        return answerRequest system index { connection with filled := [] } (.ofBytes buffer h)
      else return system.setConnection index { connection with filled := buffer }
    else none
  | .readEnd index failed => do
    let connection ← system.connections[index]?
    if connection.pc = .reading ∧ (failed ∨ (connection.closed ∧ connection.unread = [])) then
      return system.setConnection index { connection with pc := .ended }
    else none
  | .device event => do
    let device ← deviceStep system.device event
    return { system with device := device }
  | .processed index => do
    let connection ← system.connections[index]?
    match connection.pc with
    | .processing request call =>
      match system.device.calls[call]? with
      | some ⟨_, .returned result response⟩ =>
        return system.setConnection index
          { connection with pc := .writing (deviceAnswer request result response).toBytes }
      | _ => none
    | _ => none
  | .write index count => do
    let connection ← system.connections[index]?
    match connection.pc with
    | .writing left =>
      if 0 < count ∧ count ≤ left.length then
        return system.setConnection index
          { connection with
            written := connection.written ++ left.take count
            pc := if count = left.length then .reading else .writing (left.drop count) }
      else none
    | _ => none
  | .writeFailed index => do
    let connection ← system.connections[index]?
    match connection.pc with
    | .writing _ => return system.setConnection index { connection with pc := .ended }
    | _ => none

end ChatSC.Native
