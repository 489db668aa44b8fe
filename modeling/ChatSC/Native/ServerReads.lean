import ChatSC.Native.ServerThreads
import Mathlib.Logic.Function.Basic

/-!
# Reading from the connections (`read_full` in `app/server/server.c`)

A client sends a stream of bytes, and `read_full` calls `read` until a request is filled.  Every
`read` may return fewer bytes than it is asked for; here each of them is a step of its own, between
the steps of `threadedStep`.  A `read` returns 0 only when the client has closed its end and nothing
is left, and `read_full` fails then.

A `write` to a descriptor that a connection has returns, and has written all the bytes; a `write` to
a closed descriptor fails.  So a response comes to its connection whole: that the pieces of two
responses may mix (`writingStep`) is left out here, and so is that a client which does not read holds
up the thread that writes to it (`processStep`).
-/

namespace ChatSC.Native

/-- The bytes of a connection, in both directions. -/
structure ConnectionStream where
  /-- all that the client has sent -/
  sent : List UInt8
  /-- what no `read` has returned yet -/
  unread : List UInt8
  /-- the client has closed its end -/
  closed : Bool
  /-- what the `read_full` under way has put into its buffer; `total` is the length -/
  filled : List UInt8
  /-- the buffers with which `read_full` has returned 0 -/
  blocks : List (List UInt8)
  /-- the responses that were written to the connection -/
  responses : List ChatResponse

/-- A connection before the first byte. -/
def ConnectionStream.start : ConnectionStream := ⟨[], [], false, [], [], []⟩

/-- The server with the bytes of its connections. -/
structure ReadingServer where
  server : ThreadedServer
  streams : Nat → ConnectionStream

/-- The server when it starts. -/
def ReadingServer.start (userDb : List UInt8) : ReadingServer :=
  ⟨.start userDb, fun _ => .start⟩

/-- A step of a client or of the server. -/
inductive ReadingEvent where
  | accept (fd : Nat)
  | send (index : Nat) (bytes : List UInt8)
  | close (index : Nat)
  /-- A `read` of the thread returns a count; `after` is the memory behind its `request`. -/
  | read (index : Nat) (count : Nat) (after : List UInt8)
  /-- A `read` of the thread returns 0. -/
  | readEnd (index : Nat)
  | advance (index : Nat) (access : FileAccess)

/-- The stream of a connection is changed. -/
def ReadingServer.setStream (system : ReadingServer) (index : Nat) (stream : ConnectionStream) :
    ReadingServer :=
  { system with streams := Function.update system.streams index stream }

/-- The thread is at `read_full`. -/
def ReadingServer.atRead (system : ReadingServer) (index : Nat) : Bool :=
  match system.server.threads[index]? with
  | some thread => thread.pc = .reading
  | none => false

/-- `ssize_t count = read(fd, (char *)buffer + total, size - total)` and what follows in the loop. -/
def readSome (system : ReadingServer) (index count : Nat) (after : List UInt8) :
    Option ReadingServer :=
  let stream := system.streams index
  let buffer := stream.filled ++ stream.unread.take count
  let stream := { stream with unread := stream.unread.drop count }
  -- `total < size` no longer holds: `read_full` returns, and the thread has its request
  if h : buffer.length = sizeofChatRequest then
    match threadedStep system.server (.read index (some ⟨.ofBytes buffer h, after⟩)) with
    | none => none
    | some (server, _) =>
      some (ReadingServer.setStream { system with server := server } index
        { stream with filled := [], blocks := stream.blocks ++ [buffer] })
  else some (system.setStream index { stream with filled := buffer })

/-- The outcome of the `write_full` that the thread is before: it fails when the descriptor is
    closed. -/
def ReadingServer.written (system : ReadingServer) (index : Nat) : Bool :=
  match system.server.threads[index]? with
  | some ⟨_, .delivering _ peerFd _⟩ => (holderOf system.server.threads peerFd).isSome
  | _ => true

/-- The responses come to the connections that have the descriptors. -/
def ReadingServer.receive (system : ReadingServer) (writes : List Write) :
    Nat → ConnectionStream := fun connection =>
  let stream := system.streams connection
  let received := writes.filter fun write =>
    holderOf system.server.threads write.clientFd = some connection
  { stream with responses := stream.responses ++ received.map Write.response }

/-- One step; `none` when the event cannot happen. -/
def readingStep (system : ReadingServer) : ReadingEvent → Option ReadingServer
  | .accept fd =>
    match threadedStep system.server (.accept fd) with
    | none => none
    | some (server, _) => some { system with server := server }
  -- a client that has closed its end sends nothing more
  | .send index bytes =>
    let stream := system.streams index
    if index < system.server.threads.length ∧ stream.closed = false then
      some (system.setStream index
        { stream with sent := stream.sent ++ bytes, unread := stream.unread ++ bytes })
    else none
  | .close index =>
    if index < system.server.threads.length then
      some (system.setStream index { system.streams index with closed := true })
    else none
  | .read index count after =>
    let stream := system.streams index
    -- `read` returns at most what was asked for and what has come
    if system.atRead index ∧ 0 < count ∧ count ≤ sizeofChatRequest - stream.filled.length ∧
        count ≤ stream.unread.length then readSome system index count after
    else none
  | .readEnd index =>
    let stream := system.streams index
    -- 0 only at the end of the stream, so that the rest of a block is dropped
    if stream.closed ∧ stream.unread = [] then
      match threadedStep system.server (.read index none) with
      | none => none
      | some (server, _) => some { system with server := server }
    else none
  | .advance index access =>
    match threadedStep system.server (.advance index access (system.written index)) with
    | none => none
    | some (server, writes) => some ⟨server, system.receive writes⟩

end ChatSC.Native
