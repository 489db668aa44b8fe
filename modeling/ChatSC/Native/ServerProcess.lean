import ChatSC.Native.ServerWrites

/-!
# The server process and clients that go away

As in `ServerWrites` every `write` is a step of its own; here it can also fail, hold its thread up,
or end the process.

* A connection takes only so many bytes that its client has not read yet, `room`.  When it is full,
  `write` does not return, and nothing in `write_full` gives up.
* A client that closes its end is not noticed by the next `write`.  A reset is: the first call that
  meets it fails with `ECONNRESET`, and every `write` behind that fails with `EPIPE`.  When the
  client had closed its end before the reset, already the first `write` fails with `EPIPE`.
* `EPIPE` comes with `SIGPIPE`.  `main` leaves the disposition of the signal as it is and
  `write_full` passes no `MSG_NOSIGNAL`, so the default action is taken: the process ends, with all
  of its threads.
* A `write` to a descriptor that is closed already fails with `EBADF` and raises nothing.

A thread makes a call of `write_full` when it comes to it: the delivery of `handle_chat_request`
when it has looked the descriptor up, the ack when it knows what became of the delivery.
-/

namespace ChatSC.Native

/-- The other end of a connection, as the kernel of the server knows it. -/
inductive PeerEnd where
  | there
  /-- the client has closed its end -/
  | closed
  /-- the connection was reset, and no call has reported it -/
  | reset
  /-- every `write` fails with `EPIPE` -/
  | broken
deriving DecidableEq

/-- The server process with the other ends of its connections. -/
structure ServerProcess where
  server : ThreadedServer
  peer : Nat → PeerEnd
  /-- the bytes that were written to a connection and that its client has not read -/
  unread : Nat → Nat
  /-- the calls of `write_full` that a thread has still to make, the first of them under way -/
  pending : Nat → List WriteFull
  /-- the last call of `write_full` in the piece that the thread is in has returned 0, or -1 -/
  result : Nat → Option Bool
  running : Bool

/-- The process when it starts. -/
def ServerProcess.start (userDb : List UInt8) : ServerProcess where
  server := .start userDb
  peer := fun _ => .there
  unread := fun _ => 0
  pending := fun _ => []
  result := fun _ => none
  running := true

/-- What a client or the network does, a step of a thread, or a `write` of it that may return the
    count. -/
inductive ProcessEvent where
  /-- The client closes its end. -/
  | hangUp (index : Nat)
  /-- A reset of the connection arrives. -/
  | reset (index : Nat)
  /-- The client reads some of what was written to it. -/
  | take (index : Nat) (count : Nat)
  | thread (event : ThreadEvent)
  | write (index : Nat) (count : Nat)

/-- The other end of a connection changes. -/
def ServerProcess.setPeer (process : ServerProcess) (index : Nat) (peer : PeerEnd) :
    ServerProcess :=
  { process with peer := Function.update process.peer index peer }

/-- The thread of the event has made its calls, and goes on with what they returned.  A `read` fails
    only when the client is not there any more. -/
def ServerProcess.ready (process : ServerProcess) : ThreadEvent → Bool
  | .accept _ => true
  | .read index (some _) => (process.pending index).isEmpty
  | .read index none => (process.pending index).isEmpty && decide (process.peer index ≠ .there)
  | .advance index _ written =>
    (process.pending index).isEmpty && (process.result index).all (· = written)

/-- The calls of `write_full` behind a piece of a thread.  A delivery among the writes of the piece
    was made before it. -/
def callsBehind (thread : Option ClientThread) (writes : List Write) : List WriteFull :=
  match thread with
  | some ⟨session, .delivering request peerFd _⟩ =>
    [.enter ⟨peerFd, chatDelivery session request⟩]
  | _ =>
    (writes.filter fun write => write.response.responseType = ResponseType.ack.code).map .enter

/-- A call has reported the reset of the connection, if there was one. -/
def PeerEnd.report : PeerEnd → PeerEnd
  | .reset => .broken
  | peer => peer

/-- The process after a step of a thread. -/
def ServerProcess.after (process : ServerProcess) (event : ThreadEvent) (server : ThreadedServer)
    (writes : List Write) : ServerProcess :=
  match event with
  | .accept _ | .read _ (some _) => { process with server := server }
  | .read index none =>
    ServerProcess.setPeer { process with server := server } index (process.peer index).report
  | .advance index _ _ =>
    { process with
      server := server
      pending := Function.update process.pending index (callsBehind server.threads[index]? writes)
      result := Function.update process.result index none }

/-- The call of `write_full` that is under way returns. -/
def ServerProcess.returns (process : ServerProcess) (index : Nat) (later : List WriteFull)
    (written : Bool) : ServerProcess :=
  { process with
    pending := Function.update process.pending index later
    result := Function.update process.result index (some written) }

/-- `ssize_t count = write(fd, (const char *)buffer + total, size - total)` with a positive count,
    and what follows in the loop. -/
def ServerProcess.writeSome (process : ServerProcess) (index : Nat) (call : WriteFull)
    (later : List WriteFull) (peer count : Nat) : ServerProcess :=
  let process :=
    { process with unread := Function.update process.unread peer (process.unread peer + count) }
  if call.total + count < sizeofChatResponse then
    { process with
      pending := Function.update process.pending index
        ({ call with total := call.total + count } :: later) }
  else process.returns index later true

/-- A `write` to a connection that the server has open. -/
def ServerProcess.writeTo (room : Nat → Nat) (process : ServerProcess) (index : Nat)
    (call : WriteFull) (later : List WriteFull) (peer count : Nat) : Option ServerProcess :=
  match process.peer peer with
  | .there | .closed =>
    -- without room for a byte the call does not return
    if 0 < count ∧ count ≤ sizeofChatResponse - call.total ∧
        process.unread peer + count ≤ room peer then
      some (process.writeSome index call later peer count)
    else none
  -- ECONNRESET
  | .reset => some ((process.setPeer peer .broken).returns index later false)
  -- EPIPE, and SIGPIPE has its default action
  | .broken => some { process with running := false }

/-- One step; `none` when the event cannot happen. -/
def processStep (room : Nat → Nat) (process : ServerProcess) (event : ProcessEvent) :
    Option ServerProcess :=
  if process.running then
    match event with
    | .hangUp index =>
      if index < process.server.threads.length ∧ process.peer index = .there then
        some (process.setPeer index .closed)
      else none
    | .reset index =>
      if index < process.server.threads.length then
        match process.peer index with
        | .there => some (process.setPeer index .reset)
        | .closed => some (process.setPeer index .broken)
        | .reset | .broken => none
      else none
    | .take index count =>
      if process.peer index = .there ∧ 0 < count ∧ count ≤ process.unread index then
        some { process with
          unread := Function.update process.unread index (process.unread index - count) }
      else none
    | .thread event =>
      if process.ready event then
        match threadedStep process.server event with
        | none => none
        | some (server, writes) => some (process.after event server writes)
      else none
    | .write index count =>
      match process.pending index with
      | [] => none
      | call :: later =>
        match holderOf process.server.threads call.fd with
        -- EBADF: `write_full` returns -1
        | none => some (process.returns index later false)
        | some peer => process.writeTo room index call later peer count
  else none

end ChatSC.Native
