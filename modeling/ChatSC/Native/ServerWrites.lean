import ChatSC.Native.ServerThreads
import Mathlib.Logic.Function.Basic

/-!
# Writing to the connections (`write_full` in `app/server/server.c`)

`write_full` calls `write` until all the bytes of a response are written, and every `write` may take
fewer than it is given.  Nothing keeps two threads from writing to one descriptor at the same time:
here every `write` is a step of its own, between the steps of `threadedStep`.  A thread makes the
`write_full` calls of its last piece one after the other before it goes on.

No `write` fails here, so `write_full` returns 0.  A `write` to a descriptor that no connection has
would fail.
-/

namespace ChatSC.Native

/-- A call of `write_full`: its arguments and `total`. -/
structure WriteFull where
  fd : Nat
  response : ChatResponse
  total : Nat
deriving DecidableEq

/-- The call before its loop. -/
def WriteFull.enter (write : Write) : WriteFull := ⟨write.clientFd, write.response, 0⟩

/-- The server with the writes of its threads. -/
structure WritingServer where
  server : ThreadedServer
  /-- the calls that a thread has still to make, the first of them under way -/
  pending : Nat → List WriteFull
  /-- what the client of a connection gets -/
  received : Nat → List UInt8
  /-- all the calls that were ever made -/
  passed : List Write

/-- The server when it starts. -/
def WritingServer.start (userDb : List UInt8) : WritingServer :=
  ⟨.start userDb, fun _ => [], fun _ => [], []⟩

/-- A step of the server, or a `write` of one of its threads that returns a count. -/
inductive WritingEvent where
  | thread (event : ThreadEvent)
  | write (index : Nat) (count : Nat)

/-- The thread of the event has made its calls, and they have returned 0. -/
def WritingServer.ready (system : WritingServer) : ThreadEvent → Bool
  | .accept _ => true
  | .read index _ => (system.pending index).isEmpty
  | .advance index _ written => (system.pending index).isEmpty && written

/-- The calls of the threads after a step that makes some. -/
def WritingServer.makeCalls (system : WritingServer) (event : ThreadEvent) (writes : List Write) :
    Nat → List WriteFull :=
  match event with
  | .advance index _ _ => Function.update system.pending index (writes.map .enter)
  | _ => system.pending

/-- `ssize_t count = write(fd, (const char *)buffer + total, size - total)` and what follows in the
    loop. -/
def writeCall (system : WritingServer) (index : Nat) (call : WriteFull) (later : List WriteFull)
    (peer count : Nat) : WritingServer :=
  let bytes := Buffer.slice call.response.toBytes call.total count
  let call := { call with total := call.total + count }
  { system with
    pending := Function.update system.pending index
      (if call.total < sizeofChatResponse then call :: later else later)
    received := Function.update system.received peer (system.received peer ++ bytes) }

/-- One step; `none` when the event cannot happen. -/
def writingStep (system : WritingServer) : WritingEvent → Option WritingServer
  | .thread event =>
    if system.ready event then
      match threadedStep system.server event with
      | none => none
      | some (server, writes) =>
        some { system with
          server := server
          pending := system.makeCalls event writes
          passed := system.passed ++ writes }
    else none
  | .write index count =>
    match system.pending index with
    | [] => none
    | call :: later =>
      match holderOf system.server.threads call.fd with
      | none => none
      | some peer =>
        if 0 < count ∧ count ≤ sizeofChatResponse - call.total then
          some (writeCall system index call later peer count)
        else none

end ChatSC.Native
