import ChatSC.ForStd.Blocks
import ChatSC.Native.ServerReads
import ChatSC.Spec.HandlerPieces

/-!
# The blocks of a stream

`StreamInv` counts the blocks of a connection: those with which `read_full` has returned, the part of
the next one in its buffer and what is unread make up what the client has sent, wherever the `read`
calls have cut it.  The acks that the connection got are those of the blocks that are not in hand any
more, so `AnswersBlocks` holds: at rest, all blocks up to the first logout are answered.

There is one lemma for each thing that can happen to a stream: bytes are sent, the client closes, a
`read` returns, and a piece of a handler is made.
-/

namespace ChatSC.Spec

open Native Blocks

/-! ## The blocks of a stream -/

/-- The `message_id` in a block. -/
def messageIdOf (block : List UInt8) : UInt32 := Buffer.readLe32 (Buffer.slice block 0 4)

/-- The block is a logout request. -/
def isLogout (block : List UInt8) : Bool :=
  Buffer.readLe32 (Buffer.slice block 4 4) = RequestType.logout.code

/-- The blocks that a stream makes the thread handle: all whole ones, up to the first logout. -/
def handledBlocks (sent : List UInt8) : List (List UInt8) :=
  upTo isLogout (blocks sizeofChatRequest sent)

/-- The ids of the acks among the responses. -/
def ackIds (responses : List ChatResponse) : List UInt32 :=
  (responses.filter fun response => response.responseType = ResponseType.ack.code).map
    ChatResponse.messageId

/-- Where the thread stands with the blocks that it has read. -/
inductive Place (stream : ConnectionStream) : ThreadPc → Prop
  | reading (hno : ∀ block ∈ stream.blocks, isLogout block = false)
      (hacks : ackIds stream.responses = stream.blocks.map messageIdOf) : Place stream .reading
  | handling {pc request earlier block} (hhand : inHand pc = some request)
      (hfirst : LogoutFirst pc) (hblocks : stream.blocks = earlier ++ [block])
      (hno : ∀ block ∈ earlier, isLogout block = false)
      (hid : request.messageId = messageIdOf block)
      (htype : (request.requestType = RequestType.logout.code) ↔ isLogout block = true)
      (hacks : ackIds stream.responses = earlier.map messageIdOf) : Place stream pc
  | ended {pc} (hpc : HasLeft pc) (hclosed : stream.closed = true) (hunread : stream.unread = [])
      (hno : ∀ block ∈ stream.blocks, isLogout block = false)
      (hacks : ackIds stream.responses = stream.blocks.map messageIdOf) : Place stream pc
  | loggedOut {pc earlier block} (hpc : HasLeft pc) (hblocks : stream.blocks = earlier ++ [block])
      (hno : ∀ block ∈ earlier, isLogout block = false) (hlogout : isLogout block = true)
      (hacks : ackIds stream.responses = stream.blocks.map messageIdOf) : Place stream pc

/-- What every step keeps of a connection. -/
structure StreamInv (stream : ConnectionStream) (pc : ThreadPc) : Prop where
  sent : stream.sent = stream.blocks.flatten ++ (stream.filled ++ stream.unread)
  whole : ∀ block ∈ stream.blocks, block.length = sizeofChatRequest
  short : stream.filled.length < sizeofChatRequest
  place : Place stream pc

/-- The thread has nothing left to do with what the client has sent. -/
def AtRest (stream : ConnectionStream) (pc : ThreadPc) : Prop :=
  (pc = .reading ∧ stream.unread = []) ∨ HasLeft pc

/-- The thread takes the stream as its blocks and answers each of them once, in their order. -/
structure AnswersBlocks (stream : ConnectionStream) (pc : ThreadPc) : Prop where
  blocks : stream.blocks <+: handledBlocks stream.sent
  acks : ackIds stream.responses <+: (handledBlocks stream.sent).map messageIdOf
  all : AtRest stream pc → stream.blocks = handledBlocks stream.sent ∧
    ackIds stream.responses = (handledBlocks stream.sent).map messageIdOf

section Stream

variable {stream : ConnectionStream} {pc : ThreadPc}

/-- The blocks that were read are the first whole ones. -/
theorem StreamInv.blocks_sent (h : StreamInv stream pc) :
    blocks sizeofChatRequest stream.sent =
      stream.blocks ++ blocks sizeofChatRequest (stream.filled ++ stream.unread) := by
  rw [h.sent, (blocks_flatten_append_any (by decide) h.whole).1]

/-- Without a logout the blocks that were read are handled, and the later ones follow. -/
theorem StreamInv.handledBlocks_of_no (h : StreamInv stream pc)
    (hno : ∀ block ∈ stream.blocks, isLogout block = false) :
    handledBlocks stream.sent =
      stream.blocks ++ upTo isLogout (blocks sizeofChatRequest (stream.filled ++ stream.unread)) := by
  rw [handledBlocks, h.blocks_sent, upTo_append hno]

/-- With a logout at their end the blocks that were read are all that are handled. -/
theorem StreamInv.handledBlocks_of_logout (h : StreamInv stream pc) {earlier : List (List UInt8)}
    {block : List UInt8} (hblocks : stream.blocks = earlier ++ [block])
    (hno : ∀ block ∈ earlier, isLogout block = false) (hlogout : isLogout block = true) :
    handledBlocks stream.sent = stream.blocks := by
  rw [handledBlocks, h.blocks_sent, hblocks, List.append_assoc, List.singleton_append,
    upTo_append_cons hno hlogout]

/-- The blocks that were read come first among those that are handled. -/
theorem StreamInv.blocks_first (h : StreamInv stream pc) :
    stream.blocks <+: handledBlocks stream.sent := by
  -- the block in hand may be the logout, which is the last one to be handled
  cases h.place with
  | reading hno => exact ⟨_, (h.handledBlocks_of_no hno).symm⟩
  | @handling _ _ earlier block _ _ hblocks hno =>
    cases hlogout : isLogout block with
    | true => rw [h.handledBlocks_of_logout hblocks hno hlogout]
    | false =>
      refine ⟨_, (h.handledBlocks_of_no ?_).symm⟩
      rw [hblocks]
      intro b hb
      rcases List.mem_append.mp hb with hb | hb
      · exact hno b hb
      · rw [List.mem_singleton.mp hb, hlogout]
  | ended _ _ _ hno => exact ⟨_, (h.handledBlocks_of_no hno).symm⟩
  | loggedOut _ hblocks hno hlogout => rw [h.handledBlocks_of_logout hblocks hno hlogout]

/-- The acks are those of the blocks that were read, but for one that is in hand. -/
theorem Place.acks_first (h : Place stream pc) :
    ackIds stream.responses <+: stream.blocks.map messageIdOf := by
  cases h with
  | reading _ hacks => rw [hacks]
  | handling _ _ hblocks _ _ _ hacks =>
    rw [hacks, hblocks, List.map_append]
    exact List.prefix_append _ _
  | ended _ _ _ _ hacks => rw [hacks]
  | loggedOut _ _ _ _ hacks => rw [hacks]

/-- At rest all blocks are handled and answered. -/
theorem StreamInv.atRest (h : StreamInv stream pc) (hrest : AtRest stream pc) :
    stream.blocks = handledBlocks stream.sent ∧
      ackIds stream.responses = stream.blocks.map messageIdOf := by
  -- nothing is left to read, so all whole blocks have been read
  have hunread : ∀ (_ : stream.unread = []) (_ : ∀ block ∈ stream.blocks, isLogout block = false),
      stream.blocks = handledBlocks stream.sent := by
    intro hunread hno
    rw [h.handledBlocks_of_no hno, hunread, List.append_nil, blocks_of_lt h.short]
    exact (List.append_nil _).symm
  cases h.place with
  | reading hno hacks =>
    rcases hrest with ⟨-, hnone⟩ | hleft
    · exact ⟨hunread hnone hno, hacks⟩
    · rcases hleft with hpc | hpc | hpc <;> cases hpc
  -- a thread with a request in hand is not at rest
  | handling hhand =>
    rcases hrest with ⟨rfl, -⟩ | rfl | rfl | rfl <;> cases hhand
  | ended _ _ hnone hno hacks => exact ⟨hunread hnone hno, hacks⟩
  | loggedOut _ hblocks hno hlogout hacks =>
    exact ⟨(h.handledBlocks_of_logout hblocks hno hlogout).symm, hacks⟩

/-- The invariant gives the property. -/
theorem StreamInv.answersBlocks (h : StreamInv stream pc) : AnswersBlocks stream pc where
  blocks := h.blocks_first
  acks := h.place.acks_first.trans (h.blocks_first.map messageIdOf)
  all := by
    intro hrest
    obtain ⟨hblocks, hacks⟩ := h.atRest hrest
    exact ⟨hblocks, by rw [hacks, ← hblocks]⟩

end Stream

/-! ## Steps of the stream -/

/-- The stream after a `read` that fills a part of the request. -/
def partRead (stream : ConnectionStream) (count : Nat) : ConnectionStream :=
  { stream with
    unread := stream.unread.drop count
    filled := stream.filled ++ stream.unread.take count }

/-- The stream after a `read` that completes the request. -/
def wholeRead (stream : ConnectionStream) (count : Nat) : ConnectionStream :=
  { stream with
    unread := stream.unread.drop count
    filled := []
    blocks := stream.blocks ++ [stream.filled ++ stream.unread.take count] }

section Steps

variable {stream : ConnectionStream} {pc : ThreadPc}

/-- More bytes are sent. -/
theorem StreamInv.send (h : StreamInv stream pc) (hopen : stream.closed = false)
    (bytes : List UInt8) :
    StreamInv { stream with sent := stream.sent ++ bytes, unread := stream.unread ++ bytes } pc where
  sent := by
    show stream.sent ++ bytes = stream.blocks.flatten ++ (stream.filled ++ (stream.unread ++ bytes))
    rw [h.sent]
    simp only [List.append_assoc]
  whole := h.whole
  short := h.short
  place := by
    -- only who left because nothing more could come would have to look
    cases h.place with
    | reading hno hacks => exact .reading hno hacks
    | handling hhand hfirst hblocks hno hid htype hacks =>
      exact .handling hhand hfirst hblocks hno hid htype hacks
    | ended _ hclosed => exact absurd (hclosed.symm.trans hopen) (by decide)
    | loggedOut hpc hblocks hno hlogout hacks => exact .loggedOut hpc hblocks hno hlogout hacks

/-- The client closes its end. -/
theorem StreamInv.close (h : StreamInv stream pc) : StreamInv { stream with closed := true } pc where
  sent := h.sent
  whole := h.whole
  short := h.short
  place := by
    cases h.place with
    | reading hno hacks => exact .reading hno hacks
    | handling hhand hfirst hblocks hno hid htype hacks =>
      exact .handling hhand hfirst hblocks hno hid htype hacks
    | ended hpc _ hunread hno hacks => exact .ended hpc rfl hunread hno hacks
    | loggedOut hpc hblocks hno hlogout hacks => exact .loggedOut hpc hblocks hno hlogout hacks

/-- At `read_full` no block is a logout, and all are answered. -/
theorem Place.of_reading (h : Place stream .reading) :
    (∀ block ∈ stream.blocks, isLogout block = false) ∧
      ackIds stream.responses = stream.blocks.map messageIdOf := by
  cases h with
  | reading hno hacks => exact ⟨hno, hacks⟩
  | handling hhand => cases hhand
  | ended hpc => rcases hpc with hpc | hpc | hpc <;> cases hpc
  | loggedOut hpc => rcases hpc with hpc | hpc | hpc <;> cases hpc

/-- A `read` that does not complete the request. -/
theorem StreamInv.readPart (h : StreamInv stream .reading) {count : Nat}
    (hcount : count ≤ sizeofChatRequest - stream.filled.length)
    (hpart : (stream.filled ++ stream.unread.take count).length ≠ sizeofChatRequest) :
    StreamInv (partRead stream count) .reading where
  sent := by
    show stream.sent = stream.blocks.flatten ++
      (stream.filled ++ stream.unread.take count ++ stream.unread.drop count)
    rw [List.append_assoc stream.filled, List.take_append_drop]
    exact h.sent
  whole := h.whole
  short := by
    show (stream.filled ++ stream.unread.take count).length < sizeofChatRequest
    have hshort := h.short
    -- there is room for what was read, and it does not fill the block
    have htake := List.length_take_le count stream.unread
    rw [List.length_append] at hpart ⊢
    omega
  place := .reading h.place.of_reading.1 h.place.of_reading.2

/-- A `read` that completes the request. -/
theorem StreamInv.readWhole (h : StreamInv stream .reading) {count : Nat} {after : List UInt8}
    (hwhole : (stream.filled ++ stream.unread.take count).length = sizeofChatRequest) :
    StreamInv (wholeRead stream count)
      (.handling ⟨.ofBytes (stream.filled ++ stream.unread.take count) hwhole, after⟩) where
  sent := by
    show stream.sent = (stream.blocks ++ [stream.filled ++ stream.unread.take count]).flatten ++
      ([] ++ stream.unread.drop count)
    rw [List.flatten_append, List.flatten_singleton, List.nil_append, List.append_assoc,
      List.append_assoc stream.filled, List.take_append_drop]
    exact h.sent
  whole := by
    -- the new block is whole, as the earlier ones are
    intro block hblock
    rcases List.mem_append.mp hblock with hblock | hblock
    · exact h.whole block hblock
    · rwa [List.mem_singleton.mp hblock]
  short := show 0 < sizeofChatRequest by decide
  place :=
    .handling rfl trivial rfl h.place.of_reading.1 rfl decide_eq_true_iff.symm h.place.of_reading.2

/-- A `read` that returns 0. -/
theorem StreamInv.readEnd (h : StreamInv stream .reading) (hclosed : stream.closed = true)
    (hunread : stream.unread = []) : StreamInv stream .leaving where
  sent := h.sent
  whole := h.whole
  short := h.short
  place := .ended (.inl rfl) hclosed hunread h.place.of_reading.1 h.place.of_reading.2

theorem ackIds_append (responses responses' : List ChatResponse) :
    ackIds (responses ++ responses') = ackIds responses ++ ackIds responses' := by
  rw [ackIds, List.filter_append, List.map_append]
  rfl

/-- The ids of the acks among the responses that come in. -/
theorem ackIds_received (writes : List Write) (p : Write → Bool) :
    ackIds ((writes.filter p).map Write.response) =
      ((writes.filter IsAck).filter p).map fun write => write.response.messageId := by
  rw [ackIds, List.filter_map, List.map_map, List.filter_filter, List.filter_filter]
  simp only [Bool.and_comm, Function.comp_def]
  rfl

/-- Responses that are no acks come in. -/
theorem StreamInv.receive (h : StreamInv stream pc) {responses : List ChatResponse}
    (hacks : ackIds responses = []) :
    StreamInv { stream with responses := stream.responses ++ responses } pc where
  sent := h.sent
  whole := h.whole
  short := h.short
  place := by
    -- no ack is among them
    have hids : ackIds (stream.responses ++ responses) = ackIds stream.responses := by
      rw [ackIds_append, hacks, List.append_nil]
    cases h.place with
    | reading hno hacks => exact .reading hno (hids.trans hacks)
    | handling hhand hfirst hblocks hno hid htype hacks =>
      exact .handling hhand hfirst hblocks hno hid htype (hids.trans hacks)
    | ended hpc hclosed hunread hno hacks =>
      exact .ended hpc hclosed hunread hno (hids.trans hacks)
    | loggedOut hpc hblocks hno hlogout hacks =>
      exact .loggedOut hpc hblocks hno hlogout (hids.trans hacks)

variable {server : ThreadedServer} {session : ClientSession} {access : FileAccess} {written : Bool}
  {next : ThreadStep}

/-- The one ack of a piece is among what its own connection receives. -/
theorem ackIds_own {request : RequestPtr} {ack : Write} (hto : AckTo session request ack)
    (hwrites : next.writes.filter IsAck = [ack]) {p : Write → Bool}
    (hown : ∀ write : Write, write.clientFd = session.clientFd → p write = true) :
    ackIds (stream.responses ++ (next.writes.filter p).map Write.response) =
      ackIds stream.responses ++ [request.messageId] := by
  rw [ackIds_append, ackIds_received, hwrites, List.filter_singleton, hown ack hto.clientFd,
    ← hto.messageId]
  rfl

/-- A piece of the thread, with the responses that its own connection receives. -/
theorem StreamInv.advance (h : StreamInv stream pc)
    (hnext : advanceThread server ⟨session, pc⟩ access written = some next) {p : Write → Bool}
    (hown : ∀ write : Write, write.clientFd = session.clientFd → p write = true) :
    StreamInv { stream with
      responses := stream.responses ++ (next.writes.filter p).map Write.response }
      next.thread.pc where
  sent := h.sent
  whole := h.whole
  short := h.short
  place := by
    cases h.place with
    | reading => cases hnext
    | @handling _ request earlier block hhand hfirst hblocks hno hid htype hacks =>
      cases handlerPiece hhand hfirst hnext with
      | goesOn hhand' hfirst' _ hwrites =>
        refine .handling hhand' hfirst' hblocks hno hid htype ?_
        rw [hwrites]
        exact (congrArg ackIds (List.append_nil _)).trans hacks
      | reads ack hpc hto hwrites hne =>
        rw [hpc]
        -- the block in hand is answered and joins the earlier ones
        refine .reading ?_ ?_
        · rw [hblocks]
          intro b hb
          rcases List.mem_append.mp hb with hb | hb
          · exact hno b hb
          · rw [List.mem_singleton.mp hb]
            exact Bool.eq_false_iff.mpr fun hlogout => hne (htype.mpr hlogout)
        · rw [ackIds_own hto hwrites hown, hacks, hid, hblocks, List.map_append]
          rfl
      | leaves ack hpc hto hwrites heq =>
        rw [hpc]
        refine .loggedOut (.inl rfl) hblocks hno (htype.mp heq) ?_
        rw [ackIds_own hto hwrites hown, hacks, hid, hblocks, List.map_append]
        rfl
    | ended hpc hclosed hunread hno hacks =>
      obtain ⟨hwrites, -, hleft⟩ := advanceThread_left hpc hnext
      refine .ended hleft hclosed hunread hno ?_
      rw [hwrites]
      exact (congrArg ackIds (List.append_nil _)).trans hacks
    | loggedOut hpc hblocks hno hlogout hacks =>
      obtain ⟨hwrites, -, hleft⟩ := advanceThread_left hpc hnext
      refine .loggedOut hleft hblocks hno hlogout ?_
      rw [hwrites]
      exact (congrArg ackIds (List.append_nil _)).trans hacks

/-- The acks of a piece go to the thread's own connection. -/
theorem Place.acks_own (h : Place stream pc)
    (hnext : advanceThread server ⟨session, pc⟩ access written = some next) {write : Write}
    (hwrite : write ∈ next.writes) (hack : IsAck write) : write.clientFd = session.clientFd := by
  -- a piece that writes an ack writes it to its own client
  have hone : ∀ {request : RequestPtr} {ack : Write}, AckTo session request ack →
      next.writes.filter IsAck = [ack] → write.clientFd = session.clientFd := by
    intro request ack hto hwrites
    have hmem : write ∈ next.writes.filter IsAck :=
      List.mem_filter.mpr ⟨hwrite, decide_eq_true hack⟩
    rw [hwrites] at hmem
    rw [List.mem_singleton.mp hmem]
    exact hto.clientFd
  -- a piece that writes nothing
  have hnone : next.writes = [] → write.clientFd = session.clientFd := by
    intro hwrites
    rw [hwrites] at hwrite
    exact absurd hwrite List.not_mem_nil
  cases h with
  | reading => cases hnext
  | handling hhand hfirst =>
    cases handlerPiece hhand hfirst hnext with
    | goesOn _ _ _ hwrites => exact hnone hwrites
    | reads ack _ hto hwrites => exact hone hto hwrites
    | leaves ack _ hto hwrites => exact hone hto hwrites
  | ended hpc => exact hnone (advanceThread_left hpc hnext).1
  | loggedOut hpc => exact hnone (advanceThread_left hpc hnext).1

/-- Nothing in what another connection receives of the piece is an ack. -/
theorem Place.acks_other (h : Place stream pc)
    (hnext : advanceThread server ⟨session, pc⟩ access written = some next) {p : Write → Bool}
    (hother : ∀ write : Write, write.clientFd = session.clientFd → p write = false) :
    ackIds ((next.writes.filter p).map Write.response) = [] := by
  rw [ackIds_received, List.map_eq_nil_iff, List.filter_eq_nil_iff]
  intro write hwrite hp
  obtain ⟨hmem, hack⟩ := List.mem_filter.mp hwrite
  have hown := h.acks_own hnext hmem (of_decide_eq_true hack)
  exact absurd (hp.symm.trans (hother write hown)) (by decide)

end Steps

end ChatSC.Spec
