import ChatSC.ForStd.Blocks
import ChatSC.Native.ProcessorDaemon
import ChatSC.Spec.DeviceIsolation
import ChatSC.Spec.Processing
import ChatSC.Spec.StreamBlocks
import Mathlib.Data.List.Forall2

/-!
# What the daemon answers

Each connection of the daemon gets one answer for each request that it sends, in their order,
however the bytes are cut into reads and writes and whatever the other connections do
(`answersInOrder_of_run`).  The answer is that of `processorReply`, which has the device to itself:
where no write to the device falls between the write and the read of another call, a call of
`device_process_message` returns what an undisturbed one would (`CallRight`), whether it succeeds or
fails.
-/

namespace ChatSC.Spec

open Native Blocks Records Transition

/-! ## Calls of the device -/

/-- A call of `device_process_message` with nothing in between may return this. -/
def AsAlone (request : ChatRequest) (result : Int) (response : ChatResponse) : Prop :=
  ∃ io driver, (deviceProcessMessage io driver request).2 = (result, response)

/-- What a call has returned, or is about to, an undisturbed one may return. -/
def CallRight (call : DeviceCall) : Prop :=
  match call.pc with
  | .closing result response | .returned result response =>
    AsAlone call.request result response
  | _ => True

section Device

variable {driver driver' : DriverState} {call call' : DeviceCall} {request : ChatRequest}

theorem asAlone_of_responseTo {response : ChatResponse} (h : ResponseTo request response) :
    AsAlone request 0 response := by
  obtain ⟨after, rfl⟩ := h
  refine ⟨⟨true, after, none, none⟩, .init, ?_⟩
  rw [deviceProcessMessage_eq ⟨rfl, rfl, rfl⟩]

/-- A call that cannot open the device. -/
theorem asAlone_failed (pc : CallPc) :
    AsAlone request (-1) (driverError (DeviceCall.mk request pc).initResponse) :=
  ⟨⟨false, [], none, none⟩, .init, rfl⟩

/-- A call whose `read` fails. -/
theorem asAlone_fault (left : ChatResponse) :
    AsAlone request (-1) (driverError left) := by
  refine ⟨⟨true, [], none, some left⟩, .init, ?_⟩
  simp [deviceProcessMessage, chatWrite, chatRead]

theorem callRight_open {opened : Bool} (h : callOpen call opened = some call') :
    call'.request = call.request ∧ CallRight call' := by
  unfold callOpen at h
  split at h
  · split at h
    · cases h
      exact ⟨rfl, trivial⟩
    · cases h
      exact ⟨rfl, asAlone_failed call.pc⟩
  · cases h

theorem callRight_write {after : List UInt8} {fault : Option ChatRequest}
    (h : callWrite driver call after fault = some (driver', call')) :
    call'.request = call.request ∧ CallRight call' := by
  unfold callWrite at h
  -- the request is copied in whole, with a fault, or not at all; only the first goes on
  split at h
  · split at h
    · split at h
      · cases h
        exact ⟨rfl, trivial⟩
      · cases h
        exact ⟨rfl, asAlone_failed call.pc⟩
    · cases h
      exact ⟨rfl, asAlone_failed call.pc⟩
  · cases h

/-- A call that reads: a response is the one to its own request, a failure is any. -/
theorem callRight_read {fault : Option ChatResponse} (hinv : CallInv driver call)
    (h : callRead driver call fault = some call') :
    call'.request = call.request ∧ CallRight call' := by
  have hinv' := callInv_read hinv h
  unfold callRead at h
  split at h
  · -- the processor answers the request that this call wrote
    split at h
    · cases h
      exact ⟨rfl, asAlone_of_responseTo (hinv' rfl)⟩
    · cases h
      exact ⟨rfl, asAlone_failed call.pc⟩
    · cases h
      -- a response that could not be copied out is `EFAULT`, whatever was left in it
      cases fault with
      | none => exact ⟨rfl, asAlone_failed call.pc⟩
      | some left => exact ⟨rfl, asAlone_fault left⟩
  · cases h

theorem callRight_close (hright : CallRight call) (h : callClose call = some call') :
    call'.request = call.request ∧ CallRight call' := by
  unfold callClose at h
  split at h
  · rename_i hpc
    cases h
    refine ⟨rfl, ?_⟩
    simpa only [CallRight, hpc] using hright
  · cases h

/-- What is known of the device: the calls that read get the responses to their requests, and those
    that have ended are as if undisturbed. -/
structure DeviceRight (device : DeviceSystem) : Prop where
  inv : DeviceInv device
  right : ∀ call ∈ device.calls, CallRight call

/-- A step of the device is a new call, or one that goes on with its request. -/
theorem DeviceRight.cases {device device' : DeviceSystem} {event : DeviceEvent}
    (h : DeviceRight device) (hstep : deviceStep device event = some device') :
    (∃ request, device' = { device with calls := device.calls ++ [⟨request, .opening⟩] }) ∨
      ∃ index call call' driver, device.calls[index]? = some call ∧
        call'.request = call.request ∧ CallRight call' ∧
        device' = { device with driver := driver }.setCall index call' := by
  -- one case for each of the five kinds of step
  cases event with
  | call request =>
    cases hstep
    exact .inl ⟨request, rfl⟩
  | «open» index opened =>
    simp only [deviceStep, Option.bind_eq_bind, Option.bind_eq_some_iff, Option.pure_def,
      Option.some.injEq] at hstep
    obtain ⟨call, hget, call', hopen, rfl⟩ := hstep
    obtain ⟨hrequest, hright⟩ := callRight_open hopen
    exact .inr ⟨index, call, call', device.driver, hget, hrequest, hright, rfl⟩
  | write index after fault =>
    simp only [deviceStep, Option.bind_eq_bind, Option.bind_eq_some_iff, Option.pure_def,
      Option.some.injEq] at hstep
    obtain ⟨call, hget, ⟨driver', call'⟩, hwrite, rfl⟩ := hstep
    obtain ⟨hrequest, hright⟩ := callRight_write hwrite
    exact .inr ⟨index, call, call', driver', hget, hrequest, hright, rfl⟩
  | read index fault =>
    simp only [deviceStep, Option.bind_eq_bind, Option.bind_eq_some_iff, Option.pure_def,
      Option.some.injEq] at hstep
    obtain ⟨call, hget, call', hread, rfl⟩ := hstep
    obtain ⟨hrequest, hright⟩ :=
      callRight_read (h.inv call (List.mem_of_getElem? hget)) hread
    exact .inr ⟨index, call, call', device.driver, hget, hrequest, hright, rfl⟩
  | close index =>
    simp only [deviceStep, Option.bind_eq_bind, Option.bind_eq_some_iff, Option.pure_def,
      Option.some.injEq] at hstep
    obtain ⟨call, hget, call', hclose, rfl⟩ := hstep
    obtain ⟨hrequest, hright⟩ :=
      callRight_close (h.right call (List.mem_of_getElem? hget)) hclose
    exact .inr ⟨index, call, call', device.driver, hget, hrequest, hright, rfl⟩

/-- A call keeps its request through the steps of the device. -/
def KeepsRequests (device device' : DeviceSystem) : Prop :=
  ∀ (i : Nat) request pc, device.calls[i]? = some ⟨request, pc⟩ →
    ∃ pc', device'.calls[i]? = some ⟨request, pc'⟩

theorem keepsRequests_concat (device : DeviceSystem) (request : ChatRequest) :
    KeepsRequests device { device with calls := device.calls ++ [⟨request, .opening⟩] } :=
  fun _ _ pc hi => ⟨pc, getElem?_concat_eq_some.mpr (.inr hi)⟩

/-- A step of the device that writes alone. -/
theorem DeviceRight.step {device device' : DeviceSystem} {event : DeviceEvent}
    (h : DeviceRight device) (hok : WritesAlone device event)
    (hstep : deviceStep device event = some device') :
    DeviceRight device' ∧ KeepsRequests device device' := by
  have hinv := h.inv.step hok hstep
  rcases h.cases hstep with ⟨request, rfl⟩ |
    ⟨index, call, call', driver, hget, hrequest, hright, rfl⟩
  · -- a new call has not been answered yet
    refine ⟨⟨hinv, fun other hother => ?_⟩, keepsRequests_concat device request⟩
    rcases List.mem_append.mp hother with hmem | hmem
    · exact h.right other hmem
    · rw [List.mem_singleton.mp hmem]
      trivial
  · -- the call that moved keeps its request, the others all they had
    refine ⟨⟨hinv, fun other hother => ?_⟩, fun i request pc hi => ?_⟩
    · rcases List.mem_or_eq_of_mem_set hother with hmem | rfl
      · exact h.right other hmem
      · exact hright
    · by_cases heq : i = index
      · subst heq
        cases hget.symm.trans hi
        obtain ⟨request', pc'⟩ := call'
        cases hrequest
        exact ⟨pc', (getElem?_set_eq_some hget).mpr (.inl ⟨rfl, rfl⟩)⟩
      · exact ⟨pc, (getElem?_set_eq_some hget).mpr (.inr ⟨heq, hi⟩)⟩

end Device

/-! ## The answers of a connection -/

/-- The answer is what `processorReply`, alone with the device, may answer to the request of the
    block. -/
def ReplyTo (block : List UInt8) (answer : ChatResponse) : Prop :=
  ∃ (h : block.length = sizeofChatRequest) (io : DeviceIo) (driver : DriverState),
    answer = (processorReply io driver (.ofBytes block h)).2

/-- One answer for each block, in order. -/
abbrev RepliesTo : List (List UInt8) → List ChatResponse → Prop := List.Forall₂ ReplyTo

/-- What the client gets for answers. -/
def answerBytes (answers : List ChatResponse) : List UInt8 := answers.flatMap ChatResponse.toBytes

section Answers

variable {request : ChatRequest} {block : List UInt8}

/-- A refusal has the message id of its request. -/
theorem messageId_of_refused {response : ChatResponse}
    (h : processorValidateRequest request = some response) :
    response.messageId = request.messageId := by
  unfold processorValidateRequest at h
  dsimp only at h
  split_ifs at h <;> cases h <;> rfl

/-- The reply to a request that may pass. -/
theorem reply_of_valid (io : DeviceIo) (driver : DriverState)
    (hvalidate : processorValidateRequest request = none) :
    (processorReply io driver request).2 =
      deviceAnswer request (deviceProcessMessage io driver request).2.1
        (deviceProcessMessage io driver request).2.2 := by
  rw [processorReply, hvalidate]
  simp only [deviceAnswer]
  split <;> rfl

/-- A reply has the message id of its request. -/
theorem messageId_processorReply (io : DeviceIo) (driver : DriverState) (request : ChatRequest) :
    (processorReply io driver request).2.messageId = request.messageId := by
  cases hvalidate : processorValidateRequest request with
  | some response =>
    rw [processorReply, hvalidate]
    exact messageId_of_refused hvalidate
  | none =>
    rw [reply_of_valid io driver hvalidate, deviceAnswer]
    split
    · rfl
    · rename_i hresult
      rw [deviceProcessMessage_eq (succeeds_of_result (not_not.mp hresult))]
      rfl

theorem replyTo_of_refused {response : ChatResponse} (hlength : block.length = sizeofChatRequest)
    (hvalidate : processorValidateRequest (.ofBytes block hlength) = some response) :
    ReplyTo block response :=
  ⟨hlength, ⟨true, [], none, none⟩, .init, by rw [processorReply, hvalidate]⟩

theorem replyTo_of_asAlone {result : Int} {response : ChatResponse}
    (hlength : block.length = sizeofChatRequest)
    (hvalidate : processorValidateRequest (.ofBytes block hlength) = none)
    (h : AsAlone (.ofBytes block hlength) result response) :
    ReplyTo block (deviceAnswer (.ofBytes block hlength) result response) := by
  obtain ⟨io, driver, hcall⟩ := h
  refine ⟨hlength, io, driver, ?_⟩
  rw [reply_of_valid io driver hvalidate, hcall]

/-- The answers have the message ids of their blocks, in order. -/
theorem messageIds_of_repliesTo {blocks : List (List UInt8)} {answers : List ChatResponse}
    (h : RepliesTo blocks answers) :
    answers.map ChatResponse.messageId = blocks.map messageIdOf := by
  induction h with
  | nil => rfl
  | cons hanswer _ ih =>
    obtain ⟨hlength, io, driver, rfl⟩ := hanswer
    rw [List.map_cons, List.map_cons, ih, messageId_processorReply]
    rfl

theorem repliesTo_concat {blocks : List (List UInt8)} {answers : List ChatResponse}
    {answer : ChatResponse} (h : RepliesTo blocks answers) (hanswer : ReplyTo block answer) :
    RepliesTo (blocks ++ [block]) (answers ++ [answer]) :=
  List.rel_append h (.cons hanswer .nil)

theorem answerBytes_concat (answers : List ChatResponse) (answer : ChatResponse) :
    answerBytes (answers ++ [answer]) = answerBytes answers ++ answer.toBytes := by
  rw [answerBytes, List.flatMap_append, List.flatMap_singleton, ← answerBytes]

end Answers

/-! ## The place of a connection -/

/-- The requests that the daemon has read whole. -/
abbrev requestBlocks (connection : ProcessorConnection) : List (List UInt8) :=
  blocks sizeofChatRequest connection.received

/-- What the thread of a connection has answered at its place, and what it has still to write. -/
inductive Answering (device : DeviceSystem) (connection : ProcessorConnection)
    (answers : List ChatResponse) : Prop
  | reading (hpc : connection.pc = .reading)
      (hfilled : connection.filled = rest sizeofChatRequest connection.received)
      (hanswers : RepliesTo (requestBlocks connection) answers)
      (hwritten : connection.written = answerBytes answers)
  | processing {answered block request call pc hlength}
      (hpc : connection.pc = .processing request call)
      (hfilled : connection.filled = [])
      (hrest : rest sizeofChatRequest connection.received = [])
      (hrequests : requestBlocks connection = answered ++ [block])
      (hanswers : RepliesTo answered answers)
      (hrequest : request = .ofBytes block hlength)
      (hvalidate : processorValidateRequest request = none)
      (hcall : device.calls[call]? = some ⟨request, pc⟩)
      (hwritten : connection.written = answerBytes answers)
  | writing {left} (hpc : connection.pc = .writing left)
      (hfilled : connection.filled = [])
      (hrest : rest sizeofChatRequest connection.received = [])
      (hanswers : RepliesTo (requestBlocks connection) answers)
      (hwritten : connection.written ++ left = answerBytes answers)
  | ended (hpc : connection.pc = .ended) (hanswers : RepliesTo (requestBlocks connection) answers)
      (hwritten : connection.written <+: answerBytes answers)

/-- Nothing is lost on the way to the thread, and all that it has read is answered in order. -/
structure ConnectionInv (device : DeviceSystem) (connection : ProcessorConnection) : Prop where
  sent : connection.sent = connection.received ++ connection.unread
  answering : ∃ answers, Answering device connection answers

/-- The device and every connection are as they should be. -/
structure DaemonInv (system : ProcessorDaemon) : Prop where
  device : DeviceRight system.device
  connections : ∀ connection ∈ system.connections, ConnectionInv system.device connection

/-- A step writes to the device while no other call is between its write and its read. -/
def DeviceAlone (system : ProcessorDaemon) : DaemonEvent → Prop
  | .device event => WritesAlone system.device event
  | _ => True

instance (system : ProcessorDaemon) : (event : DaemonEvent) → Decidable (DeviceAlone system event)
  | .device event => inferInstanceAs (Decidable (WritesAlone system.device event))
  | .accept | .send _ _ | .close _ | .read _ _ | .readEnd _ _ | .processed _ | .write _ _
  | .writeFailed _ => inferInstanceAs (Decidable True)

section Steps

variable {device device' : DeviceSystem} {connection : ProcessorConnection}
  {system system' : ProcessorDaemon} {index : Nat}

theorem connectionInv_start (device : DeviceSystem) : ConnectionInv device .start where
  sent := rfl
  answering := ⟨[], .reading rfl rfl .nil rfl⟩

theorem daemonInv_start : DaemonInv .start where
  device := ⟨fun _ h => absurd h List.not_mem_nil, fun _ h => absurd h List.not_mem_nil⟩
  connections := fun _ h => absurd h List.not_mem_nil

/-- The device may go on meanwhile. -/
theorem ConnectionInv.device_step (h : ConnectionInv device connection)
    (hkeeps : KeepsRequests device device') : ConnectionInv device' connection := by
  refine ⟨h.sent, ?_⟩
  obtain ⟨answers, hanswering⟩ := h.answering
  refine ⟨answers, ?_⟩
  cases hanswering with
  | reading hpc hfilled hanswers hwritten => exact .reading hpc hfilled hanswers hwritten
  | processing hpc hfilled hrest hrequests hanswers hrequest hvalidate hcall hwritten =>
    obtain ⟨pc', hcall'⟩ := hkeeps _ _ _ hcall
    exact .processing hpc hfilled hrest hrequests hanswers hrequest hvalidate hcall' hwritten
  | writing hpc hfilled hrest hanswers hwritten =>
    exact .writing hpc hfilled hrest hanswers hwritten
  | ended hpc hanswers hwritten => exact .ended hpc hanswers hwritten

/-- A step of one connection. -/
theorem DaemonInv.setConnection (h : DaemonInv system) {connection' : ProcessorConnection}
    (hconnection : ConnectionInv system.device connection') :
    DaemonInv (system.setConnection index connection') where
  device := h.device
  connections := fun _ hother => by
    rcases List.mem_or_eq_of_mem_set hother with hmem | rfl
    · exact h.connections _ hmem
    · exact hconnection

/-- A step of the device, or of another process. -/
theorem DaemonInv.device_step (h : DaemonInv system) (hright : DeviceRight device')
    (hkeeps : KeepsRequests system.device device') :
    DaemonInv { system with device := device' } where
  device := hright
  connections := fun connection hmem => (h.connections connection hmem).device_step hkeeps

/-- A new call of the device. -/
theorem DeviceRight.call (h : DeviceRight device) (request : ChatRequest) :
    DeviceRight { device with calls := device.calls ++ [⟨request, .opening⟩] } ∧
      KeepsRequests device { device with calls := device.calls ++ [⟨request, .opening⟩] } :=
  have halone : WritesAlone device (.call request) := trivial
  h.step halone rfl

/-- The thread has read a part of a request. -/
theorem ConnectionInv.read_part (h : ConnectionInv device connection) {count : Nat}
    (hpc : connection.pc = .reading) (hcount : count ≤ connection.unread.length)
    (hle : count ≤ sizeofChatRequest - connection.filled.length)
    (hne : (connection.filled ++ connection.unread.take count).length ≠ sizeofChatRequest) :
    ConnectionInv device
      { connection with
        unread := connection.unread.drop count
        received := connection.received ++ connection.unread.take count
        filled := connection.filled ++ connection.unread.take count } where
  sent := by rw [List.append_assoc, List.take_append_drop, h.sent]
  answering := by
    obtain ⟨answers, hanswering⟩ := h.answering
    -- the thread reads, so the other stages are excluded
    cases hanswering with
    | processing hpc' | writing hpc' | ended hpc' => cases hpc.symm.trans hpc'
    | reading _ hfilled hanswers hwritten =>
      -- what is there does not fill a block, and neither does what is read now
      have hlt : (rest sizeofChatRequest connection.received).length < sizeofChatRequest := by
        rw [length_rest]
        exact Nat.mod_lt _ (by decide)
      rw [List.length_append, List.length_take, Nat.min_eq_left hcount] at hne
      have hshort : (rest sizeofChatRequest connection.received).length +
          (connection.unread.take count).length < sizeofChatRequest := by
        rw [List.length_take, Nat.min_eq_left hcount]
        rw [hfilled] at hne hle
        omega
      obtain ⟨hblocks, hrest⟩ := blocks_append_of_lt hshort
      refine ⟨answers, .reading hpc ?_ ?_ hwritten⟩
      · rw [hrest, ← hfilled]
      · rw [requestBlocks, hblocks]
        exact hanswers

/-- The thread has read a request whole. -/
theorem DaemonInv.read_whole (h : DaemonInv system)
    (hget : system.connections[index]? = some connection) {count : Nat}
    (hpc : connection.pc = .reading)
    (hlength : (connection.filled ++ connection.unread.take count).length = sizeofChatRequest) :
    DaemonInv (answerRequest system index
      { connection with
        unread := connection.unread.drop count
        received := connection.received ++ connection.unread.take count
        filled := [] } (.ofBytes _ hlength)) := by
  have hinv := h.connections connection (List.mem_of_getElem? hget)
  obtain ⟨answers, hanswering⟩ := hinv.answering
  cases hanswering with
  | processing hpc' | writing hpc' | ended hpc' => cases hpc.symm.trans hpc'
  | reading _ hfilled hanswers hwritten =>
    have hsent : connection.sent =
        connection.received ++ connection.unread.take count ++ connection.unread.drop count := by
      rw [List.append_assoc, List.take_append_drop, hinv.sent]
    have hwhole : (rest sizeofChatRequest connection.received).length +
        (connection.unread.take count).length = sizeofChatRequest := by
      rw [← hfilled, ← List.length_append, hlength]
    obtain ⟨hblocks, hrest⟩ := blocks_append_of_eq (by decide) hwhole
    rw [← hfilled] at hblocks
    cases hvalidate : processorValidateRequest (.ofBytes _ hlength) with
    | some response =>
      -- a refusal: it is the answer, and has still to be written
      rw [answerRequest, hvalidate]
      refine h.setConnection ⟨hsent, answers ++ [response], .writing rfl rfl hrest ?_ ?_⟩
      · rw [requestBlocks, hblocks]
        exact repliesTo_concat hanswers (replyTo_of_refused hlength hvalidate)
      · rw [answerBytes_concat, ← hwritten]
    | none =>
      rw [answerRequest, hvalidate]
      obtain ⟨hright, hkeeps⟩ := h.device.call (.ofBytes _ hlength)
      refine (h.device_step hright hkeeps).setConnection ⟨hsent, answers, ?_⟩
      exact .processing rfl rfl hrest hblocks hanswers rfl hvalidate
        (getElem?_concat_eq_some.mpr (.inl ⟨rfl, rfl⟩)) hwritten

/-- The device has processed the request. -/
theorem ConnectionInv.processed (h : ConnectionInv device connection) (hdevice : DeviceRight device)
    {request request' : ChatRequest} {call : Nat} {result : Int} {response : ChatResponse}
    (hpc : connection.pc = .processing request call)
    (hcall : device.calls[call]? = some ⟨request', .returned result response⟩) :
    ConnectionInv device
      { connection with pc := .writing (deviceAnswer request result response).toBytes } where
  sent := h.sent
  answering := by
    obtain ⟨answers, hanswering⟩ := h.answering
    -- the thread waits for the device, so the other stages are excluded
    cases hanswering with
    | reading hpc' | writing hpc' | ended hpc' => cases hpc.symm.trans hpc'
    | @processing answered block _ _ _ hlength hpc' hfilled hrest hrequests hanswers hrequest
        hvalidate hcall' hwritten =>
      cases hpc.symm.trans hpc'
      -- the call it waits for is the one that returned
      cases hcall.symm.trans hcall'
      have halone : AsAlone request result response :=
        hdevice.right _ (List.mem_of_getElem? hcall)
      subst hrequest
      refine ⟨answers ++ [deviceAnswer (.ofBytes block hlength) result response],
        .writing rfl hfilled hrest ?_ ?_⟩
      · have hreply := replyTo_of_asAlone hlength hvalidate halone
        exact hrequests ▸ repliesTo_concat hanswers hreply
      · rw [answerBytes_concat, ← hwritten]

/-- The thread has written a part of the answer, or the last one. -/
theorem ConnectionInv.write (h : ConnectionInv device connection) {left : List UInt8}
    (hpc : connection.pc = .writing left) (count : Nat) :
    ConnectionInv device
      { connection with
        written := connection.written ++ left.take count
        pc := if count = left.length then .reading else .writing (left.drop count) } where
  sent := h.sent
  answering := by
    obtain ⟨answers, hanswering⟩ := h.answering
    cases hanswering with
    | reading hpc' | processing hpc' | ended hpc' => cases hpc.symm.trans hpc'
    | writing hpc' hfilled hrest hanswers hwritten =>
      cases hpc.symm.trans hpc'
      -- either the whole answer is out, or the rest of it is still to be written
      refine ⟨answers, ?_⟩
      by_cases hall : count = left.length
      · refine .reading (if_pos hall) (hfilled.trans hrest.symm) hanswers ?_
        rw [hall, List.take_length, hwritten]
      · refine .writing (if_neg hall) hfilled hrest hanswers ?_
        rw [List.append_assoc, List.take_append_drop, hwritten]

/-- The thread has left its loop. -/
theorem ConnectionInv.ended (h : ConnectionInv device connection)
    (hpc : connection.pc = .reading ∨ ∃ left, connection.pc = .writing left) :
    ConnectionInv device { connection with pc := .ended } where
  sent := h.sent
  answering := by
    obtain ⟨answers, hanswering⟩ := h.answering
    refine ⟨answers, ?_⟩
    cases hanswering with
    -- between two requests everything has been answered
    | reading _ _ hanswers hwritten =>
      exact .ended rfl hanswers (hwritten ▸ List.prefix_rfl)
    -- an answer that breaks off is a part of the last one
    | writing _ _ _ hanswers hwritten =>
      exact .ended rfl hanswers (hwritten ▸ List.prefix_append _ _)
    | ended _ hanswers hwritten => exact .ended rfl hanswers hwritten
    -- a thread that waits for the device leaves nothing
    | processing hpc' =>
      rcases hpc with hpc | ⟨left, hpc⟩ <;> cases hpc.symm.trans hpc'

/-- Every change of a connection that its thread does not make. -/
theorem ConnectionInv.client (h : ConnectionInv device connection) (bytes : List UInt8)
    (closed : Bool) :
    ConnectionInv device
      { connection with
        sent := connection.sent ++ bytes
        unread := connection.unread ++ bytes
        closed := closed } where
  sent := by rw [h.sent, List.append_assoc]
  answering := by
    obtain ⟨answers, hanswering⟩ := h.answering
    -- none of the stages says anything about what is still to arrive
    refine ⟨answers, ?_⟩
    cases hanswering with
    | reading hpc hfilled hanswers hwritten => exact .reading hpc hfilled hanswers hwritten
    | processing hpc hfilled hrest hrequests hanswers hrequest hvalidate hcall hwritten =>
      exact .processing hpc hfilled hrest hrequests hanswers hrequest hvalidate hcall hwritten
    | writing hpc hfilled hrest hanswers hwritten =>
      exact .writing hpc hfilled hrest hanswers hwritten
    | ended hpc hanswers hwritten => exact .ended hpc hanswers hwritten

/-- Every step that writes to the device alone. -/
theorem DaemonInv.step {event : DaemonEvent} (h : DaemonInv system)
    (hok : DeviceAlone system event) (hstep : daemonStep system event = some system') :
    DaemonInv system' := by
  have hget {index : Nat} {connection : ProcessorConnection}
      (hget : system.connections[index]? = some connection) :
      ConnectionInv system.device connection := h.connections connection (List.mem_of_getElem? hget)
  cases event with
  -- a new connection has sent and received nothing
  | accept =>
    cases hstep
    refine ⟨h.device, fun connection hmem => ?_⟩
    rcases List.mem_append.mp hmem with hmem | hmem
    · exact h.connections connection hmem
    · rw [List.mem_singleton.mp hmem]
      exact connectionInv_start system.device
  -- bytes of the client go to the end of what it has sent
  | send index bytes =>
    simp only [daemonStep, Option.bind_eq_bind, Option.bind_eq_some_iff, Option.pure_def] at hstep
    obtain ⟨connection, hindex, hstep⟩ := hstep
    split at hstep
    · cases hstep
    · cases hstep
      exact h.setConnection ((hget hindex).client bytes connection.closed)
  | close index =>
    simp only [daemonStep, Option.bind_eq_bind, Option.bind_eq_some_iff, Option.pure_def,
      Option.some.injEq] at hstep
    obtain ⟨connection, hindex, rfl⟩ := hstep
    have hclosed := (hget hindex).client [] true
    simp only [List.append_nil] at hclosed
    exact h.setConnection hclosed
  -- a `read` fills a block or does not
  | read index count =>
    simp only [daemonStep, Option.bind_eq_bind, Option.bind_eq_some_iff, Option.pure_def] at hstep
    obtain ⟨connection, hindex, hstep⟩ := hstep
    split at hstep
    · rename_i hcond
      obtain ⟨hpc, -, hle, hcount⟩ := hcond
      split at hstep
      · rename_i hwhole
        cases hstep
        exact h.read_whole hindex hpc hwhole
      · rename_i hne
        cases hstep
        exact h.setConnection ((hget hindex).read_part hpc hcount hle hne)
    · cases hstep
  -- a `read` that ends the loop
  | readEnd index failed =>
    simp only [daemonStep, Option.bind_eq_bind, Option.bind_eq_some_iff, Option.pure_def] at hstep
    obtain ⟨connection, hindex, hstep⟩ := hstep
    split at hstep
    · rename_i hcond
      cases hstep
      exact h.setConnection ((hget hindex).ended (.inl hcond.1))
    · cases hstep
  -- the device moves for some other call, and the connections wait as before
  | device event =>
    simp only [daemonStep, Option.bind_eq_bind, Option.bind_eq_some_iff, Option.pure_def,
      Option.some.injEq] at hstep
    obtain ⟨device, hdevice, rfl⟩ := hstep
    obtain ⟨hright, hkeeps⟩ := h.device.step hok hdevice
    exact h.device_step hright hkeeps
  -- the call of the connection has returned
  | processed index =>
    simp only [daemonStep, Option.bind_eq_bind, Option.bind_eq_some_iff, Option.pure_def] at hstep
    obtain ⟨connection, hindex, hstep⟩ := hstep
    split at hstep
    · rename_i hpc
      split at hstep
      · rename_i hcall
        cases hstep
        exact h.setConnection ((hget hindex).processed h.device hpc hcall)
      · cases hstep
    · cases hstep
  -- a `write` takes the whole answer or a part
  | write index count =>
    simp only [daemonStep, Option.bind_eq_bind, Option.bind_eq_some_iff, Option.pure_def] at hstep
    obtain ⟨connection, hindex, hstep⟩ := hstep
    split at hstep
    · rename_i hpc
      split at hstep
      · cases hstep
        exact h.setConnection ((hget hindex).write hpc count)
      · cases hstep
    · cases hstep
  | writeFailed index =>
    simp only [daemonStep, Option.bind_eq_bind, Option.bind_eq_some_iff, Option.pure_def] at hstep
    obtain ⟨connection, hindex, hstep⟩ := hstep
    split at hstep
    · rename_i hpc
      cases hstep
      exact h.setConnection ((hget hindex).ended (.inr ⟨_, hpc⟩))
    · cases hstep

end Steps

/-! ## The whole run -/

/-- All requests of the connection but the last one at most are answered, in order, and what has
    been written is the beginning of the answers: all of them when the thread waits. -/
structure AnsweredBy (connection : ProcessorConnection) (answers : List ChatResponse) : Prop where
  replies : RepliesTo ((requestBlocks connection).take answers.length) answers
  all_but_one : (requestBlocks connection).length ≤ answers.length + 1
  ids : answers.map ChatResponse.messageId <+: (requestBlocks connection).map messageIdOf
  written : connection.written <+: answerBytes answers
  waiting : connection.pc = .reading → answers.length = (requestBlocks connection).length ∧
    connection.written = answerBytes answers

/-- What a connection has sent is read in order, and answered in order. -/
structure AnswersInOrder (connection : ProcessorConnection) : Prop where
  sent : connection.sent = connection.received ++ connection.unread
  answered : ∃ answers, AnsweredBy connection answers

/-- A connection whose requests are all answered. -/
theorem answeredBy_of_all {connection : ProcessorConnection} {answers : List ChatResponse}
    (hanswers : RepliesTo (requestBlocks connection) answers)
    (hwritten : connection.written <+: answerBytes answers)
    (hreading : connection.pc = .reading → connection.written = answerBytes answers) :
    AnsweredBy connection answers where
  replies := by rwa [List.take_of_length_le (Nat.le_of_eq hanswers.length_eq)]
  all_but_one := Nat.le_succ_of_le (Nat.le_of_eq hanswers.length_eq)
  ids := by rw [messageIds_of_repliesTo hanswers]
  written := hwritten
  waiting := fun hpc => ⟨hanswers.length_eq.symm, hreading hpc⟩

theorem ConnectionInv.answersInOrder {device : DeviceSystem} {connection : ProcessorConnection}
    (h : ConnectionInv device connection) : AnswersInOrder connection where
  sent := h.sent
  answered := by
    obtain ⟨answers, hanswering⟩ := h.answering
    refine ⟨answers, ?_⟩
    cases hanswering with
    | reading _ _ hanswers hwritten =>
      exact answeredBy_of_all hanswers (hwritten ▸ List.prefix_rfl) fun _ => hwritten
    | writing hpc _ _ hanswers hwritten =>
      exact answeredBy_of_all hanswers (hwritten ▸ List.prefix_append _ _) fun hpc' =>
        nomatch hpc.symm.trans hpc'
    | ended hpc hanswers hwritten =>
      exact answeredBy_of_all hanswers hwritten fun hpc' => nomatch hpc.symm.trans hpc'
    | processing hpc _ _ hrequests hanswers _ _ _ hwritten =>
      -- the device has the last request in hand
      have hlength := hanswers.length_eq
      refine ⟨?_, ?_, ?_, hwritten ▸ List.prefix_rfl, fun hpc' => nomatch hpc.symm.trans hpc'⟩
      · rwa [hrequests, ← hlength, List.take_left' rfl]
      · rw [hrequests, List.length_append, hlength]
        exact Nat.le_refl _
      · rw [hrequests, List.map_append, messageIds_of_repliesTo hanswers]
        exact List.prefix_append _ _

theorem daemonInv_of_run {events : List DaemonEvent} {system : ProcessorDaemon}
    (hrun : run daemonStep .start events = some system)
    (hok : Guarded daemonStep DeviceAlone .start events) : DaemonInv system :=
  run_invariant_of_guarded (fun _ _ _ hinv hok hstep => hinv.step hok hstep) daemonInv_start hok hrun

/-- **A daemon answers every connection in order**, and each request as if the device had worked for
    it alone, in every run in which no write to the device falls between the write and the read of
    another call. -/
theorem answersInOrder_of_run {events : List DaemonEvent} {system : ProcessorDaemon}
    (hrun : run daemonStep .start events = some system)
    (hok : Guarded daemonStep DeviceAlone .start events) :
    ∀ connection ∈ system.connections, AnswersInOrder connection :=
  fun connection hmem => ((daemonInv_of_run hrun hok).connections connection hmem).answersInOrder

/-- A request that needs no other fields. -/
def logoutRequest : ChatRequest :=
  { ChatRequest.zero with
    messageId := 7
    requestType := RequestType.logout.code
    mode := ProcessingMode.substitution.code }

/-- A logout, cut into two reads, and another process that encrypts in between; a second connection
    sends a request that is refused. -/
def daemonEvents : List DaemonEvent :=
  [.accept, .accept,
    .send 0 logoutRequest.toBytes,
    .send 1 ({ ChatRequest.zero with messageId := 8 } : ChatRequest).toBytes,
    .read 0 100, .device (.call (encryptRequest 1 "a")), .read 1 sizeofChatRequest,
    .device (.open 0 true), .device (.write 0 [] none), .read 0 (sizeofChatRequest - 100),
    .device (.read 0 none), .device (.open 1 true), .device (.write 1 [] none),
    .write 1 20, .device (.read 1 none), .device (.close 1), .processed 0,
    .write 0 sizeofChatResponse]

theorem answersInOrder_logout : ∃ connection,
    ((run daemonStep .start daemonEvents).bind fun system => system.connections[0]?) =
        some connection ∧
      connection.written.length = sizeofChatResponse ∧ AnswersInOrder connection := by
  have hconnection : (((run daemonStep .start daemonEvents).bind fun system =>
      system.connections[0]?).map fun connection => connection.written.length) =
        some sizeofChatResponse := by decide +kernel
  obtain ⟨connection, hget, hwritten⟩ := Option.map_eq_some_iff.mp hconnection
  refine ⟨connection, hget, hwritten, ?_⟩
  obtain ⟨system, hrun, hindex⟩ := Option.bind_eq_some_iff.mp hget
  exact answersInOrder_of_run hrun (by decide +kernel) connection (List.mem_of_getElem? hindex)

/-! ## The remote backend -/

/-- A list of as many bytes as one request is that request. -/
theorem blocks_toBytes (request : ChatRequest) :
    blocks sizeofChatRequest request.toBytes = [request.toBytes] := by
  have hcons : blocks sizeofChatRequest (request.toBytes ++ []) =
      request.toBytes :: blocks sizeofChatRequest [] := blocks_cons (by decide) request.length_toBytes
  rwa [List.append_nil, blocks_of_lt (by decide : ([] : List UInt8).length < _)] at hcons

/-- One request was sent and one answer has come back: it is the reply to that request. -/
theorem AnswersInOrder.reply {connection : ProcessorConnection} (h : AnswersInOrder connection)
    {request : ChatRequest} (hsent : connection.sent = request.toBytes)
    (hwritten : connection.written.length = sizeofChatResponse) :
    ∃ io driver, connection.written = (processorReply io driver request).2.toBytes := by
  obtain ⟨answers, hanswers⟩ := h.answered
  have hprefix : connection.received <+: request.toBytes := ⟨_, (hsent.symm.trans h.sent).symm⟩
  -- something was written, so there is an answer, and the request was read for it
  have hne : answers ≠ [] := by
    rintro rfl
    rw [List.prefix_nil.mp hanswers.written] at hwritten
    exact absurd hwritten (by decide)
  have hreceived : connection.received = request.toBytes := by
    have hblocks : requestBlocks connection ≠ [] := by
      intro hnil
      have hreplies := hanswers.replies
      rw [hnil, List.take_nil] at hreplies
      cases hreplies
      exact hne rfl
    refine hprefix.eq_of_length (Nat.le_antisymm hprefix.length_le (Nat.le_of_not_lt fun hlt => ?_))
    exact hblocks (blocks_of_lt (by rwa [request.length_toBytes] at hlt))
  obtain ⟨answer, hanswer, hreply⟩ : ∃ answer, answers = [answer] ∧
      ReplyTo request.toBytes answer := by
    have hreplies := hanswers.replies
    rw [requestBlocks, hreceived, blocks_toBytes] at hreplies
    cases answers with
    | nil => exact absurd rfl hne
    | cons answer answers =>
      rw [List.length_cons, List.take_succ_cons, List.take_nil] at hreplies
      cases hreplies with
      | cons hreply hnil =>
        cases hnil
        exact ⟨answer, rfl, hreply⟩
  obtain ⟨hlength, io, driver, rfl⟩ := hreply
  rw [request.ofBytes_toBytes] at hanswer
  refine ⟨io, driver, ?_⟩
  have hwhole := hanswers.written
  rw [hanswer, answerBytes, List.flatMap_singleton] at hwhole
  exact hwhole.eq_of_length (hwritten.trans (ChatResponse.length_toBytes _).symm)

/-- **`remote_process_message` is one step** for its caller: what a daemon at work writes back to a
    client that sends one request is what the model of the call, in which nothing comes in between,
    puts into `*response`. -/
theorem remoteProcessMessage_of_run {events : List DaemonEvent} {system : ProcessorDaemon}
    (hrun : run daemonStep .start events = some system)
    (hok : Guarded daemonStep DeviceAlone .start events) {connection : ProcessorConnection}
    (hmem : connection ∈ system.connections) {request : ChatRequest}
    (hsent : connection.sent = request.toBytes)
    (hwritten : connection.written.length = sizeofChatResponse) :
    ∃ deviceIo driver driver' response, connection.written = response.toBytes ∧
      remoteProcessMessage ⟨true, true, none⟩ deviceIo driver request = (driver', 0, response) := by
  have hanswers := ((daemonInv_of_run hrun hok).connections connection hmem).answersInOrder
  obtain ⟨io, driver, hreply⟩ := hanswers.reply hsent hwritten
  exact ⟨io, driver, _, _, hreply, rfl⟩

theorem remoteProcessMessage_logout : ∃ connection deviceIo driver driver' response,
    ((run daemonStep .start daemonEvents).bind fun system => system.connections[0]?) =
        some connection ∧
      connection.written = response.toBytes ∧
      remoteProcessMessage ⟨true, true, none⟩ deviceIo driver logoutRequest =
        (driver', 0, response) := by
  have hconnection : (((run daemonStep .start daemonEvents).bind fun system =>
      system.connections[0]?).map fun connection =>
        (connection.sent, connection.written.length)) =
        some (logoutRequest.toBytes, sizeofChatResponse) := by decide +kernel
  obtain ⟨connection, hget, hvalue⟩ := Option.map_eq_some_iff.mp hconnection
  obtain ⟨hsent, hwritten⟩ := Prod.mk.inj hvalue
  -- the run is evaluated; the theorem does the rest
  obtain ⟨system, hrun, hindex⟩ := Option.bind_eq_some_iff.mp hget
  obtain ⟨deviceIo, driver, driver', response, hresponse, hremote⟩ :=
    remoteProcessMessage_of_run hrun (by decide +kernel) (List.mem_of_getElem? hindex) hsent
      hwritten
  exact ⟨connection, deviceIo, driver, driver', response, hget, hresponse, hremote⟩

end ChatSC.Spec
